/-!
# Natural numbers in decimal digits

## Main definitions

* `digits n` — the decimal digits of a natural number, without leading zeros.
* `padded width n` — the same, filled with zeros to a width.
* `ofDigits?` — the number that a list of digits denotes.
* `mostDigits` — how many digits a number may be read from, or written with.

## Main results

* `ofDigits?_digits` — the digits of a number denote that number.
-/

namespace ClientTrial
namespace Decimal

/-- The decimal digits of a natural number; `0` for zero. -/
def digits (n : Nat) : List Char :=
  if n < 10 then [Char.ofNat (48 + n)] else digits (n / 10) ++ [Char.ofNat (48 + n % 10)]

/-- The digits of a natural number with zeros in front up to the given width. -/
def padded (width n : Nat) : List Char :=
  let ds := digits n
  List.replicate (width - ds.length) '0' ++ ds

/-- The value of one ASCII digit. -/
def digit? (c : Char) : Option Nat :=
  if 48 ≤ c.toNat ∧ c.toNat ≤ 57 then some (c.toNat - 48) else none

/-- The number that digits denote after the digits of `acc`. -/
def ofDigitsFrom? (acc : Nat) : List Char → Option Nat
  | [] => some acc
  | c :: rest => (digit? c).bind fun d => ofDigitsFrom? (10 * acc + d) rest

/-- The number that a non-empty list of digits denotes. -/
def ofDigits? (ds : List Char) : Option Nat :=
  if ds.isEmpty then none else ofDigitsFrom? 0 ds

/-- How many digits a whole number may have where its text is read or written. -/
def mostDigits : Nat := 4300

/-! ### Reading back -/

theorem ofDigitsFrom?_append (acc : Nat) (xs ys : List Char) :
    ofDigitsFrom? acc (xs ++ ys) = (ofDigitsFrom? acc xs).bind fun n => ofDigitsFrom? n ys := by
  induction xs generalizing acc with
  | nil => rfl
  | cons c rest ih =>
    simp only [List.cons_append, ofDigitsFrom?, Option.bind_assoc]
    cases digit? c <;> simp [ih]

theorem digit?_ofNat {d : Nat} (h : d < 10) : digit? (Char.ofNat (48 + d)) = some d := by
  have : d = 0 ∨ d = 1 ∨ d = 2 ∨ d = 3 ∨ d = 4 ∨ d = 5 ∨ d = 6 ∨ d = 7 ∨ d = 8 ∨ d = 9 := by omega
  rcases this with rfl | rfl | rfl | rfl | rfl | rfl | rfl | rfl | rfl | rfl <;> decide

theorem digits_ne_nil (n : Nat) : digits n ≠ [] := by
  unfold digits
  split <;> simp

theorem ofDigitsFrom?_digits (n : Nat) : ofDigitsFrom? 0 (digits n) = some n := by
  induction n using Nat.strongRecOn with
  | _ n ih =>
    unfold digits
    split
    · next h => simp [ofDigitsFrom?, digit?_ofNat h]
    · next h =>
      rw [ofDigitsFrom?_append, ih (n / 10) (by omega)]
      simp only [Option.bind_some, ofDigitsFrom?, digit?_ofNat (Nat.mod_lt n (by decide : 0 < 10))]
      congr 1
      omega

/-- The digits of a number denote that number. -/
theorem ofDigits?_digits (n : Nat) : ofDigits? (digits n) = some n := by
  unfold ofDigits?
  rw [if_neg (by simpa using digits_ne_nil n)]
  exact ofDigitsFrom?_digits n

end Decimal
end ClientTrial
