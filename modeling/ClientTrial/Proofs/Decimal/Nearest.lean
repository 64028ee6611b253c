import Mathlib

/-!
# The floating-point number nearest to a rational

The 64-bit numbers near a positive rational stand on a grid whose step is a power of two.
The number that a calculation rounds to is told by the rational alone: it is the multiple
of the step that is nearest, of two equally near ones the even.  So two calculations whose
exact results are the same come to the same number.

## Main definitions

* `OnGrid` — the step of the numbers around a rational.
* `IsNearest` — a natural number is nearest to a rational, a half going to the even neighbour.
* `settled` — a multiple of the step as a number.
* `Describes` — what the last bits of a calculation tell of the exact result.

## Main results

* `OnGrid.unique`, `IsNearest.unique` — the rational tells both.
* `nearest_of_roundWithAccuracy` — what a calculation rounds to.
* `nearest_of_mul`, `nearest_of_div` — what products and quotients round to.
-/

namespace ClientTrial
namespace Decimal

open Float.Model (Format totalExponent)
open Float.Model.UnpackedFloat

/-! ### The grid -/

/-- Around a positive rational the numbers are the multiples of a power of two. -/
structure OnGrid (v : ℚ) (e : ℤ) : Prop where
  least : -1074 ≤ e
  fits : v < 2 ^ (e + 53)
  fills : e = -1074 ∨ 2 ^ (e + 52) ≤ v

theorem two_zpow_le {a b : ℤ} (h : a ≤ b) : (2 : ℚ) ^ a ≤ 2 ^ b :=
  zpow_le_zpow_right₀ (by norm_num) h

theorem lt_of_two_zpow_lt {a b : ℤ} (h : (2 : ℚ) ^ a < 2 ^ b) : a < b :=
  (zpow_lt_zpow_iff_right₀ (by norm_num)).1 h

/-- The leading place of a natural number. -/
theorem two_pow_log2_le {m : ℕ} (hm : m ≠ 0) : (2 : ℚ) ^ m.log2 ≤ m := by
  exact_mod_cast Nat.log2_self_le hm

theorem succ_le_two_pow_log2 (m : ℕ) : (m : ℚ) + 1 ≤ 2 ^ (m.log2 + 1) := by
  exact_mod_cast (Nat.lt_log2_self : m < 2 ^ (m.log2 + 1))

theorem OnGrid.unique {v : ℚ} {e f : ℤ} (he : OnGrid v e) (hf : OnGrid v f) : e = f := by
  -- a finer grid holds only what is too small for a coarser one
  have finest {e f : ℤ} (he : OnGrid v e) (hf : OnGrid v f) : ¬e < f := by
    intro hlt
    rcases hf.fills with hmin | hfills
    · have hleast := he.least
      omega
    · have hstep : (2 : ℚ) ^ (f + 52) < 2 ^ (e + 53) := lt_of_le_of_lt hfills he.fits
      have hexp := lt_of_two_zpow_lt hstep
      omega
  have hle := finest hf he
  have hge := finest he hf
  omega

theorem exists_onGrid {v : ℚ} (hv : 0 < v) : ∃ e, OnGrid v e := by
  refine ⟨max (Int.log 2 v - 52) (-1074), le_max_right _ _, ?_, ?_⟩
  · have hlt := Int.lt_zpow_succ_log_self (b := 2) (by norm_num) v
    refine lt_of_lt_of_le hlt (two_zpow_le ?_)
    have hle := le_max_left (Int.log 2 v - 52) (-1074)
    omega
  · rcases le_total (Int.log 2 v - 52) (-1074) with h | h
    · exact .inl (max_eq_right h)
    · right
      rw [max_eq_left h, sub_add_cancel]
      exact Int.zpow_log_le_self (by norm_num) hv

/-! ### The nearest natural number -/

/-- A natural number is nearest to a rational; of two equally near ones it is the even. -/
def IsNearest (q : ℚ) (n : ℕ) : Prop := |q - n| < 1 / 2 ∨ |q - n| = 1 / 2 ∧ n % 2 = 0

theorem IsNearest.within {q : ℚ} {n : ℕ} (h : IsNearest q n) : |q - n| ≤ 1 / 2 := by
  rcases h with h | ⟨h, -⟩
  · exact h.le
  · exact h.le

theorem IsNearest.unique {q : ℚ} {n m : ℕ} (hn : IsNearest q n) (hm : IsNearest q m) : n = m := by
  have ordered {n m : ℕ} (hn : IsNearest q n) (hm : IsNearest q m) : ¬n < m := by
    intro hlt
    obtain ⟨-, hup⟩ := abs_le.1 hn.within
    obtain ⟨hdown, -⟩ := abs_le.1 hm.within
    have hone : (n : ℚ) + 1 ≤ m := by exact_mod_cast hlt
    -- the two are neighbours and equally near, so both would have to be even
    have hhalf : q - n = 1 / 2 := by linarith
    have hnext : (m : ℚ) = n + 1 := by linarith
    have hother : q - m = -(1 / 2) := by linarith
    have hm' : m = n + 1 := by exact_mod_cast hnext
    rcases hn with h | ⟨-, heven⟩
    · rw [hhalf] at h
      norm_num at h
    rcases hm with h | ⟨-, heven'⟩
    · rw [hother] at h
      norm_num at h
    omega
  have hle := ordered hm hn
  have hge := ordered hn hm
  omega

theorem isNearest_natCast (n : ℕ) : IsNearest (n : ℚ) n := by
  left
  norm_num

/-- What is nearest to something below a natural number does not exceed it. -/
theorem IsNearest.le_of_lt {q : ℚ} {n bound : ℕ} (h : IsNearest q n) (hq : q < bound) :
    n ≤ bound := by
  obtain ⟨hdown, -⟩ := abs_le.1 h.within
  have hlt : (n : ℚ) < bound + 1 := by linarith
  have hnat : n < bound + 1 := by exact_mod_cast hlt
  omega

/-! ### The last bits -/

/-- What the last bits of a calculation tell of its exact result. -/
def Describes (em : ExtendedMantissa) (q : ℚ) : Prop :=
  match em.roundBit, em.stickyBit with
  | false, false => q = em.mantissa
  | false, true => (em.mantissa : ℚ) < q ∧ q < em.mantissa + 1 / 2
  | true, false => q = em.mantissa + 1 / 2
  | true, true => (em.mantissa : ℚ) + 1 / 2 < q ∧ q < em.mantissa + 1

/-- A shift by one place tells of half of the result. -/
theorem Describes.shiftRightOne {em : ExtendedMantissa} {q : ℚ} (h : Describes em q) :
    Describes em.shiftRightOne (q / 2) := by
  obtain ⟨m, r, s⟩ := em
  have hdiv : (m : ℚ) = 2 * (m / 2 : ℕ) + (m % 2 : ℕ) := by
    exact_mod_cast (Nat.div_add_mod m 2).symm
  -- the last place of the mantissa becomes the round bit, the two bits before the sticky bit
  rcases Nat.mod_two_eq_zero_or_one m with hbit | hbit <;> rw [hbit] at hdiv <;>
    push_cast at hdiv <;> cases r <;> cases s <;>
    simp only [Describes, ExtendedMantissa.shiftRightOne, hbit, Bool.or_self, Bool.or_true,
      Bool.or_false] at h ⊢
  · have hq : q = m := h
    change q / 2 = (m / 2 : ℕ)
    linarith
  · obtain ⟨hlow, hhigh⟩ := h
    exact ⟨by linarith, by linarith⟩
  · have hq : q = m + 1 / 2 := h
    exact ⟨by linarith, by linarith⟩
  · obtain ⟨hlow, hhigh⟩ := h
    exact ⟨by linarith, by linarith⟩
  · have hq : q = m := h
    change q / 2 = (m / 2 : ℕ) + 1 / 2
    linarith
  · obtain ⟨hlow, hhigh⟩ := h
    exact ⟨by linarith, by linarith⟩
  · have hq : q = m + 1 / 2 := h
    exact ⟨by linarith, by linarith⟩
  · obtain ⟨hlow, hhigh⟩ := h
    exact ⟨by linarith, by linarith⟩

theorem Describes.shiftRight {em : ExtendedMantissa} {q : ℚ} (h : Describes em q) (k : ℕ) :
    Describes (em >>> k) (q / 2 ^ k) := by
  change Describes (k.repeat ExtendedMantissa.shiftRightOne em) (q / 2 ^ k)
  induction k with
  | zero => simpa [Nat.repeat] using h
  | succ k ih =>
    have hnext := ih.shiftRightOne
    rw [div_div, ← pow_succ] at hnext
    exact hnext

/-- The mantissa is rounded to the natural number nearest to what the bits tell of. -/
theorem Describes.isNearest {em : ExtendedMantissa} {q : ℚ} (h : Describes em q) :
    IsNearest q em.roundedMantissa := by
  obtain ⟨m, r, s⟩ := em
  cases r <;> cases s
  · have hq : q = m := h
    rw [hq]
    exact isNearest_natCast m
  · obtain ⟨hlow, hhigh⟩ : (m : ℚ) < q ∧ q < m + 1 / 2 := h
    left
    change |q - (m : ℚ)| < 1 / 2
    rw [abs_of_pos (by linarith)]
    linarith
  · have hq : q = m + 1 / 2 := h
    right
    have hrounded : ExtendedMantissa.roundedMantissa ⟨m, true, false⟩ = m + m % 2 := rfl
    rw [hrounded, hq]
    rcases Nat.mod_two_eq_zero_or_one m with hbit | hbit
    · rw [hbit, Nat.add_zero, add_sub_cancel_left]
      exact ⟨abs_of_pos (by norm_num), hbit⟩
    · rw [hbit]
      push_cast
      have hdiff : (m : ℚ) + 1 / 2 - (m + 1) = -(1 / 2) := by ring
      rw [hdiff, abs_neg]
      exact ⟨abs_of_pos (by norm_num), by omega⟩
  · obtain ⟨hlow, hhigh⟩ : (m : ℚ) + 1 / 2 < q ∧ q < m + 1 := h
    left
    change |q - ((m + 1 : ℕ) : ℚ)| < 1 / 2
    push_cast
    rw [abs_of_neg (by linarith)]
    linarith

/-- A mantissa and an accuracy tell of a result. -/
def Tells (m : ℕ) (acc : Accuracy) (q : ℚ) : Prop :=
  Describes (ExtendedMantissa.ofMantissaAndAccuracy m acc) q

theorem tells_exact (m : ℕ) : Tells m .exact m := rfl

theorem Tells.within {m : ℕ} {acc : Accuracy} {q : ℚ} (h : Tells m acc q) :
    (m : ℚ) ≤ q ∧ q < m + 1 := by
  cases acc with
  | exact =>
    have hq : q = m := h
    exact ⟨by linarith, by linarith⟩
  | inexact o =>
    cases o with
    | lt =>
      obtain ⟨hlow, hhigh⟩ : (m : ℚ) < q ∧ q < m + 1 / 2 := h
      exact ⟨by linarith, by linarith⟩
    | eq =>
      have hq : q = m + 1 / 2 := h
      exact ⟨by linarith, by linarith⟩
    | gt =>
      obtain ⟨hlow, hhigh⟩ : (m : ℚ) + 1 / 2 < q ∧ q < m + 1 := h
      exact ⟨by linarith, by linarith⟩

theorem quotient_add_rest (num : ℕ) {den : ℕ} (hden : 0 < den) :
    (num : ℚ) / den = (num / den : ℕ) + ((num % den : ℕ) : ℚ) / den := by
  have hpos : (0 : ℚ) < den := by exact_mod_cast hden
  have hdiv : (num : ℚ) = den * (num / den : ℕ) + (num % den : ℕ) := by
    exact_mod_cast (Nat.div_add_mod num den).symm
  rw [add_div' _ _ _ hpos.ne', mul_comm, ← hdiv]

/-- The remainder of a division tells of the quotient. -/
theorem tells_quotient (num : ℕ) {den : ℕ} (hden : 0 < den) :
    Tells (num / den) (accuracyOfFraction (num % den) den) ((num : ℚ) / den) := by
  have hpos : (0 : ℚ) < den := by exact_mod_cast hden
  have hlt : ((num % den : ℕ) : ℚ) < den := by exact_mod_cast Nat.mod_lt num hden
  rw [quotient_add_rest num hden]
  unfold accuracyOfFraction
  by_cases hzero : num % den = 0
  · rw [if_pos hzero, hzero, Nat.cast_zero, zero_div, add_zero]
    exact tells_exact _
  rw [if_neg hzero]
  have hrest : (0 : ℚ) < ((num % den : ℕ) : ℚ) / den := by
    have hsome : (0 : ℚ) < (num % den : ℕ) := by exact_mod_cast Nat.pos_of_ne_zero hzero
    positivity
  have hone : ((num % den : ℕ) : ℚ) / den < 1 := (div_lt_one hpos).2 hlt
  rcases Nat.lt_trichotomy (2 * (num % den)) den with h | h | h
  · rw [Nat.compare_eq_lt.2 h]
    have hhalf : ((num % den : ℕ) : ℚ) / den < 1 / 2 := by
      rw [div_lt_div_iff₀ hpos (by norm_num)]
      have hcast : (2 : ℚ) * (num % den : ℕ) < den := by exact_mod_cast h
      linarith
    change ((num / den : ℕ) : ℚ) < _ ∧ _ < ((num / den : ℕ) : ℚ) + 1 / 2
    exact ⟨by linarith, by linarith⟩
  · rw [Nat.compare_eq_eq.2 h]
    have hhalf : ((num % den : ℕ) : ℚ) / den = 1 / 2 := by
      rw [div_eq_div_iff hpos.ne' (by norm_num)]
      have hcast : (2 : ℚ) * (num % den : ℕ) = den := by exact_mod_cast h
      linarith
    change ((num / den : ℕ) : ℚ) + ((num % den : ℕ) : ℚ) / den = (num / den : ℕ) + 1 / 2
    rw [hhalf]
  · rw [Nat.compare_eq_gt.2 h]
    have hhalf : 1 / 2 < ((num % den : ℕ) : ℚ) / den := by
      rw [div_lt_div_iff₀ (by norm_num) hpos]
      have hcast : (den : ℚ) < 2 * (num % den : ℕ) := by exact_mod_cast h
      linarith
    change ((num / den : ℕ) : ℚ) + 1 / 2 < _ ∧ _ < ((num / den : ℕ) : ℚ) + 1
    exact ⟨by linarith, by linarith⟩

/-! ### What a calculation rounds to -/

/-- A multiple of the step as a number.  The largest multiple belongs to the next coarser grid. -/
def settled (n : ℕ) (e : ℤ) : Float.Model.UnpackedFloat :=
  if h : n = 0 then .zero .positive
  else if n < 2 ^ 53 then .finite .positive n e (Nat.pos_of_ne_zero h)
  else .finite .positive (2 ^ 52) (e + 1) (by norm_num)

theorem targetExponent_eq (total : ℤ) :
    Format.binary64.targetExponent total = max (total - 53) (-1074) := rfl

theorem shiftToTargetExponent_eq (m : ℕ) (e : ℤ) (acc : Accuracy) :
    shiftToTargetExponent Format.binary64 m e acc =
      (ExtendedMantissa.ofMantissaAndAccuracy m acc >>>
        (Format.binary64.targetExponent (totalExponent m e) - e).toNat,
        e + ((Format.binary64.targetExponent (totalExponent m e) - e).toNat : ℤ)) := rfl

/-- A mantissa and an exponent that are fine enough are shifted to the grid. -/
theorem shift_of_onGrid {v : ℚ} {m : ℕ} {e f : ℤ} {acc : Accuracy}
    (htells : Tells m acc (v / 2 ^ e)) (hgrid : OnGrid v f) (hfine : e ≤ f) :
    ∃ em, shiftToTargetExponent Format.binary64 m e acc = (em, f) ∧ Describes em (v / 2 ^ f) := by
  have hstep : (0 : ℚ) < 2 ^ e := by positivity
  obtain ⟨hlow, hhigh⟩ := htells.within
  rw [le_div_iff₀ hstep] at hlow
  rw [div_lt_iff₀ hstep] at hhigh
  -- the mantissa has all the leading places of the result
  have hbelow : v < 2 ^ ((m.log2 : ℤ) + 1 + e) := by
    have hpow : (2 : ℚ) ^ ((m.log2 : ℤ) + 1 + e) = 2 ^ (m.log2 + 1) * 2 ^ e := by
      rw [zpow_add₀ (by norm_num)]
      norm_cast
    rw [hpow]
    exact lt_of_lt_of_le hhigh (mul_le_mul_of_nonneg_right (succ_le_two_pow_log2 m) hstep.le)
  have habove (hm : m ≠ 0) : (2 : ℚ) ^ ((m.log2 : ℤ) + e) ≤ v := by
    have hpow : (2 : ℚ) ^ ((m.log2 : ℤ) + e) = 2 ^ m.log2 * 2 ^ e := by
      rw [zpow_add₀ (by norm_num)]
      norm_cast
    rw [hpow]
    exact le_trans (mul_le_mul_of_nonneg_right (two_pow_log2_le hm) hstep.le) hlow
  set target := max ((m.log2 : ℤ) + 1 + e - 53) (-1074) with htarget
  have hmax := max_choice ((m.log2 : ℤ) + 1 + e - 53) (-1074)
  have hleft := le_max_left ((m.log2 : ℤ) + 1 + e - 53) (-1074)
  have hright := le_max_right ((m.log2 : ℤ) + 1 + e - 53) (-1074)
  rw [← htarget] at hmax hleft hright
  have hreached : e + ((target - e).toNat : ℤ) = f := by
    by_cases hcoarse : e ≤ target
    · have hon : OnGrid v target := by
        refine ⟨hright, lt_of_lt_of_le hbelow (two_zpow_le (by omega)), ?_⟩
        rcases Nat.eq_zero_or_pos m with hm | hm
        · left
          rw [hm, Nat.log2_zero] at hmax
          omega
        · rcases hmax with h | h
          · right
            refine le_trans (two_zpow_le ?_) (habove hm.ne')
            omega
          · exact .inl h
      have hsame := hon.unique hgrid
      omega
    · -- a finer grid than needed would have to be the finest
      exfalso
      rcases hgrid.fills with hmin | hfills
      · omega
      · have hexp := lt_of_two_zpow_lt (lt_of_le_of_lt hfills hbelow)
        omega
  refine ⟨ExtendedMantissa.ofMantissaAndAccuracy m acc >>> (target - e).toNat, ?_, ?_⟩
  · have htotal : Format.binary64.targetExponent (totalExponent m e) = target :=
      targetExponent_eq _
    rw [shiftToTargetExponent_eq, htotal, hreached]
  · have hshifted := Describes.shiftRight htells (target - e).toNat
    have hpow : (2 : ℚ) ^ f = 2 ^ e * 2 ^ (target - e).toNat := by
      rw [← hreached, zpow_add₀ (by norm_num)]
      norm_cast
    rw [hpow, ← div_div]
    exact hshifted

/-- A mantissa that fits stays as it is. -/
theorem shift_of_lt {n : ℕ} {f : ℤ} (hn : n < 2 ^ 53) (hf : -1074 ≤ f) :
    shiftToTargetExponent Format.binary64 n f .exact = (⟨n, false, false⟩, f) := by
  have hlog : n.log2 ≤ 52 := by
    rcases Nat.eq_zero_or_pos n with hzero | hpos
    · simp [hzero]
    · have hlt := (Nat.log2_lt hpos.ne').2 hn
      omega
  have htarget : (Format.binary64.targetExponent (totalExponent n f) - f).toNat = 0 := by
    rw [targetExponent_eq, totalExponent]
    omega
  rw [shiftToTargetExponent_eq, htarget]
  simp [HShiftRight.hShiftRight, Nat.repeat, ExtendedMantissa.ofMantissaAndAccuracy]

/-- A mantissa that was rounded up to the next power of two is halved. -/
theorem shift_of_carry {f : ℤ} (hf : -1074 ≤ f) :
    shiftToTargetExponent Format.binary64 (2 ^ 53) f .exact = (⟨2 ^ 52, false, false⟩, f + 1) := by
  have htarget : (Format.binary64.targetExponent (totalExponent (2 ^ 53) f) - f).toNat = 1 := by
    rw [targetExponent_eq, totalExponent, Nat.log2_two_pow]
    push_cast
    omega
  rw [shiftToTargetExponent_eq, htarget]
  rfl

/-- A calculation whose bits tell of its exact result rounds to the nearest multiple of the step. -/
theorem nearest_of_roundWithAccuracy {v : ℚ} {m : ℕ} {e f : ℤ} {acc : Accuracy}
    (htells : Tells m acc (v / 2 ^ e)) (hgrid : OnGrid v f) (hfine : e ≤ f) :
    ∃ n, IsNearest (v / 2 ^ f) n ∧
      roundWithAccuracy Format.binary64 .positive m e acc = settled n f := by
  obtain ⟨em, hshift, hdescribes⟩ := shift_of_onGrid htells hgrid hfine
  have hnearest := hdescribes.isNearest
  have hbound : em.roundedMantissa ≤ 2 ^ 53 := by
    refine hnearest.le_of_lt ?_
    have hstep : (0 : ℚ) < 2 ^ f := by positivity
    have hpow : (2 : ℚ) ^ (f + 53) = ((2 ^ 53 : ℕ) : ℚ) * 2 ^ f := by
      rw [add_comm, zpow_add₀ (by norm_num)]
      norm_cast
    rw [div_lt_iff₀ hstep, ← hpow]
    exact hgrid.fits
  refine ⟨em.roundedMantissa, hnearest, ?_⟩
  unfold roundWithAccuracy
  rw [hshift]
  dsimp only
  rcases Nat.lt_or_eq_of_le hbound with hlt | heq
  · rw [shift_of_lt hlt hgrid.least, settled]
    dsimp only
    split
    · rfl
    · rfl
  · rw [heq, shift_of_carry hgrid.least]
    rfl

/-! ### Products and quotients -/

/-- A product whose factors are fine enough rounds to the number nearest to the exact product. -/
theorem nearest_of_mul {v : ℚ} {m n : ℕ} {d e f : ℤ} (hm : 0 < m) (hn : 0 < n)
    (hv : v = m * 2 ^ d * (n * 2 ^ e)) (hgrid : OnGrid v f) (hfine : d + e ≤ f) :
    ∃ k, IsNearest (v / 2 ^ f) k ∧
      mul Format.binary64 (.finite .positive m d hm) (.finite .positive n e hn) = settled k f := by
  have htells : Tells (m * n) .exact (v / 2 ^ (d + e)) := by
    have hexact : v / 2 ^ (d + e) = ((m * n : ℕ) : ℚ) := by
      rw [hv, zpow_add₀ (by norm_num), div_eq_iff (by positivity)]
      push_cast
      ring
    rw [hexact]
    exact tells_exact _
  exact nearest_of_roundWithAccuracy htells hgrid hfine

/-- A quotient rounds to the number nearest to the exact quotient. -/
theorem nearest_of_div {v : ℚ} {m n : ℕ} {d e f : ℤ} (hm : 0 < m) (hn : 0 < n)
    (hv : v = m * 2 ^ d / (n * 2 ^ e)) (hgrid : OnGrid v f) :
    ∃ k, IsNearest (v / 2 ^ f) k ∧
      div Format.binary64 (.finite .positive m d hm) (.finite .positive n e hn) = settled k f := by
  set target := min (d - e) (Format.binary64.targetExponent (totalExponent m d - totalExponent n e))
    with htarget
  have hdivided : div Format.binary64 (.finite .positive m d hm) (.finite .positive n e hn) =
      roundWithAccuracy Format.binary64 .positive ((m <<< (d - e - target).toNat) / n) target
        (accuracyOfFraction ((m <<< (d - e - target).toNat) % n) n) := rfl
  have hnpos : (0 : ℚ) < n := by exact_mod_cast hn
  have htells : Tells ((m <<< (d - e - target).toNat) / n)
      (accuracyOfFraction ((m <<< (d - e - target).toNat) % n) n) (v / 2 ^ target) := by
    have hle : target ≤ d - e := min_le_left _ _
    have hquotient : v / 2 ^ target = ((m <<< (d - e - target).toNat : ℕ) : ℚ) / n := by
      have hshift : d = target + e + ((d - e - target).toNat : ℤ) := by omega
      rw [hv, Nat.shiftLeft_eq]
      push_cast
      conv_lhs => rw [hshift]
      rw [zpow_add₀ (by norm_num), zpow_add₀ (by norm_num), zpow_natCast]
      field_simp
    rw [hquotient]
    exact tells_quotient _ hn
  have hfine : target ≤ f := by
    refine le_trans (min_le_right _ _) ?_
    rw [targetExponent_eq, totalExponent, totalExponent]
    have hleast := hgrid.least
    -- the quotient is at least half of what the leading places make of it
    have hlow : (2 : ℚ) ^ ((m.log2 : ℤ) + d - (n.log2 + 1) - e) < 2 ^ (f + 53) := by
      have hlogm := two_pow_log2_le hm.ne'
      have hlogn : (n : ℚ) ≤ 2 ^ (n.log2 + 1) := by linarith [succ_le_two_pow_log2 n]
      refine lt_of_le_of_lt ?_ hgrid.fits
      rw [hv, le_div_iff₀ (by positivity)]
      have hpow : (2 : ℚ) ^ ((m.log2 : ℤ) + d - (n.log2 + 1) - e) * 2 ^ (n.log2 + 1) * 2 ^ e =
          2 ^ m.log2 * 2 ^ d := by
        rw [← zpow_natCast, ← zpow_natCast, ← zpow_add₀ (by norm_num), ← zpow_add₀ (by norm_num),
          ← zpow_add₀ (by norm_num)]
        congr 1
        push_cast
        ring
      calc (2 : ℚ) ^ ((m.log2 : ℤ) + d - (n.log2 + 1) - e) * (n * 2 ^ e)
          ≤ 2 ^ ((m.log2 : ℤ) + d - (n.log2 + 1) - e) * (2 ^ (n.log2 + 1) * 2 ^ e) := by gcongr
        _ = 2 ^ m.log2 * 2 ^ d := by rw [← mul_assoc, hpow]
        _ ≤ m * 2 ^ d := by gcongr
    have hexp := lt_of_two_zpow_lt hlow
    omega
  rw [hdivided]
  exact nearest_of_roundWithAccuracy htells hgrid hfine

end Decimal
end ClientTrial
