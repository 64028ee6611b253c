import ClientTrial.Decimal.Reading
import ClientTrial.Proofs.Decimal.Digits
import ClientTrial.Proofs.Decimal.Nearest
import ClientTrial.Proofs.Decimal.Packed

/-!
# The number that a numeral is read as

A numeral is read by one of two calculations.  Digits that fit a significand and a small
power of ten are multiplied or divided as numbers; anything else is rounded from the exact
value.  Both come to the number nearest to the value of the numeral, for the first rounds
once as well, both of its operands being exact.

## Main definitions

* `Numeral.value` — the rational that a numeral denotes.
* `Rounds` — the number nearest to a rational.

## Main results

* `Rounds.unique` — there is one number nearest to a rational.
* `rounds_ofScientific` — digits and a power of ten are read as the number nearest.
* `Numeral.rounds_toFloat` — a numeral within reach is read as the number nearest.
-/

namespace ClientTrial
namespace Decimal

open Float.Model (Format UnpackedFloat totalExponent)
open Float.Model.UnpackedFloat

/-- The rational that a numeral denotes. -/
def Numeral.value (x : Numeral) : ℚ := x.coefficient * 10 ^ x.exponent

/-- A number is nearest to a positive rational. -/
def Rounds (v : ℚ) (x : Float) : Prop :=
  ∃ n e, OnGrid v e ∧ IsNearest (v / 2 ^ e) n ∧ x = .ofModel (.pack (settled n e))

theorem Rounds.unique {v : ℚ} {x y : Float} (hx : Rounds v x) (hy : Rounds v y) : x = y := by
  obtain ⟨n, e, hgrid, hnearest, rfl⟩ := hx
  obtain ⟨m, f, hgrid', hnearest', rfl⟩ := hy
  obtain rfl := hgrid.unique hgrid'
  obtain rfl := hnearest.unique hnearest'
  rfl

/-- A calculation that comes to the nearest multiple of the step rounds. -/
theorem rounds_of_settled {v : ℚ} {f : ℤ} {u : UnpackedFloat} (hgrid : OnGrid v f)
    (h : ∃ k, IsNearest (v / 2 ^ f) k ∧ u = settled k f) : Rounds v (.ofModel (.pack u)) := by
  obtain ⟨k, hnearest, rfl⟩ := h
  exact ⟨k, f, hgrid, hnearest, rfl⟩

/-- What is far from the largest number rounds to a finite one. -/
theorem Rounds.isFinite {v : ℚ} {x : Float} (h : Rounds v x) (hv : v < 2 ^ (1000 : ℤ)) :
    x.isFinite = true := by
  obtain ⟨n, e, ⟨hleast, hfits, hfills⟩, hnearest, rfl⟩ := h
  have hstep : (0 : ℚ) < 2 ^ e := by positivity
  have hmost : e ≤ 970 := by
    rcases hfills with rfl | hfills
    · decide
    · have hexp := lt_of_two_zpow_lt (lt_of_le_of_lt hfills hv)
      omega
  unfold settled
  split
  · decide +kernel
  · next hne =>
    split
    · next hlt =>
      have hcanonical : Binary.IsCanonical n e := by
        refine ⟨hleast, by omega, lt_of_lt_of_eq hlt (by norm_num), hfills.imp_right fun hge => ?_⟩
        have hlow : (4503599627370496 : ℚ) ≤ v / 2 ^ e := by
          rw [le_div_iff₀ hstep]
          rw [add_comm, zpow_add₀ (by norm_num)] at hge
          norm_num at hge
          exact hge
        have hnear := (abs_le.1 hnearest.within).2
        have hcast : (4503599627370495 : ℚ) < n := by linarith
        have hnat : 4503599627370495 < n := by exact_mod_cast hcast
        exact hnat
      exact Binary.isFinite_of_ofFloat
        (Binary.ofFloat_pack hcanonical false (Nat.pos_of_ne_zero hne))
    · have hcanonical : Binary.IsCanonical (2 ^ 52) (e + 1) :=
        ⟨by omega, by omega, by norm_num, .inr (by norm_num)⟩
      exact Binary.isFinite_of_ofFloat (Binary.ofFloat_pack hcanonical false (by norm_num))

/-- A magnitude is the quotient that it is printed from. -/
theorem Binary.numerator_div_denominator (n : ℕ) (e : ℤ) :
    (Binary.numerator n e : ℚ) / Binary.denominator e = n * 2 ^ e := by
  have hpos : (0 : ℚ) < Binary.denominator e := by exact_mod_cast Binary.denominator_pos e
  rw [div_eq_iff hpos.ne', mul_assoc]
  have hsplit : (2 : ℚ) ^ e * Binary.denominator e = 2 ^ e.toNat := by
    change (2 : ℚ) ^ e * ((2 ^ (-e).toNat : ℕ) : ℚ) = 2 ^ e.toNat
    push_cast
    rw [← zpow_natCast, ← zpow_natCast, ← zpow_add₀ (by norm_num)]
    congr 1
    omega
  rw [hsplit]
  change ((n * 2 ^ e.toNat : ℕ) : ℚ) = _
  push_cast
  rfl

/-! ### Products and quotients of numbers -/

section Operands

variable {x y : Float} {m n : ℕ} {d e : ℤ}

/-- A product of normal numbers is the number nearest to the exact product. -/
theorem rounds_mul (hx : Binary.ofFloat x = .finite false m d)
    (hy : Binary.ofFloat y = .finite false n e) (hm : 2 ^ 52 ≤ m) (hn : 2 ^ 52 ≤ n) :
    Rounds (m * 2 ^ d * (n * 2 ^ e)) (x * y) := by
  have hmpos : 0 < m := lt_of_lt_of_le (by norm_num) hm
  have hnpos : 0 < n := lt_of_lt_of_le (by norm_num) hn
  have hmrat : (0 : ℚ) < m := by exact_mod_cast hmpos
  have hnrat : (0 : ℚ) < n := by exact_mod_cast hnpos
  obtain ⟨f, hgrid⟩ := exists_onGrid (v := m * 2 ^ d * (n * 2 ^ e)) (by positivity)
  have hfine : d + e ≤ f := by
    have hm52 : (2 : ℚ) ^ (52 : ℤ) ≤ m := by exact_mod_cast hm
    have hn52 : (2 : ℚ) ^ (52 : ℤ) ≤ n := by exact_mod_cast hn
    have hbelow : (2 : ℚ) ^ (52 + d + (52 + e)) < 2 ^ (f + 53) := by
      refine lt_of_le_of_lt ?_ hgrid.fits
      rw [zpow_add₀ (by norm_num), zpow_add₀ (by norm_num) 52 d, zpow_add₀ (by norm_num) 52 e]
      gcongr
    have hexp := lt_of_two_zpow_lt hbelow
    omega
  have hmul : x * y = .ofModel (.pack (mul Format.binary64 x.toModel.unpack y.toModel.unpack)) :=
    rfl
  rw [hmul, Binary.unpack_of_ofFloat hx hmpos, Binary.unpack_of_ofFloat hy hnpos]
  exact rounds_of_settled hgrid (nearest_of_mul hmpos hnpos rfl hgrid hfine)

/-- A quotient of positive numbers is the number nearest to the exact quotient. -/
theorem rounds_div (hx : Binary.ofFloat x = .finite false m d)
    (hy : Binary.ofFloat y = .finite false n e) (hm : 0 < m) (hn : 0 < n) :
    Rounds (m * 2 ^ d / (n * 2 ^ e)) (x / y) := by
  have hmrat : (0 : ℚ) < m := by exact_mod_cast hm
  have hnrat : (0 : ℚ) < n := by exact_mod_cast hn
  obtain ⟨f, hgrid⟩ := exists_onGrid (v := m * 2 ^ d / (n * 2 ^ e)) (by positivity)
  have hdiv : x / y = .ofModel (.pack (div Format.binary64 x.toModel.unpack y.toModel.unpack)) :=
    rfl
  rw [hdiv, Binary.unpack_of_ofFloat hx hm, Binary.unpack_of_ofFloat hy hn]
  exact rounds_of_settled hgrid (nearest_of_div hm hn rfl hgrid)

end Operands

/-! ### The operands that are exact -/

/-- Doubled until it fills a significand, a natural number still fits. -/
theorem doubled_bounds {m : ℕ} (hpos : 0 < m) (hm : m < 2 ^ 53) :
    2 ^ 52 ≤ m * 2 ^ (52 - m.log2) ∧ m * 2 ^ (52 - m.log2) < 2 ^ 53 := by
  have hlog : m.log2 < 53 := (Nat.log2_lt hpos.ne').2 hm
  have hlow : 2 ^ m.log2 ≤ m := Nat.log2_self_le hpos.ne'
  have hhigh : m < 2 ^ (m.log2 + 1) := Nat.lt_log2_self
  constructor
  · calc 2 ^ 52 = 2 ^ m.log2 * 2 ^ (52 - m.log2) := by rw [← pow_add]; congr 1; omega
      _ ≤ m * 2 ^ (52 - m.log2) := Nat.mul_le_mul_right _ hlow
  · calc m * 2 ^ (52 - m.log2) < 2 ^ (m.log2 + 1) * 2 ^ (52 - m.log2) :=
          Nat.mul_lt_mul_of_pos_right hhigh (by positivity)
      _ = 2 ^ 53 := by rw [← pow_add]; congr 1; omega

/-- A natural number that fits a significand is rounded to itself. -/
theorem round_of_fits {m : ℕ} (hpos : 0 < m) (hm : m < 2 ^ 53) :
    Float.Model.UnpackedFloat.round Format.binary64 .positive m 0 =
      settled (m * 2 ^ (52 - m.log2)) (-(52 - m.log2 : ℕ)) := by
  have hlog : m.log2 < 53 := (Nat.log2_lt hpos.ne').2 hm
  have hshift : (0 - Format.binary64.targetExponent (totalExponent m 0)).toNat = 52 - m.log2 := by
    rw [targetExponent_eq, totalExponent]
    omega
  have hround : Float.Model.UnpackedFloat.round Format.binary64 .positive m 0 =
      roundWithAccuracy Format.binary64 .positive
        (m <<< (0 - Format.binary64.targetExponent (totalExponent m 0)).toNat)
        (0 - ((0 - Format.binary64.targetExponent (totalExponent m 0)).toNat : ℤ)) .exact := rfl
  rw [hround, hshift, zero_sub]
  have hvalue : (m : ℚ) / 2 ^ (-(52 - m.log2 : ℕ) : ℤ) = ((m * 2 ^ (52 - m.log2) : ℕ) : ℚ) := by
    rw [zpow_neg, zpow_natCast, div_inv_eq_mul]
    push_cast
    rfl
  have hgrid : OnGrid (m : ℚ) (-(52 - m.log2 : ℕ)) := by
    refine ⟨by omega, ?_, .inr ?_⟩
    · have hexp : (-(52 - m.log2 : ℕ) + 53 : ℤ) = ((m.log2 + 1 : ℕ) : ℤ) := by omega
      rw [hexp, zpow_natCast]
      exact_mod_cast Nat.lt_log2_self
    · have hexp : (-(52 - m.log2 : ℕ) + 52 : ℤ) = ((m.log2 : ℕ) : ℤ) := by omega
      rw [hexp, zpow_natCast]
      exact_mod_cast Nat.log2_self_le hpos.ne'
  have htells : Tells (m <<< (52 - m.log2)) .exact ((m : ℚ) / 2 ^ (-(52 - m.log2 : ℕ) : ℤ)) := by
    rw [hvalue, Nat.shiftLeft_eq]
    exact tells_exact _
  obtain ⟨n, hnearest, hsettled⟩ := nearest_of_roundWithAccuracy htells hgrid le_rfl
  rw [hvalue] at hnearest
  rw [hsettled, hnearest.unique (isNearest_natCast _)]

/-- A natural number that fits a significand is a number. -/
theorem exact_toFloat {m : ℕ} (hpos : 0 < m) (hm : m < 2 ^ 53) :
    ∃ n e, Binary.ofFloat m.toUInt64.toFloat = .finite false n e ∧ 2 ^ 52 ≤ n ∧
      (n : ℚ) * 2 ^ e = m := by
  obtain ⟨hfills, hfits⟩ := doubled_bounds hpos hm
  have hnat : m.toUInt64.toNat = m := UInt64.toNat_ofNat_of_lt' (lt_trans hm (by norm_num))
  have hgt : compare (m : ℤ) 0 = .gt := compare_gt_iff_gt.2 (by exact_mod_cast hpos)
  have hsettled : m.toUInt64.toFloat =
      .ofModel (.pack (settled (m * 2 ^ (52 - m.log2)) (-(52 - m.log2 : ℕ)))) := by
    have hfloat : m.toUInt64.toFloat = .ofModel (.pack
        (UnpackedFloat.normalize Format.binary64 (m.toUInt64.toNat : ℤ) 0 .positive)) := rfl
    rw [hfloat, hnat, UnpackedFloat.normalize, hgt, ← round_of_fits hpos hm]
    rfl
  refine ⟨m * 2 ^ (52 - m.log2), -(52 - m.log2 : ℕ), ?_, hfills, ?_⟩
  · rw [hsettled, settled, dif_neg (by positivity), if_pos hfits]
    exact Binary.ofFloat_pack ⟨by omega, by omega, hfits, .inr hfills⟩ false (by positivity)
  · rw [zpow_neg, zpow_natCast]
    push_cast
    field_simp

/-- A normal number is a power of ten. -/
def IsPower (k : ℕ) (x : Float) : Prop :=
  match Binary.ofFloat x with
  | .finite false n e => 2 ^ 52 ≤ n ∧ Binary.numerator n e = 10 ^ k * Binary.denominator e
  | _ => False

instance (k : ℕ) (x : Float) : Decidable (IsPower k x) := by
  unfold IsPower
  split <;> infer_instance

theorem isPower_table (i : Fin Float.exactlyRepresentablePowersOfTen.size) :
    IsPower i Float.exactlyRepresentablePowersOfTen[i] := by
  revert i
  decide +kernel

/-- The powers of ten that are read from a table are exact. -/
theorem exact_power {k : ℕ} (hk : k < Float.exactlyRepresentablePowersOfTen.size) :
    ∃ n e, Binary.ofFloat Float.exactlyRepresentablePowersOfTen[k] = .finite false n e ∧
      2 ^ 52 ≤ n ∧ (n : ℚ) * 2 ^ e = 10 ^ k := by
  have hentry := isPower_table ⟨k, hk⟩
  unfold IsPower at hentry
  split at hentry
  · next n e hvalue =>
    obtain ⟨hfills, hratio⟩ := hentry
    refine ⟨n, e, hvalue, hfills, ?_⟩
    have hpos : (0 : ℚ) < Binary.denominator e := by exact_mod_cast Binary.denominator_pos e
    rw [← Binary.numerator_div_denominator, div_eq_iff hpos.ne', hratio]
    push_cast
    rfl
  · exact hentry.elim

/-! ### Numerals -/

/-- The exact value of digits and a power of ten is rounded to the number nearest. -/
theorem rounds_ofScientific_model {m : ℕ} {p : ℤ} (hpos : 0 < m) (hmost : p ≤ 2048)
    (hleast : -(2048 + (m.log2 : ℤ)) ≤ p) :
    Rounds (m * 10 ^ p) (.ofModel (Float.Model.ofScientific m p)) := by
  have hrat : (0 : ℚ) < m := by exact_mod_cast hpos
  obtain ⟨f, hgrid⟩ := exists_onGrid (v := m * 10 ^ p) (by positivity)
  have hsafe : ofScientific Format.binary64 m p =
      if 0 ≤ p then
        mul Format.binary64
          (.finite .positive (m <<< 53) (-53) (by simpa [Nat.pos_iff_ne_zero] using hpos.ne'))
          (.finite .positive (10 ^ p.toNat) 0 (by positivity))
      else
        div Format.binary64 (.finite .positive m 0 hpos)
          (.finite .positive (10 ^ (-p).toNat) 0 (by positivity)) := by
    have hreach : (2 : ℤ) ^ Format.binary64.exponentBits = 2048 := by norm_num
    unfold ofScientific
    rw [dif_neg hpos.ne', hreach, if_neg (not_lt.2 hmost), if_neg (not_lt.2 hleast)]
    rfl
  refine rounds_of_settled hgrid ?_
  rw [hsafe]
  split
  · next hnonneg =>
    refine nearest_of_mul _ _ ?_ hgrid ?_
    · have hexp : p = (p.toNat : ℤ) := (Int.toNat_of_nonneg hnonneg).symm
      conv_lhs => rw [hexp, zpow_natCast]
      rw [Nat.shiftLeft_eq]
      push_cast
      rw [zpow_neg, mul_one]
      field_simp
      norm_num
    · -- the value is at least one
      have hone : (1 : ℚ) ≤ m * 10 ^ p := by
        have hm : (1 : ℚ) ≤ m := by exact_mod_cast hpos
        exact one_le_mul_of_one_le_of_one_le hm (one_le_zpow₀ (by norm_num) hnonneg)
      have hbelow : (2 : ℚ) ^ (0 : ℤ) < 2 ^ (f + 53) := by
        rw [zpow_zero]
        exact lt_of_le_of_lt hone hgrid.fits
      have hexp := lt_of_two_zpow_lt hbelow
      omega
  · next hneg =>
    refine nearest_of_div _ _ ?_ hgrid
    have hexp : p = -((-p).toNat : ℤ) := by omega
    conv_lhs => rw [hexp, zpow_neg, zpow_natCast]
    push_cast
    rw [mul_one, mul_one, div_eq_mul_inv]

/-- Digits and a power of ten within reach are read as the number nearest. -/
theorem rounds_ofScientific {m : ℕ} {p : ℤ} (hpos : 0 < m) (hmost : p ≤ 2048)
    (hleast : -(2048 + (m.log2 : ℤ)) ≤ p) :
    Rounds (m * 10 ^ p) (Float.ofScientific m (decide (p < 0)) p.natAbs) := by
  unfold Float.ofScientific
  split
  · next hfast =>
    obtain ⟨hm, hsmall⟩ := hfast
    obtain ⟨n, d, hn, hnfills, hnvalue⟩ := exact_toFloat hpos hm
    obtain ⟨n', e, hn', hnfills', hnvalue'⟩ := exact_power (k := p.natAbs)
      (by simp [Float.exactlyRepresentablePowersOfTen]; omega)
    by_cases hneg : p < 0
    · have hvalue : (m : ℚ) * 10 ^ p = n * 2 ^ d / (n' * 2 ^ e) := by
        have hexp : p = -(p.natAbs : ℤ) := by omega
        rw [hnvalue, hnvalue', div_eq_mul_inv, ← zpow_natCast, ← zpow_neg, ← hexp]
      simp only [hneg, decide_true, if_true]
      rw [hvalue]
      exact rounds_div hn hn' (by positivity) (by positivity)
    · have hvalue : (m : ℚ) * 10 ^ p = n * 2 ^ d * (n' * 2 ^ e) := by
        have hexp : p = (p.natAbs : ℤ) := by omega
        rw [hnvalue, hnvalue', ← zpow_natCast, ← hexp]
      simp only [hneg, decide_false, Bool.false_eq_true, if_false]
      rw [hvalue]
      exact rounds_mul hn hn' hnfills hnfills'
  · have hsigned : (if decide (p < 0) then Int.negOfNat p.natAbs else Int.ofNat p.natAbs) = p := by
      by_cases hneg : p < 0
      · simp only [hneg, decide_true, if_true, Int.negOfNat_eq, Int.ofNat_eq_natCast]
        omega
      · simp only [hneg, decide_false, Bool.false_eq_true, if_false, Int.ofNat_eq_natCast]
        omega
    simp only [hsigned]
    exact rounds_ofScientific_model hpos hmost hleast

/-- A numeral is within reach of the powers of ten that are computed. -/
structure Numeral.InReach (x : Numeral) : Prop where
  positive : 0 < x.coefficient
  least : -(farPower : ℤ) ≤ x.exponent + (digits x.coefficient).length
  most : x.exponent + (digits x.coefficient).length ≤ farPower

/-- A numeral within reach is read as the number nearest. -/
theorem Numeral.rounds_toFloat {x : Numeral} (h : x.InReach) : Rounds x.value x.toFloat := by
  obtain ⟨hpos, hleast, hmost⟩ := h
  have hfar : (farPower : ℤ) = 400 := rfl
  have hlength := length_digits_pos x.coefficient
  -- as many binary digits as decimal ones, so the numeral is not taken for zero
  have hlog : (digits x.coefficient).length - 1 ≤ x.coefficient.log2 := by
    refine (Nat.le_log2 hpos.ne').2 (le_trans ?_ (pow_length_le hpos))
    exact Nat.pow_le_pow_left (by decide) _
  unfold toFloat
  dsimp only
  rw [if_neg hpos.ne', if_neg (not_lt.2 hmost), if_neg (not_lt.2 hleast)]
  exact rounds_ofScientific hpos (by omega) (by omega)

/-- Numerals within reach that denote the same are read alike. -/
theorem Numeral.toFloat_congr {x y : Numeral} (hx : x.InReach) (hy : y.InReach)
    (h : x.value = y.value) : x.toFloat = y.toFloat :=
  Rounds.unique (rounds_toFloat hx) (h ▸ rounds_toFloat hy)

/-- A numeral with zeros put after its digits. -/
def Numeral.withZeros (x : Numeral) (k : ℕ) : Numeral := ⟨x.coefficient * 10 ^ k, x.exponent - k⟩

theorem Numeral.value_withZeros (x : Numeral) (k : ℕ) : (x.withZeros k).value = x.value := by
  unfold value withZeros
  push_cast
  rw [zpow_sub₀ (by norm_num), zpow_natCast]
  field_simp

theorem Numeral.inReach_withZeros {x : Numeral} {k : ℕ} : (x.withZeros k).InReach ↔ x.InReach := by
  have hsize (hpos : 0 < x.coefficient) :
      (x.withZeros k).exponent + (digits (x.withZeros k).coefficient).length =
        x.exponent + (digits x.coefficient).length := by
    unfold withZeros
    dsimp only
    rw [length_digits_mul_pow hpos]
    omega
  constructor
  · rintro ⟨hpos, hleast, hmost⟩
    have hpos' : 0 < x.coefficient := Nat.pos_of_mul_pos_right hpos
    rw [hsize hpos'] at hleast hmost
    exact ⟨hpos', hleast, hmost⟩
  · rintro ⟨hpos, hleast, hmost⟩
    rw [← hsize hpos] at hleast hmost
    exact ⟨Nat.mul_pos hpos (Nat.pow_pos (by decide)), hleast, hmost⟩

end Decimal
end ClientTrial
