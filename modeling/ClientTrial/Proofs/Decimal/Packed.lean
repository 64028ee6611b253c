import ClientTrial.Decimal.Binary

/-!
# The bits of a floating-point number

The 64 bits of a finite number, read as a natural number, are its significand and, on top
of that, its exponent counted from the least, with the sign in front.  So the bits tell the
number and the number tells the bits, and what calculations work with is the same exact
value that is printed.

## Main definitions

* `Binary.IsCanonical` — a significand and an exponent that a number can have.
* `Binary.bits` — the bits of a finite number.
* `Binary.sign` — a sign as calculations know it.

## Main results

* `Binary.bits_of_ofBits` — a finite number has the bits that its value tells.
* `Binary.unpack_eq` — calculations work with the exact value.
* `Binary.toNat_pack` — the bits of what a calculation comes to.
-/

namespace ClientTrial
namespace Decimal.Binary

open Float.Model (Format UnpackedFloat)
open Float.Model.UnpackedFloat

/-! ### The exact value and the bits -/

/-- A significand and an exponent that a finite number can have. -/
structure IsCanonical (significand : Nat) (exponent : Int) : Prop where
  least : -1074 ≤ exponent
  most : exponent ≤ 971
  fits : significand < 9007199254740992
  fills : exponent = -1074 ∨ 4503599627370496 ≤ significand

/-- The bits of a finite number. -/
def bits (negative : Bool) (significand : Nat) (exponent : Int) : Nat :=
  (if negative then 9223372036854775808 else 0) +
    ((exponent + 1074).toNat * 4503599627370496 + significand)

theorem bits_of_ofBits {b : Nat} {negative : Bool} {significand : Nat} {exponent : Int}
    (hb : b < 18446744073709551616) (h : ofBits b = .finite negative significand exponent) :
    b = bits negative significand exponent ∧ IsCanonical significand exponent := by
  have h63 : Nat.pow 2 63 = 9223372036854775808 := by decide
  have h52 : Nat.pow 2 52 = 4503599627370496 := by decide
  have h11 : Nat.pow 2 11 = 2048 := by decide
  have hsign : (if b / 9223372036854775808 % 2 = 1 then 9223372036854775808 else 0) =
      b / 9223372036854775808 * 9223372036854775808 := by
    split <;> omega
  unfold ofBits at h
  rw [h63, h52, h11] at h
  dsimp only at h
  unfold bits
  split at h
  · split at h
    · cases h
    · cases h
  · split at h
    · injection h with hnegative hsignificand hexponent
      subst hnegative hsignificand hexponent
      simp only [decide_eq_true_eq]
      rw [hsign]
      exact ⟨by omega, by omega, by omega, by omega, .inl rfl⟩
    · injection h with hnegative hsignificand hexponent
      subst hnegative hsignificand hexponent
      simp only [decide_eq_true_eq]
      rw [hsign]
      exact ⟨by omega, by omega, by omega, by omega, .inr (by omega)⟩

/-! ### What calculations work with -/

theorem toNat_append_eq_add {w v : Nat} (x : BitVec w) (y : BitVec v) :
    (x ++ y).toNat = x.toNat * Nat.pow 2 v + y.toNat := by
  rw [BitVec.toNat_append, ← Nat.shiftLeft_add_eq_or_of_lt y.isLt, Nat.shiftLeft_eq]
  exact rfl

/-- A sign as calculations know it. -/
def sign (negative : Bool) : Sign := if negative then .negative else .positive

variable (b : BitVec Format.binary64.numBits)

theorem toNat_unpackMantissa : (unpackMantissa b).toNat = b.toNat % 4503599627370496 := by
  unfold unpackMantissa
  rw [BitVec.toNat_cast, BitVec.extractLsb, BitVec.extractLsb'_toNat, Nat.shiftRight_zero]
  exact rfl

theorem toNat_unpackExponent : (unpackExponent b).toNat = b.toNat / 4503599627370496 % 2048 := by
  unfold unpackExponent
  rw [BitVec.toNat_cast, BitVec.extractLsb, BitVec.extractLsb'_toNat, Nat.shiftRight_eq_div_pow]
  exact rfl

theorem ofBitVec_unpackSign :
    Sign.ofBitVec (unpackSign b) = sign (decide (b.toNat / 9223372036854775808 % 2 = 1)) := by
  have htoNat : (unpackSign b).toNat = b.toNat / 9223372036854775808 % 2 := by
    unfold unpackSign
    rw [BitVec.toNat_cast, BitVec.extractLsb, BitVec.extractLsb'_toNat, Nat.shiftRight_eq_div_pow]
    exact rfl
  have hzero : unpackSign b = 0#1 ↔ ¬b.toNat / 9223372036854775808 % 2 = 1 := by
    rw [← BitVec.toNat_inj, htoNat]
    have hlt := Nat.mod_lt (b.toNat / 9223372036854775808) (by decide : 2 > 0)
    simp only [BitVec.toNat_ofNat]
    omega
  unfold Sign.ofBitVec sign
  by_cases h : b.toNat / 9223372036854775808 % 2 = 1
  · rw [if_neg (fun hsign => hzero.1 hsign h), if_pos (decide_eq_true h)]
  · rw [if_pos (hzero.2 h), if_neg (by simp [h])]

/-- An exact value as calculations know it. -/
def unpacked : Binary → UnpackedFloat
  | .nan => .notANumber
  | .infinite negative => .infinity (sign negative)
  | .finite negative significand exponent =>
    if h : significand = 0 then .zero (sign negative)
    else .finite (sign negative) significand exponent (Nat.pos_of_ne_zero h)

theorem finite_congr {s : Sign} {m m' : Nat} {e e' : Int} {hm : 0 < m} {hm' : 0 < m'}
    (hmantissa : m = m') (hexponent : e = e') :
    UnpackedFloat.finite s m e hm = .finite s m' e' hm' := by
  subst hmantissa hexponent
  rfl

/-- Calculations work with the exact value. -/
theorem unpack_eq : UnpackedFloat.unpack Format.binary64 b = unpacked (ofBits b.toNat) := by
  have h63 : Nat.pow 2 63 = 9223372036854775808 := by decide
  have h52 : Nat.pow 2 52 = 4503599627370496 := by decide
  have h11 : Nat.pow 2 11 = 2048 := by decide
  have hmantissa := toNat_unpackMantissa b
  have hexponent := toNat_unpackExponent b
  have hall : unpackExponent b = -1#_ ↔ b.toNat / 4503599627370496 % 2048 = 2047 := by
    rw [← BitVec.toNat_inj, hexponent]
    exact Iff.rfl
  have hnone : unpackExponent b = 0#_ ↔ b.toNat / 4503599627370496 % 2048 = 0 := by
    rw [← BitVec.toNat_inj, hexponent]
    exact Iff.rfl
  have hblank : unpackMantissa b = 0#_ ↔ b.toNat % 4503599627370496 = 0 := by
    rw [← BitVec.toNat_inj, hmantissa]
    exact Iff.rfl
  have hleading : (1#1 ++ unpackMantissa b).toNat =
      4503599627370496 + b.toNat % 4503599627370496 := by
    rw [toNat_append_eq_add, hmantissa]
    rfl
  have hbias : (Format.binary64.exponentBias : Int) + Format.binary64.mantissaBitsWithoutImplicit =
      1075 := by decide
  unfold UnpackedFloat.unpack ofBits
  rw [h63, h52, h11]
  dsimp only
  rw [ofBitVec_unpackSign, hbias]
  by_cases hones : b.toNat / 4503599627370496 % 2048 = 2047
  · rw [if_pos (hall.2 hones), if_pos hones]
    by_cases hzero : b.toNat % 4503599627370496 = 0
    · rw [if_pos (hblank.2 hzero), if_pos hzero, unpacked]
    · rw [if_neg (fun h => hzero (hblank.1 h)), if_neg hzero, unpacked]
  rw [if_neg (fun h => hones (hall.1 h)), if_neg hones]
  by_cases hsubnormal : b.toNat / 4503599627370496 % 2048 = 0
  · rw [if_pos (hnone.2 hsubnormal), if_pos hsubnormal, unpacked]
    by_cases hzero : b.toNat % 4503599627370496 = 0
    · rw [dif_pos (hblank.2 hzero), dif_pos hzero]
    · rw [dif_neg (fun h => hzero (hblank.1 h)), dif_neg hzero]
      refine finite_congr hmantissa ?_
      rw [hexponent, hsubnormal]
      decide
  · rw [if_neg (fun h => hsubnormal (hnone.1 h)), if_neg hsubnormal, unpacked, dif_neg (by omega)]
    exact finite_congr hleading (by rw [hexponent])

/-! ### The bits of what a calculation comes to -/

variable {significand : Nat} {exponent : Int}

/-- What calculations work with is packed into its bits. -/
theorem toNat_pack (h : IsCanonical significand exponent) (negative : Bool)
    (hpos : 0 < significand) :
    (UnpackedFloat.pack Format.binary64
      (.finite (sign negative) significand exponent hpos)).toNat =
        bits negative significand exponent := by
  obtain ⟨hleast, hmost, hfits, hfills⟩ := h
  have hbiased : exponent + Format.binary64.exponentBias +
      Format.binary64.mantissaBitsWithoutImplicit = exponent + 1075 := by
    change exponent + 1023 + 52 = exponent + 1075
    omega
  have hsign : (sign negative).toBitVec.toNat * 9223372036854775808 =
      if negative then 9223372036854775808 else 0 := by
    cases negative <;> rfl
  unfold UnpackedFloat.pack
  dsimp only
  rw [hbiased]
  have h52 : Nat.pow 2 Format.binary64.mantissaBitsWithoutImplicit = 4503599627370496 := by decide
  have h11 : Nat.pow 2 Format.binary64.exponentBits = 2048 := by decide
  have hlog : significand.log2 + 1 = Format.binary64.mantissaBits ↔
      4503599627370496 ≤ significand := by
    have hlarge := Nat.le_log2 (k := 52) (Nat.pos_iff_ne_zero.1 hpos)
    have hsmall := Nat.log2_lt (k := 53) (Nat.pos_iff_ne_zero.1 hpos)
    change significand.log2 + 1 = 53 ↔ _
    omega
  unfold bits
  rw [if_neg (by omega)]
  split
  · next hnormal =>
    have hge := hlog.1 hnormal
    unfold packComponents
    rw [toNat_append_eq_add, toNat_append_eq_add, BitVec.toNat_ofNat, BitVec.toNat_ofNat, ← hsign,
      h52, h11]
    clear hbiased hlog h52 h11 hsign
    generalize (sign negative).toBitVec.toNat = first
    omega
  · next hsubnormal =>
    have hlt : ¬4503599627370496 ≤ significand := fun hge => hsubnormal (hlog.2 hge)
    unfold packComponents
    rw [toNat_append_eq_add, toNat_append_eq_add, BitVec.toNat_ofNat, BitVec.toNat_ofNat, ← hsign,
      h52, h11]
    clear hbiased hlog h52 h11 hsign
    generalize (sign negative).toBitVec.toNat = first
    omega

/-- The bits tell the value. -/
theorem ofBits_bits (h : IsCanonical significand exponent) (negative : Bool) :
    ofBits (bits negative significand exponent) = .finite negative significand exponent := by
  obtain ⟨hleast, hmost, hfits, hfills⟩ := h
  have h63 : Nat.pow 2 63 = 9223372036854775808 := by decide
  have h52 : Nat.pow 2 52 = 4503599627370496 := by decide
  have h11 : Nat.pow 2 11 = 2048 := by decide
  have hsign : decide (bits negative significand exponent / 9223372036854775808 % 2 = 1) =
      negative := by
    unfold bits
    cases negative
    · rw [decide_eq_false_iff_not, if_neg (by decide)]
      omega
    · rw [decide_eq_true_iff, if_pos rfl]
      omega
  have hbiased : bits negative significand exponent / 4503599627370496 % 2048 =
      if 4503599627370496 ≤ significand then (exponent + 1075).toNat else 0 := by
    unfold bits
    split <;> split <;> omega
  have hfraction : bits negative significand exponent % 4503599627370496 =
      significand % 4503599627370496 := by
    unfold bits
    split <;> omega
  unfold ofBits
  rw [h63, h52, h11]
  dsimp only
  rw [hsign, hbiased, hfraction]
  by_cases hnormal : 4503599627370496 ≤ significand
  · rw [if_pos hnormal, if_neg (by omega), if_neg (by omega)]
    congr 1 <;> omega
  · rw [if_neg hnormal, if_neg (by decide), if_pos rfl]
    congr 1 <;> omega

/-! ### Numbers -/

theorem eq_of_toBits {x y : Float} (h : x.toBits.toNat = y.toBits.toNat) : x = y := by
  obtain ⟨⟨bits, valid⟩⟩ := x
  obtain ⟨⟨bits', valid'⟩⟩ := y
  obtain rfl : bits = bits' := UInt64.toNat_inj.1 h
  rfl

variable {x y : Float} {negative : Bool}

theorem canonical_of_ofFloat (h : ofFloat x = .finite negative significand exponent) :
    IsCanonical significand exponent :=
  (bits_of_ofBits x.toBits.toNat_lt h).2

/-- The exact value tells the number. -/
theorem eq_of_ofFloat (hx : ofFloat x = .finite negative significand exponent)
    (hy : ofFloat y = .finite negative significand exponent) : x = y :=
  eq_of_toBits ((bits_of_ofBits x.toBits.toNat_lt hx).1.trans
    (bits_of_ofBits y.toBits.toNat_lt hy).1.symm)

/-- What a calculation comes to is the number with that value. -/
theorem ofFloat_pack (h : IsCanonical significand exponent) (negative : Bool)
    (hpos : 0 < significand) :
    ofFloat (.ofModel (.pack (.finite (sign negative) significand exponent hpos))) =
      .finite negative significand exponent :=
  (congrArg ofBits (toNat_pack h negative hpos)).trans (ofBits_bits h negative)

/-- Calculations work with the exact value of a number. -/
theorem unpack_of_ofFloat (h : ofFloat x = .finite negative significand exponent)
    (hpos : 0 < significand) :
    x.toModel.unpack = .finite (sign negative) significand exponent hpos := by
  refine (unpack_eq x.toModel.toBits.toBitVec).trans ?_
  change unpacked (ofFloat x) = _
  rw [h, unpacked, dif_neg (Nat.pos_iff_ne_zero.1 hpos)]

/-- A finite number has an exact value. -/
theorem exists_of_isFinite (h : x.isFinite = true) :
    ∃ negative significand exponent, ofFloat x = .finite negative significand exponent := by
  have hvalue : x.toModel.unpack = unpacked (ofFloat x) := unpack_eq x.toModel.toBits.toBitVec
  have hfinite : (unpacked (ofFloat x)).isFinite = true := hvalue ▸ h
  cases hx : ofFloat x with
  | nan => rw [hx] at hfinite; cases hfinite
  | infinite => rw [hx] at hfinite; cases hfinite
  | finite negative significand exponent => exact ⟨negative, significand, exponent, rfl⟩

theorem isFinite_of_ofFloat (h : ofFloat x = .finite negative significand exponent) :
    x.isFinite = true := by
  have hvalue : x.toModel.unpack = unpacked (ofFloat x) := unpack_eq x.toModel.toBits.toBitVec
  change x.toModel.unpack.isFinite = true
  rw [hvalue, h, unpacked]
  by_cases hzero : significand = 0
  · rw [dif_pos hzero]
    rfl
  · rw [dif_neg hzero]
    rfl

/-- The magnitude of a number. -/
theorem ofFloat_abs (h : ofFloat x = .finite negative significand exponent)
    (hpos : 0 < significand) : ofFloat x.abs = .finite false significand exponent := by
  have habs : x.abs = .ofModel (.pack x.toModel.unpack.abs) := rfl
  rw [habs, unpack_of_ofFloat h hpos]
  exact ofFloat_pack (canonical_of_ofFloat h) false hpos

/-- The opposite of a number. -/
theorem ofFloat_neg (h : ofFloat x = .finite negative significand exponent)
    (hpos : 0 < significand) : ofFloat (-x) = .finite (!negative) significand exponent := by
  have hneg : -x = .ofModel (.pack x.toModel.unpack.neg) := rfl
  have hsign : (UnpackedFloat.finite (sign negative) significand exponent hpos).neg =
      .finite (sign (!negative)) significand exponent hpos := by cases negative <;> rfl
  rw [hneg, unpack_of_ofFloat h hpos, hsign]
  exact ofFloat_pack (canonical_of_ofFloat h) (!negative) hpos

/-! ### The zeros -/

theorem significand_eq_zero {significand : Nat} {exponent : Int}
    (h : numerator significand exponent = 0) : significand = 0 := by
  rcases Nat.mul_eq_zero.1 h with h | h
  · exact h
  · exact absurd h (Nat.pos_iff_ne_zero.1 (Nat.two_pow_pos _))

/-- A number without a significand is one of the two zeros. -/
theorem eq_zero_of_ofFloat (h : ofFloat x = .finite negative 0 exponent) :
    x = if negative then -0.0 else 0.0 := by
  obtain ⟨hbits, -, -, -, hleast | hfills⟩ := bits_of_ofBits x.toBits.toNat_lt h
  · subst hleast
    cases negative
    · exact eq_of_toBits (hbits.trans (by decide +kernel))
    · exact eq_of_toBits (hbits.trans (by decide +kernel))
  · exact absurd hfills (by decide)

theorem beq_zero_of_ofFloat (h : ofFloat x = .finite negative 0 exponent) : (x == 0.0) = true := by
  rw [eq_zero_of_ofFloat h]
  cases negative <;> decide +kernel

/-- The opposite of a finite number is finite. -/
theorem isFinite_neg (h : x.isFinite = true) : (-x).isFinite = true := by
  obtain ⟨negative, significand, exponent, hx⟩ := exists_of_isFinite h
  rcases Nat.eq_zero_or_pos significand with rfl | hpos
  · rw [eq_zero_of_ofFloat hx]
    cases negative <;> decide +kernel
  · exact isFinite_of_ofFloat (ofFloat_neg hx hpos)

end Decimal.Binary
end ClientTrial
