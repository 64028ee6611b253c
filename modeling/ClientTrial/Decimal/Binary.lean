/-!
# The exact value of a binary floating-point number

A finite number is `± significand · 2 ^ exponent` with a natural significand.
Everything that is printed of a number is computed from this value by integer
arithmetic.

## Main definitions

* `Binary` — not a number, an infinity, or an exact finite value.
* `Binary.ofFloat` — the value of a 64-bit number, from its bits.
* `Binary.numerator`, `Binary.denominator` — a finite magnitude as a quotient.
-/

namespace ClientTrial
namespace Decimal

/-- What a 64-bit floating-point number denotes. -/
inductive Binary where
  /-- Not a number. -/
  | nan
  /-- An infinity. -/
  | infinite (negative : Bool)
  /-- The value `± significand · 2 ^ exponent`. -/
  | finite (negative : Bool) (significand : Nat) (exponent : Int)
  deriving DecidableEq, Repr

namespace Binary

/-- The number with the given 64 bits: a sign, eleven bits of exponent, 52 bits of fraction. -/
def ofBits (bits : Nat) : Binary :=
  let negative := bits / Nat.pow 2 63 % 2 = 1
  let biased : Nat := bits / Nat.pow 2 52 % Nat.pow 2 11
  let fraction : Nat := bits % Nat.pow 2 52
  if biased = 2047 then
    if fraction = 0 then .infinite negative else .nan
  else if biased = 0 then .finite negative fraction (-1074)
  else .finite negative (Nat.pow 2 52 + fraction) ((biased : Int) - 1075)

/-- The value of a floating-point number. -/
def ofFloat (x : Float) : Binary := ofBits x.toBits.toNat

/-- The numerator of the magnitude `significand · 2 ^ exponent`. -/
def numerator (significand : Nat) (exponent : Int) : Nat := significand * Nat.pow 2 exponent.toNat

/-- The denominator of a magnitude with the given exponent. -/
def denominator (exponent : Int) : Nat := Nat.pow 2 (-exponent).toNat

theorem denominator_pos (exponent : Int) : 0 < denominator exponent := Nat.two_pow_pos _

end Binary
end Decimal
end ClientTrial
