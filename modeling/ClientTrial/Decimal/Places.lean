import ClientTrial.Decimal.Round
import ClientTrial.Decimal.Shortest

/-!
# Fixed places and significant digits

Durations are shown with two places after the point, timeouts with at most six
significant digits.  Both round the exact value, a half to the even neighbour.

## Main definitions

* `fixed places x` — a number with the given count of digits after the point.
* `general count x` — a number with at most `count` significant digits, trailing
  zeros dropped.
-/

namespace ClientTrial
namespace Decimal

/-- A magnitude `num / den` with `places` digits after the point. -/
def fixedMagnitude (places num den : Nat) : List Char :=
  let scaledUp := roundDiv (num * Nat.pow 10 places) den
  let ds := padded (places + 1) scaledUp
  let whole := ds.length - places
  if places = 0 then ds else ds.take whole ++ '.' :: ds.drop whole

/-- A number with `places` digits after the point. -/
def fixed (places : Nat) (x : Float) : String :=
  match Binary.ofFloat x with
  | .nan => "nan"
  | .infinite negative => if negative then "-inf" else "inf"
  | .finite negative significand exponent =>
    let sign := if negative then ['-'] else []
    String.ofList (sign ++ fixedMagnitude places
      (Binary.numerator significand exponent) (Binary.denominator exponent))

/-- A positive value `num / den` rounded to `count` significant digits. -/
def significant (count num den : Nat) : Numeral :=
  let power := leadingPower num den - count + 1
  let (n, d) := scaled num den power
  ⟨roundDiv n d, power⟩

/-- Numbers with at most `count` significant digits: positions from `0.0001` to below
`10 ^ count`. -/
def generalFormat (count : Nat) : FloatFormat := ⟨-4, count, false, "inf", "nan"⟩

/-- A number with at most `count` significant digits. -/
def general (count : Nat) (x : Float) : String :=
  let fmt := generalFormat count
  match Binary.ofFloat x with
  | .nan => fmt.notANumber
  | .infinite negative => (if negative then "-" else "") ++ fmt.infinity
  | .finite negative significand exponent =>
    let sign := if negative then ['-'] else []
    let value :=
      if significand = 0 then ⟨0, 0⟩
      else dropZeros (count + 1)
        (significant count (Binary.numerator significand exponent) (Binary.denominator exponent))
    String.ofList (sign ++ fmt.numeral value)

end Decimal
end ClientTrial
