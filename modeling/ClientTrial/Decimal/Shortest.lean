import ClientTrial.Decimal.Binary
import ClientTrial.Decimal.Reading

/-!
# The shortest decimal that reads back

A floating-point number is shown by the fewest decimal digits that read back as
the same number.  With a given count of digits only two decimals come into
question, the neighbours of the exact value on that grid; the first grid with a
neighbour that reads back is taken, and of two such neighbours the nearer.

## Main definitions

* `leadingPower num den` — the power of ten of the leading digit of `num / den`.
* `neighbours` — the two decimals of a given count of digits around a value.
* `shortest` — the digits and the power of ten that show a magnitude.
* `FloatFormat`, `FloatFormat.render` — how digits and power are written down.
-/

namespace ClientTrial
namespace Decimal

/-- The power of ten of the leading digit of the positive value `num / den`. -/
def leadingPower (num den : Nat) : Int :=
  if den ≤ num then ((digits (num / den)).length : Int) - 1
  else -((digits ((den + num - 1) / num - 1)).length : Int)

/-- The value `num / den` divided by `10 ^ power`, as a quotient of natural numbers. -/
def scaled (num den : Nat) (power : Int) : Nat × Nat :=
  (num * Nat.pow 10 (-power).toNat, den * Nat.pow 10 power.toNat)

/-- The two decimals with `count` digits around `num / den`, the nearer first; of two equally
near ones the even first. -/
def neighbours (num den count : Nat) : List Numeral :=
  let power := leadingPower num den - count + 1
  let (n, d) := scaled num den power
  let below := n / d
  let r := n % d
  let low : Numeral := ⟨below, power⟩
  let high : Numeral := ⟨below + 1, power⟩
  if r = 0 then [low]
  else if 2 * r < d ∨ (2 * r = d ∧ below % 2 = 0) then [low, high]
  else [high, low]

/-- The digits without their trailing zeros. -/
def dropZeros : (fuel : Nat) → Numeral → Numeral
  | 0, x => x
  | fuel + 1, x =>
    if x.coefficient ≠ 0 ∧ x.coefficient % 10 = 0 then
      dropZeros fuel ⟨x.coefficient / 10, x.exponent + 1⟩
    else x

/-- The fewest digits that read back as the magnitude of `x`, tried from `count` on for `fuel`
counts; seventeen digits always do. -/
def shortestFrom (x : Float) (num den : Nat) : (fuel : Nat) → (count : Nat) → Numeral
  | 0, count => (neighbours num den count).headD ⟨0, 0⟩
  | fuel + 1, count =>
    match (neighbours num den count).find? fun y => y.toFloat == x with
    | some y => y
    | none => shortestFrom x num den fuel (count + 1)

/-- The fewest digits that read back as the positive number `significand · 2 ^ exponent`. -/
def shortest (significand : Nat) (exponent : Int) (x : Float) : Numeral :=
  dropZeros 20
    (shortestFrom x (Binary.numerator significand exponent) (Binary.denominator exponent) 17 1)

/-- How digits and a power of ten are written down. -/
structure FloatFormat where
  /-- The least power of the leading digit that is written in positions. -/
  leastPower : Int
  /-- The first power of the leading digit that is no longer written in positions. -/
  pastPower : Int
  /-- Whether a whole number keeps a point and a zero. -/
  keepPoint : Bool
  /-- The texts of infinity and of not a number. -/
  infinity : String
  notANumber : String

/-- Numbers in answers, messages and reports: positions from `0.0001` to below `10 ^ 16`, an
exponent of at least two digits beyond. -/
def standardFormat : FloatFormat := ⟨-4, 16, true, "inf", "nan"⟩

/-- Numbers in JSON texts. -/
def jsonFormat : FloatFormat := { standardFormat with infinity := "Infinity", notANumber := "NaN" }

/-- The exponent mark, a sign, and at least two digits. -/
def exponentMark (power : Int) : List Char :=
  'e' :: (if power < 0 then '-' else '+') :: padded 2 power.natAbs

namespace FloatFormat

/-- Digits and power written down. -/
def numeral (fmt : FloatFormat) (x : Numeral) : List Char :=
  let ds := digits x.coefficient
  let power := x.exponent + ds.length - 1
  if x.coefficient = 0 then if fmt.keepPoint then ['0', '.', '0'] else ['0']
  else if power < fmt.leastPower ∨ fmt.pastPower ≤ power then
    match ds with
    | [] => []
    | [d] => d :: exponentMark power
    | d :: more => d :: '.' :: more ++ exponentMark power
  else if power < 0 then
    '0' :: '.' :: List.replicate (-power - 1).toNat '0' ++ ds
  else if x.exponent < 0 then
    ds.take (power + 1).toNat ++ '.' :: ds.drop (power + 1).toNat
  else
    ds ++ List.replicate x.exponent.toNat '0' ++ (if fmt.keepPoint then ['.', '0'] else [])

/-- The text of a floating-point number. -/
def render (fmt : FloatFormat) (x : Float) : String :=
  match Binary.ofFloat x with
  | .nan => fmt.notANumber
  | .infinite negative => (if negative then "-" else "") ++ fmt.infinity
  | .finite negative significand exponent =>
    let sign := if negative then ['-'] else []
    let value := if significand = 0 then ⟨0, 0⟩ else shortest significand exponent x.abs
    String.ofList (sign ++ fmt.numeral value)

end FloatFormat

/-- The shortest text of a floating-point number. -/
def floatText (x : Float) : String := standardFormat.render x

end Decimal
end ClientTrial
