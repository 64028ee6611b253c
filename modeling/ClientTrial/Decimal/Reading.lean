import ClientTrial.Decimal.Digits

/-!
# Reading decimal numbers

A number in text is an optional sign, digits with an optional fraction, and an
optional power of ten; or one of the words for infinity and for not a number, in
any case of letters.  The value is the floating-point number nearest to the
decimal one.

## Main definitions

* `Numeral` — a decimal number as written: digits and a power of ten.
* `Numeral.toFloat` — the nearest floating-point number.
* `takeDigits`, `unsigned?`, `signed?` — the parts of the grammar.
* `float?` — a floating-point number in text.
-/

namespace ClientTrial
namespace Decimal

/-- The number `coefficient · 10 ^ exponent`. -/
structure Numeral where
  /-- The digits as one natural number. -/
  coefficient : Nat
  /-- The power of ten. -/
  exponent : Int
  deriving DecidableEq, Repr

/-- The magnitude beyond which every number is an infinity, as a power of ten; its opposite, with
room for the digits, is where every number is zero. -/
def Numeral.farPower : Nat := 400

/-- The floating-point number nearest to a numeral.  Powers of ten far out of range are settled
without computing them. -/
def Numeral.toFloat (x : Numeral) : Float :=
  let size := (digits x.coefficient).length
  if x.coefficient = 0 then 0.0
  else if (Numeral.farPower : Int) < x.exponent + size then 1.0 / 0.0
  else if x.exponent + size < -(Numeral.farPower : Int) then 0.0
  else Float.ofScientific x.coefficient (decide (x.exponent < 0)) x.exponent.natAbs

/-- The longest run of digits at the start of a text, and the rest. -/
def takeDigits (s : List Char) : List Char × List Char :=
  s.span fun c => (digit? c).isSome

/-- A power of ten after the digits: the letter `e`, an optional sign, and digits. -/
def exponent? : List Char → Option Int
  | [] => some 0
  | c :: rest =>
    if c = 'e' ∨ c = 'E' then
      match rest with
      | '+' :: ds => (ofDigits? ds).map Int.ofNat
      | '-' :: ds => (ofDigits? ds).map fun n => -(n : Int)
      | ds => (ofDigits? ds).map Int.ofNat
    else none

/-- A numeral without a sign: digits, an optional point with more digits, an optional power of
ten.  There is at least one digit before or after the point. -/
def unsigned? (s : List Char) : Option Numeral :=
  let (whole, rest) := takeDigits s
  let (fraction, rest) :=
    match rest with
    | '.' :: after => takeDigits after
    | _ => ([], rest)
  do
    let coefficient ← ofDigits? (whole ++ fraction)
    let power ← exponent? rest
    pure ⟨coefficient, power - fraction.length⟩

/-- The words for infinity and for not a number, in small letters. -/
def word? (s : List Char) : Option Float :=
  match String.ofList (s.map Char.toLower) with
  | "inf" | "infinity" => some (1.0 / 0.0)
  | "nan" => some (0.0 / 0.0)
  | _ => none

/-- A magnitude in text. -/
def magnitude? (s : List Char) : Option Float :=
  (word? s).orElse fun _ => (unsigned? s).map Numeral.toFloat

/-- A floating-point number in text. -/
def float? : List Char → Option Float
  | '+' :: s => magnitude? s
  | '-' :: s => (magnitude? s).map fun x => -x
  | s => magnitude? s

end Decimal
end ClientTrial
