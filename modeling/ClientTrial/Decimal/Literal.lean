import ClientTrial.Decimal.Reading
import ClientTrial.Text.Blank
import ClientTrial.Text.Digit

/-!
# Number literals

Numbers that people or a daemon write down may be surrounded by white space, may
use the digits of any script, and may have single underscores between digits.
The digits of a whole number are counted before anything else is held against
it.

## Main definitions

* `plain` — a literal without white space around it and with ASCII digits only.
* `joined?` — a literal without its underscores, if each stands between two digits.
* `whole?`, `real?` — the number that a literal denotes.
* `oversize?` — how many digits a whole number has that has too many.
-/

namespace ClientTrial
namespace Decimal

/-- A digit of any script as an ASCII digit. -/
def toAscii (c : Char) : Char :=
  match Text.digitValue? c with
  | some d => Char.ofNat (48 + d)
  | none => c

/-- A literal without white space around it and with ASCII digits only. -/
def plain (s : String) : List Char := (Text.trim Text.isSpace s.toList).map toAscii

/-- A literal without its underscores.  `inside` tells whether a digit stands before. -/
def joinedFrom? : (inside : Bool) → List Char → Option (List Char)
  | _, [] => some []
  | inside, '_' :: c :: rest =>
    if inside && (digit? c).isSome then joinedFrom? false (c :: rest) else none
  | _, ['_'] => none
  | _, c :: rest => (joinedFrom? (digit? c).isSome rest).map (c :: ·)

/-- A literal without its underscores, each of which must stand between two digits. -/
def joined? (s : List Char) : Option (List Char) := joinedFrom? false s

/-- Digits with a sign or without. -/
def signed? : List Char → Option Int
  | '+' :: ds => (ofDigits? ds).map Int.ofNat
  | '-' :: ds => (ofDigits? ds).map fun n => -(n : Int)
  | ds => (ofDigits? ds).map Int.ofNat

/-- A literal after its sign. -/
def unsignedPart : List Char → List Char
  | '+' :: s => s
  | '-' :: s => s
  | s => s

/-- How many digits a whole number starts with, if these are too many.  What follows the digits
is of no account, unless it is an underscore out of place. -/
def oversize? (s : String) : Option Nat :=
  let run := (unsignedPart (plain s)).takeWhile fun c => (digit? c).isSome || c == '_'
  ((joined? run).map List.length).filter (mostDigits < ·)

/-- The whole number that a literal denotes. -/
def whole? (s : String) : Option Int :=
  if (oversize? s).isSome then none else (joined? (plain s)).bind signed?

/-- The floating-point number that a literal denotes. -/
def real? (s : String) : Option Float := (joined? (plain s)).bind float?

end Decimal
end ClientTrial
