/-!
# Folding of case onto ASCII

Names of settings, log levels and log formats are compared without regard to
case, and all of them are written in ASCII.  What matters of the Unicode case
mappings is therefore which characters map *into* ASCII: besides the letters
themselves these are the Kelvin sign (to `k`), the dotless i and the long s, the
sharp s and the Latin ligatures.  Every other character is left alone, and can
never take part in a match.

## Main definitions

* `lower`, `upper` — the two foldings of a text.
-/

namespace ClientTrial
namespace Text

/-- The small letter of a character, where it is an ASCII letter. -/
def lowerChar (c : Char) : Char :=
  if c = '\u212a' then 'k' else c.toLower

/-- The capital form of a character, where it is made of ASCII letters. -/
def upperChar (c : Char) : List Char :=
  match c.toNat with
  | 0xdf => ['S', 'S']
  | 0x131 => ['I']
  | 0x17f => ['S']
  | 0xfb00 => ['F', 'F']
  | 0xfb01 => ['F', 'I']
  | 0xfb02 => ['F', 'L']
  | 0xfb03 => ['F', 'F', 'I']
  | 0xfb04 => ['F', 'F', 'L']
  | 0xfb05 => ['S', 'T']
  | 0xfb06 => ['S', 'T']
  | _ => [c.toUpper]

/-- A text with every letter that has a small ASCII form written small. -/
def lower (s : String) : String := String.ofList (s.toList.map lowerChar)

/-- A text with every letter that has an ASCII capital form written in capitals. -/
def upper (s : String) : String := String.ofList (s.toList.flatMap upperChar)

end Text
end ClientTrial
