/-!
# Blank characters, stripping and splitting

Two sets of blank characters are in use.  `isSpace` is the Unicode property
`White_Space`; numbers written as text are trimmed of it.  `isBlank` adds the
four information separators `U+001C` to `U+001F`; markers and commands are
stripped of it, and a text made of blanks alone counts as absent.

## Main definitions

* `isSpace`, `isBlank` — the two sets.
* `trim p` — both ends freed of the characters of a set.
* `allBlank` — a text that says nothing.
* `splitOn sep` — the pieces between separators; never empty.

## Main results

* `splitOn_ne_nil` — a text has at least one piece.
-/

namespace ClientTrial
namespace Text

/-! ### The two sets -/

/-- The Unicode property `White_Space`. -/
def isSpace (c : Char) : Bool :=
  let n := c.toNat
  (0x09 ≤ n && n ≤ 0x0d) || n == 0x20 || n == 0x85 || n == 0xa0 || n == 0x1680 ||
    (0x2000 ≤ n && n ≤ 0x200a) || n == 0x2028 || n == 0x2029 || n == 0x202f || n == 0x205f ||
    n == 0x3000

/-- White space or an information separator. -/
def isBlank (c : Char) : Bool :=
  isSpace c || (0x1c ≤ c.toNat && c.toNat ≤ 0x1f)

/-! ### Stripping -/

/-- The text without the characters of `p` at its two ends. -/
def trim (p : Char → Bool) (s : List Char) : List Char :=
  ((s.dropWhile p).reverse.dropWhile p).reverse

@[simp] theorem trim_nil (p : Char → Bool) : trim p [] = [] := rfl

/-- The text consists of blanks, or of nothing. -/
def allBlank (s : String) : Bool := s.toList.all isBlank

/-! ### Splitting -/

/-- The pieces of a text between the occurrences of `sep`. -/
def splitOn (sep : Char) : List Char → List (List Char)
  | [] => [[]]
  | c :: rest =>
    if c = sep then [] :: splitOn sep rest
    else
      match splitOn sep rest with
      | [] => [[c]]
      | piece :: pieces => (c :: piece) :: pieces

@[simp] theorem splitOn_nil (sep : Char) : splitOn sep [] = [[]] := rfl

theorem splitOn_ne_nil (sep : Char) (s : List Char) : splitOn sep s ≠ [] := by
  cases s with
  | nil => simp
  | cons c rest =>
    unfold splitOn
    split
    · simp
    · split <;> simp

end Text
end ClientTrial
