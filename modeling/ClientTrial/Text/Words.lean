/-!
# The words of a command line

A command is configured as one text and split into words before it is run.
Words are separated by spaces, tabs and line breaks.  Between single quotes
every character stands for itself.  Between double quotes a backslash escapes a
double quote or a backslash and is kept before anything else.  Outside quotes it
escapes any character.  There are no comments, and quotes may begin and end in
the middle of a word.

## Main definitions

* `CommandError` — the two ways in which a command is malformed.
* `Mode` — where the scanner stands.
* `scan`, `words` — the words of a command.
* `quoteWord`, `quoteWords` — a text of which the given words are the words.
-/

namespace ClientTrial
namespace Text

/-- Why a command has no words. -/
inductive CommandError where
  /-- A quote is opened and never closed. -/
  | openQuote
  /-- The command ends in a backslash with nothing to escape. -/
  | danglingEscape
  deriving DecidableEq, Repr

/-- The wording of a malformed command. -/
def CommandError.message : CommandError → String
  | .openQuote => "No closing quotation"
  | .danglingEscape => "No escaped character"

/-- Where the scanner stands within a command. -/
inductive Mode where
  /-- Outside quotes. -/
  | plain
  /-- After a backslash outside quotes. -/
  | escape
  /-- Between single quotes. -/
  | single
  /-- Between double quotes. -/
  | double
  /-- After a backslash between double quotes. -/
  | doubleEscape
  deriving DecidableEq, Repr

/-- The characters that separate words. -/
def isSeparator (c : Char) : Bool := c = ' ' || c = '\t' || c = '\r' || c = '\n'

/-- The words of the rest of a command.  `word` is the word begun so far, nothing if none is: an
open quote begins a word even if no character follows. -/
def scan : Mode → (word : Option (List Char)) → List Char → Except CommandError (List (List Char))
  | .plain, word, [] => .ok word.toList
  | .plain, word, c :: rest =>
    if isSeparator c then
      match word with
      | none => scan .plain none rest
      | some w => (scan .plain none rest).map (w :: ·)
    else if c = '\x27' then scan .single (some (word.getD [])) rest
    else if c = '\x22' then scan .double (some (word.getD [])) rest
    else if c = '\x5c' then scan .escape word rest
    else scan .plain (some (word.getD [] ++ [c])) rest
  | .escape, _, [] => .error .danglingEscape
  | .escape, word, c :: rest => scan .plain (some (word.getD [] ++ [c])) rest
  | .single, _, [] => .error .openQuote
  | .single, word, c :: rest =>
    if c = '\x27' then scan .plain word rest
    else scan .single (some (word.getD [] ++ [c])) rest
  | .double, _, [] => .error .openQuote
  | .double, word, c :: rest =>
    if c = '\x22' then scan .plain word rest
    else if c = '\x5c' then scan .doubleEscape word rest
    else scan .double (some (word.getD [] ++ [c])) rest
  | .doubleEscape, _, [] => .error .danglingEscape
  | .doubleEscape, word, c :: rest =>
    if c = '\x22' ∨ c = '\x5c' then scan .double (some (word.getD [] ++ [c])) rest
    else scan .double (some (word.getD [] ++ ['\x5c', c])) rest

/-- The words of a command. -/
def words (command : String) : Except CommandError (List String) :=
  (scan .plain none command.toList).map (·.map String.ofList)

/-! ### Writing words -/

/-- A word between single quotes; a single quote within it is put between double quotes. -/
def quoteWord (word : List Char) : List Char :=
  '\x27' :: word.flatMap
    (fun c => if c = '\x27' then ['\x27', '\x22', '\x27', '\x22', '\x27'] else [c]) ++ ['\x27']

/-- Quoted words with a space between each two. -/
def quoteWords (list : List (List Char)) : List Char :=
  [' '].intercalate (list.map quoteWord)

end Text
end ClientTrial
