import ClientTrial.Text.Blank

/-!
# Files of variables

A file of variables assigns texts to names, one assignment a line.  A name may be
preceded by the word `export` and may stand between single quotes.  A text may
stand between quotes, in which case it may go over several lines and have
escapes; otherwise it ends with the line or with a comment, which follows a
blank.  A name without an equals sign is declared without a text.  A line that is
none of this is skipped.

References to variables in a text are replaced by what the variable stands for:
the text assigned to it earlier in the file, or else by the environment.

Such files are read by a library too.  Of what is assumed of it, three points are easily
missed.  The blanks after the equals sign count as those before a comment, so that a text
is empty if a comment follows them at once (`NAME= # none`), whereas a number sign right
after the equals sign is part of the text (`NAME=#none`).  In quotes a backslash takes the
next character with it, so that the quote after a doubled backslash closes the text.  And
a name that is only declared is not given: the field that it names has its default, though
a reference to it stands for the empty text.

## Main definitions

* `EnvFile.assignment` — one assignment at the start of a text.
* `EnvFile.assignments` — the assignments of a file.
* `EnvFile.expand` — a text with its references replaced.
* `EnvFile.bindings` — what the names of a file stand for.
-/

namespace ClientTrial
namespace EnvFile

/-! ### Lines -/

/-- A character that ends a line. -/
def isBreak (c : Char) : Bool := c = '\n' || c = '\r'

/-- A blank within a line. -/
def isGap (c : Char) : Bool := Text.isBlank c && !isBreak c

/-- Line ends of every convention as line feeds, and no mark of the byte order at the start. -/
def normalize : List Char → List Char
  | '\ufeff' :: s => lineFeeds s
  | s => lineFeeds s
where
  /-- Line ends of every convention as line feeds. -/
  lineFeeds : List Char → List Char
    | [] => []
    | '\r' :: '\n' :: s => '\n' :: lineFeeds s
    | '\r' :: s => '\n' :: lineFeeds s
    | c :: s => c :: lineFeeds s

/-- What follows the line that a text begins in. -/
def nextLine (s : List Char) : List Char := (s.dropWhile fun c => !isBreak c).drop 1

/-- A part of an assignment and what follows it, or, if it is malformed, the place where that was
noticed. -/
abbrev Scan (α : Type) := Except (List Char) (α × List Char)

/-! ### Names -/

/-- What follows the word `export` and the blanks after it, if a text begins so. -/
def afterExport (s : List Char) : List Char :=
  if "export".toList.isPrefixOf s then
    match s.drop 6 with
    | c :: rest => if isGap c then rest.dropWhile isGap else s
    | [] => s
  else s

/-- A name of at least one character. -/
def nonemptyName (s name rest : List Char) : Scan (Option (List Char)) :=
  if name = [] then .error s else .ok (some name, rest)

/-- A name, or none before a comment. -/
def name (s : List Char) : Scan (Option (List Char)) :=
  match s with
  | '#' :: _ => .ok (none, s)
  | '\x27' :: after =>
    match after.span (· ≠ '\x27') with
    | (_, []) => .error s
    | (name, _ :: rest) => nonemptyName s name rest
  | _ =>
    let (name, rest) := s.span fun c => c ≠ '=' && c ≠ '#' && !Text.isBlank c
    nonemptyName s name rest

/-! ### Texts -/

/-- A text up to its closing quote, and what follows.  A backslash takes the next character with it,
so that a quote after one closes nothing. -/
def upToQuote (quote : Char) : List Char → Option (List Char × List Char)
  | [] => none
  | '\x5c' :: c :: rest =>
    (upToQuote quote rest).map fun (text, after) => ('\x5c' :: c :: text, after)
  | c :: rest =>
    if c = quote then some ([], rest)
    else (upToQuote quote rest).map fun (text, after) => (c :: text, after)

/-- The character that an escape stands for between single quotes. -/
def escaped? (c : Char) : Option Char :=
  if c = '\x5c' ∨ c = '\x27' then some c else none

/-- The character that an escape stands for between double quotes. -/
def escapedWithin? (c : Char) : Option Char :=
  match c with
  | '\x5c' | '\x27' | '\x22' => some c
  | 'a' => some '\x07'
  | 'b' => some '\x08'
  | 'f' => some '\x0c'
  | 'n' => some '\n'
  | 'r' => some '\r'
  | 't' => some '\t'
  | 'v' => some '\x0b'
  | _ => none

/-- A text with its escapes replaced. -/
def unescape (escape : Char → Option Char) : List Char → List Char
  | [] => []
  | [c] => [c]
  | c :: d :: rest =>
    if c = '\x5c' then
      match escape d with
      | some e => e :: unescape escape rest
      | none => c :: unescape escape (d :: rest)
    else c :: unescape escape (d :: rest)

/-- A text up to a comment, which follows a blank. -/
def beforeComment : List Char → List Char
  | [] => []
  | c :: rest =>
    if Text.isBlank c && (rest.dropWhile Text.isBlank).head? = some '#' then []
    else c :: beforeComment rest

/-- A text after its opening quote. -/
def quotedText (s after : List Char) (quote : Char) (escape : Char → Option Char) :
    Scan (List Char) :=
  match upToQuote quote after with
  | none => .error s
  | some (text, rest) => .ok (unescape escape text, rest)

/-- The text of an assignment, which begins after the equals sign.  The blanks there count when a
comment begins at once, so that the text is empty. -/
def text (s : List Char) : Scan (List Char) :=
  match s.dropWhile isGap with
  | '\x27' :: after => quotedText s after '\x27' escaped?
  | '\x22' :: after => quotedText s after '\x22' escapedWithin?
  | _ =>
    let (part, rest) := s.span fun c => !isBreak c
    .ok (Text.trim Text.isBlank (beforeComment part), rest)

/-! ### Assignments -/

/-- What follows a comment, if one begins after some blanks. -/
def afterComment (s : List Char) : List Char :=
  match s.dropWhile isGap with
  | '#' :: rest => rest.dropWhile fun c => !isBreak c
  | _ => s

/-- What follows the end of a line, which may be preceded by a comment. -/
def afterLine (s : List Char) : Except (List Char) (List Char) :=
  let s := afterComment s
  match s.dropWhile isGap with
  | [] => .ok []
  | c :: rest => if isBreak c then .ok rest else .error s

/-- An assignment at the start of a text.  There is none on a line of comment; a name that is only
declared has no text. -/
def assignment (s : List Char) : Scan (Option (List Char × Option (List Char))) :=
  (name (afterExport s)).bind fun (name, s) =>
    (textAfterSign (s.dropWhile isGap)).bind fun (text, s) =>
      (afterLine s).map fun rest => (name.map fun name => (name, text), rest)
where
  /-- The text after an equals sign, if there is one. -/
  textAfterSign : List Char → Scan (Option (List Char))
    | '=' :: rest => (text rest).map fun (t, rest) => (some t, rest)
    | s => .ok (none, s)

/-- The assignments of a text; `fuel` bounds how many lines are looked at. -/
def assignmentsUpTo : (fuel : Nat) → List Char → List (List Char × Option (List Char))
  | 0, _ => []
  | fuel + 1, s =>
    match s.dropWhile Text.isBlank with
    | [] => []
    | s =>
      match assignment s with
      | .ok (some a, rest) => a :: assignmentsUpTo fuel rest
      | .ok (none, rest) => assignmentsUpTo fuel rest
      | .error at_ => assignmentsUpTo fuel (nextLine at_)

/-- The assignments of a file. -/
def assignments (file : String) : List (List Char × Option (List Char)) :=
  let s := normalize file.toList
  assignmentsUpTo (s.length + 1) s

/-! ### References -/

/-- A reference after its opening brace: the name, the text for a name that stands for nothing, and
what follows. -/
def reference? (s : List Char) : Option (List Char × List Char × List Char) :=
  match s.span fun c => c ≠ '\x7d' && c ≠ ':' with
  | (name, '\x7d' :: rest) => some (name, [], rest)
  | (name, ':' :: '-' :: rest) =>
    match rest.span (· ≠ '\x7d') with
    | (default, '\x7d' :: rest) => some (name, default, rest)
    | _ => none
  | _ => none

/-- A text with its references replaced; `value?` tells what a name stands for, and `fuel` bounds
the steps. -/
def expandUpTo (value? : String → Option String) : (fuel : Nat) → List Char → List Char
  | 0, s => s
  | _ + 1, [] => []
  | fuel + 1, '$' :: '\x7b' :: rest =>
    match reference? rest with
    | some (name, default, rest) =>
      ((value? (String.ofList name)).map String.toList).getD default ++
        expandUpTo value? fuel rest
    | none => '$' :: expandUpTo value? fuel ('\x7b' :: rest)
  | fuel + 1, c :: rest => c :: expandUpTo value? fuel rest

/-- A text with its references replaced. -/
def expand (value? : String → Option String) (s : List Char) : String :=
  String.ofList (expandUpTo value? (s.length + 1) s)

/-! ### What names stand for -/

/-- The list with a value under a name, in the old position if there was one. -/
def assign (name : String) (value : Option String) :
    List (String × Option String) → List (String × Option String)
  | [] => [(name, value)]
  | (n, v) :: rest => if n = name then (n, value) :: rest else (n, v) :: assign name value rest

/-- What a name stands for after some assignments: what was assigned to it, or else what it stands
for in the environment.  A name that is only declared stands for the empty text. -/
def valueOf? (environ : List (String × String)) (known : List (String × Option String))
    (name : String) : Option String :=
  match known.lookup name with
  | some value => some (value.getD "")
  | none => environ.lookup name

/-- What the names of some assignments stand for, after those that are known. -/
def resolve (environ : List (String × String)) :
    (known : List (String × Option String)) → List (List Char × Option (List Char)) →
      List (String × Option String)
  | known, [] => known
  | known, (name, text) :: rest =>
    resolve environ
      (assign (String.ofList name) (text.map (expand (valueOf? environ known))) known) rest

/-- What the names of a file stand for, in the order of their first assignment.  A name that is
only declared stands for nothing. -/
def bindings (environ : List (String × String)) (file : String) :
    List (String × Option String) := resolve environ [] (assignments file)

end EnvFile
end ClientTrial
