import ClientTrial.Json.Basic

/-!
# Reading JSON

The reader accepts any JSON text, with the three words for numbers that are not
finite, and keeps the order of members and the difference between whole and
floating-point numbers.  A text is read in two steps: first each character or
escape becomes a code, then surrogate pairs are joined; a lone surrogate is
refused.

## Main definitions

* `Json.codes?`, `Json.joinPairs` — the two steps of reading a text.
* `Json.number?` — a number.
* `Json.value?` — a tree at the start of a text, and what follows it.
* `Json.parse?` — the tree that a whole text denotes.
-/

namespace ClientTrial
namespace Json

/-- White space between tokens. -/
def isGap (c : Char) : Bool := c = ' ' || c = '\t' || c = '\n' || c = '\r'

/-- A text without the white space at its start. -/
def skip (s : List Char) : List Char := s.dropWhile isGap

/-! ### Texts -/

/-- The value of a hexadecimal digit. -/
def hexValue? (c : Char) : Option Nat :=
  let n := c.toNat
  if 48 ≤ n ∧ n ≤ 57 then some (n - 48)
  else if 97 ≤ n ∧ n ≤ 102 then some (n - 87)
  else if 65 ≤ n ∧ n ≤ 70 then some (n - 55)
  else none

/-- The code unit of four hexadecimal digits. -/
def unit? (a b c d : Char) : Option Nat := do
  pure ((((← hexValue? a) * 16 + (← hexValue? b)) * 16 + (← hexValue? c)) * 16 + (← hexValue? d))

/-- The character that an escape letter stands for. -/
def escaped? (c : Char) : Option Char :=
  if c = '\x22' ∨ c = '\x5c' ∨ c = '/' then some c
  else if c = 'n' then some '\n'
  else if c = 'r' then some '\r'
  else if c = 't' then some '\t'
  else if c = 'b' then some '\x08'
  else if c = 'f' then some '\x0c'
  else none

/-- The codes of a text up to its closing quote, and what follows. -/
def codes? : List Char → Option (List Nat × List Char)
  | [] => none
  | '\x22' :: rest => some ([], rest)
  | '\x5c' :: 'u' :: a :: b :: c :: d :: rest => do
    let n ← unit? a b c d
    let (codes, rest) ← codes? rest
    pure (n :: codes, rest)
  | '\x5c' :: c :: rest => do
    let e ← escaped? c
    let (codes, rest) ← codes? rest
    pure (e.toNat :: codes, rest)
  | c :: rest =>
    if c.toNat < 0x20 ∨ c = '\x5c' then none
    else do
      let (codes, rest) ← codes? rest
      pure (c.toNat :: codes, rest)

/-- A code is the first unit of a pair. -/
def isHigh (n : Nat) : Bool := 0xd800 ≤ n && n < 0xdc00

/-- A code is the second unit of a pair. -/
def isLow (n : Nat) : Bool := 0xdc00 ≤ n && n < 0xe000

/-- The characters of a list of codes. -/
def joinPairs : List Nat → Option (List Char)
  | [] => some []
  | [n] => if isHigh n || isLow n then none else some [Char.ofNat n]
  | n :: m :: rest =>
    if isHigh n then
      if isLow m then
        (joinPairs rest).map (Char.ofNat (0x10000 + (n - 0xd800) * 1024 + (m - 0xdc00)) :: ·)
      else none
    else if isLow n then none
    else (joinPairs (m :: rest)).map (Char.ofNat n :: ·)

/-- A text after its opening quote, and what follows. -/
def text? (s : List Char) : Option (String × List Char) := do
  let (codes, rest) ← codes? s
  let chars ← joinPairs codes
  pure (String.ofList chars, rest)

/-! ### Numbers -/

/-- The characters that a number consists of. -/
def isNumeric (c : Char) : Bool :=
  (Decimal.digit? c).isSome || c = '-' || c = '+' || c = '.' || c = 'e' || c = 'E'

/-- A magnitude: whole if it is made of digits alone. -/
def magnitude? (negative : Bool) (s : List Char) : Option Json :=
  match Decimal.ofDigits? s with
  | some n => some (.int (if negative then -(n : Int) else n))
  | none => (Decimal.unsigned? s).map fun x =>
      .float (if negative then -x.toFloat else x.toFloat)

/-- A number made of the given characters. -/
def number? : List Char → Option Json
  | '-' :: s => magnitude? true s
  | s => magnitude? false s

/-! ### Trees -/

/-- A word at the start of a text, and what follows. -/
def word? (w : String) (t : Json) (s : List Char) : Option (Json × List Char) :=
  if w.toList.isPrefixOf s then some (t, s.drop w.length) else none

mutual

/-- A tree at the start of a text, and what follows; `fuel` bounds the steps. -/
def value? : (fuel : Nat) → List Char → Option (Json × List Char)
  | 0, _ => none
  | fuel + 1, s =>
    match skip s with
    | [] => none
    | '\x22' :: rest => (text? rest).map fun (t, rest) => (.str t, rest)
    | '[' :: rest =>
      match skip rest with
      | ']' :: rest => some (.arr [], rest)
      | rest => (items? fuel rest).map fun (items, rest) => (.arr items, rest)
    | '\x7b' :: rest =>
      match skip rest with
      | '\x7d' :: rest => some (.obj [], rest)
      | rest => (members? fuel rest).map fun (members, rest) => (.obj members, rest)
    | 'n' :: rest => word? "null" .null ('n' :: rest)
    | 't' :: rest => word? "true" (.bool true) ('t' :: rest)
    | 'f' :: rest => word? "false" (.bool false) ('f' :: rest)
    | 'N' :: rest => word? "NaN" (.float (0.0 / 0.0)) ('N' :: rest)
    | 'I' :: rest => word? "Infinity" (.float (1.0 / 0.0)) ('I' :: rest)
    | '-' :: 'I' :: rest => word? "-Infinity" (.float (-1.0 / 0.0)) ('-' :: 'I' :: rest)
    | s =>
      let (token, rest) := s.span isNumeric
      (number? token).map fun t => (t, rest)

/-- The items of an array from one that is due, up to the closing bracket. -/
def items? : (fuel : Nat) → List Char → Option (List Json × List Char)
  | 0, _ => none
  | fuel + 1, s => do
    let (item, rest) ← value? fuel s
    match skip rest with
    | ',' :: rest =>
      let (items, rest) ← items? fuel rest
      pure (item :: items, rest)
    | ']' :: rest => pure ([item], rest)
    | _ => none

/-- The members of an object from one that is due, up to the closing brace. -/
def members? : (fuel : Nat) → List Char → Option (List (String × Json) × List Char)
  | 0, _ => none
  | fuel + 1, s =>
    match skip s with
    | '\x22' :: rest => do
      let (name, rest) ← text? rest
      match skip rest with
      | ':' :: rest =>
        let (value, rest) ← value? fuel rest
        match skip rest with
        | ',' :: rest =>
          let (members, rest) ← members? fuel rest
          pure ((name, value) :: members, rest)
        | '\x7d' :: rest => pure ([(name, value)], rest)
        | _ => none
      | _ => none
    | _ => none

end

/-- The tree that a text denotes, with nothing but white space around it. -/
def parse? (s : String) : Option Json :=
  match value? (2 * s.length + 2) s.toList with
  | some (t, rest) => if (skip rest).isEmpty then some t else none
  | none => none

end Json
end ClientTrial
