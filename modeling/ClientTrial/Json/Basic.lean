import ClientTrial.Decimal.Shortest

/-!
# JSON trees

Details of errors, reports and structured log lines are JSON objects whose
members keep the order in which they were put in.  Whole numbers have any size
and are kept apart from floating-point numbers.

## Main definitions

* `Json` — a tree.
* `Json.sort` — the word for the sort of a tree.
* `Json.member?` — the member of an object with a given name.
* `Json.escape`, `Json.render` — the text of a tree, in ASCII.
* `Json.fits` — no number of a tree is too long to be written.
* `Json.compact`, `Json.pretty` — a tree on one line, and indented by two.
-/

namespace ClientTrial

/-- A JSON tree. -/
inductive Json where
  /-- The value `null`. -/
  | null
  /-- A truth value. -/
  | bool (value : Bool)
  /-- A whole number. -/
  | int (value : Int)
  /-- A floating-point number. -/
  | float (value : Float)
  /-- A text. -/
  | str (value : String)
  /-- An array. -/
  | arr (items : List Json)
  /-- An object, its members in order. -/
  | obj (members : List (String × Json))
  deriving Inhabited

namespace Json

/-- The array of some texts. -/
def strings (list : List String) : Json := .arr (list.map .str)

/-- A text, or `null`. -/
def ofText? : Option String → Json
  | none => .null
  | some s => .str s

/-- The word by which messages call the sort of a tree. -/
def sort : Json → String
  | .null => "NoneType"
  | .bool _ => "bool"
  | .int _ => "int"
  | .float _ => "float"
  | .str _ => "str"
  | .arr _ => "list"
  | .obj _ => "dict"

/-- The member of an object with a given name. -/
def member? (name : String) : Json → Option Json
  | .obj members => members.lookup name
  | _ => none

/-! ### Writing -/

/-- The four hexadecimal digits of a code unit. -/
def hexDigit (n : Nat) : Char :=
  if n < 10 then Char.ofNat (48 + n) else Char.ofNat (87 + n)

/-- A code unit written by its number. -/
def escapeUnit (n : Nat) : List Char :=
  ['\x5c', 'u', hexDigit (n / 4096 % 16), hexDigit (n / 256 % 16), hexDigit (n / 16 % 16),
    hexDigit (n % 16)]

/-- A character within a text.  Quote, backslash and control characters are escaped, and so is
everything beyond the tilde, as one code unit or as a surrogate pair. -/
def escape (c : Char) : List Char :=
  if c = '\x22' ∨ c = '\x5c' then ['\x5c', c]
  else if c = '\n' then ['\x5c', 'n']
  else if c = '\r' then ['\x5c', 'r']
  else if c = '\t' then ['\x5c', 't']
  else if c = '\x08' then ['\x5c', 'b']
  else if c = '\x0c' then ['\x5c', 'f']
  else if 0x20 ≤ c.toNat ∧ c.toNat ≤ 0x7e then [c]
  else if c.toNat < 0x10000 then escapeUnit c.toNat
  else
    let n := c.toNat - 0x10000
    escapeUnit (0xd800 + n / 1024) ++ escapeUnit (0xdc00 + n % 1024)

/-- A text between double quotes. -/
def quote (s : String) : List Char := '\x22' :: s.toList.flatMap escape ++ ['\x22']

/-- A whole number. -/
def intText (n : Int) : List Char :=
  if n < 0 then '-' :: Decimal.digits n.natAbs else Decimal.digits n.natAbs

/-- The line break and indentation before an item, if items stand on lines of their own. -/
def gap (indent : Option Nat) (depth : Nat) : List Char :=
  match indent with
  | none => []
  | some width => '\n' :: List.replicate (width * depth) ' '

/-- What stands between two items. -/
def comma (indent : Option Nat) (depth : Nat) : List Char :=
  match indent with
  | none => [',', ' ']
  | some _ => ',' :: gap indent depth

mutual

/-- The text of a tree that stands at a given depth. -/
def render (indent : Option Nat) (depth : Nat) : Json → List Char
  | .null => "null".toList
  | .bool true => "true".toList
  | .bool false => "false".toList
  | .int n => intText n
  | .float x => (Decimal.jsonFormat.render x).toList
  | .str s => quote s
  | .arr [] => ['[', ']']
  | .arr (item :: items) =>
    '[' :: gap indent (depth + 1) ++ render indent (depth + 1) item ++
      renderItems indent (depth + 1) items ++ gap indent depth ++ [']']
  | .obj [] => ['\x7b', '\x7d']
  | .obj ((name, value) :: members) =>
    '\x7b' :: gap indent (depth + 1) ++ quote name ++ [':', ' '] ++
      render indent (depth + 1) value ++ renderMembers indent (depth + 1) members ++
      gap indent depth ++ ['\x7d']

/-- The items after the first. -/
def renderItems (indent : Option Nat) (depth : Nat) : List Json → List Char
  | [] => []
  | item :: items =>
    comma indent depth ++ render indent depth item ++ renderItems indent depth items

/-- The members after the first. -/
def renderMembers (indent : Option Nat) (depth : Nat) : List (String × Json) → List Char
  | [] => []
  | (name, value) :: members =>
    comma indent depth ++ quote name ++ [':', ' '] ++ render indent depth value ++
      renderMembers indent depth members

end

/-! ### Numbers that are too long -/

/-- A whole number has more digits than may be written. -/
def isOversize (n : Int) : Bool := Decimal.mostDigits < (Decimal.digits n.natAbs).length

mutual

/-- No whole number of a tree has more digits than may be written. -/
def fits : Json → Bool
  | .int n => !isOversize n
  | .arr items => itemsFit items
  | .obj members => membersFit members
  | .null | .bool _ | .float _ | .str _ => true

/-- The same of some items. -/
def itemsFit : List Json → Bool
  | [] => true
  | item :: items => item.fits && itemsFit items

/-- The same of some members. -/
def membersFit : List (String × Json) → Bool
  | [] => true
  | (_, value) :: members => value.fits && membersFit members

end

/-- A tree on one line. -/
def compact (t : Json) : String := String.ofList (render none 0 t)

/-- A tree with its items on lines of their own, each depth indented by two spaces. -/
def pretty (t : Json) : String := String.ofList (render (some 2) 0 t)

end Json
end ClientTrial
