import ClientTrial.Json.Basic
import ClientTrial.Moment
import ClientTrial.Text.Quoted

/-!
# Data in reports

The payload of an error is a tree as JSON knows it that may also hold moments.
In a JSON text a moment stands as a text; where a datum is shown in the middle of
a sentence it is written out the way literals are, texts within it in quotes.

## Main definitions

* `Datum` — a tree with moments.
* `Datum.toJson` — the tree with its moments written out.
* `Datum.shown` — the datum in a sentence.

## Main results

* `Datum.toJson_ofJson` — a tree without moments is unchanged.
-/

namespace ClientTrial

/-- A tree as JSON knows it that may also hold moments. -/
inductive Datum where
  | null
  | bool (value : Bool)
  | int (value : Int)
  | float (value : Float)
  | str (value : String)
  | moment (value : Moment)
  | arr (items : List Datum)
  | obj (members : List (String × Datum))
  deriving Inhabited

namespace Datum

/-! ### Trees without moments -/

mutual

/-- The tree with its moments written out. -/
def toJson : Datum → Json
  | .null => .null
  | .bool b => .bool b
  | .int n => .int n
  | .float x => .float x
  | .str s => .str s
  | .moment t => .str t.spaced
  | .arr items => .arr (itemsToJson items)
  | .obj members => .obj (membersToJson members)

/-- The items with their moments written out. -/
def itemsToJson : List Datum → List Json
  | [] => []
  | item :: rest => item.toJson :: itemsToJson rest

/-- The members with their moments written out. -/
def membersToJson : List (String × Datum) → List (String × Json)
  | [] => []
  | (name, value) :: rest => (name, value.toJson) :: membersToJson rest

end

mutual

/-- A tree as a datum. -/
def ofJson : Json → Datum
  | .null => .null
  | .bool b => .bool b
  | .int n => .int n
  | .float x => .float x
  | .str s => .str s
  | .arr items => .arr (itemsOfJson items)
  | .obj members => .obj (membersOfJson members)

/-- Trees as data. -/
def itemsOfJson : List Json → List Datum
  | [] => []
  | item :: rest => ofJson item :: itemsOfJson rest

/-- Members as data. -/
def membersOfJson : List (String × Json) → List (String × Datum)
  | [] => []
  | (name, value) :: rest => (name, ofJson value) :: membersOfJson rest

end

mutual

/-- A tree without moments is unchanged. -/
theorem toJson_ofJson : ∀ t : Json, (ofJson t).toJson = t
  | .null | .bool _ | .int _ | .float _ | .str _ => by simp [ofJson, toJson]
  | .arr items => by simp [ofJson, toJson, itemsToJson_itemsOfJson items]
  | .obj members => by simp [ofJson, toJson, membersToJson_membersOfJson members]

theorem itemsToJson_itemsOfJson : ∀ items : List Json, itemsToJson (itemsOfJson items) = items
  | [] => by simp [itemsOfJson, itemsToJson]
  | item :: rest => by
    simp [itemsOfJson, itemsToJson, toJson_ofJson item, itemsToJson_itemsOfJson rest]

theorem membersToJson_membersOfJson :
    ∀ members : List (String × Json), membersToJson (membersOfJson members) = members
  | [] => by simp [membersOfJson, membersToJson]
  | (name, value) :: rest => by
    simp [membersOfJson, membersToJson, toJson_ofJson value, membersToJson_membersOfJson rest]

end

/-! ### Data in sentences -/

/-- A number as a literal. -/
def intLiteral (n : Int) : String := String.ofList (Json.intText n)

/-- The offset of a moment as a literal. -/
def offsetLiteral : Option Int → List String
  | none => []
  | some 0 => ["tzinfo=datetime.timezone.utc"]
  | some micros =>
    let days := micros / Moment.dayMicros
    let seconds := micros % Moment.dayMicros / 1000000
    let rest := micros % 1000000
    let parts :=
      (if days = 0 then [] else ["days=" ++ intLiteral days]) ++
        (if seconds = 0 then [] else ["seconds=" ++ intLiteral seconds]) ++
          if rest = 0 then [] else ["microseconds=" ++ intLiteral rest]
    ["tzinfo=datetime.timezone(datetime.timedelta(" ++ ", ".intercalate parts ++ "))"]

/-- A moment as a literal: seconds and microseconds are left out where they end the list in
zeros. -/
def momentLiteral (t : Moment) : String :=
  let date := t.date
  let seconds := t.inDay / 1000000
  let micros := t.inDay % 1000000
  let clock : List Nat := [seconds / 3600, seconds / 60 % 60] ++
    (if seconds % 60 = 0 ∧ micros = 0 then [] else [seconds % 60]) ++
    if micros = 0 then [] else [micros]
  let fields := [date.year, (date.month : Int), (date.day : Int)] ++ clock.map Int.ofNat
  "datetime.datetime(" ++ ", ".intercalate (fields.map intLiteral ++ offsetLiteral t.offset) ++ ")"

mutual

/-- A datum as a literal. -/
def literal : Datum → String
  | .null => "None"
  | .bool true => "True"
  | .bool false => "False"
  | .int n => intLiteral n
  | .float x => Decimal.floatText x
  | .str s => Text.quoted s
  | .moment t => momentLiteral t
  | .arr items => "[" ++ ", ".intercalate (itemLiterals items) ++ "]"
  | .obj members => "\x7b" ++ ", ".intercalate (memberLiterals members) ++ "\x7d"

/-- The items of an array as literals. -/
def itemLiterals : List Datum → List String
  | [] => []
  | item :: rest => item.literal :: itemLiterals rest

/-- The members of an object as literals. -/
def memberLiterals : List (String × Datum) → List String
  | [] => []
  | (name, value) :: rest => (Text.quoted name ++ ": " ++ value.literal) :: memberLiterals rest

end

/-- A datum in a sentence: a text or a moment as it is, anything else as a literal. -/
def shown : Datum → String
  | .str s => s
  | .moment t => t.spaced
  | d => d.literal

end Datum
end ClientTrial
