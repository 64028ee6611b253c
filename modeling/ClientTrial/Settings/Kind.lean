import ClientTrial.Decimal.Binary
import ClientTrial.Decimal.Reading
import ClientTrial.Route
import ClientTrial.Settings.Problem
import ClientTrial.Text.Case
import ClientTrial.Text.Infix

/-!
# Kinds of settings

A setting is given as a JSON tree on the command line or by a program, and as a
text in the environment or a file.  Its kind says which trees and texts are
accepted and what they mean.  A text may stand for a number or a truth value; a
whole number may be written with zeros in front, with underscores and with a
fraction of zeros.

## Main definitions

* `Kind` — the kinds.
* `Kind.Value` — the values of a kind.
* `Kind.read` — the value that a tree stands for, or the reasons to refuse it.
* `Kind.write` — the tree that stands for a value.

## Main results

* `read_write_text` — a text is accepted as it is written.
-/

namespace ClientTrial

/-- A kind of setting. -/
inductive Kind where
  /-- A text with at least so many characters. -/
  | text (least : Nat)
  /-- A text, or nothing; a text of blanks is nothing. -/
  | optionalText
  /-- A truth value. -/
  | flag
  /-- A whole number between bounds. -/
  | whole (least : Int) (greatest : Option Int)
  /-- A port of the host, or nothing; zero is nothing. -/
  | hostPort
  /-- A number that is not negative, or, if `strict`, positive. -/
  | real (strict : Bool)
  /-- A positive number, or nothing. -/
  | optionalReal
  /-- The path of a directory, or nothing. -/
  | directory
  /-- A list of markers. -/
  | markers
  /-- The name of a log level. -/
  | level
  /-- The name of a log format. -/
  | format
  deriving DecidableEq, Repr

namespace Kind

/-- The values of a kind. -/
abbrev Value : Kind → Type
  | .text _ | .level | .format => String
  | .optionalText => Option String
  | .flag => Bool
  | .whole _ _ => Int
  | .hostPort => Option Int
  | .real _ => Float
  | .optionalReal => Option Float
  | .directory => Option Route
  | .markers => List String

/-- Why a tree is refused: the reasons, with the item that each concerns. -/
abbrev Refusal := List (Option Nat × Problem)

/-- A refusal for a single reason. -/
def refuse {α : Type} (p : Problem) : Except Refusal α := .error [(none, p)]

/-! ### Texts -/

/-- A text. -/
def readText : Json → Except Problem String
  | .str s => .ok s
  | _ => .error .notText

/-- A text with at least so many characters. -/
def readLongText (least : Nat) (t : Json) : Except Problem String := do
  let s ← readText t
  if s.length < least then .error (.tooShort least) else .ok s

/-- A text, or nothing. -/
def readOptionalText : Json → Except Problem (Option String)
  | .null => .ok none
  | .str s => .ok (if Text.allBlank s then none else some s)
  | _ => .error .notText

/-- A path. -/
def readPath : Json → Except Problem (Option Route)
  | .null => .ok none
  | .str s => .ok (some (Route.ofText s))
  | _ => .error .notPath

/-! ### Numbers -/

/-- A text without white space at its ends. -/
def trimmed (s : String) : List Char := Text.trim Text.isSpace s.toList

/-- A text without its underscores, which must be single and neither first nor last. -/
def joined? (s : List Char) : Option (List Char) :=
  if s.head? = some '_' ∨ s.getLast? = some '_' ∨ Text.occursIn ['_', '_'] s then none
  else some (s.filter (· ≠ '_'))

/-- A text after a sign of plus, which no second sign may follow. -/
def withoutPlus? : List Char → Option (List Char)
  | '+' :: s => if s.head? = some '+' ∨ s.head? = some '-' then none else some s
  | s => some s

/-- What is left after `last` and any more zeros and underscores.  It may begin with a sign of
minus; `last` stays before a point and at the end. -/
def afterZeros? (last : Char) : List Char → Option (List Char)
  | [] => some [last]
  | c :: s =>
    if c = '0' ∨ c = '_' then afterZeros? c s
    else if c = '.' then some (last :: c :: s)
    else if c = '-' ∨ (Decimal.digit? c).isSome then some (c :: s)
    else none

/-- A text without the zeros at its start. -/
def withoutZeros? : List Char → Option (List Char)
  | [] => none
  | c :: s =>
    if c = '0' then afterZeros? c s
    else if c = '-' ∨ (Decimal.digit? c).isSome then some (c :: s)
    else none

/-- A text without a fraction of zeros at its end. -/
def withoutFraction (s : List Char) : List Char :=
  match s.span (· ≠ '.') with
  | (before, _ :: '0' :: zeros) => if zeros.all (· = '0') then before else s
  | _ => s

/-- A whole number as it is left of a text: digits without a zero in front, after a sign of minus
if there is one. -/
def bareWhole? (s : List Char) : Option (List Char) := do
  let s := withoutFraction (← withoutZeros? (← withoutPlus? s))
  pure ((joined? s).getD s)

/-- The magnitude that digits denote.  That there are too many is noticed before anything that may
follow them. -/
def magnitude (s : List Char) : Except Problem Nat :=
  if s.head? = some '0' ∧ s ≠ ['0'] then .error .unreadableWhole
  else if Decimal.mostDigits < (s.takeWhile fun c => (Decimal.digit? c).isSome).length then
    .error .oversized
  else
    match Decimal.ofDigits? s with
    | some n => .ok n
    | none => .error .unreadableWhole

/-- The whole number that a text denotes. -/
def wholeOfText (s : List Char) : Except Problem Int :=
  match bareWhole? s with
  | none => .error .unreadableWhole
  | some ('-' :: s) => (magnitude s).map fun n => -(n : Int)
  | some s => (magnitude s).map Int.ofNat

/-- The first magnitude beyond the whole numbers of a machine word with a sign. -/
def wordLimit : Nat := Nat.pow 2 63

/-- The whole number that a floating-point number is. -/
def wholeOfFloat (x : Float) : Except Problem Int :=
  match Decimal.Binary.ofFloat x with
  | .nan | .infinite _ => .error .notFinite
  | .finite negative significand exponent =>
    let numerator := Decimal.Binary.numerator significand exponent
    let denominator := Decimal.Binary.denominator exponent
    if numerator % denominator ≠ 0 then .error .fractional
    else
      let n : Int := (numerator / denominator : Nat)
      let n := if negative then -n else n
      if n.natAbs < wordLimit then .ok n else .error .oversized

/-- A whole number. -/
def readWhole : Json → Except Problem Int
  | .int n => .ok n
  | .bool b => .ok (if b then 1 else 0)
  | .float x => wholeOfFloat x
  | .str s => wholeOfText (trimmed s)
  | _ => .error .notWhole

/-- A whole number between bounds. -/
def readBounded (least : Int) (greatest : Option Int) (t : Json) : Except Problem Int := do
  let n ← readWhole t
  match greatest.filter (· < n) with
  | some greatest => .error (.above greatest)
  | none => if n < least then .error (.below least) else .ok n

/-- A tree that says that the daemon is to choose the port. -/
def isUnset : Json → Bool
  | .null => true
  | .str s => s = "" || s = "0"
  | .int n => n = 0
  | .float x => x == 0.0
  | .bool b => !b
  | _ => false

/-- A port of the host, or nothing. -/
def readHostPort (t : Json) : Except Problem (Option Int) :=
  if isUnset t then .ok none else (readBounded 0 (some 65535) t).map some

/-- The number that a text denotes.  White space may stand around a number without underscores
only. -/
def realOfText? (s : String) : Option Float :=
  (Decimal.float? (trimmed s)).or ((joined? s.toList).bind Decimal.float?)

/-- A whole number as a floating-point number, if there is one near enough. -/
def realOfWhole? (n : Int) : Option Float :=
  let x := Decimal.Numeral.toFloat ⟨n.natAbs, 0⟩
  if x.isFinite then some (if n < 0 then -x else x) else none

/-- A number. -/
def readReal : Json → Except Problem Float
  | .float x => .ok x
  | .int n => (realOfWhole? n).elim (.error .notNumber) .ok
  | .bool b => .ok (if b then 1.0 else 0.0)
  | .str s => (realOfText? s).elim (.error .unreadableNumber) .ok
  | _ => .error .notNumber

/-- A number that is not negative, or positive. -/
def readPositive (strict : Bool) (t : Json) : Except Problem Float := do
  let x ← readReal t
  if strict then if 0.0 < x then .ok x else .error (.notAbove 0)
  else if 0.0 ≤ x then .ok x else .error (.below 0)

/-- A positive number, or nothing. -/
def readOptionalReal : Json → Except Problem (Option Float)
  | .null => .ok none
  | t => (readPositive true t).map some

/-! ### Truth values -/

/-- The truth value of a word. -/
def flagOfWord? (s : String) : Option Bool :=
  let word := String.ofList (s.toList.map Char.toLower)
  if word ∈ ["0", "off", "f", "false", "n", "no"] then some false
  else if word ∈ ["1", "on", "t", "true", "y", "yes"] then some true
  else none

/-- The truth value of a number. -/
def flagOfWhole (n : Int) : Except Problem Bool :=
  if n = 0 then .ok false
  else if n = 1 then .ok true
  else if -(wordLimit : Int) ≤ n ∧ n < wordLimit then .error .unreadableFlag
  else .error .notFlag

/-- A truth value. -/
def readFlag : Json → Except Problem Bool
  | .bool b => .ok b
  | .str s =>
    match flagOfWord? s with
    | some b => .ok b
    | none => .error .unreadableFlag
  | .int n => flagOfWhole n
  | .float x =>
    match wholeOfFloat x with
    | .ok n => flagOfWhole n
    | .error _ => .error .notFlag
  | _ => .error .notFlag

/-! ### Markers, levels and formats -/

/-- The markers of a text: the pieces between commas, stripped, blank pieces left out. -/
def markersOfText (s : String) : List String :=
  ((Text.splitOn ',' s.toList).map (Text.trim Text.isBlank)).filter (· ≠ [])
    |>.map String.ofList

/-- The items of a list from a given one on, or every reason to refuse one. -/
def readItems : (index : Nat) → List Json → Except Refusal (List String)
  | _, [] => .ok []
  | index, t :: rest =>
    match readText t, readItems (index + 1) rest with
    | .ok s, .ok list => .ok (s :: list)
    | .ok _, .error reasons => .error reasons
    | .error p, .ok _ => .error [(some index, p)]
    | .error p, .error reasons => .error ((some index, p) :: reasons)

/-- A list of at least one marker. -/
def nonempty (list : List String) : Except Refusal (List String) :=
  if list.isEmpty then refuse .noMarkers else .ok list

/-- Markers. -/
def readMarkers : Json → Except Refusal (List String)
  | .str s => nonempty (markersOfText s)
  | .arr items => do nonempty (← readItems 0 items)
  | _ => refuse .notList

/-- The name of a log level, in any case of letters. -/
def readLevel (t : Json) : Except Problem String := do
  let s := Text.upper (← readText t)
  if s ∈ ["DEBUG", "INFO", "WARNING", "ERROR", "CRITICAL"] then .ok s else .error .unknownLevel

/-- The name of a log format, in any case of letters. -/
def readFormat (t : Json) : Except Problem String := do
  let s := Text.lower (← readText t)
  if s ∈ ["json", "text"] then .ok s else .error .unknownFormat

/-! ### Every kind -/

/-- A single reason as a refusal. -/
def single {α : Type} : Except Problem α → Except Refusal α
  | .ok a => .ok a
  | .error p => refuse p

/-- The value that a tree stands for, or the reasons to refuse it. -/
def read : (kind : Kind) → Json → Except Refusal kind.Value
  | .text least, t => single (readLongText least t)
  | .optionalText, t => single (readOptionalText t)
  | .flag, t => single (readFlag t)
  | .whole least greatest, t => single (readBounded least greatest t)
  | .hostPort, t => single (readHostPort t)
  | .real strict, t => single (readPositive strict t)
  | .optionalReal, t => single (readOptionalReal t)
  | .directory, t => single (readPath t)
  | .markers, t => readMarkers t
  | .level, t => single (readLevel t)
  | .format, t => single (readFormat t)

/-- A value or null. -/
def orNull {α : Type} (f : α → Json) : Option α → Json
  | none => .null
  | some a => f a

/-- The tree that stands for a value. -/
def write : (kind : Kind) → kind.Value → Json
  | .text _, s | .level, s | .format, s => .str s
  | .optionalText, s => orNull .str s
  | .flag, b => .bool b
  | .whole _ _, n => .int n
  | .hostPort, n => orNull .int n
  | .real _, x => .float x
  | .optionalReal, x => orNull .float x
  | .directory, r => orNull (fun r => .str r.text) r
  | .markers, list => .strings list

/-! ### Reading what was written -/

theorem read_write_text {least : Nat} {s : String} (h : least ≤ s.length) :
    read (.text least) (write (.text least) s) = .ok s := by
  have : ¬ s.length < least := by omega
  simp [read, write, readLongText, readText, single, this, bind, Except.bind]

end Kind
end ClientTrial
