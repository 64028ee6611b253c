import ClientTrial.Fault

/-!
# Problems with settings

A value that is given for a setting may be refused for one of a fixed number of
reasons.  Each has a code and a message.

## Main definitions

* `Problem` — the reasons.
* `Problem.code`, `Problem.message` — what is shown of a reason.
* `Issue` — a reason with the setting, and the item of a list, that it concerns.
-/

namespace ClientTrial

/-- Why a value is refused. -/
inductive Problem where
  /-- Not a text. -/
  | notText
  /-- A text with fewer characters than are needed. -/
  | tooShort (least : Nat)
  /-- Not a whole number. -/
  | notWhole
  /-- A text that does not denote a whole number. -/
  | unreadableWhole
  /-- A number with a fraction. -/
  | fractional
  /-- An infinity or not a number. -/
  | notFinite
  /-- A whole number that is too large to be read. -/
  | oversized
  /-- Not a number. -/
  | notNumber
  /-- A text that does not denote a number. -/
  | unreadableNumber
  /-- Not a truth value. -/
  | notFlag
  /-- A text or a number that does not denote a truth value. -/
  | unreadableFlag
  /-- Not a path. -/
  | notPath
  /-- Not a list. -/
  | notList
  /-- Below the least number that is allowed. -/
  | below (least : Int)
  /-- Not above a number that it must exceed. -/
  | notAbove (bound : Int)
  /-- Above the greatest number that is allowed. -/
  | above (greatest : Int)
  /-- A list of markers without a marker. -/
  | noMarkers
  /-- Not the name of a log level. -/
  | unknownLevel
  /-- Not the name of a log format. -/
  | unknownFormat
  deriving DecidableEq, Repr

namespace Problem

/-- The code of a reason. -/
def code : Problem → String
  | .notText => "string_type"
  | .tooShort _ => "string_too_short"
  | .notWhole => "int_type"
  | .unreadableWhole => "int_parsing"
  | .fractional => "int_from_float"
  | .notFinite => "finite_number"
  | .oversized => "int_parsing_size"
  | .notNumber => "float_type"
  | .unreadableNumber => "float_parsing"
  | .notFlag => "bool_type"
  | .unreadableFlag => "bool_parsing"
  | .notPath => "path_type"
  | .notList => "list_type"
  | .below _ => "greater_than_equal"
  | .notAbove _ => "greater_than"
  | .above _ => "less_than_equal"
  | .noMarkers | .unknownLevel | .unknownFormat => "value_error"

/-- The message for a reason. -/
def message : Problem → String
  | .notText => "Input should be a valid string"
  | .tooShort least =>
    "String should have at least " ++ Fault.numberText least ++
      if least = 1 then " character" else " characters"
  | .notWhole => "Input should be a valid integer"
  | .unreadableWhole => "Input should be a valid integer, unable to parse string as an integer"
  | .fractional => "Input should be a valid integer, got a number with a fractional part"
  | .notFinite => "Input should be a finite number"
  | .oversized => "Unable to parse input string as an integer, exceeded maximum size"
  | .notNumber => "Input should be a valid number"
  | .unreadableNumber => "Input should be a valid number, unable to parse string as a number"
  | .notFlag => "Input should be a valid boolean"
  | .unreadableFlag => "Input should be a valid boolean, unable to interpret input"
  | .notPath => "Input is not a valid path for <class 'pathlib.Path'>"
  | .notList => "Input should be a valid list"
  | .below least => "Input should be greater than or equal to " ++ Fault.numberText least
  | .notAbove bound => "Input should be greater than " ++ Fault.numberText bound
  | .above greatest => "Input should be less than or equal to " ++ Fault.numberText greatest
  | .noMarkers => "Value error, at least one expected marker is required"
  | .unknownLevel =>
    "Value error, log_level must be one of \x7b'CRITICAL', 'DEBUG', 'ERROR', 'INFO', 'WARNING'\x7d"
  | .unknownFormat => "Value error, log_format must be 'json' or 'text'"

end Problem

/-- A reason and what it concerns. -/
structure Issue where
  /-- The name of the setting. -/
  field : String
  /-- The item of the list, if it concerns one. -/
  item : Option Nat
  /-- The reason. -/
  problem : Problem
  deriving DecidableEq, Repr

end ClientTrial
