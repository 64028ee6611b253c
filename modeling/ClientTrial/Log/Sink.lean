import ClientTrial.Log.Logger
import ClientTrial.Log.Record

/-!
# Where log records go

Before logging is set up nothing is written.  Setting it up chooses a level and
a format; records below the level are dropped from then on, and two chatty
libraries are heard only from warnings on.

## Main definitions

* `Log.Format`, `Log.Setup` — the choices in force.
* `Log.Setup.choose` — logging is set up anew.
* `Log.Setup.threshold`, `Log.Setup.admits` — which records are written.
* `Log.Setup.written` — what a record adds to the output.
-/

namespace ClientTrial
namespace Log

/-- How records are written. -/
inductive Format where
  /-- As lines for people. -/
  | text
  /-- As JSON objects, with or without the place in the program. -/
  | structured (withOrigin : Bool)
  deriving DecidableEq, Repr

/-- A record in a format. -/
def Format.render : Format → Record → String
  | .text, r => r.line
  | .structured withOrigin, r => r.structured withOrigin

/-- The choices in force. -/
structure Setup where
  /-- The level from which on records are noticed. -/
  level : Level := .number 30
  /-- The format, once logging is set up. -/
  format : Option Format := none
  deriving DecidableEq, Repr

namespace Setup

/-- Logging set up anew with a level and a format, each given by a word.  A format that is not the
word `json` is the one for people; places are written with JSON at the level of details. -/
def choose (s : Setup) (level : Json) (format : String) : Except Fault Setup :=
  match level with
  | .str word =>
    (Level.ofWord s.level word).map fun level =>
      ⟨level, some (if format = "json" then .structured (word = "DEBUG") else .text)⟩
  | t => .error ⟨.type, "attribute name must be string, not '" ++ t.sort ++ "'"⟩

/-- The level from which on the records of a logger are noticed. -/
def threshold (s : Setup) (logger : String) : Int :=
  if s.format.isSome ∧ (belongsTo "docker" logger ∨ belongsTo "urllib3" logger) then 30
  else s.level.toInt

/-- A record of a level is written. -/
def admits (s : Setup) (logger : String) (level : Int) : Bool :=
  0 < level && s.threshold logger ≤ level && s.level.toInt ≤ level

/-- What a record adds to the output. -/
def written (s : Setup) (r : Record) : String :=
  match s.format with
  | none => ""
  | some format => if s.admits r.logger r.level then format.render r ++ "\n" else ""

end Setup
end Log
end ClientTrial
