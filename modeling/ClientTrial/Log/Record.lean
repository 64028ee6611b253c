import ClientTrial.Log.Level
import ClientTrial.Moment

/-!
# Log records

A record says when something happened, how much it matters, who noticed it and
what it was.  It carries the context of the moment, the identifier of the trial
and the stage it is in, and it may carry the text of a failure.  A record is
written as a line for people or as a JSON object on one line.

## Main definitions

* `Log.Context` — the trial and the stage that a record belongs to.
* `Log.Record` — a record.
* `Log.Record.line` — the record as a line for people.
* `Log.Record.structured` — the record as a JSON object.
* `Log.Record.texts` — both, if the time of the record is on the calendar.
-/

namespace ClientTrial
namespace Log

/-! ### Context -/

/-- The trial and the stage that a record belongs to.  An empty text counts as absent. -/
structure Context where
  /-- The identifier of the trial. -/
  runId : Option String := none
  /-- The name of the stage. -/
  stage : Option String := none
  deriving DecidableEq, Repr

/-- A text that is there and is not empty. -/
def present? : Option String → Option String
  | none => none
  | some s => if s = "" then none else some s

/-- What a line shows of the context: the first eight characters of the trial's identifier, and
the stage. -/
def Context.label (c : Context) : String :=
  match present? c.runId, present? c.stage with
  | some run, some stage => "[" ++ String.ofList (run.toList.take 8) ++ " " ++ stage ++ "] "
  | some run, none => "[" ++ String.ofList (run.toList.take 8) ++ "] "
  | none, _ => ""

/-! ### Records -/

/-- The place in the program that a record was made at. -/
structure Origin where
  file : String
  line : Int
  function : Option String
  deriving DecidableEq, Repr

/-- A log record. -/
structure Record where
  /-- The reading of the clock. -/
  clock : Float
  /-- How much it matters. -/
  level : Int
  /-- Who noticed it. -/
  logger : String
  /-- What happened. -/
  message : String
  /-- The trial and the stage. -/
  context : Context
  /-- The text of a failure. -/
  failure : Option String
  /-- Where the record was made. -/
  origin : Origin

/-- A text filled with blanks on the right up to a width. -/
def padRight (width : Nat) (s : String) : String :=
  s ++ String.ofList (List.replicate (width - s.length) ' ')

namespace Record

/-- The record as a line for people. -/
def line (r : Record) : String :=
  (Moment.ofClock r.clock).stamp ++ " " ++ padRight 8 (levelName r.level) ++ " " ++
    r.context.label ++ r.logger ++ ": " ++ r.message ++
    match r.failure with
    | none => ""
    | some text => "\n" ++ text

/-- A member of an object, if there is a value for it. -/
def optional (name : String) : Option String → List (String × Json)
  | none => []
  | some s => [(name, .str s)]

/-- The place of a record as a JSON object. -/
def originTree (o : Origin) : Json :=
  .obj [("file", .str o.file), ("line", .int o.line), ("function", .ofText? o.function)]

/-- The record as a JSON tree.  The context and the failure are members only if they are
present. -/
def tree (withOrigin : Bool) (r : Record) : Json :=
  .obj <|
    [("timestamp", .str (Moment.ofClock r.clock).iso), ("level", .str (levelName r.level)),
      ("logger", .str r.logger), ("message", .str r.message)] ++
    optional "run_id" (present? r.context.runId) ++
    optional "state" (present? r.context.stage) ++
    optional "exception" r.failure ++
    if withOrigin then [("location", originTree r.origin)] else []

/-- The record as a JSON object on one line. -/
def structured (withOrigin : Bool) (r : Record) : String := (r.tree withOrigin).compact

/-- The record in both forms, if its clock shows a moment of the calendar. -/
def texts (withOrigin : Bool) (r : Record) : Except Fault (String × String) :=
  (Moment.reading r.clock).map fun _ => (r.line, r.structured withOrigin)

end Record
end Log
end ClientTrial
