import ClientTrial.Bench.Calls
import ClientTrial.Report.Datum
import ClientTrial.Text.Infix

/-!
# The report of a trial

A report records what is needed to understand a trial afterwards: when it ran,
how far it came, its verdict, what the clean-up could not do, what the receiver
wrote and what the server logged.  It is saved twice, as JSON and as a page for
people.

## Main definitions

* `Report` — the record.
* `Report.summary`, `Report.tree`, `Report.json`, `Report.page` — what is made of it, unless a
  number in it is too long to be written.
* `Report.save` — both files are written.
-/

namespace ClientTrial

/-- The record of a trial. -/
structure Report where
  runId : String
  startedAt : Moment
  finishedAt : Moment
  succeeded : Bool
  /-- The stage that failed, or the last one. -/
  finalStage : String
  serverName : String
  serverAddress : Option String := none
  markers : List String := []
  /-- The verdict. -/
  error : Option (List (String × Datum)) := none
  /-- What the clean-up could not do; never part of the verdict. -/
  cleanupErrors : List String := []
  receiverOutput : String := ""
  serverLogs : String := ""

namespace Report

/-! ### Parts -/

/-- How long the trial took, in seconds. -/
def duration (r : Report) : Except Fault Float :=
  match r.finishedAt.since? r.startedAt with
  | some micros => .ok (secondsOf micros)
  | none => .error ⟨.type, "can't subtract offset-naive and offset-aware datetimes"⟩

/-- The error, unless it says nothing. -/
def verdict (r : Report) : Option (List (String × Datum)) :=
  r.error.filter fun members => !members.isEmpty

/-- A member of the error in a sentence. -/
def shownMember (name : String) (members : List (String × Datum)) : Except Fault String :=
  let member := (members.lookup name).getD .null
  if member.toJson.fits then .ok member.shown else .error Fault.oversize

/-- What an error is called, where it ended the trial, and its message. -/
def blame (r : Report) (members : List (String × Datum)) : Except Fault String := do
  let error ← shownMember "error" members
  let message ← shownMember "message" members
  pure (error ++ " in " ++ r.finalStage ++ ": " ++ message)

/-- The verdict in a sentence. -/
def judgement (r : Report) : Except Fault String :=
  if r.succeeded then .ok "Success"
  else
    match r.verdict with
    | some members => r.blame members
    | none => .ok ("Failed in " ++ r.finalStage)

/-- What a summary says of the clean-up. -/
def remark (warnings : Nat) : String :=
  if warnings = 0 then "" else " | " ++ Fault.numberText warnings ++ " cleanup warning(s)"

/-- The verdict in one line, and how much the clean-up could not do. -/
def summary (r : Report) : Except Fault String :=
  r.judgement.map (· ++ remark r.cleanupErrors.length)

/-! ### As JSON -/

/-- The fields of the report by name, with how long the trial took and the summary. -/
def fields (r : Report) (duration : Float) (summary : String) : Json :=
  .obj
    [("run_id", .str r.runId),
      ("started_at", .str r.startedAt.iso),
      ("finished_at", .str r.finishedAt.iso),
      ("duration_seconds", .float duration),
      ("succeeded", .bool r.succeeded),
      ("summary", .str summary),
      ("final_state", .str r.finalStage),
      ("server", .obj [("name", .str r.serverName), ("address", .ofText? r.serverAddress)]),
      ("markers", .strings r.markers),
      ("error",
        match r.error with
        | none => .null
        | some members => .obj (Datum.membersToJson members)),
      ("cleanup_errors", .strings r.cleanupErrors),
      ("receiver_output", .str r.receiverOutput),
      ("server_logs", .str r.serverLogs)]

/-- The report as a JSON tree. -/
def tree (r : Report) : Except Fault Json := do
  let duration ← r.duration
  let summary ← r.summary
  pure (r.fields duration summary)

/-- The report as a JSON text. -/
def json (r : Report) : Except Fault String := do
  let tree ← r.tree
  if tree.fits then .ok tree.pretty else .error Fault.oversize

/-! ### As a page -/

/-- A section of a page with a text between fences. -/
def fenced (title text : String) : String := "\n## " ++ title ++ "\n\n```\n" ++ text ++ "\n```\n"

/-- A section of a page with an item on each line. -/
def listed (title : String) (items : List String) : String :=
  if items.isEmpty then ""
  else "\n## " ++ title ++ "\n\n" ++ String.join (items.map fun item => "- " ++ item ++ "\n")

/-- A marker on the page, ticked if it stands in the receiver's output. -/
def tick (r : Report) (marker : String) : String :=
  "[" ++ (if Text.contains r.receiverOutput marker then "x" else " ") ++ "] `" ++ marker ++ "`"

/-- The address of the server on the page. -/
def shownAddress (r : Report) : String := TrialError.orElse (r.serverAddress.getD "") "n/a"

/-- The section of the page on what ended the trial. -/
def failureSection (r : Report) : Except Fault String :=
  match r.verdict with
  | none => .ok ""
  | some members => (shownMember "message" members).map (fenced "Failure")

/-- The report as a page for people. -/
def page (r : Report) : Except Fault String := do
  let duration ← r.duration
  let summary ← r.summary
  let failure ← r.failureSection
  pure <|
    "# Harness Run `" ++ r.runId ++ "`\n\n**Server:** `" ++ r.serverName ++ "` at `" ++
      r.shownAddress ++ "`\n**Duration:** " ++ Decimal.fixed 2 duration ++
      "s\n**Summary:** " ++ summary ++ "\n" ++
    failure ++
    listed "Markers" (r.markers.map r.tick) ++
    listed "Cleanup Warnings" r.cleanupErrors ++
    fenced "Receiver Output" r.receiverOutput ++
    if r.serverLogs = "" then "" else fenced "Server Logs" r.serverLogs

/-! ### Saving -/

open Act

/-- The report is written to a directory, which is made if need be.  The answer is the path of the
JSON text. -/
def save (r : Report) (dir : Route) : Act Route := do
  onFiles (·.makeDirs dir)
  let json ← ofExcept r.json
  onFiles (·.write (dir.child "report.json") (Text.toOctets json))
  let page ← ofExcept r.page
  onFiles (·.write (dir.child "report.md") (Text.toOctets page))
  pure (dir.child "report.json")

end Report
end ClientTrial
