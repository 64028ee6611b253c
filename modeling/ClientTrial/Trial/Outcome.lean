import ClientTrial.Client
import ClientTrial.Report.Basic
import ClientTrial.Settings.Field

/-!
# The outcome of a trial

A trial that comes to an end has a verdict, which says whether it succeeded and
if not where and why, and diagnostics of the clean-up, which are no part of the
verdict.

## Main definitions

* `Outcome` — verdict, diagnostics and evidence.
* `Outcome.exitStatus` — the status that the program ends with.
* `Outcome.failureText` — what the user is told of a failure.

## Main results

* `Outcome.exitStatus_eq_zero_iff` — the status is zero exactly for success.
-/

namespace ClientTrial

/-- The outcome of a trial. -/
structure Outcome where
  runId : String
  succeeded : Bool
  /-- The stage that failed, if a stage had been entered. -/
  failedStage : Option Stage := none
  /-- Why it failed, and the fault that caused this. -/
  error : Option (TrialError × Option Fault) := none
  /-- What the clean-up could not do. -/
  cleanupErrors : List TrialError := []
  /-- What the receiver wrote. -/
  receiverOutput : String := ""
  /-- The directory of artifacts, if it was kept. -/
  artifacts : Option Route := none
  /-- The report, if it was saved. -/
  report : Option Route := none

namespace Outcome

/-- The status that the program ends with. -/
def exitStatus (o : Outcome) : Int :=
  if o.succeeded then 0
  else
    match o.error with
    | some (e, _) => e.exitStatus
    | none => 1

theorem exitStatus_eq_zero_iff (o : Outcome) : o.exitStatus = 0 ↔ o.succeeded = true := by
  unfold exitStatus
  split
  · next h => simp [h]
  · next h =>
    split
    · next e _ _ => simp [h, e.exitStatus_ne_zero]
    · simp [h]

/-- A line of text. -/
def lineOf (s : String) : String := s ++ "\n"

/-- A text that ends with a line break. -/
def ended (s : String) : String := if s.toList.getLast? = some '\n' then s else s ++ "\n"

/-- The lines for a content that lacks markers: each marker, and then the content. -/
def contentText : TrialError → String
  | .missingContent missing content _ =>
    String.join (missing.map fun m => lineOf ("Expected contents to contain '" ++ m ++ "'; was:"))
      ++ ended content
  | _ => ""

/-- What the user is told of a failure. -/
def failureText (o : Outcome) : String :=
  let stage :=
    match o.failedStage with
    | some stage => stage.name
    | none => "unknown"
  let error := o.error.map (·.1)
  let message :=
    match error with
    | some e => e.message
    | none => "unknown error"
  lineOf ("FAILED in " ++ stage ++ ": " ++ message) ++
    (match error with
      | some e => contentText e
      | none => "") ++
    match o.artifacts with
    | some route => lineOf ("Artifacts: " ++ route.text)
    | none => ""

/-- What the user is told of the outcome. -/
def text (o : Outcome) : String :=
  if o.succeeded then lineOf ("PASSED (" ++ o.runId ++ ")") else o.failureText

/-- What the user is told of the clean-up. -/
def warnings (o : Outcome) : String :=
  String.join (o.cleanupErrors.map fun e => lineOf ("warning: " ++ e.message))

end Outcome
end ClientTrial
