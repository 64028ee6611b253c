import ClientTrial.Decimal.Places
import ClientTrial.Fault

/-!
# Errors of a trial

What can go wrong in a trial has a name of its own: the server did not start or
did not answer, a command failed, the receiver was not ready, a marker is missing
from what it wrote, a clean-up step failed.  Each error has a code, a message, an
exit status and details; the payload puts the four into one JSON object.

The errors of the first two kinds take their wording from where they arise.  A
wording that is left out, empty or zero is replaced by the default of the kind.

## Main definitions

* `TrialError` — the kinds of error with what they are about.
* `TrialError.code`, `message`, `exitStatus`, `details` — the four parts.
* `TrialError.payload` — the parts as a JSON object.
* `Failure` — an error of a trial with the fault that caused it, or a plain fault.
* `Raised` — how a step can end without an answer.

## Main results

* `TrialError.exitStatus_ne_zero`, `TrialError.code_ne_empty`,
  `TrialError.message_ne_empty` — no part is ever zero or empty.
-/

namespace ClientTrial

/-! ### Kinds of error -/

/-- What an error is to say, as far as the place where it arises knows it. -/
structure Wording where
  message : String := ""
  code : String := ""
  exitStatus : Int := 0
  details : List (String × Json) := []

/-- An error of a trial. -/
inductive TrialError where
  /-- Any error without a kind of its own. -/
  | general (wording : Wording)
  /-- The server could not be started. -/
  | serverNotStarted (wording : Wording)
  /-- The server did not accept a connection in any of the attempts. -/
  | serviceUnavailable (host : String) (port : Int) (attempts : Int)
  /-- A command could not be run, ended with a status other than zero, or took too long. -/
  | processFailed (command : List String) (status : Int) (timedOut : Bool)
  /-- Markers are missing from a text. -/
  | missingContent (missing : List String) (content : String) (artifact : String)
  /-- The receiver did not print its ready marker in time. -/
  | receiverNotReady (marker : String) (timeout : Float)
  /-- A clean-up step failed. -/
  | cleanupFailed (step : String) (cause : String)

namespace TrialError

/-- A text, or another if it is empty. -/
def orElse (s default : String) : String := if s = "" then default else s

/-- Host and port with a colon between. -/
def endpoint (host : String) (port : Int) : String := host ++ ":" ++ Fault.numberText port

/-- The name of a kind of error. -/
def name : TrialError → String
  | .general _ => "HarnessError"
  | .serverNotStarted _ => "ServerStartFailed"
  | .serviceUnavailable .. => "ServiceUnavailable"
  | .processFailed .. => "ProcessFailed"
  | .missingContent .. => "MissingExpectedContent"
  | .receiverNotReady .. => "ReceiverNotReady"
  | .cleanupFailed .. => "CleanupFailed"

/-! ### The four parts -/

/-- The code, which tells the kinds apart. -/
def code : TrialError → String
  | .general w => orElse w.code "HARNESS_ERROR"
  | .serverNotStarted w => orElse w.code "SERVER_START_FAILED"
  | .serviceUnavailable .. => "SERVICE_UNAVAILABLE"
  | .processFailed .. => "PROCESS_FAILED"
  | .missingContent .. => "MISSING_EXPECTED_CONTENT"
  | .receiverNotReady .. => "RECEIVER_NOT_READY"
  | .cleanupFailed .. => "CLEANUP_FAILED"

/-- The message for the user. -/
def message : TrialError → String
  | .general w | .serverNotStarted w => orElse w.message "Harness run failed"
  | .serviceUnavailable host port attempts =>
    endpoint host port ++ " did not come up after " ++ Fault.numberText attempts ++ " attempt(s)"
  | .processFailed command status timedOut =>
    " ".intercalate command ++
      if timedOut then " timed out and was killed"
      else " exited with code " ++ Fault.numberText status
  | .missingContent missing _ _ =>
    "Expected contents to contain " ++ ", ".intercalate (missing.map fun m => "'" ++ m ++ "'")
  | .receiverNotReady marker timeout =>
    "Receiver did not print '" ++ marker ++ "' within " ++ Decimal.general 6 timeout ++ "s"
  | .cleanupFailed step cause => "Cleanup step '" ++ step ++ "' failed: " ++ cause

/-- The status that a trial ends with because of the error. -/
def exitStatus : TrialError → Int
  | .general w => if w.exitStatus = 0 then 1 else w.exitStatus
  | .serverNotStarted w => if w.exitStatus = 0 then 5 else w.exitStatus
  | .serviceUnavailable .. => 2
  | .processFailed .. => 3
  | .missingContent .. => 4
  | .receiverNotReady .. => 6
  | .cleanupFailed .. => 1

/-- What the error is about, by name. -/
def details : TrialError → List (String × Json)
  | .general w | .serverNotStarted w => w.details
  | .serviceUnavailable host port attempts =>
    [("address", .str (endpoint host port)), ("attempts", .int attempts)]
  | .processFailed command status timedOut =>
    [("command", .strings command), ("returncode", .int status), ("timed_out", .bool timedOut)]
  | .missingContent missing _ artifact =>
    [("missing", .strings missing), ("artifact", .str artifact)]
  | .receiverNotReady marker timeout =>
    [("marker", .str marker), ("timeout", .float timeout)]
  | .cleanupFailed step cause => [("step", .str step), ("cause", .str cause)]

/-- The four parts in one object; details that are empty are left out. -/
def payload (e : TrialError) : List (String × Json) :=
  [("error", .str e.code), ("message", .str e.message), ("exit_code", .int e.exitStatus)] ++
    if e.details.isEmpty then [] else [("details", .obj e.details)]

/-! ### No part is zero or empty -/

theorem exitStatus_ne_zero (e : TrialError) : e.exitStatus ≠ 0 := by
  cases e <;> simp only [exitStatus] <;> (try split) <;> simp_all

theorem orElse_ne_empty {s default : String} (h : default ≠ "") : orElse s default ≠ "" := by
  unfold orElse
  split
  · exact h
  · assumption

theorem orElse_of_ne_empty {s default : String} (h : s ≠ "") : orElse s default = s := if_neg h

theorem code_ne_empty (e : TrialError) : e.code ≠ "" := by
  cases e with
  | general w => exact orElse_ne_empty (by decide)
  | serverNotStarted w => exact orElse_ne_empty (by decide)
  | serviceUnavailable | processFailed | missingContent | receiverNotReady | cleanupFailed =>
    simp [code]

theorem append_ne_empty {s t : String} (h : t ≠ "") : s ++ t ≠ "" := by
  intro he
  exact h (String.append_eq_empty_iff.1 he).2

theorem ne_empty_append {s t : String} (h : s ≠ "") : s ++ t ≠ "" := by
  intro he
  exact h (String.append_eq_empty_iff.1 he).1

theorem message_ne_empty (e : TrialError) : e.message ≠ "" := by
  cases e with
  | general w => exact orElse_ne_empty (by decide)
  | serverNotStarted w => exact orElse_ne_empty (by decide)
  | serviceUnavailable host port attempts => exact append_ne_empty (by decide)
  | processFailed command status timedOut =>
    refine append_ne_empty ?_
    split
    · decide
    · exact ne_empty_append (by decide)
  | missingContent missing content artifact => exact ne_empty_append (by decide)
  | receiverNotReady marker timeout => exact append_ne_empty (by decide)
  | cleanupFailed step cause =>
    exact ne_empty_append (append_ne_empty (by decide))

end TrialError

/-! ### Ends without an answer -/

/-- A failure that a step of a trial can be ended by and that may be handled. -/
inductive Failure where
  /-- An error of the trial, with the fault that it was caused by. -/
  | trial (error : TrialError) (cause : Option Fault)
  /-- A fault that nothing has handled. -/
  | fault (fault : Fault)

namespace Failure

/-- The name of the kind of failure. -/
def name : Failure → String
  | .trial e _ => e.name
  | .fault f => f.kind.name

/-- The name of the kind of failure with the package it belongs to. -/
def fullName : Failure → String
  | .trial e _ => "irc_harness.core.exceptions." ++ e.name
  | .fault f => f.kind.fullName

/-- What is shown of the failure. -/
def text : Failure → String
  | .trial e _ => e.message
  | .fault f => f.text

/-- The failure is a fault of a kind with the given property. -/
def isFaultOf (p : Fault.Kind → Bool) : Failure → Bool
  | .trial .. => false
  | .fault f => p f.kind

end Failure

/-- How a step can end without an answer. -/
inductive Raised where
  /-- It failed. -/
  | failure (failure : Failure)
  /-- The user interrupted it. -/
  | interrupt (text : String)
  /-- It waits for a clock that has stopped moving. -/
  | stalled

namespace Raised

/-- A step ended by a fault. -/
def fault (f : Fault) : Raised := .failure (.fault f)

/-- A step ended by an error of the trial. -/
def trial (e : TrialError) (cause : Option Fault) : Raised := .failure (.trial e cause)

/-- The name of what ended a step. -/
def name : Raised → String
  | .failure f => f.name
  | .interrupt _ => "KeyboardInterrupt"
  | .stalled => "Stalled"

/-- The same with the package it belongs to. -/
def fullName : Raised → String
  | .failure f => f.fullName
  | r => r.name

/-- What is shown of it. -/
def text : Raised → String
  | .failure f => f.text
  | .interrupt text => text
  | .stalled => ""

/-- Name and text, without the line feeds at the end; the name alone if there is no text. -/
def line (r : Raised) : String :=
  if r.text = "" then r.fullName
  else
    let s := r.fullName ++ ": " ++ r.text
    String.ofList (s.toList.reverse.dropWhile (· = '\n')).reverse

end Raised
end ClientTrial
