import ClientTrial.Log.Sink
import ClientTrial.Stage
import ClientTrial.TrialError

/-!
# What a trial reports

Every record that a trial makes is one of these events.  An event knows who
notices it, how much it matters, what it says, and where in the program it is
reported from.

## Main definitions

* `Log.Event` — the events.
* `Log.Event.record` — the record of an event at a moment.
-/

namespace ClientTrial
namespace Log

/-- Something worth a record. -/
inductive Event where
  /-- No container of the name was left behind. -/
  | nothingStale (name : String)
  /-- A container that was left behind has been removed. -/
  | staleRemoved (name : String)
  /-- A container has been started. -/
  | serverStarted (name image : String) (containerPort hostPort : Int)
  /-- A container could not be stopped. -/
  | serverNotStopped (message : String)
  /-- A container has been removed. -/
  | serverRemoved (name : String)
  /-- A connection attempt failed and another follows. -/
  | notReachable (host : String) (port attempt attempts : Int) (cause : String)
  /-- The last connection attempt failed. -/
  | neverReachable (host : String) (port attempts : Int)
  /-- A connection was accepted. -/
  | reachable (host : String) (port attempts : Int)
  /-- A command is about to be run. -/
  | running (command : List String)
  /-- A command ended with status zero. -/
  | exitedCleanly (word : String)
  /-- A command could not be run. -/
  | notRun (word cause : String)
  /-- A command has been started in the background. -/
  | started (command : List String) (pid : Int) (path : String)
  /-- A command could not be started in the background. -/
  | notStarted (word cause : String)
  /-- A background process is over. -/
  | stopped (word : String) (pid status : Int)
  /-- A background process could not be stopped. -/
  | notStopped (message : String)
  /-- The output of a background process could not be closed. -/
  | notClosed (path cause : String)
  /-- A marker was found. -/
  | markerFound (marker path : String)
  /-- A marker is missing. -/
  | markerMissing (marker : String)
  /-- Every marker was found. -/
  | markersFound (count : Int) (path : String)
  /-- A marker that was waited for has appeared. -/
  | markerSeen (marker path : String)
  /-- A trial begins. -/
  | begun (runId path : String)
  /-- A stage is entered. -/
  | entering (stage : Stage)
  /-- A stage failed with an error of the trial. -/
  | stageFailed (stage : Option Stage) (message : String)
  /-- A stage failed in an unforeseen way. -/
  | stageCrashed (stage : Option Stage) (failure : String)
  /-- The receiver is over before it was stopped. -/
  | receiverExited (status : Option Int)
  /-- The server is left running as asked. -/
  | serverLeft (name : String)
  /-- A clean-up step failed. -/
  | cleanupWarning (message : String)
  /-- The artifacts are kept. -/
  | artifactsKept (path : String)
  /-- The artifacts could not be removed. -/
  | artifactsNotRemoved (message : String)
  /-- The trial passed. -/
  | passed (runId : String)

namespace Event

/-- A whole number in decimal digits. -/
def num (n : Int) : String := Fault.numberText n

/-- Words with a space between each two. -/
def joined (command : List String) : String := " ".intercalate command

/-- The part of the program that notices an event. -/
def part : Event → String
  | .nothingStale _ | .staleRemoved _ | .serverStarted .. | .serverNotStopped _
  | .serverRemoved _ => "server"
  | .notReachable .. | .neverReachable .. | .reachable .. => "readiness"
  | .running _ | .exitedCleanly _ | .notRun .. | .started .. | .notStarted .. | .stopped ..
  | .notStopped _ | .notClosed .. => "processes"
  | .markerFound .. | .markerMissing _ | .markersFound .. | .markerSeen .. => "verifier"
  | _ => "harness"

/-- How much an event matters. -/
def level : Event → Int
  | .nothingStale _ | .notReachable .. | .markerFound .. | .entering _ => 10
  | .serverNotStopped _ | .notStopped _ | .notClosed .. | .receiverExited _ | .cleanupWarning _
  | .artifactsNotRemoved _ => 30
  | .neverReachable .. | .notRun .. | .notStarted .. | .markerMissing _ | .stageFailed ..
  | .stageCrashed .. => 40
  | _ => 20

/-- What an event says. -/
def message : Event → String
  | .nothingStale name => "No stale container named " ++ name
  | .staleRemoved name => "Removed stale container " ++ name
  | .serverStarted name image containerPort hostPort =>
    "Started " ++ name ++ " (" ++ image ++ ") publishing " ++ num containerPort ++
      " on host port " ++ num hostPort
  | .serverNotStopped message | .notStopped message | .artifactsNotRemoved message => message
  | .serverRemoved name => "Removed container " ++ name
  | .notReachable host port attempt attempts cause =>
    TrialError.endpoint host port ++ " not reachable (attempt " ++ num attempt ++ "/" ++
      num attempts ++ "): " ++ cause
  | .neverReachable host port attempts =>
    TrialError.endpoint host port ++ " did not come up after " ++ num attempts ++ " attempt(s)"
  | .reachable host port attempts =>
    TrialError.endpoint host port ++ " reachable after " ++ num attempts ++ " attempt(s)"
  | .running command => "Running " ++ joined command
  | .exitedCleanly word => word ++ " exited cleanly"
  | .notRun word cause | .notStarted word cause => "Could not spawn " ++ word ++ ": " ++ cause
  | .started command pid path =>
    "Started " ++ joined command ++ " (pid " ++ num pid ++ ") -> " ++ path
  | .stopped word pid status =>
    word ++ " (pid " ++ num pid ++ ") stopped with code " ++ num status
  | .notClosed path cause => "Could not close " ++ path ++ ": " ++ cause
  | .markerFound marker path => "Found '" ++ marker ++ "' in " ++ path
  | .markerMissing marker => "Expected contents to contain '" ++ marker ++ "'"
  | .markersFound count path => "All " ++ num count ++ " marker(s) present in " ++ path
  | .markerSeen marker path => "Saw '" ++ marker ++ "' in " ++ path
  | .begun runId path => "Run " ++ runId ++ " artifacts in " ++ path
  | .entering stage => "Entering " ++ stage.name
  | .stageFailed stage message =>
    (match stage with
      | some stage => stage.name
      | none => "Setup") ++ " failed: " ++ message
  | .stageCrashed stage _ =>
    (match stage with
      | some stage => stage.name
      | none => "Setup") ++ " crashed"
  | .receiverExited status =>
    "Receiver exited early with code " ++
      match status with
      | some status => num status
      | none => "None"
  | .serverLeft name => "Leaving " ++ name ++ " running"
  | .cleanupWarning message => "Cleanup: " ++ message
  | .artifactsKept path => "Artifacts kept in " ++ path
  | .passed runId => "Run " ++ runId ++ " passed"

/-- The failure whose text is added to the record. -/
def failure : Event → Option String
  | .stageCrashed _ failure => some failure
  | _ => none

/-- A place in the program. -/
def place (file : String) (line : Int) (function : String) : Origin := ⟨file, line, some function⟩

/-- Where an event is reported from. -/
def origin : Event → Origin
  | .nothingStale _ => place "server_supervisor.py" 76 "ensure_clean"
  | .staleRemoved _ => place "server_supervisor.py" 95 "ensure_clean"
  | .serverStarted .. => place "server_supervisor.py" 132 "start"
  | .serverNotStopped _ => place "server_supervisor.py" 156 "stop"
  | .serverRemoved _ => place "server_supervisor.py" 159 "stop"
  | .notReachable .. => place "readiness.py" 103 "before_sleep"
  | .neverReachable .. => place "readiness.py" 92 "wait_until_reachable"
  | .reachable .. => place "readiness.py" 96 "wait_until_reachable"
  | .running _ => place "processes.py" 81 "run_foreground"
  | .notRun .. => place "processes.py" 95 "run_foreground"
  | .exitedCleanly _ => place "processes.py" 101 "run_foreground"
  | .notStarted .. => place "processes.py" 126 "run_background"
  | .started .. => place "processes.py" 129 "run_background"
  | .stopped .. => place "processes.py" 149 "terminate"
  | .notStopped _ => place "processes.py" 152 "terminate"
  | .notClosed .. => place "processes.py" 159 "terminate"
  | .markerFound .. => place "output_verifier.py" 53 "assert_contains"
  | .markerMissing _ => place "output_verifier.py" 68 "verify_all"
  | .markersFound .. => place "output_verifier.py" 71 "verify_all"
  | .markerSeen .. => place "output_verifier.py" 85 "wait_for_marker"
  | .begun .. => place "runner.py" 131 "run"
  | .stageFailed .. => place "runner.py" 138 "run"
  | .stageCrashed .. => place "runner.py" 145 "run"
  | .passed _ => place "runner.py" 163 "run"
  | .entering _ => place "runner.py" 173 "_set_state"
  | .receiverExited _ => place "runner.py" 233 "_forward"
  | .serverLeft _ => place "runner.py" 275 "_cleanup"
  | .cleanupWarning _ => place "runner.py" 280 "_cleanup"
  | .artifactsKept _ => place "runner.py" 311 "_finalize_artifacts"
  | .artifactsNotRemoved _ => place "runner.py" 318 "_finalize_artifacts"

/-- The record of an event. -/
def record (e : Event) (clock : Float) (context : Context) : Record :=
  ⟨clock, e.level, ownLogger e.part, e.message, context, e.failure, e.origin⟩

end Event
end Log
end ClientTrial
