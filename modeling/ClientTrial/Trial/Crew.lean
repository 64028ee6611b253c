import ClientTrial.Artifact
import ClientTrial.Client
import ClientTrial.Readiness

/-!
# The crew of a trial

A trial decides what is done and in which order; the work itself is done by a
crew.  Usually that are the actions of this library, but a trial keeps to its
order with any other crew, whatever the members of that crew answer or raise.

## Main definitions

* `Crew` — those who do the work.
* `Crew.usual` — the actions of this library.
* `CleanUpCall` — what a trial asks of its crew in the end.
* `Crew.answer` — what is done at such a call.
-/

namespace ClientTrial

/-- Those who do the work of a trial. -/
structure Crew where
  /-- A client is run to its end with some variables added to the environment, for some seconds at
  most. -/
  runForeground : (command : List String) → (added : List (String × String)) →
    (timeout : Option Float) → Act Int
  /-- Any container of a name is removed. -/
  ensureClean : (name : String) → Act Bool
  /-- A container is created and started. -/
  start : (name image : String) → (containerPort : Int) → (hostPort : Option Int) → Act Server
  /-- Connections are attempted until the server accepts one. -/
  awaitReachable : (host : String) → (port budget : Int) → (timeout pause : Float) → Act Int
  /-- Some seconds are let pass. -/
  sleep : (seconds : Float) → Act Unit
  /-- A client is started in the background with its output going to a file. -/
  runBackground : (command : List String) → (added : List (String × String)) → (route : Route) →
    Act Receiver
  /-- Whether a client in the background is still running. -/
  isRunning : Receiver → Act Bool
  /-- A marker is waited for. -/
  waitFor : Artifact → (marker : String) → (timeout pause : Float) → Act Bool
  /-- Every marker must stand in an artifact. -/
  verifyAll : Artifact → (markers : List String) → Act Unit
  /-- A client in the background is stopped.  A failure is answered or raised. -/
  terminate : Receiver → Act (Option TrialError)
  /-- The end of the log of a container. -/
  logs : (name : String) → Act String
  /-- A container is removed.  A failure is answered or raised. -/
  stop : (name : String) → Act (Option TrialError)

namespace Crew

/-- The actions of this library. -/
def usual : Crew where
  runForeground := Client.runForeground
  ensureClean := Server.ensureClean
  start := Server.start
  awaitReachable := ClientTrial.awaitReachable
  sleep := Act.sleep
  runBackground := Client.runBackground
  isRunning := Receiver.isRunning
  waitFor := Artifact.waitFor
  verifyAll := Artifact.verifyAll
  terminate := Receiver.terminate
  logs := fun name => Server.logs name Server.usualTail
  stop := Server.stop

end Crew

/-! ### Calls in the end -/

/-- What a trial asks of its crew in the end. -/
inductive CleanUpCall where
  /-- The receiver is to be stopped. -/
  | terminate (receiver : Receiver)
  /-- The end of the server's log is to be told. -/
  | logs (name : String)
  /-- The server is to be removed. -/
  | stop (name : String)

/-- The name of the step of the clean-up that makes a call. -/
def CleanUpCall.step : CleanUpCall → String
  | .terminate _ => "terminate_receiver"
  | .logs _ => "server_logs"
  | .stop _ => "stop_server"

namespace Crew

/-- What a call is answered: an error, or else a text, which only a log has. -/
def answerOf : Option TrialError → Except TrialError String
  | none => .ok ""
  | some e => .error e

/-- What is done at a call. -/
def answer (crew : Crew) : CleanUpCall → Act (Except TrialError String)
  | .terminate receiver => do pure (answerOf (← crew.terminate receiver))
  | .logs name => do pure (.ok (← crew.logs name))
  | .stop name => do pure (answerOf (← crew.stop name))

end Crew
end ClientTrial
