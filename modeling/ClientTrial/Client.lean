import ClientTrial.Server

/-!
# The clients

A client is an executable that is run with one variable added to the environment,
the address of the server.  The sender and the build are run to their end; the
receiver is started in the background with its output going to a file, and is
killed at the end.

## Main definitions

* `Receiver` — a client in the background.
* `Client.runForeground`, `Client.runBackground` — clients are run and started.
* `Receiver.terminate` — a client in the background is stopped.
-/

namespace ClientTrial

open Act

/-- The status of a command that could not be spawned. -/
def spawnFailedStatus : Int := 127

/-- The status of a command that was killed. -/
def killedStatus : Int := -9

/-- A client in the background. -/
structure Receiver where
  command : List String
  pid : Int
  /-- The file that its output goes to. -/
  route : Route
  /-- Which of the opened files that is, while the trial holds it. -/
  output : Option Nat
  /-- When it was started. -/
  startedAt : Moment

namespace Client

/-- The first word of a command. -/
def firstWord (command : List String) : String := command.headD ""

/-- What becomes of a command that could not be spawned: only failures of the operating system
count as a failure of the command. -/
def spawnFailure? : Raised → Option Fault := Server.isFault Fault.Kind.isOs

/-- A command took too long. -/
def overdue? : Raised → Option Fault := Server.isFault (· = .overdue)

/-- A client is run to its end with some variables added to the environment, for some seconds at
most.  The answer is its status, which is always zero. -/
def runForeground (command : List String) (added : List (String × String))
    (timeout : Option Float) : Act Int := do
  say (.running command)
  let environ ← ask fun b => overlay b.environ added
  let dir ← ask (·.workingDir)
  match ← attempt (runErrand command environ dir timeout) with
  | .ok status => do
    if status ≠ 0 then throw (.trial (.processFailed command status false) none)
    say (.exitedCleanly (firstWord command))
    pure status
  | .error raised =>
    match overdue? raised, spawnFailure? raised with
    | some f, _ => throw (.trial (.processFailed command killedStatus true) (some f))
    | none, some f => do
      say (.notRun (firstWord command) f.text)
      throw (.trial (.processFailed command spawnFailedStatus false) (some f))
    | none, none => throw raised

/-- A client is started in the background with some variables added to the environment.  Its
output goes to a file. -/
def runBackground (command : List String) (added : List (String × String)) (route : Route) :
    Act Receiver := do
  let output ← openOutput route
  let environ ← ask fun b => overlay b.environ added
  let dir ← ask (·.workingDir)
  match ← attempt (spawn command environ dir route output) with
  | .ok pid => do
    say (.started command pid route.text)
    let startedAt ← ask fun b => Moment.ofClock b.clock
    pure { command, pid, route, output := some output, startedAt }
  | .error raised =>
    match spawnFailure? raised with
    | none => throw raised
    | some f => do
      closeOutput output
      say (.notStarted (firstWord command) f.text)
      throw (.trial (.processFailed command spawnFailedStatus false) (some f))

end Client

namespace Receiver

/-- Whether the client is still running. -/
def isRunning (r : Receiver) : Act Bool := Act.isRunning r.pid

/-- Failures in stopping a client that are answered rather than raised. -/
def tolerated? : Raised → Option Fault :=
  Server.isFault fun kind => kind.isOs || kind = .overdue

/-- The client is killed if it is running, and waited for. -/
def halt (r : Receiver) : Act Unit := do
  if ← r.isRunning then kill r.pid
  let status ← wait r.pid
  say (.stopped (Client.firstWord r.command) r.pid status)

/-- The client is halted.  A failure is answered, not raised. -/
def tryHalt (r : Receiver) : Act (Option TrialError) := do
  match ← attempt r.halt with
  | .ok () => pure none
  | .error raised =>
    match tolerated? raised with
    | none => throw raised
    | some f => do
      let failed : TrialError := .cleanupFailed "terminate_receiver" f.text
      say (.notStopped failed.message)
      pure (some failed)

/-- The output of the client is closed.  An earlier failure is kept. -/
def close (r : Receiver) (n : Nat) (earlier : Option TrialError) : Act (Option TrialError) := do
  match ← attempt (closeOutput n) with
  | .ok () => pure earlier
  | .error raised =>
    match Server.isFault Fault.Kind.isOs raised with
    | none => throw raised
    | some f => do
      say (.notClosed r.route.text f.text)
      pure (earlier.or (some (.cleanupFailed "close_receiver_output" f.text)))

/-- The output of the client is closed if the trial holds it and it is not closed yet. -/
def tryClose (r : Receiver) (earlier : Option TrialError) : Act (Option TrialError) :=
  match r.output with
  | none => pure earlier
  | some n => do
    if ← isClosed n then pure earlier else r.close n earlier

/-- The client is stopped and its output is closed.  A failure is answered, not raised. -/
def terminate (r : Receiver) : Act (Option TrialError) := do
  let failure ← r.tryHalt
  r.tryClose failure

end Receiver
end ClientTrial
