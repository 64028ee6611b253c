import ClientTrial.Trial.Crew
import ClientTrial.Trial.Outcome

/-!
# A trial

A trial starts a server container and two clients in a fixed order of stages and
checks that what the sender sent has reached the receiver.  The first stage that
fails ends the way forward.  Then, whatever happened, the receiver is stopped and
the server is removed; what goes wrong with that is noted and changes nothing
about the verdict.  The work is done by a crew.

## Main definitions

* `Trial` — the settings and the identifier of a trial.
* `Progress` — how far a trial has come and what it holds.
* `Trial.perform` — what is done in a stage.
* `Trial.goForward` — the stages one after the other.
* `Trial.cleanUp` — the clean-up.
* `Trial.courseWith` — the whole trial with a crew.
* `Trial.run` — the whole trial with the usual crew.
-/

namespace ClientTrial

open Act

/-- The settings and the identifier of a trial. -/
structure Trial where
  settings : Settings
  runId : String

/-- How far a trial has come and what it holds. -/
structure Progress where
  /-- The stages that were entered, in order. -/
  history : List Stage := []
  /-- The server, once it has been started. -/
  server : Option Server := none
  /-- The receiver, once it has been started. -/
  receiver : Option Receiver := none

namespace Trial

/-- The identifier of a trial: the one that is given, or else the first twelve characters of a
fresh one. -/
def chooseRunId (given : Option String) (fresh : String) : String :=
  (Log.present? given).getD (String.ofList (fresh.toList.take 12))

/-- The name of the server container. -/
def serverName (t : Trial) : String := t.settings.containerName t.runId

/-- The host that the server is reached at. -/
def host (t : Trial) : String := t.settings .serverHost

/-- The address of a server, written down. -/
def address (t : Trial) (s : Server) : String := TrialError.endpoint t.host s.hostPort

/-- The name of the file that the receiver's output goes to. -/
def outputName : String := "recvd"

/-- The name of the directory of artifacts below the directory that holds it. -/
def artifactsName : String := "irc-harness-0001"

/-- The directory of artifacts. -/
def artifacts (t : Trial) : Route :=
  (((t.settings .artifactsRoot : Option Route)).getD (Route.ofText "tmp")).child artifactsName

/-- The file that the receiver's output goes to. -/
def output (t : Trial) : Route := t.artifacts.child outputName

/-- A command in words, or the fault of a command that has none. -/
def wordsOf {α : Type} : Except Text.CommandError α → Act α
  | .ok list => pure list
  | .error e => throw (.fault ⟨.value, e.message⟩)

/-! ### The stages -/

/-- The bench on which a stage is entered: from now on records are stamped with it. -/
def entering (stage : Stage) (b : Bench) : Bench :=
  { b with context := { b.context with stage := some stage.name } }.saying (.entering stage)

/-- A stage is entered. -/
def enter (stage : Stage) : Act Unit := change (entering stage)

@[simp] theorem exec_enter (stage : Stage) (b : Bench) :
    (enter stage).exec b = (.ok (), entering stage b) := rfl

/-- A trial comes to a stage: it enters the stage and has it in its history. -/
def reach (p : Progress) (stage : Stage) : Act Progress := do
  enter stage
  pure { p with history := p.history ++ [stage] }

@[simp] theorem exec_reach (p : Progress) (stage : Stage) (b : Bench) :
    (reach p stage).exec b =
      (.ok { p with history := p.history ++ [stage] }, entering stage b) := rfl

/-- The variable that carries the address of the server to the clients. -/
def addressBinding (t : Trial) (s : Server) : List (String × String) :=
  [((t.settings .serverVariable : String), t.address s)]

/-- The receiver is waited for until it has printed its ready marker, or is given time. -/
def settleReceiver (t : Trial) (crew : Crew) : Act Unit :=
  match (t.settings .readyMarker : Option String) with
  | some marker => do
    let ready ←
      crew.waitFor (Artifact.ofRoute t.output) marker (t.settings .readyTimeout)
        (t.settings .readyPause)
    if !ready then throw (.trial (.receiverNotReady marker (t.settings .readyTimeout)) none)
  | none => crew.sleep (t.settings .receiverSettle)

/-- A receiver that is over already is reported. -/
def reportExited (crew : Crew) (r : Receiver) : Act Unit := do
  if !(← crew.isRunning r) then do
    let status ← status? r.pid
    say (.receiverExited status)

/-- What is done in a stage.  A stage that needs the server or the receiver does nothing without
it. -/
def perform (t : Trial) (crew : Crew) (p : Progress) : Stage → Act Progress
  | .build => do
    let command ← wordsOf t.settings.buildWords
    let _ ← crew.runForeground (command.getD []) [] none
    pure p
  | .cleanPriorState => do
    let _ ← crew.ensureClean t.serverName
    pure p
  | .startServer => do
    let server ←
      crew.start t.serverName (t.settings .serverImage) (t.settings .containerPort)
        (t.settings .hostPort)
    pure { p with server := some server }
  | .awaitReadiness =>
    match p.server with
    | none => pure p
    | some server => do
      let _ ←
        crew.awaitReachable t.host server.hostPort (t.settings .readinessAttempts)
          (t.settings .readinessTimeout) (t.settings .readinessPause)
      pure p
  | .settleServer => do
    crew.sleep (t.settings .serverSettle)
    pure p
  | .startReceiver =>
    match p.server with
    | none => pure p
    | some server => do
      let command ← wordsOf t.settings.receiverWords
      let receiver ← crew.runBackground command (t.addressBinding server) t.output
      pure { p with receiver := some receiver }
  | .settleReceiver => do
    t.settleReceiver crew
    match p.receiver with
    | none => pure p
    | some receiver => do
      reportExited crew receiver
      pure p
  | .runSender =>
    match p.server with
    | none => pure p
    | some server => do
      let command ← wordsOf t.settings.senderWords
      let _ ← crew.runForeground command (t.addressBinding server) (t.settings .senderTimeout)
      pure p
  | .verifyOutputs => do
    crew.verifyAll (Artifact.ofRoute t.output) (t.settings .markers)
    pure p
  | .cleanup => pure p

/-- Some stages one after the other, up to the first that fails.  The answer tells how far the
trial has come, and what ended it if it did not go through. -/
def goForward (t : Trial) (crew : Crew) :
    List Stage → Progress → Act (Progress × Except Raised Unit)
  | [], p => pure (p, .ok ())
  | stage :: rest, p => do
    let p ← reach p stage
    match ← attempt (t.perform crew p stage) with
    | .ok p => goForward t crew rest p
    | .error raised => pure (p, .error raised)

/-- The stages before the clean-up.  The build command is looked at before the first is
entered. -/
def forward (t : Trial) (crew : Crew) : Act (Progress × Except Raised Unit) :=
  match t.settings.buildWords with
  | .error e => pure ({}, .error (.fault ⟨.value, e.message⟩))
  | .ok command => t.goForward crew (Stage.forward ((command.getD []) ≠ [])) {}

/-! ### The verdict -/

/-- What is made of a failure: an error of the trial stays as it is, a fault that nothing has
handled becomes one. -/
def verdict : Failure → TrialError × Option Fault
  | .trial e cause => (e, cause)
  | .fault f =>
    (.general
      { message := "Unexpected " ++ f.kind.name ++ ": " ++ f.text, code := "UNEXPECTED_ERROR" },
      none)

/-- What ended the way forward, if that was a failure. -/
def failureOf : Except Raised Unit → Option Failure
  | .error (.failure f) => some f
  | _ => none

/-- A failure is reported together with the stage that was entered last. -/
def reportFailure (stage : Option Stage) : Option Failure → Act Unit
  | some (.trial e _) => say (.stageFailed stage e.message)
  | some (.fault f) => say (.stageCrashed stage (Raised.fault f).line)
  | none => pure ()

/-! ### The clean-up -/

/-- A step of the clean-up: the errors that it adds, and its text.  A failure adds an error in
place of ending the clean-up. -/
def bestEffort (crew : Crew) (call : CleanUpCall) : Act (List TrialError × String) := do
  match ← attempt (crew.answer call) with
  | .ok (.ok text) => pure ([], text)
  | .ok (.error e) => pure ([e], "")
  | .error (.failure f) => pure ([Server.failedStep call.step f], "")
  | .error raised => throw raised

/-- The receiver is stopped if it was started. -/
def stopReceiver (crew : Crew) (p : Progress) : Act (List TrialError × String) :=
  match p.receiver with
  | none => pure ([], "")
  | some receiver => bestEffort crew (.terminate receiver)

/-- The end of the server's log, if the trial failed after the server was started. -/
def serverLogs (t : Trial) (crew : Crew) (p : Progress) (failed : Bool) :
    Act (List TrialError × String) :=
  if failed ∧ p.server.isSome then bestEffort crew (.logs t.serverName) else pure ([], "")

/-- The server is removed unless it is to be left running. -/
def stopServer (t : Trial) (crew : Crew) : Act (List TrialError × String) :=
  if (t.settings .keepServer : Bool) then do
    say (.serverLeft t.serverName)
    pure ([], "")
  else bestEffort crew (.stop t.serverName)

/-- What is done in the clean-up: the receiver is stopped and the server is removed.  The answer is
what went wrong, and the end of the server's log. -/
def cleanUp (t : Trial) (crew : Crew) (p : Progress) (failed : Bool) :
    Act (List TrialError × String) := do
  let receiver ← stopReceiver crew p
  let logs ← t.serverLogs crew p failed
  let server ← t.stopServer crew
  let errors := receiver.1 ++ logs.1 ++ server.1
  Artifact.sayAll (errors.map fun e => .cleanupWarning e.message)
  pure (errors, logs.2)

/-! ### Artifacts -/

/-- The artifacts are kept. -/
def keeps (t : Trial) (succeeded : Bool) : Bool :=
  (t.settings .keepArtifacts : Bool) || (!succeeded && (t.settings .keepArtifactsOnFailure : Bool))

/-- The report of a trial. -/
def reportOf (t : Trial) (p : Progress) (o : Outcome) (logs : String)
    (startedAt finishedAt : Moment) : Report where
  runId := t.runId
  startedAt
  finishedAt
  succeeded := o.succeeded
  finalStage := (o.failedStage.getD .verifyOutputs).name
  serverName := t.serverName
  serverAddress := p.server.map t.address
  markers := t.settings .markers
  error := o.error.map fun e => Datum.membersOfJson e.1.payload
  cleanupErrors := o.cleanupErrors.map (·.message)
  receiverOutput := o.receiverOutput
  serverLogs := logs

/-- The directory of artifacts is removed. -/
def removeArtifacts (t : Trial) : Act Unit := do
  perhaps (← ask (·.removal))
  onFiles (·.deleteTree t.artifacts)

/-- The artifacts are kept with a report, or removed. -/
def finalize (t : Trial) (p : Progress) (o : Outcome) (logs : String) (startedAt : Moment) :
    Act Outcome := do
  if t.keeps o.succeeded then do
    let finishedAt ← ask fun b => Moment.ofClock b.clock
    let report ← (t.reportOf p o logs startedAt finishedAt).save t.artifacts
    say (.artifactsKept t.artifacts.text)
    pure { o with artifacts := some t.artifacts, report := some report }
  else
    match ← attempt t.removeArtifacts with
    | .ok () => pure o
    | .error raised =>
      match Server.isFault Fault.Kind.isOs raised with
      | none => throw raised
      | some f => do
        let failed : TrialError := .cleanupFailed "remove_artifacts" f.text
        say (.artifactsNotRemoved failed.message)
        pure { o with cleanupErrors := o.cleanupErrors ++ [failed] }

/-! ### The whole trial -/

/-- What a trial that has gone forward comes to: its progress, and the outcome or what ended it. -/
structure Course where
  progress : Progress := {}
  result : Except Raised Outcome

/-- The outcome of a trial, before the artifacts are dealt with. -/
def outcomeOf (t : Trial) (p : Progress) (failure : Option Failure) (errors : List TrialError)
    (content : String) : Outcome where
  runId := t.runId
  succeeded := failure.isNone
  failedStage := if failure.isSome then p.history.getLast? else none
  error := failure.map verdict
  cleanupErrors := errors
  receiverOutput := content

/-- What follows the clean-up: the receiver's output is read and the outcome is drawn up. -/
def conclude (t : Trial) (startedAt : Moment) (p : Progress) (failure : Option Failure)
    (cleaned : List TrialError × String) : Act Outcome := do
  let content ← (Artifact.ofRoute t.output).read
  t.finalize p (t.outcomeOf p failure cleaned.1 content) cleaned.2 startedAt

/-- What a trial comes to after the clean-up.  What ended the way forward without being a failure is
passed on. -/
def settle (t : Trial) (startedAt : Moment) (p : Progress) (ended : Except Raised Unit)
    (cleaned : List TrialError × String) : Act Outcome :=
  match ended, failureOf ended with
  | .error raised, none => throw raised
  | _, failure => t.conclude startedAt p failure cleaned

/-- What follows once the clean-up is entered.  A clean-up that is itself ended early goes before
what has ended the way forward. -/
def windUp (t : Trial) (crew : Crew) (startedAt : Moment) (p : Progress)
    (ended : Except Raised Unit) : Act Outcome := do
  let cleaned ← t.cleanUp crew p (failureOf ended).isSome
  t.settle startedAt p ended cleaned

/-- What follows the way forward, however it has ended: the clean-up is entered, and the trial comes
to an outcome or is ended in it. -/
def comeHome (t : Trial) (crew : Crew) (startedAt : Moment) (p : Progress)
    (ended : Except Raised Unit) : Act Course := do
  reportFailure p.history.getLast? (failureOf ended)
  let home ← reach p .cleanup
  let result ← attempt (t.windUp crew startedAt p ended)
  pure ⟨home, result⟩

/-- The way forward, the clean-up and the fate of the artifacts. -/
def conduct (t : Trial) (crew : Crew) (startedAt : Moment) : Act Course := do
  match ← attempt (onFiles (·.makeDir t.artifacts)) with
  | .error raised => pure ⟨{}, .error raised⟩
  | .ok () => do
    say (.begun t.runId t.artifacts.text)
    let (p, ended) ← t.forward crew
    t.comeHome crew startedAt p ended

/-- The bench as a trial finds it once records are stamped with it and commands are run in its
working directory. -/
def prepared (t : Trial) (b : Bench) : Bench :=
  { b with
    context := { runId := some t.runId, stage := none }
    workingDir := (t.settings .workingDir : Option Route).map Route.text }

/-- A trial is run once with a crew.  While it runs, records are stamped with it; afterwards the
stamp is what it was before. -/
def courseWith (t : Trial) (crew : Crew) : Act Course := do
  let context ← ask (·.context)
  change t.prepared
  let startedAt ← ask fun b => Moment.ofClock b.clock
  let course ← t.conduct crew startedAt
  change fun b => { b with context }
  (match course.result with
    | .ok o => if o.succeeded then say (.passed t.runId) else pure ()
    | .error _ => pure ())
  pure course

/-- A trial is run once with the usual crew. -/
def course (t : Trial) : Act Course := t.courseWith .usual

/-- A trial is run once, and its outcome is answered. -/
def run (t : Trial) : Act Outcome := do
  let course ← t.course
  release course.result

end Trial
end ClientTrial
