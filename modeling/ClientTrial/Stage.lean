/-!
# The stages of a trial

A trial goes through its stages in one fixed order and stops at the first that
fails.  Building the clients is left out if there is nothing to build, and the
clean-up is entered last, whatever happened before.

## Main definitions

* `Stage` — the stages.
* `Stage.name`, `Stage.ofName?` — the name of a stage, and the stage of a name.
* `Stage.forward` — the stages before the clean-up, in order.

## Main results

* `Stage.ofName?_name` — a stage is found by its name.
-/

namespace ClientTrial

/-- A stage of a trial. -/
inductive Stage where
  /-- The clients are built. -/
  | build
  /-- What an earlier trial left behind is removed. -/
  | cleanPriorState
  /-- The server container is started. -/
  | startServer
  /-- The server is waited for until it accepts a connection. -/
  | awaitReadiness
  /-- The server is given time to settle. -/
  | settleServer
  /-- The receiver is started. -/
  | startReceiver
  /-- The receiver is given time to settle, or waited for until it says that it is ready. -/
  | settleReceiver
  /-- The sender is run. -/
  | runSender
  /-- What the receiver wrote is checked for the markers. -/
  | verifyOutputs
  /-- The receiver is stopped and the server is removed. -/
  | cleanup
  deriving DecidableEq, Repr

namespace Stage

/-- The name of a stage. -/
def name : Stage → String
  | .build => "BuildExamples"
  | .cleanPriorState => "CleanPriorState"
  | .startServer => "StartServer"
  | .awaitReadiness => "AwaitReadiness"
  | .settleServer => "SettleServer"
  | .startReceiver => "StartReceiver"
  | .settleReceiver => "SettleReceiver"
  | .runSender => "RunSender"
  | .verifyOutputs => "VerifyOutputs"
  | .cleanup => "Cleanup"

/-- The stages before the clean-up, in order; `build` tells whether there is something to
build. -/
def forward (build : Bool) : List Stage :=
  (if build then [.build] else []) ++
    [.cleanPriorState, .startServer, .awaitReadiness, .settleServer, .startReceiver,
      .settleReceiver, .runSender, .verifyOutputs]

/-- Every stage. -/
def all : List Stage := forward true ++ [.cleanup]

/-- The stage with a given name. -/
def ofName? (s : String) : Option Stage := all.find? fun stage => stage.name = s

theorem ofName?_name (stage : Stage) : ofName? stage.name = some stage := by
  cases stage <;> decide

end Stage
end ClientTrial
