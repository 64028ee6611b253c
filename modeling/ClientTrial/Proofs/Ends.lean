import ClientTrial.Proofs.Bench.Ends
import ClientTrial.Proofs.Server

/-!
# What can end the tasks of a trial

A task of the usual crew passes on what happens to its calls, or turns it into an error of
its own.  Each task is walked through once, for any property that covers what can happen
to its calls; the errors that the task raises itself are named in the hypotheses.

## Main results

* `Ends.ensureClean`, `Ends.start`, `Ends.stop`, `Ends.logsOf` — the server.
* `Ends.awaitReachable`, `Ends.waitFor`, `Ends.verifyAll` — readiness and artifacts.
* `Ends.runForeground`, `Ends.runBackground`, `Ends.terminate` — the clients.
-/

namespace ClientTrial

open Act

namespace Ends

variable {W Q : Raised → Prop} {ready : Prop} (hQ : Raised.Covers W Q)
include hQ

/-! ### The server -/

/-- The daemon cannot be unreachable once it has been reached. -/
theorem ensureDaemon
    (hunreached : ¬ready → ∀ message cause,
      Q (.trial (.general { message, code := "DOCKER_UNAVAILABLE" }) cause)) :
    Ends W ready Q Server.ensureDaemon := by
  by_cases hready : ready
  · -- nothing is opened, and so nothing can happen
    intro b hb
    rw [Server.exec_ensureDaemon_of_opened (hb.daemon.opened hready)]
    refine ⟨fun r hr => ?_, hb⟩
    cases hr
  · refine attempt_bind (openDaemon hQ) (fun _ => pure ()) fun raised hraised => ?_
    dsimp only
    split
    · exact throw hraised
    · exact throw (hunreached hready _ _)

section

variable (hready : Ends W ready Q Server.ensureDaemon)
include hready

theorem ensureClean (name : String) (hstale : ∀ message f, Q (Server.stale message f)) :
    Ends W ready Q (Server.ensureClean name) := by
  refine attempt_bind (bind hready fun _ => lookup hQ name) (fun _ => ?_) fun raised hraised => ?_
  · refine attempt_bind (remove hQ name) (fun _ => ?_) fun raised hraised => ?_
    · exact bind (say _) fun _ => pure _
    · dsimp only
      split
      · exact throw hraised
      · exact ite (pure _) (throw (hstale _ _))
  · -- the lookup failed, perhaps because there is no such container
    dsimp only
    split
    · exact throw hraised
    · exact ite (bind (say _) fun _ => pure _) (throw (hstale _ _))

omit hready in
theorem chosenPort (name key : String)
    (hunstarted : ∀ message details cause, Q (Server.notStarted message details cause)) :
    Ends W ready Q (Server.chosenPort name key) := by
  refine bind (reload hQ name) fun table => bind (ofExcept hQ _) fun port => ?_
  split
  · exact ofExcept hQ _
  · exact throw (hunstarted _ _ _)

theorem start (name image : String) (containerPort : Int) (hostPort : Option Int)
    (hunstarted : ∀ message details cause, Q (Server.notStarted message details cause)) :
    Ends W ready Q (Server.start name image containerPort hostPort) := by
  refine attempt_bind (bind hready fun _ => create hQ _ _ _ _) (fun id => ?_)
    fun raised hraised => ?_
  · have reported (bound : Int) : Ends W ready Q (do
        Act.say (.serverStarted name image containerPort bound)
        Pure.pure ({ name, image, containerPort, hostPort := bound, id } : Server)) :=
      bind (say _) fun _ => pure _
    dsimp only
    split
    · exact bind (pure _) reported
    · exact bind (chosenPort hQ _ _ hunstarted) reported
  · dsimp only
    split
    · exact throw hraised
    · exact ite (throw (hunstarted _ _ _)) (throw (hunstarted _ _ _))

theorem stop (name : String) : Ends W ready Q (Server.stop name) := by
  have removed : Ends W ready Q (do Server.ensureDaemon; Act.lookup name; Act.remove name) :=
    bind hready fun _ => bind (lookup hQ name) fun _ => remove hQ name
  refine attempt_bind removed (fun _ => bind (say _) fun _ => pure _) fun raised hraised => ?_
  cases raised with
  | failure f => exact ite (pure _) (bind (say _) fun _ => pure _)
  | interrupt text => exact throw hraised
  | stalled => exact throw hraised

theorem logsOf (name : String) (tail : Int) : Ends W ready Q (Server.logs name tail) := by
  have told : Ends W ready Q (do Server.ensureDaemon; Act.lookup name; Act.logs name tail) :=
    bind hready fun _ => bind (lookup hQ name) fun _ => logs hQ name tail
  refine attempt_bind told (fun _ => pure _) fun raised hraised => ?_
  cases raised with
  | failure f => exact pure _
  | interrupt text => exact throw hraised
  | stalled => exact throw hraised

end

/-! ### Readiness and artifacts -/

section

variable (hunavailable : ∀ host port number cause,
  Q (.trial (.serviceUnavailable host port number) cause))
include hunavailable

theorem attempts (host : String) (port : Int) (timeout pause : Float) (budget : Int) (left : Nat)
    (number : Int) :
    Ends W ready Q (ClientTrial.attempts host port timeout pause budget left number) := by
  induction left generalizing number with
  | zero =>
    refine attempt_bind (connect hQ _ _ _) (fun _ => pure _) fun raised hraised => ?_
    dsimp only
    split
    · exact throw hraised
    · exact bind (say _) fun _ => throw (hunavailable _ _ _ _)
  | succ left ih =>
    refine attempt_bind (connect hQ _ _ _) (fun _ => pure _) fun raised hraised => ?_
    dsimp only
    split
    · exact throw hraised
    · exact bind (say _) fun _ => bind (sleep hQ _) fun _ => ih _

theorem awaitReachable (host : String) (port budget : Int) (timeout pause : Float) :
    Ends W ready Q (ClientTrial.awaitReachable host port budget timeout pause) := by
  refine ite (bind (throw (hQ.fault _)) fun _ => ?_) ?_
  all_goals exact bind (attempts hQ hunavailable _ _ _ _ _ _ _) fun _ => bind (say _) fun _ => pure _

end

theorem read (a : Artifact) : Ends W ready Q a.read := bind (fromFiles hQ _) fun _ => pure _

omit hQ in
theorem sayAll (events : List Log.Event) : Ends W ready Q (Artifact.sayAll events) := by
  induction events with
  | nil => exact pure ()
  | cons e rest ih => exact bind (say e) fun _ => ih

theorem verifyAll (a : Artifact) (markers : List String)
    (hmissing : ∀ missing content, Q (.trial (.missingContent missing content a.path) none)) :
    Ends W ready Q (a.verifyAll markers) := by
  refine bind (read hQ a) fun content => ?_
  split
  · exact say _
  · exact bind (sayAll _) fun _ => throw (hmissing _ _)

omit hQ in
theorem poll {look isLate : Act Bool} {pause : Act Unit} (hlook : Ends W ready Q look)
    (hlate : Ends W ready Q isLate) (hpause : Ends W ready Q pause) (rounds : Nat) :
    Ends W ready Q (ClientTrial.poll look isLate pause rounds) := by
  induction rounds with
  | zero => exact pure _
  | succ rounds ih =>
    refine bind hlook fun seen => ite (pure _) (bind hlate fun late => ite (pure _) ?_)
    exact bind hpause fun _ => ih

/-- The wait for a marker may have to be given up. -/
theorem waitFor (a : Artifact) (marker : String) (timeout pause : Float) (hstalled : Q .stalled) :
    Ends W ready Q (a.waitFor marker timeout pause) := by
  refine bind (bind (readClock hQ) fun clock => poll ?_ ?_ (sleep hQ _) _) fun seen => ?_
  · exact bind (read hQ a) fun content => ite (bind (say _) fun _ => pure _) (pure _)
  · exact bind (readClock hQ) fun _ => pure _
  · split
    · exact pure _
    · exact throw hstalled

/-! ### The clients -/

section

variable (hfailed : ∀ command status timedOut cause,
  Q (.trial (.processFailed command status timedOut) cause))
include hfailed

theorem runForeground (command : List String) (added : List (String × String))
    (timeout : Option Float) : Ends W ready Q (Client.runForeground command added timeout) := by
  refine bind (say _) fun _ => bind (ask _) fun environ => bind (ask _) fun dir => ?_
  refine attempt_bind (runErrand hQ _ _ _ _) (fun status => ?_) fun raised hraised => ?_
  · refine ite (bind (throw (hfailed _ _ _ _)) fun _ => ?_) ?_
    all_goals exact bind (say _) fun _ => pure _
  · dsimp only
    split
    · exact throw (hfailed _ _ _ _)
    · exact bind (say _) fun _ => throw (hfailed _ _ _ _)
    · exact throw hraised

theorem runBackground (command : List String) (added : List (String × String)) (route : Route) :
    Ends W ready Q (Client.runBackground command added route) := by
  refine bind (openOutput hQ _) fun output => bind (ask _) fun environ => bind (ask _) fun dir => ?_
  refine attempt_bind (spawn hQ _ _ _ _ _) (fun pid => ?_) fun raised hraised => ?_
  · exact bind (say _) fun _ => bind (ask _) fun startedAt => pure _
  · dsimp only
    split
    · exact throw hraised
    · refine bind (closeOutput hQ _) fun _ => bind (say _) fun _ => ?_
      exact throw (hfailed _ _ _ _)

end

theorem tryHalt (r : Receiver) : Ends W ready Q r.tryHalt := by
  have halted : Ends W ready Q r.halt := by
    refine bind (isRunning hQ _) fun running => ite (bind (kill hQ _) fun _ => ?_) ?_
    all_goals exact bind (wait hQ _) fun status => say _
  refine attempt_bind halted (fun _ => pure _) fun raised hraised => ?_
  dsimp only
  split
  · exact throw hraised
  · exact bind (say _) fun _ => pure _

theorem tryClose (r : Receiver) (earlier : Option TrialError) :
    Ends W ready Q (r.tryClose earlier) := by
  unfold Receiver.tryClose
  split
  · exact pure _
  · refine bind (ask _) fun closed => ite (pure _) ?_
    refine attempt_bind (closeOutput hQ _) (fun _ => pure _) fun raised hraised => ?_
    dsimp only
    split
    · exact throw hraised
    · exact bind (say _) fun _ => pure _

theorem terminate (r : Receiver) : Ends W ready Q r.terminate :=
  bind (tryHalt hQ r) fun failure => tryClose hQ r failure

end Ends
end ClientTrial
