import ClientTrial.Proofs.Bench.Frame
import ClientTrial.Trial.Basic

/-!
# Tasks in a frame

A task stays in a frame if the calls that it makes stay there.  What a task does about the
ends of these calls -- it reports them, passes them on or puts an error of the trial in
their place -- has not to be looked at again for each frame.

## Main results

* `Act.Frame.keeps_read`, `Act.Frame.keeps_wordsOf` — tasks that stay in any frame.
* `Act.Frame.keeps_start`, `Act.Frame.keeps_runForeground`, … — tasks that stay in the frame of
  the calls that they make.
* `Act.Frame.keeps_perform`, `Act.Frame.keeps_answer`, `Act.Frame.keeps_cleanUp` — the same for the
  stages and the clean-up.
-/

namespace ClientTrial
namespace Act.Frame

variable {F : Frame}

/-! ### Tasks that change nothing -/

theorem keeps_read (a : Artifact) : F.Keeps a.read :=
  keeps_bind (keeps_fromFiles _) fun _ => keeps_pure _

theorem keeps_wordsOf {α : Type} (words : Except Text.CommandError α) :
    F.Keeps (Trial.wordsOf words) := by
  cases words with
  | ok list => exact keeps_pure list
  | error e => exact keeps_throw _

/-! ### The daemon -/

theorem keeps_ensureDaemon (hopen : F.Keeps openDaemon) : F.Keeps Server.ensureDaemon := by
  refine keeps_bind (keeps_attempt hopen) fun ended => ?_
  split
  · exact keeps_pure ()
  · split
    · exact keeps_throw _
    · exact keeps_throw _

theorem keeps_logsOf {name : String} {tail : Int} (hopen : F.Keeps openDaemon)
    (hlookup : F.Keeps (lookup name)) (hlogs : F.Keeps (logs name tail)) :
    F.Keeps (Server.logs name tail) := by
  have told : F.Keeps (do Server.ensureDaemon; lookup name; logs name tail) :=
    keeps_bind (keeps_ensureDaemon hopen) fun _ => keeps_bind hlookup fun _ => hlogs
  refine keeps_bind (keeps_attempt told) fun ended => ?_
  split
  · exact keeps_pure _
  · exact keeps_pure _
  · exact keeps_throw _

theorem keeps_chosenPort {name : String} (hreload : F.Keeps (reload name)) (key : String) :
    F.Keeps (Server.chosenPort name key) := by
  refine keeps_bind hreload fun table => keeps_bind (keeps_ofExcept _) fun port => ?_
  split
  · exact keeps_ofExcept _
  · exact keeps_throw _

/-! ### Looking again and again -/

theorem keeps_poll {look isLate : Act Bool} {pause : Act Unit} (hlook : F.Keeps look)
    (hlate : F.Keeps isLate) (hpause : F.Keeps pause) (rounds : Nat) :
    F.Keeps (poll look isLate pause rounds) := by
  induction rounds with
  | zero => exact keeps_pure _
  | succ rounds ih =>
    refine keeps_bind hlook fun seen => keeps_ite (keeps_pure _) ?_
    refine keeps_bind hlate fun late => keeps_ite (keeps_pure _) ?_
    exact keeps_bind hpause fun _ => ih

/-! ### The way forward -/

theorem keeps_reach {stage : Stage} (henter : F.Keeps (Trial.enter stage)) (p : Progress) :
    F.Keeps (Trial.reach p stage) :=
  keeps_bind henter fun _ => keeps_pure _

/-- A way forward stays in the frame of entering its stages and of what is done in them. -/
theorem keeps_goForward (t : Trial) {crew : Crew}
    (henter : ∀ stage, F.Keeps (Trial.enter stage))
    (hperform : ∀ p stage, F.Keeps (t.perform crew p stage)) (stages : List Stage) (p : Progress) :
    F.Keeps (t.goForward crew stages p) := by
  induction stages generalizing p with
  | nil => exact keeps_pure _
  | cons stage rest ih =>
    refine keeps_bind (keeps_reach (henter stage) p) fun p => ?_
    refine keeps_bind (keeps_attempt (hperform p stage)) fun ended => ?_
    split
    · exact ih _
    · exact keeps_pure _

/-! ### Tasks that report -/

section

variable (hsay : ∀ e, F.Keeps (say e))
include hsay

theorem keeps_ensureClean {name : String} (hopen : F.Keeps openDaemon)
    (hlookup : F.Keeps (lookup name)) (hremove : F.Keeps (remove name)) :
    F.Keeps (Server.ensureClean name) := by
  have looked : F.Keeps (do Server.ensureDaemon; lookup name) :=
    keeps_bind (keeps_ensureDaemon hopen) fun _ => hlookup
  refine keeps_bind (keeps_attempt looked) fun ended => ?_
  split
  · -- the lookup failed, perhaps because there is no such container
    split
    · exact keeps_throw _
    · refine keeps_ite ?_ (keeps_throw _)
      exact keeps_bind (hsay _) fun _ => keeps_pure _
  · refine keeps_bind (keeps_attempt hremove) fun ended => ?_
    split
    · split
      · exact keeps_throw _
      · exact keeps_ite (keeps_pure _) (keeps_throw _)
    · exact keeps_bind (hsay _) fun _ => keeps_pure _

theorem keeps_start {name image : String} {containerPort : Int} {hostPort : Option Int}
    (hopen : F.Keeps openDaemon)
    (hcreate : F.Keeps (create image name (Server.portKey containerPort) hostPort))
    (hreload : F.Keeps (reload name)) :
    F.Keeps (Server.start name image containerPort hostPort) := by
  have created : F.Keeps (do
      Server.ensureDaemon
      create image name (Server.portKey containerPort) hostPort) :=
    keeps_bind (keeps_ensureDaemon hopen) fun _ => hcreate
  refine keeps_bind (keeps_attempt created) fun ended => ?_
  split
  · split
    · exact keeps_throw _
    · exact keeps_ite (keeps_throw _) (keeps_throw _)
  · -- the container is there; its port may still have to be read back
    have reported (id : String) (bound : Int) : F.Keeps (do
        say (.serverStarted name image containerPort bound)
        pure ({ name, image, containerPort, hostPort := bound, id } : Server)) :=
      keeps_bind (hsay _) fun _ => keeps_pure _
    split
    · exact keeps_bind (keeps_pure _) (reported _)
    · exact keeps_bind (keeps_chosenPort hreload _) (reported _)

theorem keeps_awaitReachable {host : String} {port : Int} {timeout pause : Float}
    (hconnect : F.Keeps (connect host port timeout)) (hsleep : F.Keeps (sleep pause))
    (budget : Int) : F.Keeps (awaitReachable host port budget timeout pause) := by
  have attempted (left : Nat) (number : Int) :
      F.Keeps (attempts host port timeout pause budget left number) := by
    induction left generalizing number with
    | zero =>
      refine keeps_bind (keeps_attempt hconnect) fun ended => ?_
      split
      · exact keeps_pure _
      · split
        · exact keeps_throw _
        · exact keeps_bind (hsay _) fun _ => keeps_throw _
    | succ left ih =>
      refine keeps_bind (keeps_attempt hconnect) fun ended => ?_
      split
      · exact keeps_pure _
      · split
        · exact keeps_throw _
        · exact keeps_bind (hsay _) fun _ => keeps_bind hsleep fun _ => ih _
  have counted : F.Keeps (do
      let number ← attempts host port timeout pause budget (budget - 1).toNat 1
      say (.reachable host port number)
      pure number) :=
    keeps_bind (attempted _ _) fun _ => keeps_bind (hsay _) fun _ => keeps_pure _
  exact keeps_ite (keeps_bind (keeps_throw _) fun _ => counted) counted

theorem keeps_waitFor (a : Artifact) (marker : String) (timeout : Float) {pause : Float}
    (hclock : F.Keeps readClock) (hsleep : F.Keeps (sleep pause)) :
    F.Keeps (a.waitFor marker timeout pause) := by
  refine keeps_bind (keeps_bind hclock fun clock => keeps_poll ?_ ?_ hsleep _) fun seen => ?_
  · refine keeps_bind (keeps_read a) fun content => ?_
    exact keeps_ite (keeps_bind (hsay _) fun _ => keeps_pure _) (keeps_pure _)
  · exact keeps_bind hclock fun _ => keeps_pure _
  · split
    · exact keeps_pure _
    · exact keeps_throw _

/-- A command is run in the environment of the bench on which it is run. -/
theorem keeps_runForeground {command : List String} {added : List (String × String)}
    {timeout : Option Float}
    (hrun : ∀ b : Bench, F.Holds b
      ((runErrand command (overlay b.environ added) b.workingDir timeout).exec b).2) :
    F.Keeps (Client.runForeground command added timeout) := by
  refine keeps_bind (hsay _) fun _ b => ?_
  rw [exec_bind_of_ok (exec_ask _ b), exec_bind_of_ok (exec_ask _ b)]
  refine holds_attempt_bind (hrun b) fun ended => ?_
  split
  · refine keeps_ite (keeps_bind (keeps_throw _) fun _ => ?_) ?_
    all_goals exact keeps_bind (hsay _) fun _ => keeps_pure _
  · split
    · exact keeps_throw _
    · exact keeps_bind (hsay _) fun _ => keeps_throw _
    · exact keeps_throw _

/-- A receiver is spawned in the environment of the bench on which its output was opened. -/
theorem keeps_runBackground {command : List String} {added : List (String × String)}
    {route : Route} (hopen : F.Keeps (openOutput route))
    (hspawn : ∀ (b : Bench) (n : Nat), F.Holds b
      ((spawn command (overlay b.environ added) b.workingDir route n).exec b).2)
    (hclose : ∀ n, F.Keeps (closeOutput n)) :
    F.Keeps (Client.runBackground command added route) := by
  refine keeps_bind hopen fun n b => ?_
  rw [exec_bind_of_ok (exec_ask _ b), exec_bind_of_ok (exec_ask _ b)]
  refine holds_attempt_bind (hspawn b n) fun ended => ?_
  split
  · exact keeps_bind (hsay _) fun _ => keeps_bind (keeps_ask _) fun _ => keeps_pure _
  · split
    · exact keeps_throw _
    · exact keeps_bind (hclose _) fun _ => keeps_bind (hsay _) fun _ => keeps_throw _

theorem keeps_stop {name : String} (hopen : F.Keeps openDaemon) (hlookup : F.Keeps (lookup name))
    (hremove : F.Keeps (remove name)) : F.Keeps (Server.stop name) := by
  have removed : F.Keeps (do Server.ensureDaemon; lookup name; remove name) :=
    keeps_bind (keeps_ensureDaemon hopen) fun _ => keeps_bind hlookup fun _ => hremove
  refine keeps_bind (keeps_attempt removed) fun ended => ?_
  split
  · exact keeps_bind (hsay _) fun _ => keeps_pure _
  · exact keeps_ite (keeps_pure _) (keeps_bind (hsay _) fun _ => keeps_pure _)
  · exact keeps_throw _

theorem keeps_sayAll (events : List Log.Event) : F.Keeps (Artifact.sayAll events) := by
  induction events with
  | nil => exact keeps_pure ()
  | cons e rest ih => exact keeps_bind (hsay e) fun _ => ih

/-- Some events are reported on a bench. -/
theorem holds_sayingAll (events : List Log.Event) (b : Bench) : F.Holds b (b.sayingAll events) := by
  have said : F.Holds b ((Artifact.sayAll events).exec b).2 := keeps_sayAll hsay events b
  rwa [Artifact.exec_sayAll] at said

theorem keeps_verifyAll (a : Artifact) (markers : List String) : F.Keeps (a.verifyAll markers) := by
  refine keeps_bind (keeps_read a) fun content => ?_
  split
  · exact hsay _
  · exact keeps_bind (keeps_sayAll hsay _) fun _ => keeps_throw _

theorem keeps_close (r : Receiver) {n : Nat} (hclose : F.Keeps (closeOutput n))
    (earlier : Option TrialError) : F.Keeps (r.close n earlier) := by
  refine keeps_bind (keeps_attempt hclose) fun ended => ?_
  split
  · exact keeps_pure _
  · split
    · exact keeps_throw _
    · exact keeps_bind (hsay _) fun _ => keeps_pure _

theorem keeps_tryClose (r : Receiver) (hclose : ∀ n, F.Keeps (closeOutput n))
    (earlier : Option TrialError) : F.Keeps (r.tryClose earlier) := by
  unfold Receiver.tryClose
  split
  · exact keeps_pure _
  · refine keeps_bind (keeps_ask _) fun closed => keeps_ite (keeps_pure _) ?_
    exact keeps_close hsay r (hclose _) earlier

theorem keeps_tryHalt (r : Receiver) (hkill : F.Keeps (kill r.pid)) (hwait : F.Keeps (wait r.pid)) :
    F.Keeps r.tryHalt := by
  have waited : F.Keeps (do
      let status ← wait r.pid
      say (.stopped (Client.firstWord r.command) r.pid status)) :=
    keeps_bind hwait fun _ => hsay _
  have halted : F.Keeps r.halt := by
    refine keeps_bind (keeps_isRunning _) fun running => ?_
    exact keeps_ite (keeps_bind hkill fun _ => waited) waited
  refine keeps_bind (keeps_attempt halted) fun ended => ?_
  split
  · exact keeps_pure _
  · split
    · exact keeps_throw _
    · exact keeps_bind (hsay _) fun _ => keeps_pure _

theorem keeps_terminate (r : Receiver) (hkill : F.Keeps (kill r.pid))
    (hwait : F.Keeps (wait r.pid)) (hclose : ∀ n, F.Keeps (closeOutput n)) :
    F.Keeps r.terminate :=
  keeps_bind (keeps_tryHalt hsay r hkill hwait) fun _ => keeps_tryClose hsay r hclose _

/-- A call of the clean-up stays in the frame of the calls that are made for it. -/
theorem keeps_answer {call : CleanUpCall} (hopen : F.Keeps openDaemon)
    (hlookup : ∀ name, F.Keeps (lookup name))
    (hlogs : ∀ name tail, F.Keeps (logs name tail))
    (hremove : ∀ name, call = .stop name → F.Keeps (remove name))
    (hkill : ∀ pid, F.Keeps (kill pid)) (hwait : ∀ pid, F.Keeps (wait pid))
    (hclose : ∀ r, call = .terminate r → ∀ n, F.Keeps (closeOutput n)) :
    F.Keeps (Crew.usual.answer call) := by
  cases call with
  | terminate r =>
    refine keeps_bind (keeps_terminate hsay r (hkill _) (hwait _) (hclose r rfl)) fun _ => ?_
    exact keeps_pure _
  | logs name =>
    exact keeps_bind (keeps_logsOf hopen (hlookup name) (hlogs name _)) fun _ => keeps_pure _
  | stop name =>
    refine keeps_bind (keeps_stop hsay hopen (hlookup name) (hremove name rfl)) fun _ => ?_
    exact keeps_pure _

/-! ### The trial -/

variable (t : Trial)

theorem keeps_reportExited (r : Receiver) : F.Keeps (Trial.reportExited .usual r) := by
  refine keeps_bind (keeps_isRunning _) fun running => keeps_ite ?_ (keeps_pure ())
  exact keeps_bind (keeps_status? _) fun status => hsay _

theorem keeps_settleReceiver (hclock : F.Keeps readClock)
    (hsleep : ∀ seconds, F.Keeps (sleep seconds)) : F.Keeps (t.settleReceiver .usual) := by
  unfold Trial.settleReceiver
  split
  · refine keeps_bind (keeps_waitFor hsay _ _ _ hclock (hsleep _)) fun ready => ?_
    exact keeps_ite (keeps_throw _) (keeps_pure ())
  · exact hsleep _

theorem keeps_reportFailure (stage : Option Stage) (failure : Option Failure) :
    F.Keeps (Trial.reportFailure stage failure) := by
  unfold Trial.reportFailure
  split
  · exact hsay _
  · exact hsay _
  · exact keeps_pure ()

/-- A stage stays in the frame of the calls that are made in it. -/
theorem keeps_perform (hopen : F.Keeps openDaemon) (hlookup : F.Keeps (lookup t.serverName))
    (hremove : F.Keeps (remove t.serverName))
    (hcreate : ∀ image port hostPort, F.Keeps (create image t.serverName port hostPort))
    (hreload : F.Keeps (reload t.serverName))
    (hconnect : ∀ host port timeout, F.Keeps (connect host port timeout))
    (hclock : F.Keeps readClock) (hsleep : ∀ seconds, F.Keeps (sleep seconds))
    (hrun : ∀ command environ dir timeout, F.Keeps (runErrand command environ dir timeout))
    {stage : Stage} (hstart : stage = .startReceiver →
      ∀ command added, F.Keeps (Client.runBackground command added t.output)) (p : Progress) :
    F.Keeps (t.perform .usual p stage) := by
  have run (command : List String) (added : List (String × String)) (timeout : Option Float) :
      F.Keeps (Client.runForeground command added timeout) :=
    keeps_runForeground hsay fun b => hrun _ _ _ _ b
  cases stage with
  | build =>
    refine keeps_bind (keeps_wordsOf _) fun command => ?_
    exact keeps_bind (run _ _ _) fun _ => keeps_pure p
  | cleanPriorState =>
    exact keeps_bind (keeps_ensureClean hsay hopen hlookup hremove) fun _ => keeps_pure p
  | startServer =>
    exact keeps_bind (keeps_start hsay hopen (hcreate _ _ _) hreload) fun _ => keeps_pure _
  | awaitReadiness =>
    simp only [Trial.perform]
    split
    · exact keeps_pure p
    · refine keeps_bind (keeps_awaitReachable hsay (hconnect _ _ _) (hsleep _) _) fun _ => ?_
      exact keeps_pure p
  | settleServer => exact keeps_bind (hsleep _) fun _ => keeps_pure p
  | startReceiver =>
    simp only [Trial.perform]
    split
    · exact keeps_pure p
    · refine keeps_bind (keeps_wordsOf _) fun command => ?_
      exact keeps_bind (hstart rfl _ _) fun _ => keeps_pure _
  | settleReceiver =>
    refine keeps_bind (keeps_settleReceiver hsay t hclock hsleep) fun _ => ?_
    split
    · exact keeps_pure p
    · exact keeps_bind (keeps_reportExited hsay _) fun _ => keeps_pure p
  | runSender =>
    simp only [Trial.perform]
    split
    · exact keeps_pure p
    · refine keeps_bind (keeps_wordsOf _) fun command => ?_
      exact keeps_bind (run _ _ _) fun _ => keeps_pure p
  | verifyOutputs => exact keeps_bind (keeps_verifyAll hsay _ _) fun _ => keeps_pure p
  | cleanup => exact keeps_pure p

omit hsay in
/-- A step of the clean-up stays in the frame of its call. -/
theorem keeps_bestEffort {crew : Crew} {call : CleanUpCall} (hcall : F.Keeps (crew.answer call)) :
    F.Keeps (Trial.bestEffort crew call) := by
  refine keeps_bind (keeps_attempt hcall) fun ended => ?_
  split
  · exact keeps_pure _
  · exact keeps_pure _
  · exact keeps_pure _
  · exact keeps_throw _

/-- Once the receiver is dealt with, the clean-up stays in the frame of the calls that are about the
server. -/
theorem holds_cleanUp_of_stopReceiver {crew : Crew}
    (hlogs : F.Keeps (crew.answer (.logs t.serverName)))
    (hstop : F.Keeps (crew.answer (.stop t.serverName))) (p : Progress) (failed : Bool)
    (b : Bench) :
    F.Holds ((Trial.stopReceiver crew p).exec b).2 ((t.cleanUp crew p failed).exec b).2 := by
  have logs : F.Keeps (t.serverLogs crew p failed) :=
    keeps_ite (keeps_bestEffort hlogs) (keeps_pure _)
  have server : F.Keeps (t.stopServer crew) :=
    keeps_ite (keeps_bind (hsay _) fun _ => keeps_pure _) (keeps_bestEffort hstop)
  unfold Trial.cleanUp
  refine holds_bind (F.refl _) fun _ => keeps_bind logs fun _ => keeps_bind server fun _ => ?_
  exact keeps_bind (keeps_sayAll hsay _) fun _ => keeps_pure _

/-- The clean-up stays in the frame of its calls. -/
theorem keeps_cleanUp {crew : Crew}
    (hanswer : ∀ call, (∀ name, call = .stop name → name = t.serverName) →
      F.Keeps (crew.answer call)) (p : Progress) (failed : Bool) :
    F.Keeps (t.cleanUp crew p failed) := by
  have receiver : F.Keeps (Trial.stopReceiver crew p) := by
    unfold Trial.stopReceiver
    split
    · exact keeps_pure _
    · exact keeps_bestEffort (hanswer _ fun _ h => nomatch h)
  intro b
  refine F.trans (receiver b) (holds_cleanUp_of_stopReceiver hsay t ?_ ?_ p failed b)
  · exact hanswer _ fun _ h => nomatch h
  · refine hanswer _ fun name h => ?_
    cases h
    rfl

/-- What is done with the artifacts stays in the frame of saving a report and of removing the
directory. -/
theorem keeps_finalize (hsave : ∀ r : Report, F.Keeps (r.save t.artifacts))
    (hdelete : F.Keeps (onFiles (·.deleteTree t.artifacts))) (p : Progress) (o : Outcome)
    (logs : String) (startedAt : Moment) : F.Keeps (t.finalize p o logs startedAt) := by
  have removed : F.Keeps t.removeArtifacts :=
    keeps_bind (keeps_ask _) fun _ => keeps_bind (keeps_perhaps _) fun _ => hdelete
  refine keeps_ite (keeps_bind (keeps_ask _) fun _ => ?_)
    (keeps_bind (keeps_attempt removed) fun ended => ?_)
  · exact keeps_bind (hsave _) fun _ => keeps_bind (hsay _) fun _ => keeps_pure _
  · split
    · exact keeps_pure o
    · split
      · exact keeps_throw _
      · exact keeps_bind (hsay _) fun _ => keeps_pure _

theorem keeps_settle (hsave : ∀ r : Report, F.Keeps (r.save t.artifacts))
    (hdelete : F.Keeps (onFiles (·.deleteTree t.artifacts))) (startedAt : Moment) (p : Progress)
    (ended : Except Raised Unit) (cleaned : List TrialError × String) :
    F.Keeps (t.settle startedAt p ended cleaned) := by
  unfold Trial.settle
  split
  · exact keeps_throw _
  · refine keeps_bind (keeps_read _) fun content => ?_
    exact keeps_finalize hsay t hsave hdelete _ _ _ _

/-- What follows the way forward stays in the frame of entering the clean-up and of what follows
then. -/
theorem keeps_comeHome {crew : Crew} {startedAt : Moment} {p : Progress}
    {ended : Except Raised Unit} (henter : F.Keeps (Trial.enter .cleanup))
    (hwindUp : F.Keeps (t.windUp crew startedAt p ended)) :
    F.Keeps (t.comeHome crew startedAt p ended) := by
  refine keeps_bind (keeps_reportFailure hsay _ _) fun _ => ?_
  refine keeps_bind (keeps_reach henter p) fun home => ?_
  exact keeps_bind (keeps_attempt hwindUp) fun _ => keeps_pure _

end

/-- A report is saved in the frame of what is done to the files for it. -/
theorem keeps_save {dir : Route} (hmake : F.Keeps (onFiles (·.makeDirs dir)))
    (hwrite : ∀ route content, F.Keeps (onFiles (·.write route content))) (r : Report) :
    F.Keeps (r.save dir) := by
  refine keeps_bind hmake fun _ => ?_
  refine keeps_bind (keeps_ofExcept _) fun json => keeps_bind (hwrite _ _) fun _ => ?_
  refine keeps_bind (keeps_ofExcept _) fun page => keeps_bind (hwrite _ _) fun _ => ?_
  exact keeps_pure _

end Act.Frame
end ClientTrial
