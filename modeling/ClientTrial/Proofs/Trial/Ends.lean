import ClientTrial.Proofs.Effects
import ClientTrial.Proofs.Ends
import ClientTrial.Proofs.Trial.Course

/-!
# What can end the stages of a trial

Each stage has its own errors.  They are told apart by name, code and exit status, which
together are the sort of an error; a table says which sorts belong to which stage.  A stage
is ended by an error of one of its sorts, by something that happened to one of its calls,
or by a clock that has stopped.

The daemon is reached in the stage that removes what an earlier trial left behind, at the
latest.  That the server is only started after this stage has been through is why an
unreachable daemon is no error of the start.

## Main definitions

* `TrialError.sort` — name, code and exit status of an error.
* `Trial.sortsIn` — the sorts of the errors of a stage.

## Main results

* `Ends.perform` — what can end a stage.
* `Trial.foresees_journey` — the benches of a journey foresee their incidents.
* `Trial.ended_journey` — what can end a journey, stage by stage.
-/

namespace ClientTrial

open Act

/-! ### Sorts of errors -/

/-- The sort of an error: its name, its code and its exit status. -/
def TrialError.sort (e : TrialError) : String × String × Int := (e.name, e.code, e.exitStatus)

/-- The sorts of the errors that a stage can be ended by of its own accord. -/
def Trial.sortsIn (t : Trial) : Stage → List (String × String × Int)
  | .build | .startReceiver | .runSender => [("ProcessFailed", "PROCESS_FAILED", 3)]
  | .cleanPriorState =>
    [("HarnessError", "STALE_SERVER", 1), ("HarnessError", "DOCKER_UNAVAILABLE", 1)]
  | .startServer => [("ServerStartFailed", "SERVER_START_FAILED", 5)]
  | .awaitReadiness => [("ServiceUnavailable", "SERVICE_UNAVAILABLE", 2)]
  | .settleReceiver =>
    if (t.settings .readyMarker : Option String).isSome then
      [("ReceiverNotReady", "RECEIVER_NOT_READY", 6)]
    else []
  | .verifyOutputs => [("MissingExpectedContent", "MISSING_EXPECTED_CONTENT", 4)]
  | .settleServer | .cleanup => []

/-! ### The stages -/

namespace Ends

variable {W Q : Raised → Prop} {ready : Prop} (hQ : Raised.Covers W Q) (t : Trial)
include hQ

theorem wordsOf {α : Type} (words : Except Text.CommandError α) :
    Ends W ready Q (Trial.wordsOf words) := by
  cases words with
  | ok list => exact pure list
  | error e => exact throw (hQ.fault _)

theorem reportExited (r : Receiver) : Ends W ready Q (Trial.reportExited .usual r) :=
  bind (isRunning hQ _) fun _ => ite (bind (status? _) fun _ => say _) (pure _)

/-- A receiver is only said not to be ready if a ready marker is configured. -/
theorem settleReceiver (hstalled : Q .stalled)
    (hsort : ∀ e cause, e.sort ∈ t.sortsIn .settleReceiver → Q (.trial e cause)) :
    Ends W ready Q (t.settleReceiver .usual) := by
  unfold Trial.settleReceiver
  split
  · next marker hmarker =>
    refine bind (waitFor hQ _ _ _ _ hstalled) fun ready => ite (throw (hsort _ _ ?_)) (pure _)
    rw [Trial.sortsIn, hmarker]
    exact List.mem_singleton.2 rfl
  · exact sleep hQ _

/-- **What can end a stage**: something that happened to one of its calls, an error of one of its
sorts, or a clock that has stopped.  The server is only started once the daemon has been reached. -/
theorem perform (p : Progress) (stage : Stage) (hstalled : Q .stalled)
    (hready : stage = .startServer → ready)
    (hsort : ∀ e cause, e.sort ∈ t.sortsIn stage → Q (.trial e cause)) :
    Ends W ready Q (t.perform .usual p stage) := by
  have failed (hmem : ("ProcessFailed", "PROCESS_FAILED", 3) ∈ t.sortsIn stage)
      (command : List String) (status : Int) (timedOut : Bool) (cause : Option Fault) :
      Q (.trial (.processFailed command status timedOut) cause) := hsort _ _ hmem
  cases stage with
  | build =>
    refine bind (wordsOf hQ _) fun command => bind ?_ fun _ => pure p
    exact runForeground hQ (failed (List.mem_singleton.2 rfl)) _ _ _
  | cleanPriorState =>
    refine bind (ensureClean hQ (ensureDaemon hQ fun _ message cause => ?_) _ fun message f => ?_)
      fun _ => pure p
    · exact hsort _ _ (List.mem_cons_of_mem _ (List.mem_singleton.2 rfl))
    · exact hsort _ _ List.mem_cons_self
  | startServer =>
    refine bind (start hQ (ensureDaemon hQ fun hnot => absurd (hready rfl) hnot) _ _ _ _
      fun message details cause => ?_) fun server => pure _
    exact hsort _ _ (List.mem_singleton.2 rfl)
  | awaitReadiness =>
    simp only [Trial.perform]
    split
    · exact pure p
    · refine bind (awaitReachable hQ (fun host port number cause => ?_) _ _ _ _ _) fun _ => pure p
      exact hsort _ _ (List.mem_singleton.2 rfl)
  | settleServer => exact bind (sleep hQ _) fun _ => pure p
  | startReceiver =>
    simp only [Trial.perform]
    split
    · exact pure p
    · refine bind (wordsOf hQ _) fun command => bind ?_ fun receiver => pure _
      exact runBackground hQ (failed (List.mem_singleton.2 rfl)) _ _ _
  | settleReceiver =>
    refine bind (settleReceiver hQ t hstalled hsort) fun _ => ?_
    split
    · exact pure p
    · exact bind (reportExited hQ _) fun _ => pure p
  | runSender =>
    simp only [Trial.perform]
    split
    · exact pure p
    · refine bind (wordsOf hQ _) fun command => bind ?_ fun _ => pure p
      exact runForeground hQ (failed (List.mem_singleton.2 rfl)) _ _ _
  | verifyOutputs =>
    refine bind (verifyAll hQ _ _ fun missing content => ?_) fun _ => pure p
    exact hsort _ _ (List.mem_singleton.2 rfl)
  | cleanup => exact pure p

end Ends

/-! ### The journey -/

namespace Trial

variable (t : Trial) {W : Raised → Prop}

/-- Only the stage that removes what an earlier trial left behind comes right before the start of
the server. -/
theorem before_startServer {build : Bool} {stage : Stage} {rest : List Stage}
    (h : stage :: rest <:+ Stage.forward build) (hnext : rest.head? = some .startServer) :
    stage = .cleanPriorState := by
  obtain ⟨later, rfl⟩ : ∃ later, rest = .startServer :: later :=
    List.head?_eq_some_iff.1 hnext
  cases build <;>
    simp [Stage.forward, List.suffix_cons_iff] at h <;> simp [h]

/-- A trial sets out on a bench that foresees its incidents if it is begun on one. -/
theorem foresees_outset {b : Bench} (hb : b.Foresees W False) (fs : Files) :
    (t.outset fs b).Foresees W False := { hb with }

/-- The benches of a journey foresee their incidents, and the daemon has been reached before the
server is started. -/
theorem foresees_journeyFrom {build : Bool} {stages : List Stage}
    (hstages : stages <:+ Stage.forward build) (p : Progress) {b : Bench}
    (hb : b.Foresees W False)
    (hopened : stages.head? = some .startServer → b.daemon.opened = true) :
    (∀ v ∈ (t.journeyFrom .usual stages p b).visits,
      v.bench.Foresees W (v.stage = .startServer)) ∧
      (t.journeyFrom .usual stages p b).bench.Foresees W False := by
  induction stages generalizing p b with
  | nil => exact ⟨fun v hv => absurd hv List.not_mem_nil, hb⟩
  | cons stage rest ih =>
    -- readiness is asked for in the one stage that needs it, and is gone after its visit
    have entered : (visit stage p b).bench.Foresees W (stage = .startServer) := by
      refine { hb with daemon := { hb.daemon with opened := fun hstage => ?_ } }
      exact hopened (congrArg some hstage)
    have covered : Raised.Covers W fun _ => True := ⟨fun _ _ => trivial, fun _ => trivial⟩
    obtain ⟨-, hafter⟩ := Ends.perform covered t (visit stage p b).progress stage trivial id
      (fun _ _ _ => trivial) _ entered
    rcases h : t.performed .usual (visit stage p b) with ⟨raised | p', c⟩
    · have hc : c.Foresees W (stage = .startServer) := by
        rw [show c = (t.performed .usual (visit stage p b)).2 by rw [h]]
        exact hafter
      rw [t.journeyFrom_of_error .usual h]
      refine ⟨fun v hv => ?_, hc.unready⟩
      rw [List.mem_singleton.1 hv]
      exact entered
    · have hc : c.Foresees W (stage = .startServer) := by
        rw [show c = (t.performed .usual (visit stage p b)).2 by rw [h]]
        exact hafter
      have hreached (hnext : rest.head? = some .startServer) : c.daemon.opened = true := by
        have hstage := before_startServer hstages hnext
        subst hstage
        obtain ⟨found, d, hclean, hdone⟩ := exec_bind_eq_ok.1 h
        cases hdone
        exact Server.opened_of_ensureClean hclean
      obtain ⟨hvisits, hlast⟩ := ih ((List.suffix_cons _ _).trans hstages) p' hc.unready hreached
      rw [t.journeyFrom_of_ok .usual h]
      exact ⟨List.forall_mem_cons.2 ⟨entered, hvisits⟩, hlast⟩

theorem foresees_journey {b : Bench} (hb : b.Foresees W False) :
    (∀ v ∈ (t.journey .usual b).visits, v.bench.Foresees W (v.stage = .startServer)) ∧
      (t.journey .usual b).bench.Foresees W False := by
  unfold journey
  split
  · exact ⟨fun v hv => absurd hv List.not_mem_nil, hb⟩
  · refine t.foresees_journeyFrom List.suffix_rfl _ hb fun hstart => ?_
    unfold Stage.forward at hstart
    split at hstart
    · cases hstart
    · cases hstart

/-- **What can end a journey.**  A journey is ended in its last visit, by something that happened to
a call, by an error of one of the sorts of the stage, or by a clock that has stopped.  A journey
without a visit is ended by the fault of a build command that has no words. -/
theorem ended_journey {Q : Stage → Raised → Prop} (hQ : ∀ stage, Raised.Covers W (Q stage))
    (hstalled : ∀ stage, Q stage .stalled)
    (hsort : ∀ stage e cause, e.sort ∈ t.sortsIn stage → Q stage (.trial e cause))
    {b : Bench} (hb : b.Foresees W False) {r : Raised}
    (hend : (t.journey .usual b).ended = .error r) :
    (∃ v, (t.journey .usual b).visits.getLast? = some v ∧ Q v.stage r) ∨
      (t.journey .usual b).visits = [] ∧ ∃ f, r = .fault f := by
  cases hlast : (t.journey .usual b).visits.getLast? with
  | some v =>
    left
    have hbench := (t.foresees_journey hb).1 v (List.mem_of_getLast? hlast)
    have hraised := t.last_visit_of_ended_error .usual hend hlast
    refine ⟨v, rfl, (Ends.perform (hQ v.stage) t v.progress v.stage (hstalled _) id (hsort _)
      v.bench hbench).1 r hraised⟩
  | none =>
    right
    refine ⟨List.getLast?_eq_none_iff.1 hlast, ?_⟩
    cases hwords : t.settings.buildWords with
    | error e =>
      unfold journey at hend
      rw [hwords] at hend
      cases hend
      exact ⟨_, rfl⟩
    | ok command =>
      -- a journey that was begun has a visit
      obtain ⟨v, hv, -⟩ := t.raised_in_visit .usual hwords hend
      rw [List.getLast?_eq_none_iff.1 hlast] at hv
      cases hv

end Trial
end ClientTrial
