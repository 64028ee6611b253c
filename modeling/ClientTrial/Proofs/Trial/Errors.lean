import ClientTrial.Proofs.Trial.Ends

/-!
# Errors, stages and exit statuses

The outcome of a trial that failed names a stage and carries an error, and its status is
that of the error.  If none of the faults that happen outside is itself an error of the
trial, the stage tells which errors it can be: one of the sorts of the stage, or else the
general error that is made of a fault that nothing has handled.

## Main definitions

* `Raised.IsForeign` — what happens outside is no error of the trial.
* `TrialError.unexpected` — the sort of an error that is made of a fault.

## Main results

* `Trial.blamed_of_homecoming` — what the outcome of a failed trial blames.
* `Trial.status_of_mem_sortsIn` — the statuses of the errors of a stage.
* `Trial.error_fits_stage` — error, stage and status of an outcome fit together.
-/

namespace ClientTrial

open Act

/-! ### Errors and their defaults -/

/-- What happens outside a trial is no error of the trial. -/
def Raised.IsForeign (r : Raised) : Prop := ∀ e cause, r ≠ .trial e cause

/-- The sort of an error that is made of a fault that nothing has handled. -/
def TrialError.unexpected : String × String × Int := ("HarnessError", "UNEXPECTED_ERROR", 1)

theorem Trial.sort_verdict_fault (f : Fault) :
    (verdict (.fault f)).1.sort = TrialError.unexpected := rfl

/-- What is left out, empty or zero in the wording of an error is replaced by what the kind of error
says without any wording. -/
theorem TrialError.default_of_falsy {make : Wording → TrialError}
    (hmake : make ∈ [general, serverNotStarted]) (w : Wording) :
    (w.message = "" → (make w).message = (make {}).message) ∧
      (w.code = "" → (make w).code = (make {}).code) ∧
      (w.exitStatus = 0 → (make w).exitStatus = (make {}).exitStatus) := by
  have text {s default : String} (h : s = "") : orElse s default = orElse "" default := by rw [h]
  have status {n default : Int} (h : n = 0) : (if n = 0 then default else n) = default := if_pos h
  rcases List.mem_cons.1 hmake with rfl | hmake
  · exact ⟨text, text, status⟩
  · obtain rfl := List.mem_singleton.1 hmake
    exact ⟨text, text, status⟩

namespace Trial

variable (t : Trial)

/-- Every sort of error of a stage has a status of its own, from one to six. -/
theorem status_of_mem_sortsIn {stage : Stage} {sort : String × String × Int}
    (h : sort ∈ t.sortsIn stage) : sort.2.2 ∈ [(1 : Int), 2, 3, 4, 5, 6] := by
  have listed : ∀ s ∈ t.sortsIn stage, s.2.2 ∈ [(1 : Int), 2, 3, 4, 5, 6] := by
    cases stage with
    | settleReceiver =>
      rw [sortsIn]
      split
      · decide
      · decide
    | build | cleanPriorState | startServer | awaitReadiness | settleServer | startReceiver
    | runSender | verifyOutputs | cleanup => simp [sortsIn]
  exact listed sort h

/-- A trial that comes to an outcome has succeeded, or its outcome carries the verdict on what ended
the journey, be it in the stage that the outcome names or before any stage. -/
theorem blamed_of_homecoming {W : Raised → Prop} {Q : Stage → Raised → Prop}
    (hQ : ∀ stage, Raised.Covers W (Q stage)) (hstalled : ∀ stage, Q stage .stalled)
    (hsort : ∀ stage e cause, e.sort ∈ t.sortsIn stage → Q stage (.trial e cause))
    {startedAt : Moment} {o : Outcome} {b c : Bench} (hb : b.Foresees W False)
    (h : t.homecoming .usual startedAt (t.journey .usual b) = (.ok o, c)) :
    o.succeeded = true ∨
      o.succeeded = false ∧ ∃ f, o.error = some (verdict f) ∧
        ((∃ stage, o.failedStage = some stage ∧ Q stage (.failure f)) ∨
          ∃ fault, f = .fault fault) := by
  rcases t.verdict_of_homecoming .usual h with ⟨-, hsucceeded, -⟩ | ⟨f, hend, hfailed, hstage, herror⟩
  · exact .inl hsucceeded
  · refine .inr ⟨hfailed, f, herror, ?_⟩
    rcases t.ended_journey hQ hstalled hsort hb hend with ⟨v, hlast, hv⟩ | ⟨-, fault, hfault⟩
    · refine .inl ⟨v.stage, ?_, hv⟩
      rw [hstage, t.history_journey .usual, List.getLast?_map, hlast]
      rfl
    · cases hfault
      exact .inr ⟨fault, rfl⟩

/-- **Error, stage and status.**  Unless what happens outside is itself an error of the trial, every
outcome of a trial has a status that is zero exactly for success.  Otherwise it is the status of the
error that the outcome carries, from one to six, and the error is one of those of the stage that
failed, or is made of a fault that nothing has handled.  No error has a status of zero or an empty
message or code, however it is worded: what is zero or empty is replaced by the default of its
kind. -/
theorem error_fits_stage {b b' : Bench} {o : Outcome} (hb : b.Foresees Raised.IsForeign False)
    (h : t.run.exec b = (.ok o, b')) :
    (o.exitStatus = 0 ↔ o.succeeded = true) ∧
      (o.succeeded = false → ∃ e cause, o.error = some (e, cause) ∧
        o.exitStatus = e.exitStatus ∧ o.exitStatus ∈ [(1 : Int), 2, 3, 4, 5, 6] ∧
        ((∃ stage, o.failedStage = some stage ∧ e.sort ∈ t.sortsIn stage) ∨
          e.sort = TrialError.unexpected)) ∧
      (∀ e : TrialError, e.exitStatus ≠ 0 ∧ e.message ≠ "" ∧ e.code ≠ "") ∧
      ∀ make ∈ [TrialError.general, TrialError.serverNotStarted], ∀ w : Wording,
        (w.message = "" → (make w).message = (make {}).message) ∧
          (w.code = "" → (make w).code = (make {}).code) ∧
          (w.exitStatus = 0 → (make w).exitStatus = (make {}).exitStatus) := by
  refine ⟨o.exitStatus_eq_zero_iff, fun hfailed => ?_,
    fun e => ⟨e.exitStatus_ne_zero, e.message_ne_empty, e.code_ne_empty⟩,
    fun make hmake w => TrialError.default_of_falsy hmake w⟩
  obtain ⟨fs, -, c, hhome, -⟩ := t.homecoming_of_run h
  -- an error of the trial that ends a stage is one of the sorts of the stage
  let fits (stage : Stage) (r : Raised) : Prop :=
    ∀ e cause, r = .trial e cause → e.sort ∈ t.sortsIn stage
  have covered (stage : Stage) : Raised.Covers Raised.IsForeign (fits stage) :=
    ⟨fun r hr e cause hrt => absurd hrt (hr e cause), fun f e cause hf => by cases hf⟩
  have sorted (stage : Stage) (e : TrialError) (cause : Option Fault)
      (he : e.sort ∈ t.sortsIn stage) : fits stage (.trial e cause) := by
    intro e' cause' heq
    cases heq
    exact he
  rcases t.blamed_of_homecoming covered (fun _ _ _ h => by cases h) sorted
      (t.foresees_outset hb fs) hhome with hsucceeded | ⟨-, f, herror, hblamed⟩
  · rw [hfailed] at hsucceeded
    cases hsucceeded
  have hstatus : o.exitStatus = (verdict f).1.exitStatus := by
    simp [Outcome.exitStatus, hfailed, herror]
  have hsort : (∃ stage, o.failedStage = some stage ∧ (verdict f).1.sort ∈ t.sortsIn stage) ∨
      (verdict f).1.sort = TrialError.unexpected := by
    cases f with
    | fault fault => exact .inr (sort_verdict_fault fault)
    | trial e cause =>
      rcases hblamed with ⟨stage, hstage, hfits⟩ | ⟨fault, hfault⟩
      · exact .inl ⟨stage, hstage, hfits e cause rfl⟩
      · cases hfault
  refine ⟨(verdict f).1, (verdict f).2, herror, hstatus, ?_, hsort⟩
  rw [hstatus]
  rcases hsort with ⟨stage, -, hmem⟩ | hunexpected
  · exact t.status_of_mem_sortsIn hmem
  · rw [show (verdict f).1.exitStatus = TrialError.unexpected.2.2 by rw [← hunexpected]; rfl]
    decide

/-- A trial that finds no daemon fails where it wants to remove what an earlier trial left behind,
with status one. -/
theorem error_of_unreachable_daemon :
    let t : Trial := ⟨Settings.default, "r1"⟩
    let b : Bench := { Bench.quiet with
      daemon := { opened := false, openings := [some (.fault ⟨.daemon .other, "no socket"⟩)] } }
    b.Foresees Raised.IsForeign False ∧
      ∃ o b' e cause, t.run.exec b = (.ok o, b') ∧ o.error = some (e, cause) ∧
        o.exitStatus = 1 ∧ o.failedStage = some .cleanPriorState ∧
        e.sort = ("HarnessError", "DOCKER_UNAVAILABLE", 1) := by
  intro t b
  have quiet : Bench.quiet.Foresees Raised.IsForeign False := Bench.foresees_quiet
  have foreseen : b.Foresees Raised.IsForeign False := { quiet with
    daemon := by
      refine ⟨fun _ _ h => absurd h List.not_mem_nil, fun r hr => ?_, False.elim⟩
      cases List.mem_singleton.1 hr
      intro e cause hforeign
      cases hforeign }
  refine ⟨foreseen, ?_⟩
  have returned : (t.run.exec b).1.toOption.map
      (fun o => (o.exitStatus, o.failedStage, o.error.map (·.1.sort))) =
        some (1, some .cleanPriorState,
          some ("HarnessError", "DOCKER_UNAVAILABLE", 1)) := by decide +kernel
  rcases h : t.run.exec b with ⟨raised | o, b'⟩
  · rw [h] at returned
    cases returned
  · rw [h] at returned
    obtain ⟨hstatus, hstage, hsort⟩ := by simpa [Except.toOption] using returned
    obtain ⟨hzero, hfailed, -⟩ := error_fits_stage t foreseen h
    have hfail : o.succeeded = false := by
      refine Bool.eq_false_iff.2 fun hsucceeded => ?_
      rw [hzero.2 hsucceeded] at hstatus
      cases hstatus
    obtain ⟨e, cause, herror, -⟩ := hfailed hfail
    rw [herror] at hsort
    exact ⟨o, b', e, cause, rfl, herror, hstatus, hstage, by simpa using hsort⟩

end Trial
end ClientTrial
