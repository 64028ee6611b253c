import ClientTrial.Proofs.Trial.Course

/-!
# Order of stages and blame

Whatever the crew of a trial answers or raises, the stages that the trial enters
are those of its itinerary up to some stage, followed by the clean-up.  The
outcome of a trial that failed names the stage that was entered last before the
clean-up, and the error that it carries was raised in that stage.

## Main definitions

* `Outcome.Blames` — an outcome names a stage and what was raised there.

## Main results

* `Trial.history_and_blame` — the history of a trial and what its outcome blames.
-/

namespace ClientTrial

/-- An outcome blames a stage for a failure.  An error of the trial is kept with its cause; a fault
that nothing has handled is told in a general error. -/
def Outcome.Blames (o : Outcome) (stage : Stage) : Failure → Prop
  | .trial e cause => o.failedStage = some stage ∧ o.error = some (e, cause)
  | .fault f =>
    o.failedStage = some stage ∧
      ∃ e, o.error = some (e, none) ∧ e.name = "HarnessError" ∧
        e.message = "Unexpected " ++ f.kind.name ++ ": " ++ f.text ∧
        e.code = "UNEXPECTED_ERROR" ∧ e.exitStatus = 1

namespace Trial

theorem message_verdict_fault (f : Fault) :
    (verdict (.fault f)).1.message = "Unexpected " ++ f.kind.name ++ ": " ++ f.text := by
  have hne : "Unexpected " ++ f.kind.name ++ ": " ++ f.text ≠ "" := by
    rw [String.append_assoc, String.append_assoc]
    exact TrialError.ne_empty_append (by decide)
  exact TrialError.orElse_of_ne_empty hne

/-- The verdict on a failure, together with the stage, is the blame. -/
theorem blames_of_verdict {o : Outcome} {stage : Stage} {f : Failure}
    (hs : o.failedStage = some stage) (he : o.error = some (verdict f)) : o.Blames stage f := by
  cases f with
  | trial e cause => exact ⟨hs, he⟩
  | fault f => exact ⟨hs, _, he, rfl, message_verdict_fault f, rfl, rfl⟩

variable (t : Trial) (crew : Crew)

theorem cleanup_notMem_itinerary : Stage.cleanup ∉ t.itinerary := by
  unfold itinerary
  split <;> simp

/-- The stages that a journey visits, and the clean-up after them, come once each. -/
theorem nodup_stages_cleanup (b : Bench) :
    ((t.journey crew b).visits.map Visit.stage ++ [Stage.cleanup]).Nodup := by
  have hpre := t.isPrefix_stages_journey crew b
  have hnodup := t.nodup_itinerary.sublist hpre.sublist
  refine List.nodup_append.2 ⟨hnodup, by decide, ?_⟩
  intro stage hstage other hother heq
  rw [List.mem_singleton.1 hother] at heq
  rw [heq] at hstage
  exact t.cleanup_notMem_itinerary (hpre.subset hstage)

/-- **The history of a trial and the blame.**  Whatever a crew does, a trial whose directory was
made enters the stages of its itinerary up to some stage and then the clean-up, each once.  A trial
that succeeds has entered all of them; one that fails blames the last stage before the clean-up for
what was raised in it. -/
theorem history_and_blame {b : Bench} {fs : Files} (made : b.files.makeDir t.artifacts = .ok fs) :
    let j := t.journey crew (t.outset fs b)
    let entered := j.visits.map Visit.stage
    ∃ c b', (t.courseWith crew).exec b = (.ok c, b') ∧
      c.progress.history = entered ++ [Stage.cleanup] ∧ entered <+: t.itinerary ∧
      (entered ++ [Stage.cleanup]).Nodup ∧
      ∀ o, c.result = .ok o →
        (o.succeeded = true → entered = t.itinerary ∧ o.error = none ∧ o.failedStage = none) ∧
        (o.succeeded = false → ∀ v, j.visits.getLast? = some v →
          ∃ f, (t.performed crew v).1 = .error (.failure f) ∧ o.Blames v.stage f) := by
  intro j entered
  refine ⟨_, _, t.exec_courseWith crew made, ?_, t.isPrefix_stages_journey crew _,
    t.nodup_stages_cleanup crew _, ?_⟩
  · exact congrArg (· ++ [Stage.cleanup]) (t.history_journey crew _)
  intro o ho
  rcases t.verdict_of_homecoming crew (Prod.ext ho rfl) with
    ⟨hend, hsucc, hstage, herror⟩ | ⟨f, hend, hsucc, hstage, herror⟩
  · -- the journey went through
    refine ⟨fun _ => ⟨t.stages_journey_of_ended_ok crew hend, herror, hstage⟩, fun hs => ?_⟩
    rw [hsucc] at hs
    cases hs
  · -- the journey was ended by a failure in its last visit
    refine ⟨fun hs => ?_, fun _ v hlast => ?_⟩
    · rw [hsucc] at hs
      cases hs
    · refine ⟨f, t.last_visit_of_ended_error crew hend hlast, blames_of_verdict ?_ herror⟩
      rw [hstage, t.history_journey crew, List.getLast?_map, hlast]
      rfl

/-- A trial that is interrupted while its server is started still enters the clean-up. -/
theorem history_of_interrupted_start :
    let t : Trial := ⟨Settings.default, "r1"⟩
    let crew : Crew := { Crew.usual with start := fun _ _ _ _ => throw (.interrupt "") }
    ∃ fs c b', Bench.quiet.files.makeDir t.artifacts = .ok fs ∧
      (t.courseWith crew).exec Bench.quiet = (.ok c, b') ∧
      c.progress.history = [.cleanPriorState, .startServer, .cleanup] := by
  intro t crew
  have made : Bench.quiet.files.makeDir t.artifacts =
      .ok (Bench.quiet.files.put ["tmp", artifactsName] .dir) := rfl
  obtain ⟨c, b', hc, hhistory, -⟩ := history_and_blame t crew made
  refine ⟨_, c, b', made, hc, hhistory.trans ?_⟩
  decide +kernel

end Trial
end ClientTrial
