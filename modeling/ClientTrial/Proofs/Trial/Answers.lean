import ClientTrial.Proofs.Artifact
import ClientTrial.Proofs.Bench.Files
import ClientTrial.Proofs.Trial.Calm
import ClientTrial.Settings.Sources

/-!
# Trials that come to an outcome

A failure on the way forward is the verdict of a trial, and one in the clean-up is a
diagnostic; neither keeps the trial from coming to an outcome.  That is not so of what is
done before the way forward and after the clean-up.  A trial that cannot make its
directory, cannot read what the receiver wrote or cannot save its report comes to no
outcome but passes the fault on, and so does one that fails to remove its directory in a
way that is no failure of the operating system.

## Main results

* `Trial.settle_answers_iff`, `Trial.finalize_answers_iff` — what follows the clean-up.
* `Trial.run_answers_iff_of_isCalm` — when a trial that nobody interrupts comes to an
  outcome.
* `Trial.run_raises_of_missing_root` — a trial that comes to none.
-/

namespace ClientTrial

open Act

/-! ### Faults in removing a tree -/

namespace Files

variable {fs other : Files} {r : Route} {f : Fault}

theorem isOs_of_foldlM_step_error {path : String} {parts : List String} {place : Location}
    (h : parts.foldlM (fs.step path) place = .error f) : f.kind.isOs = true := by
  induction parts generalizing place with
  | nil => cases h
  | cons part rest ih =>
    rw [List.foldlM_cons] at h
    cases hstep : fs.step path place part with
    | ok next =>
      rw [hstep] at h
      exact ih h
    | error e =>
      rw [hstep] at h
      cases h
      unfold step at hstep
      split at hstep
      · cases hstep
        rfl
      · cases hstep
        rfl
      · split at hstep
        · cases hstep
        · split at hstep
          · cases hstep
            rfl
          · cases hstep

/-- A route that leads somewhere in one tree fails in another as the operating system fails, if it
fails. -/
theorem isOs_of_locate_error {place : Location} (hother : other.locate r = .ok place)
    (h : fs.locate r = .error f) : f.kind.isOs = true := by
  unfold locate at hother h
  split at h
  · next hnull =>
    rw [if_pos hnull] at hother
    cases hother
  · split at h
    · cases h
      rfl
    · exact isOs_of_foldlM_step_error h

theorem isOs_of_deleteTree_error {place : Location} (hother : other.locate r = .ok place)
    (h : fs.deleteTree r = .error f) : f.kind.isOs = true := by
  unfold deleteTree at h
  cases hplace : fs.locate r with
  | error e =>
    rw [hplace] at h
    cases h
    exact isOs_of_locate_error hother hplace
  | ok q =>
    rw [hplace] at h
    dsimp only [Bind.bind, Except.bind] at h
    split at h
    · cases h
      rfl
    · cases h
      rfl
    · cases h

end Files

namespace Trial

variable (t : Trial)

/-! ### After the clean-up -/

/-- What ends a removal is taken for a warning iff the incident of the removal is a failure of the
operating system, if there is one. -/
theorem removal_tolerated_iff {b : Bench} {fs : Files} {place : Location}
    (hplace : fs.locate t.artifacts = .ok place) :
    (∀ r, (t.removeArtifacts.exec b).1 = .error r →
        (Server.isFault Fault.Kind.isOs r).isSome = true) ↔
      ∀ r, b.removal = some r → (Server.isFault Fault.Kind.isOs r).isSome = true := by
  unfold removeArtifacts
  rw [exec_bind_of_ok (exec_ask _ b)]
  cases hincident : b.removal with
  | some incident =>
    rw [exec_bind_of_error (exec_perhaps_some _ b)]
    simp
  | none =>
    rw [exec_bind_of_ok (exec_perhaps_none b), exec_onFiles]
    refine iff_of_true (fun r hr => ?_) (fun r hr => by cases hr)
    cases hdelete : b.files.deleteTree t.artifacts with
    | ok later =>
      rw [hdelete] at hr
      cases hr
    | error f =>
      rw [hdelete] at hr
      cases hr
      simp [Raised.fault, Server.isFault, Files.isOs_of_deleteTree_error hplace hdelete]

/-- The artifacts are dealt with iff their report can be saved, if they are kept, and their removal
fails in no way but as the operating system fails, if they are not. -/
theorem finalize_answers_iff {p : Progress} {o : Outcome} {logs : String} {startedAt : Moment}
    {b : Bench} :
    (t.finalize p o logs startedAt).Answers b ↔
      if t.keeps o.succeeded then
        ((t.reportOf p o logs startedAt (Moment.ofClock b.clock)).save t.artifacts).Answers b
      else
        ∀ r, (t.removeArtifacts.exec b).1 = .error r →
          (Server.isFault Fault.Kind.isOs r).isSome = true := by
  unfold finalize
  by_cases hkeeps : t.keeps o.succeeded = true
  · rw [if_pos hkeeps, if_pos hkeeps, Answers, exec_bind_of_ok (exec_ask _ b)]
    exact answers_bind_of_forall fun report c => ⟨_, rfl⟩
  · rw [if_neg hkeeps, if_neg hkeeps, Answers, exec_bind_of_ok (exec_attempt _ b)]
    cases hended : (t.removeArtifacts.exec b).1 with
    | ok removed => exact iff_of_true ⟨o, rfl⟩ fun r hr => by cases hr
    | error raised =>
      simp only [Except.error.injEq, forall_eq']
      cases hfault : Server.isFault Fault.Kind.isOs raised with
      | none =>
        refine iff_of_false ?_ (by simp)
        rintro ⟨_, h⟩
        cases h
      | some f => exact iff_of_true ⟨_, rfl⟩ rfl

/-- A trial settles iff its journey went through or was ended by a failure, what the receiver wrote
can be read and the artifacts are dealt with. -/
theorem settle_answers_iff {startedAt : Moment} {p : Progress} {ended : Except Raised Unit}
    {cleaned : List TrialError × String} {b : Bench} :
    (t.settle startedAt p ended cleaned).Answers b ↔
      (∀ r, ended = .error r → r.isFailure = true) ∧
        ∃ content, (Artifact.ofRoute t.output).textOn b = .ok content ∧
          (t.finalize p (t.outcomeOf p (failureOf ended) cleaned.1 content) cleaned.2
            startedAt).Answers b := by
  have concluded (failure : Option Failure) :
      (t.conclude startedAt p failure cleaned).Answers b ↔
        ∃ content, (Artifact.ofRoute t.output).textOn b = .ok content ∧
          (t.finalize p (t.outcomeOf p failure cleaned.1 content) cleaned.2
            startedAt).Answers b := by
    unfold conclude
    cases hs : (Artifact.ofRoute t.output).textOn b with
    | error f =>
      rw [Answers, exec_bind_of_error (Artifact.exec_read_of_error _ hs)]
      refine iff_of_false ?_ (by simp)
      rintro ⟨_, h⟩
      cases h
    | ok content =>
      rw [Answers, exec_bind_of_ok (Artifact.exec_read_of_ok _ hs)]
      simp only [Except.ok.injEq, exists_eq_left']
      rfl
  have ended_early {r : Raised} (hr : r.isFailure = false) :
      ¬∀ r', (Except.error r : Except Raised Unit) = .error r' → r'.isFailure = true := by
    intro h
    rw [h r rfl] at hr
    cases hr
  rcases ended with (f | text | _) | ⟨⟩
  · refine (concluded (some f)).trans (and_iff_right fun r hr => ?_).symm
    cases hr
    rfl
  · refine iff_of_false ?_ fun h => ended_early rfl h.1
    rintro ⟨_, h⟩
    cases h
  · refine iff_of_false ?_ fun h => ended_early rfl h.1
    rintro ⟨_, h⟩
    cases h
  · refine (concluded none).trans (and_iff_right fun r hr => ?_).symm
    cases hr

/-! ### The whole trial -/

/-- A trial answers iff its directory was made and it comes home with an outcome. -/
theorem run_answers_iff {b : Bench} :
    t.run.Answers b ↔
      ∃ fs, b.files.makeDir t.artifacts = .ok fs ∧
        ∃ o, (t.homecoming .usual (Moment.ofClock b.clock)
          (t.journey .usual (t.outset fs b))).1 = .ok o := by
  constructor
  · rintro ⟨o, ho⟩
    obtain ⟨fs, made, c, hhome, -⟩ := t.homecoming_of_run (Prod.ext ho rfl)
    exact ⟨fs, made, o, congrArg Prod.fst hhome⟩
  · rintro ⟨fs, made, o, ho⟩
    unfold run course Answers
    rw [exec_bind_of_ok (t.exec_courseWith .usual made), exec_release]
    exact ⟨o, ho⟩

/-- The fault of a directory that cannot be made is passed on. -/
theorem run_raises_of_makeDir_error {b : Bench} {f : Fault}
    (h : b.files.makeDir t.artifacts = .error f) : (t.run.exec b).1 = .error (.fault f) := by
  unfold run course
  rw [exec_bind_of_ok (t.exec_courseWith_of_makeDir_error .usual h), exec_release]

/-- **Which trials come to an outcome.**  On a bench without interrupts a trial comes to an outcome
iff its directory can be made, it need not give up waiting for the receiver because the clock has
stopped, what the receiver wrote can be read after the clean-up, and then: its report can be saved,
if the artifacts are kept, or the removal of its directory meets with nothing but a failure of the
operating system, if they are not.  The fault of a directory that cannot be made is passed on. -/
theorem run_answers_iff_of_isCalm {b : Bench} (hb : b.IsCalm) :
    (t.run.Answers b ↔
      ∃ fs, b.files.makeDir t.artifacts = .ok fs ∧
        let j := t.journey .usual (t.outset fs b)
        j.ended ≠ .error .stalled ∧
        ∃ cleaned home content,
          (t.cleanUp .usual j.progress (failureOf j.ended).isSome).exec (homeBench j) =
            (.ok cleaned, home) ∧
          (Artifact.ofRoute t.output).textOn home = .ok content ∧
          let o := t.outcomeOf j.progress (failureOf j.ended) cleaned.1 content
          if t.keeps o.succeeded then
            ((t.reportOf j.progress o cleaned.2 (Moment.ofClock b.clock)
              (Moment.ofClock home.clock)).save t.artifacts).Answers home
          else
            ∀ r, home.removal = some r → (Server.isFault Fault.Kind.isOs r).isSome = true) ∧
    ∀ f, b.files.makeDir t.artifacts = .error f → (t.run.exec b).1 = .error (.fault f) := by
  refine ⟨?_, fun f hf => ?_⟩
  · rw [t.run_answers_iff]
    refine exists_congr fun fs => and_congr_right fun made => ?_
    dsimp only
    obtain ⟨place, hplace, -, -⟩ := Files.makeDir_eq_ok made
    obtain ⟨hended, hcalm⟩ := Calm.journey t (Calm.outset t hb fs)
    generalize t.journey .usual (t.outset fs b) = j at hended hcalm ⊢
    -- what ends the journey is a failure unless it is the clock
    have hstalled : (∀ r, j.ended = .error r → r.isFailure = true) ↔ j.ended ≠ .error .stalled := by
      constructor
      · intro h hj
        cases h _ hj
      · intro h r hr
        cases r with
        | failure f => rfl
        | interrupt text => exact (hended _ hr).elim
        | stalled => exact absurd hr h
    have homeward : (homeBench j).IsCalm := Calm.homeBench hcalm
    obtain ⟨cleaned, home, hclean, -⟩ :=
      Calm.cleanUp_answers t j.progress (failureOf j.ended).isSome homeward
    have hsettles := @settle_answers_iff t (Moment.ofClock b.clock) j.progress j.ended cleaned home
    rw [hstalled] at hsettles
    simp only [finalize_answers_iff, t.removal_tolerated_iff hplace] at hsettles
    rw [t.homecoming_of_cleanUp .usual hclean, hclean]
    constructor
    · intro h
      obtain ⟨hend, content, hs, hfinal⟩ := hsettles.1 h
      exact ⟨hend, cleaned, home, content, rfl, hs, hfinal⟩
    · rintro ⟨hend, _, _, content, ⟨⟩, hs, hfinal⟩
      exact hsettles.2 ⟨hend, content, hs, hfinal⟩
  · exact t.run_raises_of_makeDir_error hf

/-- A trial whose sender fails comes to an outcome: the receiver's output is read and the report is
saved. -/
theorem run_answers_of_failing_sender :
    let t : Trial := ⟨Settings.default, "r1"⟩
    let b : Bench := { Bench.quiet with errands := [{ status := 1 }] }
    b.IsCalm ∧ t.run.Answers b ∧
      ∃ (r : Report) (home : Bench) (content : String), r.succeeded = false ∧
        (Artifact.ofRoute t.output).textOn home = .ok content ∧ (r.save t.artifacts).Answers home := by
  intro t b
  have calm : b.IsCalm := { Bench.isCalm_quiet with
    errands := fun e he => by cases List.mem_singleton.1 he; exact calmIncident_none }
  have returned : (t.run.exec b).1.toOption.isSome = true := by decide +kernel
  have answers : t.run.Answers b := by
    rcases h : t.run.exec b with ⟨raised | o, c⟩
    · rw [h] at returned
      cases returned
    · exact answers_of_exec h
  obtain ⟨hiff, -⟩ := run_answers_iff_of_isCalm t calm
  obtain ⟨fs, made, -, cleaned, home, content, -, hs, hfinal⟩ := hiff.1 answers
  obtain rfl : fs = b.files.put ["tmp", artifactsName] .dir := Except.ok.inj (made.symm.trans rfl)
  have failed : (failureOf (t.journey .usual (t.outset
      (b.files.put ["tmp", artifactsName] .dir) b)).ended).isNone = false := by decide +kernel
  rw [if_pos (by rw [outcomeOf, failed]; rfl)] at hfinal
  exact ⟨calm, answers, _, home, content, failed, hs, hfinal⟩

/-- **A trial without an outcome.**  A directory that does not exist is accepted as the place for the
artifacts of a trial, and the trial passes the fault on. -/
theorem run_raises_of_missing_root :
    let sources : Sources := { overrides := [("artifacts_root", .str "missing")] }
    let t : Trial := ⟨sources.valueOrDefault, "run0001"⟩
    sources.load = .ok t.settings ∧ Bench.quiet.IsCalm ∧
      (t.run.exec Bench.quiet).1 =
        .error (.fault (Fault.noSuchFile "missing/irc-harness-0001")) := by
  intro sources t
  have accepted : sources.allIssues.isEmpty = true := by decide +kernel
  have unmade : Bench.quiet.files.makeDir t.artifacts =
      .error (Fault.noSuchFile "missing/irc-harness-0001") := rfl
  refine ⟨Sources.load_eq_ok_iff.2 ⟨List.isEmpty_iff.1 accepted, rfl⟩, Bench.isCalm_quiet, ?_⟩
  exact t.run_raises_of_makeDir_error unmade

end Trial
end ClientTrial
