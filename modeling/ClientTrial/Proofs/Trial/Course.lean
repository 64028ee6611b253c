import ClientTrial.Proofs.Tasks
import ClientTrial.Proofs.Trial.Journey

/-!
# The course of a trial

A trial makes a directory for its artifacts, goes on its journey, cleans up and
comes to an outcome.  The verdict of that outcome is settled by what ended the
journey; what comes after the journey has no say in it.

## Main definitions

* `Trial.outset` — the bench on which a trial sets out.
* `Trial.homeBench` — the bench on which a trial cleans up.
* `Trial.homecoming` — what a trial comes to after its journey.
* `Trial.outcome?` — the outcome of a trial, if it comes to any.

## Main results

* `Trial.exec_courseWith` — the course of a trial whose directory was made.
* `Trial.homecoming_of_course`, `Trial.homecoming_of_run` — where the outcome of a trial comes from.
* `Trial.finalize_eq_ok`, `Trial.settle_eq_ok` — what is done to come to an outcome.
* `Trial.verdict_of_homecoming` — the verdict of the outcome.
-/

namespace ClientTrial

open Act

namespace Trial

variable (t : Trial) (crew : Crew)

/-! ### The parts of a course -/

/-- The bench on which a trial sets out, with the files as they are once its directory is made. -/
def outset (fs : Files) (b : Bench) : Bench :=
  ((t.prepared b).withFiles fs).saying (.begun t.runId t.artifacts.text)

/-- What is reported of a failure and the stage that was entered last. -/
def failureEvents (stage : Option Stage) : Option Failure → List Log.Event
  | some (.trial e _) => [.stageFailed stage e.message]
  | some (.fault f) => [.stageCrashed stage (Raised.fault f).line]
  | none => []

theorem exec_reportFailure (stage : Option Stage) (failure : Option Failure) (b : Bench) :
    (reportFailure stage failure).exec b = (.ok (), b.sayingAll (failureEvents stage failure)) := by
  rcases failure with _ | (⟨e, cause⟩ | f) <;> rfl

/-- The bench on which a trial cleans up after a journey: what has ended the journey is reported, and
the clean-up is entered. -/
def homeBench (j : Journey) : Bench :=
  entering .cleanup
    (j.bench.sayingAll (failureEvents j.progress.history.getLast? (failureOf j.ended)))

/-- What a trial comes to after its journey. -/
def homecoming (startedAt : Moment) (j : Journey) : Except Raised Outcome × Bench :=
  (t.windUp crew startedAt j.progress j.ended).exec (homeBench j)

/-- After its journey a trial has the clean-up in its history, whatever it comes to. -/
theorem exec_comeHome (startedAt : Moment) (j : Journey) :
    (t.comeHome crew startedAt j.progress j.ended).exec j.bench =
      (.ok ⟨{ j.progress with history := j.progress.history ++ [.cleanup] },
        (t.homecoming crew startedAt j).1⟩, (t.homecoming crew startedAt j).2) := by
  unfold comeHome
  rw [exec_bind_of_ok (exec_reportFailure _ _ _), exec_bind_of_ok (exec_reach _ _ _)]
  exact exec_bind_of_ok (exec_attempt _ _) _

/-- The bench that is left when a trial has come to something: records are stamped as they were
before, and success is reported. -/
def parting (context : Log.Context) : Except Raised Outcome × Bench → Bench
  | (.ok o, b) =>
    if o.succeeded then { b with context }.saying (.passed t.runId) else { b with context }
  | (.error _, b) => { b with context }

/-- In parting, only the stamp and the records are changed. -/
theorem parting_keeps (context : Log.Context) (o : Outcome) (b : Bench) :
    (t.parting context (.ok o, b)).children = b.children ∧
      (t.parting context (.ok o, b)).desk = b.desk ∧
      (t.parting context (.ok o, b)).daemon = b.daemon := by
  unfold parting
  dsimp only
  split
  · exact ⟨rfl, rfl, rfl⟩
  · exact ⟨rfl, rfl, rfl⟩

/-- In parting, the files are left alone, whatever the trial comes to. -/
theorem desk_parting (context : Log.Context) (home : Except Raised Outcome × Bench) :
    (t.parting context home).desk = home.2.desk := by
  obtain ⟨raised | o, b⟩ := home
  · rfl
  · exact (t.parting_keeps context o b).2.1

theorem files_parting (context : Log.Context) (home : Except Raised Outcome × Bench) :
    (t.parting context home).files = home.2.files :=
  congrArg Desk.files (t.desk_parting context home)

/-- The course of a trial whose directory was made: the journey, and what the trial comes to after
it. -/
theorem exec_courseWith {b : Bench} {fs : Files} (made : b.files.makeDir t.artifacts = .ok fs) :
    let j := t.journey crew (t.outset fs b)
    let home := t.homecoming crew (Moment.ofClock b.clock) j
    (t.courseWith crew).exec b =
      (.ok ⟨{ j.progress with history := j.progress.history ++ [.cleanup] }, home.1⟩,
        t.parting b.context home) := by
  intro j home
  have hmade : (onFiles (·.makeDir t.artifacts)).exec (t.prepared b) =
      (.ok (), (t.prepared b).withFiles fs) := exec_onFiles_of_ok made
  have hconduct : (t.conduct crew (Moment.ofClock (t.prepared b).clock)).exec (t.prepared b) =
      (.ok ⟨{ j.progress with history := j.progress.history ++ [.cleanup] }, home.1⟩, home.2) := by
    unfold conduct
    rw [exec_bind, exec_attempt, hmade]
    dsimp only
    rw [exec_bind_of_ok (exec_say _ _)]
    rw [exec_bind_of_ok (t.exec_forward crew _)]
    exact t.exec_comeHome crew _ _
  unfold courseWith
  rw [exec_bind_of_ok (exec_ask _ b), exec_bind_of_ok (exec_change _ b),
    exec_bind_of_ok (exec_ask _ _), exec_bind_of_ok hconduct, exec_bind_of_ok (exec_change _ _)]
  rcases hh : home with ⟨r | o, b'⟩
  · rfl
  · dsimp only [parting]
    cases o.succeeded <;> rfl

/-- A trial that cannot make its directory comes to nothing else. -/
theorem exec_courseWith_of_makeDir_error {b : Bench} {f : Fault}
    (unmade : b.files.makeDir t.artifacts = .error f) :
    (t.courseWith crew).exec b =
      (.ok ⟨{}, .error (.fault f)⟩, { t.prepared b with context := b.context }) := by
  have hmade : (onFiles (·.makeDir t.artifacts)).exec (t.prepared b) =
      (.error (.fault f), t.prepared b) := by
    rw [exec_onFiles, show (t.prepared b).files.makeDir t.artifacts = .error f from unmade]
  have hconduct : (t.conduct crew (Moment.ofClock (t.prepared b).clock)).exec (t.prepared b) =
      (.ok ⟨{}, .error (.fault f)⟩, t.prepared b) := by
    unfold conduct
    rw [exec_bind, exec_attempt, hmade]
    rfl
  unfold courseWith
  rw [exec_bind_of_ok (exec_ask _ b), exec_bind_of_ok (exec_change _ b),
    exec_bind_of_ok (exec_ask _ _), exec_bind_of_ok hconduct, exec_bind_of_ok (exec_change _ _)]
  rfl

/-- A trial that comes to an outcome, with any crew, has made its directory, and has come home with
the outcome from its journey. -/
theorem homecoming_of_course {b b' : Bench} {course : Course} {o : Outcome}
    (h : (t.courseWith crew).exec b = (.ok course, b')) (ho : course.result = .ok o) :
    ∃ fs, b.files.makeDir t.artifacts = .ok fs ∧
      let j := t.journey crew (t.outset fs b)
      ∃ c, t.homecoming crew (Moment.ofClock b.clock) j = (.ok o, c) ∧
        course.progress = { j.progress with history := j.progress.history ++ [.cleanup] } ∧
        b' = t.parting b.context (.ok o, c) := by
  rcases hmade : b.files.makeDir t.artifacts with f | fs
  · rw [t.exec_courseWith_of_makeDir_error crew hmade] at h
    cases h
    cases ho
  · rw [t.exec_courseWith crew hmade] at h
    cases h
    have hhome : t.homecoming crew (Moment.ofClock b.clock) (t.journey crew (t.outset fs b)) =
        (.ok o, (t.homecoming crew (Moment.ofClock b.clock)
          (t.journey crew (t.outset fs b))).2) := Prod.ext ho rfl
    exact ⟨fs, rfl, _, hhome, rfl, congrArg (t.parting b.context) hhome⟩

/-- The outcome that a trial comes to on a bench, if it comes to any. -/
def outcome? (b : Bench) : Option Outcome :=
  ((t.courseWith crew).exec b).1.toOption.bind (·.result.toOption)

theorem outcome?_eq_some_iff {b : Bench} {o : Outcome} :
    t.outcome? crew b = some o ↔
      ∃ course b', (t.courseWith crew).exec b = (.ok course, b') ∧ course.result = .ok o := by
  have answered {α : Type} {e : Except Raised α} {a : α} : e.toOption = some a ↔ e = .ok a := by
    cases e <;> simp [Except.toOption]
  unfold outcome?
  rw [Option.bind_eq_some_iff]
  constructor
  · rintro ⟨course, hcourse, hresult⟩
    exact ⟨course, _, Prod.ext (answered.1 hcourse) rfl, answered.1 hresult⟩
  · rintro ⟨course, b', h, hresult⟩
    exact ⟨course, answered.2 (congrArg Prod.fst h), answered.2 hresult⟩

/-- A trial that comes to an outcome with the usual crew has made its directory, and has come home
with the outcome from its journey. -/
theorem homecoming_of_run {b b' : Bench} {o : Outcome} (h : t.run.exec b = (.ok o, b')) :
    ∃ fs, b.files.makeDir t.artifacts = .ok fs ∧
      ∃ c, t.homecoming .usual (Moment.ofClock b.clock) (t.journey .usual (t.outset fs b)) =
        (.ok o, c) ∧ b' = t.parting b.context (.ok o, c) := by
  obtain ⟨course, d, hcourse, hrelease⟩ := exec_bind_eq_ok.1 h
  rw [exec_release] at hrelease
  obtain ⟨hresult, rfl⟩ := Prod.ext_iff.1 hrelease
  obtain ⟨fs, made, c, hhome, -, hb⟩ := t.homecoming_of_course .usual hcourse hresult
  exact ⟨fs, made, c, hhome, hb⟩

/-! ### The verdict -/

/-- What is done with the artifacts: they are kept with a report, or removed, or an error of their
removal is added to those of the clean-up. -/
theorem finalize_eq_ok {p : Progress} {o o' : Outcome} {logs : String} {startedAt : Moment}
    {b b' : Bench} (h : (t.finalize p o logs startedAt).exec b = (.ok o', b')) :
    (t.keeps o.succeeded = true ∧
      ∃ report c,
        ((t.reportOf p o logs startedAt (Moment.ofClock b.clock)).save t.artifacts).exec b =
          (.ok report, c) ∧
        b' = c.saying (.artifactsKept t.artifacts.text) ∧
        o' = { o with artifacts := some t.artifacts, report := some report }) ∨
    (t.keeps o.succeeded = false ∧ t.removeArtifacts.exec b = (.ok (), b') ∧ o' = o) ∨
    (t.keeps o.succeeded = false ∧
      ∃ f : Fault, o' = { o with
        cleanupErrors := o.cleanupErrors ++ [.cleanupFailed "remove_artifacts" f.text] }) := by
  unfold finalize at h
  split at h
  · next hkeeps =>
    obtain ⟨_, _, hclock, h⟩ := exec_bind_eq_ok.1 h
    cases hclock
    obtain ⟨report, c, hsave, h⟩ := exec_bind_eq_ok.1 h
    obtain ⟨_, _, hsay, h⟩ := exec_bind_eq_ok.1 h
    cases hsay
    cases h
    exact .inl ⟨hkeeps, report, c, hsave, rfl, rfl⟩
  · next hkeeps =>
    have hkeeps : t.keeps o.succeeded = false := by simpa using hkeeps
    obtain ⟨removed, c, hremoved, h⟩ := exec_bind_eq_ok.1 h
    rw [exec_attempt] at hremoved
    obtain ⟨hended, rfl⟩ := Prod.ext_iff.1 hremoved
    cases hended
    rcases hr : t.removeArtifacts.exec b with ⟨raised | _, d⟩
    · rw [hr] at h
      dsimp only at h
      split at h
      · cases h
      · next f _ =>
        obtain ⟨_, _, -, h⟩ := exec_bind_eq_ok.1 h
        cases h
        exact .inr (.inr ⟨hkeeps, f, rfl⟩)
    · rw [hr] at h
      cases h
      exact .inr (.inl ⟨hkeeps, rfl, rfl⟩)

/-- What is done with the artifacts leaves the verdict alone. -/
theorem verdict_of_finalize {p : Progress} {o o' : Outcome} {logs : String} {startedAt : Moment}
    {b b' : Bench} (h : (t.finalize p o logs startedAt).exec b = (.ok o', b')) :
    o'.succeeded = o.succeeded ∧ o'.failedStage = o.failedStage ∧ o'.error = o.error := by
  rcases t.finalize_eq_ok h with ⟨-, _, _, -, -, rfl⟩ | ⟨-, -, rfl⟩ | ⟨-, _, rfl⟩ <;>
    exact ⟨rfl, rfl, rfl⟩

/-- A trial that settles has its outcome drawn up, by what ended the way forward. -/
theorem settle_eq_ok {startedAt : Moment} {p : Progress} {ended : Except Raised Unit}
    {cleaned : List TrialError × String} {o : Outcome} {b c : Bench}
    (h : (t.settle startedAt p ended cleaned).exec b = (.ok o, c)) :
    ((ended = .ok () ∨ ∃ f, ended = .error (.failure f)) ∧
      ∃ content d, (Artifact.ofRoute t.output).read.exec b = (.ok content, d) ∧
        (t.finalize p (t.outcomeOf p (failureOf ended) cleaned.1 content) cleaned.2
          startedAt).exec d = (.ok o, c)) := by
  rcases ended with (f | _ | _) | _
  · exact ⟨.inr ⟨f, rfl⟩, exec_bind_eq_ok.1 h⟩
  · cases h
  · cases h
  · exact ⟨.inl rfl, exec_bind_eq_ok.1 h⟩

/-- A trial that comes to an outcome has gone through its journey and succeeded, or was ended by a
failure on the journey, which is the verdict. -/
theorem verdict_of_homecoming {startedAt : Moment} {j : Journey} {o : Outcome} {b : Bench}
    (h : t.homecoming crew startedAt j = (.ok o, b)) :
    (j.ended = .ok () ∧ o.succeeded = true ∧ o.failedStage = none ∧ o.error = none) ∨
      ∃ f, j.ended = .error (.failure f) ∧ o.succeeded = false ∧
        o.failedStage = j.progress.history.getLast? ∧ o.error = some (verdict f) := by
  obtain ⟨cleaned, _, -, h⟩ := exec_bind_eq_ok.1 h
  obtain ⟨hend, _, _, -, hf⟩ := t.settle_eq_ok h
  obtain ⟨hsucceeded, hstage, herror⟩ := t.verdict_of_finalize hf
  rcases hend with hend | ⟨f, hend⟩
  · rw [hend] at hsucceeded hstage herror
    exact .inl ⟨hend, hsucceeded, hstage, herror⟩
  · rw [hend] at hsucceeded hstage herror
    exact .inr ⟨f, hend, hsucceeded, hstage, herror⟩

end Trial

/-- The clean-up is entered in the frame of reports and of entering it. -/
theorem Act.Frame.holds_homeBench {F : Act.Frame} (hsay : ∀ e, F.Keeps (say e))
    (henter : F.Keeps (Trial.enter .cleanup)) (j : Journey) :
    F.Holds j.bench (Trial.homeBench j) :=
  F.trans ((keeps_reportFailure hsay _ _).holds (Trial.exec_reportFailure _ _ j.bench)) (henter _)

end ClientTrial
