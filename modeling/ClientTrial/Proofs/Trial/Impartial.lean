import ClientTrial.Proofs.Report
import ClientTrial.Proofs.Trial.Answers
import ClientTrial.Proofs.Trial.FilesKept

/-!
# The clean-up has no say in the verdict

Two trials of the same settings that have come home from their journeys in the same way
may meet with anything in their clean-ups: calls that answer, that answer an error or that
fail, and a directory that can be removed or not.  What they come to differs in nothing
but the errors of the clean-up.  That is so for any crews and any benches; the usual crew
on a bench without interrupts is a case of it.

## Main definitions

* `Outcome.withoutCleanUp` — an outcome without the errors of the clean-up.
* `Journey.EndsAs` — two journeys that a trial comes home from in the same way.
* `Trial.teardown`, `Trial.WindsDown` — the calls of the clean-up, and what may become of
  them and of the removal after them.

## Main results

* `Trial.windsDown_usual` — the usual crew on a bench without interrupts.
* `Trial.settle_agrees` — what follows two clean-ups.
* `Trial.verdict_untouched_by_cleanUp` — what two trials come to.
-/

namespace ClientTrial

open Act

/-! ### Outcomes -/

namespace Outcome

/-- An outcome without the errors of the clean-up. -/
def withoutCleanUp (o : Outcome) : Outcome := { o with cleanupErrors := [] }

/-- Two outcomes that differ in the errors of the clean-up only have the same verdict. -/
theorem verdict_of_withoutCleanUp {o o' : Outcome} (h : o.withoutCleanUp = o'.withoutCleanUp) :
    o.succeeded = o'.succeeded ∧ o.failedStage = o'.failedStage ∧ o.error = o'.error ∧
      o.exitStatus = o'.exitStatus ∧ o.receiverOutput = o'.receiverOutput ∧
      o.artifacts = o'.artifacts ∧ o.report = o'.report := by
  have field {α : Type} (f : Outcome → α) : f o.withoutCleanUp = f o'.withoutCleanUp :=
    congrArg f h
  exact ⟨field succeeded, field failedStage, field error, field exitStatus, field receiverOutput,
    field artifacts, field report⟩

end Outcome

/-! ### Coming home -/

deriving instance DecidableEq for Receiver, Progress

/-- Two journeys that a trial comes home from in the same way: they have led equally far, were ended
by the same and have left the same files. -/
structure Journey.EndsAs (j k : Journey) : Prop where
  progress : j.progress = k.progress
  ended : j.ended = k.ended
  files : j.bench.files = k.bench.files

namespace Trial

variable (t : Trial) (crew : Crew)

/-- The calls of the clean-up after a journey, and the bench that they leave. -/
def teardown (j : Journey) : List MadeCall × Bench :=
  crew.makeCalls (t.dueCalls j.progress.receiver j.progress.server (failureOf j.ended).isSome)
    (homeBench j)

/-- Whatever becomes of the clean-up after a journey, its calls are handled and leave the files
alone, and if the directory is not removed then for a failure of the operating system. -/
structure WindsDown (j : Journey) : Prop where
  handled : ∀ m ∈ (t.teardown crew j).1, m.isHandled = true
  files : (t.teardown crew j).2.files = j.bench.files
  removal : ∀ r, (t.teardown crew j).2.removal = some r →
    (Server.isFault Fault.Kind.isOs r).isSome = true

theorem sayingAll_keeps (events : List Log.Event) (b : Bench) :
    (b.sayingAll events).files = b.files ∧ (b.sayingAll events).removal = b.removal := by
  induction events generalizing b with
  | nil => exact ⟨rfl, rfl⟩
  | cons e rest ih => exact ih (b.saying e)

theorem files_teardown {j : Journey} (h : ∀ call, Frame.files.Keeps (crew.answer call)) :
    (t.teardown crew j).2.files = j.bench.files :=
  (FilesKept.files_makeCalls (fun call _ => h call) _).trans (sayingAll_keeps _ _).1

/-- On a bench without interrupts the clean-up of the usual crew winds down, if the directory is
removed or stays for a failure of the operating system. -/
theorem windsDown_usual {j : Journey} (hj : j.bench.IsCalm)
    (hremoval : ∀ r, (t.teardown .usual j).2.removal = some r →
      (Server.isFault Fault.Kind.isOs r).isSome = true) : t.WindsDown .usual j :=
  ⟨(Calm.makeCalls _ (Calm.homeBench hj)).1, t.files_teardown .usual FilesKept.keeps_answer,
    hremoval⟩

/-- A clean-up that winds down answers, with the files as they were. -/
theorem cleanUp_of_windsDown {j : Journey} (h : t.WindsDown crew j) :
    ∃ cleaned home,
      (t.cleanUp crew j.progress (failureOf j.ended).isSome).exec (homeBench j) =
        (.ok cleaned, home) ∧
      home.files = j.bench.files ∧
      ∀ r, home.removal = some r → (Server.isFault Fault.Kind.isOs r).isSome = true := by
  obtain ⟨hfiles, hremoval⟩ := sayingAll_keeps
    (t.closingEvents (MadeCall.errorsOf (t.teardown crew j).1)) (t.teardown crew j).2
  refine ⟨_, _, (t.exec_cleanUp_eq_ok_iff crew).2 ⟨h.handled, rfl, rfl⟩, ?_, fun r hr => ?_⟩
  · exact hfiles.trans h.files
  · exact h.removal r (hremoval.symm.trans hr)

/-! ### What follows the clean-up -/

variable {b c : Bench} {p : Progress}

/-- The outcome of artifacts that are kept is that of saving their report. -/
theorem finalize_of_keeps {o : Outcome} (hkeeps : t.keeps o.succeeded = true) (logs : String)
    (startedAt : Moment) :
    ((t.finalize p o logs startedAt).exec b).1 =
      (((t.reportOf p o logs startedAt (Moment.ofClock b.clock)).save t.artifacts).exec b).1.map
        fun report => { o with artifacts := some t.artifacts, report := some report } := by
  unfold finalize
  rw [if_pos hkeeps, exec_bind_of_ok (exec_ask _ b), exec_bind]
  rcases ((t.reportOf p o logs startedAt (Moment.ofClock b.clock)).save t.artifacts).exec b with
    ⟨raised | report, d⟩ <;> rfl

/-- The outcome of artifacts that are not kept differs in the errors of the clean-up only. -/
theorem finalize_of_not_keeps {o : Outcome} (hkeeps : t.keeps o.succeeded = false) (logs : String)
    (startedAt : Moment)
    (htolerated : ∀ r, (t.removeArtifacts.exec b).1 = .error r →
      (Server.isFault Fault.Kind.isOs r).isSome = true) :
    ∃ errors, ((t.finalize p o logs startedAt).exec b).1 =
      .ok { o with cleanupErrors := errors } := by
  unfold finalize
  rw [if_neg (by simp [hkeeps]), exec_bind_of_ok (exec_attempt _ b)]
  cases hended : (t.removeArtifacts.exec b).1 with
  | ok removed => exact ⟨_, rfl⟩
  | error raised =>
    obtain ⟨f, hf⟩ := Option.isSome_iff_exists.1 (htolerated raised hended)
    simp only [hf]
    exact ⟨_, rfl⟩

/-- The artifacts of two outcomes that differ in the errors of the clean-up only are dealt with
alike. -/
theorem finalize_agrees (hfiles : b.files = c.files)
    (hb : ∀ r, (t.removeArtifacts.exec b).1 = .error r →
      (Server.isFault Fault.Kind.isOs r).isSome = true)
    (hc : ∀ r, (t.removeArtifacts.exec c).1 = .error r →
      (Server.isFault Fault.Kind.isOs r).isSome = true)
    {o o' : Outcome} (ho : o.withoutCleanUp = o'.withoutCleanUp) (logs logs' : String)
    (x y : Float) :
    ((t.finalize p o logs (Moment.ofClock x)).exec b).1.map Outcome.withoutCleanUp =
      ((t.finalize p o' logs' (Moment.ofClock y)).exec c).1.map Outcome.withoutCleanUp := by
  obtain ⟨hsucceeded, -, herror, -⟩ := Outcome.verdict_of_withoutCleanUp ho
  cases hkeeps : t.keeps o'.succeeded with
  | true =>
    have hsaved :
        (((t.reportOf p o logs (Moment.ofClock x) (Moment.ofClock b.clock)).save
          t.artifacts).exec b).1 =
        (((t.reportOf p o' logs' (Moment.ofClock y) (Moment.ofClock c.clock)).save
          t.artifacts).exec c).1 := by
      refine Report.save_agrees hfiles rfl rfl ?_
      unfold reportOf
      rw [herror]
    rw [t.finalize_of_keeps (hsucceeded ▸ hkeeps), t.finalize_of_keeps hkeeps, hsaved]
    cases (((t.reportOf p o' logs' (Moment.ofClock y) (Moment.ofClock c.clock)).save
        t.artifacts).exec c).1 with
    | error raised => rfl
    | ok report =>
      exact congrArg (fun u : Outcome => Except.ok
        { u with artifacts := some t.artifacts, report := some report }) ho
  | false =>
    obtain ⟨errors, hleft⟩ := t.finalize_of_not_keeps (p := p) (hsucceeded ▸ hkeeps) logs
      (Moment.ofClock x) hb
    obtain ⟨errors', hright⟩ := t.finalize_of_not_keeps (p := p) hkeeps logs' (Moment.ofClock y) hc
    rw [hleft, hright]
    exact congrArg Except.ok ho

/-- What two trials settle on differs in the errors of the clean-up only, if what ended their ways
forward is the same and the files are. -/
theorem settle_agrees (hfiles : b.files = c.files)
    (hb : ∀ r, (t.removeArtifacts.exec b).1 = .error r →
      (Server.isFault Fault.Kind.isOs r).isSome = true)
    (hc : ∀ r, (t.removeArtifacts.exec c).1 = .error r →
      (Server.isFault Fault.Kind.isOs r).isSome = true)
    (ended : Except Raised Unit) (cleaned cleaned' : List TrialError × String) (x y : Float) :
    ((t.settle (Moment.ofClock x) p ended cleaned).exec b).1.map Outcome.withoutCleanUp =
      ((t.settle (Moment.ofClock y) p ended cleaned').exec c).1.map Outcome.withoutCleanUp := by
  have concluded (failure : Option Failure) :
      ((t.conclude (Moment.ofClock x) p failure cleaned).exec b).1.map Outcome.withoutCleanUp =
        ((t.conclude (Moment.ofClock y) p failure cleaned').exec c).1.map
          Outcome.withoutCleanUp := by
    have hread : (Artifact.ofRoute t.output).textOn b = (Artifact.ofRoute t.output).textOn c := by
      unfold Artifact.textOn
      rw [hfiles]
    unfold conclude
    cases hs : (Artifact.ofRoute t.output).textOn c with
    | error f =>
      rw [exec_bind_of_error (Artifact.exec_read_of_error _ (hread.trans hs)),
        exec_bind_of_error (Artifact.exec_read_of_error _ hs)]
    | ok content =>
      have hsame : (t.outcomeOf p failure cleaned.1 content).withoutCleanUp =
          (t.outcomeOf p failure cleaned'.1 content).withoutCleanUp := rfl
      rw [exec_bind_of_ok (Artifact.exec_read_of_ok _ (hread.trans hs)),
        exec_bind_of_ok (Artifact.exec_read_of_ok _ hs)]
      exact t.finalize_agrees hfiles hb hc hsame cleaned.2 cleaned'.2 x y
  rcases ended with (f | text | _) | ⟨⟩
  · exact concluded (some f)
  · rfl
  · rfl
  · exact concluded none

/-! ### The whole trial -/

/-- Two crews that perform every stage alike make the same journey. -/
theorem journey_congr {crew other : Crew} (h : t.perform crew = t.perform other) :
    t.journey crew = t.journey other := by
  have performed : t.performed crew = t.performed other := by
    funext v
    unfold Trial.performed
    rw [h]
  have onward (stages : List Stage) (p : Progress) (b : Bench) :
      t.journeyFrom crew stages p b = t.journeyFrom other stages p b := by
    induction stages generalizing p b with
    | nil => rfl
    | cons stage rest ih => simp only [journeyFrom, performed, ih]
  funext b
  unfold journey
  simp only [onward]

/-- **The clean-up has no say in the verdict.**  A journey does not depend on the members of the crew
that answer the calls of the clean-up.  Let two trials of the same settings, with any crews and on
any benches, come home from their journeys in the same way, and let their clean-ups wind down: every
call answers, answers an error or fails, and the directory is removed or stays for a failure of the
operating system.  Then the trials have entered the same stages, and what they come to differs in
nothing but the errors of the clean-up.  So their outcomes have the same verdict and lead to the
same exit status. -/
theorem verdict_untouched_by_cleanUp {crew other : Crew} {b c : Bench} {fs gs : Files}
    (hfs : b.files.makeDir t.artifacts = .ok fs) (hgs : c.files.makeDir t.artifacts = .ok gs)
    (same : (t.journey crew (t.outset fs b)).EndsAs (t.journey other (t.outset gs c)))
    (hcrew : t.WindsDown crew (t.journey crew (t.outset fs b)))
    (hother : t.WindsDown other (t.journey other (t.outset gs c))) :
    (∀ terminate logs stop,
      t.journey { crew with terminate, logs, stop } = t.journey crew) ∧
    ∃ x y b' c', (t.courseWith crew).exec b = (.ok x, b') ∧
      (t.courseWith other).exec c = (.ok y, c') ∧
      x.progress = y.progress ∧
      x.result.map Outcome.withoutCleanUp = y.result.map Outcome.withoutCleanUp ∧
      ∀ o o', x.result = .ok o → y.result = .ok o' →
        o.succeeded = o'.succeeded ∧ o.failedStage = o'.failedStage ∧ o.error = o'.error ∧
          o.exitStatus = o'.exitStatus ∧ o.receiverOutput = o'.receiverOutput ∧
          o.artifacts = o'.artifacts ∧ o.report = o'.report := by
  refine ⟨fun _ _ _ => t.journey_congr rfl, ?_⟩
  obtain ⟨place, hplace, -, -⟩ := Files.makeDir_eq_ok hfs
  obtain ⟨cleaned, home, hclean, hfiles, hremoval⟩ := t.cleanUp_of_windsDown crew hcrew
  obtain ⟨cleaned', home', hclean', hfiles', hremoval'⟩ := t.cleanUp_of_windsDown other hother
  have hhome : home.files = home'.files := hfiles.trans (same.files.trans hfiles'.symm)
  have hresult :
      (t.homecoming crew (Moment.ofClock b.clock) (t.journey crew (t.outset fs b))).1.map
          Outcome.withoutCleanUp =
        (t.homecoming other (Moment.ofClock c.clock) (t.journey other (t.outset gs c))).1.map
          Outcome.withoutCleanUp := by
    rw [t.homecoming_of_cleanUp crew hclean, t.homecoming_of_cleanUp other hclean', same.progress,
      same.ended]
    exact t.settle_agrees hhome ((t.removal_tolerated_iff hplace).2 hremoval)
      ((t.removal_tolerated_iff hplace).2 hremoval') _ _ _ _ _
  refine ⟨_, _, _, _, t.exec_courseWith crew hfs, t.exec_courseWith other hgs, ?_, hresult, ?_⟩
  · dsimp only
    rw [same.progress]
  · intro o o' ho ho'
    have hsame : (Except.ok o).map Outcome.withoutCleanUp = (Except.ok o').map _ :=
      (congrArg (Except.map _) ho).symm.trans (hresult.trans (congrArg (Except.map _) ho'))
    exact Outcome.verdict_of_withoutCleanUp (Except.ok.inj hsame)

/-- The clean-up of a trial that goes well meets with a child that is lost, a server that cannot be
removed and a directory that cannot be removed.  Its outcome differs from that of an untroubled
trial in three errors and in nothing else. -/
theorem verdict_untouched_by_troubled_cleanUp :
    let t : Trial := ⟨Settings.default, "r1"⟩
    let script : Script := { pieces := [⟨6.0, Text.toOctets "Hello World, Goodbye world"⟩] }
    let b : Bench := { Bench.quiet with scripts := [script], errands := [{ duration := 3.0 }] }
    let c : Bench := { b with
      scripts := [{ script with
        incident := fun dealing _ =>
          if dealing = .wait then some (.fault ⟨.os .childProcess, "lost"⟩) else none }]
      daemon := { incidents := fun kind =>
        if kind = .remove then [some (.fault ⟨.daemon .refusal, "busy"⟩)] else [] }
      removal := some (.fault ⟨.os .permission, "denied"⟩) }
    ∃ x y o o', ((t.courseWith .usual).exec b).1 = .ok x ∧ x.result = .ok o ∧
      ((t.courseWith .usual).exec c).1 = .ok y ∧ y.result = .ok o' ∧
      o.succeeded = true ∧ o'.succeeded = true ∧ o'.exitStatus = o.exitStatus ∧
      o.cleanupErrors.length = 0 ∧ o'.cleanupErrors.length = 3 := by
  intro t script b c
  let fs := Bench.quiet.files.put ["tmp", artifactsName] .dir
  let j := t.journey .usual (t.outset fs b)
  let k := t.journey .usual (t.outset fs c)
  have calm : b.IsCalm := { Bench.isCalm_quiet with
    scripts := fun s hs => by
      cases List.mem_singleton.1 hs
      exact { Script.isCalm_default with }
    errands := fun e he => by
      cases List.mem_singleton.1 he
      exact calmIncident_none }
  have failing (f : Fault) : CalmIncident (some (.fault f)) := by
    intro r hr
    cases hr
    rfl
  have troubled : c.IsCalm := { calm with
    scripts := fun s hs => by
      cases List.mem_singleton.1 hs
      refine ⟨calmIncident_none, fun dealing _ => ?_, calmIncident_none⟩
      cases dealing with
      | wait => exact failing _
      | poll => exact calmIncident_none
      | kill => exact calmIncident_none
    daemon := by
      refine ⟨fun kind r hr => ?_, Bench.isCalm_quiet.daemon.openings⟩
      cases kind with
      | remove =>
        cases List.mem_singleton.1 hr
        rfl
      | _ => cases hr
    removal := failing _ }
  have same : j.EndsAs k := by
    have hprogress : j.progress = k.progress := by decide +kernel
    have hfiles : j.bench.files = k.bench.files := by decide +kernel
    have hj : j.ended = .ok () := Journey.ended_ok_of_isOk (by decide +kernel)
    have hk : k.ended = .ok () := Journey.ended_ok_of_isOk (by decide +kernel)
    exact ⟨hprogress, hj.trans hk.symm, hfiles⟩
  have tolerated (incident : Option Raised)
      (h : (incident.all fun r => (Server.isFault Fault.Kind.isOs r).isSome) = true) :
      ∀ r, incident = some r → (Server.isFault Fault.Kind.isOs r).isSome = true := by
    rintro r rfl
    exact h
  have hb : t.WindsDown .usual j :=
    t.windsDown_usual (Calm.journey t (Calm.outset t calm fs)).2 (tolerated _ (by decide +kernel))
  have hc : t.WindsDown .usual k :=
    t.windsDown_usual (Calm.journey t (Calm.outset t troubled fs)).2 (tolerated _ (by decide +kernel))
  obtain ⟨-, x, y, b', c', hx, hy, -, -, hverdict⟩ := verdict_untouched_by_cleanUp t
    (rfl : b.files.makeDir t.artifacts = .ok fs) (rfl : c.files.makeDir t.artifacts = .ok fs)
    same hb hc
  have hends : (((t.courseWith .usual).exec b).1.toOption.bind (·.result.toOption)).map
      (fun o => (o.succeeded, o.cleanupErrors.length)) = some (true, 0) := by decide +kernel
  have hends' : (((t.courseWith .usual).exec c).1.toOption.bind (·.result.toOption)).map
      (fun o => o.cleanupErrors.length) = some 3 := by decide +kernel
  rw [hx] at hends ⊢
  rw [hy] at hends' ⊢
  obtain ⟨o, ho, hcounts⟩ := Option.map_eq_some_iff.1 hends
  obtain ⟨o', ho', hcounts'⟩ := Option.map_eq_some_iff.1 hends'
  have answered {e : Except Raised Outcome} {u : Outcome} (h : e.toOption = some u) : e = .ok u := by
    cases e with
    | error r => cases h
    | ok v => exact congrArg Except.ok (Option.some.inj h)
  have hxo : x.result = .ok o := answered ho
  have hyo : y.result = .ok o' := answered ho'
  obtain ⟨hsucceeded, hcount⟩ := Prod.ext_iff.1 hcounts
  obtain ⟨hsame, -, -, hstatus, -⟩ := hverdict o o' hxo hyo
  exact ⟨x, y, o, o', rfl, hxo, rfl, hyo, hsucceeded, hsame.symm.trans hsucceeded, hstatus.symm,
    hcount, hcounts'⟩

end Trial
end ClientTrial
