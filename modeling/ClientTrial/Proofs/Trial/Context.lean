import ClientTrial.Proofs.Trial.Stamps

/-!
# The context that a trial leaves behind

A trial puts its identifier in the context that records are stamped with, and each stage that it
enters, the clean-up included, puts its name in place of what stood there.  There are many ways in
which a trial ends: its directory cannot be made, it is interrupted on the way forward or in the
clean-up, the receiver's output cannot be read, the report cannot be saved, or it comes to an
outcome.  Whichever it is, and whatever the crew does to the context, the context is afterwards
what it was before.

## Main definitions

* `Trial.runWith` — a trial that is run with any crew.
* `Trial.ComesHome` — the ways in which a trial ends that has made its directory.

## Main results

* `Trial.comesHome_homecoming` — there is no other way.
* `Trial.context_of_visit` — the context in which a stage is performed.
* `Trial.context_restored` — the context after a trial, and in between.
-/

namespace ClientTrial

open Act

namespace Trial

variable {t : Trial} {crew : Crew} {b : Bench}

/-- A trial is run once with a crew, and its outcome is answered. -/
def runWith (t : Trial) (crew : Crew) : Act Outcome := do
  let course ← t.courseWith crew
  release course.result

theorem run_eq_runWith (t : Trial) : t.run = t.runWith .usual := rfl

/-! ### The ways in which a trial ends -/

variable (t crew) in
/-- What a trial comes to after its journey. -/
inductive ComesHome (startedAt : Moment) (j : Journey) : Except Raised Outcome → Prop where
  /-- The clean-up is ended early, whatever has ended the journey. -/
  | disturbed {raised : Raised} {c : Bench}
    (disturbed : (t.cleanUp crew j.progress (failureOf j.ended).isSome).exec (homeBench j) =
      (.error raised, c)) : ComesHome startedAt j (.error raised)
  /-- The journey was ended by what is no failure, and the clean-up goes through. -/
  | interrupted {raised : Raised} {cleaned : List TrialError × String} {c : Bench}
    (cleanedUp : (t.cleanUp crew j.progress (failureOf j.ended).isSome).exec (homeBench j) =
      (.ok cleaned, c))
    (ended : j.ended = .error raised) (unfailed : failureOf j.ended = none) :
    ComesHome startedAt j (.error raised)
  /-- The receiver's output cannot be read. -/
  | unread {raised : Raised} {cleaned : List TrialError × String} {c d : Bench}
    (cleanedUp : (t.cleanUp crew j.progress (failureOf j.ended).isSome).exec (homeBench j) =
      (.ok cleaned, c))
    (unread : (Artifact.ofRoute t.output).read.exec c = (.error raised, d)) :
    ComesHome startedAt j (.error raised)
  /-- The report cannot be saved, or the removal of the directory is ended by what is no fault of
  the operating system. -/
  | unfinished {raised : Raised} {cleaned : List TrialError × String} {content : String}
    {c d e : Bench}
    (cleanedUp : (t.cleanUp crew j.progress (failureOf j.ended).isSome).exec (homeBench j) =
      (.ok cleaned, c))
    (read : (Artifact.ofRoute t.output).read.exec c = (.ok content, d))
    (unfinished : (t.finalize j.progress (t.outcomeOf j.progress (failureOf j.ended) cleaned.1
      content) cleaned.2 startedAt).exec d = (.error raised, e)) :
    ComesHome startedAt j (.error raised)
  /-- There is an outcome. -/
  | outcome {o : Outcome} {cleaned : List TrialError × String} {content : String} {c d e : Bench}
    (cleanedUp : (t.cleanUp crew j.progress (failureOf j.ended).isSome).exec (homeBench j) =
      (.ok cleaned, c))
    (read : (Artifact.ofRoute t.output).read.exec c = (.ok content, d))
    (finalized : (t.finalize j.progress (t.outcomeOf j.progress (failureOf j.ended) cleaned.1
      content) cleaned.2 startedAt).exec d = (.ok o, e)) : ComesHome startedAt j (.ok o)

/-- A trial whose clean-up goes through and that was not interrupted reads the receiver's output and
deals with the artifacts. -/
theorem comesHome_of_conclude (startedAt : Moment) {j : Journey}
    {cleaned : List TrialError × String} {c : Bench}
    (cleanedUp : (t.cleanUp crew j.progress (failureOf j.ended).isSome).exec (homeBench j) =
      (.ok cleaned, c)) :
    t.ComesHome crew startedAt j
      ((t.conclude startedAt j.progress (failureOf j.ended) cleaned).exec c).1 := by
  unfold conclude
  rcases hread : (Artifact.ofRoute t.output).read.exec c with ⟨raised | content, d⟩
  · rw [exec_bind_of_error hread]
    exact .unread cleanedUp hread
  · rw [exec_bind_of_ok hread]
    rcases hfinal : (t.finalize j.progress (t.outcomeOf j.progress (failureOf j.ended) cleaned.1
      content) cleaned.2 startedAt).exec d with ⟨raised | o, e⟩
    · exact .unfinished cleanedUp hread hfinal
    · exact .outcome cleanedUp hread hfinal

/-- A trial that has made its directory ends in one of these ways. -/
theorem comesHome_homecoming (t : Trial) (crew : Crew) (startedAt : Moment) (j : Journey) :
    t.ComesHome crew startedAt j (t.homecoming crew startedAt j).1 := by
  rcases hclean : (t.cleanUp crew j.progress (failureOf j.ended).isSome).exec (homeBench j) with
    ⟨raised | cleaned, c⟩
  · have hhome : t.homecoming crew startedAt j = (.error raised, c) :=
      exec_bind_of_error hclean _
    rw [hhome]
    exact .disturbed hclean
  · rw [homecoming_of_cleanUp t crew hclean]
    have concluded := comesHome_of_conclude startedAt hclean
    rcases hend : j.ended with (f | text | _) | _
    · rw [hend] at concluded
      exact concluded
    · exact .interrupted hclean hend (by rw [hend]; rfl)
    · exact .interrupted hclean hend (by rw [hend]; rfl)
    · rw [hend] at concluded
      exact concluded

/-! ### The context in between -/

/-- A visit has entered its stage. -/
theorem exists_visit_of_mem {stages : List Stage} {p : Progress} {v : Visit}
    (h : v ∈ (t.journeyFrom crew stages p b).visits) : ∃ q c, v = visit v.stage q c := by
  induction stages generalizing p b with
  | nil => cases h
  | cons stage rest ih =>
    rcases hp : t.performed crew (visit stage p b) with ⟨raised | p', b'⟩
    · rw [journeyFrom_of_error t crew hp] at h
      obtain rfl := List.mem_singleton.1 h
      exact ⟨p, b, rfl⟩
    · rw [journeyFrom_of_ok t crew hp] at h
      rcases List.mem_cons.1 h with rfl | h
      · exact ⟨p, b, rfl⟩
      · exact ih h

theorem exists_visit_of_mem_journey {v : Visit} (h : v ∈ (t.journey crew b).visits) :
    ∃ q c, v = visit v.stage q c := by
  unfold journey at h
  split at h
  · cases h
  · exact exists_visit_of_mem h

/-- The context in which a stage is performed names the stage, whatever was there before. -/
theorem stage_of_visit {v : Visit} (h : v ∈ (t.journey crew b).visits) :
    v.bench.context.stage = some v.stage.name := by
  obtain ⟨q, c, hv⟩ := exists_visit_of_mem_journey h
  rw [hv]
  rfl

/-- With the usual crew, the context in which a stage is performed is that of the trial and the
stage. -/
theorem context_of_visit (h : b.context = t.stamp []) {v : Visit}
    (hv : v ∈ (t.journey .usual b).visits) :
    v.bench.context = ⟨some t.runId, some v.stage.name⟩ := by
  obtain ⟨q, c, hvisit⟩ := exists_visit_of_mem_journey hv
  obtain ⟨hvisits, -⟩ := upheld_journey (t := t) (P := fun history c => c.context = t.stamp history)
    (fun _ _ stage h => context_entering h stage) (fun _ _ _ h hv => hv.context.trans h) h
  rw [hvisits v hv, show v.progress.history = q.history ++ [v.stage] from
    congrArg (·.progress.history) hvisit]
  unfold stamp
  rw [List.getLast?_concat]
  rfl

/-- With the usual crew, the context is that of the trial and the clean-up until it is put back. -/
theorem context_homecoming (h : b.context = t.stamp []) (startedAt : Moment) :
    (t.homecoming .usual startedAt (t.journey .usual b)).2.context =
      ⟨some t.runId, some Stage.cleanup.name⟩ := by
  have entering (history : List Stage) (c : Bench) (stage : Stage)
      (h : c.context = t.stamp history) := context_entering h stage
  have voices (history : List Stage) (c d : Bench) (h : c.context = t.stamp history)
      (hv : c.Voices d) : d.context = t.stamp history := hv.context.trans h
  obtain ⟨-, hend⟩ := upheld_journey (t := t) entering voices h
  rw [upheld_homecoming (t := t) entering voices startedAt hend]
  unfold stamp
  rw [List.getLast?_concat]
  rfl

/-! ### The context afterwards -/

/-- **The context is put back.**  A trial that is run with any crew ends because its directory could
not be made, or in one of the ways in which trials come home; in every case the context, both the
identifier and the stage, is afterwards what it was before.  In between each stage that is visited,
and the clean-up, has put its name in the place of the stage; with the usual crew the identifier
stands beside it all the time, so that the context is that of the trial and the clean-up right
before it is put back. -/
theorem context_restored (t : Trial) (b : Bench) :
    (∀ crew, ∃ ended b', (t.runWith crew).exec b = (ended, b') ∧ b'.context = b.context ∧
      ((∃ f, b.files.makeDir t.artifacts = .error f ∧ ended = .error (.fault f)) ∨
        ∃ fs, b.files.makeDir t.artifacts = .ok fs ∧
          let j := t.journey crew (t.outset fs b)
          t.ComesHome crew (Moment.ofClock b.clock) j ended ∧
          (∀ v ∈ j.visits, v.bench.context.stage = some v.stage.name) ∧
          (homeBench j).context.stage = some Stage.cleanup.name)) ∧
      t.run = t.runWith .usual ∧
      ∀ fs, b.files.makeDir t.artifacts = .ok fs →
        let j := t.journey .usual (t.outset fs b)
        (∀ v ∈ j.visits, v.bench.context = ⟨some t.runId, some v.stage.name⟩) ∧
          (t.homecoming .usual (Moment.ofClock b.clock) j).2.context =
            ⟨some t.runId, some Stage.cleanup.name⟩ := by
  refine ⟨fun crew => ?_, run_eq_runWith t, fun fs made => ?_⟩
  · unfold runWith
    rcases hmade : b.files.makeDir t.artifacts with f | fs
    · rw [exec_bind_of_ok (t.exec_courseWith_of_makeDir_error crew hmade)]
      exact ⟨_, _, exec_release _ _, rfl, .inl ⟨f, rfl, rfl⟩⟩
    · rw [exec_bind_of_ok (t.exec_courseWith crew hmade)]
      refine ⟨_, _, exec_release _ _, context_parting _ _, .inr ⟨fs, rfl, ?_, fun v hv => ?_, rfl⟩⟩
      · exact comesHome_homecoming t crew _ _
      · exact stage_of_visit hv
  · have begun : (t.outset fs b).context = t.stamp [] := rfl
    exact ⟨fun v hv => context_of_visit begun hv, context_homecoming begun _⟩

/-- A trial is interrupted while the server is given time to settle.  The context of an outer trial
is in place again afterwards, though right before it was that of the clean-up. -/
theorem context_restored_after_interrupt :
    let outer : Log.Context := ⟨some "outer", some "Elsewhere"⟩
    let t : Trial := ⟨Settings.default, "run0001"⟩
    let b : Bench := { Bench.quiet with context := outer, pauses := [some (.interrupt "")] }
    let fs := b.files.put ["tmp", artifactsName] .dir
    let j := t.journey .usual (t.outset fs b)
    b.files.makeDir t.artifacts = .ok fs ∧ ¬t.run.Answers b ∧
      j.visits.map Visit.stage = [.cleanPriorState, .startServer, .awaitReadiness, .settleServer] ∧
      (t.homecoming .usual (Moment.ofClock b.clock) j).2.context =
        ⟨some "run0001", some "Cleanup"⟩ ∧
      (t.run.exec b).2.context = outer := by
  intro outer t b fs
  have made : b.files.makeDir t.artifacts = .ok fs := rfl
  have interrupted : (t.run.exec b).1.isOk = false := by decide +kernel
  obtain ⟨hrestored, hrun, hstamped⟩ := context_restored t b
  obtain ⟨ended, b', hexec, hcontext, -⟩ := hrestored .usual
  rw [← hrun] at hexec
  refine ⟨made, ?_, ?_, (hstamped fs made).2, ?_⟩
  · rintro ⟨o, ho⟩
    rw [ho] at interrupted
    cases interrupted
  · decide +kernel
  · rw [hexec]
    exact hcontext

end Trial
end ClientTrial
