import ClientTrial.Proofs.Trial.FilesKept
import ClientTrial.Proofs.Trial.Reported
import ClientTrial.Proofs.Trial.Tidy
import ClientTrial.Settings.Sources

/-!
# What becomes of the directory of artifacts

A trial that has made its directory either removes it in the end or leaves it where it is; there
is nothing in between.  It removes it if it comes so far: it must not be interrupted, neither on
its way nor in the clean-up, and what the receiver wrote must be readable.  Then the settings
decide.  An interrupt leaves the directory behind even if nothing is to be kept.

## Main definitions

* `Trial.Discards` — a trial gets to the removal of its directory, and removes it.

## Main results

* `Trial.node?_of_discards`, `Trial.node?_of_not_discards` — what is left after the journey.
* `Trial.fate_of_directory` — the directory is gone or in its place.
* `Trial.directory_left_by_interrupt` — an interrupt leaves a directory behind that nobody wants.
-/

namespace ClientTrial

open Act

namespace Trial

variable (t : Trial)

/-- A trial gets to the removal of its directory after a journey, and removes it. -/
structure Discards (j : Journey) : Prop where
  /-- The journey went through or was ended by a failure. -/
  settled : j.ended = .ok () ∨ ∃ f, j.ended = .error (.failure f)
  /-- The artifacts are not to be kept. -/
  unwanted : t.keeps (failureOf j.ended).isNone = false
  /-- The clean-up answers, what the receiver wrote can be read, and the removal does not fail. -/
  removed : (do
    let _ ← t.cleanUp .usual j.progress (failureOf j.ended).isSome
    let _ ← (Artifact.ofRoute t.output).read
    t.removeArtifacts : Act Unit).Answers (homeBench j)

/-! ### The removal -/

section

variable {t} {b c : Bench} {place : Location}

theorem removeArtifacts_eq_error {r : Raised} (h : t.removeArtifacts.exec b = (.error r, c)) :
    c = b := by
  unfold removeArtifacts at h
  rw [exec_bind_of_ok (exec_ask _ b)] at h
  rcases exec_bind_eq_error.1 h with h | ⟨_, d, hperhaps, h⟩
  · cases hremoval : b.removal with
    | none =>
      rw [hremoval] at h
      cases h
    | some incident =>
      rw [hremoval] at h
      cases h
      rfl
  · obtain ⟨-, rfl⟩ := exec_perhaps_eq_ok.1 hperhaps
    rw [exec_onFiles] at h
    cases hdelete : b.files.deleteTree t.artifacts with
    | ok fs =>
      rw [hdelete] at h
      cases h
    | error f =>
      rw [hdelete] at h
      cases h
      rfl

/-- The directory stays where it is if it is to be kept or cannot be removed. -/
theorem node?_of_finalize {p : Progress} {o : Outcome} {logs : String} {startedAt : Moment}
    (hdir : b.files.node? place = some .dir)
    (h : t.keeps o.succeeded = true ∨ ¬t.removeArtifacts.Answers b) :
    ((t.finalize p o logs startedAt).exec b).2.files.node? place = some .dir := by
  unfold finalize
  by_cases hkeeps : t.keeps o.succeeded = true
  · rw [if_pos hkeeps]
    have saved : (Frame.steady []).Keeps (do
        let finishedAt ← ask fun b => Moment.ofClock b.clock
        let report ← (t.reportOf p o logs startedAt finishedAt).save t.artifacts
        say (.artifactsKept t.artifacts.text)
        pure { o with artifacts := some t.artifacts, report := some report }) := by
      refine Frame.keeps_bind (Frame.keeps_ask _) fun _ => ?_
      refine Frame.keeps_bind (Steady.keeps_save _ _) fun _ => ?_
      exact Frame.keeps_bind (Steady.keeps_say _) fun _ => Frame.keeps_pure _
    exact (saved b).desk.dirs place hdir
  · rw [if_neg hkeeps]
    rcases hremoved : t.removeArtifacts.exec b with ⟨raised | answer, c⟩
    · -- what cannot be removed is reported, or else the failure is passed on
      obtain rfl := removeArtifacts_eq_error hremoved
      rw [exec_bind_of_ok (exec_attempt _ _), hremoved]
      dsimp only
      split
      · exact hdir
      · exact hdir
    · exact absurd ⟨answer, congrArg Prod.fst hremoved⟩ (h.resolve_left hkeeps)

/-- A directory that is not to be kept is removed, and nothing else is done. -/
theorem exec_finalize_of_removed {p : Progress} {o : Outcome} {logs : String} {startedAt : Moment}
    (hkeeps : t.keeps o.succeeded = false) (h : t.removeArtifacts.exec b = (.ok (), c)) :
    (t.finalize p o logs startedAt).exec b = (.ok o, c) := by
  unfold finalize
  rw [if_neg (by simp [hkeeps]), exec_bind_of_ok (exec_attempt _ b), h]
  rfl

/-- The directory stays where it is if a trial does not get to its removal after the clean-up. -/
theorem node?_of_settle {startedAt : Moment} {p : Progress} {ended : Except Raised Unit}
    {cleaned : List TrialError × String} (hdir : b.files.node? place = some .dir)
    (h : (ended = .ok () ∨ ∃ f, ended = .error (.failure f)) →
      t.keeps (failureOf ended).isNone = false →
      ¬(do
        let _ ← (Artifact.ofRoute t.output).read
        t.removeArtifacts : Act Unit).Answers b) :
    ((t.settle startedAt p ended cleaned).exec b).2.files.node? place = some .dir := by
  have concluded (hended : ended = .ok () ∨ ∃ f, ended = .error (.failure f)) :
      ((t.conclude startedAt p (failureOf ended) cleaned).exec b).2.files.node? place =
        some .dir := by
    unfold conclude
    cases htext : (Artifact.ofRoute t.output).textOn b with
    | error f =>
      rw [exec_bind_of_error (Artifact.exec_read_of_error _ htext)]
      exact hdir
    | ok content =>
      have hread := Artifact.exec_read_of_ok _ htext
      rw [exec_bind_of_ok hread]
      refine node?_of_finalize hdir ?_
      cases hkeeps : t.keeps (failureOf ended).isNone with
      | true => exact .inl hkeeps
      | false =>
        refine .inr fun ⟨answer, hremoved⟩ => h hended hkeeps ⟨answer, ?_⟩
        rw [exec_bind_of_ok hread]
        exact hremoved
  rcases ended with (f | _ | _) | _
  · exact concluded (.inr ⟨f, rfl⟩)
  · exact hdir
  · exact hdir
  · exact concluded (.inl rfl)

end

/-! ### After the journey -/

section

variable {t} {startedAt : Moment} {j : Journey} {place : Location}

/-- The directory stays where it is if a trial does not get to its removal after the journey. -/
theorem node?_of_not_discards (hdir : j.bench.files.node? place = some .dir)
    (h : ¬t.Discards j) :
    (t.homecoming .usual startedAt j).2.files.node? place = some .dir := by
  have hbench : (homeBench j).files.node? place = some .dir :=
    (congrArg (Files.node? · place) (FilesKept.files_homeBench j)).trans hdir
  have hkept := FilesKept.keeps_cleanUp t j.progress (failureOf j.ended).isSome
  rcases hclean : (t.cleanUp .usual j.progress (failureOf j.ended).isSome).exec (homeBench j) with
    ⟨raised | cleaned, home⟩
  · -- the clean-up was interrupted
    have hhome : (t.homecoming .usual startedAt j).2 = home :=
      congrArg Prod.snd (exec_bind_of_error hclean _)
    rw [hhome, show home.files = (homeBench j).files from hkept.holds hclean]
    exact hbench
  · rw [homecoming_of_cleanUp t .usual hclean]
    refine node?_of_settle ?_ fun hsettled hunwanted ⟨answer, hremoved⟩ =>
      h ⟨hsettled, hunwanted, answer, ?_⟩
    · rw [show home.files = (homeBench j).files from hkept.holds hclean]
      exact hbench
    · rw [exec_bind_of_ok hclean]
      exact hremoved

/-- The directory is gone if a trial gets to its removal. -/
theorem node?_of_discards {b : Bench} {fs : Files} (made : b.files.makeDir t.artifacts = .ok fs)
    (hplace : b.files.locate t.artifacts = .ok place) (h : t.Discards j) :
    (t.homecoming .usual startedAt j).2.files.node? place = none := by
  obtain ⟨q, hq, hroot, -⟩ := Files.node?_of_makeDir made
  obtain rfl : q = place := Except.ok.inj (hq.symm.trans hplace)
  obtain ⟨hsettled, hunwanted, answer, hremoved⟩ := h
  obtain ⟨cleaned, home, hclean, hafter⟩ := exec_bind_eq_ok.1 (Prod.ext hremoved rfl)
  obtain ⟨content, c, hread, hremove⟩ := exec_bind_eq_ok.1 hafter
  obtain ⟨gs, hdelete, hgone⟩ := t.removeArtifacts_eq_ok hremove
  -- the outcome is drawn up, and with it the directory is removed
  have hconcluded : ((t.conclude startedAt j.progress (failureOf j.ended) cleaned).exec
      home).2.files.node? q = none := by
    unfold conclude
    rw [exec_bind_of_ok hread, exec_finalize_of_removed hunwanted hremove, hgone]
    exact Files.node?_of_deleteTree hq hroot hdelete
  rw [homecoming_of_cleanUp t .usual hclean]
  rcases hsettled with hended | ⟨f, hended⟩
  · rw [hended] at hconcluded ⊢
    exact hconcluded
  · rw [hended] at hconcluded ⊢
    exact hconcluded

end

/-! ### The whole trial -/

/-- **The fate of the directory.**  A trial that has made its directory removes it iff it gets so far:
its journey goes through or is ended by a failure, the artifacts are not to be kept, the clean-up is
not interrupted, what the receiver wrote can be read, and the removal does not fail.  Otherwise the
directory is left where it is -- also, then, by a trial that was interrupted and was to keep
nothing. -/
theorem fate_of_directory {b : Bench} {fs : Files} {place : Location}
    (made : b.files.makeDir t.artifacts = .ok fs)
    (hplace : b.files.locate t.artifacts = .ok place) :
    let j := t.journey .usual (t.outset fs b)
    let later := (t.run.exec b).2.files
    (t.Discards j → later.node? place = none) ∧
      (¬t.Discards j → later.node? place = some .dir) := by
  intro j later
  have hlater : later = (t.homecoming .usual (Moment.ofClock b.clock) j).2.files := by
    unfold later run course
    rw [exec_bind_of_ok (t.exec_courseWith .usual made), exec_release]
    exact t.files_parting _ _
  rw [hlater]
  refine ⟨node?_of_discards made hplace, node?_of_not_discards ?_⟩
  -- on the way forward no directory is lost
  obtain ⟨q, hq, -, hdir⟩ := Files.node?_of_makeDir made
  obtain rfl : q = place := Except.ok.inj (hq.symm.trans hplace)
  have hname : t.serverName ∈ [t.serverName] := List.mem_singleton_self _
  exact (t.accounted_journey hname (.refl _)).desk.dirs q hdir

/-- A trial that is to keep nothing removes its directory when its sender has failed. -/
theorem directory_removed_after_failing_sender :
    let sources : Sources := { overrides :=
      [("keep_artifacts", .bool false), ("keep_artifacts_on_failure", .bool false)] }
    let t : Trial := ⟨sources.valueOrDefault, "r1"⟩
    let b : Bench := { Bench.quiet with errands := [{ status := 1 }] }
    let fs := Bench.quiet.files.put ["tmp", artifactsName] .dir
    sources.load = .ok t.settings ∧ b.files.makeDir t.artifacts = .ok fs ∧
      fs.node? ["tmp", artifactsName] = some .dir ∧
      (t.run.exec b).2.files.node? ["tmp", artifactsName] = none := by
  intro sources t b fs
  let j := t.journey .usual (t.outset fs b)
  have accepted : sources.allIssues.isEmpty = true := by decide +kernel
  have made : b.files.makeDir t.artifacts = .ok fs := rfl
  have hfailed : (failureOf j.ended).isSome = true := by decide +kernel
  have hsettled : j.ended = .ok () ∨ ∃ f, j.ended = .error (.failure f) := by
    rcases hend : j.ended with (f | _ | _) | _
    · exact .inr ⟨f, rfl⟩
    · rw [hend] at hfailed
      cases hfailed
    · rw [hend] at hfailed
      cases hfailed
    · exact .inl rfl
  have hremoved : ((do
      let _ ← t.cleanUp .usual j.progress (failureOf j.ended).isSome
      let _ ← (Artifact.ofRoute t.output).read
      t.removeArtifacts : Act Unit).exec (homeBench j)).1.isOk = true := by decide +kernel
  have discards : t.Discards j := ⟨hsettled, by decide +kernel, answers_of_isOk hremoved⟩
  exact ⟨Sources.load_eq_ok_iff.2 ⟨List.isEmpty_iff.1 accepted, rfl⟩, made, rfl,
    (t.fate_of_directory made rfl).1 discards⟩

/-- The text of the interrupt that has ended an action, if one has. -/
def interruptText? {α : Type} : Except Raised α → Option String
  | .error (.interrupt text) => some text
  | _ => none

theorem eq_interrupt_of_text {α : Type} {ended : Except Raised α} {text : String}
    (h : interruptText? ended = some text) : ended = .error (.interrupt text) := by
  rcases ended with (f | other | _) | a
  · cases h
  · cases h
    rfl
  · cases h
  · cases h

/-- **A directory that nobody wants.**  A trial that is to keep nothing is interrupted while the server
is given time to settle.  Its directory stays, though nothing hinders its removal. -/
theorem directory_left_by_interrupt :
    let sources : Sources := { overrides :=
      [("keep_artifacts", .bool false), ("keep_artifacts_on_failure", .bool false)] }
    let t : Trial := ⟨sources.valueOrDefault, "run0001"⟩
    let b : Bench := { Bench.quiet with pauses := [some (.interrupt "")] }
    sources.load = .ok t.settings ∧ (b.files.makeDir t.artifacts).isOk = true ∧
      ∃ b', t.run.exec b = (.error (.interrupt ""), b') ∧
        b'.files.node? ["tmp", artifactsName] = some .dir ∧ t.removeArtifacts.Answers b' := by
  intro sources t b
  have accepted : sources.allIssues.isEmpty = true := by decide +kernel
  have hleft : (t.run.exec b).2.files.node? ["tmp", artifactsName] = some .dir := by decide +kernel
  have hremovable : (t.removeArtifacts.exec (t.run.exec b).2).1.isOk = true := by decide +kernel
  have hinterrupted : interruptText? (t.run.exec b).1 = some "" := by decide +kernel
  rcases h : t.run.exec b with ⟨ended, b'⟩
  rw [h] at hleft hremovable hinterrupted
  obtain rfl := eq_interrupt_of_text hinterrupted
  exact ⟨Sources.load_eq_ok_iff.2 ⟨List.isEmpty_iff.1 accepted, rfl⟩, rfl, b', rfl, hleft,
    answers_of_isOk hremovable⟩

end Trial
end ClientTrial
