import ClientTrial.Proofs.Search
import ClientTrial.Proofs.Trial.FilesKept
import ClientTrial.Proofs.Trial.Reported
import ClientTrial.Proofs.Trial.Tidy

/-!
# The outcome, its report and its page

What a trial has come to is told three times: by the outcome that is returned, by the report
that is saved as JSON and by the page for people.  They are drawn up at different moments, and
the receiver's output is read twice, for the check and for the outcome.  Nevertheless they
tell the same, and they tell it wherever the artifacts are kept; otherwise these are gone, or
the outcome says that they could not be removed.

## Main definitions

* `Trial.Agrees` — what stands in the directory of artifacts agrees with an outcome.

## Main results

* `Trial.agrees_of_homecoming` — the artifacts that are kept agree with the outcome.
* `Trial.missing_of_failed_check` — what a failed check says is missing.
* `Trial.outcome_agrees_with_artifacts` — an outcome and what is kept of it.
-/

namespace ClientTrial

open Act

/-- The line of a marker on the page of a report. -/
def Report.markerLine (ticked : Bool) (marker : String) : String :=
  "[" ++ (if ticked then "x" else " ") ++ "] `" ++ marker ++ "`"

namespace Trial

variable (t : Trial)

/-- What stands in the directory of artifacts agrees with an outcome: the report tells the fields of
the outcome, and its page ticks the markers that stand in the receiver's output. -/
structure Agrees (o : Outcome) (fs : Files) : Prop where
  json : ∃ tree : Json,
    fs.read (t.artifacts.child "report.json") = .ok (Text.toOctets tree.pretty) ∧
    tree.member? "run_id" = some (.str o.runId) ∧
    tree.member? "succeeded" = some (.bool o.succeeded) ∧
    tree.member? "error" = some ((o.error.map fun e => Json.obj e.1.payload).getD .null) ∧
    tree.member? "cleanup_errors" = some (.strings (o.cleanupErrors.map (·.message))) ∧
    tree.member? "receiver_output" = some (.str o.receiverOutput) ∧
    tree.member? "markers" = some (.strings (t.settings .markers))
  page : ∃ before after,
    fs.read (t.artifacts.child "report.md") = .ok (Text.toOctets (before ++
      Report.listed "Markers" ((t.settings .markers : List String).map fun m =>
        Report.markerLine (decide (m.toList <:+: o.receiverOutput.toList)) m) ++ after))

/-! ### What is kept -/

section

variable {t} {startedAt : Moment} {j : Journey} {o : Outcome} {c : Bench}

/-- The report of an outcome agrees with it, wherever it stands. -/
theorem Agrees.of_standsIn {p : Progress} {logs : String} {finishedAt : Moment} {fs : Files}
    (hid : o.runId = t.runId)
    (h : (t.reportOf p o logs startedAt finishedAt).StandsIn t.artifacts fs) : t.Agrees o fs where
  json := by
    obtain ⟨tree, hread, htold⟩ := h.isTold
    refine ⟨tree, hread, ?_, htold.succeeded, ?_, htold.cleanupErrors, htold.receiverOutput,
      htold.markers⟩
    · rw [hid]
      exact htold.runId
    · rw [htold.error, reportOf]
      cases o.error with
      | none => rfl
      | some e =>
        -- the payload of an error holds no moments, which a report would write out
        exact congrArg (some <| Json.obj ·) (Datum.membersToJson_membersOfJson e.1.payload)
  page := by
    obtain ⟨page, hpage, hread⟩ := h.page
    obtain ⟨before, after, rfl⟩ := Report.markers_of_page hpage
    refine ⟨before, after, hread.trans ?_⟩
    have hticks (m : String) : Text.contains o.receiverOutput m =
        decide (m.toList <:+: o.receiverOutput.toList) := by
      rw [Bool.eq_iff_iff, Text.contains_iff, decide_eq_true_iff]
    simp only [← hticks]
    rfl

/-- What is drawn up of a trial tells the identifier of the trial and what was read last. -/
theorem told_of_finalize {p : Progress} {u : Outcome} {logs : String} {b : Bench}
    (h : (t.finalize p u logs startedAt).exec b = (.ok o, c)) :
    o.runId = u.runId ∧ o.receiverOutput = u.receiverOutput := by
  rcases t.finalize_eq_ok h with ⟨-, _, _, -, -, rfl⟩ | ⟨-, -, rfl⟩ | ⟨-, _, rfl⟩ <;>
    exact ⟨rfl, rfl⟩

/-- The artifacts that are kept agree with the outcome. -/
theorem agrees_of_homecoming {crew : Crew} (h : t.homecoming crew startedAt j = (.ok o, c))
    (hkeeps : t.keeps o.succeeded = true) :
    o.artifacts = some t.artifacts ∧ o.report = some (t.artifacts.child "report.json") ∧
      t.Agrees o c.files := by
  obtain ⟨cleaned, home, content, -, -, -, hfinal⟩ := t.homecoming_eq_ok crew h
  have hid : o.runId = t.runId := (told_of_finalize hfinal).1
  rcases t.kept_or_discarded crew h with ⟨-, hdir, hreport, logs, finishedAt, hstands⟩ |
    ⟨hdiscards, -⟩
  · exact ⟨hdir, hreport, .of_standsIn hid hstands⟩
  · rw [hkeeps] at hdiscards
    cases hdiscards

/-- Artifacts that are not kept are gone, or the outcome says last that they could not be removed. -/
theorem gone_of_homecoming {crew : Crew} {b : Bench} {fs : Files}
    (made : b.files.makeDir t.artifacts = .ok fs) (h : t.homecoming crew startedAt j = (.ok o, c))
    (hkeeps : t.keeps o.succeeded = false) :
    o.artifacts = none ∧ o.report = none ∧
      ((∃ place, b.files.locate t.artifacts = .ok place ∧ c.files.node? place = none) ∨
        ∃ errors text, o.cleanupErrors = errors ++ [.cleanupFailed "remove_artifacts" text]) := by
  rcases t.kept_or_discarded crew h with ⟨hkept, -⟩ | ⟨-, hdir, hreport, hleft⟩
  · rw [hkeeps] at hkept
    cases hkept
  · refine ⟨hdir, hreport, hleft.imp_left ?_⟩
    rintro ⟨home, hremoved⟩
    obtain ⟨place, hplace, hroot, -⟩ := Files.node?_of_makeDir made
    obtain ⟨gs, hdelete, rfl⟩ := t.removeArtifacts_eq_ok hremoved
    exact ⟨place, hplace, Files.node?_of_deleteTree hplace hroot hdelete⟩

end

/-! ### What a failed check says -/

/-- What the outcome shows of the receiver's output stood there when the journey was over. -/
theorem textOn_of_homecoming {startedAt : Moment} {j : Journey} {o : Outcome} {c : Bench}
    (h : t.homecoming .usual startedAt j = (.ok o, c)) :
    (Artifact.ofRoute t.output).textOn j.bench = .ok o.receiverOutput := by
  obtain ⟨cleaned, home, content, hclean, -, hread, hfinal⟩ := t.homecoming_eq_ok .usual h
  -- neither the report of the failure nor the clean-up writes to a file
  have hfiles : home.files = j.bench.files :=
    ((FilesKept.keeps_cleanUp t _ _).holds hclean).trans (FilesKept.files_homeBench j)
  rw [(told_of_finalize hfinal).2, ← Artifact.textOn_congr _ hfiles]
  exact hread

/-- A trial that fails in the check of what the receiver wrote lacks some of the markers there.  The
error names just those that do not stand in what the outcome shows, and it shows the same text. -/
theorem missing_of_failed_check {startedAt : Moment} {b : Bench} {o : Outcome} {c : Bench}
    (h : t.homecoming .usual startedAt (t.journey .usual b) = (.ok o, c))
    (hstage : o.failedStage = some .verifyOutputs) :
    let missing := (t.settings .markers : List String).filter fun m =>
      decide (¬m.toList <:+: o.receiverOutput.toList)
    missing ≠ [] ∧
      o.error = some (.missingContent missing o.receiverOutput t.output.text, none) := by
  intro missing
  have htext := t.textOn_of_homecoming h
  rcases t.verdict_of_homecoming .usual h with ⟨-, -, hnone, -⟩ | ⟨f, hend, -, hlast, herror⟩
  · rw [hstage] at hnone
    cases hnone
  rw [herror]
  -- the check was the last visit
  rw [hstage, t.history_journey .usual, List.getLast?_map] at hlast
  obtain ⟨v, hv, hvs⟩ := Option.map_eq_some_iff.1 hlast.symm
  have hraised : (t.performed .usual v).1 = .error (.failure f) :=
    t.last_visit_of_ended_error .usual hend hv
  have hbench : (t.journey .usual b).bench = (t.performed .usual v).2 :=
    t.bench_of_last_visit .usual hv
  rw [hbench] at htext
  unfold performed at hraised htext
  rw [hvs] at hraised htext
  have hkept : Frame.files.Keeps (t.perform .usual v.progress .verifyOutputs) :=
    Frame.keeps_bind (Frame.keeps_verifyAll FilesKept.keeps_say _ _) fun _ => Frame.keeps_pure _
  rw [Artifact.textOn_congr _ (hkept v.bench)] at htext
  -- it found the text of the outcome, and hence the markers that are missing from it
  have hchecked : (((Artifact.ofRoute t.output).verifyAll (t.settings .markers)).exec v.bench).1 =
      .error (.failure f) := by
    rcases exec_bind_eq_error.1 (Prod.ext hraised rfl) with hcheck | ⟨_, _, -, hpure⟩
    · exact congrArg Prod.fst hcheck
    · cases hpure
  by_cases hmissing : missingFrom o.receiverOutput (t.settings .markers) = []
  · obtain ⟨_, hpasses⟩ := (Artifact.verifyAll_answers_iff _ (t.settings .markers) v.bench).2
      ⟨_, htext, fun m hm => (Text.contains_iff _ _).1 (missingFrom_eq_nil_iff.1 hmissing m hm)⟩
    rw [hpasses] at hchecked
    cases hchecked
  · rw [Artifact.exec_verifyAll_of_missing htext hmissing] at hchecked
    cases hchecked
    rw [missingFrom_eq_filter] at hmissing ⊢
    exact ⟨hmissing, rfl⟩

/-! ### An outcome and what is kept of it -/

theorem keeps_eq_true_iff (succeeded : Bool) :
    t.keeps succeeded = true ↔
      (t.settings .keepArtifacts : Bool) = true ∨
        (succeeded = false ∧ (t.settings .keepArtifactsOnFailure : Bool) = true) := by
  simp [keeps]

/-- **An outcome and what is kept of it.**  The outcome of a trial names the directory of artifacts and
the report in it iff these are to be kept; the report and its page then agree with the outcome.
Otherwise it names neither, and the directory is gone or the outcome says last that it could not be
removed.  If the trial failed in the check of what the receiver wrote, the error names the markers
that the page does not tick, and shows what the outcome shows. -/
theorem outcome_agrees_with_artifacts {b b' : Bench} {o : Outcome}
    (h : t.run.exec b = (.ok o, b')) :
    let kept := (t.settings .keepArtifacts : Bool) = true ∨
      (o.succeeded = false ∧ (t.settings .keepArtifactsOnFailure : Bool) = true)
    let missing := (t.settings .markers : List String).filter fun m =>
      decide (¬m.toList <:+: o.receiverOutput.toList)
    (kept → o.artifacts = some t.artifacts ∧ o.report = some (t.artifacts.child "report.json") ∧
      t.Agrees o b'.files) ∧
    (¬kept → o.artifacts = none ∧ o.report = none ∧
      ((∃ place, b.files.locate t.artifacts = .ok place ∧ b'.files.node? place = none) ∨
        ∃ errors text, o.cleanupErrors = errors ++ [.cleanupFailed "remove_artifacts" text])) ∧
    (o.failedStage = some .verifyOutputs → missing ≠ [] ∧
      o.error = some (.missingContent missing o.receiverOutput t.output.text, none)) := by
  intro kept missing
  obtain ⟨fs, made, c, hhome, rfl⟩ := t.homecoming_of_run h
  rw [t.files_parting]
  refine ⟨fun hkept => ?_, fun hdiscarded => ?_, t.missing_of_failed_check hhome⟩
  · exact agrees_of_homecoming hhome ((t.keeps_eq_true_iff _).2 hkept)
  · refine gone_of_homecoming made hhome (Bool.eq_false_iff.2 fun hkeeps => hdiscarded ?_)
    exact (t.keeps_eq_true_iff _).1 hkeeps

/-- Of a trial whose receiver gets one marker of two, the report is kept with the other one not
ticked. -/
theorem artifacts_agree_of_missing_marker :
    let t : Trial := ⟨Settings.default, "r1"⟩
    let b : Bench := { Bench.quiet with
      scripts := [{ pieces := [⟨3.0, Text.toOctets "Hello World\n"⟩] }] }
    ∃ o b', t.run.exec b = (.ok o, b') ∧ o.succeeded = false ∧
      o.artifacts = some t.artifacts ∧ t.Agrees o b'.files ∧
      o.receiverOutput = "Hello World\n" ∧
      o.error = some (.missingContent ["Goodbye world"] "Hello World\n" t.output.text, none) := by
  intro t b
  have returned : (t.run.exec b).1.toOption.map (fun o =>
      (o.succeeded, o.failedStage, o.receiverOutput)) =
      some (false, some .verifyOutputs, "Hello World\n") := by decide +kernel
  rcases h : t.run.exec b with ⟨raised | o, b'⟩
  · rw [h] at returned
    cases returned
  rw [h] at returned
  have returned := Option.some.inj returned
  simp only [Prod.mk.injEq] at returned
  obtain ⟨hfailed, hstage, houtput⟩ := returned
  obtain ⟨hkept, -, hchecked⟩ := t.outcome_agrees_with_artifacts h
  obtain ⟨hdir, -, hagrees⟩ := hkept (.inr ⟨hfailed, rfl⟩)
  obtain ⟨-, herror⟩ := hchecked hstage
  have hmissing : ((t.settings .markers : List String).filter fun m =>
      decide (¬m.toList <:+: "Hello World\n".toList)) = ["Goodbye world"] := by decide +kernel
  rw [houtput, hmissing] at herror
  exact ⟨o, b', rfl, hfailed, hdir, hagrees, houtput, herror⟩

end Trial
end ClientTrial
