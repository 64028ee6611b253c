import ClientTrial.Proofs.Trial.Blame
import ClientTrial.Proofs.Trial.Reported
import ClientTrial.Settings.Sources

/-!
# The final stage of a report

The report of a trial names a final stage, and the summary of a failure names it too.  It is
the stage that was entered last before the clean-up, which is the one that failed if the trial
did.  There is one exception.  A build command that cannot be read is noticed before any
stage is entered, so that there is none to be blamed; the report then names the last stage
of all, which the trial never came to.

## Main definitions

* `Progress.lastStage` — the stage that was entered last before the clean-up.

## Main results

* `Trial.lastStage_of_course` — the stage that was entered last, and the verdict.
* `Trial.final_stage_of_report` — the stage that a report names.
* `Trial.final_stage_never_entered` — a report that names a stage that was not entered.
-/

namespace ClientTrial

open Act

/-- The stage that was entered last before the clean-up. -/
def Progress.lastStage (p : Progress) : Option Stage :=
  (p.history.filter (· ≠ .cleanup)).getLast?

namespace Trial

variable (t : Trial) (crew : Crew)

/-! ### The stage that was entered last -/

/-- After a journey and the clean-up, the stage that was entered last is that of the last visit. -/
theorem lastStage_after_cleanup (b : Bench) :
    let j := t.journey crew b
    ({ j.progress with history := j.progress.history ++ [.cleanup] } : Progress).lastStage =
      j.progress.history.getLast? := by
  intro j
  have hentered : ∀ stage ∈ j.progress.history, (decide (stage ≠ .cleanup)) = true := by
    intro stage hstage
    rw [t.history_journey crew] at hstage
    have hmem := (t.isPrefix_stages_journey crew b).subset hstage
    have hne : stage ≠ .cleanup := fun h => t.cleanup_notMem_itinerary (h ▸ hmem)
    simpa using hne
  unfold Progress.lastStage
  dsimp only
  rw [List.filter_append, List.filter_eq_self.2 hentered]
  simp

/-- A journey has entered no stage iff the build command cannot be read, which then ends it. -/
theorem history_journey_eq_nil_iff (b : Bench) :
    (t.journey crew b).progress.history = [] ↔ ∃ e, t.settings.buildWords = .error e := by
  rw [t.history_journey crew, List.map_eq_nil_iff]
  unfold journey
  cases hwords : t.settings.buildWords with
  | error e => exact iff_of_true rfl ⟨e, rfl⟩
  | ok command =>
    have hstages : Stage.forward ((command.getD []) ≠ []) ≠ [] := by simp [Stage.forward]
    exact iff_of_false (t.visits_journeyFrom_ne_nil crew hstages _ _) fun ⟨_, he⟩ => nomatch he

/-- A journey that goes through ends with the check of what the receiver wrote. -/
theorem getLast?_of_ended_ok {b : Bench} (hend : (t.journey crew b).ended = .ok ()) :
    (t.journey crew b).progress.history.getLast? = some .verifyOutputs := by
  rw [t.history_journey crew, t.stages_journey_of_ended_ok crew hend, itinerary,
    List.getLast?_append]
  rfl

/-- The stage that was entered last is the check of what the receiver wrote, if a trial succeeds, and
the one that failed, if it does not.  None was entered iff the build command cannot be read. -/
theorem lastStage_of_course {b b' : Bench} {c : Course} {o : Outcome}
    (h : (t.courseWith crew).exec b = (.ok c, b')) (ho : c.result = .ok o) :
    (c.progress.lastStage = none ↔ ∃ e, t.settings.buildWords = .error e) ∧
    (o.succeeded = true → o.failedStage = none ∧ c.progress.lastStage = some .verifyOutputs) ∧
    (o.succeeded = false → o.failedStage = c.progress.lastStage) := by
  obtain ⟨fs, made, d, hhome, hprogress, -⟩ := t.homecoming_of_course crew h ho
  have hlast : c.progress.lastStage =
      (t.journey crew (t.outset fs b)).progress.history.getLast? := by
    rw [hprogress]
    exact t.lastStage_after_cleanup crew _
  rw [hlast, List.getLast?_eq_none_iff]
  refine ⟨t.history_journey_eq_nil_iff crew _, fun hpassed => ?_, fun hfailed => ?_⟩
  · rcases t.verdict_of_homecoming crew hhome with ⟨hend, -, hstage, -⟩ | ⟨f, -, hfailed, -, -⟩
    · exact ⟨hstage, t.getLast?_of_ended_ok crew hend⟩
    · rw [hpassed] at hfailed
      cases hfailed
  · rcases t.verdict_of_homecoming crew hhome with ⟨-, hpassed, -, -⟩ | ⟨f, -, -, hstage, -⟩
    · rw [hfailed] at hpassed
      cases hpassed
    · exact hstage

/-! ### The report -/

/-- The report of an outcome that names one can be read at the end, and its text tells the fields of
the report. -/
theorem isTold_of_course {b b' : Bench} {c : Course} {o : Outcome} {route : Route}
    (h : (t.courseWith crew).exec b = (.ok c, b')) (ho : c.result = .ok o)
    (hreport : o.report = some route) :
    ∃ tree : Json, b'.files.read route = .ok (Text.toOctets tree.pretty) ∧
      ∃ logs startedAt finishedAt,
        (t.reportOf c.progress o logs startedAt finishedAt).IsTold tree := by
  obtain ⟨fs, made, d, hhome, hprogress, rfl⟩ := t.homecoming_of_course crew h ho
  obtain ⟨rfl, logs, finishedAt, hstands⟩ := t.standsIn_of_homecoming crew hhome hreport
  obtain ⟨tree, hread, htold⟩ := hstands.isTold
  rw [t.files_parting, hprogress]
  exact ⟨tree, hread, logs, _, finishedAt, htold⟩

/-- What the report of an outcome tells of the final stage: the stage that failed or else the last of
all, which the summary of a failure names together with the error. -/
theorem finalStage_of_told {p : Progress} {o : Outcome} {logs : String}
    {startedAt finishedAt : Moment} {tree : Json}
    (h : (t.reportOf p o logs startedAt finishedAt).IsTold tree) :
    let finalStage := (o.failedStage.getD .verifyOutputs).name
    let remark := Report.remark o.cleanupErrors.length
    tree.member? "final_state" = some (.str finalStage) ∧
    (o.succeeded = true → tree.member? "summary" = some (.str ("Success" ++ remark))) ∧
    (o.succeeded = false → ∀ e cause, o.error = some (e, cause) →
      tree.member? "summary" =
        some (.str (e.code ++ " in " ++ finalStage ++ ": " ++ e.message ++ remark))) := by
  have hcount : (t.reportOf p o logs startedAt finishedAt).cleanupErrors.length =
      o.cleanupErrors.length := List.length_map _
  refine ⟨h.finalStage, fun hpassed => ?_, fun hfailed e cause herror => ?_⟩
  · rw [h.member_summary (Report.summary_of_success hpassed), hcount]
  · have htells : (t.reportOf p o logs startedAt finishedAt).error =
        some (Datum.membersOfJson e.payload) := by
      rw [reportOf, herror]
      rfl
    rw [h.member_summary (Report.summary_of_error hfailed htells), hcount]
    rfl

/-- **The final stage of a report.**  Whatever a crew does, the report of a trial can be read where
it was saved, and it names the stage that was entered last before the clean-up: the check of what the
receiver wrote if the trial succeeded, and else the stage that failed, which its summary names
together with the error.  If no stage was entered -- and that is so iff the build command cannot be
read --, it names the last stage of all in place of one. -/
theorem final_stage_of_report {b b' : Bench} {c : Course} {o : Outcome} {route : Route}
    (h : (t.courseWith crew).exec b = (.ok c, b')) (ho : c.result = .ok o)
    (hreport : o.report = some route) :
    let finalStage := (c.progress.lastStage.getD .verifyOutputs).name
    let remark := Report.remark o.cleanupErrors.length
    (c.progress.lastStage = none ↔ ∃ e, t.settings.buildWords = .error e) ∧
    (o.succeeded = true → c.progress.lastStage = some .verifyOutputs) ∧
    (o.succeeded = false → o.failedStage = c.progress.lastStage) ∧
    ∃ tree : Json, b'.files.read route = .ok (Text.toOctets tree.pretty) ∧
      tree.member? "final_state" = some (.str finalStage) ∧
      (o.succeeded = true → tree.member? "summary" = some (.str ("Success" ++ remark))) ∧
      (o.succeeded = false → ∃ e cause, o.error = some (e, cause) ∧
        tree.member? "summary" =
          some (.str (e.code ++ " in " ++ finalStage ++ ": " ++ e.message ++ remark))) := by
  intro finalStage remark
  obtain ⟨hnone, hpassed, hfailed⟩ := t.lastStage_of_course crew h ho
  obtain ⟨tree, hread, logs, startedAt, finishedAt, htold⟩ := t.isTold_of_course crew h ho hreport
  obtain ⟨hfinal, hsuccess, hfailure⟩ := t.finalStage_of_told htold
  have hname : (o.failedStage.getD .verifyOutputs).name = finalStage := by
    cases hs : o.succeeded with
    | true =>
      obtain ⟨hstage, hlast⟩ := hpassed hs
      simp only [finalStage, hstage, hlast, Option.getD_none, Option.getD_some]
    | false => rw [hfailed hs]
  rw [hname] at hfinal hfailure
  refine ⟨hnone, fun hs => (hpassed hs).2, hfailed, tree, hread, hfinal, hsuccess, fun hs => ?_⟩
  -- a failure has an error
  obtain ⟨fs, -, d, hhome, -⟩ := t.homecoming_of_course crew h ho
  rcases t.verdict_of_homecoming crew hhome with ⟨-, hs', -, -⟩ | ⟨f, -, -, -, herror⟩
  · rw [hs] at hs'
    cases hs'
  · exact ⟨(verdict f).1, (verdict f).2, herror, hfailure hs _ _ herror⟩

/-- The report of a trial whose sender fails names the stage in which the sender is run. -/
theorem final_stage_of_failing_sender :
    let t : Trial := ⟨Settings.default, "r1"⟩
    let b : Bench := { Bench.quiet with errands := [{ status := 1 }] }
    ∃ c b' o route, (t.courseWith .usual).exec b = (.ok c, b') ∧ c.result = .ok o ∧
      o.report = some route ∧ c.progress.lastStage = some .runSender ∧
      ∃ tree : Json, b'.files.read route = .ok (Text.toOctets tree.pretty) ∧
        tree.member? "final_state" = some (.str "RunSender") ∧
        tree.member? "summary" = some (.str
          "PROCESS_FAILED in RunSender: ./target/debug/examples/send_message exited with code 1") := by
  intro t b
  have hends : (t.outcome? .usual b).map (fun o =>
      (o.succeeded, o.failedStage, o.cleanupErrors.length)) =
      some (false, some .runSender, 0) := by decide +kernel
  have hkept : (t.outcome? .usual b).map (·.report.isSome) = some true := by decide +kernel
  have hblamed : (t.outcome? .usual b).map (·.error.map fun e => (e.1.code, e.1.message)) =
      some (some ("PROCESS_FAILED",
        "./target/debug/examples/send_message exited with code 1")) := by decide +kernel
  obtain ⟨o, hcomes, htells⟩ := Option.map_eq_some_iff.1 hends
  obtain ⟨c, b', h, ho⟩ := (t.outcome?_eq_some_iff .usual).1 hcomes
  simp only [Prod.mk.injEq] at htells
  obtain ⟨hfailed, hstage, hclean⟩ := htells
  rw [hcomes] at hkept hblamed
  obtain ⟨route, hreport⟩ := Option.isSome_iff_exists.1 (Option.some.inj hkept)
  obtain ⟨-, -, hblames, tree, hread, hfinal, -, hsummary⟩ :=
    t.final_stage_of_report .usual h ho hreport
  have hlast : c.progress.lastStage = some .runSender := (hblames hfailed).symm.trans hstage
  obtain ⟨e, cause, herror, hsummary⟩ := hsummary hfailed
  have hblamed : o.error.map (fun e => (e.1.code, e.1.message)) = some ("PROCESS_FAILED",
      "./target/debug/examples/send_message exited with code 1") := Option.some.inj hblamed
  rw [herror] at hblamed
  obtain ⟨hcode, hmessage⟩ := Prod.ext_iff.1 (Option.some.inj hblamed)
  dsimp only at hcode hmessage
  rw [hlast] at hfinal hsummary
  rw [hclean, hcode, hmessage] at hsummary
  exact ⟨c, b', o, route, h, ho, hreport, hlast, tree, hread, hfinal, hsummary⟩

/-- **A final stage that was not entered.**  A build command that lacks a closing quote is accepted.
The trial fails before it enters any stage but the clean-up, and its report blames the check of what
the receiver wrote. -/
theorem final_stage_never_entered :
    let sources : Sources := { overrides := [("build_command", .str "'")] }
    let t : Trial := ⟨sources.valueOrDefault, "run0001"⟩
    sources.load = .ok t.settings ∧
      ∃ c b' o route, (t.courseWith .usual).exec Bench.quiet = (.ok c, b') ∧ c.result = .ok o ∧
        o.report = some route ∧ o.succeeded = false ∧ c.progress.history = [.cleanup] ∧
        ∃ tree : Json, b'.files.read route = .ok (Text.toOctets tree.pretty) ∧
          tree.member? "final_state" = some (.str Stage.verifyOutputs.name) ∧
          tree.member? "summary" = some (.str ("UNEXPECTED_ERROR in VerifyOutputs: " ++
            "Unexpected ValueError: No closing quotation")) := by
  intro sources t
  have accepted : sources.allIssues.isEmpty = true := by decide +kernel
  have hends : (t.outcome? .usual Bench.quiet).map (fun o =>
      (o.succeeded, o.failedStage, o.cleanupErrors.length)) =
      some (false, none, 0) := by decide +kernel
  have hkept : (t.outcome? .usual Bench.quiet).map (·.report.isSome) = some true := by
    decide +kernel
  have hblamed : (t.outcome? .usual Bench.quiet).map
      (·.error.map fun e => (e.1.code, e.1.message)) =
      some (some ("UNEXPECTED_ERROR",
        "Unexpected ValueError: No closing quotation")) := by decide +kernel
  have hhistory : ((t.courseWith .usual).exec Bench.quiet).1.toOption.map (·.progress.history) =
      some [.cleanup] := by decide +kernel
  obtain ⟨o, hcomes, htells⟩ := Option.map_eq_some_iff.1 hends
  obtain ⟨c, b', h, ho⟩ := (t.outcome?_eq_some_iff .usual).1 hcomes
  simp only [Prod.mk.injEq] at htells
  obtain ⟨hfailed, hstage, hclean⟩ := htells
  rw [hcomes] at hkept hblamed
  rw [h] at hhistory
  obtain ⟨route, hreport⟩ := Option.isSome_iff_exists.1 (Option.some.inj hkept)
  obtain ⟨⟨e, cause⟩, herror, hblames⟩ := Option.map_eq_some_iff.1 (Option.some.inj hblamed)
  obtain ⟨hcode, hmessage⟩ := Prod.ext_iff.1 hblames
  obtain ⟨tree, hread, logs, startedAt, finishedAt, htold⟩ :=
    t.isTold_of_course .usual h ho hreport
  obtain ⟨hfinal, -, hsummary⟩ := t.finalStage_of_told htold
  have hsummary := hsummary hfailed e cause herror
  rw [hstage] at hfinal hsummary
  rw [hclean] at hsummary
  dsimp only at hcode hmessage
  rw [hcode, hmessage] at hsummary
  exact ⟨Sources.load_eq_ok_iff.2 ⟨List.isEmpty_iff.1 accepted, rfl⟩, c, b', o, route, h, ho,
    hreport, hfailed, Option.some.inj hhistory, tree, hread, hfinal, hsummary⟩

end Trial
end ClientTrial
