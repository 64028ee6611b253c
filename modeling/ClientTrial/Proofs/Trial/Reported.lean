import ClientTrial.Proofs.SavedReport
import ClientTrial.Proofs.Trial.CleanUp

/-!
# Artifacts that are kept

A trial that comes to an outcome either keeps its directory of artifacts, with a report of
that outcome, or removes it, or adds the failure of the removal to the errors of the
clean-up.  The outcome names the directory and the report iff they are kept.

## Main results

* `Trial.homecoming_eq_ok` — what is done to come to an outcome after the journey.
* `Trial.kept_or_discarded` — the two ways to deal with the artifacts.
* `Trial.standsIn_of_homecoming` — the report of an outcome that names one.
-/

namespace ClientTrial

open Act

namespace Trial

variable (t : Trial) (crew : Crew) {startedAt : Moment} {j : Journey} {o : Outcome} {c : Bench}

/-- A trial that comes to an outcome has cleaned up, has read what the receiver wrote, and has dealt
with the artifacts. -/
theorem homecoming_eq_ok (h : t.homecoming crew startedAt j = (.ok o, c)) :
    ∃ cleaned home content,
      (t.cleanUp crew j.progress (failureOf j.ended).isSome).exec (homeBench j) =
        (.ok cleaned, home) ∧
      (j.ended = .ok () ∨ ∃ f, j.ended = .error (.failure f)) ∧
      (Artifact.ofRoute t.output).textOn home = .ok content ∧
      (t.finalize j.progress (t.outcomeOf j.progress (failureOf j.ended) cleaned.1 content)
        cleaned.2 startedAt).exec home = (.ok o, c) := by
  obtain ⟨cleaned, home, hclean, h⟩ := exec_bind_eq_ok.1 h
  obtain ⟨hended, content, d, hread, hfinal⟩ := t.settle_eq_ok h
  obtain ⟨htext, rfl⟩ := (Artifact.exec_read_eq_ok _).1 hread
  exact ⟨cleaned, home, content, hclean, hended, htext, hfinal⟩

/-- What a trial does with its artifacts: it keeps them with a report, and the outcome names both; or
it removes them, or tells the failure of the removal last, and the outcome names neither. -/
theorem kept_or_discarded (h : t.homecoming crew startedAt j = (.ok o, c)) :
    (t.keeps o.succeeded = true ∧ o.artifacts = some t.artifacts ∧
      o.report = some (t.artifacts.child "report.json") ∧
      ∃ logs finishedAt,
        (t.reportOf j.progress o logs startedAt finishedAt).StandsIn t.artifacts c.files) ∨
    (t.keeps o.succeeded = false ∧ o.artifacts = none ∧ o.report = none ∧
      ((∃ home, t.removeArtifacts.exec home = (.ok (), c)) ∨
        ∃ errors text,
          o.cleanupErrors = errors ++ [.cleanupFailed "remove_artifacts" text])) := by
  obtain ⟨cleaned, home, content, -, -, -, hfinal⟩ := t.homecoming_eq_ok crew h
  rcases t.finalize_eq_ok hfinal with ⟨hkeeps, report, d, hsave, rfl, rfl⟩ |
    ⟨hkeeps, hremoved, rfl⟩ | ⟨hkeeps, f, rfl⟩
  · -- to report that the artifacts are kept leaves the files alone
    obtain ⟨rfl, hstands⟩ := Report.standsIn_of_save hsave
    exact .inl ⟨hkeeps, rfl, rfl, cleaned.2, _, hstands⟩
  · exact .inr ⟨hkeeps, rfl, rfl, .inl ⟨home, hremoved⟩⟩
  · exact .inr ⟨hkeeps, rfl, rfl, .inr ⟨_, f.text, rfl⟩⟩

/-- An outcome that names a report names the one of itself, which can be read where it was saved. -/
theorem standsIn_of_homecoming {route : Route} (h : t.homecoming crew startedAt j = (.ok o, c))
    (hreport : o.report = some route) :
    route = t.artifacts.child "report.json" ∧
      ∃ logs finishedAt,
        (t.reportOf j.progress o logs startedAt finishedAt).StandsIn t.artifacts c.files := by
  rcases t.kept_or_discarded crew h with ⟨-, -, hroute, hstands⟩ | ⟨-, -, hnone, -⟩
  · rw [hroute] at hreport
    exact ⟨(Option.some.inj hreport).symm, hstands⟩
  · rw [hnone] at hreport
    cases hreport

end Trial
end ClientTrial
