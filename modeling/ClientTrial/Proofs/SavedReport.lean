import ClientTrial.Proofs.Artifact
import ClientTrial.Proofs.Bench.Files
import ClientTrial.Proofs.Report.Numbers

/-!
# What a saved report says

A report that was saved stands in its directory twice, as a JSON text and as a page, and both
can be read there.  The JSON text tells the fields of the report under their names.  The
summary of a failure names the error, the final stage and the message, and the page has the
markers in their order, those ticked that stand in the receiver's output.

## Main definitions

* `Report.StandsIn` — both texts of a report stand in a directory.
* `Report.IsTold` — a tree tells the fields of a report.

## Main results

* `Report.standsIn_of_save` — a report that was saved stands in its directory.
* `Report.isTold_of_tree` — what the tree of a report tells.
* `Report.summary_of_error`, `Report.summary_of_success` — the summary.
* `Report.markers_of_page` — the markers on the page.
-/

namespace ClientTrial

open Act

namespace Report

variable {r : Report}

/-! ### The two texts -/

/-- A tree tells the fields of a report. -/
structure IsTold (r : Report) (tree : Json) : Prop where
  runId : tree.member? "run_id" = some (.str r.runId)
  succeeded : tree.member? "succeeded" = some (.bool r.succeeded)
  summary : ∃ s, r.summary = .ok s ∧ tree.member? "summary" = some (.str s)
  finalStage : tree.member? "final_state" = some (.str r.finalStage)
  address : (tree.member? "server").bind (·.member? "address") = some (.ofText? r.serverAddress)
  markers : tree.member? "markers" = some (.strings r.markers)
  error : tree.member? "error" =
    some (match r.error with
      | none => .null
      | some members => .obj (Datum.membersToJson members))
  cleanupErrors : tree.member? "cleanup_errors" = some (.strings r.cleanupErrors)
  receiverOutput : tree.member? "receiver_output" = some (.str r.receiverOutput)

/-- The tree of a report tells its fields. -/
theorem isTold_of_tree {tree : Json} (h : r.tree = .ok tree) : r.IsTold tree := by
  obtain ⟨seconds, s, -, hs, rfl⟩ := tree_eq_ok h
  exact ⟨rfl, rfl, ⟨s, hs, rfl⟩, rfl, rfl, rfl, rfl, rfl, rfl⟩

/-- The tree tells the summary that the report has. -/
theorem IsTold.member_summary {tree : Json} (h : r.IsTold tree) {s : String}
    (hs : r.summary = .ok s) : tree.member? "summary" = some (.str s) := by
  obtain ⟨s', hs', htold⟩ := h.summary
  rw [htold, Except.ok.inj (hs.symm.trans hs')]

/-- Both texts of a report stand in a directory. -/
structure StandsIn (r : Report) (dir : Route) (fs : Files) : Prop where
  json : ∃ tree, r.tree = .ok tree ∧
    fs.read (dir.child "report.json") = .ok (Text.toOctets tree.pretty)
  page : ∃ page, r.page = .ok page ∧
    fs.read (dir.child "report.md") = .ok (Text.toOctets page)

/-- The text of a report that stands in a directory tells its fields. -/
theorem StandsIn.isTold {dir : Route} {fs : Files} (h : r.StandsIn dir fs) :
    ∃ tree, fs.read (dir.child "report.json") = .ok (Text.toOctets tree.pretty) ∧
      r.IsTold tree := by
  obtain ⟨tree, htree, hread⟩ := h.json
  exact ⟨tree, hread, isTold_of_tree htree⟩

/-- The two files of a report never stand at one place. -/
theorem locate_page_ne {dir : Route} {fs : Files} {place : Location}
    (h : fs.locate (dir.child "report.json") = .ok place) :
    fs.locate (dir.child "report.md") ≠ .ok place := by
  intro hpage
  have hjson := Files.getLast?_of_locate_child (by decide) h
  rw [Files.getLast?_of_locate_child (by decide) hpage] at hjson
  exact absurd (Option.some.inj hjson) (by decide)

/-- A report that was saved stands in its directory. -/
theorem standsIn_of_save {dir route : Route} {b c : Bench}
    (h : (r.save dir).exec b = (.ok route, c)) :
    route = dir.child "report.json" ∧ r.StandsIn dir c.files := by
  obtain ⟨_, made, -, h⟩ := exec_bind_eq_ok.1 h
  obtain ⟨json, d, hasked, h⟩ := exec_bind_eq_ok.1 h
  obtain ⟨hjson, rfl⟩ := exec_ofExcept_eq_ok.1 hasked
  obtain ⟨_, d, hwritten, h⟩ := exec_bind_eq_ok.1 h
  obtain ⟨fs, hwrite, rfl⟩ := exec_onFiles_eq_ok.1 hwritten
  obtain ⟨page, e, hasked, h⟩ := exec_bind_eq_ok.1 h
  obtain ⟨hpage, rfl⟩ := exec_ofExcept_eq_ok.1 hasked
  obtain ⟨_, e, hwritten, h⟩ := exec_bind_eq_ok.1 h
  obtain ⟨gs, hwrite', rfl⟩ := exec_onFiles_eq_ok.1 hwritten
  cases h
  refine ⟨rfl, ?_, page, hpage, Files.read_of_write hwrite'⟩
  -- the JSON text is still there when the page has been written
  obtain ⟨tree, htree, -, rfl⟩ := json_eq_ok_iff.1 hjson
  refine ⟨tree, htree, ?_⟩
  exact Files.read_of_write_of_ne (Files.read_of_write hwrite) (fun _ => locate_page_ne) hwrite'

/-! ### The summary -/

theorem summary_of_success (h : r.succeeded = true) :
    r.summary = .ok ("Success" ++ remark r.cleanupErrors.length) := by
  unfold summary judgement
  rw [h]
  rfl

/-- The summary of a failure names the error, the final stage and the message. -/
theorem summary_of_error {e : TrialError} (hfailed : r.succeeded = false)
    (herror : r.error = some (Datum.membersOfJson e.payload)) :
    r.summary = .ok (e.code ++ " in " ++ r.finalStage ++ ": " ++ e.message ++
      remark r.cleanupErrors.length) := by
  have hverdict : r.verdict = some (Datum.membersOfJson e.payload) := by
    rw [verdict, herror]
    rfl
  unfold summary judgement
  rw [hfailed, hverdict]
  rfl

/-! ### The page -/

/-- On the page there is a section with the markers in their order, each ticked if it stands in the
receiver's output. -/
theorem markers_of_page {page : String} (h : r.page = .ok page) :
    ∃ before after, page = before ++ listed "Markers" (r.markers.map r.tick) ++ after := by
  obtain ⟨seconds, -, h⟩ := Except.bind_eq_ok.1 h
  obtain ⟨summary, -, h⟩ := Except.bind_eq_ok.1 h
  obtain ⟨failure, -, h⟩ := Except.bind_eq_ok.1 h
  cases h
  have regroup (before markers warnings output logs : String) :
      before ++ markers ++ warnings ++ output ++ logs =
        before ++ markers ++ (warnings ++ output ++ logs) := by
    simp only [String.append_assoc]
  exact ⟨_, _, regroup _ _ _ _ _⟩

end Report
end ClientTrial
