import ClientTrial.Proofs.Except
import ClientTrial.Report.Basic

/-!
# Numbers in a report

The only whole numbers in a report are those in its error.  A report in whose error no number
has more digits than may be written has its texts, once it is known how long the trial took;
one with a longer number has no JSON text.

## Main definitions

* `Report.Fits` — no number of a report is too long to be written.
* `Report.CanTell` — a sentence of a report can be told unless a number is too long.

## Main results

* `Report.canTell_summary` — the summary is such a sentence.
* `Report.texts_of_fits` — the texts of a report whose numbers can be written.
* `Report.json_of_not_fits` — any other report has no JSON text.
-/

namespace ClientTrial

namespace Json

theorem itemsFit_strings (list : List String) : itemsFit (list.map .str) = true := by
  induction list with
  | nil => rfl
  | cons s list ih =>
    rw [List.map_cons, itemsFit, ih]
    rfl

theorem fits_ofText? (text : Option String) : (ofText? text).fits = true := by
  cases text <;> rfl

end Json

namespace Report

/-- No whole number in the error of a report has more digits than may be written. -/
def Fits (r : Report) : Prop :=
  ∀ members ∈ r.error, Json.membersFit (Datum.membersToJson members) = true

variable {r : Report} {members : List (String × Datum)} {seconds : Float}

theorem fits_congr {r' : Report} (h : r.error = r'.error) : r.Fits ↔ r'.Fits := by
  unfold Fits
  rw [h]

/-- The numbers of a report are those in its error. -/
theorem fits_fields (summary : String) : (r.fields seconds summary).fits = true ↔ r.Fits := by
  unfold fields Fits
  simp only [Json.fits, Json.membersFit, Json.strings, Json.itemsFit_strings, Json.fits_ofText?,
    Bool.true_and, Bool.and_true]
  cases r.error with
  | none => simp [Json.fits]
  | some members => simp [Json.fits]

/-! ### Members in sentences -/

theorem fits_lookup (h : Json.membersFit (Datum.membersToJson members) = true) (name : String) :
    ((members.lookup name).getD .null).toJson.fits = true := by
  induction members with
  | nil => rfl
  | cons member members ih =>
    obtain ⟨other, value⟩ := member
    rw [Datum.membersToJson, Json.membersFit, Bool.and_eq_true] at h
    rw [List.lookup_cons]
    cases name == other with
    | true => exact h.1
    | false => exact ih h.2

variable (r) in
/-- A sentence can be told unless a number in the error is too long, which is what it is refused for
then. -/
def CanTell (sentence : Except Fault String) : Prop :=
  (∃ s, sentence = .ok s) ∨ (sentence = .error Fault.oversize ∧ ¬r.Fits)

section CanTell

variable {sentence : Except Fault String}

theorem CanTell.exists_of_fits (h : r.CanTell sentence) (hfits : r.Fits) : ∃ s, sentence = .ok s :=
  h.resolve_right fun hrefused => hrefused.2 hfits

theorem canTell_ok (s : String) : r.CanTell (.ok s) := .inl ⟨s, rfl⟩

theorem CanTell.bind (h : r.CanTell sentence) {next : String → Except Fault String}
    (hnext : ∀ s, r.CanTell (next s)) : r.CanTell (sentence >>= next) := by
  rcases h with ⟨s, rfl⟩ | ⟨rfl, hlong⟩
  · exact hnext s
  · exact .inr ⟨rfl, hlong⟩

theorem CanTell.map (h : r.CanTell sentence) (f : String → String) :
    r.CanTell (sentence.map f) := by
  rcases h with ⟨s, rfl⟩ | ⟨rfl, hlong⟩
  · exact canTell_ok (f s)
  · exact .inr ⟨rfl, hlong⟩

end CanTell

theorem canTell_shownMember (h : members ∈ r.error) (name : String) :
    r.CanTell (shownMember name members) := by
  unfold shownMember
  dsimp only
  split
  · exact canTell_ok _
  · next hlong => exact .inr ⟨rfl, fun hfits => hlong (fits_lookup (hfits members h) name)⟩

theorem mem_error_of_verdict (h : r.verdict = some members) : members ∈ r.error :=
  (Option.filter_eq_some_iff.1 h).1

theorem canTell_blame (h : members ∈ r.error) : r.CanTell (r.blame members) := by
  unfold blame
  refine (canTell_shownMember h "error").bind fun error => ?_
  refine (canTell_shownMember h "message").bind fun message => ?_
  exact canTell_ok _

theorem canTell_judgement (r : Report) : r.CanTell r.judgement := by
  unfold judgement
  split
  · exact canTell_ok _
  · split
    · next hverdict => exact canTell_blame (mem_error_of_verdict hverdict)
    · exact canTell_ok _

theorem canTell_summary (r : Report) : r.CanTell r.summary := r.canTell_judgement.map _

theorem canTell_failureSection (r : Report) : r.CanTell r.failureSection := by
  unfold failureSection
  split
  · exact canTell_ok _
  · next hverdict => exact (canTell_shownMember (mem_error_of_verdict hverdict) _).map _

/-! ### The texts -/

theorem tree_eq (hduration : r.duration = .ok seconds) {s : String} (hs : r.summary = .ok s) :
    r.tree = .ok (r.fields seconds s) := by
  unfold tree
  rw [hduration, hs]
  rfl

/-- A tree of a report is that of its fields. -/
theorem tree_eq_ok {tree : Json} (h : r.tree = .ok tree) :
    ∃ seconds s, r.duration = .ok seconds ∧ r.summary = .ok s ∧ r.fields seconds s = tree := by
  obtain ⟨seconds, hduration, h⟩ := Except.bind_eq_ok.1 h
  obtain ⟨s, hs, h⟩ := Except.bind_eq_ok.1 h
  exact ⟨seconds, s, hduration, hs, Except.ok.inj h⟩

/-- A report has a JSON text iff it has a tree without numbers that are too long. -/
theorem json_eq_ok_iff {text : String} :
    r.json = .ok text ↔ ∃ tree, r.tree = .ok tree ∧ tree.fits = true ∧ tree.pretty = text := by
  unfold json
  rw [Except.bind_eq_ok]
  simp only [Except.ite_ok_eq_ok]

/-- A report whose numbers can be written has its two texts. -/
theorem texts_of_fits (hduration : r.duration = .ok seconds) (h : r.Fits) :
    (∃ json, r.json = .ok json) ∧ ∃ page, r.page = .ok page := by
  obtain ⟨s, hs⟩ := r.canTell_summary.exists_of_fits h
  obtain ⟨failure, hfailure⟩ := r.canTell_failureSection.exists_of_fits h
  refine ⟨⟨_, json_eq_ok_iff.2 ⟨_, tree_eq hduration hs, (fits_fields s).2 h, rfl⟩⟩, ?_⟩
  unfold page
  rw [hduration, hs, hfailure]
  exact ⟨_, rfl⟩

/-- A report with a number that is too long has no JSON text. -/
theorem json_of_not_fits (hduration : r.duration = .ok seconds) (h : ¬r.Fits) :
    r.json = .error Fault.oversize := by
  unfold json
  rcases r.canTell_summary with ⟨s, hs⟩ | ⟨hs, -⟩
  · rw [tree_eq hduration hs]
    exact if_neg (mt (fits_fields s).1 h)
  · unfold tree
    rw [hduration, hs]
    rfl

end Report
end ClientTrial
