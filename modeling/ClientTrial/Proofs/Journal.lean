import ClientTrial.Log.Sink
import ClientTrial.Proofs.Json.RoundTrip
import ClientTrial.Proofs.Route

/-!
# The structured log

A record that is written as a JSON object stands on one line of printable ASCII, whatever
its logger, message, context and failure contain.  The line is read as one object, which
says of the record what the record says of itself, and names nothing twice.  So a log of
structured records has one line for each record, in their order, and no content can add a
line, break one, or pass for another record.

## Main definitions

* `Log.Record.ToldBy` — an object says of a record what the record says of itself.
* `Log.Record.IsLine` — a text is one line that is read as such an object.
* `Log.journal` — some structured records, each with a line break after it.

## Main results

* `Log.Record.isLine_structured` — a structured record is such a line.
* `Log.Setup.join_written` — the output of structured logging is the journal of the records
  that are admitted.
* `Log.lines_of_journal` — **one line for each record, read as that record**.
-/

namespace ClientTrial
namespace Log

/-! ### One record -/

namespace Record

/-- An object says of a record what the record says of itself.  The trial, the stage and the
failure are named iff the record has them, and no name stands for two members. -/
structure ToldBy (r : Record) (t : Json) : Prop where
  names : ∃ members, t = .obj members ∧ (members.map (·.1)).Nodup
  level : t.member? "level" = some (.str (levelName r.level))
  logger : t.member? "logger" = some (.str r.logger)
  message : t.member? "message" = some (.str r.message)
  runId : ∀ v, t.member? "run_id" = some v ↔
    ∃ s, r.context.runId = some s ∧ s ≠ "" ∧ v = .str s
  stage : ∀ v, t.member? "state" = some v ↔
    ∃ s, r.context.stage = some s ∧ s ≠ "" ∧ v = .str s
  failure : ∀ v, t.member? "exception" = some v ↔ ∃ s, r.failure = some s ∧ v = .str s

/-- A text is one line of printable ASCII, in the grammar of JSON, and is read as an object that
tells the record. -/
structure IsLine (r : Record) (text : String) : Prop where
  printable : Json.IsPrintable text.toList
  grammar : Json.IsText text.toList
  read : ∃ t, Json.parse? text = some t ∧ r.ToldBy t

variable {r : Record} {withOrigin : Bool}

theorem map_present?_eq_some_iff {o : Option String} {v : Json} :
    (present? o).map Json.str = some v ↔ ∃ s, o = some s ∧ s ≠ "" ∧ v = .str s := by
  rcases o with _ | text
  · simp [present?]
  · by_cases h : text = ""
    · simp [present?, h]
    · simp [present?, h, eq_comm]

theorem lookup_optional (key name : String) (s : Option String) :
    (optional name s).lookup key = if key = name then s.map Json.str else none := by
  rcases s with _ | s
  · simp [optional]
  · by_cases h : key = name
    · simp [optional, h]
    · simp [optional, List.lookup_cons, h, beq_eq_false_iff_ne.2 h]

theorem lookup_location {key : String} (h : key ≠ "location") (t : Json) :
    (if withOrigin then [("location", t)] else []).lookup key = none := by
  cases withOrigin
  · rfl
  · simp [List.lookup_cons, beq_eq_false_iff_ne.2 h]

theorem names_optional (name : String) (s : Option String) :
    ((optional name s).map (·.1)).Sublist [name] := by
  cases s with
  | none => exact List.nil_sublist _
  | some s => exact List.Sublist.refl _

theorem names_location (t : Json) :
    ((if withOrigin then [("location", t)] else []).map (·.1)).Sublist ["location"] := by
  cases withOrigin
  · exact List.nil_sublist _
  · exact List.Sublist.refl _

/-- The tree of a record tells it. -/
theorem toldBy_tree (withOrigin : Bool) (r : Record) : r.ToldBy (r.tree withOrigin) := by
  have hrun : (r.tree withOrigin).member? "run_id" = (present? r.context.runId).map Json.str := by
    simp [tree, Json.member?, List.lookup_append, List.lookup_cons, lookup_optional,
      lookup_location]
  have hstage : (r.tree withOrigin).member? "state" = (present? r.context.stage).map Json.str := by
    simp [tree, Json.member?, List.lookup_append, List.lookup_cons, lookup_optional,
      lookup_location]
  have hfailure : (r.tree withOrigin).member? "exception" = r.failure.map Json.str := by
    simp [tree, Json.member?, List.lookup_append, List.lookup_cons, lookup_optional,
      lookup_location]
  refine ⟨⟨_, rfl, ?_⟩, rfl, rfl, rfl, fun v => ?_, fun v => ?_, fun v => ?_⟩
  · have hall : ((((["timestamp", "level", "logger", "message"] ++ ["run_id"]) ++ ["state"]) ++
        ["exception"]) ++ ["location"]).Nodup := by decide
    refine hall.sublist ?_
    simp only [List.map_append]
    exact ((((List.Sublist.refl _).append (names_optional ..)).append (names_optional ..)).append
      (names_optional ..)).append (names_location ..)
  · rw [hrun, map_present?_eq_some_iff]
  · rw [hstage, map_present?_eq_some_iff]
  · rw [hfailure, Option.map_eq_some_iff]
    exact exists_congr fun s => and_congr_right fun _ => eq_comm

theorem isFinite_tree (withOrigin : Bool) (r : Record) : (r.tree withOrigin).IsFinite := by
  have hoptional (name : String) (s : Option String) :
      ∀ member ∈ optional name s, member.2.IsFinite := by
    cases s <;> simp [optional, Json.IsFinite]
  have horigin : (originTree r.origin).IsFinite := by
    unfold originTree Json.ofText?
    cases r.origin.function <;> simp only [Json.IsFinite, Json.MembersFinite, and_self]
  rw [tree, Json.IsFinite, Json.membersFinite_iff]
  simp only [List.forall_mem_append]
  refine ⟨⟨⟨⟨?_, hoptional _ _⟩, hoptional _ _⟩, hoptional _ _⟩, ?_⟩
  · simp [Json.IsFinite]
  · cases withOrigin
    · exact List.forall_mem_nil _
    · exact List.forall_mem_singleton.2 horigin

/-- A structured record is one line that is read as an object that tells it. -/
theorem isLine_structured (withOrigin : Bool) (r : Record) :
    r.IsLine (r.structured withOrigin) := by
  have hfinite := isFinite_tree withOrigin r
  refine ⟨Json.isPrintable_compact hfinite, ?_, _, Json.parse?_compact hfinite,
    toldBy_tree withOrigin r⟩
  have hvalue := Json.isValue_render none (r.tree withOrigin) 0 hfinite
  have htext := Json.IsText.value Json.isSpace_nil hvalue Json.isSpace_nil
  rw [List.append_nil, List.nil_append] at htext
  rw [structured, Json.compact, String.toList_ofList]
  exact htext

end Record

/-! ### Many records -/

/-- Some structured records, each with a line break after it. -/
def journal (withOrigin : Bool) (records : List Record) : String :=
  String.join (records.map fun r => r.structured withOrigin ++ "\n")

theorem toList_journal_cons (withOrigin : Bool) (r : Record) (records : List Record) :
    (journal withOrigin (r :: records)).toList
      = (r.structured withOrigin).toList ++ '\n' :: (journal withOrigin records).toList := by
  simp [journal, String.join_cons]

/-- The first piece ends at the first separator. -/
theorem splitOn_append_cons {sep : Char} {s : List Char} (h : sep ∉ s) (rest : List Char) :
    Text.splitOn sep (s ++ sep :: rest) = s :: Text.splitOn sep rest := by
  induction s with
  | nil => simp [Text.splitOn]
  | cons c s ih =>
    rw [List.mem_cons, not_or] at h
    rw [List.cons_append, Text.splitOn, if_neg (Ne.symm h.1), ih h.2]

/-- Structured logging writes the records that are admitted, and nothing else. -/
theorem Setup.join_written {s : Setup} {withOrigin : Bool}
    (h : s.format = some (.structured withOrigin)) (records : List Record) :
    String.join (records.map s.written)
      = journal withOrigin (records.filter fun r => s.admits r.logger r.level) := by
  have hwritten (r : Record) : s.written r
      = if s.admits r.logger r.level then r.structured withOrigin ++ "\n" else "" := by
    simp only [written, h, Format.render]
  induction records with
  | nil => simp [journal]
  | cons r records ih =>
    rw [List.map_cons, String.join_cons, ih, hwritten]
    cases hadmits : s.admits r.logger r.level with
    | true => simp [hadmits, journal, String.join_cons]
    | false => simp [hadmits]

/-- **One line for each record, read as that record.**  A structured record is one line that
tells it, whatever it contains.  Of any records, written one after the other, there are as many
lines, and nothing after the last line break; and this is what structured logging writes of the
records that it admits. -/
theorem lines_of_journal (withOrigin : Bool) :
    (∀ r : Record, r.IsLine (r.structured withOrigin)) ∧
      (∀ records, Text.splitOn '\n' (journal withOrigin records).toList
        = records.map (fun r => (r.structured withOrigin).toList) ++ [[]]) ∧
      ∀ (s : Setup) (records : List Record), s.format = some (.structured withOrigin) →
        String.join (records.map s.written)
          = journal withOrigin (records.filter fun r => s.admits r.logger r.level) := by
  refine ⟨Record.isLine_structured withOrigin, fun records => ?_,
    fun s records h => s.join_written h records⟩
  induction records with
  | nil => simp [journal]
  | cons r records ih =>
    have hbreak : '\n' ∉ (r.structured withOrigin).toList := fun hmem =>
      absurd ((Record.isLine_structured withOrigin r).printable _ hmem).1 (by decide)
    rw [toList_journal_cons, splitOn_append_cons hbreak, ih]
    rfl

end Log
end ClientTrial
