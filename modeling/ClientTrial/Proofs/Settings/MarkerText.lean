import Mathlib.Data.List.Forall2
import ClientTrial.Proofs.Settings.Precedence
import ClientTrial.Proofs.Text.Strip

/-!
# Markers in one text

A text lists markers between commas.  Blanks around a marker do not belong to it, and a piece
between two commas that holds nothing else lists no marker.  What a text lists is told here
without splitting or stripping: `Kind.Lists` says which pieces a text consists of, and
`Kind.Spells` what each of them stands for.

The markers that can be listed are those without a comma that say something and neither begin
nor end with a blank.  Any number of them, joined with commas and with blanks around these, is
read as the list of them; so it makes no difference whether the markers are given as a list or
as a text, and a text can be replaced by what its markers are joined to.

## Main definitions

* `Kind.Spells`, `Kind.Lists` — the markers of some pieces, and of a text.
* `Kind.IsListable` — a marker that a text can list.
* `Kind.Joins` — a text that is joined from markers.
* `Sources.AgreeBut` — sources that give the same for every field but one.

## Main results

* `Kind.lists_iff` — what a text lists is what is read from it.
* `Kind.lists_of_joins`, `Kind.isListable_of_lists` — what is joined is listed, and what is listed
  can be joined.
* `Sources.markers_of_text` — the settings that come of a text of markers.
-/

namespace ClientTrial

open Text (IsStripped Pads isBlank)

namespace Kind

/-! ### What a text lists -/

/-- The markers that some pieces stand for. -/
inductive Spells : List (List Char) → List String → Prop where
  /-- No piece stands for no marker. -/
  | nil : Spells [] []
  /-- Neither does a piece of blanks. -/
  | blank {piece : List Char} {pieces : List (List Char)} {list : List String}
    (h : ∀ c ∈ piece, isBlank c = true) (rest : Spells pieces list) : Spells (piece :: pieces) list
  /-- Any other stands for what it holds between its blanks. -/
  | marker {piece : List Char} {pieces : List (List Char)} {m : String} {list : List String}
    (solid : m ≠ "") (stripped : IsStripped isBlank m.toList) (padded : Pads isBlank m.toList piece)
    (rest : Spells pieces list) : Spells (piece :: pieces) (m :: list)

/-- A text lists the markers that the pieces between its commas stand for. -/
def Lists (text : String) (list : List String) : Prop :=
  ∃ pieces : List (List Char), pieces ≠ [] ∧ (∀ piece ∈ pieces, ',' ∉ piece) ∧
    text.toList = [','].intercalate pieces ∧ Spells pieces list

/-- The markers of some pieces, read from them. -/
def markersOfPieces (pieces : List (List Char)) : List String :=
  ((pieces.map (Text.trim isBlank)).filter (· ≠ [])).map String.ofList

theorem markersOfText_eq (text : String) :
    markersOfText text = markersOfPieces (Text.splitOn ',' text.toList) := rfl

variable {piece : List Char} {pieces : List (List Char)} {text m : String} {list : List String}

theorem markersOfPieces_cons_of_blank (h : Text.trim isBlank piece = []) :
    markersOfPieces (piece :: pieces) = markersOfPieces pieces := by
  simp [markersOfPieces, h]

theorem markersOfPieces_cons_of_solid (h : Text.trim isBlank piece ≠ []) :
    markersOfPieces (piece :: pieces) =
      String.ofList (Text.trim isBlank piece) :: markersOfPieces pieces := by
  simp [markersOfPieces, h]

/-- What pieces stand for is what is read from them. -/
theorem spells_iff : Spells pieces list ↔ markersOfPieces pieces = list := by
  constructor
  · intro h
    induction h with
    | nil => rfl
    | blank h rest ih => rw [markersOfPieces_cons_of_blank (Text.trim_eq_nil_iff.2 h), ih]
    | marker solid stripped padded rest ih =>
      have hm := Text.trim_of_pads stripped padded
      have hsolid := mt String.toList_eq_nil_iff.1 solid
      rw [markersOfPieces_cons_of_solid (hm ▸ hsolid), hm, String.ofList_toList, ih]
  · rintro rfl
    induction pieces with
    | nil => exact .nil
    | cons piece pieces ih =>
      by_cases h : Text.trim isBlank piece = []
      · rw [markersOfPieces_cons_of_blank h]
        exact .blank (Text.trim_eq_nil_iff.1 h) ih
      · rw [markersOfPieces_cons_of_solid h]
        refine .marker (by simpa using h) ?_ ?_ ih
        · rw [String.toList_ofList]
          exact Text.isStripped_trim isBlank piece
        · rw [String.toList_ofList]
          exact Text.pads_trim isBlank piece

/-- What a text lists is what is read from it. -/
theorem lists_iff : Lists text list ↔ markersOfText text = list := by
  rw [markersOfText_eq]
  constructor
  · rintro ⟨pieces, hsome, hcomma, htext, h⟩
    rw [Text.splitOn_eq_iff.2 ⟨hsome, hcomma, htext⟩]
    exact spells_iff.1 h
  · intro h
    obtain ⟨hsome, hcomma, htext⟩ := Text.splitOn_eq_iff.1 (rfl : Text.splitOn ',' text.toList = _)
    exact ⟨_, hsome, hcomma, htext, spells_iff.2 h⟩

example : markersOfText " a ,, \x1c,b c," = ["a", "b c"] := by decide

/-! ### What can be listed -/

/-- A marker that a text can list: it holds no comma, says something, and neither begins nor ends
with a blank. -/
structure IsListable (m : String) : Prop where
  comma : ',' ∉ m.toList
  solid : Text.allBlank m = false
  stripped : IsStripped isBlank m.toList

/-- A text is joined from markers, with commas between them and with any blanks around these. -/
def Joins (text : String) (list : List String) : Prop :=
  ∃ pieces, List.Forall₂ (fun m piece => Pads isBlank (String.toList m) piece) list pieces ∧
    text.toList = [','].intercalate pieces

theorem ne_empty_of_not_allBlank (h : Text.allBlank m = false) : m ≠ "" := by
  rintro rfl
  cases h

/-- What pieces without a comma stand for can be listed. -/
theorem isListable_of_spells (h : Spells pieces list) (hcomma : ∀ piece ∈ pieces, ',' ∉ piece) :
    ∀ m ∈ list, IsListable m := by
  induction h with
  | nil => simp
  | blank _ _ ih => exact ih fun piece hpiece => hcomma piece (List.mem_cons_of_mem _ hpiece)
  | marker solid stripped padded _ ih =>
    refine List.forall_mem_cons.2 ⟨⟨fun hmem => ?_, Text.not_allBlank_of_isStripped solid stripped,
      stripped⟩, ih fun piece hpiece => hcomma piece (List.mem_cons_of_mem _ hpiece)⟩
    obtain ⟨before, after, -, -, rfl⟩ := padded
    refine hcomma _ List.mem_cons_self ?_
    exact List.mem_append_left _ (List.mem_append_right _ hmem)

theorem isListable_of_lists (h : Lists text list) : ∀ m ∈ list, IsListable m := by
  obtain ⟨pieces, -, hcomma, -, hspells⟩ := h
  exact isListable_of_spells hspells hcomma

/-- Padded markers stand for the markers. -/
theorem spells_of_forall₂ (hlist : ∀ m ∈ list, IsListable m)
    (h : List.Forall₂ (fun m piece => Pads isBlank (String.toList m) piece) list pieces) :
    Spells pieces list := by
  induction h with
  | nil => exact .nil
  | cons padded _ ih =>
    obtain ⟨hm, hrest⟩ := List.forall_mem_cons.1 hlist
    exact .marker (ne_empty_of_not_allBlank hm.solid) hm.stripped padded (ih hrest)

/-- A padded marker holds no comma, which is no blank. -/
theorem notMem_comma_of_pads (hm : IsListable m) (h : Pads isBlank m.toList piece) :
    ',' ∉ piece := by
  have hcomma : isBlank ',' ≠ true := by decide
  obtain ⟨before, after, hbefore, hafter, rfl⟩ := h
  intro hmem
  rcases List.mem_append.1 hmem with hmem | hmem
  · rcases List.mem_append.1 hmem with hmem | hmem
    · exact hcomma (hbefore _ hmem)
    · exact hm.comma hmem
  · exact hcomma (hafter _ hmem)

/-- What is joined from markers that can be listed lists them. -/
theorem lists_of_joins (hsome : list ≠ []) (hlist : ∀ m ∈ list, IsListable m)
    (h : Joins text list) : Lists text list := by
  obtain ⟨pieces, hpads, htext⟩ := h
  refine ⟨pieces, ?_, fun piece hpiece => ?_, htext, spells_of_forall₂ hlist hpads⟩
  · rintro rfl
    cases hpads
    exact hsome rfl
  · obtain ⟨i, hi, rfl⟩ := List.getElem_of_mem hpiece
    have hlength := hpads.length_eq
    exact notMem_comma_of_pads (hlist _ (List.getElem_mem (by omega)))
      (hpads.get (by omega) hi)

/-- Markers with a comma and nothing else between each two are joined. -/
theorem joins_intercalate (list : List String) : Joins (",".intercalate list) list := by
  refine ⟨list.map String.toList, ?_, String.toList_intercalate ..⟩
  rw [List.forall₂_map_right_iff]
  exact List.forall₂_same.2 fun m _ => Text.pads_self isBlank m.toList

/-! ### What is read -/

theorem readMarkers_of_lists (h : Lists text list) : readMarkers (.str text) = nonempty list := by
  rw [readMarkers, lists_iff.1 h]

theorem readMarkers_of_list (list : List String) :
    readMarkers (.arr (list.map .str)) = nonempty list := by
  rw [readMarkers, readItems_strings]
  rfl

end Kind

/-! ### What is loaded -/

namespace Sources

variable {s s' : Sources} {f : Field} {text : String} {list : List String}

/-- Two sources give the same for every field but one. -/
def AgreeBut (f : Field) (s s' : Sources) : Prop :=
  ∀ g, g ≠ f → ∀ t?, s'.Takes g t? ↔ s.Takes g t?

/-- Sources that agree on all other fields lead to the same if the field has the same value. -/
theorem load_of_agreeBut (hagree : AgreeBut f s s') (hvalue : s'.value f = s.value f) :
    s'.load = s.load := by
  refine load_congr_value fun g => ?_
  by_cases hg : g = f
  · subst hg
    exact hvalue
  · exact value_congr (takes_iff.1 ((hagree g hg _).2 (takes_iff.2 rfl)))

theorem value_of_takes {t : Json} (h : s.Takes f (some t)) : s.value f = f.kind.read t := by
  unfold value
  rw [takes_iff.1 h]

theorem value_markers_of_text (taken : s.Takes .markers (some (.str text)))
    (h : Kind.Lists text list) : s.value .markers = Kind.nonempty list :=
  (value_of_takes taken).trans (Kind.readMarkers_of_lists h)

theorem value_markers_of_list (taken : s.Takes .markers (some (.arr (list.map .str)))) :
    s.value .markers = Kind.nonempty list :=
  (value_of_takes taken).trans (Kind.readMarkers_of_list list)

/-- If all other fields are accepted, so are the settings once the field is. -/
theorem exists_load_of_value (hothers : ∀ g, g ≠ f → ∃ a, s.ComesTo g (.ok a))
    {a : f.kind.Value} (h : s.value f = .ok a) : ∃ v, s.load = .ok v ∧ v f = a := by
  have hall (g : Field) : ∃ a, s.ComesTo g (.ok a) := by
    by_cases hg : g = f
    · subst hg
      exact ⟨a, comesTo_iff.2 h⟩
    · exact hothers g hg
  refine ⟨s.valueOrDefault, load_eq_ok_iff.2 ⟨allIssues_eq_nil_iff.2 hall, rfl⟩, ?_⟩
  unfold valueOrDefault
  rw [h]

/-- If all other fields are accepted, that there are no markers is the one issue. -/
theorem load_of_noMarkers (hothers : ∀ g, g ≠ .markers → ∃ a, s.ComesTo g (.ok a))
    (h : s.value .markers = .error [(none, .noMarkers)]) :
    s.load = .error [⟨Field.markers.name, none, .noMarkers⟩] := by
  let reasons (g : Field) : Kind.Refusal := if g = .markers then [(none, .noMarkers)] else []
  refine load_eq_error_iff.2 ⟨⟨.markers, _, comesTo_iff.2 h⟩, reasons, fun g => ?_, rfl⟩
  by_cases hg : g = .markers
  · subst hg
    exact .inr ⟨comesTo_iff.2 h, List.cons_ne_nil _ _⟩
  · exact .inl ⟨hothers g hg, if_neg hg⟩

/-- **Markers in one text.**  A text that is given for the markers, in whichever source, lists one
list of markers: those that the pieces between its commas stand for.  Settings that are accepted
have these markers, and there is at least one; if all other fields are accepted, the settings are
refused iff there is none.  They are the same settings if the markers themselves are given instead
of the text, or any text that is joined from them, be it with commas alone.  A text that is joined
from markers that can be listed lists these, and only such markers are listed by any text. -/
theorem markers_of_text (taken : s.Takes .markers (some (.str text))) :
    ∃ list : List String,
      (∀ other, Kind.Lists text other ↔ other = list) ∧
      (∀ v, s.load = .ok v → list ≠ [] ∧ (v .markers : List String) = list) ∧
      ((∀ f, f ≠ .markers → ∃ a, s.ComesTo f (.ok a)) →
        (list = [] → s.load = .error [⟨Field.markers.name, none, .noMarkers⟩]) ∧
        (list ≠ [] → ∃ v, s.load = .ok v ∧ (v .markers : List String) = list)) ∧
      (∀ s', AgreeBut .markers s s' → s'.Takes .markers (some (.arr (list.map .str))) →
        s'.load = s.load) ∧
      (list ≠ [] → Kind.Joins (",".intercalate list) list ∧
        ∀ again, Kind.Joins again list → Kind.readMarkers (.str again) = .ok list ∧
          ∀ s', AgreeBut .markers s s' → s'.Takes .markers (some (.str again)) →
            s'.load = s.load) ∧
      (∀ markers, markers ≠ [] → (∀ m ∈ markers, Kind.IsListable m) → Kind.Joins text markers →
        markers = list) ∧
      ∀ m ∈ list, Kind.IsListable m := by
  obtain ⟨list, hlists⟩ : ∃ list, Kind.Lists text list := ⟨_, Kind.lists_iff.2 rfl⟩
  have unique (other : List String) : Kind.Lists text other ↔ other = list := by
    rw [Kind.lists_iff, Kind.lists_iff.1 hlists, eq_comm]
  have hvalue : s.value .markers = Kind.nonempty list := value_markers_of_text taken hlists
  have listable := Kind.isListable_of_lists hlists
  refine ⟨list, unique, fun v hload => ?_, fun hothers => ⟨?_, fun hsome => ?_⟩,
    fun s' hagree hlist => ?_, fun hsome => ⟨Kind.joins_intercalate list, fun again hagain => ?_⟩,
    fun markers hsome hmarkers hjoins => ?_, listable⟩
  · have hcomes : s.ComesTo .markers (.ok (v .markers)) := load_eq_ok_iff_comesTo.1 hload .markers
    obtain ⟨hsome, hsame⟩ := Kind.nonempty_eq_ok.1 (hvalue.symm.trans (comesTo_iff.1 hcomes))
    exact ⟨hsome, hsame.symm⟩
  · rintro rfl
    exact load_of_noMarkers hothers hvalue
  · exact exists_load_of_value hothers (hvalue.trans (Kind.nonempty_eq_ok.2 ⟨hsome, rfl⟩))
  · exact load_of_agreeBut hagree ((value_markers_of_list hlist).trans hvalue.symm)
  · -- what the markers are joined to lists the same markers
    have hagain := Kind.lists_of_joins hsome listable hagain
    refine ⟨(Kind.readMarkers_of_lists hagain).trans (Kind.nonempty_eq_ok.2 ⟨hsome, rfl⟩),
      fun s' hagree htaken => ?_⟩
    exact load_of_agreeBut hagree ((value_markers_of_text htaken hagain).trans hvalue.symm)
  · exact (unique markers).1 (Kind.lists_of_joins hsome hmarkers hjoins)

/-- Two markers between blanks of several kinds are read from the environment.  The settings are
those of a caller who gives the two as a list, and of a file in which a comma alone stands between
them. -/
theorem markers_of_text_between_blanks :
    let text := "\u3000Hello World ,\x1c Goodbye world\x0b"
    let markers := ["Hello World", "Goodbye world"]
    let s : Sources := { environ := [("Irc_Harness_Expected_Markers", text)] }
    let caller : Sources := { overrides := [("expected_markers", .arr (markers.map .str))] }
    let file : Sources := { file := some "IRC_HARNESS_EXPECTED_MARKERS=Hello World,Goodbye world" }
    s.Takes .markers (some (.str text)) ∧ Kind.Joins text markers ∧
      (∃ v, s.load = .ok v ∧ (v .markers : List String) = markers) ∧
      caller.load = s.load ∧ file.load = s.load := by
  intro text markers s caller file
  have taken : s.Takes .markers (some (.str text)) :=
    .environ (fun _ h => nomatch h) ⟨[], _, [], rfl, by decide +kernel, fun _ h => nomatch h⟩
  have given : caller.Takes .markers (some (.arr (markers.map .str))) :=
    .caller ⟨[], _, [], rfl, caller.naming.means_name .markers, fun _ h => nomatch h⟩
  have assigned : file.Takes .markers (some (.str (",".intercalate markers))) :=
    .file (fun _ h => nomatch h) (fun _ h => nomatch h)
      ⟨[], "IRC_HARNESS_EXPECTED_MARKERS", [], by decide +kernel, by decide +kernel,
        fun _ h => nomatch h⟩
  have first : Pads isBlank "Hello World".toList "\u3000Hello World ".toList :=
    ⟨['\u3000'], [' '], List.all_eq_true.1 rfl, List.all_eq_true.1 rfl, by decide⟩
  have second : Pads isBlank "Goodbye world".toList "\x1c Goodbye world\x0b".toList :=
    ⟨['\x1c', ' '], ['\x0b'], List.all_eq_true.1 rfl, List.all_eq_true.1 rfl, by decide⟩
  have joins : Kind.Joins text markers := ⟨_, .cons first (.cons second .nil), by decide⟩
  have listable : ∀ m ∈ markers, Kind.IsListable m := by
    refine List.forall_mem_cons.2 ⟨?_, List.forall_mem_singleton.2 ?_⟩
    · exact ⟨by decide, by decide, by decide⟩
    · exact ⟨by decide, by decide, by decide⟩
  have unnamed : ∀ f ∈ Field.all, f ≠ .markers → (s.given? f).isNone = true ∧
      (caller.given? f).isNone = true ∧ (file.given? f).isNone = true := by decide +kernel
  have none_of_isNone {s : Sources} {f : Field} (h : (s.given? f).isNone = true) :
      s.Takes f none := takes_iff.2 (Option.isNone_iff_eq_none.1 h)
  obtain ⟨list, -, -, hloads, hlist, hagain, hjoined, -⟩ := markers_of_text taken
  obtain rfl : markers = list := hjoined markers (by decide) listable joins
  have again := (hagain (by decide)).2 _ (Kind.joins_intercalate markers)
  refine ⟨taken, joins, (hloads fun f hf => ?_).2 (by decide),
    hlist caller (fun f hf t? => ?_) given, again.2 file (fun f hf t? => ?_) assigned⟩
  · exact ⟨_, .default (none_of_isNone (unnamed f f.mem_all hf).1)⟩
  · obtain ⟨hnone, hcaller, -⟩ := unnamed f f.mem_all hf
    rw [takes_iff, takes_iff, takes_iff.1 (none_of_isNone hnone),
      takes_iff.1 (none_of_isNone hcaller)]
  · obtain ⟨hnone, -, hfile⟩ := unnamed f f.mem_all hf
    rw [takes_iff, takes_iff, takes_iff.1 (none_of_isNone hnone),
      takes_iff.1 (none_of_isNone hfile)]

end Sources
end ClientTrial
