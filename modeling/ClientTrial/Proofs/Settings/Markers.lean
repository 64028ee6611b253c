import ClientTrial.Proofs.Settings.NormalForm
import ClientTrial.Proofs.Text.Strip

/-!
# The markers of accepted settings

Markers are given in two ways.  A text is split at its commas, and what is left of a piece
without the blanks around it is a marker unless nothing is left.  A list is taken as it is.
Either way there is at least one marker; but only the markers of a text are known to say
something.  A text may stand in any source, a list comes from the caller alone.

## Main definitions

* `Sources.GivesList` — the caller gives a list for the markers.
* `Sources.IsVacuous` — the caller gives a list of empty texts and nothing else.

## Main results

* `Kind.not_allBlank_of_mem_markersOfText` — a marker of a text says something.
* `Sources.markers_of_load` — the markers of accepted settings.
* `Sources.isVacuous_iff` — when all of them are empty.
-/

namespace ClientTrial

@[simp] theorem Text.allBlank_empty : Text.allBlank "" = true := rfl

/-! ### What is read -/

namespace Kind

/-- A marker of a text says something. -/
theorem not_allBlank_of_mem_markersOfText {s m : String} (h : m ∈ markersOfText s) :
    Text.allBlank m = false := by
  obtain ⟨piece, hpiece, rfl⟩ := List.mem_map.1 h
  obtain ⟨hstripped, hsome⟩ := List.mem_filter.1 hpiece
  obtain ⟨raw, -, rfl⟩ := List.mem_map.1 hstripped
  refine Text.not_allBlank_of_isStripped (by simpa using hsome) ?_
  rw [String.toList_ofList]
  exact Text.isStripped_trim Text.isBlank raw

theorem readText_eq_ok {t : Json} {s : String} : readText t = .ok s ↔ t = .str s := by
  cases t <;> simp [readText]

/-- A list of texts is read as it is, and no other list is. -/
theorem readItems_eq_ok {index : Nat} {items : List Json} {list : List String} :
    readItems index items = .ok list ↔ items = list.map .str := by
  constructor
  · intro h
    induction items generalizing index list with
    | nil =>
      cases h
      rfl
    | cons t rest ih =>
      unfold readItems at h
      split at h
      · next s more hs hmore =>
        cases h
        rw [readText_eq_ok.1 hs, ih hmore]
        rfl
      · cases h
      · cases h
      · cases h
  · rintro rfl
    exact readItems_strings index list

/-- Markers that are read come from a text, and say something, or are those of a list. -/
theorem markers_of_read {t : Json} {list : List String} (h : readMarkers t = .ok list) :
    (∀ m ∈ list, Text.allBlank m = false) ∨ t = .arr (list.map .str) := by
  obtain ⟨-, ⟨s, -, rfl⟩ | ⟨items, rfl, hitems⟩⟩ := readMarkers_eq_ok.1 h
  · exact .inl fun m hm => not_allBlank_of_mem_markersOfText hm
  · exact .inr (congrArg Json.arr (readItems_eq_ok.1 hitems))

end Kind

/-! ### What is loaded -/

namespace Sources

variable {s : Sources} {v : Settings}

/-- The caller gives a list of texts for the markers. -/
def GivesList (s : Sources) (list : List String) : Prop :=
  s.override? .markers = some (.arr (list.map .str))

/-- The caller gives a list for the markers that is not empty but holds nothing but empty texts. -/
def IsVacuous (s : Sources) : Prop := ∃ n, s.GivesList (List.replicate (n + 1) "")

/-- A list comes from the caller: the environment and the file of variables hold texts. -/
theorem override?_of_given?_arr {f : Field} {items : List Json}
    (h : s.given? f = some (.arr items)) : s.override? f = some (.arr items) := by
  rcases Option.or_eq_some_iff.1 h with h | ⟨-, h⟩
  · exact h
  · rcases Option.or_eq_some_iff.1 h with h | ⟨-, h⟩
    · obtain ⟨_, -, h⟩ := Option.map_eq_some_iff.1 h
      cases h
    · obtain ⟨_, -, h⟩ := Option.map_eq_some_iff.1 h
      cases h

/-- **The markers of accepted settings.**  There is at least one.  They all say something, or they
are those of a list that the caller gives. -/
theorem markers_of_load (h : s.load = .ok v) :
    (v .markers : List String) ≠ [] ∧
      ((∀ m ∈ (v .markers : List String), Text.allBlank m = false) ∨
        s.GivesList (v .markers)) := by
  refine ⟨isNormal_of_load h .markers, ?_⟩
  rcases value_of_load h .markers with ⟨-, hdefault⟩ | ⟨t, hgiven, hread⟩
  · rw [hdefault]
    exact .inl (by decide)
  · rcases Kind.markers_of_read hread with hsolid | rfl
    · exact .inl hsolid
    · exact .inr (override?_of_given?_arr hgiven)

/-- The markers of a list are those that are loaded. -/
theorem markers_of_givesList (h : s.load = .ok v) {list : List String} (hlist : s.GivesList list) :
    (v .markers : List String) = list := by
  rcases value_of_load h .markers with ⟨hnone, -⟩ | ⟨t, hgiven, hread⟩
  · rw [given?_of_override hlist] at hnone
    cases hnone
  · rw [given?_of_override hlist] at hgiven
    cases hgiven
    have hread : Kind.readMarkers (.arr (list.map .str)) = .ok (v .markers) := hread
    obtain ⟨-, ⟨_, htext, -⟩ | ⟨_, hitems, hread⟩⟩ := Kind.readMarkers_eq_ok.1 hread
    · cases htext
    · cases hitems
      exact Except.ok.inj (hread.symm.trans (Kind.readItems_strings 0 list))

/-- All markers of accepted settings are empty iff the caller gives a list of empty texts and
nothing else. -/
theorem isVacuous_iff (h : s.load = .ok v) :
    s.IsVacuous ↔ ∀ m ∈ (v .markers : List String), m = "" := by
  obtain ⟨hsome, hmarkers⟩ := markers_of_load h
  constructor
  · rintro ⟨n, hlist⟩
    rw [markers_of_givesList h hlist]
    exact fun m hm => List.eq_of_mem_replicate hm
  · intro hempty
    rcases hmarkers with hsolid | hlist
    · obtain ⟨m, hm⟩ := List.exists_mem_of_ne_nil _ hsome
      have hblank := hsolid m hm
      rw [hempty m hm] at hblank
      cases hblank
    · rw [List.eq_replicate_of_mem hempty] at hlist
      obtain ⟨n, hn⟩ := Nat.exists_eq_succ_of_ne_zero (mt List.length_eq_zero_iff.1 hsome)
      rw [hn] at hlist
      exact ⟨n, hlist⟩

end Sources
end ClientTrial
