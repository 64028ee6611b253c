import ClientTrial.Route

/-!
# Routes and their texts

A route that was read from a path is written as a path without redundancy.  Reading
that path again gives the same route, so that a path need not be kept to know where it
leads.

## Main definitions

* `Route.IsPlain` — a route of which nothing gets lost when it is written.

## Main results

* `Text.splitOn_eq`, `Text.notMem_of_mem_splitOn` — the pieces between separators.
* `Route.isPlain_ofText` — what is read from a path is plain.
* `Route.ofText_text` — a plain route is what its text denotes.
-/

namespace ClientTrial

/-! ### The pieces between separators -/

namespace Text

/-- The pieces of a text are those of the library. -/
theorem splitOn_eq (sep : Char) (s : List Char) : splitOn sep s = List.splitOn sep s := by
  induction s with
  | nil => rfl
  | cons c rest ih =>
    rw [splitOn, List.splitOn_cons_eq_if_modifyHead, ← ih]
    by_cases hc : c = sep
    · simp [hc]
    · rw [if_neg hc, if_neg (by simpa using hc)]
      rcases hrest : splitOn sep rest with _ | ⟨piece, pieces⟩
      · exact absurd hrest (splitOn_ne_nil sep rest)
      · rfl

/-- No piece holds a separator. -/
theorem notMem_of_mem_splitOn {sep : Char} {s piece : List Char} (h : piece ∈ splitOn sep s) :
    sep ∉ piece := by
  induction s generalizing piece with
  | nil =>
    obtain rfl := List.mem_singleton.1 h
    exact List.not_mem_nil
  | cons c rest ih =>
    rw [splitOn] at h
    split at h
    · rcases List.mem_cons.1 h with rfl | h
      · exact List.not_mem_nil
      · exact ih h
    · next hc =>
      split at h
      · next hnil => exact absurd hnil (splitOn_ne_nil sep rest)
      · next first pieces hrest =>
        rw [hrest] at ih
        rcases List.mem_cons.1 h with rfl | h
        · refine List.not_mem_cons_of_ne_of_not_mem (Ne.symm hc) ?_
          exact ih (List.mem_cons_self ..)
        · exact ih (List.mem_cons_of_mem _ h)

/-- Separators at the start stand for as many pieces without a character. -/
theorem splitOn_replicate_append (sep : Char) (n : Nat) (s : List Char) :
    splitOn sep (List.replicate n sep ++ s) = List.replicate n [] ++ splitOn sep s := by
  induction n with
  | zero => rfl
  | succ n ih => simp [List.replicate_succ, splitOn, ih]

end Text

/-! ### Routes -/

namespace Route

/-- A route of which nothing gets lost when it is written: it has at most two separators at the
start, and each of its parts says something and holds no separator. -/
structure IsPlain (r : Route) : Prop where
  slashes : r.slashes ≤ 2
  parts : ∀ part ∈ r.parts, isPart part.toList = true ∧ '/' ∉ part.toList

theorem leading_le (s : List Char) : leading s ≤ 2 := by
  unfold leading
  split <;> decide

/-- What is read from a path is plain. -/
theorem isPlain_ofText (path : String) : (ofText path).IsPlain := by
  refine ⟨leading_le _, fun part hpart => ?_⟩
  obtain ⟨piece, hpiece, rfl⟩ := List.mem_map.1 hpart
  obtain ⟨hmem, hsolid⟩ := List.mem_filter.1 hpiece
  rw [String.toList_ofList]
  exact ⟨hsolid, Text.notMem_of_mem_splitOn hmem⟩

variable {r : Route}

/-- The characters of a route that is written. -/
theorem toList_text (h : ¬(r.slashes = 0 ∧ r.parts = [])) :
    r.text.toList =
      List.replicate r.slashes '/' ++ ['/'].intercalate (r.parts.map String.toList) := by
  unfold text
  rw [if_neg h, String.toList_append, String.toList_ofList, String.toList_intercalate]
  rfl

/-- A part that says something does not begin with a separator if it holds none. -/
theorem takeWhile_intercalate (h : r.IsPlain) :
    (['/'].intercalate (r.parts.map String.toList)).takeWhile (· = '/') = [] := by
  rcases hparts : r.parts with _ | ⟨first, rest⟩
  · rfl
  obtain ⟨hsolid, hnone⟩ := h.parts first (by rw [hparts]; exact List.mem_cons_self ..)
  rcases hfirst : first.toList with _ | ⟨c, cs⟩
  · rw [hfirst] at hsolid
    cases hsolid
  have hc : c ≠ '/' := by
    rintro rfl
    rw [hfirst] at hnone
    exact hnone (List.mem_cons_self ..)
  cases rest with
  | nil => simp [hfirst, hc]
  | cons second others => simp [List.intercalate_cons_cons, hfirst, hc]

theorem leading_text (h : r.IsPlain) (hne : ¬(r.slashes = 0 ∧ r.parts = [])) :
    leading r.text.toList = r.slashes := by
  have hrun : (r.text.toList.takeWhile (· = '/')).length = r.slashes := by
    rw [toList_text hne, List.takeWhile_append_of_pos (by simp), takeWhile_intercalate h]
    simp
  have hslashes := h.slashes
  unfold leading
  rw [hrun]
  rcases hs : r.slashes with _ | _ | _ | n
  · rfl
  · rfl
  · rfl
  · omega

theorem parts_text (h : r.IsPlain) (hne : ¬(r.slashes = 0 ∧ r.parts = [])) :
    ((Text.splitOn '/' r.text.toList).filter isPart).map String.ofList = r.parts := by
  have hpieces : (Text.splitOn '/' (['/'].intercalate (r.parts.map String.toList))).filter isPart =
      r.parts.map String.toList := by
    rcases hparts : r.parts with _ | ⟨first, rest⟩
    · rfl
    have hall : ∀ piece ∈ r.parts.map String.toList, isPart piece = true ∧ '/' ∉ piece := by
      intro piece hpiece
      obtain ⟨part, hpart, rfl⟩ := List.mem_map.1 hpiece
      exact h.parts part hpart
    rw [Text.splitOn_eq, ← hparts, List.splitOn_intercalate '/' (fun piece hp => (hall piece hp).2)
      (by simp [hparts])]
    exact List.filter_eq_self.2 fun piece hp => (hall piece hp).1
  rw [toList_text hne, Text.splitOn_replicate_append, List.filter_append, hpieces,
    List.filter_eq_nil_iff.2 (by simp [isPart]), List.nil_append, List.map_map]
  simp [Function.comp_def]

/-- A plain route is what its text denotes. -/
theorem ofText_text (h : r.IsPlain) : ofText r.text = r := by
  by_cases hne : r.slashes = 0 ∧ r.parts = []
  · obtain ⟨slashes, parts⟩ := r
    obtain ⟨rfl, rfl⟩ := hne
    decide
  · unfold ofText
    rw [leading_text h hne, parts_text h hne]

end Route
end ClientTrial
