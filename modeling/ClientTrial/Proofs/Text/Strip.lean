import Mathlib.Data.List.TakeWhile
import ClientTrial.Proofs.Route

/-!
# Stripping and splitting

What is left of a text that is stripped is the one stripped text that it holds between two
runs of characters of the set.  What a text is split into are the only pieces without a
separator that it is joined from.

## Main definitions

* `Text.IsStripped` — a text that neither begins nor ends with a character of a set.
* `Text.Pads` — a text between two runs of such characters.

## Main results

* `Text.trim_eq_iff` — what stripping leaves.
* `Text.isStripped_iff` — a stripped text is left as it is.
* `Text.not_allBlank_of_isStripped` — a text that is stripped of blanks says something.
* `Text.splitOn_eq_iff` — what splitting yields.
-/

namespace ClientTrial
namespace Text

variable {p : Char → Bool} {s rest padded : List Char}

/-! ### Stripping -/

/-- A text that neither begins nor ends with a character of a set. -/
structure IsStripped (p : Char → Bool) (s : List Char) : Prop where
  head : ∀ c ∈ s.head?, p c = false
  last : ∀ c ∈ s.getLast?, p c = false

/-- A text stands between two runs of characters of a set. -/
def Pads (p : Char → Bool) (s padded : List Char) : Prop :=
  ∃ before after, (∀ c ∈ before, p c = true) ∧ (∀ c ∈ after, p c = true) ∧
    padded = before ++ s ++ after

theorem pads_self (p : Char → Bool) (s : List Char) : Pads p s s :=
  ⟨[], [], by simp, by simp, by simp⟩

theorem dropWhile_of_head (h : ∀ c ∈ s.head?, p c = false) : s.dropWhile p = s := by
  cases s with
  | nil => rfl
  | cons c rest => simp [h c rfl]

theorem head_dropWhile (p : Char → Bool) (s : List Char) :
    ∀ c ∈ (s.dropWhile p).head?, p c = false := by
  intro c hc
  have hnot := List.head?_dropWhile_not p s
  rw [hc] at hnot
  exact hnot

/-- A stripped text is what is left of it once it is padded. -/
theorem trim_of_pads (h : IsStripped p s) (hp : Pads p s padded) : trim p padded = s := by
  obtain ⟨before, after, hbefore, hafter, rfl⟩ := hp
  unfold trim
  rw [List.append_assoc, List.dropWhile_append_of_pos hbefore]
  cases s with
  | nil =>
    rw [List.nil_append, List.dropWhile_eq_nil_iff.2 hafter]
    rfl
  | cons c rest =>
    have hfront : (c :: rest ++ after).dropWhile p = c :: rest ++ after :=
      dropWhile_of_head h.head
    have hback : ∀ d ∈ (c :: rest).reverse.head?, p d = false := by
      rw [List.head?_reverse]
      exact h.last
    rw [hfront, List.reverse_append, List.dropWhile_append_of_pos (by simpa using hafter),
      dropWhile_of_head hback, List.reverse_reverse]

/-- A text that is stripped is what is left, padded. -/
theorem pads_trim (p : Char → Bool) (s : List Char) : Pads p (trim p s) s := by
  refine ⟨s.takeWhile p, ((s.dropWhile p).reverse.takeWhile p).reverse, fun c hc => ?_,
    fun c hc => ?_, ?_⟩
  · exact List.mem_takeWhile_imp hc
  · exact List.mem_takeWhile_imp (List.mem_reverse.1 hc)
  · unfold trim
    rw [List.append_assoc, ← List.reverse_append, List.takeWhile_append_dropWhile,
      List.reverse_reverse, List.takeWhile_append_dropWhile]

theorem isStripped_trim (p : Char → Bool) (s : List Char) : IsStripped p (trim p s) := by
  constructor
  · intro c hc
    -- what is left begins where the text begins once its start is stripped
    have hsplit : s.dropWhile p = trim p s ++ ((s.dropWhile p).reverse.takeWhile p).reverse := by
      unfold trim
      rw [← List.reverse_append, List.takeWhile_append_dropWhile, List.reverse_reverse]
    refine head_dropWhile p s c ?_
    rw [hsplit, List.head?_append, hc]
    rfl
  · unfold trim
    rw [List.getLast?_reverse]
    exact head_dropWhile p _

/-- What stripping leaves is the stripped text that stands between two runs of characters of the
set. -/
theorem trim_eq_iff : trim p padded = s ↔ IsStripped p s ∧ Pads p s padded := by
  constructor
  · rintro rfl
    exact ⟨isStripped_trim p padded, pads_trim p padded⟩
  · rintro ⟨hs, hp⟩
    exact trim_of_pads hs hp

/-- A stripped text is one that stripping leaves as it is. -/
theorem isStripped_iff : IsStripped p s ↔ trim p s = s := by
  constructor
  · intro h
    exact trim_of_pads h (pads_self p s)
  · intro h
    rw [← h]
    exact isStripped_trim p s

instance (p : Char → Bool) (s : List Char) : Decidable (IsStripped p s) :=
  decidable_of_iff (trim p s = s) isStripped_iff.symm

/-- Nothing is left of a text of characters of the set. -/
theorem trim_eq_nil_iff : trim p s = [] ↔ ∀ c ∈ s, p c = true := by
  constructor
  · intro h c hc
    obtain ⟨before, after, hbefore, hafter, hs⟩ := (trim_eq_iff.1 h).2
    rw [hs, List.append_nil] at hc
    exact (List.mem_append.1 hc).elim (hbefore c) (hafter c)
  · intro h
    exact trim_of_pads ⟨by simp, by simp⟩ ⟨s, [], h, by simp, by simp⟩

/-- A text that is stripped of blanks says something if it is not empty. -/
theorem not_allBlank_of_isStripped {m : String} (hsome : m ≠ "")
    (h : IsStripped isBlank m.toList) : allBlank m = false := by
  obtain ⟨c, rest, hm⟩ := List.exists_cons_of_ne_nil (mt String.toList_eq_nil_iff.1 hsome)
  have hc : isBlank c = false := h.head c (by rw [hm]; rfl)
  unfold allBlank
  rw [hm, List.all_cons, hc, Bool.false_and]

/-! ### Splitting -/

/-- A text is split into the pieces without a separator that it is joined from. -/
theorem splitOn_eq_iff {sep : Char} {pieces : List (List Char)} :
    splitOn sep s = pieces ↔
      pieces ≠ [] ∧ (∀ piece ∈ pieces, sep ∉ piece) ∧ s = [sep].intercalate pieces := by
  constructor
  · rintro rfl
    refine ⟨splitOn_ne_nil sep s, fun piece => notMem_of_mem_splitOn, ?_⟩
    rw [splitOn_eq, List.intercalate_splitOn]
  · rintro ⟨hsome, hpieces, rfl⟩
    rw [splitOn_eq, List.splitOn_intercalate sep hpieces hsome]

end Text
end ClientTrial
