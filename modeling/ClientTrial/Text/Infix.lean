/-!
# Occurrence of one text in another

A marker is present in a text if it stands there as a contiguous piece.  The
empty marker stands in every text.

## Main definitions

* `occursIn needle hay` — the decision, by trying each position in turn.
* `contains hay needle` — the same on strings.

## Main results

* `occursIn_iff` — `needle` occurs in `hay` iff `hay` is `before ++ needle ++ after`.
-/

namespace ClientTrial
namespace Text

/-- Whether `needle` stands in `hay` as a contiguous piece. -/
def occursIn {α : Type} [BEq α] (needle : List α) : List α → Bool
  | [] => needle.isEmpty
  | c :: rest => needle.isPrefixOf (c :: rest) || occursIn needle rest

theorem occursIn_iff {α : Type} [BEq α] [LawfulBEq α] (needle hay : List α) :
    occursIn needle hay = true ↔ ∃ before after, hay = before ++ needle ++ after := by
  induction hay with
  | nil =>
    simp only [occursIn, List.isEmpty_iff]
    constructor
    · rintro rfl
      exact ⟨[], [], rfl⟩
    · rintro ⟨before, after, h⟩
      have := congrArg List.length h
      simp only [List.length_nil, List.length_append] at this
      exact List.eq_nil_of_length_eq_zero (by omega)
  | cons c rest ih =>
    simp only [occursIn, Bool.or_eq_true, List.isPrefixOf_iff_prefix]
    constructor
    · rintro (⟨after, h⟩ | h)
      · exact ⟨[], after, h.symm⟩
      · obtain ⟨before, after, rfl⟩ := ih.1 h
        exact ⟨c :: before, after, rfl⟩
    · rintro ⟨before, after, h⟩
      cases before with
      | nil => exact .inl ⟨after, h.symm⟩
      | cons b before =>
        simp only [List.cons_append, List.cons.injEq] at h
        exact .inr (ih.2 ⟨before, after, h.2⟩)

/-- Whether the marker `needle` is present in `hay`. -/
def contains (hay needle : String) : Bool := occursIn needle.toList hay.toList

end Text
end ClientTrial
