import ClientTrial.Decimal.Literal
import ClientTrial.Proofs.Decimal.Digits
import Mathlib.Data.List.TakeWhile

/-!
# Whole numbers written in digits

A text of digits and nothing else is a literal for the number that the digits denote.  What
is done about white space, signs, underscores and other scripts leaves it alone.  Only a
number that has too many digits is not read at all.

## Main results

* `Decimal.oversize?_of_digits` — when a text of digits has too many of them.
* `Decimal.whole?_of_digits` — the number that a text of digits is read as.
-/

namespace ClientTrial

/-! ### Digits are left alone -/

/-- Nothing is stripped from a text without characters of the set. -/
theorem Text.trim_eq_self {p : Char → Bool} {s : List Char} (h : ∀ c ∈ s, p c = false) :
    Text.trim p s = s := by
  have kept {l : List Char} (hl : ∀ c ∈ l, p c = false) : l.dropWhile p = l := by
    cases l with
    | nil => rfl
    | cons c rest => exact List.dropWhile_cons_of_neg (by simp [hl c List.mem_cons_self])
  unfold Text.trim
  rw [kept h, kept fun c hc => h c (List.mem_reverse.1 hc), List.reverse_reverse]

namespace Decimal

variable {c : Char} {s : List Char}

theorem isSome_digit?_iff : (digit? c).isSome = true ↔ 48 ≤ c.toNat ∧ c.toNat ≤ 57 := by
  unfold digit?
  split
  · next h => exact iff_of_true rfl h
  · next h => exact iff_of_false Bool.false_ne_true h

theorem ne_of_isSome_digit? (h : (digit? c).isSome = true) {other : Char}
    (hother : (digit? other).isSome = false) : c ≠ other := by
  rintro rfl
  rw [h] at hother
  cases hother

theorem isSpace_of_isSome_digit? (h : (digit? c).isSome = true) : Text.isSpace c = false := by
  obtain ⟨hlow, hhigh⟩ := isSome_digit?_iff.1 h
  simp only [Text.isSpace, Bool.or_eq_false_iff, Bool.and_eq_false_iff, decide_eq_false_iff_not,
    beq_eq_false_iff_ne]
  omega

theorem toAscii_of_isSome_digit? (h : (digit? c).isSome = true) : toAscii c = c := by
  obtain ⟨hlow, hhigh⟩ := isSome_digit?_iff.1 h
  have hvalue : Text.digitValue? c = some (c.toNat - 48) := by
    unfold Text.digitValue? Text.zeros
    rw [List.find?_cons_of_pos (by simpa using ⟨hlow, by omega⟩)]
    rfl
  unfold toAscii
  rw [hvalue]
  dsimp only
  rw [Nat.add_sub_cancel' hlow, Char.ofNat_toNat]

theorem plain_of_digits {text : String} (h : AreDigits text.toList) : plain text = text.toList := by
  unfold plain
  rw [Text.trim_eq_self fun c hc => isSpace_of_isSome_digit? (h c hc),
    List.map_congr_left fun c hc => toAscii_of_isSome_digit? (h c hc), List.map_id']

theorem joinedFrom?_of_digits (h : AreDigits s) (inside : Bool) :
    joinedFrom? inside s = some s := by
  induction s generalizing inside with
  | nil => rfl
  | cons c rest ih =>
    have hmark : c ≠ '_' := ne_of_isSome_digit? (h c List.mem_cons_self) (by decide)
    rw [joinedFrom?, ih fun d hd => h d (List.mem_cons_of_mem _ hd)]
    · rfl
    all_goals simp [hmark]

theorem unsignedPart_of_digits (h : AreDigits s) : unsignedPart s = s := by
  cases s with
  | nil => rfl
  | cons c rest =>
    have hplus : c ≠ '+' := ne_of_isSome_digit? (h c List.mem_cons_self) (by decide)
    have hminus : c ≠ '-' := ne_of_isSome_digit? (h c List.mem_cons_self) (by decide)
    rw [unsignedPart]
    all_goals simp [hplus, hminus]

theorem signed?_of_digits (h : AreDigits s) : signed? s = (ofDigits? s).map Int.ofNat := by
  cases s with
  | nil => rfl
  | cons c rest =>
    have hplus : c ≠ '+' := ne_of_isSome_digit? (h c List.mem_cons_self) (by decide)
    have hminus : c ≠ '-' := ne_of_isSome_digit? (h c List.mem_cons_self) (by decide)
    rw [signed?]
    all_goals simp [hplus, hminus]

/-! ### What a text of digits is read as -/

theorem areDigits_of_ofDigitsFrom? {acc n : Nat} (h : ofDigitsFrom? acc s = some n) :
    AreDigits s := by
  induction s generalizing acc with
  | nil => exact fun c hc => nomatch hc
  | cons c rest ih =>
    obtain ⟨d, hd, hrest⟩ := Option.bind_eq_some_iff.1 h
    exact List.forall_mem_cons.2 ⟨by rw [hd]; rfl, ih hrest⟩

/-- What denotes a number consists of digits. -/
theorem areDigits_of_ofDigits? {n : Nat} (h : ofDigits? s = some n) : AreDigits s := by
  unfold ofDigits? at h
  split at h
  · cases h
  · exact areDigits_of_ofDigitsFrom? h

variable {text : String}

/-- The digits of a text that has too many of them are counted. -/
theorem oversize?_of_digits (h : AreDigits text.toList) :
    oversize? text = if mostDigits < text.length then some text.length else none := by
  unfold oversize?
  dsimp only
  rw [plain_of_digits h, unsignedPart_of_digits h,
    List.takeWhile_eq_self_iff.2 fun c hc => by rw [h c hc, Bool.true_or], joined?,
    joinedFrom?_of_digits h, Option.map_some, Option.filter_some, String.length_toList]
  simp only [decide_eq_true_eq]

/-- A text of digits is read as the number that they denote, unless there are too many of them. -/
theorem whole?_of_digits {n : Nat} (h : ofDigits? text.toList = some n) :
    whole? text = if mostDigits < text.length then none else some (n : Int) := by
  have hdigits := areDigits_of_ofDigits? h
  unfold whole?
  rw [oversize?_of_digits hdigits, plain_of_digits hdigits, joined?, joinedFrom?_of_digits hdigits,
    Option.bind_some, signed?_of_digits hdigits, h]
  split
  · rfl
  · rfl

end Decimal
end ClientTrial
