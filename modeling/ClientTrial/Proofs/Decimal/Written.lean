import ClientTrial.Proofs.Decimal.Shortest

/-!
# How numbers are written

A number is written with a point, with the mark of a power of ten, or with both, never as
digits alone; the digits before the point have no leading zero.  Whichever layout is
chosen, what is read is the numeral that was written, or the same with zeros after its
digits.

## Main definitions

* `IsWhole` — the digits of a whole number.
* `Written` — a text and the numeral that it denotes.

## Main results

* `Written.unsigned?` — what is written is read.
* `written_numeral` — every layout is of this form.
* `written_render` — **the text of a finite number is read as that number**.
-/

namespace ClientTrial
namespace Decimal

/-! ### Whole numbers -/

/-- The digits of a whole number: a zero, or digits that do not start with a zero. -/
inductive IsWhole : List Char → Prop
  | zero : IsWhole ['0']
  | leading {d : ℕ} {rest : List Char} (hpos : 0 < d) (hlt : d < 10) (hrest : AreDigits rest) :
    IsWhole (Char.ofNat (48 + d) :: rest)

theorem IsWhole.areDigits {s : List Char} (h : IsWhole s) : AreDigits s := by
  cases h with
  | zero => exact areDigits_zeros 1
  | leading hpos hlt hrest => exact (areDigits_digit hlt).append hrest

theorem IsWhole.ne_nil {s : List Char} (h : IsWhole s) : s ≠ [] := by
  cases h with
  | zero => exact List.cons_ne_nil _ _
  | leading => exact List.cons_ne_nil _ _

/-- The first digits of a whole number. -/
theorem IsWhole.take {s : List Char} (h : IsWhole s) {k : ℕ} (hk : 0 < k) : IsWhole (s.take k) := by
  obtain ⟨k, rfl⟩ := Nat.exists_eq_succ_of_ne_zero hk.ne'
  cases h with
  | zero => rw [List.take_succ_cons, List.take_nil]; exact .zero
  | leading hpos hlt hrest =>
    rw [List.take_succ_cons]
    exact .leading hpos hlt fun c hc => hrest c (List.mem_of_mem_take hc)

/-- The digits of a positive number, with more digits after them. -/
theorem isWhole_digits_append {n : ℕ} (hpos : 0 < n) {t : List Char} (ht : AreDigits t) :
    IsWhole (digits n ++ t) := by
  induction n using Nat.strongRecOn generalizing t with
  | _ n ih =>
    rcases Nat.lt_or_ge n 10 with h | h
    · rw [digits_of_lt h]
      exact .leading hpos h ht
    · rw [digits_of_le h, List.append_assoc]
      exact ih (n / 10) (by omega) (by omega)
        ((areDigits_digit (Nat.mod_lt n (by decide))).append ht)

theorem isWhole_digits (n : ℕ) : IsWhole (digits n) := by
  rcases Nat.eq_zero_or_pos n with rfl | hpos
  · rw [digits_of_lt (by decide)]
    exact .zero
  · rw [← List.append_nil (digits n)]
    exact isWhole_digits_append hpos (fun _ h => nomatch h)

/-! ### Numerals -/

/-- A text and the numeral that it denotes. -/
inductive Written : List Char → Numeral → Prop
  /-- With a point, and digits on both sides of it. -/
  | pointed {whole fraction : List Char} {n : ℕ} (hwhole : IsWhole whole) (hne : fraction ≠ [])
    (hfraction : AreDigits fraction) (hn : ofDigits? (whole ++ fraction) = some n) :
    Written (whole ++ '.' :: fraction) ⟨n, -fraction.length⟩
  /-- With the mark of a power of ten. -/
  | marked {whole : List Char} {n : ℕ} (hwhole : IsWhole whole) (hn : ofDigits? whole = some n)
    (power : ℤ) : Written (whole ++ exponentMark power) ⟨n, power⟩
  /-- With both. -/
  | both {whole fraction : List Char} {n : ℕ} (hwhole : IsWhole whole) (hne : fraction ≠ [])
    (hfraction : AreDigits fraction) (hn : ofDigits? (whole ++ fraction) = some n) (power : ℤ) :
    Written (whole ++ '.' :: (fraction ++ exponentMark power)) ⟨n, power - fraction.length⟩

theorem span_append {p : Char → Bool} {s rest : List Char} (hs : ∀ c ∈ s, p c = true)
    (hrest : ∀ c ∈ rest.head?, p c = false) : (s ++ rest).span p = (s, rest) := by
  rw [List.span_eq_takeWhile_dropWhile, List.takeWhile_append_of_pos hs,
    List.dropWhile_append_of_pos hs]
  cases rest with
  | nil => simp
  | cons c rest => simp [hrest c rfl]

theorem takeDigits_append {s rest : List Char} (hs : AreDigits s)
    (hrest : ∀ c ∈ rest.head?, (digit? c).isSome = false) : takeDigits (s ++ rest) = (s, rest) :=
  span_append hs hrest

theorem takeDigits_self {s : List Char} (hs : AreDigits s) : takeDigits s = (s, []) := by
  have hnil := takeDigits_append hs (fun _ h => nomatch (h : _ ∈ ([] : List Char).head?))
  rwa [List.append_nil] at hnil

theorem exponent?_exponentMark (power : ℤ) : exponent? (exponentMark power) = some power := by
  have hread : ofDigits? (padded 2 power.natAbs) = some power.natAbs := ofDigits?_padded 2 _
  by_cases hneg : power < 0
  · have hmark : exponentMark power = 'e' :: '-' :: padded 2 power.natAbs := by
      unfold exponentMark
      rw [if_pos hneg]
    rw [hmark, exponent?, if_pos (.inl rfl)]
    simp only [hread]
    change some (-(power.natAbs : ℤ)) = some power
    congr 1
    omega
  · have hmark : exponentMark power = 'e' :: '+' :: padded 2 power.natAbs := by
      unfold exponentMark
      rw [if_neg hneg]
    rw [hmark, exponent?, if_pos (.inl rfl)]
    simp only [hread]
    change some (power.natAbs : ℤ) = some power
    congr 1
    omega

/-- Digits on both sides of a point are read. -/
theorem unsigned?_pointed {s after whole fraction rest : List Char} {n : ℕ} {power : ℤ}
    (hs : takeDigits s = (whole, '.' :: after)) (hafter : takeDigits after = (fraction, rest))
    (hn : ofDigits? (whole ++ fraction) = some n) (hpower : exponent? rest = some power) :
    unsigned? s = some ⟨n, power - fraction.length⟩ := by
  unfold unsigned?
  rw [hs]
  simp only [hafter, hn, hpower]
  rfl

/-- Digits before the mark of a power of ten are read. -/
theorem unsigned?_marked {s whole rest : List Char} {n : ℕ} {power : ℤ}
    (hs : takeDigits s = (whole, 'e' :: rest)) (hn : ofDigits? whole = some n)
    (hpower : exponent? ('e' :: rest) = some power) : unsigned? s = some ⟨n, power⟩ := by
  unfold unsigned?
  rw [hs]
  simp [hn, hpower]

/-- What is written is read. -/
theorem Written.unsigned? {s : List Char} {x : Numeral} (h : Written s x) :
    Decimal.unsigned? s = some x := by
  have hpoint : ∀ rest : List Char, ∀ c ∈ ('.' :: rest).head?, (digit? c).isSome = false := by
    rintro rest c ⟨⟩
    rfl
  have hmark : ∀ power, ∀ c ∈ (exponentMark power).head?, (digit? c).isSome = false := by
    rintro power c ⟨⟩
    rfl
  cases h with
  | pointed hwhole hne hfraction hn =>
    rw [unsigned?_pointed (takeDigits_append hwhole.areDigits (hpoint _))
      (takeDigits_self hfraction) hn rfl, zero_sub]
  | marked hwhole hn power =>
    exact unsigned?_marked (takeDigits_append hwhole.areDigits (hmark power)) hn
      (exponent?_exponentMark power)
  | both hwhole hne hfraction hn power =>
    exact unsigned?_pointed (takeDigits_append hwhole.areDigits (hpoint _))
      (takeDigits_append hfraction (hmark power)) hn (exponent?_exponentMark power)

/-! ### The layouts -/

section Layouts

variable {y : Numeral}

/-- One digit, perhaps with more after a point, before the mark of a power of ten. -/
theorem written_marked (y : Numeral) {power : ℤ}
    (hpower : power = y.exponent + (digits y.coefficient).length - 1) :
    Written (match digits y.coefficient with
      | [] => []
      | [d] => d :: exponentMark power
      | d :: more => d :: '.' :: more ++ exponentMark power) y := by
  have hread := ofDigits?_digits y.coefficient
  have hwhole := isWhole_digits y.coefficient
  have hdigits := areDigits_digits y.coefficient
  match hds : digits y.coefficient with
  | [] => exact absurd hds (digits_ne_nil _)
  | [d] =>
    rw [hds] at hread hwhole hpower
    rw [List.length_singleton, Nat.cast_one, add_sub_cancel_right] at hpower
    subst hpower
    exact .marked hwhole hread y.exponent
  | d :: c :: more =>
    rw [hds] at hread hwhole hpower hdigits
    have hexponent : y.exponent = power - (c :: more).length := by
      rw [List.length_cons] at hpower
      omega
    change Written _ ⟨y.coefficient, y.exponent⟩
    rw [hexponent]
    exact .both (hwhole.take Nat.one_pos) (List.cons_ne_nil _ _)
      (fun x hx => hdigits x (List.mem_cons_of_mem d hx)) hread power

/-- Zeros between the point and the digits. -/
theorem written_small {power : ℤ} (hneg : power < 0)
    (hpower : power = y.exponent + (digits y.coefficient).length - 1) :
    Written ('0' :: '.' :: List.replicate (-power - 1).toNat '0' ++ digits y.coefficient) y := by
  have hexponent : y.exponent =
      -(List.replicate (-power - 1).toNat '0' ++ digits y.coefficient).length := by
    rw [List.length_append, List.length_replicate]
    omega
  change Written _ ⟨y.coefficient, y.exponent⟩
  rw [hexponent]
  refine .pointed .zero (List.append_ne_nil_of_right_ne_nil _ (digits_ne_nil _))
    ((areDigits_zeros _).append (areDigits_digits _)) ?_
  exact ofDigits?_zeros_digits ((-power - 1).toNat + 1) y.coefficient

/-- A point among the digits. -/
theorem written_among {k : ℕ} (hk : 0 < k)
    (hpoint : y.exponent = k - (digits y.coefficient).length) (hneg : y.exponent < 0) :
    Written ((digits y.coefficient).take k ++ '.' :: (digits y.coefficient).drop k) y := by
  have hexponent : y.exponent = -((digits y.coefficient).drop k).length := by
    rw [List.length_drop]
    omega
  change Written _ ⟨y.coefficient, y.exponent⟩
  rw [hexponent]
  refine .pointed ((isWhole_digits _).take hk) ?_ ?_ ?_
  · rw [ne_eq, List.drop_eq_nil_iff]
    omega
  · exact fun c hc => areDigits_digits _ c (List.mem_of_mem_drop hc)
  · rw [List.take_append_drop]
    exact ofDigits?_digits _

/-- Zeros between the digits and the point. -/
theorem written_large (hpos : 0 < y.coefficient) {k : ℕ} (hk : y.exponent = k) :
    Written (digits y.coefficient ++ List.replicate k '0' ++ ['.', '0']) (y.withZeros (k + 1)) := by
  have hsame : y.withZeros (k + 1) =
      ⟨y.coefficient * 10 ^ (k + 1), -(['0'] : List Char).length⟩ := by
    unfold Numeral.withZeros
    congr 1
    rw [hk, List.length_singleton]
    omega
  rw [hsame]
  refine .pointed (isWhole_digits_append hpos (areDigits_zeros k)) (List.cons_ne_nil _ _)
    (areDigits_zeros 1) ?_
  rw [List.append_assoc, ← List.replicate_succ']
  exact ofDigits?_digits_zeros y.coefficient (k + 1)

/-- Every layout is of this form. -/
theorem written_numeral (hpos : 0 < y.coefficient) {fmt : FloatFormat} (hkeep : fmt.keepPoint) :
    ∃ k, Written (fmt.numeral y) (y.withZeros k) := by
  have hnone : y.withZeros 0 = y := by simp [Numeral.withZeros]
  unfold FloatFormat.numeral
  dsimp only
  rw [if_neg hpos.ne', if_pos hkeep]
  split
  · exact ⟨0, by rw [hnone]; exact written_marked y rfl⟩
  · split
    · next hneg => exact ⟨0, by rw [hnone]; exact written_small hneg rfl⟩
    · split
      · next hneg => exact ⟨0, by rw [hnone]; exact written_among (by omega) (by omega) hneg⟩
      · exact ⟨_, written_large hpos (by omega)⟩

end Layouts

/-- A magnitude and its sign make the number. -/
theorem eq_of_abs {x : Float} {negative : Bool} {s : ℕ} {e : ℤ}
    (hx : Binary.ofFloat x = .finite negative s e) (hpos : 0 < s) :
    (if negative then -x.abs else x.abs) = x := by
  have habs := Binary.ofFloat_abs hx hpos
  cases negative with
  | false => exact Binary.eq_of_ofFloat habs hx
  | true => exact Binary.eq_of_ofFloat (Binary.ofFloat_neg habs hpos) hx

/-- **The text of a finite number is read as that number.** -/
theorem written_render (fmt : FloatFormat) (hkeep : fmt.keepPoint) {x : Float} {negative : Bool}
    {s : ℕ} {e : ℤ} (hx : Binary.ofFloat x = .finite negative s e) :
    ∃ body y, (fmt.render x).toList = (if negative then ['-'] else []) ++ body ∧ Written body y ∧
      (if negative then -y.toFloat else y.toFloat) = x := by
  unfold FloatFormat.render
  rw [hx]
  dsimp only
  rw [String.toList_ofList]
  rcases Nat.eq_zero_or_pos s with rfl | hpos
  · rw [if_pos rfl]
    refine ⟨_, ⟨0, -1⟩, rfl, ?_, ?_⟩
    · unfold FloatFormat.numeral
      rw [if_pos rfl, if_pos hkeep]
      exact .pointed .zero (List.cons_ne_nil _ _) (areDigits_zeros 1) (by decide)
    · exact (Binary.eq_zero_of_ofFloat hx).symm
  · rw [if_neg hpos.ne']
    obtain ⟨hreach, hread⟩ := toFloat_shortest (Binary.ofFloat_abs hx hpos) hpos
    obtain ⟨k, hwritten⟩ := written_numeral hreach.positive hkeep
    refine ⟨_, _, rfl, hwritten, ?_⟩
    rw [Numeral.toFloat_congr (Numeral.inReach_withZeros.2 hreach) hreach
      (Numeral.value_withZeros _ k), hread]
    exact eq_of_abs hx hpos

end Decimal
end ClientTrial
