import ClientTrial.Proofs.Json.Grammar

/-!
# Trees are read back

What is written of a tree with finite numbers is read as that tree, with the order of its
members and the difference between whole and floating-point numbers kept, on one line or
indented.  The steps that the reader is allowed are always enough.

## Main definitions

* `Json.Reads` — a text is read as a tree wherever it stands.

## Main results

* `Json.number?_intText`, `Json.number?_render` — numbers are read back.
* `Json.reads_render` — **what is written of a tree is read as that tree**.
* `Json.parse?_render` — the whole text denotes the tree.
-/

namespace ClientTrial
namespace Json

open Decimal (AreDigits Written)

/-! ### Numbers -/

theorem ofDigitsFrom?_eq_none {s : List Char} {c : Char} (hc : c ∈ s)
    (hdigit : Decimal.digit? c = none) (acc : Nat) : Decimal.ofDigitsFrom? acc s = none := by
  induction s generalizing acc with
  | nil => cases hc
  | cons d s ih =>
    unfold Decimal.ofDigitsFrom?
    rcases List.mem_cons.1 hc with rfl | hmem
    · rw [hdigit]
      rfl
    · cases Decimal.digit? d with
      | none => rfl
      | some n => exact ih hmem _

/-- A number that is written with a point or a power of ten is not made of digits alone. -/
theorem ofDigits?_of_written {s : List Char} {x : Decimal.Numeral} (h : Written s x) :
    Decimal.ofDigits? s = none := by
  have hmark : ∀ {c : Char}, c ∈ s → Decimal.digit? c = none → Decimal.ofDigits? s = none := by
    intro c hc hdigit
    rw [Decimal.ofDigits?_eq_from (List.ne_nil_of_mem hc)]
    exact ofDigitsFrom?_eq_none hc hdigit 0
  cases h with
  | pointed => exact hmark (c := '.') (by simp) (by decide)
  | marked => exact hmark (c := 'e') (by simp [Decimal.exponentMark]) (by decide)
  | both => exact hmark (c := '.') (by simp) (by decide)

/-- Digits do not start with a sign. -/
theorem number?_of_isWhole {whole : List Char} (h : Decimal.IsWhole whole) (rest : List Char) :
    number? (whole ++ rest) = magnitude? false (whole ++ rest) := by
  have hdigits := h.areDigits
  cases whole with
  | nil => exact absurd rfl h.ne_nil
  | cons c whole =>
    have hne : c ≠ '-' := by
      rintro rfl
      exact absurd (hdigits '-' List.mem_cons_self) (by decide)
    rw [List.cons_append, number?.eq_2]
    intro s hs
    exact hne (List.cons.inj hs).1

theorem magnitude?_digits (negative : Bool) (n : Nat) :
    magnitude? negative (Decimal.digits n) = some (.int (if negative then -(n : Int) else n)) := by
  rw [magnitude?, Decimal.ofDigits?_digits]

theorem number?_intText (n : Int) : number? (intText n) = some (.int n) := by
  unfold intText
  split
  · next hneg =>
    have hvalue : n = -(n.natAbs : Int) := by omega
    exact (magnitude?_digits true n.natAbs).trans (congrArg (some ∘ Json.int) hvalue.symm)
  · next hnonneg =>
    have hvalue : n = (n.natAbs : Int) := by omega
    have hread := number?_of_isWhole (Decimal.isWhole_digits n.natAbs) []
    rw [List.append_nil] at hread
    exact hread.trans ((magnitude?_digits false n.natAbs).trans
      (congrArg (some ∘ Json.int) hvalue.symm))

theorem number?_render {x : Float} (h : x.isFinite = true) :
    number? (Decimal.jsonFormat.render x).toList = some (.float x) := by
  obtain ⟨negative, s, e, hx⟩ := Decimal.Binary.exists_of_isFinite h
  obtain ⟨body, y, htext, hwritten, hvalue⟩ := Decimal.written_render Decimal.jsonFormat rfl hx
  have hmagnitude (b : Bool) :
      magnitude? b body = some (.float (if b then -y.toFloat else y.toFloat)) := by
    rw [magnitude?, ofDigits?_of_written hwritten, hwritten.unsigned?, Option.map_some]
  rw [htext, ← hvalue]
  cases negative with
  | true => exact hmagnitude true
  | false =>
    have hsign : number? body = magnitude? false body := by
      cases hwritten with
      | pointed hwhole => exact number?_of_isWhole hwhole _
      | marked hwhole => exact number?_of_isWhole hwhole _
      | both hwhole => exact number?_of_isWhole hwhole _
    exact hsign.trans (hmagnitude false)

/-! ### Tokens -/

/-- What follows a value does not go on with a number. -/
def Ends (rest : List Char) : Prop := ∀ c ∈ rest.head?, isNumeric c = false

theorem isGap_of_isSpace {g : List Char} (hg : IsSpace g) : ∀ c ∈ g, isGap c = true := by
  intro c hc
  rcases hg c hc with rfl | rfl | rfl | rfl <;> decide

theorem skip_append {g : List Char} (hg : IsSpace g) (s : List Char) : skip (g ++ s) = skip s :=
  List.dropWhile_append_of_pos (isGap_of_isSpace hg)

theorem skip_cons {c : Char} (hc : isGap c = false) (s : List Char) : skip (c :: s) = c :: s :=
  List.dropWhile_cons_of_neg (by rw [hc]; decide)

theorem skip_append_cons {g : List Char} (hg : IsSpace g) {c : Char} (hc : isGap c = false)
    (s : List Char) : skip (g ++ c :: s) = c :: s :=
  (skip_append hg _).trans (skip_cons hc s)

/-- A text is read as a tree wherever it stands. -/
structure Reads (s : List Char) (t : Json) : Prop where
  starts : ∃ c rest, s = c :: rest ∧ isGap c = false ∧ c ≠ ']'
  read : ∀ fuel rest, 2 * s.length ≤ fuel → Ends rest → value? fuel (s ++ rest) = some (t, rest)

/-- White space before a value is passed over. -/
theorem value?_append {g : List Char} (hg : IsSpace g) (fuel : Nat) (s : List Char) :
    value? fuel (g ++ s) = value? fuel s := by
  cases fuel with
  | zero => rfl
  | succ fuel => rw [value?, value?, skip_append hg]

theorem word?_append (w : String) (t : Json) (rest : List Char) :
    word? w t (w.toList ++ rest) = some (t, rest) := by
  unfold word?
  rw [if_pos (List.isPrefixOf_iff_prefix.2 (List.prefix_append _ _)), ← String.length_toList,
    List.drop_left]

/-- A text is read if one step of the reader reads it. -/
theorem reads_of_step {c : Char} {s : List Char} {t : Json} (hgap : isGap c = false)
    (hbracket : c ≠ ']') (hstep : ∀ fuel rest, 2 * s.length < fuel → Ends rest →
      value? (fuel + 1) (c :: (s ++ rest)) = some (t, rest)) : Reads (c :: s) t := by
  refine ⟨⟨c, s, rfl, hgap, hbracket⟩, ?_⟩
  intro fuel rest hfuel hends
  rw [List.length_cons] at hfuel
  obtain ⟨fuel, rfl⟩ := Nat.exists_eq_succ_of_ne_zero (Nat.ne_zero_of_lt (by omega : 0 < fuel))
  exact hstep fuel rest (by omega) hends

/-- A word is read. -/
theorem reads_null : Reads ['n', 'u', 'l', 'l'] .null :=
  reads_of_step (by decide) (by decide) fun _ rest _ _ =>
    Eq.trans (by simp [value?, skip, isGap]) (word?_append "null" .null rest)

theorem reads_true : Reads ['t', 'r', 'u', 'e'] (.bool true) :=
  reads_of_step (by decide) (by decide) fun _ rest _ _ =>
    Eq.trans (by simp [value?, skip, isGap]) (word?_append "true" (.bool true) rest)

theorem reads_false : Reads ['f', 'a', 'l', 's', 'e'] (.bool false) :=
  reads_of_step (by decide) (by decide) fun _ rest _ _ =>
    Eq.trans (by simp [value?, skip, isGap]) (word?_append "false" (.bool false) rest)

/-- A string is read. -/
theorem reads_quote (s : String) : Reads (quote s) (.str s) := by
  refine reads_of_step (by decide) (by decide) ?_
  intro fuel rest _ _
  change value? (fuel + 1) ('\x22' :: (s.toList.flatMap escape ++ ['\x22'] ++ rest)) = _
  rw [List.append_assoc, value?, skip_cons (by decide)]
  simp only [List.cons_append, List.nil_append, text?_escaped]
  rfl

/-- A number is read. -/
theorem reads_number {s : List Char} {t : Json} (hs : ∀ c ∈ s, isNumeric c = true)
    (hread : number? s = some t) : Reads s t := by
  cases s with
  | nil => cases hread
  | cons c s =>
    have hc : isNumeric c = true := hs c List.mem_cons_self
    have hgap : isGap c = false := by
      by_contra hgap
      rw [Bool.not_eq_false] at hgap
      simp only [isGap, Bool.or_eq_true, decide_eq_true_eq] at hgap
      rcases hgap with ((rfl | rfl) | rfl) | rfl <;> exact absurd hc (by decide)
    have hbracket : c ≠ ']' := by
      rintro rfl
      exact absurd hc (by decide)
    refine reads_of_step hgap hbracket ?_
    intro fuel rest _ hends
    rw [value?.eq_def]
    dsimp only
    rw [skip_cons hgap]
    split
    · next h => cases h
    · next h => cases h; exact absurd hc (by decide)
    · next h => cases h; exact absurd hc (by decide)
    · next h => cases h; exact absurd hc (by decide)
    · next h => cases h; exact absurd hc (by decide)
    · next h => cases h; exact absurd hc (by decide)
    · next h => cases h; exact absurd hc (by decide)
    · next h => cases h; exact absurd hc (by decide)
    · next h => cases h; exact absurd hc (by decide)
    · next h =>
      -- a sign is followed by a digit
      cases s with
      | nil =>
        obtain rfl := (List.cons.inj h).1
        have hnone : number? ['-'] = none := rfl
        rw [hnone] at hread
        cases hread
      | cons d s =>
        obtain rfl := (List.cons.inj (List.cons.inj h).2).1
        exact absurd (hs 'I' (List.mem_cons_of_mem c List.mem_cons_self)) (by decide)
    · next h =>
      rw [← List.cons_append, Decimal.span_append hs hends]
      dsimp only
      rw [hread, Option.map_some]

/-! ### Trees -/

theorem ends_cons {c : Char} (hc : isNumeric c = false) (rest : List Char) : Ends (c :: rest) := by
  rintro d ⟨⟩
  exact hc

theorem ends_append {g : List Char} (hg : IsSpace g) {rest : List Char} (hrest : Ends rest) :
    Ends (g ++ rest) := by
  cases g with
  | nil => exact hrest
  | cons c g =>
    refine ends_cons ?_ _
    rcases hg c List.mem_cons_self with rfl | rfl | rfl | rfl <;> decide

/-- The numbers that are written consist of the characters of numbers. -/
theorem isNumeric_of_areDigits {s : List Char} (h : AreDigits s) : ∀ c ∈ s, isNumeric c = true := by
  intro c hc
  unfold isNumeric
  rw [h c hc]
  rfl

theorem IsNumber.isNumeric {s : List Char} (h : IsNumber s) : ∀ c ∈ s, isNumeric c = true := by
  obtain ⟨hsign, hwhole, hfraction, hpower⟩ := h
  simp only [List.forall_mem_append]
  refine ⟨⟨⟨?_, isNumeric_of_areDigits hwhole.areDigits⟩, ?_⟩, ?_⟩
  · rcases hsign with rfl | rfl
    · exact List.forall_mem_nil _
    · exact List.forall_mem_singleton.2 rfl
  · cases hfraction with
    | none => exact List.forall_mem_nil _
    | digits _ hs => exact List.forall_mem_cons.2 ⟨rfl, isNumeric_of_areDigits hs⟩
  · cases hpower with
    | none => exact List.forall_mem_nil _
    | power hmark hsign _ hs =>
      refine List.forall_mem_cons.2 ⟨?_, List.forall_mem_append.2 ⟨?_, isNumeric_of_areDigits hs⟩⟩
      · rcases hmark with rfl | rfl <;> rfl
      · rcases hsign with rfl | rfl | rfl
        · exact List.forall_mem_nil _
        · exact List.forall_mem_singleton.2 rfl
        · exact List.forall_mem_singleton.2 rfl

section Parts

variable {s : List Char} {t : Json} {g w rest : List Char} {fuel : Nat}

/-- An item is read, and then what follows it. -/
theorem items?_of_reads (hs : Reads s t) (hg : IsSpace g) (hfuel : 2 * s.length ≤ fuel)
    (hends : Ends rest) :
    items? (fuel + 1) (g ++ (s ++ rest)) =
      match skip rest with
      | ',' :: rest => (items? fuel rest).bind fun (items, rest) => some (t :: items, rest)
      | ']' :: rest => some ([t], rest)
      | _ => none := by
  rw [items?, value?_append hg, hs.read fuel rest hfuel hends]
  rfl

/-- A member is read, and then what follows it. -/
theorem members?_of_reads (hs : Reads s t) (hg : IsSpace g) (hfuel : 2 * s.length ≤ fuel)
    (hends : Ends rest) (name : String) :
    members? (fuel + 1) (g ++ (quote name ++ ':' :: ' ' :: (s ++ rest))) =
      match skip rest with
      | ',' :: rest =>
        (members? fuel rest).bind fun (members, rest) => some ((name, t) :: members, rest)
      | '\x7d' :: rest => some ([(name, t)], rest)
      | _ => none := by
  have hquote : ∀ rest, quote name ++ rest =
      '\x22' :: (name.toList.flatMap escape ++ '\x22' :: rest) := by simp [quote]
  have hread : value? fuel (' ' :: (s ++ rest)) = some (t, rest) :=
    (value?_append isSpace_blank fuel (s ++ rest)).trans (hs.read fuel rest hfuel hends)
  rw [members?, skip_append hg, hquote, skip_cons (by decide)]
  simp only [text?_escaped, Option.bind_eq_bind, Option.bind_some]
  rw [skip_cons (by decide)]
  simp only [hread, Option.bind_some]
  rfl

/-- An array with an item in it is read as its items. -/
theorem value?_array (hs : Reads s t) (hg : IsSpace g) :
    value? (fuel + 1) ('[' :: (g ++ (s ++ rest))) =
      (items? fuel (s ++ rest)).map fun read => (.arr read.1, read.2) := by
  obtain ⟨c, tail, rfl, hgap, hbracket⟩ := hs.starts
  have hskip : skip (g ++ (c :: tail ++ rest)) = c :: (tail ++ rest) :=
    skip_append_cons hg hgap _
  rw [value?, skip_cons (by decide)]
  simp only [hskip]
  split
  · next h => exact absurd (List.cons.inj h).1 hbracket
  · rfl

/-- An object with a member in it is read as its members. -/
theorem value?_object (hg : IsSpace g) (name : String) :
    value? (fuel + 1) ('\x7b' :: (g ++ (quote name ++ rest))) =
      (members? fuel (quote name ++ rest)).map fun read => (.obj read.1, read.2) := by
  have hskip : skip (g ++ (quote name ++ rest)) = quote name ++ rest :=
    skip_append_cons hg (by decide) _
  rw [value?, skip_cons (by decide)]
  simp only [hskip]
  rfl

end Parts

theorem reads_emptyArray : Reads ['[', ']'] (.arr []) :=
  reads_of_step (by decide) (by decide) fun _ _ _ _ => by simp [value?, skip, isGap]

theorem reads_emptyObject : Reads ['\x7b', '\x7d'] (.obj []) :=
  reads_of_step (by decide) (by decide) fun _ _ _ _ => by simp [value?, skip, isGap]

variable (indent : Option Nat)

mutual

/-- **What is written of a tree is read as that tree.** -/
theorem reads_render : ∀ (t : Json) (depth : Nat), t.IsFinite → Reads (render indent depth t) t
  | .null, _, _ => by rw [render]; exact reads_null
  | .bool true, _, _ => by rw [render]; exact reads_true
  | .bool false, _, _ => by rw [render]; exact reads_false
  | .int n, _, _ => by
    rw [render]
    exact reads_number (isNumber_intText n).isNumeric (number?_intText n)
  | .float x, _, h => by
    rw [IsFinite] at h
    rw [render]
    exact reads_number (isNumber_render h).isNumeric (number?_render h)
  | .str s, _, _ => by rw [render]; exact reads_quote s
  | .arr [], _, _ => by rw [render]; exact reads_emptyArray
  | .arr (item :: items), depth, h => by
    rw [IsFinite, AreFinite] at h
    have hitem := reads_render item (depth + 1) h.1
    have hgap := isSpace_gap indent
    rw [render]
    simp only [List.append_assoc, List.cons_append]
    refine reads_of_step (by decide) (by decide) ?_
    intro fuel rest hfuel _
    simp only [List.length_append] at hfuel
    have hread := items?_render items (depth + 1) h.2 hitem isSpace_nil (hgap depth) fuel rest
      (by rw [List.length_append]; omega)
    simp only [List.append_assoc, List.cons_append, List.nil_append] at hread ⊢
    rw [value?_array hitem (hgap _), hread, Option.map_some]
  | .obj [], _, _ => by rw [render]; exact reads_emptyObject
  | .obj ((name, value) :: members), depth, h => by
    rw [IsFinite, MembersFinite] at h
    have hvalue := reads_render value (depth + 1) h.1
    have hgap := isSpace_gap indent
    rw [render]
    simp only [List.append_assoc, List.cons_append]
    refine reads_of_step (by decide) (by decide) ?_
    intro fuel rest hfuel _
    simp only [List.length_append, List.length_cons] at hfuel
    have hread := members?_render members (depth + 1) h.2 hvalue name isSpace_nil (hgap depth)
      fuel rest (by rw [List.length_append]; omega)
    simp only [List.append_assoc, List.cons_append, List.nil_append] at hread ⊢
    rw [value?_object (hgap _), hread, Option.map_some]

/-- The items of an array are read. -/
theorem items?_render : ∀ (items : List Json) (depth : Nat), AreFinite items →
    ∀ {s : List Char} {t : Json}, Reads s t → ∀ {g w : List Char}, IsSpace g → IsSpace w →
    ∀ (fuel : Nat) (rest : List Char), 2 * (s ++ renderItems indent depth items).length < fuel →
      items? fuel (g ++ (s ++ (renderItems indent depth items ++ (w ++ ']' :: rest)))) =
        some (t :: items, rest)
  | [], _, _, s, t, hs, g, w, hg, hw, fuel, rest, hfuel => by
    rw [renderItems, List.append_nil] at hfuel
    rw [renderItems, List.nil_append]
    obtain ⟨fuel, rfl⟩ := Nat.exists_eq_succ_of_ne_zero (Nat.ne_zero_of_lt hfuel)
    rw [items?_of_reads hs hg (Nat.le_of_lt_succ hfuel)
      (ends_append hw (ends_cons (by decide) rest)), skip_append_cons hw (by decide)]
    rfl
  | item :: items, depth, h, s, t, hs, g, w, hg, hw, fuel, rest, hfuel => by
    obtain ⟨u, hu, hcomma⟩ := comma_eq indent depth
    rw [AreFinite] at h
    rw [renderItems, hcomma] at hfuel ⊢
    obtain ⟨fuel, rfl⟩ := Nat.exists_eq_succ_of_ne_zero (Nat.ne_zero_of_lt hfuel)
    simp only [List.length_append, List.length_cons] at hfuel
    have hrest := items?_render items depth h.2 (reads_render item depth h.1) hu hw fuel rest
      (by rw [List.length_append]; omega)
    simp only [List.append_assoc, List.cons_append]
    rw [items?_of_reads hs hg (by omega) (ends_cons (by decide) _), skip_cons (by decide)]
    simp only [hrest, Option.bind_some]

/-- The members of an object are read. -/
theorem members?_render : ∀ (members : List (String × Json)) (depth : Nat),
    MembersFinite members → ∀ {s : List Char} {t : Json}, Reads s t → ∀ (name : String)
    {g w : List Char}, IsSpace g → IsSpace w → ∀ (fuel : Nat) (rest : List Char),
    2 * (s ++ renderMembers indent depth members).length < fuel →
      members? fuel (g ++ (quote name ++ ':' :: ' ' ::
        (s ++ (renderMembers indent depth members ++ (w ++ '\x7d' :: rest))))) =
          some ((name, t) :: members, rest)
  | [], _, _, s, t, hs, name, g, w, hg, hw, fuel, rest, hfuel => by
    rw [renderMembers, List.append_nil] at hfuel
    rw [renderMembers, List.nil_append]
    obtain ⟨fuel, rfl⟩ := Nat.exists_eq_succ_of_ne_zero (Nat.ne_zero_of_lt hfuel)
    rw [members?_of_reads hs hg (Nat.le_of_lt_succ hfuel)
      (ends_append hw (ends_cons (by decide) rest)), skip_append_cons hw (by decide)]
    rfl
  | (name', value) :: members, depth, h, s, t, hs, name, g, w, hg, hw, fuel, rest, hfuel => by
    obtain ⟨u, hu, hcomma⟩ := comma_eq indent depth
    rw [MembersFinite] at h
    rw [renderMembers, hcomma] at hfuel ⊢
    obtain ⟨fuel, rfl⟩ := Nat.exists_eq_succ_of_ne_zero (Nat.ne_zero_of_lt hfuel)
    simp only [List.length_append, List.length_cons] at hfuel
    have hrest := members?_render members depth h.2 (reads_render value depth h.1) name' hu hw fuel
      rest (by rw [List.length_append]; omega)
    simp only [List.append_assoc, List.cons_append, List.nil_append]
    rw [members?_of_reads hs hg (by omega) (ends_cons (by decide) _), skip_cons (by decide)]
    simp only [hrest, Option.bind_some]

end

/-- The whole text denotes the tree. -/
theorem parse?_render {t : Json} (h : t.IsFinite) :
    parse? (String.ofList (render indent 0 t)) = some t := by
  have hread := (reads_render indent t 0 h).read (2 * (render indent 0 t).length + 2) []
    (by omega) (fun _ h => nomatch h)
  rw [List.append_nil] at hread
  unfold parse?
  rw [String.toList_ofList, String.length_ofList, hread]
  rfl

theorem parse?_compact {t : Json} (h : t.IsFinite) : parse? (compact t) = some t :=
  parse?_render none h

end Json
end ClientTrial
