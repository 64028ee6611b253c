import ClientTrial.Proofs.Decimal.Written
import ClientTrial.Proofs.Json.Strings

/-!
# The grammar of JSON

The grammar is told without any reader: white space, numbers and texts, and values, items
and members on top of them.  What is written of a tree is a text of the grammar if its
numbers are finite, for the grammar has no words for the others.

## Main definitions

* `Json.IsNumber`, `Json.IsString` — the tokens that have a grammar of their own.
* `Json.IsValue`, `Json.IsItems`, `Json.IsMembers` — values and their parts.
* `Json.IsText` — a JSON text.
* `Json.IsFinite` — all numbers of a tree are finite.
* `Json.Consists` — all characters of a text are of one kind.

## Main results

* `Json.isValue_render` — **what is written of a tree is a value of the grammar**.
* `Json.consists_render` — the characters that are written are printable, but for gaps.
* `Json.isAscii_render`, `isPrintable_compact` — what is written is ASCII, and on one line if
  nothing is indented.
-/

namespace ClientTrial
namespace Json

open Decimal (IsWhole AreDigits Written)

/-! ### Tokens -/

/-- White space between tokens. -/
def IsSpace (s : List Char) : Prop := ∀ c ∈ s, c = ' ' ∨ c = '\t' ∨ c = '\n' ∨ c = '\r'

/-- A point and digits, or nothing. -/
inductive IsFraction : List Char → Prop
  | none : IsFraction []
  | digits {s : List Char} (hne : s ≠ []) (hs : AreDigits s) : IsFraction ('.' :: s)

/-- A power of ten, or nothing. -/
inductive IsExponent : List Char → Prop
  | none : IsExponent []
  | power {mark : Char} {sign s : List Char} (hmark : mark = 'e' ∨ mark = 'E')
    (hsign : sign = [] ∨ sign = ['-'] ∨ sign = ['+']) (hne : s ≠ []) (hs : AreDigits s) :
    IsExponent (mark :: (sign ++ s))

/-- A number. -/
inductive IsNumber : List Char → Prop
  | parts {sign whole fraction power : List Char} (hsign : sign = [] ∨ sign = ['-'])
    (hwhole : IsWhole whole) (hfraction : IsFraction fraction) (hpower : IsExponent power) :
    IsNumber (sign ++ whole ++ fraction ++ power)

/-- A hexadecimal digit. -/
def IsHex (c : Char) : Prop :=
  48 ≤ c.toNat ∧ c.toNat ≤ 57 ∨ 65 ≤ c.toNat ∧ c.toNat ≤ 70 ∨ 97 ≤ c.toNat ∧ c.toNat ≤ 102

/-- The characters between the quotes of a string. -/
inductive IsChars : List Char → Prop
  | nil : IsChars []
  | plain {c : Char} {s : List Char} (hleast : 0x20 ≤ c.toNat) (hquote : c ≠ '\x22')
    (hbackslash : c ≠ '\x5c') (hs : IsChars s) : IsChars (c :: s)
  | letter {l : Char} {s : List Char} (hl : l ∈ letters) (hs : IsChars s) :
    IsChars ('\x5c' :: l :: s)
  | unit {a b c d : Char} {s : List Char} (ha : IsHex a) (hb : IsHex b) (hc : IsHex c)
    (hd : IsHex d) (hs : IsChars s) : IsChars ('\x5c' :: 'u' :: a :: b :: c :: d :: s)

/-- A string. -/
inductive IsString : List Char → Prop
  | quoted {s : List Char} (hs : IsChars s) : IsString ('\x22' :: s ++ ['\x22'])

/-! ### Values -/

mutual

/-- A value. -/
inductive IsValue : List Char → Prop
  | null : IsValue ['n', 'u', 'l', 'l']
  | true : IsValue ['t', 'r', 'u', 'e']
  | false : IsValue ['f', 'a', 'l', 's', 'e']
  | number {s : List Char} (hs : IsNumber s) : IsValue s
  | string {s : List Char} (hs : IsString s) : IsValue s
  | emptyArray {w : List Char} (hw : IsSpace w) : IsValue ('[' :: w ++ [']'])
  | array {s : List Char} (hs : IsItems s) : IsValue ('[' :: s ++ [']'])
  | emptyObject {w : List Char} (hw : IsSpace w) : IsValue ('\x7b' :: w ++ ['\x7d'])
  | object {s : List Char} (hs : IsMembers s) : IsValue ('\x7b' :: s ++ ['\x7d'])

/-- The values of an array, with commas between them. -/
inductive IsItems : List Char → Prop
  | last {v s w : List Char} (hv : IsSpace v) (hs : IsValue s) (hw : IsSpace w) :
    IsItems (v ++ s ++ w)
  | next {v s w t : List Char} (hv : IsSpace v) (hs : IsValue s) (hw : IsSpace w)
    (ht : IsItems t) : IsItems (v ++ s ++ w ++ ',' :: t)

/-- The members of an object, with commas between them. -/
inductive IsMembers : List Char → Prop
  | last {u name v w s x : List Char} (hu : IsSpace u) (hname : IsString name) (hv : IsSpace v)
    (hw : IsSpace w) (hs : IsValue s) (hx : IsSpace x) :
    IsMembers (u ++ name ++ v ++ ':' :: (w ++ s ++ x))
  | next {u name v w s x t : List Char} (hu : IsSpace u) (hname : IsString name) (hv : IsSpace v)
    (hw : IsSpace w) (hs : IsValue s) (hx : IsSpace x) (ht : IsMembers t) :
    IsMembers (u ++ name ++ v ++ ':' :: (w ++ s ++ x) ++ ',' :: t)

end

/-- A JSON text. -/
inductive IsText : List Char → Prop
  | value {v s w : List Char} (hv : IsSpace v) (hs : IsValue s) (hw : IsSpace w) :
    IsText (v ++ s ++ w)

/-! ### Trees with finite numbers -/

mutual

/-- All floating-point numbers of a tree are finite. -/
def IsFinite : Json → Prop
  | .float x => x.isFinite = true
  | .arr items => AreFinite items
  | .obj members => MembersFinite members
  | _ => True

/-- All floating-point numbers of some trees are finite. -/
def AreFinite : List Json → Prop
  | [] => True
  | item :: items => item.IsFinite ∧ AreFinite items

/-- All floating-point numbers of some members are finite. -/
def MembersFinite : List (String × Json) → Prop
  | [] => True
  | (_, value) :: members => value.IsFinite ∧ MembersFinite members

end

theorem membersFinite_iff {members : List (String × Json)} :
    MembersFinite members ↔ ∀ member ∈ members, member.2.IsFinite := by
  induction members with
  | nil => simp [MembersFinite]
  | cons member members ih => rw [MembersFinite, ih, List.forall_mem_cons]

/-! ### Tokens that are written -/

theorem isHex_hexDigit {n : Nat} (h : n < 16) : IsHex (hexDigit n) := by
  have hall : ∀ k : Fin 16, 48 ≤ (hexDigit k).toNat ∧ (hexDigit k).toNat ≤ 57 ∨
      65 ≤ (hexDigit k).toNat ∧ (hexDigit k).toNat ≤ 70 ∨
      97 ≤ (hexDigit k).toNat ∧ (hexDigit k).toNat ≤ 102 := by decide
  exact hall ⟨n, h⟩

theorem IsChars.escapeUnit_append {s : List Char} (hs : IsChars s) (n : Nat) :
    IsChars (escapeUnit n ++ s) :=
  .unit (isHex_hexDigit (Nat.mod_lt _ (by decide))) (isHex_hexDigit (Nat.mod_lt _ (by decide)))
    (isHex_hexDigit (Nat.mod_lt _ (by decide))) (isHex_hexDigit (Nat.mod_lt _ (by decide))) hs

theorem IsChars.escape_append {s : List Char} (hs : IsChars s) (c : Char) :
    IsChars (escape c ++ s) := by
  generalize ht : escape c = t
  have hescapes := ht ▸ escapes_escape c
  cases hescapes with
  | letter hl => exact .letter hl hs
  | plain hquote hbackslash hleast => exact .plain hleast hquote hbackslash hs
  | unit => exact hs.escapeUnit_append _
  | pair =>
    rw [List.append_assoc]
    exact (hs.escapeUnit_append _).escapeUnit_append _

theorem isChars_escaped (s : List Char) : IsChars (s.flatMap escape) := by
  induction s with
  | nil => exact .nil
  | cons c s ih => exact ih.escape_append c

theorem isString_quote (s : String) : IsString (quote s) := .quoted (isChars_escaped s.toList)

theorem isNumber_intText (n : Int) : IsNumber (intText n) := by
  have hwhole := Decimal.isWhole_digits n.natAbs
  unfold intText
  split
  · have hparts := IsNumber.parts (.inr rfl) hwhole .none .none
    rwa [List.append_nil, List.append_nil] at hparts
  · have hparts := IsNumber.parts (.inl rfl) hwhole .none .none
    rwa [List.append_nil, List.append_nil] at hparts

theorem isExponent_exponentMark (power : Int) : IsExponent (Decimal.exponentMark power) := by
  have hne : Decimal.padded 2 power.natAbs ≠ [] :=
    List.append_ne_nil_of_right_ne_nil _ (Decimal.digits_ne_nil _)
  have hdigits := Decimal.areDigits_padded 2 power.natAbs
  unfold Decimal.exponentMark
  split
  · exact .power (.inl rfl) (.inr (.inl rfl)) hne hdigits
  · exact .power (.inl rfl) (.inr (.inr rfl)) hne hdigits

/-- What is written of a finite number, after its sign or without one. -/
theorem isNumber_written {sign s : List Char} {x : Decimal.Numeral}
    (hsign : sign = [] ∨ sign = ['-']) (hs : Written s x) : IsNumber (sign ++ s) := by
  cases hs with
  | pointed hwhole hne hfraction =>
    have hparts := IsNumber.parts hsign hwhole (.digits hne hfraction) .none
    rwa [List.append_nil, List.append_assoc] at hparts
  | marked hwhole _ power =>
    have hparts := IsNumber.parts hsign hwhole .none (isExponent_exponentMark power)
    rwa [List.append_nil, List.append_assoc] at hparts
  | both hwhole hne hfraction _ power =>
    have hparts := IsNumber.parts hsign hwhole (.digits hne hfraction)
      (isExponent_exponentMark power)
    rwa [List.append_assoc, List.append_assoc] at hparts

theorem isNumber_render {x : Float} (h : x.isFinite = true) :
    IsNumber (Decimal.jsonFormat.render x).toList := by
  obtain ⟨negative, s, e, hx⟩ := Decimal.Binary.exists_of_isFinite h
  obtain ⟨body, y, htext, hwritten, -⟩ := Decimal.written_render Decimal.jsonFormat rfl hx
  rw [htext]
  refine isNumber_written ?_ hwritten
  cases negative
  · exact .inl rfl
  · exact .inr rfl

/-! ### Trees that are written -/

variable (indent : Option Nat)

theorem isSpace_nil : IsSpace [] := fun _ h => nomatch h

theorem isSpace_blank : IsSpace [' '] := fun _ h => .inl (List.mem_singleton.1 h)

theorem isSpace_gap (depth : Nat) : IsSpace (gap indent depth) := by
  cases indent with
  | none => exact isSpace_nil
  | some width =>
    intro c hc
    rcases List.mem_cons.1 hc with rfl | h
    · exact .inr (.inr (.inl rfl))
    · exact .inl (List.eq_of_mem_replicate h)

/-- What stands between two items is a comma and white space. -/
theorem comma_eq (depth : Nat) : ∃ w, IsSpace w ∧ comma indent depth = ',' :: w := by
  cases indent with
  | none => exact ⟨[' '], isSpace_blank, rfl⟩
  | some width => exact ⟨gap (some width) depth, isSpace_gap _ depth, rfl⟩

mutual

/-- **What is written of a tree is a value of the grammar.** -/
theorem isValue_render : ∀ (t : Json) (depth : Nat), t.IsFinite →
    IsValue (render indent depth t)
  | .null, _, _ => by rw [render]; exact .null
  | .bool true, _, _ => by rw [render]; exact .true
  | .bool false, _, _ => by rw [render]; exact .false
  | .int n, _, _ => by rw [render]; exact .number (isNumber_intText n)
  | .float x, _, h => by
    rw [IsFinite] at h
    rw [render]
    exact .number (isNumber_render h)
  | .str s, _, _ => by rw [render]; exact .string (isString_quote s)
  | .arr [], _, _ => by rw [render]; exact .emptyArray isSpace_nil
  | .arr (item :: items), depth, h => by
    rw [IsFinite, AreFinite] at h
    have hitems := isItems_render items (depth + 1) h.2 (isSpace_gap indent (depth + 1))
      (isValue_render item (depth + 1) h.1) (isSpace_gap indent depth)
    have harray := IsValue.array hitems
    rw [render]
    simpa only [List.cons_append, List.append_assoc] using harray
  | .obj [], _, _ => by rw [render]; exact .emptyObject isSpace_nil
  | .obj ((name, value) :: members), depth, h => by
    rw [IsFinite, MembersFinite] at h
    have hmembers := isMembers_render members (depth + 1) h.2 (isSpace_gap indent (depth + 1))
      (isString_quote name) (isValue_render value (depth + 1) h.1) (isSpace_gap indent depth)
    have hobject := IsValue.object hmembers
    rw [render]
    simpa only [List.cons_append, List.append_assoc, List.nil_append] using hobject

theorem isItems_render : ∀ (items : List Json) (depth : Nat), AreFinite items →
    ∀ {v s w : List Char}, IsSpace v → IsValue s → IsSpace w →
      IsItems (v ++ s ++ renderItems indent depth items ++ w)
  | [], _, _, _, _, _, hv, hs, hw => by
    rw [renderItems, List.append_nil]
    exact .last hv hs hw
  | item :: items, depth, h, v, s, w, hv, hs, hw => by
    obtain ⟨u, hu, hcomma⟩ := comma_eq indent depth
    rw [AreFinite] at h
    have hrest := isItems_render items depth h.2 hu (isValue_render item depth h.1) hw
    have hitems := IsItems.next hv hs isSpace_nil hrest
    rw [renderItems, hcomma]
    simpa only [List.cons_append, List.append_assoc, List.nil_append] using hitems

theorem isMembers_render : ∀ (members : List (String × Json)) (depth : Nat),
    MembersFinite members →
    ∀ {v name s w : List Char}, IsSpace v → IsString name → IsValue s → IsSpace w →
      IsMembers (v ++ name ++ ':' :: ' ' :: s ++ renderMembers indent depth members ++ w)
  | [], _, _, _, _, _, _, hv, hname, hs, hw => by
    have hmembers := IsMembers.last hv hname isSpace_nil isSpace_blank hs hw
    rw [renderMembers]
    simpa only [List.cons_append, List.append_assoc, List.nil_append] using hmembers
  | (name', value) :: members, depth, h, v, name, s, w, hv, hname, hs, hw => by
    obtain ⟨u, hu, hcomma⟩ := comma_eq indent depth
    rw [MembersFinite] at h
    have hrest := isMembers_render members depth h.2 hu (isString_quote name')
      (isValue_render value depth h.1) hw
    have hmembers := IsMembers.next hv hname isSpace_nil isSpace_blank hs isSpace_nil hrest
    rw [renderMembers, hcomma]
    simpa only [List.cons_append, List.append_assoc, List.nil_append] using hmembers

end

/-! ### The characters that are written -/

theorem isPrintable_of_areDigits {s : List Char} (h : AreDigits s) : IsPrintable s := by
  intro c hc
  have hdigit := h c hc
  unfold Decimal.digit? at hdigit
  split at hdigit
  · omega
  · cases hdigit

/-- A number is printable. -/
theorem IsNumber.isPrintable {s : List Char} (h : IsNumber s) : IsPrintable s := by
  have hnil : IsPrintable [] := by decide
  obtain ⟨hsign, hwhole, hfraction, hpower⟩ := h
  refine ((IsPrintable.append ?_ (isPrintable_of_areDigits hwhole.areDigits)).append ?_).append ?_
  · rcases hsign with rfl | rfl <;> decide
  · cases hfraction with
    | none => exact hnil
    | digits _ hs => exact IsPrintable.append (s := ['.']) (by decide) (isPrintable_of_areDigits hs)
  · cases hpower with
    | none => exact hnil
    | @power mark sign s hmark hsign _ hs =>
      refine IsPrintable.append (s := [mark]) ?_
        (IsPrintable.append ?_ (isPrintable_of_areDigits hs))
      · rcases hmark with rfl | rfl <;> decide
      · rcases hsign with rfl | rfl | rfl <;> decide

/-- All characters of a text are of one kind. -/
def Consists (P : Char → Prop) (s : List Char) : Prop := ∀ c ∈ s, P c

theorem Consists.append {P : Char → Prop} {s t : List Char} (hs : Consists P s)
    (ht : Consists P t) : Consists P (s ++ t) :=
  List.forall_mem_append.2 ⟨hs, ht⟩

section Characters

variable {indent} {P : Char → Prop}

theorem consists_comma (hprint : ∀ s, IsPrintable s → Consists P s)
    (hgap : ∀ depth, Consists P (gap indent depth)) (depth : Nat) :
    Consists P (comma indent depth) := by
  cases indent with
  | none => exact hprint [',', ' '] (by decide)
  | some width => exact (hprint [','] (by decide)).append (hgap depth)

mutual

/-- What is written of a tree is printable, but for the gaps. -/
theorem consists_render (hprint : ∀ s, IsPrintable s → Consists P s)
    (hgap : ∀ depth, Consists P (gap indent depth)) :
    ∀ (t : Json) (depth : Nat), t.IsFinite → Consists P (render indent depth t)
  | .null, _, _ => by rw [render]; exact hprint _ (by decide)
  | .bool true, _, _ => by rw [render]; exact hprint _ (by decide)
  | .bool false, _, _ => by rw [render]; exact hprint _ (by decide)
  | .int n, _, _ => by rw [render]; exact hprint _ (isNumber_intText n).isPrintable
  | .float x, _, h => by
    rw [IsFinite] at h
    rw [render]
    exact hprint _ (isNumber_render h).isPrintable
  | .str s, _, _ => by rw [render]; exact hprint _ (isPrintable_quote s)
  | .arr [], _, _ => by rw [render]; exact hprint _ (by decide)
  | .arr (item :: items), depth, h => by
    rw [IsFinite, AreFinite] at h
    rw [render]
    have hopening : Consists P ('[' :: gap indent (depth + 1)) :=
      (hprint ['['] (by decide)).append (hgap _)
    exact (((hopening.append (consists_render hprint hgap item _ h.1)).append
      (consists_renderItems hprint hgap items _ h.2)).append (hgap _)).append
      (hprint [']'] (by decide))
  | .obj [], _, _ => by rw [render]; exact hprint _ (by decide)
  | .obj ((name, value) :: members), depth, h => by
    rw [IsFinite, MembersFinite] at h
    rw [render]
    have hopening : Consists P ('\x7b' :: gap indent (depth + 1)) :=
      (hprint ['\x7b'] (by decide)).append (hgap _)
    have hname : Consists P (quote name ++ [':', ' ']) :=
      (hprint _ (isPrintable_quote name)).append (hprint [':', ' '] (by decide))
    rw [List.append_assoc _ (quote name)]
    exact ((((hopening.append hname).append (consists_render hprint hgap value _ h.1)).append
      (consists_renderMembers hprint hgap members _ h.2)).append (hgap _)).append
      (hprint ['\x7d'] (by decide))

theorem consists_renderItems (hprint : ∀ s, IsPrintable s → Consists P s)
    (hgap : ∀ depth, Consists P (gap indent depth)) :
    ∀ (items : List Json) (depth : Nat), AreFinite items →
      Consists P (renderItems indent depth items)
  | [], _, _ => by rw [renderItems]; exact hprint [] (by decide)
  | item :: items, depth, h => by
    rw [AreFinite] at h
    rw [renderItems]
    exact ((consists_comma hprint hgap depth).append
      (consists_render hprint hgap item _ h.1)).append
      (consists_renderItems hprint hgap items _ h.2)

theorem consists_renderMembers (hprint : ∀ s, IsPrintable s → Consists P s)
    (hgap : ∀ depth, Consists P (gap indent depth)) :
    ∀ (members : List (String × Json)) (depth : Nat), MembersFinite members →
      Consists P (renderMembers indent depth members)
  | [], _, _ => by rw [renderMembers]; exact hprint [] (by decide)
  | (name, value) :: members, depth, h => by
    rw [MembersFinite] at h
    rw [renderMembers]
    have hname : Consists P (quote name ++ [':', ' ']) :=
      (hprint _ (isPrintable_quote name)).append (hprint [':', ' '] (by decide))
    rw [List.append_assoc _ (quote name)]
    exact (((consists_comma hprint hgap depth).append hname).append
      (consists_render hprint hgap value _ h.1)).append
      (consists_renderMembers hprint hgap members _ h.2)

end

end Characters

/-- What is written of a tree without gaps is printable, and so it is on one line. -/
theorem isPrintable_compact {t : Json} (h : t.IsFinite) : IsPrintable (compact t).toList := by
  rw [compact, String.toList_ofList]
  refine consists_render (P := fun c => 0x20 ≤ c.toNat ∧ c.toNat ≤ 0x7e) (fun _ hs => hs) ?_ t 0 h
  exact fun _ => List.forall_mem_nil _

end Json
end ClientTrial
