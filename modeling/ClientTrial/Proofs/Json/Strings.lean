import ClientTrial.Json.Reader

/-!
# Texts are read back

Whatever characters a text has, it is written in printable ASCII and read back.  A character beyond
the first plane is written as two code units; a single unit is never one of a pair, for the
codes of such pairs are no characters.

## Main definitions

* `Json.units` — the code units of a character.
* `Json.Escapes` — the ways in which a character is written.
* `Json.IsAscii`, `Json.IsPrintable` — texts of some characters only.

## Main results

* `Json.codes?_escape` — an escaped character is read as its code units.
* `Json.joinPairs_units` — the code units of a text are joined to the text.
* `Json.text?_escaped` — **a text that is written is read back**.
* `Json.isPrintable_escape` — what is written of a character is printable ASCII.
-/

namespace ClientTrial
namespace Json

/-- The code units of a character. -/
def units (c : Char) : List Nat :=
  if c.toNat < 0x10000 then [c.toNat]
  else [0xd800 + (c.toNat - 0x10000) / 1024, 0xdc00 + (c.toNat - 0x10000) % 1024]

/-! ### Code units -/

theorem toNat_lt (c : Char) : c.toNat < 0x110000 := by
  rcases c.valid with h | ⟨-, h⟩
  · exact Nat.lt_trans h (by decide)
  · exact h

/-- The codes of pairs are no characters. -/
theorem not_surrogate (c : Char) : isHigh c.toNat = false ∧ isLow c.toNat = false := by
  have hvalid : c.toNat < 0xd800 ∨ 0xdfff < c.toNat ∧ c.toNat < 0x110000 := c.valid
  unfold isHigh isLow
  rw [Bool.and_eq_false_iff, Bool.and_eq_false_iff, decide_eq_false_iff_not,
    decide_eq_false_iff_not, decide_eq_false_iff_not, decide_eq_false_iff_not]
  omega

theorem hexValue?_hexDigit {n : Nat} (h : n < 16) : hexValue? (hexDigit n) = some n := by
  have hall : ∀ k : Fin 16, hexValue? (hexDigit k) = some k.val := by decide
  exact hall ⟨n, h⟩

/-- A code unit written by its number is read as that number. -/
theorem codes?_escapeUnit {n : Nat} (h : n < 0x10000) (rest : List Char) :
    codes? (escapeUnit n ++ rest) = (codes? rest).map fun read => (n :: read.1, read.2) := by
  have hunit : unit? (hexDigit (n / 4096 % 16)) (hexDigit (n / 256 % 16)) (hexDigit (n / 16 % 16))
      (hexDigit (n % 16)) = some n := by
    unfold unit?
    have hdigit (k : Nat) : hexValue? (hexDigit (k % 16)) = some (k % 16) :=
      hexValue?_hexDigit (Nat.mod_lt k (by decide))
    rw [hdigit, hdigit, hdigit, hdigit]
    change some (((n / 4096 % 16 * 16 + n / 256 % 16) * 16 + n / 16 % 16) * 16 + n % 16) = some n
    congr 1
    omega
  unfold escapeUnit
  simp only [List.cons_append, List.nil_append]
  rw [codes?, hunit]
  cases codes? rest <;> rfl

/-- A letter after a backslash is read as what it stands for. -/
theorem codes?_letter {letter c : Char} (hletter : letter ≠ 'u') (hc : escaped? letter = some c)
    (rest : List Char) : codes? ('\x5c' :: letter :: rest) =
      (codes? rest).map fun read => (c.toNat :: read.1, read.2) := by
  rw [codes?.eq_def]
  split
  · next h => cases h
  · next h => cases h
  · next h => cases h; exact absurd rfl hletter
  · next h =>
    cases h
    rw [hc]
    cases codes? rest <;> rfl
  · next hother h => cases h; exact (hother letter rest rfl rfl).elim

/-- A character that stands for itself is read as its code. -/
theorem codes?_plain {c : Char} (hquote : c ≠ '\x22') (hbackslash : c ≠ '\x5c')
    (hprint : 0x20 ≤ c.toNat) (rest : List Char) :
    codes? (c :: rest) = (codes? rest).map fun read => (c.toNat :: read.1, read.2) := by
  rw [codes?.eq_def]
  split
  · next h => cases h
  · next h => cases h; exact absurd rfl hquote
  · next h => cases h; exact absurd rfl hbackslash
  · next h => cases h; exact absurd rfl hbackslash
  · next h =>
    cases h
    rw [if_neg (not_or.2 ⟨Nat.not_lt.2 hprint, hbackslash⟩)]
    cases codes? rest <;> rfl

/-! ### Characters -/

/-- The letters that may stand after a backslash, but for the one that a number follows. -/
def letters : List Char := ['\x22', '\x5c', '/', 'b', 'f', 'n', 'r', 't']

/-- The ways in which a character is written. -/
inductive Escapes (c : Char) : List Char → Prop
  /-- By a letter after a backslash. -/
  | letter {l : Char} (hl : l ∈ letters) (hc : escaped? l = some c) (hplane : c.toNat < 0x10000) :
    Escapes c ['\x5c', l]
  /-- As it is. -/
  | plain (hquote : c ≠ '\x22') (hbackslash : c ≠ '\x5c') (hleast : 0x20 ≤ c.toNat)
    (hmost : c.toNat ≤ 0x7e) : Escapes c [c]
  /-- By its number. -/
  | unit (hplane : c.toNat < 0x10000) : Escapes c (escapeUnit c.toNat)
  /-- By the numbers of two code units. -/
  | pair (hplane : 0x10000 ≤ c.toNat) :
    Escapes c (escapeUnit (0xd800 + (c.toNat - 0x10000) / 1024) ++
      escapeUnit (0xdc00 + (c.toNat - 0x10000) % 1024))

theorem escapes_escape (c : Char) : Escapes c (escape c) := by
  unfold escape
  split
  · next h =>
    rcases h with rfl | rfl
    · exact .letter (by decide) rfl (by decide)
    · exact .letter (by decide) rfl (by decide)
  split
  · next h => subst h; exact .letter (by decide) rfl (by decide)
  split
  · next h => subst h; exact .letter (by decide) rfl (by decide)
  split
  · next h => subst h; exact .letter (by decide) rfl (by decide)
  split
  · next h => subst h; exact .letter (by decide) rfl (by decide)
  split
  · next h => subst h; exact .letter (by decide) rfl (by decide)
  split
  · next hquoted _ _ _ _ _ hprint =>
    obtain ⟨hquote, hbackslash⟩ := not_or.1 hquoted
    exact .plain hquote hbackslash hprint.1 hprint.2
  split
  · next hplane => exact .unit hplane
  · next hplane => exact .pair (Nat.not_lt.1 hplane)

/-- An escaped character is read as its code units. -/
theorem codes?_escape (c : Char) (rest : List Char) :
    codes? (escape c ++ rest) = (codes? rest).map fun read => (units c ++ read.1, read.2) := by
  have hlt := toNat_lt c
  generalize hs : escape c = s
  have hescapes := hs ▸ escapes_escape c
  cases hescapes with
  | letter hl hc hplane =>
    rw [units, if_pos hplane]
    have hu : 'u' ∉ letters := by decide
    exact codes?_letter (fun h => hu (h ▸ hl)) hc rest
  | plain hquote hbackslash hleast hmost =>
    rw [units, if_pos (by omega)]
    exact codes?_plain hquote hbackslash hleast rest
  | unit hplane =>
    rw [units, if_pos hplane]
    exact codes?_escapeUnit hplane rest
  | pair hplane =>
    rw [units, if_neg (by omega), List.append_assoc, codes?_escapeUnit (by omega),
      codes?_escapeUnit (by omega)]
    cases codes? rest <;> rfl

/-! ### Joining units -/

/-- The code of a character is joined to the character. -/
theorem joinPairs_cons {n : Nat} (hhigh : isHigh n = false) (hlow : isLow n = false)
    (codes : List Nat) :
    joinPairs (n :: codes) = (joinPairs codes).map (Char.ofNat n :: ·) := by
  cases codes with
  | nil => simp [joinPairs, hhigh, hlow]
  | cons m codes => simp [joinPairs, hhigh, hlow]

/-- The code units of a character are joined to the character. -/
theorem joinPairs_units_append (c : Char) (codes : List Nat) :
    joinPairs (units c ++ codes) = (joinPairs codes).map (c :: ·) := by
  have hlt := toNat_lt c
  unfold units
  split
  · obtain ⟨hhigh, hlow⟩ := not_surrogate c
    exact (joinPairs_cons hhigh hlow codes).trans (by rw [Char.ofNat_toNat])
  · next hplane =>
    have hhigh : isHigh (0xd800 + (c.toNat - 0x10000) / 1024) = true := by
      unfold isHigh
      rw [Bool.and_eq_true, decide_eq_true_eq, decide_eq_true_eq]
      omega
    have hlow : isLow (0xdc00 + (c.toNat - 0x10000) % 1024) = true := by
      unfold isLow
      rw [Bool.and_eq_true, decide_eq_true_eq, decide_eq_true_eq]
      omega
    have hcode : 0x10000 + (0xd800 + (c.toNat - 0x10000) / 1024 - 0xd800) * 1024 +
        (0xdc00 + (c.toNat - 0x10000) % 1024 - 0xdc00) = c.toNat := by omega
    simp only [List.cons_append, List.nil_append]
    rw [joinPairs, if_pos hhigh, if_pos hlow, hcode, Char.ofNat_toNat]

/-- The code units of a text are joined to the text. -/
theorem joinPairs_units (s : List Char) : joinPairs (s.flatMap units) = some s := by
  induction s with
  | nil => rfl
  | cons c s ih => rw [List.flatMap_cons, joinPairs_units_append, ih, Option.map_some]

/-! ### Texts -/

theorem codes?_escaped (s rest : List Char) :
    codes? (s.flatMap escape ++ '\x22' :: rest) = some (s.flatMap units, rest) := by
  induction s with
  | nil => rfl
  | cons c s ih =>
    rw [List.flatMap_cons, List.append_assoc, codes?_escape, ih, Option.map_some,
      List.flatMap_cons]

/-- **A text that is written is read back.** -/
theorem text?_escaped (s : String) (rest : List Char) :
    text? (s.toList.flatMap escape ++ '\x22' :: rest) = some (s, rest) := by
  unfold text?
  rw [codes?_escaped]
  dsimp only [Option.bind_eq_bind, Option.bind_some]
  rw [joinPairs_units]
  dsimp only [Option.bind_some]
  rw [String.ofList_toList]
  rfl

/-! ### Printable characters -/

/-- A text of printable ASCII characters, which is on one line. -/
def IsPrintable (s : List Char) : Prop := ∀ c ∈ s, 0x20 ≤ c.toNat ∧ c.toNat ≤ 0x7e

instance (s : List Char) : Decidable (IsPrintable s) := List.decidableBAll _ s

theorem IsPrintable.append {s t : List Char} (hs : IsPrintable s) (ht : IsPrintable t) :
    IsPrintable (s ++ t) :=
  List.forall_mem_append.2 ⟨hs, ht⟩

theorem isPrintable_escapeUnit (n : Nat) : IsPrintable (escapeUnit n) := by
  have hall : ∀ k : Fin 16, IsPrintable [hexDigit k] := by decide
  have hdigit (k : Nat) : IsPrintable [hexDigit (k % 16)] :=
    hall ⟨k % 16, Nat.mod_lt k (by decide)⟩
  have hstart : IsPrintable ['\x5c', 'u'] := by decide
  exact hstart.append ((hdigit _).append ((hdigit _).append ((hdigit _).append (hdigit _))))

/-- What is written of a character is printable. -/
theorem isPrintable_escape (c : Char) : IsPrintable (escape c) := by
  have hletters : IsPrintable letters := by decide
  generalize hs : escape c = s
  have hescapes := hs ▸ escapes_escape c
  cases hescapes with
  | @letter l hl =>
    intro d hd
    simp only [List.mem_cons, List.not_mem_nil, or_false] at hd
    rcases hd with rfl | rfl
    · decide
    · exact hletters _ hl
  | plain _ _ hleast hmost =>
    intro d hd
    rw [List.mem_singleton.1 hd]
    exact ⟨hleast, hmost⟩
  | unit => exact isPrintable_escapeUnit _
  | pair => exact (isPrintable_escapeUnit _).append (isPrintable_escapeUnit _)

theorem isPrintable_quote (s : String) : IsPrintable (quote s) := by
  have hmark : IsPrintable ['\x22'] := by decide
  refine (hmark.append ?_).append hmark
  intro c hc
  obtain ⟨d, -, hd⟩ := List.mem_flatMap.1 hc
  exact isPrintable_escape d c hd

end Json
end ClientTrial
