import ClientTrial.Text.Utf8
import Mathlib.Data.List.Infix

/-!
# Octets and the characters they read as

Decoding cuts octets into pieces, each of which reads as one character.  A piece that is
ill-formed reads as the replacement character; any other piece is the encoding of the
character that it reads as.  An encoded character, in turn, is read as that character
wherever it stands, since its first octet continues nothing that was begun before it.

So a text without replacement characters stands in what some octets read as exactly if its
own octets stand in them.

## Main definitions

* `Piece` — some octets and the character that they read as.
* `Completes`, `Begun` — what some octets begin, and how it goes on.
* `Cuts` — some octets cut into pieces, and what is left over.

## Main results

* `cuts_decodeFrom` — decoding cuts octets into pieces.
* `decodeFrom_encodeChar` — an encoded character is read wherever it stands.
* `infix_decode_iff` — **self-synchronisation**: characters other than the replacement
  character stand in a decoded text iff their encoding stands in the octets.
-/

namespace ClientTrial
namespace Text
namespace Utf8

open String (utf8EncodeChar)

/-! ### The octets of a character -/

theorem toNat_val_ofNat {n : Nat} (h : n < 0xd800 ∨ 0xdfff < n ∧ n < 0x110000) :
    (Char.ofNat n).val.toNat = n := by
  have hvalid : n.isValidChar := h
  have hlt : n < UInt32.size := by
    rcases h with h | h <;> simp only [UInt32.size] <;> omega
  rw [Char.ofNat, dif_pos hvalid]
  exact UInt32.toNat_ofNatLT

theorem ofNat_eq {n : Nat} {b : UInt8} (h : n = b.toNat) : UInt8.ofNat n = b := by
  rw [h, UInt8.ofNat_toNat]

/-- One octet is a character of its own. -/
theorem encode_one {a : UInt8} (ha : a.toNat < 0x80) :
    utf8EncodeChar (Char.ofNat a.toNat) = [a] := by
  unfold utf8EncodeChar
  rw [toNat_val_ofNat (.inl (by omega))]
  dsimp only
  rw [if_pos (by omega), ofNat_eq rfl]

theorem encode_two {a b : UInt8} (ha : 0xc2 ≤ a.toNat) (ha' : a.toNat < 0xe0)
    (hb : 0x80 ≤ b.toNat) (hb' : b.toNat ≤ 0xbf) :
    utf8EncodeChar (Char.ofNat ((a.toNat - 0xc0) * 64 + b.toNat % 64)) = [a, b] := by
  unfold utf8EncodeChar
  rw [toNat_val_ofNat (.inl (by omega))]
  dsimp only
  rw [if_neg (by omega), if_pos (by omega), @ofNat_eq _ a (by omega), @ofNat_eq _ b (by omega)]

theorem encode_three {a b c : UInt8} (ha : 0xe0 ≤ a.toNat) (ha' : a.toNat < 0xf0)
    (hb : 0x80 ≤ b.toNat) (hb' : b.toNat ≤ 0xbf) (hc : 0x80 ≤ c.toNat) (hc' : c.toNat ≤ 0xbf)
    (hlow : a.toNat = 0xe0 → 0xa0 ≤ b.toNat) (hhigh : a.toNat = 0xed → b.toNat ≤ 0x9f) :
    utf8EncodeChar (Char.ofNat (((a.toNat - 0xe0) * 64 + b.toNat % 64) * 64 + c.toNat % 64)) =
      [a, b, c] := by
  unfold utf8EncodeChar
  rw [toNat_val_ofNat (by omega)]
  dsimp only
  rw [if_neg (by omega), if_neg (by omega), if_pos (by omega), @ofNat_eq _ a (by omega),
    @ofNat_eq _ b (by omega), @ofNat_eq _ c (by omega)]

theorem encode_four {a b c d : UInt8} (ha : 0xf0 ≤ a.toNat) (ha' : a.toNat ≤ 0xf4)
    (hb : 0x80 ≤ b.toNat) (hb' : b.toNat ≤ 0xbf) (hc : 0x80 ≤ c.toNat) (hc' : c.toNat ≤ 0xbf)
    (hd : 0x80 ≤ d.toNat) (hd' : d.toNat ≤ 0xbf)
    (hlow : a.toNat = 0xf0 → 0x90 ≤ b.toNat) (hhigh : a.toNat = 0xf4 → b.toNat ≤ 0x8f) :
    utf8EncodeChar (Char.ofNat ((((a.toNat - 0xf0) * 64 + b.toNat % 64) * 64 + c.toNat % 64) * 64 +
      d.toNat % 64)) = [a, b, c, d] := by
  unfold utf8EncodeChar
  rw [toNat_val_ofNat (by omega)]
  dsimp only
  rw [if_neg (by omega), if_neg (by omega), if_neg (by omega), @ofNat_eq _ a (by omega),
    @ofNat_eq _ b (by omega), @ofNat_eq _ c (by omega), @ofNat_eq _ d (by omega)]

/-! ### One octet after another -/

theorem lead_one {a : Nat} (ha : a < 0x80) : lead a = ([Char.ofNat a], .fresh) := if_pos ha

theorem lead_two {a : Nat} (ha : 0xc2 ≤ a) (ha' : a < 0xe0) :
    lead a = ([], .more 1 0x80 0xbf (a - 0xc0)) := by
  unfold lead
  rw [if_neg (by omega), if_neg (by omega), if_pos ha']

theorem lead_three {a : Nat} (ha : 0xe0 ≤ a) (ha' : a < 0xf0) :
    lead a = ([], .more 2 (if a = 0xe0 then 0xa0 else 0x80) (if a = 0xed then 0x9f else 0xbf)
      (a - 0xe0)) := by
  unfold lead
  rw [if_neg (by omega), if_neg (by omega), if_neg (by omega)]
  by_cases he : a = 0xe0
  · subst he
    rfl
  by_cases hd : a = 0xed
  · subst hd
    rfl
  · rw [if_neg he, if_neg hd, if_pos ha', if_neg he, if_neg hd]

theorem lead_four {a : Nat} (ha : 0xf0 ≤ a) (ha' : a ≤ 0xf4) :
    lead a = ([], .more 3 (if a = 0xf0 then 0x90 else 0x80) (if a = 0xf4 then 0x8f else 0xbf)
      (a - 0xf0)) := by
  unfold lead
  rw [if_neg (by omega), if_neg (by omega), if_neg (by omega), if_neg (by omega),
    if_neg (by omega), if_neg (by omega)]
  by_cases h0 : a = 0xf0
  · subst h0
    rfl
  by_cases h4 : a = 0xf4
  · subst h4
    rfl
  · rw [if_neg h0, if_pos (by omega), if_neg h0, if_neg h4]

/-- An octet that begins no character is replaced. -/
theorem lead_ill {a : Nat} (ha : 0x80 ≤ a) (ha' : a < 0xc2 ∨ 0xf4 < a) :
    lead a = ([replacement], .fresh) := by
  unfold lead
  rw [if_neg (by omega)]
  rcases ha' with ha' | ha'
  · rw [if_pos ha']
  · rw [if_neg (by omega), if_neg (by omega), if_neg (by omega), if_neg (by omega),
      if_neg (by omega), if_neg (by omega), if_neg (by omega), if_neg (by omega)]

theorem feed_last {lo hi code b : Nat} (hb : lo ≤ b) (hb' : b ≤ hi) :
    feed (.more 1 lo hi code) b = ([Char.ofNat (code * 64 + b % 64)], .fresh) := by
  rw [feed, if_pos ⟨hb, hb'⟩]
  rfl

theorem feed_onward {left lo hi code b : Nat} (hb : lo ≤ b) (hb' : b ≤ hi) :
    feed (.more (left + 2) lo hi code) b =
      ([], .more (left + 1) 0x80 0xbf (code * 64 + b % 64)) := by
  rw [feed, if_pos ⟨hb, hb'⟩]
  rfl

/-- An octet that does not continue what was begun replaces it and begins afresh. -/
theorem feed_afresh {left lo hi code b : Nat} (hb : ¬(lo ≤ b ∧ b ≤ hi)) :
    feed (.more left lo hi code) b = (replacement :: (lead b).1, (lead b).2) := by
  rw [feed, if_neg hb]

/-! ### Pieces -/

/-- Some octets and the character that they read as.  Unless they are replaced, they are the octets
of that character. -/
structure Piece where
  char : Char
  octets : Octets
  faithful : char = replacement ∨ octets = utf8EncodeChar char

/-- Some octets go on to the encoding of a character: `left` more octets are due, the next one
between `lo` and `hi`, and they add their bits to `code`. -/
def Completes : (begun : Octets) → (left lo hi code : Nat) → Prop
  | _, 0, _, _, _ => False
  | begun, 1, lo, hi, code =>
    ∀ b : UInt8, lo ≤ b.toNat → b.toNat ≤ hi →
      utf8EncodeChar (Char.ofNat (code * 64 + b.toNat % 64)) = begun ++ [b]
  | begun, left + 2, lo, hi, code =>
    ∀ b : UInt8, lo ≤ b.toNat → b.toNat ≤ hi →
      Completes (begun ++ [b]) (left + 1) 0x80 0xbf (code * 64 + b.toNat % 64)

/-- The octets consumed since the last character was complete. -/
def Begun (begun : Octets) : Expect → Prop
  | .fresh => begun = []
  | .more left lo hi code => Completes begun left lo hi code

/-- Some octets are cut into pieces that read as the given characters, and some are left over. -/
def Cuts (octets : Octets) (chars : List Char) (kept : Octets) : Prop :=
  ∃ pieces : List Piece,
    pieces.map Piece.char = chars ∧ pieces.flatMap Piece.octets ++ kept = octets

theorem Cuts.nil (octets : Octets) : Cuts octets [] octets := ⟨[], rfl, rfl⟩

/-- One more piece at the start. -/
theorem Cuts.cons {octets kept : Octets} {chars : List Char} (p : Piece)
    (h : Cuts octets chars kept) : Cuts (p.octets ++ octets) (p.char :: chars) kept := by
  obtain ⟨pieces, rfl, rfl⟩ := h
  exact ⟨p :: pieces, rfl, by simp⟩

theorem Cuts.append {octets kept later rest : Octets} {chars more : List Char}
    (h : Cuts octets chars kept) (hl : Cuts (kept ++ later) more rest) :
    Cuts (octets ++ later) (chars ++ more) rest := by
  obtain ⟨pieces, rfl, rfl⟩ := h
  obtain ⟨others, rfl, hothers⟩ := hl
  refine ⟨pieces ++ others, by simp, ?_⟩
  rw [List.flatMap_append, List.append_assoc, hothers, List.append_assoc]

/-- Octets that are replaced. -/
theorem cuts_replaced (octets : Octets) : Cuts octets [replacement] [] :=
  ⟨[⟨replacement, octets, .inl rfl⟩], rfl, by simp⟩

theorem cuts_encoded {octets : Octets} {c : Char} (h : utf8EncodeChar c = octets) :
    Cuts octets [c] [] :=
  ⟨[⟨c, octets, .inr h.symm⟩], rfl, by simp⟩

/-- What the first octet of a character begins. -/
theorem cuts_lead (b : UInt8) :
    ∃ kept, Begun kept (lead b.toNat).2 ∧ Cuts [b] (lead b.toNat).1 kept := by
  by_cases h1 : b.toNat < 0x80
  · rw [lead_one h1]
    exact ⟨[], rfl, cuts_encoded (encode_one h1)⟩
  by_cases hill : b.toNat < 0xc2 ∨ 0xf4 < b.toNat
  · rw [lead_ill (by omega) hill]
    exact ⟨[], rfl, cuts_replaced [b]⟩
  refine ⟨[b], ?_, ?_⟩
  · by_cases h2 : b.toNat < 0xe0
    · rw [lead_two (by omega) h2]
      intro c hc hc'
      exact encode_two (by omega) h2 hc hc'
    by_cases h3 : b.toNat < 0xf0
    · rw [lead_three (by omega) h3]
      intro c hc hc' d hd hd'
      refine encode_three (by omega) h3 ?_ ?_ hd hd' ?_ ?_ <;> split at hc <;> split at hc' <;> omega
    · rw [lead_four (by omega) (by omega)]
      intro c hc hc' d hd hd' e he he'
      refine encode_four (by omega) (by omega) ?_ ?_ hd hd' he he' ?_ ?_ <;>
        split at hc <;> split at hc' <;> omega
  · have hnone : (lead b.toNat).1 = [] := by
      by_cases h2 : b.toNat < 0xe0
      · rw [lead_two (by omega) h2]
      by_cases h3 : b.toNat < 0xf0
      · rw [lead_three (by omega) h3]
      · rw [lead_four (by omega) (by omega)]
    rw [hnone]
    exact .nil [b]

/-- One more octet is cut into pieces together with those that were begun. -/
theorem cuts_feed {begun : Octets} {state : Expect} (h : Begun begun state) (b : UInt8) :
    ∃ kept, Begun kept (feed state b.toNat).2 ∧ Cuts (begun ++ [b]) (feed state b.toNat).1 kept := by
  cases state with
  | fresh =>
    obtain rfl : begun = [] := h
    exact cuts_lead b
  | more left lo hi code =>
    by_cases hb : lo ≤ b.toNat ∧ b.toNat ≤ hi
    · rcases left with _ | _ | left
      · exact h.elim
      · -- the character is complete
        rw [feed_last hb.1 hb.2]
        exact ⟨[], rfl, cuts_encoded (h b hb.1 hb.2)⟩
      · rw [feed_onward hb.1 hb.2]
        exact ⟨begun ++ [b], h b hb.1 hb.2, .nil _⟩
    · rw [feed_afresh hb]
      obtain ⟨kept, hkept, hcuts⟩ := cuts_lead b
      exact ⟨kept, hkept, hcuts.cons ⟨replacement, begun, .inl rfl⟩⟩

/-- Decoding cuts octets into pieces. -/
theorem cuts_decodeFrom {begun : Octets} {state : Expect} (h : Begun begun state)
    (octets : Octets) : Cuts (begun ++ octets) (decodeFrom state octets) [] := by
  induction octets generalizing begun state with
  | nil =>
    rw [List.append_nil]
    cases state with
    | fresh =>
      obtain rfl : begun = [] := h
      exact .nil []
    | more left lo hi code => exact cuts_replaced begun
  | cons b rest ih =>
    obtain ⟨kept, hkept, hcuts⟩ := cuts_feed h b
    have hrest := hcuts.append (ih hkept)
    rwa [List.append_assoc] at hrest

/-! ### Encoded characters -/

/-- What is begun is continued by no octet that begins a character. -/
def Expect.AwaitsTail : Expect → Prop
  | .fresh => True
  | .more _ lo hi _ => 0x80 ≤ lo ∧ hi ≤ 0xbf

theorem awaitsTail_fresh : Expect.AwaitsTail .fresh := trivial

theorem awaitsTail_lead (b : Nat) : (lead b).2.AwaitsTail := by
  unfold lead
  split_ifs <;> simp [Expect.AwaitsTail]

theorem awaitsTail_feed (state : Expect) (b : Nat) : (feed state b).2.AwaitsTail := by
  cases state with
  | fresh => exact awaitsTail_lead b
  | more left lo hi code =>
    by_cases hb : lo ≤ b ∧ b ≤ hi
    · rw [feed, if_pos hb]
      dsimp only
      split
      · trivial
      · exact ⟨Nat.le_refl _, Nat.le_refl _⟩
    · rw [feed_afresh hb]
      exact awaitsTail_lead b

theorem awaitsTail_run {state : Expect} (h : state.AwaitsTail) (octets : Octets) :
    (run state octets).2.AwaitsTail := by
  induction octets generalizing state with
  | nil => exact h
  | cons b rest ih => exact ih (awaitsTail_feed state b.toNat)

/-- An octet that begins a character first has what was begun before replaced. -/
theorem feed_of_awaitsTail {state : Expect} (h : state.AwaitsTail) {b : Nat}
    (hb : b < 0x80 ∨ 0xbf < b) : feed state b = (flush state ++ (lead b).1, (lead b).2) := by
  cases state with
  | fresh => rfl
  | more left lo hi code =>
    rw [feed_afresh fun hin => by obtain ⟨hlo, hhi⟩ := h; omega]
    rfl

theorem toNat_ofNat {n : Nat} (h : n < 256) : (UInt8.ofNat n).toNat = n := by
  rw [UInt8.toNat_ofNat', Nat.mod_eq_of_lt h]

/-- An encoded character is read where a new character begins. -/
theorem decodeFrom_fresh_encodeChar (c : Char) (rest : Octets) :
    decodeFrom .fresh (utf8EncodeChar c ++ rest) = c :: decodeFrom .fresh rest := by
  have hvalid : c.val.toNat < 0xd800 ∨ 0xdfff < c.val.toNat ∧ c.val.toNat < 0x110000 := c.valid
  have hself : Char.ofNat c.val.toNat = c := Char.ofNat_toNat c
  unfold utf8EncodeChar
  generalize c.val.toNat = v at hvalid hself
  have hread {n : Nat} (h : n = v) : [Char.ofNat n] = [c] := by rw [h, hself]
  dsimp only
  split_ifs with h1 h2 h3
  · simp only [List.cons_append, List.nil_append, decodeFrom_cons]
    rw [toNat_ofNat (by omega), feed, lead_one (by omega), hself]
    rfl
  · simp only [List.cons_append, List.nil_append, decodeFrom_cons]
    rw [toNat_ofNat (by omega), toNat_ofNat (by omega), feed, lead_two (by omega) (by omega),
      feed_last (by omega) (by omega), hread (by omega)]
    rfl
  · simp only [List.cons_append, List.nil_append, decodeFrom_cons]
    rw [toNat_ofNat (by omega), toNat_ofNat (by omega), toNat_ofNat (by omega), feed,
      lead_three (by omega) (by omega), feed_onward (by split <;> omega) (by split <;> omega),
      feed_last (by omega) (by omega), hread (by omega)]
    rfl
  · simp only [List.cons_append, List.nil_append, decodeFrom_cons]
    rw [toNat_ofNat (by omega), toNat_ofNat (by omega), toNat_ofNat (by omega),
      toNat_ofNat (by omega), feed, lead_four (by omega) (by omega),
      feed_onward (by split <;> omega) (by split <;> omega), feed_onward (by omega) (by omega),
      feed_last (by omega) (by omega), hread (by omega)]
    rfl

/-- The first octet of a character. -/
theorem exists_encodeChar (c : Char) :
    ∃ b tail, utf8EncodeChar c = b :: tail ∧ (b.toNat < 0x80 ∨ 0xbf < b.toNat) := by
  unfold utf8EncodeChar
  dsimp only
  split_ifs with h1 h2 h3
  · exact ⟨_, _, rfl, .inl (by rw [toNat_ofNat (by omega)]; omega)⟩
  · exact ⟨_, _, rfl, .inr (by rw [toNat_ofNat (by omega)]; omega)⟩
  · exact ⟨_, _, rfl, .inr (by rw [toNat_ofNat (by omega)]; omega)⟩
  · exact ⟨_, _, rfl, .inr (by rw [toNat_ofNat (by omega)]; omega)⟩

/-- An encoded character is read wherever it stands. -/
theorem decodeFrom_encodeChar {state : Expect} (h : state.AwaitsTail) (c : Char) (rest : Octets) :
    decodeFrom state (utf8EncodeChar c ++ rest) =
      flush state ++ c :: decodeFrom .fresh rest := by
  rw [← decodeFrom_fresh_encodeChar c rest]
  obtain ⟨b, tail, hb, hfirst⟩ := exists_encodeChar c
  rw [hb, List.cons_append, decodeFrom_cons, decodeFrom_cons, feed_of_awaitsTail h hfirst,
    List.append_assoc]
  rfl

theorem decodeFrom_fresh_encode (chars : List Char) (rest : Octets) :
    decodeFrom .fresh (encode chars ++ rest) = chars ++ decodeFrom .fresh rest := by
  induction chars with
  | nil => rfl
  | cons c later ih =>
    rw [encode, List.flatMap_cons, List.append_assoc, decodeFrom_fresh_encodeChar]
    exact congrArg (c :: ·) ih

/-! ### Self-synchronisation -/

/-- Characters stand in a text if their octets stand in the octets, whatever stands around them. -/
theorem infix_decode_of_infix {chars : List Char} {octets : Octets}
    (h : encode chars <:+: octets) : chars <:+: decode octets := by
  obtain ⟨before, after, rfl⟩ := h
  cases chars with
  | nil => exact List.nil_infix
  | cons c later =>
    have hstate : (run .fresh before).2.AwaitsTail := awaitsTail_run awaitsTail_fresh before
    refine ⟨(run .fresh before).1 ++ flush (run .fresh before).2, decodeFrom .fresh after, ?_⟩
    rw [decode, List.append_assoc before, decodeFrom_append]
    rw [encode, List.flatMap_cons, List.append_assoc (utf8EncodeChar c),
      decodeFrom_encodeChar hstate]
    rw [show later.flatMap utf8EncodeChar = encode later from rfl, decodeFrom_fresh_encode]
    simp

/-- Characters that are no replacements are read from their own octets. -/
theorem infix_of_infix_decode {chars : List Char} {octets : Octets} (hne : replacement ∉ chars)
    (h : chars <:+: decode octets) : encode chars <:+: octets := by
  obtain ⟨pieces, hchars, hoctets⟩ := cuts_decodeFrom (show Begun [] .fresh from rfl) octets
  obtain ⟨before, after, hinfix⟩ := h
  rw [decode, ← hchars, List.append_assoc] at hinfix
  -- the pieces are split where the characters begin and where they end
  obtain ⟨first, others, rfl, -, hothers⟩ := List.map_eq_append_iff.1 hinfix.symm
  obtain ⟨middle, last, rfl, hmiddle, -⟩ := List.map_eq_append_iff.1 hothers
  have hencoded : middle.flatMap Piece.octets = encode chars := by
    rw [← hmiddle, encode, List.flatMap_map]
    refine List.flatMap_congr fun p hp => p.faithful.resolve_left fun hreplaced => hne ?_
    rw [← hmiddle, ← hreplaced]
    exact List.mem_map_of_mem hp
  refine ⟨first.flatMap Piece.octets, last.flatMap Piece.octets, ?_⟩
  rw [← hencoded, ← List.flatMap_append, ← List.flatMap_append, List.append_assoc]
  simpa using hoctets

/-- **Self-synchronisation.**  Characters other than the replacement character stand in what some
octets read as iff their own octets stand in them. -/
theorem infix_decode_iff {chars : List Char} (hne : replacement ∉ chars) (octets : Octets) :
    chars <:+: decode octets ↔ encode chars <:+: octets :=
  ⟨infix_of_infix_decode hne, infix_decode_of_infix⟩

end Utf8
end Text
end ClientTrial
