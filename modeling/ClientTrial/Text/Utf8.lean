/-!
# Reading octets as text

Captured output is decoded as UTF-8.  It may be cut anywhere or hold arbitrary
octets, so decoding never fails: each maximal ill-formed piece, that is the
longest initial part of a well-formed sequence or else a single octet, reads as
one replacement character `U+FFFD`.

The decoder is a machine that consumes one octet at a time.  Its state is what
is still expected of the sequence begun last; an octet that does not continue
that sequence replaces the begun part and is then looked at afresh.

## Main definitions

* `Expect` — the state between two octets.
* `lead`, `feed`, `flush` — what an octet, or the end, yields.
* `decodeFrom`, `decode` — the machine run over all octets.
* `encode` — the octets of a text.

## Main results

* `decodeFrom_append` — decoding in two goes: the state after the first part is
  all that the second part depends on.
-/

namespace ClientTrial
namespace Text

/-- A sequence of octets. -/
abbrev Octets := List UInt8

namespace Utf8

/-- What is expected of the next octet. -/
inductive Expect where
  /-- A new character begins. -/
  | fresh
  /-- `left` more octets are due, the next one between `lo` and `hi`; `code` holds the bits
  collected so far. -/
  | more (left lo hi code : Nat)
  deriving DecidableEq, Repr

/-- The character that stands for an ill-formed piece. -/
def replacement : Char := '\ufffd'

/-- An octet at which a new character begins. -/
def lead (b : Nat) : List Char × Expect :=
  if b < 0x80 then ([Char.ofNat b], .fresh)
  else if b < 0xc2 then ([replacement], .fresh)
  else if b < 0xe0 then ([], .more 1 0x80 0xbf (b - 0xc0))
  else if b = 0xe0 then ([], .more 2 0xa0 0xbf 0)
  else if b = 0xed then ([], .more 2 0x80 0x9f 0xd)
  else if b < 0xf0 then ([], .more 2 0x80 0xbf (b - 0xe0))
  else if b = 0xf0 then ([], .more 3 0x90 0xbf 0)
  else if b < 0xf4 then ([], .more 3 0x80 0xbf (b - 0xf0))
  else if b = 0xf4 then ([], .more 3 0x80 0x8f 4)
  else ([replacement], .fresh)

/-- The next octet: it continues the sequence begun, or it begins a new one after the begun part
has been replaced. -/
def feed : Expect → Nat → List Char × Expect
  | .fresh, b => lead b
  | .more left lo hi code, b =>
    if lo ≤ b ∧ b ≤ hi then
      let code := code * 64 + b % 64
      if left ≤ 1 then ([Char.ofNat code], .fresh) else ([], .more (left - 1) 0x80 0xbf code)
    else
      let (out, next) := lead b
      (replacement :: out, next)

/-- The end of the octets: a sequence that was begun is replaced. -/
def flush : Expect → List Char
  | .fresh => []
  | .more .. => [replacement]

/-- The characters of the octets that follow in a given state. -/
def decodeFrom : Expect → Octets → List Char
  | state, [] => flush state
  | state, b :: rest => (feed state b.toNat).1 ++ decodeFrom (feed state b.toNat).2 rest

@[simp] theorem decodeFrom_nil (state : Expect) : decodeFrom state [] = flush state := rfl

@[simp] theorem decodeFrom_cons (state : Expect) (b : UInt8) (rest : Octets) :
    decodeFrom state (b :: rest) =
      (feed state b.toNat).1 ++ decodeFrom (feed state b.toNat).2 rest := rfl

/-- The state after some octets, and the characters that they completed. -/
def run : Expect → Octets → List Char × Expect
  | state, [] => ([], state)
  | state, b :: rest =>
    let (out, next) := feed state b.toNat
    let (more, last) := run next rest
    (out ++ more, last)

theorem decodeFrom_append (state : Expect) (xs ys : Octets) :
    decodeFrom state (xs ++ ys) = (run state xs).1 ++ decodeFrom (run state xs).2 ys := by
  induction xs generalizing state with
  | nil => rfl
  | cons b rest ih => simp [run, ih]

/-- The characters of a sequence of octets. -/
def decode (octets : Octets) : List Char := decodeFrom .fresh octets

/-- The octets of a sequence of characters. -/
def encode (chars : List Char) : Octets := chars.flatMap String.utf8EncodeChar

end Utf8

/-- The text that a sequence of octets reads as. -/
def ofOctets (octets : Octets) : String := String.ofList (Utf8.decode octets)

/-- The octets that a text is written as. -/
def toOctets (s : String) : Octets := Utf8.encode s.toList

end Text
end ClientTrial
