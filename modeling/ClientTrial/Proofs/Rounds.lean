/-!
# Rounds

Some waits go in rounds: a round either sees what is waited for, or finds that it is
worth going on, or ends the wait in another way.  What is waited for is seen in some
round if all rounds before it went on.

## Main definitions

* `Rounds` — what a round can come to, and what it leaves.
* `Rounds.after` — what some rounds leave.
* `Rounds.StopsAt` — the round in which it is seen.

## Main results

* `Rounds.stopsAt_zero`, `Rounds.stopsAt_succ` — the rounds one by one.
-/

namespace ClientTrial

/-- What rounds on some state can come to, and the state that a round leaves. -/
structure Rounds (α : Type) where
  /-- A round sees what is waited for. -/
  stops : α → Prop
  /-- A round does not see it, and another may follow. -/
  goesOn : α → Prop
  /-- The state that a round leaves. -/
  next : α → α

namespace Rounds

variable {α : Type} (r : Rounds α)

/-- The state after some rounds. -/
def after : (rounds : Nat) → α → α
  | 0, s => s
  | rounds + 1, s => after rounds (r.next s)

/-- After some rounds that all go on there is one that stops. -/
def StopsAt (k : Nat) (s : α) : Prop := r.stops (r.after k s) ∧ ∀ i < k, r.goesOn (r.after i s)

theorem stopsAt_zero {s : α} : r.StopsAt 0 s ↔ r.stops s := by
  constructor
  · intro h
    exact h.1
  · intro h
    exact ⟨h, fun i hi => absurd hi (Nat.not_lt_zero i)⟩

theorem stopsAt_succ {k : Nat} {s : α} :
    r.StopsAt (k + 1) s ↔ r.goesOn s ∧ r.StopsAt k (r.next s) := by
  constructor
  · rintro ⟨hstops, hgoesOn⟩
    exact ⟨hgoesOn 0 (Nat.succ_pos k), hstops, fun i hi => hgoesOn (i + 1) (Nat.succ_lt_succ hi)⟩
  · rintro ⟨hfirst, hstops, hgoesOn⟩
    refine ⟨hstops, fun i hi => ?_⟩
    cases i with
    | zero => exact hfirst
    | succ i => exact hgoesOn i (Nat.lt_of_succ_lt_succ hi)

end Rounds
end ClientTrial
