/-!
# Calls that answer or are refused

What it means for a call to answer that is made of other calls, whatever it is refused
with.

## Main results

* `Except.bind_eq_ok`, `Except.map_eq_ok` — a call after another, and a call whose answer is
  changed.
* `Except.ite_error_eq_ok`, `Except.ite_ok_eq_ok` — a call that is guarded.
-/

namespace ClientTrial
namespace Except

variable {ε α β : Type}

/-- A call answers after another iff both answer. -/
theorem bind_eq_ok {e : Except ε α} {next : α → Except ε β} {b : β} :
    (e >>= next) = .ok b ↔ ∃ a, e = .ok a ∧ next a = .ok b := by
  cases e with
  | error problem => exact iff_of_false (nomatch ·) fun ⟨_, h, _⟩ => nomatch h
  | ok a => exact ⟨fun h => ⟨a, rfl, h⟩, fun ⟨_, rfl, h⟩ => h⟩

theorem map_eq_ok {e : Except ε α} {f : α → β} {b : β} :
    e.map f = .ok b ↔ ∃ a, e = .ok a ∧ f a = b := by
  cases e with
  | ok a => simp [Except.map]
  | error problem => simp [Except.map]

variable {p : Prop} [Decidable p] {problem : ε} {a b : α}

theorem ite_error_eq_ok : (if p then .error problem else .ok a) = Except.ok b ↔ ¬p ∧ a = b := by
  split
  · next h => simp [h]
  · next h => simp [h]

theorem ite_ok_eq_ok : (if p then .ok a else .error problem) = Except.ok b ↔ p ∧ a = b := by
  split
  · next h => simp [h]
  · next h => simp [h]

end Except
end ClientTrial
