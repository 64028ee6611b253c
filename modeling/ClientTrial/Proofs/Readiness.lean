import ClientTrial.Proofs.Rounds
import ClientTrial.Readiness

/-!
# When a server is found ready

The attempts at a connection are rounds.  A round in which the server is not ready
yet reports so and lets some seconds pass; then comes the next.  A server is found
ready iff some attempt within the budget connects and every round before it said
"not yet".  Any other end of an attempt, and a pause that goes wrong, ends the wait.

## Main definitions

* `Attempts` — what all attempts have in common.
* `Attempts.Connects`, `Attempts.SaysNotYet` — what a round can come to.
* `Attempts.FindsReady` — the server is found ready within a budget.

## Main results

* `Attempts.onward_answers_iff` — the attempts answer iff one of them connects after rounds that
  said "not yet".
* `Attempts.awaitReachable_answers_iff` — the wait answers iff the server is found ready.
-/

namespace ClientTrial

open Act

/-- What all attempts at a connection have in common. -/
structure Attempts where
  host : String
  port : Int
  timeout : Float
  pause : Float
  budget : Int

namespace Attempts

variable (a : Attempts)

/-- The fault that says "not yet" is what was raised. -/
theorem text_of_notYet {raised : Raised} {cause : Fault} (h : notYet? raised = some cause) :
    cause.text = raised.text := by
  rcases raised with (⟨e, f⟩ | f) | _ | _ <;> simp only [notYet?, reduceCtorEq] at h
  split at h
  · cases h
    rfl
  · cases h

/-- An attempt at a connection. -/
abbrev connects : Act Unit := connect a.host a.port a.timeout

/-- An attempt on a bench succeeds. -/
def Connects (b : Bench) : Prop := a.connects.Answers b

/-- The bench on which a round pauses after an attempt that was ended by something. -/
def pauseBench (number : Int) (raised : Raised) (b : Bench) : Bench :=
  b.saying (.notReachable a.host a.port number a.budget raised.text)

/-- The bench that a round leaves. -/
def roundBench (number : Int) (b : Bench) : Bench :=
  match a.connects.exec b with
  | (.ok (), c) => c
  | (.error raised, c) => ((sleep a.pause).exec (a.pauseBench number raised c)).2

/-- A round on a bench finds that the server is not ready yet, and pauses. -/
def SaysNotYet (number : Int) (b : Bench) : Prop :=
  ∃ raised c, a.connects.exec b = (.error raised, c) ∧ (notYet? raised).isSome = true ∧
    (sleep a.pause).Answers (a.pauseBench number raised c)

/-- The rounds, each with its number and the bench on which it takes place. -/
def rounds : Rounds (Int × Bench) where
  stops s := a.Connects s.2
  goesOn s := a.SaysNotYet s.1 s.2
  next s := (s.1 + 1, a.roundBench s.1 s.2)

/-- From a bench on, some attempt within the budget connects, and every round before it says that
the server is not ready yet. -/
def FindsReady (b : Bench) : Prop := ∃ k : Nat, (k : Int) < a.budget ∧ a.rounds.StopsAt k (1, b)

/-- The attempts from the one with a given number on, of which `left` follow it. -/
def onward (left : Nat) (number : Int) : Act Int :=
  attempts a.host a.port a.timeout a.pause a.budget left number

/-! ### One round -/

theorem exec_onward_of_connects {left : Nat} {number : Int} {b c : Bench}
    (h : a.connects.exec b = (.ok (), c)) : (a.onward left number).exec b = (.ok number, c) := by
  have attempted : (attempt a.connects).exec b = (.ok (.ok ()), c) := by
    rw [exec_attempt, h]
  cases left with
  | zero =>
    rw [onward, attempts, exec_bind_of_ok attempted]
    rfl
  | succ left =>
    rw [onward, attempts, exec_bind_of_ok attempted]
    rfl

/-- After a round that says "not yet" the next round follows. -/
theorem exec_onward_of_saysNotYet {left : Nat} {number : Int} {b : Bench}
    (h : a.SaysNotYet number b) :
    (a.onward (left + 1) number).exec b =
      (a.onward left (number + 1)).exec (a.roundBench number b) := by
  obtain ⟨raised, c, hc, hnot, hpause⟩ := h
  have attempted : (attempt a.connects).exec b = (.ok (.error raised), c) := by
    rw [exec_attempt, hc]
  obtain ⟨cause, hcause⟩ := Option.isSome_iff_exists.1 hnot
  have htext := text_of_notYet hcause
  have hround : a.roundBench number b =
      ((sleep a.pause).exec (a.pauseBench number raised c)).2 := by
    rw [roundBench, hc]
  have hsleep : (sleep a.pause).exec (a.pauseBench number raised c) =
      (.ok (), a.roundBench number b) := by
    obtain ⟨_, d, hd⟩ := exec_of_answers hpause
    rw [hround, hd]
  refine (exec_bind_of_ok attempted _).trans ?_
  dsimp only
  rw [hcause]
  dsimp only
  rw [exec_bind_of_ok (exec_say _ _), htext]
  exact exec_bind_of_ok hsleep _

/-- Only a round that connects ends the wait with an answer, and only one that says "not yet" lets
another follow. -/
theorem connects_or_saysNotYet {left : Nat} {number n : Int} {b d : Bench}
    (h : (a.onward left number).exec b = (.ok n, d)) :
    a.Connects b ∨ ∃ l, left = l + 1 ∧ a.SaysNotYet number b := by
  rcases hc : a.connects.exec b with ⟨raised | _, c⟩
  · right
    have attempted : (attempt a.connects).exec b = (.ok (.error raised), c) := by
      rw [exec_attempt, hc]
    cases left with
    | zero =>
      rw [onward, attempts, exec_bind_of_ok attempted] at h
      dsimp only at h
      split at h <;> cases h
    | succ l =>
      rw [onward, attempts, exec_bind_of_ok attempted] at h
      dsimp only at h
      split at h
      · cases h
      · next cause hcause =>
        rw [exec_bind_of_ok (exec_say _ _), text_of_notYet hcause] at h
        obtain ⟨_, _, hsleep, -⟩ := exec_bind_eq_ok.1 h
        refine ⟨l, rfl, raised, c, hc, ?_, answers_of_exec hsleep⟩
        rw [hcause]
        rfl
  · exact .inl (answers_of_exec hc)

/-! ### All rounds -/

/-- The attempts answer iff one of them connects and every round before it says "not yet". -/
theorem onward_answers_iff (left : Nat) (number : Int) (b : Bench) :
    (a.onward left number).Answers b ↔
      ∃ k ≤ left, a.rounds.StopsAt k (number, b) := by
  have first {left : Nat} {number : Int} {b : Bench} (h : a.Connects b) :
      (a.onward left number).Answers b := by
    obtain ⟨_, c, hc⟩ := exec_of_answers h
    exact answers_of_exec (a.exec_onward_of_connects hc)
  induction left generalizing number b with
  | zero =>
    constructor
    · rintro ⟨n, hn⟩
      rcases a.connects_or_saysNotYet (Prod.ext hn rfl) with h | ⟨_, h, -⟩
      · exact ⟨0, Nat.le_refl 0, a.rounds.stopsAt_zero.2 h⟩
      · cases h
    · rintro ⟨k, hk, h⟩
      obtain rfl := Nat.le_zero.1 hk
      have hconnects := a.rounds.stopsAt_zero.1 h
      exact first hconnects
  | succ left ih =>
    constructor
    · rintro ⟨n, hn⟩
      rcases a.connects_or_saysNotYet (Prod.ext hn rfl) with h | ⟨_, -, h⟩
      · exact ⟨0, Nat.zero_le _, a.rounds.stopsAt_zero.2 h⟩
      · rw [a.exec_onward_of_saysNotYet h] at hn
        obtain ⟨k, hk, hstops⟩ := (ih (number + 1) _).1 ⟨n, hn⟩
        exact ⟨k + 1, Nat.succ_le_succ hk, a.rounds.stopsAt_succ.2 ⟨h, hstops⟩⟩
    · rintro ⟨k, hk, h⟩
      cases k with
      | zero =>
        have hconnects := a.rounds.stopsAt_zero.1 h
        exact first hconnects
      | succ k =>
        obtain ⟨hfirst, hstops⟩ := a.rounds.stopsAt_succ.1 h
        rw [Answers, a.exec_onward_of_saysNotYet hfirst]
        exact (ih (number + 1) _).2 ⟨k, Nat.le_of_succ_le_succ hk, hstops⟩

/-- The wait for a server answers iff the server is found ready. -/
theorem awaitReachable_answers_iff (b : Bench) :
    (awaitReachable a.host a.port a.budget a.timeout a.pause).Answers b ↔ a.FindsReady b := by
  unfold awaitReachable FindsReady
  by_cases hbudget : a.budget < 1
  · rw [if_pos hbudget]
    constructor
    · rintro ⟨n, hn⟩
      cases hn
    · rintro ⟨k, hk, -⟩
      omega
  · rw [if_neg hbudget]
    have reported : ∀ n c, (do say (.reachable a.host a.port n); pure n : Act Int).Answers c :=
      fun n c => ⟨n, rfl⟩
    refine (answers_bind_of_forall reported).trans ((a.onward_answers_iff _ 1 b).trans ?_)
    constructor
    · rintro ⟨k, hk, h⟩
      exact ⟨k, by omega, h⟩
    · rintro ⟨k, hk, h⟩
      exact ⟨k, by omega, h⟩

end Attempts
end ClientTrial
