import ClientTrial.Artifact
import ClientTrial.Proofs.Rounds

/-!
# What is read from an artifact

The text of an artifact on a bench is its content, decoded.  Verifying an artifact
and waiting for a marker in it are told by what stands in that text.  The wait goes
in rounds: a round that does not find the marker looks at the clock, and if it is not
too late lets some seconds pass before the next.

## Main definitions

* `Artifact.textOn`, `Artifact.Shows` — the text on a bench, and a marker in it.
* `Watch` — a marker waited for until a deadline.
* `Artifact.EventuallyShows` — some look made by the wait finds the marker.

## Main results

* `Artifact.verifyAll_answers_iff` — an artifact is accepted iff every marker stands in it.
* `Artifact.eventuallyShows_of_waitFor`, `Artifact.waitFor_of_eventuallyShows` — the
  wait answers "yes" iff some look that it makes finds the marker, unless the clock has
  stopped moving.
-/

namespace ClientTrial

open Act

theorem Text.contains_iff (hay needle : String) :
    Text.contains hay needle = true ↔ needle.toList <:+: hay.toList := by
  rw [Text.contains, Text.occursIn_iff]
  constructor
  · rintro ⟨before, after, h⟩
    exact ⟨before, after, h.symm⟩
  · rintro ⟨before, after, h⟩
    exact ⟨before, after, h.symm⟩

namespace Artifact

variable (a : Artifact)

/-! ### The text -/

/-- The text of an artifact on a bench. -/
def textOn (b : Bench) : Except Fault String :=
  (b.files.readOrEmpty a.route).map Text.ofOctets

theorem textOn_congr {b c : Bench} (h : b.files = c.files) : a.textOn b = a.textOn c := by
  unfold textOn
  rw [h]

/-- On a bench an artifact can be read, and a marker stands in it. -/
def Shows (marker : String) (b : Bench) : Prop :=
  ∃ s, a.textOn b = .ok s ∧ marker.toList <:+: s.toList

/-- On a bench an artifact can be read, and a marker does not stand in it. -/
def Lacks (marker : String) (b : Bench) : Prop :=
  ∃ s, a.textOn b = .ok s ∧ ¬marker.toList <:+: s.toList

theorem exec_read (b : Bench) : a.read.exec b = ((a.textOn b).mapError Raised.fault, b) := by
  unfold read textOn
  rw [exec_bind, exec_fromFiles]
  cases b.files.readOrEmpty a.route <;> rfl

theorem exec_read_eq_ok {b c : Bench} {s : String} :
    a.read.exec b = (.ok s, c) ↔ a.textOn b = .ok s ∧ b = c := by
  rw [exec_read]
  cases a.textOn b with
  | ok x =>
    change (Except.ok x, b) = (Except.ok s, c) ↔ _
    simp
  | error f =>
    change (Except.error (Raised.fault f), b) = (Except.ok s, c) ↔ _
    simp

theorem exec_read_of_ok {b : Bench} {s : String} (h : a.textOn b = .ok s) :
    a.read.exec b = (.ok s, b) := by
  rw [exec_read, h]
  rfl

theorem exec_read_of_error {b : Bench} {f : Fault} (h : a.textOn b = .error f) :
    a.read.exec b = (.error (.fault f), b) := by
  rw [exec_read, h]
  rfl

/-- An artifact is accepted iff it can be read and every marker stands in it. -/
theorem verifyAll_answers_iff (markers : List String) (b : Bench) :
    (a.verifyAll markers).Answers b ↔
      ∃ s, a.textOn b = .ok s ∧ ∀ m ∈ markers, m.toList <:+: s.toList := by
  unfold verifyAll Answers
  cases hs : a.textOn b with
  | error f =>
    rw [exec_bind_of_error (a.exec_read_of_error hs)]
    simp
  | ok s =>
    have hmissing : missingFrom s markers = [] ↔ ∀ m ∈ markers, m.toList <:+: s.toList := by
      simp only [missingFrom_eq_nil_iff, Text.contains_iff]
    rw [exec_bind_of_ok (a.exec_read_of_ok hs)]
    simp only [Except.ok.injEq, exists_eq_left', ← hmissing]
    cases missingFrom s markers with
    | nil => simp
    | cons m rest => simp [exec_bind, exec_sayAll]

end Artifact

/-! ### The wait -/

/-- A marker waited for in an artifact until a deadline, with a pause after each look that did not
find it. -/
structure Watch where
  artifact : Artifact
  marker : String
  deadline : Float
  pause : Float

namespace Watch

variable (w : Watch)

/-- A look, which reports the marker if it finds it. -/
def look : Act Bool := do
  let content ← w.artifact.read
  if Text.contains content w.marker then do
    say (.markerSeen w.marker w.artifact.path)
    pure true
  else pure false

/-- The clock is looked at. -/
def isLate : Act Bool := do pure (decide ((← readClock) ≥ w.deadline))

/-- A round on a bench finds that the marker is not there yet, is not too late, and pauses. -/
def SaysNotYet (b : Bench) : Prop :=
  w.artifact.Lacks w.marker b ∧
    ∃ clock c, readClock.exec b = (.ok clock, c) ∧ ¬clock ≥ w.deadline ∧
      (sleep w.pause).Answers c

/-- The rounds, each on its bench. -/
def rounds : Rounds Bench where
  stops b := w.artifact.Shows w.marker b
  goesOn b := w.SaysNotYet b
  next b := ((sleep w.pause).exec (readClock.exec b).2).2

/-- The looks from a bench on, at most as many as given. -/
def looks (rounds : Nat) : Act (Option Bool) := poll w.look w.isLate (sleep w.pause) rounds

theorem exec_look_of_shows {b : Bench} (h : w.artifact.Shows w.marker b) :
    ∃ c, w.look.exec b = (.ok true, c) := by
  obtain ⟨s, hs, hm⟩ := h
  refine ⟨b.saying (.markerSeen w.marker w.artifact.path), ?_⟩
  unfold look
  rw [exec_bind_of_ok (w.artifact.exec_read_of_ok hs), if_pos ((Text.contains_iff _ _).2 hm)]
  rfl

theorem exec_look_of_lacks {b : Bench} (h : w.artifact.Lacks w.marker b) :
    w.look.exec b = (.ok false, b) := by
  obtain ⟨s, hs, hm⟩ := h
  unfold look
  rw [exec_bind_of_ok (w.artifact.exec_read_of_ok hs),
    if_neg fun hc => hm ((Text.contains_iff _ _).1 hc)]
  rfl

/-- A look answers only if the artifact can be read. -/
theorem shows_or_lacks_of_look {b c : Bench} {seen : Bool} (h : w.look.exec b = (.ok seen, c)) :
    w.artifact.Shows w.marker b ∨ w.artifact.Lacks w.marker b := by
  obtain ⟨s, d, hread, -⟩ := exec_bind_eq_ok.1 h
  rw [Artifact.exec_read] at hread
  rcases ht : w.artifact.textOn b with f | text
  · rw [ht] at hread
    cases hread
  · by_cases hm : w.marker.toList <:+: text.toList
    · exact .inl ⟨text, ht, hm⟩
    · exact .inr ⟨text, ht, hm⟩

theorem exec_looks_of_shows {n : Nat} {b : Bench} (h : w.artifact.Shows w.marker b) :
    ((w.looks (n + 1)).exec b).1 = .ok (some true) := by
  obtain ⟨c, hc⟩ := w.exec_look_of_shows h
  exact congrArg Prod.fst (exec_bind_of_ok hc _)

/-- After a round that says "not yet" the next round follows. -/
theorem exec_looks_of_saysNotYet {n : Nat} {b : Bench} (h : w.SaysNotYet b) :
    (w.looks (n + 1)).exec b = (w.looks n).exec (w.rounds.next b) := by
  obtain ⟨hlacks, clock, c, hclock, hlate, hsleep⟩ := h
  have late : w.isLate.exec b = (.ok false, c) := by
    unfold isLate
    rw [exec_bind_of_ok hclock, decide_eq_false hlate]
    rfl
  have hnext : w.rounds.next b = ((sleep w.pause).exec c).2 := by
    rw [show c = (readClock.exec b).2 by rw [hclock]]
    rfl
  have paused : (sleep w.pause).exec c = (.ok (), w.rounds.next b) := by
    obtain ⟨_, d, hd⟩ := exec_of_answers hsleep
    rw [hnext, hd]
  refine (exec_bind_of_ok (w.exec_look_of_lacks hlacks) _).trans ?_
  refine (exec_bind_of_ok late _).trans ?_
  exact exec_bind_of_ok paused _

/-- Only a round that finds the marker ends the wait with "yes", and only one that says "not yet"
lets another follow. -/
theorem shows_or_saysNotYet {n : Nat} {b c : Bench}
    (h : (w.looks (n + 1)).exec b = (.ok (some true), c)) :
    w.artifact.Shows w.marker b ∨ w.SaysNotYet b := by
  obtain ⟨seen, d, hlook, h⟩ := exec_bind_eq_ok.1 h
  rcases w.shows_or_lacks_of_look hlook with hshows | hlacks
  · exact .inl hshows
  · rw [w.exec_look_of_lacks hlacks] at hlook
    cases hlook
    obtain ⟨late, e, hlate, h⟩ := exec_bind_eq_ok.1 h
    obtain ⟨clock, e', hclock, hdecide⟩ := exec_bind_eq_ok.1 hlate
    cases hdecide
    by_cases hge : clock ≥ w.deadline
    · rw [decide_eq_true hge] at h
      cases h
    · rw [decide_eq_false hge] at h
      obtain ⟨_, _, hsleep, -⟩ := exec_bind_eq_ok.1 h
      exact .inr ⟨hlacks, clock, e, hclock, hge, answers_of_exec hsleep⟩

/-- The looks find the marker iff one of them does after rounds that said "not yet". -/
theorem looks_some_true_iff (n : Nat) (b : Bench) :
    ((w.looks n).exec b).1 = .ok (some true) ↔ ∃ k < n, w.rounds.StopsAt k b := by
  induction n generalizing b with
  | zero =>
    constructor
    · intro h
      cases h
    · rintro ⟨k, hk, -⟩
      exact absurd hk (Nat.not_lt_zero k)
  | succ n ih =>
    constructor
    · intro h
      rcases w.shows_or_saysNotYet (Prod.ext h rfl) with hshows | hnot
      · exact ⟨0, Nat.succ_pos n, w.rounds.stopsAt_zero.2 hshows⟩
      · rw [w.exec_looks_of_saysNotYet hnot] at h
        obtain ⟨k, hk, hstops⟩ := (ih _).1 h
        exact ⟨k + 1, Nat.succ_lt_succ hk, w.rounds.stopsAt_succ.2 ⟨hnot, hstops⟩⟩
    · rintro ⟨k, hk, h⟩
      cases k with
      | zero => exact w.exec_looks_of_shows (w.rounds.stopsAt_zero.1 h)
      | succ k =>
        obtain ⟨hnot, hstops⟩ := w.rounds.stopsAt_succ.1 h
        rw [w.exec_looks_of_saysNotYet hnot]
        exact (ih _).2 ⟨k, Nat.lt_of_succ_lt_succ hk, hstops⟩

/-- Looks that all say "not yet" come to nothing. -/
theorem looks_none_of_stopsAt {n k : Nat} (hk : n ≤ k) {b : Bench} (h : w.rounds.StopsAt k b) :
    ((w.looks n).exec b).1 = .ok none := by
  induction n generalizing k b with
  | zero => rfl
  | succ n ih =>
    obtain ⟨k, rfl⟩ : ∃ l, k = l + 1 := ⟨k - 1, by omega⟩
    obtain ⟨hnot, hstops⟩ := w.rounds.stopsAt_succ.1 h
    rw [w.exec_looks_of_saysNotYet hnot]
    exact ih (Nat.le_of_succ_le_succ hk) hstops

end Watch

namespace Artifact

variable (a : Artifact)

/-- From a bench on, some look that the wait for a marker makes finds it: all rounds before it have
said "not yet". -/
def EventuallyShows (marker : String) (timeout pause : Float) (b : Bench) : Prop :=
  ∃ clock c, readClock.exec b = (.ok clock, c) ∧
    ∃ k, (Watch.mk a marker (clock + timeout) pause).rounds.StopsAt k c

/-- The wait that starts at a reading of the clock. -/
theorem exec_waitFor_of_clock {marker : String} {timeout pause clock : Float} {b c : Bench}
    (h : readClock.exec b = (.ok clock, c)) :
    (a.waitFor marker timeout pause).exec b =
      ((do
        match ← (Watch.mk a marker (clock + timeout) pause).looks (roundsWithin timeout pause) with
        | some seen => pure seen
        | none => throw .stalled : Act Bool)).exec c := by
  have hwait : (a.lookout.wait marker timeout pause (roundsWithin timeout pause)).exec b =
      ((Watch.mk a marker (clock + timeout) pause).looks (roundsWithin timeout pause)).exec c :=
    exec_bind_of_ok h _
  refine (exec_bind _ _ b).trans ?_
  rw [hwait]
  exact (exec_bind _ _ c).symm

theorem eventuallyShows_of_waitFor {marker : String} {timeout pause : Float} {b d : Bench}
    (h : (a.waitFor marker timeout pause).exec b = (.ok true, d)) :
    a.EventuallyShows marker timeout pause b := by
  obtain ⟨_, _, hwait, -⟩ := exec_bind_eq_ok.1 h
  obtain ⟨clock, c, hclock, -⟩ := exec_bind_eq_ok.1 hwait
  rw [a.exec_waitFor_of_clock hclock] at h
  obtain ⟨seen, e, hlooks, h⟩ := exec_bind_eq_ok.1 h
  cases seen with
  | none => cases h
  | some seen =>
    cases h
    obtain ⟨k, -, hk⟩ := (Watch.looks_some_true_iff _ _ c).1 (congrArg Prod.fst hlooks)
    exact ⟨clock, c, hclock, k, hk⟩

/-- A wait during which some look finds the marker answers "yes", unless the clock has stopped
moving. -/
theorem waitFor_of_eventuallyShows {marker : String} {timeout pause : Float} {b : Bench}
    (h : a.EventuallyShows marker timeout pause b) :
    ((a.waitFor marker timeout pause).exec b).1 = .ok true ∨
      ((a.waitFor marker timeout pause).exec b).1 = .error .stalled := by
  obtain ⟨clock, c, hclock, k, hk⟩ := h
  rw [a.exec_waitFor_of_clock hclock]
  by_cases hlt : k < roundsWithin timeout pause
  · have hlooks := (Watch.looks_some_true_iff _ _ c).2 ⟨k, hlt, hk⟩
    exact .inl (congrArg Prod.fst (exec_bind_of_ok (Prod.ext hlooks rfl) _))
  · have hlooks := Watch.looks_none_of_stopsAt _ (Nat.le_of_not_lt hlt) hk
    exact .inr (congrArg Prod.fst (exec_bind_of_ok (Prod.ext hlooks rfl) _))

end Artifact
end ClientTrial
