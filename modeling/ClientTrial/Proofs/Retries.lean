import Mathlib.Data.List.Basic
import ClientTrial.Proofs.Effects
import ClientTrial.Proofs.Readiness
import ClientTrial.Proofs.Trial.Order

/-!
# The account of a wait for the server

What a wait for the server comes to, and what it does on the way, is known exactly from
what the connections and the pauses come to, one after the other.  As long as connections
are refused in the way that says "not yet" and the pauses between them go well, a round
adds one connection and one pause.  The first thing that goes differently ends the wait:
a connection that is made, one that fails in another way, a refusal within the last
attempt, or a pause that goes wrong.  A pause comes between two connections and never
after the last, and its failure is passed on as it is, even if it would say "not yet" of a
connection.

## Main definitions

* `Attempts.Fate` — what is in store for the connections and the pauses.
* `Attempts.Meets` — a bench has that in store.
* `Attempts.Lasts` — some rounds say "not yet" and pause.
* `Attempts.ComesTo` — what a wait comes to and what it adds to the trace.

## Main results

* `Attempts.exec_onward_of_lasts` — rounds that last leave the attempts that follow them.
* `Attempts.trace_benchAt` — what such rounds have added to the trace.
* **`Attempts.account_of_wait`** — every way in which a wait ends, with its connections and its
  pauses.
-/

namespace ClientTrial

open Act

/-! ### Connections in line -/

/-- Nothing has been added to the trace, and the same is in store for the connections. -/
structure Bench.IsInLine (b later : Bench) : Prop where
  trace : later.trace = b.trace
  connections : later.connections = b.connections

/-- The frame of what neither leaves a trace nor connects. -/
def Act.Frame.inLine : Frame where
  Holds := Bench.IsInLine
  refl _ := ⟨rfl, rfl⟩
  trans h hl := ⟨hl.trace.trans h.trace, hl.connections.trans h.connections⟩

namespace InLine

open Act.Frame

theorem keeps_onFiles (f : Files → Except Fault Files) : inLine.Keeps (onFiles f) := by
  refine keeps_bind (keeps_ask _) fun _ => keeps_bind (keeps_ofExcept _) fun _ => ?_
  exact keeps_change fun _ => ⟨rfl, rfl⟩

theorem keeps_settleDeposits (deposits : List Deposit) : inLine.Keeps (settleDeposits deposits) :=
  Frame.keeps_settleDeposits (fun _ => keeps_onFiles _) (fun _ _ => ⟨rfl, rfl⟩) deposits

theorem keeps_advance (seconds : Float) : inLine.Keeps (advance seconds) :=
  Frame.keeps_advance (F := inLine) (fun _ _ => ⟨rfl, rfl⟩) (fun _ _ => ⟨rfl, rfl⟩)
    keeps_settleDeposits (keeps_change fun _ => ⟨rfl, rfl⟩) seconds

end InLine

/-- A pause adds one effect, however it ends, and leaves the connections in line. -/
theorem Bench.sleep_inLine (seconds : Float) (b : Bench) :
    ((sleep seconds).exec b).2.connections = b.connections ∧
      ((sleep seconds).exec b).2.trace.toList = b.trace.toList ++ [.sleep seconds] := by
  have hkeeps : (b.noting (.sleep seconds)).IsInLine ((sleep seconds).exec b).2 := by
    unfold sleep
    rw [exec_bind_of_ok (exec_note _ b), exec_bind_of_ok (exec_ask _ _),
      exec_bind_of_ok (exec_change _ _)]
    cases (b.noting (.sleep seconds)).pauses.due with
    | some raised => exact ⟨rfl, rfl⟩
    | none =>
      have hadvance := InLine.keeps_advance seconds
        { b.noting (.sleep seconds) with pauses := (b.noting (.sleep seconds)).pauses.rest }
      exact ⟨hadvance.trace, hadvance.connections⟩
  refine ⟨hkeeps.connections, ?_⟩
  rw [hkeeps.trace]
  exact Array.toList_push

namespace Attempts

variable (a : Attempts)

/-! ### What is in store -/

/-- What is in store for a wait: for each connection what it is ended by, if anything, with the
seconds that this takes, and for each pause what it is ended by, if anything. -/
structure Fate where
  connection : ℕ → Option (Raised × Float)
  pause : ℕ → Option Raised

/-- A connection is refused: a failure of the operating system ends it. -/
def Fate.Refuses (fate : Fate) (i : ℕ) : Prop :=
  ∃ f cost, fate.connection i = some (.fault f, cost) ∧ f.kind.isOs = true

/-- The bench that a wait has come to after some rounds. -/
def benchAt (b : Bench) (rounds : ℕ) : Bench := (a.rounds.after rounds (1, b)).2

/-- The bench on which a round pauses, if its connection is ended. -/
def restBench (number : Int) (b : Bench) : Bench :=
  match a.connects.exec b with
  | (.ok (), c) => c
  | (.error raised, c) => a.pauseBench number raised c

/-- What the pause of a round comes to. -/
def restAt (b : Bench) (round : ℕ) : Except Raised Unit :=
  ((sleep a.pause).exec (a.restBench (round + 1) (a.benchAt b round))).1

/-- In some rounds, from the first on, the connection is refused and the pause goes well. -/
def Lasts (fate : Fate) (rounds : ℕ) : Prop :=
  ∀ i < rounds, fate.Refuses i ∧ fate.pause i = none

/-- A bench has a fate in store for a wait, for as many rounds as there can be. -/
structure Meets (fate : Fate) (b : Bench) : Prop where
  connection : ∀ i : ℕ, (i : Int) < a.budget →
    Queue.due (b.connections.drop i) = fate.connection i
  pause : ∀ i : ℕ, (i : Int) + 1 < a.budget → Lasts fate i → fate.Refuses i →
    a.restAt b i = match fate.pause i with
      | none => .ok ()
      | some raised => .error raised

/-- A wait on a bench comes to something and adds some effects to the trace. -/
def ComesTo (b : Bench) (e : Except Raised Int) (es : List Effect) : Prop :=
  ∃ c, (awaitReachable a.host a.port a.budget a.timeout a.pause).exec b = (e, c) ∧
    c.trace.toList = b.trace.toList ++ es

/-- Some connections that are refused, with a pause after each, and a last connection. -/
abbrev connections (refused : ℕ) (closed : Bool) : List Effect :=
  tries (.connect a.host a.port a.timeout) (.sleep a.pause) refused closed

/-- Some connections that are refused, with a pause after each. -/
def refusals (refused : ℕ) : List Effect :=
  (List.replicate refused [.connect a.host a.port a.timeout false, .sleep a.pause]).flatten

theorem refusals_succ (refused : ℕ) :
    a.refusals (refused + 1) =
      a.refusals refused ++ [.connect a.host a.port a.timeout false, .sleep a.pause] := by
  simp [refusals, List.replicate_succ']

theorem connections_eq (refused : ℕ) (closed : Bool) :
    a.connections refused closed =
      a.refusals refused ++ [.connect a.host a.port a.timeout closed] := by
  induction refused with
  | zero => rfl
  | succ refused ih =>
    have hrest : tries (.connect a.host a.port a.timeout) (.sleep a.pause) refused closed =
        a.refusals refused ++ [.connect a.host a.port a.timeout closed] := ih
    rw [connections, tries, hrest]
    rfl

theorem rest_eq_drop {α : Type} (q : Queue α) : q.rest = q.drop 1 := by
  cases q <;> rfl

/-! ### One round -/

/-- The bench that a connection leaves, with what is in store for the next. -/
theorem exec_connects (b : Bench) :
    ∃ c : Bench, a.connects.exec b =
        (match b.connections.due with
          | none => .ok ()
          | some (raised, _) => .error raised, c) ∧
      c.connections = b.connections.rest ∧
      c.trace.toList = b.trace.toList ++
        [.connect a.host a.port a.timeout b.connections.due.isNone] := by
  unfold connects connect
  rw [exec_bind_of_ok (exec_ask _ b), exec_bind_of_ok (exec_change _ _),
    exec_bind_of_ok (exec_note _ _)]
  rcases b.connections.due with _ | ⟨raised, cost⟩
  · exact ⟨_, rfl, rfl, Array.toList_push⟩
  · have hkeeps := InLine.keeps_advance cost
      (({ b with connections := b.connections.rest } : Bench).noting
        (.connect a.host a.port a.timeout false))
    refine ⟨_, rfl, hkeeps.connections, ?_⟩
    exact (congrArg Array.toList hkeeps.trace).trans Array.toList_push

theorem trace_pauseBench (number : Int) (raised : Raised) (b : Bench) :
    (a.pauseBench number raised b).trace = b.trace := rfl

theorem roundBench_of_ended (number : Int) {b c : Bench} {raised : Raised}
    (h : a.connects.exec b = (.error raised, c)) :
    a.roundBench number b = ((sleep a.pause).exec (a.restBench number b)).2 := by
  rw [roundBench, restBench, h]

/-- A round whose connection is refused and whose pause goes well says "not yet", and adds both
to the trace. -/
theorem saysNotYet_of_refused {number : Int} {b : Bench} {raised : Raised} {cost : Float}
    (hdue : b.connections.due = some (raised, cost)) (hnot : (notYet? raised).isSome = true)
    (hrest : ((sleep a.pause).exec (a.restBench number b)).1 = .ok ()) :
    a.SaysNotYet number b ∧ (a.roundBench number b).connections = b.connections.rest ∧
      (a.roundBench number b).trace.toList =
        b.trace.toList ++ [.connect a.host a.port a.timeout false, .sleep a.pause] := by
  obtain ⟨c, hc, hline, htrace⟩ := a.exec_connects b
  rw [hdue] at hc htrace
  have hbench : a.restBench number b = a.pauseBench number raised c := by
    rw [restBench, hc]
  obtain ⟨hkept, hpaused⟩ := Bench.sleep_inLine a.pause (a.pauseBench number raised c)
  have hround := a.roundBench_of_ended number hc
  rw [hbench] at hrest hround
  refine ⟨⟨raised, c, hc, hnot, (), hrest⟩, ?_, ?_⟩
  · rw [hround, hkept]
    exact hline
  · rw [hround, hpaused, trace_pauseBench, htrace, List.append_assoc]
    rfl

/-- An attempt that is ended in another way ends the wait. -/
theorem exec_onward_of_ended {left : Nat} {number : Int} {b c : Bench} {raised : Raised}
    (h : a.connects.exec b = (.error raised, c)) (hnot : notYet? raised = none) :
    (a.onward left number).exec b = (.error raised, c) := by
  have attempted : (attempt a.connects).exec b = (.ok (.error raised), c) := by
    rw [exec_attempt, h]
  cases left with
  | zero =>
    rw [onward, attempts, exec_bind_of_ok attempted]
    dsimp only
    rw [hnot]
    rfl
  | succ left =>
    rw [onward, attempts, exec_bind_of_ok attempted]
    dsimp only
    rw [hnot]
    rfl

/-- A refusal of the last attempt ends the wait. -/
theorem exec_onward_of_exhausted {number : Int} {b c : Bench} {raised : Raised} {cause : Fault}
    (h : a.connects.exec b = (.error raised, c)) (hnot : notYet? raised = some cause) :
    (a.onward 0 number).exec b =
      (.error (.trial (.serviceUnavailable a.host a.port number) (some cause)),
        c.saying (.neverReachable a.host a.port number)) := by
  have attempted : (attempt a.connects).exec b = (.ok (.error raised), c) := by
    rw [exec_attempt, h]
  rw [onward, attempts, exec_bind_of_ok attempted]
  dsimp only
  rw [hnot]
  rfl

/-- A pause that goes wrong ends the wait. -/
theorem exec_onward_of_unrested {left : Nat} {number : Int} {b c : Bench}
    {raised failure : Raised}
    {cause : Fault} (h : a.connects.exec b = (.error raised, c))
    (hnot : notYet? raised = some cause)
    (hrest : ((sleep a.pause).exec (a.pauseBench number raised c)).1 = .error failure) :
    (a.onward (left + 1) number).exec b =
      (.error failure, ((sleep a.pause).exec (a.pauseBench number raised c)).2) := by
  have attempted : (attempt a.connects).exec b = (.ok (.error raised), c) := by
    rw [exec_attempt, h]
  have hsleep : (sleep a.pause).exec (a.pauseBench number raised c) =
      (.error failure, ((sleep a.pause).exec (a.pauseBench number raised c)).2) :=
    Prod.ext hrest rfl
  rw [onward, attempts, exec_bind_of_ok attempted]
  dsimp only
  rw [hnot]
  dsimp only
  rw [exec_bind_of_ok (exec_say _ _), text_of_notYet hnot]
  exact exec_bind_of_error hsleep _

/-! ### Rounds that say "not yet" -/

theorem after_succ {rounds : ℕ} {s : Int × Bench} :
    a.rounds.after (rounds + 1) s = a.rounds.next (a.rounds.after rounds s) := by
  induction rounds generalizing s with
  | zero => rfl
  | succ rounds ih => exact ih

theorem number_after (rounds : ℕ) (b : Bench) :
    (a.rounds.after rounds (1, b)).1 = rounds + 1 := by
  induction rounds with
  | zero => rfl
  | succ rounds ih =>
    rw [after_succ]
    have hnext : (a.rounds.next (a.rounds.after rounds (1, b))).1 =
        (a.rounds.after rounds (1, b)).1 + 1 := rfl
    rw [hnext, ih]
    push_cast
    rfl

theorem benchAt_succ (b : Bench) (rounds : ℕ) :
    a.benchAt b (rounds + 1) = a.roundBench (rounds + 1) (a.benchAt b rounds) := by
  rw [benchAt, after_succ, benchAt, ← a.number_after rounds b]
  rfl

variable {a} {fate : Fate} {b : Bench}

theorem Lasts.mono {rounds fewer : ℕ} (h : Lasts fate rounds) (hle : fewer ≤ rounds) :
    Lasts fate fewer :=
  fun i hi => h i (Nat.lt_of_lt_of_le hi hle)

theorem notYet?_of_isOs {f : Fault} (h : f.kind.isOs = true) : notYet? (.fault f) = some f :=
  if_pos h

theorem notYet?_eq_none {raised : Raised}
    (h : ∀ f, raised = .fault f → f.kind.isOs = false) : notYet? raised = none := by
  cases hnot : notYet? raised with
  | none => rfl
  | some cause =>
    rcases raised with (⟨e, f⟩ | f) | _ | _ <;> simp only [notYet?, reduceCtorEq] at hnot
    have hos := h f rfl
    simp [hos] at hnot

theorem connection_of_meets (hmeets : a.Meets fate b) {round : ℕ}
    (hbudget : (round : Int) < a.budget)
    (hline : (a.benchAt b round).connections = b.connections.drop round) :
    (a.benchAt b round).connections.due = fate.connection round := by
  rw [hline]
  exact hmeets.connection round hbudget

/-- A round that is refused and pauses says "not yet". -/
theorem saysNotYet_of_meets (hmeets : a.Meets fate b) {round : ℕ}
    (hbudget : (round : Int) + 1 < a.budget)
    (hline : (a.benchAt b round).connections = b.connections.drop round)
    (hlasts : Lasts fate (round + 1)) :
    a.SaysNotYet (round + 1) (a.benchAt b round) ∧
      (a.benchAt b (round + 1)).connections = b.connections.drop (round + 1) ∧
      (a.benchAt b (round + 1)).trace.toList = (a.benchAt b round).trace.toList ++
        [.connect a.host a.port a.timeout false, .sleep a.pause] := by
  have hdue := connection_of_meets hmeets (by omega) hline
  obtain ⟨hrefuses, hpause⟩ := hlasts round (Nat.lt_succ_self round)
  have hrest := hmeets.pause round hbudget (hlasts.mono (Nat.le_succ round)) hrefuses
  obtain ⟨f, cost, hconnection, hos⟩ := hrefuses
  rw [hconnection] at hdue
  rw [hpause] at hrest
  have hnot : (notYet? (.fault f)).isSome = true := by
    rw [notYet?_of_isOs hos]
    rfl
  obtain ⟨hround, hnext, hadded⟩ := a.saysNotYet_of_refused hdue hnot hrest
  rw [benchAt_succ]
  refine ⟨hround, ?_, hadded⟩
  rw [hnext, hline, rest_eq_drop, List.drop_drop]

/-- Rounds that last are followed by the attempts that are left, on a bench on which each of them
has added one connection and one pause. -/
theorem exec_onward_of_lasts (hmeets : a.Meets fate b) {rounds : ℕ} (hlasts : Lasts fate rounds)
    {left : ℕ} (hleft : (rounds + left : Int) + 1 = a.budget) :
    (a.onward (rounds + left) 1).exec b = (a.onward left (rounds + 1)).exec (a.benchAt b rounds) ∧
      (a.benchAt b rounds).connections = b.connections.drop rounds ∧
      (a.benchAt b rounds).trace.toList = b.trace.toList ++ a.refusals rounds := by
  induction rounds generalizing left with
  | zero =>
    refine ⟨?_, rfl, (List.append_nil _).symm⟩
    rw [Nat.zero_add]
    rfl
  | succ rounds ih =>
    push_cast at hleft
    obtain ⟨hexec, hline, htrace⟩ :=
      ih (hlasts.mono (Nat.le_succ rounds))
        (show (rounds + (left + 1 : ℕ) : Int) + 1 = a.budget by omega)
    obtain ⟨hround, hnext, hadded⟩ := saysNotYet_of_meets hmeets (by omega) hline hlasts
    refine ⟨?_, hnext, ?_⟩
    · rw [show rounds + 1 + left = rounds + (left + 1) by omega, hexec,
        a.exec_onward_of_saysNotYet hround, ← benchAt_succ]
      push_cast
      rfl
    · rw [hadded, htrace, refusals_succ, List.append_assoc]

/-! ### A bench that nothing else happens on -/

/-- Nothing else is going to be written, and some connections and pauses are in store. -/
structure Stocks (connections : Queue (Raised × Float)) (pauses : Queue Raised) (b : Bench) :
    Prop where
  deposits : b.deposits = []
  connections : b.connections = connections
  pauses : b.pauses = pauses

variable {connections : Queue (Raised × Float)} {pauses : Queue Raised}

theorem Stocks.advance (h : Stocks connections pauses b) (seconds : Float) :
    ((advance seconds).exec b).1 = .ok () ∧
      Stocks connections pauses ((advance seconds).exec b).2 := by
  unfold Act.advance settle
  rw [exec_bind_of_ok (exec_change _ b), exec_bind_of_ok (exec_ask _ _),
    exec_bind_of_ok (exec_change _ _)]
  dsimp only
  rw [h.deposits]
  exact ⟨rfl, rfl, h.connections, h.pauses⟩

theorem Stocks.exec_connects (h : Stocks connections pauses b) :
    ∃ c, a.connects.exec b = (match connections.due with
        | none => .ok ()
        | some (raised, _) => .error raised, c) ∧
      Stocks connections.rest pauses c := by
  obtain ⟨hdeposits, rfl, rfl⟩ := h
  unfold connects connect
  rw [exec_bind_of_ok (exec_ask _ b), exec_bind_of_ok (exec_change _ _),
    exec_bind_of_ok (exec_note _ _)]
  rcases b.connections.due with _ | ⟨raised, cost⟩
  · exact ⟨_, rfl, hdeposits, rfl, rfl⟩
  · have hnoted : Stocks b.connections.rest b.pauses
        (({ b with connections := b.connections.rest } : Bench).noting
          (.connect a.host a.port a.timeout false)) := ⟨hdeposits, rfl, rfl⟩
    exact ⟨_, rfl, (hnoted.advance cost).2⟩

theorem Stocks.exec_sleep (h : Stocks connections pauses b) (seconds : Float) :
    ∃ c, (sleep seconds).exec b = (match pauses.due with
        | none => .ok ()
        | some raised => .error raised, c) ∧
      Stocks connections pauses.rest c := by
  obtain ⟨hdeposits, rfl, rfl⟩ := h
  unfold sleep
  rw [exec_bind_of_ok (exec_note _ b), exec_bind_of_ok (exec_ask _ _),
    exec_bind_of_ok (exec_change _ _), show (b.noting (.sleep seconds)).pauses = b.pauses from rfl]
  cases b.pauses.due with
  | some raised => exact ⟨_, rfl, hdeposits, rfl, rfl⟩
  | none =>
    have hnoted : Stocks b.connections b.pauses.rest
        { b.noting (.sleep seconds) with pauses := b.pauses.rest } := ⟨hdeposits, rfl, rfl⟩
    obtain ⟨hok, hstocks⟩ := hnoted.advance seconds
    exact ⟨_, Prod.ext hok rfl, hstocks⟩

/-- What is in store on a bench that nothing else happens on, as it stands in the queues. -/
def Fate.ofBench (b : Bench) : Fate where
  connection i := Queue.due (b.connections.drop i)
  pause i := Queue.due (b.pauses.drop i)

theorem restBench_of_stocks (number : Int) (h : Stocks connections pauses b) :
    Stocks connections.rest pauses (a.restBench number b) := by
  obtain ⟨c, hc, hstocks⟩ := h.exec_connects (a := a)
  unfold restBench
  rw [hc]
  cases connections.due with
  | none => exact hstocks
  | some ended => exact ⟨hstocks.deposits, hstocks.connections, hstocks.pauses⟩

/-- Some rounds that last have used up one connection and one pause each. -/
theorem stocks_benchAt (hdeposits : b.deposits = []) {rounds : ℕ}
    (hlasts : Lasts (.ofBench b) rounds) :
    Stocks (b.connections.drop rounds) (b.pauses.drop rounds) (a.benchAt b rounds) := by
  induction rounds with
  | zero => exact ⟨hdeposits, rfl, rfl⟩
  | succ rounds ih =>
    have hstocks := ih (hlasts.mono (Nat.le_succ rounds))
    obtain ⟨⟨f, cost, hended, hos⟩, hpause⟩ := hlasts rounds (Nat.lt_succ_self rounds)
    obtain ⟨c, hc, -⟩ := hstocks.exec_connects (a := a)
    have hdue : Queue.due (b.connections.drop rounds) = some (.fault f, cost) := hended
    rw [hdue] at hc
    obtain ⟨d, hd, hslept⟩ :=
      (restBench_of_stocks (a := a) (rounds + 1) hstocks).exec_sleep a.pause
    have hround := a.roundBench_of_ended (rounds + 1) hc
    rw [hd] at hround
    rw [benchAt_succ, hround, ← List.drop_drop, ← List.drop_drop, ← rest_eq_drop,
      ← rest_eq_drop]
    exact hslept

/-- A bench that nothing else happens on has in store what stands in its queues. -/
theorem meets_ofBench (a : Attempts) (hdeposits : b.deposits = []) :
    a.Meets (.ofBench b) b := by
  refine ⟨fun i _ => rfl, fun i _ hlasts _ => ?_⟩
  have hstocks := stocks_benchAt (a := a) hdeposits hlasts
  obtain ⟨c, hc, -⟩ :=
    (restBench_of_stocks (a := a) (i + 1) hstocks).exec_sleep a.pause
  exact congrArg Prod.fst hc

/-! ### The account -/

/-- What the attempts come to is what the wait comes to. -/
theorem comesTo_of_onward (hbudget : 1 ≤ a.budget) {e : Except Raised Int} {c : Bench}
    (h : (a.onward (a.budget - 1).toNat 1).exec b = (e, c)) {es : List Effect}
    (htrace : c.trace.toList = b.trace.toList ++ es) : a.ComesTo b e es := by
  unfold ComesTo awaitReachable
  rw [if_neg (by omega)]
  cases e with
  | ok number => exact ⟨_, exec_bind_of_ok h _, htrace⟩
  | error raised => exact ⟨c, exec_bind_of_error h _, htrace⟩

/-- **Every way in which a wait for the server ends.**  With no budget nothing is attempted, and
no settings that can be read give none.  Otherwise, after rounds that are refused and pause, a
connection that is made is answered by its number; one that is ended by anything but a failure of
the operating system ends the wait with that; a refusal of the last attempt ends it as out of
reach; and a pause that goes wrong ends it with what the pause was ended by. -/
theorem account_of_wait (a : Attempts) (fate : Fate) (b : Bench) (hmeets : a.Meets fate b) :
    (a.budget < 1 →
      (awaitReachable a.host a.port a.budget a.timeout a.pause).exec b =
        (.error (.fault ⟨.value, "max_attempts must be at least 1"⟩), b)) ∧
    (∀ (s : Sources) (v : Settings), s.load = .ok v → ¬(v .readinessAttempts : Int) < 1) ∧
    ∀ k : ℕ, (k : Int) < a.budget → Lasts fate k →
      (fate.connection k = none → a.ComesTo b (.ok (k + 1)) (a.connections k true)) ∧
      (∀ raised cost, fate.connection k = some (raised, cost) →
        (∀ f, raised = .fault f → f.kind.isOs = false) →
          a.ComesTo b (.error raised) (a.connections k false)) ∧
      (∀ f cost, fate.connection k = some (.fault f, cost) → f.kind.isOs = true →
        ((k : Int) + 1 = a.budget →
          a.ComesTo b (.error (.trial (.serviceUnavailable a.host a.port a.budget) (some f)))
            (a.connections k false)) ∧
        ((k : Int) + 1 < a.budget → ∀ failure, fate.pause k = some failure →
          a.ComesTo b (.error failure) (a.connections k false ++ [.sleep a.pause]))) := by
  refine ⟨fun hbudget => ?_, fun s v hload => ?_, fun k hk hlasts => ?_⟩
  · unfold awaitReachable
    rw [if_pos hbudget]
    rfl
  · exact Int.not_lt.2 (Sources.one_le_readinessAttempts hload)
  obtain ⟨left, hleft⟩ : ∃ left : ℕ, (k + left : Int) + 1 = a.budget :=
    ⟨(a.budget - 1 - k).toNat, by omega⟩
  have hfuel : (a.budget - 1).toNat = k + left := by omega
  obtain ⟨hexec, hline, htrace⟩ := exec_onward_of_lasts hmeets hlasts hleft
  have hdue := connection_of_meets hmeets hk hline
  obtain ⟨c, hc, -, hadded⟩ := a.exec_connects (a.benchAt b k)
  rw [hdue] at hc hadded
  -- what the last attempt comes to is what the wait comes to
  have ends {e : Except Raised Int} {d : Bench}
      (h : (a.onward left (k + 1)).exec (a.benchAt b k) = (e, d)) {es : List Effect}
      (hd : d.trace.toList = b.trace.toList ++ es) : a.ComesTo b e es := by
    refine comesTo_of_onward (by omega) ?_ hd
    rw [hfuel, hexec, h]
  have attempted {closed : Bool} (hclosed : (fate.connection k).isNone = closed) :
      c.trace.toList = b.trace.toList ++ a.connections k closed := by
    rw [hadded, htrace, hclosed, connections_eq, List.append_assoc]
  refine ⟨fun hmade => ?_, fun raised cost hended hother => ?_,
    fun f cost hended hos => ⟨fun hlast => ?_, fun hmore failure hpause => ?_⟩⟩
  · rw [hmade] at hc attempted
    exact ends (a.exec_onward_of_connects hc) (attempted rfl)
  · rw [hended] at hc attempted
    exact ends (a.exec_onward_of_ended hc (notYet?_eq_none hother)) (attempted rfl)
  · rw [hended] at hc attempted
    obtain rfl : left = 0 := by omega
    rw [← hlast]
    exact ends (a.exec_onward_of_exhausted hc (notYet?_of_isOs hos)) (attempted rfl)
  · have hrest := hmeets.pause k hmore hlasts ⟨f, cost, hended, hos⟩
    rw [hended] at hc attempted
    obtain ⟨left, rfl⟩ : ∃ l, left = l + 1 := ⟨left - 1, by omega⟩
    have hbench : a.restBench (k + 1) (a.benchAt b k) = a.pauseBench (k + 1) (.fault f) c := by
      rw [restBench, hc]
    rw [hpause, restAt, hbench] at hrest
    refine ends (a.exec_onward_of_unrested hc (notYet?_of_isOs hos) hrest) ?_
    rw [(Bench.sleep_inLine _ _).2, trace_pauseBench, attempted rfl, List.append_assoc]
    rfl

/-- A bench whose server refuses a connection, lets one time out, and then listens. -/
def lateServer : Bench :=
  { Bench.quiet with
    connections :=
      [some (.fault ⟨.os .connectionRefused, "Connection refused"⟩, 0.0),
        some (.fault ⟨.os .timedOut, "timed out"⟩, 1.0), none] }

theorem wait_for_lateServer :
    let a : Attempts := ⟨"localhost", 6667, 1.0, 2.0, 10⟩
    a.Meets (.ofBench lateServer) lateServer ∧ ((2 : ℕ) : Int) < a.budget ∧
      Lasts (.ofBench lateServer) 2 ∧
      a.ComesTo lateServer (.ok 3)
        [.connect "localhost" 6667 1.0 false, .sleep 2.0, .connect "localhost" 6667 1.0 false,
          .sleep 2.0, .connect "localhost" 6667 1.0 true] := by
  intro a
  have hmeets : a.Meets (.ofBench lateServer) lateServer := meets_ofBench a rfl
  have hlasts : Lasts (.ofBench lateServer) 2 := by
    intro i hi
    match i with
    | 0 => exact ⟨⟨_, _, rfl, rfl⟩, rfl⟩
    | 1 => exact ⟨⟨_, _, rfl, rfl⟩, rfl⟩
  obtain ⟨-, -, haccount⟩ := account_of_wait a (.ofBench lateServer) lateServer hmeets
  exact ⟨hmeets, by decide, hlasts, (haccount 2 (by decide) hlasts).1 rfl⟩

end Attempts
end ClientTrial
