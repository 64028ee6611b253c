import ClientTrial.Proofs.Server.Shared
import Mathlib.Data.List.Forall2

/-!
# Parties

A party makes its calls in its own order, with incidents of its own.  It goes on by small
steps, of which each makes at most one request, so that others may make theirs in between.

Two parties, each with a daemon of its own, fare alike if they have been answered alike and are
going to be: they make the same calls, and the daemons have containers of their name at the
same time.  What else is in the tables does not matter, and neither do the identifiers and
the ports that the daemons choose.

## Main definitions

* `Server.Party` — what one party has done and is going to do.
* `Server.Party.step` — a party goes on.
* `Server.Party.Alike` — two parties, each with its daemon, fare alike.
* `Server.Party.ends` — how the calls of a party end if it is alone with a daemon.
* `Server.Party.EndsWithin` — a party is over after at most some steps.

## Main results

* `Server.Party.Alike.step`, `Server.Party.Alike.of_id?` — parties that fare alike still do
  after a step of each, and after anything that leaves the container of their name alone.
* `Server.Party.Alike.change` — what the step of a party does to the table.
* `Server.Party.ends_step` — step by step a party makes its calls one after the other.
* `Server.Party.EndsWithin.step` — each step brings a party nearer to its end.
-/

namespace ClientTrial

open Act

namespace Server

/-! ### Replies -/

/-- A call that is over, and how it ended. -/
structure Reply where
  call : Call
  ended : Except Raised call.Answer

/-- Two replies to a call are the same, but for what the daemon may choose. -/
inductive Reply.Alike : Reply → Reply → Prop
  | intro (call : Call) {ended ended' : Except Raised call.Answer}
    (h : EndsAlike call.AnswersAlike ended ended') : Alike ⟨call, ended⟩ ⟨call, ended'⟩

/-- What is replied to calls that are made one after the other. -/
def replies (turns : List Turn) (b : Bench) : List Reply :=
  (serve turns b).1.map fun s => ⟨s.call, s.ended⟩

/-- Two turns are the same, but for the ports that are published. -/
def Turn.Alike (turn turn' : Turn) : Prop :=
  ∃ table, turn.call.PortsAlike turn.published table ∧ turn' = { turn with published := table }

/-! ### Parties -/

/-- What one party has done and is going to do.  Of the daemon on its bench the table is not its
own. -/
structure Party where
  bench : Bench
  /-- The calls that are over. -/
  settled : List Reply := []
  /-- What is left of the call that is being made. -/
  current : Option (Σ call : Call, Dialogue call.Answer) := none
  /-- The calls that are going to be made. -/
  pending : List Turn

/-- What a party has come to, the daemon that it leaves, and the deed that it has done. -/
structure Moved where
  party : Party
  daemon : Daemon
  deed : Option Deed := none

namespace Party

/-- A party that is going to make some calls. -/
def begin (b : Bench) (turns : List Turn) : Party := { bench := b, pending := turns }

/-- A party has made all its calls. -/
def IsOver (p : Party) : Prop := p.current = none ∧ p.pending = []

/-- A party goes on: it begins or settles a call, reports an event, or asks a daemon a question. -/
def step (p : Party) (d : Daemon) : Moved :=
  match p.current with
  | none =>
    match p.pending with
    | [] => { party := p, daemon := d }
    | turn :: rest =>
      { party := { p with
          bench := turn.prepare p.bench
          current := some ⟨turn.call, turn.call.dialogue⟩
          pending := rest }
        daemon := d }
  | some ⟨call, .done ended⟩ =>
    { party := { p with settled := p.settled ++ [⟨call, ended⟩], current := none }, daemon := d }
  | some ⟨call, .say event rest⟩ =>
    { party := { p with bench := p.bench.saying event, current := some ⟨call, rest⟩ }, daemon := d }
  | some ⟨call, .ask q next⟩ =>
    let answered := q.act.exec (p.bench.sharing d)
    { party := { p with bench := answered.2, current := some ⟨call, next answered.1⟩ }
      daemon := answered.2.daemon
      deed := q.deed d answered.1 }

/-- Two parties are between two calls, or in the midst of calls that go alike. -/
inductive Going (name : String) (b b' : Bench) :
    Option (Σ call : Call, Dialogue call.Answer) → Option (Σ call : Call, Dialogue call.Answer) →
      Prop
  | idle (hb : b.Alike name (fun _ _ => True) b') : Going name b b' none none
  | busy {call : Call} (hb : b.Alike name call.PortsAlike b')
    {dialogue dialogue' : Dialogue call.Answer}
    (h : dialogue.Alike name call.PortsAlike call.AnswersAlike dialogue') :
    Going name b b' (some ⟨call, dialogue⟩) (some ⟨call, dialogue'⟩)

/-- Two parties, each with its daemon, fare alike: they have been answered alike, and are going to
be. -/
structure Alike (name : String) (p : Party) (d : Daemon) (p' : Party) (d' : Daemon) : Prop where
  settled : List.Forall₂ Reply.Alike p.settled p'.settled
  current : Going name (p.bench.sharing d) (p'.bench.sharing d') p.current p'.current
  pending : List.Forall₂ Turn.Alike p.pending p'.pending
  names : ∀ turn ∈ p.pending, turn.call.name = name

/-- Parties that are going to make the same calls on the same bench fare alike. -/
theorem alike_begin {name : String} {turns turns' : List Turn}
    (hcalls : ∀ turn ∈ turns, turn.call.name = name)
    (hports : List.Forall₂ Turn.Alike turns turns') (b : Bench) (d : Daemon) :
    (begin b turns).Alike name d (begin b turns') d where
  settled := .nil
  current := .idle ⟨rfl, trivial, rfl, rfl, rfl, rfl, rfl⟩
  pending := hports
  names := hcalls

namespace Alike

variable {name : String} {p p' : Party} {d d' : Daemon}

/-- Parties that fare alike do so after a step of each. -/
theorem step (h : p.Alike name d p' d') :
    (p.step d).party.Alike name (p.step d).daemon (p'.step d').party (p'.step d').daemon := by
  rcases p with ⟨b, settled, current, pending⟩
  rcases p' with ⟨b', settled', current', pending'⟩
  obtain ⟨hsettled, hcurrent, hpending, hnames⟩ := h
  dsimp only at hsettled hcurrent hpending hnames
  cases hcurrent with
  | idle hb =>
    cases hpending with
    | nil => exact ⟨hsettled, .idle hb, .nil, hnames⟩
    | cons hturn hrest =>
      obtain ⟨table, hports, rfl⟩ := hturn
      obtain ⟨rfl, hnames⟩ := List.forall_mem_cons.1 hnames
      refine ⟨hsettled, .busy ?_ (Call.alike _), hrest, hnames⟩
      exact { hb with published := hports, incidents := rfl, openings := rfl, log := rfl }
  | busy hb hdialogue =>
    cases hdialogue with
    | done hends =>
      -- between two calls the published ports do not matter any more
      refine ⟨List.rel_append hsettled (.cons (.intro _ hends) .nil), .idle ?_, hpending, hnames⟩
      exact { hb with published := trivial }
    | say event event' hrest =>
      -- what is reported changes nothing that an answer depends on
      refine ⟨hsettled, .busy ?_ hrest, hpending, hnames⟩
      exact { hb with trace := hb.trace }
    | ask hq hnext =>
      obtain ⟨hreply, hleft⟩ := Question.goAlike hq _ _ hb
      exact ⟨hsettled, .busy hleft (hnext _ _ hreply), hpending, hnames⟩

/-- Parties that fare alike do so with any daemons that have containers of their name just when
theirs have. -/
theorem of_id? (h : p.Alike name d p' d') {e e' : Daemon} (he : e.id? name = d.id? name)
    (he' : e'.id? name = d'.id? name) : p.Alike name e p' e' := by
  have shared (b b' : Bench) (P : Json → Json → Prop)
      (hb : (b.sharing d).Alike name P (b'.sharing d')) :
      (b.sharing e).Alike name P (b'.sharing e') := by
    refine { hb with there := ?_ }
    change (e'.id? name).isSome = (e.id? name).isSome
    rw [he, he']
    exact hb.there
  obtain ⟨hsettled, hcurrent, hpending, hnames⟩ := h
  refine ⟨hsettled, ?_, hpending, hnames⟩
  generalize p.current = current at hcurrent ⊢
  generalize p'.current = current' at hcurrent ⊢
  cases hcurrent with
  | idle hb => exact .idle (shared _ _ _ hb)
  | busy hb hdialogue => exact .busy (shared _ _ _ hb) hdialogue

/-- A party that fares like another changes the table in one of the ways in which a question about
its name does. -/
theorem change (h : p.Alike name d p' d') :
    d.Change name (p.step d).daemon (p.step d).deed := by
  rcases p with ⟨b, settled, current, pending⟩
  rcases p' with ⟨b', settled', current', pending'⟩
  have hcurrent := h.current
  dsimp only at hcurrent
  cases hcurrent with
  | idle _ =>
    cases pending with
    | nil => exact .idle (.refl d)
    | cons turn rest => exact .idle (.refl d)
  | busy _ hdialogue =>
    cases hdialogue with
    | done _ => exact .idle (.refl d)
    | say _ _ _ => exact .idle (.refl d)
    | ask hq _ => exact Question.changes hq d b

/-- Parties that fare alike have done the same. -/
theorem trace (h : p.Alike name d p' d') : p'.bench.trace = p.bench.trace := by
  have hcurrent := h.current
  generalize p.current = current at hcurrent
  generalize p'.current = current' at hcurrent
  cases hcurrent with
  | idle hb => exact hb.trace
  | busy hb _ => exact hb.trace

/-- Parties that fare alike have containers at the same time. -/
theorem there (h : p.Alike name d p' d') : (d'.id? name).isSome = (d.id? name).isSome := by
  have hcurrent := h.current
  generalize p.current = current at hcurrent
  generalize p'.current = current' at hcurrent
  cases hcurrent with
  | idle hb => exact hb.there
  | busy hb _ => exact hb.there

theorem isOver_iff (h : p.Alike name d p' d') : p.IsOver ↔ p'.IsOver := by
  have hcurrent := h.current
  have hpending := h.pending
  unfold IsOver
  generalize p.current = current at hcurrent ⊢
  generalize p'.current = current' at hcurrent ⊢
  generalize p.pending = pending at hpending ⊢
  generalize p'.pending = pending' at hpending ⊢
  cases hcurrent with
  | idle _ =>
    cases hpending with
    | nil => exact Iff.rfl
    | cons _ _ => simp
  | busy _ _ => simp

end Alike

/-! ### Parties that are alone -/

/-- How the calls of a party end if from now on it is alone with a daemon. -/
def ends (p : Party) (d : Daemon) : List Reply :=
  p.settled ++
    match p.current with
    | none => replies p.pending (p.bench.sharing d)
    | some ⟨call, dialogue⟩ =>
      let left := dialogue.act.exec (p.bench.sharing d)
      ⟨call, left.1⟩ :: replies p.pending left.2

/-- A step of a party changes nothing about how its calls end if it is alone. -/
theorem ends_step (p : Party) (d : Daemon) :
    (p.step d).party.ends (p.step d).daemon = p.ends d := by
  -- a call is begun, settled, reports something, or asks something
  rcases p with ⟨b, settled, current, pending⟩
  rcases current with _ | ⟨call, ended | ⟨event, rest⟩ | ⟨q, next⟩⟩
  · cases pending with
    | nil => rfl
    | cons turn rest =>
      unfold ends step
      dsimp only
      rw [Call.act_dialogue]
      rfl
  · unfold ends step
    dsimp only [Dialogue.act]
    rw [exec_release, List.append_assoc]
    rfl
  · unfold ends step
    dsimp only [Dialogue.act]
    rw [exec_bind_of_ok (exec_say event _)]
    rfl
  · unfold ends step
    dsimp only [Dialogue.act]
    rw [exec_bind_of_ok (exec_attempt q.act _)]
    rfl

/-- What is settled is the first part of it. -/
theorem settled_prefix_ends (p : Party) (d : Daemon) : p.settled <+: p.ends d :=
  List.prefix_append _ _

theorem IsOver.ends_eq {p : Party} (h : p.IsOver) (d : Daemon) : p.ends d = p.settled := by
  obtain ⟨hcurrent, hpending⟩ := h
  unfold ends
  rw [hcurrent, hpending]
  exact List.append_nil _

/-! ### Parties that come to an end -/

/-- A party is over after at most some steps: ten for each call that it is going to make, of which
eight are those of the dialogue and two begin and settle it. -/
def EndsWithin (n : Nat) (p : Party) : Prop :=
  match p.current with
  | none => 10 * p.pending.length ≤ n
  | some ⟨_, dialogue⟩ => ∃ k, dialogue.EndsWithin k ∧ k + 1 + 10 * p.pending.length ≤ n

theorem endsWithin_begin {n : Nat} (b : Bench) {turns : List Turn} (h : 10 * turns.length ≤ n) :
    (begin b turns).EndsWithin n := h

/-- Each step brings a party nearer to its end, whatever the daemon replies. -/
theorem EndsWithin.step {n : Nat} {p : Party} (h : p.EndsWithin (n + 1)) (d : Daemon) :
    (p.step d).party.EndsWithin n := by
  rcases p with ⟨b, settled, current, pending⟩
  rcases current with _ | ⟨call, dialogue⟩
  · cases pending with
    | nil => exact Nat.zero_le n
    | cons turn rest =>
      have hlength : 10 * (rest.length + 1) ≤ n + 1 := h
      have hleft : 8 + 1 + 10 * rest.length ≤ n := by omega
      exact ⟨8, turn.call.endsWithin, hleft⟩
  · obtain ⟨k, hdialogue, hk⟩ := h
    dsimp only at hk
    cases hdialogue with
    | done k ended =>
      change 10 * pending.length ≤ n
      omega
    | @say k event _ hrest =>
      have hleft : k + 1 + 10 * pending.length ≤ n := by omega
      exact ⟨k, hrest, hleft⟩
    | @ask k q _ hnext =>
      have hleft : k + 1 + 10 * pending.length ≤ n := by omega
      exact ⟨k, hnext _, hleft⟩

theorem EndsWithin.isOver {p : Party} (h : p.EndsWithin 0) : p.IsOver := by
  rcases p with ⟨b, settled, current, pending⟩
  rcases current with _ | ⟨call, dialogue⟩
  · have hlength : 10 * pending.length ≤ 0 := h
    have hnone : pending.length = 0 := by omega
    exact ⟨rfl, List.length_eq_zero_iff.1 hnone⟩
  · obtain ⟨k, -, hk⟩ := h
    omega

end Party
end Server
end ClientTrial
