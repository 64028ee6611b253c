import ClientTrial.Proofs.Bench.Frame

/-!
# What actions add to the trace

The trace of a bench only grows, and what an action adds to it is known from how the
action is made.  Most of what is done leaves no trace at all; this is a frame.  Each call
into the outside world leaves its one effect, whatever becomes of it.  What an action made
from others leaves is put together from what they leave.

Nothing changes the variables of the environment and the directory that commands are run
in, and the connection to the daemon, once opened, stays open.

## Main definitions

* `Surroundings`, `Bench.LiesIn` — what does not change, on a bench whose daemon is at hand.
* `Act.Frame.still` — the frame of what leaves no trace.
* `Act.Traces` — what an action comes to and what it adds to the trace.
* `Act.Notes` — an action adds one effect.

## Main results

* `Traces.bind`, `Traces.attempt_bind` — one lemma for each way of making an action from
  others.
* `Notes.lookup`, `Traces.connect`, `Notes.sleep`, … — the calls into the outside world.
-/

namespace ClientTrial

open Act

/-! ### What does not change -/

/-- What is around a trial. -/
structure Surroundings where
  /-- The variables of the process environment. -/
  environ : List (String × String)
  /-- The directory that commands are run in. -/
  dir : Option String

/-- A bench lies in some surroundings, with the connection to the daemon open. -/
structure Bench.LiesIn (b : Bench) (w : Surroundings) : Prop where
  environ : b.environ = w.environ
  dir : b.workingDir = w.dir
  opened : b.daemon.opened = true

/-- Nothing has been added to the trace and the surroundings are the same. -/
structure Bench.IsStill (b later : Bench) : Prop where
  trace : later.trace = b.trace
  environ : later.environ = b.environ
  dir : later.workingDir = b.workingDir
  opened : later.daemon.opened = b.daemon.opened

theorem Bench.LiesIn.of_isStill {b later : Bench} {w : Surroundings} (hb : b.LiesIn w)
    (h : b.IsStill later) : later.LiesIn w :=
  ⟨h.environ.trans hb.environ, h.dir.trans hb.dir, h.opened.trans hb.opened⟩

/-- The frame of what leaves no trace. -/
def Act.Frame.still : Frame where
  Holds := Bench.IsStill
  refl _ := ⟨rfl, rfl, rfl, rfl⟩
  trans h hl :=
    ⟨hl.trace.trans h.trace, hl.environ.trans h.environ, hl.dir.trans h.dir,
      hl.opened.trans h.opened⟩

namespace Still

open Act.Frame

/-! ### Actions without effects -/

theorem keeps_say (e : Log.Event) : still.Keeps (say e) := keeps_change fun _ => ⟨rfl, rfl, rfl, rfl⟩

theorem keeps_onFiles (f : Files → Except Fault Files) : still.Keeps (onFiles f) := by
  refine keeps_bind (keeps_ask _) fun _ => keeps_bind (keeps_ofExcept _) fun _ => ?_
  exact keeps_change fun _ => ⟨rfl, rfl, rfl, rfl⟩

theorem keeps_changeOutput (n : Nat) (f : Output → Output) : still.Keeps (changeOutput n f) :=
  keeps_change fun _ => ⟨rfl, rfl, rfl, rfl⟩

theorem keeps_openOutput (route : Route) : still.Keeps (openOutput route) :=
  Frame.keeps_openOutput (keeps_onFiles _) fun _ _ => ⟨rfl, rfl, rfl, rfl⟩

theorem keeps_closeOutput (n : Nat) : still.Keeps (closeOutput n) :=
  Frame.keeps_closeOutput (keeps_changeOutput n _) (keeps_changeOutput n _)

theorem keeps_settleDeposits (deposits : List Deposit) : still.Keeps (settleDeposits deposits) :=
  Frame.keeps_settleDeposits (fun _ => keeps_onFiles _) (fun _ _ => ⟨rfl, rfl, rfl, rfl⟩) deposits

theorem keeps_advance (seconds : Float) : still.Keeps (advance seconds) := by
  refine Frame.keeps_advance (fun _ _ => ?_) (fun _ _ => ?_) keeps_settleDeposits
    (keeps_change fun _ => ⟨rfl, rfl, rfl, rfl⟩) seconds
  · exact ⟨rfl, rfl, rfl, rfl⟩
  · exact ⟨rfl, rfl, rfl, rfl⟩

theorem keeps_elapse (seconds : Float) : still.Keeps (elapse seconds) :=
  Frame.keeps_elapse keeps_advance seconds

theorem keeps_readClock : still.Keeps readClock := Frame.keeps_readClock keeps_advance

/-- A command that is run to its end is noted, and nothing else about it leaves a trace. -/
theorem exists_runErrand (command : List String) (environ : List (String × String))
    (dir : Option String) (timeout : Option Float) :
    ∃ rest : Errand → Act Int, (∀ errand, still.Keeps (rest errand)) ∧
      runErrand command environ dir timeout = (do
        let errand ← ask fun b => b.errands.headD {}
        change fun b => { b with errands := b.errands.tail }
        note (.run command environ dir timeout)
        rest errand) := by
  refine ⟨_, fun errand => keeps_ite (keeps_bind (keeps_throw _) fun _ => ?_) ?_, rfl⟩
  all_goals
    refine keeps_bind (keeps_perhaps _) fun _ => ?_
    split
    · exact keeps_bind (keeps_elapse _) fun _ => keeps_throw _
    · refine keeps_bind (keeps_elapse _) fun _ => ?_
      exact keeps_bind (keeps_change fun _ => ⟨rfl, rfl, rfl, rfl⟩) fun _ => keeps_pure _

/-- A command that is started in the background is noted, and nothing else about it leaves a
trace. -/
theorem exists_spawn (command : List String) (environ : List (String × String))
    (dir : Option String) (route : Route) (output : Nat) :
    ∃ rest : Script → Act Int, (∀ script, still.Keeps (rest script)) ∧
      spawn command environ dir route output = (do
        let script ← ask fun b => b.scripts.headD {}
        change fun b => { b with scripts := b.scripts.tail }
        note (.spawn command environ dir route.text)
        rest script) := by
  refine ⟨_, fun script => keeps_ite (keeps_bind (keeps_throw _) fun _ => ?_) ?_, rfl⟩
  all_goals
    refine keeps_bind (keeps_perhaps _) fun _ => ?_
    refine keeps_bind (keeps_changeOutput _ _) fun _ => keeps_bind (keeps_ask _) fun pid => ?_
    exact keeps_bind (keeps_change fun _ => ⟨rfl, rfl, rfl, rfl⟩) fun _ => keeps_pure pid

end Still

/-! ### Actions and what they add -/

/-- In some surroundings, what an action comes to and what it adds to the trace are in a
relation. -/
def Act.Traces {α : Type} (w : Surroundings) (act : Act α)
    (S : Except Raised α → List Effect → Prop) : Prop :=
  ∀ b : Bench, b.LiesIn w → (act.exec b).2.LiesIn w ∧
    ∃ es, (act.exec b).2.trace.toList = b.trace.toList ++ es ∧ S (act.exec b).1 es

/-- An action adds one effect, whatever it comes to. -/
def Act.Notes {α : Type} (w : Surroundings) (act : Act α) (e : Effect) : Prop :=
  Traces w act fun _ es => es = [e]

section

variable {w : Surroundings} {α β : Type} {act : Act α} {f : α → Act β}
  {S R : Except Raised α → List Effect → Prop} {T : Except Raised β → List Effect → Prop}

namespace Traces

theorem mono (h : Traces w act S) (hS : ∀ e es, S e es → R e es) : Traces w act R := by
  intro b hb
  obtain ⟨hlies, es, htrace, hes⟩ := h b hb
  exact ⟨hlies, es, htrace, hS _ _ hes⟩

/-- What keeps still adds nothing. -/
theorem of_still (h : Frame.still.Keeps act) (hS : ∀ e, S e []) : Traces w act S := by
  intro b hb
  have hstill := h b
  exact ⟨hb.of_isStill hstill, [], by rw [hstill.trace, List.append_nil], hS _⟩

theorem pure {a : α} (h : S (.ok a) []) : Traces w (pure a : Act α) S :=
  fun _ hb => ⟨hb, [], (List.append_nil _).symm, h⟩

theorem throw {r : Raised} (h : S (.error r) []) : Traces w (throw r : Act α) S :=
  fun _ hb => ⟨hb, [], (List.append_nil _).symm, h⟩

/-- What two actions add one after the other. -/
theorem bind (h : Traces w act S)
    (hok : ∀ a es, S (.ok a) es → Traces w (f a) fun e more => T e (es ++ more))
    (herror : ∀ r es, S (.error r) es → T (.error r) es) : Traces w (act >>= f) T := by
  intro b hb
  obtain ⟨hlies, es, htrace, hes⟩ := h b hb
  rcases he : act.exec b with ⟨r | a, c⟩
  · rw [he] at hlies htrace hes
    rw [exec_bind_of_error he]
    exact ⟨hlies, es, htrace, herror r es hes⟩
  · rw [he] at hlies htrace hes
    rw [exec_bind_of_ok he]
    obtain ⟨hlater, more, hmore, hT⟩ := hok a es hes c hlies
    exact ⟨hlater, es ++ more, by rw [hmore, htrace, List.append_assoc], hT⟩

/-- What an action adds is added even if it is only attempted. -/
theorem attempt_bind {f : Except Raised α → Act β} (h : Traces w act S)
    (hf : ∀ e es, S e es → Traces w (f e) fun e' more => T e' (es ++ more)) :
    Traces w (attempt act >>= f) T := by
  intro b hb
  obtain ⟨hlies, es, htrace, hes⟩ := h b hb
  rw [exec_bind_of_ok (exec_attempt act b)]
  obtain ⟨hlater, more, hmore, hT⟩ := hf _ es hes _ hlies
  exact ⟨hlater, es ++ more, by rw [hmore, htrace, List.append_assoc], hT⟩

/-- Before what adds something, what keeps still adds nothing. -/
theorem still_bind (h : Frame.still.Keeps act) (hf : ∀ a, Traces w (f a) T)
    (herror : ∀ r, T (.error r) []) : Traces w (act >>= f) T :=
  bind (of_still h fun _ => rfl : Traces w act fun _ es => es = [])
    (fun a es hes => by subst hes; exact hf a) fun r es hes => by subst hes; exact herror r

/-- After what adds something, what keeps still adds nothing. -/
theorem bind_of_still {L : List Effect → Prop} (h : Traces w act fun _ es => L es)
    (hf : ∀ a, Frame.still.Keeps (f a)) : Traces w (act >>= f) fun _ es => L es := by
  refine bind h (fun a es hes => of_still (hf a) fun _ => ?_) fun _ _ hes => hes
  rw [List.append_nil]
  exact hes

/-- What is done about the end of an attempt keeps still. -/
theorem attempt_bind_of_still {f : Except Raised α → Act β} {L : List Effect → Prop}
    (h : Traces w act fun _ es => L es) (hf : ∀ e, Frame.still.Keeps (f e)) :
    Traces w (attempt act >>= f) fun _ es => L es := by
  refine attempt_bind h fun e es hes => of_still (hf e) fun _ => ?_
  rw [List.append_nil]
  exact hes

theorem ask_bind {look : Bench → α} (hf : ∀ b : Bench, b.LiesIn w → Traces w (f (look b)) T) :
    Traces w (ask look >>= f) T := fun b hb => by
  rw [exec_bind_of_ok (exec_ask look b)]
  exact hf b hb b hb

theorem change_bind {g : Bench → Bench} {f : Unit → Act β} (hg : ∀ b : Bench, b.IsStill (g b))
    (hf : Traces w (f ()) T) : Traces w (change g >>= f) T := fun b hb => by
  have hlater := hf (g b) (hb.of_isStill (hg b))
  rw [(hg b).trace] at hlater
  rw [exec_bind_of_ok (exec_change g b)]
  exact hlater

theorem say_bind {e : Log.Event} {f : Unit → Act β} (hf : Traces w (f ()) T) :
    Traces w (say e >>= f) T := change_bind (fun _ => ⟨rfl, rfl, rfl, rfl⟩) hf

theorem note_bind {e : Effect} {f : Unit → Act β}
    (hf : Traces w (f ()) fun r es => T r (e :: es)) : Traces w (note e >>= f) T := fun b hb => by
  rw [exec_bind_of_ok (exec_note e b)]
  obtain ⟨hlater, more, hmore, hT⟩ := hf (b.noting e) ⟨hb.environ, hb.dir, hb.opened⟩
  refine ⟨hlater, e :: more, ?_, hT⟩
  rw [hmore, Bench.noting, Array.toList_push, List.append_assoc, List.singleton_append]

theorem ite {p : Prop} [Decidable p] {other : Act α} (h : p → Traces w act S)
    (ho : ¬p → Traces w other S) : Traces w (if p then act else other) S := by
  split
  · next hp => exact h hp
  · next hp => exact ho hp

end Traces

namespace Notes

/-- An effect is noted, and what follows keeps still. -/
theorem note_bind_still {e : Effect} {f : Unit → Act β} (hf : Frame.still.Keeps (f ())) :
    Notes w (note e >>= f) e :=
  Traces.note_bind (Traces.of_still hf fun _ => rfl)

/-- What follows the one effect keeps still. -/
theorem bind_still {e : Effect} (h : Notes w act e) (hf : ∀ a, Frame.still.Keeps (f a)) :
    Notes w (act >>= f) e := Traces.bind_of_still h hf

end Notes

end

/-! ### Calls -/

section

variable {w : Surroundings}

open Act.Frame

namespace Notes

theorem sleep (seconds : Float) : Notes w (sleep seconds) (.sleep seconds) := by
  refine note_bind_still (keeps_bind (keeps_ask _) fun _ => ?_)
  refine keeps_bind (keeps_change fun _ => ⟨rfl, rfl, rfl, rfl⟩) fun _ => ?_
  exact keeps_bind (keeps_perhaps _) fun _ => Still.keeps_advance seconds

theorem request (kind : Request) (e : Effect) : Notes w (request kind e) e := by
  refine note_bind_still (keeps_bind (keeps_ask _) fun _ => ?_)
  exact keeps_bind (keeps_change fun _ => ⟨rfl, rfl, rfl, rfl⟩) fun _ => keeps_perhaps _

theorem lookup (name : String) : Notes w (lookup name) (.lookup name) :=
  bind_still (request _ _) fun _ =>
    keeps_bind (keeps_ask _) fun _ => keeps_ite (keeps_throw _) (keeps_pure ())

theorem create (image name port : String) (hostPort : Option Int) :
    Notes w (create image name port hostPort) (.create image name port hostPort) := by
  have created : still.Keeps (do
      let id ← ask (·.daemon.nextId)
      change fun b => { b with daemon := b.daemon.create name }
      pure id) :=
    keeps_bind (keeps_ask _) fun id =>
      keeps_bind (keeps_change fun _ => ⟨rfl, rfl, rfl, rfl⟩) fun _ => keeps_pure id
  refine bind_still (request _ _) fun _ => keeps_bind (keeps_ask _) fun _ => ?_
  exact keeps_ite (keeps_bind (keeps_throw _) fun _ => created) created

theorem remove (name : String) : Notes w (remove name) (.remove name) :=
  bind_still (request _ _) fun _ => keeps_change fun _ => ⟨rfl, rfl, rfl, rfl⟩

theorem reload (name : String) : Notes w (reload name) (.reload name) :=
  bind_still (request _ _) fun _ => keeps_ask _

theorem logs (name : String) (tail : Int) : Notes w (logs name tail) (.logs name tail) :=
  bind_still (request _ _) fun _ => keeps_ask _

theorem runErrand (command : List String) (environ : List (String × String))
    (dir : Option String) (timeout : Option Float) :
    Notes w (runErrand command environ dir timeout) (.run command environ dir timeout) := by
  obtain ⟨rest, hrest, heq⟩ := Still.exists_runErrand command environ dir timeout
  rw [heq]
  refine Traces.ask_bind fun b _ => Traces.change_bind (fun _ => ⟨rfl, rfl, rfl, rfl⟩) ?_
  exact note_bind_still (hrest _)

theorem spawn (command : List String) (environ : List (String × String)) (dir : Option String)
    (route : Route) (output : Nat) :
    Notes w (spawn command environ dir route output)
      (.spawn command environ dir route.text) := by
  obtain ⟨rest, hrest, heq⟩ := Still.exists_spawn command environ dir route output
  rw [heq]
  refine Traces.ask_bind fun b _ => Traces.change_bind (fun _ => ⟨rfl, rfl, rfl, rfl⟩) ?_
  exact note_bind_still (hrest _)

theorem kill (pid : Int) : Notes w (kill pid) (.kill pid) := by
  refine note_bind_still (keeps_bind (keeps_dealWith pid .kill) fun _ => ?_)
  exact keeps_change fun _ => ⟨rfl, rfl, rfl, rfl⟩

theorem wait (pid : Int) : Notes w (wait pid) (.wait pid) := by
  refine note_bind_still (keeps_bind (keeps_dealWith pid .wait) fun _ => ?_)
  split
  · exact keeps_pure _
  · exact keeps_throw _

end Notes

namespace Traces

/-- An attempt at a connection is noted together with whether the connection was made, and hence
closed again. -/
theorem connect (host : String) (port : Int) (timeout : Float) :
    Traces w (connect host port timeout) fun e es =>
      es = [.connect host port timeout e.isOk] := by
  refine ask_bind fun b _ => change_bind (fun _ => ⟨rfl, rfl, rfl, rfl⟩) (note_bind ?_)
  cases b.connections.due with
  | none => exact pure rfl
  | some incident =>
    exact still_bind (Still.keeps_elapse _) (fun _ => throw rfl) fun _ => rfl

/-- The connection to the daemon need not be opened. -/
theorem openDaemon : Traces w openDaemon fun e es => e = .ok () ∧ es = [] := by
  refine ask_bind fun b hb => ?_
  rw [if_pos hb.opened]
  exact pure ⟨rfl, rfl⟩

end Traces

end
end ClientTrial
