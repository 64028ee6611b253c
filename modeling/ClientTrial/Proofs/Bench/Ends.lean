import ClientTrial.Bench.Calls

/-!
# What can end an action

What will happen to the calls of a trial is written down on the bench beforehand.  If all
of it has a property, an action can be ended by nothing but something of that property, a
fault that a call of this library raises itself, or what the action raises of its own
accord.

What an action may be ended by is therefore said in two steps: the bench foresees the
incidents, and a larger property covers them.  Each way of making an action from others
has one rule, and so has each call into the outside world.

## Main definitions

* `Bench.Foresees` — whatever will happen on the bench has a property.
* `Raised.Covers` — a property covers what can happen to a call.
* `Act.Ends` — an action is ended by nothing but what has a property.

## Main results

* `Ends.bind`, `Ends.attempt_bind` — one rule for each way of making an action from others.
* `Ends.sleep`, `Ends.lookup`, … — the calls into the outside world.
-/

namespace ClientTrial

open Act

/-! ### What will happen -/

/-- Every incident in a queue has a property. -/
def Queue.All {α : Type} (P : α → Prop) (q : Queue α) : Prop := ∀ a, some a ∈ q → P a

theorem Queue.All.due {α : Type} {P : α → Prop} {q : Queue α} (h : q.All P) :
    ∀ a ∈ q.due, P a := by
  intro a ha
  cases q with
  | nil => cases ha
  | cons entry entries => exact h a (List.mem_cons.2 (.inl (Option.mem_def.1 ha).symm))

theorem Queue.All.rest {α : Type} {P : α → Prop} {q : Queue α} (h : q.All P) : q.rest.All P := by
  intro a ha
  cases q with
  | nil => cases ha
  | cons entry entries => exact h a (List.mem_cons_of_mem _ ha)

/-- An incident has a property, if there is one. -/
def Foreseen (W : Raised → Prop) (incident : Option Raised) : Prop := ∀ r ∈ incident, W r

/-- Whatever happens to a background process has a property. -/
structure Script.Foresees (W : Raised → Prop) (s : Script) : Prop where
  spawn : Foreseen W s.spawnIncident
  dealings : ∀ dealing age, Foreseen W (s.incident dealing age)
  close : Foreseen W s.closeIncident

/-- Whatever happens to the opened files has a property. -/
def Desk.Foresees (W : Raised → Prop) (d : Desk) : Prop :=
  ∀ o ∈ d.outputs, Foreseen W o.closeIncident

/-- Whatever happens to requests has a property.  If `ready`, the daemon has been reached before. -/
structure Daemon.Foresees (W : Raised → Prop) (ready : Prop) (d : Daemon) : Prop where
  incidents : ∀ kind, (d.incidents kind).All W
  openings : d.openings.All W
  opened : ready → d.opened = true

/-- Whatever will happen on a bench has a property.  If `ready`, the daemon has been reached
before. -/
structure Bench.Foresees (W : Raised → Prop) (ready : Prop) (b : Bench) : Prop where
  connections : b.connections.All fun incident => W incident.1
  pauses : b.pauses.All W
  daemon : b.daemon.Foresees W ready
  errands : ∀ e ∈ b.errands, Foreseen W e.spawnIncident
  scripts : ∀ s ∈ b.scripts, s.Foresees W
  children : ∀ c ∈ b.children, c.script.Foresees W
  desk : b.desk.Foresees W
  removal : Foreseen W b.removal

/-- A property covers what can happen to a call: the incidents that are foreseen, and the faults
that the calls raise themselves. -/
structure Raised.Covers (W Q : Raised → Prop) : Prop where
  incident : ∀ r, W r → Q r
  fault : ∀ f, Q (.fault f)

section Foresees

variable {W : Raised → Prop} {ready : Prop}

theorem foreseen_none : Foreseen W none := fun _ h => absurd h (Option.not_mem_none _)

theorem Script.foresees_default : Script.Foresees W {} :=
  ⟨foreseen_none, fun _ _ => foreseen_none, foreseen_none⟩

/-- Nothing will happen on a quiet bench. -/
theorem Bench.foresees_quiet : quiet.Foresees W ready where
  connections _ h := absurd h List.not_mem_nil
  pauses _ h := absurd h List.not_mem_nil
  daemon := ⟨fun _ _ h => absurd h List.not_mem_nil, fun _ h => absurd h List.not_mem_nil,
    fun _ => rfl⟩
  errands _ h := absurd h List.not_mem_nil
  scripts _ h := absurd h List.not_mem_nil
  children _ h := absurd h List.not_mem_nil
  desk _ h := absurd h List.not_mem_nil
  removal := foreseen_none

/-- Nothing is asked of a bench that need not be ready. -/
theorem Bench.Foresees.unready {b : Bench} (h : b.Foresees W ready) : b.Foresees W False :=
  { h with daemon := { h.daemon with opened := False.elim } }

/-! ### Processes and opened files -/

theorem Desk.Foresees.changeOutput {d : Desk} (h : d.Foresees W) (n : Nat) {f : Output → Output}
    (hf : ∀ o, Foreseen W o.closeIncident → Foreseen W (f o).closeIncident) :
    (d.changeOutput n f).Foresees W := by
  intro o ho
  obtain ⟨i, hi⟩ := List.mem_iff_getElem?.1 ho
  rw [Desk.changeOutput, List.getElem?_modify] at hi
  obtain ⟨o', ho', rfl⟩ := Option.map_eq_some_iff.1 hi
  have hclose : Foreseen W o'.closeIncident := h o' (List.mem_of_getElem? ho')
  split
  · exact hf o' hclose
  · exact hclose

theorem Desk.Foresees.write {d : Desk} (h : d.Foresees W) (n : Nat) (piece : Text.Octets) :
    (d.write n piece).Foresees W := by
  unfold Desk.write
  split
  · exact h
  · split
    · exact h.changeOutput n fun _ ho => ho
    · exact h

theorem Desk.Foresees.foldl_write {d : Desk} (h : d.Foresees W) (n : Nat)
    (pieces : List Text.Octets) : (pieces.foldl (Desk.write n) d).Foresees W := by
  induction pieces generalizing d with
  | nil => exact h
  | cons piece rest ih => exact ih (h.write n piece)

/-- A process that acts goes on with its script and adds nothing to what happens to the opened
files. -/
def Child.ActsAsForeseen (W : Raised → Prop) (act : Child → Desk → Child × Desk) : Prop :=
  ∀ (c : Child) (d : Desk),
    (act c d).1.script = c.script ∧ (d.Foresees W → (act c d).2.Foresees W)

theorem Child.actsAsForeseen_advance (clock : Float) : ActsAsForeseen W (advance clock) := by
  intro c d
  unfold advance
  split
  · exact ⟨rfl, fun h => h.foldl_write _ _⟩
  · exact ⟨rfl, id⟩

theorem Child.actsAsForeseen_relay (piece : Text.Octets) : ActsAsForeseen W (relay piece) := by
  intro c d
  refine ⟨rfl, fun h => ?_⟩
  unfold relay
  dsimp only
  split
  · exact h.write _ _
  · exact h

theorem Child.foresees_each {act : Child → Desk → Child × Desk} (hact : ActsAsForeseen W act)
    {children : List Child} {d : Desk} (hchildren : ∀ c ∈ children, c.script.Foresees W)
    (hd : d.Foresees W) :
    (∀ c ∈ (each act children d).1, c.script.Foresees W) ∧ (each act children d).2.Foresees W := by
  induction children generalizing d with
  | nil => exact ⟨hchildren, hd⟩
  | cons c rest ih =>
    obtain ⟨hc, hrest⟩ := List.forall_mem_cons.1 hchildren
    obtain ⟨hscript, hdesk⟩ := hact c d
    obtain ⟨hlater, hlast⟩ := ih hrest (hdesk hd)
    refine ⟨List.forall_mem_cons.2 ⟨?_, hlater⟩, hlast⟩
    rw [hscript]
    exact hc

/-- What happens to a process that is found is foreseen if every script foresees it. -/
theorem Bench.Foresees.find? {b : Bench} (hb : b.Foresees W ready) (pid : Int) (clock : Float)
    (dealing : Dealing) :
    Foreseen W ((b.children.find? (·.pid == pid)).bind (·.incident? clock dealing)) := by
  intro r hr
  obtain ⟨c, hc, hr⟩ := Option.bind_eq_some_iff.1 hr
  exact (hb.children c (List.mem_of_find?_eq_some hc)).dealings dealing _ r hr

theorem Bench.Foresees.sayingAll (events : List Log.Event) {b : Bench}
    (hb : b.Foresees W ready) : (b.sayingAll events).Foresees W ready := by
  induction events generalizing b with
  | nil => exact hb
  | cons e rest ih => exact ih { hb with }

end Foresees

/-! ### Ends of actions -/

/-- On a bench that foresees its incidents an action is ended by nothing but what has a property,
and the bench foresees its incidents afterwards as well. -/
def Act.Ends {α : Type} (W : Raised → Prop) (ready : Prop) (Q : Raised → Prop) (act : Act α) :
    Prop :=
  ∀ b : Bench, b.Foresees W ready →
    (∀ r, (act.exec b).1 = .error r → Q r) ∧ (act.exec b).2.Foresees W ready

namespace Ends

variable {W Q : Raised → Prop} {ready : Prop} {α β : Type} {act : Act α}

/-- An action that answers on every such bench is ended by nothing. -/
theorem of_answers
    (h : ∀ b : Bench, b.Foresees W ready →
      ∃ a c, act.exec b = (.ok a, c) ∧ c.Foresees W ready) : Ends W ready Q act := by
  intro b hb
  obtain ⟨a, c, hac, hc⟩ := h b hb
  rw [hac]
  refine ⟨fun r hr => ?_, hc⟩
  cases hr

theorem pure (a : α) : Ends W ready Q (pure a : Act α) := of_answers fun b hb => ⟨a, b, rfl, hb⟩

theorem throw {r : Raised} (h : Q r) : Ends W ready Q (throw r : Act α) := by
  refine fun b hb => ⟨fun r' hr => ?_, hb⟩
  cases hr
  exact h

theorem ask (f : Bench → α) : Ends W ready Q (ask f) := of_answers fun b hb => ⟨f b, b, rfl, hb⟩

theorem change {f : Bench → Bench} (h : ∀ b, b.Foresees W ready → (f b).Foresees W ready) :
    Ends W ready Q (change f) := of_answers fun b hb => ⟨(), f b, rfl, h b hb⟩

/-- What follows need only be looked at from where an action that answers leads. -/
theorem bind_of_answers {f : α → Act β} (h : Ends W ready Q act)
    (hf : ∀ a b c, b.Foresees W ready → act.exec b = (.ok a, c) → Ends W ready Q (f a)) :
    Ends W ready Q (act >>= f) := by
  intro b hb
  obtain ⟨hend, hafter⟩ := h b hb
  rcases he : act.exec b with ⟨r | a, c⟩
  · rw [he] at hend hafter
    rw [exec_bind_of_error he]
    refine ⟨fun r' hr => ?_, hafter⟩
    cases hr
    exact hend r rfl
  · rw [he] at hafter
    rw [exec_bind_of_ok he]
    exact hf a b c hb he c hafter

theorem bind {f : α → Act β} (h : Ends W ready Q act) (hf : ∀ a, Ends W ready Q (f a)) :
    Ends W ready Q (act >>= f) := bind_of_answers h fun a _ _ _ _ => hf a

/-- What is looked at is looked at on a bench that foresees its incidents. -/
theorem ask_bind {look : Bench → α} {f : α → Act β}
    (hf : ∀ b : Bench, b.Foresees W ready → Ends W ready Q (f (look b))) :
    Ends W ready Q (Act.ask look >>= f) := by
  refine bind_of_answers (ask look) fun a b c hb h => ?_
  cases h
  exact hf b hb

theorem attempt (h : Ends W ready Q act) : Ends W ready Q (attempt act) :=
  of_answers fun b hb => ⟨_, _, exec_attempt act b, (h b hb).2⟩

/-- What has ended an action that was attempted has the property. -/
theorem attempt_bind {f : Except Raised α → Act β} (h : Ends W ready Q act)
    (hok : ∀ a, Ends W ready Q (f (.ok a)))
    (herror : ∀ r, Q r → Ends W ready Q (f (.error r))) :
    Ends W ready Q (Act.attempt act >>= f) := by
  refine bind_of_answers (attempt h) fun e b c hb he => ?_
  cases he
  cases hr : (act.exec b).1 with
  | ok a => exact hok a
  | error r => exact herror r ((h b hb).1 r hr)

theorem ite {p : Prop} [Decidable p] {other : Act α} (h : Ends W ready Q act)
    (ho : Ends W ready Q other) : Ends W ready Q (if p then act else other) := by
  split
  · exact h
  · exact ho

theorem note (e : Effect) : Ends W ready Q (note e) := change fun _ hb => { hb with }

theorem say (e : Log.Event) : Ends W ready Q (say e) := change fun _ hb => { hb with }

/-! ### Files -/

variable (hQ : Raised.Covers W Q)
include hQ

theorem perhaps {incident : Option Raised} (h : Foreseen W incident) :
    Ends W ready Q (perhaps incident) := by
  cases incident with
  | none => exact pure ()
  | some r => exact throw (hQ.incident r (h r rfl))

theorem ofExcept (e : Except Fault α) : Ends W ready Q (ofExcept e) := by
  cases e with
  | ok a => exact pure a
  | error f => exact throw (hQ.fault f)

theorem onFiles (f : Files → Except Fault Files) : Ends W ready Q (onFiles f) :=
  bind (ask _) fun _ => bind (ofExcept hQ _) fun _ => change fun _ hb => { hb with }

theorem fromFiles (f : Files → Except Fault α) : Ends W ready Q (fromFiles f) :=
  bind (ask _) fun _ => ofExcept hQ _

theorem openOutput (route : Route) : Ends W ready Q (openOutput route) := by
  refine bind (onFiles hQ _) fun _ => bind (fromFiles hQ _) fun place => bind (ask _) fun n => ?_
  refine bind (change fun b hb => { hb with desk := fun o ho => ?_ }) fun _ => pure n
  rcases List.mem_append.1 ho with ho | ho
  · exact hb.desk o ho
  · cases List.mem_singleton.1 ho
    exact foreseen_none

omit hQ in
theorem changeOutput (n : Nat) {f : Output → Output}
    (hf : ∀ o, Foreseen W o.closeIncident → Foreseen W (f o).closeIncident) :
    Ends W ready Q (changeOutput n f) :=
  change fun _ hb => { hb with desk := hb.desk.changeOutput n hf }

theorem closeOutput (n : Nat) : Ends W ready Q (closeOutput n) := by
  refine ask_bind fun b hb => bind (changeOutput n fun _ ho => ho) fun _ => ?_
  refine bind (perhaps hQ fun r hr => ?_) fun _ => changeOutput n fun _ ho => ho
  obtain ⟨o, ho, hr⟩ := Option.bind_eq_some_iff.1 hr
  exact hb.desk o (List.mem_of_getElem? ho) r hr

/-! ### Time -/

theorem settleDeposits (deposits : List Deposit) : Ends W ready Q (settleDeposits deposits) := by
  induction deposits with
  | nil => exact pure ()
  | cons d rest ih =>
    refine bind (ask _) fun clock => ite ?_ ?_
    · exact bind (onFiles hQ _) fun _ => ih
    · exact bind ih fun _ => change fun _ hb => { hb with }

omit hQ in
/-- All processes act on the files. -/
theorem change_each {act : Bench → Child → Desk → Child × Desk}
    (hact : ∀ b, Child.ActsAsForeseen W (act b)) :
    Ends W ready Q (Act.change fun b =>
      let (children, desk) := Child.each (act b) b.children b.desk
      { b with children, desk }) := by
  refine change fun b hb => ?_
  obtain ⟨hchildren, hdesk⟩ := Child.foresees_each (hact b) hb.children hb.desk
  exact { hb with children := hchildren, desk := hdesk }

theorem settle : Ends W ready Q settle := by
  refine bind (ask _) fun deposits => bind (change fun _ hb => { hb with }) fun _ => ?_
  refine bind (settleDeposits hQ _) fun _ => ?_
  exact change_each fun b => Child.actsAsForeseen_advance b.clock

theorem advance (seconds : Float) : Ends W ready Q (advance seconds) :=
  bind (change fun _ hb => { hb with }) fun _ => settle hQ

theorem elapse (seconds : Float) : Ends W ready Q (elapse seconds) :=
  bind (attempt (advance hQ seconds)) fun _ => pure ()

theorem sleep (seconds : Float) : Ends W ready Q (sleep seconds) := by
  refine bind (note _) fun _ => ask_bind fun b hb => ?_
  refine bind (change fun c hc => { hc with pauses := hc.pauses.rest }) fun _ => ?_
  exact bind (perhaps hQ hb.pauses.due) fun _ => advance hQ seconds

theorem readClock : Ends W ready Q readClock :=
  bind (ask _) fun clock => bind (ask _) fun _ => bind (advance hQ _) fun _ => pure clock

theorem connect (host : String) (port : Int) (timeout : Float) :
    Ends W ready Q (connect host port timeout) := by
  refine ask_bind fun b hb => ?_
  refine bind (change fun c hc => { hc with connections := hc.connections.rest }) fun _ => ?_
  refine bind (note _) fun _ => ?_
  split
  · exact pure ()
  · next raised cost hdue =>
    refine bind (elapse hQ _) fun _ => throw (hQ.incident raised ?_)
    exact hb.connections.due _ hdue

/-! ### The daemon -/

theorem openDaemon : Ends W ready Q openDaemon := by
  refine bind (ask _) fun opened => ite (pure ()) (bind (note _) fun _ => ?_)
  refine ask_bind fun b hb => bind (change fun c hc => ?_) fun _ => ?_
  · exact { hc with daemon := { hc.daemon with openings := hc.daemon.openings.rest } }
  · refine bind (perhaps hQ hb.daemon.openings.due) fun _ => ?_
    exact change fun c hc => { hc with daemon := { hc.daemon with opened := fun _ => rfl } }

theorem request (kind : Request) (effect : Effect) : Ends W ready Q (request kind effect) := by
  refine bind (note _) fun _ => ask_bind fun b hb => bind (change fun c hc => ?_) fun _ => ?_
  · refine { hc with daemon := { hc.daemon with incidents := fun r => ?_ } }
    dsimp only [Daemon.served]
    split
    · exact (hc.daemon.incidents r).rest
    · exact hc.daemon.incidents r
  · exact perhaps hQ (hb.daemon.incidents kind).due

theorem lookup (name : String) : Ends W ready Q (lookup name) :=
  bind (request hQ _ _) fun _ => bind (ask _) fun _ => ite (throw (hQ.fault _)) (pure ())

theorem create (image name port : String) (hostPort : Option Int) :
    Ends W ready Q (create image name port hostPort) := by
  have created : Ends W ready Q (do
      let id ← Act.ask (·.daemon.nextId)
      Act.change fun b => { b with daemon := b.daemon.create name }
      Pure.pure id) := by
    refine bind (ask _) fun id => bind (change fun c hc => ?_) fun _ => pure id
    exact { hc with daemon := { hc.daemon with } }
  refine bind (request hQ _ _) fun _ => bind (ask _) fun _ => ?_
  exact ite (bind (throw (hQ.fault _)) fun _ => created) created

theorem remove (name : String) : Ends W ready Q (remove name) := by
  refine bind (request hQ _ _) fun _ => change fun c hc => ?_
  exact { hc with daemon := { hc.daemon with } }

theorem reload (name : String) : Ends W ready Q (reload name) :=
  bind (request hQ _ _) fun _ => ask _

theorem logs (name : String) (tail : Int) : Ends W ready Q (logs name tail) :=
  bind (request hQ _ _) fun _ => ask _

/-! ### Processes -/

theorem runErrand (command : List String) (environ : List (String × String))
    (dir : Option String) (timeout : Option Float) :
    Ends W ready Q (runErrand command environ dir timeout) := by
  refine ask_bind fun b hb => ?_
  have due : Foreseen W (b.errands.headD {}).spawnIncident := by
    cases hlist : b.errands with
    | nil => exact foreseen_none
    | cons e rest => exact hb.errands e (by simp [hlist])
  refine bind (change fun c hc => { hc with
    errands := fun e he => hc.errands e (List.mem_of_mem_tail he) }) fun _ => ?_
  refine bind (note _) fun _ => ite (bind (throw (hQ.fault _)) fun _ => ?_) ?_
  -- what follows an empty command is never reached, but stands there all the same
  all_goals
    refine bind (perhaps hQ due) fun _ => ?_
    split
    · exact bind (elapse hQ _) fun _ => throw (hQ.fault _)
    · refine bind (elapse hQ _) fun _ => bind ?_ fun _ => pure _
      exact change_each fun _ => Child.actsAsForeseen_relay _

theorem spawn (command : List String) (environ : List (String × String)) (dir : Option String)
    (route : Route) (output : Nat) :
    Ends W ready Q (spawn command environ dir route output) := by
  refine ask_bind fun b hb => ?_
  have next : (b.scripts.headD {}).Foresees W := by
    cases hlist : b.scripts with
    | nil => exact Script.foresees_default
    | cons s rest => exact hb.scripts s (by simp [hlist])
  refine bind (change fun c hc => { hc with
    scripts := fun s hs => hc.scripts s (List.mem_of_mem_tail hs) }) fun _ => ?_
  refine bind (note _) fun _ => ite (bind (throw (hQ.fault _)) fun _ => ?_) ?_
  all_goals
    refine bind (perhaps hQ next.spawn) fun _ => ?_
    refine bind (changeOutput output fun _ _ => next.close) fun _ => ?_
    refine bind (ask _) fun pid => bind (change fun c hc => ?_) fun _ => pure pid
    -- the process that is added acts at once, and its script is the one that was next
    obtain ⟨hscript, hdesk⟩ := Child.actsAsForeseen_advance (W := W) c.clock
      { pid, command, start := c.clock, script := b.scripts.headD {},
        pending := (b.scripts.headD {}).pieces, output } c.desk
    refine { hc with children := fun child hchild => ?_, desk := hdesk hc.desk }
    rcases List.mem_append.1 hchild with hchild | hchild
    · exact hc.children child hchild
    · cases List.mem_singleton.1 hchild
      rw [hscript]
      exact next

theorem dealWith (pid : Int) (dealing : Dealing) : Ends W ready Q (dealWith pid dealing) :=
  ask_bind fun _ hb => bind (ask _) fun clock =>
    bind (perhaps hQ (hb.find? pid clock dealing)) fun _ => pure _

theorem isRunning (pid : Int) : Ends W ready Q (isRunning pid) :=
  bind (dealWith hQ pid .poll) fun _ => pure _

theorem kill (pid : Int) : Ends W ready Q (kill pid) := by
  refine bind (note _) fun _ => bind (dealWith hQ pid .kill) fun _ => ?_
  refine change fun c hc => { hc with children := fun child hchild => ?_ }
  obtain ⟨earlier, hearlier, rfl⟩ := List.mem_map.1 hchild
  split
  · exact hc.children earlier hearlier
  · exact hc.children earlier hearlier

theorem wait (pid : Int) : Ends W ready Q (wait pid) := by
  refine bind (note _) fun _ => bind (dealWith hQ pid .wait) fun child => ?_
  split
  · exact pure _
  · exact throw (hQ.fault _)

omit hQ in
theorem status? (pid : Int) : Ends W ready Q (status? pid) :=
  bind (ask _) fun _ => pure _

end Ends
end ClientTrial
