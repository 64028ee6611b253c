import ClientTrial.Bench.Child
import ClientTrial.Bench.Daemon
import ClientTrial.Log.Event

/-!
# The bench

A trial runs on a bench: everything outside the trial, with what will happen to
it written down in advance, and a trace of what the trial has done to it.  An
action on the bench either answers or is ended by something raised; the bench it
leaves behind is known in both cases.

## Main definitions

* `Effect` — what a trial does to the outside world.
* `Bench` — the outside world and the trace.
* `Act` — an action on a bench.
* `Act.Answers` — nothing raised ends an action.
* `Act.attempt` — an action whose end is looked at instead of passed on.
* `Act.note`, `Act.say`, `Act.perhaps` — leave a trace, report an event, let an
  incident happen.

## Main results

* `Act.exec_attempt` — an action that is attempted does not end early, and leaves
  the bench that the action leaves.
-/

namespace ClientTrial

open Text (Octets)

/-! ### Effects -/

/-- What a trial does to the outside world. -/
inductive Effect where
  /-- A connection to the daemon is opened. -/
  | openDaemon
  /-- A container is looked up. -/
  | lookup (name : String)
  /-- A container is created that publishes a port on a port of the host, if one is given. -/
  | create (image name : String) (port : String) (hostPort : Option Int)
  /-- A container is removed. -/
  | remove (name : String)
  /-- The state of a container is read anew. -/
  | reload (name : String)
  /-- The log of a container is read. -/
  | logs (name : String) (tail : Int)
  /-- A connection to the server is attempted, and closed again if it was made. -/
  | connect (host : String) (port : Int) (timeout : Float) (closed : Bool)
  /-- A command is run to its end. -/
  | run (command : List String) (environ : List (String × String)) (dir : Option String)
      (timeout : Option Float)
  /-- A command is started in the background. -/
  | spawn (command : List String) (environ : List (String × String)) (dir : Option String)
      (output : String)
  /-- A background process is killed. -/
  | kill (pid : Int)
  /-- A background process is waited for. -/
  | wait (pid : Int)
  /-- Some seconds are let pass. -/
  | sleep (seconds : Float)

/-! ### The outside world -/

/-- Something that another program writes at a given reading of the clock. -/
structure Deposit where
  clock : Float
  route : Route
  content : Octets
  /-- The content is added at the end of the file rather than put in its place. -/
  atEnd : Bool

/-- The outside world of a trial and the trace of what was done to it. -/
structure Bench where
  /-- The clock, in seconds. -/
  clock : Float := 0.0
  /-- How long a reading of the clock takes. -/
  tick : Float := 0.0
  /-- The trial and the stage that records are stamped with. -/
  context : Log.Context := {}
  /-- The variables of the process environment. -/
  environ : List (String × String) := []
  /-- The directory that commands are run in. -/
  workingDir : Option String := none
  /-- The files, and those opened for output. -/
  desk : Desk
  /-- What other programs are going to write. -/
  deposits : List Deposit := []
  /-- The container daemon. -/
  daemon : Daemon := {}
  /-- What happens to the connections to the server, each with the time that it takes. -/
  connections : Queue (Raised × Float) := []
  /-- What happens to the pauses. -/
  pauses : Queue Raised := []
  /-- The commands that are run to their end. -/
  errands : List Errand := []
  /-- The background processes that are started. -/
  scripts : List Script := []
  /-- The background processes that have been started. -/
  children : List Child := []
  /-- What happens when a directory of artifacts is removed. -/
  removal : Option Raised := none
  /-- What the trial has done. -/
  trace : Array Effect := #[]
  /-- What the trial has reported. -/
  records : Array Log.Record := #[]

namespace Bench

/-- The files. -/
abbrev files (b : Bench) : Files := b.desk.files

/-- The bench with other files. -/
def withFiles (b : Bench) (fs : Files) : Bench := { b with desk := { b.desk with files := fs } }

/-- The bench with one more effect in its trace. -/
def noting (e : Effect) (b : Bench) : Bench := { b with trace := b.trace.push e }

/-- The bench with one more event reported. -/
def saying (e : Log.Event) (b : Bench) : Bench :=
  { b with records := b.records.push (e.record b.clock b.context) }

/-- The bench with some more events reported. -/
def sayingAll (events : List Log.Event) (b : Bench) : Bench :=
  events.foldl (fun b e => b.saying e) b

theorem sayingAll_append (events more : List Log.Event) (b : Bench) :
    b.sayingAll (events ++ more) = (b.sayingAll events).sayingAll more := List.foldl_append

/-- A bench whose working directory holds two empty directories and on which nothing will
happen. -/
def quiet : Bench := { desk := ⟨⟨[(["tmp"], .dir), (["art"], .dir)]⟩, []⟩ }

end Bench

/-! ### Actions -/

/-- An action on a bench. -/
abbrev Act := ExceptT Raised (StateM Bench)

namespace Act

/-- The end of an action and the bench that it leaves behind. -/
def exec {α : Type} (act : Act α) (b : Bench) : Except Raised α × Bench := StateT.run act.run b

/-- An action given by what it does. -/
def ofFun {α : Type} (f : Bench → Except Raised α × Bench) : Act α := ExceptT.mk f

@[simp] theorem exec_ofFun {α : Type} (f : Bench → Except Raised α × Bench) (b : Bench) :
    (ofFun f).exec b = f b := rfl

@[simp] theorem exec_pure {α : Type} (a : α) (b : Bench) :
    (pure a : Act α).exec b = (.ok a, b) := rfl

@[simp] theorem exec_throw {α : Type} (r : Raised) (b : Bench) :
    (throw r : Act α).exec b = (.error r, b) := rfl

theorem exec_bind {α β : Type} (act : Act α) (f : α → Act β) (b : Bench) :
    (act >>= f).exec b =
      match act.exec b with
      | (.ok a, b) => (f a).exec b
      | (.error r, b) => (.error r, b) := by
  rw [show (act >>= f).exec b = ExceptT.bindCont f (act.exec b).1 (act.exec b).2 from rfl]
  rcases act.exec b with ⟨result, b'⟩
  cases result <;> rfl

theorem exec_bind_of_ok {α β : Type} {act : Act α} {b c : Bench} {a : α}
    (h : act.exec b = (.ok a, c)) (f : α → Act β) : (act >>= f).exec b = (f a).exec c := by
  rw [exec_bind, h]

theorem exec_bind_of_error {α β : Type} {act : Act α} {b c : Bench} {r : Raised}
    (h : act.exec b = (.error r, c)) (f : α → Act β) : (act >>= f).exec b = (.error r, c) := by
  rw [exec_bind, h]

/-- An action answers after another iff both answer. -/
theorem exec_bind_eq_ok {α β : Type} {act : Act α} {f : α → Act β} {b c : Bench} {x : β} :
    (act >>= f).exec b = (.ok x, c) ↔
      ∃ a d, act.exec b = (.ok a, d) ∧ (f a).exec d = (.ok x, c) := by
  rw [exec_bind]
  rcases act.exec b with ⟨r | a, d⟩
  · simp
  · constructor
    · exact fun h => ⟨a, d, rfl, h⟩
    · rintro ⟨_, _, ⟨⟩, h⟩
      exact h

/-- An action is ended after another iff one of the two is ended. -/
theorem exec_bind_eq_error {α β : Type} {act : Act α} {f : α → Act β} {b c : Bench} {r : Raised} :
    (act >>= f).exec b = (.error r, c) ↔
      act.exec b = (.error r, c) ∨
        ∃ a d, act.exec b = (.ok a, d) ∧ (f a).exec d = (.error r, c) := by
  rw [exec_bind]
  rcases act.exec b with ⟨r | a, d⟩
  · simp
  · constructor
    · exact fun h => .inr ⟨a, d, rfl, h⟩
    · rintro (⟨⟨⟩⟩ | ⟨_, _, ⟨⟩, h⟩)
      exact h

/-- An action answers on a bench: nothing raised ends it. -/
def Answers {α : Type} (act : Act α) (b : Bench) : Prop := ∃ a, (act.exec b).1 = .ok a

theorem answers_of_exec {α : Type} {act : Act α} {b c : Bench} {a : α}
    (h : act.exec b = (.ok a, c)) : act.Answers b := ⟨a, congrArg Prod.fst h⟩

theorem exec_of_answers {α : Type} {act : Act α} {b : Bench} (h : act.Answers b) :
    ∃ a c, act.exec b = (.ok a, c) := by
  obtain ⟨a, ha⟩ := h
  exact ⟨a, _, Prod.ext ha rfl⟩

theorem answers_of_isOk {α : Type} {act : Act α} {b : Bench} (h : (act.exec b).1.isOk = true) :
    act.Answers b := by
  unfold Answers
  cases hend : (act.exec b).1 with
  | ok a => exact ⟨a, rfl⟩
  | error r =>
    rw [hend] at h
    cases h

theorem not_answers_of_exec {α : Type} {act : Act α} {b c : Bench} {r : Raised}
    (h : act.exec b = (.error r, c)) : ¬act.Answers b := by
  rintro ⟨a, ha⟩
  rw [h] at ha
  cases ha

theorem answers_bind_iff {α β : Type} {act : Act α} {f : α → Act β} {b : Bench} :
    (act >>= f).Answers b ↔ ∃ a c, act.exec b = (.ok a, c) ∧ (f a).Answers c := by
  constructor
  · rintro ⟨x, hx⟩
    obtain ⟨a, c, ha, hf⟩ := exec_bind_eq_ok.1 (Prod.ext hx rfl)
    exact ⟨a, c, ha, answers_of_exec hf⟩
  · rintro ⟨a, c, ha, hf⟩
    rw [Answers, exec_bind_of_ok ha]
    exact hf

/-- What always answers does not matter to whether an action before it does. -/
theorem answers_bind_of_forall {α β : Type} {act : Act α} {f : α → Act β} {b : Bench}
    (hf : ∀ a c, (f a).Answers c) : (act >>= f).Answers b ↔ act.Answers b := by
  rw [answers_bind_iff]
  constructor
  · rintro ⟨a, c, ha, -⟩
    exact answers_of_exec ha
  · intro h
    obtain ⟨a, c, ha⟩ := exec_of_answers h
    exact ⟨a, c, ha, hf a c⟩

/-- An action whose end is looked at instead of passed on. -/
def attempt {α : Type} (act : Act α) : Act (Except Raised α) :=
  ofFun fun b => (.ok (act.exec b).1, (act.exec b).2)

/-- An action that is attempted does not end early, and leaves the bench that the action
leaves. -/
@[simp] theorem exec_attempt {α : Type} (act : Act α) (b : Bench) :
    (attempt act).exec b = (.ok (act.exec b).1, (act.exec b).2) := rfl

/-- What an action ended with is passed on. -/
def release {α : Type} : Except Raised α → Act α
  | .ok a => pure a
  | .error r => throw r

@[simp] theorem exec_release {α : Type} (e : Except Raised α) (b : Bench) :
    (release e).exec b = (e, b) := by
  cases e <;> rfl

/-- A call that either answers or ends with a fault. -/
def ofExcept {α : Type} : Except Fault α → Act α
  | .ok a => pure a
  | .error f => throw (.fault f)

@[simp] theorem exec_ofExcept {α : Type} (e : Except Fault α) (b : Bench) :
    (ofExcept e).exec b = (e.mapError Raised.fault, b) := by
  cases e <;> rfl

theorem exec_ofExcept_eq_ok {α : Type} {e : Except Fault α} {b c : Bench} {a : α} :
    (ofExcept e).exec b = (.ok a, c) ↔ e = .ok a ∧ b = c := by
  cases e with
  | ok x =>
    change (Except.ok x, b) = (Except.ok a, c) ↔ _
    simp
  | error f =>
    change (Except.error (Raised.fault f), b) = (Except.ok a, c) ↔ _
    simp

/-- The bench is changed. -/
def change (f : Bench → Bench) : Act Unit := ofFun fun b => (.ok (), f b)

@[simp] theorem exec_change (f : Bench → Bench) (b : Bench) :
    (change f).exec b = (.ok (), f b) := rfl

/-- Something is looked at on the bench. -/
def ask {α : Type} (f : Bench → α) : Act α := ofFun fun b => (.ok (f b), b)

@[simp] theorem exec_ask {α : Type} (f : Bench → α) (b : Bench) :
    (ask f).exec b = (.ok (f b), b) := rfl

/-- An incident happens, if there is one. -/
def perhaps : Option Raised → Act Unit
  | none => pure ()
  | some r => throw r

@[simp] theorem exec_perhaps_none (b : Bench) : (perhaps none).exec b = (.ok (), b) := rfl

@[simp] theorem exec_perhaps_some (r : Raised) (b : Bench) :
    (perhaps (some r)).exec b = (.error r, b) := rfl

theorem exec_perhaps_eq_ok {incident : Option Raised} {b c : Bench} :
    (perhaps incident).exec b = (.ok (), c) ↔ incident = none ∧ b = c := by
  cases incident <;> simp

/-- An effect is added to the trace. -/
def note (e : Effect) : Act Unit := change (·.noting e)

@[simp] theorem exec_note (e : Effect) (b : Bench) : (note e).exec b = (.ok (), b.noting e) := rfl

/-- An event is reported. -/
def say (e : Log.Event) : Act Unit := change (·.saying e)

@[simp] theorem exec_say (e : Log.Event) (b : Bench) : (say e).exec b = (.ok (), b.saying e) := rfl

end Act
end ClientTrial
