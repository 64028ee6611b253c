import ClientTrial.Proofs.Bench.Trace

/-!
# What kind of effects are added to the trace

Of what an action adds to the trace it may be known that every effect is of some kind,
which may depend on the variables of the environment.  These are never changed, so that what
two actions add one after the other is of the kind if what each of them adds is.  This holds
however an action ends, and whether or not the connection to the daemon is already open.

## Main definitions

* `Bench.Adds` — the effects that were added since an earlier bench are of a kind.
* `Act.Frame.adding` — the frame of actions that add effects of a kind only.

## Main results

* `Adds.keeps_of_still` — what leaves no trace adds no effect of any other kind.
* `Adds.keeps_sleep`, `Adds.keeps_connect`, … — each call adds its one effect.
-/

namespace ClientTrial

open Act

/-- The environment is the same, and all effects that were added are of a kind. -/
structure Bench.Adds (P : List (String × String) → Effect → Prop) (b later : Bench) : Prop where
  environ : later.environ = b.environ
  trace : ∃ es, later.trace.toList = b.trace.toList ++ es ∧ ∀ e ∈ es, P b.environ e

namespace Bench.Adds

variable {P : List (String × String) → Effect → Prop} {b c d : Bench}

theorem of_isStill (h : b.IsStill c) : b.Adds P c :=
  ⟨h.environ, [], by rw [h.trace, List.append_nil], fun _ he => nomatch he⟩

theorem trans (h : b.Adds P c) (hl : c.Adds P d) : b.Adds P d := by
  obtain ⟨es, htrace, hes⟩ := h.trace
  obtain ⟨more, hlater, hmore⟩ := hl.trace
  rw [h.environ] at hmore
  refine ⟨hl.environ.trans h.environ, es ++ more, ?_, List.forall_mem_append.2 ⟨hes, hmore⟩⟩
  rw [hlater, htrace, List.append_assoc]

end Bench.Adds

/-- The frame of actions that add effects of a kind only. -/
def Act.Frame.adding (P : List (String × String) → Effect → Prop) : Frame where
  Holds := Bench.Adds P
  refl _ := .of_isStill (Frame.still.refl _)
  trans := Bench.Adds.trans

namespace Adds

open Act.Frame

variable {P : List (String × String) → Effect → Prop} {α β : Type}

/-- What leaves no trace adds no effect of any other kind. -/
theorem keeps_of_still {act : Act α} (h : still.Keeps act) : (adding P).Keeps act :=
  h.mono fun _ _ hstill => Bench.Adds.of_isStill hstill

theorem keeps_change_of_still {f : Bench → Bench} (h : ∀ b : Bench, b.IsStill (f b)) :
    (adding P).Keeps (change f) := keeps_of_still (keeps_change h)

theorem adds_noting {e : Effect} {b : Bench} (he : P b.environ e) : b.Adds P (b.noting e) :=
  ⟨rfl, [e], Array.toList_push, List.forall_mem_singleton.2 he⟩

theorem keeps_note {e : Effect} (he : ∀ environ, P environ e) : (adding P).Keeps (note e) :=
  fun b => adds_noting (he b.environ)

/-- An effect is noted, and what follows keeps still. -/
theorem adds_note_bind {e : Effect} {f : Unit → Act β} {b : Bench} (he : P b.environ e)
    (hf : still.Keeps (f ())) : b.Adds P ((note e >>= f).exec b).2 := by
  rw [exec_bind_of_ok (exec_note e b)]
  exact (adds_noting he).trans (.of_isStill (hf _))

theorem keeps_say (e : Log.Event) : (adding P).Keeps (say e) := keeps_of_still (Still.keeps_say e)

/-! ### Time and the server -/

theorem keeps_sleep {seconds : Float} (he : ∀ environ, P environ (.sleep seconds)) :
    (adding P).Keeps (sleep seconds) := by
  refine Frame.keeps_sleep (keeps_note he) (fun _ _ => ?_) (keeps_of_still (Still.keeps_advance _))
  exact .of_isStill ⟨rfl, rfl, rfl, rfl⟩

theorem keeps_connect {host : String} {port : Int} {timeout : Float}
    (he : ∀ environ closed, P environ (.connect host port timeout closed)) :
    (adding P).Keeps (connect host port timeout) := by
  refine Frame.keeps_connect (fun closed => keeps_note fun environ => he environ closed)
    (fun _ _ => ?_) fun _ => keeps_of_still (Still.keeps_advance _)
  exact .of_isStill ⟨rfl, rfl, rfl, rfl⟩

/-! ### The daemon -/

theorem keeps_openDaemon (he : ∀ environ, P environ .openDaemon) :
    (adding P).Keeps openDaemon := by
  refine Frame.keeps_openDaemon (keeps_note he) fun b _ _ => ⟨rfl, [], ?_, ?_⟩
  · rw [List.append_nil]
  · exact fun _ he => nomatch he

theorem keeps_request {kind : Request} {e : Effect} (he : ∀ environ, P environ e) :
    (adding P).Keeps (request kind e) :=
  Frame.keeps_request (keeps_note he) (keeps_change_of_still fun _ => ⟨rfl, rfl, rfl, rfl⟩)

theorem keeps_lookup {name : String} (he : ∀ environ, P environ (.lookup name)) :
    (adding P).Keeps (lookup name) := Frame.keeps_lookup (keeps_request he)

theorem keeps_create {image name port : String} {hostPort : Option Int}
    (he : ∀ environ, P environ (.create image name port hostPort)) :
    (adding P).Keeps (create image name port hostPort) :=
  Frame.keeps_create (keeps_request he) (keeps_change_of_still fun _ => ⟨rfl, rfl, rfl, rfl⟩)

theorem keeps_remove {name : String} (he : ∀ environ, P environ (.remove name)) :
    (adding P).Keeps (remove name) :=
  Frame.keeps_remove (keeps_request he) (keeps_change_of_still fun _ => ⟨rfl, rfl, rfl, rfl⟩)

theorem keeps_reload {name : String} (he : ∀ environ, P environ (.reload name)) :
    (adding P).Keeps (reload name) := Frame.keeps_reload (keeps_request he)

theorem keeps_logs {name : String} {tail : Int} (he : ∀ environ, P environ (.logs name tail)) :
    (adding P).Keeps (logs name tail) := Frame.keeps_logs (keeps_request he)

/-! ### Processes -/

/-- A command is run in an environment that may be known on the bench on which it is run. -/
theorem adds_runErrand {command : List String} {environ : List (String × String)}
    {dir : Option String} {timeout : Option Float} {b : Bench}
    (he : P b.environ (.run command environ dir timeout)) :
    b.Adds P ((runErrand command environ dir timeout).exec b).2 := by
  have taken : b.Adds P { b with errands := b.errands.tail } := .of_isStill ⟨rfl, rfl, rfl, rfl⟩
  obtain ⟨rest, hrest, heq⟩ := Still.exists_runErrand command environ dir timeout
  rw [heq, exec_bind_of_ok (exec_ask _ b), exec_bind_of_ok (exec_change _ b)]
  exact taken.trans (adds_note_bind he (hrest _))

/-- A command is started in an environment that may be known on the bench on which it is started. -/
theorem adds_spawn {command : List String} {environ : List (String × String)}
    {dir : Option String} {route : Route} {n : Nat} {b : Bench}
    (he : P b.environ (.spawn command environ dir route.text)) :
    b.Adds P ((spawn command environ dir route n).exec b).2 := by
  have taken : b.Adds P { b with scripts := b.scripts.tail } := .of_isStill ⟨rfl, rfl, rfl, rfl⟩
  obtain ⟨rest, hrest, heq⟩ := Still.exists_spawn command environ dir route n
  rw [heq, exec_bind_of_ok (exec_ask _ b), exec_bind_of_ok (exec_change _ b)]
  exact taken.trans (adds_note_bind he (hrest _))

theorem keeps_kill {pid : Int} (he : ∀ environ, P environ (.kill pid)) :
    (adding P).Keeps (kill pid) :=
  Frame.keeps_kill (keeps_note he) fun _ _ _ => .of_isStill ⟨rfl, rfl, rfl, rfl⟩

theorem keeps_wait {pid : Int} (he : ∀ environ, P environ (.wait pid)) :
    (adding P).Keeps (wait pid) := Frame.keeps_wait (keeps_note he)

end Adds
end ClientTrial
