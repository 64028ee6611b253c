import ClientTrial.Bench.Queue
import ClientTrial.Text.Utf8
import ClientTrial.TrialError

/-!
# The container daemon

The daemon keeps a table of containers by name.  Each container gets an
identifier of its own in the order of creation, which no later container gets
again.  What happens to the requests of each kind is written down in queues.

A request that is refused leaves the table as it was.  In this the daemon is simpler than
a real one, in which a container can be created and then fail to start, so that it stays
behind under its name although the request for it failed: that is left out.

## Main definitions

* `Daemon` — the table, the queues, and what containers publish and log.
* `Daemon.id?`, `Daemon.create`, `Daemon.remove` — the table.
* `Daemon.due`, `Daemon.served` — the incident of a request.

## Main results

* `Daemon.id?_create_self`, `Daemon.id?_create_of_ne`, `Daemon.id?_remove_self`,
  `Daemon.id?_remove_of_ne` — what a change of the table changes.
-/

namespace ClientTrial

/-- A kind of request to the daemon. -/
inductive Request where
  /-- A container is looked up by its name. -/
  | lookup
  /-- A container is created and started. -/
  | create
  /-- A container is removed. -/
  | remove
  /-- The state of a container is read anew. -/
  | reload
  /-- The log of a container is read. -/
  | logs
  deriving DecidableEq, Repr

/-- A container daemon. -/
structure Daemon where
  /-- The containers, each with its name and its identifier. -/
  containers : List (String × String) := []
  /-- How many containers have ever been created. -/
  created : Nat := 0
  /-- The table of ports that every container publishes. -/
  published : Json := .obj []
  /-- What every container has logged. -/
  log : Text.Octets := []
  /-- What happens to the requests of each kind. -/
  incidents : Request → Queue Raised := fun _ => []
  /-- A connection to the daemon has been opened. -/
  opened : Bool := true
  /-- What happens to the attempts at opening one. -/
  openings : Queue Raised := []

namespace Daemon

/-! ### The table -/

/-- The identifier of a container of a given name. -/
def id? (d : Daemon) (name : String) : Option String := d.containers.lookup name

/-- The identifier of the container that is created next. -/
def nextId (d : Daemon) : String := "id" ++ String.ofList (Decimal.digits (d.created + 1))

/-- The daemon with a new container of a name that is free. -/
def create (d : Daemon) (name : String) : Daemon :=
  { d with containers := d.containers ++ [(name, d.nextId)], created := d.created + 1 }

/-- The daemon without the container of a name. -/
def remove (d : Daemon) (name : String) : Daemon :=
  { d with containers := d.containers.filter fun c => c.1 != name }

theorem lookup_append_single (list : List (String × String)) (name other id : String) :
    (list ++ [(name, id)]).lookup other =
      (list.lookup other).or (if other = name then some id else none) := by
  induction list with
  | nil =>
    by_cases h : other = name
    · subst h; simp
    · have : (other == name) = false := by simpa using h
      simp [List.lookup_cons, this, h]
  | cons entry rest ih =>
    obtain ⟨n, i⟩ := entry
    by_cases h : other = n
    · subst h; simp
    · have : (other == n) = false := by simpa using h
      simp [List.lookup_cons, this, ih]

theorem id?_create_self {d : Daemon} {name : String} (h : d.id? name = none) :
    (d.create name).id? name = some d.nextId := by
  simp only [id?] at h
  simp [id?, create, lookup_append_single, h]

theorem id?_create_of_ne {d : Daemon} {name other : String} (h : other ≠ name) :
    (d.create name).id? other = d.id? other := by
  simp [id?, create, lookup_append_single, h]

theorem lookup_filter_ne (list : List (String × String)) (name other : String) :
    (list.filter fun c => c.1 != name).lookup other =
      if other = name then none else list.lookup other := by
  induction list with
  | nil => simp
  | cons entry rest ih =>
    obtain ⟨n, i⟩ := entry
    by_cases hn : n = name
    · subst hn
      rw [List.filter_cons_of_neg (by simp), ih]
      by_cases ho : other = n
      · simp [ho]
      · have : (other == n) = false := by simpa using ho
        simp [ho, List.lookup_cons, this]
    · rw [List.filter_cons_of_pos (by simpa using hn), List.lookup_cons, ih]
      by_cases ho : other = n
      · subst ho; simp [hn]
      · have : (other == n) = false := by simpa using ho
        simp [this, List.lookup_cons]

@[simp] theorem id?_remove_self (d : Daemon) (name : String) :
    (d.remove name).id? name = none := by
  simp [id?, remove, lookup_filter_ne]

theorem id?_remove_of_ne {d : Daemon} {name other : String} (h : other ≠ name) :
    (d.remove name).id? other = d.id? other := by
  simp [id?, remove, lookup_filter_ne, h]

/-- A daemon with containers of the given names. -/
def withContainers (d : Daemon) (names : List String) : Daemon :=
  names.foldl (fun d name => if (d.id? name).isSome then d else d.create name) d

/-! ### Incidents -/

/-- What happens to the next request of a kind. -/
def due (d : Daemon) (request : Request) : Option Raised := (d.incidents request).due

/-- The daemon after a request of a kind has taken its incident. -/
def served (d : Daemon) (request : Request) : Daemon :=
  { d with incidents := fun r => if r = request then (d.incidents r).rest else d.incidents r }

@[simp] theorem id?_served (d : Daemon) (request : Request) (name : String) :
    (d.served request).id? name = d.id? name := rfl

end Daemon
end ClientTrial
