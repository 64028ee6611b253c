import ClientTrial.Bench.Calls
import ClientTrial.Text.Infix

/-!
# Artifacts and markers

The receiver's output is captured in a file, the artifact.  A trial succeeds only
if every marker stands in its text.  An artifact that does not exist is empty,
and octets that are not text read as replacement characters.

## Main definitions

* `missingFrom` — the markers that do not stand in a text.
* `Artifact.read` — the text of an artifact.
* `Artifact.assertContains`, `Artifact.verifyAll` — the checks for one marker and for
  all.
* `poll` — looking again and again until something is seen or it is too late.
* `Lookout`, `Lookout.wait` — what a wait for a marker works with, and the wait.
* `Artifact.waitFor` — a marker waited for in an artifact.

## Main results

* `missingFrom_eq_nil_iff` — nothing is missing iff every marker stands in the text.
-/

namespace ClientTrial

/-! ### Missing markers -/

/-- The markers that do not stand in a text, in the order given. -/
def missingFrom (content : String) (markers : List String) : List String :=
  markers.filter fun marker => !Text.contains content marker

theorem missingFrom_eq_nil_iff {content : String} {markers : List String} :
    missingFrom content markers = [] ↔ ∀ m ∈ markers, Text.contains content m = true := by
  simp [missingFrom, List.filter_eq_nil_iff]

/-! ### Artifacts -/

/-- A captured output. -/
structure Artifact where
  /-- Where it is. -/
  route : Route
  /-- The path that it is shown by. -/
  path : String

namespace Artifact

open Act

/-- The artifact at a route, shown by that route. -/
def ofRoute (route : Route) : Artifact := ⟨route, route.text⟩

/-- The text of an artifact. -/
def read (a : Artifact) : Act String := do
  let content ← fromFiles (·.readOrEmpty a.route)
  pure (Text.ofOctets content)

/-- One marker must stand in an artifact. -/
def assertContains (a : Artifact) (marker : String) : Act Unit := do
  let content ← a.read
  if Text.contains content marker then say (.markerFound marker a.path)
  else throw (.trial (.missingContent [marker] content a.path) none)

/-- Each of some events is reported. -/
def sayAll : List Log.Event → Act Unit
  | [] => pure ()
  | e :: rest => do
    say e
    sayAll rest

theorem exec_sayAll (events : List Log.Event) (b : Bench) :
    (sayAll events).exec b = (.ok (), b.sayingAll events) := by
  induction events generalizing b with
  | nil => rfl
  | cons e rest ih => exact (exec_bind_of_ok (exec_say e b) _).trans (ih _)

/-- Every marker must stand in an artifact, which is read once. -/
def verifyAll (a : Artifact) (markers : List String) : Act Unit := do
  let content ← a.read
  match missingFrom content markers with
  | [] => say (.markersFound markers.length a.path)
  | missing => do
    sayAll (missing.map .markerMissing)
    throw (.trial (.missingContent missing content a.path) none)

end Artifact

/-! ### Waiting -/

/-- Looking again and again, with a pause in between, until something is seen or it is too late.
There is no answer if neither has happened after `rounds` looks. -/
def poll {m : Type → Type} [Monad m] (look : m Bool) (isLate : m Bool) (pause : m Unit) :
    (rounds : Nat) → m (Option Bool)
  | 0 => pure none
  | rounds + 1 => do
    if ← look then pure (some true)
    else if ← isLate then pure (some false)
    else do
      pause
      poll look isLate pause rounds

/-- What a wait for a marker works with, in some kind of time. -/
structure Lookout (m : Type → Type) (T : Type) where
  /-- The clock is read. -/
  readClock : m T
  /-- Some time is let pass. -/
  sleep : T → m Unit
  /-- The text that the marker is looked for in. -/
  read : m String
  /-- The marker was seen. -/
  report : (marker : String) → m Unit

namespace Lookout

variable {m : Type → Type} [Monad m] {T : Type} (l : Lookout m T)

/-- A look, which reports the marker if it finds it. -/
def look (marker : String) : m Bool := do
  let content ← l.read
  if Text.contains content marker then do
    l.report marker
    pure true
  else pure false

/-- The clock is looked at. -/
def isLate [LE T] [DecidableLE T] (deadline : T) : m Bool := do
  pure (decide ((← l.readClock) ≥ deadline))

/-- A marker is waited for, for some time, with a pause after each look that did not find it. -/
def wait [Add T] [LE T] [DecidableLE T] (marker : String) (timeout pause : T) (rounds : Nat) :
    m (Option Bool) := do
  let deadline := (← l.readClock) + timeout
  poll (l.look marker) (l.isLate deadline) (l.sleep pause) rounds

end Lookout

/-- More rounds than can pass before a deadline.  Adding the pause to the clock moves it by at
least half a pause, or else never again. -/
def roundsWithin (timeout pause : Float) : Nat :=
  let quotient := (timeout / pause).ceil
  if quotient ≤ 1.0e15 then 2 * quotient.toUInt64.toNat + 10 else Nat.pow 2 64

namespace Artifact

open Act

/-- An artifact is what a marker is looked for in. -/
def lookout (a : Artifact) : Lookout Act Float where
  readClock := readClock
  sleep := sleep
  read := a.read
  report marker := say (.markerSeen marker a.path)

/-- A marker is waited for, for some seconds, with a pause after each look that did not find
it. -/
def waitFor (a : Artifact) (marker : String) (timeout pause : Float) : Act Bool := do
  match ← a.lookout.wait marker timeout pause (roundsWithin timeout pause) with
  | some seen => pure seen
  | none => throw .stalled

end Artifact
end ClientTrial
