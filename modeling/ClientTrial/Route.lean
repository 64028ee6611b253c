import ClientTrial.Text.Blank

/-!
# Routes to files

A route is what a path means once redundant separators and single dots are
gone.  It begins with no, one or exactly two separators and goes through named
parts; a double dot is a part like any other.

## Main definitions

* `Route` — the separators at the start, and the parts.
* `Route.ofText`, `Route.text` — the route that a path denotes, and how it is
  written.
* `Route.child`, `Route.parent` — one part further, and one part back.

## Main results

* `Route.parent_child` — one part further and back again.
-/

namespace ClientTrial

/-- A path without redundancy. -/
structure Route where
  /-- The separators at the start: none, one or two. -/
  slashes : Nat
  /-- The parts, none of them empty or a single dot. -/
  parts : List String
  deriving DecidableEq, Repr

namespace Route

/-- The separators at the start of a path that count: three or more are as good as one. -/
def leading (s : List Char) : Nat :=
  match (s.takeWhile (· = '/')).length with
  | 0 => 0
  | 2 => 2
  | _ => 1

/-- A part that says something. -/
def isPart (s : List Char) : Bool := s ≠ [] && s ≠ ['.']

/-- The route that a path denotes. -/
def ofText (path : String) : Route :=
  ⟨leading path.toList, ((Text.splitOn '/' path.toList).filter isPart).map String.ofList⟩

/-- A route written down; the empty one is a single dot. -/
def text (r : Route) : String :=
  if r.slashes = 0 ∧ r.parts = [] then "."
  else String.ofList (List.replicate r.slashes '/') ++ "/".intercalate r.parts

/-- One part further. -/
def child (r : Route) (part : String) : Route := ⟨r.slashes, r.parts ++ [part]⟩

/-- One part back; the start leads to itself. -/
def parent (r : Route) : Route := ⟨r.slashes, r.parts.dropLast⟩

@[simp] theorem parent_child (r : Route) (part : String) : (r.child part).parent = r := by
  simp [child, parent]

end Route
end ClientTrial
