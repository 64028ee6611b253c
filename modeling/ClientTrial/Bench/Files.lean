import ClientTrial.Fault
import ClientTrial.Route
import ClientTrial.Text.Utf8

/-!
# The tree of files

A trial reads and writes below a working directory.  The tree is a list of
nodes, each under its location, that is the parts that lead to it.  A call
either answers or ends with the fault that an operating system reports, worded
with the path as it was given.

## Main definitions

* `Location`, `Node`, `Files` — places, what stands there, and the tree.
* `Files.node?` — what stands at a location.
* `Files.locate` — where a route leads.
* `Files.read`, `Files.readOrEmpty`, `Files.write`, `Files.append`, `Files.makeDir`,
  `Files.makeDirs`, `Files.delete`, `Files.deleteTree` — the calls.

## Main results

* `Files.node?_put_self`, `Files.node?_put_of_ne` — what a change of one node changes.
* `Files.node?_prune` — what the removal of a tree removes.
-/

namespace ClientTrial

open Text (Octets)

/-- A place in the tree, by the parts that lead to it.  The working directory is the empty list;
the root of all directories is the single part `/`. -/
abbrev Location := List String

/-- What stands at a place. -/
inductive Node where
  /-- A directory. -/
  | dir
  /-- A file with its content. -/
  | file (content : Octets)
  deriving DecidableEq, Repr

/-- A tree of files. -/
structure Files where
  /-- The nodes, each under its location. -/
  nodes : List (Location × Node)
  deriving DecidableEq, Repr

namespace Files

/-! ### Nodes -/

/-- A place at which a directory always stands. -/
def isRoot (place : Location) : Bool := place = [] || place = ["/"]

/-- What stands at a place. -/
def node? (fs : Files) (place : Location) : Option Node :=
  if isRoot place then some .dir else fs.nodes.lookup place

/-- The list with a node under a location, in the old position if there was one. -/
def putIn (place : Location) (node : Node) : List (Location × Node) → List (Location × Node)
  | [] => [(place, node)]
  | (p, n) :: rest => if place = p then (p, node) :: rest else (p, n) :: putIn place node rest

/-- The tree with a node at a place. -/
def put (fs : Files) (place : Location) (node : Node) : Files := ⟨putIn place node fs.nodes⟩

/-- The tree without a place and everything below it. -/
def prune (fs : Files) (place : Location) : Files :=
  ⟨fs.nodes.filter fun entry => !place.isPrefixOf entry.1⟩

theorem lookup_putIn_self (place : Location) (node : Node) (nodes : List (Location × Node)) :
    (putIn place node nodes).lookup place = some node := by
  induction nodes with
  | nil => simp [putIn]
  | cons entry rest ih =>
    obtain ⟨p, n⟩ := entry
    by_cases h : place = p
    · subst h; simp [putIn]
    · have : (place == p) = false := by simpa using h
      simp [putIn, h, List.lookup_cons, this, ih]

theorem lookup_putIn_of_ne {place other : Location} (h : other ≠ place) (node : Node)
    (nodes : List (Location × Node)) :
    (putIn place node nodes).lookup other = nodes.lookup other := by
  induction nodes with
  | nil =>
    have : (other == place) = false := by simpa using h
    simp [putIn, List.lookup_cons, this]
  | cons entry rest ih =>
    obtain ⟨p, n⟩ := entry
    by_cases hp : place = p
    · subst hp
      have : (other == place) = false := by simpa using h
      simp [putIn, List.lookup_cons, this]
    · simp [putIn, hp, List.lookup_cons, ih]

@[simp] theorem node?_put_self {fs : Files} {place : Location} (h : isRoot place = false)
    (node : Node) : (fs.put place node).node? place = some node := by
  simp [node?, h, put, lookup_putIn_self]

theorem node?_put_of_ne {fs : Files} {place other : Location} (h : other ≠ place) (node : Node) :
    (fs.put place node).node? other = fs.node? other := by
  simp [node?, put, lookup_putIn_of_ne h]

theorem lookup_filter {nodes : List (Location × Node)} (keep : Location → Bool)
    (other : Location) :
    (nodes.filter fun entry => keep entry.1).lookup other =
      if keep other then nodes.lookup other else none := by
  induction nodes with
  | nil => simp
  | cons entry rest ih =>
    obtain ⟨p, n⟩ := entry
    by_cases hp : keep p = true
    · rw [List.filter_cons_of_pos (by simpa using hp), List.lookup_cons, List.lookup_cons, ih]
      by_cases ho : other = p
      · subst ho; simp [hp]
      · have : (other == p) = false := by simpa using ho
        simp [this]
    · rw [List.filter_cons_of_neg (by simpa using hp), ih, List.lookup_cons]
      by_cases ho : other = p
      · subst ho; simp [hp]
      · have : (other == p) = false := by simpa using ho
        simp [this]

theorem node?_prune {fs : Files} {place other : Location} (h : isRoot other = false) :
    (fs.prune place).node? other = if place.isPrefixOf other then none else fs.node? other := by
  simp only [node?, h, prune, Bool.false_eq_true, if_false]
  rw [lookup_filter fun p => !place.isPrefixOf p]
  cases place.isPrefixOf other <;> simp

/-! ### Where a route leads -/

/-- How many octets a path may have. -/
def longestPath : Nat := 4095

/-- How many octets a part of a path may have. -/
def longestPart : Nat := 255

/-- One part further from a place that a directory stands at.  A part that is too long is noticed
where it is looked up, after the parts before it. -/
def step (fs : Files) (path : String) (place : Location) (part : String) :
    Except Fault Location :=
  match fs.node? place with
  | none => .error (Fault.noSuchFile path)
  | some (.file _) => .error (Fault.notADirectory path)
  | some .dir =>
    if part = ".." then
      .ok (if place = [] then ["/"] else if place = ["/"] then place else place.dropLast)
    else if longestPart < part.utf8ByteSize then .error (Fault.nameTooLong path)
    else .ok (place ++ [part])

/-- Where a route leads.  All but the last of its parts must be directories; that the path as a
whole is too long is noticed before any of them is looked up. -/
def locate (fs : Files) (r : Route) : Except Fault Location :=
  if (r.parts.any fun part => '\x00' ∈ part.toList) then .error Fault.embeddedNull
  else if longestPath < r.text.utf8ByteSize then .error (Fault.nameTooLong r.text)
  else r.parts.foldlM (fs.step r.text) (if r.slashes = 0 then [] else ["/"])

/-! ### Calls -/

/-- The content of a file. -/
def read (fs : Files) (r : Route) : Except Fault Octets := do
  let place ← fs.locate r
  match fs.node? place with
  | none => .error (Fault.noSuchFile r.text)
  | some .dir => .error (Fault.isADirectory r.text)
  | some (.file content) => .ok content

/-- The content of a file; a file that does not exist is empty. -/
def readOrEmpty (fs : Files) (r : Route) : Except Fault Octets :=
  match fs.read r with
  | .ok content => .ok content
  | .error f => if f.kind = .os .fileNotFound then .ok [] else .error f

/-- A file is given a content that depends on the one it had. -/
def change (fs : Files) (r : Route) (f : Octets → Octets) : Except Fault Files := do
  let place ← fs.locate r
  match fs.node? place with
  | some .dir => .error (Fault.isADirectory r.text)
  | some (.file content) => .ok (fs.put place (.file (f content)))
  | none =>
    match fs.node? place.dropLast with
    | some .dir => .ok (fs.put place (.file (f [])))
    | _ => .error (Fault.noSuchFile r.text)

/-- A file is given a content. -/
def write (fs : Files) (r : Route) (content : Octets) : Except Fault Files :=
  fs.change r fun _ => content

/-- Octets are added at the end of a file. -/
def append (fs : Files) (r : Route) (more : Octets) : Except Fault Files :=
  fs.change r fun content => content ++ more

/-- A directory is made at a place that is free. -/
def makeDir (fs : Files) (r : Route) : Except Fault Files := do
  let place ← fs.locate r
  match fs.node? place with
  | some _ => .error (Fault.fileExists r.text)
  | none => .ok (fs.put place .dir)

/-- A directory is made at a place unless there is one. -/
def ensureDir (fs : Files) (r : Route) (make : Except Fault Files) : Except Fault Files :=
  match make with
  | .ok fs => .ok fs
  | .error f =>
    match fs.locate r with
    | .ok place =>
      if f.kind.isOs ∧ fs.node? place = some .dir then .ok fs else .error f
    | .error _ => .error f

/-- A directory is made together with those above it that are missing; `fuel` bounds how many. -/
def makeDirsUpTo : (fuel : Nat) → Files → Route → Except Fault Files
  | 0, fs, r => fs.ensureDir r (fs.makeDir r)
  | fuel + 1, fs, r =>
    match fs.makeDir r with
    | .ok fs => .ok fs
    | .error f =>
      if f.kind = .os .fileNotFound ∧ r.parent ≠ r then do
        let fs ← makeDirsUpTo fuel fs r.parent
        fs.ensureDir r (fs.makeDir r)
      else fs.ensureDir r (.error f)

/-- A directory is made together with those above it that are missing. -/
def makeDirs (fs : Files) (r : Route) : Except Fault Files := makeDirsUpTo r.parts.length fs r

/-- A file is removed. -/
def delete (fs : Files) (r : Route) : Except Fault Files := do
  let place ← fs.locate r
  match fs.node? place with
  | none => .error (Fault.noSuchFile r.text)
  | some .dir => .error (Fault.isADirectory r.text)
  | some (.file _) => .ok (fs.prune place)

/-- A directory is removed with everything below it. -/
def deleteTree (fs : Files) (r : Route) : Except Fault Files := do
  let place ← fs.locate r
  match fs.node? place with
  | none => .error (Fault.noSuchFile r.text)
  | some (.file _) => .error (Fault.notADirectory r.text)
  | some .dir => .ok (fs.prune place)

/-! ### Views -/

/-- The files below the working directory with their contents, in the order in which they were
made. -/
def contents (fs : Files) : List (Location × Octets) :=
  fs.nodes.filterMap fun
    | (place, .file content) => some (place, content)
    | _ => none

/-- The names of what stands directly below a place. -/
def children (fs : Files) (place : Location) : List String :=
  fs.nodes.filterMap fun entry =>
    if entry.1 ≠ [] ∧ entry.1.dropLast = place then entry.1.getLast? else none

end Files
end ClientTrial
