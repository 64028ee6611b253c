import ClientTrial.Bench.Files
import ClientTrial.TrialError

/-!
# Child processes

What a child does is written down in advance.  A command that is run to its end
takes some time, may make every background process write something, and ends
with a status.  A background process writes pieces of output at given ages and
may end by itself at a given age; what it was to write later is lost.  The pieces
come in their order, so that a piece also waits for those before it.

A background process writes through the file that was opened for it, each piece
after the last, and no longer once that file has been given up.

## Main definitions

* `Errand` — what a command does that is run to its end.
* `Dealing`, `Script` — a call to a background process, and what such a process does.
* `Output`, `Desk` — a file opened for output, and all files with those opened.
* `Child` — a background process.
* `Child.incident?` — what happens to a process that is dealt with.
* `Child.advance` — a process at a later reading of the clock.
-/

namespace ClientTrial

open Text (Octets)

/-- What a command does that is run to its end. -/
structure Errand where
  /-- Why it cannot be spawned. -/
  spawnIncident : Option Raised := none
  /-- How long it takes. -/
  duration : Float := 0.0
  /-- What it makes every background process write. -/
  relay : Octets := []
  /-- The status that it ends with. -/
  status : Int := 0

/-- A piece of output and the age at which it is written. -/
structure Piece where
  age : Float
  content : Octets

/-- A call to a background process. -/
inductive Dealing where
  /-- It is asked whether it is running. -/
  | poll
  /-- It is killed. -/
  | kill
  /-- It is waited for. -/
  | wait
  deriving DecidableEq, Repr

/-- What a background process does. -/
structure Script where
  /-- Why it cannot be spawned. -/
  spawnIncident : Option Raised := none
  /-- What it writes. -/
  pieces : List Piece := []
  /-- The age at which it ends by itself. -/
  endAge : Option Float := none
  /-- The status that it then ends with. -/
  status : Int := 0
  /-- What happens when it is dealt with at an age. -/
  incident : Dealing → Float → Option Raised := fun _ _ => none
  /-- Killing it has no effect. -/
  unkillable : Bool := false
  /-- What happens whenever its output is closed. -/
  closeIncident : Option Raised := none

/-- A file opened for the output of a background process. -/
structure Output where
  /-- The path that was given for it. -/
  route : Route
  /-- Where it stands. -/
  place : Location
  /-- How many octets have been written. -/
  position : Nat := 0
  /-- The file can still be written. -/
  writable : Bool := true
  /-- The file is known to be closed. -/
  closed : Bool := false
  /-- What happens whenever it is closed. -/
  closeIncident : Option Raised := none

/-- The files and, in the order of their opening, those that have been opened for output. -/
structure Desk where
  files : Files
  outputs : List Output := []

/-- A background process. -/
structure Child where
  /-- Its number. -/
  pid : Int
  /-- The words that it was started with. -/
  command : List String
  /-- When it was started. -/
  start : Float
  /-- What it does. -/
  script : Script
  /-- What it has not yet written. -/
  pending : List Piece
  /-- The status that it has ended with. -/
  status : Option Int := none
  /-- Which of the opened files it writes to. -/
  output : Nat

/-! ### Output -/

/-- A content with a piece written at a position; a gap before it is filled with zeros. -/
def overwrite (content : Octets) (position : Nat) (piece : Octets) : Octets :=
  content.take position ++ List.replicate (position - content.length) 0 ++ piece ++
    content.drop (position + piece.length)

namespace Desk

/-- An opened file is changed. -/
def changeOutput (d : Desk) (n : Nat) (f : Output → Output) : Desk :=
  { d with outputs := d.outputs.modify n f }

/-- A piece is written to an opened file.  A file that has been given up is left alone. -/
def write (n : Nat) (d : Desk) (piece : Octets) : Desk :=
  match d.outputs[n]? with
  | none => d
  | some o =>
    if o.writable then
      { d.changeOutput n fun o => { o with position := o.position + piece.length } with
        files :=
          match d.files.node? o.place with
          | some (.file content) => d.files.put o.place (.file (overwrite content o.position piece))
          | _ => d.files }
    else d

end Desk

namespace Child

/-- A process has not ended. -/
def isLive (c : Child) : Bool := c.status.isNone

/-- The age of a process at a reading of the clock. -/
def age (c : Child) (clock : Float) : Float := clock - c.start

/-- What happens to a process that is dealt with at a reading of the clock. -/
def incident? (c : Child) (clock : Float) (dealing : Dealing) : Option Raised :=
  c.script.incident dealing (c.age clock)

/-- A piece is due at an age: it is old enough, and the process did not end before. -/
def isDue (c : Child) (age : Float) (piece : Piece) : Bool :=
  piece.age ≤ age &&
    match c.script.endAge with
    | none => true
    | some last => piece.age ≤ last

/-- The process is over at an age. -/
def isOverAt (c : Child) (age : Float) : Bool :=
  match c.script.endAge with
  | none => false
  | some last => last ≤ age

/-- A process and the files at a later reading of the clock.  The pieces up to the first that is
not due are written. -/
def advance (clock : Float) (c : Child) (d : Desk) : Child × Desk :=
  if c.isLive then
    let age := c.age clock
    ({ c with
      pending := c.pending.dropWhile (c.isDue age)
      status := if c.isOverAt age then some c.script.status else none },
      ((c.pending.takeWhile (c.isDue age)).map (·.content)).foldl (Desk.write c.output) d)
  else (c, d)

/-- A process and the files after it has been made to write something. -/
def relay (piece : Octets) (c : Child) (d : Desk) : Child × Desk :=
  (c, if c.isLive then d.write c.output piece else d)

/-- Every process in turn acts on the files. -/
def each (act : Child → Desk → Child × Desk) : List Child → Desk → List Child × Desk
  | [], d => ([], d)
  | c :: rest, d =>
    ((act c d).1 :: (each act rest (act c d).2).1, (each act rest (act c d).2).2)

end Child
end ClientTrial
