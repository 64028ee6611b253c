import ClientTrial.Bench.Basic

/-!
# Calls into the outside world

Each call leaves its effect in the trace before anything else can happen to it,
then lets the incident happen that is due, then takes effect.

## Main definitions

* `Act.advance`, `Act.elapse`, `Act.sleep`, `Act.readClock` — time.
* `Act.connect` — a connection to the server.
* `Act.lookup`, `Act.create`, `Act.remove`, `Act.reload`, `Act.logs`, `Act.openDaemon`
  — requests to the daemon.
* `Act.runErrand`, `Act.spawn`, `Act.dealWith`, `Act.isRunning`, `Act.kill`, `Act.wait` —
  processes.
* `Act.openOutput`, `Act.closeOutput`, `Act.onFiles`, `Act.fromFiles` — files.
-/

namespace ClientTrial

open Text (Octets)

namespace Act

/-! ### Files -/

/-- The files are changed by a call. -/
def onFiles (f : Files → Except Fault Files) : Act Unit := do
  let fs ← ask (·.files)
  let fs ← ofExcept (f fs)
  change (·.withFiles fs)

theorem exec_onFiles (f : Files → Except Fault Files) (b : Bench) :
    (onFiles f).exec b =
      match f b.files with
      | .ok fs => (.ok (), b.withFiles fs)
      | .error e => (.error (.fault e), b) := by
  unfold onFiles
  rw [exec_bind_of_ok (exec_ask _ b), exec_bind, exec_ofExcept]
  cases f b.files <;> rfl

theorem exec_onFiles_of_ok {f : Files → Except Fault Files} {b : Bench} {fs : Files}
    (h : f b.files = .ok fs) : (onFiles f).exec b = (.ok (), b.withFiles fs) := by
  rw [exec_onFiles, h]

theorem exec_onFiles_eq_ok {f : Files → Except Fault Files} {b c : Bench} :
    (onFiles f).exec b = (.ok (), c) ↔ ∃ fs, f b.files = .ok fs ∧ b.withFiles fs = c := by
  rw [exec_onFiles]
  cases f b.files <;> simp

/-- The files are looked at by a call. -/
def fromFiles {α : Type} (f : Files → Except Fault α) : Act α := do
  let fs ← ask (·.files)
  ofExcept (f fs)

@[simp] theorem exec_fromFiles {α : Type} (f : Files → Except Fault α) (b : Bench) :
    (fromFiles f).exec b = ((f b.files).mapError Raised.fault, b) := by
  unfold fromFiles
  rw [exec_bind_of_ok (exec_ask _ b), exec_ofExcept]

/-- A file is emptied, or made, and opened for output. -/
def openOutput (route : Route) : Act Nat := do
  onFiles (·.write route [])
  let place ← fromFiles (·.locate route)
  let n ← ask (·.desk.outputs.length)
  change fun b => { b with desk := { b.desk with outputs := b.desk.outputs ++ [{ route, place }] } }
  pure n

/-- An opened file is changed. -/
def changeOutput (n : Nat) (f : Output → Output) : Act Unit :=
  change fun b => { b with desk := b.desk.changeOutput n f }

/-- An opened file is closed.  Nothing more is written to it even if closing it fails. -/
def closeOutput (n : Nat) : Act Unit := do
  let incident ← ask fun b => (b.desk.outputs[n]?).bind (·.closeIncident)
  changeOutput n fun o => { o with writable := false }
  perhaps incident
  changeOutput n fun o => { o with closed := true }

/-- An opened file is known to be closed. -/
def isClosed (n : Nat) : Act Bool := ask fun b => ((b.desk.outputs[n]?).map (·.closed)).getD true

/-! ### Time -/

/-- What other programs have written by now is in the files. -/
def settleDeposits : List Deposit → Act Unit
  | [] => pure ()
  | d :: rest => do
    let clock ← ask (·.clock)
    if d.clock ≤ clock then
      onFiles fun fs => if d.atEnd then fs.append d.route d.content else fs.write d.route d.content
      settleDeposits rest
    else do
      settleDeposits rest
      change fun b => { b with deposits := d :: b.deposits }

/-- Everything that happens by now has happened. -/
def settle : Act Unit := do
  let deposits ← ask (·.deposits)
  change fun b => { b with deposits := [] }
  settleDeposits deposits
  change fun b =>
    let (children, desk) := Child.each (Child.advance b.clock) b.children b.desk
    { b with children, desk }

/-- Some seconds pass. -/
def advance (seconds : Float) : Act Unit := do
  change fun b => { b with clock := b.clock + seconds }
  settle

/-- Some seconds pass while something else is done, whatever becomes of what other programs write
meanwhile. -/
def elapse (seconds : Float) : Act Unit := do
  let _ ← attempt (advance seconds)

@[simp] theorem exec_elapse (seconds : Float) (b : Bench) :
    (elapse seconds).exec b = (.ok (), ((advance seconds).exec b).2) := rfl

/-- Some seconds are let pass. -/
def sleep (seconds : Float) : Act Unit := do
  note (.sleep seconds)
  let incident ← ask (·.pauses.due)
  change fun b => { b with pauses := b.pauses.rest }
  perhaps incident
  advance seconds

/-- The clock is read. -/
def readClock : Act Float := do
  let clock ← ask (·.clock)
  let tick ← ask (·.tick)
  advance tick
  pure clock

/-! ### The server -/

/-- A connection to the server is made and closed again. -/
def connect (host : String) (port : Int) (timeout : Float) : Act Unit := do
  let incident ← ask (·.connections.due)
  change fun b => { b with connections := b.connections.rest }
  note (.connect host port timeout incident.isNone)
  match incident with
  | none => pure ()
  | some (raised, cost) => do
    elapse cost
    throw raised

/-! ### The daemon -/

/-- A connection to the daemon is opened, unless there is one. -/
def openDaemon : Act Unit := do
  if ← ask (·.daemon.opened) then pure ()
  else do
    note .openDaemon
    let incident ← ask (·.daemon.openings.due)
    change fun b => { b with daemon := { b.daemon with openings := b.daemon.openings.rest } }
    perhaps incident
    change fun b => { b with daemon := { b.daemon with opened := true } }

/-- A request is made; the incident that is due happens. -/
def request (kind : Request) (effect : Effect) : Act Unit := do
  note effect
  let incident ← ask (·.daemon.due kind)
  change fun b => { b with daemon := b.daemon.served kind }
  perhaps incident

theorem exec_request_of_none {kind : Request} {b : Bench} (h : b.daemon.due kind = none)
    (effect : Effect) :
    (request kind effect).exec b =
      (.ok (), { b.noting effect with daemon := b.daemon.served kind }) := by
  unfold request
  rw [exec_bind_of_ok (exec_note effect b), exec_bind_of_ok (exec_ask _ _),
    exec_bind_of_ok (exec_change _ _), show (b.noting effect).daemon.due kind = none from h]
  rfl

theorem exec_request_of_some {kind : Request} {b : Bench} {r : Raised}
    (h : b.daemon.due kind = some r) (effect : Effect) :
    (request kind effect).exec b =
      (.error r, { b.noting effect with daemon := b.daemon.served kind }) := by
  unfold request
  rw [exec_bind_of_ok (exec_note effect b), exec_bind_of_ok (exec_ask _ _),
    exec_bind_of_ok (exec_change _ _), show (b.noting effect).daemon.due kind = some r from h]
  rfl

/-- A container of a name is looked up. -/
def lookup (name : String) : Act Unit := do
  request .lookup (.lookup name)
  if (← ask (·.daemon.id? name)).isNone then
    throw (.fault ⟨.daemon .absent, "No such container: " ++ name⟩)

/-- A container of a name is created, and its identifier is answered.  There is no container if
the daemon refuses, be it that it could not be started. -/
def create (image name port : String) (hostPort : Option Int) : Act String := do
  request .create (.create image name port hostPort)
  if (← ask (·.daemon.id? name)).isSome then
    throw (.fault ⟨.daemon .refusal, "Conflict: " ++ name ++ " is already in use"⟩)
  let id ← ask (·.daemon.nextId)
  change fun b => { b with daemon := b.daemon.create name }
  pure id

/-- A container that was looked up is removed. -/
def remove (name : String) : Act Unit := do
  request .remove (.remove name)
  change fun b => { b with daemon := b.daemon.remove name }

/-- The ports that a container publishes, read anew. -/
def reload (name : String) : Act Json := do
  request .reload (.reload name)
  ask (·.daemon.published)

/-- The end of the log of a container that was looked up. -/
def logs (name : String) (tail : Int) : Act Octets := do
  request .logs (.logs name tail)
  ask (·.daemon.log)

/-! ### Processes -/

/-- The environment with some variables added or replaced. -/
def overlay (environ : List (String × String)) : List (String × String) → List (String × String)
  | [] => environ
  | (name, value) :: rest =>
    overlay
      (if environ.any (·.1 == name) then
        environ.map fun entry => if entry.1 = name then (name, value) else entry
      else environ ++ [(name, value)])
      rest

/-- A command is run to its end, for some seconds at most, and its status is answered. -/
def runErrand (command : List String) (environ : List (String × String)) (dir : Option String)
    (timeout : Option Float) : Act Int := do
  let errand ← ask fun b => b.errands.headD {}
  change fun b => { b with errands := b.errands.tail }
  note (.run command environ dir timeout)
  if command = [] then throw (.fault Fault.emptyCommand)
  perhaps errand.spawnIncident
  match timeout.filter fun limit => limit < errand.duration with
  | some limit => do
    elapse limit
    throw (.fault (Fault.overdue command (Decimal.floatText limit)))
  | none => do
    elapse errand.duration
    change fun b =>
      let (children, desk) := Child.each (Child.relay errand.relay) b.children b.desk
      { b with children, desk }
    pure errand.status

/-- A command is started in the background, and the number of the process is answered. -/
def spawn (command : List String) (environ : List (String × String)) (dir : Option String)
    (route : Route) (output : Nat) : Act Int := do
  let script ← ask fun b => b.scripts.headD {}
  change fun b => { b with scripts := b.scripts.tail }
  note (.spawn command environ dir route.text)
  if command = [] then throw (.fault Fault.emptyCommand)
  perhaps script.spawnIncident
  changeOutput output fun o => { o with closeIncident := script.closeIncident }
  let pid ← ask fun b => (4242 : Int) + b.children.length
  change fun b =>
    let (child, desk) :=
      Child.advance b.clock
        { pid, command, start := b.clock, script, pending := script.pieces, output } b.desk
    { b with children := b.children ++ [child], desk }
  pure pid

/-- A background process. -/
def child? (pid : Int) : Act (Option Child) := ask (·.children.find? (·.pid == pid))

/-- A background process is dealt with: what is due at its age happens. -/
def dealWith (pid : Int) (dealing : Dealing) : Act (Option Child) := do
  let child ← child? pid
  let clock ← ask (·.clock)
  perhaps (child.bind (·.incident? clock dealing))
  pure child

/-- Whether a background process is running. -/
def isRunning (pid : Int) : Act Bool := do
  let child ← dealWith pid .poll
  pure (child.any (·.isLive))

/-- A background process is killed. -/
def kill (pid : Int) : Act Unit := do
  note (.kill pid)
  let _ ← dealWith pid .kill
  change fun b =>
    { b with children := b.children.map fun c =>
        if c.pid = pid ∧ c.isLive ∧ ¬c.script.unkillable then { c with status := some (-9) }
        else c }

/-- A background process that is over is waited for, and its status is answered. -/
def wait (pid : Int) : Act Int := do
  note (.wait pid)
  let child ← dealWith pid .wait
  match child.bind (·.status) with
  | some status => pure status
  | none => throw (.fault (Fault.overdue ((child.map (·.command)).getD []) "10"))

/-- The status that a background process is known to have ended with. -/
def status? (pid : Int) : Act (Option Int) := do
  pure ((← child? pid).bind (·.status))

end Act
end ClientTrial
