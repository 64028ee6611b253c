import ClientTrial.Bench.Calls
import ClientTrial.Decimal.Literal

/-!
# The server container

The server runs in a container that is alone under its name.  A container that
an earlier trial left behind is removed before a new one is started.  If the
daemon is to choose the port of the host, that port is read back after the
start.

## Main definitions

* `Server` — a running server and where it is reached.
* `Server.ensureClean`, `Server.start`, `Server.restart`, `Server.stop`, `Server.logs`
  — what is done with containers.
* `publishedPort?` — the port that a table of published ports shows.
-/

namespace ClientTrial

open Act

/-- A running server container. -/
structure Server where
  name : String
  image : String
  containerPort : Int
  hostPort : Int
  id : String
  deriving DecidableEq, Repr

/-! ### Published ports -/

namespace Json

/-- A tree that is neither null, false, zero nor empty. -/
def isTruthy : Json → Bool
  | .null => false
  | .bool b => b
  | .int n => n != 0
  | .float x => !(x == 0.0)
  | .str s => s != ""
  | .arr items => !items.isEmpty
  | .obj members => !members.isEmpty

end Json

/-- The whole part of a floating-point number, as a port. -/
def wholePart (x : Float) : Except Fault Int :=
  match Decimal.Binary.ofFloat x with
  | .nan => .error ⟨.value, "cannot convert float NaN to integer"⟩
  | .infinite _ => .error ⟨.overflow, "cannot convert float infinity to integer"⟩
  | .finite negative significand exponent =>
    let n : Int :=
      (Decimal.Binary.numerator significand exponent / Decimal.Binary.denominator exponent : Nat)
    .ok (if negative then -n else n)

/-- Why a text is no number of a port.  Of a long text only the start is shown. -/
def unreadablePort (s : String) : Fault :=
  match Decimal.oversize? s with
  | some n => Fault.oversize (": value has " ++ Fault.numberText n ++ " digits")
  | none =>
    ⟨.value, "invalid literal for int() with base 10: " ++
      String.ofList ((Text.quoted s).toList.take 200)⟩

/-- The number of a port as the daemon writes it. -/
def portNumber : Json → Except Fault Int
  | .int n => .ok n
  | .bool b => .ok (if b then 1 else 0)
  | .float x => wholePart x
  | .str s =>
    match Decimal.whole? s with
    | some n => .ok n
    | none => .error (unreadablePort s)
  | t =>
    .error ⟨.type, "int() argument must be a string, a bytes-like object or a real number, not '"
      ++ t.sort ++ "'"⟩

/-- What a table has under a name.  Anything but a table has no names. -/
def memberOf (name : String) : Json → Except Fault (Option Json)
  | .obj members => .ok (members.lookup name)
  | t => .error ⟨.attribute, "'" ++ t.sort ++ "' object has no attribute 'get'"⟩

/-- The bindings in a list of them.  A text is taken for the list of its characters and a table for
the list of its names. -/
def bindingsIn : Json → Except Fault (List Json)
  | .arr bindings => .ok bindings
  | .obj members => .ok (members.map fun member => .str member.1)
  | .str s => .ok (s.toList.map fun c => .str (String.singleton c))
  | t => .error ⟨.type, "'" ++ t.sort ++ "' object is not iterable"⟩

/-- The first port of the host that some bindings name. -/
def firstPort? : List Json → Except Fault (Option Json)
  | [] => .ok none
  | binding :: rest =>
    (memberOf "HostPort" binding).bind fun port =>
      match port.filter Json.isTruthy with
      | some port => .ok (some port)
      | none => firstPort? rest

/-- The port of the host that a table of published ports shows for a port of the container. -/
def publishedPort? (table : Json) (port : String) : Except Fault (Option Json) := do
  let bindings ← if table.isTruthy then memberOf port table else .ok none
  match bindings.filter Json.isTruthy with
  | some bindings => firstPort? (← bindingsIn bindings)
  | none => .ok none

/-! ### Containers -/

namespace Server

/-- The key of a port of the container. -/
def portKey (containerPort : Int) : String := Fault.numberText containerPort ++ "/tcp"

/-- Whether something raised is a fault of a kind with the given property. -/
def isFault (p : Fault.Kind → Bool) : Raised → Option Fault
  | .failure (.fault f) => if p f.kind then some f else none
  | _ => none

/-- The daemon must be reachable. -/
def ensureDaemon : Act Unit := do
  match ← attempt openDaemon with
  | .ok () => pure ()
  | .error raised =>
    match isFault Fault.Kind.isDaemon raised with
    | none => throw raised
    | some f =>
      throw (.trial
        (.general { message := "Cannot reach the docker daemon: " ++ f.text,
                    code := "DOCKER_UNAVAILABLE" })
        (some f))

/-- A container that was left behind could not be dealt with. -/
def stale (message : String) (f : Fault) : Raised :=
  .trial (.general { message := message ++ ": " ++ f.text, code := "STALE_SERVER" }) (some f)

/-- Any container of a name is removed.  The answer tells whether there was one. -/
def ensureClean (name : String) : Act Bool := do
  match ← attempt (do ensureDaemon; lookup name) with
  | .error raised =>
    match isFault Fault.Kind.isRefusal raised with
    | none => throw raised
    | some f =>
      if f.kind.isAbsence then do
        say (.nothingStale name)
        pure false
      else throw (stale ("Could not look up container " ++ name) f)
  | .ok () =>
    match ← attempt (remove name) with
    | .error raised =>
      match isFault Fault.Kind.isRefusal raised with
      | none => throw raised
      | some f =>
        if f.kind.isAbsence then pure false
        else throw (stale ("Could not remove stale container " ++ name) f)
    | .ok () => do
      say (.staleRemoved name)
      pure true

/-- A server that was not started. -/
def notStarted (message : String) (details : List (String × Json)) (cause : Option Fault) :
    Raised :=
  .trial (.serverNotStarted { message, details }) cause

/-- A whole number or null. -/
def ofInt? : Option Int → Json
  | none => .null
  | some n => .int n

/-- The port of the host that the daemon has chosen for a container. -/
def chosenPort (name key : String) : Act Int := do
  let table ← reload name
  match ← ofExcept (publishedPort? table key) with
  | some port => ofExcept (portNumber port)
  | none =>
    throw (notStarted ("Container " ++ name ++ " did not publish " ++ key) [("ports", table)] none)

/-- A container is created and started that publishes a port of its own.  Without a port of the
host, or with port zero, the daemon chooses one. -/
def start (name image : String) (containerPort : Int) (hostPort : Option Int) : Act Server := do
  let key := portKey containerPort
  match ← attempt (do ensureDaemon; create image name key hostPort) with
  | .error raised =>
    match isFault Fault.Kind.isRefusal raised with
    | none => throw raised
    | some f =>
      if f.kind.isMissingImage then
        throw (notStarted ("Image " ++ image ++ " is not available: " ++ f.text)
          [("image", .str image), ("name", .str name)] (some f))
      else
        throw (notStarted ("Could not start " ++ name ++ " from " ++ image ++ ": " ++ f.text)
          [("image", .str image), ("name", .str name), ("host_port", ofInt? hostPort)] (some f))
  | .ok id => do
    let bound ←
      match hostPort.filter (· ≠ 0) with
      | some port => pure port
      | none => chosenPort name key
    say (.serverStarted name image containerPort bound)
    pure { name, image, containerPort, hostPort := bound, id }

/-- Any container of a name is replaced by a new one. -/
def restart (name image : String) (containerPort : Int) (hostPort : Option Int) : Act Server := do
  let _ ← ensureClean name
  start name image containerPort hostPort

/-- A clean-up step that failed. -/
def failedStep (step : String) (f : Failure) : TrialError := .cleanupFailed step f.text

/-- A container of a name is removed if there is one.  A failure is answered, not raised. -/
def stop (name : String) : Act (Option TrialError) := do
  match ← attempt (do ensureDaemon; lookup name; remove name) with
  | .ok () => do
    say (.serverRemoved name)
    pure none
  | .error (.failure f) =>
    if f.isFaultOf Fault.Kind.isAbsence then pure none
    else do
      let failed := failedStep "stop_server" f
      say (.serverNotStopped failed.message)
      pure (some failed)
  | .error raised => throw raised

/-- The end of the log of a container.  A failure is told in its place. -/
def logs (name : String) (tail : Int) : Act String := do
  match ← attempt (do ensureDaemon; lookup name; Act.logs name tail) with
  | .ok content => pure (Text.ofOctets content)
  | .error (.failure f) => pure ("Error fetching logs: " ++ f.text)
  | .error raised => throw raised

/-- How many lines of a log are read unless told otherwise. -/
def usualTail : Int := 50

end Server
end ClientTrial
