import ClientTrial.Bench.Calls

/-!
# Readiness of the server

The server is ready once it accepts a connection.  Connections are attempted a
fixed number of times with a fixed pause between two attempts and none after the
last.  Only failures of the operating system mean "not yet"; anything else ends
the wait at once.

## Main definitions

* `notYet?` — the fault that says "not yet".
* `attempts` — the attempts from one on.
* `awaitReachable` — all attempts, with their number as the answer.
-/

namespace ClientTrial

open Act

/-- The fault of a failed connection that says that the server is not ready yet. -/
def notYet? : Raised → Option Fault
  | .failure (.fault f) => if f.kind.isOs then some f else none
  | _ => none

/-- The attempts from the one with a given number on, of which `left` follow it.  The answer is
the number of the attempt that succeeded. -/
def attempts (host : String) (port : Int) (timeout pause : Float) (budget : Int) :
    (left : Nat) → (number : Int) → Act Int
  | 0, number => do
    match ← attempt (connect host port timeout) with
    | .ok () => pure number
    | .error raised =>
      match notYet? raised with
      | none => throw raised
      | some cause => do
        say (.neverReachable host port number)
        throw (.trial (.serviceUnavailable host port number) (some cause))
  | left + 1, number => do
    match ← attempt (connect host port timeout) with
    | .ok () => pure number
    | .error raised =>
      match notYet? raised with
      | none => throw raised
      | some cause => do
        say (.notReachable host port number budget cause.text)
        sleep pause
        attempts host port timeout pause budget left (number + 1)

/-- Connections are attempted until the server accepts one, at most `budget` times. -/
def awaitReachable (host : String) (port : Int) (budget : Int) (timeout pause : Float) :
    Act Int := do
  if budget < 1 then throw (.fault ⟨.value, "max_attempts must be at least 1"⟩)
  let number ← attempts host port timeout pause budget (budget - 1).toNat 1
  say (.reachable host port number)
  pure number

end ClientTrial
