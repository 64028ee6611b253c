import ClientTrial.CommandLine.Session

/-!
# The command line program

The program rehearses a trial: settings are loaded from the command line, the
environment and a file of variables, and a trial is run with them on a bench on
which nothing goes wrong.  What the program reads from its standard input is
what the sender makes the receiver print, so that the markers can be tried out
before a real server is involved.  Nothing outside the program is touched.

## Main definitions

* `CommandLine.rehearsal` — the bench of a rehearsal.
* `CommandLine.Session.notes` — what a session leaves to be told on the other output.
* `main` — the program.
-/

namespace ClientTrial
namespace CommandLine

/-- The port of the host that the daemon chooses in a rehearsal. -/
def rehearsalPort : String := "49153"

/-- A daemon that publishes the port of the container that the settings name. -/
def rehearsalDaemon (s : Settings) : Daemon :=
  { published :=
      .obj [(Server.portKey (s .containerPort), .arr [.obj [("HostPort", .str rehearsalPort)]])] }

/-- The bench of a rehearsal: every command succeeds at once, and whatever runs to its end makes
the receiver print the given text. -/
def rehearsal (environ : List (String × String)) (s : Settings) (heard : Text.Octets) : Bench :=
  let errand : Errand := { relay := heard }
  { Bench.quiet with environ, daemon := rehearsalDaemon s, errands := [errand, errand] }

/-- An issue with a setting on a line of its own. -/
def issueLine (i : Issue) : String :=
  let item :=
    match i.item with
    | none => ""
    | some n => "." ++ String.ofList (Decimal.digits n)
  i.field ++ item ++ ": " ++ i.problem.message ++ "\n"

/-- The ways to write the options, one option a line. -/
def optionLines : String :=
  String.join (declared.map fun d => "  " ++ ", ".intercalate d.names ++ "\n")

/-- What a session leaves to be told on the other output, after its messages. -/
def Session.notes (s : Session) : String :=
  match s.finish with
  | .refused (.invalid issues) => String.join (issues.map issueLine)
  | .refused .help => "options:\n" ++ optionLines
  | .raised r => r.line ++ "\n"
  | _ => ""

/-- The status that the program ends with: one for a trial without an outcome. -/
def Session.status (s : Session) : UInt32 := (s.finish.status?.getD 1).toNat.toUInt32

/-- The variables of the environment that name settings. -/
def readEnviron : IO (List (String × String)) :=
  Field.all.filterMapM fun f => do
    let name := Text.upper (Sources.variableStart ++ f.name)
    pure ((← IO.getEnv name).map fun value => (name, value))

/-- The file of variables in the working directory, if it can be read. -/
def readFile : IO (Option String) := do
  try
    pure (some (← IO.FS.readFile ".env"))
  catch _ =>
    pure none

/-- A fresh text that no earlier trial was identified by, as far as chance allows. -/
def freshId : IO String := do
  let octets ← IO.getRandomBytes 6
  pure (String.join (octets.toList.map fun b =>
    String.ofList [Json.hexDigit (b.toNat / 16), Json.hexDigit (b.toNat % 16)]))

/-- The program on a command line. -/
def rehearse (arguments : List String) : IO UInt32 := do
  let environ ← readEnviron
  let file ← readFile
  let fresh ← freshId
  let bench ←
    match loadSettings arguments environ file with
    | .error _ => pure { Bench.quiet with environ }
    | .ok settings => do
      let heard ← (← IO.getStdin).readBinToEnd
      pure (rehearsal environ settings heard.toList)
  let s := session arguments file (Trial.chooseRunId none fresh) bench
  IO.print s.output
  IO.eprint (s.messages ++ s.notes)
  pure s.status

end CommandLine
end ClientTrial

/-- The program. -/
def main (arguments : List String) : IO UInt32 := ClientTrial.CommandLine.rehearse arguments
