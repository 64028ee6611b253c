import ClientTrial.CommandLine.Options
import ClientTrial.Settings.Sources
import ClientTrial.Trial.Basic

/-!
# From a command line to an exit status

The command line gives values for settings, which come before those of the
environment and of the file of variables.  With valid settings logging is set up
and one trial is run on the bench.  The status tells how it ended; what was
reported, and what the user is told, goes to the two outputs.

## Main definitions

* `CommandLine.loadSettings` — the settings of a command line.
* `CommandLine.Finish` — how the program can end.
* `CommandLine.Session` — the end, and what was written.
* `CommandLine.session` — the whole program on a bench.

## Main results

* `CommandLine.Finish.status?_done` — the status of a trial that came to an end is
  that of its outcome.
-/

namespace ClientTrial
namespace CommandLine

/-! ### Settings -/

/-- Why a command line gives no settings. -/
inductive Refusal where
  /-- The command line is malformed. -/
  | usage (error : UsageError)
  /-- The user asks for help. -/
  | help
  /-- There are issues with the settings. -/
  | invalid (issues : List Issue)

/-- The settings of a command line, an environment and a file of variables. -/
def loadSettings (arguments : List String) (environ : List (String × String))
    (file : Option String) : Except Refusal Settings :=
  match parse arguments with
  | .error e => .error (.usage e)
  | .ok none => .error .help
  | .ok (some overrides) =>
    match ({ overrides, environ, file } : Sources).load with
    | .ok s => .ok s
    | .error issues => .error (.invalid issues)

/-! ### Ends -/

/-- How the program can end. -/
inductive Finish where
  /-- No trial was run. -/
  | refused (why : Refusal)
  /-- A trial came to an end. -/
  | done (outcome : Outcome)
  /-- A trial was ended by something that is not its outcome. -/
  | raised (raised : Raised)

/-- The status that the program ends with, if it ends with one. -/
def Finish.status? : Finish → Option Int
  | .refused (.usage _) => some 2
  | .refused .help => some 0
  | .refused (.invalid _) => some 1
  | .done outcome => some outcome.exitStatus
  | .raised _ => none

@[simp] theorem Finish.status?_done (outcome : Outcome) :
    (Finish.done outcome).status? = some outcome.exitStatus := rfl

/-- The end of the program and what it has written. -/
structure Session where
  finish : Finish
  /-- The main output. -/
  output : String := ""
  /-- The other output. -/
  messages : String := ""
  /-- How far the trial has come, if one was run. -/
  progress : Option Progress := none
  /-- The bench that is left behind. -/
  bench : Bench

/-- What is written to the other output when no trial is run. -/
def Refusal.messages : Refusal → String
  | .usage e => "irc-harness: error: " ++ e.message ++ "\n"
  | .help => ""
  | .invalid _ => "Invalid configuration:\n"

/-- The log lines of some records. -/
def logLines (setup : Log.Setup) (records : Array Log.Record) : String :=
  String.join (records.toList.map setup.written)

/-- The trial of a session and what it writes. -/
def runTrial (settings : Settings) (runId : String) (setup : Log.Setup) (b : Bench) : Session :=
  match ({ settings, runId : Trial }).course.exec b with
  | (.error raised, bench) =>
    { finish := .raised raised, messages := logLines setup bench.records, bench }
  | (.ok course, bench) =>
    let lines := logLines setup bench.records
    let progress := some course.progress
    match course.result with
    | .error raised => { finish := .raised raised, messages := lines, progress, bench }
    | .ok o =>
      { finish := .done o, output := o.text, messages := lines ++ o.warnings, progress, bench }

/-- The program: settings are loaded, logging is set up, and a trial is run on a bench. -/
def session (arguments : List String) (file : Option String) (runId : String) (b : Bench) :
    Session :=
  match loadSettings arguments b.environ file with
  | .error why => { finish := .refused why, messages := why.messages, bench := b }
  | .ok settings =>
    match ({} : Log.Setup).choose (.str (settings .logLevel)) (settings .logFormat) with
    | .error f => { finish := .raised (.fault f), bench := b }
    | .ok setup => runTrial settings runId setup b

end CommandLine
end ClientTrial
