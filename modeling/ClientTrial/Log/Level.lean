import ClientTrial.Fault

/-!
# Levels of log records

A level says how much a record matters.  It is a whole number, and the usual ones
have names.  Where a level is chosen by a word, the word is looked up among
everything that the logging library defines, so that a word may be known there
and still be no level.

## Main definitions

* `Log.Level` — a level in force.
* `Log.levelName` — the name that a level is shown by.
* `Log.Level.ofWord` — the level that a word chooses.

## Main results

* `Log.Level.ofWord_levelName` — a usual level is chosen by its name.
-/

namespace ClientTrial
namespace Log

/-- A level in force. -/
inductive Level where
  /-- A number. -/
  | number (n : Int)
  /-- A switch that is on, which is as good as the number one. -/
  | switch
  deriving DecidableEq, Repr

/-- The name that a level is shown by. -/
def levelName (level : Int) : String :=
  if level = 0 then "NOTSET"
  else if level = 10 then "DEBUG"
  else if level = 20 then "INFO"
  else if level = 30 then "WARNING"
  else if level = 40 then "ERROR"
  else if level = 50 then "CRITICAL"
  else "Level " ++ Fault.numberText level

namespace Level

/-- A level as a number. -/
def toInt : Level → Int
  | .number n => n
  | .switch => 1

/-- A level as a JSON tree. -/
def tree : Level → Json
  | .number n => .int n
  | .switch => .bool true

/-- The name of a level. -/
def name : Level → String
  | .number n => levelName n
  | .switch => "Level True"

/-! ### Words -/

/-- The words for levels. -/
def numbers : List (String × Int) :=
  [("CRITICAL", 50), ("FATAL", 50), ("ERROR", 40), ("WARNING", 30), ("WARN", 30), ("INFO", 20),
    ("DEBUG", 10), ("NOTSET", 0)]

/-- The words for switches, all of which are on. -/
def switches : List String :=
  ["logMultiprocessing", "logProcesses", "logThreads", "raiseExceptions"]

/-- The words for texts. -/
def texts : List (String × String) :=
  [("BASIC_FORMAT", "%(levelname)s:%(name)s:%(message)s"), ("__date__", "07 February 2010"),
    ("__name__", "logging"), ("__package__", "logging"), ("__status__", "production"),
    ("__version__", "0.5.1.2")]

/-- The words for classes of the library itself. -/
def classes : List String :=
  ["BufferingFormatter", "FileHandler", "Filter", "Filterer", "Formatter", "Handler", "LogRecord",
    "Logger", "LoggerAdapter", "Manager", "NullHandler", "PercentStyle", "PlaceHolder",
    "RootLogger", "StrFormatStyle", "StreamHandler", "StringTemplateStyle", "_StderrHandler"]

/-- The words for anything else, with what they stand for as it is shown. -/
def others : List (String × String) :=
  [("GenericAlias", "<class 'types.GenericAlias'>"), ("Template", "<class 'string.Template'>"),
    ("__class__", "<class 'module'>"), ("_logRecordFactory", "<class 'logging.LogRecord'>"),
    ("_levelToName", "\x7b50: 'CRITICAL', 40: 'ERROR', 30: 'WARNING', 20: 'INFO', 10: 'DEBUG', " ++
      "0: 'NOTSET'\x7d"),
    ("_loggerClass", "<class 'logging.Logger'>"),
    ("_nameToLevel", "\x7b'CRITICAL': 50, 'FATAL': 50, 'ERROR': 40, 'WARN': 30, 'WARNING': 30, " ++
      "'INFO': 20, 'DEBUG': 10, 'NOTSET': 0\x7d"),
    ("_warnings_showwarning", "None"),
    ("atexit", "<module 'atexit' (built-in)>"), ("io", "<module 'io' (frozen)>"),
    ("os", "<module 'os' (frozen)>"), ("sys", "<module 'sys' (built-in)>"),
    ("time", "<module 'time' (built-in)>")]

/-- How something is shown that a word stands for and that is neither a level nor a text.  The
topmost logger is shown with the level in force. -/
def shown? (current : Level) (word : String) : Option String :=
  if word ∈ classes then some ("<class 'logging." ++ word ++ "'>")
  else if word = "root" then some ("<RootLogger root (" ++ current.name ++ ")>")
  else others.lookup word

/-- The level that a word chooses while another one is in force. -/
def ofWord (current : Level) (word : String) : Except Fault Level :=
  match numbers.lookup word with
  | some n => .ok (.number n)
  | none =>
    if word ∈ switches then .ok .switch
    else
      match texts.lookup word, shown? current word with
      | some text, _ => .error ⟨.value, "Unknown level: " ++ Text.quoted text⟩
      | none, some shown =>
        .error ⟨.type, "Level not an integer or a valid string: " ++ shown⟩
      | none, none => .error ⟨.attribute, "module 'logging' has no attribute '" ++ word ++ "'"⟩

theorem ofWord_levelName {current : Level} {n : Int} (h : n ∈ [0, 10, 20, 30, 40, 50]) :
    ofWord current (levelName n) = .ok (.number n) := by
  simp only [List.mem_cons, List.not_mem_nil, or_false] at h
  rcases h with rfl | rfl | rfl | rfl | rfl | rfl <;> rfl

end Level
end Log
end ClientTrial
