import ClientTrial.Decimal.Literal
import ClientTrial.Json.Basic
import ClientTrial.Text.Quoted

/-!
# Command line options

Every option sets a field of the settings.  An option is written with its value
as the next argument or after an equals sign, and its name may be cut short as
long as only one option begins that way.  An argument that looks like a negative
number or holds a space is never an option.  Two dashes end the options; as the
value of an option, after an equals sign, they stand for an empty list.

## Main definitions

* `Takes`, `Declared`, `declared` — the options and what they take.
* `UsageError` — what can be wrong with a command line.
* `classify` — what an argument is.
* `parse` — the values that a command line gives.
-/

namespace ClientTrial
namespace CommandLine

/-! ### The options -/

/-- What an option takes. -/
inductive Takes where
  /-- A text. -/
  | text
  /-- A text, any number of times. -/
  | texts
  /-- A whole number. -/
  | whole
  /-- A number. -/
  | real
  /-- One of some words. -/
  | choice (words : List String)
  /-- Nothing: the option is there or it is not. -/
  | presence
  /-- Nothing: the user asks for help. -/
  | help
  deriving DecidableEq, Repr

/-- An option. -/
structure Declared where
  /-- The ways to write it. -/
  names : List String
  /-- The field that it sets. -/
  field : String
  /-- What it takes. -/
  takes : Takes
  deriving DecidableEq, Repr

/-- The options in order. -/
def declared : List Declared :=
  [⟨["-h", "--help"], "help", .help⟩,
    ⟨["--receiver"], "receiver_command", .text⟩,
    ⟨["--sender"], "sender_command", .text⟩,
    ⟨["--build"], "build_command", .text⟩,
    ⟨["--marker"], "expected_markers", .texts⟩,
    ⟨["--image"], "server_image", .text⟩,
    ⟨["--name"], "server_name", .text⟩,
    ⟨["--host-port"], "host_port", .whole⟩,
    ⟨["--ready-marker"], "receiver_ready_marker", .text⟩,
    ⟨["--sender-timeout"], "sender_timeout", .real⟩,
    ⟨["--unique-name"], "unique_server_name", .presence⟩,
    ⟨["--keep-artifacts"], "keep_artifacts", .presence⟩,
    ⟨["--keep-server"], "keep_server", .presence⟩,
    ⟨["--log-level"], "log_level", .text⟩,
    ⟨["--log-format"], "log_format", .choice ["text", "json"]⟩]

/-- Every way to write an option, with the option. -/
def spellings : List (String × Declared) :=
  declared.flatMap fun d => d.names.map fun name => (name, d)

/-- An option takes a value. -/
def Declared.takesValue (d : Declared) : Bool :=
  match d.takes with
  | .presence | .help => false
  | _ => true

/-! ### What can be wrong -/

/-- What is wrong with a command line. -/
inductive UsageError where
  /-- An argument could be one of several options. -/
  | ambiguous (argument : String) (options : List String)
  /-- An option lacks its value. -/
  | valueMissing (option : Declared)
  /-- An option has a value that it does not take. -/
  | valueIgnored (option : Declared) (value : String)
  /-- A value is not a number of the right sort. -/
  | invalidNumber (option : Declared) (sort : String) (value : String)
  /-- A value is not one of the words. -/
  | invalidChoice (option : Declared) (value : String) (words : List String)
  /-- Arguments are left over. -/
  | unrecognized (arguments : List String)
  deriving DecidableEq, Repr

namespace UsageError

/-- The words for an option that something is wrong with. -/
def about (d : Declared) : String := "argument " ++ "/".intercalate d.names ++ ": "

/-- The message for the user. -/
def message : UsageError → String
  | .ambiguous argument options =>
    "ambiguous option: " ++ argument ++ " could match " ++ ", ".intercalate options
  | .valueMissing d => about d ++ "expected one argument"
  | .valueIgnored d value => about d ++ "ignored explicit argument " ++ Text.quoted value
  | .invalidNumber d sort value =>
    about d ++ "invalid " ++ sort ++ " value: " ++ Text.quoted value
  | .invalidChoice d value words =>
    about d ++ "invalid choice: " ++ Text.quoted value ++ " (choose from " ++
      ", ".intercalate (words.map Text.quoted) ++ ")"
  | .unrecognized arguments => "unrecognized arguments: " ++ " ".intercalate arguments

end UsageError

/-! ### What arguments are -/

/-- What an argument is. -/
inductive Argument where
  /-- A value. -/
  | value (text : String)
  /-- Two dashes, the first of the command line: from here on there are only values. -/
  | separator
  /-- An option, the way it was written in full, and a value after an equals sign. -/
  | option (declared : Declared) (name : String) (value : Option String)
  /-- Something that looks like an option and is none. -/
  | unknown (text : String)
  deriving DecidableEq, Repr

/-- A text cut at its first equals sign. -/
def cut? (s : List Char) : Option (List Char × List Char) :=
  match s.span (· ≠ '=') with
  | (_, []) => none
  | (before, _ :: after) => some (before, after)

/-- The ways to write an option that begin with a text. -/
def beginning (start : List Char) : List (String × Declared) :=
  spellings.filter fun s => start.isPrefixOf s.1.toList

/-- The options that an argument may mean, each with its value: an option cut short, or a short
option with something after it. -/
def meanings (s : List Char) : List Argument :=
  match s with
  | '-' :: '-' :: _ =>
    match cut? s with
    | some (before, after) =>
      (beginning before).map fun (name, d) => .option d name (some (String.ofList after))
    | none => (beginning s).map fun (name, d) => .option d name none
  | _ =>
    spellings.filterMap fun (name, d) =>
      if name.toList = s.take 2 then some (.option d name (some (String.ofList (s.drop 2))))
      else if s.isPrefixOf name.toList then some (.option d name none)
      else none

/-- A digit of any script. -/
def isDigit (c : Char) : Bool := (Text.digitValue? c).isSome

/-- An argument looks like a negative number. -/
def isNegative (s : List Char) : Bool :=
  let s := if s.getLast? = some '\n' then s.dropLast else s
  match s with
  | '-' :: rest =>
    let (whole, rest) := rest.span isDigit
    match rest with
    | [] => !whole.isEmpty
    | '.' :: fraction => !fraction.isEmpty && fraction.all isDigit
    | _ => false
  | _ => false

/-- The way an option is written in an argument. -/
def Argument.spelling : Argument → Option String
  | .option _ name _ => some name
  | _ => none

/-- What an argument before the separator is. -/
def classify (argument : String) : Except UsageError Argument :=
  let s := argument.toList
  if s.head? ≠ some '-' then .ok (.value argument)
  else
    match spellings.lookup argument with
    | some d => .ok (.option d argument none)
    | none =>
      if s.length = 1 then .ok (.value argument)
      else
        match (cut? s).bind fun (before, after) =>
          (spellings.lookup (String.ofList before)).map fun d =>
            Argument.option d (String.ofList before) (some (String.ofList after)) with
        | some option => .ok option
        | none =>
          match meanings s with
          | [option] => .ok option
          | [] =>
            if isNegative s ∨ ' ' ∈ s then .ok (.value argument) else .ok (.unknown argument)
          | options => .error (.ambiguous argument (options.filterMap Argument.spelling))

/-- What the arguments of a command line are. -/
def classifyAll : List String → Except UsageError (List Argument)
  | [] => .ok []
  | "--" :: rest => .ok (.separator :: rest.map .value)
  | argument :: rest => do
    let a ← classify argument
    let list ← classifyAll rest
    pure (a :: list)

/-! ### Values -/

/-- What a command line gives. -/
structure Given where
  /-- The values by field, each field once. -/
  values : List (String × Json) := []
  /-- The arguments that are left over. -/
  extras : List String := []
  /-- The user asks for help. -/
  help : Bool := false

/-- The list with a value under a name, in the old position if there was one. -/
def assign (name : String) (value : Json) : List (String × Json) → List (String × Json)
  | [] => [(name, value)]
  | (n, v) :: rest => if n = name then (n, value) :: rest else (n, v) :: assign name value rest

/-- The value that a text is for an option.  Two dashes are no text but an empty list, whatever the
option takes. -/
def valueOf (d : Declared) (text : String) : Except UsageError Json :=
  if text = "--" then .ok (.arr [])
  else
    match d.takes with
    | .text | .texts => .ok (.str text)
    | .whole =>
      match Decimal.whole? text with
      | some n => .ok (.int n)
      | none => .error (.invalidNumber d "int" text)
    | .real =>
      match Decimal.real? text with
      | some x => .ok (.float x)
      | none => .error (.invalidNumber d "float" text)
    | .choice words =>
      if text ∈ words then .ok (.str text) else .error (.invalidChoice d text words)
    | .presence | .help => .ok (.bool true)

/-- What is given once an option has a value. -/
def Given.take (g : Given) (d : Declared) (value : Json) : Given :=
  let value :=
    match d.takes, g.values.lookup d.field with
    | .texts, some (.arr items) => .arr (items ++ [value])
    | .texts, _ => .arr [value]
    | _, _ => value
  { g with values := assign d.field value g.values }

/-- What is given once an option without a value is there. -/
def Given.present (g : Given) (d : Declared) : Given :=
  if d.takes = .help then { g with help := true } else g.take d (.bool true)

/-- An option without a value that has something written after it.  Short options may be written
in one; after another short option the rest is looked at in turn. -/
def cluster (d : Declared) (name : String) (g : Given) : List Char → Except UsageError Given
  | [] => .error (.valueIgnored d "")
  | c :: rest =>
    if name.toList.drop 1 |>.head? |>.any (· = '-') then
      .error (.valueIgnored d (String.ofList (c :: rest)))
    else
      match spellings.lookup (String.ofList ['-', c]) with
      | none => .error (.valueIgnored d (String.ofList (c :: rest)))
      | some d' =>
        match rest with
        | [] => .ok ((g.present d).present d')
        | _ => cluster d' (String.ofList ['-', c]) (g.present d) rest

/-- What the arguments give, in order.  Once the user has asked for help nothing else counts. -/
def collect : Given → List Argument → Except UsageError Given
  | g, [] => .ok g
  | g, .value text :: rest => collect { g with extras := g.extras ++ [text] } rest
  | g, .separator :: rest => collect { g with extras := g.extras ++ ["--"] } rest
  | g, .unknown text :: rest => collect { g with extras := g.extras ++ [text] } rest
  | g, .option d name (some text) :: rest =>
    if g.help then .ok g
    else if d.takesValue then
      (valueOf d text).bind fun value => collect (g.take d value) rest
    else (cluster d name g text.toList).bind fun g => collect g rest
  | g, .option d _ none :: rest =>
    if g.help then .ok g
    else if d.takesValue then
      match rest with
      | .value text :: rest => (valueOf d text).bind fun value => collect (g.take d value) rest
      | _ => .error (.valueMissing d)
    else collect (g.present d) rest

/-- The values that a command line gives, or nothing if the user asks for help. -/
def parse (arguments : List String) : Except UsageError (Option (List (String × Json))) := do
  let list ← classifyAll arguments
  let given ← collect {} list
  if given.help then pure none
  else if given.extras.isEmpty then pure (some given.values)
  else .error (.unrecognized given.extras)

end CommandLine
end ClientTrial
