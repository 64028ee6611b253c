import ClientTrial.Settings.Kind
import ClientTrial.Text.Words

/-!
# The settings of a trial

Everything that can be configured is a field with a name, a kind and a default.

## Main definitions

* `Field` — the fields, in the order in which problems with them are listed.
* `Field.name`, `Field.kind`, `Field.default` — what is known of a field.
* `Field.ofName?` — the field of a name.
* `Settings` — a value for every field.
* `Settings.receiverWords`, `senderWords`, `buildWords` — the commands in words.
* `Settings.containerName` — the name that a trial gives its server.

## Main results

* `Field.mem_all` — no field is left out of the list.
* `Field.ofName?_name`, `Field.name_injective` — a field is found by its name, and no
  two fields share one.
* `Field.lower_name` — names are in small letters.
-/

namespace ClientTrial

/-- A field of the settings. -/
inductive Field where
  | serverName
  | uniqueServerName
  | serverImage
  | serverHost
  | containerPort
  | hostPort
  | serverVariable
  | keepServer
  | readinessAttempts
  | readinessTimeout
  | readinessPause
  | serverSettle
  | buildCommand
  | receiverCommand
  | senderCommand
  | workingDir
  | receiverSettle
  | readyMarker
  | readyTimeout
  | readyPause
  | senderTimeout
  | markers
  | artifactsRoot
  | keepArtifacts
  | keepArtifactsOnFailure
  | logLevel
  | logFormat
  deriving DecidableEq, Repr

namespace Field

/-- The fields in order. -/
def all : List Field :=
  [.serverName, .uniqueServerName, .serverImage, .serverHost, .containerPort, .hostPort,
    .serverVariable, .keepServer, .readinessAttempts, .readinessTimeout, .readinessPause,
    .serverSettle, .buildCommand, .receiverCommand, .senderCommand, .workingDir,
    .receiverSettle, .readyMarker, .readyTimeout, .readyPause, .senderTimeout, .markers,
    .artifactsRoot, .keepArtifacts, .keepArtifactsOnFailure, .logLevel, .logFormat]

theorem mem_all (f : Field) : f ∈ all := by cases f <;> decide

/-- The name of a field. -/
def name : Field → String
  | .serverName => "server_name"
  | .uniqueServerName => "unique_server_name"
  | .serverImage => "server_image"
  | .serverHost => "server_host"
  | .containerPort => "container_port"
  | .hostPort => "host_port"
  | .serverVariable => "server_env_var"
  | .keepServer => "keep_server"
  | .readinessAttempts => "readiness_attempts"
  | .readinessTimeout => "readiness_attempt_timeout"
  | .readinessPause => "readiness_delay"
  | .serverSettle => "server_settle_delay"
  | .buildCommand => "build_command"
  | .receiverCommand => "receiver_command"
  | .senderCommand => "sender_command"
  | .workingDir => "working_dir"
  | .receiverSettle => "receiver_settle_delay"
  | .readyMarker => "receiver_ready_marker"
  | .readyTimeout => "receiver_ready_timeout"
  | .readyPause => "ready_poll_interval"
  | .senderTimeout => "sender_timeout"
  | .markers => "expected_markers"
  | .artifactsRoot => "artifacts_root"
  | .keepArtifacts => "keep_artifacts"
  | .keepArtifactsOnFailure => "keep_artifacts_on_failure"
  | .logLevel => "log_level"
  | .logFormat => "log_format"

/-- The field with a given name. -/
def ofName? (s : String) : Option Field := all.find? fun f => f.name = s

theorem ofName?_name (f : Field) : ofName? f.name = some f := by
  cases f <;> decide

theorem name_injective {f g : Field} (h : f.name = g.name) : f = g := by
  simpa [ofName?_name] using congrArg ofName? h

/-- The names of fields are in small letters. -/
theorem lower_name (f : Field) : Text.lower f.name = f.name := by
  have listed : ∀ f ∈ all, Text.lower f.name = f.name := by decide +kernel
  exact listed f f.mem_all

/-- The kind of a field. -/
abbrev kind : Field → Kind
  | .serverName => .text 1
  | .uniqueServerName | .keepServer | .keepArtifacts | .keepArtifactsOnFailure => .flag
  | .serverImage | .serverHost | .serverVariable | .receiverCommand | .senderCommand => .text 0
  | .containerPort => .whole 1 (some 65535)
  | .hostPort => .hostPort
  | .readinessAttempts => .whole 1 none
  | .readinessTimeout | .readyTimeout | .readyPause => .real true
  | .readinessPause | .serverSettle | .receiverSettle => .real false
  | .buildCommand | .readyMarker => .optionalText
  | .workingDir | .artifactsRoot => .directory
  | .senderTimeout => .optionalReal
  | .markers => .markers
  | .logLevel => .level
  | .logFormat => .format

/-- The value of a field that is not given. -/
def default : (f : Field) → f.kind.Value
  | .serverName => "tokio_test_ircd"
  | .uniqueServerName => false
  | .serverImage => "inspircd/inspircd-docker:2.0.24"
  | .serverHost => "localhost"
  | .containerPort => (6667 : Int)
  | .hostPort => some (6667 : Int)
  | .serverVariable => "IRC_SERVER"
  | .keepServer => false
  | .readinessAttempts => (10 : Int)
  | .readinessTimeout => (1.0 : Float)
  | .readinessPause => (2.0 : Float)
  | .serverSettle => (2.0 : Float)
  | .buildCommand => none
  | .receiverCommand => "./target/debug/examples/print_messages"
  | .senderCommand => "./target/debug/examples/send_message"
  | .workingDir => none
  | .receiverSettle => (5.0 : Float)
  | .readyMarker => none
  | .readyTimeout => (30.0 : Float)
  | .readyPause => (0.25 : Float)
  | .senderTimeout => none
  | .markers => ["Hello World", "Goodbye world"]
  | .artifactsRoot => none
  | .keepArtifacts => false
  | .keepArtifactsOnFailure => true
  | .logLevel => "INFO"
  | .logFormat => "text"

end Field

/-! ### Settings -/

/-- A value for every field. -/
abbrev Settings := (f : Field) → f.kind.Value

namespace Settings

/-- The settings when nothing is given. -/
def default : Settings := Field.default

/-- A field as a tree. -/
def tree (s : Settings) (f : Field) : Json := f.kind.write (s f)

/-- The command that runs the receiver, in words. -/
def receiverWords (s : Settings) : Except Text.CommandError (List String) :=
  Text.words (s .receiverCommand)

/-- The command that runs the sender, in words. -/
def senderWords (s : Settings) : Except Text.CommandError (List String) :=
  Text.words (s .senderCommand)

/-- The command that builds the clients, in words, if there is one. -/
def buildWords (s : Settings) : Except Text.CommandError (Option (List String)) :=
  match (s .buildCommand : Option String) with
  | none => .ok none
  | some command => if command = "" then .ok none else (Text.words command).map some

/-- The name that a trial gives its server. -/
def containerName (s : Settings) (runId : String) : String :=
  if (s .uniqueServerName : Bool) then (s .serverName : String) ++ "-" ++ runId
  else s .serverName

end Settings
end ClientTrial
