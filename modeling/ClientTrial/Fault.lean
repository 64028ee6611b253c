import ClientTrial.Text.Quoted
import ClientTrial.Json.Basic

/-!
# Faults

A fault is what a call into the outside world ends with when it does not answer:
a refused connection, a container that does not exist, a command that cannot be
spawned.  Its kind decides which callers handle it; its text is all that is shown
of it.  Kinds form three families.  Failures of the operating system are what a
retry or a clean-up step tolerates; failures of the container daemon are what
talking to it can raise; an answer in which the daemon refuses a request belongs
to both.

## Main definitions

* `OsKind`, `DaemonKind`, `Fault.Kind` — the kinds.
* `Fault.Kind.isOs`, `isDaemon`, `isRefusal`, `isAbsence`, `isMissingImage` — the
  families that callers handle.
* `Fault.Kind.name`, `Fault.Kind.fullName` — the names a kind is shown by.
* `Fault.os`, `Fault.numbered`, `Fault.oversize`, `Fault.missingKey` — faults with their texts.

## Main results

* `Fault.Kind.isRefusal_of_isAbsence` — a container that is absent is a refused
  request.
-/

namespace ClientTrial

/-- A failure of the operating system. -/
inductive OsKind where
  /-- Any failure without a kind of its own. -/
  | other
  /-- The peer closed the connection before it was made. -/
  | connectionAborted
  /-- The peer refused the connection. -/
  | connectionRefused
  /-- The peer dropped the connection. -/
  | connectionReset
  /-- The reader of a pipe is gone. -/
  | brokenPipe
  /-- A deadline of the operating system has passed. -/
  | timedOut
  /-- A path leads nowhere. -/
  | fileNotFound
  /-- A path is taken. -/
  | fileExists
  /-- A file stands where a directory is needed. -/
  | notADirectory
  /-- A directory stands where a file is needed. -/
  | isADirectory
  /-- The operation is not permitted. -/
  | permission
  /-- There is no such process. -/
  | processLookup
  /-- There is no such child process. -/
  | childProcess
  /-- The operation would have to wait. -/
  | blocking
  /-- A signal cut the operation short. -/
  | interrupted
  /-- The connection to the daemon is lost. -/
  | daemonConnection
  deriving DecidableEq, Repr

/-- A failure in talking to the container daemon. -/
inductive DaemonKind where
  /-- Any failure without a kind of its own. -/
  | other
  /-- The versions of client and daemon do not agree. -/
  | invalidVersion
  /-- The daemon refuses the request. -/
  | refusal
  /-- The container asked for does not exist. -/
  | absent
  /-- The image asked for does not exist. -/
  | missingImage
  deriving DecidableEq, Repr

/-- The name of a failure of the operating system. -/
def OsKind.name : OsKind → String
  | .other => "OSError"
  | .connectionAborted => "ConnectionAbortedError"
  | .connectionRefused => "ConnectionRefusedError"
  | .connectionReset => "ConnectionResetError"
  | .brokenPipe => "BrokenPipeError"
  | .timedOut => "TimeoutError"
  | .fileNotFound => "FileNotFoundError"
  | .fileExists => "FileExistsError"
  | .notADirectory => "NotADirectoryError"
  | .isADirectory => "IsADirectoryError"
  | .permission => "PermissionError"
  | .processLookup => "ProcessLookupError"
  | .childProcess => "ChildProcessError"
  | .blocking => "BlockingIOError"
  | .interrupted => "InterruptedError"
  | .daemonConnection => "ConnectionError"

/-- The name of a failure in talking to the daemon. -/
def DaemonKind.name : DaemonKind → String
  | .other => "DockerException"
  | .invalidVersion => "InvalidVersion"
  | .refusal => "APIError"
  | .absent => "NotFound"
  | .missingImage => "ImageNotFound"

namespace Fault

/-- What kind of fault a call ended with. -/
inductive Kind where
  /-- A failure of the operating system. -/
  | os (kind : OsKind)
  /-- A failure in talking to the daemon. -/
  | daemon (kind : DaemonKind)
  /-- A child is still running when it had to be over. -/
  | overdue
  /-- A value is out of its domain. -/
  | value
  /-- A value is of the wrong type. -/
  | type
  /-- A key is not in a table. -/
  | key
  /-- An index is past the end of a list. -/
  | index
  /-- A name is not an attribute of a module. -/
  | attribute
  /-- A number is too large. -/
  | overflow
  /-- A failure noticed while running. -/
  | runtime
  /-- Any other failure. -/
  | other
  deriving DecidableEq, Repr

end Fault

/-- What a call into the outside world ended with instead of an answer. -/
structure Fault where
  /-- The kind, which decides who handles it. -/
  kind : Fault.Kind
  /-- The text that is shown of it. -/
  text : String
  deriving DecidableEq, Repr

namespace Fault

/-! ### Families -/

namespace Kind

/-- The daemon refuses the request, for whatever reason. -/
def isRefusal : Kind → Bool
  | .daemon .refusal | .daemon .absent | .daemon .missingImage => true
  | _ => false

/-- What was asked for does not exist. -/
def isAbsence : Kind → Bool
  | .daemon .absent | .daemon .missingImage => true
  | _ => false

/-- The image asked for does not exist. -/
def isMissingImage : Kind → Bool
  | .daemon .missingImage => true
  | _ => false

/-- Any failure in talking to the daemon. -/
def isDaemon : Kind → Bool
  | .daemon _ => true
  | _ => false

theorem isDaemon_of_isRefusal {kind : Kind} (h : kind.isRefusal = true) :
    kind.isDaemon = true := by
  cases kind with
  | daemon d => rfl
  | _ => cases h

/-- Failures of the operating system; a refused request is one of them. -/
def isOs : Kind → Bool
  | .os _ => true
  | kind => kind.isRefusal

theorem isRefusal_of_isAbsence {kind : Kind} (h : kind.isAbsence = true) :
    kind.isRefusal = true := by
  cases kind with
  | daemon d => cases d <;> simp_all [isAbsence, isRefusal]
  | _ => simp [isAbsence] at h

end Kind

/-! ### Names -/

/-- The name of a kind. -/
def Kind.name : Kind → String
  | .os kind => kind.name
  | .daemon kind => kind.name
  | .overdue => "TimeoutExpired"
  | .value => "ValueError"
  | .type => "TypeError"
  | .key => "KeyError"
  | .index => "IndexError"
  | .attribute => "AttributeError"
  | .overflow => "OverflowError"
  | .runtime => "RuntimeError"
  | .other => "Exception"

/-- The name of a kind with the package it belongs to, as records of unforeseen failures show
it. -/
def Kind.fullName : Kind → String
  | .os .daemonConnection => "requests.exceptions.ConnectionError"
  | .daemon kind => "docker.errors." ++ kind.name
  | .overdue => "subprocess.TimeoutExpired"
  | kind => kind.name

/-! ### Faults with their texts -/

/-- The kind that an error number of the operating system stands for. -/
def Kind.ofNumber (number : Int) : OsKind :=
  if number ∈ [1, 13] then .permission
  else if number = 2 then .fileNotFound
  else if number = 3 then .processLookup
  else if number = 4 then .interrupted
  else if number = 10 then .childProcess
  else if number ∈ [11, 114, 115] then .blocking
  else if number = 17 then .fileExists
  else if number = 20 then .notADirectory
  else if number = 21 then .isADirectory
  else if number ∈ [32, 108] then .brokenPipe
  else if number = 103 then .connectionAborted
  else if number = 104 then .connectionReset
  else if number = 110 then .timedOut
  else if number = 111 then .connectionRefused
  else .other

/-- A whole number in decimal digits.  It stands in messages, where numbers are counts, ports,
statuses and the like: that such a number could have more digits than may be written is left out. -/
def numberText (n : Int) : String := String.ofList (Json.intText n)

/-- A whole number has more digits than may be read or written.  The note, if any, tells how many. -/
def oversize (note : String := "") : Fault :=
  ⟨.value, "Exceeds the limit (" ++ numberText Decimal.mostDigits ++
    " digits) for integer string conversion" ++ note ++
    "; use sys.set_int_max_str_digits() to increase the limit"⟩

/-- The text of a failure with an error number. -/
def numberedText (number : Int) (message : String) : String :=
  "[Errno " ++ numberText number ++ "] " ++ message

/-- A failure of the operating system with its error number.  A kind that is not given is the one
that the number stands for. -/
def numbered (kind : OsKind) (number : Int) (message : String) : Fault :=
  ⟨.os (if kind = .other then Kind.ofNumber number else kind), numberedText number message⟩

/-- A failure of the operating system that concerns a path. -/
def os (number : Int) (message path : String) : Fault :=
  numbered .other number (message ++ ": " ++ Text.quoted path)

/-- A path leads nowhere. -/
def noSuchFile (path : String) : Fault := os 2 "No such file or directory" path

/-- A file stands where a directory is needed. -/
def notADirectory (path : String) : Fault := os 20 "Not a directory" path

/-- A directory stands where a file is needed. -/
def isADirectory (path : String) : Fault := os 21 "Is a directory" path

/-- A path, or a part of it, has too many octets. -/
def nameTooLong (path : String) : Fault := os 36 "File name too long" path

/-- A path is taken. -/
def fileExists (path : String) : Fault := os 17 "File exists" path

/-- A path holds the character that ends paths. -/
def embeddedNull : Fault := ⟨.value, "embedded null byte"⟩

/-- A key is not in a table. -/
def missingKey (name : String) : Fault := ⟨.key, Text.quoted name⟩

/-- The list of words of a command is empty. -/
def emptyCommand : Fault := ⟨.index, "list index out of range"⟩

/-- A command is still running after some seconds, given as they are shown. -/
def overdue (command : List String) (seconds : String) : Fault :=
  ⟨.overdue,
    "Command '" ++ Text.quotedList command ++ "' timed out after " ++ seconds ++ " seconds"⟩

end Fault
end ClientTrial
