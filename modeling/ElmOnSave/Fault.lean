import ElmOnSave.Decimal.Shortest
import ElmOnSave.Json.Fault
import ElmOnSave.Machine.Fault
import ElmOnSave.Terminal.Fault
import ElmOnSave.Text.Utf8
import ElmOnSave.Toml.Fault
import ElmOnSave.Validation.Issue

/-!
# What can go wrong

A `Fault` is the cause of a failure, and `Fault.message` is its wording.  Some causes belong to the
pipeline: the configuration, the analyzer's report, the compiler's output and the run of the
compiler.  A save reports those and goes on; every other cause ends it.
-/

namespace ElmOnSave

/-- Why a line of compiler output cannot be understood. -/
inductive OutputFault where
  | malformed (complaint : Json.Complaint) (place : Text.Place) (offset : Nat)
  | notIssueList
  | notIssueObject
  | notList (field : String)
  | notObject (field : String)
  | unexpectedShape (refusal : Refusal)
  /-- The line is longer than is read; it may have ended or not when that was noticed. -/
  | lineTooLong (ended : Bool)
deriving Repr, DecidableEq, Inhabited

/-- The wording of an output fault. -/
def OutputFault.message : OutputFault → String
  | malformed c p o => "Malformed compiler output: " ++ (Json.Fault.malformed c p o).message
  | notIssueList => "Expected a JSON array of issues"
  | notIssueObject => "Expected every issue to be a JSON object"
  | notList f => "Expected '" ++ f ++ "' to be a list"
  | notObject f => "Expected '" ++ f ++ "' to be an object"
  | unexpectedShape r => "Unexpected diagnostic shape: " ++ r.message
  | lineTooLong true =>
    "Compiler output line too long: Separator is found, but chunk is longer than limit"
  | lineTooLong false =>
    "Compiler output line too long: Separator is not found, and chunk exceed the limit"

/-- Why a configuration cannot be loaded from a path. -/
inductive ConfigFault where
  | absent
  | unreadable (reason : SystemFault)
  | malformed (complaint : Toml.Complaint) (place : Option Text.Place)
  | sectionNotTable
  | invalid (refusal : Refusal)
deriving Repr, DecidableEq, Inhabited

/-- The wording of a configuration fault. -/
def ConfigFault.message (path : String) : ConfigFault → String
  | absent => "Configuration file " ++ path ++ " does not exist"
  | unreadable r => "Unable to read " ++ path ++ ": " ++ r.message
  | malformed c p => "Invalid TOML in " ++ path ++ ": " ++ Toml.malformedMessage c p
  | sectionNotTable => "[tool.elmcheck] in " ++ path ++ " must be a table"
  | invalid r => "Invalid configuration in " ++ path ++ ": " ++ r.message

/-- Why an analyzer report cannot be loaded from a path. -/
inductive ReportFault where
  | unreadable (reason : SystemFault)
  | malformed (complaint : Json.Complaint) (place : Text.Place) (offset : Nat)
  | notArray
  | notObject
  | invalid (refusal : Refusal)
deriving Repr, DecidableEq, Inhabited

/-- The wording of a report fault. -/
def ReportFault.message (path : String) : ReportFault → String
  | unreadable r => "Unable to load analyzer report " ++ path ++ ": " ++ r.message
  | malformed c p o =>
    "Unable to load analyzer report " ++ path ++ ": " ++ (Json.Fault.malformed c p o).message
  | notArray => "Analyzer report " ++ path ++ " must hold a JSON array"
  | notObject => "Analyzer report " ++ path ++ " holds a non-object entry"
  | invalid r => "Invalid issue in " ++ path ++ ": " ++ r.message

/-- The families of causes. -/
inductive FaultFamily where
  | pipeline
  | output
  | config
  | report
  | invocation
  | timeout
  | validation
  | value
  | decoding
  | nesting
  | unresolvable
  | system
  | absentFile
  | index
  | markup
deriving Repr, DecidableEq, Inhabited

/-- Whether a save reports causes of the family and goes on. -/
def FaultFamily.isPipeline : FaultFamily → Bool
  | pipeline | output | config | report | invocation | timeout => true
  | _ => false

/-- The cause of a failure. -/
inductive Fault where
  /-- A line of compiler output cannot be understood. -/
  | output (cause : OutputFault) (line : String)
  /-- The configuration at a path cannot be loaded. -/
  | config (path : String) (cause : ConfigFault)
  /-- The analyzer report at a path cannot be loaded. -/
  | report (path : String) (cause : ReportFault)
  /-- The compiler cannot be started. -/
  | notStarted (program : String) (reason : SystemFault) (command : List String)
  /-- The compiler ran for longer than is allowed. -/
  | timedOut (command : List String) (limit : Binary64)
  /-- A value does not have the expected fields. -/
  | refused (refusal : Refusal)
  /-- Octets are no text. -/
  | undecodable (cause : Utf8.Fault)
  /-- A number has more digits than are read. -/
  | integerTooLong (digits : Nat)
  /-- A document is nested too deeply. -/
  | nestedTooDeep
  /-- A path or argument holds a character that it may not hold. -/
  | nullByte
  /-- A tilde names no account. -/
  | unknownHome
  /-- A word is no severity label. -/
  | unknownSeverity (word : String)
  /-- The operating system refuses. -/
  | system (cause : SystemFault)
  /-- No executable file goes by the name of a program. -/
  | programAbsent (program : String)
  /-- A command has no words. -/
  | emptyCommand
  /-- A text is no readable markup. -/
  | markup (cause : Terminal.MarkupFault)
  /-- A cause found elsewhere, of a family and in words of its own. -/
  | reported (family : FaultFamily) (text : String) (line : String) (command : List String)
deriving Repr, DecidableEq, Inhabited

namespace Utf8

/-- An octet in hexadecimal. -/
def octetText (b : UInt8) : String :=
  "0x" ++ String.ofList (Text.hexPadded 2 b.toNat)

/-- The wording of a decoding fault: the octet, or the range of several, and the reason. -/
def Fault.message (f : Fault) : String :=
  let what :=
    match f.octets with
    | [b] => "byte " ++ octetText b ++ " in position " ++ toString f.start
    | os => "bytes in position " ++ toString f.start ++ "-" ++ toString (f.start + os.length - 1)
  "'utf-8' codec can't decode " ++ what ++ ": " ++ f.flaw.reason

end Utf8

namespace Fault

/-- The family of a cause.  A missing file is a family of its own. -/
def family : Fault → FaultFamily
  | output .. => .output
  | config .. => .config
  | report .. => .report
  | notStarted .. => .invocation
  | timedOut .. => .timeout
  | refused _ => .validation
  | undecodable _ => .decoding
  | integerTooLong _ => .value
  | nestedTooDeep => .nesting
  | nullByte => .value
  | unknownHome => .unresolvable
  | unknownSeverity _ => .value
  | system f => if f.errno = .noEntry then .absentFile else .system
  | programAbsent _ => .absentFile
  | emptyCommand => .index
  | markup (.color _) => .value
  | markup .longNumber => .value
  | markup _ => .markup
  | reported family .. => family

/-- Whether a save reports the cause and goes on. -/
def isPipeline (f : Fault) : Bool :=
  f.family.isPipeline

/-- The wording of a cause. -/
def message : Fault → String
  | output c _ => c.message
  | config p c => c.message p
  | report p c => c.message p
  | notStarted program reason _ => "Unable to start '" ++ program ++ "': " ++ reason.message
  | timedOut command limit =>
    "Command '" ++ command.headD "" ++ "' timed out after " ++ String.ofList limit.oneDecimal ++ "s"
  | refused r => r.message
  | undecodable f => f.message
  | integerTooLong n => Decimal.limitMessage n
  | nestedTooDeep => ""
  | nullByte => "embedded null byte"
  | unknownHome => "Could not determine home directory."
  | unknownSeverity w => String.ofList (Text.quoted (.whole w)) ++ " is not a valid Severity"
  | system f => f.message
  | programAbsent p => "Executable '" ++ p ++ "' was not found on PATH"
  | emptyCommand => "list index out of range"
  | markup f => f.message
  | reported _ text _ _ => text

/-- The issues behind a cause. -/
def issues? : Fault → Option (List Issue)
  | output (.unexpectedShape r) _ => some r.issues
  | config _ (.invalid r) => some r.issues
  | report _ (.invalid r) => some r.issues
  | refused r => some r.issues
  | _ => none

/-- A run that took too long, of a command that must have a first word. -/
def ofTimeout (command : List String) (limit : Binary64) : Fault :=
  if command.isEmpty then emptyCommand else timedOut command limit

/-- Why there is no home directory behind a tilde: the name of the account cannot be looked up, or
there is no such account. -/
def ofHome (unspeakable : Bool) : Fault :=
  if unspeakable then nullByte else unknownHome

/-- The cause that an unreadable JSON text is, when its place is wrapped in a cause of its own. -/
def ofJson (wrap : Json.Complaint → Text.Place → Nat → Fault) : Json.Fault → Fault
  | .malformed c p o => wrap c p o
  | .integerTooLong n => integerTooLong n
  | .nestedTooDeep => nestedTooDeep

end Fault

end ElmOnSave
