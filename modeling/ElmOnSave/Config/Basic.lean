import ElmOnSave.Validation.Scalar

/-!
# Configuration

The configuration names the commands to run and holds the switches of the pipeline.  It is read from
a table in which every field may be missing and no other field may occur, and it may change while
the program runs, one checked field at a time.
-/

namespace ElmOnSave

/-- What becomes of runs for one file that overlap. -/
inductive OverlapPolicy where
  /-- Every run is published when it completes. -/
  | lastResolved
  /-- A run that was overtaken by a later save of the file is discarded. -/
  | latestStarted
deriving Repr, DecidableEq, Inhabited

namespace OverlapPolicy

/-- The spelling of a policy in the configuration. -/
def label : OverlapPolicy → String
  | lastResolved => "last-resolved"
  | latestStarted => "latest-started"

/-- The policy with exactly the given spelling. -/
def ofValue : Value → Except Mismatch OverlapPolicy
  | .text (.whole s) =>
    if s = lastResolved.label then .ok lastResolved
    else if s = latestStarted.label then .ok latestStarted
    else .error .enum
  | _ => .error .enum

end OverlapPolicy

/-- Commands and switches. -/
structure Config where
  /-- The compiler of generation 0.19. -/
  compiler : String
  /-- The compiler of generation 0.18. -/
  makeCommand : String
  /-- The compiler of generation 0.19 for test files. -/
  testCompiler : String
  disableLinting : Bool
  /-- Where the compiler writes the code it generates. -/
  nullDevice : String
  /-- How long a run may take, in seconds. -/
  timeout : Option Binary64
  overlapPolicy : OverlapPolicy
  emoji : Bool
  color : Bool
deriving Repr, DecidableEq, Inhabited

namespace Config

/-- The configuration without a file. -/
def standard : Config where
  compiler := "elm"
  makeCommand := "elm-make"
  testCompiler := "elm-test"
  disableLinting := false
  nullDevice := "/dev/null"
  timeout := none
  overlapPolicy := .lastResolved
  emoji := true
  color := true

/-- The names of the fields in a document, in order. -/
def fieldNames : List String :=
  ["compiler", "make_command", "test_compiler", "disable_linting", "null_device", "timeout",
    "overlap_policy", "emoji", "color"]

/-- What a report calls the thing it could not read. -/
def subject : String := "Config"

/-- Reads a timeout: null for none, or a number that does not compare less than or equal to zero. -/
def readTimeout : Value → Except Mismatch (Option Binary64)
  | .null => .ok none
  | v =>
    match v.asFloat with
    | .error m => .error m
    | .ok x => if x.isNonpositive then .error .valueError else .ok (some x)

/-- The issues for entries that are no fields. -/
def strangers (es : List (Text × Value)) : List Issue :=
  (es.filter fun e => !fieldNames.contains e.1.shown || e.1.toString?.isNone).map fun e =>
    ⟨[e.1.shown], .extraForbidden⟩

/-- Reads the fields of a table; the issues for other entries come last. -/
def ofEntries (es : List (Text × Value)) : Checked Config :=
  (Config.mk <$> Value.scalarField es "compiler" (some standard.compiler) Value.asString
    <*> Value.scalarField es "make_command" (some standard.makeCommand) Value.asString
    <*> Value.scalarField es "test_compiler" (some standard.testCompiler) Value.asString
    <*> Value.scalarField es "disable_linting" (some standard.disableLinting) Value.asBool
    <*> Value.scalarField es "null_device" (some standard.nullDevice) Value.asString
    <*> Value.scalarField es "timeout" (some standard.timeout) readTimeout
    <*> Value.scalarField es "overlap_policy" (some standard.overlapPolicy) OverlapPolicy.ofValue
    <*> Value.scalarField es "emoji" (some standard.emoji) Value.asBool
    <*> Value.scalarField es "color" (some standard.color) Value.asBool).alsoWith (strangers es)

/-- Reads a value that should be the table of a configuration. -/
def ofValue (v : Value) : Checked Config :=
  match v.asTable with
  | .error m => .ofExcept (.error m)
  | .ok es => ofEntries es

/-- Reads a configuration or refuses with all issues. -/
def read (v : Value) : Except Refusal Config :=
  (ofValue v).toExcept subject

/-- Writes one field after checking the value. -/
def assignChecked (c : Config) (name : String) (v : Value) : Except Mismatch Config :=
  match name with
  | "compiler" => v.asString.map fun s => { c with compiler := s }
  | "make_command" => v.asString.map fun s => { c with makeCommand := s }
  | "test_compiler" => v.asString.map fun s => { c with testCompiler := s }
  | "disable_linting" => v.asBool.map fun b => { c with disableLinting := b }
  | "null_device" => v.asString.map fun s => { c with nullDevice := s }
  | "timeout" => (readTimeout v).map fun t => { c with timeout := t }
  | "overlap_policy" => (OverlapPolicy.ofValue v).map fun p => { c with overlapPolicy := p }
  | "emoji" => v.asBool.map fun b => { c with emoji := b }
  | "color" => v.asBool.map fun b => { c with color := b }
  | _ => .error .noSuchAttribute

/-- Writes one field, or refuses. -/
def assign (c : Config) (name : String) (v : Value) : Except Refusal Config :=
  (c.assignChecked name v).mapError fun m => ⟨subject, [⟨[name], m⟩]⟩

end Config

end ElmOnSave
