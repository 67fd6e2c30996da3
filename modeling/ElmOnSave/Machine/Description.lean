import ElmOnSave.Machine
import ElmOnSave.Value

/-!
# Described machines

A machine can be written down as a document: its working directory (`cwd`), its environment
variables (`environment`), the home directories of its accounts (`accounts`) and its files (`files`)
by path.  A file is a text, or a table with the keys `directory`, `text`, `executable` and, for a
program, `stdout`, `stderr`, `sleep` and `exit`, which say what the program does.
-/

namespace ElmOnSave.Machine

/-- The octets of a text. -/
def describedOctets : Value → Octets
  | .text t => Utf8.encode t.shown.toList
  | _ => []

/-- The text of a value, none counting as empty. -/
def describedText : Value → String
  | .text t => t.shown
  | _ => ""

/-- Whether a value is the constant true. -/
def isTrue : Value → Bool
  | .bool b => b
  | _ => false

/-- The keys of a table with the texts they have. -/
def describedTexts : Value → List (String × String)
  | .table es => es.map fun e => (e.1.shown, describedText e.2)
  | _ => []

/-- A number of seconds. -/
def describedSeconds : Value → Option Binary64
  | .int i => some (.ofInt i)
  | .float x => some x
  | _ => none

/-- The exit status of a program. -/
def describedExit : Value → Nat
  | .int i => i.toNat
  | _ => 0

/-- What a described program does. -/
def describedProgram (v : Value) : Performance :=
  ⟨describedOctets (v.getD "stdout"), describedOctets (v.getD "stderr"),
    describedSeconds (v.getD "sleep"), describedExit (v.getD "exit")⟩

/-- A described file or directory. -/
def describedNode (v : Value) : Node :=
  if isTrue (v.getD "directory") then .directory
  else if isTrue (v.getD "executable") then
    .file (describedOctets (v.getD "text")) 0o755 (some (.fixed (describedProgram v)))
  else
    match v with
    | .text _ => .file (describedOctets v) 0o644 none
    | _ => .file (describedOctets (v.getD "text")) 0o644 none

/-- The directories above a path. -/
def directoriesAbove (names : List String) : List (List String × Node) :=
  (List.range names.length).map fun n => (names.take n, .directory)

/-- The files of a description and the directories that lead to them. -/
def describedTree (files : Value) : FileTree :=
  match files with
  | .table es =>
    let nodes := es.map fun e => ((Path.ofString e.1.shown).names, describedNode e.2)
    ⟨nodes ++ nodes.flatMap fun n => directoriesAbove n.1⟩
  | _ => ⟨[]⟩

/-- The machine that a document describes. -/
def ofDescription (v : Value) : Machine :=
  ⟨describedTree (v.getD "files"), describedText (v.getD "cwd"),
    describedTexts (v.getD "environment"), describedTexts (v.getD "accounts")⟩

end ElmOnSave.Machine
