import ElmOnSave.Config.Basic
import ElmOnSave.Generation
import ElmOnSave.Path

/-!
# Commands

The command that compiles a file: a program, its arguments and the directory to run in.  A command
can be passed to the operating system word by word, or to a shell as one line, for which the file
and a program with blanks in its name are quoted.
-/

namespace ElmOnSave

/-- A program to run with its arguments. -/
structure Command where
  program : String
  args : List String
  cwd : Path
  /-- Whether a shell runs the command line. -/
  shell : Bool
deriving Repr, DecidableEq, Inhabited

/-- A text between double quotes. -/
def inQuotes (s : String) : String :=
  "\"" ++ s ++ "\""

namespace Command

/-- The words of the command. -/
def words (c : Command) : List String :=
  c.program :: c.args

/-- The command as one line. -/
def line (c : Command) : String :=
  let program := if c.program.toList.contains ' ' then inQuotes c.program else c.program
  String.intercalate " " (program :: c.args)

end Command

namespace Generation

/-- The program that compiles a file. -/
def program (g : Generation) (config : Config) (isTest : Bool) : String :=
  match g with
  | issueArrays => config.makeCommand
  | reportDocuments => if isTest then config.testCompiler else config.compiler

/-- The arguments that ask for a report. -/
def reportFlags : List String := ["--report", "json"]

/-- The arguments that compile a file. -/
def arguments (g : Generation) (file : String) (config : Config) : List String :=
  let tail := file :: (reportFlags ++ ["--output", config.nullDevice])
  match g with
  | issueArrays => tail
  | reportDocuments => "make" :: tail

/-- The command that compiles a file in a directory. -/
def command (g : Generation) (file : String) (cwd : Path) (isTest : Bool) (config : Config)
    (shell : Bool) : Command :=
  ⟨g.program config isTest, g.arguments (if shell then inQuotes file else file) config, cwd, shell⟩

end Generation

end ElmOnSave
