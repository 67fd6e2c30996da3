import ElmOnSave.Command
import ElmOnSave.Fault
import ElmOnSave.Machine

/-!
# Finding the program of a command

A program given by an absolute path must exist.  One given with a directory part is looked up below
the directory of the command, and a bare name in the directories of the search path, where it must
be executable.
-/

namespace ElmOnSave

namespace Machine

/-- Whether a path leads to a file that can be executed. -/
def canExecute (m : Machine) (path : String) : Bool :=
  match m.stat path with
  | .ok n => n.isExecutable && !n.isDirectory
  | .error _ => false

/-- The directories of the search path; an empty search path has none. -/
def searchPath (m : Machine) : List String :=
  match m.valueOf? "PATH" with
  | none => ["/bin", "/usr/bin"]
  | some "" => []
  | some p => (Text.splitAll (· == ':') p.toList).map String.ofList

/-- The executable file that a name stands for.  A name with a slash stands for itself. -/
def which? (m : Machine) (name : String) : Option String :=
  if name.toList.contains '/' then if m.canExecute name then some name else none
  else (m.searchPath.map fun d => Path.joinText d name).find? m.canExecute

end Machine

namespace Command

/-- Why there is no home directory in front of the program of a command. -/
def homeFault (c : Command) : Fault :=
  .ofHome (Machine.namesNullAccount (Path.ofString c.program).text)

/-- Where the program of a command is, if it can be found. -/
def locate (m : Machine) (c : Command) : Except Fault (Option String) := do
  let some p := m.expandHome? (Path.ofString c.program) | throw c.homeFault
  if p.isAbsolute then
    let found ← (m.pathExists p).mapError Fault.system
    return if found then some p.text else none
  else if 1 < p.names.length then return m.which? (c.cwd.join p).text
  else return m.which? c.program

/-- The command with its program located. -/
def resolve (m : Machine) (c : Command) : Except Fault Command := do
  match ← c.locate m with
  | some program => return { c with program }
  | none => throw (.programAbsent c.program)

end Command

end ElmOnSave
