import ElmOnSave.Config.Basic
import ElmOnSave.Config.Expansion
import ElmOnSave.Machine.TextFile
import ElmOnSave.Toml.Reader

/-!
# Loading a configuration

The configuration of a project is the file `elmcheck.toml` in its root, or a file named explicitly.
A file may hold the configuration as a whole or in the table `tool.elmcheck`; a `pyproject.toml`
holds it in that table or not at all.
-/

namespace ElmOnSave.Config

/-- The name of a configuration file. -/
def fileName : String := "elmcheck.toml"

/-- The name of a file that is a configuration only in part. -/
def sharedFileName : String := "pyproject.toml"

/-- The table of a document that holds the configuration. -/
def sectionOf (path : Path) (document : List (Text × Value)) :
    Except ConfigFault (List (Text × Value)) :=
  match (Value.getD (.table document) "tool").get? "elmcheck" with
  | some (.table entries) => .ok entries
  | some _ => .error .sectionNotTable
  | none => .ok (if path.name = sharedFileName then [] else document)

/-- The cause that an unreadable TOML text is. -/
def tomlFault (path : String) : Toml.Fault → Fault
  | .malformed c p => .config path (.malformed c p)
  | .integerTooLong n => .integerTooLong n
  | .nestedTooDeep => .nestedTooDeep

/-- The table that holds the configuration in a file. -/
def readTable [Platform] (m : Machine) (path : Path) : Except Fault (List (Text × Value)) := do
  let p := path.text
  let cs ← (m.readCharacters p).mapError (ReadFault.fault fun f => .config p (.unreadable f))
  let document ← (Toml.read cs).mapError (tomlFault p)
  (sectionOf path document).mapError (.config p)

/-- Loads the configuration of a project, from its own file or one named explicitly.  Without a file
of its own a project has the standard configuration. -/
def load [Platform] (m : Machine) (environment : List (String × String)) (root : Path)
    (path : Option Path) :
    Except Fault Config := do
  let candidate := path.getD (root.child fileName)
  let found ← (m.isFile candidate).mapError .system
  if !found then
    if path.isNone then return standard else throw (.config candidate.text .absent)
  let entries ← readTable m candidate
  let expanded ← tryExpand m environment (.table entries)
  (read expanded).mapError fun r => .config candidate.text (.invalid r)

end ElmOnSave.Config
