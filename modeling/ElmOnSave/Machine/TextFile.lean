import ElmOnSave.Fault
import ElmOnSave.Machine
import ElmOnSave.Text.Line

/-!
# Text files

A file is read as text when its octets are UTF-8; its line ends are then all LF.
-/

namespace ElmOnSave

/-- Why a file is no text. -/
inductive ReadFault where
  | system (cause : SystemFault)
  | nullByte
  | undecodable (cause : Utf8.Fault)
deriving Repr, DecidableEq, Inhabited

/-- The cause that an unreadable file is, when a refusal by the operating system is wrapped in a
cause of its own. -/
def ReadFault.fault (wrap : SystemFault → Fault) : ReadFault → Fault
  | system f => wrap f
  | nullByte => .nullByte
  | undecodable f => .undecodable f

namespace Machine

/-- The octets of a file, a refusal naming the path. -/
def readOctets (m : Machine) (path : String) : Except ReadFault Octets :=
  match m.readFile path with
  | .ok bytes => .ok bytes
  | .error (.system e) => .error (.system ⟨e, path⟩)
  | .error .nullByte => .error .nullByte

/-- The characters of a file as they are stored. -/
def readCharacters (m : Machine) (path : String) : Except ReadFault (List Char) :=
  match m.readOctets path with
  | .error e => .error e
  | .ok bytes => (Utf8.decodeStrict bytes).mapError .undecodable

/-- The text of a file, with LF at the end of every line. -/
def readText (m : Machine) (path : String) : Except ReadFault (List Char) :=
  (m.readCharacters path).map Text.universalNewlines

end Machine

end ElmOnSave
