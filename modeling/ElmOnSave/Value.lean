import ElmOnSave.Decimal.Binary64
import ElmOnSave.Register
import ElmOnSave.Text.Basic

/-!
# Values of a document

Compiler reports and analyzer reports are JSON, the configuration is TOML, and both are read into
one type of values.  A table keeps its keys in the order in which they first came.
-/

namespace ElmOnSave

/-- What a JSON or TOML document holds. -/
inductive Value where
  | null
  | bool (b : Bool)
  | int (i : Int)
  | float (x : Binary64)
  | text (t : Text)
  /-- A date, a time or both, as the document spells it. -/
  | moment (spelling : String)
  | list (items : List Value)
  | table (entries : List (Text × Value))
deriving Repr, Inhabited

namespace Value

/-- The value of a key of a table; anything but a table has no keys. -/
def get? (v : Value) (key : String) : Option Value :=
  match v with
  | table es => Entries.get? es (.whole key)
  | _ => none

/-- The value of a key, a missing key counting as null. -/
def getD (v : Value) (key : String) : Value :=
  (v.get? key).getD null

/-- A text of characters as a value. -/
def ofString (s : String) : Value :=
  text (.whole s)

end Value

end ElmOnSave
