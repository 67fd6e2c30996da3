import ElmOnSave.Text.Basic
import ElmOnSave.Text.Line

/-!
# What can be wrong with a TOML text

A TOML text is refused for a reason at a place, which is a line and column or the end of the
document.  As with JSON, an integer with too many digits and values nested too deeply have no
place.
-/

namespace ElmOnSave.Toml

/-- The parts of a dotted key. -/
abbrev Key := List String

/-- A key as messages show it: its parts in quotes between parentheses. -/
def keyText (k : Key) : List Char :=
  let parts := k.map fun p => Text.quoted (.whole p)
  match parts with
  | [p] => '(' :: (p ++ [',', ')'])
  | ps => '(' :: (Text.joinWith [',', ' '] ps ++ [')'])

/-- What is wrong at a place of a TOML text. -/
inductive Complaint where
  | invalidStatement
  | expectedLineEnd
  | declaredTwice (key : Key)
  | immutable (key : Key)
  | redefined (key : Key)
  | overwritten
  | expectedTableEnd
  | expectedArrayEnd
  | expectedEquals
  | invalidKeyStart
  | unclosedArray
  | unclosedInlineTable
  | duplicateInlineKey (name : String)
  | strayBackslash
  | invalidHex
  | notScalarValue
  | unterminatedString
  /-- The closing mark of a literal string is missing. -/
  | expectedMark (mark : String)
  | illegalCharacter (c : Char)
  | foundInvalid (c : Char)
  | invalidMoment
  | invalidValue
deriving Repr, DecidableEq, Inhabited

/-- One character in quotes. -/
def quotedChar (c : Char) : String :=
  String.ofList (Text.quoted (.ofPoints [c.toNat]))

/-- The wording of a complaint. -/
def Complaint.message : Complaint → String
  | invalidStatement => "Invalid statement"
  | expectedLineEnd => "Expected newline or end of document after a statement"
  | declaredTwice k => "Cannot declare " ++ String.ofList (keyText k) ++ " twice"
  | immutable k => "Cannot mutate immutable namespace " ++ String.ofList (keyText k)
  | redefined k => "Cannot redefine namespace " ++ String.ofList (keyText k)
  | overwritten => "Cannot overwrite a value"
  | expectedTableEnd => "Expected ']' at the end of a table declaration"
  | expectedArrayEnd => "Expected ']]' at the end of an array declaration"
  | expectedEquals => "Expected '=' after a key in a key/value pair"
  | invalidKeyStart => "Invalid initial character for a key part"
  | unclosedArray => "Unclosed array"
  | unclosedInlineTable => "Unclosed inline table"
  | duplicateInlineKey n => "Duplicate inline table key " ++ String.ofList (Text.quoted (.whole n))
  | strayBackslash => "Unescaped '\\' in a string"
  | invalidHex => "Invalid hex value"
  | notScalarValue => "Escaped character is not a Unicode scalar value"
  | unterminatedString => "Unterminated string"
  | expectedMark m => "Expected " ++ String.ofList (Text.quoted (.whole m))
  | illegalCharacter c => "Illegal character " ++ quotedChar c
  | foundInvalid c => "Found invalid character " ++ quotedChar c
  | invalidMoment => "Invalid date or datetime"
  | invalidValue => "Invalid value"

/-- Why a TOML text is refused. -/
inductive Fault where
  /-- The text is malformed at a place, or at its end. -/
  | malformed (complaint : Complaint) (place : Option Text.Place)
  | integerTooLong (digits : Nat)
  | nestedTooDeep
deriving Repr, DecidableEq, Inhabited

/-- The wording of a malformed text. -/
def malformedMessage (c : Complaint) (place : Option Text.Place) : String :=
  match place with
  | some p =>
    c.message ++ " (at line " ++ toString p.line ++ ", column " ++ toString p.column ++ ")"
  | none => c.message ++ " (at end of document)"

end ElmOnSave.Toml
