import ElmOnSave.Decimal.Limit
import ElmOnSave.Text.Line

/-!
# What can be wrong with a JSON text

A JSON text is refused for a reason that has a place in it.  Two refusals concern size and have no
place: an integer with more digits than are read, and lists or objects nested deeper than is read.
-/

namespace ElmOnSave.Json

/-- What was expected or found at a place of a JSON text. -/
inductive Complaint where
  | byteOrderMark
  | expectingValue
  | expectingName
  | expectingColon
  | expectingComma
  | extraData
  | unterminatedString
  | controlCharacter
  | invalidEscape
  | invalidUnicodeEscape
deriving Repr, DecidableEq, Inhabited

/-- The wording of a complaint. -/
def Complaint.message : Complaint → String
  | .byteOrderMark => "Unexpected UTF-8 BOM (decode using utf-8-sig)"
  | .expectingValue => "Expecting value"
  | .expectingName => "Expecting property name enclosed in double quotes"
  | .expectingColon => "Expecting ':' delimiter"
  | .expectingComma => "Expecting ',' delimiter"
  | .extraData => "Extra data"
  | .unterminatedString => "Unterminated string starting at"
  | .controlCharacter => "Invalid control character at"
  | .invalidEscape => "Invalid \\escape"
  | .invalidUnicodeEscape => "Invalid \\uXXXX escape"

/-- Why a JSON text is refused. -/
inductive Fault where
  /-- The text is malformed at an offset, which stands at a line and column. -/
  | malformed (complaint : Complaint) (place : Text.Place) (offset : Nat)
  /-- An integer has more digits than are read. -/
  | integerTooLong (digits : Nat)
  /-- Lists and objects are nested too deeply. -/
  | nestedTooDeep
deriving Repr, DecidableEq, Inhabited

/-- The wording of a fault; excessive nesting has none. -/
def Fault.message : Fault → String
  | .malformed c p o =>
    c.message ++ ": line " ++ toString p.line ++ " column " ++ toString p.column ++
      " (char " ++ toString o ++ ")"
  | .integerTooLong n => Decimal.limitMessage n
  | .nestedTooDeep => ""

end ElmOnSave.Json
