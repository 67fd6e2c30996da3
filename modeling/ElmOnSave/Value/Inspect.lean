import ElmOnSave.Decimal.Shortest
import ElmOnSave.Value

/-!
# Values inside a message

A compiler message may hold values that are no text.  Such a value is shown by a compact notation:
`None`, `True` and `False` for the constants, brackets for lists, braces for tables and quotes for
the texts inside them.
-/

namespace ElmOnSave.Value

/-- A decimal integer with its sign. -/
def intText (i : Int) : List Char :=
  if i < 0 then '-' :: Text.natDigits i.natAbs else Text.natDigits i.natAbs

mutual

/-- The notation of a value; a text is quoted. -/
def inspect : Value → List Char
  | null => "None".toList
  | bool true => "True".toList
  | bool false => "False".toList
  | int i => intText i
  | float x => x.text
  | text t => t.quoted
  | moment s => s.toList
  | list items => '[' :: (inspectItems items ++ [']'])
  | table entries => '\x7b' :: (inspectEntries entries ++ ['\x7d'])

/-- The items of a list with a comma and a space between them. -/
def inspectItems : List Value → List Char
  | [] => []
  | [v] => inspect v
  | v :: vs => inspect v ++ ',' :: ' ' :: inspectItems vs

/-- The keys and values of a table with a comma and a space between them. -/
def inspectEntries : List (Text × Value) → List Char
  | [] => []
  | [(k, v)] => k.quoted ++ ':' :: ' ' :: inspect v
  | (k, v) :: es => k.quoted ++ ':' :: ' ' :: (inspect v ++ ',' :: ' ' :: inspectEntries es)

end

/-- The text of a value in a message: a text stands for itself, other values are shown in their
notation. -/
def plain : Value → List Char
  | text t => t.shown.toList
  | v => inspect v

end ElmOnSave.Value
