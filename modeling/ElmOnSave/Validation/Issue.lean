/-!
# Issues found while checking a document

Checking a table against its expected fields does not stop at the first field that is wrong: every
issue is collected, in the order of the fields.  `Checked` is the answer of a check, and combining
two answers joins their issues.
-/

namespace ElmOnSave

/-- What is wrong with a value. -/
inductive Mismatch where
  | missing
  | stringType
  | stringUnicode
  | intType
  | intParsing
  | intParsingSize
  | intFromFloat
  | finiteNumber
  | floatType
  | floatParsing
  | boolType
  | boolParsing
  | enum
  | modelType
  | extraForbidden
  | valueError
  | noSuchAttribute
deriving Repr, DecidableEq, Inhabited

/-- The name of a mismatch. -/
def Mismatch.name : Mismatch → String
  | missing => "missing"
  | stringType => "string_type"
  | stringUnicode => "string_unicode"
  | intType => "int_type"
  | intParsing => "int_parsing"
  | intParsingSize => "int_parsing_size"
  | intFromFloat => "int_from_float"
  | finiteNumber => "finite_number"
  | floatType => "float_type"
  | floatParsing => "float_parsing"
  | boolType => "bool_type"
  | boolParsing => "bool_parsing"
  | enum => "enum"
  | modelType => "model_type"
  | extraForbidden => "extra_forbidden"
  | valueError => "value_error"
  | noSuchAttribute => "no_such_attribute"

/-- A mismatch and the names of the fields that lead to it. -/
structure Issue where
  path : List String
  mismatch : Mismatch
deriving Repr, DecidableEq, Inhabited

/-- The answer of a check: the value read, or all issues in the order of the fields. -/
inductive Checked (α : Type) where
  | valid (a : α)
  | invalid (issues : List Issue)
deriving Repr, Inhabited

namespace Checked

/-- Applies a function to the value read. -/
def map {α β : Type} (f : α → β) : Checked α → Checked β
  | valid a => valid (f a)
  | invalid is => invalid is

/-- Combines two answers; the issues of the first come before those of the second. -/
def combine {α β : Type} : Checked (α → β) → Checked α → Checked β
  | valid f, valid a => valid (f a)
  | valid _, invalid is => invalid is
  | invalid is, valid _ => invalid is
  | invalid is, invalid js => invalid (is ++ js)

instance : Applicative Checked where
  pure := valid
  seq f x := combine f (x ())

/-- The issues found. -/
def issues {α : Type} : Checked α → List Issue
  | valid _ => []
  | invalid is => is

/-- The issues as seen from the field that holds the value. -/
def within {α : Type} (field : String) : Checked α → Checked α
  | valid a => valid a
  | invalid is => invalid (is.map fun i => { i with path := field :: i.path })

/-- The answer to a single value: one issue at the value itself. -/
def ofExcept {α : Type} : Except Mismatch α → Checked α
  | .ok a => valid a
  | .error m => invalid [⟨[], m⟩]

/-- Adds issues found elsewhere, after those of the answer. -/
def alsoWith {α : Type} (x : Checked α) (extra : List Issue) : Checked α :=
  match x, extra with
  | valid a, [] => valid a
  | valid _, is => invalid is
  | invalid is, js => invalid (is ++ js)

end Checked

/-- A document that does not have the expected fields. -/
structure Refusal where
  /-- The name of what was expected. -/
  subject : String
  issues : List Issue
deriving Repr, DecidableEq, Inhabited

/-- The first line of the report on a refusal: how many issues there are and with what. -/
def Refusal.message (r : Refusal) : String :=
  toString r.issues.length ++ " validation error" ++ (if r.issues.length = 1 then "" else "s") ++
    " for " ++ r.subject

/-- The value read, or a refusal of the subject. -/
def Checked.toExcept {α : Type} (subject : String) : Checked α → Except Refusal α
  | .valid a => .ok a
  | .invalid is => .error ⟨subject, is⟩

end ElmOnSave
