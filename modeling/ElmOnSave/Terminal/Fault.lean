import ElmOnSave.Literal.Fault
import ElmOnSave.Terminal.Color

/-!
# What can be wrong with markup

A tag that closes what was never opened makes markup unreadable, and so do a handler whose
parameters are no literal and a colour whose parts are no numbers.  The numbers that stand beside
markup in a table may have too many digits to be written.
-/

namespace ElmOnSave.Terminal

/-- Why markup cannot be read. -/
inductive MarkupFault where
  /-- A closing tag names a style that is not open. -/
  | unmatchedClose (tag : String) (position : Nat)
  /-- A closing tag without a name stands where nothing is open. -/
  | nothingToClose (position : Nat)
  /-- The literal in the parameters of a handler cannot be read. -/
  | unreadableParameters (literal parameters : String) (cause : Literal.Complaint)
  /-- The literal in the parameters of a handler has no value. -/
  | worthlessParameters (parameters : String) (cause : Literal.ValueFault)
  | color (cause : ColorFault)
  /-- A number beside the markup has more digits than are written. -/
  | longNumber
deriving Repr, DecidableEq, Inhabited

/-- A text between quotes. -/
def quotedText (s : String) : String :=
  String.ofList (Text.quoted (.whole s))

/-- The wording of a fault. -/
def MarkupFault.message : MarkupFault → String
  | unmatchedClose tag p =>
    "closing tag '[/" ++ tag ++ "]' at position " ++ toString p ++ " doesn't match any open tag"
  | nothingToClose p => "closing tag '[/]' at position " ++ toString p ++ " has nothing to close"
  | unreadableParameters l ps c =>
    "error parsing " ++ quotedText l ++ " in " ++ quotedText ps ++ "; " ++ c.message
  | worthlessParameters ps c => "error parsing " ++ quotedText ps ++ "; " ++ c.message
  | color c => c.message
  | longNumber => Decimal.writingMessage

end ElmOnSave.Terminal
