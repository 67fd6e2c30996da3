import ElmOnSave.Terminal.Markup
import ElmOnSave.Terminal.Table

/-!
# Consoles

Where printed text goes: how wide it is, whether it understands codes and whether emoji codes in
markup are replaced.
-/

namespace ElmOnSave.Terminal

/-- The terminal that output is laid out for. -/
structure Console where
  width : Nat := 200
  /-- Whether styles are printed. -/
  coded : Bool := false
  /-- Whether emoji codes are replaced. -/
  emoji : Bool := true
deriving Repr, DecidableEq, Inhabited

namespace Console

/-- The styled text of markup. -/
def read (c : Console) (markup : String) : Except MarkupFault StyledText :=
  StyledText.ofMarkup c.emoji markup

/-- Segments as text that ends with a line feed. -/
def line (c : Console) (segments : List Segment) : List Char :=
  printed c.coded segments ++ ['\n']

/-- A text printed line by line, however wide it is. -/
def print (c : Console) (t : StyledText) : Except ColorFault (List Char) := do
  let lines ← t.freeLines.mapM StyledText.segments
  return lines.flatMap c.line

/-- A table with its title. -/
def printTable (c : Console) (title : Option StyledText) (t : Table) :
    Except ColorFault (List Char) := do
  let heading ← match title with
    | some title => c.print title
    | none => pure []
  let lines ← t.lines c.width
  return heading ++ lines.flatMap c.line

end Console

end ElmOnSave.Terminal
