import ElmOnSave.Value.Inspect

/-!
# Messages of a report

A compiler message is a sequence of plain texts and styled fragments.  A fragment is marked by `#`
on both sides, so that emphasis stays visible without styles.
-/

namespace ElmOnSave.CompilerOutput

/-- One part of a message: a text as it is, a fragment between marks, anything else in its
notation. -/
def partText : Value → List Char
  | .text t => t.shown.toList
  | .table entries =>
    '#' :: (((Entries.get? entries (.whole "string")).getD (.text (.whole ""))).plain ++ ['#'])
  | v => v.inspect

/-- The text of a message: its parts in order.  A message that is no sequence stands for itself, and
null for the empty text. -/
def messageText : Value → List Char
  | .text t => t.shown.toList
  | .list parts => parts.flatMap partText
  | .null => []
  | v => v.inspect

end ElmOnSave.CompilerOutput
