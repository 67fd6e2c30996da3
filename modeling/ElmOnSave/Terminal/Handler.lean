import ElmOnSave.Literal.Reader
import ElmOnSave.Terminal.Fault
import ElmOnSave.Text.Blank
import ElmOnSave.Text.Word

/-!
# Handlers

A tag that starts with the sign for "at" names an event and, as its parameters, what handles it: a
literal, or a name that may be followed by a literal in parentheses.  Handlers do not show, but
their parameters must be literals.
-/

namespace ElmOnSave.Terminal

/-- Whether a text stands in parentheses and on one line. -/
def isParenthesized (cs : List Char) : Bool :=
  cs.head? == some '(' && cs.getLast? == some ')' && !cs.contains '\n'

/-- The literal in the parameters of a handler: what follows its name, or all of them if they are
not a name with at most one pair of parentheses behind it. -/
def handlerLiteral (parameters : List Char) : List Char :=
  let ps := Text.trim parameters
  let rest := ps.dropWhile fun c => Text.isWord c || c == '.'
  if rest.isEmpty then "()".toList else if isParenthesized rest then rest else ps

/-- Checks the parameters of a handler; there may be none. -/
def checkHandler (parameters : List Char) : Except MarkupFault Unit :=
  if parameters.isEmpty then .ok ()
  else
    let literal := handlerLiteral parameters
    match Literal.Expr.read literal with
    | .error c =>
      .error (.unreadableParameters (String.ofList literal) (String.ofList parameters) c)
    | .ok e =>
      match e.kindOf with
      | .error f => .error (.worthlessParameters (String.ofList parameters) f)
      | .ok _ => .ok ()

end ElmOnSave.Terminal
