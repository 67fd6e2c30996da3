import ElmOnSave.Literal.Grammar
import ElmOnSave.Literal.Strings

/-!
# Reading literals

A text is read once by the grammar.  If it is no expression, it is read again, this time with the
mistakes that the grammar knows; and if no mistake is found either, the tokens that nobody asked for
are looked at, because a malformed token says more than an expression that cannot go on.
-/

namespace ElmOnSave.Literal

/-- The greatest number of nested steps that reading some tokens takes. -/
def readingDepth (s : Source) : Nat := 200 * (s.scan.tokens.size + 2)

/-- Reads a rule from the first token on. -/
def readRule (s : Source) (strict : Bool) (r : Rule) (reach : Nat) :
    Except Complaint Outcome × Nat :=
  let (o, reading) := (Peg.run grammar s (readingDepth s) strict (.rule r) 0).run.run { reach }
  (o, reading.reach)

/-- What the end of the tokens says if they are not understood, given how many of them were looked
at: a malformed token counts most, and a bracket that was opened on an earlier line. -/
def endFault? (s : Source) (reach : Nat) : Option Complaint :=
  match s.scan.ending with
  | .finished => none
  | .malformed c => some (.token c)
  | .stuck _ none => none
  | .stuck _ (some (bracket, line)) =>
    match s.scan.tokens[reach - 1]? with
    | some t => if line < t.line then some (.token (.unclosedBracket bracket)) else none
    | none => none

/-- What is wrong with a text after all: the complaint, unless the tokens behind it are at fault and
the end of the text was not seen yet. -/
def finalComplaint (s : Source) (reach : Nat) (c : Complaint) : Complaint :=
  match c with
  | .token _ => c
  | _ =>
    if ((s.scan.tokens[reach - 1]?).map (·.seesEnd)).getD true then c
    else (endFault? s reach).getD c

/-- What is wrong with a text that nothing is known about but the last token looked at. -/
def plainComplaint (s : Source) (reach last : Nat) : Complaint :=
  match (s.scan.tokens[last - 1]?).map Token.kind with
  | some .indent => .grammar .indented
  | some .dedent => .grammar .unindented
  | _ => (endFault? s reach).getD (.grammar .invalid)

/-- Reads the expression that tokens spell by a rule. -/
def readSource (s : Source) (r : Rule) : Except Complaint Expr :=
  match readRule s false r 0 with
  | (.error c, reach) => .error (finalComplaint s reach c)
  | (.ok (.matched es _), _) => .ok (es.headD .nothing)
  | (.ok _, last) =>
    match readRule s true r last with
    | (.error c, reach) => .error (finalComplaint s reach c)
    | (.ok _, reach) => .error (plainComplaint s reach last)

/-- The complaint about the field of a formatted string; a malformed token says enough. -/
def Complaint.inField : Complaint → Complaint
  | .token c => .token c
  | c => .field c

/-- What strings spell, given how deeply the expressions in them may be nested. -/
def stringsExpr : Nat → List Token → Except Complaint Expr
  | 0, _ => .ok (.other .formatted)
  | depth + 1, ts =>
    let read := fun cs =>
      (readSource ⟨Token.scan cs, stringsExpr depth⟩ .field).mapError Complaint.inField
    joinStrings read ts none false

/-- The expression that a text spells. -/
def Expr.read (cs : List Char) : Except Complaint Expr :=
  if cs.contains (Char.ofNat 0) then .error (.token .nullCharacter)
  else readSource ⟨Token.scan cs, stringsExpr cs.length⟩ .whole

end ElmOnSave.Literal
