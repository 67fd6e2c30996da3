import ElmOnSave.Decimal.Binary64
import ElmOnSave.Literal.Fault

/-!
# Expressions

What the tokens of a literal spell.  More expressions are understood than have a value, because what
is wrong with a text can only be said once it is known what was meant; of those without a value only
their kind is kept.  `Expr.kindOf` says what values there are and why an expression has none.
-/

namespace ElmOnSave.Literal

/-- The expressions without a value of which only the kind matters. -/
inductive ExprForm where
  | member
  | lambda
  | operation
  | generator
  | yielding
  | awaiting
  | setComprehension
  | tableComprehension
  | formatted
  | conditional
  | naming
deriving Repr, DecidableEq, Inhabited

/-- An expression. -/
inductive Expr where
  | name (id : String)
  | nothing
  | truth (b : Bool)
  | dots
  | integer (n : Nat)
  | real
  | imaginary
  | text
  | octets
  | tuple (items : List Expr)
  | set (items : List Expr)
  | table (entries : List Expr)
  /-- An entry of a table. -/
  | entry (key value : Expr)
  /-- An entry that spreads another table. -/
  | spread (table : Expr)
  | call (function : Expr) (arguments : List Expr)
  /-- An argument by name. -/
  | keyword (value : Expr)
  /-- An argument that spreads a table of arguments. -/
  | keywords (table : Expr)
  | starred (e : Expr)
  | plus (e : Expr)
  | minus (e : Expr)
  | sum (left right : Expr)
  | difference (left right : Expr)
  /-- A comparison; the flag tells whether it first asks for membership. -/
  | comparison (left : Expr) (membership : Bool)
  | other (form : ExprForm)
deriving Repr, Inhabited

/-- The word for a form of expression. -/
def ExprForm.word : ExprForm → String
  | member => "attribute"
  | lambda => "lambda"
  | operation => "expression"
  | generator => "generator expression"
  | yielding => "yield expression"
  | awaiting => "await expression"
  | setComprehension => "set comprehension"
  | tableComprehension => "dict comprehension"
  | formatted => "f-string expression"
  | conditional => "conditional expression"
  | naming => "named expression"

namespace Expr

/-- The word for what an expression is. -/
def word : Expr → String
  | name _ => "name"
  | nothing => "None"
  | truth true => "True"
  | truth false => "False"
  | dots => "ellipsis"
  | integer _ | real | imaginary | text | octets => "literal"
  | tuple _ => "tuple"
  | set _ => "set display"
  | table _ | entry .. | spread _ => "dict literal"
  | call .. | keyword _ | keywords _ => "function call"
  | starred _ => "starred"
  | plus _ | minus _ | sum .. | difference .. => "expression"
  | comparison .. => "comparison"
  | other f => f.word

mutual

/-- The part of an expression that keeps it from being the target of a loop. -/
def badTarget? : Expr → Option Expr
  | tuple items => badTargetAmong? items
  | starred e => badTarget? e
  | comparison left membership => if membership then badTarget? left else none
  | name _ => none
  | other .member => none
  | e => some e

/-- The first part that keeps some of the expressions from being targets. -/
def badTargetAmong? : List Expr → Option Expr
  | [] => none
  | e :: es => (badTarget? e) <|> badTargetAmong? es

end

/-! ## Values -/

/-- What matters of a value: whether it can be a key, and if not what it is. -/
inductive ValueKind where
  | hashable
  | unhashable (kind : String)
deriving Repr, DecidableEq, Inhabited

/-- The kind of a value that holds others. -/
def ValueKind.join : ValueKind → ValueKind → ValueKind
  | hashable, k => k
  | k, _ => k

/-- A value that is to be a key. -/
def ValueKind.asKey : ValueKind → Except ValueFault Unit
  | hashable => .ok ()
  | unhashable kind => .error (.unhashable kind)

/-- The fault of an expression that is more than a literal. -/
def notLiteral : ValueFault := .notLiteral (some 1)

/-- Whether an expression is a number. -/
def isNumber : Expr → Bool
  | integer _ | real | imaginary => true
  | _ => false

/-- Whether an expression is a number with or without a sign. -/
def isSigned : Expr → Bool
  | plus e | minus e | e => e.isNumber

/-- The integer that an expression with or without a sign spells. -/
def signedInteger? : Expr → Option Nat
  | integer n | plus (integer n) | minus (integer n) => some n
  | _ => none

/-- The sum or difference of a number and an imaginary one. -/
def complexKind (left right : Expr) : Except ValueFault ValueKind :=
  match right with
  | imaginary =>
    match left with
    | imaginary | plus imaginary | minus imaginary => .error notLiteral
    | _ =>
      if !left.isSigned then .error notLiteral
      else if (left.signedInteger?.map fun n => (Binary64.ofInt n).isFinite).getD true then
        .ok .hashable
      else .error .integerTooLarge
  | _ => .error notLiteral

mutual

/-- The kind of the value of an expression. -/
def kindOf : Expr → Except ValueFault ValueKind
  | nothing | truth _ | dots | integer _ | real | imaginary | text | octets => .ok .hashable
  | tuple items => kindOfAll items
  | set items => (checkKeys items).map fun _ => .unhashable "set"
  | table entries => (checkEntries entries).map fun _ => .unhashable "dict"
  | call (name "set") [] => .ok (.unhashable "set")
  | plus e | minus e => if e.isNumber then .ok .hashable else .error notLiteral
  | sum l r | difference l r => complexKind l r
  | _ => .error notLiteral

/-- The kind of a tuple of the given items. -/
def kindOfAll : List Expr → Except ValueFault ValueKind
  | [] => .ok .hashable
  | e :: es =>
    match kindOf e, kindOfAll es with
    | .error f, _ => .error f
    | .ok _, .error f => .error f
    | .ok k, .ok ks => .ok (k.join ks)

/-- Whether all items have values and can be elements, one after the other. -/
def checkKeys : List Expr → Except ValueFault Unit
  | [] => .ok ()
  | e :: es =>
    match kindOf e with
    | .error f => .error f
    | .ok k =>
      match k.asKey with
      | .error f => .error f
      | .ok () => checkKeys es

/-- Whether all entries have values and their keys can be keys, one entry after the other. -/
def checkEntries : List Expr → Except ValueFault Unit
  | [] => .ok ()
  | entry k v :: es =>
    match kindOf k, kindOf v with
    | .error f, _ => .error f
    | .ok _, .error f => .error f
    | .ok kind, .ok _ =>
      match kind.asKey with
      | .error f => .error f
      | .ok () => checkEntries es
  | _ :: _ => .error (.notLiteral none)

end

end Expr

end ElmOnSave.Literal
