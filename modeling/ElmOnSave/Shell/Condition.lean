import ElmOnSave.Shell.Arithmetic

/-!
# Conditions

A condition is a row of words: texts and numbers are compared, files are asked about, and the
answers are joined.  With few words their number decides what is an operator and what is compared.
-/

namespace ElmOnSave.Shell

/-- What a word may mean in a condition. -/
inductive Sign where
  | unary (letter : Char)
  | binary (text : String)
  | negation
  | both
  | either
  | opening
  | closing
deriving Repr, DecidableEq, Inhabited

/-- The comparisons. -/
def comparisons : List String :=
  ["=", "!=", "<", ">", "-eq", "-ne", "-gt", "-ge", "-lt", "-le", "-nt", "-ot", "-ef"]

/-- The meaning of a word in a condition. -/
def sign? (w : List Char) : Option Sign :=
  let text := String.ofList w
  if comparisons.contains text then some (.binary text)
  else
    match text with
    | "!" => some .negation
    | "-a" => some .both
    | "-o" => some .either
    | "(" => some .opening
    | ")" => some .closing
    | _ =>
      match w with
      | ['-', c] => if "rwxefdcbpugksztnhOGLS".toList.contains c then some (.unary c) else none
      | _ => none

/-- Why a condition has no answer. -/
abbrev Judged (α : Type) := Except (List Char) α

namespace Condition

variable (s : Session) (words : List (List Char))

/-- The comparison a word stands for. -/
def comparison? (w : List Char) : Option String :=
  match sign? w with
  | some (.binary op) => some op
  | _ => none

/-- Whether the word at a place is compared, though it looks like a question about one thing. -/
def isCompared (n : Nat) : Bool :=
  match words[n + 1]? with
  | none => true
  | some w => if (words[n + 2]?).isNone then false else (comparison? w).isSome

/-- What stands at a place of a condition. -/
inductive Lexeme where
  | sign (s : Sign)
  | operand
  /-- There is no word at the place. -/
  | ending
deriving Repr, DecidableEq, Inhabited

/-- What stands at a place. -/
def lexeme (n : Nat) : Lexeme :=
  match words[n]? with
  | none => .ending
  | some w =>
    match sign? w with
    | none => .operand
    | some (.unary c) => if isCompared words n then .operand else .sign (.unary c)
    | some .opening => if (words[n + 1]?).isNone then .operand else .sign .opening
    | some sign => .sign sign

/-- The number a word writes. -/
def number (w : List Char) : Judged Int :=
  match readNumber? (some 10) w with
  | some n => .ok n
  | none => .error (illegalNumber w)

/-- The answer to a comparison. -/
def compare (op : String) (a b : List Char) : Judged Bool := do
  match op with
  | "=" => return a == b
  | "!=" => return a != b
  | "<" => return decide (a < b)
  | ">" => return decide (b < a)
  | "-eq" => return (← number a) == (← number b)
  | "-ne" => return (← number a) != (← number b)
  | "-gt" => return decide ((← number b) < (← number a))
  | "-ge" => return decide ((← number b) ≤ (← number a))
  | "-lt" => return decide ((← number a) < (← number b))
  | "-le" => return decide ((← number a) ≤ (← number b))
  | "-ef" =>
    match s.stat a, s.stat b with
    | .ok x, .ok y => return x.1 == y.1
    | _, _ => return false
  | _ => return false

/-- The answer to a question about one word. -/
def ask (letter : Char) (w : List Char) : Judged Bool := do
  match letter with
  | 'z' => return w.isEmpty
  | 'n' => return !w.isEmpty
  | 't' => do
    let _ ← number w
    return false
  | _ =>
    match s.stat w with
    | .error _ => return false
    | .ok (_, node) =>
      match letter, node with
      | 'f', node => return node.isFile
      | 'd', node => return node.isDirectory
      | 'x', node => return node.isExecutable
      | 's', .file content _ _ => return !content.isEmpty
      | 's', node => return node.isDirectory
      | 'c', .device => return true
      | _, _ => return "rweOG".toList.contains letter

/-- What is judged at a place. -/
inductive Goal where
  | disjunction
  | conjunction
  | negation
  | single
deriving Repr, DecidableEq, Inhabited

/-- The answer from a place on, given what is taken to stand there, and the place of the last word
that was used. -/
def judge : (fuel : Nat) → Goal → (place : Nat) → Lexeme → Judged (Bool × Nat)
  | 0, _, n, _ => .ok (false, n)
  | fuel + 1, .disjunction, n, here => do
    let (a, n) ← judge fuel .conjunction n here
    if lexeme words (n + 1) = .sign .either then
      let (b, n) ← judge fuel .disjunction (n + 2) (lexeme words (n + 2))
      return (a || b, n)
    else return (a, n)
  | fuel + 1, .conjunction, n, here => do
    let (a, n) ← judge fuel .negation n here
    if lexeme words (n + 1) = .sign .both then
      let (b, n) ← judge fuel .conjunction (n + 2) (lexeme words (n + 2))
      return (a && b, n)
    else return (a, n)
  | fuel + 1, .negation, n, here => do
    if here = .sign .negation then
      let next := lexeme words (n + 1)
      let (a, n) ← judge fuel .negation (if next = .ending then n else n + 1) next
      return (!a, n)
    else judge fuel .single n here
  | fuel + 1, .single, n, here => do
    match here, words[n]? with
    | .ending, _ | _, none => return (false, n)
    | .sign .opening, _ =>
      if lexeme words (n + 1) = .sign .closing then return (false, n + 1)
      else
        let (a, n) ← judge fuel .disjunction (n + 1) (lexeme words (n + 1))
        if lexeme words (n + 1) = .sign .closing then return (a, n + 1)
        else .error "closing paren expected".toList
    | .sign (.unary c), some w =>
      match words[n + 1]? with
      | none => .error (w ++ ": argument expected".toList)
      | some operand => return (← ask s c operand, n + 1)
    | _, some w =>
      match lexeme words (n + 1) with
      | .sign (.binary op) =>
        match words[n + 2]? with
        | none => .error (op.toList ++ ": argument expected".toList)
        | some b => return (← compare s op w b, n + 2)
      | _ => return (!w.isEmpty, n)

end Condition

open Condition in
/-- The answer to a condition. -/
def judgeWords (s : Session) (words : List (List Char)) : Judged Bool := do
  if words.isEmpty then return false
  else
    let few := words.length = 3 || words.length = 4
    let compared := words.length = 3 && ((words[1]?).bind comparison?).isSome
    let enclosed := few && !compared && words.head? = some ['('] && words.getLast? = some [')']
    let inner := if enclosed then (words.drop 1).dropLast else words
    let negated := few && !compared && !enclosed && words.head? = some ['!']
    let first := if compared then .operand
      else if negated then .sign .negation
      else lexeme inner 0
    let (answer, n) ← judge s inner (8 * words.length + 16) .disjunction 0 first
    match inner[n]?, inner[n + 1]? with
    | some w, some _ => .error (w ++ ": unexpected operator".toList)
    | _, _ => return answer

end ElmOnSave.Shell
