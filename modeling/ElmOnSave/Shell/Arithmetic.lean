import ElmOnSave.Shell.Session

/-!
# Computations

A computation is a text of numbers, variables and operators.  Numbers have 64 bits and a sign, and
wrap around.  A number may be written with eight or sixteen digits to choose from, and the value of
a variable is read as a number in the same way.
-/

namespace ElmOnSave.Shell

/-- What is done to one number. -/
inductive UnaryOperator where
  | minus
  | logicalNot
  | bitNot
deriving Repr, DecidableEq, Inhabited

/-- What is done to two numbers. -/
inductive BinaryOperator where
  | times | divide | remainder
  | plus | minus
  | shiftLeft | shiftRight
  | less | lessEqual | greater | greaterEqual
  | equal | unequal
  | bitAnd | bitXor | bitOr
deriving Repr, DecidableEq, Inhabited

/-- A computation. -/
inductive Sum where
  | number (n : Int)
  | named (name : List Char)
  | unary (op : UnaryOperator) (a : Sum)
  | binary (op : BinaryOperator) (a b : Sum)
  | both (a b : Sum)
  | either (a b : Sum)
  | choice (test yes no : Sum)
  /-- The result becomes the value of a variable, perhaps combined with its old value. -/
  | assign (name : List Char) (op : Option BinaryOperator) (a : Sum)
deriving Repr, Inhabited

/-- Why there is no result. -/
inductive SumFault where
  | noOperand
  | trailing
  | noClosing
  | noColon
  | divisionByZero
deriving Repr, DecidableEq, Inhabited

/-- The wording of a fault. -/
def SumFault.message : SumFault → String
  | noOperand => "expecting primary"
  | trailing => "expecting EOF"
  | noClosing => "expecting ')'"
  | noColon => "expecting ':'"
  | divisionByZero => "division by zero"

/-- How many numbers there are with 64 bits. -/
def wordRange : Nat := Nat.pow 2 64

/-- The number with 64 bits that a number wraps around to. -/
def wrap (n : Int) : Int :=
  n.bmod wordRange

/-- The greatest number. -/
def greatest : Int := wordRange / 2 - 1

/-- The least number. -/
def least : Int := -(wordRange / 2)

/-! ## Numbers in a text -/

/-- The base in which a text writes a number, and its digits with what follows them. -/
def baseOf (cs : List Char) : Nat × List Char :=
  match cs with
  | '0' :: x :: d :: rest =>
    if (x = 'x' ∨ x = 'X') ∧ (Text.hexValue? d).isSome then (16, d :: rest)
    else (8, '0' :: x :: d :: rest)
  | '0' :: rest => (8, '0' :: rest)
  | cs => (10, cs)

/-- The value of a digit in a base. -/
def digitIn? (base : Nat) (c : Char) : Option Nat :=
  (Text.hexValue? c).filter (· < base)

/-- The unsigned number at the start of a text and what follows it. -/
def numberIn (base : Nat) (cs : List Char) : Nat × List Char :=
  let digits := cs.takeWhile fun c => (digitIn? base c).isSome
  (Text.ofDigitValues base (digits.filterMap (digitIn? base)), cs.drop digits.length)

/-- Whether a character is a blank between numbers. -/
def isSpace (c : Char) : Bool :=
  c == ' ' || (9 ≤ c.toNat && c.toNat ≤ 13)

/-- The number that a whole text writes in a base, or in the base it names itself; blanks around
it do not count. -/
def readNumber? (base : Option Nat) (cs : List Char) : Option Int :=
  let inner := cs.dropWhile isSpace
  let negative := inner.head? == some '-'
  let unsigned := if negative || inner.head? == some '+' then inner.drop 1 else inner
  let (b, digits) := match base with
    | some b => (b, unsigned)
    | none => baseOf unsigned
  let (n, rest) := numberIn b digits
  let value : Int := if negative then -n else n
  if rest.length = digits.length then
    if base.isNone && cs.all isSpace then some 0 else none
  else if !rest.all isSpace || value < least || greatest < value then none
  else some value

/-! ## Reading a computation -/

/-- A token of a computation. -/
inductive SumToken where
  | number (n : Int)
  | name (cs : List Char)
  | sign (text : String)
  /-- A character that belongs to no computation. -/
  | other
deriving Repr, DecidableEq, Inhabited

/-- The signs, longer ones first. -/
def signs : List String :=
  ["<<=", ">>=", "<<", ">>", "<=", ">=", "==", "!=", "&&", "||", "*=", "/=", "%=", "+=", "-=",
    "&=", "^=", "|=", "<", ">", "=", "!", "&", "|", "*", "/", "%", "+", "-", "^", "~", "?", ":",
    "(", ")"]

/-- The first token of a text that does not start with a blank, and what follows it. -/
def sumToken (c : Char) (cs : List Char) : SumToken × List Char :=
  if c.isDigit then
    let (base, digits) := baseOf (c :: cs)
    let (n, rest) := numberIn base digits
    (.number (min n greatest), rest)
  else if startsName c then
    let name := (c :: cs).takeWhile continuesName
    (.name name, (c :: cs).drop name.length)
  else
    match signs.find? fun s => s.toList.isPrefixOf (c :: cs) with
    | some s => (.sign s, (c :: cs).drop s.length)
    | none => (.other, cs)

/-- The tokens of a text. -/
def sumTokens : (fuel : Nat) → List Char → List SumToken
  | 0, _ => []
  | _ + 1, [] => []
  | fuel + 1, c :: cs =>
    if c = ' ' ∨ c = '\t' ∨ c = '\n' then sumTokens fuel cs
    else
      let (t, rest) := sumToken c cs
      t :: sumTokens fuel rest

/-- The operators between two numbers, with how loosely each binds. -/
def binaryOperators : List (String × BinaryOperator × Nat) :=
  [("*", .times, 0), ("/", .divide, 0), ("%", .remainder, 0), ("+", .plus, 1), ("-", .minus, 1),
    ("<<", .shiftLeft, 2), (">>", .shiftRight, 2), ("<", .less, 3), ("<=", .lessEqual, 3),
    (">", .greater, 3), (">=", .greaterEqual, 3), ("==", .equal, 4), ("!=", .unequal, 4),
    ("&", .bitAnd, 5), ("^", .bitXor, 6), ("|", .bitOr, 7)]

/-- How loosely an operator between two numbers can bind. -/
def loosest : Nat := 7

/-- The operator that a sign of assignment applies first. -/
def assignmentSigns : List (String × Option BinaryOperator) :=
  [("=", none), ("*=", some .times), ("/=", some .divide), ("%=", some .remainder),
    ("+=", some .plus), ("-=", some .minus), ("<<=", some .shiftLeft), (">>=", some .shiftRight),
    ("&=", some .bitAnd), ("^=", some .bitXor), ("|=", some .bitOr)]

/-- The operator a token stands for and how loosely it binds. -/
def SumToken.binary? : SumToken → Option (BinaryOperator × Nat)
  | .sign s => binaryOperators.lookup s
  | _ => none

/-- A computation that was read and the tokens behind it. -/
abbrev SumParsed := Except SumFault (Sum × List SumToken)

/-- What is read: an operand, operators up to a looseness, a conjunction, a disjunction, a choice or
an assignment. -/
inductive SumGoal where
  | operand
  | operators (looseness : Nat)
  | operatorsFrom (a : Sum) (looseness : Nat)
  | conjunction
  | disjunction
  | choice
  | assignment
deriving Inhabited

/-- Reads a computation. -/
def readSum : (fuel : Nat) → SumGoal → List SumToken → SumParsed
  | 0, _, _ => .error .noOperand
  | fuel + 1, .operand, ts =>
    match ts with
    | .number n :: ts => .ok (.number n, ts)
    | .name cs :: ts => .ok (.named cs, ts)
    | .sign "(" :: ts => do
      let (a, ts) ← readSum fuel .assignment ts
      match ts with
      | .sign ")" :: ts => .ok (a, ts)
      | _ => .error .noClosing
    | .sign "+" :: ts => readSum fuel .operand ts
    | .sign "-" :: ts => do
      let (a, ts) ← readSum fuel .operand ts
      return (.unary .minus a, ts)
    | .sign "!" :: ts => do
      let (a, ts) ← readSum fuel .operand ts
      return (.unary .logicalNot a, ts)
    | .sign "~" :: ts => do
      let (a, ts) ← readSum fuel .operand ts
      return (.unary .bitNot a, ts)
    | _ => .error .noOperand
  | fuel + 1, .operators looseness, ts => do
    let (a, ts) ← readSum fuel .operand ts
    readSum fuel (.operatorsFrom a looseness) ts
  | fuel + 1, .operatorsFrom a looseness, ts =>
    match ts with
    | t :: ts' =>
      match t.binary? with
      | some (op, n) =>
        if looseness < n then .ok (a, ts)
        else if n = 0 then do
          let (b, ts) ← readSum fuel .operand ts'
          readSum fuel (.operatorsFrom (.binary op a b) looseness) ts
        else do
          let (b, ts) ← readSum fuel (.operators (n - 1)) ts'
          readSum fuel (.operatorsFrom (.binary op a b) looseness) ts
      | none => .ok (a, ts)
    | [] => .ok (a, [])
  | fuel + 1, .conjunction, ts => do
    let (a, ts) ← readSum fuel (.operators loosest) ts
    match ts with
    | .sign "&&" :: ts => do
      let (b, ts) ← readSum fuel .conjunction ts
      return (.both a b, ts)
    | ts => return (a, ts)
  | fuel + 1, .disjunction, ts => do
    let (a, ts) ← readSum fuel .conjunction ts
    match ts with
    | .sign "||" :: ts => do
      let (b, ts) ← readSum fuel .disjunction ts
      return (.either a b, ts)
    | ts => return (a, ts)
  | fuel + 1, .choice, ts => do
    let (a, ts) ← readSum fuel .disjunction ts
    match ts with
    | .sign "?" :: ts => do
      let (b, ts) ← readSum fuel .assignment ts
      match ts with
      | .sign ":" :: ts => do
        let (c, ts) ← readSum fuel .choice ts
        return (.choice a b c, ts)
      | _ => .error .noColon
    | ts => return (a, ts)
  | fuel + 1, .assignment, ts =>
    match ts with
    | .name cs :: .sign s :: rest =>
      match assignmentSigns.lookup s with
      | some op => do
        let (a, ts) ← readSum fuel .assignment rest
        return (.assign cs op a, ts)
      | none => readSum fuel .choice ts
    | ts => readSum fuel .choice ts

/-- The computation that a text writes. -/
def Sum.read (cs : List Char) : Except SumFault Sum :=
  let ts := sumTokens (cs.length + 1) cs
  match readSum (8 * ts.length + 16) .assignment ts with
  | .ok (a, []) => .ok a
  | .ok _ => .error .trailing
  | .error f => .error f

/-! ## Results -/

/-- One for yes, zero for no. -/
def ofTruth (b : Bool) : Int :=
  if b then 1 else 0

/-- The result of an operation on one number. -/
def UnaryOperator.apply : UnaryOperator → Int → Int
  | minus, a => wrap (-a)
  | logicalNot, a => ofTruth (a == 0)
  | bitNot, a => -a - 1

/-- A number with 64 bits as one without a sign. -/
def unsigned (a : Int) : Nat :=
  (a % wordRange).toNat

/-- The result of an operation on two numbers; there is none for a division by zero. -/
def BinaryOperator.apply? : BinaryOperator → Int → Int → Option Int
  | times, a, b => some (wrap (a * b))
  | divide, a, b => if b = 0 then none else some (wrap (a.tdiv b))
  | remainder, a, b => if b = 0 then none else some (a.tmod b)
  | plus, a, b => some (wrap (a + b))
  | minus, a, b => some (wrap (a - b))
  | shiftLeft, a, b => some (wrap (unsigned a <<< (unsigned b % 64) : Nat))
  | shiftRight, a, b => some (a >>> (unsigned b % 64))
  | less, a, b => some (ofTruth (a < b))
  | lessEqual, a, b => some (ofTruth (a ≤ b))
  | greater, a, b => some (ofTruth (b < a))
  | greaterEqual, a, b => some (ofTruth (b ≤ a))
  | equal, a, b => some (ofTruth (a == b))
  | unequal, a, b => some (ofTruth (a != b))
  | bitAnd, a, b => some (wrap (unsigned a &&& unsigned b : Nat))
  | bitXor, a, b => some (wrap (unsigned a ^^^ unsigned b : Nat))
  | bitOr, a, b => some (wrap (unsigned a ||| unsigned b : Nat))

/-- A number as a text. -/
def numberText (n : Int) : List Char :=
  if n < 0 then '-' :: Text.natDigits n.natAbs else Text.natDigits n.natAbs

/-- The wording for a text that is no number. -/
def illegalNumber (cs : List Char) : List Char :=
  "Illegal number: ".toList ++ cs

/-- Ends the shell because a computation has no result. -/
def failSum {α : Type} (source : List Char) (f : SumFault) : Act α :=
  fail ("arithmetic expression: ".toList ++ f.message.toList ++ ": \"".toList ++ source ++ ['"'])

/-- The value of a variable as a number. -/
def numberOf (name : List Char) : Act Int := do
  let value := ((← get).valueOf? name).getD []
  match readNumber? none value with
  | some n => return n
  | none => fail (illegalNumber value)

/-- The result of an operation that the given text asks for. -/
def applyBinary (source : List Char) (op : BinaryOperator) (a b : Int) : Act Int :=
  match op.apply? a b with
  | some n => return n
  | none => failSum source .divisionByZero

/-- The result of a computation. -/
def Sum.result (source : List Char) : Sum → Act Int
  | number n => return n
  | named name => numberOf name
  | unary op a => return op.apply (← a.result source)
  | binary op a b => do
    let x ← a.result source
    let y ← b.result source
    applyBinary source op x y
  | both a b => do
    let x ← a.result source
    if x = 0 then return 0 else return ofTruth ((← b.result source) != 0)
  | either a b => do
    let x ← a.result source
    if x = 0 then return ofTruth ((← b.result source) != 0) else return 1
  | choice test yes no => do
    if (← test.result source) = 0 then no.result source else yes.result source
  | assign name op a => do
    let x ← a.result source
    let value ← match op with
      | none => pure x
      | some op => do applyBinary source op (← numberOf name) x
    Shell.assign name (numberText value) false
    return value

/-- The result of the computation that a text writes. -/
def compute (source : List Char) : Act Int := do
  match Sum.read source with
  | .ok a => a.result source
  | .error f => failSum source f

end ElmOnSave.Shell
