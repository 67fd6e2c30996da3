import ElmOnSave.Literal.Expr
import ElmOnSave.Literal.Token
import Std.Data.HashMap

/-!
# Recognising tokens

A grammar says how expressions are spelled in tokens.  It is made of choices in which the first
alternative that matches counts, of repetitions that take as much as they can, and of looks ahead.
Some alternatives describe mistakes: they are tried only when a text is read for the second time, to
find out what is wrong with it, and end in `refuse`, which may put the mistake into words.

`Peg.run` reads tokens by a grammar.  What a rule makes of a place may be remembered, since choices
come back to the same place again and again.
-/

namespace ElmOnSave.Literal

/-- A grammar over rules; what is read are expressions. -/
inductive Peg (Rule : Type) where
  /-- One token and what it spells. -/
  | token (spell : Token → Option (Except Complaint (List Expr)))
  /-- One or more strings side by side. -/
  | strings
  | rule (r : Rule)
  | seq (ps : List (Peg Rule))
  | choice (ps : List (Peg Rule))
  /-- As often as possible, at least once. -/
  | many (p : Peg Rule)
  /-- Once if possible. -/
  | opt (p : Peg Rule)
  /-- Looks ahead for a match. -/
  | ahead (p : Peg Rule)
  /-- Looks ahead for the lack of a match. -/
  | without (p : Peg Rule)
  /-- A first part and as many further steps as possible, each joined to what was read before. -/
  | chain (first : Peg Rule) (steps : List (Peg Rule × (Expr → List Expr → Expr)))
  /-- Makes one expression of what is read. -/
  | build (make : List Expr → Expr) (p : Peg Rule)
  /-- From here on no other alternative counts. -/
  | commit
  /-- A mistake, tried only in the second reading. -/
  | mistake (p : Peg Rule)
  /-- Reads without trying mistakes. -/
  | quiet (p : Peg Rule)
  /-- What is wrong with what was read so far, given the brackets that are open there; if there is
  nothing to say, no other alternative counts. -/
  | refuse (why : List Expr → Nat → Option GrammarFault)

/-- What comes of reading at a place. -/
inductive Outcome where
  | failed
  /-- There is no match, and no other alternative counts. -/
  | barred
  | matched (es : List Expr) (next : Nat)
deriving Inhabited

/-- No match, whatever the reason. -/
def Outcome.settled : Outcome → Outcome
  | barred => failed
  | o => o

/-- The rules of a grammar. -/
structure Grammar (Rule : Type) where
  body : Rule → Peg Rule
  /-- Whether what the rule makes of a place is remembered. -/
  remembers : Rule → Bool

/-- What is remembered while tokens are read, and how many of them were looked at. -/
structure Reading (Rule : Type) [BEq Rule] [Hashable Rule] where
  memo : Std.HashMap (Rule × Nat) Outcome := {}
  reach : Nat := 0

/-- The tokens that are read and what is made of strings. -/
structure Source where
  scan : Scan
  strings : List Token → Except Complaint Expr

namespace Peg

variable {Rule : Type} [BEq Rule] [Hashable Rule]

/-- Reading tokens ends early at a complaint; what was remembered is kept. -/
abbrev Reader (Rule : Type) [BEq Rule] [Hashable Rule] :=
  ExceptT Complaint (StateM (Reading Rule))

/-- The token at a place. -/
def fetch (s : Source) (i : Nat) : Reader Rule (Option Token) := do
  match s.scan.tokens[i]? with
  | some t =>
    modify fun r => { r with reach := max r.reach (i + 1) }
    return some t
  | none =>
    match s.scan.ending with
    | .finished => return none
    | .malformed c | .stuck c _ => throw (.token c)

/-- The strings from a place on. -/
def fetchStrings (s : Source) : Nat → Nat → List Token → Reader Rule (List Token)
  | 0, _, acc => return acc.reverse
  | fuel + 1, i, acc => do
    match ← fetch s i with
    | some t =>
      if t.kind = .string then fetchStrings s fuel (i + 1) (t :: acc) else return acc.reverse
    | none => return acc.reverse

/-- One after the other, with what was read so far and whether other alternatives still count. -/
def runSeq (s : Source) (run : Peg Rule → Nat → Reader Rule Outcome) :
    List (Peg Rule) → Nat → List Expr → Bool → Reader Rule Outcome
  | [], i, es, _ => return .matched es i
  | .commit :: ps, i, es, _ => runSeq s run ps i es true
  | .refuse why :: ps, i, es, committed => do
    let depth := ((s.scan.tokens[i - 1]?).map (·.depth)).getD 0
    match why es depth with
    | some fault => throw (.grammar fault)
    | none => if ps.isEmpty then return .barred else runSeq s run ps i es committed
  | p :: ps, i, es, committed => do
    match ← run p i with
    | .matched more next => runSeq s run ps next (es ++ more) committed
    | _ => return if committed then .barred else .failed

/-- The first alternative that matches. -/
def runChoice (run : Peg Rule → Nat → Reader Rule Outcome) (i : Nat) :
    List (Peg Rule) → Reader Rule Outcome
  | [] => return .failed
  | p :: ps => do
    match ← run p i with
    | .failed => runChoice run i ps
    | .barred => return .failed
    | o => return o

/-- As often as possible. -/
def runMany (run : Nat → Reader Rule Outcome) : Nat → Nat → List Expr → Reader Rule Outcome
  | 0, i, es => return .matched es i
  | fuel + 1, i, es => do
    match ← run i with
    | .matched more next =>
      if i < next then runMany run fuel next (es ++ more) else return .matched es i
    | _ => return .matched es i

/-- The first step that matches, joined to what was read before. -/
def runStep (run : Peg Rule → Nat → Reader Rule Outcome) (i : Nat) (left : Expr) :
    List (Peg Rule × (Expr → List Expr → Expr)) → Reader Rule Outcome
  | [] => return .failed
  | (p, join) :: ps => do
    match ← run p i with
    | .matched es next => return .matched [join left es] next
    | _ => runStep run i left ps

/-- As many steps as possible. -/
def runChain (run : Peg Rule → Nat → Reader Rule Outcome)
    (steps : List (Peg Rule × (Expr → List Expr → Expr))) :
    Nat → Nat → Expr → Reader Rule Outcome
  | 0, i, left => return .matched [left] i
  | fuel + 1, i, left => do
    match ← runStep run i left steps with
    | .matched [e] next => runChain run steps fuel next e
    | _ => return .matched [left] i

/-- Reads by a grammar at a place; the flag tells whether mistakes are tried. -/
def run (g : Grammar Rule) (s : Source) : Nat → Bool → Peg Rule → Nat → Reader Rule Outcome
  | 0, _, _, _ => return .failed
  | fuel + 1, strict, p, i => do
    let size := s.scan.tokens.size
    match p with
    | token spell =>
      match ← fetch s i with
      | some t =>
        match spell t with
        | some (.ok es) => return .matched es (i + 1)
        | some (.error c) => throw c
        | none => return .failed
      | none => return .failed
    | strings =>
      match ← fetchStrings s (size + 1) i [] with
      | [] => return .failed
      | ts =>
        match s.strings ts with
        | .ok e => return .matched [e] (i + ts.length)
        | .error c => throw c
    | rule r =>
      let reading ← get
      match if g.remembers r then reading.memo[(r, i)]? else none with
      | some o => return o
      | none =>
        let o := (← run g s fuel strict (g.body r) i).settled
        if g.remembers r then modify fun st => { st with memo := st.memo.insert (r, i) o }
        return o
    | seq ps => runSeq s (run g s fuel strict) ps i [] false
    | choice ps => runChoice (run g s fuel strict) i ps
    | many p =>
      match ← run g s fuel strict p i with
      | .matched es next => runMany (run g s fuel strict p) (size + 1) next es
      | _ => return .failed
    | opt p =>
      match ← run g s fuel strict p i with
      | .matched es next => return .matched es next
      | _ => return .matched [] i
    | ahead p =>
      match ← run g s fuel strict p i with
      | .matched _ _ => return .matched [] i
      | _ => return .failed
    | without p =>
      match ← run g s fuel strict p i with
      | .matched _ _ => return .failed
      | _ => return .matched [] i
    | chain first steps =>
      match ← run g s fuel strict first i with
      | .matched [e] next => runChain (run g s fuel strict) steps (size + 1) next e
      | _ => return .failed
    | build make p =>
      match ← run g s fuel strict p i with
      | .matched es next => return .matched [make es] next
      | o => return o
    | mistake p => if strict then run g s fuel strict p i else return .failed
    | quiet p => run g s fuel false p i
    | commit => return .matched [] i
    | refuse _ => return .failed

end Peg

end ElmOnSave.Literal
