import ElmOnSave.Text.Basic

/-!
# Patterns

In a pattern an asterisk stands for any text, a question mark for any character, and brackets for
one character of a class.  A character that was quoted stands for itself.
-/

namespace ElmOnSave.Shell

/-- A character of a pattern. -/
structure PatternChar where
  char : Char
  /-- Whether the character stands for itself. -/
  literal : Bool
deriving Repr, DecidableEq, Inhabited

/-- A pattern. -/
abbrev Pattern := List PatternChar

namespace Pattern

/-- Whether a character of a pattern has the meaning of the given one. -/
def means (p : PatternChar) (c : Char) : Bool :=
  !p.literal && p.char == c

/-- The pattern that only the given text matches. -/
def ofText (cs : List Char) : Pattern :=
  cs.map fun c => ⟨c, true⟩

/-- The text of a pattern without regard to meanings. -/
def text (p : Pattern) : List Char :=
  p.map PatternChar.char

/-- Whether a character is a sign of punctuation. -/
def isPunctuation (c : Char) : Bool :=
  0x20 < c.toNat && c.toNat < 0x7f && !c.isAlphanum

/-- The classes of characters that have a name. -/
def classes : List (String × (Char → Bool)) :=
  [("alnum", Char.isAlphanum), ("alpha", Char.isAlpha), ("blank", fun c => c == ' ' || c == '\t'),
    ("cntrl", fun c => c.toNat < 0x20 || c.toNat == 0x7f), ("digit", Char.isDigit),
    ("graph", fun c => 0x20 < c.toNat && c.toNat < 0x7f), ("lower", Char.isLower),
    ("print", fun c => 0x20 ≤ c.toNat && c.toNat < 0x7f), ("punct", isPunctuation),
    ("space", fun c => c == ' ' || (9 ≤ c.toNat && c.toNat ≤ 13)), ("upper", Char.isUpper),
    ("xdigit", fun c => c.isDigit || ('a' ≤ c && c ≤ 'f') || ('A' ≤ c && c ≤ 'F'))]

/-- A named class at the start of a pattern, behind its bracket: its test and what follows. -/
def class? (p : Pattern) : Option ((Char → Bool) × Pattern) :=
  classes.findSome? fun (name, test) =>
    let spelling := (":" ++ name ++ ":]").toList
    if spelling.isPrefixOf (text p) then some (test, p.drop spelling.length) else none

/-- Whether a character belongs to the class that is written behind a bracket, and what follows the
closing bracket; nothing if there is none. -/
def member? (c : Char) : (fuel : Nat) → (first found : Bool) → Pattern → Option (Bool × Pattern)
  | 0, _, _, _ => none
  | _ + 1, _, _, [] => none
  | fuel + 1, first, found, p :: ps =>
    if !first && means p ']' then some (found, ps)
    else
      match if means p '[' then class? ps else none with
      | some (test, rest) => member? c fuel false (found || test c) rest
      | none =>
        match ps with
        | dash :: last :: rest =>
          if means dash '-' && !means last ']' then
            member? c fuel false (found || (p.char ≤ c && c ≤ last.char)) rest
          else member? c fuel false (found || c == p.char) ps
        | _ => member? c fuel false (found || c == p.char) ps

/-- The suffixes of a text, the longest first. -/
def suffixes : List Char → List (List Char)
  | [] => [[]]
  | c :: cs => (c :: cs) :: suffixes cs

/-- Whether a pattern matches a whole text; the fuel bounds the length of the pattern. -/
def matchesWithin : (fuel : Nat) → Pattern → List Char → Bool
  | 0, _, _ => false
  | _ + 1, [], cs => cs.isEmpty
  | fuel + 1, p :: ps, cs =>
    if means p '*' then (suffixes cs).any (matchesWithin fuel ps)
    else
      match cs with
      | [] => false
      | c :: rest =>
        if means p '?' then matchesWithin fuel ps rest
        else if means p '[' then
          let negated := ps.head?.any (means · '!')
          let members := if negated then ps.drop 1 else ps
          match member? c (members.length + 1) true false members with
          | some (found, after) => found != negated && matchesWithin fuel after rest
          | none => c == '[' && matchesWithin fuel ps rest
        else p.char == c && matchesWithin fuel ps rest

/-- Whether a pattern matches a whole text. -/
def accepts (p : Pattern) (cs : List Char) : Bool :=
  matchesWithin (p.length + 1) p cs

/-- Whether the pattern holds a character with a meaning, so that it may match more than one
text. -/
def isOpen : Pattern → Bool
  | [] => false
  | p :: ps =>
    if means p '*' || means p '?' then true
    else if means p '[' then
      let members := if ps.head?.any (means · '!') then ps.drop 1 else ps
      (members.drop 1).any (means · ']') || isOpen ps
    else isOpen ps

/-- The names of a path pattern, which are separated by slashes. -/
def names (p : Pattern) : List Pattern :=
  p.foldr (fun c acc =>
    match acc with
    | [] => if c.char = '/' then [[], []] else [[c]]
    | n :: ns => if c.char = '/' then [] :: n :: ns else (c :: n) :: ns) [[]]

/-! ## Parts of a text that match -/

/-- The shortest or longest prefix that matches is dropped. -/
def dropStart (p : Pattern) (longest : Bool) (cs : List Char) : List Char :=
  let cuts := List.range (cs.length + 1)
  let cuts := if longest then cuts.reverse else cuts
  match cuts.find? fun n => p.accepts (cs.take n) with
  | some n => cs.drop n
  | none => cs

/-- The shortest or longest suffix that matches is dropped. -/
def dropEnd (p : Pattern) (longest : Bool) (cs : List Char) : List Char :=
  let cuts := List.range (cs.length + 1)
  let cuts := if longest then cuts else cuts.reverse
  match cuts.find? fun n => p.accepts (cs.drop n) with
  | some n => cs.take n
  | none => cs

end Pattern

end ElmOnSave.Shell
