import ElmOnSave.Literal.Expr
import ElmOnSave.Literal.Token

/-!
# Strings of a literal

Strings that stand side by side are one string.  They may hold text or octets, but not both; a
backslash leads an escape unless the string is raw; and in a formatted string expressions stand in
braces.  `joinStrings` says what such a run of strings spells or what is wrong with it.
-/

namespace ElmOnSave.Literal

/-- A string token taken apart. -/
structure StringParts where
  marks : List Char
  body : List Char
deriving Repr, DecidableEq, Inhabited

namespace StringParts

/-- Takes a string token apart: the letters before its quotes and what is between them. -/
def ofText (text : List Char) : StringParts :=
  let marks := text.takeWhile fun c => !isQuote c
  let quoted := text.drop marks.length
  let n := if 6 ≤ quoted.length ∧ quoted[0]? = quoted[1]? ∧ quoted[1]? = quoted[2]? then 3 else 1
  ⟨marks.map Char.toLower, (quoted.drop n).take (quoted.length - 2 * n)⟩

/-- Whether a string has a mark. -/
def has (p : StringParts) (mark : Char) : Bool := p.marks.contains mark

end StringParts

/-! ## Escapes -/

/-- The text as its escapes are read: characters beyond ASCII are escapes themselves, and so is a
backslash that escapes nothing. -/
def escapable : List Char → List Char
  | [] => []
  | '\\' :: c :: cs =>
    if 128 ≤ c.toNat then "\\u005c".toList ++ wide c ++ escapable cs
    else '\\' :: c :: escapable cs
  | ['\\'] => "\\u005c".toList
  | c :: cs => if 128 ≤ c.toNat then wide c ++ escapable cs else c :: escapable cs
where
  /-- A character as an escape. -/
  wide (c : Char) : List Char := '\\' :: 'U' :: Text.hexPadded 8 c.toNat

/-- The escapes with digits to base sixteen: the letter, the number of digits and how a lack of
digits is called. -/
def hexEscapes : List (Char × Nat × String) :=
  [('x', 2, "truncated \\xXX escape"), ('u', 4, "truncated \\uXXXX escape"),
    ('U', 8, "truncated \\UXXXXXXXX escape")]

/-- The greatest code point. -/
def lastCodePoint : Nat := 0x10FFFF

/-- Whether a text can be the name of a character. -/
def isCharacterName (cs : List Char) : Bool :=
  cs.all fun c => c.isAlphanum || c == ' ' || c == '-'

/-- The length of an escape behind its backslash and letter, else how far it goes and what is wrong
with it. -/
def escapeLength (letter : Char) (cs : List Char) : Except (Nat × String) Nat :=
  match hexEscapes.lookup letter with
  | some (count, lack) =>
    let digits := (cs.take count).takeWhile fun c => (Text.hexValue? c).isSome
    let value := Text.ofDigitValues 16 (digits.map fun c => (Text.hexValue? c).getD 0)
    if digits.length < count then .error (digits.length, lack)
    else if lastCodePoint < value then .error (count, "illegal Unicode character")
    else .ok count
  | none =>
    if letter = 'N' then
      match cs with
      | '\x7b' :: rest =>
        let name := rest.takeWhile (· != '\x7d')
        if name.isEmpty || name.length = rest.length then
          .error (name.length + 1, "malformed \\N character escape")
        else if isCharacterName name then .ok (name.length + 2)
        else .error (name.length + 2, "unknown Unicode character name")
      | _ => .error (0, "malformed \\N character escape")
    else .ok 0

/-- What is wrong with the escapes of a text, given the place where it starts; the rounds bound the
number of characters. -/
def escapeFault? : Nat → List Char → Nat → Option StringFault
  | 0, _, _ => none
  | rounds + 1, cs, n =>
    match cs with
    | '\\' :: letter :: rest =>
      match escapeLength letter rest with
      | .ok length => escapeFault? rounds (rest.drop length) (n + 2 + length)
      | .error (length, reason) => some (.escape n (n + 1 + length) reason)
    | _ :: rest => escapeFault? rounds rest (n + 1)
    | [] => none

/-- What is wrong with the escapes of octets. -/
def octetFault? : Nat → List Char → Nat → Option StringFault
  | 0, _, _ => none
  | rounds + 1, cs, n =>
    match cs with
    | '\\' :: 'x' :: rest =>
      if ((rest.take 2).takeWhile fun c => (Text.hexValue? c).isSome).length = 2 then
        octetFault? rounds (rest.drop 2) (n + 4)
      else some (.octetEscape n)
    | '\\' :: _ :: rest => octetFault? rounds rest (n + 2)
    | _ :: rest => octetFault? rounds rest (n + 1)
    | [] => none

/-- Checks the escapes of a text. -/
def checkEscapes (cs : List Char) : Except Complaint Unit :=
  let cs := escapable cs
  match escapeFault? cs.length cs 0 with
  | some f => .error (.string f)
  | none => .ok ()

/-- Checks a string that holds octets. -/
def checkOctets (p : StringParts) : Except Complaint Unit :=
  if p.body.any (128 ≤ ·.toNat) then .error (.string .foreignOctet)
  else if p.has 'r' then .ok ()
  else
    match octetFault? p.body.length p.body 0 with
    | some f => .error (.string f)
    | none => .ok ()

/-! ## Formatted strings -/

/-- The length of an escape by name, or of what starts like one. -/
def nameEscapeLength (cs : List Char) : Nat :=
  match cs.drop 2 with
  | '\x7b' :: rest => (rest.takeWhile (· != '\x7d')).length + 4
  | _ => 3

/-- The text before the next field, backwards, and what follows; the flag tells that a doubled brace
ended it. -/
def literalPart (raw : Bool) (level : Nat) :
    Nat → List Char → List Char → Except StringFault (List Char × List Char × Bool)
  | 0, cs, acc => .ok (acc, cs, false)
  | rounds + 1, cs, acc =>
    let escaped := !raw && cs.head? == some '\\' && 2 ≤ cs.length
    if escaped && cs[1]? == some 'N' then
      let n := nameEscapeLength cs
      literalPart raw level rounds (cs.drop n) ((cs.take n).reverse ++ acc)
    else
      let acc := if escaped then '\\' :: acc else acc
      match if escaped then cs.drop 1 else cs with
      | [] => .ok (acc, [], false)
      | c :: rest =>
        if c = '\x7b' ∨ c = '\x7d' then
          if level = 0 ∧ rest.head? = some c then .ok (c :: acc, rest.drop 1, true)
          else if level = 0 ∧ c = '\x7d' then .error .loneBrace
          else .ok (acc, c :: rest, false)
        else literalPart raw level rounds rest (c :: acc)

/-- How far the expression of a field was read: its text backwards, the quotes of a string in it and
the open brackets. -/
structure FieldScan where
  text : List Char := []
  quote : Option (Char × Bool) := none
  opened : List Char := []
deriving Repr, Inhabited

namespace FieldScan

/-- Some characters more. -/
def push (s : FieldScan) (cs : List Char) : FieldScan :=
  { s with text := cs.reverse ++ s.text }

/-- The expression is over. -/
def finish (s : FieldScan) (rest : List Char) : Except StringFault (List Char × List Char) :=
  if s.quote.isSome then .error .openStringInField
  else
    match s.opened with
    | o :: _ => .error (.unmatchedInField o)
    | [] => if rest.isEmpty then .error .unclosedField else .ok (s.text.reverse, rest)

/-- A character inside a string of the expression, with the number of characters it takes. -/
def inString (s : FieldScan) (q : Char) (long : Bool) (c : Char) (rest : List Char) :
    FieldScan × Nat :=
  if c ≠ q then (s.push [c], 0)
  else if !long then ({ s with quote := none }.push [c], 0)
  else if [q, q].isPrefixOf rest then ({ s with quote := none }.push [c, c, c], 2)
  else (s.push [c], 0)

/-- A bracket that closes. -/
def close (s : FieldScan) (c : Char) : Except StringFault FieldScan :=
  match s.opened with
  | [] => .error (.unmatchedInField c)
  | o :: opened =>
    if bracketPairs.lookup o = some c then .ok ({ s with opened }.push [c])
    else .error (.mismatchedInField c o)

/-- Reads the expression of a field. -/
def run : Nat → List Char → FieldScan → Except StringFault (List Char × List Char)
  | 0, cs, s => s.finish cs
  | _, [], s => s.finish []
  | rounds + 1, c :: rest, s =>
    if c = '\\' then .error .backslashInField
    else
      match s.quote with
      | some (q, long) =>
        let (s, taken) := s.inString q long c rest
        run rounds (rest.drop taken) s
      | none =>
        if isQuote c then
          if [c, c].isPrefixOf rest then
            run rounds (rest.drop 2) ({ s with quote := some (c, true) }.push [c, c, c])
          else run rounds rest ({ s with quote := some (c, false) }.push [c])
        else if (bracketPairs.map Prod.fst).contains c then
          if bracketLimit ≤ s.opened.length then .error .tooManyBracketsInField
          else run rounds rest ({ s with opened := c :: s.opened }.push [c])
        else if c = '#' then .error .commentInField
        else if s.opened.isEmpty && ['!', ':', '\x7d', '=', '>', '<'].contains c then
          if rest.head? = some '=' ∧ ['!', '=', '<', '>'].contains c then
            run rounds (rest.drop 1) (s.push [c, '='])
          else if c = '>' ∨ c = '<' then run rounds rest (s.push [c])
          else s.finish (c :: rest)
        else if (bracketPairs.map Prod.snd).contains c then do
          run rounds rest (← s.close c)
        else run rounds rest (s.push [c])

end FieldScan

/-- The characters that do not count as an expression. -/
def isFieldBlank (c : Char) : Bool := c == ' ' || c == '\t' || c == '\n' || c == '\x0c'

/-- The text behind the equals sign and the conversion of a field. -/
def afterConversion (cs : List Char) : Except StringFault (List Char) := do
  let cs ← match cs with
    | '=' :: rest =>
      match rest.dropWhile fun c => isFieldBlank c || c == '\x0b' || c == '\r' with
      | [] => .error .unclosedField
      | rest => pure rest
    | _ => pure cs
  match cs with
  | '!' :: c :: rest =>
    if c = 's' ∨ c = 'r' ∨ c = 'a' then return rest else .error .unknownConversion
  | ['!'] => .error .unclosedField
  | _ => return cs

/-- Reads the expression of a field, given how expressions are read; with the text behind it. -/
def fieldExpression (read : List Char → Except Complaint Expr) (cs : List Char) :
    Except Complaint (List Char) := do
  let (text, rest) ← (FieldScan.run cs.length cs {}).mapError .string
  if text.all isFieldBlank then
    match rest with
    | c :: _ =>
      if c = '!' ∨ c = ':' ∨ c = '=' then .error (.string (.fieldRequired c))
      else .error (.string .emptyField)
    | [] => .error (.string .emptyField)
  else
    let _ ← read ('(' :: text ++ [')', '\n'])
    (afterConversion rest).mapError .string

/-- Checks a formatted string or the format of a field in it, with the text behind it. -/
def checkFormatted (read : List Char → Except Complaint Expr) (raw : Bool) :
    Nat → Nat → List Char → Except Complaint (List Char)
  | 0, _, cs => .ok cs
  | rounds + 1, level, cs => do
    let (text, rest, doubled) ← (literalPart raw level (cs.length + 1) cs []).mapError .string
    if !raw then checkEscapes text.reverse
    if doubled then checkFormatted read raw rounds level rest
    else
      match rest with
      | '\x7b' :: inner =>
        if 2 ≤ level then .error (.string .fieldsTooDeep)
        else
          let behind ← fieldExpression read inner
          let behind ← match behind with
            | [':'] => .error (.string .unclosedField)
            | ':' :: format => checkFormatted read raw rounds (level + 1) format
            | _ => pure behind
          match behind with
          | '\x7d' :: rest => checkFormatted read raw rounds level rest
          | _ => .error (.string .unclosedField)
      | _ =>
        if level ≠ 0 ∧ rest.isEmpty then .error (.string .unclosedField) else .ok rest

/-! ## Runs of strings -/

/-- What one string spells. -/
def checkString (p : StringParts) : Except Complaint Unit :=
  if p.has 'f' then .ok ()
  else if p.has 'b' then checkOctets p
  else if p.has 'r' || !p.body.contains '\\' then .ok ()
  else checkEscapes p.body

/-- What strings side by side spell, given how the expressions in them are read and what the strings
before them hold. -/
def joinStrings (read : List Char → Except Complaint Expr) :
    List Token → Option Bool → Bool → Except Complaint Expr
  | [], octets, formatted =>
    .ok (if formatted then .other .formatted else if octets = some true then .octets else .text)
  | t :: ts, octets, formatted => do
    let p := StringParts.ofText t.text.toList
    checkString p
    if octets = some !(p.has 'b') then .error (.string .mixedOctets)
    else
      if p.has 'f' then
        let _ ← checkFormatted read (p.has 'r') (p.body.length + 1) 0 p.body
      joinStrings read ts (some (p.has 'b')) (formatted || p.has 'f')

end ElmOnSave.Literal
