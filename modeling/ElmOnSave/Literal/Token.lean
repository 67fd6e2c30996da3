import ElmOnSave.Literal.Fault
import ElmOnSave.Text.Identifier
import ElmOnSave.Text.Line

/-!
# Tokens of literals

A literal is written in names, numbers, strings and operators.  Brackets nest, a line ends where no
bracket is open, and the blanks at the start of such a line are its indentation.  `Token.scan` cuts
a text into tokens up to its end or to the first place where there is no token.
-/

namespace ElmOnSave.Literal

/-- What a token is. -/
inductive TokenKind where
  | name
  | number
  | string
  | operator
  | newline
  | indent
  | dedent
  /-- The end of the text. -/
  | finish
deriving Repr, DecidableEq, Inhabited

/-- A token. -/
structure Token where
  kind : TokenKind
  text : String
  /-- The line on which the token starts. -/
  line : Nat
  /-- The number of brackets that are open behind the token. -/
  depth : Nat
  /-- Whether the end of the text was seen when the token was read. -/
  seesEnd : Bool
deriving Repr, DecidableEq, Inhabited

/-- Where the tokens of a text end. -/
inductive ScanEnd where
  /-- At the end of the text. -/
  | finished
  /-- At a token that is malformed by itself. -/
  | malformed (cause : TokenFault)
  /-- At a place where the text must not end or the line must not start, with the innermost bracket
  that is open there and its line. -/
  | stuck (cause : TokenFault) (opened : Option (Char × Nat))
deriving Repr, DecidableEq, Inhabited

/-- The tokens of a text. -/
structure Scan where
  tokens : Array Token
  ending : ScanEnd
deriving Repr, DecidableEq, Inhabited

/-! ## Numbers -/

/-- Whether a character may stand in a name, as far as can be told from its first octet. -/
def mayContinueName (c : Char) : Bool :=
  c.isAlphanum || c == '_' || 128 ≤ c.toNat

/-- Whether a text starts with a word that ends there. -/
def startsWithWord (word : List Char) (cs : List Char) : Bool :=
  word.isPrefixOf cs && !((cs.drop word.length).head?.map mayContinueName).getD false

/-- Whether a number may end before the text: no ASCII name follows, or one of the words that join
expressions. -/
def mayEndNumber (cs : List Char) : Bool :=
  match cs with
  | [] => true
  | c :: _ =>
    !(c.isAlphanum || c == '_') ||
      ["and", "else", "for", "or", "not"].any (fun w => startsWithWord w.toList cs) ||
      ["if", "in", "is"].any fun w => w.toList.isPrefixOf cs

/-- The text behind a number, which must be able to end there. -/
def endOfNumber (r : Radix) (rest : List Char) : Except TokenFault (List Char) :=
  if mayEndNumber rest then .ok rest else .error (.malformedNumber r)

/-- The text behind a run of digits with single underscores between them. -/
def afterDigits : List Char → Except TokenFault (List Char)
  | '_' :: d :: cs =>
    if d.isDigit then afterDigits cs else .error (.malformedNumber .decimal)
  | ['_'] => .error (.malformedNumber .decimal)
  | c :: cs => if c.isDigit then afterDigits cs else .ok (c :: cs)
  | [] => .ok []

/-- The fault of a character that is no digit of its base. -/
def badDigit (r : Radix) (c : Char) : TokenFault :=
  if c.isDigit && r != .hexadecimal then .strangeDigit c r else .malformedNumber r

/-- The text behind a run of digits of a base with single underscores before and between them. -/
def afterRadixDigits (r : Radix) (isDigit : Char → Bool) : List Char → Except TokenFault (List Char)
  | '_' :: d :: cs => if isDigit d then afterRadixDigits r isDigit cs else .error (badDigit r d)
  | ['_'] => .error (.malformedNumber r)
  | c :: cs =>
    if isDigit c then afterRadixDigits r isDigit cs
    else if c.isDigit then .error (badDigit r c)
    else endOfNumber r (c :: cs)
  | [] => .ok []

/-- The text behind the digits of a base, of which there must be one. -/
def afterRadix (r : Radix) (isDigit : Char → Bool) (cs : List Char) :
    Except TokenFault (List Char) :=
  match cs with
  | [] => .error (.malformedNumber r)
  | c :: _ =>
    if c == '_' || isDigit c then afterRadixDigits r isDigit cs else .error (badDigit r c)

/-- The text behind the exponent and the imaginary unit of a number, if there are any. -/
def afterExponent (cs : List Char) : Except TokenFault (List Char) := do
  let digits ← match cs with
    | e :: s :: d :: rest =>
      if e.toLower = 'e' ∧ (s = '+' ∨ s = '-') then
        if d.isDigit then afterDigits rest else .error (.malformedNumber .decimal)
      else if e.toLower = 'e' ∧ s.isDigit then afterDigits (d :: rest)
      else pure cs
    | [e, s] =>
      if e.toLower = 'e' ∧ (s = '+' ∨ s = '-') then .error (.malformedNumber .decimal)
      else if e.toLower = 'e' ∧ s.isDigit then pure []
      else pure cs
    | _ => pure cs
  match digits with
  | c :: rest =>
    if c.toLower = 'j' then endOfNumber .imaginary rest else endOfNumber .decimal digits
  | [] => .ok []

/-- The text behind a decimal number that starts here. -/
def afterDecimal (cs : List Char) : Except TokenFault (List Char) := do
  let rest ← afterDigits cs
  let whole := cs.take (cs.length - rest.length)
  let padded := whole.head? == some '0' && whole.any fun c => c != '0' && c != '_'
  match rest with
  | '.' :: fraction =>
    let rest ← if (fraction.head?.map Char.isDigit).getD false then afterDigits fraction
      else pure fraction
    afterExponent rest
  | c :: _ =>
    if padded && !(c.toLower == 'e' || c.toLower == 'j') then .error .zerosInFront
    else afterExponent rest
  | [] => if padded then .error .zerosInFront else .ok []

/-- The text behind a number that starts here. -/
def afterNumber (cs : List Char) : Except TokenFault (List Char) :=
  match cs with
  | '0' :: x :: rest =>
    match x.toLower with
    | 'x' => afterRadix .hexadecimal (fun c => (Text.hexValue? c).isSome) rest
    | 'o' => afterRadix .octal (fun c => '0' ≤ c && c ≤ '7') rest
    | 'b' => afterRadix .binary (fun c => c == '0' || c == '1') rest
    | _ => afterDecimal cs
  | _ => afterDecimal cs

/-! ## Strings -/

/-- The letters that may stand before a string: octets, plain text, raw text and fields. -/
structure StringMarks where
  octets : Bool := false
  plain : Bool := false
  raw : Bool := false
  fields : Bool := false
deriving Repr, DecidableEq, Inhabited

/-- The marks with one letter more, where it may stand. -/
def StringMarks.add? (m : StringMarks) (c : Char) : Option StringMarks :=
  match c.toLower with
  | 'b' => if m.octets || m.plain || m.fields then none else some { m with octets := true }
  | 'u' => if m.octets || m.plain || m.raw || m.fields then none else some { m with plain := true }
  | 'r' => if m.raw || m.plain then none else some { m with raw := true }
  | 'f' => if m.fields || m.octets || m.plain then none else some { m with fields := true }
  | _ => none

/-- Whether a character is a quote. -/
def isQuote (c : Char) : Bool := c == '"' || c == '\''

/-- The number of letters before the quote of a string that starts here. -/
def marksLength? (m : StringMarks) : List Char → Option Nat
  | [] => none
  | c :: cs =>
    if isQuote c then some 0
    else (m.add? c).bind fun m => (marksLength? m cs).map (· + 1)

/-- The length of a string up to its closing quote, given the text behind the opening one; else
where the search ended. -/
def shortStringLength (q : Char) : List Char → Nat → Except Nat Nat
  | [], n => .error n
  | ['\\'], n => .error (n + 1)
  | '\\' :: _ :: cs, n => shortStringLength q cs (n + 2)
  | c :: cs, n =>
    if c = q then .ok (n + 1)
    else if c = '\n' then .error n
    else shortStringLength q cs (n + 1)

/-- The length of a string up to its three closing quotes. -/
def longStringLength (q : Char) : List Char → Nat → Except Nat Nat
  | [], n => .error n
  | ['\\'], n => .error (n + 1)
  | '\\' :: _ :: cs, n => longStringLength q cs (n + 2)
  | c :: cs, n =>
    if c = q ∧ [q, q].isPrefixOf cs then .ok (n + 3) else longStringLength q cs (n + 1)

/-- The number of line ends among the first characters. -/
def lineEnds (cs : List Char) (n : Nat) : Nat :=
  (cs.take n).count '\n'

/-- The length of a string that starts with its quote on a line. -/
def stringLength (line : Nat) (cs : List Char) : Except TokenFault Nat :=
  match cs with
  | q :: a :: b :: rest =>
    if a = q ∧ b = q then
      match longStringLength q rest 3 with
      | .ok n => .ok n
      | .error n => .error (.unterminatedLongString (line + lineEnds cs n))
    else if a = q then .ok 2
    else short q (a :: b :: rest)
  | q :: rest => if rest = [q] then .ok 2 else short q rest
  | [] => .error (.unterminatedString line)
where
  /-- A string between single quotes. -/
  short (q : Char) (rest : List Char) : Except TokenFault Nat :=
    match shortStringLength q rest 1 with
    | .ok n => .ok n
    | .error n => .error (.unterminatedString (line + lineEnds (q :: rest) n))

/-! ## Operators -/

/-- The operators of more than one character. -/
def longOperators : List String :=
  ["**=", "//=", "<<=", ">>=", "...", "!=", "%=", "&=", "**", "*=", "+=", "-=", "->", "//", "/=",
    ":=", "<<", "<=", "<>", "==", ">=", ">>", "@=", "^=", "|="]

/-- The operator that starts here. -/
def operatorAt (cs : List Char) : String :=
  (longOperators.find? fun o => o.toList.isPrefixOf cs).getD (String.ofList (cs.take 1))

/-- The greatest number of brackets that may be open. -/
def bracketLimit : Nat := 200

/-- The brackets that open and those that close them. -/
def bracketPairs : List (Char × Char) := [('(', ')'), ('[', ']'), ('\x7b', '\x7d')]

/-- The open brackets with their lines, the innermost first. -/
abbrev OpenBrackets := List (Char × Nat)

/-- The open brackets behind an operator. -/
def bracketsAfter (opened : OpenBrackets) (line : Nat) (c : Char) :
    Except TokenFault OpenBrackets :=
  if (bracketPairs.map Prod.fst).contains c then
    if bracketLimit ≤ opened.length then .error .tooManyBrackets else .ok ((c, line) :: opened)
  else if (bracketPairs.map Prod.snd).contains c then
    match opened with
    | [] => .error (.unmatchedBracket c)
    | o :: rest =>
      if bracketPairs.lookup o.1 = some c then .ok rest
      else .error (.mismatchedBracket c o.1 (if o.2 = line then none else some o.2))
  else .ok opened

/-! ## Indentation -/

/-- The width of the blanks at the start of a line, measured with wide and with narrow tabs. -/
structure Indentation where
  wide : Nat := 0
  narrow : Nat := 0
deriving Repr, DecidableEq, Inhabited

/-- The greatest number of nested indentations. -/
def indentationLimit : Nat := 100

/-- The indentation after one more blank. -/
def Indentation.add (i : Indentation) (c : Char) : Indentation :=
  if c = '\t' then ⟨(i.wide / 8 + 1) * 8, i.narrow + 1⟩
  else if c = ' ' then ⟨i.wide + 1, i.narrow + 1⟩
  else {}

/-- The indentation levels behind the start of a line and the kinds of tokens for the change. -/
def changeIndentation (levels : List Indentation) (i : Indentation) :
    Except TokenFault (List Indentation × List TokenKind) :=
  let top := levels.headD {}
  if i.wide = top.wide then
    if i.narrow = top.narrow then .ok (levels, []) else .error .mixedIndentation
  else if top.wide < i.wide then
    if indentationLimit ≤ levels.length then .error .tooDeepIndentation
    else if i.narrow ≤ top.narrow then .error .mixedIndentation
    else .ok (i :: levels, [.indent])
  else
    let kept := levels.dropWhile (i.wide < ·.wide)
    let top := kept.headD {}
    if i.wide ≠ top.wide then .error .unknownIndentation
    else if i.narrow ≠ top.narrow then .error .mixedIndentation
    else .ok (kept, List.replicate (levels.length - kept.length) .dedent)

/-! ## The text -/

/-- How far a text has been cut into tokens. -/
structure Scanner where
  rest : List Char
  line : Nat := 1
  opened : OpenBrackets := []
  levels : List Indentation := [{}]
  /-- Whether a line starts here. -/
  atStart : Bool := true
  /-- Whether the line holds no token. -/
  blank : Bool := false
  /-- The tokens so far, the latest first. -/
  tokens : List Token := []
deriving Repr, Inhabited

namespace Scanner

/-- The place at which nothing more can be read. -/
def stuck (s : Scanner) (cause : TokenFault) : ScanEnd :=
  .stuck cause s.opened.head?

/-- What the end of the text means here. -/
def atEnd (s : Scanner) : ScanEnd :=
  match s.opened with
  | [] => .finished
  | o :: _ => s.stuck (.unclosedBracket o.1)

/-- What an end of the text right behind a backslash means here. -/
def cutOff (s : Scanner) : ScanEnd :=
  match s.opened with
  | [] => s.stuck .unexpectedEnd
  | o :: _ => s.stuck (.unclosedBracket o.1)

/-- One more token. -/
def push (s : Scanner) (kind : TokenKind) (text : List Char) (seesEnd : Bool) : Scanner :=
  { s with tokens := ⟨kind, String.ofList text, s.line, s.opened.length, seesEnd⟩ :: s.tokens }

/-- A token of the given length is taken from the text. -/
def take (s : Scanner) (kind : TokenKind) (length : Nat) (seesEnd : Bool) : Scanner :=
  let text := s.rest.take length
  let t := s.push kind text seesEnd
  { t with rest := s.rest.drop length, line := s.line + text.count '\n' }

/-- The text is over: what is left are the tokens. -/
def finish (s : Scanner) (ending : ScanEnd) : Scan :=
  let s := if ending = .finished then s.push .finish [] true else s
  ⟨s.tokens.reverse.toArray, ending⟩

/-- The measured blanks at the start of a line and the scanner behind them; a backslash at the end
of a line joins the next one. -/
def skipIndentation : Nat → Scanner → Indentation → Nat → Except ScanEnd (Scanner × Indentation)
  | 0, s, i, _ => .ok (s, i)
  | fuel + 1, s, i, joined =>
    match s.rest with
    | c :: cs =>
      if c = ' ' ∨ c = '\t' ∨ c = '\x0c' then
        skipIndentation fuel { s with rest := cs } (i.add c) joined
      else if c = '\\' then
        match cs with
        | ['\n'] => .error s.cutOff
        | '\n' :: ds =>
          skipIndentation fuel { s with rest := ds, line := s.line + 1 } i
            (if joined = 0 then i.wide else joined)
        | _ => .error (s.stuck .textAfterBackslash)
      else .ok (s, if joined = 0 then i else ⟨joined, joined⟩)
    | [] => .ok (s, if joined = 0 then i else ⟨joined, joined⟩)

/-- A line starts. -/
def startLine (s : Scanner) : Except ScanEnd Scanner := do
  let (t, i) ← skipIndentation (s.rest.length + 1) { s with atStart := false } {} 0
  let blank := (t.rest.head?.map fun c => c == '#' || c == '\n').getD false
  if blank || !t.opened.isEmpty then return { t with blank }
  else
    match changeIndentation t.levels i with
    | .error f => .error (t.stuck f)
    | .ok (levels, changes) =>
      return changes.foldl (fun t k => t.push k [] false) { t with levels, blank := false }

/-- A name or a string that starts here. -/
def takeName (s : Scanner) : Except ScanEnd Scanner :=
  match marksLength? {} s.rest with
  | some n =>
    match stringLength s.line (s.rest.drop n) with
    | .ok m => .ok (s.take .string (n + m) (m == 2 && (s.rest.drop (n + m)).isEmpty))
    | .error f => .error (.malformed f)
  | none =>
    let name := s.rest.takeWhile mayContinueName
    match if name.any (128 ≤ ·.toNat) then Text.identifierFlaw? name else none with
    | some c => .error (.malformed (.strangeCharacter c))
    | none => .ok (s.take .name name.length (name.length == s.rest.length))

/-- A number that starts here. -/
def takeNumber (s : Scanner) : Except ScanEnd Scanner :=
  match afterNumber s.rest with
  | .ok rest => .ok (s.take .number (s.rest.length - rest.length) rest.isEmpty)
  | .error f => .error (.malformed f)

/-- An operator that starts with the given character. -/
def takeOperator (s : Scanner) (c : Char) : Except ScanEnd Scanner :=
  let o := operatorAt s.rest
  if o.length = 1 ∧ !Text.isPrintable c then .error (.malformed (.strangeCharacter c))
  else
    match if o.length = 1 then bracketsAfter s.opened s.line c else .ok s.opened with
    | .error f => .error (.malformed f)
    | .ok opened =>
      let behind := s.rest.drop o.length
      let seesEnd := o.length < 3 && (behind.isEmpty || (c == '.' && behind == ['.']))
      .ok ({ s with opened }.take .operator o.length seesEnd)

/-- The next step behind blanks and comments, where a character stands. -/
def takeToken (s : Scanner) (c : Char) (cs : List Char) : Except ScanEnd Scanner :=
  if c = '\n' then
    let t := { s with rest := cs, line := s.line + 1, atStart := true }
    if s.blank || !s.opened.isEmpty then .ok t
    else .ok { s.push .newline [] false with rest := cs, line := s.line + 1, atStart := true }
  else if c = '\\' then
    match cs with
    | ['\n'] => .error s.cutOff
    | '\n' :: ds => .ok { s with rest := ds, line := s.line + 1 }
    | _ => .error (s.stuck .textAfterBackslash)
  else if c.isDigit || (c == '.' && (cs.head?.map Char.isDigit).getD false) then s.takeNumber
  else if mayContinueName c || isQuote c then s.takeName
  else s.takeOperator c

/-- One step: a blank, a comment or a token is taken from the text. -/
def step (s : Scanner) : Except ScanEnd Scanner :=
  if s.atStart then s.startLine
  else
    match s.rest with
    | [] => .error s.atEnd
    | c :: cs =>
      if c = ' ' ∨ c = '\t' ∨ c = '\x0c' then .ok { s with rest := cs }
      else if c = '#' then .ok { s with rest := cs.dropWhile (· != '\n') }
      else s.takeToken c cs

/-- All steps. -/
def run : Nat → Scanner → Scan
  | 0, s => s.finish .finished
  | fuel + 1, s =>
    match s.step with
    | .ok t => run fuel t
    | .error e => s.finish e

end Scanner

/-- Cuts a text into tokens. -/
def Token.scan (cs : List Char) : Scan :=
  let cs := Text.universalNewlines cs
  Scanner.run (2 * cs.length + 2) { rest := cs }

end ElmOnSave.Literal
