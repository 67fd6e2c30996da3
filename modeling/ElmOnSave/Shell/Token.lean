import ElmOnSave.Shell.Script
import ElmOnSave.Text.Digit

/-!
# The tokens of a script

A script is read from the front.  Operators, words and redirections are told apart, comments and
blanks are skipped, and a backslash at the end of a line joins it to the next one.  Inside a word,
quotations and substitutions nest: a substitution of a parameter holds a word again, and one of a
command holds commands, which are read by whoever knows how to read commands.
-/

namespace ElmOnSave.Shell

/-- Why a script cannot be read. -/
inductive SyntaxFault where
  /-- A token that cannot stand here, and the one that could. -/
  | unexpected (token : String) (expected : Option String)
  | badLoopVariable
  | badFunctionName
  | badDescriptor
  | unterminatedQuotation
  | missingBrace
  | missingParentheses
  | endInSubstitution
deriving Repr, DecidableEq, Inhabited

/-- The wording of a fault. -/
def SyntaxFault.message : SyntaxFault → String
  | unexpected token none => token ++ " unexpected"
  | unexpected token (some e) => token ++ " unexpected (expecting " ++ e ++ ")"
  | badLoopVariable => "Bad for loop variable"
  | badFunctionName => "Bad function name"
  | badDescriptor => "Bad fd number"
  | unterminatedQuotation => "Unterminated quoted string"
  | missingBrace => "Missing '\x7d'"
  | missingParentheses => "Missing '))'"
  | endInSubstitution => "EOF in backquote substitution"

/-- A fault and the line on which it shows. -/
structure SyntaxError where
  line : Nat
  fault : SyntaxFault
deriving Repr, DecidableEq, Inhabited

/-- What an arrow does with the word behind it. -/
inductive ArrowKind where
  | file (access : Access)
  | duplicate (input : Bool)
  /-- The word ends a document, whose lines may be indented. -/
  | document (indented : Bool)
deriving Repr, DecidableEq, Inhabited

/-- A token. -/
inductive Token where
  | ending
  | newline
  | operator (text : String)
  | keyword (text : String)
  | word (parts : Word) (quoted : Bool)
  | arrow (descriptor : Nat) (kind : ArrowKind)
deriving Inhabited

/-- What a token is called in the wording of a fault. -/
def Token.shown : Token → String
  | ending => "end of file"
  | newline => "newline"
  | operator t | keyword t => "\"" ++ t ++ "\""
  | word .. => "word"
  | arrow .. => "redirection"

/-- The words that have a meaning where a command may start. -/
def keywords : List String :=
  ["!", "case", "do", "done", "elif", "else", "esac", "fi", "for", "if", "in", "then", "until",
    "while", "\x7b", "\x7d"]

/-- A document that was announced on the line that is being read. -/
structure PendingDocument where
  number : Nat
  delimiter : List Char
  indented : Bool
  /-- Whether values are filled in. -/
  expands : Bool
deriving Repr, Inhabited

/-- A script that is being read. -/
structure Reader where
  rest : List Char
  line : Nat
  /-- A token that was read and given back. -/
  held : Option Token
  pending : List PendingDocument
  /-- The documents that have been read, by number. -/
  documents : List (Nat × Word)
  /-- The number of the next document. -/
  nextDocument : Nat
deriving Inhabited

/-- Reading a part of a script. -/
abbrev Reading (α : Type) := StateT Reader (Except SyntaxError) α

namespace Reader

/-- The script is at fault here. -/
def refuse {α : Type} (f : SyntaxFault) : Reading α := fun r => .error ⟨r.line, f⟩

/-- The next character. -/
def take : Reading (Option Char) := fun r =>
  match r.rest with
  | [] => .ok (none, r)
  | '\n' :: cs => .ok (some '\n', { r with rest := cs, line := r.line + 1 })
  | c :: cs => .ok (some c, { r with rest := cs })

/-- A text without the joined lines at its start, and how many there were. -/
def dropJoints (n : Nat) : List Char → List Char × Nat
  | '\\' :: '\n' :: cs => dropJoints (n + 1) cs
  | cs => (cs, n)

/-- The next character of joined lines. -/
def takeJoined : Reading (Option Char) := fun r =>
  let (rest, n) := dropJoints 0 r.rest
  take { r with rest, line := r.line + n }

/-- A character that was taken is put back. -/
def giveBack (c : Option Char) : Reading Unit := fun r =>
  match c with
  | none => .ok ((), r)
  | some c =>
    .ok ((), { r with rest := c :: r.rest, line := if c = '\n' then r.line - 1 else r.line })

/-- The run of characters of a class, in joined lines. -/
def takeRun (p : Char → Bool) : (fuel : Nat) → Reading (List Char)
  | 0 => pure []
  | fuel + 1 => do
    let c ← takeJoined
    match c with
    | some c => if p c then return c :: (← takeRun p fuel) else giveBack (some c); return []
    | none => return []

/-- As many rounds as reading can take. -/
def budget : Reading Nat := fun r => .ok (2 * r.rest.length + 4, r)

end Reader

open Reader

/-! ## Words -/

/-- What a text that is read in parts stands in. -/
inductive Enclosure where
  | word
  /-- The word that ends a document; a dollar sign has no meaning in it. -/
  | delimiter
  | braces
  | computation
  | document
deriving Repr, DecidableEq, Inhabited

/-- How the next character is taken. -/
inductive Quoting where
  | plain
  | single
  | double
deriving Repr, DecidableEq, Inhabited

/-- Whether a character ends a word. -/
def endsWord (c : Char) : Bool :=
  " \t\n;&|<>()".toList.contains c

/-- Whether a character names a parameter of the shell itself. -/
def isSpecialParameter (c : Char) : Bool :=
  c.isDigit || "#?$!-*@".toList.contains c

/-- How the commands inside a substitution are read; the flag tells those between backquotes. -/
abbrev Nested := Bool → Reading (Option Command)

/-- Parts that were read and whether anything among them was quoted. -/
abbrev Parts := List Part × Bool

/-- The text up to the closing backquote, without the backslashes that protect it. -/
def backquoted (double : Bool) : (fuel : Nat) → Reading (List Char)
  | 0 => refuse .endInSubstitution
  | fuel + 1 => do
    match ← takeJoined with
    | none => refuse .endInSubstitution
    | some '\x60' => return []
    | some '\\' =>
      match ← take with
      | none => refuse .endInSubstitution
      | some d =>
        let cs ← backquoted double fuel
        if d = '\\' ∨ d = '\x60' ∨ d = '$' ∨ (double ∧ d = '"') then return d :: cs
        else return '\\' :: d :: cs
    | some c => return c :: (← backquoted double fuel)

/-- The commands between backquotes. -/
def readBackquoted (nested : Nested) (double : Bool) : Reading Part := do
  let cs ← backquoted double (← budget)
  let outer ← get
  set { outer with rest := cs, line := 1, held := none, pending := [] }
  let body ← nested true
  modify fun r => { r with
    rest := outer.rest, line := outer.line, held := outer.held, pending := outer.pending }
  return .output body double

/-- The operator behind the name of a parameter, as far as it was understood, and whether the
substitution is over. -/
def readUse : Reading (ParameterUse × Bool) := do
  let c ← takeJoined
  let (evenEmpty, c) ← if c = some ':' then do pure (true, ← takeJoined) else pure (false, c)
  match c with
  | some '\x7d' => return if evenEmpty then (.meaningless, false) else (.plain, true)
  | some '-' => return (.orElse evenEmpty, false)
  | some '=' => return (.orAssign evenEmpty, false)
  | some '?' => return (.orFail evenEmpty, false)
  | some '+' => return (.ifPresent evenEmpty, false)
  | some '#' | some '%' =>
    if evenEmpty then return (.meaningless, false)
    else
      let d ← takeJoined
      let longest := d == c
      if !longest then giveBack d
      return (if c = some '#' then .dropStart longest else .dropEnd longest, false)
  | _ => return (.meaningless, false)

/-- The name of a parameter between braces, if there is one. -/
def readBracedName : Reading (Option (List Char)) := do
  let c ← takeJoined
  match c with
  | none => return none
  | some c =>
    if startsName c then return some (c :: (← takeRun continuesName (← budget)))
    else if c.isDigit then return some (c :: (← takeRun Char.isDigit (← budget)))
    else if isSpecialParameter c then return some [c]
    else do giveBack (some c); return none

/-- A parameter between braces up to its word: the name, the use and whether all is over. -/
def readBraced : Reading (List Char × ParameterUse × Bool) := do
  let c ← takeJoined
  if c = some '#' then
    let d ← takeJoined
    let e ← if d.any continuesName then pure none else takeJoined
    if d.any continuesName then
      giveBack d
      let name ← readBracedName
      let after ← takeJoined
      giveBack after
      return (name.getD [], if after = some '\x7d' then .length else .meaningless, false)
    else if d ≠ some '\x7d' ∧ e = some '\x7d' then
      giveBack e
      match d with
      | some d => return ([d], if isSpecialParameter d then .length else .meaningless, false)
      | none => return ([], .meaningless, false)
    else
      giveBack e
      giveBack d
      let (use, ended) ← readUse
      return (['#'], use, ended)
  else
    giveBack c
    match ← readBracedName with
    | none => do
      if c ≠ some '\x7d' then discard takeJoined
      return ([], .meaningless, false)
    | some name =>
      let (use, ended) ← readUse
      return (name, use, ended)

/-- Whether the word of a substitution is read without regard to the quotation around it. -/
def ParameterUse.isPattern : ParameterUse → Bool
  | dropStart _ | dropEnd _ => true
  | _ => false

/-- What a dollar sign announces, behind that sign. -/
def readDollar (nested : Nested) (parts : Enclosure → Quoting → Reading Parts) (double : Bool) :
    Reading Parts := do
  let c ← takeJoined
  match c with
  | some '(' =>
    let d ← takeJoined
    if d = some '(' then
      let (ps, quoted) ← parts .computation .double
      return ([.computation ps double], quoted)
    else
      giveBack d
      let outer ← get
      set { outer with held := none, pending := [] }
      let body ← nested false
      modify fun r => { r with held := outer.held, pending := outer.pending }
      return ([.output body double], false)
  | some '\x7b' =>
    let (name, use, ended) ← readBraced
    if ended then return ([.parameter name use [] double], false)
    else
      let (ps, quoted) ← parts .braces (if double && !use.isPattern then .double else .plain)
      return ([.parameter name use ps double], quoted)
  | some c =>
    if startsName c then
      let cs ← takeRun continuesName (← budget)
      return ([.parameter (c :: cs) .plain [] double], false)
    else if isSpecialParameter c then return ([.parameter [c] .plain [] double], false)
    else do
      giveBack (some c)
      return ([.letter '$'], false)
  | none => return ([.letter '$'], false)

/-- What a backslash makes of the character behind it. -/
def readEscaped (e : Enclosure) (double : Bool) : Reading (List Part) := do
  match ← take with
  | none => return [.literal '\\']
  | some d =>
    let bare := d ≠ '\\' ∧ d ≠ '\x60' ∧ d ≠ '$' ∧ (d ≠ '"' ∨ e = .document) ∧
      (d ≠ '\x7d' ∨ e ≠ .braces)
    return if double ∧ bare then [.literal '\\', .literal d] else [.literal d]

/-- Reads parts up to the end of what encloses them; `inner` tells a quotation that was begun inside
braces, `depth` counts open parentheses, and the parts come with the latest first. -/
def readParts (nested : Nested) : (fuel : Nat) → Enclosure → (start : Quoting) → Quoting →
    (inner : Bool) → (depth : Nat) → List Part → (quoted : Bool) → Reading Parts
  | 0, _, _, _, _, _, ps, quoted => return (ps.reverse, quoted)
  | fuel + 1, e, start, q, inner, depth, ps, quoted => do
    let again := readParts nested fuel e start
    let inside := fun e' q' => readParts nested fuel e' q' q' false 0 [] false
    let c ← if q = .single then take else takeJoined
    match c, q with
    | none, _ =>
      if e = .computation then refuse .missingParentheses
      else if q ≠ .plain ∧ e ≠ .document then refuse .unterminatedQuotation
      else if e = .braces then refuse .missingBrace
      else return (ps.reverse, quoted)
    | some '\'', .single => again .plain (inner ^^ e = .braces) depth (.quote :: ps) true
    | some c, .single => again q inner depth (.literal c :: ps) quoted
    | some '\\', _ =>
      let new ← readEscaped e (q = .double)
      again q inner depth (new.reverse ++ ps) true
    | some '$', _ =>
      if e = .delimiter then again q inner depth (.letter '$' :: ps) quoted
      else
        let (new, more) ← readDollar nested inside (q = .double)
        again q inner depth (new.reverse ++ ps) (quoted || more)
    | some '\x60', _ =>
      if e = .delimiter then again q inner depth (.letter '\x60' :: ps) quoted
      else
        let new ← readBackquoted nested (q = .double)
        again q inner depth (new :: ps) quoted
    | some '\x7d', _ =>
      if e = .braces ∧ !inner then return (ps.reverse, quoted)
      else
        let part := if q = .double then Part.literal '\x7d' else .letter '\x7d'
        again q inner depth (part :: ps) quoted
    | some '\'', .plain => again .single (inner ^^ e = .braces) depth (.quote :: ps) true
    | some '"', .plain => again .double (inner ^^ e = .braces) depth (.quote :: ps) true
    | some '"', .double =>
      if e = .document ∨ e = .computation then again q inner depth (.letter '"' :: ps) quoted
      else
        let next := if e = .braces ∧ start = .double then Quoting.double else .plain
        again next (inner ^^ e = .braces) depth (.quote :: ps) true
    | some c, .double =>
      if e = .computation then
        if c = '(' then again q inner (depth + 1) (.letter c :: ps) quoted
        else if c = ')' then
          if 0 < depth then again q inner (depth - 1) (.letter c :: ps) quoted
          else
            let d ← takeJoined
            if d = some ')' then return (ps.reverse, quoted)
            else do
              giveBack d
              again q inner depth (.letter c :: ps) quoted
        else again q inner depth (.letter c :: ps) quoted
      else again q inner depth (.literal c :: ps) quoted
    | some c, .plain =>
      if endsWord c ∧ (e = .word ∨ e = .delimiter) then do
        giveBack (some c)
        return (ps.reverse, quoted)
      else again q inner depth (.letter c :: ps) quoted

/-- The parts of a word. -/
def readWord (nested : Nested) (e : Enclosure) : Reading Parts := do
  readParts nested (← budget) e .plain .plain false 0 [] false

/-! ## Documents -/

/-- The rest of a line and what follows it. -/
def cutLine (cs : List Char) : List Char × List Char :=
  let line := cs.takeWhile (· != '\n')
  (line, cs.drop (line.length + 1))

/-- The text of a document and what follows it. -/
def cutDocument (d : PendingDocument) : (fuel : Nat) → (fresh : Bool) → List Char →
    List Char × List Char
  | 0, _, cs => ([], cs)
  | _ + 1, _, [] => ([], [])
  | fuel + 1, true, cs =>
    let cs := if d.indented then cs.dropWhile (· == '\t') else cs
    let (line, rest) := cutLine cs
    if line = d.delimiter then ([], rest) else cutDocument d fuel false cs
  | fuel + 1, false, c :: cs =>
    match c, cs with
    | '\\', c' :: cs' =>
      if d.expands then
        let (text, rest) := cutDocument d fuel false cs'
        (if c' = '\n' then text else c :: c' :: text, rest)
      else
        let (text, rest) := cutDocument d fuel false cs
        (c :: text, rest)
    | _, _ =>
      let (text, rest) := cutDocument d fuel (c == '\n') cs
      (c :: text, rest)

/-- Reads one document. -/
def readDocument (nested : Nested) (d : PendingDocument) : Reading Unit := do
  let outer ← get
  let (text, rest) := cutDocument d (2 * outer.rest.length + 4) true outer.rest
  let parts ←
    if d.expands then do
      set { outer with rest := text, held := none, pending := [] }
      let steps := 2 * text.length + 4
      let (ps, _) ← readParts nested steps .document .double .double false 0 [] false
      pure ps
    else pure (text.map Part.literal)
  modify fun r => { r with
    rest, held := outer.held, pending := outer.pending
    line := outer.line + ((outer.rest.take (outer.rest.length - rest.length)).count '\n')
    documents := (d.number, parts) :: r.documents }

/-- Reads the documents that were announced. -/
def readDocuments (nested : Nested) : Reading Unit := do
  let r ← get
  set { r with pending := [] }
  r.pending.forM (readDocument nested)

/-! ## Tokens -/

/-- The first character behind blanks and a comment. -/
def takeVisible : (fuel : Nat) → Reading (Option Char)
  | 0 => pure none
  | fuel + 1 => do
    match ← takeJoined with
    | some ' ' | some '\t' => takeVisible fuel
    | some '#' => do
      modify fun r => { r with rest := r.rest.dropWhile (· != '\n') }
      takeVisible fuel
    | c => return c

/-- An operator that may be doubled. -/
def readOperator (c : Char) : Reading Token := do
  let d ← takeJoined
  if d = some c then return .operator (String.ofList [c, c])
  else do
    giveBack d
    return .operator (String.ofList [c])

/-- What an arrow to the left means. -/
def readInputArrow : Reading ArrowKind := do
  let c ← takeJoined
  match c with
  | some '<' =>
    let d ← takeJoined
    if d = some '-' then return .document true
    else do
      giveBack d
      return .document false
  | some '&' => return .duplicate true
  | some '>' => return .file .readWrite
  | c => do
    giveBack c
    return .file .read

/-- What an arrow to the right means. -/
def readOutputArrow : Reading ArrowKind := do
  let c ← takeJoined
  match c with
  | some '>' => return .file .append
  | some '|' => return .file .write
  | some '&' => return .duplicate false
  | c => do
    giveBack c
    return .file .write

/-- The descriptor in front of an arrow, if the parts may stand there. -/
def arrowDescriptor? (parts : Parts) : Option (Option Nat) :=
  match parts with
  | ([], false) => some none
  | ([.letter c], false) => if c.isDigit then some (some (c.toNat - 48)) else none
  | _ => none

/-- A word or a redirection. -/
def readWordToken (nested : Nested) (e : Enclosure) : Reading Token := do
  let parts ← readWord nested e
  let r ← get
  match r.rest.head?, arrowDescriptor? parts with
  | some '<', some d => do
    discard take
    return .arrow (d.getD 0) (← readInputArrow)
  | some '>', some d => do
    discard take
    return .arrow (d.getD 1) (← readOutputArrow)
  | _, _ => return .word parts.1 parts.2

/-- The next token, whatever it may mean. -/
def readToken (nested : Nested) (e : Enclosure) : Reading Token := do
  let r ← get
  match r.held with
  | some t => do
    set { r with held := none }
    return t
  | none =>
    match ← takeVisible (← budget) with
    | none => return .ending
    | some '\n' => return .newline
    | some '(' => return .operator "("
    | some ')' => return .operator ")"
    | some c =>
      if c = '&' ∨ c = '|' ∨ c = ';' then readOperator c
      else do
        giveBack (some c)
        readWordToken nested e

/-- A token is given back. -/
def holdToken (t : Token) : Reading Unit :=
  modify fun r => { r with held := some t }

/-- A word that is a keyword, as that keyword. -/
def Token.asKeyword : Token → Token
  | .word ps false =>
    match lettersOf? ps with
    | some cs => if keywords.contains (String.ofList cs) then .keyword (String.ofList cs)
      else .word ps false
    | none => .word ps false
  | t => t

/-- The next token where no keyword is looked for. -/
def nextToken (nested : Nested) : Reading Token := readToken nested .word

/-- The next token where a command may start. -/
def nextKeyword (nested : Nested) : Reading Token :=
  return (← readToken nested .word).asKeyword

/-- The next token behind line ends, where a command may start. -/
def nextBeyondLines (nested : Nested) : Reading Token := do
  let rec go : (fuel : Nat) → Reading Token
    | 0 => pure .ending
    | fuel + 1 => do
      match ← readToken nested .word with
      | .newline => do
        readDocuments nested
        go fuel
      | t => return t.asKeyword
  go (← budget)

end ElmOnSave.Shell
