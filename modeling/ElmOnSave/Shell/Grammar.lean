import ElmOnSave.Shell.Token

/-!
# The grammar of scripts

Commands are read from tokens, one line at a time: a line is run before the next one is read, so a
fault further down does not keep earlier lines from running.
-/

namespace ElmOnSave.Shell

open Reader

/-- The commands of the shell that end it when they fail. -/
def specialCommands : List String :=
  [".", ":", "break", "continue", "eval", "exec", "exit", "export", "local", "readonly", "return",
    "set", "shift", "times", "trap", "unset"]

/-- Where a list of commands ends. -/
inductive ListMode where
  /-- At the end of the line. -/
  | line
  /-- At a token that ends a block, after at least one command. -/
  | block
  /-- At a token that ends a block. -/
  | any
deriving Repr, DecidableEq, Inhabited

/-- How lists of commands are read. -/
abbrev Lists := ListMode → Reading (Option Command)

/-- Refuses a token. -/
def unexpected {α : Type} (t : Token) (expected : Option Token := none) : Reading α :=
  refuse (.unexpected t.shown (expected.map Token.shown))

/-- Whether a token is the given keyword. -/
def Token.isKeyword (t : Token) (text : String) : Bool :=
  match t with
  | .keyword k => k == text
  | _ => false

/-- Whether a token is the given operator. -/
def Token.isOperator (t : Token) (text : String) : Bool :=
  match t with
  | .operator k => k == text
  | _ => false

/-- Whether a token ends a block. -/
def Token.endsBlock : Token → Bool
  | .ending => true
  | .operator t => [")", ";;"].contains t
  | .keyword t => ["do", "done", "elif", "else", "esac", "fi", "then", "\x7d"].contains t
  | _ => false

/-- The commands of a substitution.  Between backquotes they end where a block may end, and what
follows does not count. -/
def nestedCommands (lists : Lists) : Nested := fun backquoted => do
  let nested : Nested := fun _ => return none
  let body ← lists .any
  if backquoted then return body
  else
    let t ← nextToken nested
    if t.isOperator ")" then return body else unexpected t (some (.operator ")"))

section

variable (nested : Nested) (lists : Lists)

/-- The next token has to be the given one. -/
def expectToken (expected : Token) : Reading Unit := do
  let t ← nextToken nested
  match t, expected with
  | .operator a, .operator b => if a = b then return () else unexpected t (some expected)
  | .keyword a, .keyword b => if a = b then return () else unexpected t (some expected)
  | t, _ => unexpected t (some expected)

/-- The next token behind line ends has to be the given keyword. -/
def expectKeyword (text : String) : Reading Unit := do
  let t ← nextBeyondLines nested
  if t.isKeyword text then return () else unexpected t (some (.keyword text))

/-- The word behind an arrow and the redirection it gives. -/
def readRedirection (descriptor : Nat) (kind : ArrowKind) : Reading Redirection := do
  let e := match kind with
    | .document _ => Enclosure.delimiter
    | _ => .word
  match ← readToken nested e with
  | .word ps quoted =>
    match kind with
    | .file access => return .file descriptor access ps
    | .duplicate input => return .duplicate descriptor input ps
    | .document indented => do
      let r ← get
      let delimiter := ps.filterMap fun p =>
        match p with
        | .letter c | .literal c => some c
        | _ => none
      let document : PendingDocument := ⟨r.nextDocument, delimiter, indented, !quoted⟩
      set { r with
        pending := r.pending ++ [document]
        nextDocument := r.nextDocument + 1 }
      return .document descriptor r.nextDocument
  | t => unexpected t

/-- The redirections that come next. -/
def readRedirections : (fuel : Nat) → Reading (List Redirection)
  | 0 => pure []
  | fuel + 1 => do
    match ← nextKeyword nested with
    | .arrow d k => return (← readRedirection nested d k) :: (← readRedirections fuel)
    | t => do
      holdToken t
      return []

/-- The words up to a token that is none, and that token. -/
def readWords : (fuel : Nat) → Reading (List Word × Token)
  | 0 => pure ([], .ending)
  | fuel + 1 => do
    match ← nextToken nested with
    | .word ps _ => do
      let (ws, t) ← readWords fuel
      return (ps :: ws, t)
    | t => return ([], t)

/-! ## Compound commands -/

/-- What follows the test of a conditional. -/
def readConditional : (fuel : Nat) → Reading Command
  | 0 => unexpected .ending
  | fuel + 1 => do
    let test ← lists .block
    expectToken nested (.keyword "then")
    let yes ← lists .block
    let t ← nextToken nested
    if t.isKeyword "elif" then return .conditional test yes (some (← readConditional fuel))
    else if t.isKeyword "else" then return .conditional test yes (← lists .block)
    else do
      holdToken t
      return .conditional test yes none

/-- The parameters of the shell, each a word of its own. -/
def allArguments : Word :=
  [.quote, .parameter ['@'] .plain [] true, .quote]

/-- What follows the word that starts a loop over words. -/
def readForEach : Reading Command := do
  let name ←
    match ← nextToken nested with
    | .word ps false =>
      match lettersOf? ps with
      | some cs => if isName cs then pure cs else refuse .badLoopVariable
      | none => refuse .badLoopVariable
    | _ => refuse .badLoopVariable
  let line := (← get).line
  let t ← nextBeyondLines nested
  let words ←
    if t.isKeyword "in" then do
      let (ws, t) ← readWords nested (← budget)
      match t with
      | .newline => pure ws
      | t => if t.isOperator ";" then pure ws else unexpected t
    else do
      if !t.isOperator ";" then holdToken t
      pure [allArguments]
  expectKeyword nested "do"
  let body ← lists .block
  expectToken nested (.keyword "done")
  return .forEach line name words body

/-- The patterns of a branch behind the first token. -/
def readPatterns : (fuel : Nat) → Token → Reading (List Word)
  | 0, t => unexpected t
  | fuel + 1, t => do
    let pattern ←
      match t with
      | .word ps _ => pure ps
      | .keyword k => pure (k.toList.map Part.letter)
      | t => unexpected t
    let next ← nextToken nested
    if next.isOperator "|" then return pattern :: (← readPatterns fuel (← nextToken nested))
    else if next.isOperator ")" then return [pattern]
    else unexpected next (some (.operator ")"))

/-- The branches of a choice. -/
def readBranches : (fuel : Nat) → Reading (List Branch)
  | 0 => unexpected .ending
  | fuel + 1 => do
    let t ← nextBeyondLines nested
    if t.isKeyword "esac" then return []
    else
      let t ← if t.isOperator "(" then nextToken nested else pure t
      let patterns ← readPatterns nested (← budget) t
      let body ← lists .any
      let t ← nextBeyondLines nested
      if t.isKeyword "esac" then return [.mk patterns body]
      else if t.isOperator ";;" then return .mk patterns body :: (← readBranches fuel)
      else unexpected t (some (.operator ";;"))

/-- What follows the word that starts a choice. -/
def readChoice : Reading Command := do
  let line := (← get).line
  let subject ←
    match ← nextToken nested with
    | .word ps _ => pure ps
    | t => unexpected t (some (.word [] false))
  expectKeyword nested "in"
  return .choice line subject (← readBranches nested lists (← budget))

/-- A compound command with the redirections behind it. -/
def withRedirections (line : Nat) (c : Command) : Reading Command := do
  let rs ← readRedirections nested (← budget)
  match c, rs with
  | .subshell l body _, rs => return .subshell l body rs
  | c, [] => return c
  | c, rs => return .redirected line (some c) rs

/-! ## Simple commands -/

/-- The pieces of a simple command, the latest first. -/
structure SimpleParts where
  assignments : List Word
  words : List Word
  redirections : List Redirection
deriving Inhabited

/-- The name of a function that is defined here, if the pieces are nothing but a name. -/
def SimpleParts.functionName? (s : SimpleParts) : Option Word :=
  match s with
  | ⟨[], [w], []⟩ => some w
  | _ => none

/-- Reads the pieces of a simple command from a token on; a function definition stops it behind the
first parenthesis. -/
def readSimpleParts : (fuel : Nat) → SimpleParts → Token → Reading (SimpleParts × Bool)
  | 0, s, _ => return (s, false)
  | fuel + 1, s, t => do
    match t with
    | .word ps _ =>
      let s :=
        if s.words.isEmpty && (assignment? ps).isSome then
          { s with assignments := ps :: s.assignments }
        else { s with words := ps :: s.words }
      readSimpleParts fuel s (← nextToken nested)
    | .arrow d k =>
      let r ← readRedirection nested d k
      readSimpleParts fuel { s with redirections := r :: s.redirections } (← nextToken nested)
    | t =>
      if t.isOperator "(" && s.functionName?.isSome then return (s, true)
      else do
        holdToken t
        return (s, false)

/-- The name under which a word defines a function. -/
def definedName (w : Word) : Reading (List Char) :=
  match lettersOf? w with
  | some cs =>
    if isName cs && !specialCommands.contains (String.ofList cs) then return cs
    else refuse .badFunctionName
  | none => refuse .badFunctionName

/-- A command from its first token on. -/
def readCommand : (fuel : Nat) → Token → Reading Command
  | 0, t => unexpected t
  | fuel + 1, t => do
    let line := (← get).line
    match t with
    | .keyword "if" =>
      let c ← readConditional nested lists (← budget)
      expectToken nested (.keyword "fi")
      withRedirections nested line c
    | .keyword "while" | .keyword "until" =>
      let test ← lists .block
      expectToken nested (.keyword "do")
      let body ← lists .block
      expectToken nested (.keyword "done")
      withRedirections nested line (.loop (t.isKeyword "while") test body)
    | .keyword "for" => withRedirections nested line (← readForEach nested lists)
    | .keyword "case" => withRedirections nested line (← readChoice nested lists)
    | .operator "(" =>
      let body ← lists .block
      expectToken nested (.operator ")")
      withRedirections nested line (.subshell line body [])
    | .keyword "\x7b" =>
      let body ← lists .block
      expectToken nested (.keyword "\x7d")
      let rs ← readRedirections nested (← budget)
      match body, rs with
      | some c, [] => return c
      | body, rs => return .redirected line body rs
    | .word .. | .arrow .. =>
      let (s, isDefinition) ← readSimpleParts nested (← budget) ⟨[], [], []⟩ t
      match isDefinition, s.functionName? with
      | true, some w =>
        expectToken nested (.operator ")")
        let name ← definedName w
        return .definition name (← readCommand fuel (← nextBeyondLines nested))
      | _, _ =>
        return .simple line s.assignments.reverse s.words.reverse s.redirections.reverse
    | t => unexpected t

/-! ## Lists of commands -/

/-- The commands of a pipeline behind the first one. -/
def readPiped : (fuel : Nat) → Reading (List Command)
  | 0 => pure []
  | fuel + 1 => do
    let t ← nextToken nested
    if t.isOperator "|" then
      let c ← readCommand nested lists (← budget) (← nextBeyondLines nested)
      return c :: (← readPiped fuel)
    else do
      holdToken t
      return []

/-- A pipeline from its first token on. -/
def readPipeline (t : Token) : Reading Command := do
  let negated := t.isKeyword "!"
  let t ← if negated then nextKeyword nested else pure t
  let first ← readCommand nested lists (← budget) t
  let more ← readPiped nested lists (← budget)
  let c := if more.isEmpty then first else .pipeline (first :: more)
  return if negated then .negation c else c

/-- Pipelines joined by what the one before them comes to. -/
def readJoined : (fuel : Nat) → Command → Reading Command
  | 0, c => pure c
  | fuel + 1, c => do
    let t ← nextToken nested
    if t.isOperator "&&" then
      readJoined fuel (.both c (← readPipeline nested lists (← nextBeyondLines nested)))
    else if t.isOperator "||" then
      readJoined fuel (.either c (← readPipeline nested lists (← nextBeyondLines nested)))
    else do
      holdToken t
      return c

/-- A list of commands behind the given one. -/
def readListFrom (mode : ListMode) : (fuel : Nat) → Option Command → Reading (Option Command)
  | 0, c => pure c
  | fuel + 1, before => do
    let t ← if mode = .line then nextKeyword nested else nextBeyondLines nested
    match t with
    | .newline => do
      readDocuments nested
      return before
    | .ending => do
      readDocuments nested
      holdToken .ending
      return before
    | t =>
      if t.endsBlock && (mode = .any || (mode = .block && before.isSome)) then do
        holdToken t
        return before
      else
        let c ← readJoined nested lists (← budget) (← readPipeline nested lists t)
        let t ← nextToken nested
        let c := if t.isOperator "&" then .background c else c
        let all := match before with
          | none => c
          | some b => .sequence b c
        match t with
        | .ending => do
          readDocuments nested
          holdToken .ending
          return some all
        | .newline => do
          holdToken .newline
          readListFrom mode fuel (some all)
        | t =>
          if t.isOperator "&" || t.isOperator ";" then readListFrom mode fuel (some all)
          else if mode = .line then unexpected t
          else do
            holdToken t
            return some all

end

/-- A list of commands; the fuel bounds how deep commands nest. -/
def readList : (fuel : Nat) → Lists
  | 0, _ => unexpected .ending
  | fuel + 1, mode => do
    let lists := readList fuel
    readListFrom (nestedCommands lists) lists mode (← budget) none

namespace Reader

/-- A script of which nothing was read. -/
def ofText (cs : List Char) : Reader :=
  ⟨cs, 1, none, [], [], 0⟩

/-- Whether nothing is left of a script. -/
def isOver (r : Reader) : Bool :=
  r.rest.isEmpty

/-- The commands on the next line. -/
def nextLine (r : Reader) : Except SyntaxError (Option Command × Reader) :=
  readList (r.rest.length + 2) .line { r with held := none }

end Reader

end ElmOnSave.Shell
