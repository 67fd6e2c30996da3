import ElmOnSave.Shell.Condition
import ElmOnSave.Shell.Expansion
import ElmOnSave.Shell.Printed

/-!
# Commands of the shell itself

A shell knows some commands that are no programs.  They change the shell or ask about it.  Each
takes its arguments and answers with a status; what runs further commands is not found here.
-/

namespace ElmOnSave.Shell

/-- A command of the shell itself: from its arguments to a status. -/
abbrev Builtin := List (List Char) → Act Nat

/-- The option letters at the front of arguments and the arguments behind them. -/
def readOptions (allowed : List Char) : List (List Char) → Act (List Char × List (List Char))
  | [] => return ([], [])
  | a :: rest =>
    match a with
    | ['-', '-'] => return ([], rest)
    | '-' :: c :: cs => do
      match (c :: cs).find? fun c => !allowed.contains c with
      | some c => fail ("Illegal option -".toList ++ [c])
      | none =>
        let (letters, rest) ← readOptions allowed rest
        return (c :: cs ++ letters, rest)
    | a => return ([], a :: rest)

/-- The number that an argument writes; it has no sign. -/
def readCount (w : List Char) : Act Nat :=
  match readNumber? (some 10) w with
  | some n => if n < 0 ∨ Nat.pow 2 31 ≤ n.toNat then fail (illegalNumber w) else return n.toNat
  | none => fail (illegalNumber w)

/-- A text between apostrophes, so that the shell reads it back. -/
def quotedText (cs : List Char) : List Char :=
  '\'' :: cs.flatMap (fun c => if c = '\'' then "'\"'\"'".toList else [c]) ++ ['\'']

/-- Prints a line. -/
def printLine (cs : List Char) : Act Unit :=
  modify fun s => s.write 1 (cs ++ ['\n'])

namespace Builtin

def nothing : Builtin := fun _ => return 0

def failure : Builtin := fun _ => return 1

/-- Prints a text, which fails if there is nowhere to print to. -/
def output (text : List Char) : Act Nat := do
  let s ← get
  if (s.fileNumber? 1).isNone && !text.isEmpty then do
    complain (s.running.getD [] ++ ": I/O error".toList)
    return 1
  else do
    set (s.write 1 text)
    return 0

def echo : Builtin := fun args => output (printedWords args)

def printf : Builtin := fun args => do
  let (_, args) ← readOptions [] args
  match args with
  | [] => fail "usage: printf format [arg ...]".toList
  | format :: args =>
    let p := printed format args
    p.complaints.forM complain
    let text := p.texts.reverse.flatten
    match p.invalid with
    | some directive => tryCatch (fail (directive ++ ": invalid directive".toList)) fun h => do
      modify fun s => s.write 1 text
      throw h
    | none =>
      let status ← output text
      return if p.failed then 1 else status

def test : Builtin := fun args => do
  match judgeWords (← get) args with
  | .ok answer => return if answer then 0 else 1
  | .error message => do
    complain message
    return 2

def bracket : Builtin := fun args =>
  if args.getLast? = some [']'] then test args.dropLast
  else do
    complain "missing ]".toList
    return 2

/-! ## Directories -/

def printDirectory : Builtin := fun args => do
  let _ ← readOptions "LP".toList args
  output ((← get).directoryText ++ ['\n'])

/-- Makes a path the working directory. -/
def enter (path : List Char) (shown : Bool) : Act Nat := do
  let s ← get
  match s.stat (if path.isEmpty then ['.'] else path) with
  | .ok (names, .directory) => do
    let old := (s.valueOf? "PWD".toList).getD s.directoryText
    modify fun s => { s with directory := names }
    assign "OLDPWD".toList old true
    let here := (← get).directoryText
    assign "PWD".toList here true
    if shown then printLine here
    return 0
  | _ => fail ("can't cd to ".toList ++ path)

def changeDirectory : Builtin := fun args => do
  let (_, args) ← readOptions "LP".toList args
  let s ← get
  match args with
  | [] =>
    match s.valueOf? "HOME".toList with
    | some home => enter home false
    | none => return 0
  | ['-'] :: _ => enter ((s.valueOf? "OLDPWD".toList).getD s.directoryText) true
  | path :: _ => enter path false

/-! ## Variables -/

/-- The name and the value of an assignment in an argument. -/
def cutAssignment (w : List Char) : List Char × Option (List Char) :=
  let name := w.takeWhile (· != '=')
  (name, if name.length = w.length then none else some (w.drop (name.length + 1)))

/-- Marks the variables that arguments name, after assigning the values they give. -/
def markVariables (mark : Variable → Variable) (args : List (List Char)) : Act Unit :=
  args.forM fun a => do
    let (name, value) := cutAssignment a
    if !isName name then fail (name ++ ": bad variable name".toList)
    else
      value.forM fun v => assign name v false
      modify fun s =>
        s.putVariable name (mark ((s.bindings.lookup name).getD ⟨none, false, false⟩))

/-- The variables with a mark, as commands that would set them. -/
def listVariables (command : String) (marked : Variable → Bool) : Act Unit := do
  let s ← get
  let found := s.bindings.filter fun e => marked e.2
  let lines := found.map fun (name, v) =>
    (name, match v.value with
      | some value => name ++ '=' :: quotedText value
      | none => name)
  (lines.mergeSort fun a b => decide (String.ofList a.1 ≤ String.ofList b.1)).forM fun l =>
    printLine ((if command = "" then [] else command.toList ++ [' ']) ++ l.2)

def exportNames : Builtin := fun args => do
  let (letters, names) ← readOptions ['p'] args
  if letters.isEmpty && !names.isEmpty then
    markVariables (fun v => { v with exported := true }) names
  else listVariables "export" Variable.exported
  return 0

def freezeNames : Builtin := fun args => do
  let (letters, names) ← readOptions ['p'] args
  if letters.isEmpty && !names.isEmpty then
    markVariables (fun v => { v with readOnly := true }) names
  else listVariables "readonly" Variable.readOnly
  return 0

def unsetNames : Builtin := fun args => do
  let (letters, names) ← readOptions "vf".toList args
  names.forM fun name => do
    let s ← get
    if letters.contains 'f' then
      set { s with functions := s.functions.filter fun e => e.1 != name }
    else if !isName name then fail (name ++ ": bad variable name".toList)
    else if (s.bindings.lookup name).any Variable.readOnly then
      fail (name ++ ": is read only".toList)
    else set (s.dropVariable name)
  return 0

/-- Lets the function that runs restore a variable when it ends. -/
def remember (name : List Char) : Act Unit :=
  modify fun s =>
    match s.scopes with
    | [] => s
    | scope :: scopes =>
      if scope.any (·.1 == name) then s
      else { s with scopes := ((name, s.bindings.lookup name) :: scope) :: scopes }

def localNames : Builtin := fun args => do
  if (← get).scopes.isEmpty then fail "not in a function".toList
  else
    args.forM fun a => do
      let (name, value) := cutAssignment a
      if !isName name then fail (name ++ ": bad variable name".toList)
      else
        remember name
        value.forM fun v => assign name v false
    return 0

/-! ## Options and arguments -/

/-- The names of options with their letters. -/
def optionNames : List (String × Char) :=
  [("errexit", 'e'), ("noglob", 'f'), ("ignoreeof", 'I'), ("interactive", 'i'), ("monitor", 'm'),
    ("noexec", 'n'), ("stdin", 's'), ("xtrace", 'x'), ("verbose", 'v'), ("vi", 'V'), ("emacs", 'E'),
    ("noclobber", 'C'), ("allexport", 'a'), ("notify", 'b'), ("nounset", 'u')]

/-- Sets or clears an option. -/
def setOption (on : Bool) (c : Char) : Act Unit :=
  if optionNames.any (·.2 == c) then
    modify fun s =>
      let others := s.options.filter (· != c)
      let letters := if on then c :: others else others
      { s with options := (optionNames.map Prod.snd).filter letters.contains }
  else fail ("Illegal option -".toList ++ [c])

/-- Sets or clears an option by its name. -/
def setNamedOption (on : Bool) (name : List Char) : Act Unit :=
  match optionNames.lookup (String.ofList name) with
  | some c => setOption on c
  | none => fail ("Illegal option -o ".toList ++ name)

/-- Takes the letters of one argument, of which one may want the next argument.  Answers whether
commands were asked for, which only a shell that is `starting` can be. -/
def takeLetters (starting on : Bool) : List Char → List (List Char) →
    Act (Bool × List (List Char))
  | [], rest => return (false, rest)
  | c :: cs, rest => do
    if c = 'c' ∧ starting then
      let (_, rest) ← takeLetters starting on cs rest
      return (true, rest)
    else if c = 'o' then do
      rest.head?.forM (setNamedOption on)
      takeLetters starting on cs (rest.drop 1)
    else do
      setOption on c
      takeLetters starting on cs rest

/-- Takes options from the front of arguments.  Answers whether commands were asked for and which
arguments follow, if the options are told to end or arguments do follow. -/
def takeOptions (starting : Bool) : (fuel : Nat) → List (List Char) →
    Act (Bool × Option (List (List Char)))
  | 0, _ => return (false, none)
  | _ + 1, [] => return (false, none)
  | fuel + 1, a :: rest => do
    match a with
    | ['-', '-'] => return (false, some rest)
    | ['-'] => do
      if !starting then
        modify fun s => { s with options := s.options.filter fun c => c != 'x' && c != 'v' }
      return (false, if rest.isEmpty then none else some rest)
    | '-' :: cs => do
      let (asked, rest) ← takeLetters starting true cs rest
      let (more, rest) ← takeOptions starting fuel rest
      return (asked || more, rest)
    | '+' :: cs => do
      let (asked, rest) ← takeLetters starting false cs rest
      let (more, rest) ← takeOptions starting fuel rest
      return (asked || more, rest)
    | a => return (false, some (a :: rest))

def configure : Builtin := fun args => do
  if args.isEmpty then listVariables "" fun v => v.value.isSome
  else
    match ← takeOptions false (args.length + 1) args with
    | (_, some arguments) => modify fun s => { s with arguments }
    | (_, none) => pure ()
  return 0

def shift : Builtin := fun args => do
  let n ← match args with
    | [] => pure 1
    | a :: _ => readCount a
  let s ← get
  if s.arguments.length < n then fail "can't shift that many".toList
  else
    set { s with arguments := s.arguments.drop n }
    return 0

/-! ## Leaving -/

/-- The status that an argument names, or else the latest one. -/
def statusOf (args : List (List Char)) : Act Nat := do
  match args with
  | [] => return (← get).status
  | a :: _ => readCount a

def exit : Builtin := fun args => do
  let n ← statusOf args
  modify fun s => { s with status := n % 256 }
  throw .exit

def finish : Builtin := fun args => do
  let n ← statusOf args
  modify fun s => { s with leaving := some .function }
  return n % 256

/-- Leaves loops, or starts their next round. -/
def leave (leaving : Nat → Leaving) : Builtin := fun args => do
  let n ← match args with
    | [] => pure 1
    | a :: _ => do
      let n ← readCount a
      if n = 0 then fail (illegalNumber a) else pure n
  let s ← get
  let n := min n s.loops
  if 0 < n then set { s with leaving := some (leaving n) }
  return 0

/-! ## Input -/

/-- The line that comes next, whether it is complete, and how many characters it takes; a backslash
joins lines and protects characters unless it has no meaning. -/
def inputLine (raw : Bool) : List Char → List Glyph × Bool × Nat
  | [] => ([], false, 0)
  | '\n' :: _ => ([], true, 1)
  | '\\' :: cs =>
    if raw then
      let (gs, complete, n) := inputLine raw cs
      (.char '\\' false :: gs, complete, n + 1)
    else
      match cs with
      | [] => ([], false, 1)
      | '\n' :: cs =>
        let (gs, complete, n) := inputLine raw cs
        (gs, complete, n + 2)
      | c :: cs =>
        let (gs, complete, n) := inputLine raw cs
        (.char c true :: gs, complete, n + 2)
  | c :: cs =>
    let (gs, complete, n) := inputLine raw cs
    (.char c false :: gs, complete, n + 1)

/-- The first field of a line and the rest of the line. -/
def cutField (separators : List Char) (gs : List Glyph) : List Glyph × List Glyph :=
  let separates := fun g =>
    match g with
    | .char c false => separators.contains c
    | _ => false
  let field := gs.takeWhile fun g => !separates g
  match gs.drop field.length with
  | .char c false :: rest =>
    (field, Cut.dropSeparators separators.contains (isBlankSeparator c) rest)
  | rest => (field, rest)

/-- Whether a glyph is a blank that separates. -/
def isBlankGlyph (separators : List Char) : Glyph → Bool
  | .char c false => separators.contains c && isBlankSeparator c
  | _ => false

/-- Assigns a value to a variable that an argument names. -/
def assignNamed (argument value : List Char) : Act Unit :=
  let name := argument.takeWhile (· != '=')
  if isName name then assign name value false
  else fail (name ++ ": bad variable name".toList)

/-- The values that variables get from a line: a field each, and the last one all that is left. -/
def assignFields (separators : List Char) : List (List Char) → List Glyph → Act Unit
  | [], _ => return ()
  | [name], gs => do
    let (field, rest) := cutField separators gs
    let whole := if rest.isEmpty then field
      else (gs.reverse.dropWhile (isBlankGlyph separators)).reverse
    assignNamed name (Glyph.text whole)
  | name :: names, gs => do
    let (field, rest) := cutField separators gs
    assignNamed name (Glyph.text field)
    assignFields separators names rest

def read : Builtin := fun args => do
  let (letters, names) ← readOptions "pr".toList args
  let names := if letters.contains 'p' then names.drop 1 else names
  if names.isEmpty then fail "arg count".toList
  else
    let s ← get
    let (gs, complete, n) := inputLine (letters.contains 'r') (s.pending 0)
    set (s.advance 0 n)
    assignFields s.separators names (gs.dropWhile (isBlankGlyph s.separators))
    return if complete then 0 else 1

/-! ## Processes -/

/-- The names of signals with their numbers. -/
def signalNames : List (String × Nat) :=
  [("HUP", 1), ("INT", 2), ("QUIT", 3), ("ILL", 4), ("TRAP", 5), ("ABRT", 6), ("BUS", 7),
    ("FPE", 8), ("KILL", 9), ("USR1", 10), ("SEGV", 11), ("USR2", 12), ("PIPE", 13), ("ALRM", 14),
    ("TERM", 15), ("CHLD", 17), ("CONT", 18), ("STOP", 19), ("TSTP", 20), ("TTIN", 21),
    ("TTOU", 22), ("URG", 23), ("XCPU", 24), ("XFSZ", 25), ("VTALRM", 26), ("PROF", 27),
    ("WINCH", 28), ("IO", 29), ("PWR", 30), ("SYS", 31)]

/-- Signals that do not end a process. -/
def harmlessSignals : List Nat := [0, 17, 18, 23, 28]

/-- The number of a signal that a text names. -/
def signal? (cs : List Char) : Option Nat :=
  if !cs.isEmpty && cs.all Char.isDigit then some (Text.ofDigits cs)
  else
    let name := String.ofList (cs.map Char.toUpper)
    signalNames.lookup name

/-- The signals that cannot be answered. -/
def mercilessSignals : List Nat := [9, 19]

/-- A signal arrives at this shell. -/
def receive (n : Nat) : Act Unit := do
  let s ← get
  match if mercilessSignals.contains n then none else s.traps.lookup n with
  | some [] => return ()
  | some _ => set { s with arrived := s.arrived ++ [n] }
  | none => if harmlessSignals.contains n then return () else throw (.signal n)

/-- The wording that tells how signals are sent. -/
def killUsage : List Char :=
  ("Usage: kill [-s sigspec | -signum | -sigspec] [pid | job]... or\n" ++
    "kill -l [exitstatus]").toList

/-- The signal that arguments ask for and the arguments behind it. -/
def takeSignal (args : List (List Char)) : Act (Nat × List (List Char)) := do
  match args with
  | ('-' :: name) :: rest =>
    match (signal? name).filter (· < 64), name, rest with
    | some n, _, _ => return (n, rest)
    | none, ['s'], name :: rest =>
      match (signal? name).filter (· < 64) with
      | some n => return (n, rest)
      | none => fail ("invalid signal number or name: ".toList ++ name)
    | none, ['s'], [] => fail "No arg for -s option".toList
    | none, _, _ => do
      let (_, rest) ← readOptions [] args
      return (15, rest)
  | rest => return (15, rest)

/-- Sends a signal to processes; only this shell is known. -/
def sendSignal (signal : Nat) (status : Nat) : List (List Char) → Act Nat
  | [] => return status
  | target :: more => do
    let own := target = Text.natDigits processNumber
    let _ ← readCount (if target.head? = some '-' then target.drop 1 else target)
    if own then
      receive signal
      sendSignal signal status more
    else
      complain "No such process\n".toList
      sendSignal signal 1 more

def kill : Builtin := fun args => do
  let (signal, targets) ← takeSignal args
  if targets.isEmpty then fail killUsage else sendSignal signal 0 targets

/-- Waits for processes; those that are left alone have ended. -/
def wait : Builtin := fun args => do
  let (_, targets) ← readOptions [] args
  targets.forM fun t =>
    if t.head? = some '%' then fail ("No such job: ".toList ++ t) else discard (readCount t)
  modify Session.settle
  let known := (← get).lastBackground.map Text.natDigits
  return if targets.getLast?.any fun t => some t != known then 127 else 0

/-- A number in the given number of octal digits, or more. -/
def octalText (width n : Nat) : List Char :=
  let digits := Nat.toDigits 8 n
  List.replicate (width - digits.length) '0' ++ digits

def mask : Builtin := fun args => do
  let (_, args) ← readOptions ['S'] args
  match args with
  | [] => output (octalText 4 (← get).mask ++ ['\n'])
  | a :: _ =>
    if a.head?.any Char.isDigit then
      if a.all fun c => '0' ≤ c && c ≤ '7' then do
        modify fun s => { s with mask := (octalIn a).1 % 512 }
        return 0
      else fail (illegalNumber a)
    else if a.all "ugoa+-=rwxXst,".toList.contains then return 0
    else fail ("Illegal mode: ".toList ++ a)

/-! ## Traps -/

/-- The number of an event that a text names. -/
def event? (cs : List Char) : Option Nat :=
  if String.ofList (cs.map Char.toUpper) = "EXIT" then some 0
  else (signal? cs).filter (· < 65)

/-- What an event is called. -/
def eventName (n : Nat) : List Char :=
  if n = 0 then "EXIT".toList
  else
    match signalNames.find? fun e => e.2 = n with
    | some (name, _) => name.toList
    | none => Text.natDigits n

/-- Lets an action answer events, or none. -/
def setTraps (action : Option (List Char)) : List (List Char) → Act Nat
  | [] => return 0
  | e :: es => do
    match event? e with
    | none => do
      modify fun s => s.write 2 ("trap: ".toList ++ e ++ ": bad trap\n".toList)
      return 1
    | some n => do
      modify fun s =>
        let others := s.traps.filter fun t => t.1 != n
        { s with traps := match action with
            | some a => (n, a) :: others
            | none => others }
      setTraps action es

def trap : Builtin := fun args => do
  let (_, args) ← readOptions [] args
  match args with
  | [] => do
    let traps := (← get).traps.mergeSort fun a b => a.1 ≤ b.1
    traps.forM fun t =>
      printLine ("trap -- ".toList ++ quotedText t.2 ++ ' ' :: eventName t.1)
    return 0
  | [e] => setTraps none [e]
  | action :: es =>
    if (event? action).isSome then setTraps none (action :: es)
    else setTraps (if action = ['-'] then none else some action) es

end Builtin

/-- The commands of the shell that need nothing but their arguments. -/
def builtins : List (String × Builtin) :=
  [(":", Builtin.nothing), ("true", Builtin.nothing), ("false", Builtin.failure),
    ("echo", Builtin.echo), ("printf", Builtin.printf), ("test", Builtin.test),
    ("[", Builtin.bracket), ("pwd", Builtin.printDirectory), ("cd", Builtin.changeDirectory),
    ("chdir", Builtin.changeDirectory), ("export", Builtin.exportNames),
    ("readonly", Builtin.freezeNames), ("unset", Builtin.unsetNames), ("local", Builtin.localNames),
    ("set", Builtin.configure), ("shift", Builtin.shift), ("exit", Builtin.exit),
    ("return", Builtin.finish), ("break", Builtin.leave .loops),
    ("continue", Builtin.leave .rounds), ("read", Builtin.read), ("kill", Builtin.kill),
    ("umask", Builtin.mask), ("trap", Builtin.trap), ("wait", Builtin.wait),
    ("hash", Builtin.nothing), ("jobs", Builtin.nothing), ("times", Builtin.nothing),
    ("alias", Builtin.nothing), ("unalias", Builtin.nothing), ("ulimit", Builtin.nothing)]

/-- The commands of the shell that run further commands. -/
def commandRunners : List String := [".", "command", "eval", "exec", "type"]

/-- Whether a command is one of the shell itself. -/
def isBuiltin (name : List Char) : Bool :=
  let text := String.ofList name
  (builtins.lookup text).isSome || commandRunners.contains text

end ElmOnSave.Shell
