import ElmOnSave.Shell.Builtin
import ElmOnSave.Shell.Redirection

/-!
# Running commands

A command changes the session it runs in and leaves a status.  What runs in a process of its own,
such as the parts of a pipeline, changes only what all processes share.  `runCommand` recurses on a
fuel that bounds how deep commands, functions and scripts nest; every kind of command is defined on
its own, given how the commands inside it are run.
-/

namespace ElmOnSave.Shell

/-- How a command is run; the flag tells that somebody looks at its status. -/
abbrev Runner := Bool → Command → Act Unit

/-- Sets the status. -/
def setStatus (n : Nat) : Act Unit :=
  modify fun s => { s with status := n }

/-- An act after which a session is put in order, however the act ends. -/
def restoring {α : Type} (act : Act α) (restore : Session → Session) : Act α :=
  ExceptT.mk fun s =>
    let (r, t) := act.run s
    (r, restore t)

/-- A faulty act is given up, and what it left unfinished is forgotten. -/
def forgiving (act : Act Unit) : Act Unit := do
  let s ← get
  tryCatch act fun h =>
    match h with
    | .fault => modify fun t => { t with
        running := s.running, loops := s.loops, calls := s.calls, leaving := s.leaving
        arguments := s.arguments, scopes := s.scopes }
    | h => throw h

/-! ## Texts -/

/-- Runs the commands of a text, line by line. -/
def runLines (run : Runner) (tested : Bool) : (fuel : Nat) → Reader → (status : Nat) → Act Unit
  | 0, _, status => setStatus status
  | fuel + 1, r, status =>
    if r.isOver then setStatus status
    else
      match r.nextLine with
      | .error e => do
        modify fun s => { s with readLine := e.line }
        failReading e.fault.message.toList
      | .ok (c, r) => do
        modify fun s => { s with
          documents := r.documents ++ s.documents, readLine := r.line }
        let r := { r with documents := [] }
        match c with
        | none => runLines run tested fuel r status
        | some c => do
          run tested c
          let s ← get
          if s.leaving.isSome then return () else runLines run tested fuel r s.status

/-- Runs the commands of a text. -/
def runText (run : Runner) (tested : Bool) (cs : List Char) : Act Unit := do
  let next := ((← get).documents.map fun d => d.1 + 1).foldl max 0
  runLines run tested (cs.length + 1) { Reader.ofText cs with nextDocument := next } 0

/-- The signals that arrived are answered; the status stays what it was. -/
def answerSignals (run : Runner) : Act Unit := do
  let s ← get
  set { s with arrived := [] }
  s.arrived.forM fun n => do
    match s.traps.lookup n with
    | some text => do
      runText run false text
      setStatus s.status
    | none => return ()

/-- An act as the last one of a shell: what was to be done at its end follows, and keeps the
status. -/
def withFarewell (run : Runner) (act : Act Unit) : Act Unit := do
  let ending ← tryCatch (do act; return Halt.exit) fun h => return h
  match ending with
  | .signal n => throw (.signal n)
  | _ => do
    let s ← get
    match s.traps.lookup 0 with
    | none => return ()
    | some text => do
      set { s with traps := s.traps.filter fun t => t.1 != 0, leaving := none }
      tryCatch (do runText run false text; setStatus s.status) fun h =>
        match h with
        | .signal n => throw (.signal n)
        | .exit => return ()
        | .fault => setStatus s.status

/-- Runs an act in a process of its own, and answers with its status. -/
def isolated (run : Runner) (act : Act Unit) : Act Nat := do
  let s ← get
  let (r, t) := (withFarewell run act).run { s with traps := [], arrived := [], readLine := 1 }
  set { s with world := t.world }
  match r with
  | .error (.signal n) => throw (.signal n)
  | _ => return t.status

/-- What a command writes when it runs in a process of its own. -/
def outputOf (run : Runner) : Outputs := fun body => do
  match body with
  | none => return []
  | some c => do
    let (s, n) := (← get).addFile ⟨.stream [], 0, false⟩
    set s
    let status ← isolated run do
      modify fun s => s.connect 1 n
      run false c
    modify fun s => { s.settle with outputStatus := status }
    let s ← get
    return ((s.world.openFiles[n]?).map s.world.contentOf).getD []

/-! ## Programs -/

/-- A shell in its first moment, with what it gets from whoever starts it. -/
def Session.fresh (world : World) (directory : List String) (descriptors : List (Nat × Nat))
    (name : List Char) : Session :=
  let own : List (List Char × Variable) :=
    [("OPTIND".toList, ⟨some ['1'], false, false⟩),
      ("PS1".toList, ⟨some "$ ".toList, false, false⟩),
      ("PS2".toList, ⟨some "> ".toList, false, false⟩),
      ("PS4".toList, ⟨some "+ ".toList, false, false⟩),
      ("IFS".toList, ⟨some " \t\n".toList, false, false⟩),
      ("PWD".toList, ⟨some (encoded (Path.mk .root directory).text), true, false⟩)]
  let given := world.machine.environment.filterMap fun (name, value) =>
    let name := encoded name
    if isName name && !own.any (·.1 == name) then
      some (name, (⟨some (encoded value), true, false⟩ : Variable))
    else none
  { world, name, line := 0, readLine := 1, running := none, directory, bindings := own ++ given
    functions := [], arguments := [], status := 0, outputStatus := 0, descriptors, options := []
    documents := [], loops := 0, calls := 0, leaving := none, scopes := [], traps := []
    arrived := [], mask := 0o22, located := [], lastBackground := none }

/-- Runs a shell with the arguments it was started with: options, and then a text of commands or
the path of a script. -/
def runShell (run : Runner) (args : List (List Char)) : Act Unit := do
  let (asked, args) ← Builtin.takeOptions true (args.length + 1) args
  let args := args.getD []
  match asked, args with
  | true, [] => fail "-c requires an argument".toList
  | true, text :: rest => do
    modify fun s => { s with
      name := rest.head?.getD s.name, arguments := rest.drop 1, line := 1 }
    runText run false text
  | false, [] => do
    let text := (← get).pending 0
    modify fun s => (s.advance 0 text.length)
    runText run false text
  | false, path :: rest => do
    let s ← get
    match s.stat path with
    | .ok (_, .file content _ _) => do
      set { s with name := path, arguments := rest, line := 1 }
      runText run false (ofOctets content)
    | .ok _ => return ()
    | .error e => fail ("cannot open ".toList ++ path ++ ": ".toList ++ openFault false e)

/-- What the program that writes its arguments writes. -/
def echoed : (quiet escapes : Bool) → List (List Char) → List Char
  | quiet, escapes, a :: rest =>
    match a with
    | '-' :: c :: cs =>
      if (c :: cs).all "neE".toList.contains then
        echoed (quiet || (c :: cs).contains 'n')
          (((c :: cs).reverse.find? (· != 'n')).elim escapes (· == 'e')) rest
      else finish quiet escapes (a :: rest)
    | a => finish quiet escapes (a :: rest)
  | quiet, escapes, [] => finish quiet escapes []
where
  finish (quiet escapes : Bool) (args : List (List Char)) : List Char :=
    let line := List.intercalate [' '] args
    let (text, ended) := if escapes then unescape (line.length + 1) line else (line, false)
    if quiet || ended then text else text ++ ['\n']

/-- How a character without a picture is written in a word for a shell. -/
def shownControl? (c : Char) : Option (List Char) :=
  match c with
  | '\n' => some ['\\', 'n']
  | '\t' => some ['\\', 't']
  | '\r' => some ['\\', 'r']
  | c => if c.toNat = 7 then some ['\\', 'a'] else if c.toNat = 8 then some ['\\', 'b']
    else if c.toNat = 11 then some ['\\', 'v'] else if c.toNat = 12 then some ['\\', 'f']
    else if c.toNat < 32 ∨ c.toNat = 127 then some ('\\' :: Builtin.octalText 3 c.toNat)
    else none

/-- The inside of a word between apostrophes; `escaping` tells whether the characters in front were
escaped. -/
def shownInside : (escaping : Bool) → List Char → List Char
  | _, [] => []
  | escaping, c :: cs =>
    match shownControl? c with
    | some e => (if escaping then e else "'$'".toList ++ e) ++ shownInside true cs
    | none =>
      let close := if escaping then "''".toList else []
      let shown := if c = '\'' then "'\\''".toList else [c]
      close ++ shown ++ shownInside false cs

/-- A path as a word for a shell: between apostrophes or quotes, if a shell would not take it as
one word. -/
def shownPath (cs : List Char) : List Char :=
  let special := "!\"$&()*;<=>?[\\^|".toList ++ [Char.ofNat 0x60]
  let isPlain := fun c => !special.contains c && (shownControl? c).isNone
  let opens := match cs with
    | [] => true
    | [c] => "#~\x7b\x7d".toList.contains c
    | c :: _ => ['#', '~'].contains c
  let isBrace := fun c => c == '\x7b' || c == '\x7d'
  if !opens && cs.all fun c => isPlain c && c != ' ' && c != '\'' then cs
  else if cs.contains '\'' && cs.all (fun c => isPlain c && !isBrace c) &&
      (cs.drop 1).all (fun c => c != '#' && c != '~') then
    '"' :: cs ++ ['"']
  else '\'' :: shownInside false cs ++ ['\'']

/-- Writes files one after the other. -/
def concatenate (name : List Char) (args : List (List Char)) : Act Unit := do
  let blame := fun (path : List Char) (e : Errno) =>
    name ++ ": ".toList ++ shownPath path ++ ": ".toList ++ e.message.toList ++ ['\n']
  let args := if args.isEmpty then [['-']] else args
  setStatus 0
  args.forM fun a => do
    let s ← get
    if a = ['-'] then
      let text := s.pending 0
      set ((s.advance 0 text.length).write 1 text)
    else
      match s.stat a with
      | .ok (_, .file content _ _) => set (s.write 1 (ofOctets content))
      | .ok (_, .device) => return ()
      | .ok (_, .directory) =>
        set { s.write 2 (blame a .isDirectory) with status := 1 }
      | .error e => set { s.write 2 (blame a e) with status := 1 }

/-- The paths at which a program may be. -/
def programPaths (search : Option (List Char)) (name : List Char) : List (List Char) :=
  if name.contains '/' then [name]
  else
    (Text.splitAll (· == ':') (search.getD [])).map fun d =>
      if d.isEmpty then name else d ++ '/' :: name

/-- Whether an octet may stand in the first line of a script. -/
def isScriptOctet (o : UInt8) : Bool :=
  (9 ≤ o && o ≤ 15) || o == 27 || (32 ≤ o && o != 127)

/-- How many octets are looked at to tell whether a file is a script. -/
def scriptSample : Nat := 128

/-- Whether a file may be a script of this shell. -/
def isShellScript (content : Octets) : Bool :=
  ((content.take scriptSample).takeWhile (· != 10)).all isScriptOctet

/-- What runs when one of several paths is run.  A text that does not name what runs it is a script
of this shell. -/
def Session.imageAmong (s : Session) (args : List String) :
    List (List Char) → Errno → Except Errno Image
  | [], e => .error e
  | p :: ps, e =>
    match s.world.machine.image s.directory (decoded p) args with
    | .ok i => .ok i
    | .error e' =>
      let isScript : Bool := match s.stat p with
        | .ok (_, .file content _ _) => isShellScript content
        | _ => false
      if e' = .notExecutable ∧ isScript = true then .ok ⟨.shell, [], "/bin/sh", decoded p :: args⟩
      else s.imageAmong args ps (if e' = .noEntry ∨ e' = .notDirectory then e else e')

/-- The status for a program that cannot be run. -/
def refusalStatus : Errno → Nat
  | .noEntry | .notDirectory | .nameTooLong | .endlessChain => 127
  | _ => 126

/-- The wording for a program that cannot be run. -/
def refusalText : Errno → List Char
  | .noEntry | .notDirectory => "not found".toList
  | e => e.message.toList

/-- The assignments in front of the arguments of the program that changes variables. -/
def givenVariables (args : List (List Char)) : List (String × String) × List (List Char) :=
  let given := args.takeWhile fun a => a.contains '='
  (given.map fun a =>
    let (name, value) := Builtin.cutAssignment a
    (decoded name, decoded (value.getD [])), args.drop given.length)

/-- Runs a program; a signal ends it as a halt. -/
def perform (run : Runner) : (fuel : Nat) → Image → Act Unit
  | 0, _ => return ()
  | fuel + 1, i => do
    let s ← get
    let args := i.args.map encoded
    match i.program with
    | .fixed p =>
      let record : RunRecord := ⟨i.names, (Path.mk .root s.directory).text, i.args⟩
      let s := { s with world := { s.world with runs := record :: s.world.runs } }
      let s := (s.write 1 (ofOctets p.stdout)).write 2 (ofOctets p.stderr)
      match p.sleep with
      | some seconds => set { s with world := s.world.paused seconds, status := 0 }
      | none => set { s with status := p.exit % 256 }
    | .echo => set { s.write 1 (echoed false false args) with status := 0 }
    | .concatenate => concatenate (encoded i.calledBy) args
    | .environment =>
      let bare := args.head? == some ['-', 'i']
      let (given, rest) := givenVariables (if bare then args.drop 1 else args)
      let old : List (String × String) := if bare then [] else s.environment
      let environment : List (String × String) :=
        given ++ old.filter fun e => !given.any (·.1 == e.1)
      match rest with
      | [] =>
        set { s with status := 0 }
        environment.forM fun e => discard (Builtin.output (encoded (e.1 ++ "=" ++ e.2) ++ ['\n']))
      | program :: more =>
        let search := (environment.lookup "PATH").map encoded
        let m := { s.world.machine with environment }
        let inner := { s with
          world := { s.world with machine := m }
          bindings := environment.map fun (e : String × String) =>
            (encoded e.1, ⟨some (encoded e.2), true, false⟩) }
        let paths := (programPaths search program).map decoded
        let image := Machine.firstImage m s.directory (more.map decoded) paths .noEntry
        match image with
        | .ok i => do
          set inner
          perform run fuel i
        | .error e => do
          let message := "env: ".toList ++ Text.quoted (.whole (decoded program)) ++ ": ".toList ++
            e.message.toList ++ ['\n']
          set { s.write 2 message with status := if e = Errno.noEntry then 127 else 126 }
    | .shell =>
      let m := { s.world.machine with environment := s.environment }
      let child := Session.fresh { s.world with machine := m } s.directory s.descriptors
        (encoded i.calledBy)
      let (r, t) := (withFarewell run (runShell run args)).run child
      set { s with world := t.world, status := t.status }
      match r with
      | .error (.signal n) => throw (.signal n)
      | _ => return ()

/-- The session in which a program is known to have been found. -/
def Session.locate (s : Session) (name : List Char) : Session :=
  if name.contains '/' || s.located.contains name then s
  else { s with located := name :: s.located }

/-- How deep programs may run each other. -/
def performBudget : Nat := 64

/-- Runs a program that is not part of the shell, in place of the shell or beside it. -/
def runProgram (run : Runner) (name : List Char) (args : List (List Char)) (replaces : Bool) :
    Act Unit := do
  let s ← get
  let search := s.valueOf? "PATH".toList
  let paths := programPaths search name
  let known := name.contains '/' || paths.any fun p => (s.stat p).toOption.any fun r => r.2.isFile
  let image := s.imageAmong (args.map decoded) paths .noEntry
  let present := paths.any fun p => (s.stat p).toBool
  match if known || replaces then image else .error .noEntry with
  | .error e => do
    let shown := if !known && !replaces && present then Errno.permissionDenied else e
    complain (name ++ ": ".toList ++ refusalText shown)
    setStatus (refusalStatus e)
    if replaces then throw .exit else return ()
  | .ok i =>
    if replaces then do
      modify Session.settle
      perform run performBudget i
      modify fun s => { s with traps := [] }
      throw .exit
    else do
      let (r, t) := (perform run performBudget i).run { s.settle with running := none }
      let status := match r with
        | .error (.signal n) => 128 + n
        | _ => t.status
      set { s.locate name with world := t.world, status }

/-! ## Simple commands -/

/-- What a name stands for. -/
inductive Meaning where
  | program
  | builtin
  | function (body : Command)
deriving Inhabited

/-- What a name stands for in a session. -/
def Session.meaning (s : Session) (noFunctions : Bool) (name : List Char) : Meaning :=
  if name.contains '/' then .program
  else
    match if noFunctions then none else s.functions.lookup name with
    | some body => .function body
    | none => if isBuiltin name then .builtin else .program

/-- The fields of words up to the first word that comes to any, and the words that are left. -/
def firstFields (outputs : Outputs) : List Word → Act (List (List Char) × List Word)
  | [] => return ([], [])
  | w :: ws => do
    let fields ← expandFields outputs w
    if fields.isEmpty then firstFields outputs ws else return (fields, ws)

/-- The name of a command with the words behind it. -/
structure Resolved where
  meaning : Meaning
  fields : List (List Char)
  rest : List Word
  /-- Whether the command ends the shell when it fails and keeps what is assigned in front of it. -/
  special : Bool
  /-- Whether assignments in front of the command are local to it. -/
  localAssignments : Bool
deriving Inhabited

/-- The place of the name that the command for plain commands is given, if it is given one. -/
def skipOptions (outputs : Outputs) : (fuel : Nat) → List (List Char) → List Word →
    Act (Option (List (List Char) × List Word))
  | 0, _, _ => return none
  | fuel + 1, fields, rest => do
    let (fields, rest) ← if fields.isEmpty then firstFields outputs rest else pure (fields, rest)
    match fields with
    | [] => return none
    | ['-', '-'] :: more => do
      let (fields, rest) ← if more.isEmpty then firstFields outputs rest else pure (more, rest)
      return if fields.isEmpty then none else some (fields, rest)
    | ('-' :: c :: cs) :: more =>
      if (c :: cs).all (· == 'p') then skipOptions outputs fuel more rest else return none
    | fields => return some (fields, rest)

/-- Finds out what a command is. -/
def resolve (outputs : Outputs) : (fuel : Nat) → (first : Option Bool) → (noFunctions : Bool) →
    List (List Char) → List Word → Act Resolved
  | 0, _, _, fields, rest => return ⟨.program, fields, rest, false, true⟩
  | fuel + 1, first, noFunctions, fields, rest => do
    let s ← get
    let name := fields.headD []
    let meaning := s.meaning noFunctions name
    let isSpecial := specialCommands.contains (String.ofList name)
    match meaning with
    | .builtin =>
      let special := first.getD isSpecial
      if name = "command".toList then
        match ← skipOptions outputs (rest.length + fields.length + 1) (fields.drop 1) rest with
        | some (fields, rest) => resolve outputs fuel (some special) true fields rest
        | none => return ⟨.builtin, fields, rest, special, !special⟩
      else return ⟨.builtin, fields, rest, special, !special⟩
    | meaning => return ⟨meaning, fields, rest, first.getD false, true⟩

/-- The fields of the words behind a name; a command that assigns takes assignments whole. -/
def moreFields (outputs : Outputs) (assigns : Bool) (ws : List Word) : Act (List (List Char)) := do
  let rows ← ws.mapM fun w => do
    match if assigns then assignment? w else none with
    | some (name, value) =>
      return [name ++ '=' :: (← expandText outputs .value value)]
    | none => expandFields outputs w
  return rows.flatten

/-- What a name stands for, in a line. -/
def describe (s : Session) (brief : Bool) (name : List Char) : Option (List Char) :=
  let known := fun (what : String) => some (if brief then name else name ++ what.toList)
  let text := String.ofList name
  if keywords.contains text then known " is a shell keyword"
  else
    match s.meaning false name with
    | .function _ => known " is a shell function"
    | .builtin =>
      known (if specialCommands.contains text then " is a special shell builtin"
        else " is a shell builtin")
    | .program =>
      let found := (programPaths (s.valueOf? "PATH".toList) name).find? fun p =>
        (s.stat p).toOption.any fun r => name.contains '/' || r.2.isFile
      let link := if s.located.contains name then " is a tracked alias for " else " is "
      found.map fun p => if brief then p else name ++ link.toList ++ p

/-- Says what names stand for. -/
def describeAll (brief : Bool) (names : List (List Char)) : Act Nat := do
  let statuses ← names.mapM fun name => do
    let s ← get
    match describe s brief name with
    | some line => do
      if s.meaning false name matches .program then set (s.locate name)
      Builtin.output (line ++ ['\n'])
    | none => do
      if !brief then discard (Builtin.output (name ++ ": not found\n".toList))
      return 127
  return statuses.getLast?.getD 0

/-- Runs the commands of a file in this shell. -/
def runFile (run : Runner) (tested : Bool) (args : List (List Char)) : Act Unit := do
  match args with
  | [] => setStatus 0
  | path :: _ => do
    let s ← get
    let search := s.valueOf? "PATH".toList
    match (programPaths search path).find? fun p => (s.stat p).toOption.any (·.2.isFile) with
    | none =>
      if path.contains '/' then
        match s.stat path with
        | .error e => fail ("cannot open ".toList ++ path ++ ": ".toList ++ openFault false e)
        | .ok _ => setStatus 0
      else fail (path ++ ": not found".toList)
    | some p =>
      match s.stat p with
      | .ok (_, .file content _ _) => do
        modify fun s => { s with calls := s.calls + 1, running := none }
        runText run tested (ofOctets content)
        modify fun s => { s with calls := s.calls - 1
                                 leaving := if s.leaving = some .function then none else s.leaving }
      | _ => return ()

/-- Runs a command of the shell itself. -/
def runBuiltin (run : Runner) (tested : Bool) (name : List Char) (args : List (List Char)) :
    Act Unit := do
  let outer := (← get).running
  modify fun s => { s with running := some name }
  let text := String.ofList name
  match text with
  | "eval" =>
    if args.isEmpty then setStatus 0 else runText run tested (List.intercalate [' '] args)
  | "." => runFile run tested args
  | "exec" =>
    match args with
    | [] => setStatus 0
    | program :: args => runProgram run program args true
  | "type" => setStatus (← describeAll false args)
  | "command" => do
    let (letters, names) ← readOptions "pvV".toList args
    if letters.isEmpty then setStatus 0
    else setStatus (← describeAll (letters.contains 'v') (names.take 1))
  | _ =>
    match builtins.lookup text with
    | some b => do
      setStatus (← b args)
      answerSignals run
    | none => setStatus 127
  modify fun s => { s with running := outer }

/-- How deep functions may call each other. -/
def callLimit : Nat := 1000

/-- Runs a function. -/
def runFunction (run : Runner) (tested : Bool) (body : Command) (args : List (List Char)) :
    Act Unit := do
  let s ← get
  if callLimit ≤ s.scopes.length then
    fail ("Maximum function recursion depth (".toList ++ Text.natDigits callLimit ++
      ") reached".toList)
  set { s with arguments := args, loops := 0, calls := s.calls + 1, scopes := [] :: s.scopes }
  restoring (run tested body) fun t =>
    let saved := t.scopes.headD []
    let t := saved.foldl (fun t (name, old) =>
      match old with
      | some v => t.putVariable name v
      | none => t.dropVariable name) t
    { t with
      arguments := s.arguments, loops := s.loops, calls := s.calls, scopes := s.scopes
      leaving := if t.leaving = some .function then none else t.leaving }

/-- Assigns the values of assignments; answers with the variables as they were. -/
def assignAll (outputs : Outputs) (exported : Bool) (ws : List Word) :
    Act (List (List Char × Option Variable)) :=
  ws.mapM fun w => do
    match assignment? w with
    | some (name, value) => do
      let text ← expandText outputs .value value
      let old := (← get).bindings.lookup name
      assign name text exported
      return (name, old)
    | none => return ([], none)

/-- Runs an act with redirections in effect.  If one of them fails, the status tells. -/
def redirecting (openings : List Opening) (special keeps : Bool) (act : Act Unit) : Act Unit := do
  let s ← get
  let opened ← tryCatch (do openings.forM Opening.apply; return true) fun h =>
    match h with
    | .fault => do
      modify fun t => { t with descriptors := s.descriptors }
      if special then throw .fault else return false
    | h => throw h
  if !opened then return ()
  else if keeps then act
  else restoring act fun t => { t with descriptors := s.descriptors }

/-- Runs a simple command. -/
def runSimple (run : Runner) (tested : Bool) (line : Nat) (assignments words : List Word)
    (redirections : List Redirection) : Act Unit := do
  let outputs := outputOf run
  modify fun s => { s with line, outputStatus := 0 }
  let (fields, rest) ← firstFields outputs words
  if fields.isEmpty then
    let openings ← redirections.mapM (Redirection.opening outputs)
    redirecting openings false false do
      let _ ← assignAll outputs false assignments
      setStatus (← get).outputStatus
  else
    let r ← resolve outputs (words.length + fields.length + 1) none false fields rest
    let name := r.fields.headD []
    let assigns := (r.meaning matches .builtin) &&
      ["export", "readonly", "local", "alias"].contains (String.ofList name)
    let args := r.fields.drop 1 ++ (← moreFields outputs assigns r.rest)
    let openings ← redirections.mapM (Redirection.opening outputs)
    let execs := (r.meaning matches .builtin) && name == "exec".toList
    redirecting openings r.special (execs && args.isEmpty) do
      let olds ← assignAll outputs (r.localAssignments || (execs && !args.isEmpty)) assignments
      let act : Act Unit := match r.meaning with
        | .program => runProgram run name args false
        | .function body => runFunction run tested body args
        | .builtin =>
          let act := runBuiltin run tested name args
          if r.special then act else forgiving act
      if r.localAssignments then
        restoring act fun t => olds.foldr (fun (name, old) t =>
          match old with
          | some v => t.putVariable name v
          | none => t.dropVariable name) t
      else act

/-! ## Compound commands -/

/-- Runs a command, if there is one. -/
def runOptional (run : Runner) (tested : Bool) : Option Command → Act Unit
  | none => setStatus 0
  | some c => run tested c

/-- Whether a loop stops because something is to be left; what concerns this loop alone is done. -/
def stopsLoop : Act Bool := do
  let s ← get
  match s.leaving with
  | none => return false
  | some .function => return true
  | some (.loops n) => do
    set { s with leaving := if n ≤ 1 then none else some (.loops (n - 1)) }
    return true
  | some (.rounds n) => do
    set { s with leaving := if n ≤ 1 then none else some (.rounds (n - 1)) }
    return 1 < n

/-- The greatest number of rounds of a loop. -/
def roundLimit : Nat := 100000

/-- Runs a loop with a test. -/
def runLoop (run : Runner) (tested outcome : Bool) (test body : Option Command) :
    (fuel : Nat) → (status : Nat) → Act Unit
  | 0, status => setStatus status
  | fuel + 1, status => do
    runOptional run true test
    let s ← get
    let left := s.leaving.isSome
    if ← stopsLoop then
      if s.leaving = some .function then return () else setStatus status
    else if left then runLoop run tested outcome test body fuel status
    else if (s.status == 0) != outcome then setStatus status
    else
      runOptional run tested body
      let status := (← get).status
      if ← stopsLoop then setStatus status
      else runLoop run tested outcome test body fuel status

/-- Runs a loop over values. -/
def runEach (run : Runner) (tested : Bool) (name : List Char) (body : Option Command) :
    List (List Char) → Act Unit
  | [] => return ()
  | v :: vs => do
    assign name v false
    runOptional run tested body
    if ← stopsLoop then return () else runEach run tested name body vs

/-- Runs an act as a loop. -/
def looping (act : Act Unit) : Act Unit := do
  modify fun s => { s with loops := s.loops + 1 }
  act
  modify fun s => { s with loops := s.loops - 1 }

/-- Whether one of several patterns matches a text. -/
def anyAccepts (outputs : Outputs) (subject : List Char) : List Word → Act Bool
  | [] => return false
  | w :: ws => do
    if (← expandPattern outputs w).accepts subject then return true
    else anyAccepts outputs subject ws

/-- Runs the first branch with a pattern that matches. -/
def runBranches (run : Runner) (tested : Bool) (subject : List Char) : List Branch → Act Unit
  | [] => setStatus 0
  | .mk patterns body :: more => do
    if ← anyAccepts (outputOf run) subject patterns then runOptional run tested body
    else runBranches run tested subject more

/-- Runs the commands of a pipeline, each with the output of the one before. -/
def runPipeline (run : Runner) (tested : Bool) : (input : Option Nat) → List Command → Act Unit
  | _, [] => return ()
  | input, c :: cs => do
    let (s, n) := (← get).addFile ⟨.stream [], 0, false⟩
    set s
    let status ← isolated run do
      input.forM fun i => modify fun s => s.connect 0 i
      if !cs.isEmpty then modify fun s => s.connect 1 n
      run tested c
    modify Session.settle
    if cs.isEmpty then setStatus status else runPipeline run tested (some n) cs

/-- Runs a command that nobody waits for.  What it writes shows later. -/
def runBackground (run : Runner) (tested : Bool) (body : Command) : Act Unit := do
  let s ← get
  let t := (s.postpone 1).postpone 2
  set { s with world := { t.world with late := [] } }
  discard <| isolated run do
    modify fun s => { s with descriptors := t.descriptors }
    run tested body
    modify Session.settle
  modify fun s => { s with
    world := { s.world with late := t.world.late }
    lastBackground := some (processNumber + 1), status := 0 }

/-- The shell ends after a failure, if it is strict and nobody looks at the status. -/
def endIfStrict (tested : Bool) : Act Unit := do
  let s ← get
  if s.has 'e' && !tested && s.status != 0 then throw .exit else return ()

/-- Runs a command. -/
def runCommand : (fuel : Nat) → Runner
  | 0, _, _ => throw .exit
  | fuel + 1, tested, c => do
    let run := runCommand fuel
    if (← get).has 'n' then return () else
    match c with
    | .simple line assignments words redirections => do
      runSimple run tested line assignments words redirections
      endIfStrict tested
    | .pipeline cs => do
      runPipeline run tested none cs
      endIfStrict tested
    | .background body => runBackground run tested body
    | .negation body => do
      run true body
      setStatus (if (← get).status = 0 then 1 else 0)
    | .both a b => do
      run true a
      let s ← get
      if s.status = 0 && s.leaving.isNone then run tested b else return ()
    | .either a b => do
      run true a
      let s ← get
      if s.status != 0 && s.leaving.isNone then run tested b else return ()
    | .sequence a b => do
      run tested a
      if (← get).leaving.isNone then run tested b else return ()
    | .redirected line body redirections => do
      modify fun s => { s with line }
      let openings ← redirections.mapM (Redirection.opening (outputOf run))
      redirecting openings false false (runOptional run tested body)
    | .subshell line body redirections => do
      modify fun s => { s with line }
      let openings ← redirections.mapM (Redirection.opening (outputOf run))
      let status ← isolated run (redirecting openings true false (runOptional run tested body))
      setStatus status
      endIfStrict tested
    | .conditional test yes no => do
      runOptional run true test
      let s ← get
      if s.leaving.isSome then return ()
      else if s.status = 0 then runOptional run tested yes
      else runOptional run tested no
    | .loop outcome test body => looping (runLoop run tested outcome test body roundLimit 0)
    | .forEach line name words body => do
      modify fun s => { s with line }
      let values ← moreFields (outputOf run) false words
      if values.isEmpty then setStatus 0
      else looping (runEach run tested name body values)
    | .choice line subject branches => do
      modify fun s => { s with line }
      let text ← expandText (outputOf run) .text subject
      runBranches run tested text branches
    | .definition name body => do
      modify fun s => { s with
        functions := (name, body) :: s.functions.filter fun e => e.1 != name }
      setStatus 0

/-- How deep commands may nest. -/
def nestingLimit : Nat := 20000

end ElmOnSave.Shell
