/-!
# Arguments

The command line names a command, the saved file and options.  Options may stand before and after
the file, a value follows its option or an equals sign, the last of several equal options counts,
and two hyphens end the options.  `Request.ofWords?` reads the words of a command line and answers
with nothing when they make no sense.
-/

namespace ElmOnSave.CommandLine

/-- What the program can be asked to do. -/
inductive Action where
  /-- Handle one save and show what is published. -/
  | check
  /-- Show the compiler's command. -/
  | command
deriving Repr, DecidableEq, Inhabited

namespace Action

/-- The word for an action. -/
def word : Action → String
  | check => "check"
  | command => "command"

/-- The action with the given word. -/
def ofWord? (w : String) : Option Action :=
  [check, command].find? fun a => a.word == w

end Action

/-- What the user asked for. -/
structure Settings where
  /-- The root for files outside every project. -/
  workspaceRoot : Option String := none
  /-- The file of the configuration. -/
  config : Option String := none
  /-- The file of the analyzer's issues. -/
  analyzerReport : Option String := none
  /-- Whether records are printed as JSON. -/
  json : Bool := false
  emoji : Option Bool := none
  color : Option Bool := none
  /-- Whether details of the program's work are logged. -/
  debug : Bool := false
deriving Repr, DecidableEq, Inhabited

/-- What an option does to the settings, with or without a value. -/
inductive OptionEffect where
  | flag (set : Settings → Settings)
  | valued (set : String → Settings → Settings)

namespace Action

/-- The options of every action. -/
def commonOptions : List (String × OptionEffect) :=
  [("--workspace-root", .valued fun v s => { s with workspaceRoot := some v }),
    ("--config", .valued fun v s => { s with config := some v })]

/-- The options of an action. -/
def options : Action → List (String × OptionEffect)
  | command => commonOptions
  | check => commonOptions ++
    [("--analyzer-report", .valued fun v s => { s with analyzerReport := some v }),
      ("--json", .flag fun s => { s with json := true }),
      ("--emoji", .flag fun s => { s with emoji := some true }),
      ("--no-emoji", .flag fun s => { s with emoji := some false }),
      ("--color", .flag fun s => { s with color := some true }),
      ("--no-color", .flag fun s => { s with color := some false }),
      ("--debug", .flag fun s => { s with debug := true })]

end Action

/-- The words after the action: the files and the settings. -/
structure Words where
  files : List String := []
  settings : Settings := {}
deriving Repr, DecidableEq, Inhabited

/-- Whether a word is an option. -/
def isOption (w : String) : Bool :=
  w.startsWith "-" && w != "-"

/-- The name of an option and the value after an equals sign. -/
def splitOption (w : String) : String × Option String :=
  let cs := w.toList
  let name := cs.takeWhile (· != '=')
  (String.ofList name,
    if name.length < cs.length then some (String.ofList (cs.drop (name.length + 1))) else none)

namespace Words

/-- The words read so far with one more file. -/
def addFiles (a : Words) (files : List String) : Words :=
  { a with files := a.files ++ files }

/-- The words read so far with one more option. -/
def apply (a : Words) (set : Settings → Settings) : Words :=
  { a with settings := set a.settings }

/-- Reads words, given the options there are. -/
def read (options : List (String × OptionEffect)) : List String → Words → Option Words
  | [], a => some a
  | w :: ws, a =>
    if w = "--" then some (a.addFiles ws)
    else if isOption w then
      match options.lookup (splitOption w).1, (splitOption w).2 with
      | some (.flag set), none => read options ws (a.apply set)
      | some (.valued set), some v => read options ws (a.apply (set v))
      | some (.valued set), none =>
        match ws with
        | [] => none
        | v :: ws => read options ws (a.apply (set v))
      | _, _ => none
    else read options ws (a.addFiles [w])

end Words

/-- A command line that makes sense. -/
structure Request where
  action : Action
  file : String
  settings : Settings
deriving Repr, DecidableEq, Inhabited

/-- The words from the action on. -/
def fromAction : List String → List String
  | "--" :: ws => ws
  | ws => ws

/-- Reads a command line: an action, exactly one file and options of that action. -/
def Request.ofWords? (ws : List String) : Option Request :=
  match fromAction ws with
  | [] => none
  | w :: ws => do
    let action ← Action.ofWord? w
    let words ← Words.read action.options ws {}
    match words.files with
    | [file] => some ⟨action, file, words.settings⟩
    | _ => none

end ElmOnSave.CommandLine
