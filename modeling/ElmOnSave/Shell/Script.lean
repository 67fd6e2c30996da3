import ElmOnSave.Text.Basic

/-!
# Scripts

A shell reads a text of octets; here an octet stands as the character of the same number.  What it
reads is a `Command`: programs with their words and redirections, joined by the connectives of the
language.  A `Word` is kept in parts, because most of it is only known when the command runs: the
values of parameters, the output of commands and the results of computations are filled in then.
-/

namespace ElmOnSave.Shell

/-- How the value of a parameter is used.  The flag of the first four says whether an empty value
counts as a missing one, the flag of the next two whether the longest match is taken. -/
inductive ParameterUse where
  | plain
  | orElse (evenEmpty : Bool)
  | orAssign (evenEmpty : Bool)
  | orFail (evenEmpty : Bool)
  | ifPresent (evenEmpty : Bool)
  | dropStart (longest : Bool)
  | dropEnd (longest : Bool)
  /-- The number of octets of the value. -/
  | length
  /-- The spelling has no meaning. -/
  | meaningless
deriving Repr, DecidableEq, Inhabited

/-- How a redirection opens its file. -/
inductive Access where
  | read
  | write
  | append
  | readWrite
deriving Repr, DecidableEq, Inhabited

mutual

/-- A part of a word. -/
inductive Part where
  /-- A character that may have a meaning of its own, such as an asterisk. -/
  | letter (c : Char)
  /-- A character that stands for itself. -/
  | literal (c : Char)
  /-- A place where a quotation starts or ends. -/
  | quote
  /-- The value of a parameter, used with the help of a word; a quoted value is one piece. -/
  | parameter (name : List Char) (use : ParameterUse) (word : List Part) (quoted : Bool)
  /-- What a command writes. -/
  | output (body : Option Command) (quoted : Bool)
  /-- The result of a computation. -/
  | computation (expression : List Part) (quoted : Bool)

/-- A command. -/
inductive Command where
  /-- Assignments, words and redirections on a line. -/
  | simple (line : Nat) (assignments words : List (List Part)) (redirections : List Redirection)
  /-- The output of each command is the input of the next. -/
  | pipeline (commands : List Command)
  /-- A command nobody waits for. -/
  | background (body : Command)
  | negation (body : Command)
  /-- The second command runs if the first succeeds. -/
  | both (first second : Command)
  /-- The second command runs if the first fails. -/
  | either (first second : Command)
  | sequence (first second : Command)
  | redirected (line : Nat) (body : Option Command) (redirections : List Redirection)
  /-- A command in a shell of its own. -/
  | subshell (line : Nat) (body : Option Command) (redirections : List Redirection)
  | conditional (test : Option Command) (yes no : Option Command)
  /-- A loop that goes on as long as the test has the given outcome. -/
  | loop (outcome : Bool) (test body : Option Command)
  | forEach (line : Nat) (name : List Char) (words : List (List Part)) (body : Option Command)
  | choice (line : Nat) (subject : List Part) (branches : List Branch)
  | definition (name : List Char) (body : Command)

/-- Patterns with the command that runs when one of them matches. -/
inductive Branch where
  | mk (patterns : List (List Part)) (body : Option Command)

/-- A change of the files a command reads and writes. -/
inductive Redirection where
  | file (descriptor : Nat) (access : Access) (path : List Part)
  /-- The descriptor becomes the same as another one, or is closed. -/
  | duplicate (descriptor : Nat) (input : Bool) (origin : List Part)
  /-- The descriptor reads a text that stands in the script: the document with the given number. -/
  | document (descriptor : Nat) (number : Nat)

end

instance : Inhabited Part := ⟨.quote⟩
instance : Inhabited Command := ⟨.pipeline []⟩
instance : Inhabited Branch := ⟨.mk [] none⟩
instance : Inhabited Redirection := ⟨.document 0 0⟩

/-- A word in parts. -/
abbrev Word := List Part

/-! ## Names -/

/-- Whether a character may start the name of a variable. -/
def startsName (c : Char) : Bool :=
  c.isAlpha || c == '_'

/-- Whether a character may go on in the name of a variable. -/
def continuesName (c : Char) : Bool :=
  c.isAlphanum || c == '_'

/-- Whether a text is the name of a variable. -/
def isName : List Char → Bool
  | [] => false
  | c :: cs => startsName c && cs.all continuesName

/-- The letters of a word that holds nothing else. -/
def lettersOf? : Word → Option (List Char)
  | [] => some []
  | .letter c :: ps => (lettersOf? ps).map (c :: ·)
  | _ :: _ => none

/-- The name of a word that is an assignment, and the parts of the value. -/
def assignment? (w : Word) : Option (List Char × Word) :=
  let rec go (name : List Char) : Word → Option (List Char × Word)
    | .letter '=' :: value => if isName name.reverse then some (name.reverse, value) else none
    | .letter c :: ps => go (c :: name) ps
    | _ => none
  go [] w

end ElmOnSave.Shell
