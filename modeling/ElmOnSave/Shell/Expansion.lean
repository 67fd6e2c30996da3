import ElmOnSave.Shell.Arithmetic
import ElmOnSave.Shell.Field
import ElmOnSave.Shell.FileName

/-!
# What words come to

A word comes to pieces: a tilde becomes a home directory, parameters their values, commands what
they write and computations their results.  The pieces are cut into fields, and a field that is a
pattern becomes the names of the files that match it, if there are any.
-/

namespace ElmOnSave.Shell

/-- How a command is run for what it writes. -/
abbrev Outputs := Option Command → Act (List Char)

/-- What a word is wanted for. -/
structure Purpose where
  /-- Whether fields are wanted, so that arguments stay apart. -/
  fields : Bool
  /-- Whether the letters of the word are cut like a value. -/
  cut : Bool
  /-- Whether a tilde behind a colon counts. -/
  colons : Bool
deriving Repr, DecidableEq, Inhabited

namespace Purpose

def argument : Purpose := ⟨true, false, false⟩
def value : Purpose := ⟨false, false, true⟩
def text : Purpose := ⟨false, false, false⟩

end Purpose

/-! ## Parameters -/

/-- The arguments of the shell as one text. -/
def joinArguments (s : Session) (separator : List Char) : List Char :=
  List.intercalate separator s.arguments

/-- What stands between the arguments of the shell when they are joined. -/
def argumentSeparator (s : Session) (name : Char) (quoted fields : Bool) : List Char :=
  if name = '@' ∧ quoted ∧ fields then [Char.ofNat 0]
  else
    match s.valueOf? "IFS".toList with
    | none => [' ']
    | some ifs => if fields && !quoted then [Char.ofNat 0] else ifs.take 1

/-- The value of a parameter. -/
def parameterValue (s : Session) (purpose : Purpose) (quoted : Bool) (name : List Char) :
    Option (List Char) :=
  match name with
  | ['?'] => some (Text.natDigits s.status)
  | ['#'] => some (Text.natDigits s.arguments.length)
  | ['$'] => some (Text.natDigits processNumber)
  | ['!'] => s.lastBackground.map Text.natDigits
  | ['-'] => some s.options
  | ['@'] => some (joinArguments s (argumentSeparator s '@' quoted purpose.fields))
  | ['*'] => some (joinArguments s (argumentSeparator s '*' quoted purpose.fields))
  | c :: cs =>
    if c.isDigit then
      match Text.ofDigits (c :: cs) with
      | 0 => some s.name
      | n + 1 => s.arguments[n]?
    else s.valueOf? name
  | [] => none

/-- The piece that a value comes to. -/
def valuePiece (s : Session) (quoted : Bool) (name value : List Char) : Piece :=
  let cutting :=
    if !quoted then Cutting.atSeparators
    else if name = ['@'] ∧ !s.arguments.isEmpty then .atNulls
    else .nowhere
  ⟨Glyph.ofText quoted value, cutting⟩

/-- Whether a value counts as present. -/
def isPresent (evenEmpty : Bool) : Option (List Char) → Bool
  | none => false
  | some v => !(evenEmpty && v.isEmpty)

/-- The value of a parameter that has to have one if the shell is strict. -/
def strictValue (purpose : Purpose) (quoted : Bool) (name : List Char) : Act (List Char) := do
  let s ← get
  match parameterValue s purpose quoted name with
  | some v => return v
  | none =>
    if s.has 'u' then fail (name ++ ": parameter not set".toList) else return []

/-- Ends the shell because a parameter has no value. -/
def failMissing {α : Type} (name : List Char) (evenEmpty : Bool) (message : List Char) : Act α :=
  let standard := "parameter not set" ++ if evenEmpty then " or null" else ""
  fail (name ++ ": ".toList ++ if message.isEmpty then standard.toList else message)

/-- Assigns a value to a parameter that a word names. -/
def assignParameter (name value : List Char) : Act Unit :=
  if isName name then assign name value false
  else fail (name ++ ": bad variable name".toList)

/-- The home directory that the start of a word names, and the rest of the word. -/
def tilde? (s : Session) (colons : Bool) (w : Word) : Option (List Char × Word) :=
  match w with
  | .letter '~' :: rest =>
    let ends := fun c => c == '/' || (colons && c == ':')
    let account := rest.takeWhile fun p =>
      match p with
      | .letter c => !ends c
      | _ => true
    (lettersOf? account).bind fun name =>
      let home :=
        if name.isEmpty then s.valueOf? "HOME".toList
        else (s.world.machine.accounts.lookup (decoded name)).map encoded
      home.map fun h => (h, rest.drop account.length)
  | _ => none

/-- The text without line ends at its end. -/
def dropLineEnds (cs : List Char) : List Char :=
  (cs.reverse.dropWhile (· == '\n')).reverse

section

variable (outputs : Outputs)

/-- What a word comes to; `start` tells that a tilde may come next.  The fuel bounds the depth and
the length of the word. -/
def expandParts : (fuel : Nat) → Purpose → (start : Bool) → Word → Act (List Piece)
  | 0, _, _, _ => return []
  | _ + 1, _, _, [] => return []
  | fuel + 1, purpose, start, p :: ps => do
    let s ← get
    match if start then tilde? s purpose.colons (p :: ps) else none with
    | some (home, rest) =>
      let more ← expandParts fuel purpose false rest
      return ⟨Glyph.ofText true home, .nowhere⟩ :: more
    | none =>
      match p, ps with
      | .letter c, ps =>
        let run := (.letter c :: ps).takeWhile fun p =>
          match p with
          | .letter d => !(purpose.colons && d == ':')
          | _ => false
        let taken := max 1 run.length
        let letters := ((Part.letter c :: ps).take taken).filterMap fun p =>
          match p with
          | .letter d => some (Glyph.char d false)
          | _ => none
        let more ← expandParts fuel purpose (purpose.colons && c == ':')
          ((Part.letter c :: ps).drop taken)
        return ⟨letters, if purpose.cut then .atSeparators else .nowhere⟩ :: more
      | .literal c, ps =>
        return ⟨[.char c true], .nowhere⟩ :: (← expandParts fuel purpose false ps)
      | .quote, .parameter ['@'] .plain [] true :: .quote :: ps => do
        let here ← expandParameter fuel purpose ['@'] .plain [] true
        return here ++ (← expandParts fuel purpose false ps)
      | .quote, ps => return ⟨[.mark], .nowhere⟩ :: (← expandParts fuel purpose false ps)
      | .parameter name use word quoted, ps => do
        let here ← expandParameter fuel purpose name use word quoted
        return here ++ (← expandParts fuel purpose false ps)
      | .output body quoted, ps => do
        let text := dropLineEnds ((← outputs body).filter (· != Char.ofNat 0))
        let here : Piece := ⟨Glyph.ofText quoted text, if quoted then .nowhere else .atSeparators⟩
        return here :: (← expandParts fuel purpose false ps)
      | .computation expression quoted, ps => do
        let source := Piece.text (← expandParts fuel .text false expression)
        let text := numberText (← compute source)
        let here : Piece := ⟨Glyph.ofText quoted text, if quoted then .nowhere else .atSeparators⟩
        return here :: (← expandParts fuel purpose false ps)
where
  /-- What a parameter comes to. -/
  expandParameter (fuel : Nat) (purpose : Purpose) (name : List Char) (use : ParameterUse)
      (word : Word) (quoted : Bool) : Act (List Piece) := do
    match fuel with
    | 0 => return []
    | fuel + 1 => do
      let s ← get
      let value := parameterValue s purpose quoted name
      let inner : Purpose := { purpose with cut := !quoted }
      let pieces := fun v => return [valuePiece (← get) quoted name v]
      match use with
      | .meaningless => fail "Bad substitution".toList
      | .plain => pieces (← strictValue purpose quoted name)
      | .orElse e =>
        if isPresent e value then pieces (value.getD [])
        else expandParts fuel inner true word
      | .ifPresent e =>
        if isPresent e value then expandParts fuel inner true word else return []
      | .orAssign e =>
        if isPresent e value then pieces (value.getD [])
        else
          let text := Piece.text (← expandParts fuel { purpose with fields := false, cut := false }
            true word)
          assignParameter name text
          pieces text
      | .orFail e =>
        if isPresent e value then pieces (value.getD [])
        else
          let text := Piece.text (← expandParts fuel { purpose with fields := false, cut := false }
            true word)
          failMissing name e text
      | .length =>
        let v ← strictValue purpose quoted name
        pieces (Text.natDigits v.length)
      | .dropStart longest | .dropEnd longest => do
        let v ← strictValue purpose quoted name
        let pattern := Glyph.pattern
          ((← expandParts fuel { purpose with fields := false, cut := false } true word).flatMap
            Piece.glyphs)
        pieces (if use matches .dropStart _ then pattern.dropStart longest v
          else pattern.dropEnd longest v)

end

end ElmOnSave.Shell
