import ElmOnSave.Text.Digit

/-!
# Colour markers

A compiler may colour its messages for a terminal.  A marker is an opening bracket, a run of decimal
digits and the letter `m`, usually after an escape character.  `Marker.strip` deletes the markers of
a text from left to right and leaves everything else, brackets that make no marker included.

The text is read by a machine that holds back what may turn out to be a marker.
-/

namespace ElmOnSave.Marker

/-- The escape character. -/
def escape : Char := Char.ofNat 0x1B

/-- How much of a marker has been read. -/
inductive Phase where
  | outside
  /-- An escape character. -/
  | escaped
  /-- The bracket. -/
  | opened
  /-- The bracket and at least one digit. -/
  | counting
deriving Repr, DecidableEq, Inhabited

/-- The state between two characters: the text kept and the start of a marker held back, each with
its latest character first. -/
structure State where
  kept : List Char
  held : List Char
  phase : Phase
deriving Repr, DecidableEq, Inhabited

/-- The state before the first character. -/
def State.initial : State := ⟨[], [], .outside⟩

/-- A character with which a marker may start is held back; any other is kept. -/
def State.restart (kept : List Char) (c : Char) : State :=
  if c = escape then ⟨kept, [c], .escaped⟩
  else if c = '[' then ⟨kept, [c], .opened⟩
  else ⟨c :: kept, [], .outside⟩

/-- What was held back is no marker and is kept; the character starts afresh. -/
def State.release (s : State) (c : Char) : State :=
  State.restart (s.held ++ s.kept) c

/-- One character more. -/
def State.feed (s : State) (c : Char) : State :=
  match s.phase with
  | .outside => s.release c
  | .escaped => if c = '[' then ⟨s.kept, c :: s.held, .opened⟩ else s.release c
  | .opened => if Text.isDecimal c then ⟨s.kept, c :: s.held, .counting⟩ else s.release c
  | .counting =>
    if c = 'm' then ⟨s.kept, [], .outside⟩
    else if Text.isDecimal c then ⟨s.kept, c :: s.held, .counting⟩
    else s.release c

/-- The text kept when no character follows. -/
def State.finish (s : State) : List Char :=
  (s.held ++ s.kept).reverse

/-- The text without its markers. -/
def strip (cs : List Char) : List Char :=
  (cs.foldl State.feed State.initial).finish

end ElmOnSave.Marker
