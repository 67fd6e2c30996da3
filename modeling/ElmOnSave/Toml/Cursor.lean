import ElmOnSave.Toml.Fault

/-!
# A place inside a TOML text

A `Cursor` is what is left of a text and the number of characters before it.  Reading a part of the
text answers with what was read and the cursor behind it, or with an objection at an offset.
-/

namespace ElmOnSave.Toml

/-- What is left of a text and the number of characters before it. -/
structure Cursor where
  rest : List Char
  offset : Nat
deriving Repr, Inhabited

/-- A complaint with its offset, or a refusal for size. -/
inductive Objection where
  | complaint (c : Complaint) (offset : Nat)
  | integerTooLong (digits : Nat)
  | nestedTooDeep
deriving Repr, DecidableEq, Inhabited

/-- What was read and the cursor behind it. -/
abbrev Parsed (α : Type) := Except Objection (α × Cursor)

namespace Cursor

/-- Objects at the cursor. -/
def refuse {α : Type} (c : Cursor) (complaint : Complaint) : Except Objection α :=
  .error (.complaint complaint c.offset)

/-- The cursor some characters further on. -/
def advance (c : Cursor) (n : Nat) : Cursor :=
  ⟨c.rest.drop n, c.offset + n⟩

/-- The cursor behind all characters of a class. -/
def skip (c : Cursor) (p : Char → Bool) : Cursor :=
  let run := c.rest.takeWhile p
  ⟨c.rest.drop run.length, c.offset + run.length⟩

/-- Whether the text goes on with the given characters. -/
def startsWith (c : Cursor) (word : String) : Bool :=
  word.toList.isPrefixOf c.rest

/-- The next character. -/
def peek? (c : Cursor) : Option Char :=
  c.rest.head?

end Cursor

/-- Blanks within a line. -/
def isBlank (c : Char) : Bool :=
  c == ' ' || c == '\t'

/-- Blanks and line ends. -/
def isBlankOrNewline (c : Char) : Bool :=
  isBlank c || c == '\n'

/-- A control character other than the tab. -/
def isControl (c : Char) : Bool :=
  (c.toNat < 32 && c != '\t') || c.toNat == 127

/-- A control character other than the tab and the line end. -/
def isControlInLines (c : Char) : Bool :=
  isControl c && c != '\n'

/-- The number of characters before the first place where a mark stands. -/
def findMark? (mark : List Char) : List Char → Nat → Option Nat
  | [], n => if mark.isEmpty then some n else none
  | c :: cs, n => if mark.isPrefixOf (c :: cs) then some n else findMark? mark cs (n + 1)

/-- The text up to a mark, which must hold no character of a class. -/
def untilMark (c : Cursor) (mark : String) (bad : Char → Bool) : Parsed (List Char) :=
  match findMark? mark.toList c.rest 0 with
  | none => .error (.complaint (.expectedMark mark) (c.offset + c.rest.length))
  | some n =>
    let body := c.rest.take n
    match body.find? bad with
    | some b =>
      .error (.complaint (.foundInvalid b) (c.offset + (body.takeWhile (!bad ·)).length))
    | none => .ok (body, c.advance n)

/-- Skips a comment up to the end of its line. -/
def skipComment (c : Cursor) : Except Objection Cursor :=
  match c.rest with
  | '#' :: _ =>
    let body := (c.advance 1).rest.takeWhile (· != '\n')
    match body.find? isControl with
    | some b =>
      .error (.complaint (.foundInvalid b) (c.offset + 1 + (body.takeWhile (!isControl ·)).length))
    | none => .ok (c.advance (1 + body.length))
  | _ => .ok c

/-- Skips blanks, line ends and comments, at most as many rounds as there are characters. -/
def skipFillers : (fuel : Nat) → Cursor → Except Objection Cursor
  | 0, c => .ok c
  | fuel + 1, c =>
    match skipComment (c.skip isBlankOrNewline) with
    | .error e => .error e
    | .ok c' => if c'.offset = c.offset then .ok c' else skipFillers fuel c'

/-- Skips all blanks, line ends and comments. -/
def Cursor.skipFillers (c : Cursor) : Except Objection Cursor :=
  Toml.skipFillers (c.rest.length + 1) c

end ElmOnSave.Toml
