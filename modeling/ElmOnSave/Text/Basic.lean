import ElmOnSave.Text.Digit
import ElmOnSave.Text.Printable

/-!
# Texts of a document

The escapes of a JSON string may name one half of a surrogate pair, which is no character.  A
`Text` is therefore either a string of characters or a sequence of code points among which such a
half occurs.  `Text.shown` is what a reader sees: each lonely half becomes the replacement
character.
-/

namespace ElmOnSave

/-- A string of a document: characters throughout, or code points with unpaired surrogates. -/
inductive Text where
  /-- A text of characters. -/
  | whole (s : String)
  /-- Code points, at least one of which is half of a surrogate pair. -/
  | halved (points : List Nat)
deriving Repr, DecidableEq, Inhabited

namespace Text

instance : Coe String Text := ⟨whole⟩

/-- The stand-in for what cannot be decoded. -/
def replacement : Char := Char.ofNat 0xFFFD

/-- Whether a code point is half of a surrogate pair. -/
def isSurrogate (n : Nat) : Bool :=
  0xD800 ≤ n && n ≤ 0xDFFF

/-- The text with the given code points. -/
def ofPoints (points : List Nat) : Text :=
  if points.any isSurrogate then halved points
  else whole (String.ofList (points.map Char.ofNat))

/-- The code points of a text. -/
def points : Text → List Nat
  | whole s => s.toList.map Char.toNat
  | halved ps => ps

/-- The characters of a text, with the replacement character for each unpaired surrogate. -/
def shown : Text → String
  | whole s => s
  | halved ps =>
    String.ofList (ps.map fun n => if isSurrogate n then replacement else Char.ofNat n)

/-- The string, if the text consists of characters. -/
def toString? : Text → Option String
  | whole s => some s
  | halved _ => none

@[simp] theorem shown_whole (s : String) : (whole s).shown = s := rfl

@[simp] theorem toString?_whole (s : String) : (whole s).toString? = some s := rfl

/-! ## Quoted texts -/

/-- A text is quoted by apostrophes, or by double quotes when it holds apostrophes only. -/
def quoteMark (points : List Nat) : Char :=
  if points.contains 39 && !points.contains 34 then '"' else '\''

/-- One code point inside a quoted text: the mark, the backslash and the line characters carry a
backslash, and whatever has no shape of its own is written by number. -/
def quotedPoint (mark : Char) (n : Nat) : List Char :=
  if n = mark.toNat || n = 92 then ['\\', Char.ofNat n]
  else if n = 9 then ['\\', 't']
  else if n = 10 then ['\\', 'n']
  else if n = 13 then ['\\', 'r']
  else if !isSurrogate n && isPrintable (Char.ofNat n) then [Char.ofNat n]
  else if n < 0x100 then '\\' :: 'x' :: hexPadded 2 n
  else if n < 0x10000 then '\\' :: 'u' :: hexPadded 4 n
  else '\\' :: 'U' :: hexPadded 8 n

/-- The text between quotes, on one line and in printable characters. -/
def quoted (t : Text) : List Char :=
  let mark := quoteMark t.points
  mark :: (t.points.flatMap (quotedPoint mark) ++ [mark])

end Text

end ElmOnSave
