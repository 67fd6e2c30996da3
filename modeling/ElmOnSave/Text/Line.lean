/-!
# Lines

A line ends with LF; in a file CR LF and a lone CR end a line as well and are read as LF.
-/

namespace ElmOnSave.Text

/-- CR LF and CR become LF. -/
def universalNewlines : List Char → List Char :=
  fun cs => (go cs []).reverse
where
  /-- Works through the characters with the result so far, the latest first. -/
  go : List Char → List Char → List Char
  | [], acc => acc
  | '\r' :: '\n' :: cs, acc => go cs ('\n' :: acc)
  | '\r' :: cs, acc => go cs ('\n' :: acc)
  | c :: cs, acc => go cs (c :: acc)

/-- CR or LF, the characters at which a line ends. -/
def isLineEnd (c : Char) : Bool :=
  c == '\r' || c == '\n'

/-- The pieces between the separators, one more than there are separators. -/
def splitAll {α : Type} (p : α → Bool) (xs : List α) : List (List α) :=
  go xs [] []
where
  /-- Works through the items with the current piece and the finished ones, the latest first. -/
  go : List α → List α → List (List α) → List (List α)
  | [], cur, acc => (cur.reverse :: acc).reverse
  | x :: xs, cur, acc => if p x then go xs [] (cur.reverse :: acc) else go xs (x :: cur) acc

/-- Pieces joined with a separator between them. -/
def joinWith {α : Type} (sep : List α) : List (List α) → List α
  | [] => []
  | [x] => x
  | x :: xs => x ++ (xs.flatMap (sep ++ ·))

/-- The piece of a text that starts at its beginning, if it does. -/
def stripLeading? {α : Type} [DecidableEq α] : List α → List α → Option (List α)
  | [], cs => some cs
  | _ :: _, [] => none
  | p :: ps, c :: cs => if p = c then stripLeading? ps cs else none

/-- A position in a text by line and column, both counted from one; only LF ends a line. -/
structure Place where
  line : Nat
  column : Nat
deriving Repr, DecidableEq, Inhabited

/-- The place after the given characters. -/
def placeAfter (cs : List Char) : Place :=
  cs.foldl (fun p c => if c = '\n' then ⟨p.line + 1, 1⟩ else ⟨p.line, p.column + 1⟩) ⟨1, 1⟩

end ElmOnSave.Text
