import ElmOnSave.Terminal.StyledText

/-!
# Wrapping

A line that is too wide for its cell breaks before a word.  A word keeps the blanks after it, and
the first one those before it; a word wider than the cell has a line to itself, which then is cut.
-/

namespace ElmOnSave.Terminal

/-- The words of a line with the blanks around them; nothing if there are only blanks. -/
def paddedWords (cs : List Char) : List (List Char) :=
  go (cs.dropWhile Text.isBlank) (cs.takeWhile Text.isBlank).reverse false []
where
  /-- Works through the characters with the current word, whether it has ended, and the finished
  words, each the latest first. -/
  go : List Char → List Char → Bool → List (List Char) → List (List Char)
  | [], w, _, acc => if w.all Text.isBlank then acc.reverse else (w.reverse :: acc).reverse
  | c :: cs, w, ended, acc =>
    if Text.isBlank c then go cs (c :: w) true acc
    else if ended then go cs [c] false (w.reverse :: acc)
    else go cs (c :: w) false acc

/-- The places at which a line breaks, given its words, the place of the first of them and the
cells already taken. -/
def breakPlaces (n : Nat) : List (List Char) → Nat → Nat → List Nat
  | [], _, _ => []
  | w :: ws, start, taken =>
    let next := start + w.length
    let length := width (Text.trimEndOf Text.isBlank w)
    if taken + length ≤ n then breakPlaces n ws next (taken + width w)
    else if n < length then
      (if start = 0 then [] else [start]) ++ breakPlaces n ws next (width w)
    else if 0 < taken ∧ 0 < start then start :: breakPlaces n ws next (width w)
    else breakPlaces n ws next taken

namespace StyledText

/-- The lines of a text in a cell of the given width. -/
def wrapped (t : StyledText) (n : Nat) : List StyledText :=
  t.lines.flatMap fun line =>
    let line := line.expandTabs
    (line.divide (breakPlaces n (paddedWords line.chars) 0 0)).map fun l => l.dropOverhang n

/-- The lines of a text that is not wrapped. -/
def freeLines (t : StyledText) : List StyledText :=
  t.lines.map expandTabs

end StyledText

end ElmOnSave.Terminal
