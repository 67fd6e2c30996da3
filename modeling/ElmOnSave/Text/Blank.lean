/-!
# Blank characters

White space in the sense of the Unicode property together with the four information separators
U+001C to U+001F.  Blank lines of compiler output, padded severity labels and the words of a
wrapped table cell are all told apart by `isBlank`.  Trimming keeps a text that starts and ends
with a character that is not blank.
-/

namespace ElmOnSave.Text

/-- White space: the ASCII spaces, the information separators and the Unicode spaces. -/
def isBlank (c : Char) : Bool :=
  let n := c.toNat
  (9 ≤ n && n ≤ 13) || (28 ≤ n && n ≤ 32) || n == 0x85 || n == 0xA0 || n == 0x1680 ||
    (0x2000 ≤ n && n ≤ 0x200A) || n == 0x2028 || n == 0x2029 || n == 0x202F || n == 0x205F ||
    n == 0x3000

/-- White space without the information separators: the Unicode property itself. -/
def isWhiteSpace (c : Char) : Bool :=
  isBlank c && !(28 ≤ c.toNat && c.toNat ≤ 31)

/-- The text without its trailing characters of a class. -/
def trimEndOf (p : Char → Bool) (cs : List Char) : List Char :=
  (cs.reverse.dropWhile p).reverse

/-- The text without its leading and trailing characters of a class. -/
def trimOf (p : Char → Bool) (cs : List Char) : List Char :=
  trimEndOf p (cs.dropWhile p)

/-- The text without blanks at either end. -/
def trim (cs : List Char) : List Char :=
  trimOf isBlank cs

/-- A text of blanks only, the empty text included. -/
def isBlankText (cs : List Char) : Bool :=
  cs.all isBlank

/-- The words of a text: its longest pieces without blanks. -/
def words (cs : List Char) : List (List Char) :=
  go cs [] []
where
  /-- Works through the characters with the current word and the finished words, each the latest
  first. -/
  go : List Char → List Char → List (List Char) → List (List Char)
  | [], [], acc => acc.reverse
  | [], w, acc => (w.reverse :: acc).reverse
  | c :: cs, w, acc =>
    if isBlank c then go cs [] (if w.isEmpty then acc else w.reverse :: acc)
    else go cs (c :: w) acc

theorem isBlank_of_isWhitespace (c : Char) (h : c.isWhitespace = true) : isBlank c = true := by
  simp only [Char.isWhitespace, Bool.or_eq_true, decide_eq_true_eq] at h
  rcases h with ((h | h) | h) | h <;> subst h <;> rfl

end ElmOnSave.Text
