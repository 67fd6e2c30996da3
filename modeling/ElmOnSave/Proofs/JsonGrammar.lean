import Mathlib
import ElmOnSave.Json.Token

/-!
# The grammar of JSON texts

`Spelling limits depth v cs` says that `cs` is a JSON text of the value `v`: any of the texts the
grammar allows for it, with blanks around its tokens, characters escaped or not and the entries of
an object in any order.  It is independent of how texts are read and written.  Of a name that occurs
twice in an object the last value counts.

What the grammar does not bound, a reader may: `Limits` says which numbers of digits and which depths
are admitted, and a spelling keeps to them throughout, also in the values of names that occur again.

* `StringBody`: the characters between the quotes of a string and the code points they stand for;
* `Numeral`: a number in its parts;
* `Item` and `Member`: an item of a list and an entry of an object as they are written.
-/

namespace ElmOnSave.Json

/-- Blanks between tokens. -/
structure Blanks where
  chars : List Char
  blank : ∀ c ∈ chars, isSpace c = true

/-- No blanks. -/
def Blanks.none : Blanks := ⟨[], nofun⟩

/-! ## Strings -/

/-- The first half of a pair that stands for a code point outside the basic plane. -/
def IsHighHalf (n : Nat) : Prop :=
  0xD800 ≤ n ∧ n ≤ 0xDBFF

/-- The second half of such a pair. -/
def IsLowHalf (n : Nat) : Prop :=
  0xDC00 ≤ n ∧ n ≤ 0xDFFF

/-- The code point a pair stands for. -/
def joined (high low : Nat) : Nat :=
  0x10000 + (high - 0xD800) * 0x400 + (low - 0xDC00)

/-- The text starts with the escape of a second half. -/
def StartsLow (cs : List Char) : Prop :=
  ∃ a b c d rest low, cs = '\\' :: 'u' :: a :: b :: c :: d :: rest ∧ hex4? a b c d = some low ∧
    IsLowHalf low

/-- Code points and characters that stand for them between the quotes of a string.  The escapes of
two halves that belong together, one right behind the other, stand for one code point. -/
inductive StringBody : List Nat → List Char → Prop where
  | nil : StringBody [] []
  | plain {c : Char} {points : List Nat} {cs : List Char} (quote : c ≠ '"') (backslash : c ≠ '\\')
      (control : 32 ≤ c.toNat) (rest : StringBody points cs) :
      StringBody (c.toNat :: points) (c :: cs)
  | letter {c : Char} {n : Nat} {points : List Nat} {cs : List Char}
      (escape : simpleEscape? c = some n) (rest : StringBody points cs) :
      StringBody (n :: points) ('\\' :: c :: cs)
  | unit {a b c d : Char} {n : Nat} {points : List Nat} {cs : List Char}
      (escape : hex4? a b c d = some n) (alone : IsHighHalf n → ¬ StartsLow cs)
      (rest : StringBody points cs) :
      StringBody (n :: points) ('\\' :: 'u' :: a :: b :: c :: d :: cs)
  | pair {a b c d e f g h : Char} {high low : Nat} {points : List Nat} {cs : List Char}
      (first : hex4? a b c d = some high) (isHigh : IsHighHalf high)
      (second : hex4? e f g h = some low) (isLow : IsLowHalf low) (rest : StringBody points cs) :
      StringBody (joined high low :: points)
        ('\\' :: 'u' :: a :: b :: c :: d :: '\\' :: 'u' :: e :: f :: g :: h :: cs)

/-! ## Numbers -/

/-- The sign of an exponent. -/
inductive Sign where
  | none
  | plus
  | minus

/-- A sign as it is written. -/
def Sign.written : Sign → List Char
  | none => []
  | plus => ['+']
  | minus => ['-']

/-- The exponent of a number. -/
structure Exponent where
  mark : Char
  sign : Sign
  digits : List Char
  isMark : mark = 'e' ∨ mark = 'E'
  isDigit : ∀ c ∈ digits, Text.isAsciiDigit c = true
  some : digits ≠ []

/-- An exponent as it is written. -/
def Exponent.written (e : Exponent) : List Char :=
  e.mark :: (e.sign.written ++ e.digits)

/-- The number an exponent is. -/
def Exponent.value (e : Exponent) : Int :=
  let n : Int := Text.ofDigits e.digits
  match e.sign with
  | .minus => -n
  | _ => n

/-- A number in its parts: a sign, integer digits without a zero in front, digits after a point
unless there are none, and possibly an exponent. -/
structure Numeral where
  negative : Bool
  whole : List Char
  fraction : List Char
  exponent : Option Exponent
  wholeDigit : ∀ c ∈ whole, Text.isAsciiDigit c = true
  wholeSome : whole ≠ []
  noZero : whole.head? = some '0' → whole = ['0']
  fractionDigit : ∀ c ∈ fraction, Text.isAsciiDigit c = true

namespace Numeral

/-- The point and the digits behind it. -/
def fractionWritten (n : Numeral) : List Char :=
  if n.fraction = [] then [] else '.' :: n.fraction

/-- The exponent, if there is one. -/
def exponentWritten (n : Numeral) : List Char :=
  (n.exponent.map Exponent.written).getD []

/-- A number without its sign. -/
def unsigned (n : Numeral) : List Char :=
  n.whole ++ (n.fractionWritten ++ n.exponentWritten)

/-- A number as it is written. -/
def written (n : Numeral) : List Char :=
  if n.negative then '-' :: n.unsigned else n.unsigned

/-- A number with neither a point nor an exponent is an integer. -/
def isInteger (n : Numeral) : Bool :=
  n.fraction.isEmpty && n.exponent.isNone

/-- The value of a number. -/
def value (n : Numeral) : Value :=
  if n.isInteger then
    let m : Int := Text.ofDigits n.whole
    .int (if n.negative then -m else m)
  else
    .float (.ofDecimal n.negative (Text.ofDigits (n.whole ++ n.fraction))
      ((n.exponent.map Exponent.value).getD 0 - n.fraction.length))

end Numeral

/-! ## Values -/

/-- What is admitted: the numbers of digits of an integer, and the depths at which a list or an
object may begin. -/
structure Limits where
  digits : Nat → Prop
  depth : Nat → Prop

/-- No limits. -/
def Limits.none : Limits := ⟨fun _ => True, fun _ => True⟩

/-- An item of a list, between blanks. -/
structure Item where
  before : Blanks
  value : Value
  text : List Char
  after : Blanks

def Item.written (i : Item) : List Char :=
  i.before.chars ++ (i.text ++ i.after.chars)

/-- An entry of an object: a name between blanks, a colon, and the value like an item. -/
structure Member where
  before : Blanks
  points : List Nat
  name : List Char
  after : Blanks
  item : Item

def Member.written (m : Member) : List Char :=
  m.before.chars ++ '"' :: (m.name ++ '"' :: (m.after.chars ++ ':' :: m.item.written))

/-- The entry itself. -/
def Member.entry (m : Member) : Text × Value :=
  (.ofPoints m.points, m.item.value)

/-- Texts with commas between them. -/
def separated (texts : List (List Char)) : List Char :=
  List.intercalate [','] texts

/-- A text of a value inside a number of lists and objects. -/
inductive Spelling (limits : Limits) : Nat → Value → List Char → Prop where
  | constant (depth : Nat) {word : List Char} {v : Value} (mem : (word, v) ∈ constants) :
      Spelling limits depth v word
  | number (depth : Nat) (n : Numeral) (fits : n.isInteger = true → limits.digits n.whole.length) :
      Spelling limits depth n.value n.written
  | string (depth : Nat) {points : List Nat} {cs : List Char} (body : StringBody points cs) :
      Spelling limits depth (.text (.ofPoints points)) ('"' :: (cs ++ ['"']))
  | emptyList {depth : Nat} (fits : limits.depth depth) (blanks : Blanks) :
      Spelling limits depth (.list []) ('[' :: (blanks.chars ++ [']']))
  | list {depth : Nat} (fits : limits.depth depth) {items : List Item} (some : items ≠ [])
      (spelled : ∀ i ∈ items, Spelling limits (depth + 1) i.value i.text) :
      Spelling limits depth (.list (items.map Item.value))
        ('[' :: (separated (items.map Item.written) ++ [']']))
  | emptyObject {depth : Nat} (fits : limits.depth depth) (blanks : Blanks) :
      Spelling limits depth (.table []) ('\x7b' :: (blanks.chars ++ ['\x7d']))
  | object {depth : Nat} (fits : limits.depth depth) {members : List Member} (some : members ≠ [])
      (names : ∀ m ∈ members, StringBody m.points m.name)
      (spelled : ∀ m ∈ members, Spelling limits (depth + 1) m.item.value m.item.text) :
      Spelling limits depth (.table (Entries.ofList (members.map Member.entry)))
        ('\x7b' :: (separated (members.map Member.written) ++ ['\x7d']))

/-- A whole text of a value, with blanks in front and behind. -/
def Spells (limits : Limits) (v : Value) (cs : List Char) : Prop :=
  ∃ (before after : Blanks) (text : List Char),
    Spelling limits 0 v text ∧ cs = before.chars ++ (text ++ after.chars)

end ElmOnSave.Json
