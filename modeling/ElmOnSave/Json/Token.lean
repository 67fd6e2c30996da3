import ElmOnSave.Decimal.Binary64
import ElmOnSave.Json.Fault
import ElmOnSave.Value

/-!
# Tokens of a JSON text

`Json.tokens` cuts a text into marks, strings and scalars, each with its offset.  A stretch that
starts no token, or starts one that cannot be finished, becomes a token of its own and ends the
list: whether that is an error, and which, depends on what is expected at its place.
-/

namespace ElmOnSave.Json

/-- A token, or the reason why there is none. -/
inductive Token where
  | openObject
  | closeObject
  | openArray
  | closeArray
  | colon
  | comma
  | string (t : Text)
  /-- A constant or a number. -/
  | scalar (v : Value)
  /-- A string that is malformed at an offset. -/
  | brokenString (complaint : Complaint) (offset : Nat)
  /-- An integer with too many digits. -/
  | longInteger (digits : Nat)
  /-- A character with which no token starts. -/
  | stray
deriving Repr, Inhabited

/-- The white space between tokens. -/
def isSpace (c : Char) : Bool :=
  c == ' ' || c == '\t' || c == '\n' || c == '\r'

/-! ## Strings -/

/-- The value of four hexadecimal digits. -/
def hex4? (a b c d : Char) : Option Nat := do
  let w ← Text.hexValue? a
  let x ← Text.hexValue? b
  let y ← Text.hexValue? c
  let z ← Text.hexValue? d
  return ((w * 16 + x) * 16 + y) * 16 + z

/-- The character a one-letter escape stands for. -/
def simpleEscape? : Char → Option Nat
  | '"' => some 34
  | '\\' => some 92
  | '/' => some 47
  | 'b' => some 8
  | 'f' => some 12
  | 'n' => some 10
  | 'r' => some 13
  | 't' => some 9
  | _ => none

/-- What scanning a string gives: its code points, the rest of the text and its offset, or a
complaint with its offset. -/
inductive StringScan where
  | done (points : List Nat) (rest : List Char) (offset : Nat)
  | failed (complaint : Complaint) (offset : Nat)

/-- Scans a string after its opening quote, which stands at offset `start`; `at` is the offset of
the next character and `acc` holds the code points so far, the latest first.  A high half right
before a low half, both escaped, is joined with it. -/
def scanString (start : Nat) : List Char → Nat → List Nat → StringScan
  | [], _, _ => .failed .unterminatedString start
  | '"' :: cs, pos, acc => .done acc.reverse cs (pos + 1)
  | '\\' :: 'u' :: a :: b :: c :: d :: '\\' :: 'u' :: e :: f :: g :: h :: cs, pos, acc =>
    match hex4? a b c d, hex4? e f g h with
    | some hi, some lo =>
      if 0xD800 ≤ hi ∧ hi ≤ 0xDBFF ∧ 0xDC00 ≤ lo ∧ lo ≤ 0xDFFF ∧ cs ≠ [] then
        scanString start cs (pos + 12) ((0x10000 + (hi - 0xD800) * 0x400 + (lo - 0xDC00)) :: acc)
      else scanString start ('\\' :: 'u' :: e :: f :: g :: h :: cs) (pos + 6) (hi :: acc)
    | some hi, none =>
      scanString start ('\\' :: 'u' :: e :: f :: g :: h :: cs) (pos + 6) (hi :: acc)
    | none, _ => .failed .invalidUnicodeEscape (pos + 1)
  | '\\' :: 'u' :: a :: b :: c :: d :: r :: cs, pos, acc =>
    match hex4? a b c d with
    | some n => scanString start (r :: cs) (pos + 6) (n :: acc)
    | none => .failed .invalidUnicodeEscape (pos + 1)
  | '\\' :: 'u' :: _, pos, _ => .failed .invalidUnicodeEscape (pos + 1)
  | '\\' :: c :: cs, pos, acc =>
    match simpleEscape? c with
    | some n => scanString start cs (pos + 2) (n :: acc)
    | none => .failed .invalidEscape pos
  | ['\\'], _, _ => .failed .unterminatedString start
  | c :: cs, pos, acc =>
    if c.toNat < 32 then .failed .controlCharacter pos
    else scanString start cs (pos + 1) (c.toNat :: acc)

/-! ## Numbers and constants -/

/-- The parts of a number: its sign, its integer digits, and, unless it is an integer, the digits
after the point and the exponent. -/
structure NumberParts where
  negative : Bool
  whole : List Char
  fraction : List Char
  exponent : Int
  isInteger : Bool
deriving Repr, Inhabited

/-- The digits after a point, if a digit follows the point. -/
def fractionPart (cs : List Char) : List Char :=
  match cs with
  | '.' :: cs => cs.takeWhile Text.isAsciiDigit
  | _ => []

/-- The exponent mark with its sign and digits, if at least one digit follows: the number of
characters it takes and its value. -/
def exponentPart? (cs : List Char) : Option (Nat × Int) :=
  match cs with
  | e :: cs =>
    if e == 'e' || e == 'E' then
      let (signs, negative, cs) :=
        match cs with
        | '+' :: cs => (1, false, cs)
        | '-' :: cs => (1, true, cs)
        | cs => (0, false, cs)
      let ds := cs.takeWhile Text.isAsciiDigit
      if ds.isEmpty then none
      else
        let n : Int := Text.ofDigits ds
        some (1 + signs + ds.length, if negative then -n else n)
    else none
  | [] => none

/-- The integer digits of a number: a zero alone, or digits that do not start with one. -/
def wholePart (cs : List Char) : List Char :=
  match cs with
  | '0' :: _ => ['0']
  | _ => cs.takeWhile Text.isAsciiDigit

/-- The number at the start of a text and the number of its characters. -/
def number? (cs : List Char) : Option (NumberParts × Nat) :=
  let (negative, signs, cs) :=
    match cs with
    | '-' :: cs => (true, 1, cs)
    | cs => (false, 0, cs)
  let whole := wholePart cs
  if whole.isEmpty then none
  else
    let afterWhole := cs.drop whole.length
    let fraction := fractionPart afterWhole
    let fractionWidth := if fraction.isEmpty then 0 else fraction.length + 1
    let exponent := exponentPart? (afterWhole.drop fractionWidth)
    let width := signs + whole.length + fractionWidth + (exponent.map Prod.fst).getD 0
    some (⟨negative, whole, fraction, (exponent.map Prod.snd).getD 0,
      fraction.isEmpty && exponent.isNone⟩, width)

/-- The token a number makes. -/
def NumberParts.token (n : NumberParts) : Token :=
  if n.isInteger then
    if Decimal.digitLimit < n.whole.length then .longInteger n.whole.length
    else
      let m : Int := Text.ofDigits n.whole
      .scalar (.int (if n.negative then -m else m))
  else
    .scalar (.float (.ofDecimal n.negative (Text.ofDigits (n.whole ++ n.fraction))
      (n.exponent - n.fraction.length)))

/-- The words that stand for values. -/
def constants : List (List Char × Value) :=
  [("null".toList, .null), ("true".toList, .bool true), ("false".toList, .bool false),
    ("NaN".toList, .float .nan), ("Infinity".toList, .float (.infinite false)),
    ("-Infinity".toList, .float (.infinite true))]

/-- The constant or number at the start of a text and the number of its characters. -/
def scalar? (cs : List Char) : Option (Token × Nat) :=
  match constants.find? fun k => k.1.isPrefixOf cs with
  | some (word, v) => some (.scalar v, word.length)
  | none => (number? cs).map fun (n, width) => (n.token, width)

/-- The mark that a character is. -/
def mark? : Char → Option Token
  | '\x7b' => some .openObject
  | '\x7d' => some .closeObject
  | '[' => some .openArray
  | ']' => some .closeArray
  | ':' => some .colon
  | ',' => some .comma
  | _ => none

/-! ## The tokens of a text -/

/-- Cuts a text into tokens with their offsets, ending with the offset of what follows the last
one.  The fuel bounds the number of characters, of which each round takes at least one. -/
def scan : (fuel : Nat) → List Char → Nat → List (Token × Nat) → List (Token × Nat) × Nat
  | 0, _, pos, acc => (acc.reverse, pos)
  | _ + 1, [], pos, acc => (acc.reverse, pos)
  | fuel + 1, c :: cs, pos, acc =>
    if isSpace c then scan fuel cs (pos + 1) acc
    else
      match mark? c with
      | some t => scan fuel cs (pos + 1) ((t, pos) :: acc)
      | none =>
        if c == '"' then
          match scanString pos cs (pos + 1) [] with
          | .done points rest pos' => scan fuel rest pos' ((.string (.ofPoints points), pos) :: acc)
          | .failed complaint offset =>
            (((.brokenString complaint offset, pos) :: acc).reverse, pos)
        else
          match scalar? (c :: cs) with
          | some (.longInteger n, _) => (((.longInteger n, pos) :: acc).reverse, pos)
          | some (t, width) =>
            scan fuel ((c :: cs).drop width) (pos + width) ((t, pos) :: acc)
          | none => (((.stray, pos) :: acc).reverse, pos)

/-- The tokens of a text with their offsets, and the offset at which they end. -/
def tokens (cs : List Char) : List (Token × Nat) × Nat :=
  scan (cs.length + 1) cs 0 []

end ElmOnSave.Json
