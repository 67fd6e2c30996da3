import ElmOnSave.Json.Fault
import ElmOnSave.Toml.Cursor
import ElmOnSave.Value

/-!
# Scalars of a TOML text

Strings in their four forms, dates and times, integers in four bases and numbers with a fraction
or exponent.  A run of digits that could be several of these is a date before it is a time, and a
time before it is a number.
-/

namespace ElmOnSave.Toml

/-! ## Strings -/

/-- The character a one-letter escape stands for. -/
def simpleEscape? : Char → Option Char
  | 'b' => some '\x08'
  | 't' => some '\t'
  | 'n' => some '\n'
  | 'f' => some '\x0c'
  | 'r' => some '\r'
  | '"' => some '"'
  | '\\' => some '\\'
  | _ => none

/-- A character given by a number of hexadecimal digits. -/
def hexEscape (c : Cursor) (width : Nat) : Parsed Char :=
  let digits := c.rest.take width
  let values := digits.filterMap Text.hexValue?
  if digits.length = width ∧ values.length = width then
    let n := Text.ofDigitValues 16 values
    let c' := c.advance width
    if n < 0xD800 ∨ (0xDFFF < n ∧ n < 0x110000) then .ok (Char.ofNat n, c')
    else c'.refuse .notScalarValue
  else c.refuse .invalidHex

/-- An escape, from its backslash on: the characters it stands for.  In a string of several lines a
backslash at the end of a line joins it with the next text. -/
def escape (multiline : Bool) (c : Cursor) : Parsed (List Char) :=
  let after := c.advance 2
  match c.rest.drop 1 with
  | '\n' :: _ =>
    if multiline then .ok ([], after.skip isBlankOrNewline) else after.refuse .strayBackslash
  | 'u' :: _ => (hexEscape after 4).map fun (ch, c') => ([ch], c')
  | 'U' :: _ => (hexEscape after 8).map fun (ch, c') => ([ch], c')
  | e :: _ =>
    if multiline && isBlank e then
      let atEnd := after.skip isBlank
      match atEnd.rest with
      | [] => .ok ([], atEnd)
      | '\n' :: _ => .ok ([], (atEnd.advance 1).skip isBlankOrNewline)
      | _ => atEnd.refuse .strayBackslash
    else
      match simpleEscape? e with
      | some ch => .ok ([ch], after)
      | none => after.refuse .strayBackslash
  | [] => .error (.complaint .strayBackslash (c.offset + 2))

/-- A string with escapes after its opening mark; the characters so far come latest first. -/
def basicString (multiline : Bool) : (fuel : Nat) → Cursor → List Char → Parsed (List Char)
  | 0, c, _ => c.refuse .unterminatedString
  | fuel + 1, c, acc =>
    match c.rest with
    | [] => c.refuse .unterminatedString
    | '"' :: _ =>
      if !multiline then .ok (acc.reverse, c.advance 1)
      else if c.startsWith "\"\"\"" then .ok (acc.reverse, c.advance 3)
      else basicString multiline fuel (c.advance 1) ('"' :: acc)
    | '\\' :: _ =>
      match escape multiline c with
      | .error e => .error e
      | .ok (chars, c') => basicString multiline fuel c' (chars.reverse ++ acc)
    | ch :: _ =>
      if (if multiline then isControlInLines ch else isControl ch) then
        c.refuse (.illegalCharacter ch)
      else basicString multiline fuel (c.advance 1) (ch :: acc)

/-- A string on one line, from its opening quote on. -/
def lineString (c : Cursor) : Parsed (List Char) :=
  basicString false (c.rest.length + 1) (c.advance 1) []

/-- A literal string on one line, from its opening apostrophe on. -/
def literalString (c : Cursor) : Parsed (List Char) :=
  (untilMark (c.advance 1) "'" isControl).map fun (body, c') => (body, c'.advance 1)

/-- Up to two more marks right behind the closing three belong to the string. -/
def extraMarks (mark : Char) (body : List Char) (c : Cursor) : List Char × Cursor :=
  match c.rest with
  | a :: b :: _ =>
    if a = mark then
      if b = mark then (body ++ [mark, mark], c.advance 2) else (body ++ [mark], c.advance 1)
    else (body, c)
  | [a] => if a = mark then (body ++ [mark], c.advance 1) else (body, c)
  | [] => (body, c)

/-- A string of several lines, from its three opening marks on. -/
def longString (isLiteral : Bool) (c : Cursor) : Parsed (List Char) :=
  let start := c.advance 3
  let start := if start.startsWith "\n" then start.advance 1 else start
  if isLiteral then
    (untilMark start "'''" isControlInLines).map fun (body, c') =>
      extraMarks '\'' body (c'.advance 3)
  else
    (basicString true (start.rest.length + 1) start []).map fun (body, c') => extraMarks '"' body c'

/-! ## Dates and times -/

/-- Two digits between bounds. -/
def twoDigits? (low high : Nat) : List Char → Option (Nat × List Char)
  | a :: b :: cs =>
    if Text.isAsciiDigit a && Text.isAsciiDigit b then
      let n := (a.toNat - 48) * 10 + (b.toNat - 48)
      if low ≤ n ∧ n ≤ high then some (n, cs) else none
    else none
  | _ => none

/-- The text behind a character. -/
def after? (mark : Char) : List Char → Option (List Char)
  | c :: cs => if c = mark then some cs else none
  | [] => none

/-- The text behind a time of day. -/
def time? (cs : List Char) : Option (List Char) := do
  let (_, cs) ← twoDigits? 0 23 cs
  let cs ← after? ':' cs
  let (_, cs) ← twoDigits? 0 59 cs
  let cs ← after? ':' cs
  let (_, cs) ← twoDigits? 0 59 cs
  match cs with
  | '.' :: d :: ds => if Text.isAsciiDigit d then some (ds.dropWhile Text.isAsciiDigit) else some cs
  | cs => some cs

/-- The text behind an offset from universal time, if there is one. -/
def zoneOffset (cs : List Char) : List Char :=
  match cs with
  | 'Z' :: cs' => cs'
  | 'z' :: cs' => cs'
  | c :: cs' =>
    if c = '+' ∨ c = '-' then
      ((do
        let (_, cs'') ← twoDigits? 0 23 cs'
        let cs'' ← after? ':' cs''
        let (_, cs'') ← twoDigits? 0 59 cs''
        return cs'') : Option (List Char)).getD cs
    else cs
  | [] => cs

/-- The text behind a year, month and day, with their values. -/
def date? (cs : List Char) : Option ((Nat × Nat × Nat) × List Char) := do
  let year := cs.take 4
  if year.length = 4 ∧ year.all Text.isAsciiDigit then
    let cs ← after? '-' (cs.drop 4)
    let (month, cs) ← twoDigits? 1 12 cs
    let cs ← after? '-' cs
    let (day, cs) ← twoDigits? 1 31 cs
    return ((Text.ofDigits year, month, day), cs)
  else none

/-- The number of days of a month. -/
def daysIn (year month : Nat) : Nat :=
  if month = 2 then
    if (year % 4 = 0 ∧ year % 100 ≠ 0) ∨ year % 400 = 0 then 29 else 28
  else if month = 4 ∨ month = 6 ∨ month = 9 ∨ month = 11 then 30
  else 31

/-- A date, possibly with a time and an offset, or a time of day; refused if the calendar has no
such day. -/
def moment? (c : Cursor) : Option (Parsed Value) :=
  match date? c.rest with
  | some ((year, month, day), cs) =>
    let rest :=
      match cs with
      | t :: cs' =>
        if t = 'T' ∨ t = 't' ∨ t = ' ' then ((time? cs').map zoneOffset).getD cs else cs
      | [] => cs
    let width := c.rest.length - rest.length
    if 1 ≤ year ∧ day ≤ daysIn year month then
      some (.ok (.moment (String.ofList (c.rest.take width)), c.advance width))
    else some (c.refuse .invalidMoment)
  | none =>
    (time? c.rest).map fun rest =>
      let width := c.rest.length - rest.length
      .ok (.moment (String.ofList (c.rest.take width)), c.advance width)

/-! ## Numbers -/

/-- A digit and then digits with single underscores between them: the text behind them and the
digits. -/
def digitRun (isDigit : Char → Bool) : List Char → List Char → List Char × List Char
  | '_' :: d :: cs, acc =>
    if isDigit d && !acc.isEmpty then digitRun isDigit cs (d :: acc)
    else ('_' :: d :: cs, acc.reverse)
  | c :: cs, acc =>
    if isDigit c then digitRun isDigit cs (c :: acc) else (c :: cs, acc.reverse)
  | [], acc => ([], acc.reverse)

/-- The bases of integers with a leading mark. -/
def baseOf? : Char → Option (Nat × (Char → Bool))
  | 'x' => some (16, fun c => (Text.hexValue? c).isSome)
  | 'o' => some (8, fun c => 48 ≤ c.toNat && c.toNat ≤ 55)
  | 'b' => some (2, fun c => c == '0' || c == '1')
  | _ => none

/-- An integer in a base other than ten. -/
def basedInteger? : List Char → Option (Value × List Char)
  | '0' :: b :: cs =>
    match baseOf? b with
    | none => none
    | some (base, isDigit) =>
      let (rest, digits) := digitRun isDigit cs []
      if digits.isEmpty then none
      else some (.int (Text.ofDigitValues base (digits.filterMap Text.hexValue?)), rest)
  | _ => none

/-- The digits after a point, if there are any, and the text behind them. -/
def fraction (cs : List Char) : List Char × List Char :=
  match cs with
  | '.' :: ds =>
    let (rest, digits) := digitRun Text.isAsciiDigit ds []
    if digits.isEmpty then ([], cs) else (digits, rest)
  | _ => ([], cs)

/-- The exponent, if there is one, and the text behind it. -/
def exponent (cs : List Char) : Option Int × List Char :=
  match cs with
  | e :: ds =>
    if e = 'e' ∨ e = 'E' then
      let (negative, ds) :=
        match ds with
        | '+' :: ds => (false, ds)
        | '-' :: ds => (true, ds)
        | ds => (false, ds)
      let (rest, digits) := digitRun Text.isAsciiDigit ds []
      if digits.isEmpty then (none, cs)
      else
        let n : Int := Text.ofDigits digits
        (some (if negative then -n else n), rest)
    else (none, cs)
  | [] => (none, cs)

/-- A decimal integer or number, and the text behind it. -/
def decimal? (cs : List Char) : Option (Except Objection Value × List Char) :=
  let (negative, body) :=
    match cs with
    | '+' :: cs => (false, cs)
    | '-' :: cs => (true, cs)
    | cs => (false, cs)
  let (rest, whole) :=
    match body with
    | '0' :: cs => (cs, ['0'])
    | cs => digitRun Text.isAsciiDigit cs []
  if whole.isEmpty then none
  else
    let (frac, rest) := fraction rest
    let (exp, rest) := exponent rest
    if frac.isEmpty && exp.isNone then
      if Decimal.digitLimit < whole.length then some (.error (.integerTooLong whole.length), rest)
      else
        let n : Int := Text.ofDigits whole
        some (.ok (.int (if negative then -n else n)), rest)
    else
      some (.ok (.float (.ofDecimal negative (Text.ofDigits (whole ++ frac))
        (exp.getD 0 - frac.length))), rest)

/-- An integer or number. -/
def number? (c : Cursor) : Option (Parsed Value) :=
  match basedInteger? c.rest with
  | some (v, rest) => some (.ok (v, c.advance (c.rest.length - rest.length)))
  | none =>
    (decimal? c.rest).map fun (v, rest) =>
      v.map fun v => (v, c.advance (c.rest.length - rest.length))

/-- The words for truth values and for numbers that are not finite. -/
def words : List (String × Value) :=
  [("inf", .float (.infinite false)), ("+inf", .float (.infinite false)),
    ("-inf", .float (.infinite true)), ("nan", .float .nan), ("+nan", .float .nan),
    ("-nan", .float .nan)]

/-- A date, time, number or word. -/
def plainScalar (c : Cursor) : Parsed Value :=
  match moment? c with
  | some r => r
  | none =>
    match number? c with
    | some r => r
    | none =>
      match words.find? fun w => c.startsWith w.1 with
      | some (w, v) => .ok (v, c.advance w.length)
      | none => c.refuse .invalidValue

end ElmOnSave.Toml
