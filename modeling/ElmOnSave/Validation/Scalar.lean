import ElmOnSave.Json.Fault
import ElmOnSave.Text.Blank
import ElmOnSave.Validation.Issue
import ElmOnSave.Value

/-!
# Scalars of a document

A field that asks for an integer, a number or a truth value also takes other spellings of it: an
integer may come as a number without fraction or as text, a truth value as zero or one or as one of
a few words.  A field that asks for text takes nothing but text.
-/

namespace ElmOnSave.Value

/-! ## Texts -/

/-- A text. -/
def asString : Value → Except Mismatch String
  | .text t => .ok t.shown
  | _ => .error .stringType

/-! ## Integers -/

/-- Splits a sign off. -/
def splitSign : List Char → Bool × List Char
  | '-' :: cs => (true, cs)
  | '+' :: cs => (false, cs)
  | cs => (false, cs)

/-- The text without underscores, if each of them stands alone between two other characters. -/
def withoutUnderscores? (cs : List Char) : Option (List Char) :=
  if cs.head? == some '_' || cs.getLast? == some '_' || (cs.zip cs.tail).contains ('_', '_') then
    none
  else some (cs.filter (· ≠ '_'))

/-- Drops the zeros at the start of a numeral and the underscores among them.  A digit or a minus
sign may follow the zeros; otherwise the last character dropped stays and must be a zero. -/
def dropZeros? (cs : List Char) : Option (List Char) :=
  match cs with
  | '0' :: _ =>
    let zeros := cs.takeWhile fun c => c == '0' || c == '_'
    let last := zeros.getLastD '0'
    match cs.drop zeros.length with
    | [] => if last = '0' then some [last] else none
    | c :: rest =>
      if Text.isAsciiDigit c || c == '-' then some (c :: rest)
      else if c = '.' then some (last :: c :: rest)
      else none
  | c :: _ => if Text.isAsciiDigit c || c == '-' then some cs else none
  | [] => none

/-- Takes the sign off a numeral and drops the zeros at its start; a minus sign is put back. -/
def unpadded? : List Char → Option (List Char)
  | '+' :: '-' :: _ => none
  | '+' :: cs => dropZeros? cs
  | '-' :: cs => (dropZeros? cs).map ('-' :: ·)
  | cs => dropZeros? cs

/-- Drops a point with one or more zeros and nothing else behind it. -/
def withoutZeroFraction (cs : List Char) : List Char :=
  let whole := cs.takeWhile (· != '.')
  let zeros := cs.drop (whole.length + 1)
  if !zeros.isEmpty && zeros.all (· == '0') then whole else cs

/-- The number of characters of an integer numeral in its shortest spelling, sign included, that are
still read. -/
def numeralLimit : Nat := Decimal.digitLimit

/-- The integer of a numeral in its shortest spelling: an optional minus sign and digits without a
zero in front. -/
def plainInt? (cs : List Char) : Option Int :=
  let (negative, ds) := if cs.head? = some '-' then (true, cs.drop 1) else (false, cs)
  if ds.isEmpty || !ds.all Text.isAsciiDigit || (ds.head? == some '0' && ds.length != 1)
      || numeralLimit < cs.length then none
  else
    let n : Int := Text.ofDigits ds
    some (if negative then -n else n)

/-- Whether a text starts with a numeral that is longer than is read. -/
def startsTooLong (cs : List Char) : Bool :=
  let negative := cs.head? = some '-'
  let ds := (if negative then cs.drop 1 else cs).takeWhile Text.isAsciiDigit
  !ds.isEmpty && ds.head? != some '0' && numeralLimit < ds.length + (if negative then 1 else 0)

/-- The integer a text spells: a sign, digits with single underscores between them, and possibly a
point followed by zeros only, with blanks around them.  Zeros in front do not count. -/
def parseInt (cs : List Char) : Except Mismatch Int :=
  if startsTooLong cs then .error .intParsingSize
  else
    match ((unpadded? (Text.trimOf Text.isWhiteSpace cs)).map withoutZeroFraction).bind
        withoutUnderscores? |>.bind plainInt? with
    | some i => .ok i
    | none => .error .intParsing

/-- Whether a number lies strictly between the bounds of 64-bit signed integers. -/
def fits64 (i : Int) : Bool :=
  i.natAbs < Nat.pow 2 63

/-- The integer a binary number is. -/
def integral (x : Binary64) : Except Mismatch Int :=
  if !x.isFinite then .error .finiteNumber
  else
    match x.toInt? with
    | none => .error .intFromFloat
    | some i => if fits64 i then .ok i else .error .intParsingSize

/-- An integer, a truth value as one or zero, a number without fraction or the text of an
integer. -/
def asInt : Value → Except Mismatch Int
  | .int i => .ok i
  | .bool b => .ok (if b then 1 else 0)
  | .float x => integral x
  | .text (.whole s) => parseInt s.toList
  | .text (.halved _) => .error .stringUnicode
  | _ => .error .intType

/-! ## Numbers -/

/-- The exponent part of a number, if the text is one or is empty. -/
def exponentOf? : List Char → Option Int
  | [] => some 0
  | e :: cs =>
    if e = 'e' ∨ e = 'E' then
      let (negative, ds) := splitSign cs
      if ds.isEmpty || !ds.all Text.isAsciiDigit then none
      else
        let n : Int := Text.ofDigits ds
        some (if negative then -n else n)
    else none

/-- The number a text spells without blanks and underscores: an infinity, the word for what is no
number, or a decimal whose point needs digits on one side only. -/
def parsePlainFloat (cs : List Char) : Option Binary64 :=
  let (negative, body) := splitSign cs
  let word := String.ofList (body.map Char.toLower)
  if word = "inf" ∨ word = "infinity" then some (.infinite negative)
  else if word = "nan" then some .nan
  else
    let whole := body.takeWhile Text.isAsciiDigit
    let afterWhole := body.drop whole.length
    let (fraction, rest) :=
      match afterWhole with
      | '.' :: cs => (cs.takeWhile Text.isAsciiDigit, cs.dropWhile Text.isAsciiDigit)
      | cs => ([], cs)
    if whole.isEmpty && fraction.isEmpty then none
    else
      (exponentOf? rest).map fun e =>
        .ofDecimal negative (Text.ofDigits (whole ++ fraction)) (e - fraction.length)

/-- The number a text spells; blanks around it do not count, but blanks and underscores do not go
together. -/
def parseFloat (cs : List Char) : Except Mismatch Binary64 :=
  match parsePlainFloat (Text.trimOf Text.isWhiteSpace cs) with
  | some x => .ok x
  | none =>
    match parsePlainFloat ((withoutUnderscores? cs).getD cs) with
    | some x => .ok x
    | none => .error .floatParsing

/-- A number, a truth value as one or zero, or the text of a number. -/
def asFloat : Value → Except Mismatch Binary64
  | .float x => .ok x
  | .int i =>
    match Binary64.ofInt i with
    | .infinite _ => .error .floatType
    | x => .ok x
  | .bool b => .ok (Binary64.ofInt (if b then 1 else 0))
  | .text (.whole s) => parseFloat s.toList
  | .text (.halved _) => .error .stringUnicode
  | _ => .error .floatType

/-! ## Truth values -/

/-- The words for a truth value, in any case. -/
def parseBool (s : String) : Except Mismatch Bool :=
  let word := String.ofList (s.toList.map Char.toLower)
  if ["1", "on", "t", "true", "y", "yes"].contains word then .ok true
  else if ["0", "off", "f", "false", "n", "no"].contains word then .ok false
  else .error .boolParsing

/-- An integer as a truth value. -/
def intAsBool (i : Int) : Except Mismatch Bool :=
  if i = 0 then .ok false else if i = 1 then .ok true else .error .boolParsing

/-- A truth value, zero or one, or a word for a truth value. -/
def asBool : Value → Except Mismatch Bool
  | .bool b => .ok b
  | .int i =>
    if fits64 i || i = Int.negOfNat (Nat.pow 2 63) then intAsBool i else .error .boolType
  | .float x =>
    match integral x with
    | .ok i => intAsBool i
    | .error _ => .error .boolType
  | .text (.whole s) => parseBool s
  | .text (.halved _) => .error .stringUnicode
  | _ => .error .boolType

/-! ## Tables -/

/-- The entries of a table. -/
def asTable : Value → Except Mismatch (List (Text × Value))
  | .table es => .ok es
  | _ => .error .modelType

/-- Checks a field of a table; a missing field has its default or is an issue. -/
def field {α : Type} (es : List (Text × Value)) (name : String) (default? : Option α)
    (check : Value → Checked α) : Checked α :=
  match Entries.get? es (.whole name), default? with
  | some v, _ => (check v).within name
  | none, some d => .valid d
  | none, none => .invalid [⟨[name], .missing⟩]

/-- A field that holds a scalar. -/
def scalarField {α : Type} (es : List (Text × Value)) (name : String) (default? : Option α)
    (read : Value → Except Mismatch α) : Checked α :=
  field es name default? fun v => .ofExcept (read v)

end ElmOnSave.Value
