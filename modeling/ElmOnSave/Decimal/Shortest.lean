import ElmOnSave.Decimal.Binary64
import ElmOnSave.Text.Digit

/-!
# The shortest decimal of a number

A finite number is written with the fewest decimal digits that read back to it, the nearest such
decimal winning.  `Binary64.shortest` finds them by trying one digit, two digits and so on, and
asking `Binary64.ofRatio` whether a candidate reads back; `Binary64.text` lays the digits out,
positionally for sizes between a ten-thousandth and ten to the sixteenth and with an exponent
otherwise.
-/

namespace ElmOnSave.Binary64

/-- The least `k` for which the positive quotient is below `10 ^ k`. -/
def decimalScale (num den : Nat) : Int :=
  if den ≤ num then ((Text.natDigits (num / den)).length : Int)
  else
    match (List.range 400).find? fun j => den ≤ num * Nat.pow 10 (j + 1) with
    | some j => -(j : Int)
    | none => -400

/-- A decimal significand with as many digits as asked for, and the exponent of its last digit. -/
structure Digits where
  significand : Nat
  exponent : Int
deriving Repr, DecidableEq, Inhabited

/-- Whether a decimal reads back to the positive number given by its significand and exponent. -/
def readsBack (m : Nat) (e : Int) (d : Digits) : Bool :=
  let (p, q) := powRatio 10 d.exponent
  ofRatio false (d.significand * p) q == ofRatio false (magnitude m e).1 (magnitude m e).2

/-- The nearer of the two decimals next to the number on the grid with the given unit that read
back to it; the even one when both are as near. -/
def onGrid? (m : Nat) (e : Int) (unit : Int) : Option Digits :=
  let (num, den) := magnitude m e
  let (p, q) := powRatio 10 unit
  let below := num * q / (den * p)
  let rest := num * q % (den * p)
  let low : Digits := ⟨below, unit⟩
  let high : Digits := ⟨below + 1, unit⟩
  match readsBack m e low, readsBack m e high with
  | true, false => some low
  | false, true => some high
  | true, true =>
    if 2 * rest < den * p ∨ (2 * rest = den * p ∧ below % 2 = 0) then some low else some high
  | false, false => none

/-- Drops zeros at the end of a significand. -/
def Digits.strip : Nat → Digits → Digits
  | 0, d => d
  | n + 1, d =>
    if d.significand ≠ 0 ∧ d.significand % 10 = 0 then
      Digits.strip n ⟨d.significand / 10, d.exponent + 1⟩
    else d

/-- The shortest decimal that reads back to a positive number. -/
def shortest (m : Nat) (e : Int) : Digits :=
  let (num, den) := magnitude m e
  let scale := decimalScale num den
  let found := (List.range 17).findSome? fun (n : Nat) => onGrid? m e (scale - (n + 1 : Nat))
  (found.getD ⟨num, 0⟩).strip 20

/-- Where positional notation gives way to an exponent, and how an exponent is written. -/
structure Notation where
  /-- Positional while the point stands after more than this many digits. -/
  leastPoint : Int
  /-- Positional while the point stands after at most this many digits. -/
  greatestPoint : Int
  /-- The least number of digits of an exponent. -/
  exponentWidth : Nat

/-- Numbers are written positionally from `0.0001` up to sixteen digits before the point, and an
exponent has a sign and at least two digits. -/
def plainNotation : Notation := ⟨-4, 16, 2⟩

/-- The digits laid out around the point that stands after `point` of them. -/
def layout (style : Notation) (digits : List Char) (point : Int) : List Char :=
  if style.leastPoint < point ∧ point ≤ style.greatestPoint then
    if point ≤ 0 then
      '0' :: '.' :: (List.replicate (-point).toNat '0' ++ digits)
    else
      let n := point.toNat
      if digits.length ≤ n then
        digits ++ List.replicate (n - digits.length) '0' ++ ['.', '0']
      else digits.take n ++ '.' :: digits.drop n
  else
    let head := digits.take 1
    let tail := digits.drop 1
    let e := point - 1
    let expDigits := Text.natDigits e.natAbs
    let padding := List.replicate (style.exponentWidth - expDigits.length) '0'
    head ++ (if tail.isEmpty then [] else '.' :: tail) ++
      'e' :: (if e < 0 then '-' else '+') :: (padding ++ expDigits)

/-- The text of a number: its shortest decimal, or a word for what is not finite. -/
def text : Binary64 → List Char
  | nan => ['n', 'a', 'n']
  | infinite n => if n then "-inf".toList else "inf".toList
  | finite n m e =>
    let body :=
      if m = 0 then ['0', '.', '0']
      else
        let d := shortest m e
        let ds := Text.natDigits d.significand
        layout plainNotation ds (ds.length + d.exponent)
    if n then '-' :: body else body

/-- The number with one digit after the point, rounded from its exact value with a tie to the even
digit. -/
def oneDecimal : Binary64 → List Char
  | nan => ['n', 'a', 'n']
  | infinite n => if n then "-inf".toList else "inf".toList
  | finite n m e =>
    let (a, b) := magnitude m e
    let tenths := roundDiv (a * 10) b
    let body := Text.natDigits (tenths / 10) ++ '.' :: Text.natDigits (tenths % 10)
    if n then '-' :: body else body

end ElmOnSave.Binary64
