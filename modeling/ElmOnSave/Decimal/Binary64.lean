/-!
# Binary floating-point numbers

A `Binary64` is a number of the 64-bit binary format, kept as an integer times a power of two.
`Binary64.ofRatio` rounds a quotient of natural numbers to the nearest such number, a tie going to
the even significand, and `Binary64.ofDecimal` does so for a decimal.  Everything is exact
arithmetic on natural numbers and integers.
-/

namespace ElmOnSave

/-- A number of the 64-bit binary format. -/
inductive Binary64 where
  /-- The number `significand * 2 ^ exponent` with a sign, which zero has too. -/
  | finite (negative : Bool) (significand : Nat) (exponent : Int)
  | infinite (negative : Bool)
  | nan
deriving Repr, DecidableEq, Inhabited

namespace Binary64

/-- The quotient rounded to the nearest natural number, a tie to the even one. -/
def roundDiv (num den : Nat) : Nat :=
  let q := num / den
  let r := num % den
  if 2 * r < den then q
  else if den < 2 * r then q + 1
  else if q % 2 = 0 then q else q + 1

/-- A power with an integer exponent as a quotient of natural numbers. -/
def powRatio (base : Nat) (e : Int) : Nat × Nat :=
  if 0 ≤ e then (Nat.pow base e.toNat, 1) else (1, Nat.pow base (-e).toNat)

/-- The least exponent of a number with a full significand, and the exponent of tiny numbers. -/
def minExponent : Int := -1074

/-- The exponent of the greatest finite numbers. -/
def maxExponent : Int := 971

/-- The exponent whose unit gives a positive quotient its 53 binary digits, or the least one. -/
def unitExponent (num den : Nat) : Int :=
  let b : Int := (num.log2 : Int) - (den.log2 : Int)
  let (p, q) := powRatio 2 b
  let b := if num * q < den * p then b - 1 else b
  max (b - 52) minExponent

/-- The number nearest to a quotient of natural numbers. -/
def ofRatio (negative : Bool) (num den : Nat) : Binary64 :=
  if num = 0 ∨ den = 0 then finite negative 0 0
  else
    let e := unitExponent num den
    let (p, q) := powRatio 2 e
    let m := roundDiv (num * q) (den * p)
    let (m, e) := if m = Nat.pow 2 53 then (Nat.pow 2 52, e + 1) else (m, e)
    if maxExponent < e then infinite negative
    else if m = 0 then finite negative 0 0
    else finite negative m e

/-- The number nearest to `digits * 10 ^ exponent`.  Decimals beyond the range of the format are
settled by their size, before any power is formed. -/
def ofDecimal (negative : Bool) (digits : Nat) (exponent : Int) : Binary64 :=
  if digits = 0 then finite negative 0 0
  else
    let size : Int := exponent + (digits.log2 : Int) * 3 / 10
    if 400 < size then infinite negative
    else if exponent + (digits.log2 : Int) < -500 then finite negative 0 0
    else
      let (p, q) := powRatio 10 exponent
      ofRatio negative (digits * p) q

/-- The number nearest to an integer. -/
def ofInt (i : Int) : Binary64 :=
  ofRatio (i < 0) i.natAbs 1

/-- The absolute value of a finite number as a quotient. -/
def magnitude (significand : Nat) (exponent : Int) : Nat × Nat :=
  let (p, q) := powRatio 2 exponent
  (significand * p, q)

def isFinite : Binary64 → Bool
  | finite .. => true
  | _ => false

def isNaN : Binary64 → Bool
  | nan => true
  | _ => false

/-- The order of the numbers; nothing is less than a number that is none. -/
def lt : Binary64 → Binary64 → Bool
  | nan, _ => false
  | _, nan => false
  | infinite n, infinite n' => n && !n'
  | infinite n, finite .. => n
  | finite .., infinite n => !n
  | finite n m e, finite n' m' e' =>
    let (a, b) := magnitude m e
    let (c, d) := magnitude m' e'
    let x : Int := if n then -(a * d : Nat) else (a * d : Nat)
    let y : Int := if n' then -(c * b : Nat) else (c * b : Nat)
    x < y

/-- The number nearest to a sum; a number that is none or is infinite prevails, the first one
first. -/
def add : Binary64 → Binary64 → Binary64
  | finite n m e, finite n' m' e' =>
    let (a, b) := magnitude m e
    let (c, d) := magnitude m' e'
    let x : Int := if n then -(a * d : Nat) else (a * d : Nat)
    let y : Int := if n' then -(c * b : Nat) else (c * b : Nat)
    ofRatio (x + y < 0) (x + y).natAbs (b * d)
  | finite .., y => y
  | x, _ => x

/-- Zero, with either sign. -/
def isZero : Binary64 → Bool
  | finite _ m _ => m = 0
  | _ => false

def zero : Binary64 := finite false 0 0

/-- Whether the number compares greater than zero. -/
def isPositive (x : Binary64) : Bool :=
  zero.lt x

/-- Whether the number compares less than or equal to zero, which a number that is none does
not. -/
def isNonpositive (x : Binary64) : Bool :=
  x.isZero || x.lt zero

/-- The integer a finite number is, if it has no fraction. -/
def toInt? : Binary64 → Option Int
  | finite n m e =>
    let (a, b) := magnitude m e
    if a % b = 0 then some (if n then -(a / b : Nat) else (a / b : Nat)) else none
  | _ => none

end Binary64

end ElmOnSave
