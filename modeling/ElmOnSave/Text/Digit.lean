/-!
# Decimal digits

Every script with decimal digits has ten of them in a row, so the digits are known by the code
points of their zeros.  A digit of any script counts in version numbers and in colour markers.
`ofDigits` reads a run of digits as a number.
-/

namespace ElmOnSave.Text

/-- The code points of the digits zero beyond ASCII, in increasing order. -/
def foreignZeros : List Nat := [
    1632, 1776, 1984, 2406, 2534, 2662, 2790, 2918, 3046, 3174, 3302, 3430, 3558, 3664, 3792,
    3872, 4160, 4240, 6112, 6160, 6470, 6608, 6784, 6800, 6992, 7088, 7232, 7248, 42528, 43216,
    43264, 43472, 43504, 43600, 44016, 65296, 66720, 68912, 69734, 69872, 69942, 70096, 70384,
    70736, 70864, 71248, 71360, 71472, 71904, 72016, 72784, 73040, 73120, 92768, 92864, 93008,
    120782, 120792, 120802, 120812, 120822, 123200, 123632, 125264, 130032]

/-- The value of a decimal digit of any script. -/
def digitValue? (c : Char) : Option Nat :=
  let n := c.toNat
  if n < 128 then
    if 48 ≤ n && n ≤ 57 then some (n - 48) else none
  else
    (foreignZeros.find? fun z => z ≤ n && n < z + 10).map (n - ·)

/-- Whether the character is a decimal digit of some script. -/
def isDecimal (c : Char) : Bool :=
  (digitValue? c).isSome

/-- Whether the character is one of the ASCII digits. -/
def isAsciiDigit (c : Char) : Bool :=
  48 ≤ c.toNat && c.toNat ≤ 57

/-- The value of a hexadecimal digit in either case. -/
def hexValue? (c : Char) : Option Nat :=
  let n := c.toNat
  if 48 ≤ n && n ≤ 57 then some (n - 48)
  else if 97 ≤ n && n ≤ 102 then some (n - 87)
  else if 65 ≤ n && n ≤ 70 then some (n - 55)
  else none

/-- The number a run of digits spells in a base, the most significant digit first. -/
def ofDigitValues (base : Nat) (ds : List Nat) : Nat :=
  ds.foldl (fun n d => n * base + d) 0

/-- The number a run of decimal digits spells; characters that are no digits count as zero. -/
def ofDigits (cs : List Char) : Nat :=
  ofDigitValues 10 (cs.map fun c => (digitValue? c).getD 0)

/-- The digit of a hexadecimal number, in lower case. -/
def hexDigit (n : Nat) : Char :=
  if n < 10 then Char.ofNat (48 + n) else Char.ofNat (87 + n)

/-- A number in lower-case hexadecimal, padded with zeros to a least width. -/
def hexPadded (width n : Nat) : List Char :=
  (List.range width).reverse.map fun i => hexDigit (n / Nat.pow 16 i % 16)

/-- The decimal spelling of a natural number. -/
def natDigits (n : Nat) : List Char :=
  (toString n).toList

theorem isDecimal_of_isAsciiDigit (c : Char) (h : isAsciiDigit c = true) : isDecimal c = true := by
  simp only [isAsciiDigit, Bool.and_eq_true, decide_eq_true_eq] at h
  have h1 : c.toNat < 128 := by omega
  have h2 : (48 ≤ c.toNat && c.toNat ≤ 57) = true := by simp [h]
  simp [isDecimal, digitValue?, h1, h2]

end ElmOnSave.Text
