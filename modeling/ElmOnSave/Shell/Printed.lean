import ElmOnSave.Shell.Arithmetic

/-!
# Printed texts

Two commands print their arguments.  One separates them by blanks; the other fills them into a
format, over and over until none is left.  Both know escapes, by which a backslash stands for a
character that is hard to write.
-/

namespace ElmOnSave.Shell

/-! ## Escapes -/

/-- The character of a number. -/
def octetChar (n : Nat) : Char :=
  Char.ofNat (n % 256)

/-- The characters that a letter behind a backslash stands for. -/
def escapeLetters : List (Char × Nat) :=
  [('\\', 92), ('a', 7), ('b', 8), ('f', 12), ('n', 10), ('r', 13), ('t', 9), ('v', 11)]

/-- The octal number of at most three digits at the start of a text, and what follows it. -/
def octalIn (cs : List Char) : Nat × List Char :=
  let digits := (cs.take 3).takeWhile fun c => '0' ≤ c && c ≤ '7'
  (Text.ofDigitValues 8 (digits.map fun c => c.toNat - 48), cs.drop digits.length)

/-- The character that stands behind a backslash, and what follows it. -/
def escapeIn : List Char → Char × List Char
  | [] => ('\\', [])
  | c :: cs =>
    if '0' ≤ c && c ≤ '7' then
      let (n, rest) := octalIn (c :: cs)
      (octetChar n, rest)
    else
      match escapeLetters.lookup c with
      | some n => (Char.ofNat n, cs)
      | none => ('\\', c :: cs)

/-- A text with its escapes resolved, and whether one of them ends all printing. -/
def unescape : (fuel : Nat) → List Char → List Char × Bool
  | 0, _ => ([], false)
  | _ + 1, [] => ([], false)
  | fuel + 1, c :: cs =>
    if c ≠ '\\' then
      let (text, ends) := unescape fuel cs
      (c :: text, ends)
    else
      match cs with
      | 'c' :: _ => ([], true)
      | cs =>
        let (d, rest) := match cs with
          | '0' :: cs => let (n, rest) := octalIn cs; (octetChar n, rest)
          | cs => escapeIn cs
        let (text, ends) := unescape fuel rest
        (d :: text, ends)

/-- What is printed of arguments separated by blanks. -/
def printedWords (args : List (List Char)) : List Char :=
  let quiet := args.head? == some "-n".toList
  let args := if quiet then args.drop 1 else args
  let rec go : List (List Char) → List Char
    | [] => if quiet then [] else ['\n']
    | a :: more =>
      let (text, ends) := unescape (a.length + 1) a
      if ends then text
      else if more.isEmpty then text ++ go more
      else text ++ ' ' :: go more
  go args

/-! ## Formats -/

/-- How a directive of a format lays out its text. -/
structure Layout where
  left : Bool
  sign : Bool
  blank : Bool
  zeros : Bool
  alternative : Bool
  width : Nat
  precision : Option Nat
deriving Repr, DecidableEq, Inhabited

/-- What is printed, and what is said about it. -/
structure Printing where
  /-- The text, the latest part first. -/
  texts : List (List Char)
  complaints : List (List Char)
  failed : Bool
  args : List (List Char)
  /-- Whether all printing is over. -/
  ended : Bool
  /-- The directive that has no meaning. -/
  invalid : Option (List Char)
deriving Repr, Inhabited

namespace Printing

/-- The next argument. -/
def next (p : Printing) : Option (List Char) × Printing :=
  (p.args.head?, { p with args := p.args.drop 1 })

/-- One text more. -/
def print (p : Printing) (text : List Char) : Printing :=
  { p with texts := text :: p.texts }

/-- Something is said. -/
def complain (p : Printing) (text : List Char) : Printing :=
  { p with complaints := p.complaints ++ [text], failed := true }

/-- The next argument as a number. -/
def nextNumber (p : Printing) (signed : Bool) : Int × Printing :=
  match p.next with
  | (none, p) => (0, p)
  | (some a, p) =>
    match a with
    | '"' :: rest | '\'' :: rest => (((rest.head?.map Char.toNat).getD 0 : Nat), p)
    | a =>
      let inner := a.dropWhile isSpace
      let negative := inner.head? == some '-'
      let unsigned := if negative || inner.head? == some '+' then inner.drop 1 else inner
      let (base, digits) := baseOf unsigned
      let (n, rest) := numberIn base digits
      let none_ := rest.length = digits.length
      let low := if signed then least else 1 - wordRange
      let high := if signed then greatest else wordRange - 1
      let value : Int := if negative then -n else n
      let bounded := if value < low then (if signed then least else high) else min value high
      let p :=
        if none_ then
          if a.isEmpty then p else p.complain (a ++ ": expected numeric value".toList)
        else if !rest.isEmpty then p.complain (a ++ ": not completely converted".toList)
        else if value < low || high < value then
          p.complain (a ++ ": Numerical result out of range".toList)
        else p
      (if none_ then 0 else bounded, p)

end Printing

namespace Layout

/-- A text in its width. -/
def pad (l : Layout) (text : List Char) : List Char :=
  let blanks := List.replicate (l.width - text.length) ' '
  if l.left then text ++ blanks else blanks ++ text

/-- A text that is cut at the precision, in its width. -/
def text (l : Layout) (cs : List Char) : List Char :=
  l.pad (match l.precision with
    | some n => cs.take n
    | none => cs)

/-- A number with a sign and digits, in its width. -/
def number (l : Layout) (sign digits : List Char) : List Char :=
  let digits := match l.precision with
    | some 0 => if digits = ['0'] then [] else digits
    | some n => List.replicate (n - digits.length) '0' ++ digits
    | none =>
      if l.zeros && !l.left then
        List.replicate (l.width - sign.length - digits.length) '0' ++ digits
      else digits
  l.pad (sign ++ digits)

end Layout

/-- The digits of a number in a base. -/
def digitsIn (base n : Nat) : List Char :=
  Nat.toDigits base n

/-- The layout at the start of a directive, what follows it, and the printing once arguments that
tell a width were taken. -/
def readLayout (cs : List Char) (p : Printing) : Layout × List Char × Printing :=
  let flags := cs.takeWhile fun c => "#-+ 0".toList.contains c
  let cs := cs.drop flags.length
  let count := fun (cs : List Char) (p : Printing) =>
    match cs with
    | '*' :: rest => let (n, p) := p.nextNumber true; (n, rest, p)
    | cs =>
      let digits := cs.takeWhile Char.isDigit
      ((Text.ofDigits digits : Nat), cs.drop digits.length, p)
  let (width, cs, p) := count cs p
  let (precision, cs, p) := match cs with
    | '.' :: rest => let (n, cs, p) := count rest p; (some n, cs, p)
    | cs => ((none : Option Int), cs, p)
  let precision := (precision.filter (0 ≤ ·)).map Int.toNat
  (⟨flags.contains '-' || width < 0, flags.contains '+', flags.contains ' ', flags.contains '0',
    flags.contains '#', width.natAbs, precision⟩, cs, p)

/-- Prints one directive, of which the letter is known. -/
def printDirective (l : Layout) (c : Char) (p : Printing) : Option Printing :=
  match c with
  | 's' => let (a, p) := p.next; some (p.print (l.text (a.getD [])))
  | 'c' => let (a, p) := p.next; some (p.print (l.pad ((a.getD []).take 1)))
  | 'b' =>
    let (a, p) := p.next
    let (text, ends) := unescape ((a.getD []).length + 1) (a.getD [])
    some { p.print (l.text text) with ended := ends }
  | 'd' | 'i' =>
    let (n, p) := p.nextNumber true
    let sign := if n < 0 then ['-'] else if l.sign then ['+'] else if l.blank then [' '] else []
    some (p.print (l.number sign (Text.natDigits n.natAbs)))
  | 'u' => let (n, p) := p.nextNumber false; some (p.print (l.number [] (digitsIn 10 (unsigned n))))
  | 'o' =>
    let (n, p) := p.nextNumber false
    let digits := digitsIn 8 (unsigned n)
    let mark := l.alternative && digits.head? != some '0'
    some (p.print (l.number [] (if mark then '0' :: digits else digits)))
  | 'x' =>
    let (n, p) := p.nextNumber false
    let mark := if l.alternative && unsigned n != 0 then "0x".toList else []
    some (p.print (l.number mark (digitsIn 16 (unsigned n))))
  | 'X' =>
    let (n, p) := p.nextNumber false
    let mark := if l.alternative && unsigned n != 0 then "0X".toList else []
    some (p.print (l.number mark ((digitsIn 16 (unsigned n)).map Char.toUpper)))
  | _ => none

/-- Prints a format once. -/
def printOnce : (fuel : Nat) → List Char → Printing → Printing
  | 0, _, p => p
  | _ + 1, [], p => p
  | fuel + 1, c :: cs, p =>
    if p.ended || p.invalid.isSome then p
    else if c = '\\' then
      if cs.head? = some 'c' then { p with ended := true }
      else
        let (d, rest) := escapeIn cs
        printOnce fuel rest (p.print [d])
    else if c = '%' then
      if cs.head? = some '%' then printOnce fuel (cs.drop 1) (p.print ['%'])
      else
        let (l, rest, p) := readLayout cs p
        match rest with
        | d :: after =>
          match printDirective l d p with
          | some p => printOnce fuel after p
          | none => { p with invalid := some ('%' :: cs.take (cs.length - after.length)) }
        | [] => { p with invalid := some ('%' :: cs) }
    else printOnce fuel cs (p.print [c])

/-- Prints a format until no argument is left. -/
def printAll (format : List Char) : (fuel : Nat) → Printing → Printing
  | 0, p => p
  | fuel + 1, p =>
    let q := printOnce (format.length + 1) format p
    if q.args.isEmpty || q.args.length = p.args.length || q.ended || q.invalid.isSome then q
    else printAll format fuel q

/-- What is printed of arguments by a format. -/
def printed (format : List Char) (args : List (List Char)) : Printing :=
  printAll format (args.length + 1) ⟨[], [], false, args, false, none⟩

end ElmOnSave.Shell
