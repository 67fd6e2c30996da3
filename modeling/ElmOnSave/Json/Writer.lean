import ElmOnSave.Decimal.Shortest
import ElmOnSave.Value.Inspect

/-!
# Writing JSON

`Json.pretty` writes a value over several lines, two blanks of indentation to a level, with the
names of every object in increasing order of their code points and every character beyond printable
ASCII escaped.  A character outside the basic plane is written as a pair of escapes.
-/

namespace ElmOnSave.Json

/-- An escape by number. -/
def unitEscape (n : Nat) : List Char :=
  '\\' :: 'u' :: Text.hexPadded 4 n

/-- One code point inside a string. -/
def escaped (n : Nat) : List Char :=
  if n = 34 then ['\\', '"']
  else if n = 92 then ['\\', '\\']
  else if n = 10 then ['\\', 'n']
  else if n = 13 then ['\\', 'r']
  else if n = 9 then ['\\', 't']
  else if n = 12 then ['\\', 'f']
  else if n = 8 then ['\\', 'b']
  else if 32 ≤ n ∧ n < 127 then [Char.ofNat n]
  else if n < 0x10000 then unitEscape n
  else
    let m := n - 0x10000
    unitEscape (0xD800 + m / 0x400) ++ unitEscape (0xDC00 + m % 0x400)

/-- A text between double quotes. -/
def string (t : Text) : List Char :=
  '"' :: (t.points.flatMap escaped ++ ['"'])

/-- A new line indented to a level. -/
def newLine (level : Nat) : List Char :=
  '\n' :: List.replicate (2 * level) ' '

/-- A number as JSON spells it. -/
def number : Binary64 → List Char
  | .nan => "NaN".toList
  | .infinite n => if n then "-Infinity".toList else "Infinity".toList
  | x => x.text

/-- The order of names: by code points, a shorter name before its continuations. -/
def nameLe (a b : Text) : Bool :=
  !(decide (b.points < a.points))

/-- Entries in increasing order of their names. -/
def sortEntries {ν : Type} (es : List (Text × ν)) : List (Text × ν) :=
  es.mergeSort fun a b => nameLe a.1 b.1

mutual

/-- The value with the names of every object in increasing order. -/
def sorted : Value → Value
  | .list items => .list (sortedItems items)
  | .table entries => .table (sortEntries (sortedEntries entries))
  | v => v

/-- The items with the names of every object among them in increasing order. -/
def sortedItems : List Value → List Value
  | [] => []
  | v :: vs => sorted v :: sortedItems vs

/-- The entries, in the order given, with every object among their values sorted. -/
def sortedEntries : List (Text × Value) → List (Text × Value)
  | [] => []
  | (k, v) :: es => (k, sorted v) :: sortedEntries es

end

mutual

/-- A value at a level of indentation, with names in the order of the value. -/
def write (level : Nat) : Value → List Char
  | .null => "null".toList
  | .bool true => "true".toList
  | .bool false => "false".toList
  | .int i => Value.intText i
  | .float x => number x
  | .text t => string t
  | .moment s => string (.whole s)
  | .list [] => ['[', ']']
  | .list (v :: vs) =>
    '[' :: (newLine (level + 1) ++ write (level + 1) v ++ writeItems level vs)
  | .table [] => ['\x7b', '\x7d']
  | .table ((k, v) :: es) =>
    '\x7b' :: (newLine (level + 1) ++ string k ++ ':' :: ' ' :: write (level + 1) v ++
      writeEntries level es)

/-- The items after the first, each after a comma on a line of its own, and the closing bracket. -/
def writeItems (level : Nat) : List Value → List Char
  | [] => newLine level ++ [']']
  | v :: vs => ',' :: (newLine (level + 1) ++ write (level + 1) v ++ writeItems level vs)

/-- The entries after the first, each after a comma on a line of its own, and the closing brace. -/
def writeEntries (level : Nat) : List (Text × Value) → List Char
  | [] => newLine level ++ ['\x7d']
  | (k, v) :: es =>
    ',' :: (newLine (level + 1) ++ string k ++ ':' :: ' ' :: write (level + 1) v ++
      writeEntries level es)

end

/-- A value over several lines, names sorted. -/
def pretty (v : Value) : List Char :=
  write 0 (sorted v)

mutual

/-- A value on one line without blanks, with names in the order of the value. -/
def compact : Value → List Char
  | .null => "null".toList
  | .bool true => "true".toList
  | .bool false => "false".toList
  | .int i => Value.intText i
  | .float x => number x
  | .text t => string t
  | .moment s => string (.whole s)
  | .list items => '[' :: (compactItems items ++ [']'])
  | .table entries => '\x7b' :: (compactEntries entries ++ ['\x7d'])

def compactItems : List Value → List Char
  | [] => []
  | [v] => compact v
  | v :: vs => compact v ++ ',' :: compactItems vs

def compactEntries : List (Text × Value) → List Char
  | [] => []
  | [(k, v)] => string k ++ ':' :: compact v
  | (k, v) :: es => string k ++ ':' :: (compact v ++ ',' :: compactEntries es)

end

end ElmOnSave.Json
