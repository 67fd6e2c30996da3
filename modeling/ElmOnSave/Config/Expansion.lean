import ElmOnSave.Fault
import ElmOnSave.Machine
import ElmOnSave.Platform
import ElmOnSave.Text.Word
import ElmOnSave.Value

/-!
# Variables in a configuration

A text of the configuration may refer to a variable, as `$NAME` or `${NAME}`.  References are found
from left to right in one pass, so a value that is filled in is not looked at again, and a reference
to a variable that is not defined stays as it is written.  A tilde at the start of the result then
becomes a home directory.

Not everything can be expanded: a tilde may be followed by a name that cannot be looked up, and
lists and tables may be nested more deeply than the `Platform` follows.
-/

namespace ElmOnSave.Config

/-- A stretch of a text: a character as it is, or a reference as it is written and its name. -/
inductive Piece where
  | literal (c : Char)
  | reference (written name : List Char)
deriving Repr, DecidableEq, Inhabited

/-- The characters of a piece as they are written. -/
def Piece.written : Piece → List Char
  | literal c => [c]
  | reference w _ => w

/-- The reference that starts with a dollar sign, whose following text is given: what it covers of
that text, and its name. -/
def reference? (cs : List Char) : Option (List Char × List Char) :=
  let word := cs.takeWhile Text.isWord
  if !word.isEmpty then some (word, word)
  else
    match cs with
    | '\x7b' :: inner =>
      let name := inner.takeWhile (· != '\x7d')
      if name.isEmpty || (inner.drop name.length).isEmpty then none
      else some ('\x7b' :: (name ++ ['\x7d']), name)
    | _ => none

/-- Cuts a text into pieces; each round takes at least one character, so the length of the text is
fuel enough.  The pieces so far come latest first. -/
def cut : (fuel : Nat) → List Char → List Piece → List Piece
  | 0, _, acc => acc.reverse
  | _ + 1, [], acc => acc.reverse
  | fuel + 1, c :: cs, acc =>
    if c = '$' then
      match reference? cs with
      | some (covered, name) =>
        cut fuel (cs.drop covered.length) (.reference ('$' :: covered) name :: acc)
      | none => cut fuel cs (.literal c :: acc)
    else cut fuel cs (.literal c :: acc)

/-- The pieces of a text. -/
def piecesOf (cs : List Char) : List Piece :=
  cut cs.length cs []

/-- A piece with its variable filled in. -/
def Piece.expand (environment : List (String × String)) : Piece → List Char
  | literal c => [c]
  | reference w name =>
    match environment.lookup (String.ofList name) with
    | some v => v.toList
    | none => w

/-- A text with its variables filled in. -/
def expandVariables (environment : List (String × String)) (s : String) : String :=
  String.ofList ((piecesOf s.toList).flatMap (Piece.expand environment))

/-- A text with its variables filled in and a leading tilde replaced. -/
def expandString (m : Machine) (environment : List (String × String)) (s : String) : String :=
  m.expandTilde (expandVariables environment s)

mutual

/-- A value with every text inside it expanded; names of tables stay as they are. -/
def expand (m : Machine) (environment : List (String × String)) : Value → Value
  | .text (.whole s) => .text (.whole (expandString m environment s))
  | .list items => .list (expandItems m environment items)
  | .table entries => .table (expandEntries m environment entries)
  | v => v

/-- The items of a list, each expanded. -/
def expandItems (m : Machine) (environment : List (String × String)) : List Value → List Value
  | [] => []
  | v :: vs => expand m environment v :: expandItems m environment vs

/-- The entries of a table, each value expanded. -/
def expandEntries (m : Machine) (environment : List (String × String)) :
    List (Text × Value) → List (Text × Value)
  | [] => []
  | (k, v) :: es => (k, expand m environment v) :: expandEntries m environment es

end

mutual

/-- The first thing in a value that cannot be expanded, in the order in which its texts are come by,
where so many lists and tables inside one another are followed. -/
def obstacle? (environment : List (String × String)) (room : Nat) : Value → Option Fault
  | .text (.whole s) =>
    if Machine.namesNullAccount (expandVariables environment s) then some .nullByte else none
  | .list items =>
    if room = 0 then some .nestedTooDeep else obstacleAmong? environment (room - 1) items
  | .table entries =>
    if room = 0 then some .nestedTooDeep else obstacleWithin? environment (room - 1) entries
  | _ => none

/-- The first of them in a list. -/
def obstacleAmong? (environment : List (String × String)) (room : Nat) :
    List Value → Option Fault
  | [] => none
  | v :: vs =>
    match obstacle? environment room v with
    | some f => some f
    | none => obstacleAmong? environment room vs

/-- The first of them in a table. -/
def obstacleWithin? (environment : List (String × String)) (room : Nat) :
    List (Text × Value) → Option Fault
  | [] => none
  | (_, v) :: es =>
    match obstacle? environment room v with
    | some f => some f
    | none => obstacleWithin? environment room es

end

/-- A value with every text inside it expanded, unless something in it cannot be. -/
def tryExpand [Platform] (m : Machine) (environment : List (String × String)) (v : Value) :
    Except Fault Value :=
  match obstacle? environment Platform.expansionNesting v with
  | some f => .error f
  | none => .ok (expand m environment v)

end ElmOnSave.Config
