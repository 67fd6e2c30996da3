import ElmOnSave.Platform
import ElmOnSave.Toml.Document
import ElmOnSave.Toml.Scalar

/-!
# Reading TOML

A text is read statement by statement, each of which changes the document, and the first thing that
is wrong ends the reading.  Lists and inline tables may contain each other as far as the `Platform`
has room, of which an inline table takes more than a list.
-/

namespace ElmOnSave.Toml

/-! ## Keys -/

/-- A character of a key without quotes. -/
def isBareKey (c : Char) : Bool :=
  c.isAlphanum || c == '-' || c == '_'

/-- One part of a key. -/
def keyPart (c : Cursor) : Parsed String :=
  match c.peek? with
  | some ch =>
    if isBareKey ch then
      let run := c.rest.takeWhile isBareKey
      .ok (String.ofList run, c.advance run.length)
    else if ch = '\'' then (literalString c).map fun (s, c') => (String.ofList s, c')
    else if ch = '"' then (lineString c).map fun (s, c') => (String.ofList s, c')
    else c.refuse .invalidKeyStart
  | none => c.refuse .invalidKeyStart

/-- The parts of a key that follow one another after points. -/
def keyParts : (fuel : Nat) → Cursor → List String → Parsed Key
  | 0, c, _ => c.refuse .invalidKeyStart
  | fuel + 1, c, acc =>
    match keyPart c with
    | .error e => .error e
    | .ok (p, c') =>
      let c' := c'.skip isBlank
      if c'.peek? = some '.' then keyParts fuel ((c'.advance 1).skip isBlank) (p :: acc)
      else .ok ((p :: acc).reverse, c')

/-- A key and the blanks behind it. -/
def key (c : Cursor) : Parsed Key :=
  keyParts (c.rest.length + 1) c []

/-! ## Values -/

/-- What a list takes of the room for nesting. -/
def arrayCost : Nat := 2

/-- What an inline table takes of the room for nesting. -/
def inlineCost : Nat := 3

mutual

/-- A value. -/
def value : (fuel : Nat) → (room : Nat) → Cursor → Parsed Value
  | 0, _, c => c.refuse .invalidValue
  | fuel + 1, room, c =>
    match c.peek? with
    | some '"' =>
      (if c.startsWith "\"\"\"" then longString false c else lineString c).map fun (s, c') =>
        (.ofString (String.ofList s), c')
    | some '\'' =>
      (if c.startsWith "'''" then longString true c else literalString c).map fun (s, c') =>
        (.ofString (String.ofList s), c')
    | some '[' =>
      if room < arrayCost then .error .nestedTooDeep
      else
        match (c.advance 1).skipFillers with
        | .error e => .error e
        | .ok c' =>
          if c'.startsWith "]" then .ok (.list [], c'.advance 1)
          else arrayItems fuel (room - arrayCost) c' []
    | some '\x7b' =>
      if room < inlineCost then .error .nestedTooDeep
      else
        let c' := (c.advance 1).skip isBlank
        if c'.startsWith "\x7d" then .ok (.table [], c'.advance 1)
        else inlineEntries fuel (room - inlineCost) c' ⟨[], []⟩
    | _ =>
      if c.startsWith "true" then .ok (.bool true, c.advance 4)
      else if c.startsWith "false" then .ok (.bool false, c.advance 5)
      else plainScalar c

/-- The items of a list up to its end, the latest first. -/
def arrayItems : (fuel : Nat) → (room : Nat) → Cursor → List Value → Parsed Value
  | 0, _, c, _ => c.refuse .unclosedArray
  | fuel + 1, room, c, acc =>
    match value fuel room c with
    | .error e => .error e
    | .ok (v, c) =>
      match c.skipFillers with
      | .error e => .error e
      | .ok c =>
        match c.peek? with
        | some ']' => .ok (.list (v :: acc).reverse, c.advance 1)
        | some ',' =>
          match (c.advance 1).skipFillers with
          | .error e => .error e
          | .ok c =>
            if c.startsWith "]" then .ok (.list (v :: acc).reverse, c.advance 1)
            else arrayItems fuel room c (v :: acc)
        | _ => c.refuse .unclosedArray

/-- The entries of an inline table up to its end. -/
def inlineEntries : (fuel : Nat) → (room : Nat) → Cursor → InlineTable → Parsed Value
  | 0, _, c, _ => c.refuse .unclosedInlineTable
  | fuel + 1, room, c, t =>
    match keyValue fuel room c with
    | .error e => .error e
    | .ok ((k, v), c) =>
      match t.assign k v c.offset with
      | .error e => .error e
      | .ok t =>
        let c := c.skip isBlank
        match c.peek? with
        | some '\x7d' => .ok (.table t.entries, c.advance 1)
        | some ',' => inlineEntries fuel room ((c.advance 1).skip isBlank) (t.seal k v)
        | _ => c.refuse .unclosedInlineTable

/-- A key, an equals sign and a value. -/
def keyValue : (fuel : Nat) → (room : Nat) → Cursor → Parsed (Key × Value)
  | 0, _, c => c.refuse .expectedEquals
  | fuel + 1, room, c =>
    match key c with
    | .error e => .error e
    | .ok (k, c) =>
      if c.peek? = some '=' then
        (value fuel room ((c.advance 1).skip isBlank)).map fun (v, c) => ((k, v), c)
      else c.refuse .expectedEquals

end

/-! ## Statements -/

/-- The closing mark of a header. -/
def closeHeader (mark : String) (complaint : Complaint) (d : Document) (c : Cursor) :
    Parsed Document :=
  if c.startsWith mark then .ok (d, c.advance mark.length) else c.refuse complaint

/-- One statement, from its first character on. -/
def statement [Platform] (d : Document) (c : Cursor) : Parsed Document :=
  let fuel := 4 * c.rest.length + 4
  match c.peek? with
  | some '[' =>
    let d := d.startHeader
    if c.startsWith "[[" then
      match key ((c.advance 2).skip isBlank) with
      | .error e => .error e
      | .ok (k, c) =>
        match d.declareItem k c.offset with
        | .error e => .error e
        | .ok d => closeHeader "]]" .expectedArrayEnd d c
    else
      match key ((c.advance 1).skip isBlank) with
      | .error e => .error e
      | .ok (k, c) =>
        match d.declareTable k c.offset with
        | .error e => .error e
        | .ok d => closeHeader "]" .expectedTableEnd d c
  | some ch =>
    if isBareKey ch || ch == '"' || ch == '\'' then
      match keyValue fuel Platform.tomlNesting c with
      | .error e => .error e
      | .ok ((k, v), c) => (d.assign k v c.offset).map fun d => (d, c)
    else if ch = '#' then .ok (d, c)
    else c.refuse .invalidStatement
  | none => .ok (d, c)

/-- All statements, each of which takes at least one character. -/
def statements [Platform] : (fuel : Nat) → Document → Cursor → Except Objection Document
  | 0, d, _ => .ok d
  | fuel + 1, d, c =>
    let c := c.skip isBlank
    match c.rest with
    | [] => .ok d
    | '\n' :: _ => statements fuel d (c.advance 1)
    | _ =>
      match statement d c with
      | .error e => .error e
      | .ok (d, c) =>
        match skipComment (c.skip isBlank) with
        | .error e => .error e
        | .ok c =>
          match c.rest with
          | [] => .ok d
          | '\n' :: _ => statements fuel d (c.advance 1)
          | _ => c.refuse .expectedLineEnd

/-- CR LF becomes LF; a lone CR stays. -/
def joinCrLf (cs : List Char) : List Char :=
  (go cs []).reverse
where
  /-- Works through the characters with the result so far, the latest first. -/
  go : List Char → List Char → List Char
  | '\r' :: '\n' :: cs, acc => go cs ('\n' :: acc)
  | c :: cs, acc => go cs (c :: acc)
  | [], acc => acc

/-- An objection in the words of a text. -/
def Objection.fault (cs : List Char) : Objection → Fault
  | .complaint c o =>
    .malformed c (if o < cs.length then some (Text.placeAfter (cs.take o)) else none)
  | .integerTooLong n => .integerTooLong n
  | .nestedTooDeep => .nestedTooDeep

/-- Reads a TOML text: the entries of its root table. -/
def read [Platform] (cs : List Char) : Except Fault Table :=
  let cs := joinCrLf cs
  match statements (cs.length + 1) .empty ⟨cs, 0⟩ with
  | .ok d => .ok d.root
  | .error e => .error (e.fault cs)

end ElmOnSave.Toml
