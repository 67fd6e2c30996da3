import ElmOnSave.Json.Token
import ElmOnSave.Platform

/-!
# Reading JSON

A JSON text is read by a machine that takes one token at a time.  Its state is a stack of the lists
and objects that are still open and a note of what may come next.  `Json.read` answers with the
value of the whole text or with the first thing that is wrong.

How many lists and objects may be open at once is left to the `Platform`.

Beyond the standard grammar the words `NaN`, `Infinity` and `-Infinity` are numbers.  Of a name that
occurs twice in an object the last value counts, at the place of the first.
-/

namespace ElmOnSave.Json

/-- A list or object that is still open. -/
inductive Frame where
  /-- A list with the items so far, the latest first. -/
  | array (items : List Value)
  /-- An object with the entries so far and the name whose value is next. -/
  | object (entries : List (Text × Value)) (name : Text)
deriving Repr, Inhabited

/-- What may come next. -/
inductive Expecting where
  /-- A value. -/
  | value
  /-- A value, or the end of a list that has just begun. -/
  | valueOrClose
  /-- A name, or the end of an object that has just begun. -/
  | nameOrClose
  /-- A name, after a comma. -/
  | name
  /-- The colon after a name. -/
  | colon
  /-- A comma, or the end of the innermost list or object. -/
  | commaOrClose
  /-- Nothing: the value of the text is complete. -/
  | nothing (v : Value)
deriving Repr, Inhabited

/-- The state between two tokens: what is open, innermost first, and what may come next. -/
structure Stage where
  stack : List Frame
  expecting : Expecting
deriving Repr, Inhabited

/-- A complaint with its offset, or a refusal for size. -/
inductive Objection where
  | complaint (c : Complaint) (offset : Nat)
  | integerTooLong (digits : Nat)
  | nestedTooDeep
deriving Repr, DecidableEq, Inhabited

/-- A value is complete: it goes into the innermost list or object, or is the value of the text. -/
def deliver (v : Value) : List Frame → Stage
  | [] => ⟨[], .nothing v⟩
  | .array items :: fs => ⟨.array (v :: items) :: fs, .commaOrClose⟩
  | .object entries name :: fs => ⟨.object (Entries.put entries name v) name :: fs, .commaOrClose⟩

/-- Opens a list or object inside those that are open. -/
def push [Platform] (f : Frame) (next : Expecting) (fs : List Frame) : Except Objection Stage :=
  if Platform.jsonNesting ≤ fs.length then .error .nestedTooDeep else .ok ⟨f :: fs, next⟩

/-- A token where a value is due. -/
def takeValue [Platform] (fs : List Frame) (offset : Nat) : Token → Except Objection Stage
  | .string t => .ok (deliver (.text t) fs)
  | .scalar v => .ok (deliver v fs)
  | .openArray => push (.array []) .valueOrClose fs
  | .openObject => push (.object [] default) .nameOrClose fs
  | .brokenString c o => .error (.complaint c o)
  | .longInteger n => .error (.integerTooLong n)
  | _ => .error (.complaint .expectingValue offset)

/-- A token where a name is due. -/
def takeName (fs : List Frame) (offset : Nat) : Token → Except Objection Stage
  | .string t =>
    match fs with
    | .object entries _ :: fs => .ok ⟨.object entries t :: fs, .colon⟩
    | fs => .ok ⟨fs, .colon⟩
  | .brokenString c o => .error (.complaint c o)
  | _ => .error (.complaint .expectingName offset)

/-- One token more. -/
def Stage.feed [Platform] (s : Stage) (token : Token) (offset : Nat) : Except Objection Stage :=
  match s.expecting with
  | .value => takeValue s.stack offset token
  | .valueOrClose =>
    match token, s.stack with
    | .closeArray, _ :: fs => .ok (deliver (.list []) fs)
    | t, fs => takeValue fs offset t
  | .nameOrClose =>
    match token, s.stack with
    | .closeObject, _ :: fs => .ok (deliver (.table []) fs)
    | t, fs => takeName fs offset t
  | .name => takeName s.stack offset token
  | .colon =>
    match token with
    | .colon => .ok ⟨s.stack, .value⟩
    | _ => .error (.complaint .expectingColon offset)
  | .commaOrClose =>
    match token, s.stack with
    | .comma, .array items :: fs => .ok ⟨.array items :: fs, .value⟩
    | .comma, .object entries name :: fs => .ok ⟨.object entries name :: fs, .name⟩
    | .closeArray, .array items :: fs => .ok (deliver (.list items.reverse) fs)
    | .closeObject, .object entries _ :: fs => .ok (deliver (.table entries) fs)
    | _, _ => .error (.complaint .expectingComma offset)
  | .nothing _ => .error (.complaint .extraData offset)

/-- All tokens, one after the other. -/
def Stage.feedAll [Platform] : Stage → List (Token × Nat) → Except Objection Stage
  | s, [] => .ok s
  | s, (t, o) :: ts =>
    match s.feed t o with
    | .ok s' => s'.feedAll ts
    | .error e => .error e

/-- The value when no token follows. -/
def Stage.finish (s : Stage) (offset : Nat) : Except Objection Value :=
  match s.expecting with
  | .nothing v => .ok v
  | .value | .valueOrClose => .error (.complaint .expectingValue offset)
  | .nameOrClose | .name => .error (.complaint .expectingName offset)
  | .colon => .error (.complaint .expectingColon offset)
  | .commaOrClose => .error (.complaint .expectingComma offset)

/-- The value of a text or what is wrong with it, by offset. -/
def readAt [Platform] (cs : List Char) : Except Objection Value :=
  let (ts, finish) := tokens cs
  match (⟨[], .value⟩ : Stage).feedAll ts with
  | .ok s => s.finish finish
  | .error e => .error e

/-- An objection in the words of a text. -/
def Objection.fault (cs : List Char) : Objection → Fault
  | .complaint c o => .malformed c (Text.placeAfter (cs.take o)) o
  | .integerTooLong n => .integerTooLong n
  | .nestedTooDeep => .nestedTooDeep

/-- Reads a JSON text. -/
def read [Platform] (cs : List Char) : Except Fault Value :=
  match cs with
  | '\uFEFF' :: _ => .error (.malformed .byteOrderMark ⟨1, 1⟩ 0)
  | cs => (readAt cs).mapError (Objection.fault cs)

end ElmOnSave.Json
