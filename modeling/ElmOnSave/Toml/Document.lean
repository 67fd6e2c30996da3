import ElmOnSave.Toml.Cursor
import ElmOnSave.Value

/-!
# Building a TOML document

A document grows by statements: a key gets a value, a table is declared, an item is added to a list
of tables.  What a statement may still do to a key depends on how the key came about, which is kept
as marks beside the tables: a table that was declared may not be declared again, and what was
written in brackets may not be extended at all.
-/

namespace ElmOnSave.Toml

/-- How a key came about. -/
inductive Origin where
  /-- Written in brackets: a list or an inline table. -/
  | frozen
  /-- A table that was declared. -/
  | declared
deriving Repr, DecidableEq, Inhabited

/-- The origin of a key; a deep mark holds for all keys below it as well. -/
structure Mark where
  key : Key
  origin : Origin
  deep : Bool
deriving Repr, DecidableEq, Inhabited

/-- The part of the key before its last name. -/
def Key.parents (k : Key) : Key := k.dropLast

/-- Whether a key has a mark of its own or lies below a deep one. -/
def marked (marks : List Mark) (key : Key) (origin : Origin) : Bool :=
  marks.any fun m =>
    m.origin == origin &&
      (m.key == key || (m.deep && m.key.length < key.length && m.key.isPrefixOf key))

/-- Removes the marks of a key and of all keys below it. -/
def unmark (marks : List Mark) (key : Key) : List Mark :=
  marks.filter fun m => !key.isPrefixOf m.key

/-- The entries of a table. -/
abbrev Table := List (Text × Value)

/-- Changes the table behind a key, creating tables on the way.  With `throughLists` the way may
lead through the last item of a list; anything else that is no table blocks it. -/
def changeNest (throughLists : Bool) (change : Table → Option Table) :
    Key → Table → Option Table
  | [], t => change t
  | k :: ks, t =>
    let here := (Entries.get? t (.whole k)).getD (.table [])
    match here with
    | .table inner =>
      (changeNest throughLists change ks inner).map fun inner' =>
        Entries.put t (.whole k) (.table inner')
    | .list items =>
      if throughLists then
        match items.reverse with
        | .table inner :: before =>
          (changeNest throughLists change ks inner).map fun inner' =>
            Entries.put t (.whole k) (.list (before.reverse ++ [.table inner']))
        | _ => none
      else none
    | _ => none

/-- A document under construction. -/
structure Document where
  root : Table
  marks : List Mark
  /-- Marks that take effect when the next header starts. -/
  pending : List Mark
  /-- The table that the next keys go to. -/
  header : Key
deriving Repr, Inhabited

/-- The document before its first statement. -/
def Document.empty : Document := ⟨[], [], [], []⟩

/-- Objects at an offset. -/
def objection {α : Type} (c : Complaint) (offset : Nat) : Except Objection α :=
  .error (.complaint c offset)

namespace Document

/-- A header starts: what was pending takes effect. -/
def startHeader (d : Document) : Document :=
  { d with marks := d.marks ++ d.pending, pending := [] }

/-- Declares a table and makes it the place of the next keys. -/
def declareTable (d : Document) (key : Key) (offset : Nat) : Except Objection Document :=
  if marked d.marks key .declared || marked d.marks key .frozen then
    objection (.declaredTwice key) offset
  else
    match changeNest true some key d.root with
    | none => objection .overwritten offset
    | some root =>
      .ok { d with root, marks := d.marks ++ [⟨key, .declared, false⟩], header := key }

/-- Adds an empty table to the list behind a key. -/
def appendItem (name : String) (t : Table) : Option Table :=
  match Entries.get? t (.whole name) with
  | none => some (Entries.put t (.whole name) (.list [.table []]))
  | some (.list items) => some (Entries.put t (.whole name) (.list (items ++ [.table []])))
  | some _ => none

/-- Adds an item to a list of tables and makes it the place of the next keys. -/
def declareItem (d : Document) (key : Key) (offset : Nat) : Except Objection Document :=
  if marked d.marks key .frozen then objection (.immutable key) offset
  else
    match changeNest true (appendItem (key.getLastD "")) key.parents d.root with
    | none => objection .overwritten offset
    | some root =>
      .ok { d with root, marks := unmark d.marks key ++ [⟨key, .declared, false⟩], header := key }

/-- Writes a value that is not there yet. -/
def putNew (name : String) (v : Value) (t : Table) : Option Table :=
  match Entries.get? t (.whole name) with
  | none => some (Entries.put t (.whole name) v)
  | some _ => none

/-- A list or table, which was written in brackets. -/
def isNest : Value → Bool
  | .list _ => true
  | .table _ => true
  | _ => false

/-- The tables that a dotted key opens below the current header. -/
def openedBy (d : Document) (key : Key) : List Key :=
  (List.range (key.length - 1)).map fun i => d.header ++ key.take (i + 1)

/-- Gives a key a value. -/
def assign (d : Document) (key : Key) (v : Value) (offset : Nat) : Except Objection Document :=
  let opened := d.openedBy key
  match opened.find? fun k => marked d.marks k .declared with
  | some k => objection (.redefined k) offset
  | none =>
    let parent := d.header ++ key.parents
    if marked d.marks parent .frozen then objection (.immutable parent) offset
    else
      match changeNest true (putNew (key.getLastD "") v) parent d.root with
      | none => objection .overwritten offset
      | some root =>
        .ok { d with
          root
          pending := d.pending ++ opened.map fun k => ⟨k, .declared, false⟩
          marks := if isNest v then d.marks ++ [⟨d.header ++ key, .frozen, true⟩] else d.marks }

end Document

/-! ## Inline tables -/

/-- An inline table under construction: its entries and the keys written in brackets. -/
structure InlineTable where
  entries : Table
  marks : List Mark
deriving Repr, Inhabited

/-- Gives a key of an inline table a value.  The way may not lead through lists. -/
def InlineTable.assign (t : InlineTable) (key : Key) (v : Value) (offset : Nat) :
    Except Objection InlineTable :=
  if marked t.marks key .frozen then objection (.immutable key) offset
  else
    match changeNest false some key.parents t.entries with
    | none => objection .overwritten offset
    | some _ =>
      match changeNest false (Document.putNew (key.getLastD "") v) key.parents t.entries with
      | none => objection (.duplicateInlineKey (key.getLastD "")) offset
      | some entries => .ok ⟨entries, t.marks⟩

/-- A comma follows the value of a key: if it was written in brackets it may not be extended. -/
def InlineTable.seal (t : InlineTable) (key : Key) (v : Value) : InlineTable :=
  if Document.isNest v then { t with marks := t.marks ++ [⟨key, .frozen, true⟩] } else t

end ElmOnSave.Toml
