import ElmOnSave.Terminal.Emoji
import ElmOnSave.Terminal.Handler
import ElmOnSave.Terminal.StyledText

/-!
# Markup

Text in a table may carry tags in square brackets: `[red]` opens a style, `[/red]` closes it and
`[/]` closes the last one that is open.  A tag starts with a lower-case letter or one of the signs
of number, slash and at; brackets around anything else are text, and a backslash makes text of a
tag.  Emoji codes between the tags are replaced.

`markupPieces` splits a text into plain pieces and tags, `ofMarkup` turns it into a styled text.
-/

namespace ElmOnSave.Terminal

/-- A tag: its name and what follows an equals sign. -/
structure Tag where
  name : List Char
  parameters : Option (List Char)
deriving Repr, DecidableEq, Inhabited

namespace Tag

/-- The tag written between brackets. -/
def ofBody (body : List Char) : Tag :=
  let name := body.takeWhile (· != '=')
  if name.length < body.length then ⟨name, some (body.drop (name.length + 1))⟩ else ⟨name, none⟩

/-- The text between the brackets. -/
def body (t : Tag) : List Char :=
  match t.parameters with
  | none => t.name
  | some ps => t.name ++ '=' :: ps

/-- Whether a tag names a handler. -/
def isHandler (t : Tag) : Bool :=
  t.name.head? == some '@'

/-- The text that names the style a tag stands for. -/
def styleName (t : Tag) : List Char :=
  match t.parameters with
  | none => t.name
  | some ps => t.name ++ ' ' :: ps

/-- The style a tag stands for when it is closed; a handler has none. -/
def style (t : Tag) : StyleRef :=
  if t.isHandler then .given Style.plain else .named (String.ofList t.styleName)

end Tag

/-- A piece of markup: text, or a tag with its place. -/
inductive MarkupPiece where
  | plain (cs : List Char)
  | tag (position : Nat) (t : Tag)
deriving Repr, DecidableEq, Inhabited

/-- What a tag may start with. -/
def startsTag (c : Char) : Bool :=
  ('a' ≤ c && c ≤ 'z') || c == Char.ofNat 35 || c == '/' || c == '@'

/-- The text up to the closing bracket, if no bracket opens before it. -/
def upToBracket? : List Char → Option (List Char)
  | [] => none
  | c :: cs =>
    if c = ']' then some []
    else if c = '[' then none
    else (upToBracket? cs).map (c :: ·)

/-- The text of a tag that starts here. -/
def tagBody? : List Char → Option (List Char)
  | '[' :: c :: cs => if startsTag c then (upToBracket? cs).map (c :: ·) else none
  | _ => none

/-- A tag that starts here after some backslashes: their number and the text of the tag. -/
def tagHere? (cs : List Char) : Option (Nat × List Char) :=
  let slashes := (cs.takeWhile (· == '\\')).length
  (tagBody? (cs.drop slashes)).map (slashes, ·)

/-- What a tag with backslashes before it stands for: two backslashes are one in the text, and an
odd one makes text of the tag. -/
def escapedPieces (position slashes : Nat) (body : List Char) : List MarkupPiece :=
  (if slashes / 2 = 0 then [] else [.plain (List.replicate (slashes / 2) '\\')]) ++
  if slashes % 2 = 1 then [.plain ('[' :: (body ++ [']']))]
  else [.tag (position + slashes) (Tag.ofBody body)]

/-- The pieces of a text, in order. -/
def markupPieces (cs : List Char) : List MarkupPiece :=
  (go cs 0 0 [] []).reverse
where
  /-- Puts a piece of text in front of the others. -/
  flush (text : List Char) (acc : List MarkupPiece) : List MarkupPiece :=
    if text.isEmpty then acc else .plain text.reverse :: acc
  /-- Works through the characters with the place, the number of characters already settled, the
  current text and the pieces so far, the latest first. -/
  go : List Char → Nat → Nat → List Char → List MarkupPiece → List MarkupPiece
  | [], _, _, text, acc => flush text acc
  | _ :: cs, n, k + 1, text, acc => go cs (n + 1) k text acc
  | c :: cs, n, 0, text, acc =>
    match tagHere? (c :: cs) with
    | some (slashes, body) =>
      go cs (n + 1) (slashes + body.length + 1) []
        ((escapedPieces n slashes body).reverse ++ flush text acc)
    | none => go cs (n + 1) 0 (c :: text) acc

/-- The text with a bracket for each backslash and bracket. -/
def unescapedBrackets : List Char → List Char
  | '\\' :: '[' :: cs => '[' :: unescapedBrackets cs
  | c :: cs => c :: unescapedBrackets cs
  | [] => []

/-- A text under construction: its characters, the tags that are open with the places where they
were opened, the latest first, and the finished spans, the latest first. -/
structure MarkupState where
  chars : List Char := []
  opened : List (Nat × Tag) := []
  spans : List Span := []

namespace MarkupState

/-- Ends a span at the end of the text so far. -/
def finish (s : MarkupState) (start : Nat) (style : StyleRef) : MarkupState :=
  { s with spans := ⟨start, s.chars.length, style⟩ :: s.spans }

/-- Closes an open tag. -/
def closeTag (s : MarkupState) (start : Nat) (t : Tag) : Except MarkupFault MarkupState := do
  if t.isHandler then checkHandler (t.parameters.getD [])
  return s.finish start t.style

/-- Takes the latest open tag with the given name out of the open tags. -/
def takeOpened? (name : List Char) : List (Nat × Tag) → Option ((Nat × Tag) × List (Nat × Tag))
  | [] => none
  | o :: os =>
    if o.2.name = name then some (o, os)
    else (takeOpened? name os).map fun r => (r.1, o :: r.2)

/-- Closes a tag: the one named or, without a name, the latest. -/
def close (s : MarkupState) (position : Nat) (t : Tag) : Except MarkupFault MarkupState := do
  let name := Text.trim (t.name.drop 1)
  if name.isEmpty then
    match s.opened with
    | [] => throw (.nothingToClose position)
    | o :: os => closeTag { s with opened := os } o.1 o.2
  else
    let canonical ← (Style.canonical name).mapError MarkupFault.color
    match takeOpened? canonical.toList s.opened with
    | none => throw (.unmatchedClose (String.ofList (t.body.drop 1)) position)
    | some (o, os) => closeTag { s with opened := os } o.1 o.2

/-- Reads one piece. -/
def read (emoji : Bool) (s : MarkupState) : MarkupPiece → Except MarkupFault MarkupState
  | .plain cs =>
    let cs := unescapedBrackets cs
    .ok { s with chars := s.chars ++ printable (if emoji then withEmoji cs else cs) }
  | .tag position t =>
    if t.name.head? = some '/' then s.close position t
    else do
      let canonical ← (Style.canonical t.name).mapError MarkupFault.color
      return { s with
        opened := (s.chars.length, { t with name := canonical.toList }) :: s.opened }

/-- The finished text: tags that are still open reach to its end, and no handler among them counts
as one. -/
def text (s : MarkupState) : StyledText :=
  let s := s.opened.foldl
    (fun s o => s.finish o.1 (.named (String.ofList o.2.styleName))) s
  { chars := s.chars, spans := s.spans.mergeSort fun a b => a.start ≤ b.start }

end MarkupState

/-- The styled text that markup stands for. -/
def StyledText.ofMarkup (emoji : Bool) (s : String) : Except MarkupFault StyledText :=
  if s.toList.contains '[' then do
    let final ← (markupPieces s.toList).foldlM (MarkupState.read emoji) {}
    return final.text
  else
    .ok { chars := printable (if emoji then withEmoji s.toList else s.toList) }

end ElmOnSave.Terminal
