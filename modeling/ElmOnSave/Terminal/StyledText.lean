import ElmOnSave.Terminal.Style
import ElmOnSave.Terminal.Width
import ElmOnSave.Text.Line

/-!
# Styled texts

A styled text is a text with a style of its own and with spans of characters that have further
styles.  It can be cut, filled up and broken into lines without losing its spans.  A span may name
its style; `segments` looks the names up, lays the styles on top of each other and yields runs of
equally styled characters.
-/

namespace ElmOnSave.Terminal

/-- A style, or a text that names one. -/
inductive StyleRef where
  | given (s : Style)
  | named (name : String)
deriving Repr, DecidableEq, Inhabited

/-- The style that is meant. -/
def StyleRef.style : StyleRef → Except ColorFault Style
  | given s => .ok s
  | named n => Style.named n

/-- A style for the characters from `start` up to `stop`. -/
structure Span where
  start : Nat
  stop : Nat
  style : StyleRef
deriving Repr, DecidableEq, Inhabited

/-- Characters that share a style. -/
structure Segment where
  style : Style
  chars : List Char
deriving Repr, DecidableEq, Inhabited

/-- A text with a style and with styled spans. -/
structure StyledText where
  /-- The style of the whole text, if it has one. -/
  base : Option Style := none
  chars : List Char
  spans : List Span := []
deriving Repr, DecidableEq, Inhabited

/-- Characters that move the cursor and are never printed. -/
def isCursorControl (c : Char) : Bool :=
  let n := c.toNat
  n == 7 || n == 8 || n == 11 || n == 12 || n == 13

/-- The text without characters that move the cursor. -/
def printable (cs : List Char) : List Char :=
  cs.filter fun c => !isCursorControl c

namespace StyledText

/-- A text in one style. -/
def styled (style : Style) (s : String) : StyledText :=
  { base := some style, chars := printable s.toList }

/-- A text without styles. -/
def unstyled (s : String) : StyledText :=
  { chars := printable s.toList }

/-! ## Cutting -/

/-- The part of a span that lies between two places, counted from the first of them. -/
def cutSpan (start stop : Nat) (s : Span) : Option Span :=
  let first := s.start - start
  let last := min s.stop stop - start
  if first < last then some ⟨first, last, s.style⟩ else none

/-- The characters between two places with what they have of the spans. -/
def slice (t : StyledText) (start stop : Nat) : StyledText :=
  { base := t.base, chars := (t.chars.drop start).take (stop - start),
    spans := t.spans.filterMap (cutSpan start stop) }

/-- The pieces between the given places, which are in increasing order. -/
def divide (t : StyledText) (places : List Nat) : List StyledText :=
  match places with
  | [] => [t]
  | _ => ((0 :: places).zip (places ++ [t.chars.length])).map fun p => t.slice p.1 p.2

/-- The first characters; spans that start later are dropped. -/
def keepFirst (t : StyledText) (n : Nat) : StyledText :=
  { t with
    chars := t.chars.take n
    spans := (t.spans.filter fun s => s.start < n).map fun s => { s with stop := min s.stop n } }

/-- The text with other characters; spans are cut if it becomes shorter. -/
def withChars (t : StyledText) (cs : List Char) : StyledText :=
  if cs.length < t.chars.length then { t.keepFirst cs.length with chars := cs }
  else { t with chars := cs }

/-- Spans moved to the right. -/
def shifted (n : Nat) (spans : List Span) : List Span :=
  spans.map fun s => ⟨s.start + n, s.stop + n, s.style⟩

/-- All spans, the style of the whole text first. -/
def allSpans (t : StyledText) : List Span :=
  match t.base with
  | some b => ⟨0, t.chars.length, .given b⟩ :: t.spans
  | none => t.spans

/-! ## Lines -/

/-- The places around the line feeds of a text. -/
def lineFeedPlaces (cs : List Char) (n : Nat) : List (Nat × Nat) :=
  match cs with
  | [] => []
  | c :: cs =>
    if c = '\n' then (n, n + 1) :: lineFeedPlaces cs (n + 1) else lineFeedPlaces cs (n + 1)

/-- The lines of a text, without the line feeds. -/
def lines (t : StyledText) : List StyledText :=
  match lineFeedPlaces t.chars 0 with
  | [] => [t]
  | feeds =>
    ((0 :: feeds.map Prod.snd).zip (feeds.map Prod.fst ++ [t.chars.length])).map fun p =>
      t.slice p.1 p.2

/-- The places after the tabs of a text. -/
def tabPlaces (cs : List Char) (n : Nat) : List Nat :=
  match cs with
  | [] => []
  | c :: cs => if c = '\t' then (n + 1) :: tabPlaces cs (n + 1) else tabPlaces cs (n + 1)

/-- The distance of tab stops. -/
def tabStop : Nat := 8

/-- A piece that ends with a tab, its tab replaced by at least one space up to the next tab stop,
given the cells before the piece; with the cells after it. -/
def untabbed (t : StyledText) (before : Nat) : StyledText × Nat :=
  if t.chars.getLast? = some '\t' then
    let cs := t.chars.dropLast ++ [' ']
    let place := before + width cs
    let more := (tabStop - place % tabStop) % tabStop
    ({ t with
        chars := cs ++ spaces more
        spans := t.spans.map fun s =>
          if cs.length ≤ s.stop then { s with stop := s.stop + more } else s },
      place + more)
  else (t, before + width t.chars)

/-- The line with spaces up to the tab stops in place of its tabs. -/
def expandTabs (t : StyledText) : StyledText :=
  if t.chars.contains '\t' then
    let pieces := t.divide (tabPlaces t.chars 0)
    let pieces := if t.chars.getLast? = some '\t' then pieces.dropLast else pieces
    let step := fun (acc : StyledText × Nat) piece =>
      let (piece, place) := untabbed piece acc.2
      ({ acc.1 with
          chars := acc.1.chars ++ piece.chars
          spans := acc.1.spans ++ shifted acc.1.chars.length piece.allSpans }, place)
    (pieces.foldl step ({ base := t.base, chars := [] }, 0)).1
  else t

/-! ## Fitting a line into a width -/

/-- The mark for text that was left out. -/
def ellipsis : Char := Char.ofNat 0x2026

/-- Blanks at the end beyond the given number of characters removed. -/
def dropOverhang (t : StyledText) (n : Nat) : StyledText :=
  let blanks := (t.chars.reverse.takeWhile Text.isBlank).length
  let excess := t.chars.length - n
  if 0 < blanks ∧ 0 < excess then t.keepFirst (t.chars.length - min blanks excess) else t

/-- The line without blanks at its end. -/
def trimEnd (t : StyledText) : StyledText :=
  t.withChars (Text.trimEndOf Text.isBlank t.chars)

/-- A line that is too wide ends with an ellipsis in the last cell. -/
def truncated (t : StyledText) (n : Nat) : StyledText :=
  if n < width t.chars then t.withChars (fitted (n - 1) t.chars ++ [ellipsis]) else t

/-- The line at the left of a cell of the given width: filled up with blanks or cut. -/
def atLeft (t : StyledText) (n : Nat) : StyledText :=
  if width t.chars < n then { t with chars := t.chars ++ spaces (n - width t.chars) }
  else (t.truncated n).truncated n

/-- The line at the right of a cell of the given width. -/
def atRight (t : StyledText) (n : Nat) : StyledText :=
  let t := t.trimEnd.truncated n
  let gap := n - width t.chars
  { t with chars := spaces gap ++ t.chars, spans := shifted gap t.spans }.truncated n

/-! ## Segments -/

/-- The style of the characters at a place, given the spans with their styles. -/
def styleAt (spans : List (Span × Style)) (n : Nat) : Style :=
  spans.foldl (fun below s => if s.1.start ≤ n ∧ n < s.1.stop then s.2.onTop below else below)
    Style.plain

/-- The runs of characters between the ends of spans. -/
def segments (t : StyledText) : Except ColorFault (List Segment) := do
  let spans ← t.allSpans.mapM fun s => s.style.style.map fun style => (s, style)
  let ends := (spans.flatMap fun s => [s.1.start, s.1.stop]).filter (· < t.chars.length)
  let places := (0 :: ends).mergeSort (· ≤ ·)
  return (places.zip (places.drop 1 ++ [t.chars.length])).filterMap fun p =>
    if p.1 < p.2 then some ⟨styleAt spans p.1, (t.chars.drop p.1).take (p.2 - p.1)⟩ else none

end StyledText

/-- Blank cells in a style. -/
def blankSegment (style : Style) (n : Nat) : Segment :=
  ⟨style, spaces n⟩

/-- The cells of segments side by side. -/
def segmentsWidth : List Segment → Nat
  | [] => 0
  | s :: ss => width s.chars + segmentsWidth ss

/-- The segments up to the given number of cells, the last of them cut. -/
def firstSegments (n : Nat) : List Segment → List Segment
  | [] => []
  | s :: ss =>
    if width s.chars < n then s :: firstSegments (n - width s.chars) ss
    else [{ s with chars := fitted n s.chars }]

/-- Segments in the given number of cells: filled up with blanks in a style or cut. -/
def fittedSegments (style : Style) (n : Nat) (segments : List Segment) : List Segment :=
  let total := segmentsWidth segments
  if total < n then segments ++ [blankSegment style (n - total)]
  else if n < total then firstSegments n segments
  else segments

/-- The printed form of segments: with codes if the terminal understands them. -/
def printed (coded : Bool) (segments : List Segment) : List Char :=
  segments.flatMap fun s => if coded then s.style.paint s.chars else s.chars

end ElmOnSave.Terminal
