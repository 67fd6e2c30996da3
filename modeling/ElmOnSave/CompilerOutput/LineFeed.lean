import ElmOnSave.Text.Line
import ElmOnSave.Text.Utf8

/-!
# Lines of a stream

The output of a process arrives in chunks.  A `LineFeed` holds back the start of a line until the
line is complete, and gives up at a line that is longer than a limit: when the end of the line is
found too late, or when what is held back has grown beyond the limit.  The end of a line does not
count towards its length.
-/

namespace ElmOnSave.CompilerOutput

/-- The octet that ends a line. -/
def lineEnd : UInt8 := 10

/-- What has arrived and was not handed out yet. -/
structure LineFeed where
  /-- The start of a line, the latest octet first. -/
  held : Octets
  /-- The number of octets held. -/
  size : Nat
  /-- Complete lines, the latest first. -/
  lines : List Octets
  /-- A line was too long; the flag says whether its end was found. -/
  overrun : Option Bool
deriving Repr, DecidableEq, Inhabited

namespace LineFeed

/-- Nothing has arrived. -/
def initial : LineFeed := ⟨[], 0, [], none⟩

/-- One octet more. -/
def feedOctet (limit : Nat) (s : LineFeed) (b : UInt8) : LineFeed :=
  match s.overrun with
  | some _ => s
  | none =>
    if b = lineEnd then
      if limit < s.size then { s with overrun := some true }
      else ⟨[], 0, s.held.reverse :: s.lines, none⟩
    else { s with held := b :: s.held, size := s.size + 1 }

/-- A chunk more.  When it is used up, what is held back must not exceed the limit. -/
def feed (limit : Nat) (s : LineFeed) (chunk : Octets) : LineFeed :=
  let s := chunk.foldl (feedOctet limit) s
  if s.overrun.isNone && limit < s.size then { s with overrun := some false } else s

/-- The lines when nothing more arrives: a last line may lack its end. -/
def finish (s : LineFeed) : List Octets :=
  if s.overrun.isNone && s.size ≠ 0 then (s.held.reverse :: s.lines).reverse else s.lines.reverse

/-- All chunks of a stream. -/
def ofChunks (limit : Nat) (chunks : List Octets) : LineFeed :=
  chunks.foldl (feed limit) initial

end LineFeed

/-- The text of a line: undecodable octets are replaced, and CR and LF at its end dropped. -/
def lineText (line : Octets) : String :=
  String.ofList ((Utf8.decodeLossy line).reverse.dropWhile Text.isLineEnd).reverse

end ElmOnSave.CompilerOutput
