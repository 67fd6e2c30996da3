import ElmOnSave.Shell.Pattern

/-!
# Fields

What a word comes to is a row of pieces.  Text that was filled in is cut into fields at separators:
blanks among them count once however many there are, and not at all in front; any other separator
ends a field even if it is empty.  Text that was written or quoted belongs to its field as it is.
-/

namespace ElmOnSave.Shell

/-- A sign of what a word comes to. -/
inductive Glyph where
  /-- A quotation starts or ends here; a field that holds one counts even if it is empty. -/
  | mark
  | char (c : Char) (literal : Bool)
deriving Repr, DecidableEq, Inhabited

/-- Where a piece is cut. -/
inductive Cutting where
  | nowhere
  | atSeparators
  /-- Between the arguments of the shell, each of which is a field. -/
  | atNulls
deriving Repr, DecidableEq, Inhabited

/-- A piece of what a word comes to. -/
structure Piece where
  glyphs : List Glyph
  cutting : Cutting
deriving Repr, DecidableEq, Inhabited

namespace Glyph

/-- The glyphs of a text. -/
def ofText (literal : Bool) (cs : List Char) : List Glyph :=
  cs.map fun c => char c literal

/-- The text of glyphs. -/
def text (gs : List Glyph) : List Char :=
  gs.filterMap fun g =>
    match g with
    | mark => none
    | char c _ => some c

/-- The pattern that glyphs write; a backslash that was filled in protects what follows. -/
def pattern : List Glyph → Pattern
  | [] => []
  | mark :: gs => pattern gs
  | char '\\' false :: char c _ :: gs => ⟨c, true⟩ :: pattern gs
  | char c literal :: gs => ⟨c, literal || c == '\\'⟩ :: pattern gs

end Glyph

/-- The text of pieces. -/
def Piece.text (ps : List Piece) : List Char :=
  Glyph.text (ps.flatMap Piece.glyphs)

/-- The blanks among separators. -/
def isBlankSeparator (c : Char) : Bool :=
  c == ' ' || c == '\t' || c == '\n' || c == Char.ofNat 0

/-- The state while pieces are cut. -/
structure Cut where
  /-- The field that is being gathered, the latest glyph first. -/
  current : List Glyph
  /-- The finished fields, the latest first. -/
  fields : List (List Glyph)
  /-- Whether the latest piece that may be cut was cut between arguments. -/
  atNulls : Bool
deriving Repr, Inhabited

namespace Cut

def initial : Cut := ⟨[], [], false⟩

/-- The field that is being gathered is finished. -/
def finish (s : Cut) : Cut :=
  { s with current := [], fields := s.current.reverse :: s.fields }

/-- What is left behind a separator once those that count with it are dropped: blanks, and one other
separator if the first one was a blank. -/
def dropSeparators (isSeparator : Char → Bool) : (blank : Bool) → List Glyph → List Glyph
  | _, [] => []
  | blank, .mark :: gs => .mark :: dropSeparators isSeparator blank gs
  | blank, .char c l :: gs =>
    if !isSeparator c then .char c l :: gs
    else if isBlankSeparator c then dropSeparators isSeparator blank gs
    else if blank then dropSeparators isSeparator false gs
    else .char c l :: gs

theorem length_dropSeparators_le (p : Char → Bool) (blank : Bool) (gs : List Glyph) :
    (dropSeparators p blank gs).length ≤ gs.length := by
  induction gs generalizing blank with
  | nil => simp [dropSeparators]
  | cons g gs ih =>
    cases g with
    | mark => simpa [dropSeparators] using ih blank
    | char c l =>
      simp only [dropSeparators]
      split
      · simp
      · split
        · exact Nat.le_succ_of_le (ih blank)
        · split
          · exact Nat.le_succ_of_le (ih false)
          · simp

/-- Cuts a piece at separators.  `afterNulls` tells that the piece before was cut between
arguments, so that no separator counts as a blank. -/
def atSeparators (isSeparator : Char → Bool) (afterNulls : Bool) (gs : List Glyph) (s : Cut) :
    Cut :=
  match gs with
  | [] => s
  | .mark :: gs => atSeparators isSeparator afterNulls gs { s with current := .mark :: s.current }
  | .char c l :: gs =>
    if isSeparator c then
      let blank := !afterNulls && isBlankSeparator c
      if s.current.isEmpty && blank then atSeparators isSeparator afterNulls gs s
      else
        atSeparators isSeparator afterNulls (dropSeparators isSeparator blank gs) s.finish
    else atSeparators isSeparator afterNulls gs { s with current := .char c l :: s.current }
termination_by gs.length
decreasing_by
  all_goals simp only [List.length_cons]
  · omega
  · omega
  · exact Nat.lt_succ_of_le (length_dropSeparators_le _ _ _)
  · omega

/-- Cuts a piece between arguments. -/
def betweenArguments : List Glyph → Cut → Cut
  | [], s => s
  | g :: gs, s =>
    if g matches .char '\x00' _ then betweenArguments gs s.finish
    else betweenArguments gs { s with current := g :: s.current }

/-- Takes one piece more. -/
def add (separators : List Char) (s : Cut) (p : Piece) : Cut :=
  match p.cutting with
  | .nowhere => { s with current := p.glyphs.reverse ++ s.current }
  | .atSeparators =>
    let isSeparator := fun c => separators.contains c || c == Char.ofNat 0
    { s.atSeparators isSeparator s.atNulls p.glyphs with atNulls := false }
  | .atNulls => { betweenArguments p.glyphs s with atNulls := true }

end Cut

/-- The fields of pieces. -/
def Piece.fields (separators : List Char) (ps : List Piece) : List (List Glyph) :=
  let s := ps.foldl (Cut.add separators) .initial
  let s := if s.current.isEmpty && !s.atNulls then s else s.finish
  s.fields.reverse

end ElmOnSave.Shell
