/-!
# Octets as characters

UTF-8 is read by a machine that takes one octet at a time.  Its answer is a list of pieces: a
character, or a maximal run of octets that starts like a character and goes wrong, with the reason.
A lenient reading puts the replacement character for each broken run; a strict reading stops at the
first one and says where it stands.
-/

namespace ElmOnSave

/-- A sequence of octets. -/
abbrev Octets := List UInt8

namespace Utf8

/-- Why a run of octets is no character. -/
inductive Flaw where
  /-- No character starts with this octet. -/
  | invalidStart
  /-- The next octet does not continue the character. -/
  | invalidContinuation
  /-- The octets end inside the character. -/
  | unexpectedEnd
deriving Repr, DecidableEq, Inhabited

/-- The wording of a flaw. -/
def Flaw.reason : Flaw → String
  | .invalidStart => "invalid start byte"
  | .invalidContinuation => "invalid continuation byte"
  | .unexpectedEnd => "unexpected end of data"

/-- A character, or a maximal run of octets that is none. -/
inductive Piece where
  | char (c : Char) (width : Nat)
  | broken (octets : Octets) (flaw : Flaw)
deriving Repr, DecidableEq, Inhabited

/-- How many octets a piece was read from. -/
def Piece.width : Piece → Nat
  | .char _ w => w
  | .broken os _ => os.length

/-- A character begun and not yet complete. -/
structure Begun where
  /-- The octets read so far, the latest first. -/
  octets : Octets
  /-- The bits gathered so far. -/
  bits : Nat
  /-- How many octets are still to come after the next one. -/
  further : Nat
  /-- The least octet that may come next. -/
  low : UInt8
  /-- The greatest octet that may come next. -/
  high : UInt8
deriving Repr, DecidableEq, Inhabited

/-- What a leading octet announces: a whole character, the start of a longer one, or nothing. -/
def lead (b : UInt8) : Piece ⊕ Begun :=
  let n := b.toNat
  if n < 0x80 then .inl (.char (Char.ofNat n) 1)
  else if n < 0xC2 then .inl (.broken [b] .invalidStart)
  else if n < 0xE0 then .inr ⟨[b], n - 0xC0, 0, 0x80, 0xBF⟩
  else if n = 0xE0 then .inr ⟨[b], 0, 1, 0xA0, 0xBF⟩
  else if n = 0xED then .inr ⟨[b], 0xD, 1, 0x80, 0x9F⟩
  else if n < 0xF0 then .inr ⟨[b], n - 0xE0, 1, 0x80, 0xBF⟩
  else if n = 0xF0 then .inr ⟨[b], 0, 2, 0x90, 0xBF⟩
  else if n < 0xF4 then .inr ⟨[b], n - 0xF0, 2, 0x80, 0xBF⟩
  else if n = 0xF4 then .inr ⟨[b], 4, 2, 0x80, 0x8F⟩
  else .inl (.broken [b] .invalidStart)

/-- The state between two octets: the pieces read, the latest first, and a character begun. -/
structure State where
  pieces : List Piece
  begun : Option Begun
deriving Repr, Inhabited

/-- The state before the first octet. -/
def State.initial : State := ⟨[], none⟩

/-- A fresh start with the octet. -/
def State.restart (pieces : List Piece) (b : UInt8) : State :=
  match lead b with
  | .inl p => ⟨p :: pieces, none⟩
  | .inr g => ⟨pieces, some g⟩

/-- One octet more.  An octet that does not continue the character begun ends it as broken and
starts afresh. -/
def State.feed (s : State) (b : UInt8) : State :=
  match s.begun with
  | none => State.restart s.pieces b
  | some g =>
    if g.low ≤ b ∧ b ≤ g.high then
      let bits := g.bits * 64 + (b.toNat - 0x80)
      match g.further with
      | 0 => ⟨.char (Char.ofNat bits) (g.octets.length + 1) :: s.pieces, none⟩
      | k + 1 => ⟨s.pieces, some ⟨b :: g.octets, bits, k, 0x80, 0xBF⟩⟩
    else
      State.restart (.broken g.octets.reverse .invalidContinuation :: s.pieces) b

/-- The pieces when no octet follows. -/
def State.finish (s : State) : List Piece :=
  match s.begun with
  | none => s.pieces.reverse
  | some g => (.broken g.octets.reverse .unexpectedEnd :: s.pieces).reverse

/-- The octets cut into characters and broken runs. -/
def pieces (bytes : Octets) : List Piece :=
  (bytes.foldl State.feed State.initial).finish

/-- The character a lenient reader sees for a piece. -/
def Piece.shown : Piece → Char
  | .char c _ => c
  | .broken _ _ => Char.ofNat 0xFFFD

/-- The octets as characters, with the replacement character for each broken run. -/
def decodeLossy (bytes : Octets) : List Char :=
  (pieces bytes).map Piece.shown

/-- A broken run and the number of octets before it. -/
structure Fault where
  octets : Octets
  flaw : Flaw
  start : Nat
deriving Repr, DecidableEq, Inhabited

/-- The characters of the pieces up to the first broken one, which is the fault. -/
def strictFrom (start : Nat) (acc : List Char) : List Piece → Except Fault (List Char)
  | [] => .ok acc.reverse
  | .char c w :: ps => strictFrom (start + w) (c :: acc) ps
  | .broken os flaw :: _ => .error ⟨os, flaw, start⟩

/-- The octets as characters, or the first broken run. -/
def decodeStrict (bytes : Octets) : Except Fault (List Char) :=
  strictFrom 0 [] (pieces bytes)

/-- The octets of a text. -/
def encode (cs : List Char) : Octets :=
  cs.flatMap String.utf8EncodeChar

end Utf8

end ElmOnSave
