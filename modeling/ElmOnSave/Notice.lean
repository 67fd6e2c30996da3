import ElmOnSave.Terminal.Console

/-!
# Notices

Single messages to the user: each kind has a sign and a colour of its own.  The sign is shown if
the user wants emoji; the colour if the user wants colours, or did not say and the output is a
terminal, and only on a terminal.  A message is plain text and never markup.
-/

namespace ElmOnSave

open Terminal

/-- The kinds of notices. -/
inductive NoticeKind where
  | info
  | ok
  | warn
  | fail
deriving Repr, DecidableEq, Inhabited

namespace NoticeKind

/-- The sign before a notice. -/
def sign : NoticeKind → List Char
  | info => [Char.ofNat 0x2139, Char.ofNat 0xFE0F, ' ']
  | ok => [Char.ofNat 0x2705, ' ']
  | warn => [Char.ofNat 0x26A0, Char.ofNat 0xFE0F, ' ']
  | fail => [Char.ofNat 0x274C, ' ']

/-- The colour of a notice. -/
def style : NoticeKind → Style
  | info => Style.ofBasicColor "cyan" 6
  | ok => Style.ofBasicColor "green" 2
  | warn => Style.ofBasicColor "yellow" 3
  | fail => Style.ofBasicColor "red" 1

end NoticeKind

/-- What the user wants of notices: signs, and colours if the user said so. -/
structure NoticeTaste where
  emoji : Bool := true
  color : Option Bool := none
deriving Repr, DecidableEq, Inhabited

namespace NoticeTaste

/-- Whether colours are wanted, given whether the output is a terminal. -/
def wantsColor (t : NoticeTaste) (terminal : Bool) : Bool :=
  t.color.getD terminal

/-- The console for notices and tables. -/
def console (t : NoticeTaste) (terminal : Bool) : Console :=
  { coded := t.wantsColor terminal && terminal, emoji := t.emoji }

/-- A notice as it is printed; its style is given and needs no name. -/
def printed (t : NoticeTaste) (terminal : Bool) (kind : NoticeKind) (message : String) : String :=
  let cs := printable ((if t.emoji then kind.sign else []) ++ message.toList)
  let spans := if t.wantsColor terminal then [⟨0, cs.length, .given kind.style⟩] else []
  match (t.console terminal).print { chars := cs, spans := spans } with
  | .ok line => String.ofList line
  | .error _ => ""

end NoticeTaste

end ElmOnSave
