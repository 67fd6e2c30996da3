import ElmOnSave.Register
import ElmOnSave.Terminal.Color
import ElmOnSave.Terminal.Theme
import ElmOnSave.Text.Blank

/-!
# Styles

A style says how characters look: attributes that are switched on or off, a colour, a colour
behind the characters and a link.  What a style leaves open shows through from the style below it
(`Style.onTop`).  `Style.ofDefinition` reads a style from words, `Style.definition` writes it in a
fixed order, so that two spellings of one style have one definition.
-/

namespace ElmOnSave.Terminal

/-- What can be switched on or off. -/
inductive Attribute where
  | bold
  | dim
  | italic
  | underline
  | blink
  | fastBlink
  | reverse
  | conceal
  | strike
  | doubleUnderline
  | frame
  | encircle
  | overline
deriving Repr, DecidableEq, Inhabited

namespace Attribute

/-- The attributes in the order in which they are written. -/
def all : List Attribute :=
  [bold, dim, italic, underline, blink, fastBlink, reverse, conceal, strike, doubleUnderline, frame,
    encircle, overline]

/-- The word for an attribute. -/
def word : Attribute → String
  | bold => "bold"
  | dim => "dim"
  | italic => "italic"
  | underline => "underline"
  | blink => "blink"
  | fastBlink => "blink2"
  | reverse => "reverse"
  | conceal => "conceal"
  | strike => "strike"
  | doubleUnderline => "underline2"
  | frame => "frame"
  | encircle => "encircle"
  | overline => "overline"

/-- The short word for an attribute, if it has one. -/
def shortWord? : Attribute → Option String
  | bold => some "b"
  | dim => some "d"
  | italic => some "i"
  | underline => some "u"
  | reverse => some "r"
  | conceal => some "c"
  | strike => some "s"
  | doubleUnderline => some "uu"
  | overline => some "o"
  | _ => none

/-- The attribute with the given word or short word. -/
def ofWord? (w : String) : Option Attribute :=
  all.find? fun a => a.word == w || a.shortWord? == some w

/-- The code that switches an attribute on. -/
def code : Attribute → Nat
  | bold => 1
  | dim => 2
  | italic => 3
  | underline => 4
  | blink => 5
  | fastBlink => 6
  | reverse => 7
  | conceal => 8
  | strike => 9
  | doubleUnderline => 21
  | frame => 51
  | encircle => 52
  | overline => 53

end Attribute

/-- How characters look; whatever is absent is left open. -/
structure Style where
  /-- The attributes that are switched, on or off. -/
  switches : List (Attribute × Bool) := []
  color : Option Color := none
  background : Option Color := none
  link : Option String := none
deriving Repr, DecidableEq, Inhabited

namespace Style

/-- The style that leaves everything open. -/
def plain : Style := {}

/-- The style with one attribute on. -/
def ofAttribute (a : Attribute) : Style :=
  { switches := [(a, true)] }

/-- The style with one of the first eight colours. -/
def ofBasicColor (name : String) (number : Nat) : Style :=
  { color := some ⟨name, .numbered number⟩ }

/-- The style of characters that have this style on top of another one. -/
def onTop (top below : Style) : Style where
  switches := top.switches.foldl (fun ss s => Entries.put ss s.1 s.2) below.switches
  color := top.color <|> below.color
  background := top.background <|> below.background
  link := top.link <|> below.link

/-! ## Definitions -/

/-- Reads a style word by word: `not` switches an attribute off, `on` leads the colour behind the
characters, `link` an address; any other word is an attribute or a colour. -/
def ofWords : List (List Char) → Style → Except ColorFault (Option Style)
  | [], s => .ok (some s)
  | w :: ws, s =>
    let lower := String.ofList (Text.lower w)
    if lower = "on" then
      match ws with
      | [] => .ok none
      | v :: ws =>
        match Color.ofSpelling v with
        | .ok (some c) => ofWords ws { s with background := some c }
        | .ok none => .ok none
        | .error f => .error f
    else if lower = "not" then
      match ws with
      | [] => .ok none
      | v :: ws =>
        match Attribute.ofWord? (String.ofList v) with
        | some a => ofWords ws { s with switches := Entries.put s.switches a false }
        | none => .ok none
    else if lower = "link" then
      match ws with
      | [] => .ok none
      | v :: ws => ofWords ws { s with link := some (String.ofList v) }
    else match Attribute.ofWord? lower with
    | some a => ofWords ws { s with switches := Entries.put s.switches a true }
    | none =>
      match Color.ofSpelling w with
      | .ok (some c) => ofWords ws { s with color := some c }
      | .ok none => .ok none
      | .error f => .error f

/-- The style of a definition. -/
def ofDefinition (cs : List Char) : Except ColorFault (Option Style) :=
  if Text.trim cs = "none".toList then .ok (some plain) else ofWords (Text.words cs) plain

/-- The words of an attribute that is switched. -/
def switchWords (s : Style) (a : Attribute) : List String :=
  match Entries.get? s.switches a with
  | none => []
  | some true => [a.word]
  | some false => ["not " ++ a.word]

/-- The definition of a style: attributes in their order, then the colours, then the link. -/
def definition (s : Style) : String :=
  let ws := Attribute.all.flatMap s.switchWords
    ++ (match s.color with
      | some c => [c.spelling]
      | none => [])
    ++ (match s.background with
      | some c => ["on", c.spelling]
      | none => [])
    ++ (match s.link with
      | some l => ["link", l]
      | none => [])
  if ws.isEmpty then "none" else String.intercalate " " ws

/-- The one spelling of a style: its definition, or what was written in lower case if that is no
style. -/
def canonical (cs : List Char) : Except ColorFault String :=
  (ofDefinition cs).map fun
    | some s => s.definition
    | none => String.ofList (Text.lower (Text.trim cs))

/-- The style that a text names, by its name in the theme or by its definition; a text that names
none leaves everything open. -/
def named (s : String) : Except ColorFault Style :=
  (ofDefinition ((theme.lookup s).getD s).toList).map fun s => s.getD plain

/-! ## Codes -/

/-- The codes that switch a terminal to a style: attributes that are on, then the colours. -/
def codes (s : Style) : List Nat :=
  (Attribute.all.filter fun a => Entries.get? s.switches a = some true).map Attribute.code
    ++ s.color.toList.map Color.code ++ s.background.toList.map Color.backgroundCode

/-- Characters between the codes of a style and the code that ends it. -/
def paint (s : Style) (cs : List Char) : List Char :=
  if cs.isEmpty || s.codes.isEmpty then cs
  else
    let esc := Char.ofNat 27
    esc :: '[' :: ((String.intercalate ";" (s.codes.map toString)).toList
      ++ 'm' :: cs ++ [esc, '[', '0', 'm'])

end Style

end ElmOnSave.Terminal
