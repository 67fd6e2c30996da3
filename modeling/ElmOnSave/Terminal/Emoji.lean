import ElmOnSave.Terminal.Emoji.Names
import ElmOnSave.Text.Lower

/-!
# Emoji codes

A name between colons, such as `:warning:`, stands for an emoji; `-emoji` or `-text` after the
name asks for one way of showing it.  A name that no emoji has stays as it is written.
-/

namespace ElmOnSave.Terminal

/-- The selectors of the two ways of showing an emoji. -/
def shownAs (cs : List Char) : Option Char :=
  if cs = "emoji".toList then some (Char.ofNat 0xFE0F)
  else if cs = "text".toList then some (Char.ofNat 0xFE0E)
  else none

/-- The text before a final hyphen and way of showing, with the selector. -/
def splitShownAs (name : List Char) : List Char × List Char :=
  let tail := name.reverse.takeWhile (· != '-')
  match shownAs tail.reverse with
  | some c => if tail.length < name.length then (name.take (name.length - tail.length - 1), [c])
      else (name, [])
  | none => (name, [])

/-- The emoji of what stands between two colons. -/
def emojiOf? (name : List Char) : Option (List Char) :=
  let (base, selector) := splitShownAs name
  (emojiTable.lookup (String.ofList (Text.lower base))).map fun e => e.toList ++ selector

/-- What stands between the colon just read and the next one, if no blank comes first. -/
def codeName? : List Char → Option (List Char)
  | [] => none
  | c :: cs =>
    if c = ':' then some []
    else if Text.isBlank c then none
    else (codeName? cs).map (c :: ·)

/-- The text with an emoji for each code. -/
def withEmoji (cs : List Char) : List Char :=
  (go cs 0 []).reverse
where
  /-- Works through the characters with the number of those that are already settled and the result
  so far, the latest first. -/
  go : List Char → Nat → List Char → List Char
  | [], _, acc => acc
  | _ :: cs, n + 1, acc => go cs n acc
  | c :: cs, 0, acc =>
    if c = ':' then
      match codeName? cs with
      | none => go cs 0 (c :: acc)
      | some name =>
        let shown := (emojiOf? name).getD (':' :: (name ++ [':']))
        go cs (name.length + 1) (shown.reverse ++ acc)
    else go cs 0 (c :: acc)

end ElmOnSave.Terminal
