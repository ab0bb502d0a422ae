/-
EndpointCatalog.Console.Emoji — emojis by name.

A name between colons stands for an emoji. A name that ends in `-text` or
`-emoji` asks for one of its two forms. Colons around other text stand for
themselves, and so does that text: its second colon is not the first of
another name.
-/
import EndpointCatalog.Console.EmojiNames
import EndpointCatalog.Text.Blank

namespace EndpointCatalog.Console.Emoji

/-- The name and the emoji of an entry. -/
def entryOf (entry : List Char) : String × List Char :=
  (String.ofList (entry.takeWhile (· ≠ '=')), (entry.dropWhile (· ≠ '=')).drop 1)

/-- The entries of a line. -/
def entriesOnto (entry : List Char) : List Char → List (String × List Char)
  | [] => [entryOf entry.reverse]
  | ' ' :: rest => entryOf entry.reverse :: entriesOnto [] rest
  | c :: rest => entriesOnto (c :: entry) rest

/-- The emoji of a name. -/
def named? (name : String) : Option (List Char) :=
  (nameLines.findSome? fun line =>
    (entriesOnto [] line.toList).find? fun e => e.1 = name).map Prod.snd

/-- The forms of an emoji, and the characters that ask for them. -/
def forms : List (String × Char) := [("-emoji", '\uFE0F'), ("-text", '\uFE0E')]

/-- What stands for some text between colons. -/
def ofCode? (code : Text) : Option Text :=
  let name := code.toString.toLower
  match forms.find? fun form => (Text.ofString form.1).isSuffixOf code with
  | some (ending, mark) =>
    (named? (String.ofList (name.toList.take (name.length - ending.length)))).map fun cs =>
      Text.ofChars (cs ++ [mark])
  | none => (named? name).map Text.ofChars

/-- Whether a code point may stand between the colons. -/
def isInner (p : CodePoint) : Bool := p ≠ ':' && !isBlankPoint p.val

/-- Puts emojis in place of their names. -/
def replace (t : Text) : Text :=
  match t with
  | [] => []
  | p :: rest =>
    if p = ':' then
      match _h : rest.dropWhile isInner with
      | closing :: after =>
        if closing = ':' then
          let code := rest.takeWhile isInner
          (ofCode? code).getD (p :: code ++ [closing]) ++ replace after
        else p :: replace rest
      | [] => p :: replace rest
    else p :: replace rest
termination_by t.length
decreasing_by
  · have := (List.dropWhile_sublist (l := rest) isInner).length_le
    rw [_h] at this
    simp only [List.length_cons] at this ⊢
    omega
  all_goals simp

end EndpointCatalog.Console.Emoji
