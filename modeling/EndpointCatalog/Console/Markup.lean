/-
EndpointCatalog.Console.Markup — text with tags in square brackets.

A tag stands in brackets and begins with a small letter, `#`, `/` or `@`;
all other brackets are text. Backslashes before a tag stand for half as many,
and an odd one makes the tag text.

* `pieces` splits markup into text and tags; put together again they are
  the markup.
* `shown` is the text that markup shows. A closing tag needs a tag to close.
* `escape` makes markup of text, so that brackets stand for themselves.
-/
import EndpointCatalog.Console.Emoji
import EndpointCatalog.Console.Style

namespace EndpointCatalog.Console.Markup

/-! ## Pieces -/

/-- A piece of markup. -/
inductive Piece where
  | plain (text : Text)
  /-- What stands in brackets, behind some backslashes. -/
  | tag (slashes : Nat) (content : Text)
deriving DecidableEq, Repr

/-- Whether a tag may begin with a code point. -/
def isTagStart (p : CodePoint) : Bool :=
  (0x61 ≤ p.val && p.val ≤ 0x7A) || p = '#' || p = '/' || p = '@'

/-- Whether a code point is no bracket. -/
def isInner (p : CodePoint) : Bool := p ≠ '[' && p ≠ ']'

/-- The content of the tag at the start of a text, and what follows the tag. -/
def tagAt? : Text → Option (Text × Text)
  | bracket :: first :: rest =>
    if bracket = '[' && isTagStart first then
      match rest.dropWhile isInner with
      | closing :: after =>
        if closing = ']' then some (first :: rest.takeWhile isInner, after) else none
      | [] => none
    else none
  | _ => none

/-- A tag takes up some of a text. -/
theorem length_of_tagAt? {t content after : Text} (h : tagAt? t = some (content, after)) :
    after.length < t.length := by
  unfold tagAt? at h
  split at h
  · rename_i bracket first rest
    split at h
    · split at h
      · rename_i closing others heq
        split at h
        · obtain ⟨-, rfl⟩ := Prod.mk.injEq .. ▸ Option.some.inj h
          have := (List.dropWhile_sublist (l := rest) isInner).length_le
          rw [heq] at this
          simp only [List.length_cons] at this ⊢
          omega
        · simp at h
      · simp at h
    · simp at h
  · simp at h

/-- A text in brackets. -/
def bracketed (content : Text) : Text :=
  CodePoint.ofChar '[' :: content ++ [CodePoint.ofChar ']']

/-- Whether a code point is a backslash. -/
def isSlash (p : CodePoint) : Bool := p = '\\'

/-- Text as pieces. -/
def plainPieces (text : Text) : List Piece := if text.isEmpty then [] else [.plain text]

/-- The pieces of markup; `before` is the text before it, last code point first. -/
def piecesFrom (before : Text) (t : Text) : List Piece :=
  match t with
  | [] => plainPieces before.reverse
  | p :: rest =>
    match _h : tagAt? ((p :: rest).dropWhile isSlash) with
    | some (content, after) =>
      plainPieces before.reverse ++
        .tag ((p :: rest).takeWhile isSlash).length content :: piecesFrom [] after
    | none => piecesFrom (p :: before) rest
termination_by t.length
decreasing_by
  · have := length_of_tagAt? _h
    have := (List.dropWhile_sublist (l := p :: rest) isSlash).length_le
    omega
  · simp

/-- The pieces of markup. -/
def pieces (t : Text) : List Piece := piecesFrom [] t

/-! ## What is shown -/

/-- Whether a text holds a closing tag that closes nothing. -/
inductive Fault where
  | nothingToClose
deriving DecidableEq, Repr

/-- Code points that have no place in shown text: bell, backspace, vertical tab, form feed and
carriage return. -/
def isDropped (p : CodePoint) : Bool :=
  [7, 8, 11, 12, 13].contains p.val

/-- Text without the backslashes before its brackets. -/
def bareBrackets : Text → Text
  | [] => []
  | [p] => [p]
  | p :: q :: rest =>
    if isSlash p && q = '[' then q :: bareBrackets rest else p :: bareBrackets (q :: rest)

/-- What a text between tags shows. -/
def showPlain (t : Text) : Text :=
  (Emoji.replace (bareBrackets t)).filter fun p => !isDropped p

/-- The part of a tag before an equals sign. -/
def tagName (content : Text) : Text := content.takeWhile fun p => p ≠ '='

/-- Takes the last name that equals another out of some names, the latest standing first. -/
def removeName? (name : String) : List String → Option (List String)
  | [] => none
  | top :: rest => if top = name then some rest else (removeName? name rest).map (top :: ·)

/-- The open tags, the latest first, behind a tag. -/
def follow (opened : List String) (content : Text) : Except Fault (List String) :=
  match tagName content with
  | [] => .ok (styleName "" :: opened)
  | first :: rest =>
    if first = '/' then
      let name := Text.trim rest
      match (if name.isEmpty then opened.tail? else removeName? (styleName name.toString) opened) with
      | some left => .ok left
      | none => .error .nothingToClose
    else .ok (styleName (Text.toString (first :: rest)) :: opened)

/-- Some backslashes. -/
def slashes (n : Nat) : Text := List.replicate n '\\'

/-- What pieces show, behind some open tags. -/
def showPieces (opened : List String) : List Piece → Except Fault Text
  | [] => .ok []
  | .plain text :: rest => do pure (showPlain text ++ (← showPieces opened rest))
  | .tag n content :: rest => do
    let before := slashes (n / 2)
    if n % 2 = 1 then
      pure (before ++ showPlain (bracketed content) ++ (← showPieces opened rest))
    else
      let opened ← follow opened content
      pure (before ++ (← showPieces opened rest))

/-- The text that markup shows. -/
def shown (t : Text) : Except Fault Text :=
  if t.contains '[' then showPieces [] (pieces t)
  else .ok ((Emoji.replace t).filter fun p => !isDropped p)

/-! ## Text as markup -/

/-- Markup in which a piece stands for itself. -/
def escapePiece : Piece → Text
  | .plain text => text
  | .tag n content => slashes (2 * n + 1) ++ bracketed content

/-- Markup with a second backslash behind a single one at its end. -/
def guardEnd (t : Text) : Text :=
  match t.reverse with
  | [p] => if isSlash p then t ++ [p] else t
  | p :: q :: _ => if isSlash p && !isSlash q then t ++ [p] else t
  | [] => t

/-- Markup that shows a text. -/
def escape (t : Text) : Text := guardEnd ((pieces t).flatMap escapePiece)

end EndpointCatalog.Console.Markup
