/-
EndpointCatalog.Proofs.Comments.Relation — trees with comments put in.

A comment is a named node, so it stands among the children of the node that
it is written in.

* `Commented t t'`: the tree `t'` is `t` with comments put into lists of
  children, anywhere but in front of a child that is read for being the
  first one.
* `Commented.get`, `Commented.field`, `Commented.children`: what is read off
  a node with comments is what is read off the node, with comments.
* `Commented.visits`: a walk meets the same mappings, and on the way those
  of the comments.
-/
import EndpointCatalog.Cst.Dialect
import EndpointCatalog.Cst.Projection
import EndpointCatalog.Proofs.Walk
import Mathlib.Data.Option.Defs

namespace EndpointCatalog.Cst

/-- The node of a comment. -/
def comment (line : Int) (text : Text) : Tree :=
  .map
    [("kind", .ofString "comment"), ("line", .int line), ("text", .text text),
     ("fields", .map []), ("children", .list [])]

theorem mapping_comment (source : Array Char) (n : Node) (h : n.kind = "comment") :
    mapping source n ([], []) = comment (n.label.row + 1) (n.text source) := by
  have hextras : extras source n = [] := by
    rw [extras, h]
    rfl
  rw [mapping, hextras, h]
  rfl

/-! ## Comments put in -/

/-- Whether the first child of a node has a meaning of its own: it is what a transparent node
stands around, or the first argument of a call. -/
def readsFirst (node : Tree) : Bool := isTransparent node || isKind node "arguments"

mutual

/-- A tree and the same tree with comments. -/
inductive Commented : Tree → Tree → Prop where
  | scalar {t : Tree} (h : t.isBranch = false) : Commented t t
  | list {items items' : List Tree} (h : CommentedItems items items') :
      Commented (.list items) (.list items')
  | map {entries entries' : Entries}
      (h : CommentedEntries (readsFirst (.map entries)) entries entries') :
      Commented (.map entries) (.map entries')

/-- Trees one by one, each with comments. -/
inductive CommentedItems : List Tree → List Tree → Prop where
  | nil : CommentedItems [] []
  | cons {t t' : Tree} {items items' : List Tree} (h : Commented t t')
      (rest : CommentedItems items items') : CommentedItems (t :: items) (t' :: items')

/-- The entries of a mapping with comments, which may stand among the children. -/
inductive CommentedEntries : Bool → Entries → Entries → Prop where
  | nil {first : Bool} : CommentedEntries first [] []
  | value {first : Bool} {key : Text} {t t' : Tree} {entries entries' : Entries}
      (h : Commented t t') (rest : CommentedEntries first entries entries') :
      CommentedEntries first ((key, t) :: entries) ((key, t') :: entries')
  | children {first : Bool} {items items' : List Tree} {entries entries' : Entries}
      (h : Interspersed first items items') (rest : CommentedEntries first entries entries') :
      CommentedEntries first ((Text.ofString "children", .list items) :: entries)
        ((Text.ofString "children", .list items') :: entries')

/-- Trees with comments between them. Where the first tree counts, no comment stands in front of
it. -/
inductive Interspersed : Bool → List Tree → List Tree → Prop where
  | nil {first : Bool} : Interspersed first [] []
  | keep {first : Bool} {t t' : Tree} {items items' : List Tree} (h : Commented t t')
      (rest : Interspersed false items items') : Interspersed first (t :: items) (t' :: items')
  | extra (line : Int) (text : Text) {items items' : List Tree}
      (rest : Interspersed false items items') :
      Interspersed false items (comment line text :: items')

end

mutual

theorem Commented.refl : ∀ t : Tree, Commented t t
  | .list items => .list (CommentedItems.refl items)
  | .map entries => .map (CommentedEntries.refl _ entries)
  | .null => .scalar rfl
  | .bool _ => .scalar rfl
  | .int _ => .scalar rfl
  | .float _ => .scalar rfl
  | .text _ => .scalar rfl
  | .regex _ _ _ => .scalar rfl

theorem CommentedItems.refl : ∀ items : List Tree, CommentedItems items items
  | [] => .nil
  | t :: items => .cons (Commented.refl t) (CommentedItems.refl items)

theorem CommentedEntries.refl (first : Bool) : ∀ entries : List (Text × Tree),
    CommentedEntries first entries entries
  | [] => .nil
  | (_, t) :: entries => .value (Commented.refl t) (CommentedEntries.refl first entries)

end

/-! ## Lists -/

theorem CommentedItems.interspersed {items items' : List Tree} (h : CommentedItems items items')
    (first : Bool) : Interspersed first items items' := by
  induction items generalizing items' first with
  | nil =>
    cases h
    exact .nil
  | cons t items ih =>
    cases h with
    | cons h rest => exact .keep h (ih rest false)

theorem Interspersed.weaken {first : Bool} {items items' : List Tree}
    (h : Interspersed first items items') : Interspersed false items items' := by
  cases h with
  | nil => exact .nil
  | keep h rest => exact .keep h rest
  | extra line text rest => exact .extra line text rest

theorem Interspersed.append : ∀ {xs xs' ys ys' : List Tree}, Interspersed false xs xs' →
    Interspersed false ys ys' → Interspersed false (xs ++ ys) (xs' ++ ys')
  | _, _, _, _, .nil, hys => hys
  | _, _, _, _, .keep h rest, hys => .keep h (rest.append hys)
  | _, _, _, _, .extra line text rest, hys => .extra line text (rest.append hys)

theorem Interspersed.reverse : ∀ {first : Bool} {xs xs' : List Tree}, Interspersed first xs xs' →
    Interspersed false xs.reverse xs'.reverse
  | _, _, _, .nil => .nil
  | _, _, _, .keep h rest => by
    rw [List.reverse_cons, List.reverse_cons]
    exact rest.reverse.append (.keep h .nil)
  | _, xs, _, .extra line text rest => by
    rw [List.reverse_cons, ← List.append_nil xs.reverse]
    exact rest.reverse.append (.extra line text .nil)

/-- Where nothing was put in, the trees stand one by one. -/
theorem Interspersed.items_of_length : ∀ {first : Bool} {xs xs' : List Tree},
    Interspersed first xs xs' → xs.length ≤ xs'.length ∧
      (xs'.length = xs.length → CommentedItems xs xs')
  | _, _, _, .nil => ⟨Nat.le_refl _, fun _ => .nil⟩
  | _, _, _, .keep h rest => by
    obtain ⟨hle, hitems⟩ := rest.items_of_length
    refine ⟨Nat.succ_le_succ hle, fun hlength => .cons h (hitems ?_)⟩
    exact Nat.succ.inj hlength
  | _, _, _, .extra _ _ rest => by
    obtain ⟨hle, -⟩ := rest.items_of_length
    refine ⟨Nat.le_succ_of_le hle, fun hlength => ?_⟩
    rw [List.length_cons] at hlength
    omega

/-! ## Nodes -/

namespace Commented

theorem eq_text_iff {t t' : Tree} (h : Commented t t') {text : Text} :
    t' = .text text ↔ t = .text text := by
  cases h with
  | scalar => exact Iff.rfl
  | list => exact iff_of_false Tree.noConfusion Tree.noConfusion
  | map => exact iff_of_false Tree.noConfusion Tree.noConfusion

theorem isNull_eq {t t' : Tree} (h : Commented t t') : t'.isNull = t.isNull := by
  cases h <;> rfl

theorem text?_eq {t t' : Tree} (h : Commented t t') : t'.text? = t.text? := by
  cases h <;> rfl

theorem textOf_eq {t t' : Tree} (h : Commented t t') : t'.textOf = t.textOf := by
  rw [Tree.textOf, h.text?_eq, ← Tree.textOf]

theorem items {t t' : Tree} (h : Commented t t') : CommentedItems t.items t'.items := by
  cases h with
  | scalar hscalar =>
    cases t <;> first | exact .nil | cases hscalar
  | list h => exact h
  | map h => exact .nil

end Commented

theorem CommentedEntries.get? {first : Bool} {entries entries' : Entries}
    (h : CommentedEntries first entries entries') {key : Text}
    (hkey : key ≠ Text.ofString "children") :
    Option.Rel Commented (Entries.get? key entries) (Entries.get? key entries') := by
  induction entries generalizing entries' with
  | nil =>
    cases h
    exact .none
  | cons e entries ih =>
    cases h with
    | @value _ k t t' _ _ h rest =>
      rw [Entries.get?, Entries.get?]
      by_cases hk : k = key
      · rw [if_pos hk, if_pos hk]
        exact .some h
      · rw [if_neg hk, if_neg hk]
        exact ih rest
    | children h rest =>
      rw [Entries.get?, Entries.get?, if_neg (Ne.symm hkey), if_neg (Ne.symm hkey)]
      exact ih rest

theorem CommentedEntries.children_items {first : Bool} {entries entries' : Entries}
    (h : CommentedEntries first entries entries') :
    Interspersed first ((Tree.map entries).get "children").items
      ((Tree.map entries').get "children").items := by
  induction entries generalizing entries' with
  | nil =>
    cases h
    exact .nil
  | cons e entries ih =>
    cases h with
    | @value _ k t t' _ _ h rest =>
      by_cases hk : k = Text.ofString "children"
      · have hget : ∀ (v : Tree) (es : Entries), (Tree.map ((k, v) :: es)).get "children" = v := by
          intro v es
          rw [Tree.get, Tree.get?, Entries.get?, if_pos hk, Option.getD_some]
        rw [hget, hget]
        exact h.items.interspersed first
      · have hget : ∀ (v : Tree) (es : Entries),
            (Tree.map ((k, v) :: es)).get "children" = (Tree.map es).get "children" := by
          intro v es
          rw [Tree.get, Tree.get?, Entries.get?, if_neg hk]
          rfl
        rw [hget, hget]
        exact ih rest
    | children h rest => exact h

namespace Commented

variable {t t' : Tree}

theorem get? (h : Commented t t') (key : String)
    (hkey : Text.ofString key ≠ Text.ofString "children") :
    Option.Rel Commented (t.get? key) (t'.get? key) := by
  cases h with
  | scalar hscalar =>
    cases t <;> first | exact .none | cases hscalar
  | list => exact .none
  | map h => exact h.get? hkey

theorem get (h : Commented t t') (key : String)
    (hkey : Text.ofString key ≠ Text.ofString "children") :
    Commented (t.get key) (t'.get key) := by
  have hvalue := h.get? key hkey
  rw [Tree.get, Tree.get]
  generalize t.get? key = value, t'.get? key = value' at hvalue
  cases hvalue with
  | none => exact .scalar rfl
  | some h => exact h

theorem children (h : Commented t t') :
    Interspersed (readsFirst t) (Cst.children t) (Cst.children t') := by
  cases h with
  | scalar hscalar =>
    cases t <;> first | exact .nil | cases hscalar
  | list => exact .nil
  | map h => exact h.children_items

theorem field (h : Commented t t') (name : String)
    (hname : Text.ofString name ≠ Text.ofString "children") :
    Commented (field t name) (field t' name) := by
  have hvalue := (h.get "fields" (by decide)).get name hname
  unfold Cst.field
  generalize (t.get "fields").get name = value, (t'.get "fields").get name = value' at hvalue
  cases hvalue with
  | scalar hscalar =>
    cases value <;> first | exact .scalar rfl | cases hscalar
  | list hitems =>
    cases hitems with
    | nil => exact .scalar rfl
    | cons hhead _ => exact hhead
  | map hentries => exact .map hentries

theorem hasText_eq (h : Commented t t') (key : String)
    (hkey : Text.ofString key ≠ Text.ofString "children") (value : String) :
    t'.hasText key value = t.hasText key value := by
  rw [Bool.eq_iff_iff, Tree.hasText_iff, Tree.hasText_iff]
  exact (h.get key hkey).eq_text_iff

theorem isKind_eq (h : Commented t t') (kind : String) : isKind t' kind = isKind t kind :=
  h.hasText_eq "kind" (by decide) kind

theorem isTransparent_eq (h : Commented t t') : isTransparent t' = isTransparent t := by
  simp only [isTransparent, h.isKind_eq]

theorem textOf_node_eq (h : Commented t t') : Cst.textOf t' = Cst.textOf t := by
  rw [Cst.textOf, (h.get "text" (by decide)).textOf_eq, ← Cst.textOf]

end Commented

/-! ## Walks -/

/-- The mappings that are met in a tree, and in the tree with comments. A comment is met with
the mapping of its fields. -/
inductive Visits : List Tree → List Tree → Prop where
  | nil : Visits [] []
  | node {t t' : Tree} {nodes nodes' : List Tree} (h : Commented t t')
      (rest : Visits nodes nodes') : Visits (t :: nodes) (t' :: nodes')
  | extra (line : Int) (text : Text) {nodes nodes' : List Tree} (rest : Visits nodes nodes') :
      Visits nodes (comment line text :: .map [] :: nodes')

theorem Visits.append {xs xs' ys ys' : List Tree} (hxs : Visits xs xs') (hys : Visits ys ys') :
    Visits (xs ++ ys) (xs' ++ ys') := by
  induction hxs with
  | nil => exact hys
  | node h _ ih => exact .node h ih
  | extra line text _ ih => exact .extra line text ih

mutual

theorem Commented.visits : ∀ {t t' : Tree}, Commented t t' → Visits t.mappings t'.mappings
  | _, _, .scalar h => by
    rw [Tree.mappings_of_not_isBranch h]
    exact .nil
  | _, _, .list h => by
    rw [Tree.mappings, Tree.mappings]
    exact h.visits
  | _, _, .map h => by
    rw [Tree.mappings, Tree.mappings]
    exact .node (.map h) h.visits

theorem CommentedItems.visits : ∀ {items items' : List Tree}, CommentedItems items items' →
    Visits (Tree.listMappings items) (Tree.listMappings items')
  | _, _, .nil => .nil
  | _, _, .cons h rest => by
    rw [Tree.listMappings, Tree.listMappings]
    exact h.visits.append rest.visits

theorem CommentedEntries.visits : ∀ {first : Bool} {entries entries' : Entries},
    CommentedEntries first entries entries' →
      Visits (Tree.entryMappings entries) (Tree.entryMappings entries')
  | _, _, _, .nil => .nil
  | _, _, _, .value h rest => by
    rw [Tree.entryMappings, Tree.entryMappings]
    exact h.visits.append rest.visits
  | _, _, _, .children h rest => by
    rw [Tree.entryMappings, Tree.entryMappings, Tree.mappings, Tree.mappings]
    exact h.visits.append rest.visits

theorem Interspersed.visits : ∀ {first : Bool} {items items' : List Tree},
    Interspersed first items items' →
      Visits (Tree.listMappings items) (Tree.listMappings items')
  | _, _, _, .nil => .nil
  | _, _, _, .keep h rest => by
    rw [Tree.listMappings, Tree.listMappings]
    exact h.visits.append rest.visits
  | _, _, _, .extra line text rest => .extra line text rest.visits

end

end EndpointCatalog.Cst
