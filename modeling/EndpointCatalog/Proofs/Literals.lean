/-
EndpointCatalog.Proofs.Literals — what object literals evaluate to.

* `Dialect.valueOf?`: the value of a node, which is the node itself if it is
  kept.
* `Dialect.EvaluatesObjects`: an object literal evaluates to the mapping of
  its static keys to the values of their nodes. Both dialects do so.
* `Dialect.get?_ofPairs_evaluated`: what stands under a key of that mapping is the
  value of the last node written under it.
-/
import EndpointCatalog.Cst.Dialect
import EndpointCatalog.Estree.Dialect
import EndpointCatalog.Proofs.Entries
import EndpointCatalog.Proofs.Rules
import Mathlib.Data.List.Forall2

namespace EndpointCatalog

/-- A list of answers is there if each answer is. -/
theorem mapM_eq_some_iff {α β : Type} {f : α → Option β} {as : List α} {bs : List β} :
    as.mapM f = some bs ↔ List.Forall₂ (fun a b => f a = some b) as bs := by
  induction as generalizing bs with
  | nil =>
    rw [List.mapM_nil]
    constructor
    · rintro ⟨⟩
      exact .nil
    · rintro ⟨⟩
      rfl
  | cons a as ih =>
    simp only [List.mapM_cons, Option.bind_eq_bind, Option.bind_eq_some_iff]
    constructor
    · rintro ⟨b, hb, rest, hrest, heq⟩
      cases heq
      exact .cons hb (ih.mp hrest)
    · rintro (_ | ⟨hb, hrest⟩)
      exact ⟨_, hb, _, ih.mpr hrest, rfl⟩

theorem Text.ofString_injective {s t : String} (h : Text.ofString s = Text.ofString t) : s = t := by
  have hchar : Function.Injective CodePoint.ofChar := by
    intro c d hcd
    have hval : c.toNat = d.toNat := congrArg (fun p : CodePoint => p.val) hcd
    exact Char.ext (UInt32.toNat_inj.1 hval)
  exact String.toList_inj.1 (hchar.list_map h)

namespace Tree

/-- A node has one kind. -/
theorem hasText_eq {node : Tree} {key value : String} (h : node.hasText key value)
    (other : String) : node.hasText key other = (value == other) := by
  rw [Bool.eq_iff_iff, beq_iff_eq, hasText_iff, hasText_iff.1 h, Tree.text.injEq]
  exact ⟨Text.ofString_injective, congrArg _⟩

theorem hasText_of_ne {node : Tree} {key value other : String} (h : node.hasText key value)
    (hne : Text.ofString value ≠ Text.ofString other) : node.hasText key other = false := by
  rw [hasText_eq h, beq_eq_false_iff_ne]
  exact fun heq => hne (congrArg _ heq)

end Tree

/-! ## Values -/

namespace Dialect

/-- The value of a node that is nested no deeper than some number, or the node itself if it is
kept. -/
def valueOf? (d : Dialect) (depth : Nat) (node : Tree) : Option Tree :=
  (d.literal? depth node).map fun literal => literal.toTree node

/-- The static keys of an object literal and the values of their nodes. -/
def evaluated? (d : Dialect) (depth : Nat) (pairs : List (Text × Tree)) : Option Entries :=
  pairs.mapM fun pair => (d.valueOf? depth pair.2).map (pair.1, ·)

theorem evaluated?_eq (d : Dialect) (depth : Nat) (pairs : List (Text × Tree)) :
    d.evaluated? depth pairs = pairs.mapM fun pair =>
      (d.literal? depth pair.2).bind fun literal => some (pair.1, literal.toTree pair.2) := by
  refine congrArg (List.mapM · pairs) (funext fun pair => ?_)
  rw [valueOf?, Option.map_map, Option.map_eq_bind]
  rfl

/-- An object literal evaluates to the mapping of its static keys. -/
def EvaluatesObjects (d : Dialect) : Prop :=
  ∀ depth node pairs, d.objectEntries? node = some pairs →
    d.literal? (depth + 1) node =
      (d.evaluated? depth pairs).map fun entries => .value (.map (Entries.ofPairs entries))

theorem get?_of_forall₂ {f : Tree → Option Tree} {key : Text} {pairs entries : Entries}
    (h : List.Forall₂ (fun pair entry => pair.1 = entry.1 ∧ f pair.2 = some entry.2) pairs
      entries) : Entries.get? key entries = (Entries.get? key pairs).bind f := by
  induction h with
  | nil => rfl
  | @cons pair entry _ _ hhead _ ih =>
    obtain ⟨k, node⟩ := pair
    obtain ⟨k', value⟩ := entry
    obtain ⟨rfl, hvalue⟩ := hhead
    rw [Entries.get?, Entries.get?, ih]
    split
    · exact hvalue.symm
    · rfl

theorem evaluated?_eq_some_iff {d : Dialect} {depth : Nat} {pairs entries : Entries} :
    d.evaluated? depth pairs = some entries ↔
      List.Forall₂ (fun pair entry => pair.1 = entry.1 ∧ d.valueOf? depth pair.2 = some entry.2)
        pairs entries := by
  rw [evaluated?, mapM_eq_some_iff]
  have hstep : ∀ pair entry : Text × Tree, (d.valueOf? depth pair.2).map (pair.1, ·) = some entry ↔
      pair.1 = entry.1 ∧ d.valueOf? depth pair.2 = some entry.2 := by
    intro pair entry
    rw [Option.map_eq_some_iff]
    constructor
    · rintro ⟨value, hvalue, rfl⟩
      exact ⟨rfl, hvalue⟩
    · rintro ⟨hkey, hvalue⟩
      exact ⟨entry.2, hvalue, Prod.ext hkey rfl⟩
  simp only [hstep]

/-- Under a key of an evaluated object literal stands the value of the last node that is written
under it. -/
theorem get?_ofPairs_evaluated {d : Dialect} {depth : Nat} {pairs entries : Entries}
    (h : d.evaluated? depth pairs = some entries) (key : Text) :
    Entries.get? key (Entries.ofPairs entries) =
      (Entries.get? key pairs.reverse).bind (d.valueOf? depth) := by
  rw [Entries.get?_ofPairs]
  exact get?_of_forall₂ (List.forall₂_reverse_iff.mpr (evaluated?_eq_some_iff.mp h))

theorem mem_keys_ofPairs_evaluated {d : Dialect} {depth : Nat} {pairs entries : Entries}
    (h : d.evaluated? depth pairs = some entries) (key : Text) :
    key ∈ Entries.keys (Entries.ofPairs entries) ↔ key ∈ Entries.keys pairs := by
  have hkeys : Entries.keys entries = Entries.keys pairs := by
    have hpairs := evaluated?_eq_some_iff.mp h
    clear h
    induction hpairs with
    | nil => rfl
    | cons hhead _ ih =>
      rw [Entries.keys, Entries.keys, List.map_cons, List.map_cons, hhead.1]
      exact congrArg _ ih
  rw [Entries.mem_keys_ofPairs, hkeys]

end Dialect

/-! ## The dialects -/

namespace Estree

/-- The entry that a property of an object literal is. -/
def staticProperty? (property : Tree) : Option (Text × Tree) :=
  if isKind property "Property" && !(property.get "computed").truthy then
    match keyName? (property.get "key"), property.get "value" with
    | some name, .map entries => some (name, .map entries)
    | _, _ => none
  else none

theorem objectEntries?_eq (node : Tree) :
    objectEntries? node = if isKind node "ObjectExpression" then
      some ((node.get "properties").items.filterMap staticProperty?) else none := rfl

theorem evaluatesObjects : Estree.dialect.EvaluatesObjects := by
  intro depth node pairs h
  have h : objectEntries? node = some pairs := h
  have hkind : isKind node "ObjectExpression" := by
    unfold objectEntries? at h
    split at h
    · assumption
    · cases h
  have hliteral : isKind node "Literal" = false := Tree.hasText_of_ne hkind (by decide)
  have htemplate : isKind node "TemplateLiteral" = false := Tree.hasText_of_ne hkind (by decide)
  show literal? (depth + 1) node = _
  simp only [literal?, hliteral, htemplate, hkind, h, Bool.false_eq_true, if_false, if_true,
    Bool.false_and]
  rw [Dialect.evaluated?_eq, Option.map_eq_bind]
  rfl

end Estree

namespace Cst

theorem unwrap_of_not_isTransparent {node : Tree} (h : isTransparent node = false) :
    unwrap node = node := by
  rw [unwrap, dif_neg (Bool.eq_false_iff.mp h)]

theorem unwrap_of_isTransparent {node : Tree} (h : isTransparent node) :
    unwrap node = unwrap (inner node) := by
  rw [unwrap, dif_pos h]

theorem isTransparent_unwrap (node : Tree) : isTransparent (unwrap node) = false := by
  fun_induction unwrap node with
  | case1 node h ih => exact ih
  | case2 node h => exact Bool.eq_false_iff.mpr h

theorem unwrap_unwrap (node : Tree) : unwrap (unwrap node) = unwrap node :=
  unwrap_of_not_isTransparent (isTransparent_unwrap node)

/-- The entry that a child of an object literal is. -/
def staticProperty? (child : Tree) : Option (Text × Tree) :=
  if isKind child "pair" then
    match keyName? (field child "key"), field child "value" with
    | some _, .null => none
    | some name, value => some (name, value)
    | none, _ => none
  else if isKind child "shorthand_property_identifier" then some (textOf child, child)
  else none

theorem objectEntries?_eq (node : Tree) :
    objectEntries? node = if isKind (unwrap node) "object" then
      some ((children (unwrap node)).filterMap staticProperty?) else none := rfl

theorem objectEntries?_unwrap (node : Tree) :
    objectEntries? (unwrap node) = objectEntries? node := by
  rw [objectEntries?, unwrap_unwrap, ← objectEntries?]

theorem evaluatesObjects : Cst.dialect.EvaluatesObjects := by
  intro depth node pairs h
  have h : objectEntries? node = some pairs := h
  have hkind : isKind (unwrap node) "object" := by
    unfold objectEntries? at h
    simp only at h
    split at h
    · assumption
    · cases h
  have hother : ∀ kind : String, Text.ofString "object" ≠ Text.ofString kind →
      isKind (unwrap node) kind = false := fun kind => Tree.hasText_of_ne hkind
  show literal? (depth + 1) node = _
  simp only [literal?, objectEntries?_unwrap, h, hkind, hother "string" (by decide),
    hother "number" (by decide), hother "template_string" (by decide), hother "true" (by decide),
    hother "false" (by decide), hother "null" (by decide), hother "undefined" (by decide),
    Bool.false_eq_true, if_false, if_true, Bool.false_and, Bool.or_self]
  rw [Dialect.evaluated?_eq, Option.map_eq_bind]
  rfl

/-- An array literal evaluates to the values of its children. -/
theorem literal?_of_array {depth : Nat} {node : Tree} (h : isKind (unwrap node) "array") :
    literal? (depth + 1) node = ((children (unwrap node)).mapM (dialect.valueOf? depth)).map
      fun items => .value (.list items) := by
  have hother : ∀ kind : String, Text.ofString "array" ≠ Text.ofString kind →
      isKind (unwrap node) kind = false := fun kind => Tree.hasText_of_ne h
  simp only [literal?, h, hother "object" (by decide), hother "string" (by decide),
    hother "number" (by decide), hother "template_string" (by decide), hother "true" (by decide),
    hother "false" (by decide), hother "null" (by decide), hother "undefined" (by decide),
    Bool.false_eq_true, if_false, if_true, Bool.false_and, Bool.or_self]
  rw [Option.map_eq_bind]
  refine congrArg₂ Option.bind (congrArg (List.mapM · _) (funext fun item => ?_)) rfl
  rw [Dialect.valueOf?, Option.map_eq_bind]
  rfl

end Cst

theorem SourceLanguage.evaluatesObjects (language : SourceLanguage) :
    language.dialect.EvaluatesObjects := by
  cases language with
  | typed => exact Cst.evaluatesObjects
  | plain => exact Estree.evaluatesObjects

end EndpointCatalog
