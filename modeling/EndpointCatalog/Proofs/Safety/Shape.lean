/-
EndpointCatalog.Proofs.Safety.Shape — nodes that readers can do with.

* `isReadable`: what readers take of a node without a check is there, and is
  of the form that they take it for.
* `Shallow`: how deep the literals below a node are nested; a plain literal has
  no parts at all. Within the bound a literal is evaluated
  (`Shallow.isSome_literal?`).
* `Sound depth t`: both hold of every mapping of a tree. Only an array, an
  object and a unary operator need parts that are nested less deep.
-/
import EndpointCatalog.Estree.Node
import EndpointCatalog.Proofs.Literals
import EndpointCatalog.Proofs.Walk

namespace EndpointCatalog

/-! ## Lists of answers -/

/-- A list of answers is not there if one of the answers is not. -/
theorem mapM_eq_none_iff {α β : Type} {f : α → Option β} {as : List α} :
    as.mapM f = none ↔ ∃ a ∈ as, f a = none := by
  induction as with
  | nil => simp only [List.mapM_nil, Option.pure_def, reduceCtorEq, List.not_mem_nil, false_and,
      exists_false]
  | cons a as ih =>
    rw [List.mapM_cons, List.exists_mem_cons_iff, ← ih]
    cases f a <;> cases as.mapM f <;> simp

theorem isSome_bind {α β : Type} {x : Option α} {f : α → Option β} (hx : x.isSome)
    (hf : ∀ a, (f a).isSome) : (x >>= f).isSome := by
  obtain ⟨a, rfl⟩ := Option.isSome_iff_exists.mp hx
  exact hf a

theorem isSome_mapM {α β : Type} {f : α → Option β} {as : List α}
    (h : ∀ a ∈ as, (f a).isSome) : (as.mapM f).isSome := by
  refine Option.isSome_iff_ne_none.mpr fun hnone => ?_
  obtain ⟨a, ha, hnone⟩ := mapM_eq_none_iff.mp hnone
  have hsome := h a ha
  rw [hnone] at hsome
  cases hsome

namespace Tree

/-- Whether the tree is a text. -/
def isText (t : Tree) : Bool := t.text?.isSome

/-- Whether the tree is an integer. -/
def isInt (t : Tree) : Bool := t.int?.isSome

/-- Whether the tree is a list. -/
def isList : Tree → Bool
  | .list _ => true
  | _ => false

/-- Each mapping of a tree has a property. -/
def AllMappings (P : Tree → Prop) (t : Tree) : Prop := ∀ m ∈ t.mappings, P m

variable {P Q : Tree → Prop} {t : Tree}

theorem allMappings_map {entries : Entries} :
    AllMappings P (.map entries) ↔ P (.map entries) ∧ ∀ e ∈ entries, AllMappings P e.2 := by
  constructor
  · intro h
    refine ⟨h _ (.head _), fun e he m hm => h m (.tail _ ?_)⟩
    exact mem_entryMappings.mpr ⟨e, he, hm⟩
  · rintro ⟨hself, hbelow⟩ m hm
    rcases List.mem_cons.mp hm with rfl | hm
    · exact hself
    · obtain ⟨e, he, hm⟩ := mem_entryMappings.mp hm
      exact hbelow e he m hm

theorem allMappings_list {items : List Tree} :
    AllMappings P (.list items) ↔ ∀ t ∈ items, AllMappings P t := by
  constructor
  · exact fun h t ht m hm => h m (mem_listMappings.mpr ⟨t, ht, hm⟩)
  · intro h m hm
    obtain ⟨t, ht, hm⟩ := mem_listMappings.mp hm
    exact h t ht m hm

theorem allMappings_of_not_isBranch (h : t.isBranch = false) : AllMappings P t := by
  intro m hm
  rw [mappings_of_not_isBranch h] at hm
  cases hm

theorem AllMappings.imp (h : AllMappings P t) (himp : ∀ m, P m → Q m) : AllMappings Q t :=
  fun m hm => himp m (h m hm)

theorem AllMappings.self (h : AllMappings P t) (hmap : t.isMap) : P t := by
  cases t <;> first | exact (allMappings_map.mp h).1 | cases hmap

theorem AllMappings.get? (h : AllMappings P t) {key : String} {value : Tree}
    (hget : t.get? key = some value) : AllMappings P value := by
  cases t with
  | map entries => exact (allMappings_map.mp h).2 _ (Entries.mem_of_get? hget)
  | _ => cases hget

theorem AllMappings.get (h : AllMappings P t) (key : String) : AllMappings P (t.get key) := by
  rw [Tree.get]
  cases hget : t.get? key with
  | none => exact allMappings_of_not_isBranch rfl
  | some value => exact h.get? hget

theorem AllMappings.items (h : AllMappings P t) : ∀ item ∈ t.items, AllMappings P item := by
  cases t with
  | list items => exact allMappings_list.mp h
  | _ => exact fun item hitem => nomatch hitem

mutual

/-- What each mapping of a tree has, each mapping of one of them has. -/
theorem AllMappings.of_mem {m : Tree} :
    ∀ {t : Tree}, AllMappings P t → m ∈ t.mappings → AllMappings P m
  | .list _, h, hm => AllMappings.of_mem_list (allMappings_list.mp h) hm
  | .map _, h, hm => by
    rcases List.mem_cons.mp hm with rfl | hm
    · exact h
    · exact AllMappings.of_mem_entries (allMappings_map.mp h).2 hm

theorem AllMappings.of_mem_list {m : Tree} :
    ∀ {items : List Tree}, (∀ t ∈ items, AllMappings P t) → m ∈ listMappings items →
      AllMappings P m
  | t :: rest, h, hm => by
    rcases List.mem_append.mp hm with hm | hm
    · exact AllMappings.of_mem (h t (.head rest)) hm
    · exact AllMappings.of_mem_list (fun t ht => h t (.tail _ ht)) hm

theorem AllMappings.of_mem_entries {m : Tree} :
    ∀ {entries : List (Text × Tree)}, (∀ e ∈ entries, AllMappings P e.2) →
      m ∈ entryMappings entries → AllMappings P m
  | (_, t) :: rest, h, hm => by
    rcases List.mem_append.mp hm with hm | hm
    · exact AllMappings.of_mem (h _ (.head rest)) hm
    · exact AllMappings.of_mem_entries (fun e he => h e (.tail _ he)) hm

end

end Tree

namespace Estree

/-! ## Readable nodes -/

/-- Whether the tree is a template element with a value. -/
def isStretch (quasi : Tree) : Bool := quasi.isMap && (quasi.get "value").isMap

/-- Whether the tree is a list of template elements with values. -/
def isStretchList : Tree → Bool
  | .list items => items.all isStretch
  | _ => false

/-- The attributes that readers take for what they are, whatever the kind of the node, and the
form they must have. -/
def forms : List (String × (Tree → Bool)) :=
  [("type", Tree.isText), ("name", Tree.isText), ("raw", Tree.isText), ("cooked", Tree.isText),
   ("loc", Tree.isMap), ("start", Tree.isMap), ("line", Tree.isInt), ("arguments", Tree.isList),
   ("params", Tree.isList), ("properties", Tree.isList), ("elements", Tree.isList),
   ("quasis", isStretchList)]

/-- Whether a value may stand under a key. -/
def fits (key : Text) (value : Tree) : Bool :=
  forms.all fun form => key != Text.ofString form.1 || form.2 value

/-- Whether all that readers take of a node is there in the form that they take it for: what is
missing from a node has a default, except for the name of an identifier. -/
def isReadable : Tree → Bool
  | .map entries =>
    entries.all (fun e => fits e.1 e.2) &&
      (!isKind (.map entries) "Identifier" || ((Tree.map entries).get? "name").isSome)
  | _ => true

theorem ofString_bne (s t : String) : (Text.ofString s != Text.ofString t) = (s != t) := by
  by_cases h : s = t
  · rw [h, bne_self_eq_false, bne_self_eq_false]
  · rw [bne_iff_ne.mpr h, bne_iff_ne]
    exact fun heq => h (Text.ofString_injective heq)

/-- What may stand under an attribute's name. -/
theorem fits_ofString (name : String) (value : Tree) :
    fits (Text.ofString name) value = forms.all fun form => name != form.1 || form.2 value := by
  simp only [fits, ofString_bne]

/-! ## Nested literals -/

/-- Literals are nested no deeper than a number. -/
def Shallow : Nat → Tree → Prop
  | 0, _ => False
  | depth + 1, node =>
    (isKind node "Literal" → (node.get "value").isBranch = false) ∧
    (isKind node "ObjectExpression" →
      ∀ property ∈ (node.get "properties").items, Shallow depth (property.get "value")) ∧
    (isKind node "ArrayExpression" →
      ∀ item ∈ (node.get "elements").items, Shallow depth item) ∧
    (isKind node "UnaryExpression" → Shallow depth (node.get "argument"))

theorem Shallow.mono {depth deeper : Nat} {node : Tree} (h : Shallow depth node)
    (hle : depth ≤ deeper) : Shallow deeper node := by
  induction depth generalizing deeper node with
  | zero => exact h.elim
  | succ depth ih =>
    obtain ⟨deeper, rfl⟩ := Nat.exists_eq_add_of_le' (Nat.zero_lt_of_lt hle)
    have hle : depth ≤ deeper := Nat.le_of_succ_le_succ hle
    obtain ⟨hplain, hobject, harray, hunary⟩ := h
    exact ⟨hplain, fun hk p hp => ih (hobject hk p hp) hle, fun hk i hi => ih (harray hk i hi) hle,
      fun hk => ih (hunary hk) hle⟩

/-- The value of an entry stands in a property. -/
theorem value_of_mem_entries {properties : List Tree} {e : Text × Tree}
    (he : e ∈ properties.filterMap staticProperty?) :
    ∃ property ∈ properties, property.get "value" = e.2 := by
  obtain ⟨property, hproperty, hentry⟩ := List.mem_filterMap.mp he
  refine ⟨property, hproperty, ?_⟩
  unfold staticProperty? at hentry
  split at hentry
  · split at hentry
    · rename_i hvalue
      cases hentry
      exact hvalue
    · cases hentry
  · cases hentry

/-- A literal that is nested no deeper than a number is evaluated. -/
theorem Shallow.isSome_literal? {depth : Nat} {node : Tree} (h : Shallow depth node) :
    (literal? depth node).isSome := by
  induction depth generalizing node with
  | zero => exact h.elim
  | succ depth ih =>
    obtain ⟨-, hobject, harray, hunary⟩ := h
    rw [literal?]
    split
    · split
      · rfl
      · split <;> rfl
    split
    · rfl
    split
    · rename_i hkind
      refine isSome_bind (isSome_mapM fun e he => ?_) fun _ => rfl
      rw [objectEntries?_eq, if_pos hkind, Option.getD_some] at he
      obtain ⟨property, hproperty, hvalue⟩ := value_of_mem_entries he
      exact isSome_bind (ih (hvalue ▸ hobject hkind property hproperty)) fun _ => rfl
    split
    · rename_i hkind
      refine isSome_bind (isSome_mapM fun item hitem => ?_) fun _ => rfl
      split
      · exact isSome_bind (ih (harray hkind item hitem)) fun _ => rfl
      · rfl
    split
    · rename_i hkind
      refine isSome_bind (ih (hunary (Bool.and_eq_true_iff.mp hkind).1)) fun value => ?_
      dsimp only
      split <;> rfl
    · rfl

/-! ## Sound trees -/

/-- Each mapping of the tree is a node that can be read, and its literals are nested no deeper
than a number, counted from zero. -/
def Sound (depth : Nat) (t : Tree) : Prop :=
  t.AllMappings fun m => isReadable m ∧ Shallow (depth + 1) m

variable {depth deeper : Nat} {t : Tree}

theorem sound_list {items : List Tree} :
    Sound depth (.list items) ↔ ∀ t ∈ items, Sound depth t := Tree.allMappings_list

theorem sound_map {entries : Entries} :
    Sound depth (.map entries) ↔
      (isReadable (.map entries) ∧ Shallow (depth + 1) (.map entries)) ∧
        ∀ e ∈ entries, Sound depth e.2 := Tree.allMappings_map

theorem sound_of_not_isBranch (h : t.isBranch = false) : Sound depth t :=
  Tree.allMappings_of_not_isBranch h

theorem Sound.mono (h : Sound depth t) (hle : depth ≤ deeper) : Sound deeper t :=
  h.imp fun _ hm => ⟨hm.1, hm.2.mono (Nat.succ_le_succ hle)⟩

theorem Sound.succ (h : Sound depth t) : Sound (depth + 1) t := h.mono (Nat.le_succ depth)

/-- What is no node of a kind with parts is nested no deeper than any number but zero. -/
theorem shallow_of_not_isMap (h : t.isMap = false) : Shallow (depth + 1) t := by
  have hkind (kind : String) : ¬ isKind t kind := fun hk => by
    rw [Tree.isMap_of_hasText hk] at h
    cases h
  exact ⟨fun hk => (hkind _ hk).elim, fun hk => (hkind _ hk).elim, fun hk => (hkind _ hk).elim,
    fun hk => (hkind _ hk).elim⟩

theorem Sound.shallow (h : Sound depth t) : Shallow (depth + 1) t := by
  by_cases hmap : t.isMap
  · exact (h.self hmap).2
  · exact shallow_of_not_isMap (by simpa using hmap)

theorem Sound.get (h : Sound depth t) (key : String) : Sound depth (t.get key) :=
  Tree.AllMappings.get h key

theorem Sound.items (h : Sound depth t) : ∀ item ∈ t.items, Sound depth item :=
  Tree.AllMappings.items h

end Estree

end EndpointCatalog
