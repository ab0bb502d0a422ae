/-
EndpointCatalog.Proofs.Safety.Typed — what readers find in typed scripts.

* `isReadable`: what readers take of a node without a check is there, and is
  of the form that they take it for. The projection makes no other nodes
  (`allReadable_project`): attaching a node keeps what stands under the
  fields nodes, or lists that are not empty.
* `Nested depth node`: following entries and items, one comes from a node to
  another one `depth` levels below. Such a node has no literal at that depth,
  and every other node has one (`literal?_eq_none_iff`).
-/
import EndpointCatalog.Proofs.Projection
import EndpointCatalog.Proofs.Safety.Shape

namespace EndpointCatalog.Cst

/-! ## Readable nodes -/

/-- Whether a mapping is a node: the fields of a node are a mapping as well, but none of these
is called by a text. -/
def isNode (t : Tree) : Bool := (t.get "kind").isText

/-- Whether the tree is a list of trees of a form. -/
def isListOf (form : Tree → Bool) : Tree → Bool
  | .list items => items.all form
  | _ => false

/-- Whether the tree may stand under a field: it is a node, or a list of nodes with a first
one. -/
def isNodeOrNodes : Tree → Bool
  | .list items => !items.isEmpty && items.all isNode
  | t => isNode t

/-- Whether the tree is a mapping of fields. -/
def isFields : Tree → Bool
  | .map fields => fields.all fun e => isNodeOrNodes e.2
  | _ => false

/-- Whether a string, number or template carries what its kind promises. -/
def carriesValue (node : Tree) : Bool :=
  if isKind node "string" then (node.get "value").isText
  else if isKind node "number" then (node.get? "value").isSome
  else if isKind node "template_string" then
    isListOf Tree.isText (node.get "quasis") && (node.get "substitutions").isInt
  else true

/-- Whether all that readers take of a node is there in the form that they take it for. What is
no node is not read. -/
def isReadable (node : Tree) : Bool :=
  !isNode node ||
    ((node.get "text").isText && (node.get "line").isInt && isFields (node.get "fields") &&
      isListOf isNode (node.get "children") && carriesValue node)

/-- Every mapping of the tree is readable. -/
def AllReadable (t : Tree) : Prop := t.AllMappings (isReadable ·)

/-- What is attached to a node can be read. -/
structure AttachedReadable (found : Attached) : Prop where
  fields : ∀ e ∈ found.1, isNodeOrNodes e.2
  children : ∀ t ∈ found.2, isNode t
  underFields : ∀ e ∈ found.1, AllReadable e.2
  underChildren : ∀ t ∈ found.2, AllReadable t

theorem isNodeOrNodes_of_isNode {t : Tree} (h : isNode t) : isNodeOrNodes t := by
  cases t <;> first | exact h | cases h

namespace AttachedReadable

variable {found : Attached} {child : Tree}

theorem attach_child (h : AttachedReadable found) (hnode : isNode child)
    (hbelow : AllReadable child) : AttachedReadable (attach none child found) where
  fields := h.fields
  underFields := h.underFields
  children t ht := by
    rcases List.mem_append.mp ht with ht | ht
    · exact h.children t ht
    · exact List.mem_singleton.mp ht ▸ hnode
  underChildren t ht := by
    rcases List.mem_append.mp ht with ht | ht
    · exact h.underChildren t ht
    · exact List.mem_singleton.mp ht ▸ hbelow

theorem attach_field (h : AttachedReadable found) (name : String) (hnode : isNode child)
    (hbelow : AllReadable child) : AttachedReadable (attach (some name) child found) where
  children := h.children
  underChildren := h.underChildren
  fields e he := by
    rcases attachField_cases he with he | he | ⟨old, hold, several, heq, he⟩ |
      ⟨one, hone, hsingle, he⟩
    · exact h.fields e he
    · rw [he]
      exact isNodeOrNodes_of_isNode hnode
    · have hseveral := h.fields old hold
      rw [heq, isNodeOrNodes, Bool.and_eq_true_iff] at hseveral
      rw [he, isNodeOrNodes, List.all_append, hseveral.2]
      simp [hnode]
    · have hfirst : isNode one.2 := by
        have hone := h.fields one hone
        unfold isNodeOrNodes at hone
        split at hone
        · exact absurd ‹one.2 = _› (hsingle _)
        · exact hone
      rw [he, isNodeOrNodes]
      simp [hfirst, hnode]
  underFields e he := by
    rcases attachField_cases he with he | he | ⟨old, hold, several, heq, he⟩ | ⟨one, hone, -, he⟩
    · exact h.underFields e he
    · rw [he]
      exact hbelow
    · have hseveral := Tree.allMappings_list.mp (heq ▸ h.underFields old hold)
      rw [he, AllReadable, Tree.allMappings_list]
      intro t ht
      rcases List.mem_append.mp ht with ht | ht
      · exact hseveral t ht
      · exact List.mem_singleton.mp ht ▸ hbelow
    · rw [he, AllReadable, Tree.allMappings_list]
      intro t ht
      rcases List.mem_cons.mp ht with rfl | ht
      · exact h.underFields one hone
      · exact List.mem_singleton.mp ht ▸ hbelow

theorem attach (h : AttachedReadable found) (name : Option String) (hnode : isNode child)
    (hbelow : AllReadable child) : AttachedReadable (Cst.attach name child found) := by
  cases name with
  | none => exact h.attach_child hnode hbelow
  | some name => exact h.attach_field name hnode hbelow

end AttachedReadable

/-! ## Projecting -/

section Mapping

variable {source : Array Char} {n : Node} {found : Attached}

theorem isKind_mapping (kind : String) : isKind (mapping source n found) kind = (n.kind == kind) :=
  Tree.hasText_eq (Tree.hasText_iff.mpr (rfl : (mapping source n found).get "kind" = _)) kind

end Mapping

/-- Some node that many levels below a node, following the entries of object literals and the
items of arrays. -/
inductive Nested : Nat → Tree → Prop where
  | self (node : Tree) : Nested 0 node
  | entry {depth : Nat} {node : Tree} {entries : List (Text × Tree)} {e : Text × Tree} :
      objectEntries? node = some entries → e ∈ entries → Nested depth e.2 →
      Nested (depth + 1) node
  | item {depth : Nat} {node item : Tree} :
      isKind (unwrap node) "array" → item ∈ children (unwrap node) → Nested depth item →
      Nested (depth + 1) node

theorem isKind_of_objectEntries? {node : Tree} {entries : List (Text × Tree)}
    (h : objectEntries? node = some entries) : isKind (unwrap node) "object" := by
  rw [objectEntries?_eq] at h
  split at h
  · assumption
  · cases h

theorem isKind_of_objectEntries?_none {node : Tree} (h : objectEntries? node = none) :
    isKind (unwrap node) "object" = false := by
  rw [objectEntries?_eq] at h
  split at h
  · cases h
  · exact Bool.eq_false_iff.mpr ‹_›

/-- Only arrays and object literals need a depth. -/
theorem isSome_literal?_of_plain (depth : Nat) {node : Tree}
    (hobject : isKind (unwrap node) "object" = false)
    (harray : isKind (unwrap node) "array" = false) : (literal? (depth + 1) node).isSome := by
  simp only [literal?, hobject, harray, Bool.false_eq_true, if_false]
  repeat' split
  all_goals rfl

theorem valueOf?_eq_none_iff {depth : Nat} {node : Tree} :
    dialect.valueOf? depth node = none ↔ literal? depth node = none := Option.map_eq_none_iff

/-- A node has no literal at a depth if it is nested that deep, and only then. -/
theorem literal?_eq_none_iff {depth : Nat} {node : Tree} :
    literal? depth node = none ↔ Nested depth node := by
  induction depth generalizing node with
  | zero => exact ⟨fun _ => .self node, fun _ => rfl⟩
  | succ depth ih =>
    cases hentries : objectEntries? node with
    | some entries =>
      have hvalue : literal? (depth + 1) node = _ := evaluatesObjects depth node entries hentries
      rw [hvalue, Option.map_eq_none_iff, Dialect.evaluated?, mapM_eq_none_iff]
      simp only [Option.map_eq_none_iff, valueOf?_eq_none_iff, ih]
      constructor
      · rintro ⟨e, he, hbelow⟩
        exact .entry hentries he hbelow
      · rintro (_ | ⟨hentries', he, hbelow⟩ | ⟨harray, -, -⟩)
        · rw [hentries] at hentries'
          cases hentries'
          exact ⟨_, he, hbelow⟩
        · have hno : isKind (unwrap node) "array" = false :=
            Tree.hasText_of_ne (isKind_of_objectEntries? hentries) (by decide)
          rw [hno] at harray
          cases harray
    | none =>
      by_cases harray : isKind (unwrap node) "array"
      · rw [literal?_of_array harray, Option.map_eq_none_iff, mapM_eq_none_iff]
        simp only [valueOf?_eq_none_iff, ih]
        constructor
        · rintro ⟨item, hitem, hbelow⟩
          exact .item harray hitem hbelow
        · rintro (_ | ⟨hentries', -, -⟩ | ⟨-, hitem, hbelow⟩)
          · rw [hentries] at hentries'
            cases hentries'
          · exact ⟨_, hitem, hbelow⟩
      · have hsome := isSome_literal?_of_plain depth
          (isKind_of_objectEntries?_none hentries) (Bool.eq_false_iff.mpr harray)
        constructor
        · intro hnone
          rw [hnone] at hsome
          cases hsome
        · rintro (_ | ⟨hentries', -, -⟩ | ⟨harray', -, -⟩)
          · rw [hentries] at hentries'
            cases hentries'
          · exact absurd harray' harray

end EndpointCatalog.Cst
