/-
EndpointCatalog.Cst.Conversion — concrete syntax trees as plain trees, with a
cursor and without recursion.

A cursor stands at one node of a tree. It can move to the first child, to the
next sibling and back to the parent, and it knows how deep it stands. Here it
passes through a whole tree. For each named node that it comes to a mapping is
begun and at once attached to the one of the parent; it is filled while the
cursor is below the node. What is not named is passed over with all that is
below it.

* The place of a node is the way down to it: at each step the number of
  children in front of the one that the way goes on in.
* Mappings are known by their numbers, in the order in which they are begun,
  and a mapping refers to others by their numbers (`Draft`).
* `parents` are the mappings of the nodes above the cursor.
* `written` is the tree that the mappings amount to at the end.
-/
import EndpointCatalog.Cst.Projection
import EndpointCatalog.Loop

namespace EndpointCatalog.Cst

/-! ## Moving about -/

/-- A node and the field that it stands under. -/
abbrev Child := Option String × Node

/-- A cursor: the node that it stands at, and the nodes above, the nearest first, each with the
number of the child that the way goes on in. -/
structure Cursor where
  child : Child
  above : List (Child × Nat)

namespace Cursor

/-- A cursor at the root of a tree. -/
def ofRoot (root : Node) : Cursor := ⟨(none, root), []⟩

/-- The node that the cursor stands at. -/
def node (c : Cursor) : Node := c.child.2

/-- The field that the node stands under. -/
def fieldName (c : Cursor) : Option String := c.child.1

/-- The number of nodes above the cursor. -/
def depth (c : Cursor) : Nat := c.above.length

/-- The place of the node. -/
def place (c : Cursor) : List Nat := (c.above.map Prod.snd).reverse

/-- Moves to the first child, if there is one. -/
def firstChild? (c : Cursor) : Option Cursor :=
  match c.node.children with
  | [] => none
  | first :: _ => some ⟨first, (c.child, 0) :: c.above⟩

/-- Moves to the next sibling, if there is one. -/
def nextSibling? (c : Cursor) : Option Cursor :=
  match c.above with
  | [] => none
  | (parent, i) :: above =>
    (parent.2.children[i + 1]?).map fun next => ⟨next, (parent, i + 1) :: above⟩

/-- Moves to the parent; at the root the cursor stays. -/
def parent (c : Cursor) : Cursor :=
  match c.above with
  | [] => c
  | (parent, _) :: above => ⟨parent, above⟩

end Cursor

/-! ## Mappings that are being filled -/

/-- What stands under a field: one mapping, or a list of several. -/
inductive Slot where
  | one (number : Nat)
  | several (numbers : List Nat)

/-- Puts a mapping behind those under a field. -/
def Slot.add (number : Nat) : Slot → Slot
  | .one first => .several [first, number]
  | .several numbers => .several (numbers ++ [number])

/-- Puts a mapping under a field. -/
def linkField (name : String) (number : Nat) : List (String × Slot) → List (String × Slot)
  | [] => [(name, .one number)]
  | (key, slot) :: rest =>
    if key = name then (key, slot.add number) :: rest
    else (key, slot) :: linkField name number rest

/-- The mappings under fields, and the other ones below. -/
structure Links where
  fields : List (String × Slot) := []
  children : List Nat := []

/-- Attaches a mapping. -/
def Links.attach (name : Option String) (number : Nat) (links : Links) : Links :=
  match name with
  | some name => { links with fields := linkField name number links.fields }
  | none => { links with children := links.children ++ [number] }

/-- A mapping that is being filled. -/
structure Draft where
  /-- The place of the node that it stands for. -/
  place : List Nat
  node : Node
  links : Links := {}

/-- Attaches a mapping to another one. -/
def Draft.attach (name : Option String) (number : Nat) (draft : Draft) : Draft :=
  { draft with links := draft.links.attach name number }

/-- What stands under a field, as a tree. -/
def Slot.tree (ofNumber : Nat → Tree) : Slot → Tree
  | .one number => ofNumber number
  | .several numbers => .list (numbers.map ofNumber)

/-- What is attached to a mapping, as trees. -/
def Links.trees (ofNumber : Nat → Tree) (links : Links) : Attached :=
  (links.fields.map fun (name, slot) => (Text.ofString name, slot.tree ofNumber),
    links.children.map ofNumber)

/-- The tree that a mapping amounts to, down to some depth. -/
def treeOf (source : Array Char) (drafts : List Draft) : Nat → Nat → Tree
  | 0, _ => .null
  | depth + 1, number =>
    match drafts[number]? with
    | none => .null
    | some draft => mapping source draft.node (draft.links.trees (treeOf source drafts depth))

/-- The tree that the first mapping amounts to. -/
def written (source : Array Char) (drafts : List Draft) : Tree :=
  treeOf source drafts drafts.length 0

/-! ## The way of the cursor -/

/-- The state of the conversion. -/
structure Conversion where
  cursor : Cursor
  /-- Whether the node at the cursor is still to be read; else the cursor moves on from it. -/
  isArriving : Bool
  /-- The mapping of the node above the cursor. -/
  parent : Nat
  /-- The mappings of the nodes above that one, the nearest first. -/
  outer : List Nat
  drafts : List Draft

namespace Conversion

/-- The mappings of the nodes above the cursor, the nearest first. -/
def parents (s : Conversion) : List Nat := s.parent :: s.outer

/-- Begins the mapping of the node at the cursor and attaches it to the one of the parent. -/
def begun (s : Conversion) : List Draft :=
  s.drafts.modify s.parent (Draft.attach s.cursor.fieldName s.drafts.length) ++
    [{ place := s.cursor.place, node := s.cursor.node }]

/-- Reads the node at the cursor, and moves below it if it is named and has children. -/
def arrive (s : Conversion) : Conversion :=
  if s.cursor.node.label.isNamed then
    match s.cursor.firstChild? with
    | some cursor => ⟨cursor, true, s.drafts.length, s.parents, s.begun⟩
    | none => { s with isArriving := false, drafts := s.begun }
  else { s with isArriving := false }

/-- Moves on to the next sibling, or else up to the parent, unless that one is the root. -/
def moveOn? (s : Conversion) : Option Conversion :=
  match s.cursor.nextSibling? with
  | some cursor => some { s with cursor := cursor, isArriving := true }
  | none =>
    match s.outer with
    | [] => none
    | parent :: outer =>
      some { s with cursor := s.cursor.parent, parent := parent, outer := outer }

/-- One round of the conversion. -/
def round (source : Array Char) (s : Conversion) : Conversion ⊕ Tree :=
  if s.isArriving then .inl s.arrive
  else match s.moveOn? with
    | some next => .inl next
    | none => .inr (written source s.drafts)

/-- What a round may do. -/
inductive Step (s : Conversion) : Conversion → Prop where
  | down {first : Child} {rest : List Child} :
      s.isArriving = true → s.cursor.node.label.isNamed = true →
      s.cursor.node.children = first :: rest →
      Step s ⟨⟨first, (s.cursor.child, 0) :: s.cursor.above⟩, true, s.drafts.length, s.parents,
        s.begun⟩
  | leaf : s.isArriving = true → s.cursor.node.label.isNamed = true →
      s.cursor.node.children = [] → Step s { s with isArriving := false, drafts := s.begun }
  | pass : s.isArriving = true → s.cursor.node.label.isNamed = false →
      Step s { s with isArriving := false }
  | next {cursor : Cursor} :
      s.isArriving = false → s.cursor.nextSibling? = some cursor →
      Step s { s with cursor := cursor, isArriving := true }
  | up {parent : Nat} {outer : List Nat} :
      s.isArriving = false → s.cursor.nextSibling? = none → s.outer = parent :: outer →
      Step s { s with cursor := s.cursor.parent, parent := parent, outer := outer }

theorem step_of_round {source : Array Char} {s t : Conversion} (h : round source s = .inl t) :
    Step s t := by
  unfold round at h
  split at h
  · rename_i harriving
    cases h
    unfold arrive
    split
    · rename_i hnamed
      unfold Cursor.firstChild?
      cases hchildren : s.cursor.node.children with
      | nil => exact .leaf harriving hnamed hchildren
      | cons first rest => exact .down harriving hnamed hchildren
    · rename_i hunnamed
      exact .pass harriving (Bool.eq_false_iff.mpr hunnamed)
  · rename_i hleaving
    split at h
    · rename_i next hnext
      cases h
      unfold moveOn? at hnext
      split at hnext
      · rename_i cursor hcursor
        cases hnext
        exact .next (Bool.eq_false_iff.mpr hleaving) hcursor
      · rename_i hlast
        split at hnext
        · cases hnext
        · rename_i parent outer houter
          cases hnext
          exact .up (Bool.eq_false_iff.mpr hleaving) hlast houter
    · cases h

/-- The conversion ends when the cursor leaves the last child of the root. -/
theorem last_of_round {source : Array Char} {s : Conversion} {t : Tree}
    (h : round source s = .inr t) :
    s.isArriving = false ∧ s.cursor.nextSibling? = none ∧ s.outer = [] ∧
      t = written source s.drafts := by
  unfold round at h
  split at h
  · cases h
  · rename_i hleaving
    split at h
    · cases h
    · rename_i hlast
      cases h
      unfold moveOn? at hlast
      split at hlast
      · cases hlast
      · rename_i hsibling
        split at hlast
        · rename_i houter
          exact ⟨Bool.eq_false_iff.mpr hleaving, hsibling, houter, rfl⟩
        · cases hlast

/-! ## Its end -/

/-- What is still to be read of the nodes above a cursor. -/
noncomputable def ahead : List (Child × Nat) → Nat
  | [] => 0
  | (up, i) :: above => sizeOf (up.2.children.drop (i + 1)) + ahead above

/-- A bound on the rounds to come. -/
noncomputable def pending (s : Conversion) : Nat :=
  ahead s.cursor.above + s.outer.length + if s.isArriving then sizeOf s.cursor.child else 0

theorem sizeOf_children_lt (child : Child) : sizeOf child.2.children < sizeOf child := by
  obtain ⟨name, l, cs⟩ := child
  simp only [Node.children, Prod.mk.sizeOf_spec, Node.mk.sizeOf_spec]
  omega

theorem ahead_nextSibling? {c next : Cursor} (h : c.nextSibling? = some next) :
    ahead next.above + sizeOf next.child < ahead c.above := by
  obtain ⟨child, above⟩ := c
  cases above with
  | nil => cases h
  | cons up above =>
    obtain ⟨parent, i⟩ := up
    obtain ⟨sibling, hsibling, rfl⟩ := Option.map_eq_some_iff.mp h
    obtain ⟨hlt, rfl⟩ := List.getElem?_eq_some_iff.mp hsibling
    simp only [ahead, List.drop_eq_getElem_cons hlt, List.cons.sizeOf_spec]
    omega

theorem ahead_parent_le (c : Cursor) : ahead c.parent.above ≤ ahead c.above := by
  obtain ⟨child, above⟩ := c
  cases above with
  | nil => exact Nat.le_refl _
  | cons up above => exact Nat.le_add_left _ _

theorem Step.pending_lt {s t : Conversion} (h : Step s t) : t.pending < s.pending := by
  have hsize := sizeOf_children_lt s.cursor.child
  cases h with
  | @down first rest harriving _ hchildren =>
    have hchildren : s.cursor.child.2.children = first :: rest := hchildren
    simp only [hchildren, List.cons.sizeOf_spec] at hsize
    simp only [pending, harriving, if_true, ahead, hchildren, parents, Nat.zero_add,
      List.drop_succ_cons, List.drop_zero, List.length_cons]
    omega
  | leaf harriving | pass harriving =>
    simp only [pending, harriving, if_true, Bool.false_eq_true, if_false]
    omega
  | next hleaving hnext =>
    have := ahead_nextSibling? hnext
    simp only [pending, hleaving, if_true, Bool.false_eq_true, if_false]
    omega
  | up hleaving _ houter =>
    have := ahead_parent_le s.cursor
    simp only [pending, hleaving, houter, List.length_cons, Bool.false_eq_true, if_false]
    omega

end Conversion

/-- The conversion of a tree whose source is given. -/
def conversion (source : Array Char) : Loop Conversion Tree where
  round := Conversion.round source
  wellFounded := Loop.wellFounded_of_pending Conversion.pending fun h =>
    (Conversion.step_of_round h).pending_lt

/-- The conversion at the first child of a root, if there is one. -/
def Conversion.ofRoot? (root : Node) : Option Conversion :=
  (Cursor.ofRoot root).firstChild?.map fun cursor =>
    ⟨cursor, true, 0, [], [{ place := [], node := root }]⟩

/-- A concrete syntax tree as a plain tree. -/
def convert (source : Array Char) (root : Node) : Tree :=
  match Conversion.ofRoot? root with
  | some start => (conversion source).run start
  | none => written source [{ place := [], node := root }]

end EndpointCatalog.Cst
