/-
EndpointCatalog.Proofs.Projection — the mappings of a projected tree.

A projected node is a mapping with a kind, and it holds another mapping,
that of its fields, which is no node. `FieldsHoldNodes` says that below a
tree the fields of every node hold nodes and lists of nodes only, so that no
field passes for a kind; `fieldsHoldNodes_project` is the invariant of the
projection.

`plainTree` is the projection by the structure of the tree, in which form it
can be evaluated (`project_eq_plainTree`).

* `children_project`: under no field, a mapping has the named children that
  stand under none, in the order of the source.
* `fields_project`: the fields of the named children, in the order in which
  they first occur. Under a field stands the one child, or the list of
  several in the order of the source (`grouped`).

Children that are not named are found nowhere, and nothing below them is. The
induction is on the children from the last one, as they are attached from the
first one on.
-/
import EndpointCatalog.Cst.Projection
import EndpointCatalog.Proofs.Entries
import EndpointCatalog.Proofs.Literals
import EndpointCatalog.Proofs.Walk
import Mathlib.Data.List.Induction

namespace EndpointCatalog.Cst

/-- A mapping under whose keys stand mappings and lists only. -/
def HoldsNodes (fields : Entries) : Prop := ∀ e ∈ fields, e.2.isBranch

/-- If the mapping is a node, its fields hold nodes. -/
def NodeHoldsNodes (node : Tree) : Prop :=
  ∀ kind, node.get "kind" = .text kind →
    ∃ fields, node.get "fields" = .map fields ∧ HoldsNodes fields

/-- Below the tree, the fields of every node hold nodes. -/
def FieldsHoldNodes (t : Tree) : Prop := ∀ node ∈ t.mappings, NodeHoldsNodes node

/-- The same of what is attached to a node. -/
structure AttachedHoldsNodes (found : Attached) : Prop where
  fields : HoldsNodes found.1
  underFields : ∀ e ∈ found.1, FieldsHoldNodes e.2
  children : ∀ t ∈ found.2, FieldsHoldNodes t

theorem HoldsNodes.get_ne_text {fields : Entries} (h : HoldsNodes fields) (key : String)
    (t : Text) : (Tree.map fields).get key ≠ .text t := by
  show (Entries.get? key fields).getD .null ≠ .text t
  cases hget : Entries.get? key fields with
  | none => exact Tree.noConfusion
  | some value =>
    have hbranch := h _ (Entries.mem_of_get? hget)
    intro heq
    rw [Option.getD_some] at heq
    rw [heq] at hbranch
    cases hbranch

theorem fieldsHoldNodes_list {items : List Tree} :
    FieldsHoldNodes (.list items) ↔ ∀ t ∈ items, FieldsHoldNodes t := by
  constructor
  · intro h t ht node hnode
    exact h node (Tree.mem_listMappings.mpr ⟨t, ht, hnode⟩)
  · intro h node hnode
    obtain ⟨t, ht, hnode⟩ := Tree.mem_listMappings.mp hnode
    exact h t ht node hnode

/-! ## Attaching -/

/-- The value that a field has after a node is attached is the node, or a list with it. -/
theorem attachField_cases {name : String} {child : Tree} {fields : Entries} {e : Text × Tree}
    (h : e ∈ attachField name child fields) :
    e ∈ fields ∨ e.2 = child ∨
      (∃ old ∈ fields, ∃ several, old.2 = .list several ∧ e.2 = .list (several ++ [child])) ∨
      ∃ one ∈ fields, (∀ several, one.2 ≠ .list several) ∧ e.2 = .list [one.2, child] := by
  unfold attachField at h
  simp only at h
  split at h
  · rcases List.mem_append.mp h with h | h
    · exact .inl h
    · exact .inr (.inl (by rw [List.mem_singleton.mp h]))
  · rename_i several hget
    rcases Entries.mem_of_mem_insert h with rfl | h
    · exact .inr (.inr (.inl ⟨_, Entries.mem_of_get? hget, several, rfl, rfl⟩))
    · exact .inl h
  · rename_i one hsingle hget
    rcases Entries.mem_of_mem_insert h with rfl | h
    · exact .inr (.inr (.inr ⟨_, Entries.mem_of_get? hget, hsingle, rfl⟩))
    · exact .inl h

theorem AttachedHoldsNodes.attach {found : Attached} (h : AttachedHoldsNodes found)
    (name : Option String) {child : Tree} (hmap : child.isMap) (hchild : FieldsHoldNodes child) :
    AttachedHoldsNodes (attach name child found) := by
  have hbranch : child.isBranch := by
    cases child <;> first | rfl | cases hmap
  cases name with
  | none =>
    refine ⟨h.fields, h.underFields, fun t ht => ?_⟩
    rcases List.mem_append.mp ht with ht | ht
    · exact h.children t ht
    · exact List.mem_singleton.mp ht ▸ hchild
  | some name =>
    refine ⟨fun e he => ?_, fun e he => ?_, h.children⟩
    · rcases attachField_cases he with he | he | ⟨_, _, _, _, he⟩ | ⟨_, _, _, he⟩
      · exact h.fields e he
      · rw [he]
        exact hbranch
      · rw [he]
        rfl
      · rw [he]
        rfl
    · rcases attachField_cases he with he | he | ⟨old, hold, several, heq, he⟩ | ⟨one, hone, -, he⟩
      · exact h.underFields e he
      · rw [he]
        exact hchild
      · have hseveral := fieldsHoldNodes_list.mp (heq ▸ h.underFields old hold)
        rw [he, fieldsHoldNodes_list]
        intro t ht
        rcases List.mem_append.mp ht with ht | ht
        · exact hseveral t ht
        · exact List.mem_singleton.mp ht ▸ hchild
      · rw [he, fieldsHoldNodes_list]
        intro t ht
        rcases List.mem_cons.mp ht with rfl | ht
        · exact h.underFields one hone
        · exact List.mem_singleton.mp ht ▸ hchild

/-! ## Projecting -/

/-- What nodes carry beside their children has no mappings below it. -/
theorem mappings_of_mem_extras {source : Array Char} {n : Node} {e : String × Tree}
    (h : e ∈ extras source n) : e.2.mappings = [] := by
  unfold extras at h
  split at h
  · rw [List.mem_singleton.mp h]
    rfl
  · rw [List.mem_singleton.mp h]
    unfold Tree.ofLiteral
    split <;> rfl
  · rcases List.mem_cons.mp h with rfl | h
    · refine List.eq_nil_iff_forall_not_mem.mpr fun node hnode => ?_
      obtain ⟨t, ht, hnode⟩ := Tree.mem_listMappings.mp hnode
      obtain ⟨stretch, -, rfl⟩ := List.mem_map.mp ht
      cases hnode
    · rw [List.mem_singleton.mp h]
      rfl
  · cases h

theorem fieldsHoldNodes_mapping {source : Array Char} {n : Node} {found : Attached}
    (h : AttachedHoldsNodes found) : FieldsHoldNodes (mapping source n found) := by
  intro node hnode
  rcases List.mem_cons.mp hnode with rfl | hnode
  · exact fun _ _ => ⟨found.1, rfl, h.fields⟩
  · obtain ⟨e, he, hnode⟩ := Tree.mem_entryMappings.mp hnode
    obtain ⟨plain, hplain, rfl⟩ := List.mem_map.mp he
    rcases List.mem_append.mp hplain with hplain | hextra
    · simp only [List.mem_cons, List.not_mem_nil, or_false] at hplain
      rcases hplain with rfl | rfl | rfl | rfl | rfl
      · cases hnode
      · cases hnode
      · cases hnode
      · rcases List.mem_cons.mp hnode with rfl | hnode
        · exact fun kind hkind => absurd hkind (h.fields.get_ne_text "kind" kind)
        · obtain ⟨e, he, hnode⟩ := Tree.mem_entryMappings.mp hnode
          exact h.underFields e he node hnode
      · exact fieldsHoldNodes_list.mpr h.children node hnode
    · rw [mappings_of_mem_extras hextra] at hnode
      cases hnode

theorem attachedHoldsNodes_projectAll {source : Array Char}
    {children : List (Option String × Node)} {found : Attached} (h : AttachedHoldsNodes found) :
    AttachedHoldsNodes (projectAll source children found) := by
  induction children, found using projectAll.induct source with
  | case1 found =>
    rw [projectAll]
    exact h
  | case2 name l cs rest found hnamed ihChildren ihRest =>
    rw [projectAll, if_pos hnamed]
    have hchildren : AttachedHoldsNodes (projectAll source cs ([], [])) :=
      ihChildren ⟨fun e he => absurd he List.not_mem_nil, fun e he => absurd he List.not_mem_nil,
        fun t ht => absurd ht List.not_mem_nil⟩
    exact ihRest (h.attach name rfl (fieldsHoldNodes_mapping hchildren))
  | case3 name l cs rest found hnamed ihRest =>
    rw [projectAll, if_neg hnamed]
    exact ihRest h

/-- In a projected tree the fields of every node hold nodes. -/
theorem fieldsHoldNodes_project (source : Array Char) (n : Node) :
    FieldsHoldNodes (project source n) := by
  obtain ⟨l, cs⟩ := n
  refine fieldsHoldNodes_mapping (attachedHoldsNodes_projectAll ⟨?_, ?_, ?_⟩)
  · exact fun e he => absurd he List.not_mem_nil
  · exact fun e he => absurd he List.not_mem_nil
  · exact fun t ht => absurd ht List.not_mem_nil

/-! ## By structure -/

mutual

/-- A concrete syntax tree as a plain tree. -/
def plainTree (source : Array Char) : Node → Tree
  | .mk l cs => mapping source (.mk l cs) (attachPlainAll source cs ([], []))

/-- Attaches the named ones of some nodes. -/
def attachPlainAll (source : Array Char) : List (Option String × Node) → Attached → Attached
  | [], found => found
  | child :: rest, found => attachPlainAll source rest (attachPlain source child found)

/-- Attaches a node if it is named. -/
def attachPlain (source : Array Char) : Option String × Node → Attached → Attached
  | (name, n), found =>
    if n.label.isNamed then attach name (plainTree source n) found else found

end

theorem projectAll_eq_attachPlainAll (source : Array Char) (children : List (Option String × Node))
    (found : Attached) :
    projectAll source children found = attachPlainAll source children found := by
  induction children, found using projectAll.induct source with
  | case1 found => rw [projectAll, attachPlainAll]
  | case2 name l cs rest found hnamed ihChildren ihRest =>
    rw [projectAll, if_pos hnamed, attachPlainAll, attachPlain, Node.label, if_pos hnamed, ihRest,
      ihChildren, plainTree]
  | case3 name l cs rest found hnamed ihRest =>
    rw [projectAll, if_neg hnamed, attachPlainAll, attachPlain, Node.label, if_neg hnamed, ihRest]

theorem project_eq_plainTree (source : Array Char) (n : Node) :
    project source n = plainTree source n := by
  obtain ⟨l, cs⟩ := n
  rw [project, plainTree, projectAll_eq_attachPlainAll]

/-! ## Children in a mapping -/

section Children

variable {source : Array Char}

/-- The named children that stand under a field, or under none, as trees. -/
def keptUnder (source : Array Char) (field : Option String)
    (children : List (Option String × Node)) : List Tree :=
  (children.filter fun c => c.2.label.isNamed && c.1 == field).map fun c => project source c.2

/-- The fields of the named children, each at its first occurrence. -/
def fieldNames (children : List (Option String × Node)) : List String :=
  ((children.filter fun c => c.2.label.isNamed).filterMap Prod.fst).eraseDups

/-- Trees as one value: nothing, one of them, or a list of several. -/
def grouped : List Tree → Option Tree
  | [] => none
  | [one] => some one
  | several => some (.list several)

/-- One more tree beside what stands under a field. -/
def joined (child : Tree) : Option Tree → Tree
  | none => child
  | some (.list several) => .list (several ++ [child])
  | some one => .list [one, child]

theorem isMap_project (n : Node) : (project source n).isMap := by
  obtain ⟨l, cs⟩ := n
  rfl

theorem isMap_of_mem_keptUnder {field : Option String} {children : List (Option String × Node)}
    {t : Tree}
    (h : t ∈ keptUnder source field children) : t.isMap := by
  obtain ⟨c, -, rfl⟩ := List.mem_map.mp h
  exact isMap_project c.2

theorem keptUnder_concat (field : Option String) (children : List (Option String × Node))
    (c : Option String × Node) :
    keptUnder source field (children ++ [c]) = keptUnder source field children ++
      if c.2.label.isNamed && c.1 == field then [project source c.2] else [] := by
  rw [keptUnder, List.filter_append, List.map_append, ← keptUnder, List.filter_singleton]
  cases c.2.label.isNamed && c.1 == field <;> rfl

theorem eraseDups_concat (names : List String) (name : String) :
    (names ++ [name]).eraseDups = names.eraseDups ++ if name ∈ names then [] else [name] := by
  rw [List.eraseDups_append]
  by_cases h : name ∈ names <;> simp [List.removeAll, List.eraseDups_cons, h]

theorem fieldNames_concat (children : List (Option String × Node)) (c : Option String × Node) :
    fieldNames (children ++ [c]) = if c.2.label.isNamed then
      match c.1 with
      | none => fieldNames children
      | some name =>
        fieldNames children ++ if name ∈ fieldNames children then [] else [name]
      else fieldNames children := by
  rw [fieldNames, List.filter_append, List.filterMap_append]
  cases hnamed : c.2.label.isNamed with
  | false => simp [hnamed, fieldNames]
  | true =>
    have hfilter : [c].filter (fun c => c.2.label.isNamed) = [c] := by simp [hnamed]
    rw [hfilter, if_pos rfl]
    cases hfield : c.1 with
    | none => simp [hfield, fieldNames]
    | some name =>
      rw [List.filterMap_cons_some hfield, List.filterMap_nil, eraseDups_concat]
      simp only [fieldNames, List.mem_eraseDups]

/-- One more tree makes a list of one, and a longer list of a list. -/
theorem grouped_concat {trees : List Tree} (hmaps : ∀ t ∈ trees, t.isMap) (t : Tree) :
    grouped (trees ++ [t]) = some (joined t (grouped trees)) := by
  match trees with
  | [] => rfl
  | [one] =>
    have hone : one.isMap := hmaps one (.head [])
    cases one <;> first | rfl | cases hone
  | _ :: _ :: _ => rfl

/-! ## Attaching one more child -/

theorem attachPlainAll_append (before after : List (Option String × Node)) (found : Attached) :
    attachPlainAll source (before ++ after) found =
      attachPlainAll source after (attachPlainAll source before found) := by
  induction before generalizing found with
  | nil => rfl
  | cons c cs ih => rw [List.cons_append, attachPlainAll, attachPlainAll, ih]

theorem attachPlainAll_concat (children : List (Option String × Node))
    (c : Option String × Node) (found : Attached) :
    attachPlainAll source (children ++ [c]) found =
      if c.2.label.isNamed then
        attach c.1 (project source c.2) (attachPlainAll source children found)
      else attachPlainAll source children found := by
  rw [attachPlainAll_append, attachPlainAll, attachPlainAll, attachPlain, project_eq_plainTree]

theorem attachField_eq (name : String) (child : Tree) (fields : Entries) :
    attachField name child fields = match Entries.get? (Text.ofString name) fields with
      | none => fields ++ [(Text.ofString name, child)]
      | some old => Entries.insert (Text.ofString name) (joined child (some old)) fields := by
  unfold attachField
  simp only
  cases Entries.get? (Text.ofString name) fields with
  | none => rfl
  | some old => cases old <;> rfl

theorem attachField_cons (name : String) (child : Tree) (key : Text) (old : Tree)
    (fields : Entries) : attachField name child ((key, old) :: fields) =
      if key = Text.ofString name then (key, joined child (some old)) :: fields
      else (key, old) :: attachField name child fields := by
  rw [attachField_eq, attachField_eq, Entries.get?]
  by_cases hkey : key = Text.ofString name
  · simp only [if_pos hkey, Entries.insert]
  · rw [if_neg hkey, if_neg hkey]
    cases Entries.get? (Text.ofString name) fields with
    | none => rfl
    | some _ => simp only [Entries.insert, if_neg hkey]

theorem get?_attachField (name : String) (child : Tree) (fields : Entries) (key : Text) :
    Entries.get? key (attachField name child fields) =
      if Text.ofString name = key then
        some (joined child (Entries.get? (Text.ofString name) fields))
      else Entries.get? key fields := by
  rw [attachField_eq]
  cases hold : Entries.get? (Text.ofString name) fields with
  | none =>
    rw [Entries.get?_append, Entries.get?, Entries.get?]
    split
    · rename_i hkey
      rw [← hkey, hold, Option.none_or]
      rfl
    · rw [Option.or_none]
  | some old => rw [Entries.get?_insert]

theorem keys_attachField_of_mem {name : String} {fields : Entries}
    (h : Text.ofString name ∈ Entries.keys fields) (child : Tree) :
    Entries.keys (attachField name child fields) = Entries.keys fields := by
  obtain ⟨old, hold⟩ := Entries.mem_keys_iff.mp h
  rw [attachField_eq, hold]
  exact Entries.keys_insert_of_mem h _

theorem keys_attachField_of_notMem {name : String} {fields : Entries}
    (h : Text.ofString name ∉ Entries.keys fields) (child : Tree) :
    Entries.keys (attachField name child fields) =
      Entries.keys fields ++ [Text.ofString name] := by
  rw [attachField_eq]
  cases hold : Entries.get? (Text.ofString name) fields with
  | none =>
    rw [Entries.keys, List.map_append]
    rfl
  | some old => exact absurd (Entries.mem_keys_iff.mpr ⟨old, hold⟩) h

/-! ## All children -/

theorem children_attachPlainAll (children : List (Option String × Node)) :
    (attachPlainAll source children ([], [])).2 = keptUnder source none children := by
  induction children using List.reverseRecOn with
  | nil => rfl
  | append_singleton children c ih =>
    rw [attachPlainAll_concat, keptUnder_concat, ← ih]
    cases c.2.label.isNamed
    · exact (List.append_nil _).symm
    · cases c.1 with
      | none => rfl
      | some name => exact (List.append_nil _).symm

theorem get?_attachPlainAll (children : List (Option String × Node)) (name : String) :
    Entries.get? (Text.ofString name) (attachPlainAll source children ([], [])).1 =
      grouped (keptUnder source (some name) children) := by
  induction children using List.reverseRecOn with
  | nil => rfl
  | append_singleton children c ih =>
    rw [attachPlainAll_concat, keptUnder_concat]
    cases hnamed : c.2.label.isNamed
    · rw [if_neg Bool.false_ne_true, ih, Bool.false_and, if_neg Bool.false_ne_true, List.append_nil]
    rw [if_pos rfl, Bool.true_and]
    cases hfield : c.1 with
    | none => exact ih.trans (congrArg grouped (List.append_nil _).symm)
    | some field =>
      rw [attach, get?_attachField]
      by_cases hname : field = name
      · rw [hname, if_pos rfl, ih, if_pos (beq_self_eq_true _),
          grouped_concat fun t ht => isMap_of_mem_keptUnder ht]
      · have hkey : ¬ Text.ofString field = Text.ofString name := fun h =>
          hname (Text.ofString_injective h)
        have hother : ¬ (some field == some name) = true := by simpa using hname
        rw [if_neg hkey, ih, if_neg hother, List.append_nil]

theorem keys_attachPlainAll (children : List (Option String × Node)) :
    Entries.keys (attachPlainAll source children ([], [])).1 =
      (fieldNames children).map Text.ofString := by
  induction children using List.reverseRecOn with
  | nil => rfl
  | append_singleton children c ih =>
    rw [attachPlainAll_concat, fieldNames_concat]
    cases hnamed : c.2.label.isNamed
    · rw [if_neg Bool.false_ne_true, if_neg Bool.false_ne_true, ih]
    rw [if_pos rfl, if_pos rfl]
    cases hfield : c.1 with
    | none => exact ih
    | some field =>
      have hmem : Text.ofString field ∈
          Entries.keys (attachPlainAll source children ([], [])).1 ↔ field ∈ fieldNames children := by
        rw [ih]
        exact List.mem_map_of_injective fun _ _ => Text.ofString_injective
      rw [attach]
      by_cases h : field ∈ fieldNames children
      · simp only [if_pos h, keys_attachField_of_mem (hmem.mpr h), ih, List.append_nil]
      · simp only [if_neg h, keys_attachField_of_notMem (mt hmem.mp h), ih, List.map_append,
          List.map_cons, List.map_nil]

/-- The children that stand under no field are found in the order of the source. -/
theorem children_project (n : Node) :
    (project source n).get "children" = .list (keptUnder source none n.children) := by
  obtain ⟨l, cs⟩ := n
  rw [project_eq_plainTree, plainTree, Node.children, ← children_attachPlainAll]
  rfl

/-- Under a field stands the one child, or the list of several in the order of the source. -/
theorem fields_project (n : Node) : ∃ fields : Entries,
    (project source n).get "fields" = .map fields ∧
      Entries.keys fields = (fieldNames n.children).map Text.ofString ∧
      ∀ name : String, Entries.get? (Text.ofString name) fields =
        grouped (keptUnder source (some name) n.children) := by
  obtain ⟨l, cs⟩ := n
  refine ⟨(attachPlainAll source cs ([], [])).1, ?_, keys_attachPlainAll cs,
    get?_attachPlainAll cs⟩
  rw [project_eq_plainTree, plainTree]
  rfl

end Children

end EndpointCatalog.Cst
