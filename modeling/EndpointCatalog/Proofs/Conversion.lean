/-
EndpointCatalog.Proofs.Conversion — the way of the cursor gives the projected
tree.

Mappings are begun in pre-order, so that those of a node and of what is kept
below it have numbers without a gap: from its own up to some `stop` (`Shows`).
They are not touched any more once the cursor has left the node. `Fills` is
the same of the first children of a node whose mapping is not complete yet.

`Valid` is the invariant of the rounds: each mapping in `parents` stands for
the node above the cursor that is as deep (`Open`), and it is filled with the
children in front of the way down.

Mappings are begun in the order of the places of their nodes. `Ordered` is a
second invariant: the places that have a mapping are in order, and they lie in
front of the place that the cursor comes to next (`bound`).

* `conversion_projects`: the conversion ends, with the projected tree. All the
  way there are as many open mappings as nodes above the cursor, the last one
  is the mapping of the cursor's parent, and no node has two.
-/
import EndpointCatalog.Cst.Conversion
import EndpointCatalog.Proofs.Projection
import Mathlib.Data.List.Lex

namespace EndpointCatalog.Cst

/-! ## Attached mappings as trees -/

section Trees

variable {f : Nat → Tree} (hf : ∀ number items, f number ≠ .list items)
include hf

theorem tree_add (number : Nat) (slot : Slot) :
    (slot.add number).tree f = joined (f number) (some (slot.tree f)) := by
  cases slot with
  | one first =>
    have hfirst := hf first
    show Tree.list [f first, f number] = joined (f number) (some (f first))
    cases hcase : f first with
    | list items => exact absurd hcase (hfirst items)
    | _ => rfl
  | several numbers =>
    rw [Slot.add, Slot.tree, List.map_append]
    rfl

theorem map_linkField (name : String) (number : Nat) (fields : List (String × Slot)) :
    ((linkField name number fields).map fun (key, slot) => (Text.ofString key, slot.tree f)) =
      attachField name (f number)
        (fields.map fun (key, slot) => (Text.ofString key, slot.tree f)) := by
  induction fields with
  | nil => rfl
  | cons e rest ih =>
    obtain ⟨key, slot⟩ := e
    rw [linkField, List.map_cons, attachField_cons]
    by_cases hkey : key = name
    · rw [if_pos hkey, if_pos (congrArg _ hkey), ← tree_add hf]
      rfl
    · rw [if_neg hkey, if_neg fun h => hkey (Text.ofString_injective h), List.map_cons, ih]

theorem trees_attach (name : Option String) (number : Nat) (links : Links) :
    (links.attach name number).trees f = attach name (f number) (links.trees f) := by
  cases name with
  | none => simp only [Links.attach, Links.trees, attach, List.map_append, List.map_cons,
      List.map_nil]
  | some name => simp only [Links.attach, Links.trees, attach, map_linkField hf]

end Trees

theorem treeOf_ne_list (source : Array Char) (drafts : List Draft) (depth number : Nat)
    (items : List Tree) : treeOf source drafts depth number ≠ .list items := by
  cases depth with
  | zero => exact Tree.noConfusion
  | succ depth =>
    rw [treeOf]
    split <;> exact Tree.noConfusion

/-! ## Complete mappings -/

mutual

/-- The mappings from a number up to `stop` are those of a node and of what is kept below it. -/
inductive Shows (drafts : List Draft) : Nat → Nat → Node → Prop where
  | node {number stop : Nat} {draft : Draft} :
      drafts[number]? = some draft →
      Fills drafts (number + 1) stop draft.node.children draft.links →
      Shows drafts number stop draft.node

/-- The mappings from `start` up to `stop` are those of some children and of what is kept below
them, and these are what is attached. -/
inductive Fills (drafts : List Draft) : Nat → Nat → List Child → Links → Prop where
  | nil {start : Nat} : Fills drafts start start [] {}
  | kept {start number stop : Nat} {before : List Child} {child : Child} {links : Links} :
      Fills drafts start number before links → child.2.label.isNamed = true →
      Shows drafts number stop child.2 →
      Fills drafts start stop (before ++ [child]) (links.attach child.1 number)
  | dropped {start stop : Nat} {before : List Child} {child : Child} {links : Links} :
      Fills drafts start stop before links → child.2.label.isNamed = false →
      Fills drafts start stop (before ++ [child]) links

end

mutual

theorem Shows.lt {drafts : List Draft} {number stop : Nat} {n : Node} :
    Shows drafts number stop n → number < stop
  | .node _ hfills => hfills.le

theorem Fills.le {drafts : List Draft} {start stop : Nat} {children : List Child}
    {links : Links} : Fills drafts start stop children links → start ≤ stop
  | .nil => Nat.le_refl _
  | .kept hbefore _ hshows => Nat.le_trans hbefore.le (Nat.le_of_lt hshows.lt)
  | .dropped hbefore _ => hbefore.le

end

mutual

/-- What the mappings of a node show does not change with others. -/
theorem Shows.congr {drafts others : List Draft} {number stop : Nat} {n : Node} :
    Shows drafts number stop n →
    (∀ j, number ≤ j → j < stop → others[j]? = drafts[j]?) → Shows others number stop n
  | .node hdraft hfills, hsame =>
    .node ((hsame _ (Nat.le_refl _) hfills.le).trans hdraft)
      (hfills.congr fun j hj hlt => hsame j (Nat.le_of_succ_le hj) hlt)

theorem Fills.congr {drafts others : List Draft} {start stop : Nat} {children : List Child}
    {links : Links} : Fills drafts start stop children links →
    (∀ j, start ≤ j → j < stop → others[j]? = drafts[j]?) →
    Fills others start stop children links
  | .nil, _ => .nil
  | .kept hbefore hnamed hshows, hsame =>
    .kept (hbefore.congr fun j hj hlt => hsame j hj (Nat.lt_trans hlt hshows.lt)) hnamed
      (hshows.congr fun j hj hlt => hsame j (Nat.le_trans hbefore.le hj) hlt)
  | .dropped hbefore hunnamed, hsame => .dropped (hbefore.congr hsame) hunnamed

end

mutual

/-- The mappings of a node amount to its projection. -/
theorem Shows.treeOf_eq {source : Array Char} {drafts : List Draft} {number stop : Nat}
    {n : Node} : ∀ {depth : Nat}, Shows drafts number stop n → stop ≤ number + depth →
    treeOf source drafts depth number = project source n
  | 0, .node _ hfills, hdepth => absurd hfills.le (Nat.not_lt_of_le hdepth)
  | depth + 1, @Shows.node _ _ _ draft hdraft hfills, hdepth => by
    have hbelow : draft.links.trees (treeOf source drafts depth) = _ := hfills.trees_eq (by omega)
    rw [treeOf, hdraft, project_eq_plainTree]
    simp only
    rw [hbelow]
    cases draft.node
    rfl

theorem Fills.trees_eq {source : Array Char} {drafts : List Draft} {start stop depth : Nat}
    {children : List Child} {links : Links} : Fills drafts start stop children links →
    stop ≤ start + depth →
    links.trees (treeOf source drafts depth) = attachPlainAll source children ([], [])
  | .nil, _ => rfl
  | .kept hbefore hnamed hshows, hdepth => by
    have hlt := hshows.lt
    have hle := hbefore.le
    rw [trees_attach (treeOf_ne_list source drafts depth), hbefore.trees_eq (by omega),
      hshows.treeOf_eq (by omega), attachPlainAll_concat, if_pos hnamed]
  | .dropped hbefore hunnamed, hdepth => by
    rw [hbefore.trees_eq hdepth, attachPlainAll_concat, hunnamed, if_neg Bool.false_ne_true]

end

/-! ## Mappings above the cursor -/

/-- A mapping stands for the node at a cursor. -/
def IsDraftOf (drafts : List Draft) (number : Nat) (c : Cursor) : Prop :=
  ∃ draft, drafts[number]? = some draft ∧ draft.node = c.node ∧ draft.place = c.place

/-- Once all children are through, the mapping of a node is complete. -/
theorem IsDraftOf.shows {drafts : List Draft} {number stop : Nat} {c : Cursor} {draft : Draft}
    (h : IsDraftOf drafts number c) (hdraft : drafts[number]? = some draft)
    (hfills : Fills drafts (number + 1) stop c.node.children draft.links) :
    Shows drafts number stop c.node := by
  obtain ⟨other, hother, hnode, -⟩ := h
  cases hdraft.symm.trans hother
  rw [← hnode] at hfills ⊢
  exact .node hdraft hfills

/-- The mappings of the node at a cursor and of those above it. Each of those above is filled with
the children in front of the way down, and the mapping below it is attached to it already. -/
inductive Open (drafts : List Draft) (root : Node) : Nat → List Nat → Cursor → Prop where
  | root : IsDraftOf drafts 0 (.ofRoot root) → Open drafts root 0 [] (.ofRoot root)
  | down {number parent i : Nat} {outer : List Nat} {child up : Child}
      {above : List (Child × Nat)} {draft : Draft} {links : Links} :
      Open drafts root parent outer ⟨up, above⟩ →
      up.2.children[i]? = some child → child.2.label.isNamed = true →
      drafts[parent]? = some draft → draft.links = links.attach child.1 number →
      Fills drafts (parent + 1) number (up.2.children.take i) links →
      IsDraftOf drafts number ⟨child, (up, i) :: above⟩ →
      Open drafts root number (parent :: outer) ⟨child, (up, i) :: above⟩

theorem Open.isDraftOf {drafts : List Draft} {root : Node} {number : Nat} {outer : List Nat}
    {c : Cursor} (h : Open drafts root number outer c) : IsDraftOf drafts number c := by
  cases h with
  | root h => exact h
  | down _ _ _ _ _ _ h => exact h

theorem Open.length_eq {drafts : List Draft} {root : Node} {number : Nat} {outer : List Nat}
    {c : Cursor} (h : Open drafts root number outer c) : outer.length = c.depth := by
  induction h with
  | root => rfl
  | down _ _ _ _ _ _ _ ih => exact congrArg (· + 1) ih

/-- Mappings above the cursor do not change with later ones. -/
theorem Open.congr {drafts others : List Draft} {root : Node} {number : Nat} {outer : List Nat}
    {c : Cursor} (h : Open drafts root number outer c)
    (hsame : ∀ j, j < number → others[j]? = drafts[j]?) (hdraft : IsDraftOf others number c) :
    Open others root number outer c := by
  induction h with
  | root => exact .root hdraft
  | @down number parent _ _ _ up above _ _ hopen hchild hnamed hparent hlinks hfills _ ih =>
    have hlt : parent < number := hfills.le
    have hupper : IsDraftOf others parent ⟨up, above⟩ := by
      obtain ⟨draft, hget, hstands⟩ := hopen.isDraftOf
      exact ⟨draft, (hsame _ hlt).trans hget, hstands⟩
    refine .down (ih (fun j hj => hsame j (Nat.lt_trans hj hlt)) hupper) hchild hnamed
      ((hsame _ hlt).trans hparent) hlinks ?_ hdraft
    exact hfills.congr fun j _ hj => hsame j hj

/-! ## Rounds -/

namespace Conversion

/-- What holds of the conversion between its rounds: the mapping of the node above the cursor is
filled with the children that the cursor is through with. -/
inductive Valid (root : Node) : Conversion → Prop where
  | of {child up : Child} {i parent : Nat} {above : List (Child × Nat)} {isArriving : Bool}
      {outer : List Nat} {drafts : List Draft} {draft : Draft} :
      up.2.children[i]? = some child → Open drafts root parent outer ⟨up, above⟩ →
      drafts[parent]? = some draft →
      Fills drafts (parent + 1) drafts.length
        (up.2.children.take (if isArriving then i else i + 1)) draft.links →
      Valid root ⟨⟨child, (up, i) :: above⟩, isArriving, parent, outer, drafts⟩

section Begun

variable {s : Conversion}

theorem length_begun : s.begun.length = s.drafts.length + 1 := by
  rw [begun, List.length_append, List.length_modify]
  rfl

theorem getElem?_begun_length :
    s.begun[s.drafts.length]? = some { place := s.cursor.place, node := s.cursor.node } := by
  rw [begun, List.getElem?_append_right (Nat.le_of_eq (List.length_modify _ _ _)), List.length_modify,
    Nat.sub_self]
  rfl

theorem getElem?_begun_other {j : Nat} (hne : j ≠ s.parent) (hlt : j < s.drafts.length) :
    s.begun[j]? = s.drafts[j]? := by
  rw [begun, List.getElem?_append_left (by rwa [List.length_modify]), List.getElem?_modify]
  simp [Ne.symm hne]

/-- What is filled below the parent stays as it is when a mapping is begun. -/
theorem fills_begun {children : List Child} {links : Links}
    (h : Fills s.drafts (s.parent + 1) s.drafts.length children links) :
    Fills s.begun (s.parent + 1) s.drafts.length children links :=
  h.congr fun j hj hlt => getElem?_begun_other (by omega) hlt

variable {draft : Draft} (hparent : s.drafts[s.parent]? = some draft)
include hparent

theorem getElem?_begun_parent :
    s.begun[s.parent]? = some (draft.attach s.cursor.fieldName s.drafts.length) := by
  obtain ⟨hlt, -⟩ := List.getElem?_eq_some_iff.mp hparent
  rw [begun, List.getElem?_append_left (by rwa [List.length_modify]), List.getElem?_modify, hparent]
  simp

/-- The mappings above the cursor stay open when a mapping is begun. -/
theorem open_begun {root : Node} {c : Cursor} (h : Open s.drafts root s.parent s.outer c) :
    Open s.begun root s.parent s.outer c := by
  obtain ⟨hlt, -⟩ := List.getElem?_eq_some_iff.mp hparent
  refine h.congr (fun j hj => getElem?_begun_other (by omega) (by omega)) ?_
  obtain ⟨draft', hdraft', hnode, hplace⟩ := h.isDraftOf
  cases hparent.symm.trans hdraft'
  exact ⟨_, getElem?_begun_parent hparent, hnode, hplace⟩

end Begun

theorem take_succ_of_getElem? {children : List Child} {i : Nat} {child : Child}
    (h : children[i]? = some child) : children.take (i + 1) = children.take i ++ [child] := by
  rw [List.take_add_one, h]
  rfl

/-- What holds between rounds is kept by each round. -/
theorem Valid.step {root : Node} {s t : Conversion} (h : Valid root s) (hstep : Step s t) :
    Valid root t := by
  obtain ⟨hchild, hopen, hparent, hfills⟩ := h
  cases hstep with
  | down harriving hnamed hchildren =>
    cases harriving
    refine .of ?_ (.down (open_begun hparent hopen) hchild hnamed
      (getElem?_begun_parent hparent) rfl (fills_begun hfills)
      ⟨_, getElem?_begun_length, rfl, rfl⟩) getElem?_begun_length ?_
    · exact (congrArg (·[0]?) hchildren).trans rfl
    · rw [length_begun]
      exact .nil
  | leaf harriving hnamed hchildren =>
    cases harriving
    refine .of hchild (open_begun hparent hopen) (getElem?_begun_parent hparent) ?_
    rw [length_begun, if_neg Bool.false_ne_true, take_succ_of_getElem? hchild]
    refine .kept (fills_begun hfills) hnamed ?_
    refine .node getElem?_begun_length ?_
    rw [hchildren]
    exact .nil
  | pass harriving hunnamed =>
    cases harriving
    refine .of hchild hopen hparent ?_
    rw [if_neg Bool.false_ne_true, take_succ_of_getElem? hchild]
    exact .dropped hfills hunnamed
  | next hleaving hnext =>
    cases hleaving
    obtain ⟨sibling, hsibling, rfl⟩ := Option.map_eq_some_iff.mp hnext
    exact .of hsibling hopen hparent hfills
  | up hleaving hlast houter =>
    cases hleaving
    cases houter
    -- the node above the cursor is complete
    have hall := List.getElem?_eq_none_iff.mp (Option.map_eq_none_iff.mp hlast)
    rw [if_neg Bool.false_ne_true, List.take_of_length_le hall] at hfills
    have hshows := hopen.isDraftOf.shows hparent hfills
    cases hopen with
    | down hupper hup hnamed hupparent hlinks hbefore _ =>
      refine .of hup hupper hupparent ?_
      rw [if_neg Bool.false_ne_true, take_succ_of_getElem? hup, hlinks]
      exact .kept hbefore hnamed hshows

theorem Valid.round {source : Array Char} {root : Node} {s t : Conversion} (h : Valid root s)
    (hround : (conversion source).round s = .inl t) : Valid root t :=
  h.step (step_of_round hround)

theorem valid_ofRoot? {root : Node} {start : Conversion} (h : ofRoot? root = some start) :
    Valid root start := by
  obtain ⟨cursor, hcursor, rfl⟩ := Option.map_eq_some_iff.mp h
  unfold Cursor.firstChild? at hcursor
  split at hcursor
  · cases hcursor
  · rename_i first rest hchildren
    cases hcursor
    refine .of ?_ (.root ⟨_, rfl, rfl, rfl⟩) rfl .nil
    exact (congrArg (·[0]?) hchildren).trans rfl

/-- When the cursor leaves the last child of the root, the first mapping is complete. -/
theorem Valid.written_eq {source : Array Char} {root : Node} {s : Conversion} (h : Valid root s)
    (hleaving : s.isArriving = false) (hlast : s.cursor.nextSibling? = none)
    (houter : s.outer = []) : written source s.drafts = project source root := by
  obtain ⟨hchild, hopen, hparent, hfills⟩ := h
  cases hleaving
  cases houter
  cases hopen with
  | root hdraft =>
    have hall := List.getElem?_eq_none_iff.mp (Option.map_eq_none_iff.mp hlast)
    rw [if_neg Bool.false_ne_true, List.take_of_length_le hall] at hfills
    exact (hdraft.shows hparent hfills).treeOf_eq (Nat.le_add_left _ _)

/-- The conversion ends with the projected tree. -/
theorem run_eq {source : Array Char} {root : Node} {s : Conversion} (h : Valid root s) :
    (conversion source).run s = project source root := by
  refine Loop.run_of_invariant (P := Valid root) (Q := (· = project source root))
    (fun hvalid hround => hvalid.round hround) (fun hvalid hend => ?_) h
  obtain ⟨hleaving, hlast, houter, rfl⟩ := last_of_round hend
  exact hvalid.written_eq hleaving hlast houter

end Conversion

/-- The conversion by a cursor is the projection. -/
theorem convert_eq (source : Array Char) (root : Node) :
    convert source root = project source root := by
  unfold convert
  cases hstart : Conversion.ofRoot? root with
  | some start => exact Conversion.run_eq (Conversion.valid_ofRoot? hstart)
  | none =>
    have hnone : root.children = [] := by
      have hcursor := Option.map_eq_none_iff.mp hstart
      unfold Cursor.firstChild? at hcursor
      split at hcursor
      · assumption
      · cases hcursor
    have hdraft : IsDraftOf [{ place := [], node := root }] 0 (.ofRoot root) := ⟨_, rfl, rfl, rfl⟩
    refine (hdraft.shows rfl ?_).treeOf_eq (Nat.le_refl _)
    exact hnone ▸ .nil

/-! ## Whose mappings are open -/

namespace Conversion

/-- The places of the nodes that have mappings. -/
def places (s : Conversion) : List (List Nat) := s.drafts.map Draft.place

/-- The place that the cursor comes to next, at the earliest: the one where it arrives, or else the
one behind the node that it moves on from. -/
def bound (s : Conversion) : List Nat :=
  match s.cursor.above with
  | [] => []
  | (_, i) :: above => (above.map Prod.snd).reverse ++ [if s.isArriving then i else i + 1]

/-- The places of mappings are in order and in front of the bound. -/
structure Ordered (s : Conversion) : Prop where
  pairwise : s.places.Pairwise (· < ·)
  lt_bound : ∀ place ∈ s.places, place < s.bound

/-! ## Places -/

theorem lt_concat (place : List Nat) (i : Nat) : place < place ++ [i] := by
  have h := List.Lex.append_left (· < ·) (.nil : List.Lex (· < ·) [] [i]) place
  rwa [List.append_nil] at h

theorem concat_lt_concat (place more : List Nat) {i j : Nat} (h : i < j) :
    place ++ i :: more < place ++ [j] :=
  List.Lex.append_left (· < ·) (.rel h) place

theorem place_cons (child up : Child) (i : Nat) (above : List (Child × Nat)) :
    Cursor.place ⟨child, (up, i) :: above⟩ = (above.map Prod.snd).reverse ++ [i] := by
  rw [Cursor.place, List.map_cons, List.reverse_cons]

theorem map_place_begun (s : Conversion) :
    s.begun.map Draft.place = s.places ++ [s.cursor.place] := by
  have hattach : (s.drafts.modify s.parent (Draft.attach s.cursor.fieldName s.drafts.length)).map
      Draft.place = s.places := by
    refine List.ext_getElem? fun j => ?_
    rw [places, List.getElem?_map, List.getElem?_map, List.getElem?_modify]
    cases s.drafts[j]? with
    | none => rfl
    | some draft => by_cases hj : s.parent = j <;> simp [hj, Draft.attach]
  rw [begun, List.map_append, hattach]
  rfl

/-! ## Order along the way -/

/-- The order is kept when the bound moves on. -/
theorem Ordered.mono {s t : Conversion} (h : Ordered s) (hplaces : t.places = s.places)
    (hbound : s.bound = t.bound ∨ s.bound < t.bound) : Ordered t := by
  refine ⟨hplaces ▸ h.pairwise, fun place hplace => ?_⟩
  have hlt := h.lt_bound place (hplaces ▸ hplace)
  rcases hbound with heq | hbound
  · rwa [← heq]
  · exact List.lt_trans hlt hbound

/-- The order is kept when a mapping is begun at the bound. -/
theorem Ordered.begin {s t : Conversion} (h : Ordered s) (hplace : s.cursor.place = s.bound)
    (hplaces : t.places = s.places ++ [s.cursor.place]) (hbound : s.cursor.place < t.bound) :
    Ordered t := by
  constructor
  · rw [hplaces, List.pairwise_append]
    refine ⟨h.pairwise, List.pairwise_singleton _ _, fun place hmem other hother => ?_⟩
    rw [List.mem_singleton.mp hother, hplace]
    exact h.lt_bound place hmem
  · intro place hmem
    rw [hplaces, List.mem_append] at hmem
    rcases hmem with hmem | hmem
    · exact List.lt_trans (h.lt_bound place hmem) (hplace ▸ hbound)
    · rwa [List.mem_singleton.mp hmem]

theorem Ordered.step {root : Node} {s t : Conversion} (hvalid : Valid root s) (h : Ordered s)
    (hstep : Step s t) : Ordered t := by
  obtain ⟨-, hopen, -, -⟩ := hvalid
  cases hstep with
  | down harriving =>
    cases harriving
    refine h.begin (place_cons _ _ _ _) (map_place_begun _) ?_
    exact lt_concat _ 0
  | leaf harriving =>
    cases harriving
    refine h.begin (place_cons _ _ _ _) (map_place_begun _) ?_
    rw [place_cons]
    exact concat_lt_concat _ [] (Nat.lt_succ_self _)
  | pass harriving =>
    cases harriving
    exact h.mono rfl (.inr (concat_lt_concat _ [] (Nat.lt_succ_self _)))
  | next hleaving hnext =>
    cases hleaving
    obtain ⟨sibling, hsibling, rfl⟩ := Option.map_eq_some_iff.mp hnext
    exact h.mono rfl (.inl rfl)
  | up hleaving _ houter =>
    cases hleaving
    cases houter
    cases hopen with
    | @down _ _ j _ _ _ upper _ _ _ _ _ _ _ _ _ =>
      refine h.mono rfl (.inr ?_)
      show ((_ :: _).map Prod.snd).reverse ++ [_] < _
      rw [List.map_cons, List.reverse_cons, List.append_assoc]
      exact concat_lt_concat _ [_] (Nat.lt_succ_self _)

theorem ordered_ofRoot? {root : Node} {start : Conversion} (h : ofRoot? root = some start) :
    Ordered start := by
  obtain ⟨cursor, hcursor, rfl⟩ := Option.map_eq_some_iff.mp h
  unfold Cursor.firstChild? at hcursor
  split at hcursor
  · cases hcursor
  · cases hcursor
    refine ⟨List.pairwise_singleton _ _, fun place hplace => ?_⟩
    rw [List.mem_singleton.mp hplace]
    exact List.nil_lt_cons _ _

/-- What holds at each state that the conversion of a tree comes by. -/
theorem valid_of_comes {source : Array Char} {root : Node} {start s : Conversion}
    (hstart : ofRoot? root = some start) (h : (conversion source).Comes start s) :
    Valid root s ∧ Ordered s :=
  h.invariant (P := fun s => Valid root s ∧ Ordered s)
    (fun hs hround => ⟨hs.1.round hround, hs.2.step hs.1 (step_of_round hround)⟩)
    ⟨valid_ofRoot? hstart, ordered_ofRoot? hstart⟩

/-- There are as many open mappings as nodes above the cursor, and the last one is the mapping of
the cursor's parent. -/
theorem Valid.parents {root : Node} {s : Conversion} (h : Valid root s) :
    s.parents.length = s.cursor.depth ∧ IsDraftOf s.drafts s.parent s.cursor.parent := by
  obtain ⟨-, hopen, -, -⟩ := h
  exact ⟨congrArg (· + 1) hopen.length_eq, hopen.isDraftOf⟩

end Conversion

/-- The conversion of a tree ends, with the projected tree. At every state on the way the open
mappings are as many as the cursor is deep, the last of them is the mapping of its parent, and no
place has two mappings. In the projected tree a child that is not named is dropped with all below
it, and a named one is found among the children of its parent or under its field, where several
children of one field are a list. -/
theorem conversion_projects (source : Array Char) (root : Node) :
    convert source root = project source root ∧
      (∀ start, Conversion.ofRoot? root = some start →
        (∀ t, (conversion source).Ends start t ↔ t = project source root) ∧
        ∀ s, (conversion source).Comes start s →
          s.parents.length = s.cursor.depth ∧ IsDraftOf s.drafts s.parent s.cursor.parent ∧
            s.places.Pairwise (· < ·)) ∧
      ∀ n : Node, (project source n).get "children" = .list (keptUnder source none n.children) ∧
        ∃ fields : Entries, (project source n).get "fields" = .map fields ∧
          Entries.keys fields = (fieldNames n.children).map Text.ofString ∧
          ∀ name : String, Entries.get? (Text.ofString name) fields =
            grouped (keptUnder source (some name) n.children) := by
  refine ⟨convert_eq source root, fun start hstart => ⟨fun t => ?_, fun s hs => ?_⟩,
    fun n => ⟨children_project n, fields_project n⟩⟩
  · rw [Loop.ends_iff, Conversion.run_eq (Conversion.valid_ofRoot? hstart)]
  · obtain ⟨hvalid, hordered⟩ := Conversion.valid_of_comes hstart hs
    exact ⟨hvalid.parents.1, hvalid.parents.2, hordered.pairwise⟩

end EndpointCatalog.Cst
