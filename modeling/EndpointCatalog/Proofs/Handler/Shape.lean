/-
EndpointCatalog.Proofs.Handler.Shape — how trees show code.

`CodeShape.parts?` finds the nodes of a tree that show the parts of a form,
and `CodeShape.shows` says which trees show a whole code. All else in a node
must be idle: nothing below it says anything about reads.

* `CodeShape.ReadBy`: what a dialect must do with the nodes of each form.
* `ReadBy.reads_iff`: then the nodes of a tree read what the places of the
  code read, however deep the code is. The induction is here, once for all
  dialects.
-/
import EndpointCatalog.Proofs.Handler.Code

namespace EndpointCatalog

/-! ## What nodes say -/

namespace Dialect

/-- What a node says about reads. -/
def view (d : Dialect) (node : Tree) : View where
  chain? := d.memberChain? node
  binding? := (d.destructuring? node).map fun found => (found.keys, d.memberChain? found.source)
  call? := (d.callee? node).map fun callee =>
    (d.memberChain? callee, (d.callArguments node).head?.bind d.routeText?)

theorem requestChain?_eq_some_iff {d : Dialect} {request : Text} {node : Tree}
    {chain : List Text} : requestChain? d request node = some chain ↔
      d.memberChain? node = some (request :: chain) := by
  unfold requestChain?
  split
  · next root names hnames =>
    rw [hnames]
    by_cases hroot : root = request
    · simp [hroot]
    · simp [hroot]
  · next hnone =>
    constructor
    · nofun
    · exact fun h => absurd h (hnone request chain)

variable {d : Dialect} {profile : Profile} {request : Text} {node : Tree} {sect : Section}

/-- A node reads a name if this is what it says. -/
theorem nodeReads_iff {name : Text} : NodeReads d profile request node sect name ↔
    (d.view node).Reads profile request sect (some name) := by
  constructor
  · rintro (⟨chain, hchain, hne, hread⟩ | ⟨pattern, chain, hpattern, hchain, hread, hname⟩ |
      ⟨hsect, callee, getter, hcallee, hchain, hgetter, hname, hne⟩)
    · exact .member (requestChain?_eq_some_iff.1 hchain) hne hread
    · refine .binding ?_ hread hname
      rw [view, hpattern, ← requestChain?_eq_some_iff.1 hchain]
      rfl
    · refine .getter ?_ hgetter hsect hne
      rw [view, hcallee, ← requestChain?_eq_some_iff.1 hchain, ← hname]
      rfl
  · rintro (⟨hchain, hne, hread⟩ | ⟨hbinding, hread, hname⟩ | ⟨hcall, hgetter, hsect, hne⟩)
    · exact .inl ⟨_, requestChain?_eq_some_iff.2 hchain, hne, hread⟩
    · obtain ⟨pattern, hpattern, hfound⟩ := Option.map_eq_some_iff.1 hbinding
      obtain ⟨rfl, hchain⟩ := Prod.mk.inj hfound
      exact .inr (.inl ⟨pattern, _, hpattern, requestChain?_eq_some_iff.2 hchain, hread, hname⟩)
    · obtain ⟨callee, hcallee, hfound⟩ := Option.map_eq_some_iff.1 hcall
      obtain ⟨hchain, htext⟩ := Prod.mk.inj hfound
      exact .inr (.inr ⟨hsect, callee, _, hcallee, requestChain?_eq_some_iff.2 hchain, hgetter,
        htext, hne⟩)

end Dialect

/-- What is asked of a view is answered by what it says about reads. -/
structure View.IsQuestion (R : View → Prop) : Prop where
  idle : ∀ v, v.IsIdle → ¬ R v
  chain : ∀ v, R ⟨v.chain?, none, none⟩ → R v

theorem View.isQuestion_reads (profile : Profile) (request : Text) (sect : Section)
    (name : Option Text) : IsQuestion (Reads profile request sect name) :=
  ⟨fun _ => IsIdle.not_reads, fun _ h => h.of_chain rfl⟩

/-! ## Parts of nodes -/

theorem Entries.get?_of_mem {key : Text} {value : Tree} {entries : Entries}
    (hnodup : (entries.map Prod.fst).Nodup) (h : (key, value) ∈ entries) :
    get? key entries = some value := by
  induction entries with
  | nil => cases h
  | cons e es ih =>
    obtain ⟨hfirst, hrest⟩ := List.nodup_cons.1 hnodup
    rcases List.mem_cons.1 h with rfl | h
    · rw [get?, if_pos rfl]
    · have hne : e.1 ≠ key := by
        rintro rfl
        exact hfirst (List.mem_map.2 ⟨_, h, rfl⟩)
      rw [get?, if_neg hne, ih hrest h]

namespace Tree

/-- The nodes that stand under a key: those in a list, or the one. -/
def nodes : Tree → List Tree
  | .list items => items.filter isBranch
  | .map entries => [.map entries]
  | _ => []

/-- Whether a tree is a list of nodes. -/
def isNodeList : Tree → Bool
  | .list items => items.all isMap
  | _ => false

/-- Whether nothing below a tree may read. -/
def isIdle (mayRead : Tree → Bool) (t : Tree) : Bool := t.mappings.all fun m => !mayRead m

/-- Whether all that may read in a mapping stands under some keys. -/
def holdsOnly (mayRead : Tree → Bool) (keys : List String) : Tree → Bool
  | .map entries => decide (entries.map Prod.fst).Nodup && entries.all fun e =>
      keys.any (fun key => e.1 == Text.ofString key) || e.2.isIdle mayRead
  | _ => false

variable {mayRead : Tree → Bool} {keys : List String} {t : Tree} {P : Tree → Prop}

theorem exists_mappings_nodes_iff :
    (∃ m ∈ t.mappings, P m) ↔ ∃ part ∈ t.nodes, ∃ m ∈ part.mappings, P m := by
  cases t with
  | list items =>
    simp only [mappings, nodes, mem_listMappings, List.mem_filter]
    constructor
    · rintro ⟨m, ⟨item, hitem, hm⟩, hP⟩
      refine ⟨item, ⟨hitem, ?_⟩, m, hm, hP⟩
      by_contra hbranch
      rw [mappings_of_not_isBranch (by simpa using hbranch)] at hm
      cases hm
    · rintro ⟨item, ⟨hitem, -⟩, m, hm, hP⟩
      exact ⟨m, ⟨item, hitem, hm⟩, hP⟩
  | map entries => simp [nodes]
  | _ => simp [nodes, mappings]

theorem not_of_isIdle (hP : ∀ m, mayRead m = false → ¬ P m) (h : t.isIdle mayRead = true) :
    ¬ ∃ m ∈ t.mappings, P m := by
  rintro ⟨m, hm, hread⟩
  exact hP m (by simpa using List.all_eq_true.1 h m hm) hread

/-- What reads in a mapping is the mapping itself, or stands under one of its keys. -/
theorem exists_mappings_iff (hP : ∀ m, mayRead m = false → ¬ P m)
    (h : t.holdsOnly mayRead keys = true) :
    (∃ m ∈ t.mappings, P m) ↔ P t ∨ ∃ key ∈ keys, ∃ m ∈ (t.get key).mappings, P m := by
  cases t with
  | map entries =>
    obtain ⟨hnodup, hall⟩ := Bool.and_eq_true_iff.1 h
    have hnodup := of_decide_eq_true hnodup
    simp only [mappings, List.mem_cons, exists_eq_or_imp, mem_entryMappings]
    refine or_congr_right ⟨?_, ?_⟩
    · rintro ⟨m, ⟨e, he, hm⟩, hread⟩
      rcases Bool.or_eq_true_iff.1 (List.all_eq_true.1 hall e he) with hkey | hidle
      · obtain ⟨key, hkey, heq⟩ := List.any_eq_true.1 hkey
        have hentry : (Text.ofString key, e.2) ∈ entries := beq_iff_eq.1 heq ▸ he
        have hvalue : (Tree.map entries).get key = e.2 := by
          rw [get, get?, Entries.get?_of_mem hnodup hentry, Option.getD_some]
        exact ⟨key, hkey, m, hvalue ▸ hm, hread⟩
      · exact absurd ⟨m, hm, hread⟩ (not_of_isIdle hP hidle)
    · rintro ⟨key, -, m, hm, hread⟩
      rw [get, get?] at hm
      cases hvalue : Entries.get? (Text.ofString key) entries with
      | none =>
        rw [hvalue] at hm
        cases hm
      | some value =>
        rw [hvalue] at hm
        exact ⟨m, ⟨_, Entries.mem_of_get? hvalue, hm⟩, hread⟩
  | _ => cases h

theorem exists_parts_iff (hP : ∀ m, mayRead m = false → ¬ P m)
    (h : t.holdsOnly mayRead keys = true) : (∃ m ∈ t.mappings, P m) ↔
      P t ∨ ∃ part ∈ keys.flatMap fun key => (t.get key).nodes, ∃ m ∈ part.mappings, P m := by
  rw [exists_mappings_iff hP h]
  refine or_congr_right ⟨?_, ?_⟩
  · rintro ⟨key, hkey, hread⟩
    obtain ⟨part, hpart, hread⟩ := exists_mappings_nodes_iff.1 hread
    exact ⟨part, List.mem_flatMap.2 ⟨key, hkey, hpart⟩, hread⟩
  · rintro ⟨part, hpart, hread⟩
    obtain ⟨key, hkey, hpart⟩ := List.mem_flatMap.1 hpart
    exact ⟨key, hkey, exists_mappings_nodes_iff.2 ⟨part, hpart, hread⟩⟩

theorem nodes_of_isMap (h : t.isMap = true) : t.nodes = [t] := by
  cases t <;> first | rfl | cases h

theorem filter_isMap_items (h : t.isNodeList = true) : t.items.filter isMap = t.items := by
  cases t with
  | list items => exact List.filter_eq_self.2 (List.all_eq_true.1 h)
  | _ => cases h

theorem nodes_of_isNodeList (h : t.isNodeList = true) : t.nodes = t.items := by
  cases t with
  | list items =>
    refine List.filter_eq_self.2 fun item hitem => ?_
    have hmap : item.isMap = true := List.all_eq_true.1 h item hitem
    cases item <;> first | rfl | cases hmap
  | _ => cases h

theorem get?_of_isMap {key : String} (h : (t.get key).isMap = true) :
    t.get? key = some (t.get key) := by
  unfold get at h ⊢
  cases hvalue : t.get? key with
  | none =>
    rw [hvalue] at h
    cases h
  | some value => rfl

theorem mem_mappings_self (h : t.isMap = true) : t ∈ t.mappings := by
  cases t <;> first | exact List.mem_cons_self | cases h

end Tree

/-! ## Shapes -/

/-- How the nodes of a syntax tree show code. -/
structure CodeShape where
  /-- The nodes that show the parts of a form, if a node shows the form. -/
  parts? : Form → Tree → Option (List Tree)

mutual

/-- Whether a tree shows a code. -/
def CodeShape.shows (shape : CodeShape) : Code → Tree → Bool
  | .node form parts, node => (shape.parts? form node).any (shape.showsAll parts)

/-- Whether some trees show some codes. -/
def CodeShape.showsAll (shape : CodeShape) : List Code → List Tree → Bool
  | [], nodes => nodes.isEmpty
  | _ :: _, [] => false
  | c :: rest, node :: nodes => shape.shows c node && shape.showsAll rest nodes

end

/-- A node answers for a code. -/
structure Answers (d : Dialect) (n : Naming) (keyOf? : Tree → Option Text)
    (keysOf? : Tree → Option (List Text)) (c : Code) (node : Tree) : Prop where
  chain : d.memberChain? node = c.chain? n
  text : d.routeText? node = c.text? n
  key : keyOf? node = c.form.key? n
  keys : keysOf? node = c.keys? n

/-- Entries of a pattern are under the keys of their nodes. -/
theorem filterMap_key?_eq {d : Dialect} {n : Naming} {keyOf? : Tree → Option Text}
    {keysOf? : Tree → Option (List Text)} {parts : List Code} {nodes : List Tree}
    (h : List.Forall₂ (Answers d n keyOf? keysOf?) parts nodes) :
    nodes.filterMap keyOf? = parts.filterMap fun c => c.form.key? n := by
  induction h with
  | nil => rfl
  | cons hfirst _ ih => simp only [List.filterMap_cons, hfirst.key, ih]

/-- The first argument of a call is the text that its node is. -/
theorem head?_text?_eq {d : Dialect} {n : Naming} {keyOf? : Tree → Option Text}
    {keysOf? : Tree → Option (List Text)} {parts : List Code} {nodes : List Tree}
    (h : List.Forall₂ (Answers d n keyOf? keysOf?) parts nodes) :
    nodes.head?.bind d.routeText? = parts.head?.bind (Code.text? n) := by
  cases h with
  | nil => rfl
  | cons hfirst _ => exact hfirst.text

/-- What a dialect does with the nodes of each form. -/
structure CodeShape.ReadBy (shape : CodeShape) (d : Dialect) (n : Naming)
    (keyOf? : Tree → Option Text) (keysOf? : Tree → Option (List Text)) : Prop where
  answers {form : Form} {parts : List Code} {node : Tree} {nodes : List Tree} :
    shape.parts? form node = some nodes →
    List.Forall₂ (Answers d n keyOf? keysOf?) parts nodes →
    Answers d n keyOf? keysOf? (.node form parts) node
  /-- What reads in a node of a form is the node itself, or in one of its parts. -/
  reads {form : Form} {parts : List Code} {node : Tree} {nodes : List Tree} {R : View → Prop} :
    View.IsQuestion R → shape.parts? form node = some nodes →
    List.Forall₂ (Answers d n keyOf? keysOf?) parts nodes →
    ((∃ m ∈ node.mappings, R (d.view m)) ↔ R ((Code.node form parts).view n) ∨
      ∃ part ∈ nodes, ∃ m ∈ part.mappings, R (d.view m))
  request {params : List Word} {parts : List Code} {node : Tree} {nodes : List Tree} :
    shape.parts? (.function params) node = some nodes →
    requestName? d node = (Code.node (.function params) parts).request? n

namespace CodeShape.ReadBy

variable {shape : CodeShape} {d : Dialect} {n : Naming} {keyOf? : Tree → Option Text}
  {keysOf? : Tree → Option (List Text)}

mutual

/-- A tree that shows a code answers for it. -/
theorem answers_of_shows (h : shape.ReadBy d n keyOf? keysOf?) :
    ∀ (c : Code) {node : Tree}, shape.shows c node = true → Answers d n keyOf? keysOf? c node
  | .node form parts, node, hshows => by
    obtain ⟨nodes, hnodes, hparts⟩ := (Option.any_eq_true _ _).1 hshows
    exact h.answers hnodes (answers_of_showsAll h parts hparts)

theorem answers_of_showsAll (h : shape.ReadBy d n keyOf? keysOf?) :
    ∀ (parts : List Code) {nodes : List Tree}, shape.showsAll parts nodes = true →
      List.Forall₂ (Answers d n keyOf? keysOf?) parts nodes
  | [], [], _ => .nil
  | c :: rest, node :: nodes, hshows => by
    obtain ⟨hfirst, hrest⟩ := Bool.and_eq_true_iff.1 hshows
    exact .cons (answers_of_shows h c hfirst) (answers_of_showsAll h rest hrest)

end

mutual

/-- The nodes of a tree that shows a code say what the places of the code say. -/
theorem reads_iff (h : shape.ReadBy d n keyOf? keysOf?) {R : View → Prop}
    (hR : View.IsQuestion R) : ∀ (c : Code) {node : Tree}, shape.shows c node = true →
      ((∃ m ∈ node.mappings, R (d.view m)) ↔ ∃ place ∈ c.all, R (place.view n))
  | .node form parts, node, hshows => by
    obtain ⟨nodes, hnodes, hparts⟩ := (Option.any_eq_true _ _).1 hshows
    rw [h.reads hR hnodes (answers_of_showsAll h parts hparts), readsAll_iff h hR parts hparts]
    simp only [Code.all, List.mem_cons, exists_eq_or_imp]

theorem readsAll_iff (h : shape.ReadBy d n keyOf? keysOf?) {R : View → Prop}
    (hR : View.IsQuestion R) : ∀ (parts : List Code) {nodes : List Tree},
      shape.showsAll parts nodes = true →
      ((∃ part ∈ nodes, ∃ m ∈ part.mappings, R (d.view m)) ↔
        ∃ place ∈ Code.allBelow parts, R (place.view n))
  | [], [], _ => by simp [Code.allBelow]
  | c :: rest, node :: nodes, hshows => by
    obtain ⟨hfirst, hrest⟩ := Bool.and_eq_true_iff.1 hshows
    have hbelow : (∃ place ∈ Code.allBelow (c :: rest), R (place.view n)) ↔
        (∃ place ∈ c.all, R (place.view n)) ∨ ∃ place ∈ Code.allBelow rest, R (place.view n) := by
      simp only [Code.allBelow, List.mem_append, or_and_right, exists_or]
    rw [List.exists_mem_cons_iff, reads_iff h hR c hfirst, readsAll_iff h hR rest hrest, hbelow]

end

end CodeShape.ReadBy

end EndpointCatalog
