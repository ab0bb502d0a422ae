/-
EndpointCatalog.Proofs.FaultSearch — the search finds the first fault.

`nodes` are the nodes of a tree, parents before children. The invariant of the
search is that the first fault among the nodes of the trees on the stack is
the first one of the whole tree: a child that is left out has no fault in it
(`find?_suspects`).

* `fault_search_finds_first`: the search ends with the line of the first
  fault, and never with an empty stack.
-/
import EndpointCatalog.Cst.FaultSearch

namespace EndpointCatalog.Cst.Node

/-! ## Nodes of a tree -/

mutual

/-- The nodes of a tree, parents before children. -/
def nodes : Node → List Node
  | .mk l cs => .mk l cs :: nodesIn cs

/-- The nodes of some trees, one tree after the other. -/
def nodesIn : List (Option String × Node) → List Node
  | [] => []
  | (_, n) :: rest => nodes n ++ nodesIn rest

end

theorem nodesIn_eq (children : List (Option String × Node)) :
    nodesIn children = (children.map Prod.snd).flatMap nodes := by
  induction children with
  | nil => rfl
  | cons c rest ih => rw [nodesIn, ih, List.map_cons, List.flatMap_cons]

theorem nodes_eq (n : Node) : n.nodes = n :: (n.children.map Prod.snd).flatMap nodes := by
  obtain ⟨l, cs⟩ := n
  rw [nodes, nodesIn_eq, children]

theorem self_mem_nodes (n : Node) : n ∈ n.nodes := by
  rw [nodes_eq]
  exact .head _

mutual

theorem nodes_subset : ∀ {n m : Node}, m ∈ n.nodes → m.nodes ⊆ n.nodes
  | .mk l cs, m, h => by
    rw [nodes] at h ⊢
    rcases List.mem_cons.mp h with rfl | h
    · rw [nodes]
      exact List.Subset.refl _
    · exact List.subset_cons_of_subset _ (nodesIn_subset h)

theorem nodesIn_subset : ∀ {cs : List (Option String × Node)} {m : Node},
    m ∈ nodesIn cs → m.nodes ⊆ nodesIn cs
  | (_, n) :: rest, m, h => by
    rw [nodesIn] at h ⊢
    rcases List.mem_append.mp h with h | h
    · exact List.subset_append_of_subset_left _ (nodes_subset h)
    · exact List.subset_append_of_subset_right _ (nodesIn_subset h)

end

theorem child_mem_nodes {n c : Node} (h : c ∈ n.children.map Prod.snd) : c ∈ n.nodes := by
  rw [nodes_eq]
  exact .tail _ (List.mem_flatMap.mpr ⟨c, h, self_mem_nodes c⟩)

mutual

/-- The recursion finds the first of the nodes that is faulty. -/
theorem firstFault?_eq : ∀ n : Node, n.firstFault? = n.nodes.find? isFaulty
  | .mk l cs => by
    rw [firstFault?, nodes, List.find?_cons]
    have hfaulty : isFaulty (.mk l cs) = (l.kind = errorKind || l.isMissing) := rfl
    rw [hfaulty]
    cases (decide (l.kind = errorKind) || l.isMissing)
    · exact firstFaultIn?_eq cs
    · rfl

theorem firstFaultIn?_eq : ∀ cs : List (Option String × Node),
    firstFaultIn? cs = (nodesIn cs).find? isFaulty
  | [] => rfl
  | (_, n) :: rest => by
    rw [firstFaultIn?, nodesIn, List.find?_append, firstFault?_eq n, firstFaultIn?_eq rest]

end

mutual

/-- A tree is malformed if one of its nodes tells so. -/
theorem hasFault_iff : ∀ n : Node, n.hasFault = true ↔ ∃ m ∈ n.nodes, m.isFaulty = true
  | .mk l cs => by
    rw [hasFault, nodes, Bool.or_eq_true, anyFault_iff cs]
    simp only [List.mem_cons, exists_eq_or_imp]
    exact Iff.rfl

theorem anyFault_iff : ∀ cs : List (Option String × Node),
    anyFault cs = true ↔ ∃ m ∈ nodesIn cs, m.isFaulty = true
  | [] => by simp [anyFault, nodesIn]
  | (_, n) :: rest => by
    rw [anyFault, nodesIn, Bool.or_eq_true, hasFault_iff n, anyFault_iff rest]
    simp only [List.mem_append, or_and_right, exists_or]

end

/-! ## Rounds -/

section Search

variable {hasError : Node → Bool} {root : Node}

/-- What is left out has no fault in it. -/
theorem find?_flatMap_filter {keep : Node → Bool} {trees : List Node}
    (h : ∀ t ∈ trees, keep t = false → t.nodes.find? isFaulty = none) :
    ((trees.filter keep).flatMap nodes).find? isFaulty = (trees.flatMap nodes).find? isFaulty := by
  induction trees with
  | nil => rfl
  | cons t rest ih =>
    have hrest := ih fun s hs => h s (.tail t hs)
    rw [List.filter_cons, List.flatMap_cons, List.find?_append, ← hrest]
    cases hkeep : keep t with
    | true => rw [if_pos rfl, List.flatMap_cons, List.find?_append]
    | false => rw [if_neg Bool.false_ne_true, h t (.head rest) hkeep, Option.none_or]

/-- Where `hasError` tells of each node whether it or one below it is faulty, the first fault below
a node is the first one in what the search goes into. -/
theorem find?_suspects
    (hexact : ∀ n ∈ root.nodes, hasError n = true ↔ ∃ m ∈ n.nodes, m.isFaulty = true) {n : Node}
    (hn : n ∈ root.nodes) :
    ((n.suspects hasError).flatMap nodes).find? isFaulty =
      ((n.children.map Prod.snd).flatMap nodes).find? isFaulty := by
  refine find?_flatMap_filter fun c hc hkeep => ?_
  have hroot : c ∈ root.nodes := nodes_subset hn (child_mem_nodes hc)
  have hnone : ¬ hasError c = true := by
    intro h
    rw [h] at hkeep
    cases hkeep
  rw [List.find?_eq_none]
  exact fun m hm hfaulty => hnone ((hexact c hroot).mpr ⟨m, hm, hfaulty⟩)

/-- What holds of the stack between rounds. -/
structure Searches (root first : Node) (stack : List Node) : Prop where
  subset : stack ⊆ root.nodes
  find?_eq : (stack.flatMap nodes).find? isFaulty = some first

theorem Searches.round {first : Node} {stack next : List Node}
    (hexact : ∀ n ∈ root.nodes, hasError n = true ↔ ∃ m ∈ n.nodes, m.isFaulty = true)
    (h : Searches root first stack) (hround : (faultSearch hasError).round stack = .inl next) :
    Searches root first next := by
  cases stack with
  | nil => cases hround
  | cons n rest =>
    unfold faultSearch at hround
    simp only at hround
    split at hround
    · cases hround
    · rename_i hplain
      cases hround
      have hn : n ∈ root.nodes := h.subset (.head rest)
      constructor
      · intro m hm
        rcases List.mem_append.mp hm with hm | hm
        · exact nodes_subset hn (child_mem_nodes (List.mem_filter.mp hm).1)
        · exact h.subset (.tail n hm)
      · rw [← h.find?_eq, List.flatMap_append, List.find?_append, find?_suspects hexact hn,
          List.flatMap_cons, nodes_eq, List.cons_append, List.find?_cons_of_neg hplain,
          List.find?_append]

theorem Searches.last {first : Node} {stack : List Node} {line : Option Nat}
    (h : Searches root first stack) (hend : (faultSearch hasError).round stack = .inr line) :
    line = some (first.label.row + 1) := by
  cases stack with
  | nil => cases h.find?_eq
  | cons n rest =>
    unfold faultSearch at hend
    simp only at hend
    split at hend
    · rename_i hfaulty
      cases hend
      have hfirst := h.find?_eq
      rw [List.flatMap_cons, nodes_eq, List.cons_append, List.find?_cons_of_pos hfaulty] at hfirst
      cases hfirst
      rfl
    · cases hend

end Search

/-- In a tree that is malformed the search ends with the line of the first node, parents before
children, that is an error or missing; it never comes to an empty stack. That is the line that is
reported. -/
theorem fault_search_finds_first (hasError : Node → Bool) (root : Node)
    (hexact : ∀ n ∈ root.nodes, hasError n = true ↔ ∃ m ∈ n.nodes, m.isFaulty = true)
    (herror : hasError root = true) :
    ∃ before first after, root.nodes = before ++ first :: after ∧
      (∀ n ∈ before, n.isFaulty = false) ∧ first.isFaulty = true ∧
      (∀ line, (faultSearch hasError).Ends [root] line ↔ line = some (first.label.row + 1)) ∧
      firstErrorLine hasError root = first.label.row + 1 ∧
      root.firstFaultyLine = first.label.row + 1 := by
  obtain ⟨m, hm, hfaulty⟩ := (hexact root (self_mem_nodes root)).mp herror
  obtain ⟨first, hfirst⟩ := Option.isSome_iff_exists.mp (List.find?_isSome.mpr ⟨m, hm, hfaulty⟩)
  obtain ⟨hfault, before, after, hnodes, hbefore⟩ := List.find?_eq_some_iff_append.mp hfirst
  have hstart : Searches root first [root] := by
    refine ⟨fun n hn => List.mem_singleton.mp hn ▸ self_mem_nodes root, ?_⟩
    rw [List.flatMap_singleton, hfirst]
  have hrun : (faultSearch hasError).run [root] = some (first.label.row + 1) :=
    Loop.run_of_invariant (P := Searches root first) (Q := (· = some (first.label.row + 1)))
      (fun h hround => h.round hexact hround) (fun h hend => h.last hend) hstart
  refine ⟨before, first, after, hnodes, fun n hn => by simpa using hbefore n hn, hfault,
    fun line => ?_, ?_, ?_⟩
  · rw [Loop.ends_iff, hrun]
  · rw [firstErrorLine, hrun, Option.getD_some]
  · rw [firstFaultyLine, firstFault?_eq, hfirst, Option.getD_some]

/-- A tree with a missing mark below its second child, and an error node behind it. -/
def brokenScript : Node :=
  let leaf (kind : String) (row : Nat) : Option String × Node :=
    (none, .mk ⟨kind, true, false, 0, 0, row⟩ [])
  let missing (mark : String) (row : Nat) : Option String × Node :=
    (none, .mk ⟨mark, false, true, 0, 0, row⟩ [])
  .mk ⟨"program", true, false, 0, 0, 0⟩
    [leaf "comment" 0,
     (none, .mk ⟨"statement", true, false, 0, 0, 1⟩ [leaf "name" 1, missing ")" 2]),
     leaf errorKind 3]

theorem fault_search_finds_first_brokenScript :
    (∀ n ∈ brokenScript.nodes, hasFault n = true ↔ ∃ m ∈ n.nodes, m.isFaulty = true) ∧
      hasFault brokenScript = true ∧ firstErrorLine hasFault brokenScript = 3 := by
  have hexact : ∀ n ∈ brokenScript.nodes, hasFault n = true ↔ ∃ m ∈ n.nodes, m.isFaulty = true :=
    fun n _ => hasFault_iff n
  have herror : hasFault brokenScript = true := by decide
  obtain ⟨_, _, _, -, -, -, -, hline, hreported⟩ :=
    fault_search_finds_first hasFault brokenScript hexact herror
  exact ⟨hexact, herror, hline.trans (hreported.symm.trans (by decide))⟩

end EndpointCatalog.Cst.Node
