/-
EndpointCatalog.Proofs.Walk — the explicit stack visits what the recursion
lists, in the order of places.

* `walk_eq_mappings`: the work loop meets the mappings of a tree in
  pre-order, each occurrence once.

The invariant of the loop is `walkStack_eq`: what is still to come is what
the recursion lists for the trees on the stack, one tree after the other.

The place of a tree below another one is the way down to it: at each step the
number of values or items in front of the one that the way goes on in. In the
lexicographic order of places a tree comes before all trees below it, and what
is below one value comes before what is below a later one.

* `walkLoop`: the walk round by round. A round takes one tree off the stack.
* `walk_in_order`: the loop ends with what the recursion lists, and that is
  what stands at the places of mappings, each place once and in order.
-/
import EndpointCatalog.Loop
import EndpointCatalog.Tree.Walk

namespace EndpointCatalog.Tree

theorem mappings_of_not_isBranch {t : Tree} (h : t.isBranch = false) : mappings t = [] := by
  cases t <;> simp_all [isBranch, mappings]

theorem listMappings_append (xs ys : List Tree) :
    listMappings (xs ++ ys) = listMappings xs ++ listMappings ys := by
  induction xs with
  | nil => rfl
  | cons x xs ih => simp only [List.cons_append, listMappings, ih, List.append_assoc]

theorem mem_listMappings {node : Tree} {trees : List Tree} :
    node ∈ listMappings trees ↔ ∃ t ∈ trees, node ∈ mappings t := by
  induction trees with
  | nil => simp only [listMappings, List.not_mem_nil, false_and, exists_false]
  | cons t ts ih => simp only [listMappings, List.mem_append, ih, List.mem_cons, exists_eq_or_imp]

theorem mem_entryMappings {node : Tree} {entries : Entries} :
    node ∈ entryMappings entries ↔ ∃ e ∈ entries, node ∈ mappings e.2 := by
  induction entries with
  | nil => simp only [entryMappings, List.not_mem_nil, false_and, exists_false]
  | cons e es ih => simp only [entryMappings, List.mem_append, ih, List.mem_cons, exists_eq_or_imp]

theorem listMappings_branches (entries : List (Text × Tree)) :
    listMappings (branches entries) = entryMappings entries := by
  induction entries with
  | nil => rfl
  | cons e es ih =>
    obtain ⟨key, t⟩ := e
    have step : branches ((key, t) :: es) =
        if t.isBranch then t :: branches es else branches es := by
      simp only [branches, List.map_cons, List.filter_cons]
    rw [step, entryMappings]
    split
    · rw [listMappings, ih]
    · rename_i h
      rw [mappings_of_not_isBranch (by simpa using h), ih, List.nil_append]

/-- The invariant of the work loop. -/
theorem walkStack_eq (visited stack : List Tree) :
    walkStack visited stack = visited.reverse ++ listMappings stack := by
  induction visited, stack using walkStack.induct with
  | case1 visited => simp [walkStack, listMappings]
  | case2 visited items rest ih =>
    rw [walkStack, ih, listMappings_append, listMappings, mappings]
  | case3 visited entries rest ih =>
    rw [walkStack, ih, listMappings_append, listMappings_branches, listMappings, mappings]
    simp only [List.reverse_cons, List.append_assoc, List.cons_append, List.nil_append]
  | _ visited => simp_all [walkStack, listMappings, mappings]

/-- The work loop lists the mappings of a tree in pre-order. -/
theorem walk_eq_mappings (root : Tree) : root.walk = root.mappings := by
  rw [walk, walkStack_eq, listMappings, listMappings]
  simp only [List.reverse_nil, List.nil_append, List.append_nil]

/-! ## Rounds -/

/-- The walk as a loop over the mappings met so far, last first, and the stack. -/
def walkLoop : Loop (List Tree × List Tree) (List Tree) where
  round
    | (visited, []) => .inr visited.reverse
    | (visited, .list items :: rest) => .inl (visited, items ++ rest)
    | (visited, .map entries :: rest) => .inl (.map entries :: visited, branches entries ++ rest)
    | (visited, _ :: rest) => .inl (visited, rest)
  wellFounded := by
    refine Loop.wellFounded_of_pending (fun s => sizeOf s.2) fun {s t} h => ?_
    split at h <;> cases h
    · rename_i items rest
      have := sizeOf_append items rest
      simp only [List.cons.sizeOf_spec, Tree.list.sizeOf_spec]
      omega
    · rename_i entries rest
      have := sizeOf_append (branches entries) rest
      have := sizeOf_branches_le entries
      simp only [List.cons.sizeOf_spec, Tree.map.sizeOf_spec]
      omega
    · simp only [List.cons.sizeOf_spec]
      omega

/-- A round changes nothing about the outcome. -/
theorem walkStack_of_round {s t : List Tree × List Tree} (h : walkLoop.round s = .inl t) :
    walkStack t.1 t.2 = walkStack s.1 s.2 := by
  obtain ⟨visited, stack⟩ := s
  cases stack with
  | nil => cases h
  | cons top rest => cases top <;> cases h <;> rw [walkStack]

theorem run_walkLoop (root : Tree) : walkLoop.run ([], [root]) = root.walk := by
  refine Loop.run_of_invariant (P := fun s => walkStack s.1 s.2 = root.walk)
    (Q := fun visited => visited = root.walk) ?_ ?_ rfl
  · intro s t hs hround
    rw [walkStack_of_round hround, hs]
  · intro s visited hs hend
    obtain ⟨before, stack⟩ := s
    cases stack with
    | nil =>
      cases hend
      rw [← hs, walkStack]
    | cons top rest => cases top <;> cases hend

/-! ## Places -/

/-- The trees right below a tree: a list's items, or a mapping's values in key order. -/
def parts : Tree → List Tree
  | .list items => items
  | .map entries => entries.map Prod.snd
  | _ => []

/-- What stands at a place below a tree. -/
def at? (t : Tree) : List Nat → Option Tree
  | [] => some t
  | i :: place => (t.parts[i]?).bind fun s => s.at? place

mutual

/-- The places of the mappings of a tree. -/
def places : Tree → List (List Nat)
  | .list items => placesFrom 0 items
  | .map entries => [] :: placesUnder 0 entries
  | _ => []

/-- The places of the mappings of some items, the first of which is the one with a number. -/
def placesFrom (i : Nat) : List Tree → List (List Nat)
  | [] => []
  | t :: rest => (places t).map (i :: ·) ++ placesFrom (i + 1) rest

/-- The places of the mappings of some values, the first of which is the one with a number. -/
def placesUnder (i : Nat) : List (Text × Tree) → List (List Nat)
  | [] => []
  | (_, t) :: rest => (places t).map (i :: ·) ++ placesUnder (i + 1) rest

end

theorem placesUnder_eq (i : Nat) (entries : Entries) :
    placesUnder i entries = placesFrom i (entries.map Prod.snd) := by
  induction entries generalizing i with
  | nil => rfl
  | cons e es ih => rw [placesUnder, ih, List.map_cons, placesFrom]

theorem entryMappings_eq (entries : Entries) :
    entryMappings entries = listMappings (entries.map Prod.snd) := by
  induction entries with
  | nil => rfl
  | cons e es ih => rw [entryMappings, ih, List.map_cons, listMappings]

theorem places_eq (t : Tree) :
    t.places = (if t.isMap then [[]] else []) ++ placesFrom 0 t.parts := by
  cases t with
  | map entries => rw [places, placesUnder_eq]; rfl
  | list items => rw [places]; rfl
  | _ => rfl

theorem mappings_eq (t : Tree) :
    t.mappings = (if t.isMap then [t] else []) ++ listMappings t.parts := by
  cases t with
  | map entries => rw [mappings, entryMappings_eq]; rfl
  | list items => rw [mappings]; rfl
  | _ => rfl

theorem sizeOf_lt_of_mem_parts {t s : Tree} (h : s ∈ t.parts) : sizeOf s < sizeOf t := by
  cases t with
  | list items =>
    have hmem : s ∈ items := h
    have := List.sizeOf_lt_of_mem hmem
    simp only [Tree.list.sizeOf_spec]
    omega
  | map entries =>
    obtain ⟨⟨key, value⟩, he, rfl⟩ := List.mem_map.mp h
    have := List.sizeOf_lt_of_mem he
    simp only [Prod.mk.sizeOf_spec, Tree.map.sizeOf_spec] at this ⊢
    omega
  | _ => cases h

/-- What holds of a tree if it holds of those right below it holds of all trees. -/
theorem induction_parts {P : Tree → Prop} (step : ∀ t : Tree, (∀ s ∈ t.parts, P s) → P t)
    (t : Tree) : P t :=
  step t fun s _ => induction_parts step s
termination_by sizeOf t
decreasing_by exact sizeOf_lt_of_mem_parts ‹_›

theorem mem_placesFrom {i : Nat} {trees : List Tree} {place : List Nat} :
    place ∈ placesFrom i trees ↔
      ∃ j s inner, trees[j]? = some s ∧ inner ∈ s.places ∧ place = (i + j) :: inner := by
  induction trees generalizing i with
  | nil => simp [placesFrom]
  | cons t rest ih =>
    rw [placesFrom, List.mem_append, List.mem_map, ih]
    constructor
    · rintro (⟨inner, hinner, rfl⟩ | ⟨j, s, inner, hs, hinner, rfl⟩)
      · exact ⟨0, t, inner, rfl, hinner, rfl⟩
      · exact ⟨j + 1, s, inner, hs, hinner, by rw [Nat.add_assoc, Nat.add_comm 1]⟩
    · rintro ⟨_ | j, s, inner, hs, hinner, rfl⟩
      · cases hs
        exact .inl ⟨inner, hinner, rfl⟩
      · exact .inr ⟨j, s, inner, hs, hinner, by rw [Nat.add_assoc, Nat.add_comm 1]⟩

/-- Mappings stand at the listed places, and only there. -/
theorem mem_places_iff {t : Tree} {place : List Nat} :
    place ∈ t.places ↔ ∃ entries, t.at? place = some (.map entries) := by
  induction place generalizing t with
  | nil =>
    rw [places_eq, List.mem_append, mem_placesFrom]
    cases t <;> simp [isMap, at?]
  | cons i inner ih =>
    have hhead : i :: inner ∉ (if t.isMap then [[]] else []) := by split <;> simp
    rw [places_eq, List.mem_append, or_iff_right hhead, mem_placesFrom, at?]
    simp only [Nat.zero_add, List.cons.injEq, Option.bind_eq_some_iff]
    constructor
    · rintro ⟨_, s, _, hs, hinner, rfl, rfl⟩
      obtain ⟨entries, hentries⟩ := ih.mp hinner
      exact ⟨entries, s, hs, hentries⟩
    · rintro ⟨entries, s, hs, hentries⟩
      exact ⟨i, s, inner, hs, ih.mpr ⟨entries, hentries⟩, rfl, rfl⟩

/-! ## Order -/

theorem pairwise_placesFrom {i : Nat} {trees : List Tree}
    (h : ∀ t ∈ trees, t.places.Pairwise (· < ·)) : (placesFrom i trees).Pairwise (· < ·) := by
  induction trees generalizing i with
  | nil => exact .nil
  | cons t rest ih =>
    rw [placesFrom, List.pairwise_append, List.pairwise_map]
    refine ⟨(h t (.head rest)).imp fun hlt => List.cons_lt_cons_iff.mpr (.inr ⟨rfl, hlt⟩),
      ih fun s hs => h s (.tail t hs), ?_⟩
    -- what is below one tree against what is below a later one
    intro p hp q hq
    obtain ⟨first, -, rfl⟩ := List.mem_map.mp hp
    obtain ⟨j, s, second, -, -, rfl⟩ := mem_placesFrom.mp hq
    exact List.cons_lt_cons_iff.mpr (.inl (by omega))

/-- The places of mappings are listed in their order. -/
theorem pairwise_places (t : Tree) : t.places.Pairwise (· < ·) := by
  induction t using induction_parts with
  | step t ih =>
    rw [places_eq, List.pairwise_append]
    refine ⟨by split <;> simp, pairwise_placesFrom ih, ?_⟩
    intro p hp q hq
    obtain ⟨j, s, inner, -, -, rfl⟩ := mem_placesFrom.mp hq
    split at hp
    · rw [List.mem_singleton.mp hp]
      exact List.nil_lt_cons _ _
    · cases hp

theorem map_at?_placesFrom {t : Tree} {i : Nat} {trees : List Tree}
    (h : ∀ s ∈ trees, s.places.map s.at? = s.mappings.map some) (hdrop : t.parts.drop i = trees) :
    (placesFrom i trees).map t.at? = (listMappings trees).map some := by
  induction trees generalizing i with
  | nil => rfl
  | cons s rest ih =>
    have hat : t.parts[i]? = some s := by rw [← List.head?_drop, hdrop]; rfl
    have hrest : t.parts.drop (i + 1) = rest := by rw [← List.tail_drop, hdrop]; rfl
    have hstep : t.at? ∘ (i :: ·) = s.at? := by
      funext place
      rw [Function.comp_apply, at?, hat, Option.bind_some]
    rw [placesFrom, List.map_append, List.map_map, hstep, h s (.head rest),
      ih (fun s hs => h s (.tail _ hs)) hrest, listMappings, List.map_append]

/-- The recursion lists what stands at the places of mappings. -/
theorem map_at?_places (t : Tree) : t.places.map t.at? = t.mappings.map some := by
  induction t using induction_parts with
  | step t ih =>
    rw [places_eq, mappings_eq, List.map_append, List.map_append, map_at?_placesFrom ih rfl]
    split <;> rfl

/-- The walk ends, and it meets each mapping of a tree once, a mapping before those below it, and
those below one value or item before those below a later one: it meets what the recursion lists. -/
theorem walk_in_order (root : Tree) :
    (∀ visited, walkLoop.Ends ([], [root]) visited ↔ visited = root.walk) ∧
      root.walk = root.mappings ∧
      ∃ places : List (List Nat), places.Pairwise (· < ·) ∧
        (∀ place, place ∈ places ↔ ∃ entries, root.at? place = some (.map entries)) ∧
        places.map root.at? = root.walk.map some := by
  refine ⟨fun visited => ?_, walk_eq_mappings root, root.places, pairwise_places root,
    fun place => mem_places_iff, ?_⟩
  · rw [Loop.ends_iff, run_walkLoop]
  · rw [walk_eq_mappings, map_at?_places]

end EndpointCatalog.Tree
