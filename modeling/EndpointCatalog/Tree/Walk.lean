/-
EndpointCatalog.Tree.Walk — the mappings of a tree, in pre-order.

* `mappings` is the recursive definition: a mapping, then its values in key
  order; a list's items in order; nothing for a scalar.
* `walk` visits the same mappings with an explicit stack, so that the depth
  of the tree costs no recursion.
-/
import EndpointCatalog.Tree

namespace EndpointCatalog.Tree

/-! ## Recursive definition -/

mutual

/-- The mappings of a tree, a mapping before those below it. -/
def mappings : Tree → List Tree
  | .list items => listMappings items
  | .map entries => .map entries :: entryMappings entries
  | _ => []

/-- The mappings of some trees, one tree after the other. -/
def listMappings : List Tree → List Tree
  | [] => []
  | t :: rest => mappings t ++ listMappings rest

/-- The mappings below a mapping's values, in key order. -/
def entryMappings : List (Text × Tree) → List Tree
  | [] => []
  | (_, t) :: rest => mappings t ++ entryMappings rest

end

/-! ## Explicit stack -/

/-- Whether a tree has trees below it. -/
def isBranch : Tree → Bool
  | .list _ => true
  | .map _ => true
  | _ => false

/-- The values of a mapping that have trees below them, in key order. -/
def branches (entries : List (Text × Tree)) : List Tree :=
  (entries.map Prod.snd).filter isBranch

theorem sizeOf_append (xs ys : List Tree) :
    sizeOf (xs ++ ys) + 1 = sizeOf xs + sizeOf ys := by
  induction xs with
  | nil => simp; omega
  | cons x xs ih => simp only [List.cons_append, List.cons.sizeOf_spec]; omega

theorem sizeOf_branches_le (entries : List (Text × Tree)) :
    sizeOf (branches entries) ≤ sizeOf entries := by
  induction entries with
  | nil => simp [branches]
  | cons e es ih =>
    obtain ⟨k, t⟩ := e
    simp only [branches, List.map_cons, List.filter_cons] at ih ⊢
    split
    · simp only [List.cons.sizeOf_spec, Prod.mk.sizeOf_spec]; omega
    · simp only [List.cons.sizeOf_spec, Prod.mk.sizeOf_spec]; omega

/-- The work loop: `visited` holds the mappings met so far, last first, and the stack what is
still to be visited, next first. -/
def walkStack (visited : List Tree) (stack : List Tree) : List Tree :=
  match stack with
  | [] => visited.reverse
  | .list items :: rest => walkStack visited (items ++ rest)
  | .map entries :: rest => walkStack (.map entries :: visited) (branches entries ++ rest)
  | .null :: rest => walkStack visited rest
  | .bool _ :: rest => walkStack visited rest
  | .int _ :: rest => walkStack visited rest
  | .float _ :: rest => walkStack visited rest
  | .text _ :: rest => walkStack visited rest
  | .regex _ _ _ :: rest => walkStack visited rest
termination_by sizeOf stack
decreasing_by
  · have := sizeOf_append items rest
    simp only [List.cons.sizeOf_spec, Tree.list.sizeOf_spec]; omega
  · have := sizeOf_append (branches entries) rest
    have := sizeOf_branches_le entries
    simp only [List.cons.sizeOf_spec, Tree.map.sizeOf_spec]; omega
  all_goals simp only [List.cons.sizeOf_spec]; omega

/-- The mappings of a tree in visiting order. -/
def walk (root : Tree) : List Tree := walkStack [] [root]

end EndpointCatalog.Tree
