/-
EndpointCatalog.Cst.FaultSearch — the line of the first fault, without
recursion.

The search works off a stack of nodes. It leaves out the children below which
nothing is known to be wrong, so that it looks at the nodes around faults only.
-/
import EndpointCatalog.Cst.Node
import EndpointCatalog.Loop

namespace EndpointCatalog.Cst

namespace Node

/-- The children of a node that the search goes into, if `hasError` tells of a node that something
is wrong in it. -/
def suspects (hasError : Node → Bool) (n : Node) : List Node :=
  (n.children.map Prod.snd).filter fun c => hasError c || c.label.isMissing

/-- The size of all trees on a stack. -/
noncomputable def sizeOfAll : List Node → Nat
  | [] => 0
  | n :: rest => sizeOf n + sizeOfAll rest

theorem sizeOfAll_append (before after : List Node) :
    sizeOfAll (before ++ after) = sizeOfAll before + sizeOfAll after := by
  induction before with
  | nil => exact (Nat.zero_add _).symm
  | cons n rest ih => rw [List.cons_append, sizeOfAll, sizeOfAll, ih, Nat.add_assoc]

theorem sizeOfAll_filter_lt (keep : Node → Bool) (children : List (Option String × Node)) :
    sizeOfAll ((children.map Prod.snd).filter keep) < sizeOf children := by
  induction children with
  | nil => simp [sizeOfAll]
  | cons c rest ih =>
    obtain ⟨name, child⟩ := c
    simp only [List.map_cons, List.filter_cons, List.cons.sizeOf_spec, Prod.mk.sizeOf_spec]
    split
    · rw [sizeOfAll]
      omega
    · omega

theorem sizeOfAll_suspects_lt (hasError : Node → Bool) (n : Node) :
    sizeOfAll (n.suspects hasError) < sizeOf n := by
  obtain ⟨l, cs⟩ := n
  refine Nat.lt_trans (sizeOfAll_filter_lt _ cs) ?_
  simp only [Node.mk.sizeOf_spec]
  omega

end Node

/-- The search for the line of the first fault over a stack of nodes; `none` if the stack is worked
off and no fault was found. -/
def faultSearch (hasError : Node → Bool) : Loop (List Node) (Option Nat) where
  round
    | [] => .inr none
    | n :: rest =>
      if n.isFaulty then .inr (some (n.label.row + 1))
      else .inl (n.suspects hasError ++ rest)
  wellFounded := by
    refine Loop.wellFounded_of_pending Node.sizeOfAll fun {s t} h => ?_
    split at h
    · cases h
    · rename_i n rest
      split at h
      · cases h
      · cases h
        rw [Node.sizeOfAll_append, Node.sizeOfAll]
        exact Nat.add_lt_add_right (n.sizeOfAll_suspects_lt hasError) _

/-- The line of the first fault in a tree; the line of the tree itself if the search finds none. -/
def firstErrorLine (hasError : Node → Bool) (root : Node) : Nat :=
  ((faultSearch hasError).run [root]).getD (root.label.row + 1)

end EndpointCatalog.Cst
