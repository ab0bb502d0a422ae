/-
EndpointCatalog.Dialect — what a syntax tree is asked.

Two kinds of syntax tree are read, and each question about the shape of a
node goes through a `Dialect`. So matching and metadata know nothing of
node types. A dialect answers `none` for nodes of kinds it does not know.

* `Literal` tells an evaluated literal from a node that is kept.
* `sizeOf_get_lt` is why reading a chain of members ends.
-/
import EndpointCatalog.Tree
import EndpointCatalog.Number.Literal

namespace EndpointCatalog

/-- A call of a member of a plain identifier: `receiver.member(arguments)`. -/
structure CallShape where
  receiver : Text
  member : Text
  arguments : List Tree
  line : Option Int
deriving Inhabited

/-- A declaration by an object pattern: the keys it binds and what it takes them from. -/
structure Destructuring where
  keys : List Text
  source : Tree
deriving Inhabited

/-- What a node says as a literal: a value, or nothing that is known, so that the node itself
is kept. -/
inductive Literal where
  | value (v : Tree)
  | kept
deriving Inhabited

namespace Literal

/-- The value, or the node itself if it is kept. -/
def toTree (node : Tree) : Literal → Tree
  | .value v => v
  | .kept => node

/-- The entries of a mapping that was evaluated; `none` for a node that is kept. -/
def entries? : Literal → Option Entries
  | .value (.map entries) => some entries
  | _ => none

end Literal

/-- The questions that a syntax tree is asked. -/
structure Dialect where
  /-- A call of a member of a plain identifier. -/
  callShape? : Tree → Option CallShape
  /-- The static text of a string or template; substitutions count for nothing. -/
  routeText? : Tree → Option Text
  /-- The literal that a node is; `none` if it is nested deeper than the given number. -/
  literal? : Nat → Tree → Option Literal
  /-- The static keys of an object literal and their value nodes. -/
  objectEntries? : Tree → Option (List (Text × Tree))
  /-- The parameter names of a function, empty for patterns. -/
  functionParams? : Tree → Option (List Text)
  /-- The names along a chain of members, the leftmost identifier first. -/
  memberChain? : Tree → Option (List Text)
  /-- What a call calls. -/
  callee? : Tree → Option Tree
  /-- The arguments of a call. -/
  callArguments : Tree → List Tree
  /-- A declaration by an object pattern. -/
  destructuring? : Tree → Option Destructuring

/-- How deep a literal may be nested and still be evaluated. -/
def deepestLiteral : Nat := 900

namespace Tree

/-- The tree's text, empty if it is none. -/
def textOf (t : Tree) : Text := t.text?.getD []

/-- The tree's integer. -/
def int? : Tree → Option Int
  | .int n => some n
  | _ => none

/-- Whether a key holds a certain text. -/
def hasText (node : Tree) (key value : String) : Bool :=
  match node.get key with
  | .text t => t == Text.ofString value
  | _ => false

/-- A number with its sign flipped. -/
def negated? : Tree → Option Tree
  | .int n => some (.int (-n))
  | .float x => some (.float (-x))
  | _ => none

/-- What a number literal says, as a tree. -/
def ofLiteral : NumberLiteral → Tree
  | .int n => .int n
  | .float x => .float x
  | .other t => .text t

/-! ## Sizes -/

theorem sizeOf_entriesGet?_lt {key : Text} {entries : Entries} {value : Tree}
    (h : Entries.get? key entries = some value) : sizeOf value < sizeOf entries := by
  induction entries with
  | nil => simp [Entries.get?] at h
  | cons e es ih =>
    obtain ⟨k, t⟩ := e
    simp only [Entries.get?] at h
    split at h
    · cases h
      simp only [List.cons.sizeOf_spec, Prod.mk.sizeOf_spec]; omega
    · have := ih h
      simp only [List.cons.sizeOf_spec, Prod.mk.sizeOf_spec]; omega

theorem one_lt_sizeOf_of_isMap {node : Tree} (h : node.isMap) : 1 < sizeOf node := by
  cases node <;> simp_all [isMap]
  rename_i entries
  cases entries with
  | nil => simp
  | cons head tail => simp only [List.cons.sizeOf_spec]; omega

/-- What stands under a key of a mapping is smaller than the mapping. -/
theorem sizeOf_get_lt {node : Tree} (h : node.isMap) (key : String) :
    sizeOf (node.get key) < sizeOf node := by
  cases node <;> simp_all only [isMap, Bool.false_eq_true]
  rename_i entries
  simp only [get, get?]
  cases hv : Entries.get? (Text.ofString key) entries with
  | none =>
    simp only [Option.getD_none, null.sizeOf_spec, map.sizeOf_spec]
    cases entries with
    | nil => simp
    | cons head tail => simp only [List.cons.sizeOf_spec]; omega
  | some value =>
    have := sizeOf_entriesGet?_lt hv
    simp only [Option.getD_some, map.sizeOf_spec]; omega

/-- What stands under a key is no larger than the tree. -/
theorem sizeOf_get_le (node : Tree) (key : String) : sizeOf (node.get key) ≤ sizeOf node := by
  by_cases h : node.isMap
  · exact Nat.le_of_lt (sizeOf_get_lt h key)
  · have : node.get key = .null := by
      cases node <;> simp_all [isMap, get, get?]
    rw [this]
    cases node <;> simp

theorem hasText_iff {node : Tree} {key value : String} :
    node.hasText key value ↔ node.get key = .text (Text.ofString value) := by
  unfold hasText
  cases node.get key with
  | text t => simp only [beq_iff_eq, text.injEq]
  | _ => simp only [Bool.false_eq_true, reduceCtorEq]

/-- A tree with a text under some key is a mapping. -/
theorem isMap_of_hasText {node : Tree} {key value : String} (h : node.hasText key value) :
    node.isMap := by
  cases node <;> simp_all [hasText, isMap, get, get?]

end Tree

end EndpointCatalog
