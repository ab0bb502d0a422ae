/-
EndpointCatalog.Cst.Node — concrete syntax trees.

A node covers a range of the source. Its children cover ranges within its
own, in order, and some of them stand under a grammar field. Nodes with a
kind of their own are named; marks and keywords are not.

* `Node.firstFaultyLine` tells where a tree is wrong: the line of the first
  node, parents before children, that is an error or missing.
-/
import EndpointCatalog.Tree

namespace EndpointCatalog.Cst

/-- What is known of a node beside its children. -/
structure Label where
  kind : String
  isNamed : Bool := true
  /-- Whether the node is not in the source and had to be added. -/
  isMissing : Bool := false
  /-- The number of characters before the node. -/
  start : Nat
  /-- The number of characters up to the end of the node. -/
  stop : Nat
  /-- The number of lines before the node's first one. -/
  row : Nat
deriving DecidableEq, Repr

/-- A concrete syntax tree. -/
inductive Node where
  | mk (label : Label) (children : List (Option String × Node))

namespace Node

/-- What is known of the node itself. -/
def label : Node → Label
  | .mk l _ => l

/-- The children with the fields that they stand under. -/
def children : Node → List (Option String × Node)
  | .mk _ cs => cs

/-- The kind of the node. -/
def kind (n : Node) : String := n.label.kind

/-- The node with another kind. -/
def withKind (kind : String) : Node → Node
  | .mk l cs => .mk { l with kind := kind } cs

/-- Whether a mark or keyword is among the children. -/
def hasMark (n : Node) (text : String) : Bool :=
  n.children.any fun (_, c) => !c.label.isNamed && c.kind == text

/-- The kind of what stands where the source is malformed. -/
def errorKind : String := "ERROR"

/-- Whether the node itself tells that the source is malformed. -/
def isFaulty (n : Node) : Bool := n.kind = errorKind || n.label.isMissing

mutual

/-- Whether the node or one below it tells that the source is malformed. -/
def hasFault : Node → Bool
  | .mk l cs => (l.kind = errorKind || l.isMissing) || anyFault cs

/-- Whether one of some trees tells that the source is malformed. -/
def anyFault : List (Option String × Node) → Bool
  | [] => false
  | (_, n) :: rest => n.hasFault || anyFault rest

end

mutual

/-- The first faulty node, parents before children. -/
def firstFault? : Node → Option Node
  | .mk l cs =>
    if l.kind = errorKind || l.isMissing then some (.mk l cs) else firstFaultIn? cs

/-- The first faulty node of some trees. -/
def firstFaultIn? : List (Option String × Node) → Option Node
  | [] => none
  | (_, n) :: rest => (n.firstFault?).or (firstFaultIn? rest)

end

/-- The line of the first faulty node; without one, the line of the node itself. -/
def firstFaultyLine (n : Node) : Nat := ((n.firstFault?).getD n).label.row + 1

end Node

end EndpointCatalog.Cst
