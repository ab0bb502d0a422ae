/-
EndpointCatalog.Cst.Projection — concrete syntax trees as plain trees.

Only named nodes are kept. A node becomes a mapping of its kind, line and
text, its children under a grammar field, and its other children. Strings
and numbers also carry their value, templates their static stretches.

* Under a field stands one node, or a list of nodes if there are several.
-/
import EndpointCatalog.Cst.Node
import EndpointCatalog.Dialect
import EndpointCatalog.Text.Escape

namespace EndpointCatalog.Cst

/-- The source text of a range. -/
def slice (source : Array Char) (start stop : Nat) : Text :=
  Text.ofChars (source.extract start stop).toList

/-- The source text of a node. -/
def Node.text (source : Array Char) (n : Node) : Text := slice source n.label.start n.label.stop

/-! ## Templates -/

/-- The kind of what is filled into a template. -/
def substitutionKind : String := "template_substitution"

/-- The ranges of the nodes that are filled into a template. -/
def substitutionRanges (children : List (Option String × Node)) : List (Nat × Nat) :=
  children.filterMap fun (_, n) =>
    if n.kind = substitutionKind then some (n.label.start, n.label.stop) else none

/-- The source between some ranges, from `start` to `stop`. -/
def stretches (source : Array Char) (start stop : Nat) : List (Nat × Nat) → List Text
  | [] => [slice source start stop]
  | (first, last) :: rest => slice source start first :: stretches source last stop rest

/-- The source of the static stretches of a template; its first and last character are its
delimiters. -/
def templateStretches (source : Array Char) (n : Node) : List Text :=
  stretches source (n.label.start + 1) (n.label.stop - 1) (substitutionRanges n.children)

/-! ## Nodes -/

/-- The text without its delimiters. -/
def undelimited (t : Text) : Text := (t.drop 1).dropLast

/-- What nodes of some kinds carry beside their children. -/
def extras (source : Array Char) (n : Node) : List (String × Tree) :=
  match n.kind with
  | "string" => [("value", .text (undelimited (n.text source)).unescape)]
  | "number" => [("value", .ofLiteral (readNumber (n.text source)))]
  | "template_string" =>
    [("quasis", .list ((templateStretches source n).map fun t => .text t.unescape)),
     ("substitutions", .ofNat (substitutionRanges n.children).length)]
  | _ => []

/-- Puts a node under a field. -/
def attachField (name : String) (child : Tree) (fields : Entries) : Entries :=
  let key := Text.ofString name
  match Entries.get? key fields with
  | none => fields ++ [(key, child)]
  | some (.list several) => Entries.insert key (.list (several ++ [child])) fields
  | some one => Entries.insert key (.list [one, child]) fields

/-- Children under fields, and other children. -/
abbrev Attached := Entries × List Tree

/-- Attaches a node to those that stand before it. -/
def attach (name : Option String) (child : Tree) (found : Attached) : Attached :=
  match name with
  | some name => (attachField name child found.1, found.2)
  | none => (found.1, found.2 ++ [child])

/-- The mapping of a node with its children attached. -/
def mapping (source : Array Char) (n : Node) (found : Attached) : Tree :=
  let plain : List (String × Tree) :=
    [("kind", .ofString n.kind), ("line", .ofNat (n.label.row + 1)), ("text", .text (n.text source)),
     ("fields", .map found.1), ("children", .list found.2)]
  .map ((plain ++ extras source n).map fun (key, value) => (Text.ofString key, value))

mutual

/-- A concrete syntax tree as a plain tree. -/
def project (source : Array Char) : Node → Tree
  | .mk l cs => mapping source (.mk l cs) (projectAll source cs ([], []))

/-- Attaches the named ones of some nodes. -/
def projectAll (source : Array Char) : List (Option String × Node) → Attached → Attached
  | [], found => found
  | (name, .mk l cs) :: rest, found =>
    if l.isNamed then
      projectAll source rest
        (attach name (mapping source (.mk l cs) (projectAll source cs ([], []))) found)
    else projectAll source rest found

end

end EndpointCatalog.Cst
