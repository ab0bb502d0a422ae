/-
EndpointCatalog.Tree — trees of mappings, lists and scalars.

Syntax trees, evaluated literals and record fields are all such trees: a
literal that cannot be evaluated is kept as the fragment of the syntax tree
that it is.

* A mapping is an association list in insertion order; `insert` keeps the
  position of a key that is already there.
-/
import EndpointCatalog.Text
import EndpointCatalog.Number.Binary64

namespace EndpointCatalog

/-- A tree of mappings, lists and scalars. -/
inductive Tree where
  | null
  | bool (b : Bool)
  | int (n : Int)
  | float (x : Binary64)
  | text (t : Text)
  | list (items : List Tree)
  | map (entries : List (Text × Tree))
  | regex (pattern : Text) (multiline ignoreCase : Bool)
deriving Inhabited

/-- A mapping's entries in insertion order. -/
abbrev Entries := List (Text × Tree)

namespace Entries

/-- The value under a key. -/
def get? (key : Text) : Entries → Option Tree
  | [] => none
  | (k, v) :: rest => if k = key then some v else get? key rest

/-- Sets a key: in its place if it is there, else at the end. -/
def insert (key : Text) (value : Tree) : Entries → Entries
  | [] => [(key, value)]
  | (k, v) :: rest => if k = key then (k, value) :: rest else (k, v) :: insert key value rest

/-- Sets a key only if it is not there. -/
def insertNew (key : Text) (value : Tree) (entries : Entries) : Entries :=
  match get? key entries with
  | some _ => entries
  | none => entries ++ [(key, value)]

/-- Sets all keys of the second mapping in the first. -/
def update (entries extra : Entries) : Entries :=
  extra.foldl (fun es (k, v) => insert k v es) entries

/-- A mapping from pairs, the last of two equal keys winning in the first one's position. -/
def ofPairs (pairs : List (Text × Tree)) : Entries := update [] pairs

end Entries

namespace Tree

/-- The value under a key of a mapping. -/
def get? (node : Tree) (key : String) : Option Tree :=
  match node with
  | .map entries => Entries.get? key entries
  | _ => none

/-- The value under a key; null if the tree is no mapping or has no such key. -/
def get (node : Tree) (key : String) : Tree := (node.get? key).getD .null

/-- The items of a list; none for any other tree. -/
def items : Tree → List Tree
  | .list items => items
  | _ => []

/-- The text of a text tree. -/
def text? : Tree → Option Text
  | .text t => some t
  | _ => none

/-- Whether the tree is a mapping. -/
def isMap : Tree → Bool
  | .map _ => true
  | _ => false

/-- Whether the tree is null. -/
def isNull : Tree → Bool
  | .null => true
  | _ => false

/-- Whether the tree counts as true: neither null, false, zero nor empty. -/
def truthy : Tree → Bool
  | .null => false
  | .bool b => b
  | .int n => n ≠ 0
  | .float x => x.magnitude ≠ 0
  | .text t => !t.isEmpty
  | .list items => !items.isEmpty
  | .map entries => !entries.isEmpty
  | .regex _ _ _ => true

/-- A text tree from a string. -/
def ofString (s : String) : Tree := .text s

/-- An integer tree from a natural number. -/
def ofNat (n : Nat) : Tree := .int n

end Tree

end EndpointCatalog
