/-
EndpointCatalog.FileTree — files, links and directories as a value.

A node is looked up and replaced by the names that lead to it from above.
Links are nodes of their own here; `EndpointCatalog.FileTree.Disk` follows
them.
-/

namespace EndpointCatalog

/-- What stands at a place of a file tree. -/
inductive FileNode where
  | file (content : List UInt8)
  | link (target : String)
  /-- A directory; no two entries share a name. -/
  | directory (entries : List (String × FileNode))

namespace FileNode

/-- The entries of a directory; other nodes have none. -/
def entries : FileNode → List (String × FileNode)
  | .directory es => es
  | _ => []

/-- Whether the node is a directory. -/
def isDirectory : FileNode → Bool
  | .directory _ => true
  | _ => false

/-- The entry of a name. -/
def entry? (n : FileNode) (name : String) : Option FileNode :=
  (n.entries.find? fun e => e.1 = name).map Prod.snd

/-- The node that some names lead to. -/
def at? (n : FileNode) : List String → Option FileNode
  | [] => some n
  | name :: rest =>
    match n.entry? name with
    | some child => child.at? rest
    | none => none

/-- Entries with a node under a name: in place of the one that has this name, or else last. -/
def putEntry (name : String) (node : FileNode) : List (String × FileNode) →
    List (String × FileNode)
  | [] => [(name, node)]
  | e :: rest => if e.1 = name then (name, node) :: rest else e :: putEntry name node rest

/-- The tree with a node at the end of some names; directories that are missing on the way are
made. -/
def put (n : FileNode) : List String → FileNode → FileNode
  | [], new => new
  | name :: rest, new =>
    .directory (putEntry name (put ((n.entry? name).getD (.directory [])) rest new) n.entries)

/-- The tree without the node at the end of some names. -/
def erase (n : FileNode) : List String → FileNode
  | [] => n
  | [name] => .directory (n.entries.filter fun e => e.1 ≠ name)
  | name :: rest =>
    match n.entry? name with
    | some child => .directory (putEntry name (child.erase rest) n.entries)
    | none => n

/-- The empty directory. -/
def emptyDirectory : FileNode := .directory []

end FileNode

end EndpointCatalog
