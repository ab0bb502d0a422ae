/-
EndpointCatalog.FileTree.Disk — a file tree with a current directory.

* `follow` walks a path, links included, to a real place: the names that
  lead there without links.
* `read`, `list`, `write`, `makeDirectory`, `makeDirectories`, `makeLink`
  and `remove` work on paths; what stands in the way is a `FileError`.
* `realPlace` is where a path would lead, also if parts of it are missing.
* `expandHome` puts a home directory in place of a leading `~`.
-/
import EndpointCatalog.Failure
import EndpointCatalog.FileTree
import EndpointCatalog.Path
import EndpointCatalog.Text.Utf8

namespace EndpointCatalog

/-- A file tree, seen from a current directory. -/
structure Disk where
  root : FileNode
  /-- The real names that lead to the current directory. -/
  current : List String := []
  /-- The home directory. -/
  home : String := "/"
  /-- The home directories of named users. -/
  homes : List (String × String) := []

namespace Disk

/-- How many links may be followed on the way to one place. -/
def mostLinks : Nat := 40

/-- Walks from a real directory along some names. The answer is the real place and what stands
there; the last name may be missing. -/
def follow (root : FileNode) (links : Nat) (place : List String) :
    List String → Except FileError (List String × Option FileNode)
  | [] => .ok (place, root.at? place)
  | name :: rest =>
    if name = ".." then follow root links place.dropLast rest
    else
      match root.at? (place ++ [name]) with
      | none => if rest.isEmpty then .ok (place ++ [name], none) else .error .missing
      | some (.directory _) => follow root links (place ++ [name]) rest
      | some (.file content) =>
        if rest.isEmpty then .ok (place ++ [name], some (.file content)) else .error .notDirectory
      | some (.link target) =>
        match links with
        | 0 => .error .linkLoop
        | fewer + 1 =>
          let path := Path.ofString target
          follow root fewer (if path.isAbsolute then [] else place) (path.parts ++ rest)
termination_by names => (links, names.length)

variable (d : Disk)

/-- Where the walk along a path starts. -/
def startOf (p : Path) : List String := if p.isAbsolute then [] else d.current

/-- The real place that a path leads to, and what stands there. -/
def place (p : Path) : Except FileError (List String × Option FileNode) :=
  follow d.root mostLinks (d.startOf p) p.parts

/-- What stands at a path. -/
def find (p : Path) : Except FileError FileNode :=
  match d.place p with
  | .ok (_, some node) => .ok node
  | .ok (_, none) => .error .missing
  | .error e => .error e

/-- The place of a path whose last name is not followed, and what stands there. -/
def entryPlace (p : Path) : Except FileError (List String × Option FileNode) :=
  match p.parts.getLast? with
  | none => d.place p
  | some name =>
    if name = ".." then d.place p
    else
      match d.place p.parent with
      | .error e => .error e
      | .ok (_, none) => .error .missing
      | .ok (above, some (.directory _)) =>
        .ok (above ++ [name], d.root.at? (above ++ [name]))
      | .ok (_, some _) => .error .notDirectory

/-- Whether something stands at a path. -/
def isThere (p : Path) : Bool :=
  match d.find p with
  | .ok _ => true
  | .error _ => false

/-- Whether a directory stands at a path. -/
def isDirectory (p : Path) : Bool :=
  match d.find p with
  | .ok node => node.isDirectory
  | .error _ => false

/-- The entries of the directory at a path. -/
def list (p : Path) : Except FileError (List (String × FileNode)) :=
  match d.find p with
  | .ok (.directory es) => .ok es
  | .ok _ => .error .notDirectory
  | .error e => .error e

/-- The bytes of the file at a path. -/
def read (p : Path) : Except FileError (List UInt8) :=
  match d.find p with
  | .ok (.file content) => .ok content
  | .ok _ => .error .isDirectory
  | .error e => .error e

/-- The characters of the file at a path, faults replaced and line breaks made line feeds. -/
def readText (p : Path) : Except FileError (List Char) :=
  (d.read p).map fun bytes => Utf8.normalBreaks (Utf8.decodeReplacing bytes)

/-- Writes a file. -/
def write (p : Path) (content : List UInt8) : Except FileError Disk :=
  match d.place p with
  | .error e => .error e
  | .ok (_, some (.directory _)) => .error .isDirectory
  | .ok (names, _) => .ok { d with root := d.root.put names (.file content) }

/-- Makes a directory where nothing stands. -/
def makeDirectory (p : Path) : Except FileError Disk :=
  match d.entryPlace p with
  | .error e => .error e
  | .ok (_, some _) => .error .exists
  | .ok (names, none) => .ok { d with root := d.root.put names FileNode.emptyDirectory }

/-- Makes a directory and those above it; it may be there already. -/
def makeDirectories (d : Disk) (p : Path) : Except FileError Disk :=
  match d.makeDirectory p with
  | .ok made => .ok made
  | .error .missing =>
    if h : p.parts = [] then .error .missing
    else
      have : p.parent.parts.length < p.parts.length := by
        simp only [Path.parent, List.length_dropLast]
        have := List.length_pos_iff.2 h
        omega
      match makeDirectories d p.parent with
      | .error e => .error e
      | .ok above =>
        match above.makeDirectory p with
        | .ok made => .ok made
        | .error e => if above.isDirectory p then .ok above else .error e
  | .error e => if d.isDirectory p then .ok d else .error e
termination_by p.parts.length

/-- Makes a link where nothing stands. -/
def makeLink (p : Path) (target : String) : Except FileError Disk :=
  match d.entryPlace p with
  | .error e => .error e
  | .ok (_, some _) => .error .exists
  | .ok (names, none) => .ok { d with root := d.root.put names (.link target) }

/-- Removes what stands at a path, with all that is below it; a link is not followed. -/
def remove (p : Path) : Except FileError Disk :=
  match d.entryPlace p with
  | .error e => .error e
  | .ok (_, none) => .error .missing
  | .ok (names, some _) => .ok { d with root := d.root.erase names }

/-- Where some names lead from a real directory: links are followed as far as there are any, and
names that are missing stand for themselves. If `strict`, nothing may stand below a file. -/
def realPlaceFrom (root : FileNode) (strict : Bool) (links : Nat) (place : List String) :
    List String → Except FileError (List String)
  | [] => .ok place
  | name :: rest =>
    if name = ".." then realPlaceFrom root strict links place.dropLast rest
    else
      match root.at? place, root.at? (place ++ [name]) with
      | some (.file _), _ =>
        if strict then .error .notDirectory
        else realPlaceFrom root strict links (place ++ [name]) rest
      | _, some (.link target) =>
        match links with
        | 0 => .error .linkLoop
        | fewer + 1 =>
          let path := Path.ofString target
          realPlaceFrom root strict fewer (if path.isAbsolute then [] else place)
            (path.parts ++ rest)
      | _, _ => realPlaceFrom root strict links (place ++ [name]) rest
termination_by names => (links, names.length)

/-- The real place of a path, parts of which may be missing. -/
def realPlace (strict : Bool) (p : Path) : Except FileError (List String) :=
  realPlaceFrom d.root strict mostLinks (d.startOf p) p.parts

/-- The absolute path of a real place. -/
def absolute (names : List String) : Path := ⟨.slash, names⟩

/-- The home directory that a first component names: `~` alone or a user behind it. -/
def homeOf? (component : String) : Option String :=
  match component.toList with
  | ['~'] => some d.home
  | '~' :: user => (d.homes.find? fun e => e.1 = String.ofList user).map Prod.snd
  | _ => none

/-- Puts a home directory in place of a leading `~`. -/
def expandHome (p : Path) : Except Failure Path :=
  match p.root, p.parts with
  | .relative, first :: rest =>
    if first.toList.head? = some '~' then
      match d.homeOf? first with
      | some home =>
        let base := Path.ofString home
        .ok { base with parts := base.parts ++ rest }
      | none => .error .unknownHome
    else .ok p
  | _, _ => .ok p

end Disk

end EndpointCatalog
