/-
EndpointCatalog.FileTree.Visit — the directories of a tree, and the source
files in them.

Directories are visited from above, and the entries of one directory in
ascending order of their names, whatever order they are stored in. Linked
directories are no files and are not visited. A directory that is ignored is
passed over with all that is below it; it is ignored by its own name, wherever
it stands, as are those of dependencies and of build output (`vendorNames`).

* `Disk.visits` are the visits below a path.
* `Disk.sourceFiles` are the source files in the order of the visits: those
  of a directory before those below it.
-/
import EndpointCatalog.FileTree.Disk

namespace EndpointCatalog

/-- Names of directories that hold dependencies or build output. -/
def vendorNames : List String :=
  [".git", "node_modules", "bower_components", "dist", "build", "coverage", ".next", ".nuxt",
   ".turbo", ".cache"]

/-- Whether a directory is to be passed over: its last component is among the names. -/
def Path.isIgnored (names : List String) (directory : Path) : Bool :=
  names.contains directory.name

/-- A directory and the names in it that are no directories, in ascending order. -/
structure Visit where
  directory : Path
  files : List String
deriving DecidableEq, Repr

namespace Visit

/-- Some names in ascending order. -/
def sortNames (names : List String) : List String := names.mergeSort fun a b => decide (a ≤ b)

/-- What belongs to some names, in ascending order of the names. -/
def sortByName {α : Type} (entries : List (String × α)) : List (String × α) :=
  entries.mergeSort fun a b => decide (a.1 ≤ b.1)

/-- The paths of the files of a directory. -/
def paths (v : Visit) : List Path := v.files.map v.directory.child

/-- Whether an entry is no directory; a link is one if it leads to one. -/
def isFile (leadsToDirectory : Path → Bool) (directory : Path) (entry : String × FileNode) :
    Bool :=
  match entry.2 with
  | .file _ => true
  | .directory _ => false
  | .link _ => !leadsToDirectory (directory.child entry.1)

mutual

/-- The visits of a directory and of those below it. -/
def ofNode (ignored : List String) (leadsToDirectory : Path → Bool) (p : Path) :
    FileNode → List Visit
  | .directory entries =>
    ⟨p, sortNames ((entries.filter (isFile leadsToDirectory p)).map Prod.fst)⟩ ::
      (sortByName (below ignored leadsToDirectory p entries)).flatMap Prod.snd
  | _ => []

/-- The visits below some entries, beside the names of the entries. -/
def below (ignored : List String) (leadsToDirectory : Path → Bool) (p : Path) :
    List (String × FileNode) → List (String × List Visit)
  | [] => []
  | (name, node) :: rest =>
    if (p.child name).isIgnored ignored then below ignored leadsToDirectory p rest
    else
      (name, ofNode ignored leadsToDirectory (p.child name) node) ::
        below ignored leadsToDirectory p rest

end

end Visit

/-- The languages of source files. -/
inductive SourceLanguage where
  /-- Scripts with type annotations, which must be well-formed. -/
  | typed
  /-- Plain scripts. -/
  | plain
deriving DecidableEq, Repr

/-- The language that a suffix stands for. -/
def SourceLanguage.ofSuffix? (suffix : String) : Option SourceLanguage :=
  if suffix = ".ts" then some .typed
  else if suffix = ".js" then some .plain
  else none

/-- The language of a source file. -/
def Path.language? (p : Path) : Option SourceLanguage := SourceLanguage.ofSuffix? p.suffix

namespace Disk

/-- The visits of the directory at a path and of those below it. -/
def visits (d : Disk) (ignored : List String) (root : Path) : Except FileError (List Visit) :=
  (d.list root).map fun entries =>
    Visit.ofNode ignored d.isDirectory root (.directory entries)

/-- The source files below a path. -/
def sourceFiles (d : Disk) (ignored : List String) (root : Path) :
    Except DiscoveryError (List Path) :=
  match d.visits ignored root with
  | .ok visits =>
    .ok (visits.flatMap fun v => v.paths.filter fun p => p.language?.isSome)
  | .error e => .error (.fileSystem root.toString e.reason)

end Disk

end EndpointCatalog
