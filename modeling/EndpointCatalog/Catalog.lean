/-
EndpointCatalog.Catalog — the endpoints of all source files below a
directory.

The records of the files stand one after the other, in the order of the
files. The first file that cannot be read or parsed ends the catalog with
its error; there are no partial catalogs.
-/
import EndpointCatalog.Extraction
import EndpointCatalog.FileTree.Visit

namespace EndpointCatalog

/-- The path of a source file as its records name it: as it is, or seen from a directory. -/
def sourceLabel (seenFrom : Option Path) (p : Path) : Except Failure Path :=
  match seenFrom with
  | none => .ok p
  | some base =>
    match p.relativeTo? base with
    | some short => .ok short
    | none =>
      .error (.badValue (quotedString p.toString ++ " is not in the subpath of " ++
        quotedString base.toString ++ " OR one path is relative and the other is absolute."))

/-- The records of a source, by its language. -/
def Source.endpoints (source : Source) (s : Search) : Logged (List EndpointRecord) :=
  match source.path.language? with
  | some .typed => source.typedEndpoints s
  | some .plain => source.scriptEndpoints s
  | none => pure []

namespace Disk

/-- The source at a path. -/
def source (d : Disk) (seenFrom : Option Path) (p : Path) : Except Failure Source :=
  match sourceLabel seenFrom p with
  | .error e => .error e
  | .ok label =>
    match d.readText p with
    | .ok text => .ok ⟨p, Text.ofString label.toString, text⟩
    | .error e => .error (.discovery (.fileSystem p.toString e.reason))

/-- The records of the file at a path. -/
def fileEndpoints (d : Disk) (s : Search) (seenFrom : Option Path) (p : Path) :
    Logged (List EndpointRecord) := do
  let source ← liftM (d.source seenFrom p)
  source.endpoints s

/-- The records of some files, one file after the other. -/
def filesEndpoints (d : Disk) (s : Search) (seenFrom : Option Path) :
    List Path → Logged (List EndpointRecord)
  | [] => pure []
  | p :: rest => do
    let first ← d.fileEndpoints s seenFrom p
    let others ← d.filesEndpoints s seenFrom rest
    pure (first ++ others)

/-- The catalog of a directory. -/
def catalog (d : Disk) (s : Search) (ignored : List String) (seenFrom : Option Path)
    (root : Path) : Logged (List EndpointRecord) := do
  match d.sourceFiles ignored root with
  | .error e => throw (.discovery e)
  | .ok files => do
    let records ← d.filesEndpoints s seenFrom files
    Logged.log .debug
      ("Walked " ++ root.toString ++ ": " ++ toString records.length ++ " endpoint(s)")
    pure records

end Disk

end EndpointCatalog
