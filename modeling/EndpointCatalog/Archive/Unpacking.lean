/-
EndpointCatalog.Archive.Unpacking — the members of an archive as files.

Members may not stand outside the destination and links may not lead out of
it, whatever links were unpacked before. An archive is read once from front
to back: a link that cannot be made is replaced by the member that it stands
for, but content that has gone by cannot be read again.
-/
import EndpointCatalog.Archive.Member
import EndpointCatalog.FileTree.Disk

namespace EndpointCatalog.Archive

/-- Why unpacking stops. -/
inductive Obstacle where
  | fault (fault : Fault)
  /-- Something in the file tree is in the way. -/
  | file (error : FileError)
  /-- A second name of a file that is not in the archive. -/
  | noOriginal
deriving DecidableEq, Repr

/-! ## What may be unpacked -/

/-- A name without the slashes in front. -/
def relativeName (name : String) : String := String.ofList (name.toList.dropWhile (· = '/'))

/-- The components of a name. -/
def componentsOf (name : String) : List String := (Path.ofString name).parts

/-- The components above the last slash of a name. -/
def componentsAbove (name : String) : List String :=
  componentsOf (String.ofList (name.toList.reverse.dropWhile (· ≠ '/')).reverse)

/-- One more component behind those that count so far, last first. -/
def stepComponent (rooted : Bool) (done : List String) (component : String) : List String :=
  if component ≠ ".." then component :: done
  else match done with
    | [] => if rooted then [] else [".."]
    | last :: above => if last = ".." then ".." :: done else above

/-- A path in which `..` takes back what stands before it. -/
def withoutBacksteps (p : Path) : Path :=
  { p with parts := (p.parts.foldl (stepComponent p.isAbsolute) []).reverse }

/-- Where some components lead from the destination; it must be inside. -/
def placeInside (d : Disk) (base components : List String) (outside : String → Fault) :
    Except Obstacle Unit :=
  match Disk.realPlaceFrom d.root true Disk.mostLinks base components with
  | .error e => .error (.file e)
  | .ok place =>
    if base.isPrefixOf place then .ok ()
    else .error (.fault (outside (Disk.absolute place).toString))

/-- A link target as it is written. -/
def normalTarget (target : String) : String := (withoutBacksteps (Path.ofString target)).toString

/-- The member as it may be unpacked below a real directory. -/
def accept (d : Disk) (base : List String) (m : Member) : Except Obstacle Member := do
  let name := relativeName m.name
  placeInside d base (componentsOf name) (.outside m.name)
  match m.kind with
  | .file => pure { m with name := name }
  | .directory => pure { m with name := name }
  | .special => throw (.fault (.special m.name))
  | .link target => do
    if (Path.ofString target).isAbsolute then throw (.fault (.absoluteLink m.name))
    placeInside d base (componentsAbove name ++ componentsOf target) (.linkOutside m.name)
    pure { m with name := name, kind := .link (normalTarget target) }
  | .sameAs target => do
    if (Path.ofString target).isAbsolute then throw (.fault (.absoluteLink m.name))
    placeInside d base (componentsOf target) (.linkOutside m.name)
    pure { m with name := name, kind := .sameAs (normalTarget target) }

/-! ## Unpacking -/

/-- The state of unpacking. -/
structure Unpacking where
  disk : Disk
  /-- Whether the whole archive has been read. -/
  isPassed : Bool := false

/-- Why unpacking stops, and the disk as it is left. -/
structure Stop where
  obstacle : Obstacle
  disk : Disk

/-- Makes a directory that is not there, after those above it. What has been made stays when a
later step fails; a directory above that is there after all is no failure. -/
def makeAbove (d : Disk) (p : Path) : Disk × Option FileError :=
  let make (d : Disk) : Disk × Option FileError :=
    match d.makeDirectory p with
    | .ok made => (made, none)
    | .error e => (d, some e)
  if h : p.parts = [] then make d
  else if d.isThere p.parent then make d
  else
    have : p.parent.parts.length < p.parts.length := by
      simp only [Path.parent, List.length_dropLast]
      have := List.length_pos_iff.2 h
      omega
    match makeAbove d p.parent with
    | (above, none) => make above
    | (above, some .exists) => make above
    | (above, some e) => (above, some e)
termination_by p.parts.length

/-- Makes a directory, which may be there already. -/
def unpackDirectory (d : Disk) (p : Path) : Except Stop Disk :=
  match d.makeDirectory p with
  | .ok made => .ok made
  | .error .exists => if d.isDirectory p then .ok d else .error ⟨.file .exists, d⟩
  | .error e => .error ⟨.file e, d⟩

/-- Writes a file with its content. What there is of content that is cut off is written, too. -/
def unpackFile (s : Unpacking) (p : Path) (content : Option (List UInt8)) : Except Stop Disk :=
  if s.isPassed then .error ⟨.fault .passedContent, s.disk⟩
  else
    match s.disk.write p (content.getD []) with
    | .error e => .error ⟨.file e, s.disk⟩
    | .ok d => if content.isSome then .ok d else .error ⟨.fault .shortContent, d⟩

/-- Makes a link in place of a file or link that stands there. -/
def replaceByLink (d : Disk) (p : Path) (target : String) : Except FileError Disk :=
  match d.entryPlace p with
  | .ok (_, some (.directory _)) => .error .isDirectory
  | .ok (_, some _) =>
    match d.remove p with
    | .ok freed => freed.makeLink p target
    | .error e => .error e
  | _ => d.makeLink p target

/-- Gives a file a second name. -/
def giveName (d : Disk) (p original : Path) : Except FileError Disk :=
  match d.entryPlace original, d.entryPlace p with
  | .ok (_, some (.directory _)), _ => .error .isDirectory
  | .ok (_, some node), .ok (names, none) => .ok { d with root := d.root.put names node }
  | _, .ok (_, some _) => .error .exists
  | .error e, _ => .error e
  | _, .error e => .error e
  | .ok (_, none), _ => .error .missing

/-- The last member of a name. -/
def memberNamed? (members : List Member) (name : Path) : Option Member :=
  members.reverse.find? fun m =>
    (withoutBacksteps (Path.ofString m.name)).toString = (withoutBacksteps name).toString

/-- The member that a link stands for: any in the archive for a link by name, one before it for a
second name. -/
def original? (archive : Contents) (before : List Member) (m : Member) : Option Member :=
  match m.kind with
  | .link target =>
    memberNamed? archive.members ⟨.relative, componentsAbove m.name ++ componentsOf target⟩
  | .sameAs target => memberNamed? before (Path.ofString target)
  | _ => none

/-- Makes the directories above a path that are not there. -/
def madeAbove (d : Disk) (p : Path) : Disk × Option FileError :=
  if d.isThere p.parent then (d, none) else makeAbove d p.parent

/-- Unpacks what a link stands for that cannot be made, or whose original is not there. -/
def unpackInstead (archive : Contents) (base : List String) (before : List Member)
    (unpackOther : Unpacking → Member → Except Stop Unpacking) (s : Unpacking) (m : Member)
    (failed : Bool) : Except Stop Unpacking :=
  match archive.fault, original? archive before m with
  | some fault, _ => .error ⟨.fault fault, s.disk⟩
  | none, none =>
    if failed then .ok { s with isPassed := true } else .error ⟨.noOriginal, s.disk⟩
  | none, some o =>
    match accept s.disk base o with
    | .error _ => .error ⟨.fault (.linkToRejected m.name o.name), s.disk⟩
    | .ok accepted => unpackOther { s with isPassed := true } accepted

/-- Unpacks a member at a path. -/
def unpackAt (archive : Contents) (destination : Path) (base : List String)
    (before : List Member) (p : Path) : Nat → Unpacking → Member → Except Stop Unpacking
  | 0, s, _ => .ok s
  | fuel + 1, s, m =>
    match madeAbove s.disk p with
    | (above, some e) => .error ⟨.file e, above⟩
    | (above, none) =>
      let s := { s with disk := above }
      let keep (d : Disk) : Unpacking := { s with disk := d }
      let instead : Bool → Except Stop Unpacking :=
        unpackInstead archive base before (unpackAt archive destination base before p fuel) s m
      match m.kind with
      | .file => (unpackFile s p m.content).map keep
      | .directory => (unpackDirectory s.disk p).map keep
      | .special => .ok s
      | .link target =>
        match replaceByLink s.disk p target with
        | .ok d => .ok (keep d)
        | .error _ => instead true
      | .sameAs target =>
        let original : Path := destination ++ Path.ofString target
        if s.disk.isThere original then
          match giveName s.disk p original with
          | .ok d => .ok (keep d)
          | .error _ => instead true
        else instead false

/-- Unpacks members, those before them being done. -/
def unpackMembers (archive : Contents) (destination : Path) (base : List String)
    (before : List Member) : List Member → Unpacking → Except Stop Unpacking
  | [], s => .ok s
  | m :: rest, s =>
    match accept s.disk base m with
    | .error obstacle => .error ⟨obstacle, s.disk⟩
    | .ok accepted => do
      let p : Path := destination ++ Path.ofString accepted.name
      let next ← unpackAt archive destination base before p (archive.members.length + 1) s accepted
      unpackMembers archive destination base (before ++ [m]) rest next

/-- Unpacks an archive below a directory. What has been unpacked stays if unpacking stops. -/
def unpackBelow (d : Disk) (destination : Path) (archive : Contents) : Except Stop Disk :=
  match d.realPlace true destination with
  | .error e => .error ⟨.file e, d⟩
  | .ok base => do
    let s ← unpackMembers archive destination base [] archive.members ⟨d, false⟩
    match archive.fault with
    | some fault => .error ⟨.fault fault, s.disk⟩
    | none => pure s.disk

/-- The disk with an archive unpacked below a directory, or why that cannot be. -/
def unpack (d : Disk) (destination : Path) (archive : Contents) : Except Obstacle Disk :=
  (unpackBelow d destination archive).mapError Stop.obstacle

end EndpointCatalog.Archive
