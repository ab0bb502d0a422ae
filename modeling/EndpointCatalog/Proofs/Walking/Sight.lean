/-
EndpointCatalog.Proofs.Walking.Sight — a walk that looks at directories one by
one.

A walk lists a directory, reads the sources in it, and only then comes to the
directories below. `Sight` is what it meets on the way, whatever the reason
why a file cannot be read or a directory cannot be listed. `walk` is the walk
itself, with the tasks that are left on a stack, and each source is read
before the next directory is listed.

* `walk_eq`: it deals with its `meetings`, in order, until one of them fails.
* `catalog_eq_walk`: the catalog of a disk is a walk of what the disk shows.
-/
import EndpointCatalog.Catalog
import EndpointCatalog.Proofs.SourceFiles

namespace EndpointCatalog

/-- What a walk sees under a name. -/
inductive Sight where
  /-- No directory: the text that it holds, or the reason why it cannot be read. -/
  | file (text : Except String (List Char))
  /-- A link to a directory. -/
  | linked
  | directory (entries : List (String × Sight))
  /-- A directory that cannot be listed, and the reason. -/
  | closed (reason : String)

/-- What a walk deals with: a source file, or a directory that cannot be listed. -/
inductive Meeting where
  | source (p : Path) (text : Except String (List Char))
  | closed (spelled reason : String)

namespace Meeting

/-- The source that is met, or the failure to get at it. The path is seen from a directory before
the file is read. -/
def source? (seenFrom : Option Path) : Meeting → Except Failure Source
  | source p text =>
    match sourceLabel seenFrom p with
    | .error e => .error e
    | .ok label =>
      match text with
      | .ok text => .ok ⟨p, Text.ofString label.toString, text⟩
      | .error reason => .error (.discovery (.fileSystem p.toString reason))
  | closed spelled reason => .error (.discovery (.fileSystem spelled reason))

/-- Deals with a meeting: the records of a source. -/
def records (s : Search) (seenFrom : Option Path) (m : Meeting) : Logged (List EndpointRecord) := do
  let source ← liftM (m.source? seenFrom)
  source.endpoints s

/-- Deals with some meetings, one after the other. -/
def allRecords (s : Search) (seenFrom : Option Path) :
    List Meeting → Logged (List EndpointRecord)
  | [] => pure []
  | m :: rest => do
    let first ← m.records s seenFrom
    let others ← allRecords s seenFrom rest
    pure (first ++ others)

end Meeting

namespace Sight

open Visit (sortByName)

/-- The spelling of an entry behind that of its directory. -/
def spelledBelow (spelled name : String) : String :=
  if spelled.toList.getLast? = some '/' then spelled ++ name else spelled ++ "/" ++ name

/-- The text of an entry that is no directory. -/
def text? : String × Sight → Option (String × Except String (List Char))
  | (name, file text) => some (name, text)
  | (_, linked) => none
  | (_, directory _) => none
  | (_, closed _) => none

/-- The sources in a directory, in ascending order of their names. -/
def ownSources (p : Path) (entries : List (String × Sight)) : List Meeting :=
  ((sortByName (entries.filterMap text?)).filter fun entry =>
    (p.child entry.1).language?.isSome).map fun entry => .source (p.child entry.1) entry.2

mutual

/-- What a walk meets, in the order of the walk. -/
def meetings (ignored : List String) (spelled : String) (p : Path) : Sight → List Meeting
  | file _ => []
  | linked => []
  | directory entries => ownSources p entries ++
      (sortByName (meetingsBelow ignored spelled p entries)).flatMap Prod.snd
  | closed reason => [.closed spelled reason]

/-- What a walk meets below some entries, beside the names of the entries. -/
def meetingsBelow (ignored : List String) (spelled : String) (p : Path) :
    List (String × Sight) → List (String × List Meeting)
  | [] => []
  | (name, sight) :: rest =>
    if (p.child name).isIgnored ignored then meetingsBelow ignored spelled p rest
    else
      (name, meetings ignored (spelledBelow spelled name) (p.child name) sight) ::
        meetingsBelow ignored spelled p rest

end

/-! ## The walk -/

/-- What is still to be done. -/
inductive Task where
  | deal (m : Meeting)
  | look (spelled : String) (p : Path) (sight : Sight)

/-- What is to be done in a directory: its sources first, then what is below it. -/
def tasks (ignored : List String) (spelled : String) (p : Path) (entries : List (String × Sight)) :
    List Task :=
  (ownSources p entries).map .deal ++
    (sortByName (entries.filter fun entry => entry.1 ∉ ignored)).map fun entry =>
      .look (spelledBelow spelled entry.1) (p.child entry.1) entry.2

/-- How much there is to be seen. -/
noncomputable def weight : List Task → Nat
  | [] => 0
  | .deal _ :: rest => weight rest
  | .look _ _ sight :: rest => sizeOf sight + weight rest

theorem weight_append (first second : List Task) :
    weight (first ++ second) = weight first + weight second := by
  induction first with
  | nil => simp [weight]
  | cons task rest ih =>
    cases task with
    | deal m => exact ih
    | look spelled p sight => simp only [List.cons_append, weight, ih, Nat.add_assoc]

theorem weight_perm {first second : List Task} (h : first.Perm second) :
    weight first = weight second := by
  induction h with
  | nil => rfl
  | cons task _ ih => cases task <;> simp only [weight, ih]
  | swap task other rest => cases task <;> cases other <;> simp [weight, Nat.add_left_comm]
  | trans _ _ ihFirst ihSecond => exact ihFirst.trans ihSecond

theorem weight_deal (ms : List Meeting) : weight (ms.map .deal) = 0 := by
  induction ms with
  | nil => rfl
  | cons m rest ih => exact ih

/-- What is below the entries of a directory is less than the directory. -/
theorem weight_look (spelling : String → String) (place : String → Path)
    (entries : List (String × Sight)) :
    weight (entries.map fun entry => .look (spelling entry.1) (place entry.1) entry.2) ≤
      sizeOf entries := by
  induction entries with
  | nil => exact Nat.zero_le _
  | cons entry rest ih =>
    obtain ⟨name, sight⟩ := entry
    simp only [List.map_cons, weight, List.cons.sizeOf_spec, Prod.mk.sizeOf_spec]
    omega

theorem sizeOf_filter_le (p : String × Sight → Bool) (entries : List (String × Sight)) :
    sizeOf (entries.filter p) ≤ sizeOf entries := by
  induction entries with
  | nil => exact Nat.le_refl _
  | cons entry rest ih =>
    rw [List.filter_cons]
    split <;> simp only [List.cons.sizeOf_spec] <;> omega

/-- What is done in a directory is less than to look at it. -/
theorem weight_tasks (ignored : List String) (spelled : String) (p : Path)
    (entries : List (String × Sight)) :
    weight (tasks ignored spelled p entries) < sizeOf (directory entries) := by
  have hperm := (Visit.sortByName_perm (entries.filter fun entry => entry.1 ∉ ignored)).map
    fun entry => Task.look (spelledBelow spelled entry.1) (p.child entry.1) entry.2
  have hbelow := weight_look (spelledBelow spelled) p.child
    (entries.filter fun entry => entry.1 ∉ ignored)
  have hkept := sizeOf_filter_le (fun entry => entry.1 ∉ ignored) entries
  -- The sources weigh nothing, and the order of the directories does not matter.
  rw [tasks, weight_append, weight_deal, weight_perm hperm, directory.sizeOf_spec]
  omega

/-- Does the tasks on a stack, one after the other; a directory puts its own tasks on top. -/
def walk (s : Search) (ignored : List String) (seenFrom : Option Path) :
    List Task → Logged (List EndpointRecord)
  | [] => pure []
  | .deal m :: rest => do
    let first ← m.records s seenFrom
    let others ← walk s ignored seenFrom rest
    pure (first ++ others)
  | .look _ _ (.file _) :: rest => walk s ignored seenFrom rest
  | .look _ _ .linked :: rest => walk s ignored seenFrom rest
  | .look spelled p (.directory entries) :: rest =>
    walk s ignored seenFrom (tasks ignored spelled p entries ++ rest)
  | .look spelled _ (.closed reason) :: _ =>
    throw (.discovery (.fileSystem spelled reason))
termination_by stack => (weight stack, stack.length)
decreasing_by
  all_goals simp only [weight, weight_append]
  · exact Prod.Lex.right _ (Nat.lt_succ_self _)
  · exact Prod.Lex.left _ _ (by simp only [file.sizeOf_spec]; omega)
  · exact Prod.Lex.left _ _ (by simp only [linked.sizeOf_spec]; omega)
  · have hless := weight_tasks ignored spelled p entries
    exact Prod.Lex.left _ _ (by omega)

/-- What a task meets. -/
def Task.meetings (ignored : List String) : Task → List Meeting
  | deal m => [m]
  | look spelled p sight => sight.meetings ignored spelled p

theorem meetingsBelow_eq (ignored : List String) (spelled : String) (p : Path)
    (entries : List (String × Sight)) : meetingsBelow ignored spelled p entries =
      (entries.filter fun entry => entry.1 ∉ ignored).map fun entry =>
        (entry.1, entry.2.meetings ignored (spelledBelow spelled entry.1) (p.child entry.1)) := by
  induction entries with
  | nil => rfl
  | cons entry rest ih =>
    have hname : (p.child entry.1).isIgnored ignored = decide (entry.1 ∈ ignored) := by
      simp [Path.isIgnored, Path.name, Path.child]
    by_cases hignored : entry.1 ∈ ignored
    · simp [meetingsBelow, hname, hignored, ih]
    · simp [meetingsBelow, hname, hignored, ih]

/-- What is met in a directory: its sources, then what is met below it. -/
theorem meetings_directory (ignored : List String) (spelled : String) (p : Path)
    (entries : List (String × Sight)) :
    (directory entries).meetings ignored spelled p = ownSources p entries ++
      (sortByName (entries.filter fun entry => entry.1 ∉ ignored)).flatMap fun entry =>
        entry.2.meetings ignored (spelledBelow spelled entry.1) (p.child entry.1) := by
  have hsorted := Visit.map_sortByName (f := fun entry : String × Sight => (entry.1,
    entry.2.meetings ignored (spelledBelow spelled entry.1) (p.child entry.1))) (fun _ => rfl)
    (entries.filter fun entry => entry.1 ∉ ignored)
  rw [meetings, meetingsBelow_eq, ← hsorted, List.flatMap_map]

theorem meetings_tasks (ignored : List String) (spelled : String) (p : Path)
    (entries : List (String × Sight)) :
    (tasks ignored spelled p entries).flatMap (Task.meetings ignored) =
      (directory entries).meetings ignored spelled p := by
  rw [meetings_directory]
  simp [tasks, List.flatMap_map, Task.meetings]

/-- A walk deals with what it meets, one after the other. -/
theorem walk_eq (s : Search) (ignored : List String) (seenFrom : Option Path) (stack : List Task) :
    walk s ignored seenFrom stack =
      Meeting.allRecords s seenFrom (stack.flatMap (Task.meetings ignored)) := by
  fun_induction walk s ignored seenFrom stack with
  | case1 => rfl
  | case2 rest m ih =>
    simp only [ih]
    rfl
  | case3 rest spelled p text ih => exact ih
  | case4 rest spelled p ih => exact ih
  | case5 rest spelled p entries ih =>
    rw [ih, List.flatMap_append, meetings_tasks]
    rfl
  | case6 rest spelled p reason =>
    rfl

/-- What a walk from a path on meets. -/
def met (ignored : List String) (root : Path) (sight : Sight) : List Meeting :=
  sight.meetings ignored root.toString root

end Sight

/-! ## What a disk shows -/

namespace Disk

variable (d : Disk)

/-- The text of what stands at a path, or the reason why it cannot be read. -/
def textAt (p : Path) : Except String (List Char) := (d.readText p).mapError FileError.reason

mutual

/-- What a walk sees of a node that stands at a path. -/
def sightOf (p : Path) : FileNode → Sight
  | .file _ => .file (d.textAt p)
  | .link _ => if d.isDirectory p then .linked else .file (d.textAt p)
  | .directory entries => .directory (sightsBelow p entries)

/-- What a walk sees of some entries of a directory. -/
def sightsBelow (p : Path) : List (String × FileNode) → List (String × Sight)
  | [] => []
  | (name, node) :: rest => (name, sightOf (p.child name) node) :: sightsBelow p rest

end

/-- What a walk sees from a path on. -/
def sight (root : Path) : Sight :=
  match d.list root with
  | .ok entries => .directory (d.sightsBelow root entries)
  | .error e => .closed e.reason

variable {d : Disk} {p : Path} {ignored : List String}

theorem filterMap_text?_sightsBelow (entries : List (String × FileNode)) :
    (d.sightsBelow p entries).filterMap Sight.text? =
      (entries.filter (Visit.isFile d.isDirectory p)).map fun entry =>
        (entry.1, d.textAt (p.child entry.1)) := by
  induction entries with
  | nil => rfl
  | cons entry rest ih =>
    obtain ⟨name, node⟩ := entry
    cases node with
    | file content =>
      simp [sightsBelow, sightOf, Sight.text?, Visit.isFile, List.filter_cons, ih]
    | directory entries =>
      simp [sightsBelow, sightOf, Sight.text?, Visit.isFile, List.filterMap_cons, ih]
    | link target =>
      cases hdirectory : d.isDirectory (p.child name) <;>
        simp [sightsBelow, sightOf, Sight.text?, Visit.isFile, List.filterMap_cons,
          hdirectory, ih]

theorem ownSources_sightsBelow (entries : List (String × FileNode)) :
    Sight.ownSources p (d.sightsBelow p entries) =
      ((Visit.ownSources d.isDirectory p entries).map p.child).map fun q =>
        .source q (d.textAt q) := by
  have hsorted := Visit.map_sortByName
    (f := fun entry : String × FileNode => (entry.1, d.textAt (p.child entry.1))) (fun _ => rfl)
    (entries.filter (Visit.isFile d.isDirectory p))
  rw [Sight.ownSources, filterMap_text?_sightsBelow, ← hsorted, Visit.ownSources,
    ← Visit.map_fst_sortByName]
  simp only [List.filter_map, List.map_map]
  rfl

mutual

/-- A walk of what a disk shows meets the sources that the disk finds. -/
theorem meetings_sightOf (spelled : String) (p : Path) : ∀ node : FileNode,
    (d.sightOf p node).meetings ignored spelled p =
      (Visit.sources (Visit.ofNode ignored d.isDirectory p node)).map fun q =>
        .source q (d.textAt q)
  | .file _ => rfl
  | .link target => by
    cases hdirectory : d.isDirectory p <;> simp [sightOf, hdirectory] <;> rfl
  | .directory entries => by
    have hsorted := Visit.map_sortByName (f := fun visited : String × List Visit =>
      (visited.1, (Visit.sources visited.2).map fun q => Meeting.source q (d.textAt q)))
      (fun _ => rfl) (Visit.below ignored d.isDirectory p entries)
    rw [sightOf, Sight.meetings, meetingsBelow_sightsBelow, ownSources_sightsBelow, ← hsorted,
      Visit.sources_ofNode_directory, List.map_append, List.map_flatMap, List.flatMap_map]

theorem meetingsBelow_sightsBelow (spelled : String) (p : Path) :
    ∀ entries : List (String × FileNode),
      Sight.meetingsBelow ignored spelled p (d.sightsBelow p entries) =
        (Visit.below ignored d.isDirectory p entries).map fun entry =>
          (entry.1, (Visit.sources entry.2).map fun q => .source q (d.textAt q))
  | [] => rfl
  | (name, node) :: rest => by
    by_cases hignored : (p.child name).isIgnored ignored
    · simp [sightsBelow, Sight.meetingsBelow, Visit.below, hignored,
        meetingsBelow_sightsBelow _ p rest]
    · simp [sightsBelow, Sight.meetingsBelow, Visit.below, hignored,
        meetingsBelow_sightsBelow _ p rest, meetings_sightOf _ _ node]

end

theorem source_eq (seenFrom : Option Path) (p : Path) :
    d.source seenFrom p = (Meeting.source p (d.textAt p)).source? seenFrom := by
  simp only [source, Meeting.source?, textAt]
  cases sourceLabel seenFrom p with
  | error e => rfl
  | ok label => cases d.readText p <;> rfl

theorem filesEndpoints_eq (s : Search) (seenFrom : Option Path) (files : List Path) :
    d.filesEndpoints s seenFrom files =
      Meeting.allRecords s seenFrom (files.map fun p => .source p (d.textAt p)) := by
  induction files with
  | nil => rfl
  | cons p rest ih =>
    rw [filesEndpoints, fileEndpoints, source_eq, ih]
    rfl

/-- The catalog of a disk is a walk of what the disk shows, and a line of the log behind it. -/
theorem catalog_eq_walk (s : Search) (ignored : List String) (seenFrom : Option Path)
    (root : Path) : d.catalog s ignored seenFrom root = (do
      let records ← Sight.walk s ignored seenFrom [.look root.toString root (d.sight root)]
      Logged.log .debug
        ("Walked " ++ root.toString ++ ": " ++ toString records.length ++ " endpoint(s)")
      pure records) := by
  rw [Sight.walk_eq]
  simp only [List.flatMap_cons, List.flatMap_nil, List.append_nil, Sight.Task.meetings]
  unfold catalog
  cases hlist : d.list root with
  | error e =>
    have hfiles : d.sourceFiles ignored root = .error (.fileSystem root.toString e.reason) := by
      simp [sourceFiles, visits, hlist, Except.map]
    rw [hfiles, sight, hlist]
    rfl
  | ok entries =>
    have hmeetings : (Sight.directory (d.sightsBelow root entries)).meetings ignored
        root.toString root = _ := meetings_sightOf root.toString root (.directory entries)
    rw [sourceFiles_of_list hlist, sight, hlist]
    simp only [hmeetings, filesEndpoints_eq]

end Disk

end EndpointCatalog
