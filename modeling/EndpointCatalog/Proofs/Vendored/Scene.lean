/-
EndpointCatalog.Proofs.Vendored.Scene — source trees that cannot be read
everywhere.

Detection and the catalog walk a source tree three times: for its manifests,
for a sample of its sources, and for all of them. `Scene` is what all three
come across, down to the bytes of the files, whatever the reason why a file
cannot be read or a directory cannot be listed.

* `stages`: the directories of a walk, in its order.
* `Scene.detect`, `Scene.catalog`: detection and catalog by their stages. The
  walk for manifests passes over a directory that it cannot list, the walks
  for sources end there.
* `detect_eq`, `catalog_eq`: a disk is detected and catalogued by its scene.
-/
import EndpointCatalog.Detection
import EndpointCatalog.Proofs.Walking.Sight

namespace EndpointCatalog

/-- What a file holds, or the reason why it cannot be read. -/
abbrev Content := Except String (List UInt8)

/-- What stands under a name, as far as it can be read. -/
inductive Scene where
  /-- No directory. -/
  | file (content : Content)
  /-- A link to a directory. -/
  | linked
  | directory (entries : List (String × Scene))
  /-- A directory that cannot be listed, and the reason. -/
  | closed (reason : String)

/-- What a walk comes to. -/
inductive Stage where
  /-- A directory, with its files in ascending order of their names. -/
  | listed (p : Path) (files : List (String × Content))
  | closed (spelled reason : String)

/-! ## The stages of a walk -/

namespace Scene

open Visit (sortByName)
open Sight (spelledBelow)

/-- The content of an entry that is no directory. -/
def content? : String × Scene → Option (String × Content)
  | (name, file content) => some (name, content)
  | (_, linked) => none
  | (_, directory _) => none
  | (_, closed _) => none

mutual

/-- The stages of a walk: a directory before those below it. -/
def stages (ignored : List String) (spelled : String) (p : Path) : Scene → List Stage
  | file _ => []
  | linked => []
  | directory entries => .listed p (sortByName (entries.filterMap content?)) ::
      (sortByName (stagesBelow ignored spelled p entries)).flatMap Prod.snd
  | closed reason => [.closed spelled reason]

/-- The stages below some entries, beside the names of the entries. -/
def stagesBelow (ignored : List String) (spelled : String) (p : Path) :
    List (String × Scene) → List (String × List Stage)
  | [] => []
  | (name, scene) :: rest =>
    if (p.child name).isIgnored ignored then stagesBelow ignored spelled p rest
    else
      (name, stages ignored (spelledBelow spelled name) (p.child name) scene) ::
        stagesBelow ignored spelled p rest

end

theorem stagesBelow_eq (ignored : List String) (spelled : String) (p : Path)
    (entries : List (String × Scene)) : stagesBelow ignored spelled p entries =
      (entries.filter fun entry => entry.1 ∉ ignored).map fun entry =>
        (entry.1, entry.2.stages ignored (spelledBelow spelled entry.1) (p.child entry.1)) := by
  induction entries with
  | nil => rfl
  | cons entry rest ih =>
    have hname : (p.child entry.1).isIgnored ignored = decide (entry.1 ∈ ignored) := by
      simp [Path.isIgnored, Path.name, Path.child]
    by_cases hignored : entry.1 ∈ ignored
    · simp [stagesBelow, hname, hignored, ih]
    · simp [stagesBelow, hname, hignored, ih]

/-- The stages of a directory: itself, then those of what is below it. -/
theorem stages_directory (ignored : List String) (spelled : String) (p : Path)
    (entries : List (String × Scene)) :
    (directory entries).stages ignored spelled p =
      .listed p (sortByName (entries.filterMap content?)) ::
        (sortByName (entries.filter fun entry => entry.1 ∉ ignored)).flatMap fun entry =>
          entry.2.stages ignored (spelledBelow spelled entry.1) (p.child entry.1) := by
  have hsorted := Visit.map_sortByName (f := fun entry : String × Scene => (entry.1,
    entry.2.stages ignored (spelledBelow spelled entry.1) (p.child entry.1))) (fun _ => rfl)
    (entries.filter fun entry => entry.1 ∉ ignored)
  rw [stages, stagesBelow_eq, ← hsorted, List.flatMap_map]

end Scene

/-! ## Contents -/

namespace Content

/-- The text of a source file, or the reason why it cannot be read. -/
def text (content : Content) : Except String (List Char) :=
  content.map fun bytes => Utf8.normalBreaks (Utf8.decodeReplacing bytes)

/-- The characters that are searched for import lines. -/
def searched? : Content → Option (List Char)
  | .error _ => none
  | .ok bytes => some (Utf8.decodeSkipping (bytes.take Disk.searchedBytes))

/-- The points of a source file's import lines. -/
def scoreImports (s : Score) (content : Content) : Score :=
  match content.searched? with
  | none => s
  | some text =>
    importHints.foldl (fun s hint =>
      if Disk.containsOneOf hint.2 text then s.add hint.1 importPoints else s) s

/-- The JSON value of a file. -/
def json? : Content → Option Tree
  | .ok bytes => (Utf8.decode? bytes).bind fun cs => Json.read? (Utf8.normalBreaks cs)
  | .error _ => none

/-- The dependencies of a manifest at a path; none if it cannot be read. -/
def dependencies (p : Path) (content : Content) : Logged (List Text) := do
  match content.json? with
  | some manifest => pure (dependenciesOf manifest)
  | none => do
    Logged.log .debug ("Unreadable package.json: " ++ p.toString)
    pure []

end Content

/-! ## Detection and catalog by stages -/

namespace Stage

/-- The sources of a stage, in ascending order of their names. -/
def sources : Stage → List (Path × Content)
  | listed p files => (files.filter fun entry => (p.child entry.1).language?.isSome).map
      fun entry => (p.child entry.1, entry.2)
  | closed _ _ => []

/-- The manifest of a stage. -/
def manifest? : Stage → Option (Path × Content)
  | listed p files => (files.find? fun entry => entry.1 = manifestName).map fun entry =>
      (p.child manifestName, entry.2)
  | closed _ _ => none

/-- What a walk for sources meets in a stage. -/
def meetings : Stage → List Meeting
  | listed p files => (listed p files).sources.map fun found => .source found.1 found.2.text
  | closed spelled reason => [.closed spelled reason]

/-- What a walk for a sample of the sources meets in a stage. -/
def finds : Stage → List (Except DiscoveryError Content)
  | listed p files => (listed p files).sources.map fun found => .ok found.2
  | closed spelled reason => [.error (.fileSystem spelled reason)]

/-- The points of some manifests. -/
def scoreManifests (s : Score) : List (Path × Content) → Logged Score
  | [] => pure s
  | (p, content) :: rest => do
    let names ← content.dependencies p
    scoreManifests (scoreDependencies s names) rest

/-- The first finds of a walk. The walk goes on until it finds one more than is wanted, so that
this one can still be a directory that ends it. -/
def sample (size : Nat) (finds : List (Except DiscoveryError Content)) :
    Except DiscoveryError (List Content) :=
  ((finds.take (size + 1)).mapM id).map fun contents => contents.take size

/-- The framework of some stages. -/
def detect (stages : List Stage) (size : Nat) : Logged Detection := do
  let fromManifests ← scoreManifests [] (stages.filterMap manifest?)
  match sample size (stages.flatMap finds) with
  | .error e => throw (.discovery e)
  | .ok contents => pure (.ofScore (contents.foldl Content.scoreImports fromManifests))

/-- The catalog of some stages. -/
def catalog (s : Search) (seenFrom : Option Path) (root : Path) (stages : List Stage) :
    Logged (List EndpointRecord) := do
  let records ← Meeting.allRecords s seenFrom (stages.flatMap meetings)
  Logged.log .debug
    ("Walked " ++ root.toString ++ ": " ++ toString records.length ++ " endpoint(s)")
  pure records

/-- Finds give their contents if each of them has one. -/
theorem mapM_id_eq_ok_iff {finds : List (Except DiscoveryError Content)} {contents : List Content} :
    finds.mapM id = .ok contents ↔ finds = contents.map .ok := by
  constructor
  · intro h
    induction finds generalizing contents with
    | nil =>
      cases h
      rfl
    | cons first rest ih =>
      rw [List.mapM_cons] at h
      cases first with
      | error reason => cases h
      | ok content =>
        cases hrest : rest.mapM id with
        | error reason =>
          rw [hrest] at h
          cases h
        | ok others =>
          rw [hrest] at h
          cases h
          rw [ih hrest]
          rfl
  · rintro rfl
    induction contents with
    | nil => rfl
    | cons first rest ih =>
      rw [List.map_cons, List.mapM_cons, ih]
      rfl

theorem sample_ok (size : Nat) (contents : List Content) :
    sample size (contents.map .ok) = .ok (contents.take size) := by
  rw [sample, ← List.map_take, mapM_id_eq_ok_iff.2 rfl]
  simp [Except.map, List.take_take]

end Stage

namespace Scene

/-- The stages of a walk from a path on. -/
def walked (ignored : List String) (root : Path) (scene : Scene) : List Stage :=
  scene.stages ignored root.toString root

/-- The framework of a scene. At most `size` source files are searched. -/
def detect (root : Path) (size : Nat) (scene : Scene) : Logged Detection :=
  Stage.detect (scene.walked vendorNames root) size

/-- The catalog of a scene. -/
def catalog (s : Search) (ignored : List String) (seenFrom : Option Path) (root : Path)
    (scene : Scene) : Logged (List EndpointRecord) :=
  Stage.catalog s seenFrom root (scene.walked ignored root)

end Scene

/-! ## The scene of a disk -/

namespace Disk

open Visit (sortByName)

variable (d : Disk)

/-- What stands at a path, if it can be read. -/
def contentAt (p : Path) : Content := (d.read p).mapError FileError.reason

mutual

/-- The scene of a node that stands at a path. -/
def sceneOf (p : Path) : FileNode → Scene
  | .file _ => .file (d.contentAt p)
  | .link _ => if d.isDirectory p then .linked else .file (d.contentAt p)
  | .directory entries => .directory (scenesBelow p entries)

/-- The scenes of some entries of a directory. -/
def scenesBelow (p : Path) : List (String × FileNode) → List (String × Scene)
  | [] => []
  | (name, node) :: rest => (name, sceneOf (p.child name) node) :: scenesBelow p rest

end

/-- The scene from a path on. -/
def scene (root : Path) : Scene :=
  match d.list root with
  | .ok entries => .directory (d.scenesBelow root entries)
  | .error e => .closed e.reason

/-- The stage of a visit. -/
def stageOf (v : Visit) : Stage :=
  .listed v.directory (v.files.map fun name => (name, d.contentAt (v.directory.child name)))

variable {d : Disk} {p : Path} {ignored : List String}

theorem filterMap_content?_scenesBelow (entries : List (String × FileNode)) :
    (d.scenesBelow p entries).filterMap Scene.content? =
      (entries.filter (Visit.isFile d.isDirectory p)).map fun entry =>
        (entry.1, d.contentAt (p.child entry.1)) := by
  induction entries with
  | nil => rfl
  | cons entry rest ih =>
    obtain ⟨name, node⟩ := entry
    cases node with
    | file content =>
      simp [scenesBelow, sceneOf, Scene.content?, Visit.isFile, List.filter_cons, ih]
    | directory entries =>
      simp [scenesBelow, sceneOf, Scene.content?, Visit.isFile, List.filterMap_cons, ih]
    | link target =>
      cases hdirectory : d.isDirectory (p.child name) <;>
        simp [scenesBelow, sceneOf, Scene.content?, Visit.isFile, List.filterMap_cons,
          hdirectory, ih]

theorem sortByName_content?_scenesBelow (entries : List (String × FileNode)) :
    sortByName ((d.scenesBelow p entries).filterMap Scene.content?) =
      (Visit.sortNames ((entries.filter (Visit.isFile d.isDirectory p)).map Prod.fst)).map
        fun name => (name, d.contentAt (p.child name)) := by
  have hsorted := Visit.map_sortByName
    (f := fun entry : String × FileNode => (entry.1, d.contentAt (p.child entry.1)))
    (fun _ => rfl) (entries.filter (Visit.isFile d.isDirectory p))
  rw [filterMap_content?_scenesBelow, ← hsorted, ← Visit.map_fst_sortByName, List.map_map]
  rfl

mutual

/-- The stages of a disk's scene are the visits of the disk. -/
theorem stages_sceneOf (spelled : String) (p : Path) : ∀ node : FileNode,
    (d.sceneOf p node).stages ignored spelled p =
      (Visit.ofNode ignored d.isDirectory p node).map d.stageOf
  | .file _ => rfl
  | .link target => by
    cases hdirectory : d.isDirectory p <;> simp [sceneOf, hdirectory] <;> rfl
  | .directory entries => by
    have hsorted := Visit.map_sortByName (f := fun visited : String × List Visit =>
      (visited.1, visited.2.map d.stageOf)) (fun _ => rfl)
      (Visit.below ignored d.isDirectory p entries)
    rw [sceneOf, Scene.stages, stagesBelow_scenesBelow, sortByName_content?_scenesBelow, ← hsorted,
      Visit.ofNode, List.map_cons, List.map_flatMap, List.flatMap_map]
    rfl

theorem stagesBelow_scenesBelow (spelled : String) (p : Path) :
    ∀ entries : List (String × FileNode),
      Scene.stagesBelow ignored spelled p (d.scenesBelow p entries) =
        (Visit.below ignored d.isDirectory p entries).map fun entry =>
          (entry.1, entry.2.map d.stageOf)
  | [] => rfl
  | (name, node) :: rest => by
    by_cases hignored : (p.child name).isIgnored ignored
    · simp [scenesBelow, Scene.stagesBelow, Visit.below, hignored,
        stagesBelow_scenesBelow _ p rest]
    · simp [scenesBelow, Scene.stagesBelow, Visit.below, hignored,
        stagesBelow_scenesBelow _ p rest, stages_sceneOf _ _ node]

end

theorem walked_scene (ignored : List String) (root : Path) : (d.scene root).walked ignored root =
    match d.visits ignored root with
    | .ok visits => visits.map d.stageOf
    | .error e => [.closed root.toString e.reason] := by
  rw [scene, visits]
  cases d.list root with
  | error e => rfl
  | ok entries => exact stages_sceneOf root.toString root (.directory entries)

/-! ### Contents -/

theorem text_contentAt (p : Path) : (d.contentAt p).text = d.textAt p := by
  rw [contentAt, textAt, readText, Content.text]
  cases d.read p <;> rfl

theorem scoreImports_contentAt (s : Score) (p : Path) :
    (d.contentAt p).scoreImports s = d.scoreImports s p := by
  rw [scoreImports, Content.scoreImports, contentAt, searchedText?]
  cases d.read p <;> rfl

theorem dependencies_contentAt (p : Path) :
    (d.contentAt p).dependencies p = d.dependencies p := by
  have hjson : (d.contentAt p).json? = d.readJson? p := by
    rw [readJson?, contentAt]
    cases d.read p <;> rfl
  rw [Content.dependencies, dependencies]
  cases hvalue : d.readJson? p <;> simp only [hjson, hvalue]

/-! ### Stages -/

theorem sources_stageOf (v : Visit) : (d.stageOf v).sources =
    (v.paths.filter fun p => p.language?.isSome).map fun p => (p, d.contentAt p) := by
  simp [stageOf, Stage.sources, Visit.paths, List.filter_map, Function.comp_def]

/-- What is made of the sources of each stage is made of the sources of all visits. -/
theorem flatMap_stageOf {α : Type} (make : Stage → List α) {f : Path × Content → α}
    (hmake : ∀ v, make (d.stageOf v) = (d.stageOf v).sources.map f) (visits : List Visit) :
    (visits.map d.stageOf).flatMap make =
      (Visit.sources visits).map fun p => f (p, d.contentAt p) := by
  simp only [List.flatMap_map, hmake, sources_stageOf, Visit.sources, List.map_flatMap,
    List.map_map, Function.comp_def]

theorem manifest?_stageOf (v : Visit) : (d.stageOf v).manifest? =
    if v.files.contains manifestName then
      some (v.directory.child manifestName, d.contentAt (v.directory.child manifestName))
    else none := by
  have hfind : ∀ names : List String, names.find? (· = manifestName) =
      if manifestName ∈ names then some manifestName else none := by
    intro names
    induction names with
    | nil => rfl
    | cons name rest ih =>
      by_cases hname : name = manifestName
      · simp [hname]
      · simp [hname, Ne.symm hname, ih]
  simp only [stageOf, Stage.manifest?, List.find?_map, Function.comp_def, hfind,
    List.contains_eq_mem, decide_eq_true_eq]
  split <;> rfl

theorem filterMap_manifest?_stageOf (visits : List Visit) :
    (visits.map d.stageOf).filterMap Stage.manifest? =
      ((visits.filter fun v => v.files.contains manifestName).map fun v =>
        v.directory.child manifestName).map fun p => (p, d.contentAt p) := by
  induction visits with
  | nil => rfl
  | cons v rest ih =>
    by_cases hname : v.files.contains manifestName = true
    · simp only [List.map_cons, List.filterMap_cons, manifest?_stageOf, hname, if_true, ih,
        List.filter_cons]
    · simp only [List.map_cons, List.filterMap_cons, manifest?_stageOf, hname, ih,
        List.filter_cons]
      rfl

theorem scoreManifests_contentAt (s : Score) (paths : List Path) :
    Stage.scoreManifests s (paths.map fun p => (p, d.contentAt p)) = d.scoreManifests s paths := by
  induction paths generalizing s with
  | nil => rfl
  | cons p rest ih =>
    simp only [List.map_cons, Stage.scoreManifests, scoreManifests, dependencies_contentAt, ih]

/-! ### Detection and catalog -/

/-- A disk is detected by its scene. -/
theorem detect_eq (root : Path) (size : Nat) :
    d.detect root size = (d.scene root).detect root size := by
  have hwalked := walked_scene (d := d) vendorNames root
  rw [Scene.detect, Stage.detect, hwalked, detect, manifests, sourceFiles]
  cases d.visits vendorNames root with
  | error e => rfl
  | ok visits =>
    have hfinds : (visits.map d.stageOf).flatMap Stage.finds =
        ((Visit.sources visits).map d.contentAt).map .ok := by
      rw [List.map_map]
      exact flatMap_stageOf Stage.finds (f := fun found => .ok found.2) (fun _ => rfl) visits
    have hscore : ∀ s : Score, ((Visit.sources visits).take size).foldl d.scoreImports s =
        (((Visit.sources visits).map d.contentAt).take size).foldl Content.scoreImports s := by
      intro s
      simp only [← List.map_take, List.foldl_map, scoreImports_contentAt]
    simp only [filterMap_manifest?_stageOf, scoreManifests_contentAt, hfinds, Stage.sample_ok,
      ← hscore]
    rfl

/-- A disk is catalogued by its scene. -/
theorem catalog_eq (s : Search) (ignored : List String) (seenFrom : Option Path) (root : Path) :
    d.catalog s ignored seenFrom root = (d.scene root).catalog s ignored seenFrom root := by
  have hwalked := walked_scene (d := d) ignored root
  rw [Scene.catalog, Stage.catalog, hwalked, catalog, sourceFiles]
  cases d.visits ignored root with
  | error e => rfl
  | ok visits =>
    have hmeetings : (visits.map d.stageOf).flatMap Stage.meetings =
        (Visit.sources visits).map fun p => .source p (d.textAt p) := by
      simp only [← text_contentAt]
      exact flatMap_stageOf Stage.meetings (f := fun found => .source found.1 found.2.text)
        (fun _ => rfl) visits
    simp only [hmeetings, filesEndpoints_eq]
    rfl

end Disk

end EndpointCatalog
