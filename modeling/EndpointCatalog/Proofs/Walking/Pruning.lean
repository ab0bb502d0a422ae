/-
EndpointCatalog.Proofs.Walking.Pruning — to pass over directories is to leave
out what is below them.

A walk drops the names that it passes over from the list of each directory
before it goes on, and so never sees what is below them. `Sight.routes` is
what a walk that passes over nothing meets, behind the names of the
directories on the way.

* `Sight.meetings_eq`: a walk meets what has none of the names on the way to
  it, in the order of the walk that passes over nothing.
* `pruning_filters`: the files that it finds, and the records that it ends
  with, are those of the other walk without the files below such a directory.

Neither the name of the directory where the walk begins nor that of a file is
on the way. A directory that cannot be listed ends a walk only if it is
reached, so that a walk may succeed that would fail if it passed over less.
-/
import EndpointCatalog.Proofs.Walking.Change
import EndpointCatalog.Proofs.Walking.Ending

namespace EndpointCatalog

namespace Path

/-- The names of the directories between a directory and a file below it. -/
def between (root p : Path) : List String := (p.parts.drop root.parts.length).dropLast

/-- Whether none of the directories between a directory and a file below it has one of some
names. -/
def reaches (root : Path) (ignored : List String) (p : Path) : Bool :=
  (root.between p).all fun name => name ∉ ignored

theorem between_descend (root : Path) (names : List String) (name : String) :
    root.between (root.descend (names ++ [name])) = names := by
  rw [between, descend, List.drop_left, List.dropLast_concat]

end Path

/-- Sorting by names and leaving out some of them can be done in either order. -/
theorem Visit.sortByName_filter {α : Type} {entries : List (String × α)}
    (h : (entries.map Prod.fst).Nodup) (keep : String × α → Bool) :
    sortByName (entries.filter keep) = (sortByName entries).filter keep := by
  have hsub : ((entries.filter keep).map Prod.fst).Nodup :=
    h.sublist (List.filter_sublist.map Prod.fst)
  have hperm : (sortByName (entries.filter keep)).Perm ((sortByName entries).filter keep) :=
    (sortByName_perm _).trans ((sortByName_perm entries).filter keep).symm
  refine hperm.eq_of_pairwise ?_ (sortByName_pairwise hsub)
    ((sortByName_pairwise h).sublist List.filter_sublist)
  exact fun a b _ _ hab hba => absurd (String.lt_trans hab hba) (String.lt_irrefl a.1)

namespace Sight

open Visit (sortByName)

/-- A meeting behind the names of the directories that lead to it. -/
abbrev Route := List String × Meeting

/-- The way to a meeting goes through a directory first. -/
def Route.through (name : String) (route : Route) : Route := (name :: route.1, route.2)

/-- Whether a walk that passes over some names comes to a meeting. -/
def Route.isOpen (ignored : List String) (route : Route) : Bool :=
  route.1.all fun name => name ∉ ignored

mutual

/-- What a walk that passes over nothing meets, in the order of the walk. -/
def routes (spelled : String) (p : Path) : Sight → List Route
  | file _ => []
  | linked => []
  | directory entries => (ownSources p entries).map (fun m => ([], m)) ++
      (sortByName (routesBelow spelled p entries)).flatMap Prod.snd
  | closed reason => [([], .closed spelled reason)]

/-- What it meets below some entries, beside the names of the entries. -/
def routesBelow (spelled : String) (p : Path) : List (String × Sight) → List (String × List Route)
  | [] => []
  | (name, sight) :: rest =>
    (name, (routes (spelledBelow spelled name) (p.child name) sight).map (Route.through name)) ::
      routesBelow spelled p rest

end

variable {ignored : List String} {spelled : String} {p root : Path} {sight : Sight}
  {entries : List (String × Sight)}

theorem routesBelow_eq (spelled : String) (p : Path) (entries : List (String × Sight)) :
    routesBelow spelled p entries = entries.map fun entry => (entry.1,
      (entry.2.routes (spelledBelow spelled entry.1) (p.child entry.1)).map
        (Route.through entry.1)) := by
  induction entries with
  | nil => rfl
  | cons entry rest ih => rw [routesBelow, ih, List.map_cons]

theorem routes_directory (spelled : String) (p : Path) (entries : List (String × Sight)) :
    (directory entries).routes spelled p = (ownSources p entries).map (fun m => ([], m)) ++
      (sortByName entries).flatMap fun entry =>
        (entry.2.routes (spelledBelow spelled entry.1) (p.child entry.1)).map
          (Route.through entry.1) := by
  have hsorted := Visit.map_sortByName (f := fun entry : String × Sight => (entry.1,
    (entry.2.routes (spelledBelow spelled entry.1) (p.child entry.1)).map
      (Route.through entry.1))) (fun _ => rfl) entries
  rw [routes, routesBelow_eq, ← hsorted, List.flatMap_map]

theorem filter_through (name : String) (routes : List Route) :
    (routes.map (Route.through name)).filter (Route.isOpen ignored) =
      if name ∉ ignored then (routes.filter (Route.isOpen ignored)).map (Route.through name)
      else [] := by
  rw [List.filter_map]
  by_cases hname : name ∈ ignored
  · simp [Route.isOpen, Route.through, hname]
  · have hsame : Route.isOpen ignored ∘ Route.through name = Route.isOpen ignored := by
      funext route
      simp [Route.isOpen, Route.through, hname]
    simp [hname, hsame]

theorem flatMap_filter {α β : Type} (keep : α → Bool) (f : α → List β) (xs : List α) :
    (xs.filter keep).flatMap f = xs.flatMap fun x => if keep x then f x else [] := by
  induction xs with
  | nil => rfl
  | cons x rest ih => cases hkeep : keep x <;> simp [hkeep, ih]

/-- A walk meets what it comes to without passing over a directory on the way. -/
theorem meetings_eq (h : sight.IsTree) (ignored : List String) (spelled : String) (p : Path) :
    sight.meetings ignored spelled p =
      ((sight.routes spelled p).filter (Route.isOpen ignored)).map Prod.snd := by
  induction h generalizing spelled p with
  | file text => rfl
  | linked => rfl
  | closed reason => rfl
  | @directory entries hnodup _ _ ih =>
    have hown : ((ownSources p entries).map fun m => (([], m) : Route)).filter
        (Route.isOpen ignored) = (ownSources p entries).map fun m => ([], m) :=
      List.filter_eq_self.2 fun route hroute => by
        obtain ⟨m, -, rfl⟩ := List.mem_map.1 hroute
        rfl
    have hbelow : ∀ entry ∈ sortByName entries,
        (((entry.2.routes (spelledBelow spelled entry.1) (p.child entry.1)).map
          (Route.through entry.1)).filter (Route.isOpen ignored)).map Prod.snd =
        if entry.1 ∉ ignored then
          entry.2.meetings ignored (spelledBelow spelled entry.1) (p.child entry.1) else [] := by
      intro entry hentry
      rw [filter_through, ih entry ((Visit.sortByName_perm entries).mem_iff.1 hentry)]
      split
      · rw [List.map_map]
        rfl
      · rfl
    rw [meetings_directory, routes_directory, List.filter_append, hown, List.map_append,
      List.map_map, List.filter_flatMap, List.map_flatMap, List.flatMap_congr hbelow,
      Visit.sortByName_filter hnodup, flatMap_filter]
    simp [Function.comp_def]

/-! ## The files that are found -/

/-- The paths of the sources that a walk meets. -/
def sources (ignored : List String) (root : Path) (sight : Sight) : List Path :=
  (sight.met ignored root).filterMap Meeting.path?

/-- The directories on the way to a source are those between the beginning and the source. -/
theorem between_of_mem_routes (h : sight.IsTree) {route : Route} {q : Path}
    (hroute : route ∈ sight.routes spelled p) (hq : route.2.path? = some q) :
    p.between q = route.1 := by
  suffices hdescend : ∃ name, q = p.descend (route.1 ++ [name]) by
    obtain ⟨name, rfl⟩ := hdescend
    exact p.between_descend route.1 name
  induction h generalizing spelled p route with
  | file text => cases hroute
  | linked => cases hroute
  | closed reason =>
    obtain rfl := List.mem_singleton.1 hroute
    cases hq
  | @directory entries _ _ _ ih =>
    rw [routes_directory, List.mem_append] at hroute
    rcases hroute with hown | hbelow
    · obtain ⟨m, hm, rfl⟩ := List.mem_map.1 hown
      obtain ⟨entry, -, rfl⟩ := List.mem_map.1 hm
      cases hq
      exact ⟨entry.1, (p.descend_singleton entry.1).symm⟩
    · obtain ⟨entry, hentry, hroute⟩ := List.mem_flatMap.1 hbelow
      obtain ⟨inner, hinner, rfl⟩ := List.mem_map.1 hroute
      have hmem := (Visit.sortByName_perm entries).mem_iff.1 hentry
      obtain ⟨name, rfl⟩ := ih entry hmem hinner hq
      exact ⟨name, (p.descend_cons entry.1 (inner.1 ++ [name])).symm⟩

theorem isOpen_of_mem_routes (h : sight.IsTree) {route : Route} {q : Path}
    (hroute : route ∈ sight.routes spelled p) (hq : route.2.path? = some q) :
    route.isOpen ignored = p.reaches ignored q := by
  rw [Route.isOpen, Path.reaches, between_of_mem_routes h hroute hq]

theorem met_nil (h : sight.IsTree) :
    sight.met [] root = (sight.routes root.toString root).map Prod.snd := by
  have hopen : ∀ route ∈ sight.routes root.toString root, Route.isOpen [] route = true := by
    simp [Route.isOpen]
  rw [met, meetings_eq h, List.filter_eq_self.2 hopen]

/-- A walk finds what the walk that passes over nothing finds and it comes to. -/
theorem sources_eq (h : sight.IsTree) (ignored : List String) (root : Path) :
    sight.sources ignored root = (sight.sources [] root).filter (root.reaches ignored) := by
  have hopen : ∀ route ∈ sight.routes root.toString root, ∀ q, route.2.path? = some q →
      route.isOpen ignored = root.reaches ignored q :=
    fun _ hroute _ hq => isOpen_of_mem_routes h hroute hq
  rw [sources, sources, met_nil h, met, meetings_eq h]
  generalize sight.routes root.toString root = routes at hopen ⊢
  induction routes with
  | nil => rfl
  | cons route rest ih =>
    obtain ⟨hroute, hrest⟩ := List.forall_mem_cons.1 hopen
    have hih := ih hrest
    cases hq : route.2.path? with
    | none => cases hkept : route.isOpen ignored <;> simp [hkept, hq, hih]
    | some q =>
      have hkept := hroute q hq
      cases hreached : root.reaches ignored q <;>
        simp [hkept, hreached, hq, hih]

/-- The same for what a walk meets, if it can list every directory. -/
theorem met_eq (h : sight.IsTree) (hlistable : ∀ m ∈ sight.met [] root, m.path?.isSome)
    (ignored : List String) : sight.met ignored root =
      (sight.met [] root).filter fun m => m.path?.all (root.reaches ignored) := by
  rw [met_nil h] at hlistable ⊢
  rw [met, meetings_eq h, List.filter_map]
  refine congrArg _ (List.filter_congr fun route hroute => ?_)
  obtain ⟨q, hq⟩ := Option.isSome_iff_exists.1
    (hlistable route.2 (List.mem_map_of_mem hroute))
  rw [Function.comp_apply, hq, Option.all_some, isOpen_of_mem_routes h hroute hq]

/-! ## The records of a walk -/

/-- A source that a walk meets, with its records. -/
structure Reading where
  path : Path
  text : Except String (List Char)
  records : List EndpointRecord

/-- What the walk meets. -/
def Reading.meeting (reading : Reading) : Meeting := .source reading.path reading.text

section

variable {s : Search} {seenFrom : Option Path} {records : List EndpointRecord}

/-- Whatever yields records is a source. -/
theorem exists_readings {ms : List Meeting} {blocks : List (List EndpointRecord)}
    (h : List.Forall₂ (Meeting.Yields s seenFrom) ms blocks) : ∃ readings : List Reading,
      readings.map Reading.meeting = ms ∧ readings.map Reading.records = blocks ∧
        ∀ reading ∈ readings, reading.meeting.Yields s seenFrom reading.records := by
  induction h with
  | nil => exact ⟨[], rfl, rfl, nofun⟩
  | @cons m block _ _ hfirst _ ih =>
    obtain ⟨readings, rfl, rfl, hall⟩ := ih
    obtain ⟨p, text, rfl⟩ : ∃ p text, m = .source p text := by
      cases hfirst <;> exact ⟨_, _, rfl⟩
    exact ⟨⟨p, text, block⟩ :: readings, rfl, rfl, List.forall_mem_cons.2 ⟨hfirst, hall⟩⟩

/-- A walk that meets some sources ends with their records. -/
theorem ending_of_readings {readings : List Reading}
    (hmet : sight.met ignored root = readings.map Reading.meeting)
    (hall : ∀ reading ∈ readings, reading.meeting.Yields s seenFrom reading.records) :
    sight.ending s ignored seenFrom root = .ok (readings.flatMap Reading.records) := by
  refine ending_ok_iff.2 ⟨readings.map Reading.records, ?_, List.flatMap_def⟩
  rw [hmet, List.forall₂_map_left_iff, List.forall₂_map_right_iff, List.forall₂_same]
  exact hall

/-- If a walk that passes over nothing succeeds, any other one ends with the records of the
sources that it comes to. -/
theorem ending_ignored (h : sight.IsTree)
    (hok : sight.ending s [] seenFrom root = .ok records) : ∃ readings : List Reading,
      sight.met [] root = readings.map Reading.meeting ∧
      (∀ reading ∈ readings, reading.meeting.Yields s seenFrom reading.records) ∧
      records = readings.flatMap Reading.records ∧
      ∀ ignored, sight.ending s ignored seenFrom root = .ok ((readings.filter fun reading =>
        root.reaches ignored reading.path).flatMap Reading.records) := by
  obtain ⟨blocks, hblocks, rfl⟩ := ending_ok_iff.1 hok
  obtain ⟨readings, hmet, rfl, hall⟩ := exists_readings hblocks
  refine ⟨readings, hmet.symm, hall, List.flatMap_def.symm, fun ignored => ?_⟩
  have hlistable : ∀ m ∈ sight.met [] root, m.path?.isSome := by
    rw [← hmet]
    intro m hm
    obtain ⟨reading, -, rfl⟩ := List.mem_map.1 hm
    rfl
  refine ending_of_readings ?_ fun reading hreading => hall reading (List.mem_filter.1 hreading).1
  rw [met_eq h hlistable, ← hmet, List.filter_map]
  rfl

end

end Sight

/-! ## Pruning is filtering -/

/-- The files that a disk finds are the sources that a walk of what it shows meets. -/
theorem Disk.sourceFiles_eq_sources {d : Disk} {root : Path} {entries : List (String × FileNode)}
    (hlist : d.list root = .ok entries) (ignored : List String) :
    d.sourceFiles ignored root = .ok ((d.sight root).sources ignored root) := by
  have hmeetings : (Sight.directory (d.sightsBelow root entries)).meetings ignored
      root.toString root = _ := meetings_sightOf root.toString root (.directory entries)
  rw [sourceFiles_of_list hlist, sight, hlist, Sight.sources, Sight.met, hmeetings,
    List.filterMap_map]
  exact congrArg Except.ok List.filterMap_some.symm

/-- To pass over directories in a tree is to leave out what is below them. -/
structure PruningFilters (root : Path) (sight : Sight) : Prop where
  files : ∀ ignored, sight.sources ignored root =
    (sight.sources [] root).filter (root.reaches ignored)
  monotone : ∀ ignored more, ignored ⊆ more →
    (sight.sources more root).Sublist (sight.sources ignored root)
  /-- These are the files that a disk finds which shows the tree. -/
  found : ∀ (d : Disk) (entries : List (String × FileNode)) (ignored : List String),
    d.sight root = sight → d.list root = .ok entries →
    d.sourceFiles ignored root = .ok (sight.sources ignored root)
  filtered : ∀ (d : Disk) (ignored : List String), d.sight root = sight →
    d.sourceFiles ignored root =
      (d.sourceFiles [] root).map (List.filter (root.reaches ignored))
  /-- If nothing fails without passing over directories, nothing fails with it, and the records of
  the files that are left stand as they stood. -/
  records : ∀ (s : Search) (seenFrom : Option Path) (records : List EndpointRecord),
    sight.ending s [] seenFrom root = .ok records → ∃ readings : List Sight.Reading,
      sight.sources [] root = readings.map Sight.Reading.path ∧
      (∀ reading ∈ readings, reading.meeting ∈ sight.met [] root ∧
        reading.meeting.Yields s seenFrom reading.records) ∧
      records = readings.flatMap Sight.Reading.records ∧
      ∀ ignored, ∃ left, left = (readings.filter fun reading =>
          root.reaches ignored reading.path).flatMap Sight.Reading.records ∧
        left.Sublist records ∧ sight.ending s ignored seenFrom root = .ok left
  /-- The catalog of a disk that shows the tree is what the walk ends with. -/
  catalog : ∀ (d : Disk) (s : Search) (ignored : List String) (seenFrom : Option Path)
    (before : Log), d.sight root = sight →
    ((ExceptT.run (d.catalog s ignored seenFrom root)).run before).1 =
      sight.ending s ignored seenFrom root

theorem Path.reaches_of_subset {root p : Path} {ignored more : List String}
    (hsub : ignored ⊆ more) (h : root.reaches more p = true) : root.reaches ignored p = true := by
  simp only [reaches, List.all_eq_true, decide_eq_true_eq] at h ⊢
  exact fun name hname hignored => h name hname (hsub hignored)

theorem pruning_filters (root : Path) {sight : Sight} (h : sight.IsTree) :
    PruningFilters root sight where
  files ignored := Sight.sources_eq h ignored root
  monotone ignored more hsub := by
    rw [Sight.sources_eq h ignored, Sight.sources_eq h more]
    exact List.monotone_filter_right _ fun _ => Path.reaches_of_subset hsub
  found d entries ignored hd hlist := by rw [Disk.sourceFiles_eq_sources hlist, hd]
  filtered d ignored hd := by
    cases hlist : d.list root with
    | error e => simp [Disk.sourceFiles, Disk.visits, hlist, Except.map]
    | ok entries =>
      rw [Disk.sourceFiles_eq_sources hlist, Disk.sourceFiles_eq_sources hlist, hd,
        Sight.sources_eq h ignored root]
      rfl
  records s seenFrom records hok := by
    obtain ⟨readings, hmet, hall, rfl, hignored⟩ := Sight.ending_ignored h hok
    have hpath : Meeting.path? ∘ Sight.Reading.meeting = some ∘ Sight.Reading.path := rfl
    refine ⟨readings, ?_, fun reading hreading => ⟨?_, hall reading hreading⟩, rfl,
      fun ignored => ⟨_, rfl, ?_, hignored ignored⟩⟩
    · rw [Sight.sources, hmet, List.filterMap_map, hpath, List.filterMap_eq_map]
    · exact hmet ▸ List.mem_map_of_mem hreading
    · exact List.filter_sublist.flatMap _
  catalog d s ignored seenFrom before hd := by rw [d.catalog_ending, hd]

/-- A script whose name is that of a directory to pass over, beside such a directory. -/
def builtSight : Sight :=
  .directory [("dist.js", .file (.ok [])), ("dist", .directory [("b.js", .file (.ok []))])]

theorem sources_builtSight : builtSight.sources [] ⟨.relative, ["dist"]⟩ =
    [⟨.relative, ["dist", "dist.js"]⟩, ⟨.relative, ["dist", "dist", "b.js"]⟩] := by
  have hown : (⟨.relative, ["dist", "dist.js"]⟩ : Path).language?.isSome = true := by decide
  have hbelow : (⟨.relative, ["dist", "dist", "b.js"]⟩ : Path).language?.isSome = true := by
    decide
  have hsorted : [("dist.js", Sight.file (.ok [])),
      ("dist", .directory [("b.js", .file (.ok []))])].mergeSort (fun a b => decide (a.1 ≤ b.1)) =
      [("dist", .directory [("b.js", .file (.ok []))]), ("dist.js", Sight.file (.ok []))] := by
    simp [List.mergeSort]
  rw [Sight.sources, Sight.met, builtSight, Sight.meetings_directory, Sight.ownSources]
  simp [Visit.sortByName, List.filterMap_cons, Sight.text?, hown, hsorted,
    Sight.meetings_directory, Sight.ownSources, hbelow, Meeting.path?, Path.child,
    Sight.meetings.eq_1]

/-- Only the directory on the way is passed over, not the root and not the script of this name. -/
theorem pruning_filters_builtSight : builtSight.IsTree ∧
    PruningFilters ⟨.relative, ["dist"]⟩ builtSight ∧
    builtSight.sources ["dist", "dist.js"] ⟨.relative, ["dist"]⟩ =
      [⟨.relative, ["dist", "dist.js"]⟩] := by
  have htree : builtSight.IsTree := by
    have hscript : ∀ entry ∈ [("b.js", Sight.file (.ok []))], entry.2.IsTree := by
      simp only [List.mem_singleton, forall_eq]
      exact .file _
    refine .directory (by decide) ?_ ?_
    · simp only [List.mem_cons, List.not_mem_nil, or_false, forall_eq_or_imp, forall_eq]
      exact ⟨⟨by decide, by decide, by decide⟩, ⟨by decide, by decide, by decide⟩⟩
    · simp only [List.mem_cons, List.not_mem_nil, or_false, forall_eq_or_imp, forall_eq]
      refine ⟨.file _, .directory (by decide) ?_ hscript⟩
      simp only [List.mem_singleton, forall_eq]
      exact ⟨by decide, by decide, by decide⟩
  have hfilters := pruning_filters ⟨.relative, ["dist"]⟩ htree
  refine ⟨htree, hfilters, ?_⟩
  rw [hfilters.files, sources_builtSight]
  decide

end EndpointCatalog
