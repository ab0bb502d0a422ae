/-
EndpointCatalog.Proofs.Walking.Change — other texts in the same tree.

* `Sight.mapTexts`: the same tree with other texts. A walk meets the same
  files in the same order there (`meetings_mapTexts`).
* `Sight.IsTree`: the names in a directory are names, and differ. Then no two
  sources that a walk meets share a path (`nodup_paths`), so that another text
  for one of them changes one meeting only (`met_overwrite`). What a disk shows
  is such a tree (`isTree_sight`).
-/
import EndpointCatalog.Proofs.Path
import EndpointCatalog.Proofs.Walking.Sight
import Mathlib.Data.List.Nodup

namespace EndpointCatalog

namespace Meeting

/-- The path of a source that is met. -/
def path? : Meeting → Option Path
  | source p _ => some p
  | closed _ _ => none

/-- The meeting with another text. -/
def mapText (f : Path → Except String (List Char) → Except String (List Char)) :
    Meeting → Meeting
  | source p text => source p (f p text)
  | closed spelled reason => closed spelled reason

end Meeting

namespace Sight

open Visit (sortByName)

/-- The entries of a directory have names, and no two of them the same. -/
inductive IsTree : Sight → Prop where
  | file (text : Except String (List Char)) : IsTree (.file text)
  | linked : IsTree .linked
  | directory {entries : List (String × Sight)} : (entries.map Prod.fst).Nodup →
      (∀ entry ∈ entries, IsName entry.1) → (∀ entry ∈ entries, IsTree entry.2) →
      IsTree (.directory entries)
  | closed (reason : String) : IsTree (.closed reason)

variable {ignored : List String} {spelled : String} {p : Path}
  {entries : List (String × Sight)} {sight : Sight}
  (f : Path → Except String (List Char) → Except String (List Char))

/-! ## Other texts -/

mutual

/-- A tree with other texts, each by its path. -/
def mapTexts (p : Path) : Sight → Sight
  | file text => file (f p text)
  | linked => linked
  | directory entries => directory (mapTextsBelow p entries)
  | closed reason => closed reason

/-- Some entries with other texts below them. -/
def mapTextsBelow (p : Path) : List (String × Sight) → List (String × Sight)
  | [] => []
  | (name, sight) :: rest => (name, mapTexts (p.child name) sight) :: mapTextsBelow p rest

end

theorem filterMap_text?_mapTextsBelow (entries : List (String × Sight)) :
    (mapTextsBelow f p entries).filterMap text? =
      (entries.filterMap text?).map fun entry => (entry.1, f (p.child entry.1) entry.2) := by
  induction entries with
  | nil => rfl
  | cons entry rest ih =>
    obtain ⟨name, sight⟩ := entry
    cases sight <;> simp [mapTextsBelow, mapTexts, text?, List.filterMap_cons, ih]

theorem ownSources_mapTextsBelow (entries : List (String × Sight)) :
    ownSources p (mapTextsBelow f p entries) =
      (ownSources p entries).map (Meeting.mapText f) := by
  have hsorted := Visit.map_sortByName
    (f := fun entry : String × Except String (List Char) => (entry.1, f (p.child entry.1) entry.2))
    (fun _ => rfl) (entries.filterMap text?)
  rw [ownSources, filterMap_text?_mapTextsBelow, ← hsorted, ownSources]
  simp only [List.filter_map, List.map_map]
  rfl

mutual

/-- A walk meets the same files in a tree with other texts. -/
theorem meetings_mapTexts (spelled : String) (p : Path) : ∀ sight : Sight,
    (sight.mapTexts f p).meetings ignored spelled p =
      (sight.meetings ignored spelled p).map (Meeting.mapText f)
  | file _ => rfl
  | linked => rfl
  | closed _ => rfl
  | directory entries => by
    have hsorted := Visit.map_sortByName (f := fun below : String × List Meeting =>
      (below.1, below.2.map (Meeting.mapText f))) (fun _ => rfl)
      (meetingsBelow ignored spelled p entries)
    rw [mapTexts, meetings, meetings, ownSources_mapTextsBelow, meetingsBelow_mapTextsBelow,
      ← hsorted, List.map_append, List.map_flatMap, List.flatMap_map]

theorem meetingsBelow_mapTextsBelow (spelled : String) (p : Path) :
    ∀ entries : List (String × Sight), meetingsBelow ignored spelled p (mapTextsBelow f p entries) =
      (meetingsBelow ignored spelled p entries).map fun below =>
        (below.1, below.2.map (Meeting.mapText f))
  | [] => rfl
  | (name, sight) :: rest => by
    by_cases hignored : (p.child name).isIgnored ignored
    · simp [mapTextsBelow, meetingsBelow, hignored, meetingsBelow_mapTextsBelow _ p rest]
    · simp [mapTextsBelow, meetingsBelow, hignored, meetingsBelow_mapTextsBelow _ p rest,
        meetings_mapTexts _ _ sight]

end

/-! ## Paths of sources -/

/-- The paths of the sources in a directory. -/
theorem filterMap_path?_ownSources : (ownSources p entries).filterMap Meeting.path? =
    ((sortByName (entries.filterMap text?)).filter fun entry =>
      (p.child entry.1).language?.isSome).map fun entry => p.child entry.1 := by
  rw [ownSources, List.filterMap_map, ← List.filterMap_eq_map]
  rfl

theorem exists_of_mem_text? {entry : String × Except String (List Char)}
    (h : entry ∈ entries.filterMap text?) : ∃ sight, (entry.1, sight) ∈ entries := by
  obtain ⟨⟨name, sight⟩, hmem, hsome⟩ := List.mem_filterMap.1 h
  cases sight with
  | file text =>
    cases hsome
    exact ⟨_, hmem⟩
  | linked => cases hsome
  | directory entries => cases hsome
  | closed reason => cases hsome

theorem nodup_text? (h : (entries.map Prod.fst).Nodup) :
    ((entries.filterMap text?).map Prod.fst).Nodup := by
  refine List.pairwise_map.2 ((List.pairwise_map.1 h).filterMap text? ?_)
  intro first second hne entry hentry other hother
  obtain ⟨name, sight⟩ := first
  obtain ⟨name', sight'⟩ := second
  cases sight with
  | file text =>
    cases sight' with
    | file text' =>
      cases hentry
      cases hother
      exact hne
    | _ => cases hother
  | _ => cases hentry

/-- A source that a walk meets stands below the directory where it begins. -/
theorem exists_names (h : sight.IsTree) {q : Path}
    (hq : q ∈ (sight.meetings ignored spelled p).filterMap Meeting.path?) :
    ∃ names, names ≠ [] ∧ (∀ name ∈ names, IsName name) ∧ q = p.descend names := by
  induction h generalizing spelled p with
  | file text => cases hq
  | linked => cases hq
  | closed reason => cases hq
  | @directory entries hnodup hnames hsub ih =>
    rw [meetings_directory, List.filterMap_append, List.mem_append] at hq
    rcases hq with hown | hbelow
    · rw [filterMap_path?_ownSources] at hown
      obtain ⟨entry, hentry, rfl⟩ := List.mem_map.1 hown
      have hmem := (Visit.sortByName_perm _).mem_iff.1 (List.mem_filter.1 hentry).1
      obtain ⟨sight, hsight⟩ := exists_of_mem_text? hmem
      exact ⟨[entry.1], by simp, by simpa using hnames _ hsight, rfl⟩
    · rw [List.filterMap_flatMap, List.mem_flatMap] at hbelow
      obtain ⟨entry, hentry, hq⟩ := hbelow
      have hmem := (List.mem_filter.1 ((Visit.sortByName_perm _).mem_iff.1 hentry)).1
      obtain ⟨names, -, hall, rfl⟩ := ih entry hmem hq
      exact ⟨entry.1 :: names, by simp, List.forall_mem_cons.2 ⟨hnames _ hmem, hall⟩,
        (p.descend_cons entry.1 names).symm⟩

/-- No two sources that a walk meets share a path. -/
theorem nodup_paths (h : sight.IsTree) :
    ((sight.meetings ignored spelled p).filterMap Meeting.path?).Nodup := by
  induction h generalizing spelled p with
  | file text => exact .nil
  | linked => exact .nil
  | closed reason => exact .nil
  | @directory entries hnodup hnames hsub ih =>
    have hof : ∀ entry ∈ sortByName (entries.filter fun entry => entry.1 ∉ ignored),
        entry ∈ entries :=
      fun entry hentry => (List.mem_filter.1 ((Visit.sortByName_perm _).mem_iff.1 hentry)).1
    rw [meetings_directory, List.filterMap_append, List.filterMap_flatMap]
    -- among its own files, below one entry, below two entries, and between files and entries
    refine List.pairwise_append.2 ⟨?_, List.pairwise_flatMap.2 ⟨?_, ?_⟩, ?_⟩
    · rw [filterMap_path?_ownSources]
      have hsorted := (Visit.sortByName_pairwise (nodup_text? hnodup)).filter
        fun entry => (p.child entry.1).language?.isSome
      refine List.pairwise_map.2 (hsorted.imp ?_)
      intro first second hlt heq
      have hsame : [first.1] = [second.1] := p.descend_injective heq
      cases first
      cases second
      cases hsame
      exact String.lt_irrefl _ hlt
    · intro entry hentry
      exact ih entry (hof entry hentry)
    · have hkept : ((entries.filter fun entry => entry.1 ∉ ignored).map Prod.fst).Nodup :=
        hnodup.sublist (List.filter_sublist.map Prod.fst)
      refine (Visit.sortByName_pairwise hkept).imp_of_mem ?_
      intro first second hfirst hsecond hlt q hq q' hq' heq
      obtain ⟨names, -, -, rfl⟩ := exists_names (hsub first (hof first hfirst)) hq
      obtain ⟨names', -, -, rfl⟩ := exists_names (hsub second (hof second hsecond)) hq'
      rw [← Path.descend_cons, ← Path.descend_cons] at heq
      have hsame := List.head_eq_of_cons_eq (p.descend_injective heq)
      rw [hsame] at hlt
      exact String.lt_irrefl _ hlt
    · intro q hq q' hq' heq
      rw [filterMap_path?_ownSources] at hq
      obtain ⟨entry, -, rfl⟩ := List.mem_map.1 hq
      obtain ⟨below, hbelow, hq'⟩ := List.mem_flatMap.1 hq'
      obtain ⟨names, hne, -, rfl⟩ := exists_names (hsub below (hof below hbelow)) hq'
      rw [← Path.descend_singleton, ← Path.descend_cons] at heq
      exact hne (List.tail_eq_of_cons_eq (p.descend_injective heq)).symm

/-! ## One other text -/

/-- The tree below a path with another text in one file. -/
def overwrite (root target : Path) (text : List Char) (sight : Sight) : Sight :=
  sight.mapTexts (fun q old => if q = target then .ok text else old) root

/-- Another text in one file is met where the old one was, and all else as before. -/
theorem met_overwrite {root target : Path} {old : Except String (List Char)}
    {done rest : List Meeting} (h : sight.IsTree)
    (hmet : sight.met ignored root = done ++ .source target old :: rest) (text : List Char) :
    (sight.overwrite root target text).met ignored root =
      done ++ .source target (.ok text) :: rest := by
  have hnodup : ((sight.met ignored root).filterMap Meeting.path?).Nodup := nodup_paths h
  have hpath : (Meeting.source target old).path? = some target := rfl
  rw [hmet, List.filterMap_append, List.filterMap_cons_some hpath, List.nodup_middle,
    List.nodup_cons, List.mem_append, not_or] at hnodup
  obtain ⟨⟨hdone, hrest⟩, -⟩ := hnodup
  have hother : ∀ ms : List Meeting, target ∉ ms.filterMap Meeting.path? →
      ms.map (Meeting.mapText fun q old => if q = target then .ok text else old) = ms := by
    intro ms htarget
    refine (List.map_congr_left fun m hm => ?_).trans ms.map_id
    cases m with
    | closed spelled reason => rfl
    | source q held =>
      have hne : q ≠ target := by
        rintro rfl
        exact htarget (List.mem_filterMap.2 ⟨_, hm, rfl⟩)
      simp [Meeting.mapText, hne]
  rw [met, overwrite, meetings_mapTexts]
  rw [met] at hmet
  simp [hmet, hother done hdone, hother rest hrest, Meeting.mapText]

end Sight

/-! ## Disks -/

namespace Disk

open FileNode

variable {d : Disk} {root : Path}

theorem sightsBelow_eq (p : Path) (entries : List (String × FileNode)) :
    d.sightsBelow p entries =
      entries.map fun entry => (entry.1, d.sightOf (p.child entry.1) entry.2) := by
  induction entries with
  | nil => rfl
  | cons entry rest ih => rw [sightsBelow, ih]; rfl

theorem isTree_sightOf {node : FileNode} (htree : node.IsTree)
    (hnames : ∀ place, (node.kindAt place).isSome → ∀ name ∈ place, IsName name) (p : Path) :
    (d.sightOf p node).IsTree := by
  induction htree generalizing p with
  | file content => exact .file _
  | link target =>
    rw [sightOf]
    split
    · exact .linked
    · exact .file _
  | @directory entries hnodup hsub ih =>
    have hbelow : ∀ entry ∈ entries, ∀ place kind, entry.2.kindAt place = some kind →
        ∀ name ∈ entry.1 :: place, IsName name := by
      intro entry hentry place kind hkind
      refine hnames (entry.1 :: place) (Option.isSome_iff_exists.2 ⟨kind, ?_⟩)
      exact (kindAt_directory_iff hnodup).2 ⟨entry.2, hentry, hkind⟩
    rw [sightOf, sightsBelow_eq]
    refine .directory (by simpa [Function.comp_def] using hnodup) ?_ ?_
    · intro seen hseen
      obtain ⟨entry, hentry, rfl⟩ := List.mem_map.1 hseen
      exact hbelow entry hentry [] _ kindAt_nil _ List.mem_cons_self
    · intro seen hseen
      obtain ⟨entry, hentry, rfl⟩ := List.mem_map.1 hseen
      refine ih entry hentry (fun place hsome name hname => ?_) _
      obtain ⟨kind, hkind⟩ := Option.isSome_iff_exists.1 hsome
      exact hbelow entry hentry place kind hkind name (List.mem_cons_of_mem _ hname)

/-- What a disk shows is a tree if the disk holds one, and all its entries have names. -/
theorem isTree_sight (htree : d.root.IsTree)
    (hnames : ∀ place, (d.root.kindAt place).isSome → ∀ name ∈ place, IsName name) :
    (d.sight root).IsTree := by
  unfold sight
  split
  · next entries hlist =>
    obtain ⟨place, -, hat⟩ := find_eq_ok_iff.1 (list_eq_ok_iff.1 hlist)
    have hentries : (FileNode.directory entries).IsTree := htree.of_at? hat
    refine isTree_sightOf hentries (fun names hsome name hname => ?_) root
    have hbelow := hnames (place ++ names)
    rw [kindAt_append, hat] at hbelow
    exact hbelow hsome name (List.mem_append_right _ hname)
  · exact .closed _

end Disk

end EndpointCatalog
