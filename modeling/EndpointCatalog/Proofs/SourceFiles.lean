/-
EndpointCatalog.Proofs.SourceFiles — which source files a walk finds, and in
which order.

* `IsSource`: some names lead to a source file through directories that are
  neither links nor ignored.
* `Precedes`: the files of a directory before what is below it, and each in
  ascending order of the names.

The two determine the answer: a walk finds what `IsSource` says, once each, in
the order that `Precedes` says (`Disk.finds_sources`). Neither depends on the
order in which a directory lists its entries, so the answer does not either.
-/
import EndpointCatalog.FileTree.Visit
import EndpointCatalog.Proofs.FileTree.Reordering
import Mathlib

namespace EndpointCatalog

/-- The path of what some names lead to from a directory. -/
def Path.descend (p : Path) (names : List String) : Path := { p with parts := p.parts ++ names }

/-- Some names lead from a directory to a source file: through directories that are no links and
not ignored, to a file or to a link that leads to no directory, by its suffix a source. -/
structure IsSource (ignored : List String) (leadsToDirectory : Path → Bool) (p : Path)
    (tree : FileNode) (names : List String) : Prop where
  kept : ∀ directory ∈ names.dropLast, directory ∉ ignored
  stands : tree.kindAt names = some .file ∨ ∃ target, tree.kindAt names = some (.link target) ∧
    leadsToDirectory (p.descend names) = false
  suffix : (p.descend names).suffix = ".ts" ∨ (p.descend names).suffix = ".js"

/-- The order of a walk, on the names that lead to files. -/
inductive Precedes : List String → List String → Prop where
  | files {a b : String} : a < b → Precedes [a] [b]
  /-- The files of a directory come before what is below it. -/
  | fileFirst {a b c : String} {rest : List String} : Precedes [a] (b :: c :: rest)
  | directories {a b c d : String} {rest others : List String} : a < b →
      Precedes (a :: c :: rest) (b :: d :: others)
  | within {a : String} {rest others : List String} : Precedes rest others →
      Precedes (a :: rest) (a :: others)

theorem Precedes.asymm {first second : List String} (h : Precedes first second) :
    ¬ Precedes second first := by
  induction h with
  | files hlt =>
    intro h
    cases h with
    | files hlt' => exact String.lt_asymm hlt hlt'
    | within h => cases h
  | fileFirst =>
    intro h
    cases h with
    | within h => cases h
  | directories hlt =>
    intro h
    cases h with
    | directories hlt' => exact String.lt_asymm hlt hlt'
    | within h => exact String.lt_irrefl _ hlt
  | within hwithin ih =>
    intro h
    cases h with
    | files hlt => exact String.lt_irrefl _ hlt
    | fileFirst => cases hwithin
    | directories hlt => exact String.lt_irrefl _ hlt
    | within h => exact ih h

theorem Precedes.ne {first second : List String} (h : Precedes first second) : first ≠ second := by
  rintro rfl
  exact h.asymm h

/-- Nothing but a directory has a source below it. -/
theorem IsSource.eq_nil {ignored : List String} {leadsToDirectory : Path → Bool} {p : Path}
    {tree : FileNode} {names : List String} (h : IsSource ignored leadsToDirectory p tree names)
    (hkind : tree.kind ≠ .directory) : names = [] := by
  have hthere : (tree.kindAt ([] ++ names)).isSome := by
    rcases h.stands with hfile | ⟨target, hlink, -⟩
    · simp [hfile]
    · simp [hlink]
  refine Decidable.byContradiction fun hne => hkind ?_
  exact Option.some.inj (FileNode.kindAt_of_append hthere hne)

/-- The files of a walk determine their order. -/
theorem eq_of_precedes {found other : List (List String)} (hfound : found.Pairwise Precedes)
    (hother : other.Pairwise Precedes) (h : ∀ names, names ∈ found ↔ names ∈ other) :
    found = other := by
  have hperm : found.Perm other := (List.perm_ext_iff_of_nodup (hfound.imp Precedes.ne)
    (hother.imp Precedes.ne)).2 h
  exact hperm.eq_of_pairwise (fun _ _ _ _ hlt hgt => absurd hgt hlt.asymm) hfound hother

theorem Path.descend_injective (p : Path) : Function.Injective p.descend := by
  intro names others h
  simpa [descend] using h

theorem Path.descend_singleton (p : Path) (name : String) : p.descend [name] = p.child name := rfl

theorem Path.descend_cons (p : Path) (name : String) (rest : List String) :
    p.descend (name :: rest) = (p.child name).descend rest := by
  simp [descend, child]

theorem Path.language?_isSome_iff {p : Path} :
    p.language?.isSome = true ↔ p.suffix = ".ts" ∨ p.suffix = ".js" := by
  unfold language? SourceLanguage.ofSuffix?
  by_cases hts : p.suffix = ".ts"
  · simp [hts]
  · by_cases hjs : p.suffix = ".js" <;> simp [hts, hjs]

namespace Visit

open FileNode

variable {α β : Type} {ignored : List String} {leadsToDirectory : Path → Bool} {p : Path}
  {entries : List (String × FileNode)}

/-! ## Sorting by names -/

theorem lt_of_le_of_ne {a b : String} (hle : a ≤ b) (hne : a ≠ b) : a < b :=
  Decidable.byContradiction fun hlt => hne (String.le_antisymm hle (String.not_lt.1 hlt))

theorem sortNames_pairwise {names : List String} (h : names.Nodup) :
    (sortNames names).Pairwise (· < ·) := by
  have hle : (sortNames names).Pairwise fun a b => decide (a ≤ b) = true := by
    refine List.pairwise_mergeSort ?_ ?_ names
    · intro a b c hab hbc
      exact decide_eq_true (String.le_trans (of_decide_eq_true hab) (of_decide_eq_true hbc))
    · intro a b
      simpa using String.le_total a b
  have hnodup : (sortNames names).Nodup := (List.mergeSort_perm names _).nodup_iff.2 h
  exact (hle.and hnodup).imp fun ⟨hle, hne⟩ => lt_of_le_of_ne (of_decide_eq_true hle) hne

theorem sortByName_perm (entries : List (String × α)) : (sortByName entries).Perm entries :=
  List.mergeSort_perm entries _

theorem map_sortByName {f : String × α → String × β} (hf : ∀ entry, (f entry).1 = entry.1)
    (entries : List (String × α)) :
    (sortByName entries).map f = sortByName (entries.map f) := by
  refine List.map_mergeSort ?_
  intro a _ b _
  rw [hf, hf]

theorem map_fst_sortByName (entries : List (String × α)) :
    (sortByName entries).map Prod.fst = sortNames (entries.map Prod.fst) :=
  List.map_mergeSort fun _ _ _ _ => rfl

theorem sortByName_pairwise {entries : List (String × α)} (h : (entries.map Prod.fst).Nodup) :
    (sortByName entries).Pairwise fun a b => a.1 < b.1 := by
  rw [← List.pairwise_map, map_fst_sortByName]
  exact sortNames_pairwise h

/-! ## The sources of a directory -/

/-- The source files of some visits. -/
def sources (visits : List Visit) : List Path :=
  visits.flatMap fun v => v.paths.filter fun p => p.language?.isSome

/-- The names of the source files in a directory, in ascending order. -/
def ownSources (leadsToDirectory : Path → Bool) (p : Path) (entries : List (String × FileNode)) :
    List String :=
  (sortNames ((entries.filter (isFile leadsToDirectory p)).map Prod.fst)).filter fun name =>
    (p.child name).language?.isSome

/-- The entries of a directory that are looked into, in ascending order. -/
def lookedInto (ignored : List String) (entries : List (String × FileNode)) :
    List (String × FileNode) :=
  sortByName (entries.filter fun entry => entry.1 ∉ ignored)

theorem below_eq : below ignored leadsToDirectory p entries =
    (entries.filter fun entry => entry.1 ∉ ignored).map fun entry =>
      (entry.1, ofNode ignored leadsToDirectory (p.child entry.1) entry.2) := by
  induction entries with
  | nil => rfl
  | cons entry rest ih =>
    have hname : (p.child entry.1).isIgnored ignored = decide (entry.1 ∈ ignored) := by
      simp [Path.isIgnored, Path.name, Path.child]
    by_cases hignored : entry.1 ∈ ignored
    · simp [below, hname, hignored, ih]
    · simp [below, hname, hignored, ih]

/-- The sources of a directory: first its own, then those of what is below it. -/
theorem sources_ofNode_directory :
    sources (ofNode ignored leadsToDirectory p (.directory entries)) =
      (ownSources leadsToDirectory p entries).map p.child ++
        (sortByName (below ignored leadsToDirectory p entries)).flatMap fun visited =>
          sources visited.2 := by
  rw [ofNode]
  simp only [sources, List.flatMap_cons, paths, List.filter_map, List.flatMap_assoc]
  rfl

theorem sources_directory : sources (ofNode ignored leadsToDirectory p (.directory entries)) =
    (ownSources leadsToDirectory p entries).map p.child ++
      (lookedInto ignored entries).flatMap fun entry =>
        sources (ofNode ignored leadsToDirectory (p.child entry.1) entry.2) := by
  have hsorted := map_sortByName
    (f := fun entry => (entry.1, ofNode ignored leadsToDirectory (p.child entry.1) entry.2))
    (fun _ => rfl) (entries.filter fun entry => entry.1 ∉ ignored)
  rw [sources_ofNode_directory, below_eq, ← hsorted, List.flatMap_map]
  rfl

theorem mem_ownSources_iff {name : String} : name ∈ ownSources leadsToDirectory p entries ↔
    (∃ node, (name, node) ∈ entries ∧ isFile leadsToDirectory p (name, node) = true) ∧
      (p.child name).language?.isSome = true := by
  simp only [ownSources, sortNames, List.mem_filter, List.mem_mergeSort, List.mem_map,
    Prod.exists, exists_and_right, exists_eq_right]

theorem ownSources_pairwise (hnodup : (entries.map Prod.fst).Nodup) :
    (ownSources leadsToDirectory p entries).Pairwise (· < ·) := by
  refine (sortNames_pairwise ?_).sublist List.filter_sublist
  exact hnodup.sublist (List.filter_sublist.map Prod.fst)

theorem mem_lookedInto_iff {entry : String × FileNode} :
    entry ∈ lookedInto ignored entries ↔ entry ∈ entries ∧ entry.1 ∉ ignored := by
  simp only [lookedInto, (sortByName_perm _).mem_iff, List.mem_filter, decide_eq_true_eq]

/-! ## What a source is, by the first of its names -/

theorem isFile_iff {name : String} {node : FileNode} :
    isFile leadsToDirectory p (name, node) = true ↔ node.kind = .file ∨
      ∃ target, node.kind = .link target ∧ leadsToDirectory (p.child name) = false := by
  cases node <;> simp [isFile, kind]

theorem isSource_singleton_iff (hnodup : (entries.map Prod.fst).Nodup) {name : String} :
    IsSource ignored leadsToDirectory p (.directory entries) [name] ↔
      name ∈ ownSources leadsToDirectory p entries := by
  have hkind : ∀ kind, (FileNode.directory entries).kindAt [name] = some kind ↔
      ∃ node, (name, node) ∈ entries ∧ node.kind = kind := by
    simp [kindAt_directory_iff hnodup, kindAt_nil]
  rw [mem_ownSources_iff, Path.language?_isSome_iff]
  constructor
  · rintro ⟨-, hstands, hsuffix⟩
    refine ⟨?_, hsuffix⟩
    rcases hstands with hfile | ⟨target, hlink, hleads⟩
    · obtain ⟨node, hmem, hfile⟩ := (hkind _).1 hfile
      exact ⟨node, hmem, isFile_iff.2 (.inl hfile)⟩
    · obtain ⟨node, hmem, hlink⟩ := (hkind _).1 hlink
      exact ⟨node, hmem, isFile_iff.2 (.inr ⟨target, hlink, hleads⟩)⟩
  · rintro ⟨⟨node, hmem, hfile⟩, hsuffix⟩
    refine ⟨by simp, ?_, hsuffix⟩
    rcases isFile_iff.1 hfile with hfile | ⟨target, hlink, hleads⟩
    · exact .inl ((hkind _).2 ⟨node, hmem, hfile⟩)
    · exact .inr ⟨target, (hkind _).2 ⟨node, hmem, hlink⟩, hleads⟩

theorem isSource_cons_iff (hnodup : (entries.map Prod.fst).Nodup) {name : String}
    {rest : List String} (hrest : rest ≠ []) :
    IsSource ignored leadsToDirectory p (.directory entries) (name :: rest) ↔
      ∃ node, (name, node) ∈ lookedInto ignored entries ∧
        IsSource ignored leadsToDirectory (p.child name) node rest := by
  have hkind : ∀ kind, (FileNode.directory entries).kindAt (name :: rest) = some kind ↔
      ∃ node, (name, node) ∈ entries ∧ node.kindAt rest = some kind :=
    fun _ => kindAt_directory_iff hnodup
  have hdrop : (name :: rest).dropLast = name :: rest.dropLast := List.dropLast_cons_of_ne_nil hrest
  have hpath := p.descend_cons name rest
  constructor
  · rintro ⟨hkept, hstands, hsuffix⟩
    rw [hdrop] at hkept
    rw [hpath] at hstands hsuffix
    obtain ⟨hname, hkept⟩ := List.forall_mem_cons.1 hkept
    rcases hstands with hfile | ⟨target, hlink, hleads⟩
    · obtain ⟨node, hmem, hfile⟩ := (hkind _).1 hfile
      exact ⟨node, mem_lookedInto_iff.2 ⟨hmem, hname⟩, hkept, .inl hfile, hsuffix⟩
    · obtain ⟨node, hmem, hlink⟩ := (hkind _).1 hlink
      exact ⟨node, mem_lookedInto_iff.2 ⟨hmem, hname⟩, hkept, .inr ⟨target, hlink, hleads⟩, hsuffix⟩
  · rintro ⟨node, hmem, hkept, hstands, hsuffix⟩
    obtain ⟨hmem, hname⟩ := mem_lookedInto_iff.1 hmem
    rw [← hpath] at hstands hsuffix
    refine ⟨?_, ?_, hsuffix⟩
    · rw [hdrop]
      exact List.forall_mem_cons.2 ⟨hname, hkept⟩
    · rcases hstands with hfile | ⟨target, hlink, hleads⟩
      · exact .inl ((hkind _).2 ⟨node, hmem, hfile⟩)
      · exact .inr ⟨target, (hkind _).2 ⟨node, hmem, hlink⟩, hleads⟩

/-! ## The sources of a tree -/

/-- The sources below a directory that are in another one below it have names that start with its
name. -/
theorem pairwise_flatMap_lookedInto {found : String × FileNode → List (List String)}
    (hnodup : (entries.map Prod.fst).Nodup)
    (hfound : ∀ entry ∈ lookedInto ignored entries,
      (∀ names ∈ found entry, names ≠ []) ∧ (found entry).Pairwise Precedes) :
    ((lookedInto ignored entries).flatMap fun entry =>
      (found entry).map (entry.1 :: ·)).Pairwise Precedes := by
  have hsub : ((entries.filter fun entry => entry.1 ∉ ignored).map Prod.fst).Nodup :=
    hnodup.sublist (List.filter_sublist.map Prod.fst)
  refine List.pairwise_flatMap.2 ⟨?_, ?_⟩
  · intro entry hentry
    exact (hfound entry hentry).2.map _ fun _ _ h => .within h
  · refine (sortByName_pairwise hsub).imp_of_mem ?_
    intro first second hfirst hsecond hlt names hnames others hothers
    obtain ⟨rest, hrest, rfl⟩ := List.mem_map.1 hnames
    obtain ⟨rest', hrest', rfl⟩ := List.mem_map.1 hothers
    obtain ⟨a, as, rfl⟩ := List.exists_cons_of_ne_nil ((hfound first hfirst).1 rest hrest)
    obtain ⟨b, bs, rfl⟩ := List.exists_cons_of_ne_nil ((hfound second hsecond).1 rest' hrest')
    exact .directories hlt

/-- A walk finds the sources of a tree, in the order of the walk. -/
theorem exists_sources (ignored : List String) (leadsToDirectory : Path → Bool) {tree : FileNode}
    (htree : tree.IsTree) (p : Path) :
    ∃ found : List (List String),
      sources (ofNode ignored leadsToDirectory p tree) = found.map p.descend ∧
      (∀ names, names ∈ found ↔ names ≠ [] ∧ IsSource ignored leadsToDirectory p tree names) ∧
      found.Pairwise Precedes := by
  induction htree generalizing p with
  | file content =>
    refine ⟨[], rfl, fun names => ⟨nofun, ?_⟩, .nil⟩
    rintro ⟨hne, h⟩
    exact absurd (h.eq_nil nofun) hne
  | link target =>
    refine ⟨[], rfl, fun names => ⟨nofun, ?_⟩, .nil⟩
    rintro ⟨hne, h⟩
    exact absurd (h.eq_nil nofun) hne
  | @directory entries hnodup hsub ih =>
    choose! found hpaths hmem hsorted using fun entry hentry => ih entry hentry (p.child entry.1)
    have hof : ∀ entry ∈ lookedInto ignored entries, entry ∈ entries :=
      fun entry hentry => (mem_lookedInto_iff.1 hentry).1
    refine ⟨(ownSources leadsToDirectory p entries).map ([·]) ++
      (lookedInto ignored entries).flatMap fun entry => (found entry).map (entry.1 :: ·),
      ?_, ?_, ?_⟩
    · have hbelow : ∀ entry ∈ lookedInto ignored entries,
          sources (ofNode ignored leadsToDirectory (p.child entry.1) entry.2) =
            ((found entry).map (entry.1 :: ·)).map p.descend := by
        intro entry hentry
        rw [hpaths entry (hof entry hentry), List.map_map]
        refine List.map_congr_left ?_
        intro names _
        exact (p.descend_cons entry.1 names).symm
      rw [sources_directory, List.flatMap_congr hbelow, List.map_append, List.map_flatMap,
        List.map_map]
      rfl
    · intro names
      rw [List.mem_append, List.mem_flatMap, List.mem_map]
      constructor
      · rintro (⟨name, hname, rfl⟩ | ⟨entry, hentry, hnames⟩)
        · exact ⟨by simp, (isSource_singleton_iff hnodup).2 hname⟩
        · obtain ⟨rest, hrest, rfl⟩ := List.mem_map.1 hnames
          obtain ⟨hne, hsource⟩ := (hmem entry (hof entry hentry) rest).1 hrest
          exact ⟨by simp, (isSource_cons_iff hnodup hne).2 ⟨entry.2, hentry, hsource⟩⟩
      · rintro ⟨hne, hsource⟩
        obtain ⟨name, rest, rfl⟩ := List.exists_cons_of_ne_nil hne
        by_cases hrest : rest = []
        · subst hrest
          exact .inl ⟨name, (isSource_singleton_iff hnodup).1 hsource, rfl⟩
        · obtain ⟨node, hnode, hsource⟩ := (isSource_cons_iff hnodup hrest).1 hsource
          exact .inr ⟨(name, node), hnode,
            List.mem_map_of_mem ((hmem _ (hof _ hnode) rest).2 ⟨hrest, hsource⟩)⟩
    · refine List.pairwise_append.2 ⟨?_, ?_, ?_⟩
      · exact (ownSources_pairwise hnodup).map _ fun _ _ h => .files h
      · refine pairwise_flatMap_lookedInto hnodup fun entry hentry =>
          ⟨?_, hsorted entry (hof _ hentry)⟩
        intro names hnames
        exact ((hmem entry (hof _ hentry) names).1 hnames).1
      · intro names hnames others hothers
        obtain ⟨name, -, rfl⟩ := List.mem_map.1 hnames
        obtain ⟨entry, hentry, hothers⟩ := List.mem_flatMap.1 hothers
        obtain ⟨rest, hrest, rfl⟩ := List.mem_map.1 hothers
        obtain ⟨next, more, rfl⟩ :=
          List.exists_cons_of_ne_nil ((hmem entry (hof _ hentry) rest).1 hrest).1
        exact .fileFirst

/-- The sources of a tree do not depend on anything but the kinds of its nodes. -/
theorem isSource_congr {tree other : FileNode}
    (h : ∀ names, other.kindAt names = tree.kindAt names) (names : List String) :
    IsSource ignored leadsToDirectory p other names ↔
      IsSource ignored leadsToDirectory p tree names := by
  constructor
  · rintro ⟨hkept, hstands, hsuffix⟩
    exact ⟨hkept, h names ▸ hstands, hsuffix⟩
  · rintro ⟨hkept, hstands, hsuffix⟩
    exact ⟨hkept, (h names).symm ▸ hstands, hsuffix⟩

end Visit

namespace Disk

open FileNode Visit

variable {d : Disk} {ignored : List String} {root : Path} {entries : List (String × FileNode)}

theorem sourceFiles_of_list (hlist : d.list root = .ok entries) : d.sourceFiles ignored root =
    .ok (sources (ofNode ignored d.isDirectory root (.directory entries))) := by
  simp [sourceFiles, visits, hlist, Except.map, sources]

theorem sourceFiles_of_isTree (ignored : List String) (htree : d.root.IsTree)
    (hlist : d.list root = .ok entries) : ∃ found : List (List String),
      d.sourceFiles ignored root = .ok (found.map root.descend) ∧
      (∀ names, names ∈ found ↔
        IsSource ignored d.isDirectory root (.directory entries) names) ∧
      found.Pairwise Precedes := by
  obtain ⟨found, hpaths, hmem, hsorted⟩ := exists_sources ignored d.isDirectory
    (isTree_of_list htree hlist) root
  refine ⟨found, by rw [sourceFiles_of_list hlist, hpaths], ?_, hsorted⟩
  intro names
  rw [hmem]
  refine ⟨fun h => h.2, fun h => ⟨?_, h⟩⟩
  -- the directory itself is no source
  rintro rfl
  rcases h.stands with hfile | ⟨target, hlink, -⟩
  · cases hfile
  · cases hlink

/-- Some names lead to the files that a walk finds below a directory: exactly its sources, each of
them once, in the order of the walk, and the same in whatever order directories list their
entries. -/
structure FindsSources (d : Disk) (ignored : List String) (root : Path)
    (entries : List (String × FileNode)) (found : List (List String)) : Prop where
  finds : d.sourceFiles ignored root = .ok (found.map root.descend)
  exactly : ∀ names, names ∈ found ↔
    IsSource ignored d.isDirectory root (.directory entries) names
  once : (found.map root.descend).Nodup
  ordered : found.Pairwise Precedes
  reproducible : ∀ other, d.root.Reordered other →
    Disk.sourceFiles { d with root := other } ignored root = .ok (found.map root.descend)

/-- A walk below a directory that can be listed finds the sources of the tree. -/
theorem finds_sources (ignored : List String) (htree : d.root.IsTree)
    (hlist : d.list root = .ok entries) :
    ∃ found, FindsSources d ignored root entries found := by
  obtain ⟨found, hfound, hmem, hsorted⟩ := sourceFiles_of_isTree ignored htree hlist
  refine ⟨found, hfound, hmem, ?_, hsorted, ?_⟩
  · exact hsorted.map _ fun names others h heq => h.ne (Path.descend_injective root heq)
  · intro other hother
    have hkind := hother.kindAt_eq htree
    obtain ⟨others, hlist', hbelow⟩ := list_congr hkind hlist
    obtain ⟨found', hfound', hmem', hsorted'⟩ :=
      sourceFiles_of_isTree (d := { d with root := other }) ignored (hother.isTree htree) hlist'
    have hsame : found' = found := by
      refine eq_of_precedes hsorted' hsorted fun names => ?_
      rw [hmem', hmem, isDirectory_congr hkind, isSource_congr hbelow]
    rw [hfound', hsame]

/-- Entries of all kinds: links to a file, to a directory and to nothing, and directories one of
which is named like a source. -/
def mixedDisk : Disk :=
  { root := .directory
      [("lib.js", .directory [("z.js", .file []), ("z.css", .file [])]),
       ("node_modules", .directory [("x.js", .file [])]), ("b.ts", .file []),
       ("gone.js", .link "nowhere"), ("again.js", .link "lib.js")] }

theorem finds_sources_mixed : ∃ entries found,
    mixedDisk.root.IsTree ∧ mixedDisk.list ⟨.relative, []⟩ = .ok entries ∧
      FindsSources mixedDisk ["node_modules"] ⟨.relative, []⟩ entries found ∧
      ["lib.js", "z.js"] ∈ found ∧ ["gone.js"] ∈ found ∧ ["again.js"] ∉ found ∧
      ["node_modules", "x.js"] ∉ found := by
  have htree : mixedDisk.root.IsTree := by
    refine .directory (by decide) ?_
    simp only [List.mem_cons, List.not_mem_nil, or_false, forall_eq_or_imp, forall_eq]
    refine ⟨.directory (by decide) ?_, .directory (by decide) ?_, .file _, .link _, .link _⟩
    · simp [IsTree.file]
    · simp [IsTree.file]
  have hlist : mixedDisk.list ⟨.relative, []⟩ = .ok mixedDisk.root.entries := by cbv
  obtain ⟨found, hfound⟩ := finds_sources ["node_modules"] htree hlist
  refine ⟨_, found, htree, hlist, hfound, ?_, ?_, ?_, ?_⟩
  · exact (hfound.exactly _).2 ⟨by decide, .inl rfl, .inr (by decide)⟩
  · exact (hfound.exactly _).2 ⟨by decide, .inr ⟨"nowhere", rfl, by cbv⟩, .inr (by decide)⟩
  · intro hmem
    rcases ((hfound.exactly _).1 hmem).stands with hfile | ⟨target, -, hleads⟩
    · cases hfile
    · have hdirectory : mixedDisk.isDirectory ⟨.relative, ["again.js"]⟩ = true := by cbv
      exact Bool.noConfusion (hleads.symm.trans hdirectory)
  · intro hmem
    exact ((hfound.exactly _).1 hmem).kept "node_modules" (by decide) (by decide)

end Disk

end EndpointCatalog
