/-
EndpointCatalog.Proofs.Vendored.Listing — scenes whose directories list their
entries in another order.

A walk sorts the names of files and of directories, so that it comes to the
same stages in whatever order a directory lists its entries.

* `Scene.Reordered`: two scenes differ only in the order of entries, at any
  depth. They are walked alike (`Reordered.walked_eq`).
* `Disk.scene_reordered`: such are the scenes of disks whose trees differ only
  in this order, links included: what a link leads to is the same in both.
-/
import EndpointCatalog.Proofs.FileTree.Reordering
import EndpointCatalog.Proofs.Vendored.Outside

namespace EndpointCatalog

/-! ## Nodes -/

namespace FileNode

variable {n m a : FileNode} {place : List String}

/-- Some names lead to the same nodes in both trees, but for the order of entries. -/
theorem Reordered.at?_eq_some (h : n.Reordered m) (hn : n.IsTree) (hat : n.at? place = some a) :
    ∃ b, m.at? place = some b ∧ a.Reordered b := by
  induction h generalizing place a with
  | refl n => exact ⟨a, hat, .refl a⟩
  | trans hnm _ ih ih' =>
    obtain ⟨b, hb, hab⟩ := ih hn hat
    obtain ⟨c, hc, hbc⟩ := ih' (hnm.isTree hn) hb
    exact ⟨c, hc, hab.trans hbc⟩
  | @listed entries others hperm =>
    cases hn with
    | directory hnodup hsub =>
      cases place with
      | nil =>
        cases hat
        exact ⟨_, rfl, .listed hperm⟩
      | cons name place =>
        rw [at?_cons] at hat ⊢
        obtain ⟨child, hchild, hat⟩ := Option.bind_eq_some_iff.1 hat
        have hchild' := (entry?_eq_some_iff ((hperm.map Prod.fst).nodup_iff.1 hnodup)).2
          (hperm.mem_iff.1 ((entry?_eq_some_iff hnodup).1 hchild))
        rw [hchild']
        exact ⟨a, hat, .refl a⟩
  | @entry name n m before after hnm ih =>
    cases hn with
    | directory hnodup hsub =>
      cases place with
      | nil =>
        cases hat
        exact ⟨_, rfl, .entry hnm⟩
      | cons other place =>
        have hmem : (name, n) ∈ before ++ (name, n) :: after := by simp
        have hmem' : (name, m) ∈ before ++ (name, m) :: after := by simp
        have hnodup' : ((before ++ (name, m) :: after).map Prod.fst).Nodup := by
          simpa using hnodup
        rw [at?_cons] at hat ⊢
        obtain ⟨child, hchild, hat⟩ := Option.bind_eq_some_iff.1 hat
        by_cases hother : other = name
        · subst hother
          obtain rfl := Option.some.inj
            (((entry?_eq_some_iff hnodup).2 hmem).symm.trans hchild)
          rw [(entry?_eq_some_iff hnodup').2 hmem']
          exact ih (hsub _ hmem) hat
        · have hchild' : entry? (directory (before ++ (name, m) :: after)) other = some child := by
            rw [entry?_eq_some_iff hnodup] at hchild
            rw [entry?_eq_some_iff hnodup']
            simpa [hother] using hchild
          rw [hchild']
          exact ⟨a, hat, .refl a⟩

/-- The order of entries does not make another node of a directory. -/
theorem Reordered.kind_eq (h : n.Reordered m) : m.kind = n.kind := by
  induction h with
  | refl => rfl
  | trans _ _ ih ih' => exact ih'.trans ih
  | listed => rfl
  | entry => rfl

/-- Files do not differ at all. -/
theorem Reordered.eq_of_file {content : List UInt8} (h : (file content).Reordered m) :
    m = file content := by
  generalize hn : file content = n at h
  induction h with
  | refl => rfl
  | trans _ _ ih ih' =>
    subst hn
    obtain rfl := ih rfl
    exact ih' rfl
  | listed => cases hn
  | entry => cases hn

end FileNode

/-! ## Scenes -/

namespace Scene

open Visit (sortByName)
open Sight (spelledBelow)

/-- Two scenes differ only in the order in which their directories list the entries. -/
inductive Reordered : Scene → Scene → Prop where
  | refl (x : Scene) : Reordered x x
  | trans {x y z : Scene} : Reordered x y → Reordered y z → Reordered x z
  /-- A directory lists its entries in another order. -/
  | listed {entries others : List (String × Scene)} : entries.Perm others →
      Reordered (.directory entries) (.directory others)
  /-- A directory below does. -/
  | entry {name : String} {x y : Scene} {before after : List (String × Scene)} :
      Reordered x y → Reordered (.directory (before ++ (name, x) :: after))
        (.directory (before ++ (name, y) :: after))

variable {x y : Scene}

theorem Reordered.isTree (h : x.Reordered y) (hx : x.IsTree) : y.IsTree := by
  induction h with
  | refl => exact hx
  | trans _ _ ih ih' => exact ih' (ih hx)
  | listed hperm =>
    cases hx with
    | directory hnodup hsub =>
      exact .directory ((hperm.map Prod.fst).nodup_iff.1 hnodup)
        fun entry hentry => hsub entry (hperm.mem_iff.2 hentry)
  | entry _ ih =>
    cases hx with
    | directory hnodup hsub =>
      refine .directory (by simpa using hnodup) ?_
      simp only [List.mem_append, List.mem_cons] at hsub ⊢
      rintro entry (hbefore | rfl | hafter)
      · exact hsub entry (.inl hbefore)
      · exact ih (hsub _ (.inr (.inl rfl)))
      · exact hsub entry (.inr (.inr hafter))

/-- What is no directory does not differ at all. -/
theorem Reordered.content?_eq (h : x.Reordered y) (name : String) :
    content? (name, y) = content? (name, x) := by
  induction h with
  | refl => rfl
  | trans _ _ ih ih' => exact ih'.trans ih
  | listed => rfl
  | entry => rfl

/-- A walk comes to the same stages in both. -/
theorem Reordered.stages_eq (h : x.Reordered y) (hx : x.IsTree) (ignored : List String)
    (spelled : String) (p : Path) : y.stages ignored spelled p = x.stages ignored spelled p := by
  induction h generalizing spelled p with
  | refl => rfl
  | trans hxy _ ih ih' => rw [ih' (hxy.isTree hx), ih hx]
  | @listed entries others hperm =>
    cases hx with
    | directory hnodup hsub =>
      rw [stages_directory, stages_directory,
        Visit.sortByName_eq_of_perm (hperm.filterMap content?) (nodup_content? hnodup),
        Visit.sortByName_eq_of_perm (hperm.filter _)
          (hnodup.sublist (List.filter_sublist.map Prod.fst))]
  | @entry name x y before after hxy ih =>
    cases hx with
    | directory hnodup hsub =>
      have hbelow := ih (hsub _ (List.mem_append_right _ List.mem_cons_self))
      have hfiles : (before ++ (name, y) :: after).filterMap content? =
          (before ++ (name, x) :: after).filterMap content? := by
        simp only [List.filterMap_append, List.filterMap_cons, hxy.content?_eq]
      have hstages : stagesBelow ignored spelled p (before ++ (name, y) :: after) =
          stagesBelow ignored spelled p (before ++ (name, x) :: after) := by
        simp only [stagesBelow_eq, List.filter_append, List.filter_cons, List.map_append]
        split <;> simp only [List.map_cons, hbelow]
      rw [stages, stages, hfiles, hstages]

theorem Reordered.walked_eq (h : x.Reordered y) (hx : x.IsTree) (ignored : List String)
    (root : Path) : y.walked ignored root = x.walked ignored root :=
  h.stages_eq hx ignored _ root

end Scene

/-! ## Disks -/

namespace Disk

open FileNode

variable {d d' : Disk} {other : FileNode}

theorem scenesBelow_eq (d : Disk) (p : Path) (entries : List (String × FileNode)) :
    d.scenesBelow p entries =
      entries.map fun entry => (entry.1, d.sceneOf (p.child entry.1) entry.2) := by
  induction entries with
  | nil => rfl
  | cons entry rest ih => rw [scenesBelow, ih]; rfl

/-- The scene of a node on two disks where the same can be read. -/
theorem sceneOf_congr (hcontent : d'.contentAt = d.contentAt)
    (hdirectory : d'.isDirectory = d.isDirectory) {node : FileNode} (hnode : node.IsTree)
    (p : Path) : d'.sceneOf p node = d.sceneOf p node := by
  induction hnode generalizing p with
  | file content => rw [sceneOf, sceneOf, hcontent]
  | link target => rw [sceneOf, sceneOf, hcontent, hdirectory]
  | @directory entries _ _ ih =>
    rw [sceneOf, sceneOf, scenesBelow_eq, scenesBelow_eq]
    exact congrArg _ (List.map_congr_left fun entry hentry => by rw [ih entry hentry])

/-- The scenes of nodes that differ only in the order of entries. -/
theorem sceneOf_reordered {n m : FileNode} (h : n.Reordered m) (p : Path) :
    (d.sceneOf p n).Reordered (d.sceneOf p m) := by
  induction h generalizing p with
  | refl n => exact .refl _
  | trans _ _ ih ih' => exact (ih p).trans (ih' p)
  | listed hperm =>
    rw [sceneOf, sceneOf, scenesBelow_eq, scenesBelow_eq]
    exact .listed (hperm.map _)
  | entry _ ih =>
    rw [sceneOf, sceneOf, scenesBelow_eq, scenesBelow_eq, List.map_append, List.map_append,
      List.map_cons, List.map_cons]
    exact .entry (ih _)

/-- The same is found at a path, but for the order of entries. -/
theorem find_reordered (h : d.root.Reordered other) (htree : d.root.IsTree) (p : Path) :
    (∃ e, d.find p = .error e ∧ Disk.find { d with root := other } p = .error e) ∨
      ∃ n m, d.find p = .ok n ∧ Disk.find { d with root := other } p = .ok m ∧ n.IsTree ∧
        n.Reordered m := by
  have hkinds := h.kindAt_eq htree
  have hkind := map_kind_find_congr hkinds p
  cases hfind : d.find p with
  | error e =>
    cases hfind' : Disk.find { d with root := other } p with
    | ok m => simp [hfind, hfind', Except.map] at hkind
    | error e' =>
      simp only [hfind, hfind', Except.map, Except.error.injEq] at hkind
      exact .inl ⟨e, rfl, by rw [hkind]⟩
  | ok n =>
    cases hfind' : Disk.find { d with root := other } p with
    | error e' => simp [hfind, hfind', Except.map] at hkind
    | ok m =>
      obtain ⟨place, hplace, hat⟩ := find_eq_ok_iff.1 hfind
      obtain ⟨place', hplace', hat'⟩ := find_eq_ok_iff.1 hfind'
      have hsame : kindPlace (Disk.place { d with root := other } p) = kindPlace (d.place p) :=
        kindPlace_congr hkinds mostLinks (d.startOf p) p.parts
      simp only [hplace, hplace', kindPlace, Except.map, Except.ok.injEq, Prod.mk.injEq] at hsame
      obtain ⟨rfl, -⟩ := hsame
      obtain ⟨m', hm', hnm⟩ := h.at?_eq_some htree hat
      obtain rfl := Option.some.inj (hat'.symm.trans hm')
      exact .inr ⟨n, m, rfl, rfl, htree.of_at? hat, hnm⟩

/-- Files have the same content. -/
theorem contentAt_reordered (h : d.root.Reordered other) (htree : d.root.IsTree) :
    Disk.contentAt { d with root := other } = d.contentAt := by
  funext p
  rw [contentAt, contentAt, read, read]
  rcases find_reordered h htree p with ⟨e, hfind, hfind'⟩ | ⟨n, m, hfind, hfind', -, hnm⟩
  · rw [hfind, hfind']
  · rw [hfind, hfind']
    have hkind := hnm.kind_eq
    cases n with
    | file content => rw [hnm.eq_of_file]
    | link target => cases m <;> first | rfl | cases hkind
    | directory entries => cases m <;> first | rfl | cases hkind

theorem isTree_sceneOf {node : FileNode} (hnode : node.IsTree) (p : Path) :
    (d.sceneOf p node).IsTree := by
  induction hnode generalizing p with
  | file content => exact .file _
  | link target =>
    rw [sceneOf]
    split
    · exact .linked
    · exact .file _
  | @directory entries hnodup _ ih =>
    rw [sceneOf, scenesBelow_eq]
    refine .directory (by simpa [Function.comp_def] using hnodup) ?_
    rw [List.forall_mem_map]
    exact fun entry hentry => ih entry hentry _

/-- Every disk shows a tree, if no directory of it lists a name twice. -/
theorem isTree_scene (htree : d.root.IsTree) (root : Path) : (d.scene root).IsTree := by
  unfold scene
  split
  · next entries hlist => exact isTree_sceneOf (isTree_of_list htree hlist) root
  · exact .closed _

/-- The scene of a disk whose directories list their entries in another order. -/
theorem scene_reordered (h : d.root.Reordered other) (htree : d.root.IsTree) (root : Path) :
    (d.scene root).Reordered (Disk.scene { d with root := other } root) := by
  have hcontent := contentAt_reordered h htree
  have hdirectory := isDirectory_congr (h.kindAt_eq htree)
  rw [scene, scene, list, list]
  rcases find_reordered h htree root with ⟨e, hfind, hfind'⟩ | ⟨n, m, hfind, hfind', hn, hnm⟩
  · rw [hfind, hfind']
    exact .refl _
  · have hkind := hnm.kind_eq
    rw [hfind, hfind']
    cases n with
    | file content =>
      rw [hnm.eq_of_file]
      exact .refl _
    | link target => cases m <;> first | exact .refl _ | cases hkind
    | directory entries =>
      obtain ⟨others, rfl⟩ := kind_eq_directory_iff.1 hkind
      have hscene := sceneOf_reordered (d := d) hnm root
      rw [← sceneOf_congr hcontent hdirectory (hnm.isTree hn)] at hscene
      exact hscene

end Disk

end EndpointCatalog
