/-
EndpointCatalog.Proofs.FileTree.Reordering — the order in which a directory
lists its entries.

* `IsTree`: no directory has two entries of one name.
* `Reordered`: two trees differ only in the order of entries, at any depth.

Looking up finds the same kinds of nodes in both (`Reordered.kindAt_eq`), and
kinds are all that the way along a path depends on (`kindPlace_congr`): what
is a directory in one tree is one in the other.
-/
import EndpointCatalog.Proofs.FileTree.Following

namespace EndpointCatalog

namespace FileNode

/-- No directory has two entries of one name. -/
inductive IsTree : FileNode → Prop where
  | file (content : List UInt8) : IsTree (.file content)
  | link (target : String) : IsTree (.link target)
  | directory {entries : List (String × FileNode)} : (entries.map Prod.fst).Nodup →
      (∀ entry ∈ entries, IsTree entry.2) → IsTree (.directory entries)

/-- Two trees differ only in the order in which their directories list the entries. -/
inductive Reordered : FileNode → FileNode → Prop where
  | refl (n : FileNode) : Reordered n n
  | trans {n m k : FileNode} : Reordered n m → Reordered m k → Reordered n k
  /-- A directory lists its entries in another order. -/
  | listed {entries others : List (String × FileNode)} : entries.Perm others →
      Reordered (.directory entries) (.directory others)
  /-- A directory below does. -/
  | entry {name : String} {n m : FileNode} {before after : List (String × FileNode)} :
      Reordered n m → Reordered (.directory (before ++ (name, n) :: after))
        (.directory (before ++ (name, m) :: after))

variable {n m : FileNode} {name : String} {names : List String}
  {entries others : List (String × FileNode)}

/-! ## Entries of a tree -/

theorem entry?_eq_some_iff (hnodup : (entries.map Prod.fst).Nodup) :
    entry? (directory entries) name = some n ↔ (name, n) ∈ entries := by
  induction entries with
  | nil => simp [ entry?, FileNode.entries]
  | cons first rest ih =>
    obtain ⟨hfirst, hrest⟩ := List.nodup_cons.1 hnodup
    have ih := ih hrest
    simp only [ entry?, FileNode.entries, List.find?_cons] at ih ⊢
    by_cases hname : first.1 = name
    · have hno : (name, n) ∉ rest := by
        intro hmem
        exact hfirst (hname ▸ List.mem_map_of_mem hmem)
      subst hname
      simp [hno, Prod.ext_iff, eq_comm]
    · have hne : (name, n) ≠ first := by
        rintro rfl
        exact hname rfl
      simp [hname, hne, ih]

theorem kindAt_directory_iff (hnodup : (entries.map Prod.fst).Nodup) {kind : FileKind} :
    (directory entries).kindAt (name :: names) = some kind ↔
      ∃ node, (name, node) ∈ entries ∧ node.kindAt names = some kind := by
  simp only [kindAt_cons, Option.bind_eq_some_iff, entry?_eq_some_iff hnodup]

theorem IsTree.of_child (h : n.IsTree) (hentry : n.entry? name = some m) : m.IsTree := by
  cases h with
  | file => cases hentry
  | link => cases hentry
  | directory hnodup hsub => exact hsub _ ((entry?_eq_some_iff hnodup).1 hentry)

theorem IsTree.of_at? (h : n.IsTree) (hat : n.at? names = some m) : m.IsTree := by
  induction names generalizing n with
  | nil => exact Option.some.inj hat ▸ h
  | cons name names ih =>
    rw [at?_cons] at hat
    obtain ⟨child, hchild, hat⟩ := Option.bind_eq_some_iff.1 hat
    exact ih (h.of_child hchild) hat

/-! ## Other orders -/

theorem Reordered.isTree (h : Reordered n m) (hn : n.IsTree) : m.IsTree := by
  induction h with
  | refl => exact hn
  | trans _ _ ih ih' => exact ih' (ih hn)
  | listed hperm =>
    cases hn with
    | directory hnodup hsub =>
      refine .directory ((hperm.map Prod.fst).nodup_iff.1 hnodup) ?_
      intro entry hentry
      exact hsub entry (hperm.mem_iff.2 hentry)
  | entry _ ih =>
    cases hn with
    | directory hnodup hsub =>
      refine .directory (by simpa using hnodup) ?_
      intro entry hentry
      rcases List.mem_append.1 hentry with hbefore | hafter
      · exact hsub entry (List.mem_append_left _ hbefore)
      · rcases List.mem_cons.1 hafter with rfl | hafter
        · exact ih (hsub _ (List.mem_append_right _ List.mem_cons_self))
        · exact hsub entry (List.mem_append_right _ (List.mem_cons_of_mem _ hafter))

theorem Reordered.kindAt_eq (h : Reordered n m) (hn : n.IsTree) (place : List String) :
    m.kindAt place = n.kindAt place := by
  induction h generalizing place with
  | refl => rfl
  | trans hnm _ ih ih' => rw [ih' (hnm.isTree hn), ih hn]
  | @listed entries others hperm =>
    cases hn with
    | directory hnodup hsub =>
      cases place with
      | nil => rfl
      | cons other place =>
        have hnodup' := (hperm.map Prod.fst).nodup_iff.1 hnodup
        have hentry : entry? (directory others) other = entry? (directory entries) other := by
          refine Option.ext fun child => ?_
          rw [entry?_eq_some_iff hnodup, entry?_eq_some_iff hnodup', hperm.mem_iff]
        rw [kindAt_cons, kindAt_cons, hentry]
  | @entry name n m before after hnm ih =>
    cases hn with
    | directory hnodup hsub =>
      cases place with
      | nil => rfl
      | cons other place =>
        have hmem : (name, n) ∈ before ++ (name, n) :: after := by simp
        have hmem' : (name, m) ∈ before ++ (name, m) :: after := by simp
        have hnodup' : ((before ++ (name, m) :: after).map Prod.fst).Nodup := by
          simpa using hnodup
        rw [kindAt_cons, kindAt_cons]
        by_cases hother : other = name
        · subst hother
          rw [(entry?_eq_some_iff hnodup).2 hmem, (entry?_eq_some_iff hnodup').2 hmem']
          exact ih (hsub _ hmem) place
        · have hentry : entry? (directory (before ++ (name, m) :: after)) other =
              entry? (directory (before ++ (name, n) :: after)) other := by
            refine Option.ext fun child => ?_
            rw [entry?_eq_some_iff hnodup, entry?_eq_some_iff hnodup']
            simp [hother]
          rw [hentry]

end FileNode

namespace Disk

open FileNode

variable {root other : FileNode}

/-- Where a path leads and what kind of node stands there. -/
def kindPlace (found : Except FileError (List String × Option FileNode)) :
    Except FileError (List String × Option FileKind) :=
  found.map fun reached => (reached.1, reached.2.map FileNode.kind)

/-- A node of the same kind as the one that stands at a place. -/
theorem at?_of_kindAt_eq {place : List String} (h : other.kindAt place = root.kindAt place) :
    match root.at? place with
    | none => other.at? place = none
    | some (.file _) => ∃ content, other.at? place = some (.file content)
    | some (.directory _) => ∃ entries, other.at? place = some (.directory entries)
    | some (.link target) => other.at? place = some (.link target) := by
  simp only [kindAt] at h
  cases hother : other.at? place with
  | none => cases hroot : root.at? place <;> simp [hother, hroot] at h ⊢
  | some found =>
    cases hroot : root.at? place with
    | none => simp [hother, hroot] at h
    | some stands =>
      cases stands <;> cases found <;> simp_all [kind]

/-- Trees with the same kinds of nodes at the same places lead to the same places. -/
theorem kindPlace_congr (h : ∀ place, other.kindAt place = root.kindAt place) (links : Nat)
    (place names : List String) :
    kindPlace (follow other links place names) = kindPlace (follow root links place names) := by
  -- one case for every way in which a step is taken: the other tree takes the same step
  fun_induction follow root links place names with
  | case1 links place =>
    rw [follow]
    exact congrArg (fun kind => Except.ok (place, kind)) (h place)
  | case2 links place rest ih =>
    rw [follow, if_pos rfl]
    exact ih
  | case3 links place name rest hname hnone hlast =>
    have hother := at?_of_kindAt_eq (h (place ++ [name]))
    simp only [hnone] at hother
    rw [follow, if_neg hname, hother, if_pos hlast]
  | case4 links place name rest hname hnone hmore =>
    have hother := at?_of_kindAt_eq (h (place ++ [name]))
    simp only [hnone] at hother
    rw [follow, if_neg hname, hother, if_neg hmore]
  | case5 links place name rest hname entries hdirectory ih =>
    have hother := at?_of_kindAt_eq (h (place ++ [name]))
    simp only [hdirectory] at hother
    obtain ⟨others, hother⟩ := hother
    rw [follow, if_neg hname, hother]
    exact ih
  | case6 links place name rest hname content hfile hlast =>
    have hother := at?_of_kindAt_eq (h (place ++ [name]))
    simp only [hfile] at hother
    obtain ⟨content', hother⟩ := hother
    simp only [follow, if_neg hname, hother, if_pos hlast]
    rfl
  | case7 links place name rest hname content hfile hmore =>
    have hother := at?_of_kindAt_eq (h (place ++ [name]))
    simp only [hfile] at hother
    obtain ⟨content', hother⟩ := hother
    simp only [follow, if_neg hname, hother, if_neg hmore]
  | case8 place name rest hname target hlink =>
    have hother := at?_of_kindAt_eq (h (place ++ [name]))
    simp only [hlink] at hother
    rw [follow, if_neg hname, hother]
  | case9 place name rest hname target hlink fewer path ih =>
    have hother := at?_of_kindAt_eq (h (place ++ [name]))
    simp only [hlink] at hother
    rw [follow, if_neg hname, hother]
    exact ih

variable {d : Disk} {p : Path} {entries : List (String × FileNode)}

/-- What is found at a path stands at a real place. -/
theorem find_eq_ok_iff {node : FileNode} : d.find p = .ok node ↔
    ∃ place, d.place p = .ok (place, some node) ∧ d.root.at? place = some node := by
  constructor
  · intro h
    unfold find at h
    split at h
    · next place found hplace =>
      cases h
      exact ⟨place, hplace, (leads_of_follow hplace).2.symm⟩
    · cases h
    · cases h
  · rintro ⟨place, hplace, -⟩
    rw [find, hplace]

theorem list_eq_ok_iff : d.list p = .ok entries ↔ d.find p = .ok (.directory entries) := by
  unfold list
  split
  · next es hfind => simp [hfind]
  · next node hno hfind =>
    have hne : node ≠ .directory entries := fun heq => hno entries heq
    simp [hfind, hne]
  · next e hfind => simp [hfind]

theorem isTree_of_list (htree : d.root.IsTree) (h : d.list p = .ok entries) :
    (FileNode.directory entries).IsTree := by
  obtain ⟨place, -, hat⟩ := find_eq_ok_iff.1 (list_eq_ok_iff.1 h)
  exact htree.of_at? hat

/-- The kind of what is found at a path. -/
theorem map_kind_find_congr (h : ∀ place, other.kindAt place = d.root.kindAt place) (p : Path) :
    (Disk.find { d with root := other } p).map FileNode.kind = (d.find p).map FileNode.kind := by
  have hplace : kindPlace (Disk.place { d with root := other } p) = kindPlace (d.place p) :=
    kindPlace_congr h mostLinks (d.startOf p) p.parts
  unfold find
  cases hfirst : d.place p with
  | error e =>
    cases hnext : Disk.place { d with root := other } p with
    | error e' => simp_all [kindPlace, Except.map]
    | ok reached => simp_all [kindPlace, Except.map]
  | ok reached =>
    cases hnext : Disk.place { d with root := other } p with
    | error e' => simp_all [kindPlace, Except.map]
    | ok reached' =>
      obtain ⟨place, node⟩ := reached
      obtain ⟨place', node'⟩ := reached'
      cases node <;> cases node' <;> simp_all [kindPlace, Except.map]

theorem isDirectory_eq_true_iff :
    d.isDirectory p = true ↔ (d.find p).map FileNode.kind = .ok .directory := by
  unfold isDirectory
  cases d.find p with
  | error e => simp [Except.map]
  | ok node => cases node <;> simp [Except.map, kind, FileNode.isDirectory]

theorem isDirectory_congr (h : ∀ place, other.kindAt place = d.root.kindAt place) :
    Disk.isDirectory { d with root := other } = d.isDirectory := by
  funext p
  rw [Bool.eq_iff_iff, isDirectory_eq_true_iff, isDirectory_eq_true_iff, map_kind_find_congr h]

/-- A directory is listed in the other tree as well, with the same kinds of nodes below it. -/
theorem list_congr (h : ∀ place, other.kindAt place = d.root.kindAt place)
    (hlist : d.list p = .ok entries) :
    ∃ others, Disk.list { d with root := other } p = .ok others ∧
      ∀ names, (FileNode.directory others).kindAt names =
        (FileNode.directory entries).kindAt names := by
  obtain ⟨place, hplace, hat⟩ := find_eq_ok_iff.1 (list_eq_ok_iff.1 hlist)
  have hkind : kindPlace (Disk.place { d with root := other } p) = kindPlace (d.place p) :=
    kindPlace_congr h mostLinks (d.startOf p) p.parts
  cases hreached : Disk.place { d with root := other } p with
  | error e => simp [kindPlace, Except.map, hplace, hreached] at hkind
  | ok reached =>
    obtain ⟨place', node⟩ := reached
    have hnode := (leads_of_follow hreached).2
    simp only [kindPlace, Except.map, hplace, hreached, Except.ok.injEq, Prod.mk.injEq,
      Option.map_some] at hkind
    obtain ⟨rfl, hdirectory⟩ := hkind
    obtain ⟨found, hfound, hkind⟩ := Option.map_eq_some_iff.1 hdirectory
    obtain ⟨others, rfl⟩ := kind_eq_directory_iff.1 hkind
    have hat' : other.at? place' = some (.directory others) := by rw [← hnode, hfound]
    have hfind := find_eq_ok_iff.2 ⟨place', by rw [hreached, hfound], hat'⟩
    refine ⟨others, list_eq_ok_iff.2 hfind, ?_⟩
    intro names
    have hbelow := h (place' ++ names)
    rwa [kindAt_append, kindAt_append, hat, hat'] at hbelow

end Disk

end EndpointCatalog
