/-
EndpointCatalog.Proofs.FileTree.Writing — a file that is written is there.

A walk that ends at a file or at a free name goes by directories and links. A
file that is put there changes none of these, so that the same walk ends at it
(`follow_put`, `read_of_write`). Directories that are made for it leave those
that were there (`Holds`).
-/
import EndpointCatalog.Proofs.FileTree.Staying

namespace EndpointCatalog.Disk

open FileNode

variable {root : FileNode} {place names q r : List String} {d made : Disk} {p : Path}

/-! ## Files -/

/-- What is put at the end of a walk is at no place on the way there. -/
theorem kindAt_put_of_kind {kind : FileKind} {new : FileNode}
    (hfree : root.kindAt q = none ∨ root.kindAt q = some .file)
    (habove : root.kindAt q.dropLast = some .directory) (hr : root.kindAt r = some kind)
    (hkind : kind ≠ .file) : (root.put q new).kindAt r = some kind := by
  rw [kindAt_put_of_not_below habove, hr]
  rintro ⟨more, rfl⟩
  cases more with
  | nil =>
    rw [List.append_nil] at hr
    rw [hr] at hfree
    rcases hfree with hfree | hfree
    · cases hfree
    · exact hkind (Option.some.inj hfree)
  | cons name more =>
    have hq : root.kindAt q = some .directory :=
      kindAt_of_append (by rw [hr]; rfl) (List.cons_ne_nil name more)
    rw [hq] at hfree
    rcases hfree with hfree | hfree <;> cases hfree

/-- A walk that has ended at a file or a free name ends at the file that is put there. -/
theorem follow_put {links : Nat} {node : Option FileNode} {content : List UInt8}
    (h : follow root links place names = .ok (q, node))
    (hplace : root.kindAt place = some .directory) (hq : root.kindAt q ≠ some .directory) :
    follow (root.put q (.file content)) links place names = .ok (q, some (.file content)) := by
  obtain ⟨hfree, habove⟩ : (root.kindAt q = none ∨ root.kindAt q = some .file) ∧
      root.kindAt q.dropLast = some .directory := by
    rcases ends_of_follow h hplace with hdirectory | ⟨hfree, name, above, rfl, habove⟩
    · exact absurd hdirectory hq
    · exact ⟨hfree, by rwa [List.dropLast_concat]⟩
  have hself : (root.put q (.file content)).at? q = some (.file content) := at?_put_self
  fun_induction follow root links place names with
  | case1 links place =>
    cases h
    exact absurd hplace hq
  | case2 links place rest ih =>
    rw [follow, if_pos rfl]
    exact ih h (kindAt_dropLast hplace)
  | case3 links place name rest hname hnone hempty =>
    cases h
    rw [follow, if_neg hname, hself, hempty]
    rfl
  | case4 => cases h
  | case5 links place name rest hname es hdirectory ih =>
    have hkind := kindAt_of_at? hdirectory
    rw [follow_down hname (kindAt_put_of_kind hfree habove hkind (by simp))]
    exact ih h hkind
  | case6 links place name rest hname old hfile hempty =>
    cases h
    rw [follow, if_neg hname, hself]
    simp only [hempty, if_pos]
  | case7 => cases h
  | case8 => cases h
  | case9 place name rest hname target hlink fewer path ih =>
    have hkind := kindAt_of_at? hlink
    rw [follow_link hname (kindAt_put_of_kind hfree habove hkind (by simp))]
    exact ih h (kindAt_targetStart hplace hkind)

/-- A path starts in a directory. -/
def StartsInDirectory (d : Disk) (p : Path) : Prop := d.root.kindAt (d.startOf p) = some .directory

/-- What has been written is read. -/
theorem read_of_write {content : List UInt8} (hstart : StartsInDirectory d p)
    (h : d.write p content = .ok made) : made.read p = .ok content := by
  unfold write at h
  split at h
  · cases h
  · cases h
  · next q node hno hplace =>
    cases h
    have hq : d.root.kindAt q ≠ some .directory := by
      intro hkind
      obtain ⟨-, hnode⟩ := leads_of_follow hplace
      obtain ⟨found, hfound, hdirectory⟩ := Option.map_eq_some_iff.1 hkind
      obtain ⟨es, rfl⟩ := kind_eq_directory_iff.1 hdirectory
      exact hno es (hnode.trans hfound)
    have hread : Disk.place { d with root := d.root.put q (.file content) } p =
        .ok (q, some (.file content)) := follow_put hplace hstart hq
    rw [read, find, hread]

/-! ## Directories -/

/-- A disk still has the directories of another one. -/
structure Holds (d made : Disk) : Prop where
  current_eq : made.current = d.current
  directories : ∀ q, d.root.kindAt q = some .directory → made.root.kindAt q = some .directory

theorem Holds.refl (d : Disk) : Holds d d := ⟨rfl, fun _ h => h⟩

theorem Holds.trans {last : Disk} (h : Holds d made) (h' : Holds made last) : Holds d last :=
  ⟨h'.current_eq.trans h.current_eq, fun q hq => h'.directories q (h.directories q hq)⟩

theorem Holds.startOf_eq (h : Holds d made) (p : Path) : made.startOf p = d.startOf p := by
  rw [startOf, startOf, h.current_eq]

theorem StartsInDirectory.of_holds (hstart : StartsInDirectory d p) (h : Holds d made) :
    StartsInDirectory made p := by
  rw [StartsInDirectory, h.startOf_eq]
  exact h.directories _ hstart

/-- A free place of a path is a name in a directory. -/
theorem kindAt_dropLast_of_entryPlace (hstart : StartsInDirectory d p)
    (h : d.entryPlace p = .ok (q, none)) : d.root.kindAt q.dropLast = some .directory := by
  have hfree : d.root.kindAt q = none := kindAt_of_entryPlace h
  have hwalk : d.place p = .ok (q, none) → d.root.kindAt q.dropLast = some .directory := by
    intro hplace
    rcases ends_of_follow hplace hstart with hdirectory | ⟨-, name, above, rfl, habove⟩
    · rw [hfree] at hdirectory
      cases hdirectory
    · rwa [List.dropLast_concat]
  cases hlast : p.parts.getLast? with
  | none =>
    rw [entryPlace, hlast] at h
    exact hwalk h
  | some name =>
    by_cases hup : name = ".."
    · rw [entryPlace, hlast] at h
      simp only [if_pos hup] at h
      exact hwalk h
    · obtain ⟨above, es, habove, rfl, -⟩ := (entryPlace_eq_ok_iff hlast hup).1 h
      rw [List.dropLast_concat]
      exact kindAt_of_at? (leads_of_follow habove).2.symm

theorem holds_makeDirectory (hstart : StartsInDirectory d p) (h : d.makeDirectory p = .ok made) :
    Holds d made := by
  obtain ⟨q, hentry, hfree, rfl⟩ := makeDirectory_eq_ok h
  have habove := kindAt_dropLast_of_entryPlace hstart hentry
  exact ⟨rfl, fun r hr => kindAt_put_of_kind (.inl hfree) habove hr (by simp)⟩

theorem StartsInDirectory.parent (hstart : StartsInDirectory d p) : StartsInDirectory d p.parent :=
  hstart

theorem holds_makeDirectories (hstart : StartsInDirectory d p)
    (h : d.makeDirectories p = .ok made) : Holds d made := by
  fun_induction makeDirectories d p generalizing made with
  | case1 p last hmade =>
    cases h
    exact holds_makeDirectory hstart hmade
  | case2 => cases h
  | case3 => cases h
  | case4 p _ _ _ above habove last hmade ih =>
    cases h
    have hholds := ih hstart.parent habove
    exact hholds.trans (holds_makeDirectory (hstart.of_holds hholds) hmade)
  | case5 p _ _ _ above habove _ _ _ ih =>
    cases h
    exact ih hstart.parent habove
  | case6 => cases h
  | case7 =>
    cases h
    exact .refl d
  | case8 => cases h

/-- A file is read as it was written, behind the directories that were made for it. -/
theorem read_of_makeDirectories {above : Disk} {content : List UInt8}
    (hstart : StartsInDirectory d p) (habove : d.makeDirectories p.parent = .ok above)
    (h : above.write p content = .ok made) : made.read p = .ok content :=
  read_of_write (hstart.of_holds (holds_makeDirectories hstart.parent habove)) h

end EndpointCatalog.Disk
