/-
EndpointCatalog.Proofs.FileTree.Staying — a directory that has been made stays.

`Stays first d p name above`: on a first disk the name was free in the
directory `above`, to which the path `p` leads, and now there is a directory
of this name, while directories and links of the first disk are kept. Then
the path still leads to the new directory (`Stays.place_child`), and it can be
removed again (`Stays.remove`). What is done below the directory leaves it
there (`Stays.put`, `Stays.write`, `Stays.makeDirectory`).
-/
import EndpointCatalog.Proofs.FileTree.Following

namespace EndpointCatalog.Disk

open FileNode

/-- A directory that was made at a free name is there. -/
structure Stays (first d : Disk) (p : Path) (name : String) (above : List String) : Prop where
  name_ne : name ≠ ".."
  current_eq : d.current = first.current
  place_eq : ∃ es, first.place p = .ok (above, some (.directory es))
  free : first.root.kindAt (above ++ [name]) = none
  kept : Kept first.root d.root
  stands : d.root.kindAt (above ++ [name]) = some .directory

/-- The path of some names below a name in a directory. -/
def below (p : Path) (name : String) (names : List String) : Path :=
  { p with parts := p.parts ++ name :: names }

theorem child_eq_below (p : Path) (name : String) : p.child name = below p name [] := rfl

theorem child_child_eq_below (p : Path) (name last : String) :
    (p.child name).child last = below p name [last] := by
  simp only [Path.child, below, List.append_assoc, List.cons_append, List.nil_append]

theorem parent_below_concat (p : Path) (name last : String) (init : List String) :
    (below p name (init ++ [last])).parent = below p name init := by
  simp only [Path.parent, below]
  rw [← List.cons_append, ← List.append_assoc, List.dropLast_concat]

theorem parent_below_nil (p : Path) (name : String) : (below p name []).parent = p := by
  simp only [Path.parent, below, List.dropLast_concat]

/-- The last name of a path is not followed, but everything before it is. -/
theorem entryPlace_eq_ok_iff {d : Disk} {p : Path} {last : String}
    (hlast : p.parts.getLast? = some last) (hname : last ≠ "..") {q : List String}
    {node : Option FileNode} : d.entryPlace p = .ok (q, node) ↔
      ∃ above es, d.place p.parent = .ok (above, some (.directory es)) ∧ q = above ++ [last] ∧
        node = d.root.at? q := by
  unfold entryPlace
  rw [hlast]
  simp only [if_neg hname]
  constructor
  · intro h
    split at h
    · cases h
    · cases h
    · next above es hplace =>
      cases h
      exact ⟨above, es, hplace, rfl, rfl⟩
    · cases h
  · rintro ⟨above, es, hplace, rfl, rfl⟩
    rw [hplace]

namespace Stays

variable {first d : Disk} {p : Path} {name : String} {above names place : List String}

/-- The path still leads into the directory. -/
theorem follow_below (h : Stays first d p name above) : ∃ spare, ∀ names,
    d.place (below p name names) = follow d.root spare (above ++ [name]) names := by
  obtain ⟨es, hplace⟩ := h.place_eq
  obtain ⟨used, spare, hlinks, hreaches⟩ := reaches_of_follow hplace
  refine ⟨spare, ?_⟩
  intro names
  have hstart : d.startOf (below p name names) = first.startOf p := by
    unfold startOf
    rw [h.current_eq]
    rfl
  rw [Disk.place, hstart, hlinks]
  show follow d.root (used + spare) (first.startOf p) (p.parts ++ name :: names) = _
  rw [(h.kept.reaches hreaches).follow_append, follow_down h.name_ne h.stands]

theorem place_child (h : Stays first d p name above) :
    ∃ es, d.place (p.child name) = .ok (above ++ [name], some (.directory es)) := by
  obtain ⟨spare, hfollow⟩ := h.follow_below
  obtain ⟨node, hnode, hdirectory⟩ := Option.map_eq_some_iff.1 h.stands
  obtain ⟨es, rfl⟩ := kind_eq_directory_iff.1 hdirectory
  refine ⟨es, ?_⟩
  rw [child_eq_below, hfollow, follow, hnode]

theorem place_above (h : Stays first d p name above) :
    ∃ es, d.place p = .ok (above, some (.directory es)) := by
  obtain ⟨es, hplace⟩ := h.place_eq
  exact place_of_kept h.current_eq h.kept hplace

/-! ### Changes below -/

/-- Where something may be changed: at no directory, and at a link only if it is reached from the
directory by the names before it. -/
structure Spot (d : Disk) (base names q : List String) (place : List String) (last : String) :
    Prop where
  eq_concat : q = place ++ [last]
  above : d.root.kindAt place = some .directory
  not_directory : d.root.kindAt q ≠ some .directory
  link : ∀ target, d.root.kindAt q = some (.link target) →
    ∃ init, names = init ++ [last] ∧ last ≠ ".." ∧ Leads d.root base init place

theorem Spot.kindAt_put {d : Disk} {base q r : List String} {last : String}
    (hspot : Spot d base names q place last) (new : FileNode) (hr : ¬ q <+: r) :
    (d.root.put q new).kindAt r = d.root.kindAt r := by
  refine kindAt_put_of_not_below ?_ hr
  rw [hspot.eq_concat, List.dropLast_concat]
  exact hspot.above

/-- A path below the directory leads to another directory or to a spot without a link that may be
changed. -/
theorem spot_of_place (h : Stays first d p name above) {q : List String} {node : Option FileNode}
    (hplace : d.place (below p name names) = .ok (q, node)) :
    d.root.kindAt q = some .directory ∨
      (∀ target, d.root.kindAt q ≠ some (.link target)) ∧
        ∃ place last, Spot d (above ++ [name]) names q place last := by
  obtain ⟨spare, hfollow⟩ := h.follow_below
  rw [hfollow] at hplace
  rcases ends_of_follow hplace h.stands with hdirectory | ⟨hkind, last, place, rfl, habove⟩
  · exact .inl hdirectory
  · have hno : ∀ target, d.root.kindAt (place ++ [last]) ≠ some (.link target) := by
      intro target
      rcases hkind with hkind | hkind <;> rw [hkind] <;> exact fun heq => nomatch heq
    refine .inr ⟨hno, place, last, rfl, habove, ?_, ?_⟩
    · rcases hkind with hkind | hkind <;> rw [hkind] <;> exact fun heq => nomatch heq
    · intro target htarget
      exact absurd htarget (hno target)

theorem spot_of_entryPlace (h : Stays first d p name above) {q : List String}
    {node : Option FileNode} (hentry : d.entryPlace (below p name names) = .ok (q, node)) :
    d.root.kindAt q = some .directory ∨
      ∃ place last, Spot d (above ++ [name]) names q place last := by
  by_cases hdirectory : d.root.kindAt q = some .directory
  · exact .inl hdirectory
  rcases List.eq_nil_or_concat names with rfl | ⟨init, last, rfl⟩
  · have hlast : (below p name []).parts.getLast? = some name := List.getLast?_concat
    obtain ⟨place, es, hplace, rfl, -⟩ := (entryPlace_eq_ok_iff hlast h.name_ne).1 hentry
    obtain ⟨es', habove⟩ := h.place_above
    rw [parent_below_nil, habove] at hplace
    cases hplace
    exact .inl h.stands
  · rw [List.concat_eq_append] at hentry ⊢
    have hlast : (below p name (init ++ [last])).parts.getLast? = some last := by
      show (p.parts ++ name :: (init ++ [last])).getLast? = some last
      rw [← List.cons_append, ← List.append_assoc, List.getLast?_concat]
    by_cases hup : last = ".."
    · unfold entryPlace at hentry
      rw [hlast] at hentry
      simp only [if_pos hup] at hentry
      exact (h.spot_of_place hentry).imp_right And.right
    · obtain ⟨place, es, hplace, rfl, -⟩ := (entryPlace_eq_ok_iff hlast hup).1 hentry
      rw [parent_below_concat] at hplace
      obtain ⟨spare, hfollow⟩ := h.follow_below
      rw [hfollow] at hplace
      obtain ⟨hleads, hnode⟩ := leads_of_follow hplace
      exact .inr ⟨place, last, rfl, kindAt_of_at? hnode.symm, hdirectory,
        fun _ _ => ⟨init, rfl, hup, hleads⟩⟩

/-- A change at such a spot and below it only. -/
theorem change (h : Stays first d p name above) {q : List String} {last : String}
    (hspot : Spot d (above ++ [name]) names q place last) {next : FileNode}
    (hframe : ∀ r, ¬ q <+: r → next.kindAt r = d.root.kindAt r)
    (hlink : ∀ target links reached, d.root.kindAt q = some (.link target) →
      Reaches d.root links (targetStart place target) (Path.ofString target).parts reached →
      first.root.kindAt reached ≠ some .directory) :
    Stays first { d with root := next } p name above := by
  obtain ⟨rfl, habove, hdirectory, -⟩ := hspot
  refine ⟨h.name_ne, h.current_eq, h.place_eq, h.free,
    h.kept.change hframe hdirectory hlink, ?_⟩
  rw [hframe, h.stands]
  rintro ⟨more, hmore⟩
  have hstands := h.stands
  rw [← hmore] at hstands
  cases more with
  | nil =>
    rw [List.append_nil] at hstands
    exact hdirectory hstands
  | cons next rest =>
    exact hdirectory (kindAt_of_append (by rw [hstands]; rfl) (List.cons_ne_nil next rest))

/-- Something is put where no link is. -/
theorem put (h : Stays first d p name above) {q : List String} {last : String}
    (hspot : Spot d (above ++ [name]) names q place last)
    (hno : ∀ target, d.root.kindAt q ≠ some (.link target)) (new : FileNode) :
    Stays first { d with root := d.root.put q new } p name above := by
  exact h.change hspot (fun r => hspot.kindAt_put new) fun target _ _ htarget =>
    absurd htarget (hno target)

/-- A free place of a path is such a spot. -/
theorem spot_of_free (h : Stays first d p name above) {q : List String}
    (hentry : d.entryPlace (below p name names) = .ok (q, none)) (hfree : d.root.kindAt q = none) :
    ∃ place last, Spot d (above ++ [name]) names q place last := by
  rcases h.spot_of_entryPlace hentry with hdirectory | hspot
  · rw [hfree] at hdirectory
    cases hdirectory
  · exact hspot

theorem put_of_free (h : Stays first d p name above) {q : List String}
    (hentry : d.entryPlace (below p name names) = .ok (q, none)) (hfree : d.root.kindAt q = none)
    (new : FileNode) : Stays first { d with root := d.root.put q new } p name above := by
  obtain ⟨place, last, hspot⟩ := h.spot_of_free hentry hfree
  refine h.put hspot ?_ new
  intro target htarget
  rw [hfree] at htarget
  cases htarget

end Stays

/-- A place of a path at which nothing stands is free. -/
theorem kindAt_of_entryPlace {d : Disk} {p : Path} {q : List String} {node : Option FileNode}
    (h : d.entryPlace p = .ok (q, node)) : d.root.kindAt q = node.map kind := by
  unfold entryPlace at h
  split at h
  · exact kindAt_of_at? (leads_of_follow h).2.symm
  · split at h
    · exact kindAt_of_at? (leads_of_follow h).2.symm
    · split at h
      · cases h
      · cases h
      · cases h
        rfl
      · cases h

theorem makeDirectory_eq_ok {d made : Disk} {p : Path} (h : d.makeDirectory p = .ok made) :
    ∃ q, d.entryPlace p = .ok (q, none) ∧ d.root.kindAt q = none ∧
      made = { d with root := d.root.put q emptyDirectory } := by
  unfold makeDirectory at h
  split at h
  · cases h
  · cases h
  · next q hentry =>
    cases h
    exact ⟨q, hentry, kindAt_of_entryPlace hentry, rfl⟩

theorem makeLink_eq_ok {d made : Disk} {p : Path} {target : String}
    (h : d.makeLink p target = .ok made) :
    ∃ q, d.entryPlace p = .ok (q, none) ∧ d.root.kindAt q = none ∧
      made = { d with root := d.root.put q (.link target) } := by
  unfold makeLink at h
  split at h
  · cases h
  · cases h
  · next q hentry =>
    cases h
    exact ⟨q, hentry, kindAt_of_entryPlace hentry, rfl⟩

theorem remove_eq_ok {d removed : Disk} {p : Path} (h : d.remove p = .ok removed) :
    ∃ q node, d.entryPlace p = .ok (q, some node) ∧ d.root.kindAt q = some node.kind ∧
      removed = { d with root := d.root.erase q } := by
  unfold remove at h
  split at h
  · cases h
  · cases h
  · next q node hentry =>
    cases h
    exact ⟨q, node, hentry, kindAt_of_entryPlace hentry, rfl⟩

namespace Stays

variable {first d : Disk} {p : Path} {name : String} {above names place : List String}

/-- A directory is made, and it is empty. -/
theorem of_makeDirectory (hname : name ≠ "..") (h : first.makeDirectory (p.child name) = .ok d) :
    ∃ above, Stays first d p name above ∧
      ∀ last, d.root.kindAt (above ++ [name] ++ [last]) = none := by
  obtain ⟨q, hentry, hfree, rfl⟩ := makeDirectory_eq_ok h
  have hlast : (p.child name).parts.getLast? = some name := List.getLast?_concat
  obtain ⟨above, es, hplace, rfl, -⟩ := (entryPlace_eq_ok_iff hlast hname).1 hentry
  rw [child_eq_below, parent_below_nil] at hplace
  have habove : first.root.kindAt (above ++ [name]).dropLast = some .directory := by
    rw [List.dropLast_concat]
    exact kindAt_of_at? (leads_of_follow hplace).2.symm
  refine ⟨above, ⟨hname, rfl, ⟨es, hplace⟩, hfree, ?_, ?_⟩, ?_⟩
  · refine (Kept.refl first.root).change (fun r => kindAt_put_of_not_below habove) ?_ ?_
    · rw [hfree]
      exact fun heq => nomatch heq
    · intro target _ _ htarget
      rw [hfree] at htarget
      cases htarget
  · exact kindAt_of_at? at?_put_self
  · intro last
    rw [kindAt, at?_put_append]
    rfl

/-- Directories made below it, which are no links. -/
theorem makeDirectory (h : Stays first d p name above) {made : Disk}
    (hmade : d.makeDirectory (below p name names) = .ok made) :
    Stays first made p name above ∧ ∀ q target,
      made.root.kindAt q = some (.link target) ↔ d.root.kindAt q = some (.link target) := by
  obtain ⟨q, hentry, hfree, rfl⟩ := makeDirectory_eq_ok hmade
  refine ⟨h.put_of_free hentry hfree _, ?_⟩
  intro r target
  obtain ⟨place, last, hspot⟩ := h.spot_of_free hentry hfree
  by_cases hr : q <+: r
  · obtain ⟨more, rfl⟩ := hr
    rw [kindAt_append_of_none hfree, kindAt, at?_put_append]
    constructor
    · intro hlink
      cases more <;> cases hlink
    · intro hlink
      cases hlink
  · show (d.root.put q emptyDirectory).kindAt r = _ ↔ _
    rw [hspot.kindAt_put _ hr]

/-- Links made below it. -/
theorem makeLink (h : Stays first d p name above) {made : Disk} {target : String}
    (hmade : d.makeLink (below p name names) target = .ok made) :
    Stays first made p name above := by
  obtain ⟨q, hentry, hfree, rfl⟩ := makeLink_eq_ok hmade
  exact h.put_of_free hentry hfree _

/-- Files written below it. -/
theorem write (h : Stays first d p name above) {written : Disk} {content : List UInt8}
    (hwritten : d.write (below p name names) content = .ok written) :
    Stays first written p name above := by
  unfold Disk.write at hwritten
  split at hwritten
  · cases hwritten
  · cases hwritten
  · next q node hno hplace =>
    cases hwritten
    rcases h.spot_of_place hplace with hdirectory | ⟨hlink, place, last, hspot⟩
    · obtain ⟨other, hother, hdirectory⟩ := Option.map_eq_some_iff.1 hdirectory
      obtain ⟨es, rfl⟩ := kind_eq_directory_iff.1 hdirectory
      rw [(leads_of_follow hplace).2, hother] at hno
      exact absurd rfl (hno es)
    · exact h.put hspot hlink _

/-- The path of a free name in it leads to this name. -/
theorem eq_of_place_child (h : Stays first d p name above) {last : String} (hlast : last ≠ "..")
    (hfree : d.root.kindAt (above ++ [name] ++ [last]) = none) {q : List String}
    {found : Option FileNode} (hplace : d.place (below p name [last]) = .ok (q, found)) :
    q = above ++ [name] ++ [last] := by
  obtain ⟨spare, hfollow⟩ := h.follow_below
  rw [hfollow] at hplace
  refine (leads_of_follow hplace).1.unique (.down hlast ?_ (.here _))
  intro target htarget
  rw [hfree] at htarget
  cases htarget

/-- Something is put at a free name in it. -/
theorem put_child (h : Stays first d p name above) {last : String} (hlast : last ≠ "..")
    (hfree : d.root.kindAt (above ++ [name] ++ [last]) = none) {q : List String}
    {found : Option FileNode} (hplace : d.place (below p name [last]) = .ok (q, found))
    (new : FileNode) : Stays first { d with root := d.root.put q new } p name above := by
  rcases h.spot_of_place hplace with hdirectory | ⟨hlink, place, other, hspot⟩
  · rw [h.eq_of_place_child hlast hfree hplace, hfree] at hdirectory
    cases hdirectory
  · exact h.put hspot hlink new

/-- A file or link below it is removed, if its path leads to something inside. -/
theorem unlink (h : Stays first d p name above) {q : List String} {node : FileNode}
    (hentry : d.entryPlace (below p name names) = .ok (q, some node))
    (hnode : node.kind ≠ .directory) {reached : List String}
    (hreached : Leads d.root (above ++ [name]) names reached)
    (hinside : above ++ [name] <+: reached) :
    Stays first { d with root := d.root.erase q } p name above := by
  have hkind : d.root.kindAt q = some node.kind := kindAt_of_entryPlace hentry
  rcases h.spot_of_entryPlace hentry with hdirectory | ⟨place, last, hspot⟩
  · rw [hkind] at hdirectory
    exact absurd (Option.some.inj hdirectory) hnode
  refine h.change hspot (fun r => kindAt_erase_of_not_below (by rw [hkind]; rfl)) ?_
  intro target links other htarget hother
  -- the names lead on by the target of the link
  obtain ⟨init, rfl, hlast, hinit⟩ := hspot.link target htarget
  obtain ⟨middle, hmiddle, hend⟩ := hreached.split
  obtain rfl := hmiddle.unique hinit
  rw [hspot.eq_concat] at htarget
  have heq : other = reached := by
    cases hend with
    | up => exact absurd rfl hlast
    | down _ hno => exact absurd htarget (hno target)
    | link _ htarget' hend =>
      rw [htarget] at htarget'
      cases htarget'
      rw [List.append_nil] at hend
      exact hother.leads.unique hend
  obtain ⟨more, hmore⟩ := hinside
  rw [heq, ← hmore, kindAt_append_of_none h.free]
  exact fun hnone => nomatch hnone

/-- Where the path led to before. -/
theorem entryPlace_first (h : Stays first d p name above) :
    first.entryPlace (p.child name) = .ok (above ++ [name], none) := by
  obtain ⟨es, hplace⟩ := h.place_eq
  have hlast : (p.child name).parts.getLast? = some name := List.getLast?_concat
  refine (entryPlace_eq_ok_iff hlast h.name_ne).2 ⟨above, es, ?_, rfl, ?_⟩
  · rw [child_eq_below, parent_below_nil]
    exact hplace
  · exact (Option.map_eq_none_iff.1 h.free).symm

/-- Without the directory everything else is still kept. -/
theorem kept_erase (h : Stays first d p name above) :
    Kept first.root (d.root.erase (above ++ [name])) :=
  h.kept.change_free (fun _ => kindAt_erase_of_not_below (by rw [h.stands]; rfl)) h.free

theorem remove_eq (h : Stays first d p name above) :
    d.remove (p.child name) = .ok { d with root := d.root.erase (above ++ [name]) } := by
  have hlast : (p.child name).parts.getLast? = some name := List.getLast?_concat
  obtain ⟨node, hnode, -⟩ := Option.map_eq_some_iff.1 h.stands
  have hentry : d.entryPlace (p.child name) = .ok (above ++ [name], some node) := by
    obtain ⟨es, habove⟩ := h.place_above
    refine (entryPlace_eq_ok_iff hlast h.name_ne).2 ⟨above, es, ?_, rfl, hnode.symm⟩
    rw [child_eq_below, parent_below_nil]
    exact habove
  unfold Disk.remove
  rw [hentry]

/-- The directory can be removed, and then the path leads to the same free place as before. -/
theorem remove (h : Stays first d p name above) : ∃ removed,
    d.remove (p.child name) = .ok removed ∧
      removed.entryPlace (p.child name) = .ok (above ++ [name], none) := by
  refine ⟨_, h.remove_eq, ?_⟩
  have hlast : (p.child name).parts.getLast? = some name := List.getLast?_concat
  obtain ⟨es, hplace⟩ := h.place_eq
  obtain ⟨es', habove⟩ := place_of_kept (d := { d with root := d.root.erase (above ++ [name]) })
    h.current_eq h.kept_erase hplace
  refine (entryPlace_eq_ok_iff hlast h.name_ne).2 ⟨above, es', ?_, rfl, ?_⟩
  · rw [child_eq_below, parent_below_nil]
    exact habove
  · exact (at?_erase_self (by simp)).symm

end Stays

end EndpointCatalog.Disk
