/-
EndpointCatalog.Proofs.Custody.Effects — what acquiring and releasing do.

* `Acquires.leaves`, `Acquires.of_ok`, `Acquires.of_error`: an acquisition
  keeps what is on the disk. With a copy there is one more directory, without
  one there is none, unless the name of a member of an archive steps back.
* `removes_release`: a release removes a directory, if it is there, and
  changes nothing beside it (`Vacates`). Where nothing stands it does nothing
  (`run_release_of_none`).
-/
import EndpointCatalog.Proofs.Acquisition
import EndpointCatalog.Proofs.Confinement

namespace EndpointCatalog

open Disk FileNode

/-! ## Beside a directory -/

theorem not_prefix_of_ne (above : List String) {a b : String} (h : a ≠ b) :
    ¬ above ++ [a] <+: above ++ [b] := by
  rintro ⟨more, hmore⟩
  rw [List.append_assoc, List.append_cancel_left_eq] at hmore
  cases hmore
  exact h rfl

namespace Disk

/-- Nothing changes but at a place and below it, and a directory there is removed. -/
structure Vacates (place : List String) (d next : Disk) : Prop where
  current_eq : next.current = d.current
  frame : ∀ q, ¬ place <+: q → next.root.kindAt q = d.root.kindAt q
  beside : ∀ q, ¬ place <+: q → ¬ q <+: place → next.root.at? q = d.root.at? q
  vacant : d.root.kindAt place = none ∨ d.root.kindAt place = some .directory →
    next.root.kindAt place = none

variable {d next : Disk} {p : Path} {name : String} {above : List String}
  {es : List (String × FileNode)}

theorem Vacates.refl {place : List String} (h : d.root.kindAt place ≠ some .directory) :
    Vacates place d d :=
  ⟨rfl, fun _ _ => rfl, fun _ _ _ => rfl, fun hkind => hkind.resolve_right h⟩

theorem entryPlace_child (hname : name ≠ "..")
    (hplace : d.place p = .ok (above, some (.directory es))) :
    d.entryPlace (p.child name) = .ok (above ++ [name], d.root.at? (above ++ [name])) := by
  have hlast : (p.child name).parts.getLast? = some name := List.getLast?_concat
  refine (entryPlace_eq_ok_iff hlast hname).2 ⟨above, es, ?_, rfl, rfl⟩
  rw [child_eq_below, parent_below_nil]
  exact hplace

/-- Removing what has a name in a directory. -/
theorem vacates_removedFrom (hname : name ≠ "..")
    (hplace : d.place p = .ok (above, some (.directory es))) :
    Vacates (above ++ [name]) d (Remote.removedFrom d (p.child name)) := by
  have hentry := entryPlace_child hname hplace
  unfold Remote.removedFrom Disk.remove
  rw [hentry]
  cases hnode : d.root.at? (above ++ [name]) with
  | none =>
    refine .refl ?_
    rw [kindAt, hnode]
    exact fun heq => by cases heq
  | some node =>
    have hthere : (d.root.kindAt (above ++ [name])).isSome := by
      rw [kindAt, hnode]
      rfl
    refine ⟨rfl, fun q => kindAt_erase_of_not_below hthere,
      fun q => at?_erase_of_not_below, fun _ => ?_⟩
    rw [kindAt, at?_erase_self (by simp)]
    rfl

/-- What stands in a directory is found by its name, if it is no link. -/
theorem find_child (hname : name ≠ "..")
    (hplace : d.place p = .ok (above, some (.directory es)))
    (hlink : ∀ target, d.root.kindAt (above ++ [name]) ≠ some (.link target)) :
    d.find (p.child name) = match d.root.at? (above ++ [name]) with
      | some node => .ok node
      | none => .error .missing := by
  obtain ⟨used, spare, hlinks, hreaches⟩ := reaches_of_follow hplace
  have hchild : d.place (p.child name) =
      .ok (above ++ [name], d.root.at? (above ++ [name])) := by
    rw [Disk.place, hlinks]
    show follow d.root (used + spare) (d.startOf p) (p.parts ++ [name]) = _
    rw [hreaches.follow_append]
    have hkind := hlink
    unfold kindAt at hkind
    cases hnode : d.root.at? (above ++ [name]) with
    | none => rw [follow, if_neg hname, hnode]; rfl
    | some node =>
      rw [hnode] at hkind
      cases node with
      | file content => rw [follow, if_neg hname, hnode]; rfl
      | link target => exact absurd rfl (hkind target)
      | directory entries => rw [follow, if_neg hname, hnode]; simp only [follow, hnode]
  unfold Disk.find
  rw [hchild]
  cases d.root.at? (above ++ [name]) <;> rfl

end Disk

namespace Archive

/-- The name of a member steps back. -/
def Member.StepsBack (m : Member) : Prop := ".." ∈ componentsOf (relativeName m.name)

end Archive

namespace Remote

/-- Some page answers with an archive in which the name of a member steps back. -/
def Outside.StepsBack (outside : Outside) : Prop :=
  ∃ url headers status reason body bytes,
    outside.fetch url headers = .answered status reason body ∧
      Archive.Gzip.read body = .ok bytes ∧ ∃ m ∈ (Archive.Tar.read bytes).members, m.StepsBack

theorem temporaryName_inj {m n : Nat} (h : temporaryName m = temporaryName n) : m = n := by
  have hchars := congrArg String.toList h
  rw [temporaryName, temporaryName, String.toList_append, String.toList_append,
    List.append_cancel_left_eq] at hchars
  exact Nat.repr_inj.1 (String.toList_inj.1 hchars)

theorem temporaryPath_inj {s : Session} {m n : Nat} (h : temporaryPath s m = temporaryPath s n) :
    m = n := by
  have hparts := congrArg Path.parts h
  simp only [temporaryPath, Path.child, List.append_cancel_left_eq] at hparts
  exact temporaryName_inj (List.singleton_inj.1 hparts)

section

variable {before s t : Session} {above : List String} {outside : Outside}

/-- Fetching into a new directory is confined to it. -/
theorem MakesEmpty.confined (h : MakesEmpty before s above)
    (hfetched : Fetched outside (temporaryPath before (before.made + 1)) s t) :
    Confined outside.StepsBack (above ++ [temporaryName (before.made + 1)]) s.disk.root
      t.disk.root := by
  obtain ⟨d, requests, rfl, hfetches⟩ := hfetched
  cases hfetches with
  | nothing => exact .refl _
  | copied copy hplace =>
    rw [temporaryPath, child_child_eq_below] at hplace
    obtain rfl := h.stays.eq_of_place_child (by decide) h.free hplace
    refine .of_frame (List.prefix_append _ _) fun r => kindAt_put_of_not_below ?_
    rw [List.dropLast_concat]
    exact h.stays.stands
  | @unpacked url headers status reason body bytes hanswer hbytes =>
    have hcarries := Archive.carries_unpackBelow
      (fun names => ".." ∈ names → outside.StepsBack) (Archive.Tar.read bytes) h.stays
      fun m hm hup => ⟨url, headers, status, reason, body, bytes, hanswer, hbytes, m, hm, hup⟩
    exact hcarries.unpacks.confined (fun _ => id) h.stays

/-- Making a directory is confined to it. -/
theorem MakesEmpty.confined_made (h : MakesEmpty before s above)
    (hmade : before.disk.makeDirectory (temporaryPath before (before.made + 1)) = .ok s.disk) :
    Confined outside.StepsBack (above ++ [temporaryName (before.made + 1)]) before.disk.root
      s.disk.root := by
  obtain ⟨q, hentry, -, hdisk⟩ := makeDirectory_eq_ok hmade
  rw [temporaryPath, h.stays.entryPlace_first] at hentry
  cases hentry
  obtain ⟨es, hplace⟩ := h.stays.place_eq
  rw [hdisk]
  refine .of_frame (List.prefix_refl _) fun r => kindAt_put_of_not_below ?_
  rw [List.dropLast_concat]
  exact kindAt_of_at? (leads_of_follow hplace).2.symm

/-- What an acquisition leaves as it was, however it ends. -/
structure Leaves (before after : Session) : Prop where
  made_eq : after.made = before.made + 1
  temporary_eq : after.temporary = before.temporary
  current_eq : after.disk.current = before.disk.current
  kept : Kept before.disk.root after.disk.root

theorem Makes.leaves (h : Makes before t above) : Leaves before t :=
  ⟨h.made_eq, h.temporary_eq, h.stays.current_eq, h.stays.kept⟩

theorem Makes.removedFrom_eq (h : Makes before t above) :
    removedFrom t.disk (temporaryPath before (before.made + 1)) =
      { t.disk with root := t.disk.root.erase (above ++ [temporaryName (before.made + 1)]) } := by
  rw [removedFrom, temporaryPath, h.stays.remove_eq]

variable {locator : String} {ending : Except Failure Checkout}

theorem Acquires.leaves (h : Acquires before outside locator (ending, t)) : Leaves before t := by
  cases h with
  | notMade => exact ⟨rfl, rfl, rfl, .refl _⟩
  | handedOut root _ hnew hfetched => exact (hnew.fetched hfetched).leaves
  | removed e _ hnew hfetched =>
    have hmakes := hnew.fetched hfetched
    rw [hmakes.removedFrom_eq]
    exact ⟨hmakes.made_eq, hmakes.temporary_eq, hmakes.stays.current_eq, hmakes.stays.kept_erase⟩

/-- A copy that is handed out has a new directory, and nothing else is made or lost. -/
theorem Acquires.of_ok {copy : Checkout} (h : Acquires before outside locator (.ok copy, t)) :
    copy.workdir = temporaryPath before (before.made + 1) ∧ ∃ above, Makes before t above ∧
      Confined outside.StepsBack (above ++ [temporaryName (before.made + 1)]) before.disk.root
        t.disk.root := by
  cases h with
  | handedOut root hmade hnew hfetched =>
    exact ⟨rfl, _, hnew.fetched hfetched,
      (hnew.confined_made hmade).trans (hnew.confined hfetched)⟩

/-- Without a copy nothing at all is made or lost. -/
theorem Acquires.of_error {e : Failure} (h : Acquires before outside locator (.error e, t))
    (q : List String) :
    KindChange outside.StepsBack (before.disk.root.kindAt q) (t.disk.root.kindAt q) := by
  cases h with
  | notMade => exact .same _
  | @removed above s t _ hmade hnew hfetched =>
    have hmakes := hnew.fetched hfetched
    rw [hmakes.removedFrom_eq]
    by_cases hprefix : above ++ [temporaryName (before.made + 1)] <+: q
    · obtain ⟨more, rfl⟩ := hprefix
      have hgone : (t.disk.root.erase (above ++ [temporaryName (before.made + 1)])).kindAt
          (above ++ [temporaryName (before.made + 1)] ++ more) = none := by
        rw [kindAt, at?_erase_append (by simp)]
        rfl
      rw [kindAt_append_of_none hmakes.stays.free]
      dsimp only
      rw [hgone]
      exact .same _
    · dsimp only
      rw [kindAt_erase_of_not_below (by rw [hmakes.stays.stands]; rfl) hprefix]
      exact (hnew.confined_made hmade).trans (hnew.confined hfetched) q hprefix

end

/-! ## Releasing -/

theorem run_release (copy : Checkout) (s : Session) : ∃ log,
    (ExceptT.run (release copy)).run s = (.ok (), match s.disk.find copy.workdir with
      | .error _ => s
      | .ok node => { s with
          disk := if node.isDirectory then removedFrom s.disk copy.workdir else s.disk
          log := log }) := by
  unfold release
  rw [run_bind, run_disk]
  simp only
  cases s.disk.find copy.workdir with
  | error e => exact ⟨[], rfl⟩
  | ok node =>
    by_cases hnode : node.isDirectory = true
    · simp only [if_pos hnode, run_bind, run_removeQuietly]
      exact ⟨_, rfl⟩
    · simp only [if_neg hnode]
      exact ⟨_, rfl⟩

theorem temporaryPath_congr {s t : Session} (h : t.temporary = s.temporary) (number : Nat) :
    temporaryPath t number = temporaryPath s number := by
  rw [temporaryPath, h, temporaryPath]

/-- A temporary directory is removed, if it is there. -/
structure Removes (above : List String) (number : Nat) (s t : Session) : Prop where
  made_eq : t.made = s.made
  temporary_eq : t.temporary = s.temporary
  vacates : Vacates (above ++ [temporaryName number]) s.disk t.disk

section

variable {s : Session} {above : List String} {es : List (String × FileNode)} {copy : Checkout}
  {number : Nat}

theorem removes_removedFrom
    (hplace : s.disk.place s.temporary = .ok (above, some (.directory es)))
    (hcopy : copy.workdir = temporaryPath s number) :
    Removes above number s { s with disk := removedFrom s.disk copy.workdir } := by
  rw [hcopy]
  exact ⟨rfl, rfl, vacates_removedFrom (temporaryName_ne number) hplace⟩

theorem removes_release (hplace : s.disk.place s.temporary = .ok (above, some (.directory es)))
    (hcopy : copy.workdir = temporaryPath s number) :
    Removes above number s ((ExceptT.run (release copy)).run s).2 := by
  obtain ⟨log, hrun⟩ := run_release copy s
  have hfind := find_child (d := s.disk) (p := s.temporary) (temporaryName_ne number) hplace
  rw [hrun, hcopy]
  -- a directory that is there is found
  have hdirectory : s.disk.root.kindAt (above ++ [temporaryName number]) = some .directory →
      ∃ node, s.disk.find (temporaryPath s number) = .ok node ∧ node.isDirectory = true := by
    intro hkind
    obtain ⟨node, hnode, hthere⟩ := Option.map_eq_some_iff.1 hkind
    obtain ⟨entries, rfl⟩ := kind_eq_directory_iff.1 hthere
    refine ⟨.directory entries, ?_, rfl⟩
    rw [temporaryPath, hfind (by rw [hkind]; exact fun _ heq => by cases heq), hnode]
  cases hfound : s.disk.find (temporaryPath s number) with
  | error e =>
    refine ⟨rfl, rfl, .refl fun hkind => ?_⟩
    obtain ⟨node, hnode, -⟩ := hdirectory hkind
    rw [hfound] at hnode
    cases hnode
  | ok node =>
    by_cases hnode : node.isDirectory = true
    · refine ⟨rfl, rfl, ?_⟩
      simp only [if_pos hnode]
      exact vacates_removedFrom (temporaryName_ne number) hplace
    · refine ⟨rfl, rfl, ?_⟩
      simp only [if_neg hnode]
      refine .refl fun hkind => ?_
      obtain ⟨other, hother, hthere⟩ := hdirectory hkind
      rw [hfound] at hother
      cases hother
      exact hnode hthere

/-- Where nothing stands there is nothing to release. -/
theorem run_release_of_none
    (hplace : s.disk.place s.temporary = .ok (above, some (.directory es)))
    (hcopy : copy.workdir = temporaryPath s number)
    (hnone : s.disk.root.kindAt (above ++ [temporaryName number]) = none) :
    (ExceptT.run (release copy)).run s = (.ok (), s) := by
  obtain ⟨log, hrun⟩ := run_release copy s
  have hfind : s.disk.find copy.workdir = .error .missing := by
    rw [hcopy, temporaryPath, find_child (temporaryName_ne number) hplace
      (by rw [hnone]; exact fun _ heq => by cases heq), Option.map_eq_none_iff.1 hnone]
  rw [hrun, hfind]

end

end Remote

end EndpointCatalog
