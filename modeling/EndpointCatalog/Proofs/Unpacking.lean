/-
EndpointCatalog.Proofs.Unpacking — what unpacking does to a disk.

`Move` lists what is done for a member: directories are made on the way to it,
a file is written, a link is made or replaced, a file gets a second name.
`Unpacks` are moves one after the other, each for names that lead inside the
destination when it is made.

* `carries_unpackBelow`: unpacking an archive is such a sequence, whether it
  comes to its end or stops.
* `stays_move`: a move leaves the destination and the way to it as they are:
  directories are added only, and a link is replaced only if it leads to
  something in the destination. So unpacking leaves them as they are, too.
-/
import EndpointCatalog.Archive.Unpacking
import EndpointCatalog.Proofs.FileTree.Staying

namespace EndpointCatalog.Archive

open Disk FileNode

/-! ## Accepted members -/

/-- Some names lead to something in a directory. -/
def LeadsInside (d : Disk) (base names : List String) : Prop :=
  ∃ reached, base <+: reached ∧ Leads d.root base names reached

theorem leadsInside_of_placeInside {d : Disk} {base names : List String}
    {outside : String → Fault} (h : placeInside d base names outside = .ok ()) :
    LeadsInside d base names := by
  unfold placeInside at h
  split at h
  · cases h
  · next place hplace =>
    split at h
    · next hprefix =>
      exact ⟨place, List.isPrefixOf_iff_prefix.1 hprefix, leads_of_realPlaceFrom hplace⟩
    · cases h

theorem bind_eq_ok {ε α β : Type} {x : Except ε α} {f : α → Except ε β} {b : β}
    (h : x >>= f = .ok b) : ∃ a, x = .ok a ∧ f a = .ok b := by
  cases x with
  | error e => cases h
  | ok a => exact ⟨a, rfl, h⟩

/-- What is accepted has a relative name that leads inside. -/
theorem of_accept {d : Disk} {base : List String} {m accepted : Member}
    (h : accept d base m = .ok accepted) : accepted.name = relativeName m.name ∧
      LeadsInside d base (componentsOf (relativeName m.name)) := by
  obtain ⟨_, hinside, h⟩ := bind_eq_ok h
  refine ⟨?_, leadsInside_of_placeInside hinside⟩
  split at h
  · cases h; rfl
  · cases h; rfl
  · cases h
  · next target hkind =>
    split at h
    · cases h
    · obtain ⟨_, -, h⟩ := bind_eq_ok h
      cases h
      rfl
  · next target hkind =>
    split at h
    · cases h
    · obtain ⟨_, -, h⟩ := bind_eq_ok h
      cases h
      rfl

theorem rootOf_dropWhile (cs : List Char) : Path.rootOf (cs.dropWhile (· = '/')) = .relative := by
  induction cs with
  | nil => rfl
  | cons c cs ih =>
    rw [List.dropWhile_cons]
    split
    · exact ih
    · next hc =>
      unfold Path.rootOf
      split <;> simp_all

theorem not_isAbsolute_relativeName (name : String) :
    (Path.ofString (relativeName name)).isAbsolute = false := by
  have hroot : (Path.ofString (relativeName name)).root = .relative := by
    show Path.rootOf (relativeName name).toList = .relative
    rw [relativeName, String.toList_ofList, rootOf_dropWhile]
  rw [Path.isAbsolute, hroot]
  rfl

/-- The path at which an accepted member is unpacked. -/
theorem append_eq_below (p : Path) (name memberName : String) :
    p.child name ++ Path.ofString (relativeName memberName) =
      below p name (componentsOf (relativeName memberName)) := by
  show Path.append _ _ = _
  rw [Path.append, not_isAbsolute_relativeName, if_neg Bool.false_ne_true, below, Path.child,
    componentsOf]
  simp only [List.append_assoc, List.cons_append, List.nil_append]

/-! ## Moves -/

/-- What is done to a disk for a member whose names lead on from a directory. -/
inductive Move (p : Path) (name : String) (names : List String) (d : Disk) : Disk → Prop where
  | directory {init : List String} {made : Disk} : init <+: names →
      d.makeDirectory (below p name init) = .ok made → Move p name names d made
  | file {content : List UInt8} {written : Disk} :
      d.write (below p name names) content = .ok written → Move p name names d written
  | link {target : String} {linked : Disk} :
      d.makeLink (below p name names) target = .ok linked → Move p name names d linked
  | relink {q : List String} {node : FileNode} {target : String} {freed linked : Disk} :
      d.entryPlace (below p name names) = .ok (q, some node) → node.kind ≠ .directory →
      d.remove (below p name names) = .ok freed →
      freed.makeLink (below p name names) target = .ok linked → Move p name names d linked
  | secondName {q : List String} {node : FileNode} :
      d.entryPlace (below p name names) = .ok (q, none) → node.kind ≠ .directory →
      Move p name names d { d with root := d.root.put q node }

/-- Moves one after the other, for allowed names that lead inside. -/
inductive Unpacks (p : Path) (name : String) (base : List String) (allowed : List String → Prop) :
    Disk → Disk → Prop where
  | nothing (d : Disk) : Unpacks p name base allowed d d
  | move {d next last : Disk} {names : List String} : allowed names → LeadsInside d base names →
      Move p name names d next → Unpacks p name base allowed next last →
      Unpacks p name base allowed d last

theorem Unpacks.trans {p : Path} {name : String} {base : List String}
    {allowed : List String → Prop} {d next last : Disk} (h : Unpacks p name base allowed d next)
    (h' : Unpacks p name base allowed next last) : Unpacks p name base allowed d last := by
  induction h with
  | nothing => exact h'
  | move hnames hinside hmove _ ih => exact .move hnames hinside hmove (ih h')

/-- The links of two disks are the same. -/
def SameLinks (d next : Disk) : Prop :=
  ∀ q target, next.root.kindAt q = some (.link target) ↔ d.root.kindAt q = some (.link target)

theorem LeadsInside.of_sameLinks {d next : Disk} {base names : List String}
    (h : LeadsInside d base names) (hlinks : SameLinks d next) : LeadsInside next base names := by
  obtain ⟨reached, hprefix, hleads⟩ := h
  exact ⟨reached, hprefix, hleads.of_links hlinks⟩

section

variable {first d : Disk} {p : Path} {name : String} {above names : List String}

/-- A move leaves the directory where it is. -/
theorem stays_move {next : Disk} (h : Stays first d p name above)
    (hinside : LeadsInside d (above ++ [name]) names) (hmove : Move p name names d next) :
    Stays first next p name above := by
  cases hmove with
  | directory _ hmade => exact (h.makeDirectory hmade).1
  | file hwritten => exact h.write hwritten
  | link hlinked => exact h.makeLink hlinked
  | relink hentry hnode hfreed hlinked =>
    obtain ⟨q', node', hentry', -, rfl⟩ := remove_eq_ok hfreed
    rw [hentry] at hentry'
    cases hentry'
    obtain ⟨reached, hprefix, hleads⟩ := hinside
    exact (h.unlink hentry hnode hleads hprefix).makeLink hlinked
  | secondName hentry _ => exact h.put_of_free hentry (kindAt_of_entryPlace hentry) _

end

/-! ## Unpacking members -/

/-- A directory stays where it is while moves lead from one disk to another. -/
structure Carries (first : Disk) (p : Path) (name : String) (above : List String)
    (allowed : List String → Prop) (d next : Disk) : Prop where
  stays : Stays first next p name above
  unpacks : Unpacks p name (above ++ [name]) allowed d next

/-- The same, and no link changes. -/
structure Extends (first : Disk) (p : Path) (name : String) (above : List String)
    (allowed : List String → Prop) (d next : Disk) : Prop
    extends Carries first p name above allowed d next where
  links : SameLinks d next

section

variable {first d : Disk} {p : Path} {name : String} {above names : List String}
  {allowed : List String → Prop}

theorem Carries.refl (h : Stays first d p name above) :
    Carries first p name above allowed d d := ⟨h, .nothing d⟩

theorem Carries.trans {next last : Disk} (h : Carries first p name above allowed d next)
    (h' : Carries first p name above allowed next last) :
    Carries first p name above allowed d last := ⟨h'.stays, h.unpacks.trans h'.unpacks⟩

theorem Carries.move {next : Disk} (h : Stays first d p name above) (hnames : allowed names)
    (hinside : LeadsInside d (above ++ [name]) names) (hmove : Move p name names d next) :
    Carries first p name above allowed d next :=
  ⟨stays_move h hinside hmove, .move hnames hinside hmove (.nothing next)⟩

theorem Extends.refl (h : Stays first d p name above) :
    Extends first p name above allowed d d := ⟨.refl h, fun _ _ => Iff.rfl⟩

theorem Extends.trans {next last : Disk} (h : Extends first p name above allowed d next)
    (h' : Extends first p name above allowed next last) :
    Extends first p name above allowed d last :=
  ⟨h.toCarries.trans h'.toCarries, fun q target => (h'.links q target).trans (h.links q target)⟩

theorem extends_makeDirectory (h : Stays first d p name above) (hnames : allowed names)
    (hinside : LeadsInside d (above ++ [name]) names) {init : List String} (hinit : init <+: names) :
    Extends first p name above allowed d (match d.makeDirectory (below p name init) with
      | .ok made => (made, (none : Option FileError))
      | .error e => (d, some e)).1 := by
  split
  · next made hmade =>
    exact ⟨.move h hnames hinside (.directory hinit hmade), (h.makeDirectory hmade).2⟩
  · exact .refl h

/-- What is made above a member are directories. -/
theorem extends_makeAbove (h : Stays first d p name above) (hnames : allowed names)
    (hinside : LeadsInside d (above ++ [name]) names) {init : List String} (hinit : init <+: names) :
    Extends first p name above allowed d (makeAbove d (below p name init)).1 := by
  induction hn : init.length generalizing init with
  | zero =>
    obtain rfl := List.length_eq_zero_iff.1 hn
    rw [makeAbove]
    split
    · exact extends_makeDirectory h hnames hinside hinit
    split
    · exact extends_makeDirectory h hnames hinside hinit
    · next _ hthere =>
      obtain ⟨es, habove⟩ := h.place_above
      rw [parent_below_nil, isThere, find, habove] at hthere
      exact absurd rfl hthere
  | succ n ih =>
    rcases List.eq_nil_or_concat init with rfl | ⟨front, last, rfl⟩
    · cases hn
    rw [List.concat_eq_append] at hn hinit ⊢
    rw [makeAbove]
    split
    · exact extends_makeDirectory h hnames hinside hinit
    split
    · exact extends_makeDirectory h hnames hinside hinit
    have hfront := ih ((List.prefix_append front [last]).trans hinit) (by simpa using hn)
    rw [← parent_below_concat p name last front] at hfront
    split
    · next made heq =>
      rw [heq] at hfront
      exact hfront.trans (extends_makeDirectory hfront.stays hnames
        (hinside.of_sameLinks hfront.links) hinit)
    · next made heq =>
      rw [heq] at hfront
      exact hfront.trans (extends_makeDirectory hfront.stays hnames
        (hinside.of_sameLinks hfront.links) hinit)
    · next made e _ heq =>
      rw [heq] at hfront
      exact hfront

theorem extends_madeAbove (h : Stays first d p name above) (hnames : allowed names)
    (hinside : LeadsInside d (above ++ [name]) names) :
    Extends first p name above allowed d (madeAbove d (below p name names)).1 := by
  unfold madeAbove
  split
  · exact .refl h
  · next hthere =>
    rcases List.eq_nil_or_concat names with rfl | ⟨init, last, rfl⟩
    · obtain ⟨es, habove⟩ := h.place_above
      rw [parent_below_nil, isThere, find, habove] at hthere
      exact absurd rfl hthere
    · rw [List.concat_eq_append] at hnames hinside ⊢
      rw [parent_below_concat]
      exact extends_makeAbove h hnames hinside (List.prefix_append init [last])

/-- The disk that is left, whether unpacking goes on or stops. -/
def left {α : Type} (disk : α → Disk) : Except Stop α → Disk
  | .ok a => disk a
  | .error stop => stop.disk

theorem left_map {α β : Type} {disk : β → Disk} {f : α → β} (result : Except Stop α) :
    left disk (result.map f) = left (fun a => disk (f a)) result := by
  cases result <;> rfl

theorem carries_unpackFile {s : Unpacking} (h : Stays first s.disk p name above)
    (hnames : allowed names) (hinside : LeadsInside s.disk (above ++ [name]) names)
    (content : Option (List UInt8)) :
    Carries first p name above allowed s.disk
      (left id (unpackFile s (below p name names) content)) := by
  unfold unpackFile
  split
  · exact .refl h
  split
  · exact .refl h
  · next written hwritten =>
    split <;> exact .move h hnames hinside (.file hwritten)

theorem carries_unpackDirectory (h : Stays first d p name above) (hnames : allowed names)
    (hinside : LeadsInside d (above ++ [name]) names) :
    Carries first p name above allowed d (left id (unpackDirectory d (below p name names))) := by
  unfold unpackDirectory
  split
  · next made hmade =>
    exact .move h hnames hinside (.directory (List.prefix_refl names) hmade)
  · split <;> exact .refl h
  · exact .refl h

theorem move_replaceByLink {next : Disk} {target : String}
    (hnext : replaceByLink d (below p name names) target = .ok next) : Move p name names d next := by
  unfold replaceByLink at hnext
  split at hnext
  · cases hnext
  · next q node hno hentry =>
    split at hnext
    · next freed hfreed =>
      refine .relink hentry (fun hdirectory => ?_) hfreed hnext
      obtain ⟨es, rfl⟩ := kind_eq_directory_iff.1 hdirectory
      exact hno es rfl
    · cases hnext
  · exact .link hnext

theorem move_giveName {next : Disk} {original : Path}
    (hnext : giveName d (below p name names) original = .ok next) : Move p name names d next := by
  unfold giveName at hnext
  split at hnext
  · cases hnext
  · next hno _ hentry =>
    cases hnext
    refine .secondName hentry fun hdirectory => ?_
    obtain ⟨es, rfl⟩ := kind_eq_directory_iff.1 hdirectory
    exact hno es rfl
  all_goals cases hnext

/-- Instead of a link another member is unpacked, or nothing. -/
theorem carries_unpackInstead {archive : Contents} {base : List String} {before : List Member}
    {unpackOther : Unpacking → Member → Except Stop Unpacking} {s : Unpacking} {m : Member}
    {failed : Bool} (h : Stays first s.disk p name above)
    (hother : ∀ accepted, Carries first p name above allowed s.disk
      (left Unpacking.disk (unpackOther { s with isPassed := true } accepted))) :
    Carries first p name above allowed s.disk
      (left Unpacking.disk (unpackInstead archive base before unpackOther s m failed)) := by
  unfold unpackInstead
  split
  · exact .refl h
  · split <;> exact .refl h
  · split
    · exact .refl h
    · next accepted _ => exact hother accepted

/-- A member that is unpacked at a path that leads inside. -/
theorem carries_unpackAt (archive : Contents) (destination : Path) (base : List String)
    (before : List Member) (fuel : Nat) {s : Unpacking} (m : Member)
    (h : Stays first s.disk p name above) (hnames : allowed names)
    (hinside : LeadsInside s.disk (above ++ [name]) names) :
    Carries first p name above allowed s.disk (left Unpacking.disk
      (unpackAt archive destination base before (below p name names) fuel s m)) := by
  induction fuel generalizing s m with
  | zero => exact .refl h
  | succ fuel ih =>
    have hmade := extends_madeAbove h hnames hinside
    rw [unpackAt]
    split
    · next made e heq =>
      rw [heq] at hmade
      exact hmade.toCarries
    next made heq =>
    rw [heq] at hmade
    refine hmade.toCarries.trans ?_
    have hstays := hmade.stays
    have hthere := hinside.of_sameLinks hmade.links
    dsimp only at hstays hthere ⊢
    have hinstead : ∀ failed, Carries first p name above allowed made (left Unpacking.disk
        (unpackInstead archive base before
          (unpackAt archive destination base before (below p name names) fuel)
          { s with disk := made } m failed)) :=
      fun failed => carries_unpackInstead (s := { s with disk := made }) hstays fun accepted =>
        ih (s := { disk := made, isPassed := true }) accepted hstays hthere
    split
    · rw [left_map]
      exact carries_unpackFile (s := { s with disk := made }) hstays hnames hthere _
    · rw [left_map]
      exact carries_unpackDirectory hstays hnames hthere
    · exact .refl hstays
    · split
      · next linked hlinked => exact .move hstays hnames hthere (move_replaceByLink hlinked)
      · exact hinstead true
    · split
      · split
        · next named hnamed => exact .move hstays hnames hthere (move_giveName hnamed)
        · exact hinstead true
      · exact hinstead false

/-- The members of an archive, one after the other. -/
theorem carries_unpackMembers (archive : Contents) (before : List Member) {members : List Member}
    {s : Unpacking}
    (h : Stays first s.disk p name above)
    (hmembers : ∀ m ∈ members, allowed (componentsOf (relativeName m.name))) :
    Carries first p name above allowed s.disk (left Unpacking.disk
      (unpackMembers archive (p.child name) (above ++ [name]) before members s)) := by
  induction members generalizing before s with
  | nil => exact .refl h
  | cons m rest ih =>
    obtain ⟨hfirst, hrest⟩ := List.forall_mem_cons.1 hmembers
    rw [unpackMembers]
    split
    · exact .refl h
    · next accepted haccepted =>
      obtain ⟨hname, hinside⟩ := of_accept haccepted
      have hunpacked := carries_unpackAt archive (p.child name) (above ++ [name]) before
        (archive.members.length + 1) accepted h hfirst hinside
      rw [← append_eq_below, ← hname] at hunpacked
      dsimp only
      revert hunpacked
      cases unpackAt archive (p.child name) (above ++ [name]) before
        (p.child name ++ Path.ofString accepted.name) (archive.members.length + 1) s accepted with
      | error stop => exact id
      | ok next => exact fun hunpacked => hunpacked.trans (ih _ hunpacked.stays hrest)

end

/-- Whatever an archive holds, unpacking it is a sequence of moves, and its destination stays. -/
theorem carries_unpackBelow {first d : Disk} {p : Path} {name : String} {above : List String}
    (allowed : List String → Prop) (archive : Contents) (h : Stays first d p name above)
    (hmembers : ∀ m ∈ archive.members, allowed (componentsOf (relativeName m.name))) :
    Carries first p name above allowed d (left id (unpackBelow d (p.child name) archive)) := by
  unfold unpackBelow
  split
  · exact .refl h
  · next base hbase =>
    -- the destination is followed to its real place
    obtain ⟨es, hplace⟩ := h.place_child
    obtain rfl := (leads_of_realPlaceFrom hbase).unique (leads_of_follow hplace).1
    have hunpacked := carries_unpackMembers archive [] (s := ⟨d, false⟩) h hmembers
    revert hunpacked
    cases unpackMembers archive (p.child name) (above ++ [name]) [] archive.members
      ⟨d, false⟩ with
    | error stop => exact id
    | ok s =>
      intro hunpacked
      cases hfault : archive.fault <;> exact hunpacked

end EndpointCatalog.Archive
