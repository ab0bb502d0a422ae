/-
EndpointCatalog.Proofs.Confinement — what unpacking does outside its
destination.

`KindChange` lists how the kind of what stands at a place outside may change: a
link may become another link, and where nothing stands there may come to be a
directory. `Confined` says this of all places that are not below a directory.

* `confined_move`: moves are confined to the directory from which the names of
  their member lead on. They make a directory outside only if one of the names
  steps back.
* `Archive.Unpacks.confined`: so unpacking is.

Why directories can be made outside at all: a member must lead inside as a
whole, but the directories above it are made one after the other, and behind a
link that leads out, a name that is missing and a step back come to the same
as neither of them. Without steps back all that is missing on the way is below
the place where the member ends (`Leads.of_free`).
-/
import EndpointCatalog.Proofs.Unpacking

namespace EndpointCatalog

open Disk FileNode

/-! ## Changes outside -/

/-- How the kind of what stands at a place outside may change. -/
inductive KindChange (stepsBack : Prop) : Option FileKind → Option FileKind → Prop where
  | same (kind : Option FileKind) : KindChange stepsBack kind kind
  | relinked (old new : String) : KindChange stepsBack (some (.link old)) (some (.link new))
  | opened : stepsBack → KindChange stepsBack none (some .directory)

namespace KindChange

variable {stepsBack : Prop} {old mid new : Option FileKind}

theorem trans (h : KindChange stepsBack old mid) (h' : KindChange stepsBack mid new) :
    KindChange stepsBack old new := by
  cases h with
  | same => exact h'
  | relinked => cases h' <;> exact .relinked _ _
  | opened hsteps => cases h'; exact .opened hsteps

theorem directory_iff (h : KindChange stepsBack old new) (hsteps : ¬ stepsBack) :
    new = some .directory ↔ old = some .directory := by
  cases h with
  | same => rfl
  | relinked => simp
  | opened h => exact absurd h hsteps

theorem none_iff (h : KindChange stepsBack old new) (hsteps : ¬ stepsBack) :
    new = none ↔ old = none := by
  cases h with
  | same => rfl
  | relinked => simp
  | opened h => exact absurd h hsteps

end KindChange

/-- Nothing changes outside a directory but links, and directories where nothing stands. -/
def Confined (stepsBack : Prop) (base : List String) (root next : FileNode) : Prop :=
  ∀ q, ¬ base <+: q → KindChange stepsBack (root.kindAt q) (next.kindAt q)

namespace Confined

variable {stepsBack : Prop} {base q : List String} {root next last new : FileNode}

theorem refl (root : FileNode) : Confined stepsBack base root root := fun _ _ => .same _

theorem trans (h : Confined stepsBack base root next) (h' : Confined stepsBack base next last) :
    Confined stepsBack base root last := fun q hq => (h q hq).trans (h' q hq)

/-- A change at a place inside and below it only. -/
theorem of_frame (hinside : base <+: q)
    (hframe : ∀ r, ¬ q <+: r → next.kindAt r = root.kindAt r) :
    Confined stepsBack base root next := by
  intro r hr
  rw [hframe r fun hprefix => hr (hinside.trans hprefix)]
  exact .same _

/-- A change of the kind at a single place, below which nothing stands. -/
theorem of_kind (hframe : ∀ r, ¬ q <+: r → next.kindAt r = root.kindAt r)
    (hold : root.kindAt q ≠ some .directory)
    (hnew : ∀ more, more ≠ [] → next.kindAt (q ++ more) = none)
    (hkind : KindChange stepsBack (root.kindAt q) (next.kindAt q)) :
    Confined stepsBack base root next := by
  intro r _
  by_cases hprefix : q <+: r
  · obtain ⟨more, rfl⟩ := hprefix
    by_cases hmore : more = []
    · rw [hmore, List.append_nil]
      exact hkind
    · have hnone : root.kindAt (q ++ more) = none := by
        rw [← Option.not_isSome_iff_eq_none]
        exact fun hsome => hold (kindAt_of_append hsome hmore)
      rw [hnone, hnew more hmore]
      exact .same _
  · rw [hframe r hprefix]
    exact .same _

end Confined

namespace Disk

/-! ## Places that are free -/

section

variable {root : FileNode} {place names more q reached : List String}

/-- Behind a place at which nothing stands, names stand for themselves. -/
theorem Leads.of_none (hnone : root.kindAt q = none) (hup : ".." ∉ more)
    (h : Leads root q more reached) : reached = q ++ more := by
  induction more generalizing q with
  | nil => cases h; exact (List.append_nil _).symm
  | cons name more ih =>
    obtain ⟨hname, hmore⟩ := not_or.1 (mt List.mem_cons.2 hup)
    have hnext : root.kindAt (q ++ [name]) = none := kindAt_append_of_none hnone
    cases h with
    | up => exact absurd rfl hname
    | down _ _ h =>
      rw [ih hnext hmore h, List.append_assoc, List.singleton_append]
    | link _ hlink =>
      rw [hnext] at hlink
      cases hlink

/-- What is missing on the way to something inside is itself inside. -/
theorem Leads.of_free {base : List String} (hbase : root.kindAt base = some .directory)
    (hnone : root.kindAt q = none) (hup : ".." ∉ more) (h : Leads root q more reached)
    (hinside : base <+: reached) : base <+: q := by
  rw [h.of_none hnone hup] at hinside
  rcases List.prefix_or_prefix_of_prefix hinside (List.prefix_append q more) with hprefix | hprefix
  · exact hprefix
  · obtain ⟨rest, rfl⟩ := hprefix
    rw [kindAt_append_of_none hnone] at hbase
    cases hbase

theorem Leads.append {first : List String} (h : Leads root place names first)
    (h' : Leads root first more reached) : Leads root place (names ++ more) reached := by
  induction h with
  | here => exact h'
  | up _ ih => exact .up (ih h')
  | down hname hno _ ih => exact .down hname hno (ih h')
  | link hname hkind _ ih =>
    have hrest := ih h'
    rw [List.append_assoc] at hrest
    exact .link hname hkind hrest

/-- A walk whose last name steps back ends at a directory. -/
theorem kindAt_of_follow_up {links : Nat} {node : Option FileNode}
    (h : follow root links place names = .ok (reached, node)) (hup : names.getLast? = some "..")
    (hplace : root.kindAt place = some .directory) : root.kindAt reached = some .directory := by
  fun_induction follow root links place names with
  | case1 => cases hup
  | case2 links place rest ih =>
    cases rest with
    | nil =>
      rw [follow] at h
      cases h
      exact kindAt_dropLast hplace
    | cons next rest => exact ih h (by rwa [List.getLast?_cons_cons] at hup) (kindAt_dropLast hplace)
  | case3 links place name rest hname hnone hempty =>
    rw [List.isEmpty_iff.1 hempty] at hup
    exact absurd (Option.some.inj hup) hname
  | case4 => cases h
  | case5 links place name rest hname es hdirectory ih =>
    cases rest with
    | nil => exact absurd (Option.some.inj hup) hname
    | cons next rest =>
      exact ih h (by rwa [List.getLast?_cons_cons] at hup) (kindAt_of_at? hdirectory)
  | case6 links place name rest hname content hfile hempty =>
    rw [List.isEmpty_iff.1 hempty] at hup
    exact absurd (Option.some.inj hup) hname
  | case7 => cases h
  | case8 => cases h
  | case9 place name rest hname target hlink fewer path ih =>
    cases rest with
    | nil => exact absurd (Option.some.inj hup) hname
    | cons next rest =>
      rw [List.getLast?_cons_cons] at hup
      refine ih h ?_ (kindAt_targetStart hplace (kindAt_of_at? hlink))
      rw [List.getLast?_append, hup]
      rfl

end

namespace Stays

variable {first d : Disk} {p : Path} {name : String} {above names : List String}

theorem kindAt_of_place_up (h : Stays first d p name above) {q : List String}
    {node : Option FileNode} (hup : names.getLast? = some "..")
    (hplace : d.place (below p name names) = .ok (q, node)) :
    d.root.kindAt q = some .directory := by
  obtain ⟨spare, hfollow⟩ := h.follow_below
  rw [hfollow] at hplace
  exact kindAt_of_follow_up hplace hup h.stands

/-- A path below leads to a directory, or to a name in a directory to which the names before it
lead. -/
theorem entryPlace_below (h : Stays first d p name above) {q : List String}
    {node : Option FileNode} (hentry : d.entryPlace (below p name names) = .ok (q, node)) :
    d.root.kindAt q = some .directory ∨ ∃ init last place es, names = init ++ [last] ∧
      last ≠ ".." ∧ d.place (below p name init) = .ok (place, some (.directory es)) ∧
      Leads d.root (above ++ [name]) init place ∧ q = place ++ [last] := by
  rcases List.eq_nil_or_concat names with rfl | ⟨init, last, rfl⟩
  · have hlast : (below p name []).parts.getLast? = some name := List.getLast?_concat
    obtain ⟨place, es, hplace, rfl, -⟩ := (entryPlace_eq_ok_iff hlast h.name_ne).1 hentry
    obtain ⟨es', habove⟩ := h.place_above
    rw [parent_below_nil, habove] at hplace
    cases hplace
    exact .inl h.stands
  · rw [List.concat_eq_append] at hentry ⊢
    have hlast : (below p name (init ++ [last])).parts.getLast? = some last := by
      show (p.parts ++ name :: (init ++ [last])).getLast? = some last
      rw [← List.cons_append, ← List.append_assoc, List.getLast?_concat]
    by_cases hup : last = ".."
    · unfold entryPlace at hentry
      rw [hlast] at hentry
      simp only [if_pos hup] at hentry
      refine .inl (h.kindAt_of_place_up ?_ hentry)
      rw [List.getLast?_concat, hup]
    · obtain ⟨place, es, hplace, rfl, -⟩ := (entryPlace_eq_ok_iff hlast hup).1 hentry
      rw [parent_below_concat] at hplace
      have hfollowed := hplace
      obtain ⟨spare, hfollow⟩ := h.follow_below
      rw [hfollow] at hfollowed
      exact .inr ⟨init, last, place, es, rfl, hup, hplace, (leads_of_follow hfollowed).1, rfl⟩

/-- What is at the end of a path below, if no link, is where the names lead. -/
theorem leads_of_entryPlace (h : Stays first d p name above) {q : List String}
    {node : Option FileNode} (hentry : d.entryPlace (below p name names) = .ok (q, node))
    (hdirectory : d.root.kindAt q ≠ some .directory)
    (hlink : ∀ target, d.root.kindAt q ≠ some (.link target)) :
    Leads d.root (above ++ [name]) names q := by
  rcases h.entryPlace_below hentry with hthere | ⟨init, last, place, es, rfl, hup, -, hinit, rfl⟩
  · exact absurd hthere hdirectory
  · exact hinit.append (.down hup hlink (.here _))

end Stays

/-- A tree has the directories and links that are left without one of its nodes. -/
theorem Kept.of_erase {root : FileNode} {q : List String} (hq : q ≠ [])
    (hthere : (root.kindAt q).isSome) : Kept (root.erase q) root := by
  have hsame : ∀ r kind, (root.erase q).kindAt r = some kind → root.kindAt r = some kind := by
    intro r kind hkind
    rw [← hkind, kindAt_erase_of_not_below hthere]
    rintro ⟨more, rfl⟩
    rw [kindAt, at?_erase_append hq] at hkind
    cases hkind
  exact ⟨fun r => hsame r _, fun r name target _ _ hkind _ => hsame _ _ hkind⟩

end Disk

/-! ## Moves -/

namespace Archive

variable {stepsBack : Prop} {first d next : Disk} {p : Path} {name : String}
  {above names : List String}

theorem LeadsInside.front {base q : List String} (h : LeadsInside d base names)
    (hq : Leads d.root base names q) : base <+: q := by
  obtain ⟨reached, hprefix, hleads⟩ := h
  rwa [hleads.unique hq] at hprefix

/-- A directory is made inside, or a name steps back. -/
theorem confined_makeDirectory (h : Stays first d p name above)
    (hinside : LeadsInside d (above ++ [name]) names) (hsteps : ".." ∈ names → stepsBack)
    {init : List String} (hinit : init <+: names)
    (hmade : d.makeDirectory (below p name init) = .ok next) :
    Confined stepsBack (above ++ [name]) d.root next.root := by
  obtain ⟨q, hentry, hfree, rfl⟩ := makeDirectory_eq_ok hmade
  have hleads := h.leads_of_entryPlace hentry (by rw [hfree]; simp) (by rw [hfree]; simp)
  obtain ⟨place, last, hspot⟩ := h.spot_of_free hentry hfree
  have hframe : ∀ r, ¬ q <+: r → (d.root.put q emptyDirectory).kindAt r = d.root.kindAt r :=
    fun r => hspot.kindAt_put _
  by_cases hup : ".." ∈ names
  · refine .of_kind hframe (by rw [hfree]; simp) (fun more hmore => ?_) ?_
    · rw [kindAt, at?_put_append]
      cases more with
      | nil => exact absurd rfl hmore
      | cons name more => rfl
    · rw [hfree, kindAt, at?_put_self]
      exact .opened (hsteps hup)
  · obtain ⟨more, rfl⟩ := hinit
    obtain ⟨reached, hprefix, hreached⟩ := hinside
    obtain ⟨mid, hmid, hmore⟩ := hreached.split
    obtain rfl := hmid.unique hleads
    exact .of_frame (hmore.of_free h.stands hfree
      (fun hmem => hup (List.mem_append_right _ hmem)) hprefix) hframe

/-- Something is put where nothing stands. -/
theorem confined_put (h : Stays first d p name above)
    (hinside : LeadsInside d (above ++ [name]) names) {q : List String}
    (hentry : d.entryPlace (below p name names) = .ok (q, none)) (node : FileNode) :
    Confined stepsBack (above ++ [name]) d.root (d.root.put q node) := by
  have hfree := kindAt_of_entryPlace hentry
  rw [Option.map_none] at hfree
  obtain ⟨place, last, hspot⟩ := h.spot_of_free hentry hfree
  exact .of_frame (hinside.front (h.leads_of_entryPlace hentry (by rw [hfree]; simp)
    (by rw [hfree]; simp))) fun r => hspot.kindAt_put _

/-- A file that is written is inside. -/
theorem confined_write (h : Stays first d p name above)
    (hinside : LeadsInside d (above ++ [name]) names) {content : List UInt8}
    (hwritten : d.write (below p name names) content = .ok next) :
    Confined stepsBack (above ++ [name]) d.root next.root := by
  unfold Disk.write at hwritten
  split at hwritten
  · cases hwritten
  · cases hwritten
  · next q node hno hplace =>
    cases hwritten
    obtain ⟨spare, hfollow⟩ := h.follow_below
    have hfollowed := hplace
    rw [hfollow] at hfollowed
    obtain ⟨hleads, hnode⟩ := leads_of_follow hfollowed
    rcases h.spot_of_place hplace with hdirectory | ⟨-, place, last, hspot⟩
    · obtain ⟨other, hother, hdirectory⟩ := Option.map_eq_some_iff.1 hdirectory
      obtain ⟨es, rfl⟩ := kind_eq_directory_iff.1 hdirectory
      rw [hnode, hother] at hno
      exact absurd rfl (hno es)
    · exact .of_frame (hinside.front hleads) fun r => hspot.kindAt_put _

/-- A link that is replaced is at the same place again. -/
theorem confined_relink (h : Stays first d p name above)
    (hinside : LeadsInside d (above ++ [name]) names) {q : List String} {node : FileNode}
    {target : String} {freed : Disk}
    (hentry : d.entryPlace (below p name names) = .ok (q, some node))
    (hnode : node.kind ≠ .directory) (hfreed : d.remove (below p name names) = .ok freed)
    (hlinked : freed.makeLink (below p name names) target = .ok next) :
    Confined stepsBack (above ++ [name]) d.root next.root := by
  have hkind : d.root.kindAt q = some node.kind := kindAt_of_entryPlace hentry
  have hdirectory : d.root.kindAt q ≠ some .directory := by
    rw [hkind]
    exact fun heq => hnode (Option.some.inj heq)
  obtain ⟨q', node', hentry', -, rfl⟩ := remove_eq_ok hfreed
  rw [hentry] at hentry'
  cases hentry'
  obtain ⟨reached, hprefix, hleads⟩ := hinside
  have hstays := h.unlink hentry hnode hleads hprefix
  obtain ⟨r, hfree, -, rfl⟩ := makeLink_eq_ok hlinked
  have herase : ∀ r, ¬ q <+: r → (d.root.erase q).kindAt r = d.root.kindAt r :=
    fun r => kindAt_erase_of_not_below (by rw [hkind]; rfl)
  have hq : q ≠ [] := by
    rintro rfl
    exact hdirectory (kindAt_root h.stands)
  -- the names before the last one lead to the same directory without the link
  have hr : r = q := by
    rcases h.entryPlace_below hentry with hthere | ⟨init, last, place, es, rfl, -, hplace, -, rfl⟩
    · exact absurd hthere hdirectory
    rcases hstays.entryPlace_below hfree with hthere |
      ⟨init', last', place', es', heq, -, hplace', -, rfl⟩
    · rw [kindAt_of_entryPlace hfree] at hthere
      cases hthere
    · obtain ⟨rfl, hlast⟩ := List.append_inj' heq rfl
      cases hlast
      have hwith : ∃ es, d.place (below p name init) = .ok (place', some (.directory es)) :=
        place_of_kept (by rfl) (.of_erase hq (by rw [hkind]; rfl)) hplace'
      obtain ⟨_, hback⟩ := hwith
      rw [hplace] at hback
      cases hback
      rfl
  subst hr
  have hframe : ∀ x, ¬ r <+: x →
      ((d.root.erase r).put r (.link target)).kindAt x = d.root.kindAt x := by
    obtain ⟨place, last, hspot⟩ := hstays.spot_of_free hfree (kindAt_of_entryPlace hfree)
    intro x hx
    rw [← herase x hx]
    exact hspot.kindAt_put _ hx
  cases hlink : node.kind with
  | directory => exact absurd hlink hnode
  | file =>
    have hno : ∀ target, d.root.kindAt r ≠ some (.link target) := by
      intro target
      rw [hkind, hlink]
      exact fun heq => nomatch heq
    exact .of_frame (LeadsInside.front ⟨reached, hprefix, hleads⟩
      (h.leads_of_entryPlace hentry hdirectory hno)) hframe
  | link old =>
    refine .of_kind hframe hdirectory (fun more hmore => ?_) ?_
    · rw [kindAt, at?_put_append]
      cases more with
      | nil => exact absurd rfl hmore
      | cons name more => rfl
    · rw [hkind, hlink, kindAt, at?_put_self]
      exact .relinked _ _

/-- A move is confined to the directory below which its names lead. It makes a directory outside
only if a name steps back. -/
theorem confined_move (h : Stays first d p name above)
    (hinside : LeadsInside d (above ++ [name]) names) (hsteps : ".." ∈ names → stepsBack)
    (hmove : Move p name names d next) :
    Confined stepsBack (above ++ [name]) d.root next.root := by
  cases hmove with
  | directory hinit hmade => exact confined_makeDirectory h hinside hsteps hinit hmade
  | file hwritten => exact confined_write h hinside hwritten
  | link hlinked =>
    obtain ⟨q, hentry, -, rfl⟩ := makeLink_eq_ok hlinked
    exact confined_put h hinside hentry _
  | relink hentry hnode hfreed hlinked =>
    exact confined_relink h hinside hentry hnode hfreed hlinked
  | secondName hentry _ => exact confined_put h hinside hentry _

/-- Unpacking is confined to its destination. It makes a directory outside only if the name of a
member steps back. -/
theorem Unpacks.confined {allowed : List String → Prop}
    (hsteps : ∀ names, allowed names → ".." ∈ names → stepsBack)
    (h : Stays first d p name above) (hunpacks : Unpacks p name (above ++ [name]) allowed d next) :
    Confined stepsBack (above ++ [name]) d.root next.root := by
  induction hunpacks with
  | nothing => exact .refl _
  | move hnames hinside hmove _ ih =>
    exact (confined_move h hinside (hsteps _ hnames) hmove).trans (ih (stays_move h hinside hmove))

end Archive

end EndpointCatalog
