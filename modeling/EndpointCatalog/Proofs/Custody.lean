/-
EndpointCatalog.Proofs.Custody — temporary copies over a whole run.

Copies are acquired and released, in any order and any number of times, and
their directories may be removed by others. `Custody` is a session with the
copies that were handed out and those that are still held.

* `Turns`: what a single event can do (`Holds.turns`).
* `Holds` and `Clear` are what each of these turns preserves
  (`Holds.of_turns`, `Clear.of_turns`), and so every sequence of events.
* `custody_of_events`: the directories of the copies that are held are there.
  There are no other temporary directories, unless the name of a member of an
  archive steps back. An acquisition that fails changes nothing about them, a
  release does not fail and leaves all other copies alone, and a second one
  does nothing.

The exception is needed: an archive with such a name can make a directory
beside the one that it is unpacked into, and no release removes that one.
-/
import EndpointCatalog.Proofs.Custody.Effects
import EndpointCatalog.Proofs.Stored

namespace EndpointCatalog

open Disk FileNode

namespace Remote

/-! ## Events -/

/-- What happens to copies. A handle is the number of a copy among those handed out so far. -/
inductive Event where
  | acquire (outside : Outside) (settings : Settings) (locator : String) (token : Option String)
  | release (handle : Nat)
  /-- The directory of a copy is removed by others. -/
  | lose (handle : Nat)

/-- A session and its copies. -/
structure Custody where
  session : Session
  /-- The copies that have been handed out, the first one first. -/
  returned : List Checkout := []
  /-- Those that have been neither released nor lost. -/
  held : List Checkout := []

namespace Custody

/-- A copy is no longer held. -/
def without (c : Custody) (copy : Checkout) (s : Session) : Custody :=
  { c with session := s, held := c.held.filter (· ≠ copy) }

/-- The custody after an event. -/
def step (c : Custody) : Event → Custody
  | .acquire outside settings locator token =>
    match (ExceptT.run (Remote.acquire outside settings locator token)).run c.session with
    | (.ok copy, s) => ⟨s, c.returned ++ [copy], c.held ++ [copy]⟩
    | (.error _, s) => { c with session := s }
  | .release handle =>
    match c.returned[handle]? with
    | some copy => c.without copy ((ExceptT.run (Remote.release copy)).run c.session).2
    | none => c
  | .lose handle =>
    match c.returned[handle]? with
    | some copy =>
      c.without copy { c.session with disk := removedFrom c.session.disk copy.workdir }
    | none => c

/-- The custody after some events. -/
def run (c : Custody) (events : List Event) : Custody := events.foldl step c

end Custody

/-- An archive that may be unpacked has a name that steps back. -/
def Event.StepsBack : Event → Prop
  | .acquire outside _ _ _ => outside.StepsBack
  | .release _ => False
  | .lose _ => False

end Remote

namespace Session

/-- All temporary directories to come can be made. -/
def Fresh (s : Session) : Prop :=
  ∀ number, s.made < number →
    ∃ place, s.disk.entryPlace (Remote.temporaryPath s number) = .ok (place, none)

/-- There is a temporary directory of this number. -/
def HasTemporary (s : Session) (number : Nat) : Prop :=
  ∃ place es, s.disk.entryPlace (Remote.temporaryPath s number) = .ok (place, some (.directory es))

/-- The directory of temporary ones is there, and has no entry with a name to come. -/
structure Ready (s : Session) (above : List String) : Prop where
  place : ∃ es, s.disk.place s.temporary = .ok (above, some (.directory es))
  free : ∀ number, s.made < number →
    s.disk.root.kindAt (above ++ [Remote.temporaryName number]) = none

theorem Fresh.ready {s : Session} (h : s.Fresh) : ∃ above, s.Ready above := by
  have hlead : ∀ number, s.made < number → ∃ above es,
      s.disk.place s.temporary = .ok (above, some (.directory es)) ∧
        s.disk.root.kindAt (above ++ [Remote.temporaryName number]) = none := by
    intro number hnumber
    obtain ⟨place, hplace⟩ := h number hnumber
    have hkind := kindAt_of_entryPlace hplace
    have hlast : (s.temporary.child (Remote.temporaryName number)).parts.getLast? =
        some (Remote.temporaryName number) := List.getLast?_concat
    obtain ⟨above, es, habove, rfl, -⟩ :=
      (entryPlace_eq_ok_iff hlast (Remote.temporaryName_ne number)).1 hplace
    rw [child_eq_below, parent_below_nil] at habove
    exact ⟨above, es, habove, hkind⟩
  obtain ⟨above, es, habove, -⟩ := hlead (s.made + 1) (Nat.lt_succ_self _)
  refine ⟨above, ⟨es, habove⟩, ?_⟩
  intro number hnumber
  obtain ⟨above', es', habove', hkind⟩ := hlead number hnumber
  rw [habove] at habove'
  cases habove'
  exact hkind

theorem hasTemporary_iff {s : Session} {above : List String} {es : List (String × FileNode)}
    (hplace : s.disk.place s.temporary = .ok (above, some (.directory es))) (number : Nat) :
    s.HasTemporary number ↔
      s.disk.root.kindAt (above ++ [Remote.temporaryName number]) = some .directory := by
  unfold HasTemporary Remote.temporaryPath
  rw [entryPlace_child (Remote.temporaryName_ne number) hplace, kindAt, Option.map_eq_some_iff]
  constructor
  · rintro ⟨place, entries, h⟩
    obtain ⟨-, hnode⟩ := Prod.ext_iff.1 (Except.ok.inj h)
    exact ⟨.directory entries, hnode, rfl⟩
  · rintro ⟨node, hnode, hkind⟩
    obtain ⟨entries, rfl⟩ := kind_eq_directory_iff.1 hkind
    exact ⟨_, entries, by rw [hnode]⟩

end Session

namespace Remote

/-! ## What events preserve -/

/-- The copies that are held have their directories, numbered in the order in which the copies were
handed out. -/
structure Holds (s : Session) (above : List String) (c : Custody) : Prop where
  temporary_eq : c.session.temporary = s.temporary
  current_eq : c.session.disk.current = s.disk.current
  kept : Kept s.disk.root c.session.disk.root
  made_le : s.made ≤ c.session.made
  numbered : ∀ copy ∈ c.returned, ∃ number, s.made < number ∧ number ≤ c.session.made ∧
    copy.workdir = temporaryPath s number
  unique : ∀ copy ∈ c.returned, ∀ other ∈ c.returned, copy.workdir = other.workdir → copy = other
  returned : ∀ copy ∈ c.held, copy ∈ c.returned
  stands : ∀ copy ∈ c.held, ∀ number, copy.workdir = temporaryPath s number →
    c.session.disk.root.kindAt (above ++ [temporaryName number]) = some .directory

/-- There is no other temporary directory than those of the copies that are held and those that were
there at the start. -/
structure Clear (s : Session) (above : List String) (c : Custody) : Prop where
  old : ∀ number ≤ s.made,
    c.session.disk.root.kindAt (above ++ [temporaryName number]) = some .directory ↔
      s.disk.root.kindAt (above ++ [temporaryName number]) = some .directory
  new : ∀ number, s.made < number →
    (∀ copy ∈ c.held, copy.workdir ≠ temporaryPath s number) →
    c.session.disk.root.kindAt (above ++ [temporaryName number]) = none

section

/-- What an event does to a custody. -/
inductive Turns (s : Session) (above : List String) (stepsBack : Prop) (c : Custody) :
    Custody → Prop where
  | nothing : Turns s above stepsBack c c
  | failed {t : Session} : Leaves c.session t →
      (∀ q, KindChange stepsBack (c.session.disk.root.kindAt q) (t.disk.root.kindAt q)) →
      Turns s above stepsBack c { c with session := t }
  | handedOut {t : Session} {copy : Checkout} :
      copy.workdir = temporaryPath s (c.session.made + 1) → Makes c.session t above →
      Confined stepsBack (above ++ [temporaryName (c.session.made + 1)]) c.session.disk.root
        t.disk.root →
      Turns s above stepsBack c ⟨t, c.returned ++ [copy], c.held ++ [copy]⟩
  | removed {t : Session} {copy : Checkout} {number : Nat} : copy ∈ c.returned →
      s.made < number → copy.workdir = temporaryPath s number →
      Removes above number c.session t → Turns s above stepsBack c (c.without copy t)

variable {s t : Session} {above : List String} {c next : Custody} {outside : Outside}
  {locator : String} {copy : Checkout} {number : Nat} {stepsBack : Prop}

namespace Holds

theorem start (s : Session) (above : List String) : Holds s above ⟨s, [], []⟩ :=
  ⟨rfl, rfl, .refl _, le_rfl, fun _ h => absurd h List.not_mem_nil,
    fun _ h => absurd h List.not_mem_nil, fun _ h => absurd h List.not_mem_nil,
    fun _ h => absurd h List.not_mem_nil⟩

theorem place (hready : s.Ready above) (h : Holds s above c) : ∃ es,
    c.session.disk.place c.session.temporary = .ok (above, some (.directory es)) := by
  obtain ⟨es, hplace⟩ := hready.place
  rw [h.temporary_eq]
  exact place_of_kept h.current_eq h.kept hplace

theorem path_eq (h : Holds s above c) (number : Nat) :
    temporaryPath c.session number = temporaryPath s number :=
  temporaryPath_congr h.temporary_eq number

/-- The directory above is the same for all copies. -/
theorem above_eq (hready : s.Ready above) (h : Holds s above c) {other : List String}
    (hmakes : Makes c.session t other) : other = above := by
  obtain ⟨es, hplace⟩ := h.place hready
  obtain ⟨es', hother⟩ := hmakes.stays.place_eq
  rw [hplace] at hother
  cases hother
  rfl

theorem leaves (h : Holds s above c) (hleaves : Leaves c.session t) :
    Holds s above { c with session := t } where
  temporary_eq := hleaves.temporary_eq.trans h.temporary_eq
  current_eq := hleaves.current_eq.trans h.current_eq
  kept := h.kept.trans hleaves.kept
  made_le := by
    have := h.made_le
    have := hleaves.made_eq
    dsimp only
    omega
  numbered copy hcopy := by
    obtain ⟨number, hlt, hle, hworkdir⟩ := h.numbered copy hcopy
    refine ⟨number, hlt, ?_, hworkdir⟩
    rw [hleaves.made_eq]
    omega
  unique := h.unique
  returned := h.returned
  stands copy hcopy number hworkdir :=
    hleaves.kept.directories _ (h.stands copy hcopy number hworkdir)

theorem handOut (h : Holds s above c) (hmakes : Makes c.session t above)
    (hcopy : copy.workdir = temporaryPath s (c.session.made + 1)) :
    Holds s above ⟨t, c.returned ++ [copy], c.held ++ [copy]⟩ := by
  have hleft := h.leaves hmakes.leaves
  -- no copy handed out before has the new number
  have hnew : ∀ old ∈ c.returned, old.workdir ≠ copy.workdir := by
    intro old hold heq
    obtain ⟨number, -, hle, hworkdir⟩ := h.numbered old hold
    rw [hworkdir, hcopy] at heq
    have := temporaryPath_inj heq
    omega
  refine ⟨hleft.temporary_eq, hleft.current_eq, hleft.kept, hleft.made_le, ?_, ?_, ?_, ?_⟩
  · intro other hother
    rcases List.mem_append.1 hother with hold | hthis
    · exact hleft.numbered other hold
    · rw [List.mem_singleton.1 hthis]
      refine ⟨_, Nat.lt_succ_of_le h.made_le, ?_, hcopy⟩
      rw [hmakes.made_eq]
  · intro one hone other hother heq
    rcases List.mem_append.1 hone with hold | hthis
    · rcases List.mem_append.1 hother with hold' | hthis'
      · exact h.unique one hold other hold' heq
      · rw [List.mem_singleton.1 hthis'] at heq
        exact absurd heq (hnew one hold)
    · rw [List.mem_singleton.1 hthis] at heq ⊢
      rcases List.mem_append.1 hother with hold' | hthis'
      · exact absurd heq.symm (hnew other hold')
      · exact (List.mem_singleton.1 hthis').symm
  · intro other hother
    rcases List.mem_append.1 hother with hold | hthis
    · exact List.mem_append_left _ (h.returned other hold)
    · exact List.mem_append_right _ hthis
  · intro other hother number hworkdir
    rcases List.mem_append.1 hother with hold | hthis
    · exact hleft.stands other hold number hworkdir
    · rw [List.mem_singleton.1 hthis, hcopy] at hworkdir
      rw [← temporaryPath_inj hworkdir]
      exact hmakes.stays.stands

/-- The copies that are still held have other directories. -/
theorem number_ne (h : Holds s above c) (hcopy : copy ∈ c.returned)
    (hworkdir : copy.workdir = temporaryPath s number) {other : Checkout}
    (hother : other ∈ c.held) (hne : other ≠ copy) {otherNumber : Nat}
    (hwhere : other.workdir = temporaryPath s otherNumber) : number ≠ otherNumber := by
  rintro rfl
  exact hne (h.unique _ (h.returned other hother) _ hcopy (hwhere.trans hworkdir.symm))

theorem without (hready : s.Ready above) (h : Holds s above c) (hcopy : copy ∈ c.returned)
    (hnumber : s.made < number) (hworkdir : copy.workdir = temporaryPath s number)
    (hremoves : Removes above number c.session t) : Holds s above (c.without copy t) where
  temporary_eq := hremoves.temporary_eq.trans h.temporary_eq
  current_eq := hremoves.vacates.current_eq.trans h.current_eq
  kept := h.kept.change_free hremoves.vacates.frame (hready.free number hnumber)
  made_le := h.made_le.trans hremoves.made_eq.ge
  numbered other hother := by
    obtain ⟨otherNumber, hlt, hle, hwhere⟩ := h.numbered other hother
    exact ⟨otherNumber, hlt, hle.trans hremoves.made_eq.ge, hwhere⟩
  unique := h.unique
  returned other hother := h.returned other (List.mem_of_mem_filter hother)
  stands other hother otherNumber hwhere := by
    obtain ⟨hheld, hne⟩ := List.mem_filter.1 hother
    have hne' := h.number_ne hcopy hworkdir hheld (of_decide_eq_true hne) hwhere
    rw [show (c.without copy t).session = t from rfl, hremoves.vacates.frame _
      (not_prefix_of_ne _ fun heq => hne' (temporaryName_inj heq))]
    exact h.stands other hheld otherNumber hwhere

/-- Each event is one of four turns. -/
theorem turns (hready : s.Ready above) (h : Holds s above c) (event : Event) :
    Turns s above event.StepsBack c (c.step event) := by
  obtain ⟨es, hplace⟩ := h.place hready
  cases event with
  | acquire outside settings locator token =>
    have hacquires := acquire_acquires c.session outside settings locator token
    simp only [Custody.step]
    revert hacquires
    generalize (ExceptT.run (acquire outside settings locator token)).run c.session = result
    obtain ⟨ending, t⟩ := result
    intro hacquires
    cases ending with
    | error e => exact .failed hacquires.leaves hacquires.of_error
    | ok copy =>
      obtain ⟨hcopy, other, hmakes, hconfined⟩ := hacquires.of_ok
      obtain rfl := h.above_eq hready hmakes
      exact .handedOut (hcopy.trans (h.path_eq _)) hmakes hconfined
  | release handle =>
    simp only [Custody.step]
    cases hhandle : c.returned[handle]? with
    | none => exact .nothing
    | some copy =>
      have hcopy := List.mem_of_getElem? hhandle
      obtain ⟨number, hnumber, -, hworkdir⟩ := h.numbered copy hcopy
      exact .removed hcopy hnumber hworkdir
        (removes_release hplace (hworkdir.trans (h.path_eq number).symm))
  | lose handle =>
    simp only [Custody.step]
    cases hhandle : c.returned[handle]? with
    | none => exact .nothing
    | some copy =>
      have hcopy := List.mem_of_getElem? hhandle
      obtain ⟨number, hnumber, -, hworkdir⟩ := h.numbered copy hcopy
      exact .removed hcopy hnumber hworkdir
        (removes_removedFrom hplace (hworkdir.trans (h.path_eq number).symm))

theorem of_turns (hready : s.Ready above) (h : Holds s above c)
    (hturns : Turns s above stepsBack c next) : Holds s above next := by
  cases hturns with
  | nothing => exact h
  | failed hleaves _ => exact h.leaves hleaves
  | handedOut hworkdir hmakes _ => exact h.handOut hmakes hworkdir
  | removed hcopy hnumber hworkdir hremoves =>
    exact h.without hready hcopy hnumber hworkdir hremoves

theorem run (hready : s.Ready above) (h : Holds s above c) (events : List Event) :
    Holds s above (c.run events) := by
  induction events generalizing c with
  | nil => exact h
  | cons event events ih => exact ih (h.of_turns hready (h.turns hready event))

end Holds

namespace Clear

theorem start (hready : s.Ready above) : Clear s above ⟨s, [], []⟩ :=
  ⟨fun _ _ => Iff.rfl, fun number hnumber _ => hready.free number hnumber⟩

theorem failed (hclear : Clear s above c) (hsteps : ¬ stepsBack)
    (hchange : ∀ q, KindChange stepsBack (c.session.disk.root.kindAt q) (t.disk.root.kindAt q)) :
    Clear s above { c with session := t } where
  old number hnumber := ((hchange _).directory_iff hsteps).trans (hclear.old number hnumber)
  new number hnumber hheld := ((hchange _).none_iff hsteps).2 (hclear.new number hnumber hheld)

theorem handedOut (h : Holds s above c) (hclear : Clear s above c) (hsteps : ¬ stepsBack)
    (hworkdir : copy.workdir = temporaryPath s (c.session.made + 1))
    (hconfined : Confined stepsBack (above ++ [temporaryName (c.session.made + 1)])
      c.session.disk.root t.disk.root) :
    Clear s above ⟨t, c.returned ++ [copy], c.held ++ [copy]⟩ where
  old number hnumber := by
    have hne : c.session.made + 1 ≠ number := by
      have := h.made_le
      omega
    exact ((hconfined _ (not_prefix_of_ne _ fun heq => hne (temporaryName_inj heq))).directory_iff
      hsteps).trans (hclear.old number hnumber)
  new number hnumber hheld := by
    have hne : c.session.made + 1 ≠ number := by
      rintro rfl
      exact hheld copy (List.mem_append_right _ (List.mem_singleton_self copy)) hworkdir
    exact ((hconfined _ (not_prefix_of_ne _ fun heq => hne (temporaryName_inj heq))).none_iff
      hsteps).2 (hclear.new number hnumber fun other hother =>
        hheld other (List.mem_append_left _ hother))

theorem removed (h : Holds s above c) (hclear : Clear s above c) (hcopy : copy ∈ c.returned)
    (hnumber : s.made < number) (hworkdir : copy.workdir = temporaryPath s number)
    (hremoves : Removes above number c.session t) : Clear s above (c.without copy t) where
  old other hother := by
    have hne : number ≠ other := by omega
    have hframe := hremoves.vacates.frame _
      (not_prefix_of_ne above fun heq => hne (temporaryName_inj heq))
    rw [show (c.without copy t).session = t from rfl, hframe]
    exact hclear.old other hother
  new other hother hheld := by
    by_cases hne : number = other
    · subst hne
      refine hremoves.vacates.vacant ?_
      by_cases hthere : copy ∈ c.held
      · exact .inr (h.stands copy hthere number hworkdir)
      · refine .inl (hclear.new number hnumber fun held hmem heq => hthere ?_)
        rwa [← h.unique _ (h.returned held hmem) _ hcopy (heq.trans hworkdir.symm)]
    · have hframe := hremoves.vacates.frame _
        (not_prefix_of_ne above fun heq => hne (temporaryName_inj heq))
      rw [show (c.without copy t).session = t from rfl, hframe]
      refine hclear.new other hother fun held hmem heq => ?_
      refine hheld held (List.mem_filter.2 ⟨hmem, decide_eq_true fun hsame => hne ?_⟩) heq
      rw [hsame, hworkdir] at heq
      exact temporaryPath_inj heq

theorem of_turns (h : Holds s above c) (hclear : Clear s above c) (hsteps : ¬ stepsBack)
    (hturns : Turns s above stepsBack c next) : Clear s above next := by
  cases hturns with
  | nothing => exact hclear
  | failed _ hchange => exact hclear.failed hsteps hchange
  | handedOut hworkdir _ hconfined => exact hclear.handedOut h hsteps hworkdir hconfined
  | removed hcopy hnumber hworkdir hremoves =>
    exact hclear.removed h hcopy hnumber hworkdir hremoves

theorem run (hready : s.Ready above) (h : Holds s above c) (hclear : Clear s above c)
    {events : List Event} (hsteps : ∀ event ∈ events, ¬ event.StepsBack) :
    Clear s above (c.run events) := by
  induction events generalizing c with
  | nil => exact hclear
  | cons event events ih =>
    obtain ⟨hevent, hevents⟩ := List.forall_mem_cons.1 hsteps
    have hturns := h.turns hready event
    exact ih (h.of_turns hready hturns) (hclear.of_turns h hevent hturns) hevents

end Clear

/-- Without names that step back the temporary directories are known. -/
theorem hasTemporary_iff_held (hready : s.Ready above) (h : Holds s above c)
    (hclear : Clear s above c) (number : Nat) : c.session.HasTemporary number ↔
      s.HasTemporary number ∨ ∃ copy ∈ c.held, copy.workdir = temporaryPath s number := by
  obtain ⟨es, hplace⟩ := h.place hready
  obtain ⟨es', hfirst⟩ := hready.place
  rw [Session.hasTemporary_iff hplace, Session.hasTemporary_iff hfirst]
  by_cases hnumber : s.made < number
  · have hfree := hready.free number hnumber
    rw [hfree]
    constructor
    · intro hthere
      by_contra hnone
      rw [hclear.new number hnumber fun copy hcopy heq => hnone (.inr ⟨copy, hcopy, heq⟩)]
        at hthere
      cases hthere
    · rintro (habsurd | ⟨copy, hcopy, hworkdir⟩)
      · cases habsurd
      · exact h.stands copy hcopy number hworkdir
  · rw [hclear.old number (Nat.le_of_not_lt hnumber)]
    constructor
    · exact .inl
    · rintro (hthere | ⟨copy, hcopy, hworkdir⟩)
      · exact hthere
      · obtain ⟨other, hlt, -, hother⟩ := h.numbered copy (h.returned copy hcopy)
        rw [hworkdir] at hother
        exact absurd (temporaryPath_inj hother ▸ hlt) hnumber

/-- Removing a temporary directory leaves those of all copies that are still held as they are. -/
theorem Holds.find_of_removes (hready : s.Ready above) (h : Holds s above c) (hcopy : copy ∈ c.returned)
    (hnumber : s.made < number) (hworkdir : copy.workdir = temporaryPath s number)
    (hremoves : Removes above number c.session t) {other : Checkout} (hother : other ∈ c.held)
    (hne : other ≠ copy) : t.disk.find other.workdir = c.session.disk.find other.workdir := by
  obtain ⟨otherNumber, -, -, hwhere⟩ := h.numbered other (h.returned other hother)
  have hnumbers : temporaryName number ≠ temporaryName otherNumber :=
    fun heq => h.number_ne hcopy hworkdir hother hne hwhere (temporaryName_inj heq)
  have hstands := h.stands other hother otherNumber hwhere
  have hstands' := hremoves.vacates.frame _ (not_prefix_of_ne above hnumbers)
  rw [hstands] at hstands'
  obtain ⟨es, hplace⟩ := h.place hready
  obtain ⟨es', hplace'⟩ := (h.without hready hcopy hnumber hworkdir hremoves).place hready
  rw [show (c.without copy t).session = t from rfl] at hplace'
  have hfind := find_child (temporaryName_ne otherNumber) hplace
    (by rw [hstands]; exact fun _ heq => by cases heq)
  have hfind' := find_child (temporaryName_ne otherNumber) hplace'
    (by rw [hstands']; exact fun _ heq => by cases heq)
  rw [hremoves.vacates.beside _ (not_prefix_of_ne _ hnumbers) (not_prefix_of_ne _ hnumbers.symm)]
    at hfind'
  have hpath : other.workdir = c.session.temporary.child (temporaryName otherNumber) := by
    rw [hwhere, ← h.path_eq, temporaryPath]
  rw [hpath, hfind, ← hfind', hremoves.temporary_eq]

end

/-! ## All runs -/

/-- Over any sequence of acquisitions, releases and losses the copies that are held have their
directories. A release does not fail, and leaves those of other copies as they are. If no archive
has a name that steps back, there are no other temporary directories than these and those that were
there at the start; an acquisition that fails leaves them as they were, and to release a copy that is
no longer held does nothing. -/
theorem custody_of_events (s : Session) (hfresh : s.Fresh) (events : List Event) :
    let c := Custody.run ⟨s, [], []⟩ events
    (∀ copy ∈ c.held, c.session.disk.isDirectory copy.workdir = true) ∧
      (∀ copy ∈ c.returned,
        let released := (ExceptT.run (release copy)).run c.session
        released.1 = .ok () ∧ ∀ other ∈ c.held, other ≠ copy →
          released.2.disk.find other.workdir = c.session.disk.find other.workdir) ∧
      ((∀ event ∈ events, ¬ event.StepsBack) →
        (∀ number, c.session.HasTemporary number ↔
          s.HasTemporary number ∨ ∃ copy ∈ c.held, copy.workdir = temporaryPath s number) ∧
        (∀ outside settings locator token, ¬ outside.StepsBack →
          let acquired := (ExceptT.run (acquire outside settings locator token)).run c.session
          (∃ e, acquired.1 = .error e) →
            ∀ number, acquired.2.HasTemporary number ↔ c.session.HasTemporary number) ∧
        ∀ copy ∈ c.returned, copy ∉ c.held →
          (ExceptT.run (release copy)).run c.session = (.ok (), c.session)) := by
  obtain ⟨above, hready⟩ := hfresh.ready
  intro c
  have h : Holds s above c := (Holds.start s above).run hready events
  obtain ⟨es, hplace⟩ := h.place hready
  refine ⟨?_, ?_, ?_⟩
  · intro copy hcopy
    obtain ⟨number, -, -, hworkdir⟩ := h.numbered copy (h.returned copy hcopy)
    have hkind := h.stands copy hcopy number hworkdir
    obtain ⟨node, hnode, hdirectory⟩ := Option.map_eq_some_iff.1 hkind
    obtain ⟨entries, rfl⟩ := kind_eq_directory_iff.1 hdirectory
    rw [hworkdir, ← h.path_eq, temporaryPath, Disk.isDirectory,
      find_child (temporaryName_ne number) hplace (by rw [hkind]; exact fun _ heq => by cases heq),
      hnode]
    rfl
  · intro copy hcopy
    obtain ⟨number, hnumber, -, hworkdir⟩ := h.numbered copy hcopy
    have hremoves := removes_release hplace (hworkdir.trans (h.path_eq number).symm)
    exact ⟨release_ok copy c.session,
      fun other hother hne => h.find_of_removes hready hcopy hnumber hworkdir hremoves hother hne⟩
  · intro hsteps
    have hclear : Clear s above c := (Clear.start hready).run hready (.start s above) hsteps
    refine ⟨hasTemporary_iff_held hready h hclear, ?_, ?_⟩
    · rintro outside settings locator token houtside acquired ⟨e, herror⟩ number
      have hacquires := acquire_acquires c.session outside settings locator token
      rw [show (ExceptT.run (acquire outside settings locator token)).run c.session =
        (.error e, acquired.2) from Prod.ext herror rfl] at hacquires
      have hafter := hclear.failed houtside hacquires.of_error
      exact (hasTemporary_iff_held hready (h.leaves hacquires.leaves) hafter number).trans
        (hasTemporary_iff_held hready h hclear number).symm
    · intro copy hcopy hheld
      obtain ⟨number, hnumber, -, hworkdir⟩ := h.numbered copy hcopy
      refine run_release_of_none hplace (hworkdir.trans (h.path_eq number).symm)
        (hclear.new number hnumber fun other hother heq => hheld ?_)
      rwa [← h.unique _ (h.returned other hother) _ hcopy (heq.trans hworkdir.symm)]

/-! ### Two runs -/

theorem place_freshSession :
    freshSession.disk.place freshSession.temporary = .ok (["tmp"], some (.directory [])) := by
  cbv

theorem fresh_freshSession : freshSession.Fresh := fun number _ =>
  ⟨["tmp", temporaryName number], entryPlace_child (temporaryName_ne number) place_freshSession⟩

/-- No temporary directory is there. -/
theorem not_hasTemporary_freshSession (number : Nat) : ¬ freshSession.HasTemporary number := by
  rw [Session.hasTemporary_iff place_freshSession]
  exact fun hthere => nomatch hthere

/-- A world in which every source can be cloned, and no page is to be had. -/
def cloningWorld : Outside where
  clone _ := .exited 0 "" (some (.directory [("app.js", .file [])]))
  fetch _ _ := .failed "timed out"

theorem not_stepsBack_cloningWorld : ¬ cloningWorld.StepsBack := by
  rintro ⟨url, headers, status, reason, body, bytes, hanswer, -⟩
  cases hanswer

/-- Two copies are made, and the first one is released twice. -/
def releasedTwice : List Event :=
  let clone := Event.acquire cloningWorld {} "https://example.org/shop.git" none
  [clone, clone, .release 0, .release 0]

theorem workdir_releasedTwice :
    (Custody.run ⟨freshSession, [], []⟩ releasedTwice).held.map Checkout.workdir =
      [temporaryPath freshSession 2] := by
  cbv

/-- Of the two copies only the second one has its directory. -/
theorem custody_of_events_releasedTwice :
    freshSession.Fresh ∧ (∀ event ∈ releasedTwice, ¬ event.StepsBack) ∧
      ∀ number, (Custody.run ⟨freshSession, [], []⟩ releasedTwice).session.HasTemporary number ↔
        number = 2 := by
  have hsteps : ∀ event ∈ releasedTwice, ¬ event.StepsBack := by
    intro event hevent
    simp only [releasedTwice, List.mem_cons, List.not_mem_nil, or_false] at hevent
    rcases hevent with rfl | rfl | rfl | rfl
    · exact not_stepsBack_cloningWorld
    · exact not_stepsBack_cloningWorld
    · exact id
    · exact id
  obtain ⟨-, -, hknown⟩ := custody_of_events freshSession fresh_freshSession releasedTwice
  refine ⟨fresh_freshSession, hsteps, fun number => ((hknown hsteps).1 number).trans ?_⟩
  have hheld := workdir_releasedTwice
  constructor
  · rintro (hfirst | ⟨copy, hcopy, hworkdir⟩)
    · exact absurd hfirst (not_hasTemporary_freshSession number)
    · have hmem := List.mem_map_of_mem (f := Checkout.workdir) hcopy
      rw [hheld, hworkdir] at hmem
      exact temporaryPath_inj (List.mem_singleton.1 hmem)
  · rintro rfl
    have hmem := List.mem_singleton_self (temporaryPath freshSession 2)
    rw [← hheld] at hmem
    obtain ⟨copy, hcopy, hworkdir⟩ := List.mem_map.1 hmem
    exact .inr ⟨copy, hcopy, hworkdir⟩

/-- A world in which every page answers with the same content. -/
def pageWorld (body : List UInt8) : Outside where
  clone _ := .noProgram
  fetch _ _ := .answered 200 "OK" body

/-- What an archive leaves that cannot be unpacked to its end. -/
theorem acquire_of_stop {body bytes : List UInt8} {stop : Archive.Stop}
    (hread : Archive.Gzip.read body = .ok bytes)
    (hstop : Archive.unpackBelow freshDisk (temporaryPath freshSession 1)
      (Archive.Tar.read bytes) = .error stop) :
    let acquired := (ExceptT.run (acquire (pageWorld body) {} "https://github.com/acme/shop"
      (some "secret"))).run freshSession
    acquired.1 = .error (obstacleError "acme/shop" stop.obstacle) ∧
      acquired.2.temporary = freshSession.temporary ∧
      acquired.2.disk = removedFrom stop.disk (temporaryPath freshSession 1) := by
  have hurl : GithubRepository.ofUrl? "https://github.com/acme/shop" =
      .ok (some ⟨"acme", "shop", none⟩) := by
    cbv
  have htitle : "acme" ++ "/" ++ "shop" = "acme/shop" := rfl
  have hstatus : ∀ url, statusError? "acme/shop" url 200 "OK" = none := fun _ => rfl
  simp only [acquire, run_bind, run_makeTemporary, show freshSession.made + 1 = 1 from rfl,
    makeDirectory_freshSession, run_log, run_onFailure, fetchInto, hurl, download, Acting.request,
    pageWorld, htitle, hstatus, unpackArchive, hread, run_disk, hstop, Acting.setDisk, run_modify,
    run_throw, run_removeQuietly, and_self]

/-- The members of an archive. A name of the last but one steps back behind a link, and the last one
may not be unpacked. -/
def steppingMembers : List Archive.Member :=
  [⟨"d/e", .directory, some []⟩, ⟨"s", .link "d/e", some []⟩, ⟨"x", .link "s/../..", some []⟩,
    ⟨"s", .link "d", some []⟩, ⟨"x/apiscout-7/../apiscout-1/n/f", .file, some [104, 105]⟩,
    ⟨"l", .link "/etc", some []⟩]

/-- The archive as it is sent. -/
def steppingBody : List UInt8 := Archive.Gzip.write (Archive.Tar.write steppingMembers)

/-- The disk on which it has been unpacked as far as that goes. -/
def steppedDisk : Disk where
  root := .directory [("tmp", .directory
    [("apiscout-1", .directory
      [("d", .directory [("e", .directory [])]), ("x", .link ".."), ("s", .link "d"),
        ("n", .directory [("f", .file [104, 105])])]),
      ("apiscout-7", .directory [])])]

theorem read_steppingMembers :
    Archive.Tar.read (Archive.Tar.write steppingMembers) = ⟨steppingMembers, none⟩ := by
  decide +kernel

theorem unpackBelow_steppingMembers :
    Archive.unpackBelow freshDisk (temporaryPath freshSession 1) ⟨steppingMembers, none⟩ =
      .error ⟨.fault (.absoluteLink "l"), steppedDisk⟩ := by
  cbv

/-- With this archive no copy can be made. A temporary directory is left all the same. -/
theorem stepping_back_leaves_directory :
    let acquire := Event.acquire (pageWorld steppingBody) {} "https://github.com/acme/shop"
      (some "secret")
    let c := Custody.run ⟨freshSession, [], []⟩ [acquire]
    freshSession.Fresh ∧ c.returned = [] ∧ ¬ freshSession.HasTemporary 7 ∧
      c.session.HasTemporary 7 := by
  have hread : Archive.Gzip.read steppingBody = .ok (Archive.Tar.write steppingMembers) :=
    Archive.Gzip.read_write _
  have hstop := unpackBelow_steppingMembers
  rw [← read_steppingMembers] at hstop
  -- from here on the bytes of the archive do not matter
  generalize steppingBody = body at hread ⊢
  generalize Archive.Tar.write steppingMembers = bytes at hread hstop
  obtain ⟨herror, htemporary, hdisk⟩ := acquire_of_stop hread hstop
  dsimp only [Custody.run, List.foldl, Custody.step]
  revert herror htemporary hdisk
  generalize (ExceptT.run (acquire (pageWorld body) {} "https://github.com/acme/shop"
    (some "secret"))).run freshSession = acquired
  obtain ⟨ending, t⟩ := acquired
  rintro (rfl : ending = _) (htemporary : t.temporary = _) (hdisk : t.disk = _)
  have hremoved : removedFrom steppedDisk (temporaryPath freshSession 1) =
      { root := .directory [("tmp", .directory [("apiscout-7", .directory [])])] } := by
    cbv
  have hplace : t.disk.place t.temporary =
      .ok (["tmp"], some (.directory [("apiscout-7", .directory [])])) := by
    rw [hdisk, htemporary, hremoved]
    cbv
  refine ⟨fresh_freshSession, rfl, not_hasTemporary_freshSession 7,
    (Session.hasTemporary_iff hplace 7).2 ?_⟩
  rw [hdisk, hremoved]
  decide

end Remote

end EndpointCatalog
