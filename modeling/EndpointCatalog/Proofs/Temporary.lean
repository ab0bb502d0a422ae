/-
EndpointCatalog.Proofs.Temporary — temporary directories are removed.

A copy stands in a directory that `acquire` makes and that stays there as long
as the copy is read; `release` removes it. A copy that cannot be made leaves
no directory either (`acquire_spec`, `release_spec`).
-/
import EndpointCatalog.Proofs.Catalog
import EndpointCatalog.Proofs.Release
import EndpointCatalog.Proofs.Unpacking

namespace EndpointCatalog

open Disk FileNode

namespace Remote

theorem temporaryName_ne (number : Nat) : temporaryName number ≠ ".." := by
  intro h
  have hchars := congrArg String.toList h
  rw [temporaryName, String.toList_append] at hchars
  cases hchars

/-- A new directory is there, in a state that otherwise has not changed. -/
structure Makes (before after : Session) (above : List String) : Prop where
  made_eq : after.made = before.made + 1
  temporary_eq : after.temporary = before.temporary
  stays : Stays before.disk after.disk before.temporary (temporaryName (before.made + 1)) above

/-- A new directory is there, and nothing has been cloned into it. -/
structure MakesEmpty (before after : Session) (above : List String) : Prop
    extends Makes before after above where
  free : after.disk.root.kindAt (above ++ [temporaryName (before.made + 1)] ++ ["repo"]) = none

section

variable {before s : Session} {above : List String} {outside : Outside} {settings : Settings}

theorem run_disk (s : Session) : (ExceptT.run Acting.disk).run s = (.ok s.disk, s) := rfl

theorem run_log (level : LogLevel) (message : String) (s : Session) :
    (ExceptT.run (Acting.log level message)).run s =
      (.ok (), { s with log := s.log ++ [⟨level, message⟩] }) := rfl

/-! ## Fetching -/

/-- What fetching into a directory does to a disk: nothing, or a copy is placed in it, or an
archive with which a page answers is unpacked as far as that goes. -/
inductive Fetches (outside : Outside) (workdir : Path) (d : Disk) : Disk → Prop where
  | nothing : Fetches outside workdir d d
  | copied {q : List String} {found : Option FileNode} (copy : FileNode) :
      d.place (workdir.child "repo") = .ok (q, found) →
      Fetches outside workdir d { d with root := d.root.put q copy }
  | unpacked {url : String} {headers : List (String × String)} {status : Nat} {reason : String}
      {body bytes : List UInt8} : outside.fetch url headers = .answered status reason body →
      Archive.Gzip.read body = .ok bytes →
      Fetches outside workdir d
        (Archive.left id (Archive.unpackBelow d workdir (Archive.Tar.read bytes)))

/-- A session in which something more has been asked of the outside world. -/
def Asks (s t : Session) : Prop := ∃ requests, t = { s with requests := requests }

/-- A session after something has been fetched into a directory. -/
def Fetched (outside : Outside) (workdir : Path) (s t : Session) : Prop :=
  ∃ d requests, t = { s with disk := d, requests := requests } ∧ Fetches outside workdir s.disk d

theorem Asks.fetched {workdir : Path} {t : Session} (h : Asks s t) :
    Fetched outside workdir s t := by
  obtain ⟨requests, rfl⟩ := h
  exact ⟨s.disk, requests, rfl, .nothing⟩

theorem ensures_request (r : Request) : Ensures (Asks s) (Asks s) (Acting.request r) := by
  refine Ensures.modify ?_
  rintro _ ⟨requests, rfl⟩
  exact ⟨_, rfl⟩

theorem ensures_placeCopy (workdir : Path) (copy : Option FileNode) :
    Ensures (Asks s) (Fetched outside workdir s) (placeCopy (workdir.child "repo") copy) := by
  cases copy with
  | none => exact Ensures.pure fun _ h => h.fetched
  | some node =>
    rintro _ ⟨requests, rfl⟩
    unfold placeCopy
    simp only
    rw [run_bind, run_disk]
    simp only
    split
    · exact Asks.fetched ⟨requests, rfl⟩
    · next q found hplace => exact ⟨_, requests, rfl, .copied node hplace⟩

theorem ensures_clone (url : String) (token : Option String) (workdir : Path) :
    Ensures (Asks s) (Fetched outside workdir s)
      (clone outside settings url token (workdir.child "repo")) := by
  unfold clone
  refine (ensures_request _).bind ?_ fun _ h => h.fetched
  intro _
  split
  · exact Ensures.throw fun _ h => h.fetched
  · exact Ensures.throw fun _ h => h.fetched
  · refine (ensures_placeCopy _ _).bind ?_ fun _ h => h
    intro _
    split
    · exact Ensures.pure fun _ h => h
    · exact Ensures.throw fun _ h => h

theorem ensures_unpackArchive {url : String} {headers : List (String × String)} {status : Nat}
    {reason : String} {body : List UInt8}
    (hanswer : outside.fetch url headers = .answered status reason body) (title : String)
    (workdir : Path) :
    Ensures (Asks s) (Fetched outside workdir s) (unpackArchive title body workdir) := by
  unfold unpackArchive
  split
  · exact Ensures.throw fun _ h => h.fetched
  · exact Ensures.throw fun _ h => h.fetched
  · next bytes hbytes =>
    rintro _ ⟨requests, rfl⟩
    rw [run_bind, run_disk]
    have hunpacked : Fetches outside workdir s.disk _ := .unpacked hanswer hbytes
    simp only
    split
    · next unpacked heq =>
      rw [heq] at hunpacked
      exact ⟨_, requests, rfl, hunpacked⟩
    · next stop heq =>
      rw [heq] at hunpacked
      exact ⟨_, requests, rfl, hunpacked⟩

theorem ensures_download (repository : GithubRepository) (token : String) (workdir : Path) :
    Ensures (Asks s) (Fetched outside workdir s)
      (download outside settings repository token workdir) := by
  unfold download
  refine (ensures_request _).bind ?_ fun _ h => h.fetched
  intro _
  split
  · exact Ensures.throw fun _ h => h.fetched
  · next status reason body hanswer =>
    split
    · exact Ensures.throw fun _ h => h.fetched
    · refine (ensures_unpackArchive hanswer _ workdir).bind ?_ fun _ h => h
      intro _ _ h
      exact h

theorem ensures_fetchInto (outside : Outside) (settings : Settings) (locator : String)
    (token : Option String) (workdir : Path) :
    Ensures (Asks s) (Fetched outside workdir s)
      (fetchInto outside settings locator token workdir) := by
  unfold fetchInto
  cases token with
  | none => exact ensures_clone locator none workdir
  | some token =>
    simp only
    split
    · exact Ensures.throw fun _ h => h.fetched
    · exact ensures_clone locator (some token) workdir
    · exact ensures_download _ _ workdir

/-- Whatever is fetched, the directory stays. -/
theorem MakesEmpty.fetched {t : Session} (h : MakesEmpty before s above)
    (hfetched : Fetched outside (temporaryPath before (before.made + 1)) s t) :
    Makes before t above := by
  obtain ⟨d, requests, rfl, hfetches⟩ := hfetched
  refine ⟨h.made_eq, h.temporary_eq, ?_⟩
  cases hfetches with
  | nothing => exact h.stays
  | copied copy hplace =>
    rw [temporaryPath, child_child_eq_below] at hplace
    exact h.stays.put_child (by decide) h.free hplace copy
  | unpacked _ _ =>
    exact (Archive.carries_unpackBelow (fun _ => True) _ h.stays fun _ _ => trivial).stays

theorem MakesEmpty.fetchInto (h : MakesEmpty before s above) (outside : Outside)
    (settings : Settings) (locator : String) (token : Option String) :
    Makes before ((ExceptT.run (fetchInto outside settings locator token
      (temporaryPath before (before.made + 1)))).run s).2 above :=
  h.fetched (ensures_fetchInto outside settings locator token _ s ⟨s.requests, rfl⟩)

/-! ## Making and removing -/

theorem run_onDisk (change : Disk → Except FileError Disk) (s : Session) :
    (ExceptT.run (Acting.onDisk change)).run s = match change s.disk with
      | .ok d => (.ok (), { s with disk := d })
      | .error e => (.error (.file e), s) := by
  unfold Acting.onDisk
  rw [run_bind, run_disk]
  cases h : change s.disk <;> simp only [h] <;> rfl

/-- The disk without what stands at a path, if that can be removed. -/
def removedFrom (d : Disk) (p : Path) : Disk :=
  match d.remove p with
  | .ok removed => removed
  | .error _ => d

theorem run_removeQuietly (p : Path) (s : Session) :
    (ExceptT.run (removeQuietly p)).run s = (.ok (), { s with disk := removedFrom s.disk p }) := by
  unfold removeQuietly removedFrom
  rw [run_bind, run_disk]
  cases h : s.disk.remove p <;> simp only [h] <;> rfl

theorem run_onFailure {σ ε α : Type} (x : ExceptT ε (StateM σ) α)
    (undo : ExceptT ε (StateM σ) Unit) (s : σ) : (ExceptT.run (Acting.onFailure x undo)).run s =
      match (ExceptT.run x).run s with
      | (.ok a, next) => (.ok a, next)
      | (.error e, next) => match (ExceptT.run undo).run next with
        | (.ok _, after) => (.error e, after)
        | (.error e', after) => (.error e', after) := by
  unfold Acting.onFailure
  rw [run_tryCatch]
  obtain ⟨ending, next⟩ := (ExceptT.run x).run s
  cases ending with
  | ok a => rfl
  | error e =>
    simp only [run_bind]
    obtain ⟨last, after⟩ := (ExceptT.run undo).run next
    cases last <;> rfl

theorem run_makeTemporary (s : Session) : (ExceptT.run makeTemporary).run s =
    match s.disk.makeDirectory (temporaryPath s (s.made + 1)) with
    | .ok d => (.ok (temporaryPath s (s.made + 1)), { s with made := s.made + 1, disk := d })
    | .error e => (.error (.file e), { s with made := s.made + 1 }) := by
  unfold makeTemporary
  simp only [run_bind, run_get, run_set, run_onDisk]
  cases s.disk.makeDirectory (temporaryPath s (s.made + 1)) <;> rfl

/-- The path leads to a free place again, if it did so before. -/
def Freed (before after : Disk) (p : Path) : Prop :=
  ∀ place, before.entryPlace p = .ok (place, none) → after.entryPlace p = .ok (place, none)

/-- A directory that is there is removed. -/
theorem Makes.freed (h : Makes before s above) :
    Freed before.disk (removedFrom s.disk (temporaryPath before (before.made + 1)))
      (temporaryPath before (before.made + 1)) := by
  obtain ⟨removed, hremoved, hfree⟩ := h.stays.remove
  intro place hplace
  rw [temporaryPath, h.stays.entryPlace_first] at hplace
  rw [removedFrom, temporaryPath, hremoved, ← hplace]
  exact hfree

/-- How copying ends: at once, if no directory can be made, and else with what has been fetched into
a new directory; it is removed again if the copying fails. -/
inductive Acquires (before : Session) (outside : Outside) (locator : String) :
    Except Failure Checkout × Session → Prop where
  | notMade {e : FileError} :
      before.disk.makeDirectory (temporaryPath before (before.made + 1)) = .error e →
      Acquires before outside locator (.error (.file e), { before with made := before.made + 1 })
  | handedOut {above : List String} {s t : Session} (root : Path) :
      before.disk.makeDirectory (temporaryPath before (before.made + 1)) = .ok s.disk →
      MakesEmpty before s above →
      Fetched outside (temporaryPath before (before.made + 1)) s t →
      Acquires before outside locator
        (.ok ⟨locator, temporaryPath before (before.made + 1), root⟩, t)
  | removed {above : List String} {s t : Session} (e : Failure) :
      before.disk.makeDirectory (temporaryPath before (before.made + 1)) = .ok s.disk →
      MakesEmpty before s above →
      Fetched outside (temporaryPath before (before.made + 1)) s t →
      Acquires before outside locator (.error e, { t with
        disk := removedFrom t.disk (temporaryPath before (before.made + 1)) })

theorem acquire_acquires (before : Session) (outside : Outside) (settings : Settings)
    (locator : String) (token : Option String) : Acquires before outside locator
      ((ExceptT.run (acquire outside settings locator token)).run before) := by
  unfold acquire
  rw [run_bind, run_makeTemporary]
  cases hmade : before.disk.makeDirectory (temporaryPath before (before.made + 1)) with
  | error e => exact .notMade hmade
  | ok d =>
    obtain ⟨above, hstays, hempty⟩ := Stays.of_makeDirectory (temporaryName_ne _) hmade
    simp only [run_bind, run_log, run_onFailure]
    generalize hs : ({ before with
      made := before.made + 1, disk := d, log := before.log ++ [⟨.info, _⟩] } : Session) = s
    have hnew : MakesEmpty before s above := by
      rw [← hs]
      exact ⟨⟨rfl, rfl, hstays⟩, hempty "repo"⟩
    have hdisk : before.disk.makeDirectory (temporaryPath before (before.made + 1)) =
        .ok s.disk := by
      rw [hmade, ← hs]
    have hfetched := ensures_fetchInto outside settings locator token
      (temporaryPath before (before.made + 1)) s ⟨s.requests, rfl⟩
    cases hrun : (ExceptT.run (fetchInto outside settings locator token
        (temporaryPath before (before.made + 1)))).run s with
    | mk ending next =>
      rw [hrun] at hfetched
      cases ending with
      | ok root => exact .handedOut root hdisk hnew hfetched
      | error e =>
        simp only [run_removeQuietly]
        exact .removed e hdisk hnew hfetched

/-- A copy that is made stands in a new directory, and if none is made there is no new directory. -/
theorem acquire_spec (before : Session) (outside : Outside) (settings : Settings)
    (locator : String) (token : Option String) :
    match (ExceptT.run (acquire outside settings locator token)).run before with
    | (.ok copy, after) => copy.workdir = temporaryPath before (before.made + 1) ∧
      ∃ above, Makes before after above
    | (.error _, after) => after.made = before.made + 1 ∧
      Freed before.disk after.disk (temporaryPath before (before.made + 1)) := by
  have hacquires := acquire_acquires before outside settings locator token
  revert hacquires
  generalize (ExceptT.run (acquire outside settings locator token)).run before = result
  intro hacquires
  cases hacquires with
  | notMade _ => exact ⟨rfl, fun _ h => h⟩
  | handedOut _ _ hnew hfetched => exact ⟨rfl, _, hnew.fetched hfetched⟩
  | removed _ _ hnew hfetched =>
    exact ⟨(hnew.fetched hfetched).made_eq, (hnew.fetched hfetched).freed⟩

/-- A copy whose directory is still there is removed with it. -/
theorem release_spec {copy : Checkout} (h : Makes before s above)
    (hcopy : copy.workdir = temporaryPath before (before.made + 1)) :
    ((ExceptT.run (release copy)).run s).2.made = before.made + 1 ∧
      Freed before.disk ((ExceptT.run (release copy)).run s).2.disk
        (temporaryPath before (before.made + 1)) := by
  obtain ⟨es, hplace⟩ := h.stays.place_child
  have hfind : s.disk.find (temporaryPath before (before.made + 1)) = .ok (.directory es) := by
    unfold find temporaryPath
    rw [hplace]
  unfold release
  rw [run_bind, run_disk, hcopy]
  simp only [hfind, FileNode.isDirectory, if_true, run_bind, run_removeQuietly, run_log]
  exact ⟨h.made_eq, h.freed⟩

/-- A release does not fail, whatever stands at the directory. -/
theorem release_ok (copy : Checkout) (s : Session) :
    ((ExceptT.run (release copy)).run s).1 = .ok () := by
  unfold release
  rw [run_bind, run_disk]
  simp only
  split
  · rfl
  · split
    · rw [run_bind, run_removeQuietly]
      rfl
    · rfl

end

end Remote

/-! ## Runs -/

/-- Each temporary directory that has been made at a free place is gone, and its place is free. -/
def Session.TidiedUp (before after : Session) : Prop :=
  ∀ number, before.made < number → number ≤ after.made →
    Remote.Freed before.disk after.disk (Remote.temporaryPath before number)

theorem Session.TidiedUp.of_made_eq {before after : Session} (h : after.made = before.made) :
    before.TidiedUp after := by
  intro number hlt hle
  omega

theorem Session.TidiedUp.of_freed {before after : Session} (h : after.made = before.made + 1)
    (hfreed : Remote.Freed before.disk after.disk
      (Remote.temporaryPath before (before.made + 1))) : before.TidiedUp after := by
  intro number hlt hle
  have hnumber : number = before.made + 1 := by omega
  rw [hnumber]
  exact hfreed

namespace Inquiry

/-- What reads the disk changes nothing but the log. -/
theorem ensures_ofLogged {α : Type} {P : Session → Prop}
    (hlog : ∀ s log, P s → P { s with log := log }) (x : Disk → Logged α) :
    Ensures P P (do Acting.ofLogged (x (← Acting.disk))) := by
  intro s hs
  rw [run_bind, Remote.run_disk]
  exact hlog s _ hs

theorem ensures_survey {P : Session → Prop} (hlog : ∀ s log, P s → P { s with log := log })
    (copying : Copying) (reading : Reading) (q : Inquiry) (profile : Option Profile)
    (copy : Option Remote.Checkout) (root : Path) :
    Ensures P P (survey (copying.steps reading) q profile copy root) := by
  unfold survey
  refine Ensures.bind ?_ ?_ fun _ h => h
  · unfold settle
    cases profile with
    | some p => exact Ensures.pure fun _ h => h
    | none => exact ensures_ofLogged hlog fun d => reading.detect d root
  · intro found
    refine Ensures.bind (ensures_ofLogged hlog fun d => reading.catalog d _ _ _ root) ?_
      fun _ h => h
    intro endpoints
    refine Ensures.bind ?_ ?_ fun _ h => h
    · exact Ensures.modify fun s h => hlog s _ h
    · intro _
      exact Ensures.pure fun _ h => h

/-- A copy that has been read is removed, whatever has been read. -/
theorem tidiedUp_of_makes {before s : Session} {above : List String}
    (h : Remote.Makes before s above) {copy : Remote.Checkout}
    (hcopy : copy.workdir = Remote.temporaryPath before (before.made + 1)) (copying : Copying)
    (reading : Reading) (q : Inquiry) (profile : Option Profile) :
    before.TidiedUp ((ExceptT.run (Acting.thenAlways
      (survey (copying.steps reading) q profile (some copy) copy.root)
      (Remote.release copy))).run s).2 := by
  have hread := ensures_survey (P := (Remote.Makes before · above))
    (fun _ _ h => ⟨h.made_eq, h.temporary_eq, h.stays⟩) copying reading q profile (some copy)
    copy.root s h
  have hreleased := Remote.release_spec hread hcopy
  rw [run_thenAlways]
  revert hreleased
  obtain ⟨last, after⟩ := (ExceptT.run (Remote.release copy)).run
    ((ExceptT.run (survey (copying.steps reading) q profile (some copy) copy.root)).run s).2
  intro hreleased
  cases last <;> exact .of_freed hreleased.1 hreleased.2

/-- A run with copies from the outside world leaves no temporary directory behind, in whatever way
it reads them. -/
theorem perform_tidiedUp (outside : Remote.Outside) (settings : Settings) (reading : Reading)
    (q : Inquiry) (s : Session) : s.TidiedUp
      ((ExceptT.run (q.perform ((Copying.from outside settings).steps reading))).run s).2 := by
  unfold perform
  rw [run_bind, run_modify]
  -- a line of the log makes no difference
  change Session.TidiedUp
    { s with log := s.log ++ [⟨.info, "Discovering APIs in " ++ q.locator⟩] } _
  simp only [Copying.steps]
  generalize ({ s with log := s.log ++ [⟨.info, "Discovering APIs in " ++ q.locator⟩] } :
    Session) = before
  cases q.profile? with
  | error e => exact .of_made_eq rfl
  | ok profile =>
    simp only
    split
    · have hacquired := Remote.acquire_spec before outside settings q.locator q.token
      rw [run_bind]
      simp only [Copying.from]
      cases hrun : (ExceptT.run (Remote.acquire outside settings q.locator q.token)).run before with
      | mk ending next =>
        rw [hrun] at hacquired
        cases ending with
        | error e => exact .of_freed hacquired.1 hacquired.2
        | ok copy =>
          obtain ⟨hcopy, above, hmakes⟩ := hacquired
          exact tidiedUp_of_makes hmakes hcopy (Copying.from outside settings) reading q profile
    · refine .of_made_eq (Ensures.bind (P := fun t : Session => t.made = before.made)
        (Q := fun t : Session => t.made = before.made) ?_ ?_ (fun _ h => h) before rfl)
      · intro t ht
        rw [run_bind, Remote.run_disk]
        simp only
        cases reading.expandHome t.disk (Path.ofString q.locator) <;> exact ht
      · intro root
        exact ensures_survey (fun _ _ h => h) (Copying.from outside settings) reading q profile
          none root

end Inquiry

/-- What a run does with copies, in four parts. Whatever its steps do, each copy that is handed over
is released once, behind all other steps, and the error of the step that fails is the run's. The
walk fails as the directory or the file does at which it stops. A release from the outside world
does not fail. With such copies no temporary directory is left behind, in whatever way they are
read. -/
theorem discovery_releases_copies {σ ε : Type} (steps : Steps σ ε) (q : Inquiry) (s : σ)
    (outside : Remote.Outside) (settings : Settings) (reading : Reading) (session : Session) :
    (∃ taken, (ExceptT.run (q.perform steps.observed)).run (s, []) =
        (((ExceptT.run (q.perform steps)).run s).1, ((ExceptT.run (q.perform steps)).run s).2,
          taken) ∧
      Inquiry.Performed steps.ofFailure q ((ExceptT.run (q.perform steps)).run s).1 taken) ∧
    (∀ (d : Disk) search ignored seenFrom root log e,
      ((ExceptT.run
        ((Reading.standard settings).catalog d search ignored seenFrom root)).run log).1 =
          .error e ↔ Interrupted d search ignored seenFrom root log e) ∧
    (∀ copy,
      ((ExceptT.run ((Copying.from outside settings).release copy)).run session).1 = .ok ()) ∧
    session.TidiedUp
      ((ExceptT.run
        (q.perform ((Copying.from outside settings).steps reading))).run session).2 := by
  refine ⟨?_, ?_, ?_, Inquiry.perform_tidiedUp outside settings reading q session⟩
  · obtain ⟨taken, hrun, hcourse⟩ := Inquiry.observes_perform steps q s []
    rw [List.nil_append] at hrun
    exact ⟨taken, hrun, hcourse.performed⟩
  · intro d search ignored seenFrom root log e
    exact catalog_error_iff ignored root
  · intro copy
    exact Remote.release_ok copy session

end EndpointCatalog
