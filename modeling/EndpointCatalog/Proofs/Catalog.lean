/-
EndpointCatalog.Proofs.Catalog — what ends the walk of a source tree.

The files of a tree are read one after the other, and the first failure is
that of the walk, unchanged (`catalog_error_iff`).

* `FailsIn`: one of some files fails, and those before it do not.
* `Interrupted`: a tree cannot be listed, or one of its files fails.
-/
import EndpointCatalog.Catalog
import EndpointCatalog.Proofs.Run

namespace EndpointCatalog.Disk

variable {d : Disk} {s : Search} {seenFrom : Option Path} {before : Log} {e : Failure}

/-- Of some files the first one that fails, by being unreadable or malformed, fails with an
error. -/
inductive FailsIn (d : Disk) (s : Search) (seenFrom : Option Path) (e : Failure) :
    List Path → Log → Prop where
  | here {p : Path} {rest : List Path} {before : Log} :
      ((ExceptT.run (d.fileEndpoints s seenFrom p)).run before).1 = .error e →
      FailsIn d s seenFrom e (p :: rest) before
  | later {p : Path} {rest : List Path} {before next : Log} {records : List EndpointRecord} :
      (ExceptT.run (d.fileEndpoints s seenFrom p)).run before = (.ok records, next) →
      FailsIn d s seenFrom e rest next → FailsIn d s seenFrom e (p :: rest) before

theorem filesEndpoints_error_iff (files : List Path) :
    ((ExceptT.run (d.filesEndpoints s seenFrom files)).run before).1 = .error e ↔
      FailsIn d s seenFrom e files before := by
  induction files generalizing before with
  | nil =>
    constructor
    · intro h
      cases h
    · intro h
      cases h
  | cons p rest ih =>
    rw [filesEndpoints, run_bind_error_iff]
    constructor
    · rintro (h | ⟨first, next, hfirst, h⟩)
      · exact .here h
      · rw [run_bind_error_iff] at h
        rcases h with h | ⟨others, last, -, h⟩
        · exact .later hfirst (ih.1 h)
        · cases h
    · intro h
      cases h with
      | here h => exact .inl h
      | later hfirst h => exact .inr ⟨_, _, hfirst, run_bind_error_iff.2 (.inl (ih.2 h))⟩

/-- What ends a walk with an error: the directory cannot be listed, or a file fails. -/
inductive Interrupted (d : Disk) (s : Search) (ignored : List String) (seenFrom : Option Path)
    (root : Path) (before : Log) (e : Failure) : Prop where
  | unlisted {reason : DiscoveryError} : d.sourceFiles ignored root = .error reason →
      e = .discovery reason → Interrupted d s ignored seenFrom root before e
  | failed {files : List Path} : d.sourceFiles ignored root = .ok files →
      FailsIn d s seenFrom e files before → Interrupted d s ignored seenFrom root before e

/-- The error of a catalog is that of the directory or of the first file that fails. -/
theorem catalog_error_iff (ignored : List String) (root : Path) :
    ((ExceptT.run (d.catalog s ignored seenFrom root)).run before).1 = .error e ↔
      Interrupted d s ignored seenFrom root before e := by
  unfold catalog
  constructor
  · intro h
    cases hlist : d.sourceFiles ignored root with
    | error reason =>
      rw [hlist] at h
      cases h
      exact .unlisted hlist rfl
    | ok files =>
      rw [hlist] at h
      rcases run_bind_error_iff.1 h with h | ⟨records, next, -, h⟩
      · exact .failed hlist ((filesEndpoints_error_iff files).1 h)
      · cases h
  · rintro (⟨hlist, rfl⟩ | ⟨hlist, hfails⟩)
    · rw [hlist]
      rfl
    · rw [hlist]
      exact run_bind_error_iff.2 (.inl ((filesEndpoints_error_iff _).2 hfails))

end EndpointCatalog.Disk
