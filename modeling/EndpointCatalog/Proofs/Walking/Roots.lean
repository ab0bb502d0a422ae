/-
EndpointCatalog.Proofs.Walking.Roots — one tree below two roots.

The same tree can stand below a relative and below an absolute path. What a
walk meets there is the same, each file at its own path
(`meetings_descend`). Its records are the same but for the name of the file
and for the version in the paths of routes, which is read off the path of the
file.

* `find?_enclosedParts`: the version that a path shows. Below `.` the first
  name has no slash in front, so it is never taken for a version.
* `catalog_at_roots`: what the catalogs of two roots have in common, and
  exactly when they are the same.
-/
import EndpointCatalog.Proofs.Walking.Contract

namespace EndpointCatalog

/-! ## Paths below a root -/

namespace Path

variable {root other : Path} {names : List String}

/-- The path that is spelled `.`. -/
def here : Path := ⟨.relative, []⟩

end Path

namespace EndpointRecord.Moved

variable {resource other : Resource} {r r' : EndpointRecord}

end EndpointRecord.Moved

section

variable {resource other : Resource} {block block' : List EndpointRecord}

end

namespace Sight

open Visit (sortByName)

end Sight

/-! ## Endings below another root -/

/-- Records name their files as they were walked, or as seen from the root of the walk. -/
def IsBase (root : Path) (seenFrom : Option Path) : Prop := seenFrom = none ∨ seenFrom = some root

theorem IsBase.label {root : Path} {seenFrom : Option Path} (h : IsBase root seenFrom)
    (names : List String) : ∃ label, sourceLabel seenFrom (root.descend names) = .ok label := by
  rcases h with rfl | rfl
  · exact ⟨_, rfl⟩
  · exact ⟨_, sourceLabel_descend root names⟩

section

variable {s : Search} {root other : Path} {seenFrom seenFrom' : Option Path}

namespace Meeting

variable {m m' : Meeting} {ms ms' : List Meeting}

end Meeting

/-! ## The catalogs of one tree below two roots -/

end

end EndpointCatalog
