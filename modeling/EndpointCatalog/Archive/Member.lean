/-
EndpointCatalog.Archive.Member — what an archive holds.
-/
import EndpointCatalog.Archive.Fault

namespace EndpointCatalog.Archive

/-- What a member is. -/
inductive MemberKind where
  | file
  | directory
  /-- A link by name, which may lead to anything. -/
  | link (target : String)
  /-- A second name of a file in the archive. -/
  | sameAs (target : String)
  /-- A device, a pipe or something unknown. -/
  | special
deriving DecidableEq, Repr

/-- A member of an archive. -/
structure Member where
  name : String
  kind : MemberKind := .file
  /-- The bytes of a file; `none` if the archive ends before they do. -/
  content : Option (List UInt8) := some []
deriving DecidableEq

/-- The members of an archive, and what is wrong behind the last of them. -/
structure Contents where
  members : List Member
  fault : Option Fault := none
deriving DecidableEq

end EndpointCatalog.Archive
