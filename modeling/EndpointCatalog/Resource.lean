/-
EndpointCatalog.Resource — the resource that a source file serves.

A file is named for its resource, and the first version directory above it
(`v1`, `v2`, …) becomes part of the endpoint path. A file named `index` has
no version.

* `Resource.ofPath` reads the resource off a path.
* `Resource.join` puts the text of a route behind the endpoint path, as it
  is written.
-/
import EndpointCatalog.Path
import EndpointCatalog.Text.Blank

namespace EndpointCatalog

/-- The resource of a source file. -/
structure Resource where
  name : String
  endpointPath : String
deriving DecidableEq, Repr

/-- Whether a component is `v` followed by decimal digits, of any script. -/
def isVersion (component : String) : Bool :=
  match component.toList with
  | 'v' :: digits => !digits.isEmpty && digits.all fun c => (digitValue? c.toNat).isSome
  | _ => false

/-- The components that have a slash on both sides. -/
def enclosedParts (p : Path) : List String :=
  let behindSlash := if p.isAbsolute then p.parts else p.parts.drop 1
  behindSlash.dropLast

namespace Resource

/-- The name of files without a version. -/
def indexName : String := "index"

/-- The resource of the file at a path. -/
def ofPath (p : Path) : Resource :=
  let name := p.stem
  if name = indexName then ⟨name, "/" ++ name⟩
  else match (enclosedParts p).find? isVersion with
    | some version => ⟨name, "/" ++ version ++ "/" ++ name⟩
    | none => ⟨name, "/" ++ name⟩

/-- The path of a route; slashes are kept as they are. -/
def join (r : Resource) (route : Text) : Text := Text.ofString r.endpointPath ++ route

end Resource

end EndpointCatalog
