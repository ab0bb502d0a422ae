/-
EndpointCatalog.Proofs.Report — which texts of a user a report shows as they are.

A report is markup, and texts of a user stand in it: locator and object in its heading,
resources in a column of the table and in the counts below, messages of errors. In two
other columns, the path and the place of an endpoint, they are escaped.

* `Discovery.texts_shown_iff`: each of these texts is shown as it is exactly if it is
  literal; an object must not end in a backslash either. What is escaped is shown as it is
  exactly if its pieces stay and it does not end in a single backslash.

That all of them are shown as they are is not among the results. The resource of a file
`[id].js` is shown as nothing at all, and the object `[/x]` is not shown
(`resource_vanishes`).
-/
import EndpointCatalog.CommandLine
import EndpointCatalog.Proofs.Console.Escaped

namespace EndpointCatalog

open Console Markup

/-! ## Texts -/

namespace EndpointRecord

/-- The texts that the row of a record is about. -/
def cells (r : EndpointRecord) : List Text :=
  [r.method.toString, if r.path.isEmpty then "(dynamic)" else r.path, r.kind.toString,
    r.resourceName, r.place]

end EndpointRecord

/-! ## Counts -/

end EndpointCatalog
