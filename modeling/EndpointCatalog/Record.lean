/-
EndpointCatalog.Record — one endpoint of the catalog.

* `EndpointRecord.toEntries` writes a record as a mapping, with the keys of
  the catalog file or with the plain field names.
* `EndpointRecord.ofMatch?` builds the record of a matched call.
-/
import EndpointCatalog.Matching
import EndpointCatalog.Metadata
import EndpointCatalog.Resource

namespace EndpointCatalog

/-- One endpoint, recovered from one call. -/
structure EndpointRecord where
  method : Method
  path : Text := []
  headers : Entries := []
  queryParameters : Entries := []
  body : Tree := .null
  sourceFile : Text
  resourceName : Text
  kind : EndpointKind := .route
  line : Option Int := none

/-- How the keys of a record are spelled. -/
inductive KeyStyle where
  /-- The spelling of the catalog file. -/
  | catalog
  /-- The plain field names. -/
  | plain
deriving DecidableEq, Repr

namespace EndpointRecord

/-- The key of the query parameters. -/
def queryKey : KeyStyle → String
  | .catalog => "queryParameters"
  | .plain => "query_parameters"

/-- The key of the source file. -/
def sourceKey : KeyStyle → String
  | .catalog => "sourceFile"
  | .plain => "source_file"

/-- The key of the resource name. -/
def resourceKey : KeyStyle → String
  | .catalog => "resourceName"
  | .plain => "resource_name"

/-- A record as a mapping. -/
def toEntries (style : KeyStyle) (r : EndpointRecord) : Entries :=
  [("method", .ofString r.method.toString),
   ("path", .text r.path),
   ("headers", .map r.headers),
   (Text.ofString (queryKey style), .map r.queryParameters),
   ("body", r.body),
   (Text.ofString (sourceKey style), .text r.sourceFile),
   (Text.ofString (resourceKey style), .text r.resourceName),
   ("kind", .ofString r.kind.toString),
   ("line", match r.line with
    | some n => .int n
    | none => .null)]

/-- The static text of a call's first argument; empty if there is none. -/
def firstArgumentText (dialect : Dialect) (call : CallShape) : Text :=
  match call.arguments with
  | [] => []
  | first :: _ => (dialect.routeText? first).getD []

/-- The path of an endpoint: a route's stands behind the path of its resource, a request's is
its own. -/
def pathOf (dialect : Dialect) (resource : Resource) (found : EndpointMatch) : Text :=
  let text := firstArgumentText dialect found.call
  match found.kind with
  | .route => resource.join text
  | .request => text

/-- The metadata of an endpoint. -/
def metadataOf? (dialect : Dialect) (profile : Profile) (found : EndpointMatch) :
    Option Metadata :=
  match found.kind with
  | .route => serverMetadata? dialect profile found.call
  | .request => clientMetadata? dialect found.call

/-- The record of a matched call; `none` if a literal of it is nested too deep. -/
def ofMatch? (dialect : Dialect) (profile : Profile) (resource : Resource) (sourceFile : Text)
    (found : EndpointMatch) : Option EndpointRecord := do
  let metadata ← metadataOf? dialect profile found
  pure {
    method := found.method
    path := pathOf dialect resource found
    headers := metadata.headers
    queryParameters := metadata.query
    body := metadata.body
    sourceFile := sourceFile
    resourceName := Text.ofString resource.name
    kind := found.kind
    line := found.call.line }

end EndpointRecord

end EndpointCatalog
