/-
EndpointCatalog.Metadata — what a request carries, as far as its source says.

* `clientMetadata?` reads the configuration of an outgoing request.
* `serverMetadata?` reads the options of a route, then what its handler
  takes from its first parameter. Names found in a handler have no known
  value; they map to null.

Both answer `none` if a literal is nested deeper than `deepestLiteral`.
-/
import EndpointCatalog.Dialect
import EndpointCatalog.Profile
import EndpointCatalog.Tree.Walk

namespace EndpointCatalog

/-- Headers, query parameters and body of a request. -/
structure Metadata where
  headers : Entries := []
  query : Entries := []
  body : Tree := .null
deriving Inhabited

/-! ## Outgoing requests -/

/-- Sets a section to the value of an object literal; another value leaves it as it is. -/
def sectionOf (literal : Literal) (otherwise : Entries) : Entries :=
  literal.entries?.getD otherwise

/-- One entry of a request's configuration. -/
def addSetting? (dialect : Dialect) (found : Metadata) (entry : Text × Tree) :
    Option Metadata :=
  let (key, node) := entry
  if key = "headers" then do
    let literal ← dialect.literal? deepestLiteral node
    pure { found with headers := sectionOf literal found.headers }
  else if key = "params" then do
    let literal ← dialect.literal? deepestLiteral node
    pure { found with query := sectionOf literal found.query }
  else if key = "data" then do
    let literal ← dialect.literal? deepestLiteral node
    pure { found with body := literal.toTree node }
  else some found

/-- What the configuration in a request's second argument says. -/
def clientMetadata? (dialect : Dialect) (call : CallShape) : Option Metadata :=
  match call.arguments with
  | _ :: config :: _ =>
    ((dialect.objectEntries? config).getD []).foldlM (addSetting? dialect) {}
  | _ => some {}

/-! ## Options of a route -/

/-- The keys of a schema and the sections that they describe, in the order of reading. -/
def schemaSections : List (Text × Section) :=
  [("headers", .headers), ("querystring", .query), ("query", .query), ("body", .body)]

/-- The fields that a schema section lists: under `properties`, or else directly. -/
def schemaFields? (value : Tree) : Option Entries :=
  match value with
  | .map entries =>
    match Entries.get? "properties" entries with
    | none => some entries
    | some (.map fields) => some fields
    | some _ => none
  | _ => none

/-- One section of a schema. -/
def applySchemaSection (schema : Entries) (found : Metadata) (key : Text × Section) : Metadata :=
  match Entries.get? key.1 schema with
  | none => found
  | some value =>
    match key.2, schemaFields? value with
    | .body, _ => { found with body := value }
    | _, none => found
    | .headers, some fields => { found with headers := found.headers.update fields }
    | .query, some fields => { found with query := found.query.update fields }

/-- What the schema among a route's options says. -/
def applySchema? (dialect : Dialect) (options : List (Text × Tree)) (found : Metadata) :
    Option Metadata :=
  match Entries.get? "schema" (Entries.ofPairs options) with
  | none => some found
  | some node => do
    let literal ← dialect.literal? deepestLiteral node
    match literal.entries? with
    | none => pure found
    | some schema => pure (schemaSections.foldl (applySchemaSection schema) found)

/-! ## Handlers -/

/-- The section that a chain behind the request goes to, and the name that follows the
accessor. -/
def classify (profile : Profile) (chain : List Text) : Option (Section × Option Text) :=
  profile.accessors.findSome? fun (sect, accessor) =>
    if accessor.isPrefixOf chain then some (sect, chain[accessor.length]?) else none

/-- What a handler was seen to read. The body is `none` until something of it is read. -/
structure HandlerReads where
  headers : Entries
  query : Entries
  body : Option Entries := none
deriving Inhabited

namespace HandlerReads

/-- Notes that a section is read, and which name of it. -/
def note (reads : HandlerReads) (sect : Section) (name : Option Text) : HandlerReads :=
  match sect, name with
  | .body, none => { reads with body := some (reads.body.getD []) }
  | .body, some n => { reads with body := some (Entries.insertNew n .null (reads.body.getD [])) }
  | _, none => reads
  | .headers, some n => { reads with headers := Entries.insertNew n .null reads.headers }
  | .query, some n => { reads with query := Entries.insertNew n .null reads.query }

end HandlerReads

/-- The chain of members behind the request parameter; `none` if a node is no such chain. -/
def requestChain? (dialect : Dialect) (request : Text) (node : Tree) : Option (List Text) :=
  match dialect.memberChain? node with
  | some (root :: chain) => if root = request then some chain else none
  | _ => none

/-- Reads by a chain of members. -/
def noteMember (dialect : Dialect) (profile : Profile) (request : Text) (reads : HandlerReads)
    (node : Tree) : HandlerReads :=
  match requestChain? dialect request node with
  | some (first :: rest) =>
    match classify profile (first :: rest) with
    | some (sect, name) => reads.note sect name
    | none => reads
  | _ => reads

/-- Reads by an object pattern whose source is a section as a whole. -/
def noteDestructuring (dialect : Dialect) (profile : Profile) (request : Text)
    (reads : HandlerReads) (node : Tree) : HandlerReads :=
  match dialect.destructuring? node with
  | none => reads
  | some pattern =>
    match (requestChain? dialect request pattern.source).bind (classify profile) with
    | some (sect, none) => pattern.keys.foldl (fun found key => found.note sect (some key)) reads
    | _ => reads

/-- Reads by a call that gives a header by its name. -/
def noteGetter (dialect : Dialect) (profile : Profile) (request : Text) (reads : HandlerReads)
    (node : Tree) : HandlerReads :=
  match (dialect.callee? node).bind (requestChain? dialect request) with
  | some [getter] =>
    if profile.headerGetters.contains getter then
      match (dialect.callArguments node).head?.bind dialect.routeText? with
      | some (p :: name) => reads.note .headers (some (p :: name))
      | _ => reads
    else reads
  | _ => reads

/-- All reads that one node stands for. -/
def noteNode (dialect : Dialect) (profile : Profile) (request : Text) (reads : HandlerReads)
    (node : Tree) : HandlerReads :=
  noteGetter dialect profile request
    (noteDestructuring dialect profile request
      (noteMember dialect profile request reads node) node) node

/-- The name of a handler's first parameter; `none` if it has none or the parameter is a
pattern. -/
def requestName? (dialect : Dialect) (handler : Tree) : Option Text :=
  match dialect.functionParams? handler with
  | some (name :: _) => if name.isEmpty then none else some name
  | _ => none

/-- Adds what a handler reads. A body that is already described stays as it is. -/
def scanHandler (dialect : Dialect) (profile : Profile) (handler : Tree) (found : Metadata) :
    Metadata :=
  match requestName? dialect handler with
  | none => found
  | some request =>
    let reads := handler.walk.foldl (noteNode dialect profile request)
      ⟨found.headers, found.query, none⟩
    let body := match found.body, reads.body with
      | .null, some fields => .map fields
      | body, _ => body
    ⟨reads.headers, reads.query, body⟩

/-- The handler among a route's arguments: the last function. -/
def findHandler? (dialect : Dialect) (arguments : List Tree) : Option Tree :=
  arguments.reverse.find? fun argument => (dialect.functionParams? argument).isSome

/-- What the options and the handler of a route say. -/
def serverMetadata? (dialect : Dialect) (profile : Profile) (call : CallShape) :
    Option Metadata := do
  let rest := call.arguments.drop 1
  let described ←
    if profile.optionsSchema then
      match rest.findSome? dialect.objectEntries? with
      | some options => applySchema? dialect options {}
      | none => pure {}
    else pure {}
  match findHandler? dialect rest with
  | some handler => pure (scanHandler dialect profile handler described)
  | none => pure described

end EndpointCatalog
