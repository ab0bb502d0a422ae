/-
EndpointCatalog.Matching — which calls are endpoints.

* `matchRoute?` finds registrations of routes: a verb called on the router
  of a server profile.
* `matchRequest?` finds outgoing requests: a verb called on the object of a
  client profile, or on a client library of any profile.
-/
import EndpointCatalog.Dialect
import EndpointCatalog.Profile

namespace EndpointCatalog

/-- What an endpoint is: a route that is served, or a request that is sent. -/
inductive EndpointKind where
  | route
  | request
deriving DecidableEq, Repr

/-- The kind's name. -/
def EndpointKind.toString : EndpointKind → String
  | .route => "route"
  | .request => "request"

/-- Reads the name of a kind. -/
def EndpointKind.ofText? (t : Text) : Option EndpointKind :=
  [EndpointKind.route, .request].find? fun k => Text.ofString k.toString = t

/-- A call that is an endpoint. -/
structure EndpointMatch where
  kind : EndpointKind
  method : Method
  call : CallShape

/-- A registration of a route: `router.verb(…)` under a server profile. -/
def matchRoute? (dialect : Dialect) (profile : Profile) (router : Text) (node : Tree) :
    Option EndpointMatch := do
  guard (profile.side = .server)
  let call ← dialect.callShape? node
  guard (call.receiver = router)
  let method ← profile.verbs.method? call.member
  pure ⟨.route, method, call⟩

/-- The method of an outgoing request. -/
def requestMethod? (profile : Profile) (client : Text) (call : CallShape) : Option Method :=
  let own :=
    if profile.side = .client ∧ call.receiver = client then profile.verbs.method? call.member
    else none
  match own with
  | some method => some method
  | none =>
    if call.receiver ∈ profile.clientLibraries then clientVerbs.method? call.member else none

/-- An outgoing request: `client.verb(…)` under a client profile, or `library.verb(…)`. -/
def matchRequest? (dialect : Dialect) (profile : Profile) (client : Text) (node : Tree) :
    Option EndpointMatch := do
  let call ← dialect.callShape? node
  let method ← requestMethod? profile client call
  pure ⟨.request, method, call⟩

end EndpointCatalog
