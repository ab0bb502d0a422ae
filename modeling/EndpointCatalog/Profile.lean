/-
EndpointCatalog.Profile — naming conventions of routing frameworks.

A profile says which member names of the router stand for which HTTP
method, and where a handler finds body, query and headers.

* `Profile.find?` looks a profile up by name, whatever its letter case and
  the blanks around it.
* `Profile.all` lists the profiles in the order of their names.
-/
import EndpointCatalog.Text.Blank

namespace EndpointCatalog

/-- HTTP methods that endpoints use. -/
inductive Method where
  | get
  | post
  | put
  | patch
  | delete
  | options
  | head
deriving DecidableEq, Repr

namespace Method

/-- All methods. -/
def all : List Method := [.get, .post, .put, .patch, .delete, .options, .head]

/-- The method as it is written in a request. -/
def toString : Method → String
  | .get => "GET"
  | .post => "POST"
  | .put => "PUT"
  | .patch => "PATCH"
  | .delete => "DELETE"
  | .options => "OPTIONS"
  | .head => "HEAD"

/-- Reads a method as it is written in a request. -/
def ofText? (t : Text) : Option Method := all.find? fun m => Text.ofString m.toString = t

end Method

/-- Which side of a request a framework stands on. -/
inductive Side where
  | server
  | client
deriving DecidableEq, Repr

/-- The side's name. -/
def Side.toString : Side → String
  | .server => "server"
  | .client => "client"

/-- Member names and the methods they stand for, in table order. -/
abbrev VerbTable := List (Text × Method)

namespace VerbTable

/-- The method of a member name. -/
def method? (verbs : VerbTable) (member : Text) : Option Method :=
  (verbs.find? fun entry => entry.1 = member).map Prod.snd

end VerbTable

/-- The member names that most frameworks use. -/
def standardVerbs : VerbTable :=
  [("get", .get), ("post", .post), ("put", .put), ("patch", .patch), ("delete", .delete),
   ("options", .options), ("head", .head)]

/-- The member names of client libraries. -/
def clientVerbs : VerbTable := standardVerbs

/-- A section of what a request carries. -/
inductive Section where
  | body
  | query
  | headers
deriving DecidableEq, Repr

/-- The naming convention of a framework. An accessor is a chain of members behind the
handler's first parameter. -/
structure Profile where
  name : String
  side : Side
  verbs : VerbTable
  bodyAccessors : List (List Text) := [["body"]]
  queryAccessors : List (List Text) := [["query"]]
  headerAccessors : List (List Text) := [["headers"]]
  /-- Members that give a header by its name. -/
  headerGetters : List Text := []
  /-- Whether a route may come with options that describe what it takes. -/
  optionsSchema : Bool := false
  /-- Objects whose members send requests. -/
  clientLibraries : List Text := ["axios"]
  description : String := ""
deriving DecidableEq

namespace Profile

/-- Accessors of all sections, in the order in which they are tried. -/
def accessors (p : Profile) : List (Section × List Text) :=
  p.bodyAccessors.map (Section.body, ·) ++ p.queryAccessors.map (Section.query, ·) ++
    p.headerAccessors.map (Section.headers, ·)

def axios : Profile where
  name := "axios"
  side := .client
  verbs := clientVerbs
  description := "axios instances: api.post(url, \x7b headers, params, data \x7d)"

def express : Profile where
  name := "express"
  side := .server
  verbs := standardVerbs
  headerGetters := ["header", "get"]
  description := "express Router / app: router.get(path, handler)"

def fastify : Profile where
  name := "fastify"
  side := .server
  verbs := standardVerbs
  optionsSchema := true
  description := "fastify: fastify.post(path, \x7b schema \x7d, handler)"

def koa : Profile where
  name := "koa"
  side := .server
  verbs := standardVerbs ++ ([("del", .delete)] : VerbTable)
  bodyAccessors := [["request", "body"]]
  queryAccessors := [["query"], ["request", "query"]]
  headerAccessors := [["headers"], ["request", "headers"], ["header"]]
  headerGetters := ["get"]
  description := "koa-router / @koa/router: router.get(path, ctx => ...)"

def restify : Profile where
  name := "restify"
  side := .server
  verbs :=
    [("get", .get), ("post", .post), ("put", .put), ("patch", .patch), ("del", .delete),
     ("opts", .options), ("head", .head)]
  headerGetters := ["header"]
  description := "restify: server.del(path, handler)"

/-- The profiles in the order of their names. -/
def all : List Profile := [axios, express, fastify, koa, restify]

/-- The names of the profiles. -/
def names : List String := all.map Profile.name

/-- Lower case as far as ASCII names can tell: the Kelvin sign has an ASCII lower case too. -/
def lowerName (cs : List Char) : List Char :=
  cs.map fun c => if c = '\u212a' then 'k' else c.toLower

/-- The form in which names are compared: trimmed and in lower case. -/
def normalName (name : String) : String := String.ofList (lowerName (trimBlanks name.toList))

/-- The profile of a name. -/
def find? (name : String) : Option Profile := all.find? fun p => p.name = normalName name

end Profile

end EndpointCatalog
