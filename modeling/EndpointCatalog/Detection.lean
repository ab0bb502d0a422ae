/-
EndpointCatalog.Detection — which framework a source tree uses.

Dependencies of package manifests and import lines of source files give
points to frameworks. The framework with the most points wins, of several
the one that scored first. Vendored directories have no say.

* `Score.best?` is the winner.
* `Disk.detect` is its name and the confidence in it.
-/
import EndpointCatalog.FileTree.Visit
import EndpointCatalog.Json.Reader
import EndpointCatalog.Log
import EndpointCatalog.Profile

namespace EndpointCatalog

/-! ## Points -/

/-- Points of frameworks, in the order in which they scored first. -/
abbrev Score := List (String × Nat)

namespace Score

/-- Gives points to a framework. -/
def add (framework : String) (points : Nat) : Score → Score
  | [] => [(framework, points)]
  | e :: rest =>
    if e.1 = framework then (framework, e.2 + points) :: rest else e :: add framework points rest

/-- All points. -/
def total (s : Score) : Nat := s.foldr (fun e points => e.2 + points) 0

/-- The entry with the most points, the first of several. -/
def best? : Score → Option (String × Nat)
  | [] => none
  | e :: rest => some (rest.foldl (fun best x => if best.2 < x.2 then x else best) e)

end Score

/-! ## Confidence -/

/-- The confidence in a winner: its share of the points, at least 0.3 and at most 0.99. -/
def confidenceOf (points total : Nat) : Binary64 :=
  if 100 * points < 30 * total then Binary64.ofDecimal false 3 (-1)
  else if 99 * total < 100 * points then Binary64.ofDecimal false 99 (-2)
  else Binary64.ofRatio false points total

/-- What detection finds. -/
structure Detection where
  /-- The framework, if there is a sign of any. -/
  framework : Option String
  confidence : Binary64
deriving DecidableEq

/-- What is found where there is no sign of any framework. -/
def Detection.nothing : Detection := ⟨none, Binary64.ofDecimal false 2 (-1)⟩

/-- What points tell. -/
def Detection.ofScore (s : Score) : Detection :=
  match s.best? with
  | none => .nothing
  | some (framework, points) => ⟨some framework, confidenceOf points s.total⟩

/-! ## Package manifests -/

/-- Names of dependencies and the frameworks that they belong to. -/
def dependencyHints : List (String × String) :=
  [("express", "express"), ("koa", "koa"), ("koa-router", "koa"), ("@koa/router", "koa"),
   ("fastify", "fastify"), ("restify", "restify"), ("axios", "axios")]

/-- The points that a dependency gives. Clients weigh less than servers, since nearly every
frontend has one. -/
def dependencyPoints (framework : String) : Nat := if framework = "axios" then 1 else 3

/-- The sections of a manifest that name dependencies. -/
def dependencySections : List String := ["dependencies", "devDependencies", "peerDependencies"]

/-- The names under the sections of a manifest, each once, in the order in which they occur. -/
def dependenciesOf (manifest : Tree) : List Text :=
  (dependencySections.flatMap fun name =>
    match manifest.get name with
    | .map entries => entries.map Prod.fst
    | _ => []).eraseDups

/-- The name of manifest files. -/
def manifestName : String := "package.json"

/-- The points of a manifest's dependencies. -/
def scoreDependencies (s : Score) (dependencies : List Text) : Score :=
  dependencies.foldl (fun s name =>
    match dependencyHints.find? fun hint => Text.ofString hint.1 = name with
    | some (_, framework) => s.add framework (dependencyPoints framework)
    | none => s) s

/-! ## Import lines -/

/-- The import lines that are signs of a framework. -/
def importHints : List (String × List String) :=
  [("express",
     ["require('express')", "require(\"express\")", "from 'express'", "from \"express\""]),
   ("koa", ["require('koa", "require(\"koa", "from 'koa", "from \"koa", "@koa/router"]),
   ("fastify",
     ["require('fastify')", "require(\"fastify\")", "from 'fastify'", "from \"fastify\""]),
   ("restify",
     ["require('restify')", "require(\"restify\")", "from 'restify'", "from \"restify\""])]

/-- The points that an import line gives. -/
def importPoints : Nat := 2

/-- Whether some characters contain others in one piece. -/
def containsChars (needle : List Char) : List Char → Bool
  | [] => needle.isEmpty
  | c :: rest => if needle.isPrefixOf (c :: rest) then true else containsChars needle rest

namespace Disk

variable (d : Disk)

/-- How many bytes of a file are searched. -/
def searchedBytes : Nat := 200000

/-- The characters among the first bytes of a file; bytes that are no characters are left out.
`none` if the file cannot be read. -/
def searchedText? (p : Path) (limit : Option Nat) : Option (List Char) :=
  match d.read p with
  | .error _ => none
  | .ok bytes =>
    some (Utf8.decodeSkipping (match limit with
      | some n => bytes.take n
      | none => bytes))

/-- Whether some characters contain one of some texts. -/
def containsOneOf (needles : List String) (text : List Char) : Bool :=
  needles.any fun needle => containsChars needle.toList text

/-- Whether a file contains one of some texts within its first bytes. A file that cannot be read
contains nothing. -/
def containsAny (p : Path) (needles : List String) (limit : Option Nat) : Bool :=
  (d.searchedText? p limit).any (containsOneOf needles)

/-- The points of a source file's import lines. -/
def scoreImports (s : Score) (p : Path) : Score :=
  match d.searchedText? p (some searchedBytes) with
  | none => s
  | some text =>
    importHints.foldl (fun s hint =>
      if containsOneOf hint.2 text then s.add hint.1 importPoints else s) s

/-- The manifests below a path; none if it is no directory. -/
def manifests (root : Path) : List Path :=
  match d.visits vendorNames root with
  | .ok visits =>
    (visits.filter fun v => v.files.contains manifestName).map fun v =>
      v.directory.child manifestName
  | .error _ => []

/-- The JSON value of a file. -/
def readJson? (p : Path) : Option Tree :=
  match d.read p with
  | .ok bytes => (Utf8.decode? bytes).bind fun cs => Json.read? (Utf8.normalBreaks cs)
  | .error _ => none

/-- The dependencies of a manifest; none if it cannot be read. -/
def dependencies (p : Path) : Logged (List Text) := do
  match d.readJson? p with
  | some manifest => pure (dependenciesOf manifest)
  | none => do
    Logged.log .debug ("Unreadable package.json: " ++ p.toString)
    pure []

/-- The points of some manifests. -/
def scoreManifests (s : Score) : List Path → Logged Score
  | [] => pure s
  | p :: rest => do
    let names ← d.dependencies p
    scoreManifests (scoreDependencies s names) rest

/-- The framework of a source tree. At most `sample` source files are searched. -/
def detect (root : Path) (sample : Nat) : Logged Detection := do
  let fromManifests ← d.scoreManifests [] (d.manifests root)
  match d.sourceFiles vendorNames root with
  | .error e => throw (.discovery e)
  | .ok files => pure (.ofScore ((files.take sample).foldl d.scoreImports fromManifests))

end Disk

end EndpointCatalog
