/-
EndpointCatalog.Extraction — the endpoints of one source file.

A source is parsed and its tree is walked; each call that matches gives one
record, in the order of the walk. Scripts that do not parse are logged and
contribute nothing.
-/
import EndpointCatalog.Cst.Dialect
import EndpointCatalog.Cst.Parser
import EndpointCatalog.Cst.Projection
import EndpointCatalog.Estree.Parser
import EndpointCatalog.Estree.Spelling
import EndpointCatalog.Log
import EndpointCatalog.Path
import EndpointCatalog.Record
import EndpointCatalog.Tree.Walk

namespace EndpointCatalog

/-- What is looked for in a source. -/
structure Search where
  profile : Profile
  /-- The name of the router or client. -/
  object : Text

/-- A source file: where it stands, how records name it, and what it says. -/
structure Source where
  path : Path
  label : Text
  text : List Char

namespace Search

/-- The endpoint that a node of a script is: a route, or else a request. -/
def matchScript? (s : Search) (node : Tree) : Option EndpointMatch :=
  (matchRoute? Estree.dialect s.profile s.object node).or
    (matchRequest? Estree.dialect s.profile s.object node)

/-- Whether a match in a script comes upon a number that is too long to be spelled. -/
def scriptTooLong (s : Search) (tree : Tree) : Bool :=
  (tree.walk.filterMap s.matchScript?).any (Estree.matchTooLong s.profile)

/-- The endpoint that a node of a typed script is: only routes are looked for. -/
def matchTyped? (s : Search) (node : Tree) : Option EndpointMatch :=
  matchRoute? Cst.dialect s.profile s.object node

/-- The records of the endpoints in a tree, in the order of the walk. -/
def records (s : Search) (dialect : Dialect) (match? : Tree → Option EndpointMatch)
    (source : Source) (tree : Tree) : Logged (List EndpointRecord) :=
  let resource := Resource.ofPath source.path
  let record? := EndpointRecord.ofMatch? dialect s.profile resource source.label
  match (tree.walk.filterMap match?).mapM record? with
  | some found => pure found
  | none => throw .nestingTooDeep

/-- The records of the endpoints in the tree of a script. -/
def scriptRecords (s : Search) (source : Source) (tree : Tree) : Logged (List EndpointRecord) :=
  if s.scriptTooLong tree then throw (.badValue Estree.tooLongToSpell)
  else s.records Estree.dialect s.matchScript? source tree

end Search

namespace Source

/-- The tree of a script, or the reason why there is none. -/
def parseScript (source : Source) : Logged (Except String Tree) :=
  match Estree.parse source.text with
  | .error .emptySubstitution => throw .emptySubstitution
  | .error stop => pure (.error stop.message)
  | .ok parsed => do
    if parsed.faults > 0 then
      Logged.log .debug
        (source.path.toString ++ ": " ++ toString parsed.faults ++ " tolerated syntax error(s)")
    pure (.ok parsed.tree)

/-- The endpoints of a script. -/
def scriptEndpoints (source : Source) (s : Search) : Logged (List EndpointRecord) := do
  match ← source.parseScript with
  | .error reason => do
    Logged.log .warning ("Skipping " ++ source.path.toString ++ ": " ++ reason)
    pure []
  | .ok tree => s.scriptRecords source tree

/-- The tree of a typed script, which must be well-formed. -/
def parseTyped (source : Source) : Logged Tree := do
  let tree := Cst.parse source.text
  if tree.hasFault then
    throw (.discovery (.typedParse source.path.toString (some tree.firstFaultyLine) "syntax error"))
  else pure (Cst.project source.text.toArray tree)

/-- The endpoints of a typed script. -/
def typedEndpoints (source : Source) (s : Search) : Logged (List EndpointRecord) := do
  s.records Cst.dialect s.matchTyped? source (← source.parseTyped)

end Source

end EndpointCatalog
