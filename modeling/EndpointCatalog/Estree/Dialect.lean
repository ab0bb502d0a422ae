/-
EndpointCatalog.Estree.Dialect — reading ESTree nodes.

A node is a mapping with its kind under `type`. Attributes that say nothing
are absent, holes of an array excepted, which are null.
-/
import EndpointCatalog.Dialect
import EndpointCatalog.Number.Shortest

namespace EndpointCatalog.Estree

/-- Whether a node is of a kind. -/
def isKind (node : Tree) (kind : String) : Bool := node.hasText "type" kind

/-- The line on which a node starts. -/
def line? (node : Tree) : Option Int := ((node.get "loc").get "start").get "line" |>.int?

/-- The static text of a template element: cooked, or as it is written if it cannot be cooked. -/
def quasiText (quasi : Tree) : Text :=
  let value := quasi.get "value"
  match value.get "cooked" with
  | .text t => t
  | _ => (value.get "raw").textOf

/-- The static text of a template. -/
def templateText (node : Tree) : Text := (node.get "quasis").items.flatMap quasiText

/-- How a key is spelled whose written form is not known. -/
def keyFormat : FloatFormat := ⟨-4, 16, 2, "inf", "nan"⟩

/-- The spelling of a key value that is no text. -/
def keySpelling : Tree → String
  | .bool true => "True"
  | .bool false => "False"
  | .int n => toString n
  | .float x => x.render keyFormat
  | _ => ""

/-- The name of a property key: an identifier, a string, or a number as it is written. -/
def keyName? (key : Tree) : Option Text :=
  if isKind key "Identifier" then some (key.get "name").textOf
  else if isKind key "Literal" then
    match key.get "value" with
    | .null => none
    | .text t => some t
    | value => some ((key.get "raw").text?.getD (keySpelling value))
  else none

/-- The arguments of a call. -/
def callArguments (node : Tree) : List Tree := (node.get "arguments").items.filter Tree.isMap

/-- What a call calls. -/
def callee? (node : Tree) : Option Tree :=
  if isKind node "CallExpression" then node.get? "callee" else none

/-- A call of a member of a plain identifier. -/
def callShape? (node : Tree) : Option CallShape :=
  let callee := node.get "callee"
  let receiver := callee.get "object"
  let member := callee.get "property"
  if isKind node "CallExpression" && isKind callee "MemberExpression" &&
      !(callee.get "computed").truthy && isKind receiver "Identifier" &&
      isKind member "Identifier" then
    some ⟨(receiver.get "name").textOf, (member.get "name").textOf, callArguments node, line? node⟩
  else none

/-- The static text of a string or template. -/
def routeText? (node : Tree) : Option Text :=
  if isKind node "Literal" then (node.get "value").text?
  else if isKind node "TemplateLiteral" then some (templateText node)
  else none

/-- The static keys of an object literal and their value nodes. -/
def objectEntries? (node : Tree) : Option (List (Text × Tree)) :=
  if isKind node "ObjectExpression" then
    some <| (node.get "properties").items.filterMap fun property =>
      if isKind property "Property" && !(property.get "computed").truthy then
        match keyName? (property.get "key"), property.get "value" with
        | some name, .map entries => some (name, .map entries)
        | _, _ => none
      else none
  else none

/-- The number that a literal stands for, by its written form if there is one. -/
def numberOf (node value : Tree) : Tree :=
  match node.get "raw" with
  | .text raw => Tree.ofLiteral (readNumber raw)
  | _ => value

/-- The literal that a node is. A regular expression is kept. -/
def literal? : Nat → Tree → Option Literal
  | 0, _ => none
  | depth + 1, node =>
    if isKind node "Literal" then
      if (node.get? "regex").isSome then some .kept
      else match node.get "value" with
        | .int n => some (.value (numberOf node (.int n)))
        | .float x => some (.value (numberOf node (.float x)))
        | value => some (.value value)
    else if isKind node "TemplateLiteral" && !(node.get "expressions").truthy then
      some (.value (.text (templateText node)))
    else if isKind node "ObjectExpression" then do
      let entries ← ((objectEntries? node).getD []).mapM fun (key, value) => do
        pure (key, (← literal? depth value).toTree value)
      pure (.value (.map (Entries.ofPairs entries)))
    else if isKind node "ArrayExpression" then do
      let items ← (node.get "elements").items.mapM fun item =>
        if item.isMap then do pure ((← literal? depth item).toTree item) else pure .null
      pure (.value (.list items))
    else if isKind node "UnaryExpression" && node.hasText "operator" "-" then do
      let argument := node.get "argument"
      let value := (← literal? depth argument).toTree argument
      match value.negated? with
      | some v => pure (.value v)
      | none => pure .kept
    else some .kept

/-- The name that a parameter binds; empty for a pattern. -/
def paramName (param : Tree) : Text :=
  let target := if isKind param "AssignmentPattern" then param.get "left" else param
  if isKind target "Identifier" then (target.get "name").textOf else []

/-- The parameter names of a function. -/
def functionParams? (node : Tree) : Option (List Text) :=
  if isKind node "ArrowFunctionExpression" || isKind node "FunctionExpression" then
    some ((node.get "params").items.map paramName)
  else none

/-- The name of the member that a member expression takes. -/
def memberName? (node : Tree) : Option Text :=
  let property := node.get "property"
  if (node.get "computed").truthy then
    if isKind property "Literal" then (property.get "value").text? else none
  else if isKind property "Identifier" then some (property.get "name").textOf
  else none

/-- The names along a chain of members, the last one first. -/
def reversedChain? (node : Tree) : Option (List Text) :=
  if _h : isKind node "MemberExpression" then do
    let name ← memberName? node
    let inner ← reversedChain? (node.get "object")
    pure (name :: inner)
  else if isKind node "Identifier" then some [(node.get "name").textOf]
  else none
termination_by sizeOf node
decreasing_by exact Tree.sizeOf_get_lt (Tree.isMap_of_hasText _h) "object"

/-- The names along a chain of members, the leftmost identifier first. -/
def memberChain? (node : Tree) : Option (List Text) := (reversedChain? node).map List.reverse

/-- A declaration by an object pattern. -/
def destructuring? (node : Tree) : Option Destructuring :=
  let pattern := node.get "id"
  let source := node.get "init"
  if isKind node "VariableDeclarator" && isKind pattern "ObjectPattern" && source.isMap then
    some ⟨(pattern.get "properties").items.filterMap fun property =>
      if isKind property "Property" && !(property.get "computed").truthy then
        keyName? (property.get "key")
      else none, source⟩
  else none

/-- The dialect of ESTree nodes. -/
def dialect : Dialect where
  callShape? := callShape?
  routeText? := routeText?
  literal? := literal?
  objectEntries? := objectEntries?
  functionParams? := functionParams?
  memberChain? := memberChain?
  callee? := callee?
  callArguments := callArguments
  destructuring? := destructuring?

end EndpointCatalog.Estree
