/-
EndpointCatalog.Estree.Node — building ESTree nodes.

A node is a mapping: its type, its attributes, and last where it stands.
Attributes that say nothing are left out.

* `toPattern` reads an expression again as the pattern that it turned out
  to be.
-/
import EndpointCatalog.Estree.Dialect
import EndpointCatalog.Estree.Token

namespace EndpointCatalog.Estree

/-- A line and a column. Columns count characters and may lie before the line. -/
structure Place where
  line : Int
  column : Int
deriving DecidableEq, Repr

/-- Attributes by name; null ones are left out. -/
def attributes (fields : List (String × Tree)) : Entries :=
  fields.filterMap fun (name, value) =>
    if value.isNull then none else some (Text.ofString name, value)

/-- A place as a tree. -/
def Place.toTree (p : Place) : Tree :=
  .map (attributes [("line", .int p.line), ("column", .int p.column)])

/-- A node without a place. -/
def node (kind : String) (fields : List (String × Tree)) : Tree :=
  .map (("type", .ofString kind) :: attributes fields)

/-- A node with a place as its last attribute. -/
def located (n : Tree) (start stop : Place) : Tree :=
  match n with
  | .map entries => 
    let loc := Tree.map (attributes [("start", start.toTree), ("end", stop.toTree)])
    .map (entries ++ attributes [("loc", loc)])
  | t => t

/-- An identifier. -/
def identifier (name : Text) : Tree := node "Identifier" [("name", .text name)]

/-- A literal with its written form. -/
def literal (value : Tree) (raw : List Char) : Tree :=
  node "Literal" [("value", value), ("raw", .text (Text.ofChars raw))]

/-- The parameters of what turned out to be an arrow function. -/
def arrowParameters (params : List Tree) (isAsync : Bool) : Tree :=
  node "ArrowParameterPlaceHolder" [("params", .list params), ("async", .bool isAsync)]

/-- A function. -/
def function (kind : String) (id : Tree) (params : List Tree) (body : Tree) (isGenerator : Bool) :
    Tree :=
  node kind
    [("generator", .bool isGenerator), ("expression", .bool false), ("async", .bool false),
     ("id", id), ("params", .list params), ("body", body)]

/-- An asynchronous function. -/
def asyncFunction (kind : String) (id : Tree) (params : List Tree) (body : Tree) : Tree :=
  node kind
    [("expression", .bool false), ("async", .bool true), ("id", id), ("params", .list params),
     ("body", body), ("generator", .bool false)]

/-- An arrow function. -/
def arrowFunction (params : List Tree) (body : Tree) (isExpression isAsync : Bool) : Tree :=
  node "ArrowFunctionExpression"
    [("generator", .bool false), ("async", .bool isAsync), ("params", .list params),
     ("body", body), ("expression", .bool isExpression)]

/-- A property of an object literal or pattern. -/
def property (kind : String) (key : Tree) (computed : Bool) (value : Tree)
    (method shorthand : Bool) : Tree :=
  node "Property"
    [("key", key), ("computed", .bool computed), ("value", value), ("kind", .ofString kind),
     ("method", .bool method), ("shorthand", .bool shorthand)]

/-- The declaration of some variables. -/
def variableDeclaration (declarations : List Tree) (kind : String) : Tree :=
  node "VariableDeclaration" [("declarations", .list declarations), ("kind", .ofString kind)]

/-- An operator between two operands. -/
def binary (operator : Text) (left right : Tree) : Tree :=
  let kind := if operator = "||" ∨ operator = "&&" then "LogicalExpression" else "BinaryExpression"
  node kind [("operator", .text operator), ("left", left), ("right", right)]

/-- The name of an identifier. -/
def nameOf (n : Tree) : Text := (n.get "name").textOf

/-- Whether a node is an identifier with one of some names. -/
def isIdentifierIn (n : Tree) (names : List String) : Bool :=
  isKind n "Identifier" && isOneOf names (nameOf n)

/-! ## Patterns -/

/-- Sets the type of a node. -/
def withKind (kind : String) (entries : Entries) : Entries :=
  Entries.insert "type" (.ofString kind) entries

/-- The type that a node has as a pattern; `none` if it stays as it is. -/
def patternKind? (n : Tree) : Option String :=
  if isKind n "SpreadElement" then some "RestElement"
  else if isKind n "ArrayExpression" then some "ArrayPattern"
  else if isKind n "ObjectExpression" then some "ObjectPattern"
  else if isKind n "AssignmentExpression" then some "AssignmentPattern"
  else none

/-- The attribute under which the inner patterns of a node of some type stand. -/
def innerKey (kind : String) : String :=
  match kind with
  | "RestElement" => "argument"
  | "ArrayPattern" => "elements"
  | "ObjectPattern" => "properties"
  | _ => "left"

mutual

/-- An expression read as a pattern. -/
def toPattern : Tree → Tree
  | .map entries =>
    match patternKind? (.map entries) with
    | none => .map entries
    | some kind =>
      .map (withKind kind
        (toPatternUnder (Text.ofString (innerKey kind))
          (kind = "AssignmentPattern") (kind = "ObjectPattern") entries))
  | t => t

/-- Reads the attribute under a key as a pattern, or the values of the properties in it. An
operator may be dropped. -/
def toPatternUnder (key : Text) (dropsOperator inProperties : Bool) :
    List (Text × Tree) → List (Text × Tree)
  | [] => []
  | (k, t) :: rest =>
    if dropsOperator ∧ k = "operator" then toPatternUnder key dropsOperator inProperties rest
    else if k = key then
      let inner := match t with
        | .list items => .list (if inProperties then toPropertyPatterns items else toPatterns items)
        | other => toPattern other
      (k, inner) :: rest
    else (k, t) :: toPatternUnder key dropsOperator inProperties rest

/-- Reads each element as a pattern. -/
def toPatterns : List Tree → List Tree
  | [] => []
  | t :: rest => toPattern t :: toPatterns rest

/-- Reads the value of each property as a pattern. -/
def toPropertyPatterns : List Tree → List Tree
  | [] => []
  | .map entries :: rest =>
    (if isKind (.map entries) "SpreadElement" then
      .map (withKind "RestElement" (toPatternUnder "argument" false false entries))
    else .map (toPatternUnder "value" false false entries)) :: toPropertyPatterns rest
  | t :: rest => t :: toPropertyPatterns rest

end

end EndpointCatalog.Estree
