/-
EndpointCatalog.Estree.Parser.Module — imports, exports and lists of statements.

Outside of modules an import or export is a tolerated fault; within a
function it never may stand.
-/
import EndpointCatalog.Estree.Parser.Statement

namespace EndpointCatalog.Estree

/-- Stops where the word `from` is missing. -/
def failMissingFrom {α : Type} : P α := do
  let shown := shownToken (← ahead)
  failHere (if shown.isEmpty then .unexpectedClause else .unexpected shown)

/-- The name of another module. -/
def moduleName : P Tree := do
  let start ← here
  if !(← ahead).isString then failHere .unexpectedClause
  let t ← nextToken
  match t.lexeme with
  | .string value _ => finish start (literal (.text value) t.raw)
  | _ => failAt t

/-- The word `from` and the name of another module. -/
def fromClause : P Tree := do
  if !(← atNamed "from") then failMissingFrom
  let _ ← nextToken
  moduleName

/-- Reads a word that is no keyword if it comes next. -/
def acceptNamed (text : String) : P Bool := do
  if ← atNamed text then do
    let _ ← nextToken
    pure true
  else pure false

/-- Items in braces, with commas between them. -/
def bracedItems (item : P Tree) : P (List Tree) := do
  expect "\x7b"
  let items ← readUntil (atMark "\x7d") do
    let x ← item
    if !(← atMark "\x7d") then expect ","
    pure x
  expect "\x7d"
  pure items

/-! ## Imports -/

/-- A name that is imported, perhaps under another name. -/
def importSpecifier : P Tree := do
  let start ← here
  let isName := (← ahead).isName
  let imported ← if isName then variableName .parameter else identifierName
  let renamed ← acceptNamed "as"
  if !renamed && !isName then failAt (← nextToken)
  let bound ← if renamed then variableName .parameter else pure imported
  finish start (node "ImportSpecifier" [("local", bound), ("imported", imported)])

/-- The default export of a module under a name. -/
def importDefault : P Tree := do
  let start ← here
  let bound ← identifierName
  finish start (node "ImportDefaultSpecifier" [("local", bound)])

/-- All exports of a module under a name. -/
def importNamespace : P Tree := do
  let start ← here
  expect "*"
  if !(← acceptNamed "as") then failHere .unexpectedClause
  let bound ← identifierName
  finish start (node "ImportNamespaceSpecifier" [("local", bound)])

/-- What is imported behind the default export. -/
def importsAfterDefault : P (List Tree) := do
  if ← acceptMark "," then do
    if ← atMark "*" then do pure [← importNamespace]
    else if ← atMark "\x7b" then bracedItems importSpecifier
    else failAt (← ahead)
  else pure []

/-- What is imported. -/
def imports : P (List Tree) := do
  let token ← ahead
  if token.isMark "\x7b" then bracedItems importSpecifier
  else if token.isMark "*" then do pure [← importNamespace]
  else if token.word?.isSome && !token.isKeyword "default" then do
    let first ← importDefault
    pure (first :: (← importsAfterDefault))
  else failAt (← nextToken)

/-- An import. -/
def importDeclaration : P Tree := do
  if (← context).inFunctionBody then failHere .unexpectedClause
  let start ← here
  expectKeyword "import"
  let (specifiers, source) ←
    if (← ahead).isString then do pure ([], ← moduleName)
    else do
      let specifiers ← imports
      pure (specifiers, ← fromClause)
  endStatement
  finish start (node "ImportDeclaration" [("specifiers", .list specifiers), ("source", source)])

/-! ## Exports -/

/-- A name that is exported, perhaps under another name. -/
def exportSpecifier : P Tree := do
  let start ← here
  let bound ← identifierName
  let exported ← if ← acceptNamed "as" then identifierName else pure bound
  finish start (node "ExportSpecifier" [("exported", exported), ("local", bound)])

/-- What is exported as the default. -/
def exportedDefault (g : Grammar) : P Tree := do
  if ← atKeyword "function" then functionDeclaration g true
  else if ← atKeyword "class" then classDeclaration g true
  else if ← atNamed "async" then do
    if ← atAsyncFunction then functionDeclaration g true else g.assignment
  else do
    if ← atNamed "from" then failHere (.unexpected (Text.ofString "from"))
    let e ←
      if ← atMark "\x7b" then objectLiteral g
      else if ← atMark "[" then arrayLiteral g
      else g.assignment
    endStatement
    pure e

/-- Exported names in braces, from this module or from another one. -/
def exportNames (start : Place) : P Tree := do
  expect "\x7b"
  let (specifiers, hasDefault) ← repeating (([] : List Tree), false)
    fun (specifiers, hasDefault) => do
      if ← atMark "\x7d" then pure (.inr (specifiers, hasDefault))
      else do
        let isDefault ← atKeyword "default"
        let s ← exportSpecifier
        if !(← atMark "\x7d") then expect ","
        pure (.inl (s :: specifiers, hasDefault || isDefault))
  expect "\x7d"
  let source ←
    if hasDefault || (← atNamed "from") then fromClause else pure .null
  endStatement
  finish start (node "ExportNamedDeclaration"
    [("specifiers", .list specifiers.reverse), ("source", source)])

/-- The export of a declaration. -/
def exportOf (start : Place) (declaration : Tree) : P Tree :=
  finish start (node "ExportNamedDeclaration"
    [("declaration", declaration), ("specifiers", .list [])])

/-- An export. -/
def exportDeclaration (g : Grammar) : P Tree := do
  if (← context).inFunctionBody then failHere .unexpectedClause
  let start ← here
  expectKeyword "export"
  let token ← ahead
  if ← acceptKeyword "default" then do
    let declaration ← exportedDefault g
    finish start (node "ExportDefaultDeclaration" [("declaration", declaration)])
  else if ← acceptMark "*" then do
    let source ← fromClause
    endStatement
    finish start (node "ExportAllDeclaration" [("source", source)])
  else if token.isKeywordIn ["let", "const"] then do
    exportOf start (← lexicalDeclaration g)
  else if token.isKeywordIn ["var", "class", "function"] then do
    exportOf start (← g.listItem)
  else
    match token.lexeme with
    | .keyword _ => failAt token
    | _ => do
      if ← atAsyncFunction then exportOf start (← functionDeclaration g false)
      else exportNames start

/-! ## Lists of statements -/

/-- A statement or declaration in a list of them. -/
def listItem (g : Grammar) : P Tree := do
  modifyContext fun c => { c with isAssignmentTarget := true, isBindingElement := true }
  let token ← ahead
  let isModule := (← context).isModule
  if token.isKeyword "export" then do
    tolerateIf !isModule
    exportDeclaration g
  else if token.isKeyword "import" then do
    if ← atImportCall then expressionStatement g
    else do
      tolerateIf !isModule
      importDeclaration
  else if token.isKeyword "const" then lexicalDeclaration g
  else if token.isKeyword "function" then functionDeclaration g false
  else if token.isKeyword "class" then classDeclaration g false
  else if token.isKeyword "let" then do
    if ← startsLexicalDeclaration then lexicalDeclaration g else statement g
  else statement g

/-- All statements of a script or module. -/
def program (g : Grammar) (isModule : Bool) : P Tree := do
  if isModule then modifyContext fun c => { c with strict := true, isModule := true }
  let start ← here
  let directives ← prologue g
  let items ← readUntil (do pure (← ahead).isEnd) (listItem g)
  let kind := if isModule then "module" else "script"
  finish start (node "Program"
    [("sourceType", .ofString kind), ("body", .list (directives ++ items))])

end EndpointCatalog.Estree
