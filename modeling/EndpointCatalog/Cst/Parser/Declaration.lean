/-
EndpointCatalog.Cst.Parser.Declaration — declarations, imports and exports.
-/
import EndpointCatalog.Cst.Parser.Statement

namespace EndpointCatalog.Cst.Parser

/-- Whether a word follows a word that is read first, on the same line. -/
def followedByWord (text : String) : P Bool :=
  ahead do
    keyword text
    guard (!(← atOmission {}))
    match ← front with
    | .word _ => pure ()
    | _ => failure

/-! ## Functions and classes -/

/-- A function with its body, or only its signature. -/
def functionDeclaration (g : Grammar) : P Node := do
  let head : P Unit := do
    if ← acceptWord "async" then guard (!(← atOmission {}))
    keyword "function"
    let _ ← accept "*"
    field "name" identifier
    ending true (callSignature g)
  let n ← (rule "function_declaration" do
    head
    field "body" (block g)
    optionalOmission) <|> (rule "function_signature" do
    head
    semicolon { inExpression := false, inSignature := true })
  pure (if n.kind = "function_declaration" && n.hasMark "*" then
    n.withKind "generator_function_declaration" else n)

/-- A class with a name. -/
def classDeclaration (g : Grammar) : P Node :=
  rule "class_declaration" do
    decorators g
    keyword "class"
    guard (!(← front).isWordIn ["extends", "implements"])
    field "name" typeIdentifier
    classRest g
    optionalOmission

/-- A class that only other classes are made from. -/
def abstractClass (g : Grammar) : P Node :=
  rule "abstract_class_declaration" do
    decorators g
    keyword "abstract"
    keyword "class"
    field "name" typeIdentifier
    classRest g

/-! ## Types -/

/-- A name for a type. -/
def typeAlias (g : Grammar) : P Node :=
  rule "type_alias_declaration" do
    keyword "type"
    field "name" typeIdentifier
    if ← atOpening "<" then field "type_parameters" (typeParameters g)
    mark "="
    field "value" (ending true g.type)
    statementEnd

/-- A type of objects. -/
def interfaceDeclaration (g : Grammar) : P Node :=
  rule "interface_declaration" do
    keyword "interface"
    field "name" typeIdentifier
    if ← atOpening "<" then field "type_parameters" (typeParameters g)
    if (← front).isWord "extends" then
      child (rule "extends_type_clause" do
        keyword "extends"
        commaSeparated (field "type" (namedType g)))
    field "body" (objectType "interface_body" g)

/-- A member of a type with named values. -/
def enumMember (g : Grammar) : P Unit := do
  let name ← propertyName g
  if (← front).isMark "=" then
    child (ruleFrom "enum_assignment" (some "name", name) (initializer g))
  else push (some "name") name

/-- A type with named values. -/
def enumDeclaration (g : Grammar) : P Node :=
  rule "enum_declaration" do
    let _ ← acceptWord "const"
    keyword "enum"
    field "name" identifier
    field "body" (rule "enum_body" do
      mark "\x7b"
      enclosed (strictList "\x7d" (enumMember g)))

/-! ## Modules -/

/-- A name, or names with points between them. -/
def dottedName : P Node := do
  growing (fun object => do
    if (← front).isMark "." then do
      let object := if object.kind = "nested_identifier" then object.withKind "member_expression" else object
      let n ← ruleFrom "nested_identifier" (some "object", object) do
        mark "."
        field "property" (word "property_identifier")
      pure (some n)
    else pure none) (← identifier)

/-- The name and the statements of a module. -/
def moduleRest (g : Grammar) : P Unit := do
  field "name" (if (← front) = .quote then string else dottedName)
  if (← front).isMark "\x7b" then field "body" (block g)

/-- A module. -/
def moduleDeclaration (g : Grammar) : P Node :=
  rule "module" do
    keyword "module"
    moduleRest g

/-- A name space. -/
def namespaceDeclaration (g : Grammar) : P Node :=
  rule "internal_module" do
    keyword "namespace"
    moduleRest g

/-- Another name for something in a module. -/
def importAlias : P Node :=
  rule "import_alias" do
    keyword "import"
    child identifier
    mark "="
    guard (!(← followedByRequire))
    child dottedName
    statementEnd
where
  /-- Whether a module is loaded. -/
  followedByRequire : P Bool :=
    ahead do
      keyword "require"
      mark "("

/-- Something that is defined elsewhere. -/
def ambientDeclaration (declaration : P Node) (g : Grammar) : P Node :=
  rule "ambient_declaration" do
    keyword "declare"
    if ← ahead (do
        keyword "global"
        mark "\x7b") then do
      keyword "global"
      child (block g)
    else if ← ahead (do
        keyword "module"
        mark ".") then do
      keyword "module"
      mark "."
      child (word "property_identifier")
      mark ":"
      child (ending true g.type)
      statementEnd
    else child declaration

/-! ## Imports -/

/-- A word `from` and the name of another module. -/
def fromClause : P Unit := do
  keyword "from"
  field "source" string

/-- The name of an export of another module. -/
def exportName : P Node := do
  if (← front) = .quote then string else identifier

/-- Reads a word that says that only a type is meant, in front of what `follows` reads. -/
def typeOnly (follows : P Unit) : P Unit :=
  (do
    (keyword "type" <|> keyword "typeof")
    follows) <|> follows

/-- A name that is imported, perhaps under another name. -/
def importSpecifier : P Node :=
  rule "import_specifier" (typeOnly do
    field "name" exportName
    if ← acceptWord "as" then field "alias" identifier
    guard ((← front).isMarkIn [",", "\x7d"]))

/-- Names that are imported. -/
def namedImports : P Node :=
  rule "named_imports" do
    mark "\x7b"
    strictList "\x7d" (child importSpecifier)

/-- All exports of a module under a name. -/
def namespaceImport : P Node :=
  rule "namespace_import" do
    mark "*"
    keyword "as"
    child identifier

/-- What is imported. -/
def importClause : P Node :=
  let group : P Node := do
    if (← front).isMark "*" then namespaceImport else namedImports
  rule "import_clause" do
    match ← front with
    | .word _ => do
      child identifier
      if ← accept "," then child group
    | _ => child group

/-- A module that is loaded. -/
def requireClause : P Node :=
  rule "import_require_clause" do
    child identifier
    mark "="
    keyword "require"
    mark "("
    field "source" string
    mark ")"

/-- Conditions on an import. -/
def importAttribute (g : Grammar) : P Unit := do
  if (← front).isWord "with" then
    child (rule "import_attribute" do
      keyword "with"
      child (object g))

/-- An import. -/
def importStatement (g : Grammar) : P Node :=
  let content : P Unit :=
    (do
      child importClause
      fromClause) <|> child requireClause <|> field "source" string
  rule "import_statement" do
    keyword "import"
    typeOnly content
    importAttribute g
    statementEnd

/-! ## Exports -/

/-- A name that is exported, perhaps under another name. -/
def exportSpecifier : P Node :=
  rule "export_specifier" (typeOnly do
    field "name" exportName
    if ← acceptWord "as" then field "alias" exportName
    guard ((← front).isMarkIn [",", "\x7d"]))

/-- Names that are exported. -/
def exportClause : P Node :=
  rule "export_clause" do
    mark "\x7b"
    strictList "\x7d" (child exportSpecifier)

/-- The end of an export of names, of this or of another module. -/
def exportSource (isRequired : Bool) : P Unit := do
  if isRequired || (← front).isWord "from" then fromClause
  statementEnd

/-- What is exported as the default. -/
def defaultExport (declaration : P Node) (g : Grammar) : P Unit :=
  field "declaration" declaration <|> do
  field "value" (ending true g.expression)
  statementEnd

/-- An export. -/
def exportStatement (declaration : P Node) (g : Grammar) : P Node :=
  rule "export_statement" do
    decorators g
    keyword "export"
    let f ← front
    if f.isMark "*" then
      (do
        child (rule "namespace_export" do
          mark "*"
          keyword "as"
          child exportName)
        exportSource true) <|> do
        mark "*"
        exportSource true
    else if f.isMark "\x7b" then do
      child exportClause
      exportSource false
    else if f.isMark "=" then do
      mark "="
      child (ending true g.expression)
      statementEnd
    else if f.isWord "default" then do
      keyword "default"
      defaultExport declaration g
    else
      (do
        keyword "type"
        child exportClause
        exportSource false) <|> (do
        keyword "as"
        keyword "namespace"
        child identifier
        statementEnd) <|> field "declaration" declaration

/-! ## Statements -/

/-- A declaration at the front of which a word tells what it is. -/
def declarationByWord (declaration : P Node) (g : Grammar) (text : String) : P Node := do
  match text with
  | "function" => functionDeclaration g
  | "async" => functionDeclaration g
  | "class" => classDeclaration g
  | "abstract" => abstractClass g
  | "var" => variableDeclaration g
  | "let" => lexicalDeclaration g
  | "const" => enumDeclaration g <|> lexicalDeclaration g
  | "enum" => enumDeclaration g
  | "interface" => interfaceDeclaration g
  | "type" => if ← followedByWord "type" then typeAlias g else failure
  | "namespace" => namespaceDeclaration g
  | "module" => moduleDeclaration g
  | "import" => importAlias
  | "declare" => if ← followedByWord "declare" then ambientDeclaration declaration g else failure
  | _ => failure

/-- A declaration; `bound` tells how many words `declare` may stand in front of it. -/
def declarationUpTo (g : Grammar) : Nat → P Node
  | 0 => failure
  | bound + 1 => do
    match ← front with
    | .word w => declarationByWord (declarationUpTo g bound) g (String.ofList w)
    | .mark "@" => classDeclaration g <|> abstractClass g
    | _ => failure

/-- A declaration. -/
def declaration (g : Grammar) : P Node := declarationUpTo g 8

/-- The statements that start with a keyword which cannot be a name. -/
def keywordStatements (g : Grammar) : List (String × P Node) :=
  [("if", ifStatement g), ("switch", switchStatement g), ("for", anyForStatement g),
   ("while", whileStatement g), ("do", doStatement g), ("try", tryStatement g),
   ("with", withStatement g), ("break", jump "break_statement" "break"),
   ("continue", jump "continue_statement" "continue"), ("return", returnStatement g),
   ("throw", throwStatement g), ("debugger", debuggerStatement), ("var", variableDeclaration g),
   ("const", declaration g), ("enum", enumDeclaration g), ("interface", interfaceDeclaration g),
   ("abstract", abstractClass g)]

/-- A name space as a statement; a semicolon may follow it. -/
def namespaceStatement (g : Grammar) : P Node := do
  let n ← namespaceDeclaration g
  (ruleFrom "expression_statement" (none, n) statementEnd) <|> pure n

/-- A statement that starts with a word. -/
def wordStatement (g : Grammar) (text : String) : P Node := do
  match (keywordStatements g).lookup text with
  | some p => p
  | none =>
    let plain := labeledStatement g <|> expressionStatement g
    match text with
    | "import" => importStatement g <|> importAlias <|> expressionStatement g
    | "export" => exportStatement (declaration g) g <|> plain
    | "function" => functionDeclaration g <|> expressionStatement g
    | "async" => functionDeclaration g <|> plain
    | "class" => classDeclaration g <|> expressionStatement g
    | "namespace" => if ← followedByName "namespace" then namespaceStatement g else plain
    | "module" => if ← followedByName "module" then moduleDeclaration g else plain
    | _ =>
      if ["let", "type", "declare"].contains text then declaration g <|> plain else plain
where
  /-- Whether a name or a string follows a word on the same line. -/
  followedByName (text : String) : P Bool :=
    ahead do
      keyword text
      guard (!(← atOmission {}))
      match ← front with
      | .word w => guard (!(["in", "instanceof", "as", "satisfies"].contains (String.ofList w)))
      | .quote => pure ()
      | _ => failure

/-- Passes comments in the style of markup, which may stand where a statement may start. -/
def markupComments : P Unit :=
  repeating do
    let s ← get
    match markupCommentLength s.next.rest with
    | 0 => pure false
    | n => do
      push none (← leaf n "html_comment" true)
      pure true

/-- A statement. -/
def statement (g : Grammar) : P Node := do
  markupComments
  match ← front with
  | .word w => wordStatement g (String.ofList w)
  | .mark "\x7b" => block g
  | .mark ";" => emptyStatement
  | .mark "@" =>
    exportStatement (declaration g) g <|> declaration g <|> expressionStatement g
  | _ => expressionStatement g

/-- Reads the statements of a source as far as they are well-formed. -/
def statements (g : Grammar) : P Unit := do
  let s ← get
  if "#!".toList.isPrefixOf s.next.rest then
    child (leaf (s.next.rest.takeWhile (· ≠ '\n')).length "hash_bang_line" true)
  many (child g.statement)

/-- All statements of a source. -/
def program (g : Grammar) : P Node :=
  collect "program" [] do
    statements g
    markupComments
    guard ((← front) = .nothing)
    child (leaf 0 "end" false)

/-- Passes the statements that are well-formed, and tells where the next one starts. -/
def wellFormedPart (g : Grammar) : P Spot := do
  statements g
  pure (← get).next

end EndpointCatalog.Cst.Parser
