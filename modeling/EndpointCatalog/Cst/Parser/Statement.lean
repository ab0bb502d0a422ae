/-
EndpointCatalog.Cst.Parser.Statement — statements.

A word that starts a statement is a keyword there even if it could be a
name; words that only start declarations are names if no declaration
follows.
-/
import EndpointCatalog.Cst.Parser.Operator

namespace EndpointCatalog.Cst.Parser

/-- The end of a statement. -/
def statementEnd : P Unit := semicolon {}

/-- An expression at the end of a statement. -/
def lastExpression (g : Grammar) : P Node := ending true (expressions g)

/-! ## Variables -/

/-- A variable with its type and its value. -/
def declarator (g : Grammar) : P Node :=
  rule "variable_declarator" do
    field "name" (binding g)
    let _ ← accept "!"
    optionalType g
    if (← front).isMark "=" then initializer g

/-- The declaration of some variables. -/
def declarationOf (kind : String) (texts : List String) (g : Grammar) : P Node := do
  match texts.find? (← front).isWord with
  | none => failure
  | some text =>
    rule kind do
      keyword text
      ending true (commaSeparated (child (declarator g)))
      statementEnd

/-- The declaration of variables of a function. -/
def variableDeclaration (g : Grammar) : P Node := declarationOf "variable_declaration" ["var"] g

/-- The declaration of constants or of variables of a block. -/
def lexicalDeclaration (g : Grammar) : P Node :=
  declarationOf "lexical_declaration" ["let", "const"] g

/-! ## Conditions and loops -/

/-- A statement that depends on a condition. -/
def ifStatement (g : Grammar) : P Node :=
  rule "if_statement" do
    keyword "if"
    field "condition" (group g)
    field "consequence" g.statement
    if (← front).isWord "else" then
      field "alternative" (rule "else_clause" do
        keyword "else"
        child g.statement)

/-- What a loop goes through, in parentheses. -/
def forHeader (g : Grammar) : P Unit := do
  mark "("
  let f ← front
  if f.isWordIn ["var", "let", "const"] then do
    (do
      (keyword "var" <|> keyword "let" <|> keyword "const")
      field "left" (binding g)
      if (← front).isMark "=" then initializer g
      guard ((← front).isWordIn ["in", "of"])) <|> field "left" g.target
  else if f.isMark "(" then field "left" (group g)
  else field "left" g.target
  if !(← acceptWord "in") then keyword "of"
  field "right" (expressions g)
  mark ")"

/-- A loop through keys or values. -/
def forInStatement (g : Grammar) : P Node :=
  rule "for_in_statement" do
    keyword "for"
    let _ ← acceptWord "await"
    enclosed (forHeader g)
    field "body" g.statement

/-- A semicolon in the place of something. -/
def emptyStatement : P Node := rule "empty_statement" (mark ";")

/-- What a counting loop starts with. -/
def forInitializer (g : Grammar) : P Unit :=
  field "initializer" emptyStatement <|>
  field "initializer" (variableDeclaration g) <|>
  field "initializer" (lexicalDeclaration g) <|> do
  field "initializer" (expressions g)
  mark ";"

/-- A counting loop. -/
def forStatement (g : Grammar) : P Node :=
  rule "for_statement" do
    keyword "for"
    mark "("
    enclosed do
      forInitializer g
      if (← front).isMark ";" then field "condition" emptyStatement
      else do
        field "condition" (expressions g)
        mark ";"
      if !(← front).isMark ")" then field "increment" (expressions g)
    mark ")"
    field "body" g.statement

/-- Whether a loop goes through keys or values. -/
def atForIn (g : Grammar) : P Bool :=
  ahead do
    keyword "for"
    let _ ← acceptWord "await"
    enclosed (forHeader g)

/-- A loop with a head in parentheses. -/
def anyForStatement (g : Grammar) : P Node := do
  if ← atForIn g then forInStatement g else forStatement g

/-- A loop with its condition at the start. -/
def whileStatement (g : Grammar) : P Node :=
  rule "while_statement" do
    keyword "while"
    field "condition" (group g)
    field "body" g.statement

/-- A loop with its condition at the end. -/
def doStatement (g : Grammar) : P Node :=
  rule "do_statement" do
    keyword "do"
    field "body" g.statement
    keyword "while"
    field "condition" (group g)
    optionally statementEnd

/-- A statement with an object whose properties are names in it. -/
def withStatement (g : Grammar) : P Node :=
  rule "with_statement" do
    keyword "with"
    field "object" (group g)
    field "body" g.statement

/-! ## Choices and handlers -/

/-- Reads the statements of a case. -/
def caseBody (g : Grammar) : P Unit := do
  mark ":"
  repeating do
    if (← front).isWordIn ["case", "default"] then pure false
    else (do
      field "body" g.statement
      pure true) <|> pure false

/-- A case, or the default case. -/
def switchCase (g : Grammar) : P Node := do
  if (← front).isWord "case" then
    rule "switch_case" do
      keyword "case"
      enclosed (field "value" (expressions g))
      caseBody g
  else
    rule "switch_default" do
      keyword "default"
      caseBody g

/-- A choice between cases. -/
def switchStatement (g : Grammar) : P Node :=
  rule "switch_statement" do
    keyword "switch"
    field "value" (group g)
    field "body" (rule "switch_body" do
      mark "\x7b"
      many (child (switchCase g))
      mark "\x7d")

/-- A handler of exceptions. -/
def catchClause (g : Grammar) : P Node :=
  rule "catch_clause" do
    keyword "catch"
    if (← front).isMark "(" then
      mark "("
      enclosed do
        field "parameter" (binding g)
        optionalType g
      mark ")"
    field "body" (block g)

/-- A block with what is done about exceptions in it. -/
def tryStatement (g : Grammar) : P Node :=
  rule "try_statement" do
    keyword "try"
    field "body" (block g)
    if (← front).isWord "catch" then field "handler" (catchClause g)
    if (← front).isWord "finally" then
      field "finalizer" (rule "finally_clause" do
        keyword "finally"
        field "body" (block g))

/-! ## Jumps -/

/-- A jump to or out of a statement, which may be named. -/
def jump (kind text : String) : P Node :=
  rule kind do
    keyword text
    if !(← atOmission {}) then
      match ← front with
      | .word _ => field "label" (word "statement_identifier")
      | _ => pure ()
    statementEnd

/-- A jump out of a function. -/
def returnStatement (g : Grammar) : P Node :=
  rule "return_statement" do
    keyword "return"
    if !(← atOmission {}) && !(← front).isMark ";" then child (lastExpression g)
    statementEnd

/-- A jump to a handler. -/
def throwStatement (g : Grammar) : P Node :=
  rule "throw_statement" do
    keyword "throw"
    child (lastExpression g)
    statementEnd

/-- A stop for an observer. -/
def debuggerStatement : P Node :=
  rule "debugger_statement" do
    keyword "debugger"
    statementEnd

/-! ## Expressions and labels -/

/-- A statement that is an expression. -/
def expressionStatement (g : Grammar) : P Node :=
  rule "expression_statement" do
    child (lastExpression g)
    statementEnd

/-- A statement with a name. -/
def labeledStatement (g : Grammar) : P Node :=
  rule "labeled_statement" do
    field "label" (word "statement_identifier")
    mark ":"
    field "body" g.statement

end EndpointCatalog.Cst.Parser
