/-
EndpointCatalog.Estree.Parser.Statement — statements and declarations.

Where a closing parenthesis is missing behind the head of a statement, the
next token is passed as a tolerated fault and the statement has no body.
-/
import EndpointCatalog.Estree.Parser.Operator

namespace EndpointCatalog.Estree

/-! ## Blocks and simple statements -/

/-- A block. -/
def block (g : Grammar) : P Tree := do
  let start ← here
  expect "\x7b"
  let items ← readUntil (atMark "\x7d") g.listItem
  expect "\x7d"
  finish start (node "BlockStatement" [("body", .list items)])

/-- A statement that is an expression. -/
def expressionStatement (g : Grammar) : P Tree := do
  let start ← here
  let e ← expression g
  endStatement
  finish start (node "ExpressionStatement" [("expression", e)])

/-- A statement that is one word. -/
def debuggerStatement : P Tree := do
  let start ← here
  expectKeyword "debugger"
  endStatement
  finish start (node "DebuggerStatement" [])

/-- A statement that is nothing. -/
def emptyStatement : P Tree := do
  let start ← here
  expect ";"
  finish start (node "EmptyStatement" [])

/-- Reads a statement with `p`, in a context changed for it alone. -/
def within (change restore : Context → Context → Context) (p : P Tree) : P Tree := do
  let outer ← context
  modifyContext (change outer)
  let e ← p
  modifyContext (restore outer)
  pure e

/-- Reads the body of a loop. -/
def loopBody (p : P Tree) : P Tree :=
  within (fun _ c => { c with inIteration := true })
    (fun outer c => { c with inIteration := outer.inIteration }) p

/-- Reads what may not hold the operator `in` outside of brackets. -/
def withoutIn {α : Type} (p : P α) : P α := do
  let outer ← context
  modifyContext fun c => { c with allowIn := false }
  let result ← p
  modifyContext fun c => { c with allowIn := outer.allowIn }
  pure result

/-- Closes the head of a statement and reads its body. -/
def closeHead (body : P Tree) : P Tree := do
  if ← atMark ")" then do
    expect ")"
    body
  else do
    let _ ← nextToken
    tolerate
    finish (← here) (node "EmptyStatement" [])

/-! ## Variables -/

/-- A fault to tolerate: strict code binds a restricted name. -/
def checkBoundName (id : Tree) : P Unit := do
  tolerateIf ((← context).strict && isIdentifierIn id restrictedNames)

/-- A variable and its value, if it has one. -/
def declarator (start : Place) (id value : Tree) : P Tree :=
  finish start (node "VariableDeclarator" [("id", id), ("init", value)])

/-- A value that must follow. -/
def initializer (g : Grammar) : P Tree := do
  expect "="
  isolated g.assignment

/-- A constant or a variable of a block, with its value. -/
def lexicalBinding (g : Grammar) (declaring : Declaring) (inFor : Bool) : P Tree := do
  let start ← here
  let (id, _) ← g.pattern declaring
  checkBoundName id
  let value ←
    if declaring = .constant then do
      if (← atKeyword "in") || (← atNamed "of") then pure .null
      else if ← atMark "=" then initializer g
      else failHere .missingInitializer
    else if (!inFor && !isKind id "Identifier") || (← atMark "=") then initializer g
    else pure .null
  declarator start id value

/-- A variable of a function, with its value. -/
def variableBinding (g : Grammar) (inFor : Bool) : P Tree := do
  let start ← here
  let (id, _) ← g.pattern .variable
  checkBoundName id
  let value ←
    if (← atMark "=") || (!isKind id "Identifier" && !inFor) then initializer g
    else pure .null
  declarator start id value

/-- One or more items with commas between them. -/
def commaList (item : P Tree) : P (List Tree) := do
  let first ← item
  itemsAfterCommas first item

/-- The declaration of variables of a function. -/
def variableStatement (g : Grammar) : P Tree := do
  let start ← here
  expectKeyword "var"
  let declarations ← commaList (variableBinding g false)
  endStatement
  finish start (variableDeclaration declarations "var")

/-- How the variables behind a keyword are declared, and the keyword. -/
def lexicalKind (t : Token) : Declaring × String :=
  if t.isKeyword "const" then (.constant, "const") else (.letVariable, "let")

/-- The declaration of constants, or of variables of a block. -/
def lexicalDeclaration (g : Grammar) : P Tree := do
  let start ← here
  let (declaring, kind) := lexicalKind (← nextToken)
  let declarations ← commaList (lexicalBinding g declaring false)
  endStatement
  finish start (variableDeclaration declarations kind)

/-- Whether the word `let` that comes next starts a declaration. -/
def startsLexicalDeclaration : P Bool := do
  let behind ← peekBehind
  pure (behind.isName || behind.isMarkIn ["[", "\x7b"] || behind.isKeywordIn ["let", "yield"])

/-! ## Conditions and loops -/

/-- What is done if a condition holds, or does not hold. -/
def branch (g : Grammar) : P Tree := do
  tolerateIf ((← context).strict && (← ahead).isKeyword "function")
  g.statement

/-- A statement that depends on a condition. -/
def ifStatement (g : Grammar) : P Tree := do
  let start ← here
  expectKeyword "if"
  expect "("
  let test ← expression g
  let isClosed ← atMark ")"
  let consequent ← closeHead (branch g)
  let alternate ←
    if isClosed then
      if ← acceptKeyword "else" then branch g else pure .null
    else pure .null
  finish start (node "IfStatement"
    [("test", test), ("consequent", consequent), ("alternate", alternate)])

/-- A loop whose condition stands at its end. -/
def doWhileStatement (g : Grammar) : P Tree := do
  let start ← here
  expectKeyword "do"
  let body ← loopBody g.statement
  expectKeyword "while"
  expect "("
  let test ← expression g
  if ← acceptMark ")" then do
    let _ ← acceptMark ";"
  else do
    let _ ← nextToken
    tolerate
  finish start (node "DoWhileStatement" [("body", body), ("test", test)])

/-- A loop whose condition stands at its start. -/
def whileStatement (g : Grammar) : P Tree := do
  let start ← here
  expectKeyword "while"
  expect "("
  let test ← expression g
  let body ← closeHead (loopBody g.statement)
  finish start (node "WhileStatement" [("test", test), ("body", body)])

/-- The head of a loop: what is done before it, or what it goes through. -/
inductive ForHead where
  | counting (start : Tree)
  | keys (left right : Tree)
  | values (left right : Tree)

/-- The keys of an object, behind the keyword `in`. -/
def forKeys (g : Grammar) (left : Tree) : P ForHead := do
  let _ ← nextToken
  pure (.keys left (← expression g))

/-- The values of an object, behind the word `of`. -/
def forValues (g : Grammar) (left : Tree) : P ForHead := do
  let _ ← nextToken
  pure (.values left (← g.assignment))

/-- The head of a loop that starts with the declaration of variables of the function. -/
def forVariables (g : Grammar) : P ForHead := do
  let start ← here
  let _ ← nextToken
  let declarations ← withoutIn (commaList (variableBinding g true))
  let declared ← finish start (variableDeclaration declarations "var")
  let lone : Option Tree := match declarations with
    | [d] => some d
    | _ => none
  let hasValue := lone.any fun d => !(d.get "init").isNull
  if lone.isSome && (← atKeyword "in") then do
    let isPattern := lone.any fun d =>
      isKind (d.get "id") "ArrayPattern" || isKind (d.get "id") "ObjectPattern"
    tolerateIf (hasValue && (isPattern || (← context).strict))
    forKeys g declared
  else if lone.isSome && !hasValue && (← atNamed "of") then forValues g declared
  else do
    expect ";"
    pure (.counting declared)

/-- The head of a loop that starts with the declaration of constants or variables of a block. -/
def forLexical (g : Grammar) : P ForHead := do
  let start ← here
  let (declaring, kind) := lexicalKind (← nextToken)
  if !(← context).strict && shownToken (← ahead) = "in" then do
    forKeys g (← finish start (identifier (Text.ofString kind)))
  else do
    let declarations ← withoutIn (commaList (lexicalBinding g declaring true))
    let isLone := match declarations with
      | [d] => (d.get "init").isNull
      | _ => false
    if isLone && (← atKeyword "in") then do
      forKeys g (← finish start (variableDeclaration declarations kind))
    else if isLone && (← atNamed "of") then do
      forValues g (← finish start (variableDeclaration declarations kind))
    else do
      endStatement
      pure (.counting (← finish start (variableDeclaration declarations kind)))

/-- The head of a loop that starts with an expression. -/
def forExpression (g : Grammar) : P ForHead := do
  let token ← ahead
  let first ← withoutIn (inherited g.assignment)
  let isIn ← atKeyword "in"
  if isIn || (← atNamed "of") then do
    tolerateIf (!(← context).isAssignmentTarget || isKind first "AssignmentExpression")
    if isIn then forKeys g (toPattern first) else forValues g (toPattern first)
  else do
    let e ←
      if ← atMark "," then do
        let all ← itemsAfterCommas first (isolated g.assignment)
        finishFrom token (node "SequenceExpression" [("expressions", .list all)])
      else pure first
    expect ";"
    pure (.counting e)

/-- The head of a loop. -/
def forHead (g : Grammar) : P ForHead := do
  if ← acceptMark ";" then pure (.counting .null)
  else if ← atKeyword "var" then forVariables g
  else if ← atKeywordIn ["const", "let"] then forLexical g
  else forExpression g

/-- A loop over a range, keys or values. -/
def forStatement (g : Grammar) : P Tree := do
  let start ← here
  expectKeyword "for"
  expect "("
  let head ← forHead g
  let body := closeHead (loopBody (isolated g.statement))
  match head with
  | .counting first => do
    let test ← if ← atMark ";" then pure .null else expression g
    expect ";"
    let update ← if ← atMark ")" then pure .null else expression g
    let body ← body
    finish start (node "ForStatement"
      [("init", first), ("test", test), ("update", update), ("body", body)])
  | .keys left right => do
    let body ← body
    finish start (node "ForInStatement"
      [("left", left), ("right", right), ("body", body), ("each", .bool false)])
  | .values left right => do
    let body ← body
    finish start (node "ForOfStatement" [("left", left), ("right", right), ("body", body)])

/-! ## Jumps -/

/-- The label of a jump, which must be known. -/
def jumpLabel : P Tree := do
  let s ← get
  if s.ahead.isName && !s.newline then do
    let label ← variableName .parameter
    if s.context.labels.contains (nameOf label) then pure label
    else failHere (.unknownLabel (nameOf label))
  else pure .null

/-- A jump to the next round of a loop. -/
def continueStatement : P Tree := do
  let start ← here
  expectKeyword "continue"
  let label ← jumpLabel
  endStatement
  if label.isNull && !(← context).inIteration then failHere .strayContinue
  finish start (node "ContinueStatement" [("label", label)])

/-- A jump out of a statement. -/
def breakStatement : P Tree := do
  let start ← here
  expectKeyword "break"
  let label ← jumpLabel
  endStatement
  let c ← context
  if label.isNull && !c.inIteration && !c.inSwitch then failHere .strayBreak
  finish start (node "BreakStatement" [("label", label)])

/-- A jump out of a function. -/
def returnStatement (g : Grammar) : P Tree := do
  tolerateIf !(← context).inFunctionBody
  let start ← here
  expectKeyword "return"
  let s ← get
  let hasArgument :=
    (!s.ahead.isMarkIn [";", "\x7d"] && !s.newline && !s.ahead.isEnd) ||
      s.ahead.isString || s.ahead.isTemplate
  let argument ← if hasArgument then expression g else pure .null
  endStatement
  finish start (node "ReturnStatement" [("argument", argument)])

/-- A jump to a handler. -/
def throwStatement (g : Grammar) : P Tree := do
  let start ← here
  expectKeyword "throw"
  if (← get).newline then failHere .lineAfterThrow
  let argument ← expression g
  endStatement
  finish start (node "ThrowStatement" [("argument", argument)])

/-! ## Cases, handlers and labels -/

/-- A statement with an object whose properties are names in it. -/
def withStatement (g : Grammar) : P Tree := do
  tolerateIf (← context).strict
  let start ← here
  expectKeyword "with"
  expect "("
  let object ← expression g
  let body ← closeHead g.statement
  finish start (node "WithStatement" [("object", object), ("body", body)])

/-- A case; the default case has no test. -/
def switchCase (g : Grammar) : P Tree := do
  let start ← here
  let test ←
    if ← acceptKeyword "default" then pure .null
    else do
      expectKeyword "case"
      expression g
  expect ":"
  let isDone := do pure ((← atMark "\x7d") || (← atKeywordIn ["default", "case"]))
  let items ← readUntil isDone g.listItem
  finish start (node "SwitchCase" [("test", test), ("consequent", .list items)])

/-- The cases in braces, of which one may be the default. -/
def switchCases (g : Grammar) : P (List Tree) := do
  expect "\x7b"
  let found ← repeating (([] : List Tree), false) fun (cases, hasDefault) => do
    if ← atMark "\x7d" then pure (.inr cases)
    else do
      let clause ← switchCase g
      let isDefault := (clause.get "test").isNull
      if isDefault && hasDefault then failHere .repeatedDefault
      pure (.inl (clause :: cases, hasDefault || isDefault))
  expect "\x7d"
  pure found.reverse

/-- A choice between cases. -/
def switchStatement (g : Grammar) : P Tree := do
  let start ← here
  expectKeyword "switch"
  expect "("
  let discriminant ← expression g
  expect ")"
  let outer ← context
  modifyContext fun c => { c with inSwitch := true }
  let cases ← switchCases g
  modifyContext fun c => { c with inSwitch := outer.inSwitch }
  finish start (node "SwitchStatement" [("discriminant", discriminant), ("cases", .list cases)])

/-- How many tokens have a name that an earlier one has. -/
def repeatedNames : List Token → Nat
  | [] => 0
  | t :: rest =>
    repeatedNames rest + if rest.any fun other => shownToken other == shownToken t then 1 else 0

/-- A handler of exceptions. -/
def catchClause (g : Grammar) : P Tree := do
  let start ← here
  expectKeyword "catch"
  expect "("
  if ← atMark ")" then failAt (← ahead)
  let (param, names) ← g.pattern .parameter
  (List.replicate (repeatedNames names) ()).forM fun _ => tolerate
  checkBoundName param
  expect ")"
  let body ← block g
  finish start (node "CatchClause" [("param", param), ("body", body)])

/-- A block with what is done about exceptions in it. -/
def tryStatement (g : Grammar) : P Tree := do
  let start ← here
  expectKeyword "try"
  let body ← block g
  let handler ← if ← atKeyword "catch" then catchClause g else pure .null
  let finalizer ← if ← acceptKeyword "finally" then block g else pure .null
  if handler.isNull && finalizer.isNull then failHere .noHandler
  finish start (node "TryStatement"
    [("block", body), ("handler", handler), ("finalizer", finalizer)])

/-- What a label names. -/
def labelledBody (g : Grammar) : P Tree := do
  if ← atKeyword "class" then do
    tolerate
    classDeclaration g false
  else if ← atKeyword "function" then do
    let declaration ← functionDeclaration g false
    tolerateIf ((← context).strict || (declaration.get "generator").truthy)
    pure declaration
  else g.statement

/-- A statement with a label, or one that is an expression. -/
def labelledStatement (g : Grammar) : P Tree := do
  let start ← here
  let e ← expression g
  if isKind e "Identifier" && (← atMark ":") then do
    let _ ← nextToken
    let name := nameOf e
    let outer ← context
    if outer.labels.contains name then failHere (.repeatedLabel name)
    modifyContext fun c => { c with labels := name :: c.labels }
    let body ← labelledBody g
    modifyContext fun c => { c with labels := outer.labels }
    finish start (node "LabeledStatement" [("label", e), ("body", body)])
  else do
    endStatement
    finish start (node "ExpressionStatement" [("expression", e)])

/-! ## Statements -/

/-- The statements that start with a keyword. -/
def keywordStatements (g : Grammar) : List (String × P Tree) :=
  [("break", breakStatement), ("continue", continueStatement), ("debugger", debuggerStatement),
   ("do", doWhileStatement g), ("for", forStatement g), ("function", functionDeclaration g false),
   ("if", ifStatement g), ("return", returnStatement g), ("switch", switchStatement g),
   ("throw", throwStatement g), ("try", tryStatement g), ("var", variableStatement g),
   ("while", whileStatement g), ("with", withStatement g)]

/-- A statement. -/
def statement (g : Grammar) : P Tree := do
  let token ← ahead
  match token.lexeme with
  | .mark "\x7b" => block g
  | .mark ";" => emptyStatement
  | .name _ => do
    if ← atAsyncFunction then functionDeclaration g false else labelledStatement g
  | .keyword text =>
    match (keywordStatements g).find? fun entry => text = Text.ofString entry.1 with
    | some (_, p) => p
    | none => expressionStatement g
  | .endOfInput => failAt token
  | _ => expressionStatement g

end EndpointCatalog.Estree
