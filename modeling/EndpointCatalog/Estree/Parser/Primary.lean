/-
EndpointCatalog.Estree.Parser.Primary — expressions that need no operator.

Parentheses may turn out to hold the parameters of an arrow function; then
what was read in them is read again as patterns.
-/
import EndpointCatalog.Estree.Parser.Class

namespace EndpointCatalog.Estree

/-! ## Arrays and objects -/

/-- Three points before an expression. -/
def spread (g : Grammar) : P Tree := do
  let start ← here
  expect "..."
  let argument ← inherited g.assignment
  finish start (node "SpreadElement" [("argument", argument)])

/-- One step through an array. -/
def arrayStep (g : Grammar) (elements : List Tree) : P (List Tree ⊕ List Tree) := do
  if ← atMark "]" then pure (.inr elements)
  else if ← acceptMark "," then pure (.inl (.null :: elements))
  else if ← atMark "..." then do
    let element ← spread g
    if !(← atMark "]") then do
      notTarget
      expect ","
    pure (.inl (element :: elements))
  else do
    let element ← inherited g.assignment
    if !(← atMark "]") then expect ","
    pure (.inl (element :: elements))

/-- An array. -/
def arrayLiteral (g : Grammar) : P Tree := do
  let start ← here
  expect "["
  let elements ← repeating [] (arrayStep g)
  expect "]"
  finish start (node "ArrayExpression" [("elements", .list elements.reverse)])

/-- How a property starts: its first token, its key if one has been read, and whether the key is
computed or stands behind `async`. -/
structure PropertyHead where
  token : Token
  key : Tree
  computed : Bool
  isAsync : Bool

/-- Reads how a property starts. -/
def propertyHead (g : Grammar) (start : Place) : P PropertyHead := do
  let token ← ahead
  if token.isName then do
    let _ ← nextToken
    let s ← get
    let computed := s.ahead.isMark "["
    if !s.newline && token.isNamed "async" && !s.ahead.isMarkIn [":", "(", "*", ","] then do
      let key ← propertyKey g
      pure ⟨token, key, computed, true⟩
    else do
      let key ← finish start (identifier token.wordText)
      pure ⟨token, key, computed, false⟩
  else if ← acceptMark "*" then pure ⟨token, .null, false, false⟩
  else do
    let computed := token.isMark "["
    let key ← propertyKey g
    pure ⟨token, key, computed, false⟩

/-- A property that is its own value, perhaps with an initializer. -/
def shorthandProperty (g : Grammar) (start : Place) (head : PropertyHead) : P Tree := do
  let id ← finish start (identifier head.token.wordText)
  if ← atMark "=" then do
    let token ← ahead
    modifyContext fun c => { c with coverInitializer := some token }
    let _ ← nextToken
    let right ← isolated g.assignment
    let value ← finish start (node "AssignmentPattern" [("left", id), ("right", right)])
    finish start (property "init" head.key head.computed value false true)
  else finish start (property "init" head.key head.computed id false true)

/-- A property whose kind no word or mark tells, and whether it sets the prototype. -/
def plainProperty (g : Grammar) (start : Place) (head : PropertyHead) (hasProto : Bool) :
    P (Tree × Bool) := do
  if head.key.isNull then failAt (← ahead)
  else if (← atMark ":") && !head.isAsync then do
    let setsProto := !head.computed && isKeyNamed head.key "__proto__"
    tolerateIf (setsProto && hasProto)
    let _ ← nextToken
    let value ← inherited g.assignment
    pure (← finish start (property "init" head.key head.computed value false false), setsProto)
  else if ← atMark "(" then do
    let value ← if head.isAsync then asyncMethod g else plainMethod g
    pure (← finish start (property "init" head.key head.computed value true false), false)
  else if head.token.isName then pure (← shorthandProperty g start head, false)
  else failAt (← nextToken)

/-- A property that is told by the word or mark before its key. -/
def markedProperty (g : Grammar) (start : Place) (kind : String) (isMethod : Bool)
    (value : P Tree) : P (Tree × Bool) := do
  let e ← markedElement g kind isMethod value
  pure (← finish start (property kind e.key e.computed e.value isMethod false), false)

/-- A property of an object, and whether it sets the prototype. -/
def objectProperty (g : Grammar) (hasProto : Bool) : P (Tree × Bool) := do
  let start ← here
  let head ← propertyHead g start
  let keyed := startsPropertyKey (← ahead)
  if keyed && !head.isAsync && head.token.isNamed "get" then
    markedProperty g start "get" false (guardedGetter g)
  else if keyed && !head.isAsync && head.token.isNamed "set" then
    markedProperty g start "set" false (setter g)
  else if keyed && head.token.isMark "*" then
    markedProperty g start "init" true (generatorMethod g)
  else plainProperty g start head hasProto

/-- An object. -/
def objectLiteral (g : Grammar) : P Tree := do
  let start ← here
  expect "\x7b"
  let properties ← repeating (([] : List Tree), false) fun (properties, hasProto) => do
    if ← atMark "\x7d" then pure (.inr properties)
    else do
      let (property, setsProto) ←
        if ← atMark "..." then do pure (← spread g, false) else objectProperty g hasProto
      if !(← atMark "\x7d") then expectComma
      pure (.inl (property :: properties, hasProto || setsProto))
  expect "\x7d"
  finish start (node "ObjectExpression" [("properties", .list properties.reverse)])

/-! ## Templates -/

/-- A stretch of a template. -/
def templateElement : P (Tree × Bool) := do
  let start ← here
  match (← ahead).lexeme with
  | .template part => do
    let _ ← nextToken
    let value := Tree.map (attributes
      [("raw", .text (Text.ofChars part.raw)), ("cooked", .text part.cooked)])
    let n ← finish start (node "TemplateElement" [("value", value), ("tail", .bool part.tail)])
    pure (n, part.tail)
  | _ => failHere .illegal

/-- A template. Where an expression should start, a stretch that continues a template stops the
reading. -/
def templateLiteral (g : Grammar) : P Tree := do
  if !(← ahead).isTemplateHead then stop .emptySubstitution
  let start ← here
  let (first, isWhole) ← templateElement
  let (quasis, expressions) ← repeating ([first], ([] : List Tree), isWhole)
    fun (quasis, expressions, isDone) => do
      if isDone then pure (.inr (quasis, expressions))
      else do
        let e ← expression g
        let (quasi, isDone) ← templateElement
        pure (.inl (quasi :: quasis, e :: expressions, isDone))
  finish start (node "TemplateLiteral"
    [("quasis", .list quasis.reverse), ("expressions", .list expressions.reverse)])

/-! ## Parentheses -/

/-- Reads an arrow, which must come next, without passing it. -/
def requireArrow : P Unit := do
  if !(← atMark "=>") then expect "=>"

/-- What stands in parentheses so far: the expressions, last first, and what they turned out to be
if they are the parameters of an arrow function. -/
abbrev GroupFound := List Tree ⊕ Tree

/-- The expressions behind the first in parentheses. -/
def groupStep (g : Grammar) (found : List Tree) : P (List Tree ⊕ GroupFound) := do
  if (← ahead).isEnd || !(← atMark ",") then pure (.inr (.inl found))
  else do
    let _ ← nextToken
    if ← acceptMark ")" then
      pure (.inr (.inr (arrowParameters (found.reverse.map toPattern) false)))
    else if ← atMark "..." then do
      if !(← context).isBindingElement then failAt (← ahead)
      let (rest, _) ← restParameter g
      expect ")"
      requireArrow
      modifyContext fun c => { c with isBindingElement := false }
      pure (.inr (.inr (arrowParameters ((rest :: found).reverse.map toPattern) false)))
    else do
      let e ← inherited g.assignment
      pure (.inl (e :: found))

/-- The closing parenthesis behind an expression; if an arrow follows, the expression is read again
as parameters. -/
def closeGroup (e : Tree) : P Tree := do
  expect ")"
  let result ←
    if ← atMark "=>" then
      if isIdentifierIn e ["yield"] then pure (arrowParameters [e] false)
      else if !(← context).isBindingElement then failAt (← ahead)
      else if isKind e "SequenceExpression" then
        pure (arrowParameters ((e.get "expressions").items.map toPattern) false)
      else pure (arrowParameters [toPattern e] false)
    else pure e
  modifyContext fun c => { c with isBindingElement := false }
  pure result

/-- An expression in parentheses, or the parameters of an arrow function. -/
def group (g : Grammar) : P Tree := do
  expect "("
  if ← acceptMark ")" then do
    requireArrow
    pure (arrowParameters [] false)
  else do
    let token ← ahead
    if token.isMark "..." then do
      let (rest, _) ← restParameter g
      expect ")"
      requireArrow
      pure (arrowParameters [rest] false)
    else do
      modifyContext fun c => { c with isBindingElement := true }
      let first ← inherited g.assignment
      if ← atMark "," then do
        modifyContext fun c => { c with isAssignmentTarget := false }
        match ← repeating [first] (groupStep g) with
        | .inr params => pure params
        | .inl found => do
          let e ← finishFrom token (node "SequenceExpression" [("expressions", .list found.reverse)])
          closeGroup e
      else closeGroup first

/-! ## Primary expressions -/

/-- A literal token as a node. -/
def literalToken (start : Place) (value : Tree) : P Tree := do
  notTarget
  let t ← nextToken
  finish start (literal value t.raw)

/-- A regular expression, where a slash comes next. Of the flags `m` and `i`, its value keeps one:
the first if both are set. -/
def regexLiteral (start : Place) : P Tree := do
  notTarget
  let s ← get
  let cursor := { s.cursor with rest := s.ahead.ahead, index := s.ahead.start }
  let (token, after) ← liftM cursor.regex
  set { s with cursor := after, ahead := token }
  let _ ← nextToken
  match token.lexeme with
  | .pattern body flags compiled => do
    let has (c : Char) : Bool := flags.contains (CodePoint.ofChar c)
    let value := match compiled with
      | some pattern => Tree.regex pattern (has 'm') (has 'i' && !has 'm')
      | none => Tree.null
    let regex := Tree.map (attributes
      [("pattern", .text (Text.ofChars body)), ("flags", .text flags)])
    finish start (node "Literal"
      [("value", value), ("raw", .text (Text.ofChars token.raw)), ("regex", regex)])
  | _ => failAt token

/-- Whether the call of an import comes next. -/
def atImportCall : P Bool := do
  if ← atKeyword "import" then do
    let behind ← peekBehind
    pure (behind.isMark "(")
  else pure false

/-- An expression that starts with a keyword. -/
def keywordExpression (g : Grammar) (start : Place) : P Tree := do
  let c ← context
  let token ← ahead
  if !c.strict && c.allowYield && token.isKeyword "yield" then identifierName
  else if !c.strict && token.isKeyword "let" then do
    let t ← nextToken
    finish start (identifier t.wordText)
  else do
    notTarget
    if token.isKeyword "function" then functionExpression g
    else if ← acceptKeyword "this" then finish start (node "ThisExpression" [])
    else if token.isKeyword "class" then classExpression g
    else if ← atImportCall then do
      let _ ← nextToken
      finish start (node "Import" [])
    else failAt (← nextToken)

/-- An expression that needs no operator. -/
def primary (g : Grammar) : P Tree := do
  let start ← here
  let token ← ahead
  match token.lexeme with
  | .name _ => do
    let c ← context
    tolerateIf ((c.isModule || c.await) && token.isNamed "await")
    if ← atAsyncFunction then functionExpression g
    else do
      let t ← nextToken
      finish start (identifier t.wordText)
  | .number value octal => do
    tolerateIf ((← context).strict && octal)
    literalToken start (Tree.ofLiteral value)
  | .string value octal => do
    tolerateIf ((← context).strict && octal)
    literalToken start (.text value)
  | .boolean value => literalToken start (.bool value)
  | .null => literalToken start .null
  | .template _ => templateLiteral g
  | .mark "(" => do
    modifyContext fun c => { c with isBindingElement := false }
    inherited (group g)
  | .mark "[" => inherited (arrayLiteral g)
  | .mark "\x7b" => inherited (objectLiteral g)
  | .mark "/" => regexLiteral start
  | .mark "/=" => regexLiteral start
  | .keyword _ => keywordExpression g start
  | _ => failAt (← nextToken)

end EndpointCatalog.Estree
