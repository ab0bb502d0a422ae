/-
EndpointCatalog.Estree.Parser.Binding — names, property keys and patterns.

A pattern is read together with the tokens of the names that it binds, in
the order in which they stand.
-/
import EndpointCatalog.Estree.Parser.State

namespace EndpointCatalog.Estree

/-! ## Expressions with commas -/

/-- Items behind commas, after a first one. -/
def itemsAfterCommas (first : Tree) (item : P Tree) : P (List Tree) := do
  let found ← repeating [first] fun found => do
    if ← acceptMark "," then do
      let x ← item
      pure (.inl (x :: found))
    else pure (.inr found)
  pure found.reverse

/-- An expression, or several with commas between them. -/
def expression (g : Grammar) : P Tree := do
  let token ← ahead
  let first ← isolated g.assignment
  if ← atMark "," then do
    let all ← itemsAfterCommas first (isolated g.assignment)
    finishFrom token (node "SequenceExpression" [("expressions", .list all)])
  else pure first

/-! ## Names and keys -/

/-- A name that may be any word. -/
def identifierName : P Tree := do
  let start ← here
  let t ← nextToken
  match t.word? with
  | some name => finish start (identifier name)
  | none => failAt t

/-- The name of a variable. -/
def variableName (declaring : Declaring) : P Tree := do
  let start ← here
  let t ← nextToken
  let c ← context
  if t.isKeyword "yield" then do
    if c.strict then tolerate
    else if !c.allowYield then failAt t
  else if !t.isName then do
    if c.strict && t.isKeywordIn strictReserved then tolerate
    else if c.strict || shownToken t ≠ "let" || declaring ≠ .variable then failAt t
  else if (c.isModule || c.await) && t.isNamed "await" then tolerate
  finish start (identifier (shownToken t))

/-- The key of a property; a key in brackets is an expression. -/
def propertyKey (g : Grammar) : P Tree := do
  let start ← here
  let t ← nextToken
  match t.lexeme with
  | .string value octal => do
    tolerateIf ((← context).strict && octal)
    finish start (literal (.text value) t.raw)
  | .number value octal => do
    tolerateIf ((← context).strict && octal)
    finish start (literal (Tree.ofLiteral value) t.raw)
  | .mark "[" => do
    let key ← isolated g.assignment
    expect "]"
    pure key
  | _ =>
    match t.word? with
    | some name => finish start (identifier name)
    | none => failAt t

/-- Whether a token can be a property key. -/
def startsPropertyKey (t : Token) : Bool :=
  match t.lexeme with
  | .string _ _ => true
  | .number _ _ => true
  | .mark m => m == "["
  | _ => t.word?.isSome

/-- Whether a key is a certain name. -/
def isKeyNamed (key : Tree) (name : String) : Bool :=
  (isKind key "Identifier" && nameOf key == Text.ofString name) ||
    (isKind key "Literal" && key.hasText "value" name)

/-! ## Patterns -/

/-- Trees found so far and the tokens of the names bound, both last first. -/
abbrev Bound := List Tree × List Token

/-- A pattern that may have a default value. -/
def patternWithDefault (g : Grammar) (declaring : Declaring) : P (Tree × List Token) := do
  let token ← ahead
  let (target, names) ← g.pattern declaring
  if ← acceptMark "=" then do
    let outer ← context
    modifyContext fun c => { c with allowYield := true }
    let right ← isolated g.assignment
    modifyContext fun c => { c with allowYield := outer.allowYield }
    let whole ← finishFrom token (node "AssignmentPattern" [("left", target), ("right", right)])
    pure (whole, names)
  else pure (target, names)

/-- The rest of an array. -/
def bindingRest (g : Grammar) (declaring : Declaring) : P (Tree × List Token) := do
  let start ← here
  expect "..."
  let (target, names) ← g.pattern declaring
  pure (← finish start (node "RestElement" [("argument", target)]), names)

/-- One step through an array pattern. -/
def arrayPatternStep (g : Grammar) (declaring : Declaring) (found : Bound) : P (Bound ⊕ Bound) := do
  let (elements, names) := found
  if ← atMark "]" then pure (.inr found)
  else if ← acceptMark "," then pure (.inl (.null :: elements, names))
  else if ← atMark "..." then do
    let (element, more) ← bindingRest g declaring
    pure (.inr (element :: elements, more.reverse ++ names))
  else do
    let (element, more) ← patternWithDefault g declaring
    if !(← atMark "]") then expect ","
    pure (.inl (element :: elements, more.reverse ++ names))

/-- An array pattern. -/
def arrayPattern (g : Grammar) (declaring : Declaring) : P (Tree × List Token) := do
  let start ← here
  expect "["
  let (elements, names) ← repeating ([], []) (arrayPatternStep g declaring)
  expect "]"
  let whole ← finish start (node "ArrayPattern" [("elements", .list elements.reverse)])
  pure (whole, names.reverse)

/-- A property of an object pattern whose key is a plain name. -/
def namedPropertyPattern (g : Grammar) (declaring : Declaring) (start : Place) :
    P (Tree × List Token) := do
  let token ← ahead
  let key ← variableName .parameter
  let bound ← finish start (identifier token.wordText)
  if ← acceptMark "=" then do
    let right ← g.assignment
    let value ← finishFrom token (node "AssignmentPattern" [("left", bound), ("right", right)])
    pure (← finish start (property "init" key false value false true), [token])
  else if ← atMark ":" then do
    expect ":"
    let (value, names) ← patternWithDefault g declaring
    pure (← finish start (property "init" key false value false false), names)
  else pure (← finish start (property "init" key false bound false true), [token])

/-- A property of an object pattern. -/
def propertyPattern (g : Grammar) (declaring : Declaring) : P (Tree × List Token) := do
  let start ← here
  if (← ahead).isName then namedPropertyPattern g declaring start
  else do
    let computed ← atMark "["
    let key ← propertyKey g
    expect ":"
    let (value, names) ← patternWithDefault g declaring
    pure (← finish start (property "init" key computed value false false), names)

/-- The rest of an object. -/
def restProperty (g : Grammar) : P (Tree × List Token) := do
  let start ← here
  expect "..."
  let (target, names) ← g.pattern .parameter
  if ← atMark "=" then failHere .unexpectedDefault
  if !(← atMark "\x7d") then failHere .unexpectedClause
  pure (← finish start (node "RestElement" [("argument", target)]), names)

/-- One step through an object pattern. -/
def objectPatternStep (g : Grammar) (declaring : Declaring) (found : Bound) :
    P (Bound ⊕ Bound) := do
  let (properties, names) := found
  if ← atMark "\x7d" then pure (.inr found)
  else do
    let (property, more) ←
      if ← atMark "..." then restProperty g else propertyPattern g declaring
    if !(← atMark "\x7d") then expect ","
    pure (.inl (property :: properties, more.reverse ++ names))

/-- An object pattern. -/
def objectPattern (g : Grammar) (declaring : Declaring) : P (Tree × List Token) := do
  let start ← here
  expect "\x7b"
  let (properties, names) ← repeating ([], []) (objectPatternStep g declaring)
  expect "\x7d"
  let whole ← finish start (node "ObjectPattern" [("properties", .list properties.reverse)])
  pure (whole, names.reverse)

/-- A binding pattern: a name, an array pattern or an object pattern. -/
def pattern (g : Grammar) (declaring : Declaring) : P (Tree × List Token) := do
  if ← atMark "[" then arrayPattern g declaring
  else if ← atMark "\x7b" then objectPattern g declaring
  else do
    let token ← ahead
    tolerateIf (token.isKeyword "let" && (declaring = .constant || declaring = .letVariable))
    pure (← variableName declaring, [token])

end EndpointCatalog.Estree
