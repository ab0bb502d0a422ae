/-
EndpointCatalog.Estree.Parser.Class — classes and their elements.

All code of a class is strict.
-/
import EndpointCatalog.Estree.Parser.Function

namespace EndpointCatalog.Estree

/-- How the element of a class starts. -/
structure ElementHead where
  /-- The token that decides about the kind of the element. -/
  token : Token
  key : Tree
  computed : Bool
  isStatic : Bool := false
  isAsync : Bool := false

/-- Reads the word `static` before an element's key, if the key read so far is that word. -/
def staticHead (g : Grammar) (head : ElementHead) : P ElementHead := do
  let next ← ahead
  if nameOf head.key = "static" ∧ (startsPropertyKey next ∨ next.isMark "*") then do
    let computed := next.isMark "["
    if next.isMark "*" then do
      let _ ← nextToken
      pure { head with token := next, isStatic := true, computed := computed }
    else do
      let key ← propertyKey g
      pure { head with token := next, isStatic := true, computed := computed, key := key }
  else pure head

/-- Reads the word `async` before an element's key, if the key read so far is that word. -/
def asyncHead (g : Grammar) (head : ElementHead) : P ElementHead := do
  let s ← get
  if head.token.isNamed "async" && !s.newline && !s.ahead.isMarkIn [":", "(", "*"] then do
    let key ← propertyKey g
    tolerateIf (s.ahead.isNamed "constructor")
    pure { head with token := s.ahead, key := key, isAsync := true }
  else pure head

/-- Reads how an element starts, up to its key. -/
def elementHead (g : Grammar) : P ElementHead := do
  let token ← ahead
  if ← acceptMark "*" then pure ⟨token, .null, false, false, false⟩
  else do
    let computed := token.isMark "["
    let key ← propertyKey g
    asyncHead g (← staticHead g ⟨token, key, computed, false, false⟩)

/-- What an element is: its kind, its key and function, and whether its key is computed. -/
structure Element where
  kind : String
  key : Tree
  value : Tree
  computed : Bool
  isMethod : Bool

/-- Reads the key and function of an element that is told by the word or mark before its key. -/
def markedElement (g : Grammar) (kind : String) (isMethod : Bool) (value : P Tree) : P Element := do
  let computed ← atMark "["
  let key ← propertyKey g
  let value ← value
  pure ⟨kind, key, value, computed, isMethod⟩

/-- Forbids `yield` as a name, then reads a method that gets a property. -/
def guardedGetter (g : Grammar) : P Tree := do
  modifyContext fun c => { c with allowYield := false }
  getter g

/-- Reads what follows the start of an element. -/
def elementRest (g : Grammar) (head : ElementHead) : P Element := do
  let next ← ahead
  let keyed := startsPropertyKey next
  if keyed && head.token.isNamed "get" then markedElement g "get" false (guardedGetter g)
  else if keyed && head.token.isNamed "set" then markedElement g "set" false (setter g)
  else if keyed && head.token.isMark "*" then markedElement g "method" true (generatorMethod g)
  else if !head.key.isNull && next.isMark "(" then do
    let value ← if head.isAsync then asyncMethod g else plainMethod g
    pure ⟨"method", head.key, value, head.computed, true⟩
  else failAt next

/-- The kind of an element with a name that means something to its class. -/
def elementKind (head : ElementHead) (e : Element) (hasConstructor : Bool) : P String := do
  if e.computed then pure e.kind
  else if head.isStatic && isKeyNamed e.key "prototype" then
    stop (.malformed head.token.line .staticPrototype)
  else if !head.isStatic && isKeyNamed e.key "constructor" then
    if e.kind ≠ "method" || !e.isMethod || (e.value.get "generator").truthy then
      stop (.malformed head.token.line .specialConstructor)
    else if hasConstructor then stop (.malformed head.token.line .repeatedConstructor)
    else pure "constructor"
  else pure e.kind

/-- An element of a class, and whether it is a constructor. -/
def classElement (g : Grammar) (hasConstructor : Bool) : P (Tree × Bool) := do
  let start ← here
  let head ← elementHead g
  let e ← elementRest g head
  let kind ← elementKind head e hasConstructor
  let n ← finish start (node "MethodDefinition"
    [("key", e.key), ("computed", .bool e.computed), ("value", e.value), ("kind", .ofString kind),
     ("static", .bool head.isStatic)])
  pure (n, kind == "constructor")

/-- The elements of a class in braces. -/
def classBody (g : Grammar) : P Tree := do
  let start ← here
  expect "\x7b"
  let found ← repeating (([] : List Tree), false) fun (elements, hasConstructor) => do
    if ← atMark "\x7d" then pure (.inr elements)
    else if ← acceptMark ";" then pure (.inl (elements, hasConstructor))
    else do
      let (element, isConstructor) ← classElement g hasConstructor
      pure (.inl (element :: elements, hasConstructor || isConstructor))
  expect "\x7d"
  finish start (node "ClassBody" [("body", .list found.reverse)])

/-- A class whose name is read by `name`. -/
def classOf (g : Grammar) (kind : String) (name : P Tree) : P Tree := do
  let start ← here
  let outer ← context
  modifyContext fun c => { c with strict := true }
  expectKeyword "class"
  let id ← name
  let parent ← if ← acceptKeyword "extends" then isolated g.call else pure .null
  let body ← classBody g
  modifyContext fun c => { c with strict := outer.strict }
  finish start (node kind [("id", id), ("superClass", parent), ("body", body)])

/-- The declaration of a class; its name may be optional. -/
def classDeclaration (g : Grammar) (nameIsOptional : Bool) : P Tree :=
  classOf g "ClassDeclaration" do
    if nameIsOptional && !(← ahead).isName then pure .null else variableName .parameter

/-- A class as an expression. -/
def classExpression (g : Grammar) : P Tree :=
  classOf g "ClassExpression" do
    if (← ahead).isName then variableName .parameter else pure .null

end EndpointCatalog.Estree
