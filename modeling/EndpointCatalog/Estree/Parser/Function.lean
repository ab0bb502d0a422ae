/-
EndpointCatalog.Estree.Parser.Function — functions, their parameters and bodies.

Whether a function is strict is known only when its body starts. So names
that strict code may not bind are remembered while parameters are read, and
become faults if the body turns out to be strict.
-/
import EndpointCatalog.Estree.Parser.Binding

namespace EndpointCatalog.Estree

/-! ## Parameters -/

/-- Where a name stands that strict code may not bind: the line of its token, if it is known. -/
abbrev Restriction := Option Nat

/-- Parameters and what is wrong with them in strict code. -/
structure Parameters where
  /-- Whether all parameters are plain names. -/
  simple : Bool := true
  params : List Tree := []
  names : List Text := []
  /-- Wrong because the code around is strict, or because a name is repeated. -/
  stricted : Option Restriction := none
  /-- The first one that is wrong only if the function is strict. -/
  restricted : Option Restriction := none
  fault : Option SyntaxFault := none

/-- Takes a name into account. -/
def Parameters.addName (strict : Bool) (place : Restriction) (name : Text) (p : Parameters) :
    Parameters :=
  let isRepeated := p.names.contains name
  let checked :=
    if strict then
      let p := if isOneOf restrictedNames name then
        { p with stricted := some place, fault := some .restrictedParameter } else p
      if isRepeated then { p with stricted := some place, fault := some .repeatedParameter } else p
    else if p.restricted.isNone then
      if isOneOf restrictedNames name then
        { p with restricted := some place, fault := some .restrictedParameter }
      else if isOneOf strictReserved name then
        { p with restricted := some place, fault := some .strictReserved }
      else if isRepeated then
        { p with stricted := some place, fault := some .repeatedParameter }
      else p
    else p
  { checked with names := name :: checked.names }

/-- Stops at a restricted name. -/
def failAtRestriction {α : Type} (place : Restriction) (fault : SyntaxFault) : P α :=
  match place with
  | some line => stop (.malformed line fault)
  | none => failHere fault

/-- The rest parameter. -/
def restParameter (g : Grammar) : P (Tree × List Token) := do
  let start ← here
  expect "..."
  let (target, names) ← g.pattern .parameter
  if ← atMark "=" then failHere .unexpectedDefault
  if !(← atMark ")") then failHere .parameterAfterRest
  pure (← finish start (node "RestElement" [("argument", target)]), names)

/-- Reads one parameter. -/
def formalParameter (g : Grammar) (p : Parameters) : P Parameters := do
  let (param, tokens) ←
    if ← atMark "..." then restParameter g else patternWithDefault g .parameter
  let strict := (← context).strict
  let named := tokens.foldl (fun p t => p.addName strict (some t.line) (shownToken t)) p
  pure { named with
    simple := named.simple && isKind param "Identifier"
    params := named.params ++ [param] }

/-- Reads parameters in parentheses. -/
def formalParameters (g : Grammar) (restricted : Option Restriction) : P Parameters := do
  expect "("
  let found ← repeating ({ restricted := restricted } : Parameters) fun p => do
    if (← atMark ")") || (← ahead).isEnd then pure (.inr p)
    else do
      let next ← formalParameter g p
      if !(← atMark ")") then expect ","
      pure (.inl next)
  expect ")"
  pure found

/-! ## Bodies -/

/-- A statement that is a string and nothing else; its text is a directive unless it is empty. -/
def directive (g : Grammar) : P (Tree × Option (List Char)) := do
  let token ← ahead
  let start ← here
  let e ← expression g
  let text := (token.raw.drop 1).dropLast
  let isDirective := isKind e "Literal" && !text.isEmpty
  endStatement
  if isDirective then do
    let n ← finish start (node "ExpressionStatement"
      [("expression", e), ("directive", .text (Text.ofChars text))])
    pure (n, some text)
  else pure (← finish start (node "ExpressionStatement" [("expression", e)]), none)

/-- Directives found so far, and whether a string with an octal escape stands among them. -/
structure Prologue where
  statements : List Tree := []
  hasOctal : Bool := false

/-- One step through the directives that a body starts with. -/
def prologueStep (g : Grammar) (p : Prologue) : P (Prologue ⊕ Prologue) := do
  let token ← ahead
  if !token.isString then pure (.inr p)
  else do
    let (statement, text) ← directive g
    let found := { p with statements := statement :: p.statements }
    match text with
    | none => pure (.inr found)
    | some text =>
      if String.ofList text = "use strict" then do
        modifyContext fun c => { c with strict := true }
        tolerateIf p.hasOctal
        tolerateIf !(← context).allowStrictDirective
        pure (.inl found)
      else pure (.inl { found with hasOctal := found.hasOctal || token.hasOctal })

/-- The directives that a body starts with. -/
def prologue (g : Grammar) : P (List Tree) := do
  let found ← repeating ({} : Prologue) (prologueStep g)
  pure found.statements.reverse

/-- The body of a function. -/
def functionBody (g : Grammar) : P Tree := do
  let start ← here
  expect "\x7b"
  let directives ← prologue g
  let outer ← context
  modifyContext fun c =>
    { c with labels := [], inIteration := false, inSwitch := false, inFunctionBody := true }
  let items ← readUntil (do pure ((← ahead).isEnd || (← atMark "\x7d"))) g.listItem
  expect "\x7d"
  modifyContext fun c =>
    { c with
      labels := outer.labels
      inIteration := outer.inIteration
      inSwitch := outer.inSwitch
      inFunctionBody := outer.inFunctionBody }
  finish start (node "BlockStatement" [("body", .list (directives ++ items))])

/-! ## Methods -/

/-- The body of a method with known parameters. -/
def methodBody (g : Grammar) (p : Parameters) : P Tree := do
  notTarget
  let outer ← context
  modifyContext fun c => { c with allowStrictDirective := p.simple }
  let body ← isolated (functionBody g)
  let strict := (← context).strict
  tolerateIf (strict && p.restricted.isSome)
  tolerateIf (strict && p.stricted.isSome)
  modifyContext fun c =>
    { c with strict := outer.strict, allowStrictDirective := outer.allowStrictDirective }
  pure body

/-- A method; what is wrong with its parameters is a tolerated fault. -/
def methodWith (g : Grammar) (isGenerator : Bool) (accepts : List Tree → Bool) : P Tree := do
  let start ← here
  let outer ← context
  modifyContext fun c => { c with allowYield := true }
  let p ← formalParameters g none
  tolerateIf !(accepts p.params)
  if isGenerator then modifyContext fun c => { c with allowYield := false }
  let body ← methodBody g p
  modifyContext fun c => { c with allowYield := outer.allowYield }
  finish start (function "FunctionExpression" .null p.params body isGenerator)

/-- A method that is neither a generator nor asynchronous. -/
def plainMethod (g : Grammar) : P Tree := methodWith g false fun _ => true

/-- A generator method. -/
def generatorMethod (g : Grammar) : P Tree := methodWith g true fun _ => true

/-- A method that gets a property. -/
def getter (g : Grammar) : P Tree := methodWith g false List.isEmpty

/-- A method that sets a property. -/
def setter (g : Grammar) : P Tree :=
  methodWith g false fun params =>
    match params with
    | [param] => !isKind param "RestElement"
    | _ => false

/-- An asynchronous method. -/
def asyncMethod (g : Grammar) : P Tree := do
  let start ← here
  let outer ← context
  modifyContext fun c => { c with allowYield := false, await := true }
  let p ← formalParameters g none
  let body ← methodBody g p
  modifyContext fun c => { c with allowYield := outer.allowYield, await := outer.await }
  finish start (asyncFunction "FunctionExpression" .null p.params body)

/-! ## Functions -/

/-- Whether the keyword of a function follows `async` on the same line. -/
def atAsyncFunction : P Bool := do
  if ← atNamed "async" then do
    let line := (← get).cursor.line
    let behind ← peekBehind
    pure (behind.line == line && behind.isKeyword "function")
  else pure false

/-- What is wrong with the name of a function, if the function turns out to be strict. -/
def nameFault? (name : Text) : Option SyntaxFault :=
  if isOneOf restrictedNames name then some .restrictedFunctionName
  else if isOneOf strictReserved name then some .strictReserved
  else none

/-- The restriction on the name of a function, and what is wrong with it; in strict code it is a
tolerated fault. -/
def checkFunctionName (token : Token) : P (Option Restriction × Option SyntaxFault) := do
  let name := shownToken token
  if (← context).strict then do
    tolerateIf (isOneOf restrictedNames name)
    pure (none, none)
  else
    match nameFault? name with
    | some fault => pure (some (some token.line), some fault)
    | none => pure (none, none)

/-- Parameters and body of a function whose keyword and name have been read. -/
def functionRest (g : Grammar) (restricted : Option Restriction) (nameFault : Option SyntaxFault) :
    P (List Tree × Tree) := do
  let p ← formalParameters g restricted
  let outer ← context
  modifyContext fun c => { c with allowStrictDirective := p.simple }
  let body ← functionBody g
  let strict := (← context).strict
  match p.restricted with
  | some place =>
    if strict then failAtRestriction place ((p.fault.or nameFault).getD .illegal)
  | none => pure ()
  tolerateIf (strict && p.stricted.isSome)
  modifyContext fun c =>
    { c with strict := outer.strict, allowStrictDirective := outer.allowStrictDirective }
  pure (p.params, body)

/-- The words that a function starts with: whether it is asynchronous, whether a generator. -/
def functionHead : P (Bool × Bool) := do
  let isAsync ← atNamed "async"
  if isAsync then
    let _ ← nextToken
  expectKeyword "function"
  let isGenerator ← if isAsync then pure false else acceptMark "*"
  pure (isAsync, isGenerator)

/-- The declaration of a function; its name may be optional. -/
def functionDeclaration (g : Grammar) (nameIsOptional : Bool) : P Tree := do
  let start ← here
  let (isAsync, isGenerator) ← functionHead
  let (id, restricted, fault) ←
    if !nameIsOptional || !(← atMark "(") then do
      let token ← ahead
      let id ← variableName .parameter
      let (restricted, fault) ← checkFunctionName token
      pure (id, restricted, fault)
    else pure (Tree.null, none, none)
  let outer ← context
  modifyContext fun c => { c with await := isAsync, allowYield := !isGenerator }
  let (params, body) ← functionRest g restricted fault
  modifyContext fun c => { c with await := outer.await, allowYield := outer.allowYield }
  if isAsync then finish start (asyncFunction "FunctionDeclaration" id params body)
  else finish start (function "FunctionDeclaration" id params body isGenerator)

/-- A function as an expression. -/
def functionExpression (g : Grammar) : P Tree := do
  let start ← here
  let (isAsync, isGenerator) ← functionHead
  let outer ← context
  modifyContext fun c => { c with await := isAsync, allowYield := !isGenerator }
  let (id, restricted, fault) ←
    if !(← atMark "(") then do
      let token ← ahead
      let id ←
        if !(← context).strict && !isGenerator && token.isKeyword "yield" then identifierName
        else variableName .parameter
      let (restricted, fault) ← checkFunctionName token
      pure (id, restricted, fault)
    else pure (Tree.null, none, none)
  let (params, body) ← functionRest g restricted fault
  modifyContext fun c => { c with await := outer.await, allowYield := outer.allowYield }
  if isAsync then finish start (asyncFunction "FunctionExpression" id params body)
  else finish start (function "FunctionExpression" id params body isGenerator)

end EndpointCatalog.Estree
