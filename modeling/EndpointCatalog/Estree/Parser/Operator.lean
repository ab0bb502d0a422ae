/-
EndpointCatalog.Estree.Parser.Operator — calls, operators and assignments.

Binary operators are read by precedence with a stack of operands; chains of
members and calls, and of operators of one precedence, cost no depth.
-/
import EndpointCatalog.Estree.Parser.Primary

namespace EndpointCatalog.Estree

/-! ## Calls and members -/

/-- One step through the arguments of a call. -/
def argumentStep (argument : P Tree) (g : Grammar) (found : List Tree) :
    P (List Tree ⊕ List Tree) := do
  if ← atMark ")" then pure (.inr found)
  else do
    let e ← if ← atMark "..." then spread g else isolated argument
    if !(← atMark ")") then expectComma
    pure (.inl (e :: found))

/-- Arguments in parentheses. -/
def argumentsOf (argument : P Tree) (g : Grammar) : P (List Tree) := do
  expect "("
  let found ← repeating [] (argumentStep argument g)
  expect ")"
  pure found.reverse

/-- Arguments of a call. -/
def plainArguments (g : Grammar) : P (List Tree) := argumentsOf g.assignment g

/-- Arguments that may turn out to be the parameters of an asynchronous arrow function. -/
def coverArguments (g : Grammar) : P (List Tree) :=
  argumentsOf (do
    let e ← g.assignment
    modifyContext fun c => { c with coverInitializer := none }
    pure e) g

/-- What follows the keyword `new`. -/
def newExpression (g : Grammar) : P Tree := do
  let start ← here
  let keyword ← identifierName
  if ← acceptMark "." then do
    let token ← ahead
    if token.isNamed "target" && (← context).inFunctionBody then do
      let property ← identifierName
      finish start (node "MetaProperty" [("meta", keyword), ("property", property)])
    else failAt token
  else if ← atKeyword "import" then failAt (← ahead)
  else do
    let callee ← isolated g.member
    let arguments ← if ← atMark "(" then plainArguments g else pure []
    notTarget
    finish start (node "NewExpression" [("callee", callee), ("arguments", .list arguments)])

/-- What a chain of members and calls starts with. -/
def chainStart (g : Grammar) : P Tree := do
  if ← atKeyword "new" then inherited (newExpression g) else inherited (primary g)

/-- A member after a point. -/
def pointMember (object : Tree) : P Tree := do
  modifyContext fun c => { c with isBindingElement := false, isAssignmentTarget := true }
  expect "."
  let property ← identifierName
  pure (node "MemberExpression"
    [("computed", .bool false), ("object", object), ("property", property)])

/-- A member in brackets. -/
def bracketMember (g : Grammar) (object : Tree) : P Tree := do
  modifyContext fun c => { c with isBindingElement := false, isAssignmentTarget := true }
  expect "["
  let property ← isolated (expression g)
  expect "]"
  pure (node "MemberExpression"
    [("computed", .bool true), ("object", object), ("property", property)])

/-- A template behind the function that reads it. -/
def taggedTemplate (g : Grammar) (tag : Tree) : P Tree := do
  let quasi ← templateLiteral g
  pure (node "TaggedTemplateExpression" [("tag", tag), ("quasi", quasi)])

/-- The keyword `super` and nothing that could not follow it. -/
def superKeyword (followers : List String) : P Tree := do
  let start ← here
  let _ ← nextToken
  let e ← finish start (node "Super" [])
  if ← atMarkIn followers then pure e else failAt (← ahead)

/-- Whether the keyword `super` comes next where it may stand. -/
def atSuper : P Bool := do pure ((← atKeyword "super") && (← context).inFunctionBody)

/-- A call, or the parameters of an asynchronous arrow function. -/
def callOf (g : Grammar) (token : Token) (maybeAsync : Bool) (callee : Tree) : P Tree := do
  let isAsync := maybeAsync && token.line == (← ahead).line
  notTarget
  let arguments ← if isAsync then coverArguments g else plainArguments g
  tolerateIf (isKind callee "Import" && arguments.length ≠ 1)
  let e ← finishFrom token
    (node "CallExpression" [("callee", callee), ("arguments", .list arguments)])
  if isAsync && (← atMark "=>") then pure (arrowParameters (arguments.map toPattern) true)
  else pure e

/-- A chain of members and calls. -/
def callChain (g : Grammar) : P Tree := do
  let token ← ahead
  let maybeAsync := token.isNamed "async"
  let outer ← context
  modifyContext fun c => { c with allowIn := true }
  let first ← if ← atSuper then superKeyword ["(", ".", "["] else chainStart g
  let whole ← repeating first fun e => do
    let next ← ahead
    if next.isMark "." then do pure (.inl (← finishFrom token (← pointMember e)))
    else if next.isMark "(" then do pure (.inl (← callOf g token maybeAsync e))
    else if next.isMark "[" then do pure (.inl (← finishFrom token (← bracketMember g e)))
    else if next.isTemplateHead then do pure (.inl (← finishFrom token (← taggedTemplate g e)))
    else pure (.inr e)
  modifyContext fun c => { c with allowIn := outer.allowIn }
  pure whole

/-- A chain of members without calls, which the keyword `new` calls. -/
def memberChain (g : Grammar) : P Tree := do
  let start := placeOf (← ahead) 0
  let first ← if ← atSuper then superKeyword ["[", "."] else chainStart g
  repeating first fun e => do
    let next ← ahead
    if next.isMark "[" then do pure (.inl (← finish start (← bracketMember g e)))
    else if next.isMark "." then do pure (.inl (← finish start (← pointMember e)))
    else if next.isTemplateHead then do pure (.inl (← finish start (← taggedTemplate g e)))
    else pure (.inr e)

/-! ## Unary operators -/

/-- An expression that is counted up or down. -/
def updateNode (operator : Text) (argument : Tree) (isPrefix : Bool) : Tree :=
  node "UpdateExpression"
    [("operator", .text operator), ("argument", argument), ("prefix", .bool isPrefix)]

/-- Tolerates a target that cannot be counted. -/
def checkUpdateTarget (e : Tree) : P Unit := do
  let c ← context
  tolerateIf (c.strict && isIdentifierIn e restrictedNames)
  tolerateIf !c.isAssignmentTarget

/-- A chain that may be counted up or down. -/
def update (g : Grammar) : P Tree := do
  let token ← ahead
  if token.isMarkIn ["++", "--"] then do
    let start := placeOf token 0
    let _ ← nextToken
    let e ← inherited g.unary
    checkUpdateTarget e
    notTarget
    finish start (updateNode (shownToken token) e true)
  else do
    let e ← inherited (callChain g)
    let s ← get
    if !s.newline && s.ahead.isMarkIn ["++", "--"] then do
      checkUpdateTarget e
      notTarget
      let operator ← nextToken
      finishFrom token (updateNode (shownToken operator) e false)
    else pure e

/-- An expression behind unary operators. -/
def unary (g : Grammar) : P Tree := do
  let token ← ahead
  if token.isMarkIn ["+", "-", "~", "!"] || token.isKeywordIn ["delete", "void", "typeof"] then do
    let _ ← nextToken
    let argument ← inherited g.unary
    let e ← finish (placeOf token 0) (node "UnaryExpression"
      [("prefix", .bool true), ("operator", .text (shownToken token)), ("argument", argument)])
    tolerateIf ((← context).strict && token.isKeyword "delete" && isKind argument "Identifier")
    notTarget
    pure e
  else if (← context).await && token.isNamed "await" then do
    let start ← here
    let _ ← nextToken
    let argument ← g.unary
    finish start (node "AwaitExpression" [("argument", argument)])
  else update g

/-! ## Binary operators -/

/-- A power. -/
def exponentiation (g : Grammar) : P Tree := do
  let token ← ahead
  let left ← inherited (unary g)
  if !isKind left "UnaryExpression" && (← atMark "**") then do
    let _ ← nextToken
    notTarget
    let right ← isolated g.exponentiation
    finishFrom token (binary "**" left right)
  else pure left

/-- Precedences of the marks between operands. -/
def precedences : List (String × Nat) :=
  [("||", 1), ("&&", 2), ("|", 3), ("^", 4), ("&", 5), ("==", 6), ("!=", 6), ("===", 6),
   ("!==", 6), ("<", 7), (">", 7), ("<=", 7), (">=", 7), ("<<", 8), (">>", 8), (">>>", 8),
   ("+", 9), ("-", 9), ("*", 11), ("/", 11), ("%", 11)]

/-- The precedence of a token between operands; zero if it is no operator. -/
def precedence (allowIn : Bool) (t : Token) : Nat :=
  match t.lexeme with
  | .mark m => (precedences.lookup m).getD 0
  | .keyword _ =>
    if t.isKeyword "instanceof" || (allowIn && t.isKeyword "in") then 7 else 0
  | _ => 0

/-- An operand that waits for the operator behind it: the token it starts with, the operand, the
operator and its precedence. -/
structure Waiting where
  token : Token
  left : Tree
  operator : Text
  precedence : Nat

/-- Joins the operands that wait for operators of at least some precedence. -/
def joinWaiting (least : Nat) (token : Token) (right : Tree) :
    List Waiting → P (Token × Tree × List Waiting)
  | [] => pure (token, right, [])
  | w :: rest =>
    if least ≤ w.precedence then do
      let e ← finishFrom w.token (binary w.operator w.left right)
      joinWaiting least w.token e rest
    else pure (token, right, w :: rest)

/-- Joins all operands at the end of a chain. -/
def joinAll (token : Token) (right : Tree) : List Waiting → P Tree
  | [] => pure right
  | w :: rest => do
    let e ← finish (placeOf w.token token.lineStart) (binary w.operator w.left right)
    joinAll w.token e rest

/-- One step through a chain of operators: the token and operand read last, and those that wait. -/
def binaryStep (g : Grammar) (found : Token × Tree × List Waiting) :
    P ((Token × Tree × List Waiting) ⊕ (Token × Tree × List Waiting)) := do
  let operator ← ahead
  let level := precedence (← context).allowIn operator
  if level = 0 then pure (.inr found)
  else do
    let (token, left, waiting) ← joinWaiting level found.1 found.2.1 found.2.2
    let _ ← nextToken
    notTarget
    let next ← ahead
    let right ← isolated (exponentiation g)
    pure (.inl (next, right, ⟨token, left, shownToken operator, level⟩ :: waiting))

/-- Operands with operators between them. -/
def binaryChain (g : Grammar) : P Tree := do
  let token ← ahead
  let first ← inherited (exponentiation g)
  let (last, right, waiting) ← repeating (token, first, []) (binaryStep g)
  joinAll last right waiting

/-- A condition with its two outcomes, or an expression without them. -/
def conditional (g : Grammar) : P Tree := do
  let token ← ahead
  let test ← inherited (binaryChain g)
  if ← acceptMark "?" then do
    let outer ← context
    modifyContext fun c => { c with allowIn := true }
    let consequent ← isolated g.assignment
    modifyContext fun c => { c with allowIn := outer.allowIn }
    expect ":"
    let alternate ← isolated g.assignment
    let e ← finishFrom token (node "ConditionalExpression"
      [("test", test), ("consequent", consequent), ("alternate", alternate)])
    notTarget
    pure e
  else pure test

/-! ## Arrow functions -/

mutual

/-- Takes the names of a pattern into account, in order. A pattern within one that is no name makes
the parameters not simple. -/
def addPatternNames (strict : Bool) (p : Parameters) : Tree → Parameters
  | .map entries =>
    let n := Tree.map entries
    if isKind n "Identifier" then p.addName strict none (nameOf n)
    else
      let found :=
        if isKind n "RestElement" then addNamesUnder strict "argument" false p entries
        else if isKind n "AssignmentPattern" then addNamesUnder strict "left" false p entries
        else if isKind n "ArrayPattern" then addNamesUnder strict "elements" false p entries
        else if isKind n "ObjectPattern" then addNamesUnder strict "properties" true p entries
        else p
      { found with simple := false }
  | _ => p

/-- Takes the names of the patterns under a key into account. -/
def addNamesUnder (strict : Bool) (key : String) (inProperties : Bool) (p : Parameters) :
    List (Text × Tree) → Parameters
  | [] => p
  | (k, t) :: rest =>
    if k = Text.ofString key then
      match t with
      | .list items =>
        if inProperties then addPropertyNames strict p items else addItemNames strict p items
      | other => addPatternNames strict p other
    else addNamesUnder strict key inProperties p rest

/-- Takes the names of some patterns into account. -/
def addItemNames (strict : Bool) (p : Parameters) : List Tree → Parameters
  | [] => p
  | t :: rest => addItemNames strict (addPatternNames strict p t) rest

/-- Takes the names of the values of some properties into account. -/
def addPropertyNames (strict : Bool) (p : Parameters) : List Tree → Parameters
  | [] => p
  | .map entries :: rest =>
    let found :=
      if isKind (.map entries) "RestElement" then
        { addNamesUnder strict "argument" false p entries with simple := false }
      else addNamesUnder strict "value" false p entries
    addPropertyNames strict found rest
  | _ :: rest => addPropertyNames strict p rest

end

/-- A default value `yield` is a name after all; one with an argument is not allowed. -/
def withYieldName (param : Tree) : P Tree := do
  let right := param.get "right"
  if isKind param "AssignmentPattern" && isKind right "YieldExpression" then
    if (right.get? "argument").isSome then failAt (← ahead)
    else match right, param with
      | .map entries, .map outer =>
        let kept := entries.filter fun e => !isOneOf ["argument", "delegate"] e.1
        let renamed := withKind "Identifier" kept ++ attributes [("name", .ofString "yield")]
        pure (.map (Entries.insert "right" (.map renamed) outer))
      | _, _ => pure param
  else pure param

/-- Checks a parameter of an arrow function and takes its names into account. -/
def checkArrowParameter (isAsync : Bool) (p : Parameters) (param : Tree) : P Parameters := do
  let checked ← withYieldName param
  if isAsync && isIdentifierIn checked ["await"] then failAt (← ahead)
  let named := addPatternNames (← context).strict p checked
  pure { named with params := named.params ++ [checked] }

/-- The parameters of an arrow function, if an expression can be read as parameters. -/
def arrowParametersOf (e : Tree) : P (Option Parameters) := do
  let isAsync := (e.get "async").truthy
  let params? :=
    if isKind e "Identifier" then some [e]
    else if isKind e "ArrowParameterPlaceHolder" then some (e.get "params").items
    else none
  match params? with
  | none => pure none
  | some params => do
    let p ← params.foldlM (checkArrowParameter isAsync) {}
    let c ← context
    if c.strict || !c.allowYield then
      if p.params.any (isKind · "YieldExpression") then failAt (← ahead)
    if p.fault = some .repeatedParameter then
      failAtRestriction ((if c.strict then p.stricted else p.restricted).getD none)
        .repeatedParameter
    pure (some p)

/-- The body of an arrow function: a block, or an expression. -/
def arrowBody (g : Grammar) : P Tree := do
  if ← atMark "\x7b" then do
    let outer ← context
    modifyContext fun c => { c with allowIn := true }
    let body ← functionBody g
    modifyContext fun c => { c with allowIn := outer.allowIn }
    pure body
  else isolated g.assignment

/-- An arrow function whose parameters have been read. -/
def arrowRest (g : Grammar) (token : Token) (isAsync : Bool) (p : Parameters) : P Tree := do
  tolerateIf (← get).newline
  modifyContext fun c => { c with coverInitializer := none }
  let outer ← context
  modifyContext fun c =>
    { c with allowStrictDirective := p.simple, allowYield := true, await := isAsync }
  expect "=>"
  let body ← arrowBody g
  let strict := (← context).strict
  match p.restricted with
  | some place => if strict then failAtRestriction place (p.fault.getD .illegal)
  | none => pure ()
  tolerateIf (strict && p.stricted.isSome)
  let isExpression := !isKind body "BlockStatement"
  let e ← finishFrom token (arrowFunction p.params body isExpression isAsync)
  modifyContext fun c =>
    { c with
      strict := outer.strict
      allowStrictDirective := outer.allowStrictDirective
      allowYield := outer.allowYield
      await := outer.await }
  pure e

/-! ## Assignments -/

/-- Whether a token can start the argument of `yield`. -/
def startsExpression (t : Token) : Bool :=
  match t.lexeme with
  | .mark m => ["[", "(", "\x7b", "+", "-", "!", "~", "++", "--", "/", "/="].contains m
  | .keyword _ =>
    t.isKeywordIn
      ["class", "delete", "function", "let", "new", "super", "this", "typeof", "void", "yield"]
  | _ => true

/-- What follows the keyword `yield` in a generator. -/
def yieldExpression (g : Grammar) : P Tree := do
  let start ← here
  expectKeyword "yield"
  if (← get).newline then
    finish start (node "YieldExpression" [("delegate", .bool false)])
  else do
    let outer ← context
    modifyContext fun c => { c with allowYield := false }
    let delegate ← acceptMark "*"
    let argument ←
      if delegate || startsExpression (← ahead) then g.assignment else pure .null
    modifyContext fun c => { c with allowYield := outer.allowYield }
    finish start (node "YieldExpression" [("argument", argument), ("delegate", .bool delegate)])

/-- The value that is assigned, if an assignment follows its target. -/
def assignmentRest (g : Grammar) (token : Token) (target : Tree) : P Tree := do
  if ← atMarkIn assignmentMarks then do
    let c ← context
    tolerateIf !c.isAssignmentTarget
    tolerateIf (c.strict && isIdentifierIn target restrictedNames)
    tolerateIf (c.strict && isIdentifierIn target strictReserved)
    let isPlain ← atMark "="
    if !isPlain then notTarget
    let left := if isPlain then toPattern target else target
    let operator ← nextToken
    let right ← isolated g.assignment
    let e ← finishFrom token (node "AssignmentExpression"
      [("operator", .text (shownToken operator)), ("left", left), ("right", right)])
    modifyContext fun c => { c with coverInitializer := none }
    pure e
  else pure target

/-- The parameter of an asynchronous arrow function without parentheses, if `async` turns out to
start one. -/
def asyncParameter (g : Grammar) (token : Token) (e : Tree) : P Tree := do
  let next ← ahead
  if token.isNamed "async" && token.line == next.line &&
      (next.isName || next.isKeyword "yield") then do
    let param ← primary g
    pure (arrowParameters [toPattern param] true)
  else pure e

/-- An expression without commas: an assignment, an arrow function, or less. -/
def assignment (g : Grammar) : P Tree := do
  if !(← context).allowYield && (← atKeyword "yield") then yieldExpression g
  else do
    let token ← ahead
    let first ← conditional g
    let e ← asyncParameter g token first
    if isKind e "ArrowParameterPlaceHolder" || (← atMark "=>") then do
      notTarget
      match ← arrowParametersOf e with
      | some p => arrowRest g token (e.get "async").truthy p
      | none => pure e
    else assignmentRest g token e

end EndpointCatalog.Estree
