/-
EndpointCatalog.Cst.Parser.Operand — what stands between operators.

An array or object that an equals sign follows is a pattern, and what
stands in parentheses before an arrow is a list of parameters; then what
has been read is read again.
-/
import EndpointCatalog.Cst.Parser.Class

namespace EndpointCatalog.Cst.Parser

/-! ## Expressions in sequence -/

/-- An expression, or several with commas between them. -/
def expressions (g : Grammar) : P Node := do
  let first ← g.expression
  if (← front).isMark "," then
    ruleFrom "sequence_expression" (none, first) do
      repeating do
        if ← accept "," then do
          child g.expression
          pure true
        else pure false
  else pure first

/-- Expressions in parentheses. -/
def group (g : Grammar) : P Node :=
  rule "parenthesized_expression" do
    mark "("
    enclosed do
      let e ← expressions g
      push none e
      if e.kind ≠ "sequence_expression" then optionalType g
    mark ")"

/-- Arguments in parentheses. -/
def argumentList (g : Grammar) : P Node :=
  rule "arguments" do
    mark "("
    enclosed (looseList ")" (child do
      if (← front).isMark "..." then spread g else g.expression))

/-! ## Arrow functions -/

/-- An arrow and the body of a function. -/
def arrowRest (g : Grammar) : P Unit := do
  mark "=>"
  field "body" (if (← front).isMark "\x7b" then block g else g.expression)

/-- An arrow function with its parameters in parentheses. -/
def arrowFunction (g : Grammar) : P Node :=
  rule "arrow_function" do
    callSignature g
    arrowRest g

/-- An asynchronous arrow function. -/
def asyncArrow (g : Grammar) : P Node :=
  rule "arrow_function" do
    keyword "async"
    match ← front with
    | .word _ => field "parameter" identifier
    | _ => callSignature g
    arrowRest g

/-- Expressions in parentheses, or an arrow function. A colon behind the parentheses may tell what
the function returns, unless it belongs to a choice. -/
def groupOrArrow (g : Grammar) : P Node := do
  let s ← get
  (do
    let e ← group g
    let f ← front
    guard (!f.isMark "=>")
    if f.isMark ":" && !s.beforeColon then do
      let after ← get
      (do
        set s
        arrowFunction g) <|> (do
        set after
        pure e)
    else pure e) <|> arrowFunction g

/-! ## Words -/

/-- A name, or an arrow function with that name as its parameter. -/
def nameOrArrow (g : Grammar) : P Node := do
  let name ← identifier
  if (← front).isMark "=>" then
    ruleFrom "arrow_function" (some "parameter", name) (arrowRest g)
  else pure name

/-- A member behind a point. -/
def pointMember (object : Node) : P Node :=
  ruleFrom "member_expression" (some "object", object) do
    mark "."
    field "property" memberName

/-- A member in brackets. -/
def bracketMember (g : Grammar) (object : Node) : P Node :=
  ruleFrom "subscript_expression" (some "object", object) do
    mark "["
    enclosed (field "index" (expressions g))
    mark "]"

/-- An expression with a mark that it is there. -/
def nonNull (e : Node) : P Node := ruleFrom "non_null_expression" (none, e) (mark "!")

/-- The function that the keyword `new` calls, which starts with `first`. -/
def constructorChain (g : Grammar) (first : Node) : P Node :=
  growing (fun e => do
    let f ← front
    if f.isMark "." then do pure (some (← pointMember e))
    else if f.isMark "[" then do pure (some (← bracketMember g e))
    else if f.isMark "!" then do pure (some (← nonNull e))
    else pure none) first

/-- Two words with a point between them. -/
def metaProperty (first second : String) : P Node :=
  rule "meta_property" do
    keyword first
    mark "."
    keyword second

/-- What the keyword `new` makes; `operand` reads what its constructor starts with. -/
def newExpression (g : Grammar) (operand : P Node) : P Node :=
  rule "new_expression" do
    keyword "new"
    field "constructor" (constructorChain g (← operand))
    optionally (do
      guard (← atOpening "<")
      field "type_arguments" (typeArguments g)
      let f ← front
      guard (f.isMarkIn ["(", ")", "]", "\x7d", ",", ";"] || f = .nothing))
    if (← front).isMark "(" then field "arguments" (argumentList g)

/-- Words that are values of their own kind. -/
def valueWords : List String := ["this", "super", "true", "false", "null", "undefined"]

/-- An operand that starts with a word. -/
def wordOperand (g : Grammar) (text : List Char) : P Node := do
  let text := String.ofList text
  match text with
  | "function" => functionExpression g
  | "async" => functionExpression g <|> asyncArrow g <|> nameOrArrow g
  | "class" => classExpression g
  | "import" =>
    metaProperty "import" "meta" <|> do
      let n ← word "import"
      guard ((← front).isMarkIn ["(", "."])
      pure n
  | _ => if valueWords.contains text then word text else nameOrArrow g

/-! ## Operands -/

/-- An array or object, or a pattern if an equals sign follows. -/
def literalOrPattern (g : Grammar) (literal : P Node) : P Node :=
  (do
    let e ← literal
    guard (!(← front).isMark "=")
    pure e) <|> (do
    let p ← destructuringPattern g
    guard ((← front).isMark "=")
    pure p)

/-- An operand without anything behind it, other than what the keyword `new` makes. -/
def atom (g : Grammar) : P Node := do
  match ← front with
  | .quote => string
  | .number => number
  | .backtick => template "template_string" "template_substitution" (expressions g)
  | .mark "(" => groupOrArrow g
  | .mark "[" => literalOrPattern g (array g)
  | .mark "\x7b" => literalOrPattern g (object g)
  | .mark "/" => regex
  | .mark "/=" => regex
  | .mark "@" => classExpression g
  | .mark "#" => privateName
  | .word w => wordOperand g w
  | _ => failure

/-- An operand without anything behind it. -/
def primary (g : Grammar) : P Node := do
  if (← front).isWord "new" then
    metaProperty "new" "target" <|> newExpression g (atom g) <|> nameOrArrow g
  else atom g

/-- A mark that what stands before it may not be there. -/
def optionalChain : P Node := rule "optional_chain" (mark "?.")

/-- What stands behind a mark that what stands before it may not be there. -/
def optionalStep (g : Grammar) (e : Node) : P Node :=
  (ruleFrom "call_expression" (some "function", e) do
    mark "?."
    if ← atOpening "<" then field "type_arguments" (typeArguments g)
    field "arguments" (argumentList g)) <|>
  (ruleFrom "subscript_expression" (some "object", e) do
    field "optional_chain" optionalChain
    mark "["
    enclosed (field "index" (expressions g))
    mark "]") <|>
  (ruleFrom "member_expression" (some "object", e) do
    field "optional_chain" optionalChain
    field "property" memberName)

/-- A call with arguments for types, if it is one. -/
def typedCall (g : Grammar) (e : Node) : P (Option Node) :=
  (do
    let n ← ruleFrom "call_expression" (some "function", e) do
      field "type_arguments" (typeArguments g)
      field "arguments" (argumentList g)
    pure (some n)) <|> (do
    let n ← ruleFrom "instantiation_expression" (none, e) do
      field "type_arguments" (typeArguments g)
    let f ← front
    guard (f.isMarkIn [")", "]", "\x7d", ",", ";", ":"] || f = .nothing)
    pure (some n)) <|> pure none

/-- What stands behind an operand: a member, arguments or a template. -/
def chainStep (g : Grammar) (e : Node) : P (Option Node) := do
  if e.kind = "update_expression" || (← endsHere) then pure none
  else match ← front with
  | .mark "." => do pure (some (← pointMember e))
  | .mark "?." => do pure (some (← optionalStep g e))
  | .mark "[" => do pure (some (← bracketMember g e))
  | .mark "(" => do
    let n ← ruleFrom "call_expression" (some "function", e) (field "arguments" (argumentList g))
    pure (some n)
  | .backtick => do
    let n ← ruleFrom "call_expression" (some "function", e) do
      field "arguments" (template "template_string" "template_substitution" (expressions g))
    pure (some n)
  | .mark "<" => typedCall g e
  | .mark m =>
    if m = "++" || m = "--" then do
      let n ← ruleFrom "update_expression" (some "argument", e) (mark m)
      pure (some n)
    else pure none
  | _ => pure none

/-! ## Assignments -/

/-- The kinds of what can be assigned to. -/
def targetKinds : List String :=
  ["identifier", "undefined", "member_expression", "subscript_expression", "non_null_expression",
   "parenthesized_expression", "array_pattern", "object_pattern"]

/-- The marks that assign a value that depends on the one before. -/
def augmentedMarks : List String :=
  ["+=", "-=", "*=", "/=", "%=", "^=", "&=", "|=", ">>=", ">>>=", "<<=", "**=", "&&=", "||=", "??="]

/-- The value that is assigned, if an assignment follows its target. -/
def assignmentRest (g : Grammar) (target : Node) : P Node := do
  if !targetKinds.contains target.kind || (← endsHere) then pure target
  else match ← front with
  | .mark m =>
    if m = "=" then
      ruleFrom "assignment_expression" (some "left", target) do
        mark m
        field "right" g.expression
    else if augmentedMarks.contains m then
      ruleFrom "augmented_assignment_expression" (some "left", target) do
        mark m
        field "right" g.expression
    else pure target
  | _ => pure target

/-- What stands behind an operand, and perhaps a value that is assigned to it. -/
def chainRest (g : Grammar) (first : Node) : P Node := do
  assignmentRest g (← growing (chainStep g) first)

/-- An operand with what stands behind it. -/
def chain (g : Grammar) : P Node := do chainRest g (← primary g)

/-- What can be assigned to, other than patterns. -/
def target (g : Grammar) : P Node := do
  if (← front).isMarkIn ["[", "\x7b"] then destructuringPattern g
  else do
    let e ← growing (chainStep g) (← primary g)
    guard (targetKinds.contains e.kind)
    pure e

end EndpointCatalog.Cst.Parser
