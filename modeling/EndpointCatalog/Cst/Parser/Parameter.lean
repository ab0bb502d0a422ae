/-
EndpointCatalog.Cst.Parser.Parameter — targets of bindings, and parameters.

A target is a name or a pattern that takes a value apart. A parameter is a
target with decorators and modifiers before it, and a type and a default
behind it. Type parameters and arguments stand in angle brackets.
-/
import EndpointCatalog.Cst.Parser.Literal

namespace EndpointCatalog.Cst.Parser

/-! ## Lists of types -/

/-- Whether the characters that come next start with a mark. -/
def atOpening (text : String) : P Bool := do
  pure (text.toList.isPrefixOf (← get).next.rest)

/-- Items in angle brackets, at least one. -/
def angleList (item : P Unit) : P Unit := do
  opening "<"
  enclosed do
    item
    repeating do
      if ← accept "," then
        if ← atOpening ">" then pure false
        else do
          item
          pure true
      else pure false
    opening ">"

/-- Types in angle brackets. -/
def typeArguments (g : Grammar) : P Node := rule "type_arguments" (angleList (child g.type))

/-- A colon and a type. -/
def annotatedType (g : Grammar) : P Node :=
  rule "type_annotation" do
    mark ":"
    child g.type

/-- Reads a colon and a type if they come next. -/
def optionalType (g : Grammar) : P Unit := do
  if (← front).isMark ":" then field "type" (annotatedType g)

/-- A variable of a type, with its bound and its default. -/
def typeParameter (g : Grammar) : P Node :=
  rule "type_parameter" do
    optionally (do
      keyword "const"
      guard (!(← front).isMarkIn [",", ">", "="]))
    field "name" typeIdentifier
    if (← front).isWord "extends" || (← front).isMark ":" then
      field "constraint" (rule "constraint" do
        if !(← acceptWord "extends") then mark ":"
        child g.type)
    if (← front).isMark "=" then
      field "value" (rule "default_type" do
        mark "="
        child g.type)

/-- Variables of types in angle brackets. -/
def typeParameters (g : Grammar) : P Node :=
  rule "type_parameters" (angleList (child (typeParameter g)))

/-! ## Targets -/

/-- The rest of an array, object or argument list. -/
def restPattern (g : Grammar) : P Node :=
  rule "rest_pattern" do
    mark "..."
    child g.target

/-- An equals sign and a value. -/
def initializer (g : Grammar) : P Unit := do
  mark "="
  field "value" g.expression

/-- A target, perhaps with a default value. -/
def patternElement (g : Grammar) : P Node := do
  if (← front).isMark "..." then restPattern g
  else do
    let target ← g.target
    if (← front).isMark "=" then
      ruleFrom "assignment_pattern" (some "left", target) do
        mark "="
        field "right" g.expression
    else pure target

/-- An array of targets. -/
def arrayPattern (g : Grammar) : P Node :=
  rule "array_pattern" do
    mark "["
    enclosed (looseList "]" (child (patternElement g)))

/-- A property that is taken into a target of another name. -/
def pairPattern (g : Grammar) : P Node :=
  rule "pair_pattern" do
    field "key" (propertyName g)
    mark ":"
    field "value" (patternElement g)

/-- A property that is taken into a variable of its name, perhaps with a default value. -/
def shorthandPattern (g : Grammar) : P Node := do
  let name ← word "shorthand_property_identifier_pattern"
  if (← front).isMark "=" then
    ruleFrom "object_assignment_pattern" (some "left", name) do
      mark "="
      field "right" g.expression
  else pure name

/-- A part of an object pattern. -/
def objectPatternElement (g : Grammar) : P Node := do
  if (← front).isMark "..." then restPattern g
  else pairPattern g <|> shorthandPattern g

/-- An object of targets. -/
def objectPattern (g : Grammar) : P Node :=
  rule "object_pattern" do
    mark "\x7b"
    enclosed (looseList "\x7d" (child (objectPatternElement g)))

/-- A pattern in brackets or braces. -/
def destructuringPattern (g : Grammar) : P Node := do
  if (← front).isMark "[" then arrayPattern g else objectPattern g

/-- A name or a pattern that is bound. -/
def binding (g : Grammar) : P Node := do
  match ← front with
  | .word _ => identifier
  | _ => destructuringPattern g

/-! ## Parameters -/

/-- Something written behind an at sign. -/
def decorator (g : Grammar) : P Node :=
  let name : P Node := do
    let first ← identifier
    growing (fun object => do
      if (← front).isMark "." then do
        let n ← ruleFrom "member_expression" (some "object", object) do
          mark "."
          field "property" (word "property_identifier")
        pure (some n)
      else pure none) first
  let call : P Node := do
    let function ← name
    (ruleFrom "call_expression" (some "function", function) do
      if ← atOpening "<" then field "type_arguments" (typeArguments g)
      guard ((← front).isMark "(")
      field "arguments" (rule "arguments" do
        mark "("
        enclosed (looseList ")" (child do
          if (← front).isMark "..." then
            rule "spread_element" do
              mark "..."
              child g.expression
          else g.expression)))) <|> pure function
  rule "decorator" do
    mark "@"
    if (← front).isMark "(" then
      child (rule "parenthesized_expression" do
        mark "("
        enclosed (child call)
        mark ")")
    else child call

/-- Decorators in front of something. -/
def decorators (g : Grammar) : P Unit :=
  repeating do
    if (← front).isMark "@" then do
      field "decorator" (decorator g)
      pure true
    else pure false

/-- Words that tell who may use a member. -/
def accessWords : List String := ["public", "private", "protected"]

/-- Reads a modifier, in front of something for which `follows` holds on the same line. -/
def modifier (texts : List String) (kind : Option String) (follows : P Bool) : P Unit := do
  match texts.find? (← front).isWord with
  | none => failure
  | some text => do
    match kind with
    | some kind => child (rule kind (keyword text))
    | none => keyword text
    guard (← follows)
    guard (!(← atOmission { inExpression := false }))

/-- Reads a modifier if it comes next. -/
def optionalModifier (texts : List String) (kind : Option String) (follows : P Bool) : P Unit :=
  optionally (modifier texts kind follows)

/-- Whether the name or pattern of a parameter comes next. -/
def atParameterName : P Bool := do
  match ← front with
  | .word _ => pure true
  | .mark m => pure (["[", "\x7b", "..."].contains m)
  | _ => pure false

/-- The name or pattern of a parameter. The name `undefined` is of a kind of its own, as it is in
expressions. -/
def parameterPattern (g : Grammar) : P Node := do
  if (← front).isWord "this" then word "this"
  else if (← front).isWord "undefined" then word "undefined"
  else if (← front).isMark "..." then restPattern g
  else binding g

/-- A parameter. -/
def formalParameter (g : Grammar) : P Node := do
  let n ← rule "required_parameter" do
    decorators g
    optionalModifier accessWords (some "accessibility_modifier") atParameterName
    optionalModifier ["override"] (some "override_modifier") atParameterName
    optionalModifier ["readonly"] none atParameterName
    field "pattern" (parameterPattern g)
    let _ ← accept "?"
    optionalType g
    if (← front).isMark "=" then initializer g
  pure (if n.hasMark "?" then n.withKind "optional_parameter" else n)

/-- Parameters in parentheses. -/
def formalParameters (g : Grammar) : P Node :=
  rule "formal_parameters" do
    mark "("
    enclosed (strictList ")" (child (formalParameter g)))

end EndpointCatalog.Cst.Parser
