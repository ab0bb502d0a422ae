/-
EndpointCatalog.Cst.Parser.Class — blocks, functions, classes and objects.
-/
import EndpointCatalog.Cst.Parser.Type

namespace EndpointCatalog.Cst.Parser

/-! ## Functions -/

/-- Statements in braces. -/
def block (g : Grammar) : P Node :=
  rule "statement_block" do
    mark "\x7b"
    many (child g.statement)
    mark "\x7d"
    optionalOmission

/-- A function as an expression. -/
def functionExpression (g : Grammar) : P Node := do
  let n ← rule "function_expression" do
    if ← acceptWord "async" then guard (!(← atOmission {}))
    keyword "function"
    let _ ← accept "*"
    match ← front with
    | .word _ => field "name" identifier
    | _ => pure ()
    callSignature g
    field "body" (block g)
  pure (if n.hasMark "*" then n.withKind "generator_function" else n)

/-- A method with its body. -/
def methodDefinition (g : Grammar) : P Node :=
  rule "method_definition" do
    memberModifiers signatureModifiers
    methodMarks
    field "name" (propertyName g)
    let _ ← accept "?"
    callSignature g
    field "body" (block g)

/-! ## Classes -/

/-- A method that classes below have to define. -/
def abstractMethod (g : Grammar) : P Node :=
  rule "abstract_method_signature" do
    optionalModifier accessWords (some "accessibility_modifier") atPropertyName
    modifier ["abstract"] none (do pure ((← atPropertyName) || (← front).isMark "*"))
    optionalModifier ["override"] (some "override_modifier") atPropertyName
    methodMarks
    field "name" (propertyName g)
    let _ ← accept "?"
    callSignature g

/-- The modifiers that fields may have, in the order in which they may stand. -/
def fieldModifiers : List (List String × Option String) :=
  [(["declare"], none), (accessWords, some "accessibility_modifier"), (["declare"], none),
   (["static"], none), (["override"], some "override_modifier"), (["readonly"], none),
   (["abstract"], none), (["readonly"], none), (["accessor"], none)]

/-- A field of a class. -/
def fieldDefinition (g : Grammar) : P Node :=
  rule "public_field_definition" do
    decorators g
    memberModifiers fieldModifiers
    field "name" (propertyName g)
    if !(← accept "?") then
      let _ ← accept "!"
    optionalType g
    if (← front).isMark "=" then initializer g

/-- The end of a member that has no body. -/
def memberEnd (context : SemicolonContext) : P Unit := semicolon context <|> mark ","

/-- Code that runs when a class is made. -/
def staticBlock (g : Grammar) : P Node :=
  rule "class_static_block" do
    keyword "static"
    field "body" (block g)

/-- A member of a class and its end. -/
def classMember (g : Grammar) : P Unit :=
  mark ";" <|>
  child (staticBlock g) <|>
  (do
    decorators g
    child (methodDefinition g)
    optionally (semicolon { inExpression := false })) <|>
  (do
    child (abstractMethod g)
    memberEnd { inExpression := false }) <|>
  (do
    child (indexSignature g)
    memberEnd { inExpression := false }) <|>
  (do
    child (methodSignature g)
    memberEnd { inExpression := false, inSignature := true }) <|>
  (do
    child (fieldDefinition g)
    memberEnd {})

/-- The members of a class in braces. -/
def classBody (g : Grammar) : P Node :=
  rule "class_body" do
    mark "\x7b"
    ending true (many (classMember g))
    mark "\x7d"

/-- What a class extends. -/
def extendsClause (g : Grammar) : P Node :=
  rule "extends_clause" do
    keyword "extends"
    commaSeparated do
      field "value" g.unary
      if ← atOpening "<" then field "type_arguments" (typeArguments g)

/-- What a class implements. -/
def implementsClause (g : Grammar) : P Node :=
  rule "implements_clause" do
    keyword "implements"
    commaSeparated (child g.type)

/-- What follows the name of a class. -/
def classRest (g : Grammar) : P Unit := do
  if ← atOpening "<" then field "type_parameters" (typeParameters g)
  if (← front).isWordIn ["extends", "implements"] then
    child (rule "class_heritage" do
      if (← front).isWord "extends" then child (extendsClause g)
      if (← front).isWord "implements" then child (implementsClause g))
  field "body" (classBody g)

/-- A class as an expression; its name is optional. -/
def classExpression (g : Grammar) : P Node :=
  rule "class" do
    decorators g
    keyword "class"
    match ← front with
    | .word w => if !(["extends", "implements"].contains (String.ofList w)) then field "name" typeIdentifier
    | _ => pure ()
    classRest g

/-! ## Objects -/

/-- Three points before an expression. -/
def spread (g : Grammar) : P Node :=
  rule "spread_element" do
    mark "..."
    child g.expression

/-- A property with its value. -/
def pair (g : Grammar) : P Node :=
  rule "pair" do
    field "key" (propertyName g)
    mark ":"
    field "value" g.expression

/-- A part of an object. -/
def objectMember (g : Grammar) : P Node := do
  if (← front).isMark "..." then spread g
  else methodDefinition g <|> pair g <|> word "shorthand_property_identifier"

/-- An object. -/
def object (g : Grammar) : P Node :=
  rule "object" do
    mark "\x7b"
    enclosed (looseList "\x7d" (child (objectMember g)))

/-- An array. -/
def array (g : Grammar) : P Node :=
  rule "array" do
    mark "["
    enclosed (looseList "]" (child do
      if (← front).isMark "..." then spread g else g.expression))

end EndpointCatalog.Cst.Parser
