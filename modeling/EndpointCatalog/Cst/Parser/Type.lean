/-
EndpointCatalog.Cst.Parser.Type — types.

Operators between types bind, from tight to loose: arrays and look-ups,
intersections, unions, conditions, functions.
-/
import EndpointCatalog.Cst.Parser.Signature

namespace EndpointCatalog.Cst.Parser

/-! ## Atoms -/

/-- The names of types that are always there. -/
def predefinedTypes : List String :=
  ["any", "number", "boolean", "string", "symbol", "void", "unknown", "never", "object"]

/-- Names with points between them, up to the last but one. -/
def moduleName (first : Node) : P Node :=
  growing (fun object => do
    if ← ahead (do
        mark "."
        let _ ← identifier
        mark ".") then do
      let object := if object.kind = "nested_identifier" then object.withKind "member_expression" else object
      let n ← ruleFrom "nested_identifier" (some "object", object) do
        mark "."
        field "property" (word "property_identifier")
      pure (some n)
    else pure none) first

/-- The name of a type, perhaps in a module. -/
def typeName : P Node := do
  if ← ahead (do
      let _ ← identifier
      mark ".") then do
    let path ← moduleName (← identifier)
    ruleFrom "nested_type_identifier" (some "module", path) do
      mark "."
      field "name" typeIdentifier
  else typeIdentifier

/-- The name of a type with its arguments. -/
def namedType (g : Grammar) : P Node := do
  let name ← typeName
  (do
    guard (← atOpening "<")
    ruleFrom "generic_type" (some "name", name) do
      field "type_arguments" (typeArguments g)) <|> pure name

/-- A type that is written as a value. -/
def literalType : P Node :=
  rule "literal_type" do
    match ← front with
    | .quote => child string
    | .number => child number
    | .mark "-" =>
      child (rule "unary_expression" do
        mark "-"
        field "argument" number)
    | .mark "+" =>
      child (rule "unary_expression" do
        mark "+"
        field "argument" number)
    | .word w => child (word (String.ofList w))
    | _ => failure

/-- A chain of members and calls that a type is taken from. -/
def queriedChain (g : Grammar) (first : Node) : P Node :=
  growing (fun object => do
    let f ← front
    if f.isMarkIn [".", "?."] then do
      let n ← ruleFrom "member_expression" (some "object", object) do
        if !(← accept ".") then mark "?."
        field "property" memberName
      pure (some n)
    else if f.isMark "(" then do
      let n ← ruleFrom "call_expression" (some "function", object) do
        field "arguments" (rule "arguments" do
          mark "("
          enclosed (looseList ")" (child g.expression)))
      pure (some n)
    else pure none) first

/-- A type that is taken from another module. -/
def importedType (g : Grammar) : P Node := do
  let function ← word "import"
  guard ((← front).isMark "(")
  queriedChain g function

/-- The type of a value. -/
def typeQuery (g : Grammar) : P Node :=
  rule "type_query" do
    keyword "typeof"
    let first ←
      if (← front).isWord "import" then word "import"
      else if (← front).isWord "this" then word "this"
      else identifier
    let chain ← queriedChain g first
    (do
      guard (← atOpening "<")
      child (ruleFrom "instantiation_expression" (some "function", chain) do
        field "type_arguments" (typeArguments g))) <|> push none chain

/-- A part of a tuple. -/
def tupleMember (g : Grammar) : P Node :=
  (rule "required_parameter" do
    field "name" (if (← front).isMark "..." then
      rule "rest_pattern" do
        mark "..."
        child identifier
      else identifier)
    field "type" (annotatedType g)) <|>
  (rule "optional_parameter" do
    field "name" identifier
    mark "?"
    field "type" (annotatedType g)) <|>
  (do
    if (← front).isMark "..." then
      rule "rest_type" do
        mark "..."
        child g.type
    else do
      let t ← g.type
      if (← front).isMark "?" then ruleFrom "optional_type" (none, t) (mark "?") else pure t)

/-- A tuple type. -/
def tupleType (g : Grammar) : P Node :=
  rule "tuple_type" do
    mark "["
    enclosed (strictList "]" (child (tupleMember g)))

/-- A type that starts with a word. -/
def wordType (g : Grammar) (text : List Char) : P Node := do
  let text := String.ofList text
  match text with
  | "typeof" => typeQuery g
  | "keyof" =>
    rule "index_type_query" do
      keyword "keyof"
      child g.primaryType
  | "this" => word "this_type"
  | "import" => importedType g
  | "unique" =>
    (rule "predefined_type" do
      keyword "unique"
      keyword "symbol") <|> namedType g
  | _ =>
    if ["true", "false", "null", "undefined"].contains text then literalType
    else if predefinedTypes.contains text then rule "predefined_type" (keyword text)
    else namedType g

/-- A type that no operator is part of. -/
def typeAtom (g : Grammar) : P Node := do
  match ← front with
  | .word w => wordType g w
  | .quote => literalType
  | .number => literalType
  | .backtick =>
    template "template_literal_type" "template_type" (do
      if (← front).isWord "infer" then g.type else g.primaryType)
  | .mark "-" => literalType
  | .mark "+" => literalType
  | .mark "(" =>
    rule "parenthesized_type" do
      mark "("
      enclosed (child g.type)
      mark ")"
  | .mark "\x7b" => objectType "object_type" g
  | .mark "[" => tupleType g
  | .mark "*" => rule "existential_type" (mark "*")
  | .mark "?" =>
    rule "flow_maybe_type" do
      mark "?"
      child g.primaryType
  | _ => failure

/-- Whether the type that is being read ends here. -/
def typeEndsHere : P Bool := do
  if (← get).mayEnd then atOmission { inExpression := false } else pure false

/-- An atom with brackets behind it. -/
def primaryType (g : Grammar) : P Node := do
  let atom ← typeAtom g
  growing (fun t => do
    if !(← front).isMark "[" || (← typeEndsHere) then pure none
    else
      (do
        let n ← ruleFrom "array_type" (none, t) do
          mark "["
          mark "]"
        pure (some n)) <|> (do
        let n ← ruleFrom "lookup_type" (none, t) do
          mark "["
          enclosed (child g.type)
          mark "]"
        pure (some n)) <|> pure none) atom

/-! ## Operators -/

/-- The type of a function. -/
def functionType (g : Grammar) : P Node :=
  rule "function_type" do
    if ← atOpening "<" then field "type_parameters" (typeParameters g)
    field "parameters" (formalParameters g)
    mark "=>"
    field "return_type" (assertion g <|> typePredicate g <|> g.type)

/-- The type of a class. -/
def constructorType (g : Grammar) : P Node :=
  rule "constructor_type" do
    let _ ← acceptWord "abstract"
    keyword "new"
    if ← atOpening "<" then field "type_parameters" (typeParameters g)
    field "parameters" (formalParameters g)
    mark "=>"
    field "type" g.type

/-- A type without binary operators. -/
def unaryType (g : Grammar) : P Node := do
  let f ← front
  if f.isMark "(" || (← atOpening "<") then functionType g <|> primaryType g
  else if f.isWordIn ["new", "abstract"] then constructorType g <|> primaryType g
  else if f.isWord "readonly" then
    (rule "readonly_type" do
      keyword "readonly"
      child g.type) <|> primaryType g
  else if f.isWord "infer" then
    (rule "infer_type" do
      keyword "infer"
      child typeIdentifier
      if ← acceptWord "extends" then child g.primaryType) <|> primaryType g
  else primaryType g

/-- Types with one operator between them, or also before the first of them. -/
def operatorTypes (kind operator : String) (operand : P Node) : P Node := do
  let first ←
    if (← front).isMark operator then
      rule kind do
        mark operator
        child operand
    else operand
  growing (fun left => do
    if (← front).isMark operator then do
      let n ← ruleFrom kind (none, left) do
        mark operator
        child operand
      pure (some n)
    else pure none) first

/-- A union of intersections. -/
def unionType (g : Grammar) : P Node :=
  operatorTypes "union_type" "|" (operatorTypes "intersection_type" "&" (unaryType g))

/-- A type. -/
def type (g : Grammar) : P Node := do
  let left ← unionType g
  if (← front).isWord "extends" then
    (ruleFrom "conditional_type" (some "left", left) do
      keyword "extends"
      field "right" (unionType g)
      mark "?"
      field "consequence" (enclosed g.type)
      mark ":"
      field "alternative" g.type) <|> pure left
  else pure left

end EndpointCatalog.Cst.Parser
