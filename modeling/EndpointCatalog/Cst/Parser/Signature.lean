/-
EndpointCatalog.Cst.Parser.Signature — signatures, and the members of
object types.

A signature has parameters and a return type and no body. Members of object
types end at a comma, a semicolon or a line break.
-/
import EndpointCatalog.Cst.Parser.Parameter

namespace EndpointCatalog.Cst.Parser

/-! ## Signatures -/

/-- What a value is known to be if a function returns. -/
def typePredicate (g : Grammar) : P Node :=
  rule "type_predicate" do
    field "name" (if (← front).isWord "this" then word "this" else identifier)
    keyword "is"
    field "type" g.type

/-- What is known if a function returns. -/
def assertion (g : Grammar) : P Node :=
  rule "asserts" do
    keyword "asserts"
    child (typePredicate g <|> if (← front).isWord "this" then word "this" else identifier)

/-- What a function returns. -/
def returnType (g : Grammar) : P Node :=
  (rule "asserts_annotation" do
    mark ":"
    child (assertion g)) <|>
  (rule "type_predicate_annotation" do
    mark ":"
    child (typePredicate g)) <|>
  annotatedType g

/-- The parameters of a function and what it returns. -/
def callSignature (g : Grammar) : P Unit := do
  if ← atOpening "<" then field "type_parameters" (typeParameters g)
  field "parameters" (formalParameters g)
  if (← front).isMark ":" then field "return_type" (returnType g)

/-- Modifiers in front of a member's name. -/
def memberModifiers (modifiers : List (List String × Option String)) : P Unit :=
  modifiers.forM fun (texts, kind) => optionalModifier texts kind atPropertyName

/-- The modifiers that signatures of members may have. -/
def signatureModifiers : List (List String × Option String) :=
  [(accessWords, some "accessibility_modifier"), (["static"], none),
   (["override"], some "override_modifier"), (["readonly"], none)]

/-- Words and marks that tell what kind of method follows. -/
def methodMarks : P Unit := do
  optionalModifier ["async"] none (do pure ((← atPropertyName) || (← front).isMark "*"))
  optionalModifier ["get", "set"] none atPropertyName
  let _ ← accept "*"

/-- A method without a body. -/
def methodSignature (g : Grammar) : P Node :=
  rule "method_signature" do
    memberModifiers signatureModifiers
    methodMarks
    field "name" (propertyName g)
    let _ ← accept "?"
    callSignature g

/-- A property of a type. -/
def propertySignature (g : Grammar) : P Node :=
  rule "property_signature" do
    memberModifiers signatureModifiers
    field "name" (propertyName g)
    let _ ← accept "?"
    optionalType g

/-- Keys that go through all members of a type. -/
def mappedTypeClause (g : Grammar) : P Node :=
  rule "mapped_type_clause" do
    field "name" typeIdentifier
    keyword "in"
    field "type" g.type
    if ← acceptWord "as" then field "alias" g.type

/-- The type of what stands under a key, with a mark that changes whether the key may be
missing. -/
def keyedType (g : Grammar) : P Node := do
  let annotations :=
    [("-?:", "omitting_type_annotation"), ("+?:", "adding_type_annotation"),
     ("?:", "opting_type_annotation")]
  let rest := (← get).next.rest
  match annotations.find? fun (text, _) => text.toList.isPrefixOf rest with
  | some (text, kind) =>
    rule kind do
      opening text
      child g.type
  | none => annotatedType g

/-- The type of all properties whose key has some type. -/
def indexSignature (g : Grammar) : P Node :=
  rule "index_signature" do
    if (← front).isMarkIn ["-", "+"] then do
      let _ ← accept "-"
      let _ ← accept "+"
      keyword "readonly"
    else
      let _ ← acceptWord "readonly"
    mark "["
    enclosed
      ((child (mappedTypeClause g)) <|> do
        field "name" identifier
        mark ":"
        field "index_type" g.type)
    mark "]"
    field "type" (keyedType g)

/-- The type of what the keyword `new` makes. -/
def constructSignature (g : Grammar) : P Node :=
  rule "construct_signature" do
    let _ ← acceptWord "abstract"
    keyword "new"
    if ← atOpening "<" then field "type_parameters" (typeParameters g)
    field "parameters" (formalParameters g)
    optionalType g

/-- A member of an object type. -/
def typeMember (g : Grammar) : P Node :=
  constructSignature g <|> rule "call_signature" (callSignature g) <|> indexSignature g <|>
    methodSignature g <|> propertySignature g

/-- An object type, as a node of some kind. -/
def objectType (kind : String) (g : Grammar) : P Node :=
  rule kind do
    mark "\x7b"
    enclosed do
      if !(← accept ",") then
        let _ ← accept ";"
      repeating do
        if (← front).isMark "\x7d" then pure false
        else do
          ending true (child (typeMember g))
          if (← accept ",") then pure true
          else if (← front).isMark "\x7d" then pure false
          else do
            semicolon { inExpression := false }
            pure true
    mark "\x7d"

end EndpointCatalog.Cst.Parser
