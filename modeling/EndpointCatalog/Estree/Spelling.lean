/-
EndpointCatalog.Estree.Spelling — integers that are too long to be spelled.

Where a number is evaluated or stands as a key, its value is spelled in
decimal digits even if its written form is known and the spelling is not
used. An integer of more than `longestInteger` digits cannot be spelled, so a
match that comes upon one has no record. Only numbers that are written in a
base can be so long: all others are as large as a double-precision number at
most.
-/
import EndpointCatalog.Estree.Dialect
import EndpointCatalog.Matching
import EndpointCatalog.Metadata

namespace EndpointCatalog.Estree

/-- The wording of the failure. -/
def tooLongToSpell : String :=
  "Exceeds the limit (4300 digits) for integer string conversion; use " ++
    "sys.set_int_max_str_digits() to increase the limit"

/-- Whether a value is an integer of too many digits. -/
def isTooLong : Tree → Bool
  | .int n => Nat.pow 10 longestInteger ≤ n.natAbs
  | _ => false

/-- Whether a key is a number that is too long. -/
def keyTooLong (key : Tree) : Bool := isKind key "Literal" && isTooLong (key.get "value")

/-- Whether a static key among some properties is too long. -/
def keysTooLong (properties : List Tree) : Bool :=
  properties.any fun property =>
    isKind property "Property" && !(property.get "computed").truthy &&
      keyTooLong (property.get "key")

/-- Whether a static key of an object literal is too long. -/
def entriesTooLong (node : Tree) : Bool :=
  isKind node "ObjectExpression" && keysTooLong (node.get "properties").items

/-- Whether a literal comes upon a number that is too long. -/
def literalTooLong : Nat → Tree → Bool
  | 0, _ => false
  | depth + 1, node =>
    if isKind node "Literal" then (node.get? "regex").isNone && isTooLong (node.get "value")
    else if isKind node "ObjectExpression" then
      entriesTooLong node ||
        ((objectEntries? node).getD []).any fun (_, value) => literalTooLong depth value
    else if isKind node "ArrayExpression" then
      (node.get "elements").items.any fun item => item.isMap && literalTooLong depth item
    else if isKind node "UnaryExpression" && node.hasText "operator" "-" then
      literalTooLong depth (node.get "argument")
    else false

/-- Whether the configuration of a request comes upon a number that is too long. -/
def settingsTooLong (call : CallShape) : Bool :=
  match call.arguments with
  | _ :: config :: _ =>
    entriesTooLong config || ((objectEntries? config).getD []).any fun (key, value) =>
      (key = "headers" ∨ key = "params" ∨ key = "data") && literalTooLong deepestLiteral value
  | _ => false

/-- Whether the options of a route come upon a number that is too long. -/
def optionsTooLong (arguments : List Tree) : Bool :=
  match arguments.find? (isKind · "ObjectExpression") with
  | none => false
  | some options =>
    entriesTooLong options ||
      (Entries.get? "schema" (Entries.ofPairs ((objectEntries? options).getD []))).any
        (literalTooLong deepestLiteral)

/-- Whether a pattern that is declared has a key that is too long. -/
def patternTooLong (node : Tree) : Bool :=
  isKind node "VariableDeclarator" && isKind (node.get "id") "ObjectPattern" &&
    (node.get "init").isMap && keysTooLong ((node.get "id").get "properties").items

/-- Whether a handler comes upon a number that is too long. -/
def handlerTooLong (arguments : List Tree) : Bool :=
  match findHandler? dialect arguments with
  | none => false
  | some handler => (requestName? dialect handler).isSome && handler.walk.any patternTooLong

/-- Whether a match comes upon a number that is too long. -/
def matchTooLong (profile : Profile) (found : EndpointMatch) : Bool :=
  match found.kind with
  | .request => settingsTooLong found.call
  | .route =>
    let rest := found.call.arguments.drop 1
    (profile.optionsSchema && optionsTooLong rest) || handlerTooLong rest

end EndpointCatalog.Estree
