/-
EndpointCatalog.Proofs.Literal.Expression — literals as they are written.

* `LiteralExpr`: strings, numbers, the words for truth and for nothing,
  templates without substitutions, arrays without holes and object literals,
  one in another to any depth. `LiteralExpr.value` is the value of one, by
  how its keys are named.
* `NodeShape`: how the nodes of a syntax tree show the parts of a literal.
  `NodeShape.shows` says which trees show a whole one. `Estree.shape` and
  `Cst.shape` are the shapes of the two kinds of tree.

A shape asks for what it names only, so nodes may carry more than that: where
they stand, how they are written.
-/
import EndpointCatalog.Cst.Dialect
import EndpointCatalog.Estree.Spelling
import EndpointCatalog.Proofs.Literal.Numeral

namespace EndpointCatalog

/-! ## Literals -/

/-- A number as the lexer of scripts takes it from a source. -/
structure NumberToken where
  chars : List Char
  /-- The value that the lexer finds. -/
  found : NumberLiteral
  scanned : ∃ source numeral, Estree.StartsNumber source ∧
    Estree.scanNumeral source = .ok numeral ∧ source.take numeral.taken = chars ∧
    numeral.value = found

namespace NumberToken

/-- The token as text. -/
def text (token : NumberToken) : Text := Text.ofChars token.chars

/-- The number that a token stands for. -/
def value (token : NumberToken) : Tree := .ofLiteral (readNumber token.text)

/-- The number behind a minus sign. -/
def negated (token : NumberToken) : Tree := token.value.negated?.getD .null

/-- A token is never kept as text, so a minus sign before it can be applied. -/
theorem negated?_value (token : NumberToken) : token.value.negated? = some token.negated := by
  obtain ⟨chars, found, source, numeral, hstart, hscan, rfl, -⟩ := token
  have hnumber := isNumber_readNumber (Estree.numeralShape_of_scanNumeral hstart hscan)
  unfold negated value text
  cases hread : readNumber (Text.ofChars (source.take numeral.taken)) with
  | int n => rfl
  | float x => rfl
  | other t =>
    rw [hread] at hnumber
    cases hnumber

theorem isNumber_found (token : NumberToken) : token.found.isNumber = true := by
  obtain ⟨source, numeral, -, hscan, -, hfound⟩ := token.scanned
  rw [← hfound]
  exact Estree.isNumber_of_scanNumeral hscan

/-- Whether the value that the lexer finds is too long to be spelled. -/
def isTooLong (token : NumberToken) : Bool := Estree.isTooLong (.ofLiteral token.found)

end NumberToken

/-- A literal that holds no other one. -/
inductive Scalar where
  | string (t : Text)
  | number (token : NumberToken)
  | negative (token : NumberToken)
  | bool (b : Bool)
  | null
  | template (t : Text)

namespace Scalar

/-- The value of a scalar. -/
def value : Scalar → Tree
  | string t => .text t
  | number token => token.value
  | negative token => token.negated
  | bool b => .bool b
  | null => .null
  | template t => .text t

/-- How deep the nodes of a scalar are nested: a number stands below its minus sign. -/
def height : Scalar → Nat
  | negative _ => 2
  | _ => 1

/-- The number in a scalar. -/
def numbers : Scalar → List NumberToken
  | number token => [token]
  | negative token => [token]
  | _ => []

end Scalar

/-- The key of an object literal. An identifier may be written with escapes. -/
inductive LiteralKey where
  | identifier (name written : Text)
  | string (t : Text)
  | number (token : NumberToken)

namespace LiteralKey

/-- What a key is called: an identifier by its name. -/
def name : LiteralKey → Text
  | identifier name _ => name
  | string t => t
  | number token => token.text

/-- What a key is called if an identifier is taken as it is written. -/
def written : LiteralKey → Text
  | identifier _ written => written
  | string t => t
  | number token => token.text

/-- The number that a key is. -/
def numbers : LiteralKey → List NumberToken
  | number token => [token]
  | _ => []

end LiteralKey

mutual

/-- A literal. -/
inductive LiteralExpr where
  | scalar (s : Scalar)
  | array (items : List LiteralExpr)
  | object (members : List LiteralMember)

/-- A member of an object literal. Computed members and spread elements hold any expressions. -/
inductive LiteralMember where
  | pair (key : LiteralKey) (value : LiteralExpr)
  | computed
  | spread

end

mutual

/-- The value of a literal: of equal keys the last one counts, at the place of the first. -/
def LiteralExpr.value (name : LiteralKey → Text) : LiteralExpr → Tree
  | .scalar s => s.value
  | .array items => .list (LiteralExpr.values name items)
  | .object members => .map (Entries.ofPairs (LiteralMember.pairs name members))

/-- The values of the items of an array. -/
def LiteralExpr.values (name : LiteralKey → Text) : List LiteralExpr → List Tree
  | [] => []
  | e :: rest => e.value name :: LiteralExpr.values name rest

/-- The keys and values of the members of an object literal that count. -/
def LiteralMember.pairs (name : LiteralKey → Text) : List LiteralMember → List (Text × Tree)
  | [] => []
  | .pair key e :: rest => (name key, e.value name) :: LiteralMember.pairs name rest
  | .computed :: rest => LiteralMember.pairs name rest
  | .spread :: rest => LiteralMember.pairs name rest

end

mutual

/-- How deep the nodes of a literal are nested. -/
def LiteralExpr.height : LiteralExpr → Nat
  | .scalar s => s.height
  | .array items => LiteralExpr.heightAll items + 1
  | .object members => LiteralMember.heightAll members + 1

/-- How deep the items of an array are nested. -/
def LiteralExpr.heightAll : List LiteralExpr → Nat
  | [] => 0
  | e :: rest => max e.height (LiteralExpr.heightAll rest)

/-- How deep the values of an object literal are nested. -/
def LiteralMember.heightAll : List LiteralMember → Nat
  | [] => 0
  | .pair _ e :: rest => max e.height (LiteralMember.heightAll rest)
  | .computed :: rest => LiteralMember.heightAll rest
  | .spread :: rest => LiteralMember.heightAll rest

end

mutual

/-- All keys in a literal that count. -/
def LiteralExpr.keys : LiteralExpr → List LiteralKey
  | .scalar _ => []
  | .array items => LiteralExpr.keysAll items
  | .object members => LiteralMember.keysAll members

/-- All keys in the items of an array. -/
def LiteralExpr.keysAll : List LiteralExpr → List LiteralKey
  | [] => []
  | e :: rest => e.keys ++ LiteralExpr.keysAll rest

/-- All keys of an object literal and in its values. -/
def LiteralMember.keysAll : List LiteralMember → List LiteralKey
  | [] => []
  | .pair key e :: rest => key :: (e.keys ++ LiteralMember.keysAll rest)
  | .computed :: rest => LiteralMember.keysAll rest
  | .spread :: rest => LiteralMember.keysAll rest

end

mutual

/-- All numbers in a literal, those that are keys included. -/
def LiteralExpr.numbers : LiteralExpr → List NumberToken
  | .scalar s => s.numbers
  | .array items => LiteralExpr.numbersAll items
  | .object members => LiteralMember.numbersAll members

/-- All numbers in the items of an array. -/
def LiteralExpr.numbersAll : List LiteralExpr → List NumberToken
  | [] => []
  | e :: rest => e.numbers ++ LiteralExpr.numbersAll rest

/-- All numbers in the keys of an object literal and in its values. -/
def LiteralMember.numbersAll : List LiteralMember → List NumberToken
  | [] => []
  | .pair key e :: rest => key.numbers ++ (e.numbers ++ LiteralMember.numbersAll rest)
  | .computed :: rest => LiteralMember.numbersAll rest
  | .spread :: rest => LiteralMember.numbersAll rest

end

mutual

/-- The value depends on the names of the keys that are in the literal only. -/
theorem LiteralExpr.value_congr {f g : LiteralKey → Text} :
    ∀ e : LiteralExpr, (∀ key ∈ e.keys, f key = g key) → e.value f = e.value g
  | .scalar _, _ => rfl
  | .array items, h => congrArg Tree.list (LiteralExpr.values_congr items h)
  | .object members, h => by
    rw [LiteralExpr.value, LiteralExpr.value, LiteralMember.pairs_congr members h]

theorem LiteralExpr.values_congr {f g : LiteralKey → Text} :
    ∀ items : List LiteralExpr, (∀ key ∈ LiteralExpr.keysAll items, f key = g key) →
      LiteralExpr.values f items = LiteralExpr.values g items
  | [], _ => rfl
  | e :: rest, h => by
    obtain ⟨hfirst, hrest⟩ := List.forall_mem_append.1 h
    rw [LiteralExpr.values, LiteralExpr.values, LiteralExpr.value_congr e hfirst,
      LiteralExpr.values_congr rest hrest]

theorem LiteralMember.pairs_congr {f g : LiteralKey → Text} :
    ∀ members : List LiteralMember, (∀ key ∈ LiteralMember.keysAll members, f key = g key) →
      LiteralMember.pairs f members = LiteralMember.pairs g members
  | [], _ => rfl
  | .pair key e :: rest, h => by
    obtain ⟨hkey, h⟩ := List.forall_mem_cons.1 h
    obtain ⟨hfirst, hrest⟩ := List.forall_mem_append.1 h
    rw [LiteralMember.pairs, LiteralMember.pairs, hkey, LiteralExpr.value_congr e hfirst,
      LiteralMember.pairs_congr rest hrest]
  | .computed :: rest, h => LiteralMember.pairs_congr rest h
  | .spread :: rest, h => LiteralMember.pairs_congr rest h

end

/-! ## Shapes -/

/-- How the nodes of a syntax tree show the parts of a literal. -/
structure NodeShape where
  /-- Whether a node is a scalar. -/
  scalar : Scalar → Tree → Bool
  /-- Whether a node is a key. -/
  key : LiteralKey → Tree → Bool
  /-- The nodes of the items of an array without holes. -/
  items? : Tree → Option (List Tree)
  /-- The nodes of the members of an object literal. -/
  members? : Tree → Option (List Tree)
  /-- The nodes of the key and of the value of a member whose key is not computed. -/
  pair? : Tree → Option (Tree × Tree)
  /-- Whether a node is a member whose key is computed. -/
  computed : Tree → Bool
  /-- Whether a node is a spread element. -/
  spread : Tree → Bool

mutual

/-- Whether a tree shows a literal. -/
def NodeShape.shows (shape : NodeShape) : LiteralExpr → Tree → Bool
  | .scalar s, node => shape.scalar s node
  | .array items, node => (shape.items? node).any (shape.showsItems items)
  | .object members, node => (shape.members? node).any (shape.showsMembers members)

/-- Whether some nodes show the items of an array. -/
def NodeShape.showsItems (shape : NodeShape) : List LiteralExpr → List Tree → Bool
  | [], nodes => nodes.isEmpty
  | _ :: _, [] => false
  | e :: rest, node :: nodes => shape.shows e node && shape.showsItems rest nodes

/-- Whether some nodes show the members of an object literal. -/
def NodeShape.showsMembers (shape : NodeShape) : List LiteralMember → List Tree → Bool
  | [], nodes => nodes.isEmpty
  | _ :: _, [] => false
  | .pair key e :: rest, node :: nodes =>
    (shape.pair? node).any (fun parts => shape.key key parts.1 && shape.shows e parts.2) &&
      shape.showsMembers rest nodes
  | .computed :: rest, node :: nodes => shape.computed node && shape.showsMembers rest nodes
  | .spread :: rest, node :: nodes => shape.spread node && shape.showsMembers rest nodes

end

namespace Tree

/-- Whether a tree is a number. -/
def isNumber : Tree → Bool
  | .int _ => true
  | .float _ => true
  | _ => false

/-- The truth value that a tree is. -/
def bool? : Tree → Option Bool
  | .bool b => some b
  | _ => none

/-- Whether a tree is what a number literal says. -/
def isLiteral : NumberLiteral → Tree → Bool
  | .int n, .int m => n == m
  | .float x, .float y => decide (x = y)
  | .other s, .text t => s == t
  | _, _ => false

theorem eq_of_isLiteral {literal : NumberLiteral} {t : Tree} (h : isLiteral literal t = true) :
    t = ofLiteral literal := by
  fun_cases isLiteral literal t with
  | case1 n m => rw [ofLiteral, beq_iff_eq.1 h]
  | case2 x y => rw [ofLiteral, of_decide_eq_true h]
  | case3 s t => rw [ofLiteral, beq_iff_eq.1 h]
  | case4 => simp_all [isLiteral]

theorem isNumber_ofLiteral {literal : NumberLiteral} (h : literal.isNumber = true) :
    (ofLiteral literal).isNumber = true := by
  cases literal with
  | other t => cases h
  | _ => rfl

theorem eq_of_bool? {t : Tree} {b : Bool} (h : t.bool? = some b) : t = .bool b := by
  cases t <;> simp_all [bool?]

theorem eq_null_of_isNull {t : Tree} (h : t.isNull = true) : t = .null := by
  cases t <;> simp_all [isNull]

theorem eq_of_text? {t : Tree} {text : Text} (h : t.text? = some text) : t = .text text := by
  cases t <;> simp_all [text?]

end Tree

/-! ### Scripts -/

namespace Estree

/-- Whether a node is a literal and no regular expression. -/
def isPlainLiteral (node : Tree) : Bool := isKind node "Literal" && (node.get? "regex").isNone

/-- Whether a node is a number that is written as a token, and has the value that is found of it. -/
def showsNumber (token : NumberToken) (node : Tree) : Bool :=
  isPlainLiteral node && (node.get "value").isLiteral token.found &&
    (node.get "raw").text? == some token.text

/-- Whether a node is a template that is one stretch of text. -/
def showsTemplate (text : Text) (node : Tree) : Bool :=
  isKind node "TemplateLiteral" && !(node.get "expressions").truthy &&
    match (node.get "quasis").items with
    | [quasi] => ((quasi.get "value").get "cooked").text? == some text
    | _ => false

/-- Whether a node is a scalar. -/
def showsScalar : Scalar → Tree → Bool
  | .string t, node => isPlainLiteral node && (node.get "value").text? == some t
  | .number token, node => showsNumber token node
  | .negative token, node =>
    isKind node "UnaryExpression" && node.hasText "operator" "-" &&
      showsNumber token (node.get "argument")
  | .bool b, node => isPlainLiteral node && (node.get "value").bool? == some b
  | .null, node => isPlainLiteral node && (node.get "value").isNull
  | .template t, node => showsTemplate t node

/-- Whether a node is a key. An identifier is there by its name. -/
def showsKey : LiteralKey → Tree → Bool
  | .identifier name _, node => isKind node "Identifier" && (node.get "name").text? == some name
  | .string t, node => isPlainLiteral node && (node.get "value").text? == some t
  | .number token, node => showsNumber token node

/-- How ESTree nodes show a literal. -/
def shape : NodeShape where
  scalar := showsScalar
  key := showsKey
  items? node :=
    let nodes := (node.get "elements").items
    if isKind node "ArrayExpression" && nodes.all Tree.isMap then some nodes else none
  members? node :=
    if isKind node "ObjectExpression" then some (node.get "properties").items else none
  pair? node :=
    if isKind node "Property" && !(node.get "computed").truthy && (node.get "value").isMap then
      some (node.get "key", node.get "value")
    else none
  computed node := isKind node "Property" && (node.get "computed").truthy
  spread node := isKind node "SpreadElement"

end Estree

/-! ### Typed scripts -/

namespace Cst

/-- Whether a node is a number that is written as a token. -/
def showsNumber (token : NumberToken) (node : Tree) : Bool :=
  isKind node "number" && (node.get "value").isLiteral (readNumber token.text) &&
    (node.get "text").text? == some token.text

/-- Whether a node is a template that is one stretch of text. -/
def showsTemplate (text : Text) (node : Tree) : Bool :=
  isKind node "template_string" && hasNoSubstitution node &&
    match (node.get "quasis").items with
    | [stretch] => stretch.text? == some text
    | _ => false

/-- Whether a node is a scalar. -/
def showsScalar : Scalar → Tree → Bool
  | .string t, node => isKind node "string" && (node.get "value").text? == some t
  | .number token, node => showsNumber token node
  | .negative token, node =>
    isKind node "unary_expression" && startsWithMinus (textOf node) &&
      showsNumber token (field node "argument")
  | .bool b, node => isKind node (if b then "true" else "false")
  | .null, node => isKind node "null"
  | .template t, node => showsTemplate t node

/-- Whether a node is a key. An identifier is there as it is written. -/
def showsKey : LiteralKey → Tree → Bool
  | .identifier _ written, node =>
    isKind node "property_identifier" && (node.get "text").text? == some written
  | .string t, node => isKind node "string" && (node.get "value").text? == some t
  | .number token, node => showsNumber token node

/-- How concrete syntax nodes show a literal. -/
def shape : NodeShape where
  scalar := showsScalar
  key := showsKey
  items? node := if isKind node "array" then some (children node) else none
  members? node := if isKind node "object" then some (children node) else none
  pair? node :=
    if isKind node "pair" && (field node "value").isMap then
      some (field node "key", field node "value")
    else none
  computed node := isKind node "pair" && isKind (field node "key") "computed_property_name"
  spread node := isKind node "spread_element"

end Cst

end EndpointCatalog
