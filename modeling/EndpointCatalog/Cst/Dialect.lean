/-
EndpointCatalog.Cst.Dialect — reading concrete syntax nodes.

A node is a mapping of its kind, line and text, the children that stand
under a grammar field (`fields`) and the other named children (`children`).

* Parentheses, type annotations and non-null marks around an expression
  change nothing about its value; `unwrap` takes them off.
-/
import EndpointCatalog.Dialect

namespace EndpointCatalog.Cst

/-- Whether a node is of a kind. -/
def isKind (node : Tree) (kind : String) : Bool := node.hasText "kind" kind

/-- The node under a grammar field, the first one if there are several; null if there is none. -/
def field (node : Tree) (name : String) : Tree :=
  match (node.get "fields").get name with
  | .list [] => .null
  | .list (first :: _) => first
  | value => value

/-- The children that stand under no field. -/
def children (node : Tree) : List Tree := (node.get "children").items

/-- The text of a node. -/
def textOf (node : Tree) : Text := (node.get "text").textOf

/-- The kinds around an expression that do not change its value. -/
def isTransparent (node : Tree) : Bool :=
  isKind node "parenthesized_expression" || isKind node "as_expression" ||
    isKind node "satisfies_expression" || isKind node "non_null_expression"

theorem isMap_of_isKind {node : Tree} {kind : String} (h : isKind node kind) : node.isMap :=
  Tree.isMap_of_hasText h

theorem isMap_of_isTransparent {node : Tree} (h : isTransparent node) : node.isMap := by
  simp only [isTransparent, Bool.or_eq_true] at h
  rcases h with ((h | h) | h) | h <;> exact isMap_of_isKind h

theorem sizeOf_field_lt {node : Tree} (h : node.isMap) (name : String) :
    sizeOf (field node name) < sizeOf node := by
  have outer := Tree.sizeOf_get_lt h "fields"
  have inner := Tree.sizeOf_get_le (node.get "fields") name
  unfold field
  split
  · have := Tree.one_lt_sizeOf_of_isMap h
    simp only [Tree.null.sizeOf_spec]; omega
  · rename_i first rest heq
    rw [heq] at inner
    simp only [Tree.list.sizeOf_spec, List.cons.sizeOf_spec] at inner
    omega
  · omega

theorem sizeOf_lt_of_children {node first : Tree} {rest : List Tree} (h : node.isMap)
    (eq : children node = first :: rest) : sizeOf first < sizeOf node := by
  have outer := Tree.sizeOf_get_lt h "children"
  unfold children at eq
  cases hc : node.get "children" <;> simp_all only [Tree.items, List.nil_eq, reduceCtorEq]
  simp only [Tree.list.sizeOf_spec, List.cons.sizeOf_spec] at outer
  omega

/-- What a transparent node stands around: its first child, or what its field says. -/
def inner (node : Tree) : Tree :=
  match children node with
  | [] => field node "expression"
  | first :: _ => first

theorem sizeOf_inner_lt {node : Tree} (h : isTransparent node) :
    sizeOf (inner node) < sizeOf node := by
  have hm := isMap_of_isTransparent h
  unfold inner
  split
  · exact sizeOf_field_lt hm _
  · rename_i heq
    exact sizeOf_lt_of_children hm heq

/-- The node below all transparent ones. -/
def unwrap (node : Tree) : Tree :=
  if _h : isTransparent node then unwrap (inner node) else node
termination_by sizeOf node
decreasing_by exact sizeOf_inner_lt _h

theorem sizeOf_unwrap_le (node : Tree) : sizeOf (unwrap node) ≤ sizeOf node := by
  fun_induction unwrap node with
  | case1 node h ih => exact Nat.le_trans ih (Nat.le_of_lt (sizeOf_inner_lt h))
  | case2 => exact Nat.le_refl _

/-- The name of a property key: a name, a string, or a number as it is written. -/
def keyName? (key : Tree) : Option Text :=
  if isKind key "property_identifier" then some (textOf key)
  else if isKind key "string" then some (key.get "value").textOf
  else if isKind key "number" then some (textOf key)
  else none

/-- The arguments of a call; a tagged template has none. -/
def callArguments (node : Tree) : List Tree :=
  let arguments := field node "arguments"
  if isKind arguments "arguments" then children arguments else []

/-- What a call calls. -/
def callee? (node : Tree) : Option Tree :=
  if isKind node "call_expression" then
    match field node "function" with
    | .null => none
    | callee => some callee
  else none

/-- A call of a member of a plain identifier. -/
def callShape? (node : Tree) : Option CallShape :=
  let callee := field node "function"
  let receiver := field callee "object"
  let member := field callee "property"
  if isKind node "call_expression" && isKind callee "member_expression" &&
      isKind receiver "identifier" && isKind member "property_identifier" then
    some ⟨textOf receiver, textOf member, callArguments node, (node.get "line").int?⟩
  else none

/-- The static text of a template. -/
def templateText (node : Tree) : Text := (node.get "quasis").items.flatMap Tree.textOf

/-- The static text of a string or template. -/
def routeText? (node : Tree) : Option Text :=
  let node := unwrap node
  if isKind node "string" then some (node.get "value").textOf
  else if isKind node "template_string" then some (templateText node)
  else none

/-- The static keys of an object literal and their value nodes; a shorthand property is its own
value. -/
def objectEntries? (node : Tree) : Option (List (Text × Tree)) :=
  let node := unwrap node
  if isKind node "object" then
    some <| (children node).filterMap fun child =>
      if isKind child "pair" then
        match keyName? (field child "key"), field child "value" with
        | some _, .null => none
        | some name, value => some (name, value)
        | none, _ => none
      else if isKind child "shorthand_property_identifier" then some (textOf child, child)
      else none
  else none

/-- Whether a text starts with a minus sign behind blanks. -/
def startsWithMinus (t : Text) : Bool :=
  (t.dropWhile fun p => isBlankPoint p.val).head? = some (CodePoint.ofChar '-')

/-- Whether a node counts as zero for a template's substitutions. -/
def hasNoSubstitution (node : Tree) : Bool :=
  match node.get? "substitutions" with
  | none => true
  | some (.int n) => n == 0
  | some _ => false

/-- The literal that a node is. -/
def literal? : Nat → Tree → Option Literal
  | 0, _ => none
  | depth + 1, node =>
    let inner := unwrap node
    if isKind inner "string" || isKind inner "number" then some (.value (inner.get "value"))
    else if isKind inner "template_string" && hasNoSubstitution inner then
      some (.value (.text (templateText inner)))
    else if isKind inner "true" then some (.value (.bool true))
    else if isKind inner "false" then some (.value (.bool false))
    else if isKind inner "null" || isKind inner "undefined" then some (.value .null)
    else if isKind inner "object" then do
      let entries ← ((objectEntries? inner).getD []).mapM fun (key, value) => do
        pure (key, (← literal? depth value).toTree value)
      pure (.value (.map (Entries.ofPairs entries)))
    else if isKind inner "array" then do
      let items ← (children inner).mapM fun item => do
        pure ((← literal? depth item).toTree item)
      pure (.value (.list items))
    else if isKind inner "unary_expression" then
      let argument := field inner "argument"
      if isKind argument "number" && startsWithMinus (textOf inner) then
        match (argument.get "value").negated? with
        | some v => some (.value v)
        | none => some .kept
      else some .kept
    else some .kept

/-- The name that a parameter binds; empty for a pattern. -/
def paramName (param : Tree) : Text :=
  let pattern := field param "pattern"
  if isKind pattern "identifier" then textOf pattern else []

/-- The parameter names of a function. -/
def functionParams? (node : Tree) : Option (List Text) :=
  if isKind node "arrow_function" || isKind node "function_expression" ||
      isKind node "function" then
    let single := field node "parameter"
    if isKind single "identifier" then some [textOf single]
    else
      let params := (children (field node "parameters")).filter fun param =>
        isKind param "required_parameter" || isKind param "optional_parameter"
      some (params.map paramName)
  else none

/-- The names along a chain of members below transparent nodes, the last one first. -/
def reversedChain? (node : Tree) : Option (List Text) :=
  if _h : isKind node "member_expression" then
    match field node "property" with
    | .null => none
    | property => do
      let rest ← reversedChain? (unwrap (field node "object"))
      pure (textOf property :: rest)
  else if _h : isKind node "subscript_expression" then
    let index := unwrap (field node "index")
    if isKind index "string" then do
      let rest ← reversedChain? (unwrap (field node "object"))
      pure ((index.get "value").textOf :: rest)
    else none
  else if isKind node "identifier" then some [textOf node]
  else none
termination_by sizeOf node
decreasing_by
  all_goals
    exact Nat.lt_of_le_of_lt (sizeOf_unwrap_le _) (sizeOf_field_lt (isMap_of_isKind _h) _)

/-- The names along a chain of members, the leftmost identifier first. -/
def memberChain? (node : Tree) : Option (List Text) :=
  (reversedChain? (unwrap node)).map List.reverse

/-- The key that an entry of an object pattern binds. -/
def boundKey? (child : Tree) : Option Text :=
  if isKind child "shorthand_property_identifier_pattern" then some (textOf child)
  else if isKind child "pair_pattern" then keyName? (field child "key")
  else if isKind child "object_assignment_pattern" then
    match field child "left" with
    | .null => none
    | left => some (textOf left)
  else none

/-- A declaration by an object pattern. -/
def destructuring? (node : Tree) : Option Destructuring :=
  let pattern := field node "name"
  if isKind node "variable_declarator" && isKind pattern "object_pattern" then
    match field node "value" with
    | .null => none
    | source => some ⟨(children pattern).filterMap boundKey?, source⟩
  else none

/-- The dialect of concrete syntax nodes. -/
def dialect : Dialect where
  callShape? := callShape?
  routeText? := routeText?
  literal? := literal?
  objectEntries? := objectEntries?
  functionParams? := functionParams?
  memberChain? := memberChain?
  callee? := callee?
  callArguments := callArguments
  destructuring? := destructuring?

end EndpointCatalog.Cst
