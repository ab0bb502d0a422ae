/-
EndpointCatalog.Proofs.Handler.Script — code in ESTree nodes.

Parentheses have no node of their own, and a default in a pattern has one more
than in the source (`Estree.codeParts?`). Words are there by their names.
-/
import EndpointCatalog.Estree.Dialect
import EndpointCatalog.Proofs.Handler.Shape
import EndpointCatalog.Proofs.Literal.Agreement

namespace EndpointCatalog.Estree

/-! ## The shape of nodes -/

/-- Whether a node is of a kind that may read. -/
def mayRead (node : Tree) : Bool :=
  isKind node "MemberExpression" || isKind node "CallExpression" ||
    isKind node "VariableDeclarator"

/-- The name of an identifier. -/
def identifierName? (node : Tree) : Option Text :=
  if isKind node "Identifier" then (node.get "name").text? else none

/-- The text of a string. -/
def stringText? (node : Tree) : Option Text :=
  if isKind node "Literal" then (node.get "value").text? else none

/-- The static key of a property. -/
def staticKey? (node : Tree) : Option Text :=
  if isKind node "Property" && !(node.get "computed").truthy then keyName? (node.get "key")
  else none

/-- The static keys of an object pattern. -/
def patternKeys? (node : Tree) : Option (List Text) :=
  if isKind node "ObjectPattern" then some ((node.get "properties").items.filterMap staticKey?)
  else none

/-- The kinds of the nodes of a form. Parentheses have no node of their own. -/
def kinds : Form → List String
  | .identifier _ => ["Identifier"]
  | .target _ => ["Identifier"]
  | .string _ => ["Literal"]
  | .dot _ => ["MemberExpression"]
  | .index _ => ["MemberExpression"]
  | .call => ["CallExpression"]
  | .object => ["ObjectExpression"]
  | .pair _ => ["Property"]
  | .array => ["ArrayExpression"]
  | .paren => []
  | .function _ => ["ArrowFunctionExpression", "FunctionExpression"]
  | .block => ["BlockStatement"]
  | .expression => ["ExpressionStatement"]
  | .return => ["ReturnStatement"]
  | .declaration => ["VariableDeclaration"]
  | .declarator => ["VariableDeclarator"]
  | .pattern => ["ObjectPattern"]
  | .bound _ => ["Property"]
  | .boundDefault _ => ["Property"]
  | .renamed _ => ["Property"]
  | .assigned => ["AssignmentPattern"]
  | .computed => ["Property"]
  | .rest => ["RestElement"]

/-- Whether the words of a form are in a node of its kinds, and its parts where they belong. -/
def isComplete : Form → Tree → Bool
  | .identifier w, node => (node.get "name").text? == some w.name
  | .target w, node => (node.get "name").text? == some w.name
  | .string w, node => (node.get "value").text? == some w.name
  | .dot w, node => (node.get "object").isMap &&
      (!(node.get "computed").truthy && identifierName? (node.get "property") == some w.name)
  | .index w, node => (node.get "object").isMap &&
      ((node.get "computed").truthy && stringText? (node.get "property") == some w.name)
  | .call, node => (node.get "callee").isMap && (node.get "arguments").isNodeList
  | .pair w, node => staticKey? node == some w.name
  | .function params, node =>
    (node.get "params").items.map identifierName? == params.map fun w => some w.name
  | .declarator, node => (node.get "id").isMap &&
      ((node.get "init").isMap || (node.get "init").isNull)
  | .pattern, node => (node.get "properties").isNodeList
  | .bound w, node => staticKey? node == some w.name
  | .boundDefault w, node => staticKey? node == some w.name
  | .renamed w, node => staticKey? node == some w.name
  | .computed, node => (node.get "computed").truthy
  | _, _ => true

/-- Whether a node is of a form. -/
def stands (form : Form) (node : Tree) : Bool :=
  (kinds form).any (isKind node) && isComplete form node

/-- The keys under which the parts of a form stand. -/
def partKeys : Form → List String
  | .dot _ => ["object"]
  | .index _ => ["object"]
  | .call => ["callee", "arguments"]
  | .object => ["properties"]
  | .pair _ => ["value"]
  | .array => ["elements"]
  | .function _ => ["body"]
  | .block => ["body"]
  | .expression => ["expression"]
  | .return => ["argument"]
  | .declaration => ["declarations"]
  | .declarator => ["id", "init"]
  | .pattern => ["properties"]
  | .renamed _ => ["value"]
  | .assigned => ["left", "right"]
  | .computed => ["key", "value"]
  | _ => []

/-- The nodes of the parts of a form. A default stands in a node between a property and its
value. -/
def codeParts? (form : Form) (node : Tree) : Option (List Tree) :=
  match form with
  | .paren =>
    if node.isMap && (!isKind node "Property" && !isKind node "ObjectPattern") then some [node]
    else none
  | .boundDefault w =>
    if stands (.boundDefault w) node && node.holdsOnly mayRead ["value"] &&
        isKind (node.get "value") "AssignmentPattern" &&
        (node.get "value").holdsOnly mayRead ["right"] then
      some ((node.get "value").get "right").nodes
    else none
  | form =>
    if stands form node && node.holdsOnly mayRead (partKeys form) then
      some ((partKeys form).flatMap fun key => (node.get key).nodes)
    else none

/-- How ESTree nodes show code. -/
def codeShape : CodeShape := ⟨codeParts?⟩

/-! ## What nodes answer -/

variable {node : Tree}

theorem memberChain?_of_member (h : isKind node "MemberExpression" = true) :
    memberChain? node = (memberName? node).bind fun name =>
      (memberChain? (node.get "object")).map fun chain => chain ++ [name] := by
  rw [memberChain?, reversedChain?, dif_pos h]
  cases memberName? node with
  | none => rfl
  | some name =>
    simp only [memberChain?]
    cases reversedChain? (node.get "object") <;> simp

theorem memberChain?_of_other (h : isKind node "MemberExpression" = false) :
    memberChain? node =
      if isKind node "Identifier" then some [(node.get "name").textOf] else none := by
  rw [memberChain?, reversedChain?, dif_neg (by simp [h])]
  split <;> rfl

theorem destructuring?_eq (node : Tree) : destructuring? node =
    if isKind node "VariableDeclarator" && (node.get "init").isMap then
      (patternKeys? (node.get "id")).map fun keys => ⟨keys, node.get "init"⟩
    else none := by
  unfold destructuring? patternKeys?
  by_cases hpattern : isKind (node.get "id") "ObjectPattern" = true
  · simp only [hpattern, Bool.and_true, if_true, Option.map_some]
    rfl
  · simp [hpattern]

/-- A node of another kind says nothing about reads. -/
theorem isIdle_view (h : mayRead node = false) : (dialect.view node).IsIdle := by
  simp only [mayRead, Bool.or_eq_false_iff] at h
  obtain ⟨⟨hmember, hcall⟩, hdeclarator⟩ := h
  refine ⟨?_, ?_, ?_⟩
  · intro chain hchain
    have hchain : memberChain? node = some chain := hchain
    rw [memberChain?_of_other hmember] at hchain
    split at hchain
    · rw [← Option.some.inj hchain]
      exact Nat.le_refl 1
    · cases hchain
  · show (destructuring? node).map _ = none
    rw [destructuring?_eq, hdeclarator]
    rfl
  · show (callee? node).map _ = none
    rw [callee?, hcall]
    rfl

theorem identifierName?_eq_some_iff {name : Text} : identifierName? node = some name ↔
    isKind node "Identifier" = true ∧ node.get "name" = .text name := by
  unfold identifierName?
  split
  · next hkind =>
    exact ⟨fun h => ⟨hkind, Tree.eq_of_text? h⟩, fun h => by rw [h.2]; rfl⟩
  · next hkind => simp [hkind]

theorem stringText?_eq_some_iff {text : Text} : stringText? node = some text ↔
    isKind node "Literal" = true ∧ node.get "value" = .text text := by
  unfold stringText?
  split
  · next hkind =>
    exact ⟨fun h => ⟨hkind, Tree.eq_of_text? h⟩, fun h => by rw [h.2]; rfl⟩
  · next hkind => simp [hkind]

/-! ## The laws of the shape -/

variable {form : Form} {parts : List Code} {nodes : List Tree}

theorem stands_of_codeParts? (h : codeParts? form node = some nodes) (hform : form ≠ .paren) :
    (∃ kind ∈ kinds form, isKind node kind = true) ∧ isComplete form node = true := by
  have hstands : stands form node = true := by
    unfold codeParts? at h
    split at h
    · exact absurd rfl hform
    · obtain ⟨hcond, -⟩ := Option.ite_none_right_eq_some.1 h
      simp only [Bool.and_eq_true] at hcond
      exact hcond.1.1.1
    · obtain ⟨hcond, -⟩ := Option.ite_none_right_eq_some.1 h
      exact (Bool.and_eq_true_iff.1 hcond).1
  obtain ⟨hkind, hcomplete⟩ := Bool.and_eq_true_iff.1 hstands
  exact ⟨List.any_eq_true.1 hkind, hcomplete⟩

/-- A node of a form with one kind is of this kind. -/
theorem isKind_of_codeParts? {kind : String} (h : codeParts? form node = some nodes)
    (hkinds : kinds form = [kind]) : isKind node kind = true := by
  have hform : form ≠ .paren := by
    rintro rfl
    cases hkinds
  obtain ⟨⟨found, hmem, hfound⟩, -⟩ := stands_of_codeParts? h hform
  rw [hkinds, List.mem_singleton] at hmem
  rwa [← hmem]

/-- The answers of the dialect for a code. -/
abbrev AnswersFor (c : Code) (node : Tree) : Prop :=
  Answers dialect Naming.script staticKey? patternKeys? c node

section

variable {kind : String}

theorem memberChain?_eq_none (h : isKind node kind = true)
    (hkind : kind ∉ ["MemberExpression", "Identifier"]) : memberChain? node = none := by
  simp only [List.mem_cons, List.not_mem_nil, or_false, not_or, ← ne_eq,
    ← beq_eq_false_iff_ne] at hkind
  rw [memberChain?_of_other (by rw [isKind_eq h, hkind.1]), isKind_eq h, hkind.2]
  rfl

theorem routeText?_eq_none (h : isKind node kind = true)
    (hkind : kind ∉ ["Literal", "TemplateLiteral"]) : routeText? node = none := by
  simp only [List.mem_cons, List.not_mem_nil, or_false, not_or, ← ne_eq,
    ← beq_eq_false_iff_ne] at hkind
  rw [routeText?, isKind_eq h, isKind_eq h, hkind.1, hkind.2]
  rfl

theorem staticKey?_eq_none (h : isKind node kind = true) (hkind : kind ≠ "Property") :
    staticKey? node = none := by
  rw [staticKey?, isKind_eq h, beq_eq_false_iff_ne.2 hkind]
  rfl

theorem patternKeys?_eq_none (h : isKind node kind = true) (hkind : kind ≠ "ObjectPattern") :
    patternKeys? node = none := by
  rw [patternKeys?, isKind_eq h, beq_eq_false_iff_ne.2 hkind]
  rfl

/-- A node of another kind answers for nothing. -/
theorem answers_of_isKind {c : Code} (h : isKind node kind = true)
    (hkind : kind ∉ ["MemberExpression", "Identifier"] ∧ kind ∉ ["Literal", "TemplateLiteral"] ∧
      kind ≠ "Property" ∧ kind ≠ "ObjectPattern")
    (hc : c.chain? .script = none ∧ c.text? .script = none ∧ c.form.key? .script = none ∧
      c.keys? .script = none) : AnswersFor c node where
  chain := (memberChain?_eq_none h hkind.1).trans hc.1.symm
  text := (routeText?_eq_none h hkind.2.1).trans hc.2.1.symm
  key := (staticKey?_eq_none h hkind.2.2.1).trans hc.2.2.1.symm
  keys := (patternKeys?_eq_none h hkind.2.2.2).trans hc.2.2.2.symm

/-- An identifier is a chain of one name. -/
theorem answers_of_identifier {c : Code} {name : Text} (hkind : isKind node "Identifier" = true)
    (hname : (node.get "name").text? = some name)
    (hc : c.chain? .script = some [name] ∧ c.text? .script = none ∧
      c.form.key? .script = none ∧ c.keys? .script = none) : AnswersFor c node := by
  refine ⟨?_, (routeText?_eq_none hkind (by decide)).trans hc.2.1.symm,
    (staticKey?_eq_none hkind (by decide)).trans hc.2.2.1.symm,
    (patternKeys?_eq_none hkind (by decide)).trans hc.2.2.2.symm⟩
  show memberChain? node = _
  rw [memberChain?_of_other (by rw [isKind_eq hkind]; rfl), if_pos hkind, Tree.textOf, hname, hc.1]
  rfl

/-- A member goes on with the chain of its object. -/
theorem answers_of_memberName? {c o : Code} {name : Text}
    (hkind : isKind node "MemberExpression" = true) (hname : memberName? node = some name)
    (ho : AnswersFor o (node.get "object"))
    (hc : c.chain? .script = (o.chain? .script).map (fun chain => chain ++ [name]) ∧
      c.text? .script = none ∧ c.form.key? .script = none ∧ c.keys? .script = none) :
    AnswersFor c node := by
  refine ⟨?_, (routeText?_eq_none hkind (by decide)).trans hc.2.1.symm,
    (staticKey?_eq_none hkind (by decide)).trans hc.2.2.1.symm,
    (patternKeys?_eq_none hkind (by decide)).trans hc.2.2.2.symm⟩
  have hchain : memberChain? (node.get "object") = o.chain? .script := ho.chain
  show memberChain? node = _
  rw [memberChain?_of_member hkind, hname, hc.1, hchain]
  rfl

/-- An entry of a pattern stands under its static key. -/
theorem answers_of_property {c : Code} (hkind : isKind node "Property" = true)
    (hkey : staticKey? node = c.form.key? .script)
    (hc : c.chain? .script = none ∧ c.text? .script = none ∧ c.keys? .script = none) :
    AnswersFor c node where
  chain := (memberChain?_eq_none hkind (by decide)).trans hc.1.symm
  text := (routeText?_eq_none hkind (by decide)).trans hc.2.1.symm
  key := hkey
  keys := (patternKeys?_eq_none hkind (by decide)).trans hc.2.2.symm

end

/-- The parts of most forms stand under the keys of the form. -/
theorem nodes_of_codeParts? (h : codeParts? form node = some nodes)
    (hform : form ≠ .paren ∧ ∀ w, form ≠ .boundDefault w) :
    node.holdsOnly mayRead (partKeys form) = true ∧
      nodes = (partKeys form).flatMap fun key => (node.get key).nodes := by
  unfold codeParts? at h
  split at h
  · exact absurd rfl hform.1
  · exact absurd rfl (hform.2 _)
  · obtain ⟨hcond, hnodes⟩ := Option.ite_none_right_eq_some.1 h
    exact ⟨(Bool.and_eq_true_iff.1 hcond).2, (Option.some.inj hnodes).symm⟩

/-- The part of a member is what stands as its object. -/
theorem object_of_codeParts? (h : codeParts? form node = some nodes)
    (hform : form ≠ .paren ∧ ∀ w, form ≠ .boundDefault w) (hkeys : partKeys form = ["object"])
    (hobject : (node.get "object").isMap = true) (hparts : List.Forall₂ AnswersFor parts nodes) :
    ∃ o, AnswersFor o (node.get "object") ∧ parts = [o] := by
  obtain ⟨-, rfl⟩ := nodes_of_codeParts? h hform
  rw [hkeys, List.flatMap_singleton, Tree.nodes_of_isMap hobject] at hparts
  obtain ⟨o, rest, ho, hrest, rfl⟩ := List.forall₂_cons_right_iff.1 hparts
  obtain rfl := List.forall₂_nil_right_iff.1 hrest
  exact ⟨o, ho, rfl⟩

/-- A node that shows a form answers for it if its parts do. -/
theorem answers_of_codeParts? (h : codeParts? form node = some nodes)
    (hparts : List.Forall₂ AnswersFor parts nodes) : AnswersFor (.node form parts) node := by
  cases form with
  | identifier w =>
    obtain ⟨-, hname⟩ := stands_of_codeParts? h (by simp)
    exact answers_of_identifier (isKind_of_codeParts? h rfl) (beq_iff_eq.1 hname)
      ⟨rfl, rfl, rfl, rfl⟩
  | target w =>
    obtain ⟨-, hname⟩ := stands_of_codeParts? h (by simp)
    exact answers_of_identifier (isKind_of_codeParts? h rfl) (beq_iff_eq.1 hname)
      ⟨rfl, rfl, rfl, rfl⟩
  | string w =>
    have hkind := isKind_of_codeParts? h rfl
    obtain ⟨-, hvalue⟩ := stands_of_codeParts? h (by simp)
    refine ⟨memberChain?_eq_none hkind (by decide), ?_, staticKey?_eq_none hkind (by decide),
      patternKeys?_eq_none hkind (by decide)⟩
    show routeText? node = _
    rw [routeText?, if_pos hkind, beq_iff_eq.1 hvalue]
    rfl
  | dot w =>
    obtain ⟨-, hcomplete⟩ := stands_of_codeParts? h (by simp)
    simp only [isComplete, Bool.and_eq_true, Bool.not_eq_true', beq_iff_eq] at hcomplete
    obtain ⟨hobject, hcomputed, hname⟩ := hcomplete
    obtain ⟨hproperty, hname⟩ := identifierName?_eq_some_iff.1 hname
    obtain ⟨o, ho, rfl⟩ := object_of_codeParts? h (by simp) rfl hobject hparts
    refine answers_of_memberName? (isKind_of_codeParts? h rfl) ?_ ho ⟨rfl, rfl, rfl, rfl⟩
    rw [memberName?, hcomputed, hproperty, hname]
    rfl
  | index w =>
    obtain ⟨-, hcomplete⟩ := stands_of_codeParts? h (by simp)
    simp only [isComplete, Bool.and_eq_true, beq_iff_eq] at hcomplete
    obtain ⟨hobject, hcomputed, htext⟩ := hcomplete
    obtain ⟨hproperty, htext⟩ := stringText?_eq_some_iff.1 htext
    obtain ⟨o, ho, rfl⟩ := object_of_codeParts? h (by simp) rfl hobject hparts
    refine answers_of_memberName? (isKind_of_codeParts? h rfl) ?_ ho ⟨rfl, rfl, rfl, rfl⟩
    rw [memberName?, hcomputed, hproperty, htext]
    rfl
  | paren =>
    obtain ⟨hcond, hself⟩ := Option.ite_none_right_eq_some.1 h
    obtain rfl := Option.some.inj hself
    simp only [Bool.and_eq_true, Bool.not_eq_true'] at hcond
    obtain ⟨-, hproperty, hpattern⟩ := hcond
    obtain ⟨e, rest, he, -, rfl⟩ := List.forall₂_cons_right_iff.1 hparts
    refine ⟨he.chain, he.text, ?_, ?_⟩
    · rw [staticKey?, hproperty]
      rfl
    · rw [patternKeys?, hpattern]
      rfl
  | pattern =>
    have hkind := isKind_of_codeParts? h rfl
    obtain ⟨-, hproperties⟩ := stands_of_codeParts? h (by simp)
    obtain ⟨-, rfl⟩ := nodes_of_codeParts? h (by simp)
    simp only [partKeys, List.flatMap_cons, List.flatMap_nil, List.append_nil,
      Tree.nodes_of_isNodeList hproperties] at hparts
    refine ⟨memberChain?_eq_none hkind (by decide), routeText?_eq_none hkind (by decide),
      staticKey?_eq_none hkind (by decide), ?_⟩
    rw [patternKeys?, if_pos hkind, filterMap_key?_eq hparts]
    rfl
  | computed =>
    have hkind := isKind_of_codeParts? h rfl
    obtain ⟨-, hcomputed⟩ := stands_of_codeParts? h (by simp)
    refine answers_of_property hkind ?_ ⟨rfl, rfl, rfl⟩
    have hcomputed : (node.get "computed").truthy = true := hcomputed
    rw [staticKey?, hkind, hcomputed]
    rfl
  | pair w | bound w | boundDefault w | renamed w =>
    obtain ⟨-, hkey⟩ := stands_of_codeParts? h (by simp)
    exact answers_of_property (isKind_of_codeParts? h rfl) (beq_iff_eq.1 hkey) ⟨rfl, rfl, rfl⟩
  | _ =>
    obtain ⟨⟨kind, hmem, hkind⟩, -⟩ := stands_of_codeParts? h (by simp)
    refine answers_of_isKind hkind ?_ ⟨rfl, rfl, rfl, rfl⟩
    clear hkind
    revert kind
    simp [kinds]

/-- A node that neither calls nor binds by a pattern says what its chain says. -/
theorem view_of_isKind {kind : String} {c : Code} (h : isKind node kind = true)
    (hkind : kind ∉ ["VariableDeclarator", "CallExpression"]) (hnode : AnswersFor c node)
    (hc : c.view .script = { chain? := c.chain? .script }) :
    dialect.view node = c.view .script := by
  simp only [List.mem_cons, List.not_mem_nil, or_false, not_or, ← ne_eq,
    ← beq_eq_false_iff_ne] at hkind
  have hbinding : destructuring? node = none := by
    rw [destructuring?_eq, isKind_eq h, hkind.1]
    rfl
  have hcall : callee? node = none := by
    rw [callee?, isKind_eq h, hkind.2]
    rfl
  rw [hc, ← hnode.chain]
  show View.mk (memberChain? node) ((destructuring? node).map _) ((callee? node).map _) = _
  rw [hbinding, hcall]
  rfl

theorem view_call (h : codeParts? .call node = some nodes)
    (hparts : List.Forall₂ AnswersFor parts nodes) :
    dialect.view node = (Code.node .call parts).view .script := by
  have hkind := isKind_of_codeParts? h rfl
  obtain ⟨-, hcomplete⟩ := stands_of_codeParts? h (by simp)
  obtain ⟨hcallee, harguments⟩ := Bool.and_eq_true_iff.1 hcomplete
  obtain ⟨-, rfl⟩ := nodes_of_codeParts? h (by simp)
  simp only [partKeys, List.flatMap_cons, List.flatMap_nil, List.append_nil,
    Tree.nodes_of_isMap hcallee, Tree.nodes_of_isNodeList harguments] at hparts
  obtain ⟨callee, arguments, hanswers, hrest, rfl⟩ := List.forall₂_cons_right_iff.1 hparts
  have hchain : memberChain? node = none := memberChain?_eq_none hkind (by decide)
  have hbinding : destructuring? node = none := by
    rw [destructuring?_eq, isKind_eq hkind]
    rfl
  have hcalled : callee? node = some (node.get "callee") := by
    rw [callee?, if_pos hkind, Tree.get?_of_isMap hcallee]
  have hfirst : (callArguments node).head?.bind routeText? =
      arguments.head?.bind (Code.text? .script) := by
    rw [callArguments, Tree.filter_isMap_items harguments]
    exact head?_text?_eq hrest
  have hcallee : memberChain? (node.get "callee") = callee.chain? .script := hanswers.chain
  show View.mk (memberChain? node) ((destructuring? node).map _) ((callee? node).map fun called =>
    (memberChain? called, (callArguments node).head?.bind routeText?)) = _
  rw [hchain, hbinding, hcalled, hfirst, Option.map_some, hcallee]
  rfl

theorem view_declarator (h : codeParts? .declarator node = some nodes)
    (hparts : List.Forall₂ AnswersFor parts nodes) :
    dialect.view node = (Code.node .declarator parts).view .script := by
  have hkind := isKind_of_codeParts? h rfl
  obtain ⟨-, hcomplete⟩ := stands_of_codeParts? h (by simp)
  obtain ⟨htarget, hsource⟩ := Bool.and_eq_true_iff.1 hcomplete
  obtain ⟨-, rfl⟩ := nodes_of_codeParts? h (by simp)
  simp only [partKeys, List.flatMap_cons, List.flatMap_nil, List.append_nil,
    Tree.nodes_of_isMap htarget] at hparts
  obtain ⟨target, rest, hanswers, hrest, rfl⟩ := List.forall₂_cons_right_iff.1 hparts
  have hchain : memberChain? node = none := memberChain?_eq_none hkind (by decide)
  have hcalled : callee? node = none := by
    rw [callee?, isKind_eq hkind]
    rfl
  show View.mk (memberChain? node) ((destructuring? node).map fun found =>
    (found.keys, memberChain? found.source)) ((callee? node).map _) = _
  rw [hchain, hcalled, destructuring?_eq, hkind, hanswers.keys]
  rcases Bool.or_eq_true_iff.1 hsource with hmap | hnull
  · rw [Tree.nodes_of_isMap hmap] at hrest
    obtain ⟨source, none', hinit, hnil, rfl⟩ := List.forall₂_cons_right_iff.1 hrest
    obtain rfl := List.forall₂_nil_right_iff.1 hnil
    have hinit : memberChain? (node.get "init") = source.chain? .script := hinit.chain
    rw [hmap, Code.view, ← hinit]
    cases target.keys? .script <;> rfl
  · cases hvalue : node.get "init" with
    | null =>
      rw [hvalue] at hrest
      obtain rfl := List.forall₂_nil_right_iff.1 hrest
      rfl
    | _ =>
      rw [hvalue] at hnull
      cases hnull

/-- A node says what the place says, if it has a node of its own. -/
theorem view_eq (h : codeParts? form node = some nodes)
    (hparts : List.Forall₂ AnswersFor parts nodes) (hform : form ≠ .paren) :
    dialect.view node = (Code.node form parts).view .script := by
  have hanswers := answers_of_codeParts? h hparts
  cases form with
  | call => exact view_call h hparts
  | declarator => exact view_declarator h hparts
  | paren => exact absurd rfl hform
  | _ =>
    obtain ⟨⟨kind, hmem, hkind⟩, -⟩ := stands_of_codeParts? h hform
    refine view_of_isKind hkind ?_ hanswers rfl
    clear hkind
    revert kind
    simp [kinds]

/-- What reads in a node is the node itself, or one of its parts. -/
theorem reads_codeParts? {R : View → Prop} (hR : View.IsQuestion R)
    (h : codeParts? form node = some nodes) (hparts : List.Forall₂ AnswersFor parts nodes) :
    (∃ m ∈ node.mappings, R (dialect.view m)) ↔ R ((Code.node form parts).view .script) ∨
      ∃ part ∈ nodes, ∃ m ∈ part.mappings, R (dialect.view m) := by
  have hidle : ∀ m, mayRead m = false → ¬ R (dialect.view m) :=
    fun m hm => hR.idle _ (isIdle_view hm)
  by_cases hparen : form = .paren
  · -- What stands in parentheses has no other node.
    subst hparen
    obtain ⟨hcond, hself⟩ := Option.ite_none_right_eq_some.1 h
    obtain rfl := Option.some.inj hself
    obtain ⟨hmap, -⟩ := Bool.and_eq_true_iff.1 hcond
    obtain ⟨e, rest, he, hrest, rfl⟩ := List.forall₂_cons_right_iff.1 hparts
    simp only [List.mem_singleton, exists_eq_left]
    refine ⟨.inr, fun hread => hread.elim (fun hview => ?_) id⟩
    have hchain : (dialect.view node).chain? = e.chain? .script := he.chain
    refine ⟨node, Tree.mem_mappings_self hmap, hR.chain _ ?_⟩
    rw [hchain]
    exact hview
  · rw [← view_eq h hparts hparen]
    by_cases hdefault : ∀ w, form ≠ .boundDefault w
    · obtain ⟨hholds, rfl⟩ := nodes_of_codeParts? h ⟨hparen, hdefault⟩
      exact Tree.exists_parts_iff hidle hholds
    · -- The node of the default says nothing itself.
      simp only [not_forall, not_not] at hdefault
      obtain ⟨w, rfl⟩ := hdefault
      obtain ⟨hcond, hnodes⟩ := Option.ite_none_right_eq_some.1 h
      obtain rfl := Option.some.inj hnodes
      simp only [Bool.and_eq_true] at hcond
      obtain ⟨⟨⟨-, hholds⟩, hkind⟩, hvalue⟩ := hcond
      have hassigned : mayRead (node.get "value") = false := by
        simp only [mayRead, isKind_eq hkind]
        rfl
      rw [Tree.exists_mappings_iff hidle hholds]
      simp only [List.mem_singleton, exists_eq_left]
      rw [Tree.exists_parts_iff hidle hvalue, List.flatMap_singleton,
        or_iff_right (hidle _ hassigned)]

/-- A handler that takes the plain parameters of a code calls its request as the code does. -/
theorem requestName?_of_codeParts? {params : List Word}
    (h : codeParts? (.function params) node = some nodes) :
    requestName? dialect node = (Code.node (.function params) parts).request? .script := by
  obtain ⟨⟨kind, hmem, hkind⟩, hcomplete⟩ := stands_of_codeParts? h (by simp)
  have hfunction : (isKind node "ArrowFunctionExpression" ||
      isKind node "FunctionExpression") = true := by
    rcases List.mem_pair.1 hmem with rfl | rfl
    · rw [hkind, Bool.true_or]
    · rw [hkind, Bool.or_true]
  have hparams : (node.get "params").items.map identifierName? = params.map fun w => some w.name :=
    beq_iff_eq.1 hcomplete
  have hshown : dialect.functionParams? node = some ((node.get "params").items.map paramName) :=
    if_pos hfunction
  rw [requestName?, hshown]
  cases params with
  | nil =>
    rw [List.map_nil, List.map_eq_nil_iff] at hparams
    rw [hparams]
    rfl
  | cons w rest =>
    obtain ⟨first, others, hitems, hfirst, -⟩ := List.map_eq_cons_iff.1 hparams
    obtain ⟨hidentifier, hname⟩ := identifierName?_eq_some_iff.1 hfirst
    have hfirst : paramName first = w.name := by
      have hplain : isKind first "AssignmentPattern" = false := isKind_eq hidentifier _
      simp only [paramName, hplain, Bool.false_eq_true, if_false, if_pos hidentifier, hname]
      rfl
    rw [hitems, List.map_cons, hfirst]
    rfl

/-- ESTree nodes that show a code are read as the code is. -/
theorem codeShape_readBy :
    codeShape.ReadBy dialect Naming.script staticKey? patternKeys? where
  answers := answers_of_codeParts?
  reads := reads_codeParts?
  request := requestName?_of_codeParts?

end EndpointCatalog.Estree
