/-
EndpointCatalog.Proofs.Handler.Typed — code in concrete syntax nodes.

The parts of a node stand under its fields or among its other children, and
the arguments of a call and a computed key have a node more than in the
source (`Cst.codeParts?`). Words are there as they are written, strings by
what they say. An identifier that is called `undefined` is a node of a kind
of its own.
-/
import EndpointCatalog.Proofs.Comments.Reads
import EndpointCatalog.Proofs.Handler.Shape
import EndpointCatalog.Proofs.Literal.Agreement

namespace EndpointCatalog.Cst

/-! ## The shape of nodes -/

/-- Whether a node is of a kind that may read. -/
def mayRead (node : Tree) : Bool :=
  isKind node "member_expression" || isKind node "subscript_expression" ||
    isKind node "call_expression" || isKind node "variable_declarator" || isTransparent node

/-- The text of a string. -/
def stringText? (node : Tree) : Option Text :=
  if isKind node "string" then (node.get "value").text? else none

/-- The name that a plain parameter binds. -/
def plainName? (param : Tree) : Option Text :=
  if isKind param "required_parameter" && isKind (field param "pattern") "identifier" then
    some (textOf (field param "pattern"))
  else none

/-- The names that the parameters of a function bind, if these are plain. -/
def plainNames (node : Tree) : List (Option Text) :=
  if isKind (field node "parameter") "identifier" then [some (textOf (field node "parameter"))]
  else (children (field node "parameters")).map plainName?

/-- Whether there is one node under a field. -/
def hasField (node : Tree) (name : String) : Bool := ((node.get "fields").get name).isMap

/-- Whether there is nothing under a field. -/
def lacksField (node : Tree) (name : String) : Bool := ((node.get "fields").get name).isNull

/-- The key that a pair or an entry of a pattern stands under. -/
def staticKey? (node : Tree) : Option Text :=
  if isKind node "pair" then keyName? (field node "key") else boundKey? node

/-- The static keys of an object pattern. -/
def patternKeys? (node : Tree) : Option (List Text) :=
  if isKind node "object_pattern" then some ((children node).filterMap boundKey?) else none

/-- Whether all that may read in a node stands under some of its fields or, if it may, among the
other children. -/
def holdsOnly (fields : List String) (below : Bool) (node : Tree) : Bool :=
  node.holdsOnly mayRead ["fields", "children"] &&
    ((node.get "fields").holdsOnly mayRead fields && !mayRead (node.get "fields")) &&
    (below || (node.get "children").isIdle mayRead)

/-- The nodes under some fields, and the other children if these count. -/
def partsUnder (fields : List String) (below : Bool) (node : Tree) : List Tree :=
  fields.flatMap (fun name => ((node.get "fields").get name).nodes) ++
    if below then (node.get "children").nodes else []

/-- The kinds of the nodes of a form. -/
def kinds : Form → List String
  | .identifier w => if w.written = "undefined" then ["undefined"] else ["identifier"]
  | .target _ => ["identifier"]
  | .string _ => ["string"]
  | .dot _ => ["member_expression"]
  | .index _ => ["subscript_expression"]
  | .call => ["call_expression"]
  | .object => ["object"]
  | .pair _ => ["pair"]
  | .array => ["array"]
  | .paren => ["parenthesized_expression"]
  | .function _ => ["arrow_function", "function_expression"]
  | .block => ["statement_block"]
  | .expression => ["expression_statement"]
  | .return => ["return_statement"]
  | .declaration => ["lexical_declaration", "variable_declaration"]
  | .declarator => ["variable_declarator"]
  | .pattern => ["object_pattern"]
  | .bound _ => ["shorthand_property_identifier_pattern"]
  | .boundDefault _ => ["object_assignment_pattern"]
  | .renamed _ => ["pair_pattern"]
  | .assigned => ["assignment_pattern"]
  | .computed => ["pair_pattern"]
  | .rest => ["rest_pattern"]

/-- Whether the words of a form are in a node of its kinds, and its parts where they belong. -/
def isComplete : Form → Tree → Bool
  | .identifier w, node => textOf node == w.written
  | .target w, node => textOf node == w.written
  | .string w, node => (node.get "value").text? == some w.written
  | .dot w, node => hasField node "object" &&
      (hasField node "property" && textOf (field node "property") == w.written)
  | .index w, node => hasField node "object" && stringText? (field node "index") == some w.written
  | .call, node => hasField node "function" && (hasField node "arguments" &&
      (isKind (field node "arguments") "arguments" &&
        ((field node "arguments").get "children").isNodeList))
  | .pair w, node => staticKey? node == some w.written
  | .paren, node => (node.get "children").isNodeList && (children node).length == 1
  | .function params, node => plainNames node == params.map fun w => some w.written
  | .declarator, node => hasField node "name" && (hasField node "value" || lacksField node "value")
  | .pattern, node => (node.get "children").isNodeList &&
      (children node).all fun child => !isKind child "pair"
  | .bound w, node => staticKey? node == some w.written
  | .boundDefault w, node => staticKey? node == some w.written
  | .renamed w, node => staticKey? node == some w.written
  | .computed, node => hasField node "key" && isKind (field node "key") "computed_property_name"
  | _, _ => true

/-- Whether a node is of a form. -/
def stands (form : Form) (node : Tree) : Bool :=
  (kinds form).any (isKind node) && isComplete form node

/-- The fields under which the parts of a form stand. -/
def partFields : Form → List String
  | .dot _ => ["object"]
  | .index _ => ["object"]
  | .pair _ => ["value"]
  | .function _ => ["body"]
  | .declarator => ["name", "value"]
  | .boundDefault _ => ["right"]
  | .renamed _ => ["value"]
  | .assigned => ["left", "right"]
  | _ => []

/-- Whether the parts of a form stand among the other children. -/
def hasPartsBelow : Form → Bool
  | .object => true
  | .array => true
  | .paren => true
  | .block => true
  | .expression => true
  | .return => true
  | .declaration => true
  | .pattern => true
  | _ => false

/-- The nodes of the parts of a form. The arguments of a call and a computed key stand in a node of
their own. -/
def codeParts? (form : Form) (node : Tree) : Option (List Tree) :=
  match form with
  | .call =>
    if stands .call node && holdsOnly ["function", "arguments"] false node &&
        holdsOnly [] true (field node "arguments") then
      some (partsUnder ["function"] false node ++ partsUnder [] true (field node "arguments"))
    else none
  | .computed =>
    if stands .computed node && holdsOnly ["key", "value"] false node &&
        holdsOnly [] true (field node "key") then
      some (partsUnder [] true (field node "key") ++ partsUnder ["value"] false node)
    else none
  | form =>
    if stands form node && holdsOnly (partFields form) (hasPartsBelow form) node then
      some (partsUnder (partFields form) (hasPartsBelow form) node)
    else none

/-- How concrete syntax nodes show code. -/
def codeShape : CodeShape := ⟨codeParts?⟩

/-! ## Parts of nodes -/

variable {node : Tree} {fields : List String} {below : Bool} {P : Tree → Prop}

theorem field_of_hasField {name : String} (h : hasField node name = true) :
    field node name = (node.get "fields").get name := by
  have hmap : ((node.get "fields").get name).isMap = true := h
  unfold field
  cases hvalue : (node.get "fields").get name <;> first | rfl | (rw [hvalue] at hmap; cases hmap)

theorem isMap_field {name : String} (h : hasField node name = true) :
    (field node name).isMap = true := by
  rw [field_of_hasField h]
  exact h

theorem isNull_field {name : String} (h : hasField node name = true) :
    (field node name).isNull = false := by
  have hmap := isMap_field h
  cases hvalue : field node name <;> first | rfl | (rw [hvalue] at hmap; cases hmap)

theorem nodes_of_hasField {name : String} (h : hasField node name = true) :
    ((node.get "fields").get name).nodes = [field node name] := by
  rw [field_of_hasField h, Tree.nodes_of_isMap h]

theorem get_of_lacksField {name : String} (h : lacksField node name = true) :
    (node.get "fields").get name = .null := by
  have hnull : ((node.get "fields").get name).isNull = true := h
  cases hvalue : (node.get "fields").get name <;> first | rfl | (rw [hvalue] at hnull; cases hnull)

/-- What reads in a node is the node itself, or one of its parts. -/
theorem exists_partsUnder_iff (hP : ∀ m, mayRead m = false → ¬ P m)
    (h : holdsOnly fields below node = true) : (∃ m ∈ node.mappings, P m) ↔
      P node ∨ ∃ part ∈ partsUnder fields below node, ∃ m ∈ part.mappings, P m := by
  simp only [holdsOnly, Bool.and_eq_true, Bool.not_eq_true'] at h
  obtain ⟨⟨hnode, hfields, hself⟩, hbelow⟩ := h
  have hchildren : (∃ m ∈ (node.get "children").mappings, P m) ↔
      ∃ part ∈ if below then (node.get "children").nodes else [], ∃ m ∈ part.mappings, P m := by
    cases below with
    | true => exact Tree.exists_mappings_nodes_iff
    | false => simpa using Tree.not_of_isIdle hP hbelow
  rw [Tree.exists_mappings_iff hP hnode]
  simp only [List.mem_cons, List.not_mem_nil, or_false, exists_eq_or_imp, exists_eq_left]
  rw [Tree.exists_parts_iff hP hfields, or_iff_right (hP _ hself), hchildren]
  simp only [partsUnder, List.mem_append, or_and_right, exists_or]

/-! ## What nodes answer -/

/-- A node of another kind says nothing about reads. -/
theorem isIdle_view (h : mayRead node = false) : (dialect.view node).IsIdle := by
  simp only [mayRead, Bool.or_eq_false_iff] at h
  obtain ⟨⟨⟨⟨hmember, hsubscript⟩, hcall⟩, hdeclarator⟩, htransparent⟩ := h
  refine ⟨?_, ?_, ?_⟩
  · intro chain hchain
    have hchain : memberChain? node = some chain := hchain
    rw [memberChain?, unwrap_of_not_isTransparent htransparent,
      reversedChain?_of_other (by simp [hmember]) (by simp [hsubscript])] at hchain
    split at hchain
    · rw [← Option.some.inj hchain]
      exact Nat.le_refl 1
    · cases hchain
  · show (destructuring? node).map _ = none
    rw [destructuring?, hdeclarator]
    rfl
  · show (callee? node).map _ = none
    rw [callee?, hcall]
    rfl

theorem stringText?_eq_some_iff {text : Text} : stringText? node = some text ↔
    isKind node "string" = true ∧ node.get "value" = .text text := by
  unfold stringText?
  split
  · next hkind =>
    exact ⟨fun h => ⟨hkind, Tree.eq_of_text? h⟩, fun h => by rw [h.2]; rfl⟩
  · next hkind => simp [hkind]

/-- The answers of the dialect for a code. -/
abbrev AnswersFor (c : Code) (node : Tree) : Prop :=
  Answers dialect Naming.typed staticKey? patternKeys? c node

/-- The kinds around an expression that do not change its value. -/
def transparentKinds : List String :=
  ["parenthesized_expression", "as_expression", "satisfies_expression", "non_null_expression"]

/-- The kinds of chains. -/
def chainKinds : List String := ["member_expression", "subscript_expression", "identifier"]

/-- The kinds of texts. -/
def textKinds : List String := ["string", "template_string"]

/-- The kinds of what stands under a key. -/
def keyKinds : List String :=
  ["pair", "shorthand_property_identifier_pattern", "pair_pattern", "object_assignment_pattern"]

section

variable {kind : String}

theorem memberChain?_eq_none (h : isKind node kind = true) (hplain : kind ∉ transparentKinds)
    (hkind : kind ∉ chainKinds) : memberChain? node = none := by
  simp only [chainKinds, List.mem_cons, List.not_mem_nil, or_false, not_or, ← ne_eq,
    ← beq_eq_false_iff_ne] at hkind
  obtain ⟨hmember, hsubscript, hidentifier⟩ := hkind
  rw [memberChain?, unwrap_of_isKind h hplain, reversedChain?_of_other
    (by rw [isKind_eq h, hmember]; exact Bool.false_ne_true)
    (by rw [isKind_eq h, hsubscript]; exact Bool.false_ne_true), isKind_eq h, hidentifier]
  rfl

theorem routeText?_eq_none (h : isKind node kind = true) (hplain : kind ∉ transparentKinds)
    (hkind : kind ∉ textKinds) : routeText? node = none := by
  simp only [textKinds, List.mem_cons, List.not_mem_nil, or_false, not_or, ← ne_eq,
    ← beq_eq_false_iff_ne] at hkind
  rw [routeText?, unwrap_of_isKind h hplain, isKind_eq h, isKind_eq h, hkind.1, hkind.2]
  rfl

theorem staticKey?_eq_none (h : isKind node kind = true) (hkind : kind ∉ keyKinds) :
    staticKey? node = none := by
  simp only [keyKinds, List.mem_cons, List.not_mem_nil, or_false, not_or, ← ne_eq,
    ← beq_eq_false_iff_ne] at hkind
  obtain ⟨hpair, hshorthand, hrenamed, hdefault⟩ := hkind
  rw [staticKey?, isKind_eq h, hpair, boundKey?, isKind_eq h, hshorthand, isKind_eq h, hrenamed,
    isKind_eq h, hdefault]
  rfl

theorem patternKeys?_eq_none (h : isKind node kind = true) (hkind : kind ≠ "object_pattern") :
    patternKeys? node = none := by
  rw [patternKeys?, isKind_eq h, beq_eq_false_iff_ne.2 hkind]
  rfl

/-- A node of another kind answers for nothing. -/
theorem answers_of_isKind {c : Code} (h : isKind node kind = true)
    (hkind : kind ∉ transparentKinds ∧ kind ∉ chainKinds ∧ kind ∉ textKinds ∧
      kind ∉ keyKinds ∧ kind ≠ "object_pattern")
    (hc : c.chain? .typed = none ∧ c.text? .typed = none ∧ c.form.key? .typed = none ∧
      c.keys? .typed = none) : AnswersFor c node where
  chain := (memberChain?_eq_none h hkind.1 hkind.2.1).trans hc.1.symm
  text := (routeText?_eq_none h hkind.1 hkind.2.2.1).trans hc.2.1.symm
  key := (staticKey?_eq_none h hkind.2.2.2.1).trans hc.2.2.1.symm
  keys := (patternKeys?_eq_none h hkind.2.2.2.2).trans hc.2.2.2.symm

/-- A chain is no text, and stands under no key. -/
theorem answers_of_chain {c : Code} (h : isKind node kind = true) (hkind : kind ∈ chainKinds)
    (hchain : memberChain? node = c.chain? .typed)
    (hc : c.text? .typed = none ∧ c.form.key? .typed = none ∧ c.keys? .typed = none) :
    AnswersFor c node := by
  have hother : kind ∉ transparentKinds ∧ kind ∉ textKinds ∧ kind ∉ keyKinds ∧
      kind ≠ "object_pattern" := by
    revert hkind
    simp only [chainKinds, List.mem_cons, List.not_mem_nil, or_false]
    rintro (rfl | rfl | rfl) <;> decide
  exact ⟨hchain, (routeText?_eq_none h hother.1 hother.2.1).trans hc.1.symm,
    (staticKey?_eq_none h hother.2.2.1).trans hc.2.1.symm,
    (patternKeys?_eq_none h hother.2.2.2).trans hc.2.2.symm⟩

theorem memberChain?_of_identifier (h : isKind node "identifier" = true) :
    memberChain? node = some [textOf node] := by
  rw [memberChain?, unwrap_of_isKind h (by decide), reversedChain?_of_other
    (by rw [isKind_eq h]; decide) (by rw [isKind_eq h]; decide), if_pos h]
  rfl

theorem memberChain?_of_member (h : isKind node "member_expression" = true) :
    memberChain? node = if (field node "property").isNull then none
      else (memberChain? (field node "object")).map (· ++ [textOf (field node "property")]) := by
  rw [memberChain?, unwrap_of_isKind h (by decide), reversedChain?_of_member h, memberChain?]
  split
  · rfl
  · cases reversedChain? (unwrap (field node "object")) <;> simp

theorem memberChain?_of_subscript (h : isKind node "subscript_expression" = true) :
    memberChain? node = if isKind (unwrap (field node "index")) "string" then
      (memberChain? (field node "object")).map
        (· ++ [((unwrap (field node "index")).get "value").textOf]) else none := by
  have hmember : ¬ isKind node "member_expression" = true := by
    rw [isKind_eq h]
    decide
  rw [memberChain?, unwrap_of_isKind h (by decide), reversedChain?_of_subscript hmember h,
    memberChain?]
  split
  · cases reversedChain? (unwrap (field node "object")) <;> simp
  · rfl

/-- Parentheses answer like what they stand around. -/
theorem unwrap_paren {e : Tree} (h : isKind node "parenthesized_expression" = true)
    (hchildren : children node = [e]) : unwrap node = unwrap e := by
  rw [unwrap_of_isTransparent (by rw [isTransparent, h]; rfl), inner, hchildren]

end

/-! ## The laws of the shape -/

variable {form : Form} {parts : List Code} {nodes : List Tree}

theorem stands_of_codeParts? (h : codeParts? form node = some nodes) :
    (∃ kind ∈ kinds form, isKind node kind = true) ∧ isComplete form node = true := by
  have hstands : stands form node = true := by
    unfold codeParts? at h
    split at h
    all_goals
      obtain ⟨hcond, -⟩ := Option.ite_none_right_eq_some.1 h
      simp only [Bool.and_eq_true] at hcond
    · exact hcond.1.1
    · exact hcond.1.1
    · exact hcond.1
  obtain ⟨hkind, hcomplete⟩ := Bool.and_eq_true_iff.1 hstands
  exact ⟨List.any_eq_true.1 hkind, hcomplete⟩

/-- A node of a form with one kind is of this kind. -/
theorem isKind_of_codeParts? {kind : String} (h : codeParts? form node = some nodes)
    (hkinds : kinds form = [kind]) : isKind node kind = true := by
  obtain ⟨⟨found, hmem, hfound⟩, -⟩ := stands_of_codeParts? h
  rw [hkinds, List.mem_singleton] at hmem
  rwa [← hmem]

/-- The parts of most forms stand in the node itself. -/
theorem nodes_of_codeParts? (h : codeParts? form node = some nodes)
    (hform : form ≠ .call ∧ form ≠ .computed) :
    holdsOnly (partFields form) (hasPartsBelow form) node = true ∧
      nodes = partsUnder (partFields form) (hasPartsBelow form) node := by
  unfold codeParts? at h
  split at h
  · exact absurd rfl hform.1
  · exact absurd rfl hform.2
  · obtain ⟨hcond, hnodes⟩ := Option.ite_none_right_eq_some.1 h
    exact ⟨(Bool.and_eq_true_iff.1 hcond).2, (Option.some.inj hnodes).symm⟩

/-- The part of a member is what stands as its object. -/
theorem object_of_codeParts? (h : codeParts? form node = some nodes)
    (hform : form ≠ .call ∧ form ≠ .computed) (hfields : partFields form = ["object"])
    (hbelow : hasPartsBelow form = false) (hobject : hasField node "object" = true)
    (hparts : List.Forall₂ AnswersFor parts nodes) :
    ∃ o, AnswersFor o (field node "object") ∧ parts = [o] := by
  obtain ⟨-, rfl⟩ := nodes_of_codeParts? h hform
  simp only [partsUnder, hfields, hbelow, List.flatMap_singleton, nodes_of_hasField hobject,
    Bool.false_eq_true, if_false, List.append_nil] at hparts
  obtain ⟨o, rest, ho, hrest, rfl⟩ := List.forall₂_cons_right_iff.1 hparts
  obtain rfl := List.forall₂_nil_right_iff.1 hrest
  exact ⟨o, ho, rfl⟩

/-- A node that shows a form answers for it if its parts do. -/
theorem answers_of_codeParts? (h : codeParts? form node = some nodes)
    (hparts : List.Forall₂ AnswersFor parts nodes) : AnswersFor (.node form parts) node := by
  obtain ⟨⟨kind, hmem, hkind⟩, hcomplete⟩ := stands_of_codeParts? h
  cases form with
  | identifier w =>
    have htext : textOf node = w.written := beq_iff_eq.1 hcomplete
    by_cases hname : w.written = "undefined"
    · simp only [kinds, if_pos hname, List.mem_singleton] at hmem
      subst hmem
      refine answers_of_isKind hkind (by decide) ⟨?_, rfl, rfl, rfl⟩
      simp only [Code.chain?, Naming.typed, if_pos hname, Option.map_none]
    · simp only [kinds, if_neg hname, List.mem_singleton] at hmem
      subst hmem
      refine answers_of_chain hkind (by decide) ?_ ⟨rfl, rfl, rfl⟩
      simp only [memberChain?_of_identifier hkind, htext, Code.chain?, Naming.typed, if_neg hname,
        Option.map_some]
  | target w =>
    have hkind := isKind_of_codeParts? h rfl
    refine answers_of_chain hkind (by decide) ?_ ⟨rfl, rfl, rfl⟩
    rw [memberChain?_of_identifier hkind, beq_iff_eq.1 hcomplete]
    rfl
  | string w =>
    have hkind := isKind_of_codeParts? h rfl
    refine ⟨memberChain?_eq_none hkind (by decide) (by decide), ?_,
      staticKey?_eq_none hkind (by decide), patternKeys?_eq_none hkind (by decide)⟩
    show routeText? node = _
    rw [routeText?, unwrap_of_isKind hkind (by decide), if_pos hkind, Tree.textOf,
      beq_iff_eq.1 hcomplete]
    rfl
  | dot w =>
    have hkind := isKind_of_codeParts? h rfl
    simp only [isComplete, Bool.and_eq_true, beq_iff_eq] at hcomplete
    obtain ⟨hobject, hproperty, hname⟩ := hcomplete
    obtain ⟨o, ho, rfl⟩ := object_of_codeParts? h (by simp) rfl rfl hobject hparts
    refine answers_of_chain hkind (by decide) ?_ ⟨rfl, rfl, rfl⟩
    have hchain : memberChain? (field node "object") = o.chain? .typed := ho.chain
    rw [memberChain?_of_member hkind, isNull_field hproperty, if_neg Bool.false_ne_true, hname,
      hchain]
    rfl
  | index w =>
    have hkind := isKind_of_codeParts? h rfl
    simp only [isComplete, Bool.and_eq_true, beq_iff_eq] at hcomplete
    obtain ⟨hobject, hindex⟩ := hcomplete
    obtain ⟨o, ho, rfl⟩ := object_of_codeParts? h (by simp) rfl rfl hobject hparts
    refine answers_of_chain hkind (by decide) ?_ ⟨rfl, rfl, rfl⟩
    have hchain : memberChain? (field node "object") = o.chain? .typed := ho.chain
    obtain ⟨hstring, hvalue⟩ := stringText?_eq_some_iff.1 hindex
    rw [memberChain?_of_subscript hkind, unwrap_of_isKind hstring (by decide), if_pos hstring,
      hvalue, hchain]
    rfl
  | paren =>
    have hkind := isKind_of_codeParts? h rfl
    obtain ⟨hlist, hlength⟩ := Bool.and_eq_true_iff.1 hcomplete
    obtain ⟨e, hchildren⟩ := List.length_eq_one_iff.1 (beq_iff_eq.1 hlength)
    obtain ⟨-, rfl⟩ := nodes_of_codeParts? h (by simp)
    have hnodes : partsUnder (partFields .paren) (hasPartsBelow .paren) node = [e] := by
      rw [← hchildren]
      exact Tree.nodes_of_isNodeList hlist
    rw [hnodes] at hparts
    obtain ⟨e', rest, he, -, rfl⟩ := List.forall₂_cons_right_iff.1 hparts
    have hunwrap := unwrap_paren hkind hchildren
    have hchain : memberChain? e = e'.chain? .typed := he.chain
    have htext : routeText? e = e'.text? .typed := he.text
    refine ⟨?_, ?_, staticKey?_eq_none hkind (by decide), patternKeys?_eq_none hkind (by decide)⟩
    · show memberChain? node = _
      rw [memberChain?, hunwrap, ← memberChain?, hchain]
      rfl
    · show routeText? node = _
      rw [routeText?, hunwrap, ← routeText?, htext]
      rfl
  | pattern =>
    have hkind := isKind_of_codeParts? h rfl
    obtain ⟨hlist, hentries⟩ := Bool.and_eq_true_iff.1 hcomplete
    obtain ⟨-, rfl⟩ := nodes_of_codeParts? h (by simp)
    have hnodes : partsUnder (partFields .pattern) (hasPartsBelow .pattern) node = children node :=
      Tree.nodes_of_isNodeList hlist
    rw [hnodes] at hparts
    have hkeys : (children node).filterMap boundKey? = (children node).filterMap staticKey? := by
      refine List.filterMap_congr fun child hchild => ?_
      have hplain := List.all_eq_true.1 hentries child hchild
      rw [staticKey?, if_neg (by simpa using hplain)]
    refine ⟨memberChain?_eq_none hkind (by decide) (by decide),
      routeText?_eq_none hkind (by decide) (by decide), staticKey?_eq_none hkind (by decide), ?_⟩
    rw [patternKeys?, if_pos hkind, hkeys, filterMap_key?_eq hparts]
    rfl
  | computed =>
    have hkind := isKind_of_codeParts? h rfl
    obtain ⟨-, hkey⟩ := Bool.and_eq_true_iff.1 hcomplete
    refine ⟨memberChain?_eq_none hkind (by decide) (by decide),
      routeText?_eq_none hkind (by decide) (by decide), ?_, patternKeys?_eq_none hkind (by decide)⟩
    rw [staticKey?, isKind_eq hkind, boundKey?, isKind_eq hkind, if_pos hkind, keyName?,
      isKind_eq hkey, isKind_eq hkey, isKind_eq hkey]
    rfl
  | pair w | bound w | boundDefault w | renamed w =>
    have hkind := isKind_of_codeParts? h rfl
    exact ⟨memberChain?_eq_none hkind (by decide) (by decide),
      routeText?_eq_none hkind (by decide) (by decide), beq_iff_eq.1 hcomplete,
      patternKeys?_eq_none hkind (by decide)⟩
  | _ =>
    refine answers_of_isKind hkind ?_ ⟨rfl, rfl, rfl, rfl⟩
    clear hkind
    revert kind
    simp [kinds, transparentKinds, chainKinds, textKinds, keyKinds]

/-- A node that neither calls nor binds by a pattern says what its chain says. -/
theorem view_of_isKind {kind : String} {c : Code} (h : isKind node kind = true)
    (hkind : kind ∉ ["variable_declarator", "call_expression"]) (hnode : AnswersFor c node)
    (hc : c.view .typed = { chain? := c.chain? .typed }) :
    dialect.view node = c.view .typed := by
  simp only [List.mem_cons, List.not_mem_nil, or_false, not_or, ← ne_eq,
    ← beq_eq_false_iff_ne] at hkind
  have hbinding : destructuring? node = none := by
    rw [destructuring?, isKind_eq h, hkind.1]
    rfl
  have hcall : callee? node = none := by
    rw [callee?, isKind_eq h, hkind.2]
    rfl
  rw [hc, ← hnode.chain]
  show View.mk (memberChain? node) ((destructuring? node).map _) ((callee? node).map _) = _
  rw [hbinding, hcall]
  rfl

theorem view_call (h : codeParts? .call node = some nodes)
    (hparts : List.Forall₂ AnswersFor parts nodes) :
    dialect.view node = (Code.node .call parts).view .typed := by
  have hkind := isKind_of_codeParts? h rfl
  obtain ⟨-, hcomplete⟩ := stands_of_codeParts? h
  simp only [isComplete, Bool.and_eq_true] at hcomplete
  obtain ⟨hcallee, -, harguments, hlist⟩ := hcomplete
  obtain rfl := Option.some.inj (Option.ite_none_right_eq_some.1 h).2
  have hnodes : partsUnder ["function"] false node ++
      partsUnder [] true (field node "arguments") =
        field node "function" :: children (field node "arguments") := by
    simp only [partsUnder, List.flatMap_singleton, nodes_of_hasField hcallee]
    exact congrArg (_ :: ·) (Tree.nodes_of_isNodeList hlist)
  rw [hnodes] at hparts
  obtain ⟨callee, arguments, hanswers, hrest, rfl⟩ := List.forall₂_cons_right_iff.1 hparts
  have hchain : memberChain? node = none :=
    memberChain?_eq_none hkind (by decide) (by decide)
  have hbinding : destructuring? node = none := by
    rw [destructuring?, isKind_eq hkind]
    rfl
  have hmap := isMap_field hcallee
  have hcalled : callee? node = some (field node "function") := by
    rw [callee?, if_pos hkind]
    cases hvalue : field node "function" <;> first | rfl | (rw [hvalue] at hmap; cases hmap)
  have hfirst : (callArguments node).head?.bind routeText? =
      arguments.head?.bind (Code.text? .typed) := by
    rw [callArguments, if_pos harguments]
    exact head?_text?_eq hrest
  have hcallee : memberChain? (field node "function") = callee.chain? .typed := hanswers.chain
  show View.mk (memberChain? node) ((destructuring? node).map _) ((callee? node).map fun called =>
    (memberChain? called, (callArguments node).head?.bind routeText?)) = _
  rw [hchain, hbinding, hcalled, hfirst, Option.map_some, hcallee]
  rfl

theorem destructuring?_eq (node : Tree) : destructuring? node =
    if isKind node "variable_declarator" && !(field node "value").isNull then
      (patternKeys? (field node "name")).map fun keys => ⟨keys, field node "value"⟩
    else none := by
  unfold destructuring? patternKeys?
  by_cases hpattern : isKind (field node "name") "object_pattern" = true
  · simp only [hpattern, Bool.and_true, if_true, Option.map_some]
    cases isKind node "variable_declarator" <;> cases field node "value" <;> rfl
  · simp [hpattern]

theorem view_declarator (h : codeParts? .declarator node = some nodes)
    (hparts : List.Forall₂ AnswersFor parts nodes) :
    dialect.view node = (Code.node .declarator parts).view .typed := by
  have hkind := isKind_of_codeParts? h rfl
  obtain ⟨-, hcomplete⟩ := stands_of_codeParts? h
  obtain ⟨htarget, hsource⟩ := Bool.and_eq_true_iff.1 hcomplete
  obtain ⟨-, rfl⟩ := nodes_of_codeParts? h (by simp)
  simp only [partsUnder, partFields, hasPartsBelow, List.flatMap_cons, List.flatMap_nil,
    List.append_nil, nodes_of_hasField htarget, Bool.false_eq_true, if_false] at hparts
  obtain ⟨target, rest, hanswers, hrest, rfl⟩ := List.forall₂_cons_right_iff.1 hparts
  have hchain : memberChain? node = none :=
    memberChain?_eq_none hkind (by decide) (by decide)
  have hcalled : callee? node = none := by
    rw [callee?, isKind_eq hkind]
    rfl
  show View.mk (memberChain? node) ((destructuring? node).map fun found =>
    (found.keys, memberChain? found.source)) ((callee? node).map _) = _
  rw [hchain, hcalled, destructuring?_eq, hkind, hanswers.keys]
  rcases Bool.or_eq_true_iff.1 hsource with hvalue | hnone
  · rw [nodes_of_hasField hvalue] at hrest
    obtain ⟨source, others, hinit, hnil, rfl⟩ := List.forall₂_cons_right_iff.1 hrest
    obtain rfl := List.forall₂_nil_right_iff.1 hnil
    have hinit : memberChain? (field node "value") = source.chain? .typed := hinit.chain
    rw [isNull_field hvalue, Code.view, ← hinit]
    cases target.keys? .typed <;> rfl
  · rw [get_of_lacksField hnone] at hrest
    obtain rfl := List.forall₂_nil_right_iff.1 hrest
    rw [field, get_of_lacksField hnone]
    rfl

/-- A node says what the place says. -/
theorem view_eq (h : codeParts? form node = some nodes)
    (hparts : List.Forall₂ AnswersFor parts nodes) :
    dialect.view node = (Code.node form parts).view .typed := by
  have hanswers := answers_of_codeParts? h hparts
  cases form with
  | call => exact view_call h hparts
  | declarator => exact view_declarator h hparts
  | identifier w =>
    obtain ⟨⟨kind, hmem, hkind⟩, -⟩ := stands_of_codeParts? h
    refine view_of_isKind hkind ?_ hanswers rfl
    clear hkind
    revert kind
    simp only [kinds]
    split <;> simp
  | _ =>
    obtain ⟨⟨kind, hmem, hkind⟩, -⟩ := stands_of_codeParts? h
    refine view_of_isKind hkind ?_ hanswers rfl
    clear hkind
    revert kind
    simp [kinds]

/-- What a node between a node and its parts holds are the parts. -/
theorem exists_field_iff {name : String} (hP : ∀ m, mayRead m = false → ¬ P m)
    (hidle : mayRead (field node name) = false)
    (h : holdsOnly [] true (field node name) = true) :
    (∃ m ∈ (field node name).mappings, P m) ↔
      ∃ part ∈ partsUnder [] true (field node name), ∃ m ∈ part.mappings, P m := by
  rw [exists_partsUnder_iff hP h, or_iff_right (hP _ hidle)]

/-- What reads in a node is the node itself, or one of its parts. -/
theorem reads_codeParts? {R : View → Prop} (hR : View.IsQuestion R)
    (h : codeParts? form node = some nodes) (hparts : List.Forall₂ AnswersFor parts nodes) :
    (∃ m ∈ node.mappings, R (dialect.view m)) ↔ R ((Code.node form parts).view .typed) ∨
      ∃ part ∈ nodes, ∃ m ∈ part.mappings, R (dialect.view m) := by
  have hidle : ∀ m, mayRead m = false → ¬ R (dialect.view m) :=
    fun m hm => hR.idle _ (isIdle_view hm)
  rw [← view_eq h hparts]
  obtain ⟨-, hcomplete⟩ := stands_of_codeParts? h
  by_cases hcall : form = .call
  · subst hcall
    simp only [isComplete, Bool.and_eq_true] at hcomplete
    obtain ⟨-, hfield, harguments, -⟩ := hcomplete
    obtain ⟨hcond, hnodes⟩ := Option.ite_none_right_eq_some.1 h
    obtain rfl := Option.some.inj hnodes
    simp only [Bool.and_eq_true] at hcond
    have hquiet : mayRead (field node "arguments") = false := by
      simp only [mayRead, isTransparent, isKind_eq harguments]
      rfl
    have hinner := exists_field_iff hidle hquiet hcond.2
    rw [exists_partsUnder_iff hidle hcond.1.2]
    simp only [partsUnder, List.flatMap_cons, List.flatMap_nil, List.append_nil, List.nil_append,
      nodes_of_hasField hfield, List.mem_append, List.mem_singleton, or_and_right, exists_or,
      exists_eq_left, Bool.false_eq_true, if_false, if_true, hinner]
  by_cases hcomputed : form = .computed
  · subst hcomputed
    obtain ⟨hfield, hkey⟩ := Bool.and_eq_true_iff.1 hcomplete
    obtain ⟨hcond, hnodes⟩ := Option.ite_none_right_eq_some.1 h
    obtain rfl := Option.some.inj hnodes
    simp only [Bool.and_eq_true] at hcond
    have hquiet : mayRead (field node "key") = false := by
      simp only [mayRead, isTransparent, isKind_eq hkey]
      rfl
    have hinner := exists_field_iff hidle hquiet hcond.2
    rw [exists_partsUnder_iff hidle hcond.1.2]
    simp only [partsUnder, List.flatMap_cons, List.flatMap_nil, List.append_nil, List.nil_append,
      nodes_of_hasField hfield, List.mem_append, List.mem_singleton, or_and_right, exists_or,
      exists_eq_left, Bool.false_eq_true, if_false, if_true, hinner]
  obtain ⟨hholds, rfl⟩ := nodes_of_codeParts? h ⟨hcall, hcomputed⟩
  exact exists_partsUnder_iff hidle hholds

theorem plainName?_eq_some {param : Tree} {name : Text} (h : plainName? param = some name) :
    isKind param "required_parameter" = true ∧ paramName param = name := by
  obtain ⟨hcond, hname⟩ := Option.ite_none_right_eq_some.1 h
  obtain ⟨hkind, hpattern⟩ := Bool.and_eq_true_iff.1 hcond
  refine ⟨hkind, ?_⟩
  rw [paramName, if_pos hpattern]
  exact Option.some.inj hname

/-- Plain parameters are called by what they bind. -/
theorem functionParams?_of_plainNames {names : List Text}
    (hkind : (isKind node "arrow_function" || isKind node "function_expression") = true)
    (hnames : plainNames node = names.map some) : functionParams? node = some names := by
  rw [functionParams?, hkind, Bool.true_or, if_pos rfl]
  unfold plainNames at hnames
  split at hnames
  · next hsingle =>
    rw [if_pos hsingle]
    exact congrArg some (List.map_injective_iff.2 (Option.some_injective _) hnames)
  · next hsingle =>
    rw [if_neg hsingle]
    have hplain : ∀ param ∈ children (field node "parameters"),
        plainName? param = some (paramName param) := fun param hparam => by
      have hmem := List.mem_map_of_mem (f := plainName?) hparam
      rw [hnames] at hmem
      obtain ⟨name, -, hname⟩ := List.mem_map.1 hmem
      rw [← hname, (plainName?_eq_some hname.symm).2]
    have hkept : (children (field node "parameters")).filter (fun param =>
        isKind param "required_parameter" || isKind param "optional_parameter") =
          children (field node "parameters") :=
      List.filter_eq_self.2 fun param hparam => by
        rw [(plainName?_eq_some (hplain param hparam)).1, Bool.true_or]
    rw [hkept]
    refine congrArg some (List.map_injective_iff.2 (Option.some_injective _) ?_)
    rw [← hnames, List.map_map]
    exact (List.map_congr_left hplain).symm

/-- A handler that takes the plain parameters of a code calls its request as the code does. -/
theorem requestName?_of_codeParts? {params : List Word}
    (h : codeParts? (.function params) node = some nodes) :
    requestName? dialect node = (Code.node (.function params) parts).request? .typed := by
  obtain ⟨⟨kind, hmem, hkind⟩, hcomplete⟩ := stands_of_codeParts? h
  have hfunction : (isKind node "arrow_function" || isKind node "function_expression") = true := by
    rcases List.mem_pair.1 hmem with rfl | rfl
    · rw [hkind, Bool.true_or]
    · rw [hkind, Bool.or_true]
  have hnames : plainNames node = (params.map Word.written).map some := by
    rw [List.map_map]
    exact beq_iff_eq.1 hcomplete
  have hshown : dialect.functionParams? node = some (params.map Word.written) :=
    functionParams?_of_plainNames hfunction hnames
  rw [requestName?, hshown]
  cases params <;> rfl

/-- Concrete syntax nodes that show a code are read as the code is. -/
theorem codeShape_readBy :
    codeShape.ReadBy dialect Naming.typed staticKey? patternKeys? where
  answers := answers_of_codeParts?
  reads := reads_codeParts?
  request := requestName?_of_codeParts?

end EndpointCatalog.Cst
