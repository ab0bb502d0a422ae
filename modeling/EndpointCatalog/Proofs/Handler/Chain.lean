/-
EndpointCatalog.Proofs.Handler.Chain — chains of members, and the nodes that
are read as one.

Reading goes down from a node to the identifier that the chain starts at, from
object to object (`Spine`), and meets the names in reverse.

* `Renders`: an identifier, and behind it each further name after a dot or as
  a string in brackets. In typed sources anything that changes no value may
  stand around the whole, around an object and around a string in brackets.
* `Breaks`: what ends a chain without an identifier: an expression of another
  kind, a call for one, or a member whose name is not known.

`chains_read`: the chain of a node is exactly the one that it renders, and
there is none exactly if something on its spine breaks it.
-/
import EndpointCatalog.Proofs.Handler.Script
import EndpointCatalog.Proofs.Handler.Typed
import EndpointCatalog.Proofs.Handler.Wrapped

namespace EndpointCatalog

/-- What is read is known from both sides if what shows a value and what shows that there is none
leave nothing out. -/
theorem read_iff {β : Type} {read? : Option β} {shows : β → Prop} {broken : Prop}
    (hshows : ∀ b, shows b → read? = some b) (hbroken : broken → read? = none)
    (h : (∃ b, shows b) ∨ broken) :
    (∀ b, read? = some b ↔ shows b) ∧ (read? = none ↔ broken) := by
  rcases h with ⟨found, hfound⟩ | hnone
  · have hread := hshows found hfound
    refine ⟨fun b => ⟨fun hb => ?_, hshows b⟩, ⟨fun hb => ?_, hbroken⟩⟩
    · rw [hread] at hb
      rwa [← Option.some.inj hb]
    · rw [hread] at hb
      cases hb
  · have hread := hbroken hnone
    refine ⟨fun b => ⟨fun hb => ?_, hshows b⟩, iff_of_true hread hnone⟩
    rw [hread] at hb
    cases hb

/-! ## Scripts -/

namespace Estree

variable {node part : Tree} {names : List Text}

/-- A node is a chain of names. -/
inductive Renders : List Text → Tree → Prop where
  | identifier {node : Tree} : isKind node "Identifier" = true →
      Renders [(node.get "name").textOf] node
  | dot {names : List Text} {node : Tree} : isKind node "MemberExpression" = true →
      (node.get "computed").truthy = false → isKind (node.get "property") "Identifier" = true →
      Renders names (node.get "object") →
      Renders (names ++ [((node.get "property").get "name").textOf]) node
  | index {names : List Text} {name : Text} {node : Tree} :
      isKind node "MemberExpression" = true → (node.get "computed").truthy = true →
      stringText? (node.get "property") = some name → Renders names (node.get "object") →
      Renders (names ++ [name]) node

/-- A part is the node itself, or the object of a member along the way. -/
inductive Spine (part : Tree) : Tree → Prop where
  | here : Spine part part
  | object {node : Tree} : isKind node "MemberExpression" = true →
      Spine part (node.get "object") → Spine part node

/-- A part that no chain goes through. -/
inductive Breaks (part : Tree) : Prop where
  | other : isKind part "MemberExpression" = false → isKind part "Identifier" = false → Breaks part
  | dot : isKind part "MemberExpression" = true → (part.get "computed").truthy = false →
      isKind (part.get "property") "Identifier" = false → Breaks part
  | index : isKind part "MemberExpression" = true → (part.get "computed").truthy = true →
      stringText? (part.get "property") = none → Breaks part

theorem memberName?_eq (node : Tree) : memberName? node =
    if (node.get "computed").truthy then stringText? (node.get "property")
    else if isKind (node.get "property") "Identifier" then
      some ((node.get "property").get "name").textOf
    else none := rfl

theorem Renders.memberChain?_eq (h : Renders names node) : memberChain? node = some names := by
  induction h with
  | @identifier node hkind =>
    have hmember : isKind node "MemberExpression" = false := Tree.hasText_of_ne hkind (by decide)
    rw [memberChain?_of_other hmember, if_pos hkind]
  | dot hkind hplain hname _ ih =>
    rw [memberChain?_of_member hkind, memberName?_eq, hplain, if_neg Bool.false_ne_true,
      if_pos hname, ih]
    rfl
  | index hkind hcomputed hname _ ih =>
    rw [memberChain?_of_member hkind, memberName?_eq, if_pos hcomputed, hname, ih]
    rfl

/-- A node is a chain, or something on its spine is none. -/
theorem renders_or_breaks (node : Tree) :
    (∃ names, Renders names node) ∨ ∃ part, Spine part node ∧ Breaks part := by
  induction node using reversedChain?.induct with
  | case1 node hkind ih =>
    rcases ih with ⟨names, hobject⟩ | ⟨part, hspine, hbreaks⟩
    · by_cases hcomputed : (node.get "computed").truthy = true
      · cases hname : stringText? (node.get "property") with
        | some name => exact .inl ⟨_, .index hkind hcomputed hname hobject⟩
        | none => exact .inr ⟨node, .here, .index hkind hcomputed hname⟩
      · have hplain := Bool.not_eq_true _ ▸ hcomputed
        by_cases hname : isKind (node.get "property") "Identifier" = true
        · exact .inl ⟨_, .dot hkind hplain hname hobject⟩
        · exact .inr ⟨node, .here, .dot hkind hplain (Bool.not_eq_true _ ▸ hname)⟩
    · exact .inr ⟨part, .object hkind hspine, hbreaks⟩
  | case2 node _ hkind => exact .inl ⟨_, .identifier hkind⟩
  | case3 node hmember hidentifier =>
    exact .inr ⟨node, .here,
      .other (Bool.not_eq_true _ ▸ hmember) (Bool.not_eq_true _ ▸ hidentifier)⟩

theorem Breaks.memberChain?_eq (h : Breaks part) : memberChain? part = none := by
  cases h with
  | other hmember hidentifier =>
    rw [memberChain?_of_other hmember, hidentifier, if_neg Bool.false_ne_true]
  | dot hkind hplain hname =>
    rw [memberChain?_of_member hkind, memberName?_eq, hplain, hname]
    rfl
  | index hkind hcomputed hname =>
    rw [memberChain?_of_member hkind, memberName?_eq, if_pos hcomputed, hname]
    rfl

/-- Where an object is no chain, no member of it is one. -/
theorem Spine.memberChain?_eq (h : Spine part node) (hpart : memberChain? part = none) :
    memberChain? node = none := by
  induction h with
  | here => exact hpart
  | object hkind _ ih =>
    rw [memberChain?_of_member hkind, ih]
    cases memberName? _ <;> rfl

theorem memberChain?_iff (node : Tree) :
    (∀ names, memberChain? node = some names ↔ Renders names node) ∧
      (memberChain? node = none ↔ ∃ part, Spine part node ∧ Breaks part) :=
  read_iff (fun _ => Renders.memberChain?_eq)
    (fun ⟨_, hspine, hbreaks⟩ => hspine.memberChain?_eq hbreaks.memberChain?_eq)
    (renders_or_breaks node)

end Estree

/-! ## Typed sources -/

namespace Cst

variable {node part : Tree} {names : List Text}

/-- A node is a chain of names, with anything around it that changes no value. -/
inductive Renders : List Text → Tree → Prop where
  | identifier {node : Tree} : isKind node "identifier" = true → Renders [textOf node] node
  | dot {names : List Text} {node : Tree} : isKind node "member_expression" = true →
      (field node "property").isNull = false → Renders names (field node "object") →
      Renders (names ++ [textOf (field node "property")]) node
  | index {names : List Text} {string node : Tree} :
      isKind node "subscript_expression" = true → isKind string "string" = true →
      Wraps string (field node "index") → Renders names (field node "object") →
      Renders (names ++ [(string.get "value").textOf]) node
  | around {names : List Text} {node : Tree} : isTransparent node = true →
      Renders names (inner node) → Renders names node

/-- A part is the node itself, what something stands around, or the object of a member along the
way. -/
inductive Spine (part : Tree) : Tree → Prop where
  | here : Spine part part
  | dot {node : Tree} : isKind node "member_expression" = true →
      Spine part (field node "object") → Spine part node
  | index {node : Tree} : isKind node "subscript_expression" = true →
      Spine part (field node "object") → Spine part node
  | around {node : Tree} : isTransparent node = true → Spine part (inner node) → Spine part node

/-- A part that no chain goes through. -/
inductive Breaks (part : Tree) : Prop where
  | other : isTransparent part = false → isKind part "member_expression" = false →
      isKind part "subscript_expression" = false → isKind part "identifier" = false → Breaks part
  | dot : isKind part "member_expression" = true → (field part "property").isNull = true →
      Breaks part
  | index : isKind part "subscript_expression" = true →
      (∀ string, Wraps string (field part "index") → isKind string "string" = false) → Breaks part

theorem memberChain?_of_isTransparent (h : isTransparent node = true) :
    memberChain? node = memberChain? (inner node) := (Wraps.around h .bare).read_alike.2.2.1

/-- A string is what is left when everything around it is taken off. -/
theorem Wraps.unwrap_eq_string {string : Tree} (h : Wraps string node)
    (hstring : isKind string "string" = true) : Cst.unwrap node = string := by
  rw [h.unwrap_eq, unwrap_of_isKind hstring (by decide)]

theorem Renders.memberChain?_eq (h : Renders names node) : memberChain? node = some names := by
  induction h with
  | identifier hkind => exact memberChain?_of_identifier hkind
  | dot hkind hproperty _ ih =>
    rw [memberChain?_of_member hkind, hproperty, if_neg Bool.false_ne_true, ih]
    rfl
  | index hkind hstring hindex _ ih =>
    rw [memberChain?_of_subscript hkind, hindex.unwrap_eq_string hstring, if_pos hstring, ih]
    rfl
  | around h _ ih => rw [memberChain?_of_isTransparent h, ih]

theorem Breaks.memberChain?_eq (h : Breaks part) : memberChain? part = none := by
  cases h with
  | other hplain hmember hsubscript hidentifier =>
    rw [memberChain?, unwrap_of_not_isTransparent hplain,
      reversedChain?_of_other (Bool.eq_false_iff.1 hmember) (Bool.eq_false_iff.1 hsubscript),
      hidentifier]
    rfl
  | dot hkind hproperty => rw [memberChain?_of_member hkind, if_pos hproperty]
  | index hkind hindex =>
    rw [memberChain?_of_subscript hkind, hindex _ (Wraps.unwrap _)]
    rfl

/-- Where an object is no chain, no member of it is one. -/
theorem Spine.memberChain?_eq (h : Spine part node) (hpart : memberChain? part = none) :
    memberChain? node = none := by
  induction h with
  | here => exact hpart
  | dot hkind _ ih =>
    rw [memberChain?_of_member hkind, ih]
    split <;> rfl
  | index hkind _ ih =>
    rw [memberChain?_of_subscript hkind, ih]
    split <;> rfl
  | around h _ ih => rw [memberChain?_of_isTransparent h, ih]

/-- A node is a chain, or something on its spine is none. -/
theorem renders_or_breaks (node : Tree) :
    (∃ names, Renders names node) ∨ ∃ part, Spine part node ∧ Breaks part := by
  by_cases haround : isTransparent node = true
  · rcases renders_or_breaks (inner node) with ⟨names, hinner⟩ | ⟨part, hspine, hbreaks⟩
    · exact .inl ⟨names, .around haround hinner⟩
    · exact .inr ⟨part, .around haround hspine, hbreaks⟩
  by_cases hmember : isKind node "member_expression" = true
  · rcases renders_or_breaks (field node "object") with ⟨names, hobject⟩ | ⟨part, hspine, hbreaks⟩
    · cases hproperty : (field node "property").isNull with
      | true => exact .inr ⟨node, .here, .dot hmember hproperty⟩
      | false => exact .inl ⟨_, .dot hmember hproperty hobject⟩
    · exact .inr ⟨part, .dot hmember hspine, hbreaks⟩
  by_cases hsubscript : isKind node "subscript_expression" = true
  · rcases renders_or_breaks (field node "object") with ⟨names, hobject⟩ | ⟨part, hspine, hbreaks⟩
    · by_cases hstring : ∃ string, Wraps string (field node "index") ∧ isKind string "string" = true
      · obtain ⟨string, hwraps, hkind⟩ := hstring
        exact .inl ⟨_, .index hsubscript hkind hwraps hobject⟩
      · have hnone : ∀ string, Wraps string (field node "index") →
            isKind string "string" = false := by simpa using hstring
        exact .inr ⟨node, .here, .index hsubscript hnone⟩
    · exact .inr ⟨part, .index hsubscript hspine, hbreaks⟩
  by_cases hidentifier : isKind node "identifier" = true
  · exact .inl ⟨_, .identifier hidentifier⟩
  · simp only [Bool.not_eq_true] at haround hmember hsubscript hidentifier
    exact .inr ⟨node, .here, .other haround hmember hsubscript hidentifier⟩
termination_by sizeOf node
decreasing_by
  · exact sizeOf_inner_lt haround
  · exact sizeOf_field_lt (isMap_of_isKind hmember) _
  · exact sizeOf_field_lt (isMap_of_isKind hsubscript) _

theorem memberChain?_iff (node : Tree) :
    (∀ names, memberChain? node = some names ↔ Renders names node) ∧
      (memberChain? node = none ↔ ∃ part, Spine part node ∧ Breaks part) :=
  read_iff (fun _ => Renders.memberChain?_eq)
    (fun ⟨_, hspine, hbreaks⟩ => hspine.memberChain?_eq hbreaks.memberChain?_eq)
    (renders_or_breaks node)

end Cst

/-- In both languages, the chain of a node is the one that it renders, and a node has none exactly
if something on its spine breaks it. -/
theorem chains_read (node : Tree) :
    ((∀ names, Estree.dialect.memberChain? node = some names ↔ Estree.Renders names node) ∧
      (Estree.dialect.memberChain? node = none ↔
        ∃ part, Estree.Spine part node ∧ Estree.Breaks part)) ∧
    (∀ names, Cst.dialect.memberChain? node = some names ↔ Cst.Renders names node) ∧
      (Cst.dialect.memberChain? node = none ↔ ∃ part, Cst.Spine part node ∧ Cst.Breaks part) :=
  ⟨Estree.memberChain?_iff node, Cst.memberChain?_iff node⟩

end EndpointCatalog
