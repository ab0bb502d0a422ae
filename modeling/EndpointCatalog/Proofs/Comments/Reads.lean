/-
EndpointCatalog.Proofs.Comments.Reads — reading nodes with comments.

Each question that the dialect asks of a node has the same answer if there
are comments in it (`Commented.routeText?_eq`, `Commented.memberChain?_eq`
and so on), or an answer with comments in its nodes
(`Commented.objectEntries?`). Lists of children are only filtered, and a
comment is of none of the kinds that are looked for (`isKind_comment`).
-/
import EndpointCatalog.Proofs.Comments.Relation
import EndpointCatalog.Proofs.Literals

namespace EndpointCatalog.Cst

/-! ## Comments themselves -/

theorem isKind_comment (line : Int) (text : Text) {kind : String}
    (h : Text.ofString "comment" ≠ Text.ofString kind) : isKind (comment line text) kind = false :=
  Tree.hasText_of_ne (by rfl : (comment line text).hasText "kind" "comment") h

theorem unwrap_comment (line : Int) (text : Text) :
    unwrap (comment line text) = comment line text :=
  unwrap_of_not_isTransparent rfl

theorem routeText?_comment (line : Int) (text : Text) : routeText? (comment line text) = none := by
  rw [routeText?, unwrap_comment]
  rfl

theorem objectEntries?_comment (line : Int) (text : Text) :
    objectEntries? (comment line text) = none := by
  rw [objectEntries?, unwrap_comment]
  rfl

theorem reversedChain?_comment (line : Int) (text : Text) :
    reversedChain? (comment line text) = none := by
  rw [reversedChain?]
  rfl

theorem memberChain?_comment (line : Int) (text : Text) :
    memberChain? (comment line text) = none := by
  rw [memberChain?, unwrap_comment, reversedChain?_comment]
  rfl

/-! ## Lists of children -/

theorem Interspersed.filterMap {α : Type} {R : α → α → Prop} {f : Tree → Option α}
    (hf : ∀ t t', Commented t t' → Option.Rel R (f t) (f t'))
    (hcomment : ∀ line text, f (comment line text) = none) {first : Bool}
    {items items' : List Tree} (h : Interspersed first items items') :
    List.Forall₂ R (items.filterMap f) (items'.filterMap f) := by
  match h with
  | .nil => exact .nil
  | @Interspersed.keep _ t t' _ _ h rest =>
    have hrest := rest.filterMap hf hcomment
    have hhead := hf _ _ h
    rw [List.filterMap_cons, List.filterMap_cons]
    generalize f t = answer, f t' = answer' at hhead
    cases hhead with
    | none => exact hrest
    | some hhead => exact .cons hhead hrest
  | .extra line text rest =>
    rw [List.filterMap_cons_none (hcomment line text)]
    exact rest.filterMap hf hcomment

theorem Interspersed.filterMap_eq {α : Type} {f : Tree → Option α}
    (hf : ∀ t t', Commented t t' → f t' = f t)
    (hcomment : ∀ line text, f (comment line text) = none) {first : Bool}
    {items items' : List Tree} (h : Interspersed first items items') :
    items'.filterMap f = items.filterMap f := by
  match h with
  | .nil => rfl
  | @Interspersed.keep _ t t' _ _ h rest =>
    rw [List.filterMap_cons, List.filterMap_cons, hf t t' h, rest.filterMap_eq hf hcomment]
  | .extra line text rest =>
    rw [List.filterMap_cons_none (hcomment line text)]
    exact rest.filterMap_eq hf hcomment

theorem Interspersed.find? {p : Tree → Bool} (hp : ∀ t t', Commented t t' → p t' = p t)
    (hcomment : ∀ line text, p (comment line text) = false) {first : Bool}
    {items items' : List Tree} (h : Interspersed first items items') :
    Option.Rel Commented (items.find? p) (items'.find? p) := by
  match h with
  | .nil => exact .none
  | @Interspersed.keep _ t t' _ _ h rest =>
    rw [List.find?_cons, List.find?_cons, hp t t' h]
    cases p t with
    | true => exact .some h
    | false => exact rest.find? hp hcomment
  | .extra line text rest =>
    rw [List.find?_cons_of_neg (by rw [hcomment]; exact Bool.false_ne_true)]
    exact rest.find? hp hcomment

theorem Interspersed.findSome? {α : Type} {R : α → α → Prop} {f : Tree → Option α}
    (hf : ∀ t t', Commented t t' → Option.Rel R (f t) (f t'))
    (hcomment : ∀ line text, f (comment line text) = none) {first : Bool}
    {items items' : List Tree} (h : Interspersed first items items') :
    Option.Rel R (items.findSome? f) (items'.findSome? f) := by
  match h with
  | .nil => exact .none
  | @Interspersed.keep _ t t' _ _ h rest =>
    have hhead := hf _ _ h
    rw [List.findSome?_cons, List.findSome?_cons]
    generalize f t = answer, f t' = answer' at hhead
    cases hhead with
    | none => exact rest.findSome? hf hcomment
    | some hhead => exact .some hhead
  | .extra line text rest =>
    rw [List.findSome?_cons, hcomment]
    exact rest.findSome? hf hcomment

/-! ## Expressions -/

namespace Commented

variable {t t' : Tree}

theorem inner (h : Commented t t') (ht : isTransparent t) :
    Commented (Cst.inner t) (Cst.inner t') := by
  have hchildren := h.children
  rw [readsFirst, ht, Bool.true_or] at hchildren
  unfold Cst.inner
  generalize Cst.children t = items, Cst.children t' = items' at hchildren
  cases hchildren with
  | nil => exact h.field "expression" (by decide)
  | keep h rest => exact h

theorem unwrap (h : Commented t t') : Commented (Cst.unwrap t) (Cst.unwrap t') := by
  induction t using Cst.unwrap.induct generalizing t' with
  | case1 t ht ih =>
    rw [unwrap_of_isTransparent ht, unwrap_of_isTransparent (h.isTransparent_eq.trans ht)]
    exact ih (h.inner ht)
  | case2 t ht =>
    have ht : isTransparent t = false := Bool.eq_false_iff.mpr ht
    rw [unwrap_of_not_isTransparent ht,
      unwrap_of_not_isTransparent (h.isTransparent_eq.trans ht)]
    exact h

theorem keyName?_eq (h : Commented t t') : keyName? t' = keyName? t := by
  simp only [keyName?, h.isKind_eq, h.textOf_node_eq, (h.get "value" (by decide)).textOf_eq]

theorem templateText_eq (h : Commented t t') : templateText t' = templateText t := by
  have hitems := (h.get "quasis" (by decide)).items
  unfold templateText
  generalize (t.get "quasis").items = items, (t'.get "quasis").items = items' at hitems
  clear h
  induction items generalizing items' with
  | nil =>
    cases hitems
    rfl
  | cons item items ih =>
    cases hitems with
    | cons h rest => rw [List.flatMap_cons, List.flatMap_cons, h.textOf_eq, ih _ rest]

theorem routeText?_eq (h : Commented t t') : routeText? t' = routeText? t := by
  simp only [routeText?, h.unwrap.isKind_eq, h.unwrap.templateText_eq,
    (h.unwrap.get "value" (by decide)).textOf_eq]

end Commented

/-! ## Object literals -/

theorem staticProperty?_comment (line : Int) (text : Text) :
    staticProperty? (comment line text) = none := by
  rw [staticProperty?, isKind_comment line text (by decide), isKind_comment line text (by decide)]
  rfl

namespace Commented

variable {t t' : Tree}

theorem staticProperty? (h : Commented t t') :
    Option.Rel (fun e e' => e.1 = e'.1 ∧ Commented e.2 e'.2) (staticProperty? t)
      (staticProperty? t') := by
  unfold Cst.staticProperty?
  simp only [h.isKind_eq]
  by_cases hpair : isKind t "pair"
  · rw [if_pos hpair, if_pos hpair, (h.field "key" (by decide)).keyName?_eq]
    have hvalue := h.field "value" (by decide)
    cases keyName? (Cst.field t "key") with
    | none => exact .none
    | some name =>
      generalize Cst.field t "value" = value, Cst.field t' "value" = value' at hvalue
      cases hvalue with
      | scalar hscalar => cases value <;> first | exact .none | exact .some ⟨rfl, .scalar hscalar⟩
      | list hitems => exact .some ⟨rfl, .list hitems⟩
      | map hentries => exact .some ⟨rfl, .map hentries⟩
  · rw [if_neg hpair, if_neg hpair]
    by_cases hshort : isKind t "shorthand_property_identifier"
    · rw [if_pos hshort, if_pos hshort]
      exact .some ⟨h.textOf_node_eq.symm, h⟩
    · rw [if_neg hshort, if_neg hshort]
      exact .none

theorem objectEntries? (h : Commented t t') :
    Option.Rel (Entries.Aligned fun _ => Commented) (Cst.objectEntries? t)
      (Cst.objectEntries? t') := by
  rw [objectEntries?_eq, objectEntries?_eq, h.unwrap.isKind_eq]
  by_cases hobject : isKind (Cst.unwrap t) "object"
  · rw [if_pos hobject, if_pos hobject]
    exact .some (h.unwrap.children.filterMap (fun _ _ h => h.staticProperty?)
      staticProperty?_comment)
  · rw [if_neg hobject, if_neg hobject]
    exact .none

/-! ## Functions and chains -/

theorem paramName_eq (h : Commented t t') : paramName t' = paramName t := by
  have hpattern := h.field "pattern" (by decide)
  simp only [paramName, hpattern.isKind_eq, hpattern.textOf_node_eq]

theorem functionParams?_eq (h : Commented t t') : functionParams? t' = functionParams? t := by
  have hsingle := h.field "parameter" (by decide)
  have hchildren := (h.field "parameters" (by decide)).children
  have hparams : ∀ items : List Tree, (items.filter fun param =>
      isKind param "required_parameter" || isKind param "optional_parameter").map paramName =
        items.filterMap fun param => if isKind param "required_parameter" ||
          isKind param "optional_parameter" then some (paramName param) else none := by
    intro items
    induction items with
    | nil => rfl
    | cons item items ih =>
      rw [List.filter_cons, List.filterMap_cons]
      split
      · rw [List.map_cons, ih]
      · exact ih
  have hsame : ((Cst.children (Cst.field t' "parameters")).filterMap fun param =>
      if isKind param "required_parameter" || isKind param "optional_parameter" then
        some (paramName param) else none) = _ :=
    hchildren.filterMap_eq (fun _ _ h => by simp only [h.isKind_eq, h.paramName_eq])
      (fun line text => by
        rw [isKind_comment line text (by decide), isKind_comment line text (by decide)]
        rfl)
  simp only [functionParams?, h.isKind_eq, hsingle.isKind_eq, hsingle.textOf_node_eq, hparams,
    hsame]

end Commented

theorem reversedChain?_of_member {node : Tree} (h : isKind node "member_expression") :
    reversedChain? node = if (field node "property").isNull then none
      else (reversedChain? (unwrap (field node "object"))).map
        (textOf (field node "property") :: ·) := by
  rw [reversedChain?, dif_pos h, Option.map_eq_bind]
  cases field node "property" <;> rfl

theorem reversedChain?_of_subscript {node : Tree} (hmember : ¬ isKind node "member_expression")
    (h : isKind node "subscript_expression") :
    reversedChain? node = if isKind (unwrap (field node "index")) "string" then
      (reversedChain? (unwrap (field node "object"))).map
        (((unwrap (field node "index")).get "value").textOf :: ·) else none := by
  rw [reversedChain?, dif_neg hmember, dif_pos h, Option.map_eq_bind]
  rfl

theorem reversedChain?_of_other {node : Tree} (hmember : ¬ isKind node "member_expression")
    (hsubscript : ¬ isKind node "subscript_expression") :
    reversedChain? node = if isKind node "identifier" then some [textOf node] else none := by
  rw [reversedChain?, dif_neg hmember, dif_neg hsubscript]

namespace Commented

variable {t t' : Tree}

theorem reversedChain?_eq {t t' : Tree} (h : Commented t t') :
    reversedChain? t' = reversedChain? t := by
  have hobject := (h.field "object" (by decide)).unwrap
  have hproperty := h.field "property" (by decide)
  have hindex := (h.field "index" (by decide)).unwrap
  by_cases hmember : isKind t "member_expression"
  · have ih := hobject.reversedChain?_eq
    rw [reversedChain?_of_member hmember,
      reversedChain?_of_member ((h.isKind_eq _).trans hmember), hproperty.isNull_eq,
      hproperty.textOf_node_eq, ih]
  · have hmember' : ¬ isKind t' "member_expression" := by rwa [h.isKind_eq]
    by_cases hsubscript : isKind t "subscript_expression"
    · have ih := hobject.reversedChain?_eq
      rw [reversedChain?_of_subscript hmember hsubscript,
        reversedChain?_of_subscript hmember' ((h.isKind_eq _).trans hsubscript),
        hindex.isKind_eq, (hindex.get "value" (by decide)).textOf_eq, ih]
    · have hsubscript' : ¬ isKind t' "subscript_expression" := by rwa [h.isKind_eq]
      rw [reversedChain?_of_other hmember hsubscript,
        reversedChain?_of_other hmember' hsubscript', h.isKind_eq, h.textOf_node_eq]
termination_by sizeOf t
decreasing_by
  · exact Nat.lt_of_le_of_lt (sizeOf_unwrap_le _) (sizeOf_field_lt (isMap_of_isKind hmember) _)
  · exact Nat.lt_of_le_of_lt (sizeOf_unwrap_le _) (sizeOf_field_lt (isMap_of_isKind hsubscript) _)

theorem memberChain?_eq (h : Commented t t') : memberChain? t' = memberChain? t := by
  rw [memberChain?, h.unwrap.reversedChain?_eq, ← memberChain?]

theorem callee? (h : Commented t t') :
    Option.Rel Commented (callee? t) (callee? t') := by
  have hcallee := h.field "function" (by decide)
  unfold Cst.callee?
  rw [h.isKind_eq]
  by_cases hcall : isKind t "call_expression"
  · rw [if_pos hcall, if_pos hcall]
    generalize Cst.field t "function" = callee, Cst.field t' "function" = callee' at hcallee
    cases hcallee with
    | scalar hscalar => cases callee <;> first | exact .none | exact .some (.scalar hscalar)
    | list hitems => exact .some (.list hitems)
    | map hentries => exact .some (.map hentries)
  · rw [if_neg hcall, if_neg hcall]
    exact .none

theorem callArguments (h : Commented t t') :
    Interspersed true (callArguments t) (callArguments t') := by
  have harguments := h.field "arguments" (by decide)
  unfold Cst.callArguments
  simp only [harguments.isKind_eq]
  by_cases hkind : isKind (Cst.field t "arguments") "arguments"
  · rw [if_pos hkind, if_pos hkind]
    have hchildren := harguments.children
    rw [readsFirst, hkind, Bool.or_true] at hchildren
    exact hchildren
  · rw [if_neg hkind, if_neg hkind]
    exact .nil

theorem boundKey?_eq (h : Commented t t') : boundKey? t' = boundKey? t := by
  have hleft := h.field "left" (by decide)
  have htext := hleft.textOf_node_eq
  simp only [boundKey?, h.isKind_eq, h.textOf_node_eq, (h.field "key" (by decide)).keyName?_eq]
  refine if_congr Iff.rfl rfl (if_congr Iff.rfl rfl (if_congr Iff.rfl ?_ rfl))
  generalize Cst.field t "left" = left, Cst.field t' "left" = left' at hleft htext ⊢
  cases hleft with
  | scalar => rfl
  | list => exact congrArg some htext
  | map => exact congrArg some htext

theorem destructuring? (h : Commented t t') :
    Option.Rel (fun d d' => d'.keys = d.keys ∧ Commented d.source d'.source) (destructuring? t)
      (destructuring? t') := by
  have hpattern := h.field "name" (by decide)
  have hsource := h.field "value" (by decide)
  have hkeys : (Cst.children (Cst.field t' "name")).filterMap boundKey? = _ :=
    hpattern.children.filterMap_eq (fun _ _ h => h.boundKey?_eq) (fun line text => by
      rw [boundKey?, isKind_comment line text (by decide), isKind_comment line text (by decide),
        isKind_comment line text (by decide)]
      rfl)
  unfold Cst.destructuring?
  simp only [h.isKind_eq, hpattern.isKind_eq, hkeys]
  split
  · generalize Cst.field t "value" = source, Cst.field t' "value" = source' at hsource
    cases hsource with
    | scalar hscalar =>
      cases source <;> first | exact .none | exact .some ⟨rfl, .scalar hscalar⟩
    | list hitems => exact .some ⟨rfl, .list hitems⟩
    | map hentries => exact .some ⟨rfl, .map hentries⟩
  · exact .none

end Commented

/-! ## Literals -/

/-- What two literals say is the same, but for comments in nodes that are kept. -/
inductive CommentedLiteral : Literal → Literal → Prop where
  | value {v v' : Tree} (h : Commented v v') : CommentedLiteral (.value v) (.value v')
  | kept : CommentedLiteral .kept .kept

theorem CommentedLiteral.toTree {literal literal' : Literal} (h : CommentedLiteral literal literal')
    {t t' : Tree} (ht : Commented t t') : Commented (literal.toTree t) (literal'.toTree t') := by
  cases h with
  | value h => exact h
  | kept => exact ht

/-- No comment stands in an array whose items are evaluated with a literal. -/
def KeepsArrays : Nat → Tree → Tree → Prop
  | 0, _, _ => True
  | depth + 1, t, t' =>
    (isKind (unwrap t) "array" →
      List.Forall₂ (KeepsArrays depth) (children (unwrap t)) (children (unwrap t'))) ∧
    (isKind (unwrap t) "object" →
      List.Forall₂ (fun e e' => KeepsArrays depth e.2 e'.2) ((objectEntries? t).getD [])
        ((objectEntries? t').getD []))

theorem rel_ite {α : Type} {R : α → α → Prop} {c : Prop} [Decidable c] {a a' b b' : Option α}
    (ha : Option.Rel R a a') (hb : Option.Rel R b b') :
    Option.Rel R (if c then a else b) (if c then a' else b') := by
  split
  · exact ha
  · exact hb

namespace Commented

variable {t t' : Tree}

theorem hasNoSubstitution_eq (h : Commented t t') : hasNoSubstitution t' = hasNoSubstitution t := by
  have hvalue := h.get? "substitutions" (by decide)
  unfold hasNoSubstitution
  generalize t.get? "substitutions" = value, t'.get? "substitutions" = value' at hvalue
  cases hvalue with
  | none => rfl
  | some h => cases h <;> rfl

theorem negated?_eq (h : Commented t t') : t'.negated? = t.negated? := by
  cases h <;> rfl

/-- What is no array and no object is the same literal. -/
theorem literal?_of_leaf (h : Commented t t') (depth : Nat)
    (harray : isKind (Cst.unwrap t) "array" = false)
    (hobject : isKind (Cst.unwrap t) "object" = false) :
    Option.Rel CommentedLiteral (literal? (depth + 1) t) (literal? (depth + 1) t') := by
  have hnode := h.unwrap
  have hargument := hnode.field "argument" (by decide)
  simp only [literal?, hnode.isKind_eq, hnode.templateText_eq, hnode.hasNoSubstitution_eq,
    hnode.textOf_node_eq, hargument.isKind_eq, harray, hobject, Bool.false_eq_true, if_false,
    (hargument.get "value" (by decide)).negated?_eq]
  refine rel_ite (.some (.value (hnode.get "value" (by decide)))) ?_
  refine rel_ite (.some (.value (.scalar rfl))) ?_
  refine rel_ite (.some (.value (.scalar rfl))) ?_
  refine rel_ite (.some (.value (.scalar rfl))) ?_
  refine rel_ite (.some (.value (.scalar rfl))) ?_
  refine rel_ite (rel_ite ?_ (.some .kept)) (.some .kept)
  cases hvalue : ((Cst.field (Cst.unwrap t) "argument").get "value").negated? with
  | none => exact .some .kept
  | some v =>
    refine .some (.value (.scalar ?_))
    unfold Tree.negated? at hvalue
    split at hvalue <;> cases hvalue <;> rfl

end Commented

theorem rel_some {α : Type} {R : α → α → Prop} {a a' : Option α} (h : Option.Rel R a a') {x : α}
    (hx : a = some x) : ∃ x', a' = some x' ∧ R x x' := by
  cases h with
  | none => cases hx
  | some h =>
    cases hx
    exact ⟨_, rfl, h⟩

theorem forall₂_mapM {α β : Type} {R : α → α → Prop} {S : β → β → Prop} {f : α → Option β}
    {as as' : List α} (h : List.Forall₂ R as as')
    (hstep : ∀ a a', R a a' → ∀ b, f a = some b → ∃ b', f a' = some b' ∧ S b b') {bs : List β}
    (hbs : as.mapM f = some bs) : ∃ bs', as'.mapM f = some bs' ∧ List.Forall₂ S bs bs' := by
  rw [mapM_eq_some_iff] at hbs
  simp only [mapM_eq_some_iff]
  induction h generalizing bs with
  | nil =>
    cases hbs
    exact ⟨[], .nil, .nil⟩
  | cons hhead _ ih =>
    cases hbs with
    | cons hb hrest =>
      obtain ⟨b', hb', hS⟩ := hstep _ _ hhead _ hb
      obtain ⟨bs', hbs', hSs⟩ := ih hrest
      exact ⟨b' :: bs', .cons hb' hbs', .cons hS hSs⟩

theorem commentedItems_of_forall₂ {items items' : List Tree}
    (h : List.Forall₂ Commented items items') : CommentedItems items items' := by
  induction h with
  | nil => exact .nil
  | cons hhead _ ih => exact .cons hhead ih

theorem commentedEntries_of_aligned {entries entries' : Entries}
    (h : Entries.Aligned (fun _ => Commented) entries entries') (first : Bool) :
    CommentedEntries first entries entries' := by
  induction h with
  | nil => exact .nil
  | @cons e e' _ _ hhead _ ih =>
    obtain ⟨key, v⟩ := e
    obtain ⟨key', v'⟩ := e'
    obtain ⟨rfl, hv⟩ := hhead
    exact .value hv ih

theorem CommentedItems.and {items items' : List Tree} {R : Tree → Tree → Prop}
    (h : CommentedItems items items') (hR : List.Forall₂ R items items') :
    List.Forall₂ (fun t t' => Commented t t' ∧ R t t') items items' := by
  induction hR with
  | nil => exact .nil
  | cons hhead _ ih =>
    cases h with
    | cons h rest => exact .cons ⟨h, hhead⟩ (ih rest)

theorem aligned_and {R : Tree → Tree → Prop} {pairs pairs' : Entries}
    (h : Entries.Aligned (fun _ => Commented) pairs pairs')
    (hR : List.Forall₂ (fun e e' => R e.2 e'.2) pairs pairs') :
    Entries.Aligned (fun _ t t' => Commented t t' ∧ R t t') pairs pairs' := by
  induction hR with
  | nil => exact .nil
  | cons hhead _ ih =>
    cases h with
    | cons h rest => exact .cons ⟨h.1, h.2, hhead⟩ (ih rest)

/-- A literal without comments in its arrays has the same value, but for comments in nodes that
are kept. -/
theorem Commented.literal? {depth : Nat} {t t' : Tree} (h : Commented t t')
    (hkeeps : KeepsArrays depth t t') {literal : Literal}
    (hliteral : Cst.literal? depth t = some literal) :
    ∃ literal', Cst.literal? depth t' = some literal' ∧ CommentedLiteral literal literal' := by
  induction depth generalizing t t' literal with
  | zero => cases hliteral
  | succ depth ih =>
    have hvalue : ∀ a a', Commented a a' ∧ KeepsArrays depth a a' → ∀ v,
        dialect.valueOf? depth a = some v → ∃ v', dialect.valueOf? depth a' = some v' ∧
          Commented v v' := by
      rintro a a' ⟨ha, hkeeps⟩ v hv
      obtain ⟨literal, hliteral, rfl⟩ := Option.map_eq_some_iff.mp hv
      obtain ⟨literal', hliteral', hrel⟩ := ih ha hkeeps hliteral
      exact ⟨literal'.toTree a', Option.map_eq_some_iff.mpr ⟨literal', hliteral', rfl⟩,
        hrel.toTree ha⟩
    cases harray : isKind (Cst.unwrap t) "array" with
    | true =>
      have hsame := hkeeps.1 harray
      have hitems := h.unwrap.children.items_of_length.2 hsame.length_eq.symm
      rw [literal?_of_array harray, Option.map_eq_some_iff] at hliteral
      obtain ⟨items, hmap, rfl⟩ := hliteral
      obtain ⟨items', hmap', hrel⟩ := forall₂_mapM (hitems.and hsame) hvalue hmap
      rw [literal?_of_array ((h.unwrap.isKind_eq _).trans harray), hmap']
      exact ⟨_, rfl, .value (.list (commentedItems_of_forall₂ hrel))⟩
    | false =>
      cases hobject : isKind (Cst.unwrap t) "object" with
      | false => exact rel_some (h.literal?_of_leaf depth harray hobject) hliteral
      | true =>
        obtain ⟨pairs, hpairs⟩ : ∃ pairs, Cst.objectEntries? t = some pairs :=
          ⟨_, (objectEntries?_eq t).trans (if_pos hobject)⟩
        obtain ⟨pairs', hpairs', haligned⟩ := rel_some h.objectEntries? hpairs
        have hkept := hkeeps.2 hobject
        rw [hpairs, hpairs', Option.getD_some, Option.getD_some] at hkept
        have hliteral' := evaluatesObjects depth t pairs hpairs
        obtain ⟨entries, hentries, rfl⟩ :=
          Option.map_eq_some_iff.mp (hliteral'.symm.trans hliteral)
        have hstep : ∀ e e' : Text × Tree,
            e.1 = e'.1 ∧ Commented e.2 e'.2 ∧ KeepsArrays depth e.2 e'.2 → ∀ r,
            (dialect.valueOf? depth e.2).map (e.1, ·) = some r →
            ∃ r', (dialect.valueOf? depth e'.2).map (e'.1, ·) = some r' ∧
              r.1 = r'.1 ∧ Commented r.2 r'.2 := by
          rintro e e' ⟨hkey, hnode⟩ r hr
          obtain ⟨v, hv, rfl⟩ := Option.map_eq_some_iff.mp hr
          obtain ⟨v', hv', hrel⟩ := hvalue _ _ hnode v hv
          exact ⟨(e'.1, v'), Option.map_eq_some_iff.mpr ⟨v', hv', rfl⟩, hkey, hrel⟩
        obtain ⟨entries', hentries', hrel⟩ :=
          forall₂_mapM (aligned_and haligned hkept) hstep hentries
        refine ⟨.value (.map (Entries.ofPairs entries')), ?_, .value (.map ?_)⟩
        · exact (evaluatesObjects depth t' pairs' hpairs').trans
            (Option.map_eq_some_iff.mpr ⟨entries', hentries', rfl⟩)
        · exact commentedEntries_of_aligned (Entries.Aligned.ofPairs hrel) _

end EndpointCatalog.Cst
