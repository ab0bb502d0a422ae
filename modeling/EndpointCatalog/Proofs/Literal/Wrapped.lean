/-
EndpointCatalog.Proofs.Literal.Wrapped — literals with something around them.

Parentheses, annotations and non-null marks may stand around a literal, around
the items of its arrays and around the values of its objects, any number of
them at each place and to any depth.

* `IsLiteral`: the nodes that are a literal themselves, nothing around them.
* `WrapsWithin`: a literal with wrappers at any of these places. What is no
  literal stands in it as it is: of `(x)` the parentheses are part of what is
  kept.

`read_through_wrappers`: none of it is seen. Texts, objects and literals are
read as if it were not there, and what is read of a literal is its value,
never a node.
-/
import EndpointCatalog.Proofs.Handler.Wrapped

namespace EndpointCatalog.Cst

/-! ## Literals -/

/-- The kinds of nodes that are literals whatever they hold. -/
def literalKinds : List String :=
  ["string", "number", "true", "false", "null", "undefined", "object", "array"]

/-- A node that is a literal itself. -/
inductive IsLiteral (node : Tree) : Prop where
  | ofKind {kind : String} (hkind : kind ∈ literalKinds) (h : isKind node kind = true)
  | template (h : isKind node "template_string" = true) (hplain : hasNoSubstitution node = true)
  | negative (h : isKind node "unary_expression" = true)
      (hminus : startsWithMinus (textOf node) = true)
      (hargument : isKind (field node "argument") "number" = true)
      (hvalue : ((field node "argument").get "value").isNumber = true)

/-- No wrapper is among them. -/
theorem literalKinds_bare : ∀ kind ∈ literalKinds,
    kind ∉ ["parenthesized_expression", "as_expression", "satisfies_expression",
      "non_null_expression"] := by
  decide

theorem exists_negated? {t : Tree} (h : t.isNumber = true) : ∃ v, t.negated? = some v := by
  cases t with
  | int n => exact ⟨.int (-n), rfl⟩
  | float x => exact ⟨.float (-x), rfl⟩
  | _ => cases h

namespace IsLiteral

variable {node : Tree} {depth : Nat}

theorem isMap (h : IsLiteral node) : node.isMap = true := by
  cases h with
  | ofKind _ h => exact isMap_of_isKind h
  | template h => exact isMap_of_isKind h
  | negative h => exact isMap_of_isKind h

/-- A literal evaluates to a value, if it is not nested too deep. -/
theorem literal?_ne_kept (h : IsLiteral node) : literal? depth node ≠ some .kept := by
  cases depth with
  | zero => simp [literal?]
  | succ depth =>
    cases h with
    | @ofKind kind hkind h =>
      have hunwrap := unwrap_of_isKind h (literalKinds_bare kind hkind)
      simp only [literalKinds, List.mem_cons, List.not_mem_nil, or_false] at hkind
      rcases hkind with rfl | rfl | rfl | rfl | rfl | rfl | rfl | rfl <;>
        simp [literal?, hunwrap, isKind_eq h, Option.bind_eq_some_iff]
    | template h hplain =>
      have hunwrap := unwrap_of_isKind h (by decide)
      simp [literal?, hunwrap, isKind_eq h, hplain]
    | negative h hminus hargument hvalue =>
      have hunwrap := unwrap_of_isKind h (by decide)
      obtain ⟨v, hv⟩ := exists_negated? hvalue
      simp [literal?, hunwrap, isKind_eq h, hargument, hminus, hv]

end IsLiteral

/-! ## Wrappers within a literal -/

mutual

/-- A node is a literal with wrappers around it, around the items of its arrays and around the
values of its objects. -/
inductive WrapsWithin : Tree → Tree → Prop where
  | same (node : Tree) : WrapsWithin node node
  | around {literal node : Tree} (hliteral : IsLiteral literal) (h : isTransparent node = true)
      (rest : WrapsWithin literal (inner node)) : WrapsWithin literal node
  | array {literal node : Tree} (hliteral : isKind literal "array" = true)
      (h : isKind node "array" = true) (items : WrapsItems (children literal) (children node)) :
      WrapsWithin literal node
  | object {literal node : Tree} (hliteral : isKind literal "object" = true)
      (h : isKind node "object" = true)
      (members : WrapsMembers (children literal) (children node)) : WrapsWithin literal node

/-- The items of an array, each with wrappers. -/
inductive WrapsItems : List Tree → List Tree → Prop where
  | nil : WrapsItems [] []
  | cons {literal node : Tree} {literals nodes : List Tree} (h : WrapsWithin literal node)
      (rest : WrapsItems literals nodes) : WrapsItems (literal :: literals) (node :: nodes)

/-- The members of an object, with wrappers within the values. -/
inductive WrapsMembers : List Tree → List Tree → Prop where
  | nil : WrapsMembers [] []
  | same {literals nodes : List Tree} (member : Tree) (rest : WrapsMembers literals nodes) :
      WrapsMembers (member :: literals) (member :: nodes)
  | pair {literal node : Tree} {literals nodes : List Tree}
      (hliteral : isKind literal "pair" = true) (h : isKind node "pair" = true)
      (hkey : keyName? (field node "key") = keyName? (field literal "key"))
      (hvalue : WrapsWithin (field literal "value") (field node "value"))
      (rest : WrapsMembers literals nodes) : WrapsMembers (literal :: literals) (node :: nodes)

end

/-- Wrappers stand around nodes only. -/
theorem WrapsWithin.eq_or_isMap {literal node : Tree} (h : WrapsWithin literal node) :
    node = literal ∨ node.isMap = true ∧ literal.isMap = true := by
  cases h with
  | same => exact .inl rfl
  | around hliteral h => exact .inr ⟨isMap_of_isTransparent h, hliteral.isMap⟩
  | array hliteral h => exact .inr ⟨isMap_of_isKind h, isMap_of_isKind hliteral⟩
  | object hliteral h => exact .inr ⟨isMap_of_isKind h, isMap_of_isKind hliteral⟩

theorem WrapsWithin.isNull_eq {literal node : Tree} (h : WrapsWithin literal node) :
    node.isNull = literal.isNull := by
  have hmap : ∀ {t : Tree}, t.isMap = true → t.isNull = false := fun {t} ht => by
    cases t with
    | map entries => rfl
    | _ => cases ht
  rcases h.eq_or_isMap with rfl | ⟨hnode, hliteral⟩
  · rfl
  · rw [hmap hnode, hmap hliteral]

theorem literal?_of_isTransparent {node : Tree} (h : isTransparent node = true) (depth : Nat) :
    literal? depth node = literal? depth (inner node) :=
  (Wraps.around h .bare).read_alike.2.2.2 depth

theorem WrapsWithin.eq_or_isLiteral {literal node : Tree} (h : WrapsWithin literal node) :
    node = literal ∨ IsLiteral literal := by
  cases h with
  | same => exact .inl rfl
  | around hliteral => exact .inr hliteral
  | array hliteral => exact .inr (.ofKind (by decide) hliteral)
  | object hliteral => exact .inr (.ofKind (by decide) hliteral)

/-- What is no literal has no wrappers, and what is one has a value whatever the node. -/
theorem WrapsWithin.valueOf?_of_literal? {literal node : Tree} {depth : Nat}
    (h : WrapsWithin literal node)
    (hread : IsLiteral literal → literal? depth node = literal? depth literal) :
    dialect.valueOf? depth node = dialect.valueOf? depth literal := by
  rcases h.eq_or_isLiteral with rfl | hliteral
  · rfl
  · show (literal? depth node).map _ = (literal? depth literal).map _
    rw [hread hliteral]
    cases hvalue : literal? depth literal with
    | none => rfl
    | some found =>
      cases found with
      | value v => rfl
      | kept => exact absurd hvalue hliteral.literal?_ne_kept

/-- The key and the value that a member of an object adds, if it adds any. -/
def memberValue? (depth : Nat) (member : Tree) : Option (Text × Option Tree) :=
  (staticProperty? member).map fun pair => (pair.1, dialect.valueOf? depth pair.2)

theorem evaluated?_filterMap_cons {literal node : Tree} {literals nodes : List Tree} {depth : Nat}
    (hmember : memberValue? depth node = memberValue? depth literal)
    (hrest : dialect.evaluated? depth (nodes.filterMap staticProperty?) =
      dialect.evaluated? depth (literals.filterMap staticProperty?)) :
    dialect.evaluated? depth ((node :: nodes).filterMap staticProperty?) =
      dialect.evaluated? depth ((literal :: literals).filterMap staticProperty?) := by
  unfold memberValue? at hmember
  cases hliteral : staticProperty? literal with
  | none =>
    rw [hliteral, Option.map_none, Option.map_eq_none_iff] at hmember
    rwa [List.filterMap_cons_none hmember, List.filterMap_cons_none hliteral]
  | some pair =>
    rw [hliteral, Option.map_some, Option.map_eq_some_iff] at hmember
    obtain ⟨other, hnode, heq⟩ := hmember
    obtain ⟨hkey, hvalue⟩ := Prod.mk.injEq .. ▸ heq
    rw [List.filterMap_cons_some hnode, List.filterMap_cons_some hliteral, Dialect.evaluated?,
      Dialect.evaluated?, List.mapM_cons, List.mapM_cons, ← Dialect.evaluated?,
      ← Dialect.evaluated?, hrest, hkey, hvalue]

theorem staticProperty?_of_pair {member : Tree} (h : isKind member "pair" = true) :
    staticProperty? member = (keyName? (field member "key")).bind fun name =>
      if (field member "value").isNull then none else some (name, field member "value") := by
  rw [staticProperty?, if_pos h]
  cases keyName? (field member "key") with
  | none => rfl
  | some name => cases field member "value" <;> rfl

theorem objectEntries?_of_object {node : Tree} (h : isKind node "object" = true) :
    objectEntries? node = some ((children node).filterMap staticProperty?) := by
  rw [objectEntries?_eq, unwrap_of_isKind h (by decide), if_pos h]

mutual

/-- Wrappers are not seen, neither around a literal nor within it. -/
theorem WrapsWithin.literal?_eq : ∀ {literal node : Tree}, WrapsWithin literal node →
    IsLiteral literal → ∀ depth, literal? depth node = literal? depth literal
  | _, _, .same _, _, _ => rfl
  | _, _, .around _ h rest, hliteral, depth => by
    rw [literal?_of_isTransparent h, rest.literal?_eq hliteral]
  | _, _, .array _ _ _, _, 0 => rfl
  | literal, node, .array hliteral h items, _, depth + 1 => by
    have hbare := unwrap_of_isKind hliteral (by decide)
    have hunwrap := unwrap_of_isKind h (by decide)
    rw [literal?_of_array (by rwa [hunwrap]), literal?_of_array (by rwa [hbare]), hunwrap, hbare,
      items.mapM_valueOf?_eq]
  | _, _, .object _ _ _, _, 0 => rfl
  | literal, node, .object hliteral h members, _, depth + 1 => by
    exact (evaluatesObjects depth node _ (objectEntries?_of_object h)).trans
      ((congrArg _ (members.evaluated?_eq depth)).trans
        (evaluatesObjects depth literal _ (objectEntries?_of_object hliteral)).symm)

theorem WrapsItems.mapM_valueOf?_eq : ∀ {literals nodes : List Tree}, WrapsItems literals nodes →
    ∀ depth, nodes.mapM (dialect.valueOf? depth) = literals.mapM (dialect.valueOf? depth)
  | _, _, .nil, _ => rfl
  | _, _, @WrapsItems.cons literal node literals nodes h rest, depth => by
    have hvalue : dialect.valueOf? depth node = dialect.valueOf? depth literal :=
      h.valueOf?_of_literal? fun hliteral => h.literal?_eq hliteral depth
    rw [List.mapM_cons, List.mapM_cons, hvalue, rest.mapM_valueOf?_eq]

theorem WrapsMembers.evaluated?_eq : ∀ {literals nodes : List Tree}, WrapsMembers literals nodes →
    ∀ depth, dialect.evaluated? depth (nodes.filterMap staticProperty?) =
      dialect.evaluated? depth (literals.filterMap staticProperty?)
  | _, _, .nil, _ => rfl
  | _, _, .same _ rest, depth => evaluated?_filterMap_cons rfl (rest.evaluated?_eq depth)
  | _, _, @WrapsMembers.pair literal node literals nodes hliteral h hkey hvalue rest, depth => by
    refine evaluated?_filterMap_cons ?_ (rest.evaluated?_eq depth)
    have hnull := hvalue.isNull_eq
    have hsame : dialect.valueOf? depth (field node "value") =
        dialect.valueOf? depth (field literal "value") :=
      hvalue.valueOf?_of_literal? fun hbare => hvalue.literal?_eq hbare depth
    rw [memberValue?, memberValue?, staticProperty?_of_pair h, staticProperty?_of_pair hliteral,
      hkey, hnull]
    cases keyName? (field literal "key") with
    | none => rfl
    | some name =>
      rw [Option.bind_some, Option.bind_some]
      split
      · rfl
      · rw [Option.map_some, Option.map_some, hsame]

end

/-! ## Reading -/

theorem isNumber_of_negated? {t v : Tree} (h : t.negated? = some v) : t.isNumber = true := by
  cases t with
  | int n => rfl
  | float x => rfl
  | _ => cases h

/-- The node of a whole literal is one. -/
theorem isLiteral_of_shows : ∀ {e : LiteralExpr} {node : Tree}, shape.shows e node = true →
    IsLiteral node
  | .scalar (.string _), _, h => .ofKind (by decide) (Bool.and_eq_true_iff.1 h).1
  | .scalar (.number _), _, h =>
    .ofKind (by decide) (Bool.and_eq_true_iff.1 (Bool.and_eq_true_iff.1 h).1).1
  | .scalar (.negative token), node, h => by
    obtain ⟨h, hnumber⟩ := Bool.and_eq_true_iff.1 h
    obtain ⟨hkind, hminus⟩ := Bool.and_eq_true_iff.1 h
    obtain ⟨hnumber, -⟩ := Bool.and_eq_true_iff.1 hnumber
    obtain ⟨hargument, hvalue⟩ := Bool.and_eq_true_iff.1 hnumber
    refine .negative hkind hminus hargument ?_
    rw [Tree.eq_of_isLiteral hvalue]
    exact isNumber_of_negated? token.negated?_value
  | .scalar (.bool true), node, h => .ofKind (by decide) (show isKind node "true" = true from h)
  | .scalar (.bool false), node, h => .ofKind (by decide) (show isKind node "false" = true from h)
  | .scalar .null, node, h => .ofKind (by decide) (show isKind node "null" = true from h)
  | .scalar (.template _), _, h => by
    obtain ⟨h, -⟩ := Bool.and_eq_true_iff.1 h
    obtain ⟨hkind, hplain⟩ := Bool.and_eq_true_iff.1 h
    exact .template hkind hplain
  | .array _, _, h => by
    obtain ⟨_, hnodes, -⟩ := (Option.any_eq_true _ _).1 h
    exact .ofKind (by decide) (Option.ite_none_right_eq_some.1 hnodes).1
  | .object _, _, h => by
    obtain ⟨_, hnodes, -⟩ := (Option.any_eq_true _ _).1 h
    exact .ofKind (by decide) (Option.ite_none_right_eq_some.1 hnodes).1

/-- Nothing that stands around an expression is seen by what reads its text or its entries, and
nothing that stands around or within a literal by what evaluates it. A literal evaluates to a value
and never to a node; a whole one to the value that it is written with. -/
theorem read_through_wrappers {literal node : Tree} :
    (Wraps literal node →
      routeText? node = routeText? literal ∧ objectEntries? node = objectEntries? literal) ∧
    (WrapsWithin literal node → ∀ depth,
      dialect.valueOf? depth node = dialect.valueOf? depth literal ∧
        (IsLiteral literal →
          literal? depth node = literal? depth literal ∧ literal? depth node ≠ some .kept)) ∧
    (WrapsWithin literal node → ∀ (e : LiteralExpr) (depth : Nat),
      shape.shows e literal = true → e.height ≤ depth →
        literal? depth node = some (.value (e.value LiteralKey.written))) := by
  refine ⟨fun h => ⟨h.read_alike.1, h.read_alike.2.1⟩, fun h depth => ⟨?_, fun hliteral => ?_⟩, ?_⟩
  · exact h.valueOf?_of_literal? fun hliteral => h.literal?_eq hliteral depth
  · have hsame := h.literal?_eq hliteral depth
    exact ⟨hsame, hsame ▸ hliteral.literal?_ne_kept⟩
  · intro h e depth hshows hdepth
    rw [h.literal?_eq (isLiteral_of_shows hshows)]
    exact shape_readBy.literal?_eq evaluatesObjects e hshows hdepth

/-! ### A literal with wrappers everywhere -/

namespace Wrapped

/-- A node on the first line. -/
def node (kind : String) (text : Text) (fields : Entries) (children : List Tree) : Tree :=
  .map [("kind", .ofString kind), ("line", .int 1), ("text", .text text),
    ("fields", .map fields), ("children", .list children)]

/-- `true` -/
def flag : Tree := node "true" "true" [] []

/-- `(true)!` -/
def wrappedFlag : Tree :=
  node "non_null_expression" "(true)!" [] [node "parenthesized_expression" "(true)" [] [flag]]

/-- `[true]` or `[(true)!]` -/
def items (text : Text) (item : Tree) : Tree := node "array" text [] [item]

/-- `{ a: [true] }` or `{ a: [(true)!] }`, from its only value. -/
def fields (text : Text) (value : Tree) : Tree :=
  node "object" text []
    [node "pair" "" [("key", node "property_identifier" "a" [] []), ("value", value)] []]

/-- `{ a: [true] }` -/
def bare : Tree := fields "\x7b a: [true] \x7d" (items "[true]" flag)

/-- `{ a: [(true)!] }` -/
def within : Tree := fields "\x7b a: [(true)!] \x7d" (items "[(true)!]" wrappedFlag)

/-- `({ a: [(true)!] }) as T` -/
def around : Tree :=
  node "as_expression" "(\x7b a: [(true)!] \x7d) as T" []
    [node "parenthesized_expression" "(\x7b a: [(true)!] \x7d)" [] [within]]

/-- The literal that all of them are. -/
def expression : LiteralExpr :=
  .object [.pair (.identifier "a" "a") (.array [.scalar (.bool true)])]

theorem wraps_around : Wraps within around := .around rfl (.around rfl .bare)

theorem wrapsWithin_around : WrapsWithin bare around := by
  have hflag : IsLiteral flag := .ofKind (by decide) (show isKind flag "true" = true from rfl)
  have hbare : IsLiteral bare := .ofKind (by decide) (show isKind bare "object" = true from rfl)
  have hitems : WrapsWithin (items "[true]" flag) (items "[(true)!]" wrappedFlag) :=
    .array rfl rfl (.cons (.around hflag rfl (.around hflag rfl (.same flag))) .nil)
  exact .around hbare rfl (.around hbare rfl (.object rfl rfl (.pair rfl rfl rfl hitems .nil)))

end Wrapped

theorem read_through_wrappers_around :
    Wraps Wrapped.within Wrapped.around ∧ WrapsWithin Wrapped.bare Wrapped.around ∧
      shape.shows Wrapped.expression Wrapped.bare = true ∧
      objectEntries? Wrapped.around = objectEntries? Wrapped.within ∧
      literal? 3 Wrapped.around = literal? 3 Wrapped.bare ∧
      literal? 3 Wrapped.around = some (.value (Wrapped.expression.value LiteralKey.written)) := by
  have hshows : shape.shows Wrapped.expression Wrapped.bare = true := by decide
  obtain ⟨hentries, -, -⟩ := @read_through_wrappers Wrapped.within Wrapped.around
  obtain ⟨-, hsame, hvalue⟩ := @read_through_wrappers Wrapped.bare Wrapped.around
  exact ⟨Wrapped.wraps_around, Wrapped.wrapsWithin_around, hshows,
    (hentries Wrapped.wraps_around).2,
    ((hsame Wrapped.wrapsWithin_around 3).2 (isLiteral_of_shows hshows)).1,
    hvalue Wrapped.wrapsWithin_around Wrapped.expression 3 hshows (by decide)⟩

end EndpointCatalog.Cst
