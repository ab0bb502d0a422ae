/-
EndpointCatalog.Proofs.Literal.Agreement — the dialects evaluate literals alike.

A tree that shows a literal evaluates to its value, in either dialect and
however deep it is (`NodeShape.ReadBy.literal?_eq`). In scripts an identifier
key is called by its name, in typed scripts as it is written. So the values
are the same, keys in the same order, unless an identifier key is written
with an escape (`literals_agree`).

Of numbers scripts have one more thing to say: whether one is too long to be
spelled. A literal comes upon such a number where it stands in it as a value
or as a key, and nowhere else (`Estree.literalTooLong_eq`).
-/
import EndpointCatalog.Cst.Parser
import EndpointCatalog.Estree.Parser
import EndpointCatalog.Metadata
import EndpointCatalog.Proofs.Literal.Expression
import EndpointCatalog.Proofs.Literals
import EndpointCatalog.Proofs.Projection

namespace EndpointCatalog

/-! ## Evaluating what a tree shows -/

/-- What a dialect does with the nodes of a shape. A member of an object literal has an entry or
none. -/
structure NodeShape.ReadBy (shape : NodeShape) (d : Dialect) (name : LiteralKey → Text)
    (pairOf? : Tree → Option (Text × Tree)) : Prop where
  scalar {s : Scalar} {node : Tree} {depth : Nat} : shape.scalar s node = true →
    s.height ≤ depth → d.literal? depth node = some (.value s.value)
  array {node : Tree} {nodes : List Tree} (depth : Nat) : shape.items? node = some nodes →
    d.literal? (depth + 1) node = (nodes.mapM (d.valueOf? depth)).map (.value ∘ .list)
  object {node : Tree} {members : List Tree} : shape.members? node = some members →
    d.objectEntries? node = some (members.filterMap pairOf?)
  pair {node key value : Tree} {k : LiteralKey} : shape.pair? node = some (key, value) →
    shape.key k key = true → pairOf? node = some (name k, value)
  computed {node : Tree} : shape.computed node = true → pairOf? node = none
  spread {node : Tree} : shape.spread node = true → pairOf? node = none

namespace NodeShape.ReadBy

variable {shape : NodeShape} {d : Dialect} {name : LiteralKey → Text}
  {pairOf? : Tree → Option (Text × Tree)}

theorem valueOf?_of_literal? {node v : Tree} {depth : Nat}
    (h : d.literal? depth node = some (.value v)) : d.valueOf? depth node = some v := by
  rw [Dialect.valueOf?, h]
  rfl

mutual

/-- A tree that shows a literal evaluates to its value. -/
theorem literal?_eq (h : shape.ReadBy d name pairOf?) (hd : d.EvaluatesObjects) :
    ∀ (e : LiteralExpr) {node : Tree} {depth : Nat}, shape.shows e node = true →
      e.height ≤ depth → d.literal? depth node = some (.value (e.value name))
  | .scalar s, _, _, hshows, hdepth => h.scalar hshows hdepth
  | .array items, node, depth, hshows, hdepth => by
    obtain ⟨nodes, hnodes, hitems⟩ := (Option.any_eq_true _ _).1 hshows
    -- One level is for the array itself, and what is left suffices for its items.
    obtain ⟨below, rfl⟩ := Nat.exists_eq_add_of_le' hdepth
    have hvalues := h.values_eq hd items hitems (Nat.le_add_left _ below)
    rw [LiteralExpr.height, ← Nat.add_assoc, h.array _ hnodes, hvalues]
    rfl
  | .object members, node, depth, hshows, hdepth => by
    obtain ⟨nodes, hnodes, hmembers⟩ := (Option.any_eq_true _ _).1 hshows
    obtain ⟨below, rfl⟩ := Nat.exists_eq_add_of_le' hdepth
    have hentries := h.evaluated?_eq hd members hmembers (Nat.le_add_left _ below)
    rw [LiteralExpr.height, ← Nat.add_assoc, hd _ _ _ (h.object hnodes), hentries]
    rfl

theorem values_eq (h : shape.ReadBy d name pairOf?) (hd : d.EvaluatesObjects) :
    ∀ (items : List LiteralExpr) {nodes : List Tree} {depth : Nat},
      shape.showsItems items nodes = true → LiteralExpr.heightAll items ≤ depth →
      nodes.mapM (d.valueOf? depth) = some (LiteralExpr.values name items)
  | [], [], _, _, _ => rfl
  | e :: rest, node :: nodes, depth, hshows, hdepth => by
    obtain ⟨hfirst, hrest⟩ := Bool.and_eq_true_iff.1 hshows
    obtain ⟨hfirstDepth, hrestDepth⟩ := Nat.max_le.1 hdepth
    have hvalue := valueOf?_of_literal? (h.literal?_eq hd e hfirst hfirstDepth)
    have hvalues := h.values_eq hd rest hrest hrestDepth
    rw [List.mapM_cons, hvalue, hvalues]
    rfl

theorem evaluated?_eq (h : shape.ReadBy d name pairOf?) (hd : d.EvaluatesObjects) :
    ∀ (members : List LiteralMember) {nodes : List Tree} {depth : Nat},
      shape.showsMembers members nodes = true → LiteralMember.heightAll members ≤ depth →
      d.evaluated? depth (nodes.filterMap pairOf?) = some (LiteralMember.pairs name members)
  | [], [], _, _, _ => rfl
  | .pair key e :: rest, node :: nodes, depth, hshows, hdepth => by
    obtain ⟨hfirst, hrest⟩ := Bool.and_eq_true_iff.1 hshows
    obtain ⟨parts, hparts, hfirst⟩ := (Option.any_eq_true _ _).1 hfirst
    obtain ⟨hkey, hvalue⟩ := Bool.and_eq_true_iff.1 hfirst
    obtain ⟨hfirstDepth, hrestDepth⟩ := Nat.max_le.1 hdepth
    have hvalue := valueOf?_of_literal? (h.literal?_eq hd e hvalue hfirstDepth)
    have hentries := h.evaluated?_eq hd rest hrest hrestDepth
    rw [List.filterMap_cons_some (h.pair hparts hkey), Dialect.evaluated?, List.mapM_cons, hvalue,
      ← Dialect.evaluated?, hentries]
    rfl
  | .computed :: rest, node :: nodes, depth, hshows, hdepth => by
    obtain ⟨hfirst, hrest⟩ := Bool.and_eq_true_iff.1 hshows
    rw [List.filterMap_cons_none (h.computed hfirst)]
    exact h.evaluated?_eq hd rest hrest hdepth
  | .spread :: rest, node :: nodes, depth, hshows, hdepth => by
    obtain ⟨hfirst, hrest⟩ := Bool.and_eq_true_iff.1 hshows
    rw [List.filterMap_cons_none (h.spread hfirst)]
    exact h.evaluated?_eq hd rest hrest hdepth

end

end NodeShape.ReadBy

theorem mapM_congr {α β : Type} {f g : α → Option β} :
    ∀ {xs : List α}, (∀ x ∈ xs, f x = g x) → xs.mapM f = xs.mapM g
  | [], _ => rfl
  | x :: rest, h => by
    obtain ⟨hfirst, hrest⟩ := List.forall_mem_cons.1 h
    rw [List.mapM_cons, List.mapM_cons, hfirst, mapM_congr hrest]

/-! ## Scripts -/

namespace Estree

theorem isKind_eq {node : Tree} {kind : String} (h : isKind node kind = true) (other : String) :
    isKind node other = (kind == other) := Tree.hasText_eq h other

theorem literal?_of_isPlainLiteral {node : Tree} {depth : Nat} (h : isPlainLiteral node = true)
    (hvalue : (node.get "value").isNumber = false) :
    literal? (depth + 1) node = some (.value (node.get "value")) := by
  obtain ⟨hkind, hregex⟩ := Bool.and_eq_true_iff.1 h
  have hnone : (node.get? "regex").isSome = false := by simpa using hregex
  simp only [literal?, hkind, hnone, if_true, Bool.false_eq_true, if_false]
  cases hnode : node.get "value" with
  | int n => simp [hnode, Tree.isNumber] at hvalue
  | float x => simp [hnode, Tree.isNumber] at hvalue
  | _ => rfl

/-- A node that shows a number has the value that is found of it. -/
theorem parts_of_showsNumber {token : NumberToken} {node : Tree} (h : showsNumber token node = true) :
    isPlainLiteral node = true ∧ node.get "value" = .ofLiteral token.found ∧
      (node.get "value").isNumber = true ∧ (node.get "raw").text? = some token.text := by
  obtain ⟨h, hraw⟩ := Bool.and_eq_true_iff.1 h
  obtain ⟨hliteral, hvalue⟩ := Bool.and_eq_true_iff.1 h
  have hvalue := Tree.eq_of_isLiteral hvalue
  exact ⟨hliteral, hvalue, hvalue ▸ Tree.isNumber_ofLiteral token.isNumber_found, beq_iff_eq.1 hraw⟩

/-- A number is read again from how it is written. -/
theorem literal?_of_showsNumber {token : NumberToken} {node : Tree} {depth : Nat}
    (h : showsNumber token node = true) :
    literal? (depth + 1) node = some (.value token.value) := by
  obtain ⟨hliteral, -, hnumber, hraw⟩ := parts_of_showsNumber h
  obtain ⟨hkind, hregex⟩ := Bool.and_eq_true_iff.1 hliteral
  have hnone : (node.get? "regex").isSome = false := by simpa using hregex
  have hnumberOf (value : Tree) : numberOf node value = token.value := by
    rw [numberOf, Tree.eq_of_text? hraw]
    rfl
  simp only [literal?, hkind, hnone, if_true, Bool.false_eq_true, if_false]
  cases hnode : node.get "value" with
  | int n => rw [← hnumberOf]
  | float x => rw [← hnumberOf]
  | _ => simp [hnode, Tree.isNumber] at hnumber

theorem literal?_of_negative {token : NumberToken} {node : Tree} {depth : Nat}
    (h : showsScalar (.negative token) node = true) :
    literal? (depth + 2) node = some (.value token.negated) := by
  obtain ⟨h, hargument⟩ := Bool.and_eq_true_iff.1 h
  obtain ⟨hkind, hoperator⟩ := Bool.and_eq_true_iff.1 h
  have hvalue : literal? (depth + 1) (node.get "argument") = some (.value token.value) :=
    literal?_of_showsNumber hargument
  rw [literal?]
  simp [isKind_eq hkind, hoperator, hvalue, Literal.toTree, token.negated?_value]

theorem literal?_of_showsTemplate {text : Text} {node : Tree} {depth : Nat}
    (h : showsTemplate text node = true) :
    literal? (depth + 1) node = some (.value (.text text)) := by
  obtain ⟨h, hquasis⟩ := Bool.and_eq_true_iff.1 h
  obtain ⟨hkind, hplain⟩ := Bool.and_eq_true_iff.1 h
  have htext : templateText node = text := by
    rw [templateText]
    split at hquasis
    · next quasi hitems =>
      rw [hitems, List.flatMap_singleton, quasiText, Tree.eq_of_text? (beq_iff_eq.1 hquasis)]
    · cases hquasis
  rw [literal?]
  simp only [isKind_eq hkind, String.reduceBEq, hplain, htext, Bool.false_eq_true, if_false,
    if_true, beq_self_eq_true, Bool.and_self]

theorem literal?_of_showsScalar : ∀ {s : Scalar} {node : Tree} {depth : Nat},
    showsScalar s node = true → s.height ≤ depth → literal? depth node = some (.value s.value)
  | .string _, _, _ + 1, hshows, _ => by
    obtain ⟨hliteral, hvalue⟩ := Bool.and_eq_true_iff.1 hshows
    have hvalue := Tree.eq_of_text? (beq_iff_eq.1 hvalue)
    rw [literal?_of_isPlainLiteral hliteral (by rw [hvalue]; rfl), hvalue, Scalar.value]
  | .number _, _, _ + 1, hshows, _ => literal?_of_showsNumber hshows
  | .negative _, _, _ + 2, hshows, _ => literal?_of_negative hshows
  | .negative _, _, 1, _, hdepth => absurd hdepth (Nat.not_succ_le_self 1)
  | .bool _, _, _ + 1, hshows, _ => by
    obtain ⟨hliteral, hvalue⟩ := Bool.and_eq_true_iff.1 hshows
    have hvalue := Tree.eq_of_bool? (beq_iff_eq.1 hvalue)
    rw [literal?_of_isPlainLiteral hliteral (by rw [hvalue]; rfl), hvalue, Scalar.value]
  | .null, _, _ + 1, hshows, _ => by
    obtain ⟨hliteral, hvalue⟩ := Bool.and_eq_true_iff.1 hshows
    have hvalue := Tree.eq_null_of_isNull hvalue
    rw [literal?_of_isPlainLiteral hliteral (by rw [hvalue]; rfl), hvalue, Scalar.value]
  | .template _, _, _ + 1, hshows, _ => literal?_of_showsTemplate hshows

/-- An identifier is called by its name. -/
theorem keyName?_of_showsKey : ∀ {k : LiteralKey} {node : Tree}, showsKey k node = true →
    keyName? node = some k.name
  | .identifier _ _, _, h => by
    obtain ⟨hkind, hname⟩ := Bool.and_eq_true_iff.1 h
    rw [keyName?, if_pos hkind, Tree.eq_of_text? (beq_iff_eq.1 hname)]
    rfl
  | .string _, _, h => by
    obtain ⟨hliteral, hvalue⟩ := Bool.and_eq_true_iff.1 h
    obtain ⟨hkind, -⟩ := Bool.and_eq_true_iff.1 hliteral
    simp [keyName?, isKind_eq hkind, Tree.eq_of_text? (beq_iff_eq.1 hvalue), LiteralKey.name]
  | .number _, node, h => by
    obtain ⟨hliteral, -, hnumber, hraw⟩ := parts_of_showsNumber h
    obtain ⟨hkind, -⟩ := Bool.and_eq_true_iff.1 hliteral
    simp only [keyName?, isKind_eq hkind, String.reduceBEq, Bool.false_eq_true, if_false,
      beq_self_eq_true, if_true, hraw]
    cases hnode : node.get "value" with
    | int n => rfl
    | float x => rfl
    | _ => simp [hnode, Tree.isNumber] at hnumber

/-- ESTree nodes are read by the dialect of scripts. -/
theorem shape_readBy : shape.ReadBy dialect LiteralKey.name staticProperty? where
  scalar := literal?_of_showsScalar
  array {node nodes} depth h := by
    obtain ⟨hcond, ⟨⟩⟩ := Option.ite_none_right_eq_some.1 h
    obtain ⟨hkind, hnodes⟩ := Bool.and_eq_true_iff.1 hcond
    -- A hole would be null without being evaluated, but all items are nodes.
    have hitem : ∀ item ∈ (node.get "elements").items,
        (if item.isMap then do pure ((← literal? depth item).toTree item) else pure .null) =
          dialect.valueOf? depth item := by
      intro item hmem
      rw [if_pos (List.all_eq_true.1 hnodes item hmem), Dialect.valueOf?, Option.map_eq_bind]
      rfl
    show literal? (depth + 1) node = _
    rw [literal?]
    simp only [isKind_eq hkind, String.reduceBEq, beq_self_eq_true, Bool.false_eq_true, if_false,
      if_true, Bool.false_and]
    rw [mapM_congr hitem, Option.map_eq_bind]
    rfl
  object {node members} h := by
    obtain ⟨hkind, ⟨⟩⟩ := Option.ite_none_right_eq_some.1 h
    show objectEntries? node = _
    rw [objectEntries?_eq, if_pos hkind]
  pair {node key value k} h hkey := by
    obtain ⟨hcond, ⟨⟩⟩ := Option.ite_none_right_eq_some.1 h
    obtain ⟨hkind, hvalue⟩ := Bool.and_eq_true_iff.1 hcond
    rw [staticProperty?, if_pos hkind, keyName?_of_showsKey hkey]
    cases hnode : node.get "value" with
    | map entries => rfl
    | _ => simp [hnode, Tree.isMap] at hvalue
  computed {node} h := by
    obtain ⟨hkind, hcomputed⟩ := Bool.and_eq_true_iff.1 h
    rw [staticProperty?, hkind, hcomputed]
    rfl
  spread {node} h := by
    rw [staticProperty?, isKind_eq h]
    rfl

/-! ### Numbers that are too long -/

theorem literalTooLong_of_isPlainLiteral {node : Tree} {depth : Nat}
    (h : isPlainLiteral node = true) :
    literalTooLong (depth + 1) node = isTooLong (node.get "value") := by
  obtain ⟨hkind, hregex⟩ := Bool.and_eq_true_iff.1 h
  rw [literalTooLong, if_pos hkind, hregex, Bool.true_and]

theorem literalTooLong_of_showsNumber {token : NumberToken} {node : Tree} {depth : Nat}
    (h : showsNumber token node = true) :
    literalTooLong (depth + 1) node = [token].any NumberToken.isTooLong := by
  obtain ⟨hliteral, hvalue, -⟩ := parts_of_showsNumber h
  rw [literalTooLong_of_isPlainLiteral hliteral, hvalue]
  exact (Bool.or_false _).symm

theorem literalTooLong_of_showsScalar : ∀ {s : Scalar} {node : Tree} {depth : Nat},
    showsScalar s node = true → s.height ≤ depth →
      literalTooLong depth node = s.numbers.any NumberToken.isTooLong
  | .string _, _, _ + 1, hshows, _ => by
    obtain ⟨hliteral, hvalue⟩ := Bool.and_eq_true_iff.1 hshows
    rw [literalTooLong_of_isPlainLiteral hliteral, Tree.eq_of_text? (beq_iff_eq.1 hvalue)]
    rfl
  | .number _, _, _ + 1, hshows, _ => literalTooLong_of_showsNumber hshows
  | .negative _, _, _ + 2, hshows, _ => by
    obtain ⟨h, hargument⟩ := Bool.and_eq_true_iff.1 hshows
    obtain ⟨hkind, hoperator⟩ := Bool.and_eq_true_iff.1 h
    rw [literalTooLong]
    simp only [isKind_eq hkind, String.reduceBEq, hoperator, Bool.false_eq_true, if_false,
      beq_self_eq_true, Bool.and_self, if_true]
    exact literalTooLong_of_showsNumber hargument
  | .negative _, _, 1, _, hdepth => absurd hdepth (Nat.not_succ_le_self 1)
  | .bool _, _, _ + 1, hshows, _ => by
    obtain ⟨hliteral, hvalue⟩ := Bool.and_eq_true_iff.1 hshows
    rw [literalTooLong_of_isPlainLiteral hliteral, Tree.eq_of_bool? (beq_iff_eq.1 hvalue)]
    rfl
  | .null, _, _ + 1, hshows, _ => by
    obtain ⟨hliteral, hvalue⟩ := Bool.and_eq_true_iff.1 hshows
    rw [literalTooLong_of_isPlainLiteral hliteral, Tree.eq_null_of_isNull hvalue]
    rfl
  | .template _, node, _ + 1, hshows, _ => by
    obtain ⟨h, -⟩ := Bool.and_eq_true_iff.1 hshows
    obtain ⟨hkind, -⟩ := Bool.and_eq_true_iff.1 h
    rw [literalTooLong]
    simp only [isKind_eq hkind, String.reduceBEq, Bool.false_eq_true, if_false, Bool.false_and]
    rfl

theorem keyTooLong_of_showsKey : ∀ {k : LiteralKey} {node : Tree}, showsKey k node = true →
    keyTooLong node = k.numbers.any NumberToken.isTooLong
  | .identifier _ _, _, h => by
    obtain ⟨hkind, -⟩ := Bool.and_eq_true_iff.1 h
    rw [keyTooLong, isKind_eq hkind]
    rfl
  | .string _, _, h => by
    obtain ⟨-, hvalue⟩ := Bool.and_eq_true_iff.1 h
    rw [keyTooLong, Tree.eq_of_text? (beq_iff_eq.1 hvalue)]
    exact Bool.and_false _
  | .number _, _, h => by
    obtain ⟨hliteral, hvalue, -⟩ := parts_of_showsNumber h
    obtain ⟨hkind, -⟩ := Bool.and_eq_true_iff.1 hliteral
    rw [keyTooLong, hkind, hvalue, Bool.true_and]
    exact (Bool.or_false _).symm

mutual

/-- A literal comes upon a number that is too long exactly where such a number stands in it, be it
as a key. -/
theorem literalTooLong_eq : ∀ (e : LiteralExpr) {node : Tree} {depth : Nat},
    shape.shows e node = true → e.height ≤ depth →
      literalTooLong depth node = e.numbers.any NumberToken.isTooLong
  | .scalar _, _, _, hshows, hdepth => literalTooLong_of_showsScalar hshows hdepth
  | .array items, node, depth, hshows, hdepth => by
    obtain ⟨nodes, hnodes, hitems⟩ := (Option.any_eq_true _ _).1 hshows
    obtain ⟨hcond, ⟨⟩⟩ := Option.ite_none_right_eq_some.1 hnodes
    obtain ⟨hkind, hmaps⟩ := Bool.and_eq_true_iff.1 hcond
    obtain ⟨below, rfl⟩ := Nat.exists_eq_add_of_le' hdepth
    rw [LiteralExpr.height, ← Nat.add_assoc, literalTooLong]
    simp only [isKind_eq hkind, String.reduceBEq, Bool.false_eq_true, if_false,
      beq_self_eq_true, if_true]
    exact itemsTooLong_eq items hitems hmaps (Nat.le_add_left _ below)
  | .object members, node, depth, hshows, hdepth => by
    obtain ⟨nodes, hnodes, hmembers⟩ := (Option.any_eq_true _ _).1 hshows
    obtain ⟨hkind, ⟨⟩⟩ := Option.ite_none_right_eq_some.1 hnodes
    obtain ⟨below, rfl⟩ := Nat.exists_eq_add_of_le' hdepth
    rw [LiteralExpr.height, ← Nat.add_assoc, literalTooLong]
    simp only [isKind_eq hkind, String.reduceBEq, Bool.false_eq_true, if_false,
      beq_self_eq_true, if_true, entriesTooLong, objectEntries?_eq, Option.getD_some,
      Bool.true_and]
    exact membersTooLong_eq members hmembers (Nat.le_add_left _ below)

theorem itemsTooLong_eq : ∀ (items : List LiteralExpr) {nodes : List Tree} {depth : Nat},
    shape.showsItems items nodes = true → nodes.all Tree.isMap = true →
      LiteralExpr.heightAll items ≤ depth →
      (nodes.any fun item => item.isMap && literalTooLong depth item) =
        (LiteralExpr.numbersAll items).any NumberToken.isTooLong
  | [], [], _, _, _, _ => rfl
  | e :: rest, node :: nodes, depth, hshows, hmaps, hdepth => by
    obtain ⟨hfirst, hrest⟩ := Bool.and_eq_true_iff.1 hshows
    obtain ⟨hmap, hmaps⟩ := Bool.and_eq_true_iff.1 hmaps
    obtain ⟨hfirstDepth, hrestDepth⟩ := Nat.max_le.1 hdepth
    rw [List.any_cons, hmap, Bool.true_and, literalTooLong_eq e hfirst hfirstDepth,
      itemsTooLong_eq rest hrest hmaps hrestDepth, LiteralExpr.numbersAll, List.any_append]

theorem membersTooLong_eq : ∀ (members : List LiteralMember) {nodes : List Tree} {depth : Nat},
    shape.showsMembers members nodes = true → LiteralMember.heightAll members ≤ depth →
      (keysTooLong nodes ||
        (nodes.filterMap staticProperty?).any fun e => literalTooLong depth e.2) =
        (LiteralMember.numbersAll members).any NumberToken.isTooLong
  | [], [], _, _, _ => rfl
  | .pair key e :: rest, node :: nodes, depth, hshows, hdepth => by
    obtain ⟨hfirst, hrest⟩ := Bool.and_eq_true_iff.1 hshows
    obtain ⟨parts, hparts, hfirst⟩ := (Option.any_eq_true _ _).1 hfirst
    obtain ⟨hkey, hvalue⟩ := Bool.and_eq_true_iff.1 hfirst
    obtain ⟨hfirstDepth, hrestDepth⟩ := Nat.max_le.1 hdepth
    have hentry := shape_readBy.pair hparts hkey
    obtain ⟨hcond, ⟨⟩⟩ := Option.ite_none_right_eq_some.1 hparts
    obtain ⟨hkind, -⟩ := Bool.and_eq_true_iff.1 hcond
    have hrest := membersTooLong_eq rest hrest hrestDepth
    rw [keysTooLong] at hrest ⊢
    rw [List.any_cons, hkind, Bool.true_and, keyTooLong_of_showsKey hkey,
      List.filterMap_cons_some hentry, List.any_cons, literalTooLong_eq e hvalue hfirstDepth,
      LiteralMember.numbersAll, List.any_append, List.any_append, ← hrest]
    simp only [Bool.or_assoc, Bool.or_left_comm]
  | .computed :: rest, node :: nodes, depth, hshows, hdepth => by
    obtain ⟨hfirst, hrest⟩ := Bool.and_eq_true_iff.1 hshows
    have hentry := shape_readBy.computed hfirst
    obtain ⟨-, hcomputed⟩ := Bool.and_eq_true_iff.1 hfirst
    rw [keysTooLong, List.any_cons, hcomputed, Bool.not_true, Bool.and_false, Bool.false_and,
      Bool.false_or, List.filterMap_cons_none hentry]
    exact membersTooLong_eq rest hrest hdepth
  | .spread :: rest, node :: nodes, depth, hshows, hdepth => by
    obtain ⟨hfirst, hrest⟩ := Bool.and_eq_true_iff.1 hshows
    have hentry := shape_readBy.spread hfirst
    rw [keysTooLong, List.any_cons, isKind_eq hfirst, List.filterMap_cons_none hentry]
    exact membersTooLong_eq rest hrest hdepth

end

end Estree

/-! ## Typed scripts -/

namespace Cst

theorem isKind_eq {node : Tree} {kind : String} (h : isKind node kind = true) (other : String) :
    isKind node other = (kind == other) := Tree.hasText_eq h other

theorem unwrap_of_isKind {node : Tree} {kind : String} (h : isKind node kind = true)
    (hplain : kind ∉ ["parenthesized_expression", "as_expression", "satisfies_expression",
      "non_null_expression"]) : unwrap node = node := by
  refine unwrap_of_not_isTransparent ?_
  simpa [isTransparent, isKind_eq h, and_assoc] using hplain

theorem literal?_of_showsNumber {token : NumberToken} {node : Tree} {depth : Nat}
    (h : showsNumber token node = true) :
    literal? (depth + 1) node = some (.value token.value) := by
  obtain ⟨h, -⟩ := Bool.and_eq_true_iff.1 h
  obtain ⟨hkind, hvalue⟩ := Bool.and_eq_true_iff.1 h
  have hunwrap := unwrap_of_isKind hkind (by decide)
  simp [literal?, hunwrap, isKind_eq hkind, Tree.eq_of_isLiteral hvalue, NumberToken.value]

theorem literal?_of_negative {token : NumberToken} {node : Tree} {depth : Nat}
    (h : showsScalar (.negative token) node = true) :
    literal? (depth + 1) node = some (.value token.negated) := by
  obtain ⟨h, hargument⟩ := Bool.and_eq_true_iff.1 h
  obtain ⟨hkind, hminus⟩ := Bool.and_eq_true_iff.1 h
  obtain ⟨hargument, -⟩ := Bool.and_eq_true_iff.1 hargument
  obtain ⟨hnumber, hvalue⟩ := Bool.and_eq_true_iff.1 hargument
  -- The operator is not asked for: the text of the node tells that it is a minus sign.
  have hnegated : ((field node "argument").get "value").negated? = some token.negated := by
    rw [Tree.eq_of_isLiteral hvalue]
    exact token.negated?_value
  have hunwrap := unwrap_of_isKind hkind (by decide)
  simp [literal?, hunwrap, isKind_eq hkind, hnumber, hminus, hnegated]

theorem literal?_of_showsTemplate {text : Text} {node : Tree} {depth : Nat}
    (h : showsTemplate text node = true) :
    literal? (depth + 1) node = some (.value (.text text)) := by
  obtain ⟨h, hquasis⟩ := Bool.and_eq_true_iff.1 h
  obtain ⟨hkind, hplain⟩ := Bool.and_eq_true_iff.1 h
  have htext : templateText node = text := by
    rw [templateText]
    split at hquasis
    · next stretch hitems =>
      rw [hitems, List.flatMap_singleton, Tree.eq_of_text? (beq_iff_eq.1 hquasis)]
      rfl
    · cases hquasis
  have hunwrap := unwrap_of_isKind hkind (by decide)
  simp [literal?, hunwrap, isKind_eq hkind, hplain, htext]

theorem literal?_of_showsScalar : ∀ {s : Scalar} {node : Tree} {depth : Nat},
    showsScalar s node = true → s.height ≤ depth → literal? depth node = some (.value s.value)
  | .string _, _, _ + 1, hshows, _ => by
    obtain ⟨hkind, hvalue⟩ := Bool.and_eq_true_iff.1 hshows
    have hunwrap := unwrap_of_isKind hkind (by decide)
    simp [literal?, hunwrap, hkind, Tree.eq_of_text? (beq_iff_eq.1 hvalue), Scalar.value]
  | .number _, _, _ + 1, hshows, _ => literal?_of_showsNumber hshows
  | .negative _, _, _ + 1, hshows, _ => literal?_of_negative hshows
  | .bool true, node, _ + 1, hshows, _ => by
    have hkind : isKind node "true" = true := hshows
    have hunwrap := unwrap_of_isKind hkind (by decide)
    simp [literal?, hunwrap, isKind_eq hkind, Scalar.value]
  | .bool false, node, _ + 1, hshows, _ => by
    have hkind : isKind node "false" = true := hshows
    have hunwrap := unwrap_of_isKind hkind (by decide)
    simp [literal?, hunwrap, isKind_eq hkind, Scalar.value]
  | .null, node, _ + 1, hshows, _ => by
    have hkind : isKind node "null" = true := hshows
    have hunwrap := unwrap_of_isKind hkind (by decide)
    simp [literal?, hunwrap, isKind_eq hkind, Scalar.value]
  | .template _, _, _ + 1, hshows, _ => literal?_of_showsTemplate hshows

/-- An identifier is called as it is written. -/
theorem keyName?_of_showsKey : ∀ {k : LiteralKey} {node : Tree}, showsKey k node = true →
    keyName? node = some k.written
  | .identifier _ _, _, h => by
    obtain ⟨hkind, hwritten⟩ := Bool.and_eq_true_iff.1 h
    rw [keyName?, if_pos hkind, textOf, Tree.eq_of_text? (beq_iff_eq.1 hwritten)]
    rfl
  | .string _, _, h => by
    obtain ⟨hkind, hvalue⟩ := Bool.and_eq_true_iff.1 h
    rw [keyName?, isKind_eq hkind, if_neg (by decide), if_pos hkind,
      Tree.eq_of_text? (beq_iff_eq.1 hvalue)]
    rfl
  | .number _, _, h => by
    obtain ⟨h, htext⟩ := Bool.and_eq_true_iff.1 h
    obtain ⟨hkind, -⟩ := Bool.and_eq_true_iff.1 h
    rw [keyName?, isKind_eq hkind, if_neg (by decide), isKind_eq hkind, if_neg (by decide),
      if_pos hkind, textOf, Tree.eq_of_text? (beq_iff_eq.1 htext)]
    rfl

/-- Concrete syntax nodes are read by the dialect of typed scripts. -/
theorem shape_readBy : shape.ReadBy dialect LiteralKey.written staticProperty? where
  scalar := literal?_of_showsScalar
  array {node nodes} depth h := by
    obtain ⟨hkind, ⟨⟩⟩ := Option.ite_none_right_eq_some.1 h
    have hunwrap := unwrap_of_isKind hkind (by decide)
    have hitem : ∀ item ∈ children node,
        (do pure ((← literal? depth item).toTree item)) = dialect.valueOf? depth item := by
      intro item _
      rw [Dialect.valueOf?, Option.map_eq_bind]
      rfl
    show literal? (depth + 1) node = _
    rw [literal?]
    simp only [hunwrap, isKind_eq hkind, String.reduceBEq, beq_self_eq_true, Bool.false_eq_true,
      if_false, if_true, Bool.false_and, Bool.or_self]
    rw [mapM_congr hitem, Option.map_eq_bind]
    rfl
  object {node members} h := by
    obtain ⟨hkind, ⟨⟩⟩ := Option.ite_none_right_eq_some.1 h
    show objectEntries? node = _
    rw [objectEntries?_eq, unwrap_of_isKind hkind (by decide), if_pos hkind]
  pair {node key value k} h hkey := by
    obtain ⟨hcond, ⟨⟩⟩ := Option.ite_none_right_eq_some.1 h
    obtain ⟨hkind, hvalue⟩ := Bool.and_eq_true_iff.1 hcond
    rw [staticProperty?, if_pos hkind, keyName?_of_showsKey hkey]
    cases hnode : field node "value" with
    | map entries => rfl
    | _ => simp [hnode, Tree.isMap] at hvalue
  computed {node} h := by
    obtain ⟨hkind, hcomputed⟩ := Bool.and_eq_true_iff.1 h
    have hkey : keyName? (field node "key") = none := by
      simp [keyName?, isKind_eq hcomputed]
    rw [staticProperty?, if_pos hkind, hkey]
  spread {node} h := by
    rw [staticProperty?, isKind_eq h, isKind_eq h]
    rfl

end Cst

/-! ## The dialects agree -/

/-- Trees of both kinds that show one literal evaluate to its value, once with identifier keys by
their names and once as they are written, and so to the same value if no identifier key is written
with an escape. In scripts, no number in it may be too long to be spelled. -/
theorem literals_agree (e : LiteralExpr) {script typed : Tree} {depth : Nat}
    (hscript : Estree.shape.shows e script = true) (htyped : Cst.shape.shows e typed = true)
    (hdepth : e.height ≤ depth) :
    Estree.dialect.literal? depth script = some (.value (e.value LiteralKey.name)) ∧
      Cst.dialect.literal? depth typed = some (.value (e.value LiteralKey.written)) ∧
      ((∀ key ∈ e.keys, key.written = key.name) →
        Cst.dialect.literal? depth typed = Estree.dialect.literal? depth script) ∧
      Estree.literalTooLong depth script = e.numbers.any NumberToken.isTooLong := by
  have hvalue := Estree.shape_readBy.literal?_eq Estree.evaluatesObjects e hscript hdepth
  have hwritten := Cst.shape_readBy.literal?_eq Cst.evaluatesObjects e htyped hdepth
  refine ⟨hvalue, hwritten, fun hplain => ?_, Estree.literalTooLong_eq e hscript hdepth⟩
  rw [hvalue, hwritten, e.value_congr hplain]

/-! ### A literal in both languages -/

/-- What the first statement of a script assigns. -/
def Estree.assigned (program : Tree) : Tree :=
  match (program.get "body").items with
  | statement :: _ => (statement.get "expression").get "right"
  | [] => .null

/-- What the first statement of a typed script assigns. -/
def Cst.assigned (program : Tree) : Tree :=
  match (children program).flatMap children with
  | expression :: _ => field expression "right"
  | [] => .null

/-- The tree of a script, if it can be read. -/
def Estree.readTree? (source : List Char) : Option Tree := (parse source).toOption.map Parsed.tree

/-- The tree of a typed script. -/
def Cst.readTree (source : List Char) : Tree := project source.toArray (parse source)

/-- An assignment in which all kinds of literals stand, and a key twice. -/
def nestedSource : List Char :=
  ("x = \x7b a: [1, -2.5, true], \"b\": \x7b c: `t` \x7d, 0x10: null, ...r, " ++
    "[k]: 2, a: \"s\" \x7d;").toList

/-- The literal of `nestedSource`. -/
def nestedLiteral : LiteralExpr :=
  .object
    [.pair (.identifier "a" "a")
      (.array [.scalar (.number ⟨"1".toList, _, "1".toList, _, .inl rfl, rfl, rfl, rfl⟩),
        .scalar (.negative ⟨"2.5".toList, _, "2.5".toList, _, .inl rfl, rfl, rfl, rfl⟩),
        .scalar (.bool true)]),
      .pair (.string "b") (.object [.pair (.identifier "c" "c") (.scalar (.template "t"))]),
      .pair (.number ⟨"0x10".toList, _, "0x10".toList, _, .inl rfl, rfl, rfl, rfl⟩) (.scalar .null),
      .spread, .computed, .pair (.identifier "a" "a") (.scalar (.string "s"))]

theorem literals_agree_nested : ∃ tree, Estree.readTree? nestedSource = some tree ∧
    Estree.shape.shows nestedLiteral (Estree.assigned tree) = true ∧
    Cst.shape.shows nestedLiteral (Cst.assigned (Cst.readTree nestedSource)) = true ∧
    Cst.dialect.literal? deepestLiteral (Cst.assigned (Cst.readTree nestedSource)) =
      Estree.dialect.literal? deepestLiteral (Estree.assigned tree) := by
  have hscript : (Estree.readTree? nestedSource).any (fun tree =>
      Estree.shape.shows nestedLiteral (Estree.assigned tree)) = true := by
    decide +kernel
  have htyped : Cst.shape.shows nestedLiteral
      (Cst.assigned (Cst.readTree nestedSource)) = true := by
    rw [Cst.readTree, Cst.project_eq_plainTree]
    decide +kernel
  obtain ⟨tree, htree, hscript⟩ := (Option.any_eq_true _ _).1 hscript
  have hdepth : nestedLiteral.height ≤ deepestLiteral := by decide
  obtain ⟨-, -, hsame, -⟩ := literals_agree nestedLiteral hscript htyped hdepth
  exact ⟨tree, htree, hscript, htyped, hsame (by decide)⟩

/-! ### A key that is written with an escape -/

/-- An assignment of an object literal whose key is written with an escape. -/
def escapedSource : List Char := "x = \x7b \\u0061: 1 \x7d;".toList

/-- The literal of `escapedSource`. -/
def escapedLiteral : LiteralExpr :=
  .object [.pair (.identifier "a" "\\u0061")
    (.scalar (.number ⟨"1".toList, _, "1".toList, _, .inl rfl, rfl, rfl, rfl⟩))]

/-- The keys of the mapping that a node evaluates to. -/
def Dialect.keysOf? (d : Dialect) (node : Tree) : Option (List Text) :=
  ((d.literal? deepestLiteral node).bind Literal.entries?).map Entries.keys

/-- Both parsers read the key, and the dialects call it differently. -/
theorem escaped_key_differs : ∃ tree, Estree.readTree? escapedSource = some tree ∧
    Estree.shape.shows escapedLiteral (Estree.assigned tree) = true ∧
    Cst.shape.shows escapedLiteral (Cst.assigned (Cst.readTree escapedSource)) = true ∧
    Estree.dialect.keysOf? (Estree.assigned tree) = some [Text.ofString "a"] ∧
    Cst.dialect.keysOf? (Cst.assigned (Cst.readTree escapedSource)) =
      some [Text.ofString "\\u0061"] ∧
    Cst.dialect.literal? deepestLiteral (Cst.assigned (Cst.readTree escapedSource)) ≠
      Estree.dialect.literal? deepestLiteral (Estree.assigned tree) := by
  have hscript : (Estree.readTree? escapedSource).any (fun tree =>
      Estree.shape.shows escapedLiteral (Estree.assigned tree) &&
        Estree.dialect.keysOf? (Estree.assigned tree) == some [Text.ofString "a"]) = true := by
    decide +kernel
  have htyped : (Cst.shape.shows escapedLiteral (Cst.assigned (Cst.readTree escapedSource)) &&
      Cst.dialect.keysOf? (Cst.assigned (Cst.readTree escapedSource)) ==
        some [Text.ofString "\\u0061"]) = true := by
    rw [Cst.readTree, Cst.project_eq_plainTree]
    decide +kernel
  obtain ⟨tree, htree, hscript⟩ := (Option.any_eq_true _ _).1 hscript
  obtain ⟨hscript, hnamed⟩ := Bool.and_eq_true_iff.1 hscript
  obtain ⟨htyped, hwritten⟩ := Bool.and_eq_true_iff.1 htyped
  have hnamed := eq_of_beq hnamed
  have hwritten := eq_of_beq hwritten
  refine ⟨tree, htree, hscript, htyped, hnamed, hwritten, fun hsame => ?_⟩
  rw [Dialect.keysOf?, hsame, ← Dialect.keysOf?, hnamed] at hwritten
  revert hwritten
  decide

end EndpointCatalog
