/-
EndpointCatalog.Proofs.Literal.IntegerNode — the values of integer literals.

Both parsers keep how a number is written, and both languages read it again
from there. The parser of scripts also keeps the value that its scanner has
found. No value is read from it, but it is spelled nevertheless, which fails
if it is too long.

* `integer_literal_read`: what becomes of each integer literal, from the
  characters of a source to the value of its node (`IntegerRead`). The value
  is that of the grammar exactly if `KeepsInteger` says so.
* `octal_read_as_decimal`: of an octal literal in the old style it is not.

The readers of whole sources reach a number by `Estree.primary` and by
`Cst.Parser.number`, from whichever state they are in; the theorem is about
all of these states.
-/
import EndpointCatalog.Proofs.Literal.Agreement
import EndpointCatalog.Proofs.Literal.IntegerScan
import EndpointCatalog.Proofs.Safety.Typed

namespace EndpointCatalog

variable {n : Nat} {chars rest : List Char}

theorem IntegerLiteral.exists_head (h : IntegerLiteral chars n) :
    ∃ c more, chars = c :: more ∧ c.isDigit = true := by
  cases h with
  | zero => exact ⟨'0', [], rfl, rfl⟩
  | decimal _ hdigits =>
    obtain ⟨c, more, rfl, hc⟩ := hdigits.exists_head
    exact ⟨c, more, rfl, Estree.isDigit_of_digitIn? le_rfl hc⟩
  | based _ _ => exact ⟨'0', _, rfl, rfl⟩
  | legacyOctal _ _ => exact ⟨'0', _, rfl, rfl⟩
  | leadingZero _ _ _ => exact ⟨'0', _, rfl, rfl⟩

/-! ## Scripts -/

namespace Estree

/-- The token of an integer literal with the value that the scanner finds. -/
structure IsIntegerToken (chars : List Char) (n : Nat) (t : Token) : Prop where
  raw : t.raw = chars
  lexeme : ∃ octal, t.lexeme = .number (scannedInteger chars n) octal

theorem isNameStart_of_isDigit {c : Char} (h : c.isDigit = true) :
    isNameStart c.toNat = false := by
  have hrange := isDigit_iff.1 h
  have hletter : isLetterPoint c.toNat = false := by
    unfold isLetterPoint letterRanges
    rw [inRanges, if_pos (by omega)]
  have hmarks : ¬ (c.toNat = 0x24 ∨ c.toNat = 0x5F ∨ c.toNat = 0x5C) := by omega
  simp_all [isNameStart]

/-- At a digit the lexer scans a number. -/
theorem token_of_digit {cursor : Cursor} {c : Char} (hrest : cursor.rest = c :: rest)
    (hc : c.isDigit = true) :
    (∀ numeral, scanNumeral cursor.rest = .ok numeral → cursor.token =
      .ok (cursor.finish (.number numeral.value numeral.legacyOctal) { taken := numeral.taken })) ∧
    ∀ fault, scanNumeral cursor.rest = .error fault →
      cursor.token = .error (cursor.stopAt (0, fault)) := by
  have hname : isNameStart c.toNat = false := isNameStart_of_isDigit hc
  have hquote : ¬ (c = '\'' ∨ c = '"') := by
    rintro (rfl | rfl) <;> cases hc
  unfold Cursor.token
  simp only [hrest, hname, hquote, hc, Bool.false_eq_true, if_false, true_or, if_true]
  refine ⟨fun numeral hscan => ?_, fun fault hscan => ?_⟩
  · rw [hscan]
  · rw [hscan]

theorem token_integer (h : IntegerLiteral chars n) (hplain : '_' ∉ chars) (hends : EndsNumber rest)
    {cursor : Cursor} (hrest : cursor.rest = chars ++ rest) :
    ∃ token after, cursor.token = .ok (token, after) ∧ after.rest = rest ∧
      IsIntegerToken chars n token := by
  obtain ⟨octal, hscan⟩ := scanNumeral_integer h hplain hends
  obtain ⟨c, more, hchars, hc⟩ := h.exists_head
  have hhead : cursor.rest = c :: (more ++ rest) := by rw [hrest, hchars, List.cons_append]
  have htoken := (token_of_digit hhead hc).1 _ (by rw [hrest, hscan])
  refine ⟨_, _, htoken, ?_, ?_, octal, rfl⟩
  · show cursor.rest.drop chars.length = rest
    rw [hrest, List.drop_left]
  · show cursor.rest.take chars.length = chars
    rw [hrest, List.take_left]

theorem token_refused (h : IntegerLiteral chars n) {cursor : Cursor}
    (hrest : cursor.rest = chars ++ rest) (hbehind : '_' ∈ chars ∨ rest.head? = some 'n') :
    cursor.token = .error (cursor.stopAt (0, .illegal)) := by
  obtain ⟨c, more, hchars, hc⟩ := h.exists_head
  have hhead : cursor.rest = c :: (more ++ rest) := by rw [hrest, hchars, List.cons_append]
  exact (token_of_digit hhead hc).2 _ (by rw [hrest, scanNumeral_refused h hbehind])

theorem literal?_located {value : NumberLiteral} (hvalue : value.isNumber = true) (raw : List Char)
    (start stop : Place) (depth : Nat) :
    literal? (depth + 1) (located (literal (Tree.ofLiteral value) raw) start stop) =
      some (.value (Tree.ofLiteral (readNumber (Text.ofChars raw)))) := by
  cases value with
  | int n => rfl
  | float x => rfl
  | other t => cases hvalue

theorem literalTooLong_located {value : NumberLiteral} (hvalue : value.isNumber = true)
    (raw : List Char) (start stop : Place) (depth : Nat) :
    literalTooLong (depth + 1) (located (literal (Tree.ofLiteral value) raw) start stop) =
      isTooLong (Tree.ofLiteral value) := by
  have hnode : isPlainLiteral (located (literal (Tree.ofLiteral value) raw) start stop) = true ∧
      (located (literal (Tree.ofLiteral value) raw) start stop).get "value" =
        Tree.ofLiteral value := by
    cases value with
    | int n => exact ⟨rfl, rfl⟩
    | float x => exact ⟨rfl, rfl⟩
    | other t => cases hvalue
  rw [literalTooLong_of_isPlainLiteral hnode.1, hnode.2]

theorem nextToken_gives {s s' : ParserState} {t : Token} (hrun : nextToken.run s = .ok (t, s')) :
    t = s.ahead := by
  unfold nextToken at hrun
  cases htoken : (s.cursor.skipTrivia s.context.isModule).token with
  | error fault => simp [StateT.run_bind, htoken] at hrun
  | ok found =>
    simp [StateT.run_bind, htoken] at hrun
    exact hrun.1.symm

/-- A literal is written as the token ahead is. -/
theorem literalToken_gives {s s' : ParserState} {start : Place} {value node : Tree}
    (hrun : (literalToken start value).run s = .ok (node, s')) :
    node = located (literal value s.ahead.raw) start s'.last := by
  let plain : Context := { s.context with isAssignmentTarget := false, isBindingElement := false }
  have hplain : (literalToken start value).run s =
      (nextToken >>= fun t => finish start (literal value t.raw)).run { s with context := plain } :=
    rfl
  rw [hplain, StateT.run_bind] at hrun
  cases hnext : nextToken.run { s with context := plain } with
  | error fault =>
    rw [hnext] at hrun
    cases hrun
  | ok found =>
    obtain ⟨t, after⟩ := found
    rw [hnext] at hrun
    cases hrun
    rw [nextToken_gives hnext]

/-- The node of a number has the value of its token, and is written as the token is. -/
theorem primary_number {g : Grammar} {s s' : ParserState} {value : NumberLiteral} {octal : Bool}
    {node : Tree} (hahead : s.ahead.lexeme = .number value octal)
    (hrun : (primary g).run s = .ok (node, s')) :
    node = located (literal (Tree.ofLiteral value) s.ahead.raw) s.start s'.last := by
  have hnumber : (primary g).run s =
      (tolerateIf (s.context.strict && octal) >>= fun _ =>
        literalToken s.start (Tree.ofLiteral value)).run s := by
    obtain ⟨_, ⟨lexeme, _, _, _, _, _⟩, _, _, _, _, _⟩ := s
    cases hahead
    rfl
  rw [hnumber] at hrun
  have hahead : ∃ between : ParserState, between.ahead = s.ahead ∧
      (tolerateIf (s.context.strict && octal)).run s = .ok ((), between) := by
    cases s.context.strict && octal with
    | true => exact ⟨{ s with cursor := { s.cursor with faults := s.cursor.faults + 1 } }, rfl, rfl⟩
    | false => exact ⟨s, rfl, rfl⟩
  obtain ⟨between, hsame, htolerate⟩ := hahead
  rw [StateT.run_bind, htolerate] at hrun
  rw [← hsame]
  exact literalToken_gives hrun

/-! ### Values of nodes -/

theorem roundedInteger_eq (n : Nat) :
    (∃ m : Int, roundedInteger n = .int m ∧ m.natAbs < 2 ^ Binary64.longestWhole) ∨
      ∃ x, roundedInteger n = .float x := by
  unfold roundedInteger
  dsimp only
  split
  · next m hm => exact .inl ⟨m, rfl, Binary64.toInt?_lt hm⟩
  · exact .inr ⟨_, rfl⟩

theorem isNumber_scannedInteger (chars : List Char) (n : Nat) :
    (scannedInteger chars n).isNumber = true := by
  rw [scannedInteger]
  split
  · rfl
  · obtain ⟨m, hm, -⟩ | ⟨x, hx⟩ := roundedInteger_eq n
    · rw [hm]; rfl
    · rw [hx]; rfl

theorem isTooLong_int_iff {m : Int} :
    isTooLong (.int m) = true ↔ 10 ^ longestInteger ≤ m.natAbs := by
  unfold isTooLong
  generalize longestInteger = digits
  exact decide_eq_true_iff

/-- What is rounded can be spelled. -/
theorem isTooLong_roundedInteger (n : Nat) :
    isTooLong (Tree.ofLiteral (roundedInteger n)) = false := by
  obtain ⟨m, hm, hlt⟩ | ⟨x, hx⟩ := roundedInteger_eq n
  · have hbase := Nat.pow_le_pow_left (show 2 ≤ 10 by omega) Binary64.longestWhole
    have hexponent := Nat.pow_le_pow_right (show 0 < 10 by omega)
      (show Binary64.longestWhole ≤ longestInteger by decide)
    rw [hm, Tree.ofLiteral, Bool.eq_false_iff, Ne, isTooLong_int_iff]
    exact Nat.not_le.2 (hlt.trans_le (hbase.trans hexponent))
  · rw [hx]
    rfl

/-- An integer that is too long is one that the scanner keeps. -/
theorem isTooLong_scannedInteger : isTooLong (Tree.ofLiteral (scannedInteger chars n)) = true ↔
    keepsInteger chars = true ∧ 10 ^ longestInteger ≤ n := by
  rw [scannedInteger]
  split
  · next hkeeps => rw [and_iff_right hkeeps, Tree.ofLiteral, isTooLong_int_iff, Int.natAbs_natCast]
  · next hrounds =>
    rw [isTooLong_roundedInteger]
    exact iff_of_false Bool.false_ne_true fun h => hrounds h.1

/-- A literal node with some value and a written form. -/
def IsLiteralNode (value : NumberLiteral) (chars : List Char) (node : Tree) : Prop :=
  ∃ start stop, node = located (literal (Tree.ofLiteral value) chars) start stop

/-- What an integer literal evaluates to is read from how it is written: its value on the node does
not count, and is spelled for no use. -/
theorem primary_integer {g : Grammar} {s s' : ParserState} {node : Tree}
    (hahead : IsIntegerToken chars n s.ahead) (hrun : (primary g).run s = .ok (node, s'))
    (depth : Nat) :
    IsLiteralNode (scannedInteger chars n) chars node ∧
      literal? (depth + 1) node =
        some (.value (Tree.ofLiteral (readNumber (Text.ofChars chars)))) ∧
      literalTooLong (depth + 1) node = isTooLong (Tree.ofLiteral (scannedInteger chars n)) := by
  obtain ⟨octal, hlexeme⟩ := hahead.lexeme
  have hnode := primary_number hlexeme hrun
  rw [hahead.raw] at hnode
  refine ⟨⟨_, _, hnode⟩, ?_, ?_⟩
  · rw [hnode, literal?_located (isNumber_scannedInteger chars n)]
  · rw [hnode, literalTooLong_located (isNumber_scannedInteger chars n)]

end Estree

/-! ## Typed scripts -/

namespace Cst

open EndpointCatalog.Cst.Parser

theorem number_gives {s s' : ReaderState} {left left' : Nat} {node : Node}
    (hrun : ((number.run s).run).run left = (some (node, s'), left')) :
    node = s.next.leaf (numberLength s.next.rest) "number" true := by
  by_cases hfront : s.front = .number
  · obtain ⟨behind, passed, next, front, parts, mayEnd, beforeColon, size⟩ := s
    cases hfront
    cases left with
    | zero => cases hrun
    | succ left =>
      cases hrun
      rfl
  · have hfail : ((number.run s).run).run left = (none, left) := by
      simp [number, front, guard, hfront]
      rfl
    rw [hfail] at hrun
    cases hrun

theorem text_leaf {source : Array Char} {spot : Spot} (hrest : spot.rest = chars ++ rest)
    (hsource : source.toList.drop spot.index = spot.rest) (kind : String) (isNamed : Bool) :
    (spot.leaf chars.length kind isNamed).text source = Text.ofChars chars := by
  have hchars : (source.extract spot.index (spot.index + chars.length)).toList = chars := by
    rw [Array.toList_extract, List.extract_eq_take_drop, hsource, hrest, Nat.add_sub_cancel_left,
      List.take_left]
  exact congrArg Text.ofChars hchars

theorem literal?_project (source : Array Char) {label : Label} (hkind : label.kind = "number")
    (depth : Nat) : literal? (depth + 1) (project source (.mk label [])) =
      some (.value (Tree.ofLiteral (readNumber ((Node.mk label []).text source)))) := by
  have hnumber : isKind (project source (.mk label [])) "number" = true := by
    rw [project, isKind_mapping]
    exact beq_iff_eq.2 hkind
  have hvalue : (project source (.mk label [])).get "value" =
      Tree.ofLiteral (readNumber ((Node.mk label []).text source)) := by
    obtain ⟨kind, isNamed, isMissing, start, stop, row⟩ := label
    cases hkind
    rw [project]
    rfl
  rw [literal?, unwrap_of_isKind hnumber (by decide)]
  simp only [hnumber, hvalue, Bool.or_true, if_true]

/-- What the reader of numbers finds where an integer literal stands. -/
theorem number_integer (h : IntegerLiteral chars n) (hends : EndsNumber rest) {source : Array Char}
    {s s' : ReaderState} {left left' : Nat} {node : Node} (hrest : s.next.rest = chars ++ rest)
    (hsource : source.toList.drop s.next.index = s.next.rest)
    (hrun : ((number.run s).run).run left = (some (node, s'), left')) (depth : Nat) :
    node.kind = "number" ∧ node.text source = Text.ofChars chars ∧
      literal? (depth + 1) (project source node) =
        some (.value (Tree.ofLiteral (readNumber (Text.ofChars chars)))) := by
  have hlength : numberLength s.next.rest = chars.length := by
    rw [hrest, numberLength_integer h hends]
  have htext := text_leaf hrest hsource "number" true
  rw [number_gives hrun, hlength]
  refine ⟨rfl, htext, ?_⟩
  rw [Spot.leaf, literal?_project source rfl, ← Spot.leaf, htext]

end Cst

/-! ## Both languages -/

/-- What becomes of an integer literal of scripts, with its value and with what it is read as. -/
structure IntegerRead (chars : List Char) (n : Nat) (reading : NumberLiteral) : Prop where
  /-- Without separators it is one token of a script, with its value. -/
  token (cursor : Estree.Cursor) (rest : List Char) : '_' ∉ chars → cursor.rest = chars ++ rest →
    EndsNumber rest → ∃ token after, cursor.token = .ok (token, after) ∧ after.rest = rest ∧
      Estree.IsIntegerToken chars n token
  /-- With separators, or as a big integer, it is a fault of a script. -/
  refused (cursor : Estree.Cursor) (rest : List Char) : cursor.rest = chars ++ rest →
    '_' ∈ chars ∨ rest.head? = some 'n' →
      cursor.token = .error (cursor.stopAt (0, .illegal))
  /-- The node that a script's reader builds of the token has the value and is written as the
  literal is, and it evaluates to the reading, unless its value is kept and too long to be
  spelled. -/
  script (g : Estree.Grammar) (s s' : Estree.ParserState) (node : Tree) (depth : Nat) :
    Estree.IsIntegerToken chars n s.ahead → (Estree.primary g).run s = .ok (node, s') →
      Estree.IsLiteralNode (Estree.scannedInteger chars n) chars node ∧
      Estree.dialect.literal? (depth + 1) node = some (.value (Tree.ofLiteral reading)) ∧
      (Estree.literalTooLong (depth + 1) node = true ↔
        Estree.keepsInteger chars = true ∧ 10 ^ longestInteger ≤ n)
  /-- The node that a typed script's reader builds where the literal stands evaluates to the reading
  as well. -/
  typed (source : Array Char) (rest : List Char) (s s' : Cst.Parser.ReaderState) (left left' : Nat)
    (node : Cst.Node) (depth : Nat) : s.next.rest = chars ++ rest → EndsNumber rest →
      source.toList.drop s.next.index = s.next.rest →
      ((Cst.Parser.number.run s).run).run left = (some (node, s'), left') →
      node.kind = "number" ∧ node.text source = Text.ofChars chars ∧
        Cst.dialect.literal? (depth + 1) (Cst.project source node) =
          some (.value (Tree.ofLiteral reading))

/-- Both languages read an integer literal alike, and as its value exactly if it is kept. -/
theorem integer_literal_read (h : IntegerLiteral chars n) :
    IntegerRead chars n (integerReading chars n) ∧
      (integerReading chars n = .int n ↔ KeepsInteger chars) := by
  refine ⟨⟨?token, ?refused, ?script, ?typed⟩, ?_⟩
  case token => exact fun _ _ hplain hrest hends => Estree.token_integer h hplain hends hrest
  case refused => exact fun _ _ hrest hbehind => Estree.token_refused h hrest hbehind
  case script =>
    intro g s s' node depth hahead hrun
    obtain ⟨hnode, hread, hlong⟩ := Estree.primary_integer hahead hrun depth
    rw [readNumber_integer h] at hread
    exact ⟨hnode, hread, hlong ▸ Estree.isTooLong_scannedInteger⟩
  case typed =>
    intro source rest s s' left left' node depth hrest hends hsource hrun
    rw [← readNumber_integer h]
    exact Cst.number_integer h hends hrest hsource hrun depth
  · rw [integerReading_eq_int_iff]
    simp

/-- A decimal literal with a zero in front is a double, though one that equals its value. -/
theorem integer_literal_read_eightyNine : IntegerLiteral "089".toList 89 ∧
    IntegerRead "089".toList 89 (.float ⟨0x4056400000000000⟩) ∧ ¬ KeepsInteger "089".toList := by
  have hliteral : IntegerLiteral "089".toList 89 :=
    .leadingZero (show '_' ∉ ['8', '9'] by decide) (.digit rfl (.last rfl)) ⟨8, by decide, le_rfl⟩
  have hreading : integerReading "089".toList 89 = .float ⟨0x4056400000000000⟩ := by
    decide +kernel
  obtain ⟨hread, hkeeps⟩ := integer_literal_read hliteral
  rw [hreading] at hread hkeeps
  exact ⟨hliteral, hread, fun hkept => NumberLiteral.noConfusion (hkeeps.2 hkept)⟩

/-! ### An octal literal in the old style -/

/-- An assignment of an octal literal in the old style. -/
def octalSource : List Char := "x = 010;".toList

/-- The parser of scripts knows that the literal is eight, and both languages read it as ten. -/
theorem octal_read_as_decimal : IntegerLiteral "010".toList 8 ∧
    (∃ tree, Estree.readTree? octalSource = some tree ∧
      (Estree.assigned tree).get "raw" = .text (Text.ofString "010") ∧
      (Estree.assigned tree).get "value" = .int 8 ∧
      Estree.dialect.valueOf? deepestLiteral (Estree.assigned tree) =
        some (.float ⟨0x4024000000000000⟩)) ∧
    Cst.textOf (Cst.assigned (Cst.readTree octalSource)) = Text.ofString "010" ∧
    Cst.dialect.valueOf? deepestLiteral (Cst.assigned (Cst.readTree octalSource)) =
      some (.float ⟨0x4024000000000000⟩) := by
  have hliteral : IntegerLiteral "010".toList 8 :=
    .legacyOctal (show '_' ∉ ['1', '0'] by decide) (.digit rfl (.last rfl))
  have hscript : (Estree.readTree? octalSource).any (fun tree =>
      ((Estree.assigned tree).get "raw").text? == some (Text.ofString "010") &&
        ((Estree.assigned tree).get "value").isLiteral (.int 8) &&
        (Estree.dialect.valueOf? deepestLiteral (Estree.assigned tree)).any
          (Tree.isLiteral (.float ⟨0x4024000000000000⟩))) = true := by
    decide +kernel
  have htyped : (Cst.textOf (Cst.assigned (Cst.readTree octalSource)) == Text.ofString "010" &&
      (Cst.dialect.valueOf? deepestLiteral (Cst.assigned (Cst.readTree octalSource))).any
        (Tree.isLiteral (.float ⟨0x4024000000000000⟩))) = true := by
    rw [Cst.readTree, Cst.project_eq_plainTree]
    decide +kernel
  obtain ⟨tree, htree, hscript⟩ := (Option.any_eq_true _ _).1 hscript
  obtain ⟨hscript, hread⟩ := Bool.and_eq_true_iff.1 hscript
  obtain ⟨hraw, hvalue⟩ := Bool.and_eq_true_iff.1 hscript
  obtain ⟨htext, htyped⟩ := Bool.and_eq_true_iff.1 htyped
  obtain ⟨read, hreadEq, hread⟩ := (Option.any_eq_true _ _).1 hread
  obtain ⟨typed, htypedEq, htyped⟩ := (Option.any_eq_true _ _).1 htyped
  rw [Tree.eq_of_isLiteral hread] at hreadEq
  rw [Tree.eq_of_isLiteral htyped] at htypedEq
  exact ⟨hliteral, ⟨tree, htree, Tree.eq_of_text? (beq_iff_eq.1 hraw), Tree.eq_of_isLiteral hvalue,
    hreadEq⟩, beq_iff_eq.1 htext, htypedEq⟩

end EndpointCatalog
