/-
EndpointCatalog.Proofs.Escape.Spelling — the ways to write a text as a literal.

* `HexNumeral`: hexadecimal digits, large or small, and the number that they
  are.
* `Spells`: a character as it may be written in the body of a literal. It
  stands for itself, or behind a backslash, or it is a letter's escape, or its
  number or the numbers of its two halves stand there.
* `Writes`: a text with each of its characters spelled in one of these ways,
  and with line ends behind a backslash between the spellings.

`unescape_of_writes`: however a text is written, it is read as what it is.
-/
import EndpointCatalog.Proofs.Escape.Halves
import EndpointCatalog.Proofs.Path
import Mathlib.Data.Nat.Digits.Defs

namespace EndpointCatalog

open CodePoint

/-! ## Numbers -/

/-- The digits of base sixteen with small letters, each at the place of its value. -/
def smallHexDigits : List Char := "0123456789abcdef".toList

/-- The digits of base sixteen with large letters, each at the place of its value. -/
def largeHexDigits : List Char := "0123456789ABCDEF".toList

/-- A digit and its value. -/
def IsHexDigit (c : Char) (value : Nat) : Prop :=
  smallHexDigits[value]? = some c ∨ largeHexDigits[value]? = some c

instance (c : Char) (value : Nat) : Decidable (IsHexDigit c value) :=
  inferInstanceAs (Decidable (_ ∨ _))

/-- Digits, at least one, and the number that they stand for. -/
def HexNumeral (digits : List Char) (n : Nat) : Prop :=
  digits ≠ [] ∧ ∃ values, List.Forall₂ IsHexDigit digits values ∧
    Nat.ofDigits 16 values.reverse = n

/-! ## Spellings -/

/-- The letters that stand for other characters behind a backslash. -/
def letterEscapes : List (Char × Char) :=
  [('n', '\n'), ('t', '\t'), ('r', '\r'), ('b', '\x08'), ('f', '\x0c'), ('v', '\x0b'),
   ('0', '\x00')]

/-- The characters that end a line. -/
def lineEnds : List Char := ['\n', '\r', '\u2028', '\u2029']

/-- Whether a character stands for itself behind a backslash. -/
def IsKeptBehindBackslash (c : Char) : Prop :=
  c ∉ "ntrbfvux".toList ∧ c.isDigit = false ∧ c ∉ lineEnds

/-- A character as it may be written in the body of a literal. -/
inductive Spells (c : Char) : List Char → Prop where
  | plain (h : c ≠ '\\') : Spells c [c]
  | behind (h : IsKeptBehindBackslash c) : Spells c ['\\', c]
  | letter {letter : Char} (h : (letter, c) ∈ letterEscapes) : Spells c ['\\', letter]
  | two {digits : List Char} (h : HexNumeral digits c.toNat) (hlength : digits.length = 2) :
      Spells c ('\\' :: 'x' :: digits)
  | four {digits : List Char} (h : HexNumeral digits c.toNat) (hlength : digits.length = 4) :
      Spells c ('\\' :: 'u' :: digits)
  | braced {digits : List Char} (h : HexNumeral digits c.toNat) :
      Spells c ('\\' :: 'u' :: '\x7b' :: (digits ++ ['\x7d']))
  | halves {high low : List Char} (h : 0x10000 ≤ c.toNat)
      (hhigh : HexNumeral high (0xD800 + (c.toNat - 0x10000) / 0x400)) (hfirst : high.length = 4)
      (hlow : HexNumeral low (0xDC00 + (c.toNat - 0x10000) % 0x400)) (hsecond : low.length = 4) :
      Spells c ('\\' :: 'u' :: (high ++ '\\' :: 'u' :: low))

/-- The line ends that vanish behind a backslash. -/
def continuedLineEnds : List (List Char) := [['\n'], ['\r', '\n'], ['\u2028'], ['\u2029']]

/-- A text as it may be written, with line ends behind backslashes between its characters. -/
inductive Writes : List Char → List Char → Prop where
  | nil : Writes [] []
  | char {c : Char} {cs spelled body : List Char} (h : Spells c spelled) (rest : Writes cs body) :
      Writes (c :: cs) (spelled ++ body)
  | lineEnd {lineEnd cs body : List Char} (h : lineEnd ∈ continuedLineEnds)
      (rest : Writes cs body) : Writes cs ('\\' :: (lineEnd ++ body))

/-! ## Characters as code points -/

namespace CodePoint

theorem ofChar_inj {c d : Char} : ofChar c = ofChar d ↔ c = d := by
  refine ⟨fun h => ?_, congrArg ofChar⟩
  have hchar := congrArg toChar? h
  rwa [toChar?_ofChar, toChar?_ofChar, Option.some.injEq] at hchar

theorem not_isSurrogate_ofChar (c : Char) : (ofChar c).isSurrogate = false := by
  have h := toChar?_ofChar c
  unfold toChar? at h
  split at h
  · cases h
  · next hno => exact Bool.eq_false_iff.2 hno

theorem ofNat?_val (p : CodePoint) : ofNat? p.val = some p := dif_pos p.isLt

end CodePoint

namespace Text

@[simp] theorem ofChars_nil : ofChars [] = [] := rfl

@[simp] theorem ofChars_cons (c : Char) (cs : List Char) :
    ofChars (c :: cs) = ofChar c :: ofChars cs := rfl

@[simp] theorem ofChars_append (cs ds : List Char) :
    ofChars (cs ++ ds) = ofChars cs ++ ofChars ds := List.map_append

@[simp] theorem length_ofChars (cs : List Char) : (ofChars cs).length = cs.length :=
  List.length_map _

theorem hasSurrogate_ofChars (cs : List Char) : hasSurrogate (ofChars cs) = false := by
  induction cs with
  | nil => rfl
  | cons c cs ih =>
    rw [ofChars_cons, hasSurrogate_cons, not_isSurrogate_ofChar, Bool.false_or, ih]

theorem hasPair_ofChars (cs : List Char) : hasPair (ofChars cs) = false := by
  induction cs with
  | nil => rfl
  | cons c cs ih =>
    have hhigh := (Bool.or_eq_false_iff.1 (not_isSurrogate_ofChar c)).1
    rw [ofChars_cons, hasPair_cons, hhigh, Bool.false_and, Bool.false_or, ih]

/-! ## Reading digits -/

theorem hexValue?_of_isHexDigit {c : Char} {value : Nat} (h : IsHexDigit c value) :
    hexValue? (ofChar c) = some value := by
  have hsmall : ∀ i : Fin smallHexDigits.length,
      hexValue? (ofChar smallHexDigits[i]) = some i.val := by decide
  have hlarge : ∀ i : Fin largeHexDigits.length,
      hexValue? (ofChar largeHexDigits[i]) = some i.val := by decide
  rcases h with h | h
  · obtain ⟨hlt, rfl⟩ := List.getElem?_eq_some_iff.1 h
    exact hsmall ⟨value, hlt⟩
  · obtain ⟨hlt, rfl⟩ := List.getElem?_eq_some_iff.1 h
    exact hlarge ⟨value, hlt⟩

/-- Digits and their values. -/
def HaveValues (digits : Text) (values : List Nat) : Prop :=
  List.Forall₂ (fun p value => hexValue? p = some value) digits values

theorem exists_haveValues {digits : List Char} {n : Nat} (h : HexNumeral digits n) :
    ∃ values, HaveValues (ofChars digits) values ∧ values ≠ [] ∧ hexNumber values = n := by
  obtain ⟨hne, values, hvalues, hnumber⟩ := h
  refine ⟨values, ?_, fun heq => hne ?_, ?_⟩
  · rw [HaveValues, ofChars, List.forall₂_map_left_iff]
    exact hvalues.imp fun _ _ => hexValue?_of_isHexDigit
  · rw [heq, List.forall₂_nil_right_iff] at hvalues
    exact hvalues
  · rw [← hnumber, hexNumber, Nat.ofDigits_eq_foldr, List.foldr_reverse]
    simp only [Nat.cast_id, Nat.add_comm, Nat.mul_comm]

variable {digits : Text} {values : List Nat}

theorem takeHex?_append (h : HaveValues digits values) (rest : Text) :
    takeHex? digits.length (digits ++ rest) = some (values, rest) := by
  induction h with
  | nil => rfl
  | cons hvalue _ ih =>
    rw [List.length_cons, List.cons_append, takeHex?, hvalue]
    simp only [ih, Option.map_some]

theorem spanHex_append (h : HaveValues digits values) {p : CodePoint} (hp : hexValue? p = none)
    (rest : Text) : spanHex (digits ++ p :: rest) = (values, p :: rest) := by
  induction h with
  | nil => rw [List.nil_append, spanHex, hp]
  | cons hvalue _ ih =>
    rw [List.cons_append, spanHex, hvalue]
    simp only [ih]

theorem bracedHex?_append (h : HaveValues digits values) (hne : values ≠ []) (rest : Text) :
    bracedHex? (digits ++ ofChar '\x7d' :: rest) = some (values, rest) := by
  obtain ⟨first, others, rfl⟩ := List.exists_cons_of_ne_nil hne
  rw [bracedHex?, spanHex_append h (by decide)]
  exact if_pos rfl

/-! ## Reading one escape -/

/-- Behind other letters than those of numbers an escape is one line end or one character. -/
theorem escapeAt_of_ne {p : CodePoint} (hu : p ≠ ofChar 'u') (hx : p ≠ ofChar 'x') (rest : Text) :
    escapeAt p rest =
      if p = ofChar '\r' ∧ rest.head? = some (ofChar '\n') then ([], 2)
      else if isLineEnd p then ([], 1)
      else ((simpleEscape? p).elim [p] fun code => [code], 1) := by
  simp only [escapeAt, if_neg hu, if_neg hx]
  split
  · rfl
  · split
    · rfl
    · cases simpleEscape? p <;> rfl

theorem isLineEnd_ofChar {c : Char} : isLineEnd (ofChar c) = true ↔ c ∈ lineEnds := by
  simp only [isLineEnd, lineEnds, Bool.or_eq_true, beq_iff_eq, List.mem_cons, List.not_mem_nil,
    or_false, ← ofChar_inj, Fin.ext_iff, or_assoc]
  rfl

theorem simpleEscape?_eq_none {c : Char} (hletter : c ∉ "ntrbfvux".toList)
    (hdigit : c.isDigit = false) : simpleEscape? (ofChar c) = none := by
  have hne : ∀ {letter : Char}, letter ∈ "ntrbfvux".toList → ¬ c = letter :=
    fun hmem heq => hletter (heq ▸ hmem)
  have hzero : ¬ c = '0' := fun heq => by
    rw [heq] at hdigit
    cases hdigit
  simp only [simpleEscape?, ofChar_inj]
  rw [if_neg (hne (by decide)), if_neg (hne (by decide)), if_neg (hne (by decide)),
    if_neg (hne (by decide)), if_neg (hne (by decide)), if_neg (hne (by decide)), if_neg hzero]

theorem letterEscapes_read : ∀ e ∈ letterEscapes, ofChar e.1 ≠ ofChar 'u' ∧
    ofChar e.1 ≠ ofChar 'x' ∧ isLineEnd (ofChar e.1) = false ∧
      simpleEscape? (ofChar e.1) = some (ofChar e.2) := by
  decide

theorem escapeAt_two {p : CodePoint} (h : HaveValues digits values) (hlength : digits.length = 2)
    (hnumber : hexNumber values = p.val) (rest : Text) :
    escapeAt (ofChar 'x') (digits ++ rest) = ([p], 3) := by
  have htake := takeHex?_append h rest
  rw [hlength] at htake
  have hne : ofChar 'x' ≠ ofChar 'u' := by decide
  simp only [escapeAt, if_neg hne, if_pos, htake, hnumber, ofNat?_val, Option.map_some]

theorem escapeAt_four {p : CodePoint} (h : HaveValues digits values) (hlength : digits.length = 4)
    (hnumber : hexNumber values = p.val) (rest : Text) :
    escapeAt (ofChar 'u') (digits ++ rest) = ([p], 5) := by
  have htake := takeHex?_append h rest
  rw [hlength] at htake
  cases h with
  | nil => cases hlength
  | @cons q value digits values hvalue _ =>
    -- a digit is no brace
    have hbrace : q ≠ ofChar '\x7b' := fun heq => by
      rw [heq] at hvalue
      cases hvalue
    rw [List.cons_append] at htake ⊢
    simp only [escapeAt, if_pos, if_neg hbrace, htake, hnumber, ofNat?_val, Option.map_some]

theorem escapeAt_braced {p : CodePoint} (h : HaveValues digits values) (hne : values ≠ [])
    (hnumber : hexNumber values = p.val) (rest : Text) :
    escapeAt (ofChar 'u') (ofChar '\x7b' :: (digits ++ ofChar '\x7d' :: rest)) =
      ([p], digits.length + 3) := by
  simp only [escapeAt, if_pos, bracedHex?_append h hne, hnumber, ofNat?_val, List.length_cons,
    List.length_append]
  congr 1
  omega

/-! ## Reading spellings -/

/-- What a spelling is read as, whatever follows it. -/
def Cooks (spelled : List Char) (cooked : Text) : Prop :=
  ∀ rest, unescapeFrom 0 (ofChars spelled ++ rest) = cooked ++ unescapeFrom 0 rest

theorem unescapeFrom_taken (taken rest : Text) :
    unescapeFrom taken.length (taken ++ rest) = unescapeFrom 0 rest := by
  induction taken with
  | nil => rfl
  | cons p taken ih => exact ih

theorem unescapeFrom_of_ne {p : CodePoint} (h : p ≠ ofChar '\\') (rest : Text) :
    unescapeFrom 0 (p :: rest) = p :: unescapeFrom 0 rest := if_neg h

namespace Cooks

theorem append {first second : List Char} {t u : Text} (hfirst : Cooks first t)
    (hsecond : Cooks second u) : Cooks (first ++ second) (t ++ u) := by
  intro rest
  rw [ofChars_append, List.append_assoc, hfirst, hsecond, List.append_assoc]

theorem plain {c : Char} (h : c ≠ '\\') : Cooks [c] [ofChar c] := fun rest => by
  have hne : ofChar c ≠ ofChar '\\' := fun heq => h (ofChar_inj.1 heq)
  rw [ofChars_cons, ofChars_nil, List.singleton_append, unescapeFrom_of_ne hne,
    List.singleton_append]

/-- An escape, from its first character behind the backslash. -/
theorem escape {c : Char} {taken : List Char} {cooked : Text}
    (h : ∀ rest, escapeAt (ofChar c) (ofChars taken ++ rest) = (cooked, taken.length + 1)) :
    Cooks ('\\' :: c :: taken) cooked := fun rest => by
  have hskip := unescapeFrom_taken (ofChars (c :: taken)) rest
  rw [length_ofChars, List.length_cons] at hskip
  rw [ofChars_cons, ofChars_cons, List.cons_append, List.cons_append, unescapeFrom, if_pos rfl]
  simp only [h rest]
  rw [← hskip, ofChars_cons, List.cons_append]

theorem behind {c : Char} (h : IsKeptBehindBackslash c) : Cooks ['\\', c] [ofChar c] := by
  obtain ⟨hletter, hdigit, hline⟩ := h
  have hne : ∀ {letter : Char}, letter ∈ "ntrbfvux".toList → ofChar c ≠ ofChar letter :=
    fun hmem heq => hletter (ofChar_inj.1 heq ▸ hmem)
  refine escape fun rest => ?_
  have hreturn : ofChar c ≠ ofChar '\r' := fun heq => hline (ofChar_inj.1 heq ▸ by decide)
  rw [escapeAt_of_ne (hne (by decide)) (hne (by decide)), if_neg fun h => hreturn h.1,
    if_neg (isLineEnd_ofChar.not.2 hline), simpleEscape?_eq_none hletter hdigit]
  rfl

theorem letter {letter c : Char} (h : (letter, c) ∈ letterEscapes) :
    Cooks ['\\', letter] [ofChar c] := by
  obtain ⟨hu, hx, hline, hmeans⟩ := letterEscapes_read _ h
  have hreturn : ofChar letter ≠ ofChar '\r' := fun heq => by
    rw [heq] at hline
    cases hline
  refine escape fun rest => ?_
  rw [escapeAt_of_ne hu hx, if_neg fun h => hreturn h.1, if_neg (Bool.eq_false_iff.1 hline), hmeans]
  rfl

theorem lineEnd {ending : List Char} (h : ending ∈ continuedLineEnds) :
    Cooks ('\\' :: ending) [] := by
  simp only [continuedLineEnds, List.mem_cons, List.not_mem_nil, or_false] at h
  rcases h with rfl | rfl | rfl | rfl <;> exact escape fun rest => rfl

theorem two {digits : List Char} {p : CodePoint} (h : HexNumeral digits p.val)
    (hlength : digits.length = 2) : Cooks ('\\' :: 'x' :: digits) [p] := by
  obtain ⟨values, hvalues, -, hnumber⟩ := exists_haveValues h
  refine escape fun rest => ?_
  rw [hlength]
  exact escapeAt_two hvalues ((length_ofChars _).trans hlength) hnumber rest

theorem four {digits : List Char} {p : CodePoint} (h : HexNumeral digits p.val)
    (hlength : digits.length = 4) : Cooks ('\\' :: 'u' :: digits) [p] := by
  obtain ⟨values, hvalues, -, hnumber⟩ := exists_haveValues h
  refine escape fun rest => ?_
  rw [hlength]
  exact escapeAt_four hvalues ((length_ofChars _).trans hlength) hnumber rest

theorem braced {digits : List Char} {p : CodePoint} (h : HexNumeral digits p.val) :
    Cooks ('\\' :: 'u' :: '\x7b' :: (digits ++ ['\x7d'])) [p] := by
  obtain ⟨values, hvalues, hne, hnumber⟩ := exists_haveValues h
  refine escape fun rest => ?_
  have hread := escapeAt_braced hvalues hne hnumber rest
  simpa using hread

end Cooks

/-- However a character is spelled, it is read as itself or as its two halves. -/
theorem exists_cooks {c : Char} {spelled : List Char} (h : Spells c spelled) :
    ∃ cooked, Cooks spelled cooked ∧ halves cooked = halves [ofChar c] := by
  cases h with
  | plain h => exact ⟨_, .plain h, rfl⟩
  | behind h => exact ⟨_, .behind h, rfl⟩
  | letter h => exact ⟨_, .letter h, rfl⟩
  | two h hlength => exact ⟨[ofChar c], .two h hlength, rfl⟩
  | four h hlength => exact ⟨[ofChar c], .four h hlength, rfl⟩
  | braced h => exact ⟨[ofChar c], .braced h, rfl⟩
  | @halves high low h hhigh hfirst hlow hsecond =>
    have hbeyond : 0x10000 ≤ (ofChar c).val := h
    rw [← val_ofChar, ← val_highHalf] at hhigh
    rw [← val_ofChar, ← val_lowHalf] at hlow
    refine ⟨[(ofChar c).highHalf] ++ [(ofChar c).lowHalf],
      (Cooks.four hhigh hfirst).append (.four hlow hsecond), ?_⟩
    rw [List.singleton_append, halves_pair (isHigh_highHalf hbeyond) (isLow_lowHalf _),
      halves_cons_of_le hbeyond]

theorem halves_append (t u : Text) : halves (t ++ u) = halves t ++ halves u :=
  List.flatMap_append

theorem halves_unescapePoints {cs body : List Char} (h : Writes cs body) :
    halves (unescapePoints (ofChars body)) = halves (ofChars cs) := by
  induction h with
  | nil => rfl
  | @char c cs spelled body h _ ih =>
    obtain ⟨cooked, hcooks, hhalves⟩ := exists_cooks h
    rw [ofChars_append, unescapePoints, hcooks, halves_append, hhalves, ← unescapePoints, ih,
      ← halves_append]
    rfl
  | @lineEnd ending cs body h _ ih =>
    have hcooks := Cooks.lineEnd h (ofChars body)
    rw [List.nil_append, ← unescapePoints, ← unescapePoints, ← ofChars_append] at hcooks
    rw [← List.cons_append, hcooks, ih]

/-- However a text is written in a literal, the literal is read as the text. -/
theorem unescape_of_writes {cs body : List Char} (h : Writes cs body) :
    unescape (ofChars body) = ofChars cs := by
  have hjoined : joinHalves (unescapePoints (ofChars body)) = ofChars cs :=
    joinHalves_eq_iff.2 ⟨hasPair_ofChars cs, (halves_unescapePoints h).symm⟩
  rw [unescape_eq, hasLoneHalf, hjoined, hasSurrogate_ofChars, if_neg Bool.false_ne_true]

/-! ### Spellings of all kinds -/

/-- A body with a spelling of each kind, and with two line ends between them. -/
def mixedBody : List Char :=
  "q\\/\\\n\\n\\xE9\\\r\n\\u2028\\u\x7b01f600\x7d\\uD83D\\uDE00".toList

/-- What the body says. -/
def mixedText : List Char := ['q', '/', '\n', 'é', '\u2028', '😀', '😀']

theorem writes_mixedBody : Writes mixedText mixedBody := by
  have hslash : IsKeptBehindBackslash '/' := ⟨by decide, by decide, by decide⟩
  have htwo : HexNumeral "E9".toList 'é'.toNat := ⟨by decide, [14, 9], by decide, by decide⟩
  have hfour : HexNumeral "2028".toList '\u2028'.toNat :=
    ⟨by decide, [2, 0, 2, 8], by decide, by decide⟩
  have hbraced : HexNumeral "01f600".toList '😀'.toNat :=
    ⟨by decide, [0, 1, 15, 6, 0, 0], by decide, by decide⟩
  have hhigh : HexNumeral "D83D".toList 0xD83D := ⟨by decide, [13, 8, 3, 13], by decide, by decide⟩
  have hlow : HexNumeral "DE00".toList 0xDE00 := ⟨by decide, [13, 14, 0, 0], by decide, by decide⟩
  have hbeyond : 0x10000 ≤ '😀'.toNat := Nat.le_of_ble_eq_true rfl
  exact .char (.plain (by decide)) <| .char (.behind hslash) <|
    .lineEnd (show ['\n'] ∈ continuedLineEnds by decide) <| .char (.letter (by decide)) <|
    .char (.two htwo rfl) <| .lineEnd (show ['\r', '\n'] ∈ continuedLineEnds by decide) <|
    .char (.four hfour rfl) <| .char (.braced hbraced) <|
    .char (.halves hbeyond hhigh rfl hlow rfl) .nil

theorem unescape_of_writes_mixed :
    Writes mixedText mixedBody ∧ unescape (ofChars mixedBody) = ofChars mixedText :=
  ⟨writes_mixedBody, unescape_of_writes writes_mixedBody⟩

end Text

end EndpointCatalog
