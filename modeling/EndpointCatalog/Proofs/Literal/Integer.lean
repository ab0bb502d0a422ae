/-
EndpointCatalog.Proofs.Literal.Integer — what integer literals are read as.

* `IntegerLiteral`: the integer literals of scripts that are not strict, and
  the values that the grammar assigns to them. Separators may stand between
  digits, and a zero in front makes a literal octal or, with an eight or a
  nine in it, decimal.
* `readNumber_integer`: what each of them is read as.
* `integerReading_eq_int_iff`: the value survives exactly if a base is written or
  a decimal literal is neither too long nor has a superfluous zero in front
  (`KeepsInteger`).

A decimal literal that does not survive becomes the double that is nearest to
its decimal reading. For one with a zero in front and octal digits behind it,
that is another number than the grammar says.
-/
import Mathlib.Data.List.TakeWhile
import Mathlib.Data.Nat.Digits.Defs
import EndpointCatalog.Proofs.Literal.Numeral

namespace EndpointCatalog

variable {base : Nat} {c : Char} {d n : Nat} {chars digits : List Char} {ds : List Nat}

/-! ## The grammar -/

/-- The number that digits stand for in a base, the highest digit first. -/
def placeValue (base : Nat) (ds : List Nat) : Nat := Nat.ofDigits base ds.reverse

/-- Digits in a base, single underscores between them allowed, and their values. -/
inductive DigitGroup (base : Nat) : List Char → List Nat → Prop where
  | last {c : Char} {d : Nat} : digitIn? base c = some d → DigitGroup base [c] [d]
  | digit {c : Char} {d : Nat} {rest : List Char} {ds : List Nat} : digitIn? base c = some d →
      DigitGroup base rest ds → DigitGroup base (c :: rest) (d :: ds)
  | separated {c : Char} {d : Nat} {rest : List Char} {ds : List Nat} : digitIn? base c = some d →
      DigitGroup base rest ds → DigitGroup base (c :: '_' :: rest) (d :: ds)

/-- An integer literal and its value. -/
inductive IntegerLiteral : List Char → Nat → Prop where
  | zero : IntegerLiteral ['0'] 0
  | decimal {chars : List Char} {ds : List Nat} : chars.head? ≠ some '0' →
      DigitGroup 10 chars ds → IntegerLiteral chars (placeValue 10 ds)
  | based {letter : Char} {base : Nat} {digits : List Char} {ds : List Nat} :
      BasePrefix letter base → DigitGroup base digits ds →
      IntegerLiteral ('0' :: letter :: digits) (placeValue base ds)
  | legacyOctal {digits : List Char} {ds : List Nat} : '_' ∉ digits → DigitGroup 8 digits ds →
      IntegerLiteral ('0' :: digits) (placeValue 8 ds)
  | leadingZero {digits : List Char} {ds : List Nat} : '_' ∉ digits → DigitGroup 10 digits ds →
      (∃ d ∈ ds, 8 ≤ d) → IntegerLiteral ('0' :: digits) (placeValue 10 ds)

/-! ## Digits -/

theorem digitIn?_underscore : digitIn? base '_' = none := rfl

theorem ne_underscore (h : (digitIn? base c).isSome = true) : c ≠ '_' := by
  rintro rfl
  cases h

theorem ne_underscore_of_eq (h : digitIn? base c = some d) : c ≠ '_' :=
  ne_underscore (by rw [h]; rfl)

theorem digitIn?_mono {base' : Nat} (hbase : base ≤ base') (h : digitIn? base c = some d) :
    digitIn? base' c = some d := by
  obtain ⟨hvalue, hd⟩ := Option.filter_eq_some_iff.1 h
  have hd : d < base := of_decide_eq_true hd
  exact Option.filter_eq_some_iff.2 ⟨hvalue, decide_eq_true (hd.trans_le hbase)⟩

theorem isDigit_of_digitIn?_eq (hbase : base ≤ 10) (h : digitIn? base c = some d) :
    c.isDigit = true :=
  Estree.isDigit_of_digitIn? hbase (by rw [h]; rfl)

theorem digitIn?_ten (h : c.isDigit = true) : digitIn? 10 c = some (c.toNat - '0'.toNat) := by
  have hrange := isDigit_iff.1 h
  have hchars : '0' ≤ c ∧ c ≤ '9' := hrange
  have hlow : c.toNat - 48 < 10 := by omega
  simp [digitIn?, hchars, Option.filter, hlow]

theorem eq_of_digitIn? (h : digitIn? 10 c = some d) : c.toNat - '0'.toNat = d := by
  rw [digitIn?_ten (isDigit_of_digitIn?_eq le_rfl h)] at h
  exact Option.some.inj h

theorem digitIn?_digitChar (hbase : base ≤ 16) (h : d < base) :
    digitIn? base d.digitChar = some d := by
  have hall : ∀ d < 16, digitIn? 16 d.digitChar = some d := by decide
  obtain ⟨hvalue, -⟩ := Option.filter_eq_some_iff.1 (hall d (h.trans_le hbase))
  exact Option.filter_eq_some_iff.2 ⟨hvalue, decide_eq_true h⟩

theorem ofDigits_eq_placeValue (base : Nat) (ds : List Nat) :
    ofDigits base ds = placeValue base ds := by
  rw [placeValue, Nat.ofDigits_eq_foldr, List.foldr_reverse, ofDigits]
  simp only [Nat.cast_id, Nat.mul_comm base, Nat.add_comm]

theorem placeValue_zeros (h : ∀ d ∈ ds, d = 0) : placeValue base ds = 0 := by
  rw [placeValue, List.eq_replicate_of_mem h, List.reverse_replicate, Nat.ofDigits_replicate_zero]

/-- A zero in front changes nothing. -/
theorem placeValue_cons_zero (base : Nat) (ds : List Nat) :
    placeValue base (0 :: ds) = placeValue base ds := by
  rw [placeValue, List.reverse_cons, Nat.ofDigits_append_zero, placeValue]

namespace DigitGroup

theorem ne_nil (h : DigitGroup base digits ds) : digits ≠ [] := by cases h <;> simp

theorem mono {base' : Nat} (hbase : base ≤ base') (h : DigitGroup base digits ds) :
    DigitGroup base' digits ds := by
  induction h with
  | last hc => exact .last (digitIn?_mono hbase hc)
  | digit hc _ ih => exact .digit (digitIn?_mono hbase hc) ih
  | separated hc _ ih => exact .separated (digitIn?_mono hbase hc) ih

/-- Digits start with a digit. -/
theorem exists_head (h : DigitGroup base digits ds) :
    ∃ c rest, digits = c :: rest ∧ (digitIn? base c).isSome = true := by
  cases h with
  | last hc => exact ⟨_, _, rfl, by rw [hc]; rfl⟩
  | digit hc _ => exact ⟨_, _, rfl, by rw [hc]; rfl⟩
  | separated hc _ => exact ⟨_, _, rfl, by rw [hc]; rfl⟩

theorem head_isDigit (h : DigitGroup 10 digits ds) : digits.head?.any Char.isDigit = true := by
  obtain ⟨c, rest, rfl, hc⟩ := h.exists_head
  exact Estree.isDigit_of_digitIn? le_rfl hc

theorem mem (h : DigitGroup base digits ds) :
    ∀ c ∈ digits, c = '_' ∨ (digitIn? base c).isSome = true := by
  induction h with
  | last hc => simp [hc]
  | digit hc _ ih => exact List.forall_mem_cons.2 ⟨.inr (by simp [hc]), ih⟩
  | separated hc _ ih =>
    exact List.forall_mem_cons.2 ⟨.inr (by simp [hc]), List.forall_mem_cons.2 ⟨.inl rfl, ih⟩⟩

/-- Underscores are no digits, so the values are those of the digits in order. -/
theorem filterMap_eq (h : DigitGroup base digits ds) : digits.filterMap (digitIn? base) = ds := by
  induction h with
  | last hc => simp [hc]
  | digit hc _ ih => simp [hc, ih]
  | separated hc _ ih =>
    rw [List.filterMap_cons_some hc, List.filterMap_cons_none digitIn?_underscore, ih]

theorem groupedDigits?_eq (h : DigitGroup base digits ds) :
    groupedDigits? base digits = some ds := by
  induction h with
  | last hc => simp [groupedDigits?, hc]
  | digit hc hrest ih =>
    obtain ⟨c, rest, rfl, hhead⟩ := hrest.exists_head
    simp [groupedDigits?, ne_underscore hhead, hc, ih]
  | separated hc _ ih => simp [groupedDigits?, hc, ih]

/-- Without its separators, a decimal literal is its digits. -/
theorem dropSeparators?_eq (h : DigitGroup 10 digits ds) (previous : Option Char) :
    ∃ plain, dropSeparators? previous digits = some plain ∧ plain ≠ [] ∧
      (∀ c ∈ plain, c.isDigit = true) ∧ plain.map (fun c => c.toNat - '0'.toNat) = ds := by
  induction h generalizing previous with
  | @last c d hc =>
    refine ⟨[c], by simp [dropSeparators?, ne_underscore_of_eq hc], by simp, ?_, ?_⟩
    · simpa using isDigit_of_digitIn?_eq le_rfl hc
    · simpa using eq_of_digitIn? hc
  | @digit c d rest ds hc hrest ih =>
    obtain ⟨plain, hdrop, -, hdigits, hvalues⟩ := ih (some c)
    refine ⟨c :: plain, by simp [dropSeparators?, ne_underscore_of_eq hc, hdrop], by simp, ?_, ?_⟩
    · exact List.forall_mem_cons.2 ⟨isDigit_of_digitIn?_eq le_rfl hc, hdigits⟩
    · rw [List.map_cons, hvalues, eq_of_digitIn? hc]
  | @separated c d rest ds hc hrest ih =>
    obtain ⟨plain, hdrop, -, hdigits, hvalues⟩ := ih (some '_')
    have hdigit := isDigit_of_digitIn?_eq le_rfl hc
    refine ⟨c :: plain, ?_, by simp, ?_, ?_⟩
    · simp [dropSeparators?, ne_underscore_of_eq hc, hdigit, hrest.head_isDigit, hdrop]
    · exact List.forall_mem_cons.2 ⟨hdigit, hdigits⟩
    · rw [List.map_cons, hvalues, eq_of_digitIn? hc]

end DigitGroup

/-! ## Reading -/

theorem readDecimal?_digits (hne : digits ≠ []) (hdigits : ∀ c ∈ digits, c.isDigit = true) :
    readDecimal? false digits = some
      (Binary64.ofDecimal false (placeValue 10 (digits.map fun c => c.toNat - '0'.toNat)) 0) := by
  have htake : digits.takeWhile Char.isDigit = digits := List.takeWhile_eq_self_iff.2 hdigits
  have hskip : digits.dropWhile Char.isDigit = [] := List.dropWhile_eq_nil_iff.2 hdigits
  unfold readDecimal?
  simp [htake, hskip, hne, ofDigits_eq_placeValue]

/-- Whether a character is the letter of a base. -/
def isBaseLetter (c : Char) : Bool := ['x', 'X', 'o', 'O', 'b', 'B'].contains c

/-- Whether a literal has the prefix of a base. -/
def isBased : List Char → Bool
  | '0' :: letter :: _ => isBaseLetter letter
  | _ => false

/-- The values of the decimal digits of a literal. -/
def decimalDigits (chars : List Char) : List Nat := chars.filterMap (digitIn? 10)

/-- Whether decimal digits are read as an integer: there are not too many, and none but zeros stand
behind a zero in front. -/
def KeepsDecimal (ds : List Nat) : Prop :=
  ds.length ≤ longestInteger ∧ (ds.head? = some 0 → ∀ d ∈ ds, d = 0)

instance : DecidablePred KeepsDecimal := fun _ => inferInstanceAs (Decidable (_ ∧ _))

/-- Whether a literal is read as an integer. -/
def KeepsInteger (chars : List Char) : Prop :=
  isBased chars = true ∨ KeepsDecimal (decimalDigits chars)

instance : DecidablePred KeepsInteger := fun _ => inferInstanceAs (Decidable (_ ∨ _))

/-- What an integer literal with some value is read as. -/
def integerReading (chars : List Char) (n : Nat) : NumberLiteral :=
  if KeepsInteger chars then .int n
  else .float (Binary64.ofDecimal false (placeValue 10 (decimalDigits chars)) 0)

theorem isBased_of_basePrefix {letter : Char} (h : BasePrefix letter base) :
    isBased ('0' :: letter :: digits) = true := by
  cases h <;> rfl

theorem readMagnitude?_based {letter : Char} (hletter : BasePrefix letter base)
    (h : DigitGroup base digits ds) :
    readMagnitude? ('0' :: letter :: digits) = some (placeValue base ds) := by
  have hmagnitude : readMagnitude? ('0' :: letter :: digits) = prefixedDigits? base digits := by
    cases hletter <;> rfl
  have hprefixed : prefixedDigits? base digits =
      (groupedDigits? base digits).map (ofDigits base) := by
    obtain ⟨c, rest, rfl, hc⟩ := h.exists_head
    simp [prefixedDigits?, ne_underscore hc]
  rw [hmagnitude, hprefixed, h.groupedDigits?_eq, Option.map_some, ofDigits_eq_placeValue]

namespace DigitGroup

theorem isBased_eq (h : DigitGroup 10 digits ds) : isBased digits = false := by
  fun_cases isBased digits with
  | case1 letter rest =>
    have hletter := h.mem letter (by simp)
    refine Bool.eq_false_iff.2 fun hmem => ?_
    have hmem : letter ∈ ['x', 'X', 'o', 'O', 'b', 'B'] := List.contains_iff_mem.1 hmem
    have hplain : ∀ other ∈ ['x', 'X', 'o', 'O', 'b', 'B'],
        ¬ (other = '_' ∨ (digitIn? 10 other).isSome = true) := by simp [digitIn?]
    exact hplain letter hmem hletter
  | case2 => rfl

theorem readMagnitude?_eq (h : DigitGroup 10 digits ds) :
    readMagnitude? digits = if KeepsDecimal ds then some (placeValue 10 ds) else none := by
  have hbased := h.isBased_eq
  have hlast : readMagnitude? digits = (groupedDigits? 10 digits).bind fun ds =>
      if longestInteger < ds.length then none
      else if ds.head? = some 0 ∧ ds.any (· ≠ 0) then none
      else some (ofDigits 10 ds) := by
    unfold readMagnitude?
    split
    iterate 6 cases hbased
    rfl
  have hzeros : (ds.head? = some 0 ∧ ds.any (· ≠ 0) = true) ↔
      ¬ (ds.head? = some 0 → ∀ d ∈ ds, d = 0) := by
    simp
  rw [hlast, h.groupedDigits?_eq, Option.bind_some, ofDigits_eq_placeValue]
  by_cases hlong : longestInteger < ds.length
  · rw [if_pos hlong, if_neg fun hkeeps => absurd hkeeps.1 (Nat.not_le.2 hlong)]
  rw [if_neg hlong]
  by_cases hzero : ds.head? = some 0 → ∀ d ∈ ds, d = 0
  · rw [if_neg fun hsome => hzeros.1 hsome hzero, if_pos ⟨Nat.not_lt.1 hlong, hzero⟩]
  · rw [if_pos (hzeros.2 hzero), if_neg fun hkeeps => hzero hkeeps.2]

theorem readFloat?_eq (h : DigitGroup 10 digits ds) :
    readFloat? digits = some (Binary64.ofDecimal false (placeValue 10 ds) 0) := by
  obtain ⟨plain, hdrop, hne, hdigits, hvalues⟩ := h.dropSeparators?_eq none
  have hdecimal := readDecimal?_digits hne hdigits
  obtain ⟨c, rest, rfl⟩ := List.exists_cons_of_ne_nil hne
  rw [readFloat?_of_plain hdrop (.inl (hdigits c List.mem_cons_self)), hdecimal, hvalues]

theorem isVisible (h : DigitGroup base digits ds) : ∀ c ∈ digits, IsVisible c := by
  intro c hc
  rcases h.mem c hc with rfl | hdigit
  · exact ⟨by decide, by decide⟩
  · exact (isNumeralChar_of_digitIn? hdigit).isVisible

/-- A decimal literal with a superfluous zero in front, or a long one, is read as a double. -/
theorem readNumber_eq (h : DigitGroup 10 digits ds) : readNumber (Text.ofChars digits) =
    if KeepsDecimal ds then .int (placeValue 10 ds)
    else .float (Binary64.ofDecimal false (placeValue 10 ds) 0) := by
  have hinteger : readInteger? digits =
      if KeepsDecimal ds then some (placeValue 10 ds : Int) else none := by
    rw [readInteger?, splitSign_of_digit h.head_isDigit]
    dsimp only
    rw [h.readMagnitude?_eq]
    by_cases hkeeps : KeepsDecimal ds
    · rw [if_pos hkeeps, if_pos hkeeps]
      rfl
    · rw [if_neg hkeeps, if_neg hkeeps]
      rfl
  simp only [readNumber, trim_ofChars h.isVisible, asciiSpelling_ofChars h.isVisible, hinteger,
    h.readFloat?_eq]
  by_cases hkeeps : KeepsDecimal ds
  · simp only [if_pos hkeeps]
  · simp only [if_neg hkeeps]

end DigitGroup

theorem readNumber_based {letter : Char} (hletter : BasePrefix letter base)
    (h : DigitGroup base digits ds) :
    readNumber (Text.ofChars ('0' :: letter :: digits)) = .int (placeValue base ds) := by
  have hvisible : ∀ c ∈ '0' :: letter :: digits, IsVisible c := by
    refine List.forall_mem_cons.2 ⟨⟨by decide, by decide⟩, List.forall_mem_cons.2 ⟨?_, h.isVisible⟩⟩
    cases hletter <;> exact ⟨by decide, by decide⟩
  have hinteger : readInteger? ('0' :: letter :: digits) = some (placeValue base ds : Int) := by
    rw [readInteger?, splitSign_of_digit rfl]
    dsimp only
    rw [readMagnitude?_based hletter h]
    rfl
  simp only [readNumber, trim_ofChars hvisible, asciiSpelling_ofChars hvisible, hinteger]

/-- A literal without the prefix of a base is one of decimal digits, whatever the grammar takes
them for. -/
theorem integerReading_of_decimal (h : DigitGroup 10 chars ds)
    (hn : KeepsDecimal ds → n = placeValue 10 ds) :
    readNumber (Text.ofChars chars) = integerReading chars n := by
  have hkeeps : KeepsInteger chars ↔ KeepsDecimal ds := by
    rw [KeepsInteger, decimalDigits, h.filterMap_eq, h.isBased_eq]
    simp
  rw [h.readNumber_eq, integerReading, decimalDigits, h.filterMap_eq]
  by_cases hdecimal : KeepsDecimal ds
  · rw [if_pos hdecimal, if_pos (hkeeps.2 hdecimal), hn hdecimal]
  · rw [if_neg hdecimal, if_neg fun hkept => hdecimal (hkeeps.1 hkept)]

theorem digitGroup_cons_zero (h : DigitGroup 10 digits ds) :
    DigitGroup 10 ('0' :: digits) (0 :: ds) := .digit rfl h

/-- What an integer literal is read as. -/
theorem readNumber_integer (h : IntegerLiteral chars n) :
    readNumber (Text.ofChars chars) = integerReading chars n := by
  cases h with
  | zero => exact integerReading_of_decimal (.last rfl) fun _ => rfl
  | decimal _ hdigits => exact integerReading_of_decimal hdigits fun _ => rfl
  | based hletter hdigits =>
    rw [readNumber_based hletter hdigits, integerReading,
      if_pos (.inl (isBased_of_basePrefix hletter))]
  | @legacyOctal digits ds _ hdigits =>
    have hdecimal := digitGroup_cons_zero (hdigits.mono (by decide))
    refine integerReading_of_decimal hdecimal fun hkeeps => ?_
    -- Only zeros are kept, and they stand for zero in any base.
    have hzeros := hkeeps.2 rfl
    rw [placeValue_zeros hzeros, placeValue_zeros fun d hd => hzeros d (List.mem_cons_of_mem 0 hd)]
  | @leadingZero digits ds _ hdigits _ =>
    exact integerReading_of_decimal (digitGroup_cons_zero hdigits) fun _ =>
      (placeValue_cons_zero 10 ds).symm

/-- An integer literal is read as the integer that it stands for exactly if it is kept; it is never
read as another integer. -/
theorem integerReading_eq_int_iff (chars : List Char) (n m : Nat) :
    integerReading chars n = .int m ↔ KeepsInteger chars ∧ n = m := by
  rw [integerReading]
  split <;> simp_all

end EndpointCatalog
