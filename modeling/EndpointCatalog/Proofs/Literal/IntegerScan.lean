/-
EndpointCatalog.Proofs.Literal.IntegerScan — how integer literals are scanned.

* `Estree.scanNumeral_integer`: the scanner of scripts takes an integer
  literal as a whole, and its value is the one that the grammar assigns. For
  a decimal literal it is the nearest double.
* `Estree.scanNumeral_refused`: literals with separators are refused, and so
  is every literal with the mark of a big integer behind it.
* `Cst.numberLength_integer`: the scanner of typed scripts takes every
  integer literal as a whole.

All of this is about literals that end where they end: no digit, no name and
no point stands behind them (`EndsNumber`).
-/
import Mathlib.Data.List.Basic
import EndpointCatalog.Cst.Token.Extent
import EndpointCatalog.Proofs.Literal.Integer

namespace EndpointCatalog

variable {base : Nat} {c : Char} {n : Nat} {chars digits rest : List Char} {ds : List Nat}

/-! ## Where a number ends -/

/-- Whether a number is over before some text: no digit, no name and no point follows. -/
def EndsNumber (rest : List Char) : Prop :=
  Estree.endsNumber true rest = true ∧ rest.head? ≠ some '.'

/-- A property of characters that only digits, points and the first characters of names have. -/
def GoesOn (p : Char → Bool) : Prop :=
  ∀ c, p c = true → c.isDigit = true ∨ Estree.isNameStart c.toNat = true ∨ c = '.'

theorem EndsNumber.head_any {p : Char → Bool} (h : EndsNumber rest) (hp : GoesOn p) :
    rest.head?.any p = false := by
  cases rest with
  | nil => rfl
  | cons c rest =>
    obtain ⟨hends, hpoint⟩ := h
    refine Bool.eq_false_iff.2 fun hc => ?_
    have hc := hp c hc
    simp_all [Estree.endsNumber]

theorem EndsNumber.head_ne (h : EndsNumber rest) (hc : Estree.isNameStart c.toNat = true) :
    rest.head? ≠ some c := by
  intro hhead
  have hfalse := h.head_any (p := (· == c)) fun x hx => by
    rw [beq_iff_eq.1 hx]
    exact .inr (.inl hc)
  rw [hhead] at hfalse
  simp at hfalse

theorem EndsNumber.endsNumber (h : EndsNumber rest) (digitsToo : Bool) :
    Estree.endsNumber digitsToo rest = true := by
  have hends := h.1
  cases rest with
  | nil => rfl
  | cons c rest => simp_all [Estree.endsNumber]

theorem isNameStart_of_range (h : (65 ≤ c.toNat ∧ c.toNat ≤ 90) ∨ (97 ≤ c.toNat ∧ c.toNat ≤ 122)) :
    Estree.isNameStart c.toNat = true := by
  have hletter : isLetterPoint c.toNat = true := by
    unfold isLetterPoint letterRanges
    rw [inRanges, inRanges]
    rcases h with ⟨hlow, hhigh⟩ | ⟨hlow, hhigh⟩
    · rw [if_neg (by omega), decide_eq_true hhigh, Bool.true_or]
    · rw [if_neg (by omega), if_neg (by omega), decide_eq_true hhigh, Bool.true_or, Bool.or_true]
  simp [Estree.isNameStart, hletter]

/-- ASCII letters start names. -/
theorem isNameStart_of_isAlpha (h : c.isAlpha = true) : Estree.isNameStart c.toNat = true := by
  refine isNameStart_of_range ((Bool.or_eq_true_iff.1 h).imp (fun hupper => ?_) fun hlower => ?_)
  · exact of_decide_eq_true hupper
  · obtain ⟨hlow, hhigh⟩ := Bool.and_eq_true_iff.1 hlower
    exact ⟨of_decide_eq_true hlow, of_decide_eq_true hhigh⟩

theorem goesOn_digitIn? (base : Nat) : GoesOn fun c => (digitIn? base c).isSome := by
  intro c hc
  rcases isSome_digitIn?_iff.1 hc with ⟨hlow, hhigh, -⟩ | ⟨hlow, hhigh, -⟩ | ⟨hlow, hhigh, -⟩
  · exact .inl (isDigit_iff.2 ⟨hlow, hhigh⟩)
  · exact .inr (.inl (isNameStart_of_range (.inr ⟨hlow, hhigh⟩)))
  · exact .inr (.inl (isNameStart_of_range (.inl ⟨hlow, hhigh⟩)))

theorem goesOn_digit : GoesOn Char.isDigit := fun _ => .inl

/-- Whether a character goes on with a decimal number behind its first digits. -/
def opensFraction (c : Char) : Bool := c == '.' || c == 'e' || c == 'E'

theorem goesOn_opensFraction : GoesOn opensFraction := by
  intro c hc
  simp only [opensFraction, Bool.or_eq_true, beq_iff_eq] at hc
  rcases hc with (rfl | rfl) | rfl
  · exact .inr (.inr rfl)
  · exact .inr (.inl (isNameStart_of_isAlpha rfl))
  · exact .inr (.inl (isNameStart_of_isAlpha rfl))

theorem goesOn_letters : GoesOn isBaseLetter := by
  intro c hc
  refine .inr (.inl (isNameStart_of_isAlpha ?_))
  have halpha : ∀ letter ∈ ['x', 'X', 'o', 'O', 'b', 'B'], letter.isAlpha = true := by simp
  exact halpha c (List.contains_iff_mem.1 hc)

namespace DigitGroup

/-- Without separators, digits are digits only. -/
theorem isSome_of_plain (h : DigitGroup base digits ds) (hplain : '_' ∉ digits) :
    ∀ c ∈ digits, (digitIn? base c).isSome = true := by
  intro c hc
  rcases h.mem c hc with rfl | hdigit
  · exact absurd hc hplain
  · exact hdigit

theorem isDigit_of_plain (h : DigitGroup base digits ds) (hbase : base ≤ 10)
    (hplain : '_' ∉ digits) : ∀ c ∈ digits, c.isDigit = true :=
  fun c hc => Estree.isDigit_of_digitIn? hbase (h.isSome_of_plain hplain c hc)

/-- A separator, or the mark of a big integer, stands behind some digits. -/
theorem exists_split (h : DigitGroup base digits ds)
    (hbehind : '_' ∈ digits ∨ rest.head? = some 'n') :
    ∃ front x behind, digits ++ rest = front ++ x :: behind ∧ front ≠ [] ∧
      (∀ c ∈ front, (digitIn? base c).isSome = true) ∧ (x = '_' ∨ x = 'n') := by
  induction h with
  | @last c d hc =>
    rcases hbehind with hunderscore | hletter
    · rw [← List.mem_singleton.1 hunderscore] at hc
      cases hc
    · cases rest with
      | nil => cases hletter
      | cons x behind =>
        cases hletter
        exact ⟨[c], 'n', behind, rfl, by simp, by simp [hc], .inr rfl⟩
  | @digit c d digits ds hc _ ih =>
    have hbehind : '_' ∈ digits ∨ rest.head? = some 'n' := hbehind.imp_left fun hunderscore =>
      (List.mem_cons.1 hunderscore).resolve_left (ne_underscore_of_eq hc).symm
    obtain ⟨front, x, behind, hsplit, -, hfront, hx⟩ := ih hbehind
    refine ⟨c :: front, x, behind, ?_, by simp, ?_, hx⟩
    · rw [List.cons_append, hsplit, List.cons_append]
    · exact List.forall_mem_cons.2 ⟨by rw [hc]; rfl, hfront⟩
  | @separated c d digits ds hc _ _ =>
    exact ⟨[c], '_', digits ++ rest, rfl, by simp, by simp [hc], .inl rfl⟩

end DigitGroup

/-! ## Doubles that are whole -/

namespace Binary64

/-- How many binary digits a whole double has at most. -/
def longestWhole : Nat := 1024

theorem toRatio?_lt {x : Binary64} {num den : Nat} (h : x.toRatio? = some (num, den)) :
    num < 2 ^ longestWhole := by
  have hbit : exponentBit = 2 ^ 52 := rfl
  by_cases hfinite : infinityMagnitude ≤ x.magnitude
  · rw [toRatio?, if_pos hfinite] at h
    cases h
  have hexponent : x.magnitude / exponentBit ≤ 2046 := by
    unfold infinityMagnitude at hfinite
    rw [hbit]
    omega
  have hfraction : x.magnitude % exponentBit < 2 ^ 52 := Nat.mod_lt _ (by decide)
  rw [toRatio?, if_neg hfinite] at h
  dsimp only at h
  generalize x.magnitude / exponentBit = exponent at h hexponent
  generalize x.magnitude % exponentBit = fraction at h hfraction
  have hunits : exponentBit + fraction < 2 ^ 53 := by omega
  have hsmall := Nat.pow_le_pow_right Nat.two_pos (show 53 ≤ longestWhole by decide)
  split_ifs at h
  · obtain ⟨rfl, -⟩ := Prod.mk.inj (Option.some.inj h)
    exact ((Nat.le_add_left fraction exponentBit).trans_lt hunits).trans_le hsmall
  · obtain ⟨rfl, -⟩ := Prod.mk.inj (Option.some.inj h)
    calc (exponentBit + fraction) <<< (exponent - 1075)
        = (exponentBit + fraction) * 2 ^ (exponent - 1075) := Nat.shiftLeft_eq _ _
      _ < 2 ^ 53 * 2 ^ (exponent - 1075) :=
        Nat.mul_lt_mul_of_pos_right hunits (Nat.two_pow_pos _)
      _ = 2 ^ (53 + (exponent - 1075)) := (Nat.pow_add 2 53 _).symm
      _ ≤ 2 ^ longestWhole := Nat.pow_le_pow_right Nat.two_pos (by unfold longestWhole; omega)
  · obtain ⟨rfl, -⟩ := Prod.mk.inj (Option.some.inj h)
    exact hunits.trans_le hsmall

theorem toInt?_lt {x : Binary64} {n : Int} (h : x.toInt? = some n) :
    n.natAbs < 2 ^ longestWhole := by
  unfold toInt? at h
  split at h
  · cases h
  · next num den hratio =>
    have hquotient : num / den < 2 ^ longestWhole :=
      (Nat.div_le_self num den).trans_lt (toRatio?_lt hratio)
    split at h
    · have hnatAbs : n.natAbs = num / den := by
        rw [← Option.some.inj h]
        split
        · rw [Int.natAbs_neg, Int.natAbs_natCast]
        · rw [Int.natAbs_natCast]
      rwa [hnatAbs]
    · cases h

end Binary64

/-! ## Scripts -/

namespace Estree

/-- The double nearest to a number, as an integer if it is whole. -/
def roundedInteger (n : Nat) : NumberLiteral :=
  let x := Binary64.ofDecimal false n 0
  match x.toInt? with
  | some m => .int m
  | none => .float x

/-- Whether the scanner keeps an integer as it is: where a base is written, or octal digits alone
stand behind a zero. -/
def keepsInteger : List Char → Bool
  | '0' :: c :: rest => isBaseLetter c || (c :: rest).all isOctalDigit
  | _ => false

/-- The value that the scanner finds of an integer literal. -/
def scannedInteger (chars : List Char) (n : Nat) : NumberLiteral :=
  if keepsInteger chars then .int n else roundedInteger n

theorem scanBased_eq {prefixed : Nat} (digitsToo : Bool) (hne : digits ≠ [])
    (hdigits : ∀ c ∈ digits, (digitIn? base c).isSome = true)
    (hrest : rest.head?.any (fun c => (digitIn? base c).isSome) = false) :
    scanBased base digitsToo prefixed (digits ++ rest) =
      if endsNumber digitsToo rest then
        .ok ⟨.int (placeValue base (digits.filterMap (digitIn? base))), false,
          prefixed + digits.length⟩
      else .error .illegal := by
  unfold scanBased
  simp only [takeWhile_append_of_head hdigits hrest, List.drop_left, ofDigits_eq_placeValue,
    List.isEmpty_eq_false_iff.2 hne, Bool.false_eq_true, if_false]

theorem decimalValue_eq (hne : digits ≠ []) (hdigits : ∀ c ∈ digits, c.isDigit = true) :
    decimalValue digits = roundedInteger (placeValue 10 (digits.filterMap (digitIn? 10))) := by
  have hvalues : digits.map (fun c => c.toNat - '0'.toNat) = digits.filterMap (digitIn? 10) := by
    rw [← List.filterMap_eq_map]
    exact List.filterMap_congr fun c hc => (digitIn?_ten (hdigits c hc)).symm
  rw [decimalValue, readDecimal?_digits hne hdigits, hvalues]
  rfl

theorem scanDecimal_eq (hne : digits ≠ []) (hdigits : ∀ c ∈ digits, c.isDigit = true)
    (hdigit : rest.head?.any Char.isDigit = false)
    (hfraction : rest.head?.any opensFraction = false) :
    scanDecimal (digits ++ rest) =
      if endsNumber false rest then
        .ok ⟨roundedInteger (placeValue 10 (digits.filterMap (digitIn? 10))), false, digits.length⟩
      else .error .illegal := by
  have hexponent : scanExponent rest = .ok [] := by
    cases rest with
    | nil => rfl
    | cons c rest => simp_all [scanExponent, opensFraction]
  unfold scanDecimal
  simp only [takeWhile_append_of_head hdigits hdigit, List.drop_left]
  split
  · simp [opensFraction] at hfraction
  · simp only [List.length_nil, List.drop_zero, hexponent, List.append_nil, bind, Except.bind,
      decimalValue_eq hne hdigits]

theorem scanNumeral_zero (h : isBased ('0' :: c :: rest) = false) :
    scanNumeral ('0' :: c :: rest) =
      if isOctalDigit c ∧ isLegacyOctal rest then do
        let numeral ← scanBased 8 true 1 (c :: rest)
        pure { numeral with legacyOctal := true }
      else scanDecimal ('0' :: c :: rest) := by
  unfold scanNumeral
  split
  iterate 6 (next heq => cases heq; cases h)
  · next heq =>
    cases heq
    rfl
  · next hzero => exact absurd rfl (hzero _ _)

theorem scanNumeral_of_head {cs : List Char} (h : cs.head? ≠ some '0') :
    scanNumeral cs = scanDecimal cs := by
  unfold scanNumeral
  split <;> first | rfl | exact absurd rfl h

theorem scanNumeral_based {letter : Char} (h : BasePrefix letter base) (rest : List Char) :
    ∃ digitsToo, scanNumeral ('0' :: letter :: rest) = scanBased base digitsToo 2 rest := by
  cases h with
  | hex => exact ⟨false, rfl⟩
  | hexUpper => exact ⟨false, rfl⟩
  | octal => exact ⟨true, rfl⟩
  | octalUpper => exact ⟨true, rfl⟩
  | binary => exact ⟨true, rfl⟩
  | binaryUpper => exact ⟨true, rfl⟩

theorem isOctalDigit_eq (c : Char) : isOctalDigit c = (digitIn? 8 c).isSome := by
  have hoctal : isOctalDigit c = true ↔ 48 ≤ c.toNat ∧ c.toNat ≤ 55 := by
    simp only [isOctalDigit, Bool.and_eq_true, decide_eq_true_eq]
    exact Iff.rfl
  rw [Bool.eq_iff_iff, hoctal, isSome_digitIn?_iff]
  omega

theorem isBased_of_isDigit (h : c.isDigit = true) : isBased ('0' :: c :: rest) = false := by
  refine Bool.eq_false_iff.2 fun hmem => ?_
  have hplain : ∀ letter ∈ ['x', 'X', 'o', 'O', 'b', 'B'], letter.isDigit = false := by simp
  rw [hplain c (List.contains_iff_mem.1 hmem)] at h
  cases h

theorem isLegacyOctal_cons (c : Char) (rest : List Char) : isLegacyOctal (c :: rest) =
    if isOctalDigit c then isLegacyOctal rest else c != '8' && c != '9' := by
  cases hc : isOctalDigit c with
  | true => rw [isLegacyOctal, List.dropWhile_cons_of_pos hc, if_pos rfl, isLegacyOctal]
  | false =>
    rw [isLegacyOctal, List.dropWhile_cons_of_neg (by rw [hc]; decide), if_neg Bool.false_ne_true]

theorem isLegacyOctal_append (hdigits : ∀ c ∈ digits, isOctalDigit c = true) :
    isLegacyOctal (digits ++ rest) = isLegacyOctal rest := by
  rw [isLegacyOctal, List.dropWhile_append_of_pos hdigits, isLegacyOctal]

theorem isLegacyOctal_of_head (h : rest.head?.any Char.isDigit = false) :
    isLegacyOctal rest = true := by
  cases rest with
  | nil => rfl
  | cons c rest =>
    have hdigit : c.isDigit = false := h
    have hoctal : isOctalDigit c = false := by
      rw [isOctalDigit_eq, Bool.eq_false_iff]
      exact fun hc => Bool.eq_false_iff.1 hdigit (isDigit_of_digitIn? (by decide) hc)
    have height : c ≠ '8' := fun heq => by cases heq ▸ hdigit
    have hnine : c ≠ '9' := fun heq => by cases heq ▸ hdigit
    simp [isLegacyOctal_cons, hoctal, height, hnine]

/-- Of the digits, only an eight and a nine are not octal. -/
theorem isLegacyOctal_eq_false (hdigits : ∀ c ∈ digits, c.isDigit = true)
    (height : ∃ c ∈ digits, isOctalDigit c = false) : isLegacyOctal (digits ++ rest) = false := by
  induction digits with
  | nil => exact absurd height (by simp)
  | cons c more ih =>
    obtain ⟨hc, hmore⟩ := List.forall_mem_cons.1 hdigits
    rw [List.cons_append, isLegacyOctal_cons]
    split
    · next hoctal =>
      refine ih hmore ?_
      obtain ⟨x, hx, hfalse⟩ := height
      refine ⟨x, (List.mem_cons.1 hx).resolve_left ?_, hfalse⟩
      rintro rfl
      rw [hoctal] at hfalse
      cases hfalse
    · next hoctal =>
      have hrange := isDigit_iff.1 hc
      have hhigh : ¬ c.toNat ≤ 55 := fun hlow => hoctal (by
        simp only [isOctalDigit, Bool.and_eq_true, decide_eq_true_eq]
        exact ⟨hrange.1, hlow⟩)
      have hcases : c.toNat = '8'.toNat ∨ c.toNat = '9'.toNat := by
        show c.toNat = 56 ∨ c.toNat = 57
        omega
      rcases hcases with heq | heq
      · rw [Char.toNat_inj.1 heq]
        rfl
      · rw [Char.toNat_inj.1 heq]
        rfl

/-- A zero that no digit and no letter of a base follows is decimal. -/
theorem scanNumeral_of_zero (hletter : rest.head?.any isBaseLetter = false)
    (hdigit : rest.head?.any Char.isDigit = false) :
    scanNumeral ('0' :: rest) = scanDecimal ('0' :: rest) := by
  cases rest with
  | nil => rfl
  | cons c rest =>
    have hoctal : ¬ (isOctalDigit c ∧ isLegacyOctal rest) := by
      rintro ⟨hc, -⟩
      rw [isOctalDigit_eq] at hc
      exact Bool.eq_false_iff.1 hdigit (isDigit_of_digitIn? (by decide) hc)
    rw [scanNumeral_zero hletter, if_neg hoctal]

/-- Octal digits behind a zero make a number octal. -/
theorem scanNumeral_legacyOctal (hne : digits ≠ [])
    (hdigits : ∀ c ∈ digits, (digitIn? 8 c).isSome = true)
    (hrest : rest.head?.any Char.isDigit = false) :
    scanNumeral ('0' :: (digits ++ rest)) = (do
      let numeral ← scanBased 8 true 1 (digits ++ rest)
      pure { numeral with legacyOctal := true }) := by
  obtain ⟨c, more, rfl⟩ := List.exists_cons_of_ne_nil hne
  simp only [← isOctalDigit_eq] at hdigits
  obtain ⟨hc, hmore⟩ := List.forall_mem_cons.1 hdigits
  have hdigit : c.isDigit = true := isDigit_of_digitIn? (by decide) (isOctalDigit_eq c ▸ hc)
  have hlegacy : isLegacyOctal (more ++ rest) = true :=
    (isLegacyOctal_append hmore).trans (isLegacyOctal_of_head hrest)
  rw [List.cons_append, scanNumeral_zero (isBased_of_isDigit hdigit), if_pos ⟨hc, hlegacy⟩]

/-- An eight or a nine makes a number with a zero in front decimal. -/
theorem scanNumeral_leadingZero (hdigits : ∀ c ∈ digits, c.isDigit = true)
    (height : ∃ c ∈ digits, isOctalDigit c = false) :
    scanNumeral ('0' :: (digits ++ rest)) = scanDecimal ('0' :: (digits ++ rest)) := by
  have hlegacy : isLegacyOctal (digits ++ rest) = false := isLegacyOctal_eq_false hdigits height
  obtain ⟨first, hfirst, -⟩ := height
  obtain ⟨c, more, rfl⟩ := List.exists_cons_of_ne_nil (List.ne_nil_of_mem hfirst)
  rw [List.cons_append, isLegacyOctal_cons] at hlegacy
  rw [List.cons_append, scanNumeral_zero (isBased_of_isDigit (hdigits c List.mem_cons_self)),
    if_neg ?_]
  rintro ⟨hoctal, hmore⟩
  rw [if_pos hoctal, hmore] at hlegacy
  cases hlegacy

/-! ### Scanning an integer literal -/

theorem exists_notOctal (h : DigitGroup 10 digits ds) (height : ∃ d ∈ ds, 8 ≤ d) :
    ∃ c ∈ digits, isOctalDigit c = false := by
  obtain ⟨d, hd, hle⟩ := height
  rw [← h.filterMap_eq] at hd
  obtain ⟨c, hc, hvalue⟩ := List.mem_filterMap.1 hd
  refine ⟨c, hc, ?_⟩
  rw [isOctalDigit_eq, Bool.eq_false_iff]
  intro hsome
  obtain ⟨e, he⟩ := Option.isSome_iff_exists.1 hsome
  have hlow : e < 8 := of_decide_eq_true (Option.filter_eq_some_iff.1 he).2
  rw [digitIn?_mono (by decide) he] at hvalue
  cases hvalue
  omega

theorem keepsInteger_based {letter : Char} (h : BasePrefix letter base) (digits : List Char) :
    keepsInteger ('0' :: letter :: digits) = true := by
  cases h <;> rfl

theorem keepsInteger_legacyOctal (h : DigitGroup 8 digits ds) (hplain : '_' ∉ digits) :
    keepsInteger ('0' :: digits) = true := by
  obtain ⟨c, more, rfl, -⟩ := h.exists_head
  have hall : (c :: more).all isOctalDigit = true := by
    refine List.all_eq_true.2 fun x hx => ?_
    rw [isOctalDigit_eq]
    exact h.isSome_of_plain hplain x hx
  rw [keepsInteger, hall, Bool.or_true]

theorem keepsInteger_leadingZero (hdigits : ∀ c ∈ digits, c.isDigit = true)
    (height : ∃ c ∈ digits, isOctalDigit c = false) : keepsInteger ('0' :: digits) = false := by
  obtain ⟨first, hfirst, hnot⟩ := height
  obtain ⟨c, more, rfl⟩ := List.exists_cons_of_ne_nil (List.ne_nil_of_mem hfirst)
  have hletter : isBased ('0' :: c :: more) = false :=
    isBased_of_isDigit (hdigits c List.mem_cons_self)
  have hall : (c :: more).all isOctalDigit = false :=
    List.all_eq_false.2 ⟨first, hfirst, by rw [hnot]; exact Bool.false_ne_true⟩
  rw [isBased] at hletter
  rw [keepsInteger, hletter, hall, Bool.or_self]

theorem keepsInteger_of_head (h : chars.head? ≠ some '0') : keepsInteger chars = false := by
  unfold keepsInteger
  split
  · exact absurd rfl h
  · rfl

/-- The scanner finds the value that the grammar assigns, which it rounds for decimal literals. -/
theorem scanNumeral_integer (h : IntegerLiteral chars n) (hplain : '_' ∉ chars)
    (hends : EndsNumber rest) :
    ∃ octal, scanNumeral (chars ++ rest) = .ok ⟨scannedInteger chars n, octal, chars.length⟩ := by
  have hdecimal {cs : List Char} {ds : List Nat} (hne : cs ≠ [])
      (hdigits : ∀ c ∈ cs, c.isDigit = true) (hvalues : cs.filterMap (digitIn? 10) = ds) :
      scanDecimal (cs ++ rest) = .ok ⟨roundedInteger (placeValue 10 ds), false, cs.length⟩ := by
    rw [scanDecimal_eq hne hdigits (hends.head_any goesOn_digit)
      (hends.head_any goesOn_opensFraction), if_pos (hends.endsNumber false),
      hvalues]
  unfold scannedInteger
  cases h with
  | zero =>
    have hletter := hends.head_any goesOn_letters
    have hdigit := hends.head_any goesOn_digit
    exact ⟨false, (scanNumeral_of_zero hletter hdigit).trans
      (hdecimal (List.cons_ne_nil '0' []) (List.forall_mem_singleton.2 rfl) rfl)⟩
  | @decimal _ ds hhead hdigits =>
    rw [keepsInteger_of_head hhead, if_neg Bool.false_ne_true]
    have hhead : (chars ++ rest).head? ≠ some '0' := by
      rwa [List.head?_append_of_ne_nil _ hdigits.ne_nil]
    rw [scanNumeral_of_head hhead]
    exact ⟨false, hdecimal hdigits.ne_nil (hdigits.isDigit_of_plain le_rfl hplain)
      hdigits.filterMap_eq⟩
  | @based letter base digits ds hletter hdigits =>
    have hplain : '_' ∉ digits := fun hmem => hplain (by simp [hmem])
    obtain ⟨digitsToo, hscan⟩ := scanNumeral_based hletter (digits ++ rest)
    refine ⟨false, ?_⟩
    rw [keepsInteger_based hletter, if_pos rfl, List.cons_append, List.cons_append, hscan,
      scanBased_eq digitsToo hdigits.ne_nil (hdigits.isSome_of_plain hplain)
        (hends.head_any (goesOn_digitIn? base)),
      if_pos (hends.endsNumber digitsToo), hdigits.filterMap_eq, List.length_cons, List.length_cons,
      Nat.add_comm]
  | @legacyOctal digits ds hbare hdigits =>
    refine ⟨true, ?_⟩
    rw [keepsInteger_legacyOctal hdigits hbare, if_pos rfl, List.cons_append,
      scanNumeral_legacyOctal hdigits.ne_nil (hdigits.isSome_of_plain hbare)
        (hends.head_any goesOn_digit),
      scanBased_eq true hdigits.ne_nil (hdigits.isSome_of_plain hbare)
        (hends.head_any (goesOn_digitIn? 8)),
      if_pos (hends.endsNumber true), hdigits.filterMap_eq, List.length_cons, Nat.add_comm]
    rfl
  | @leadingZero digits ds hbare hdigits height =>
    have hall := hdigits.isDigit_of_plain le_rfl hbare
    have hoctal := exists_notOctal hdigits height
    have hzero : ∀ c ∈ '0' :: digits, c.isDigit = true := List.forall_mem_cons.2 ⟨rfl, hall⟩
    refine ⟨false, ?_⟩
    rw [keepsInteger_leadingZero hall hoctal, if_neg Bool.false_ne_true, List.cons_append,
      scanNumeral_leadingZero hall hoctal, ← placeValue_cons_zero]
    exact hdecimal (by simp) hzero (digitGroup_cons_zero hdigits).filterMap_eq

/-! ### What is refused -/

theorem endsNumber_eq_false {x : Char} (hx : x = '_' ∨ x = 'n') (digitsToo : Bool)
    (behind : List Char) : endsNumber digitsToo (x :: behind) = false := by
  rcases hx with rfl | rfl
  · rfl
  · have hname : isNameStart ('n' : Char).toNat = true := isNameStart_of_isAlpha rfl
    rw [endsNumber, hname]
    rfl

theorem scanDecimal_refused {front behind : List Char} {x : Char} (hne : front ≠ [])
    (hfront : ∀ c ∈ front, c.isDigit = true) (hx : x = '_' ∨ x = 'n') :
    scanDecimal (front ++ x :: behind) = .error .illegal := by
  have hdigit : (x :: behind).head?.any Char.isDigit = false := by rcases hx with rfl | rfl <;> rfl
  have hfraction : (x :: behind).head?.any opensFraction = false := by
    rcases hx with rfl | rfl <;> rfl
  rw [scanDecimal_eq hne hfront hdigit hfraction, endsNumber_eq_false hx, if_neg Bool.false_ne_true]

theorem scanBased_refused {front behind : List Char} {x : Char} {prefixed : Nat} (digitsToo : Bool)
    (hbase : base ≤ 16) (hne : front ≠ []) (hfront : ∀ c ∈ front, (digitIn? base c).isSome = true)
    (hx : x = '_' ∨ x = 'n') :
    scanBased base digitsToo prefixed (front ++ x :: behind) = .error .illegal := by
  have hstop : (x :: behind).head?.any (fun c => (digitIn? base c).isSome) = false := by
    refine Bool.eq_false_iff.2 fun hdigit => ?_
    obtain ⟨d, hd⟩ := Option.isSome_iff_exists.1 (show (digitIn? base x).isSome = true from hdigit)
    have hd := digitIn?_mono hbase hd
    rcases hx with rfl | rfl <;> cases hd
  rw [scanBased_eq digitsToo hne hfront hstop, endsNumber_eq_false hx, if_neg Bool.false_ne_true]

/-- Neither separators nor big integers are read. -/
theorem scanNumeral_refused (h : IntegerLiteral chars n)
    (hbehind : '_' ∈ chars ∨ rest.head? = some 'n') :
    scanNumeral (chars ++ rest) = .error .illegal := by
  -- Where no separator stands in the literal, the mark of a big integer follows.
  have hmark (hplain : '_' ∉ chars) : ∃ behind, rest = 'n' :: behind := by
    cases rest with
    | nil => cases hbehind.resolve_left hplain
    | cons x behind =>
      cases hbehind.resolve_left hplain
      exact ⟨behind, rfl⟩
  cases h with
  | zero =>
    obtain ⟨behind, rfl⟩ := hmark (by decide)
    exact (scanNumeral_of_zero rfl rfl).trans
      (scanDecimal_refused (List.cons_ne_nil '0' []) (List.forall_mem_singleton.2 rfl) (.inr rfl))
  | @decimal _ ds hhead hdigits =>
    have hhead : (chars ++ rest).head? ≠ some '0' := by
      rwa [List.head?_append_of_ne_nil _ hdigits.ne_nil]
    rw [scanNumeral_of_head hhead]
    obtain ⟨front, x, behind, hsplit, hne, hfront, hx⟩ := hdigits.exists_split hbehind
    rw [hsplit]
    exact scanDecimal_refused hne (fun c hc => isDigit_of_digitIn? le_rfl (hfront c hc)) hx
  | @based letter base digits ds hletter hdigits =>
    have hbehind : '_' ∈ digits ∨ rest.head? = some 'n' := by
      refine hbehind.imp_left fun hmem => ?_
      cases hletter <;> simpa using hmem
    have hbase : base ≤ 16 := by cases hletter <;> decide
    obtain ⟨front, x, behind, hsplit, hne, hfront, hx⟩ := hdigits.exists_split hbehind
    obtain ⟨digitsToo, hscan⟩ := scanNumeral_based hletter (digits ++ rest)
    rw [List.cons_append, List.cons_append, hscan, hsplit]
    exact scanBased_refused digitsToo hbase hne hfront hx
  | @legacyOctal digits ds hbare hdigits =>
    obtain ⟨behind, rfl⟩ := hmark (by simpa using hbare)
    have hall := hdigits.isSome_of_plain hbare
    rw [List.cons_append, scanNumeral_legacyOctal hdigits.ne_nil hall rfl,
      scanBased_refused true (by decide) hdigits.ne_nil hall (.inr rfl)]
    rfl
  | @leadingZero digits ds hbare hdigits height =>
    obtain ⟨behind, rfl⟩ := hmark (by simpa using hbare)
    have hall := hdigits.isDigit_of_plain le_rfl hbare
    have hzero : ∀ c ∈ '0' :: digits, c.isDigit = true := List.forall_mem_cons.2 ⟨rfl, hall⟩
    rw [List.cons_append, scanNumeral_leadingZero hall (exists_notOctal hdigits height)]
    exact scanDecimal_refused (by simp) hzero (.inr rfl)

end Estree

/-! ## Typed scripts -/

namespace Cst

/-- A test for the digits of a base. -/
def IsDigitTest (base : Nat) (p : Char → Bool) : Prop := ∀ c, p c = (digitIn? base c).isSome

theorem isDigitTest_decimal : IsDigitTest 10 Char.isDigit := by
  intro c
  rw [Bool.eq_iff_iff, isDigit_iff, isSome_digitIn?_iff]
  omega

theorem isDigitTest_octal : IsDigitTest 8 isOctalDigit := fun c => Estree.isOctalDigit_eq c

theorem isDigitTest_hex : IsDigitTest 16 isHexDigit := by
  intro c
  have hhex : isHexDigit c = true ↔ ((48 ≤ c.toNat ∧ c.toNat ≤ 57) ∨
      (97 ≤ c.toNat ∧ c.toNat ≤ 102)) ∨ (65 ≤ c.toNat ∧ c.toNat ≤ 70) := by
    simp only [isHexDigit, Bool.or_eq_true, Bool.and_eq_true, decide_eq_true_eq, isDigit_iff]
    exact Iff.rfl
  rw [Bool.eq_iff_iff, hhex, isSome_digitIn?_iff]
  omega

theorem isDigitTest_binary : IsDigitTest 2 isBinaryDigit := by
  intro c
  have hbinary : isBinaryDigit c = true ↔ c.toNat = 48 ∨ c.toNat = 49 := by
    simp only [isBinaryDigit, Bool.or_eq_true, decide_eq_true_eq, ← Char.toNat_inj]
    exact Iff.rfl
  rw [Bool.eq_iff_iff, hbinary, isSome_digitIn?_iff]
  omega

theorem digitsLength_eq_zero {p : Char → Bool} (hp : rest.head?.any p = false)
    (hunderscore : rest.head? ≠ some '_') : digitsLength p rest = 0 := by
  fun_cases digitsLength p rest with
  | case1 => rfl
  | case2 => exact absurd rfl hunderscore
  | case3 => exact absurd rfl hunderscore
  | case4 c more _ hc =>
    have hfalse : p c = false := hp
    rw [hfalse] at hc
    cases hc
  | case5 => rfl

theorem digitsLength_eq {p : Char → Bool} (hp : IsDigitTest base p)
    (h : DigitGroup base digits ds) (hrest : digitsLength p rest = 0) :
    digitsLength p (digits ++ rest) = digits.length := by
  induction h with
  | @last c d hc => simp [digitsLength, ne_underscore_of_eq hc, hp c, hc, hrest]
  | @digit c d more ds hc _ ih => simp [digitsLength, ne_underscore_of_eq hc, hp c, hc, ih]
  | @separated c d more ds hc hmore ih =>
    obtain ⟨x, behind, rfl, hx⟩ := hmore.exists_head
    rw [List.cons_append] at ih
    simp [digitsLength, ne_underscore_of_eq hc, hp c, hp x, hc, hx, ih]

theorem numeralLength_eq {p : Char → Bool} (hp : IsDigitTest base p)
    (h : DigitGroup base digits ds) (hrest : digitsLength p rest = 0) :
    numeralLength p (digits ++ rest) = digits.length := by
  have hlength := digitsLength_eq hp h hrest
  obtain ⟨c, more, rfl, hc⟩ := h.exists_head
  have hhead : ((c :: more) ++ rest).head?.any p = true := (hp c).trans hc
  rw [numeralLength, if_pos hhead, hlength]

/-! ### Integers -/

theorem isBased_append (h : DigitGroup 10 chars ds) (hends : EndsNumber rest) :
    isBased (chars ++ rest) = false := by
  have hbased := h.isBased_eq
  have hletter : rest.head?.any isBaseLetter = false := hends.head_any goesOn_letters
  obtain ⟨c, more, rfl, -⟩ := h.exists_head
  by_cases hzero : c = '0'
  · subst hzero
    cases more with
    | nil =>
      cases rest with
      | nil => rfl
      | cons x rest => exact hletter
    | cons x more => exact hbased
  · simp [isBased, hzero]

theorem basedLength_eq_zero {letters : List Char} {p : Char → Bool} {cs : List Char}
    (hletters : ∀ x ∈ letters, isBaseLetter x = true) (h : isBased cs = false) :
    basedLength letters p cs = 0 := by
  unfold basedLength
  split
  · next letter rest =>
    refine if_neg fun hmem => ?_
    rw [isBased, hletters letter (List.contains_iff_mem.1 hmem)] at h
    cases h
  · rfl

theorem basedLength_eq {letters : List Char} {letter : Char} {p : Char → Bool}
    (hletter : letters.contains letter = true) (hp : IsDigitTest base p)
    (h : DigitGroup base digits ds) (hrest : digitsLength p rest = 0) :
    basedLength letters p ('0' :: letter :: (digits ++ rest)) = digits.length + 2 := by
  have hlength := numeralLength_eq hp h hrest
  have hpos : 0 < digits.length := List.length_pos_iff.2 h.ne_nil
  rw [basedLength, if_pos hletter, hlength]
  split
  · omega
  · rfl

theorem digitsLength_of_ends {p : Char → Bool} (hp : IsDigitTest base p)
    (hends : EndsNumber rest) : digitsLength p rest = 0 := by
  refine digitsLength_eq_zero (hends.head_any fun c hc => ?_) fun hhead => ?_
  · exact goesOn_digitIn? base c ((hp c).symm.trans hc)
  · exact hends.head_ne rfl hhead

theorem integerLength_decimal (h : DigitGroup 10 chars ds) (hends : EndsNumber rest) :
    integerLength (chars ++ rest) = chars.length := by
  have hbased := isBased_append h hends
  have hnumeral := numeralLength_eq isDigitTest_decimal h
    (digitsLength_of_ends isDigitTest_decimal hends)
  have hzero (letters : List Char) (p : Char → Bool)
      (hletters : ∀ x ∈ letters, isBaseLetter x = true) :
      basedLength letters p (chars ++ rest) = 0 := basedLength_eq_zero hletters hbased
  have hmark : rest.head? ≠ some 'n' := hends.head_ne (isNameStart_of_isAlpha rfl)
  unfold integerLength
  simp only [hnumeral, hzero ['x', 'X'] isHexDigit (List.all_eq_true.1 rfl),
    hzero ['o', 'O'] isOctalDigit (List.all_eq_true.1 rfl),
    hzero ['b', 'B'] isBinaryDigit (List.all_eq_true.1 rfl),
    Nat.max_self, Nat.max_zero, List.drop_left, hmark, decide_false, Bool.and_false,
    Bool.false_eq_true, if_false]

theorem integerLength_based {letter : Char} (hletter : BasePrefix letter base)
    (h : DigitGroup base digits ds) (hends : EndsNumber rest) :
    integerLength ('0' :: letter :: (digits ++ rest)) = digits.length + 2 := by
  have hpos : 0 < digits.length := List.length_pos_iff.2 h.ne_nil
  have hnumeral : numeralLength Char.isDigit ('0' :: letter :: (digits ++ rest)) = 1 := by
    cases hletter <;> rfl
  have hlength : max (numeralLength Char.isDigit ('0' :: letter :: (digits ++ rest)))
      (max (basedLength ['x', 'X'] isHexDigit ('0' :: letter :: (digits ++ rest)))
        (max (basedLength ['o', 'O'] isOctalDigit ('0' :: letter :: (digits ++ rest)))
          (basedLength ['b', 'B'] isBinaryDigit ('0' :: letter :: (digits ++ rest))))) =
      digits.length + 2 := by
    rw [hnumeral]
    have hother (letters : List Char) (p : Char → Bool) (hnot : letters.contains letter = false) :
        basedLength letters p ('0' :: letter :: (digits ++ rest)) = 0 := by
      rw [basedLength, hnot]
      rfl
    have hown {letters : List Char} {p : Char → Bool} (hp : IsDigitTest base p)
        (hmem : letters.contains letter = true) :
        basedLength letters p ('0' :: letter :: (digits ++ rest)) = digits.length + 2 :=
      basedLength_eq hmem hp h (digitsLength_of_ends hp hends)
    cases hletter with
    | hex => rw [hown isDigitTest_hex rfl, hother _ _ rfl, hother _ _ rfl]; omega
    | hexUpper => rw [hown isDigitTest_hex rfl, hother _ _ rfl, hother _ _ rfl]; omega
    | octal => rw [hother _ _ rfl, hown isDigitTest_octal rfl, hother _ _ rfl]; omega
    | octalUpper => rw [hother _ _ rfl, hown isDigitTest_octal rfl, hother _ _ rfl]; omega
    | binary => rw [hother _ _ rfl, hother _ _ rfl, hown isDigitTest_binary rfl]; omega
    | binaryUpper => rw [hother _ _ rfl, hother _ _ rfl, hown isDigitTest_binary rfl]; omega
  have hdrop : ('0' :: letter :: (digits ++ rest)).drop (digits.length + 2) = rest := by simp
  have hmark : rest.head? ≠ some 'n' := hends.head_ne (isNameStart_of_isAlpha rfl)
  unfold integerLength
  simp only [hlength, hdrop, hmark, decide_false, Bool.and_false, Bool.false_eq_true, if_false]

/-! ### Fractions -/

theorem exponentLength_eq_zero (h : rest.head?.any opensFraction = false) :
    exponentLength rest = 0 := by
  cases rest with
  | nil => rfl
  | cons c rest =>
    simp only [List.head?_cons, Option.any_some, opensFraction, Bool.or_eq_false_iff,
      beq_eq_false_iff_ne] at h
    simp [exponentLength, h]

theorem fractionalLength_eq_zero {cs : List Char}
    (h : (cs.drop (integralLength cs)).head?.any opensFraction = false) :
    fractionalLength cs = 0 := by
  have hpoint : (cs.drop (integralLength cs)).head? ≠ some '.' := by
    intro hhead
    rw [hhead] at h
    cases h
  unfold fractionalLength
  simp only [hpoint, exponentLength_eq_zero h, decide_false, Bool.false_and, Bool.false_eq_true,
    if_false]

theorem integralLength_zero (cs : List Char) : integralLength ('0' :: cs) =
    if cs.head?.any (fun c => c.isDigit && c ≠ '0') then digitsLength Char.isDigit cs + 1
    else 1 := by
  cases cs with
  | nil => rfl
  | cons c cs => simp [integralLength]

theorem integralLength_cons {cs : List Char} (hdigit : c.isDigit = true) (hzero : c ≠ '0') :
    integralLength (c :: cs) = digitsLength Char.isDigit (c :: cs) := by
  simp [integralLength, hdigit, hzero]

theorem opensFraction_of_isDigit (h : c.isDigit = true) : opensFraction c = false := by
  refine Bool.eq_false_iff.2 fun hopens => ?_
  simp only [opensFraction, Bool.or_eq_true, beq_iff_eq] at hopens
  rcases hopens with (rfl | rfl) | rfl <;> cases h

/-- Behind the digits of an integer literal, or behind the zero in front, no fraction starts. -/
theorem behind_integral (h : IntegerLiteral chars n) (hends : EndsNumber rest) :
    ((chars ++ rest).drop (integralLength (chars ++ rest))).head?.any opensFraction = false := by
  have hrest := hends.head_any goesOn_opensFraction
  have hzero {digits : List Char} {ds : List Nat} (hdigits : DigitGroup 10 digits ds) :
      ((('0' :: digits) ++ rest).drop
        (integralLength (('0' :: digits) ++ rest))).head?.any opensFraction = false := by
    have hlength := digitsLength_eq isDigitTest_decimal hdigits
      (digitsLength_of_ends isDigitTest_decimal hends)
    rw [List.cons_append, integralLength_zero]
    split
    · rw [hlength, List.drop_succ_cons, List.drop_left]
      exact hrest
    · obtain ⟨c, more, rfl, hc⟩ := hdigits.exists_head
      exact opensFraction_of_isDigit (Estree.isDigit_of_digitIn? le_rfl hc)
  cases h with
  | zero =>
    have hdigit : rest.head?.any (fun c => c.isDigit && c ≠ '0') = false :=
      hends.head_any fun c hc => .inl (Bool.and_eq_true_iff.1 hc).1
    rw [List.singleton_append, integralLength_zero, hdigit]
    exact hrest
  | @decimal _ ds hhead hdigits =>
    have hlength := digitsLength_eq isDigitTest_decimal hdigits
      (digitsLength_of_ends isDigitTest_decimal hends)
    obtain ⟨c, more, rfl, hc⟩ := hdigits.exists_head
    rw [List.cons_append, integralLength_cons (Estree.isDigit_of_digitIn? le_rfl hc)
      fun heq => hhead (by rw [heq]; rfl), ← List.cons_append, hlength, List.drop_left]
    exact hrest
  | @based letter base digits ds hletter hdigits =>
    have hdigit : ((letter :: digits) ++ rest).head?.any
        (fun c => c.isDigit && c ≠ '0') = false := by
      cases hletter <;> rfl
    rw [List.cons_append, integralLength_zero, hdigit]
    cases hletter <;> rfl
  | legacyOctal _ hdigits => exact hzero (hdigits.mono (by decide))
  | leadingZero _ hdigits _ => exact hzero hdigits

/-- A typed script's scanner takes an integer literal as a whole. -/
theorem numberLength_integer (h : IntegerLiteral chars n) (hends : EndsNumber rest) :
    numberLength (chars ++ rest) = chars.length := by
  rw [numberLength, fractionalLength_eq_zero (behind_integral h hends), Nat.max_zero]
  cases h with
  | zero => exact integerLength_decimal (.last rfl) hends
  | decimal _ hdigits => exact integerLength_decimal hdigits hends
  | based hletter hdigits => exact integerLength_based hletter hdigits hends
  | legacyOctal _ hdigits =>
    exact integerLength_decimal (digitGroup_cons_zero (hdigits.mono (by decide))) hends
  | leadingZero _ hdigits _ => exact integerLength_decimal (digitGroup_cons_zero hdigits) hends

end Cst

end EndpointCatalog
