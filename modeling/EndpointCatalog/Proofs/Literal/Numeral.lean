/-
EndpointCatalog.Proofs.Literal.Numeral — number tokens are numbers.

What the scanner of scripts takes for a number has the shape of one
(`numeralShape_of_scanNumeral`): digits behind the prefix of a base, or a
decimal number with or without a point and an exponent. Text of this shape is
read as an integer or as a double-precision number, and is never kept as text
(`isNumber_readNumber`).
-/
import EndpointCatalog.Estree.Token.Numeral

namespace EndpointCatalog

/-- Whether a number literal is a number, and not text that is kept. -/
def NumberLiteral.isNumber : NumberLiteral → Bool
  | int _ => true
  | float _ => true
  | other _ => false

/-! ## Characters -/

/-- The visible ASCII characters. -/
def IsVisible (c : Char) : Prop := 0x21 ≤ c.toNat ∧ c.toNat ≤ 0x7E

/-- The characters that numbers are written with are visible ASCII, and no underscores. -/
def IsNumeralChar (c : Char) : Prop := 0x21 ≤ c.toNat ∧ c.toNat ≤ 0x7E ∧ c.toNat ≠ 0x5F

instance : DecidablePred IsNumeralChar := fun _ => inferInstanceAs (Decidable (_ ∧ _))

theorem isDigit_iff {c : Char} : c.isDigit = true ↔ 48 ≤ c.toNat ∧ c.toNat ≤ 57 := by
  simp only [Char.isDigit, ge_iff_le, Bool.and_eq_true, decide_eq_true_eq]
  exact Iff.rfl

theorem isNumeralChar_of_isDigit {c : Char} (h : c.isDigit = true) : IsNumeralChar c := by
  have hrange := isDigit_iff.1 h
  unfold IsNumeralChar
  omega

/-- The characters that are digits of a base. -/
theorem isSome_digitIn?_iff {base : Nat} {c : Char} : (digitIn? base c).isSome = true ↔
    (48 ≤ c.toNat ∧ c.toNat ≤ 57 ∧ c.toNat < base + 48) ∨
      (97 ≤ c.toNat ∧ c.toNat ≤ 122 ∧ c.toNat < base + 87) ∨
        (65 ≤ c.toNat ∧ c.toNat ≤ 90 ∧ c.toNat < base + 55) := by
  have hrange (low high : Char) : (decide (low ≤ c) && decide (c ≤ high)) = true ↔
      low.toNat ≤ c.toNat ∧ c.toNat ≤ high.toNat := by
    rw [Bool.and_eq_true, decide_eq_true_eq, decide_eq_true_eq]
    exact Iff.rfl
  unfold digitIn?
  simp only [Option.isSome_filter, hrange, Char.reduceToNat]
  split
  · simp only [Option.any_some, decide_eq_true_eq]
    omega
  split
  · simp only [Option.any_some, decide_eq_true_eq]
    omega
  split
  · simp only [Option.any_some, decide_eq_true_eq]
    omega
  · simp only [Option.any_none, Bool.false_eq_true, false_iff]
    omega

theorem isNumeralChar_of_digitIn? {base : Nat} {c : Char} (h : (digitIn? base c).isSome = true) :
    IsNumeralChar c := by
  have hrange := isSome_digitIn?_iff.1 h
  unfold IsNumeralChar
  omega

theorem IsNumeralChar.isVisible {c : Char} (h : IsNumeralChar c) : IsVisible c := ⟨h.1, h.2.1⟩

theorem isBlankPoint_of_isVisible {c : Char} (h : IsVisible c) :
    isBlankPoint c.toNat = false := by
  obtain ⟨hlow, hhigh⟩ := h
  simp only [isBlankPoint, blankPoints, List.contains_eq_mem, List.mem_cons, List.not_mem_nil,
    or_false, decide_eq_false_iff_not]
  omega

theorem dropWhile_eq_self {α : Type} {p : α → Bool} {xs : List α} (h : ∀ x ∈ xs, p x = false) :
    xs.dropWhile p = xs := by
  cases xs with
  | nil => rfl
  | cons x rest => rw [List.dropWhile_cons_of_neg (by simp [h x List.mem_cons_self])]

theorem trim_ofChars {cs : List Char} (h : ∀ c ∈ cs, IsVisible c) :
    (Text.ofChars cs).trim = Text.ofChars cs := by
  have hall : ∀ p ∈ Text.ofChars cs, isBlankPoint p.val = false := by
    intro p hp
    obtain ⟨c, hc, rfl⟩ := List.mem_map.1 hp
    exact isBlankPoint_of_isVisible (h c hc)
  have hreverse : ∀ p ∈ (Text.ofChars cs).reverse, isBlankPoint p.val = false := by
    intro p hp
    exact hall p (List.mem_reverse.1 hp)
  rw [Text.trim, trimEnds, dropWhile_eq_self hall, dropWhile_eq_self hreverse, List.reverse_reverse]

theorem asciiSpelling_ofChars {cs : List Char} (h : ∀ c ∈ cs, IsVisible c) :
    asciiSpelling (Text.ofChars cs) = cs := by
  rw [asciiSpelling, Text.ofChars, List.map_map]
  refine (List.map_congr_left fun c hc => ?_).trans cs.map_id
  have hval : (CodePoint.ofChar c).val = c.toNat := rfl
  have hascii : c.toNat < 0x80 := by
    have hvisible := (h c hc).2
    omega
  simp [hval, hascii, Char.ofNat_toNat]

/-! ## The shape of a number -/

/-- The digits behind a point, with it. -/
inductive FractionShape : List Char → List Char → Prop where
  | none : FractionShape [] []
  | point {digits : List Char} : (∀ c ∈ digits, c.isDigit = true) →
      FractionShape ('.' :: digits) digits

/-- An exponent with its letter. -/
inductive ExponentShape : List Char → Prop where
  | none : ExponentShape []
  | some {letter : Char} {sign digits : List Char} : letter = 'e' ∨ letter = 'E' →
      sign = [] ∨ sign = ['+'] ∨ sign = ['-'] → digits ≠ [] → (∀ c ∈ digits, c.isDigit = true) →
      ExponentShape (letter :: (sign ++ digits))

/-- The letter of a base, behind a zero. -/
inductive BasePrefix : Char → Nat → Prop where
  | hex : BasePrefix 'x' 16
  | hexUpper : BasePrefix 'X' 16
  | octal : BasePrefix 'o' 8
  | octalUpper : BasePrefix 'O' 8
  | binary : BasePrefix 'b' 2
  | binaryUpper : BasePrefix 'B' 2

/-- How numbers are written. -/
inductive NumeralShape : List Char → Prop where
  | based {letter : Char} {base : Nat} {digits : List Char} : BasePrefix letter base →
      digits ≠ [] → (∀ c ∈ digits, (digitIn? base c).isSome = true) →
      NumeralShape ('0' :: letter :: digits)
  | decimal {whole fraction behind exponent : List Char} : (∀ c ∈ whole, c.isDigit = true) →
      FractionShape fraction behind → ExponentShape exponent → whole ++ behind ≠ [] →
      NumeralShape (whole ++ (fraction ++ exponent))

theorem NumeralShape.isNumeralChar {token : List Char} (h : NumeralShape token) :
    ∀ c ∈ token, IsNumeralChar c := by
  intro c hc
  cases h with
  | @based letter base digits hletter _ hdigits =>
    have hprefix : IsNumeralChar letter := by cases hletter <;> decide
    rcases List.mem_cons.1 hc with rfl | hc
    · decide
    rcases List.mem_cons.1 hc with rfl | hc
    · exact hprefix
    · exact isNumeralChar_of_digitIn? (hdigits c hc)
  | decimal hwhole hfraction hexponent _ =>
    rcases List.mem_append.1 hc with hc | hc
    · exact isNumeralChar_of_isDigit (hwhole c hc)
    rcases List.mem_append.1 hc with hc | hc
    · cases hfraction with
      | none => cases hc
      | point hdigits =>
        rcases List.mem_cons.1 hc with rfl | hc
        · decide
        · exact isNumeralChar_of_isDigit (hdigits c hc)
    · cases hexponent with
      | none => cases hc
      | some hletter hsign _ hdigits =>
        rcases List.mem_cons.1 hc with rfl | hc
        · rcases hletter with rfl | rfl <;> decide
        rcases List.mem_append.1 hc with hc | hc
        · rcases hsign with rfl | rfl | rfl
          · cases hc
          · rw [List.mem_singleton.1 hc]
            decide
          · rw [List.mem_singleton.1 hc]
            decide
        · exact isNumeralChar_of_isDigit (hdigits c hc)

/-! ## Reading a number -/

theorem groupedDigits?_isSome {base : Nat} {digits : List Char} (hne : digits ≠ [])
    (h : ∀ c ∈ digits, (digitIn? base c).isSome = true) :
    (groupedDigits? base digits).isSome = true := by
  fun_induction groupedDigits? base digits with
  | case1 => exact absurd rfl hne
  | case2 c => simpa using h c List.mem_cons_self
  | case3 c rest ih =>
    have hunderscore := isNumeralChar_of_digitIn? (h '_' (by simp))
    exact absurd hunderscore (by decide)
  | case4 c rest hlong hplain ih =>
    obtain ⟨hc, hrest⟩ := List.forall_mem_cons.1 h
    have hne : rest ≠ [] := fun hnil => hlong hnil
    obtain ⟨d, hd⟩ := Option.isSome_iff_exists.1 hc
    obtain ⟨ds, hds⟩ := Option.isSome_iff_exists.1 (ih hne hrest)
    simp [hd, hds]

theorem readInteger?_based {letter : Char} {base : Nat} {digits : List Char}
    (hletter : BasePrefix letter base) (hne : digits ≠ [])
    (h : ∀ c ∈ digits, (digitIn? base c).isSome = true) :
    (readInteger? ('0' :: letter :: digits)).isSome = true := by
  have hdigits : (prefixedDigits? base digits).isSome = true := by
    unfold prefixedDigits?
    split
    · exact absurd (isNumeralChar_of_digitIn? (h '_' List.mem_cons_self)) (by decide)
    · simpa using groupedDigits?_isSome hne h
  have hmagnitude : readMagnitude? ('0' :: letter :: digits) = prefixedDigits? base digits := by
    cases hletter <;> rfl
  obtain ⟨n, hn⟩ := Option.isSome_iff_exists.1 hdigits
  simp [readInteger?, splitSign, hmagnitude, hn]

theorem dropSeparators?_eq_some {cs : List Char} (h : '_' ∉ cs) (previous : Option Char) :
    dropSeparators? previous cs = some cs := by
  fun_induction dropSeparators? previous cs with
  | case1 => rfl
  | case2 => exact absurd List.mem_cons_self h
  | case3 => exact absurd List.mem_cons_self h
  | case4 previous c rest hplain ih => rw [ih fun hrest => h (List.mem_cons_of_mem _ hrest)]; rfl

theorem ExponentShape.head_not_digit {exponent : List Char} (h : ExponentShape exponent) :
    exponent.head?.any Char.isDigit = false := by
  cases h with
  | none => rfl
  | some hletter _ _ _ => rcases hletter with rfl | rfl <;> rfl

theorem takeWhile_append_of_head {α : Type} {p : α → Bool} {xs rest : List α}
    (hxs : ∀ x ∈ xs, p x = true) (hrest : rest.head?.any p = false) :
    (xs ++ rest).takeWhile p = xs := by
  rw [List.takeWhile_append_of_pos hxs]
  cases rest with
  | nil => simp
  | cons x rest => rw [List.takeWhile_cons_of_neg (by simpa using hrest), List.append_nil]

theorem takeWhile_digits {digits rest : List Char} (hdigits : ∀ c ∈ digits, c.isDigit = true)
    (hrest : rest.head?.any Char.isDigit = false) :
    (digits ++ rest).takeWhile Char.isDigit = digits :=
  takeWhile_append_of_head hdigits hrest

theorem dropWhile_digits {digits rest : List Char} (hdigits : ∀ c ∈ digits, c.isDigit = true)
    (hrest : rest.head?.any Char.isDigit = false) :
    (digits ++ rest).dropWhile Char.isDigit = rest := by
  rw [List.dropWhile_append_of_pos hdigits]
  cases rest with
  | nil => rfl
  | cons c rest => rw [List.dropWhile_cons_of_neg (by simpa using hrest)]

theorem splitSign_of_digit {cs : List Char} (h : cs.head?.any Char.isDigit = true) :
    splitSign cs = (false, cs) := by
  fun_cases splitSign cs with
  | case1 => cases h
  | case2 => cases h
  | case3 => rfl

theorem splitSign_signed {sign digits : List Char} (hsign : sign = [] ∨ sign = ['+'] ∨ sign = ['-'])
    (hne : digits ≠ []) (hdigits : ∀ c ∈ digits, c.isDigit = true) :
    (splitSign (sign ++ digits)).2 = digits := by
  rcases hsign with rfl | rfl | rfl
  · obtain ⟨c, rest, rfl⟩ := List.exists_cons_of_ne_nil hne
    rw [List.nil_append, splitSign_of_digit (by simpa using hdigits c List.mem_cons_self)]
  · rfl
  · rfl

theorem readDecimal?_isSome {whole fraction behind exponent : List Char} (negative : Bool)
    (hwhole : ∀ c ∈ whole, c.isDigit = true) (hfraction : FractionShape fraction behind)
    (hexponent : ExponentShape exponent) (hne : whole ++ behind ≠ []) :
    (readDecimal? negative (whole ++ (fraction ++ exponent))).isSome = true := by
  have hafter : (fraction ++ exponent).head?.any Char.isDigit = false := by
    cases hfraction with
    | none => exact hexponent.head_not_digit
    | point => rfl
  unfold readDecimal?
  simp only [takeWhile_digits hwhole hafter, dropWhile_digits hwhole hafter]
  cases hfraction with
  | none =>
    have hwhole_ne : whole ≠ [] := by simpa using hne
    cases hexponent with
    | none => simp [hwhole_ne]
    | some hletter hsign hdigits hall =>
      have hrest := splitSign_signed hsign hdigits hall
      rcases hletter with rfl | rfl <;> simpa [hwhole_ne, hrest, hdigits] using hall
  | point hbehind =>
    have hne' : ¬ (whole = [] ∧ behind = []) := by simpa using hne
    have htake := takeWhile_digits hbehind hexponent.head_not_digit
    have hdrop := dropWhile_digits hbehind hexponent.head_not_digit
    simp only [List.cons_append, htake, hdrop]
    cases hexponent with
    | none => simp [hne']
    | some hletter hsign hdigits hall =>
      have hrest := splitSign_signed hsign hdigits hall
      rcases hletter with rfl | rfl <;> simpa [hne', hrest, hdigits] using hall

/-- A decimal number starts with a digit or with a point, so neither with a sign nor with the
name of an infinity. -/
theorem decimal_head (exponent : List Char) {whole fraction behind : List Char}
    (hwhole : ∀ c ∈ whole, c.isDigit = true) (hfraction : FractionShape fraction behind)
    (hne : whole ++ behind ≠ []) :
    ∃ c rest, whole ++ (fraction ++ exponent) = c :: rest ∧ (c.isDigit = true ∨ c = '.') := by
  cases whole with
  | cons c rest => exact ⟨c, _, rfl, .inl (hwhole c List.mem_cons_self)⟩
  | nil =>
    cases hfraction with
    | none => exact absurd rfl hne
    | point => exact ⟨'.', _, rfl, .inr rfl⟩

theorem toLower_of_lt {c : Char} (h : c.toNat < 65) : c.toLower = c := by
  have hnot : ¬ (c.val ≥ 'A'.val ∧ c.val ≤ 'Z'.val) := by
    rintro ⟨hge, -⟩
    have hge' : 65 ≤ c.toNat := hge
    omega
  unfold Char.toLower
  exact dif_neg hnot

/-- A text that does not start with a letter is no name. -/
theorem ofList_asciiLower_ne {c : Char} (rest : List Char) {name : String}
    (hc : c.toNat < 65) (hname : name.toList.head?.any (fun d => 65 ≤ d.toNat) = true) :
    String.ofList (asciiLower (c :: rest)) ≠ name := by
  rintro rfl
  simp only [String.toList_ofList, asciiLower, List.map_cons, List.head?_cons, Option.any_some,
    toLower_of_lt hc, decide_eq_true_eq] at hname
  omega

theorem splitSign_of_plain {c : Char} (rest : List Char) (hc : c.isDigit = true ∨ c = '.') :
    splitSign (c :: rest) = (false, c :: rest) := by
  rcases hc with hdigit | rfl
  · exact splitSign_of_digit (by simpa using hdigit)
  · rfl

/-- A text that starts with a digit or with a point is read as a decimal fraction or not at all. -/
theorem readFloat?_of_plain {text rest : List Char} {c : Char}
    (hplain : dropSeparators? none text = some (c :: rest)) (hc : c.isDigit = true ∨ c = '.') :
    readFloat? text = readDecimal? false (c :: rest) := by
  have hlow : c.toNat < 65 := by
    rcases hc with hdigit | rfl
    · have hrange := isDigit_iff.1 hdigit
      omega
    · decide
  have hinf : String.ofList (asciiLower (c :: rest)) ≠ "inf" :=
    ofList_asciiLower_ne rest hlow (by decide)
  have hinfinity : String.ofList (asciiLower (c :: rest)) ≠ "infinity" :=
    ofList_asciiLower_ne rest hlow (by decide)
  have hnan : String.ofList (asciiLower (c :: rest)) ≠ "nan" :=
    ofList_asciiLower_ne rest hlow (by decide)
  simp [readFloat?, hplain, splitSign_of_plain rest hc, hinf, hinfinity, hnan]

theorem readFloat?_decimal {whole fraction behind exponent : List Char}
    (hwhole : ∀ c ∈ whole, c.isDigit = true) (hfraction : FractionShape fraction behind)
    (hexponent : ExponentShape exponent) (hne : whole ++ behind ≠ []) :
    (readFloat? (whole ++ (fraction ++ exponent))).isSome = true := by
  have hshape := NumeralShape.decimal hwhole hfraction hexponent hne
  have hunderscore : '_' ∉ whole ++ (fraction ++ exponent) :=
    fun hmem => absurd (hshape.isNumeralChar '_' hmem) (by decide)
  have hdecimal := readDecimal?_isSome false hwhole hfraction hexponent hne
  obtain ⟨c, rest, htoken, hc⟩ := decimal_head exponent hwhole hfraction hne
  rw [htoken] at hdecimal hunderscore ⊢
  rwa [readFloat?_of_plain (dropSeparators?_eq_some hunderscore none) hc]

/-- Text that has the shape of a number is read as one. -/
theorem isNumber_readNumber {token : List Char} (h : NumeralShape token) :
    (readNumber (Text.ofChars token)).isNumber = true := by
  have hchars : ∀ c ∈ token, IsVisible c := fun c hc => (h.isNumeralChar c hc).isVisible
  simp only [readNumber, trim_ofChars hchars, asciiSpelling_ofChars hchars]
  cases hinteger : readInteger? token with
  | some n => rfl
  | none =>
    have hfloat : (readFloat? token).isSome = true := by
      cases h with
      | based hletter hne hdigits =>
        have hread := readInteger?_based hletter hne hdigits
        rw [hinteger] at hread
        cases hread
      | decimal hwhole hfraction hexponent hne =>
        exact readFloat?_decimal hwhole hfraction hexponent hne
    obtain ⟨x, hx⟩ := Option.isSome_iff_exists.1 hfloat
    rw [hx]
    rfl

/-! ## Scanning a number -/

namespace Estree

/-- Where the lexer expects a number: at a digit, or at a point with a digit behind it. -/
def StartsNumber (cs : List Char) : Prop :=
  cs.head?.any Char.isDigit = true ∨ ∃ rest, cs = '.' :: rest ∧ rest.head?.any Char.isDigit = true

theorem forall_mem_takeWhile {α : Type} (p : α → Bool) (xs : List α) :
    ∀ x ∈ xs.takeWhile p, p x = true := List.all_eq_true.1 List.all_takeWhile

theorem append_prefix_of_drop {α : Type} {first second whole : List α} (hfirst : first <+: whole)
    (hsecond : second <+: whole.drop first.length) : first ++ second <+: whole := by
  obtain ⟨rest, rfl⟩ := hfirst
  rw [List.drop_left] at hsecond
  exact (List.prefix_append_right_inj first).2 hsecond

theorem isDigit_of_digitIn? {base : Nat} {c : Char} (hbase : base ≤ 10)
    (h : (digitIn? base c).isSome = true) : c.isDigit = true := by
  have hrange := isSome_digitIn?_iff.1 h
  rw [isDigit_iff]
  omega

theorem scanBased_ok {base prefixed : Nat} {digitsToo : Bool} {rest : List Char} {numeral : Numeral}
    (h : scanBased base digitsToo prefixed rest = .ok numeral) :
    ∃ digits, digits ≠ [] ∧ (∀ c ∈ digits, (digitIn? base c).isSome = true) ∧ digits <+: rest ∧
      numeral.taken = prefixed + digits.length := by
  unfold scanBased at h
  simp only at h
  split at h
  · cases h
  · next hne =>
    split at h
    · cases h
      exact ⟨_, by simpa using hne, forall_mem_takeWhile _ _, List.takeWhile_prefix _, rfl⟩
    · cases h

theorem sign_cases (cs : List Char) (p : Char → Bool) (h : ∀ c, p c = true → c = '+' ∨ c = '-') :
    (cs.takeWhile p).take 1 = [] ∨ (cs.takeWhile p).take 1 = ['+'] ∨
      (cs.takeWhile p).take 1 = ['-'] := by
  cases htaken : cs.takeWhile p with
  | nil => exact .inl rfl
  | cons c rest =>
    have hc := h c (forall_mem_takeWhile p cs c (by simp [htaken]))
    rcases hc with rfl | rfl
    · exact .inr (.inl rfl)
    · exact .inr (.inr rfl)

theorem scanExponent_ok {rest exponent : List Char} (h : scanExponent rest = .ok exponent) :
    ExponentShape exponent ∧ exponent <+: rest := by
  unfold scanExponent at h
  split at h
  · next e more =>
    split at h
    · next hletter =>
      simp only at h
      split at h
      · cases h
      · next hne =>
        cases h
        have hsign := (List.take_prefix 1 _).trans
          (List.takeWhile_prefix (l := more) fun c => c == '+' || c == '-')
        refine ⟨.some hletter (sign_cases more _ (by simp)) (by simpa using hne)
          (forall_mem_takeWhile _ _), ?_⟩
        exact List.cons_prefix_cons.2 ⟨rfl, append_prefix_of_drop hsign (List.takeWhile_prefix _)⟩
    · cases h
      exact ⟨.none, List.nil_prefix⟩
  · cases h
    exact ⟨.none, List.nil_prefix⟩

/-- A number starts with digits, or with a point that digits follow. -/
theorem StartsNumber.digits {cs : List Char} (h : StartsNumber cs) :
    cs.takeWhile Char.isDigit ≠ [] ∨
      ∃ rest, cs = '.' :: rest ∧ rest.takeWhile Char.isDigit ≠ [] := by
  have hdigits : ∀ {cs : List Char}, cs.head?.any Char.isDigit = true →
      cs.takeWhile Char.isDigit ≠ [] := by
    intro cs hhead
    cases cs with
    | nil => cases hhead
    | cons c rest => simp [List.takeWhile_cons_of_pos (show c.isDigit = true from hhead)]
  rcases h with hhead | ⟨rest, rfl, hhead⟩
  · exact .inl (hdigits hhead)
  · exact .inr ⟨rest, rfl, hdigits hhead⟩

/-- Digits, a fraction and an exponent that stand behind each other are a number. -/
theorem numeralShape_of_parts {cs fraction behind exponent : List Char}
    (hfraction : FractionShape fraction behind)
    (hstands : fraction <+: cs.drop (cs.takeWhile Char.isDigit).length)
    (hne : cs.takeWhile Char.isDigit ++ behind ≠ [])
    (hscan : scanExponent ((cs.drop (cs.takeWhile Char.isDigit).length).drop fraction.length) =
      .ok exponent) :
    NumeralShape (cs.take (cs.takeWhile Char.isDigit ++ fraction ++ exponent).length) := by
  obtain ⟨hexponent, hexponentPrefix⟩ := scanExponent_ok hscan
  have hwritten := append_prefix_of_drop (List.takeWhile_prefix Char.isDigit)
    (append_prefix_of_drop hstands hexponentPrefix)
  rw [List.append_assoc, ← List.prefix_iff_eq_take.1 hwritten]
  exact .decimal (forall_mem_takeWhile _ _) hfraction hexponent hne

theorem numeralShape_of_scanDecimal {cs : List Char} {numeral : Numeral}
    (hstart : StartsNumber cs) (h : scanDecimal cs = .ok numeral) :
    NumeralShape (cs.take numeral.taken) := by
  unfold scanDecimal at h
  simp only at h
  -- Either a point stands behind the digits or none; in both cases the exponent has been scanned.
  split at h
  all_goals
    simp only [bind, Except.bind] at h
    split at h
    · cases h
  · next more hmore _ _ hscan =>
    have hpoint : '.' :: more.takeWhile Char.isDigit <+:
        cs.drop (cs.takeWhile Char.isDigit).length := by
      rw [hmore]
      exact List.cons_prefix_cons.2 ⟨rfl, List.takeWhile_prefix _⟩
    split at h
    · cases h
      refine numeralShape_of_parts (.point (forall_mem_takeWhile _ more)) hpoint ?_ hscan
      rcases hstart.digits with hwhole | ⟨rest, rfl, hrest⟩
      · simp [hwhole]
      · cases hmore
        simp [hrest]
    · cases h
  · next hnopoint _ _ hscan =>
    split at h
    · cases h
      refine numeralShape_of_parts .none List.nil_prefix ?_ hscan
      rcases hstart.digits with hwhole | ⟨rest, rfl, -⟩
      · simpa using hwhole
      · exact absurd rfl (hnopoint rest)
    · cases h

theorem numeralShape_of_scanBased {letter : Char} {base : Nat} {digitsToo : Bool}
    {rest : List Char} {numeral : Numeral} (hletter : BasePrefix letter base)
    (h : scanBased base digitsToo 2 rest = .ok numeral) :
    NumeralShape (('0' :: letter :: rest).take numeral.taken) := by
  obtain ⟨digits, hne, hdigits, hprefix, htaken⟩ := scanBased_ok h
  rw [htaken, Nat.add_comm, List.take_succ_cons, List.take_succ_cons,
    ← List.prefix_iff_eq_take.1 hprefix]
  exact .based hletter hne hdigits

/-- Octal digits behind a bare zero are decimal digits as well, and are read again as such. -/
theorem numeralShape_of_legacyOctal {rest : List Char} {numeral : Numeral}
    (h : scanBased 8 true 1 rest = .ok numeral) :
    NumeralShape (('0' :: rest).take numeral.taken) := by
  obtain ⟨digits, -, hdigits, hprefix, htaken⟩ := scanBased_ok h
  rw [htaken, Nat.add_comm, List.take_succ_cons, ← List.prefix_iff_eq_take.1 hprefix]
  have hzero : ∀ d ∈ '0' :: digits, d.isDigit = true :=
    List.forall_mem_cons.2 ⟨rfl, fun d hd => isDigit_of_digitIn? (by decide) (hdigits d hd)⟩
  simpa using NumeralShape.decimal hzero .none .none (by simp)

/-- What the scanner takes for a number has the shape of one. -/
theorem numeralShape_of_scanNumeral {cs : List Char} {numeral : Numeral} (hstart : StartsNumber cs)
    (h : scanNumeral cs = .ok numeral) : NumeralShape (cs.take numeral.taken) := by
  unfold scanNumeral at h
  split at h
  · exact numeralShape_of_scanBased .hex h
  · exact numeralShape_of_scanBased .hexUpper h
  · exact numeralShape_of_scanBased .binary h
  · exact numeralShape_of_scanBased .binaryUpper h
  · exact numeralShape_of_scanBased .octal h
  · exact numeralShape_of_scanBased .octalUpper h
  · next c rest _ _ _ _ _ _ =>
    split at h
    · cases hscan : scanBased 8 true 1 (c :: rest) with
      | error fault =>
        rw [hscan] at h
        cases h
      | ok scanned =>
        rw [hscan] at h
        cases h
        have hshape := numeralShape_of_legacyOctal hscan
        exact hshape
    · exact numeralShape_of_scanDecimal hstart h
  · exact numeralShape_of_scanDecimal hstart h

/-! ### Values -/

theorem isNumber_decimalValue (written : List Char) : (decimalValue written).isNumber = true := by
  unfold decimalValue
  split
  · rfl
  · split <;> rfl

theorem isNumber_of_scanBased {base prefixed : Nat} {digitsToo : Bool} {rest : List Char}
    {numeral : Numeral} (h : scanBased base digitsToo prefixed rest = .ok numeral) :
    numeral.value.isNumber = true := by
  simp only [scanBased] at h
  split at h
  · cases h
  · split at h
    · cases h
      rfl
    · cases h

theorem isNumber_of_scanDecimal {cs : List Char} {numeral : Numeral}
    (h : scanDecimal cs = .ok numeral) : numeral.value.isNumber = true := by
  unfold scanDecimal at h
  simp only at h
  split at h
  all_goals
    simp only [bind, Except.bind] at h
    split at h
    · cases h
    · split at h
      · cases h
        exact isNumber_decimalValue _
      · cases h

/-- The value of what is scanned is a number. -/
theorem isNumber_of_scanNumeral {cs : List Char} {numeral : Numeral}
    (h : scanNumeral cs = .ok numeral) : numeral.value.isNumber = true := by
  unfold scanNumeral at h
  split at h
  iterate 6 exact isNumber_of_scanBased h
  · next c rest _ _ _ _ _ _ =>
    split at h
    · cases hscan : scanBased 8 true 1 (c :: rest) with
      | error fault =>
        rw [hscan] at h
        cases h
      | ok scanned =>
        have hnumber := isNumber_of_scanBased hscan
        rw [hscan] at h
        cases h
        exact hnumber
    · exact isNumber_of_scanDecimal h
  · exact isNumber_of_scanDecimal h

end Estree

end EndpointCatalog
