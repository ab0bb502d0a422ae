/-
EndpointCatalog.Proofs.Literal.Spelling — numbers that are written and read
back.

* `Spelling n`: the ways to write a natural number in decimal digits or
  behind the prefix of a base, with zeros in front there, in either case and
  with single underscores between digits.
* `DecimalFraction`: decimal numbers with a point or an exponent.

`numerals_read_back`: whatever blanks stand around it, the spelling of a number
is read as this number, if it is not a decimal one that is too long. With the
suffix of big integers behind it, it is kept as text; and a fraction is never
an integer.

The readers try one after the other, so the last two are about what the
integer reader refuses: a letter that is no digit, wherever it stands
(`readInteger?_of_suffix`), and a point or an exponent.
-/
import EndpointCatalog.Proofs.Literal.Integer
import Mathlib.Data.List.Forall2
import Mathlib.Tactic.IntervalCases

namespace EndpointCatalog

variable {base n : Nat} {digits text : List Char} {ds : List Nat}

/-! ## Spellings -/

/-- Characters, and the same ones with single underscores between some of the digits. -/
inductive Separated (base : Nat) : List Char → List Char → Prop where
  | nil : Separated base [] []
  | next (c : Char) {plain text : List Char} : Separated base plain text →
      Separated base (c :: plain) (c :: text)
  | separated {c d : Char} {plain text : List Char} : (digitIn? base c).isSome = true →
      (digitIn? base d).isSome = true → Separated base (d :: plain) (d :: text) →
      Separated base (c :: d :: plain) (c :: '_' :: d :: text)

/-- How a natural number is written. -/
inductive Spelling (n : Nat) : List Char → Prop where
  | decimal {text : List Char} : Separated 10 (Nat.toDigits 10 n) text → Spelling n text
  | based {letter : Char} {base : Nat} {digits text : List Char} (zeros : Nat) :
      BasePrefix letter base → digits.map Char.toLower = Nat.toDigits base n →
      Separated base (List.replicate zeros '0' ++ digits) text → Spelling n ('0' :: letter :: text)

/-- A decimal number with a point or an exponent. -/
inductive DecimalFraction : List Char → Prop where
  | mk {whole fraction behind exponent text : List Char} : (∀ c ∈ whole, c.isDigit = true) →
      FractionShape fraction behind → ExponentShape exponent → whole ++ behind ≠ [] →
      fraction ++ exponent ≠ [] → Separated 10 (whole ++ (fraction ++ exponent)) text →
      DecimalFraction text

/-- Whether a spelling of a number is short enough to be read as an integer: one behind the prefix
of a base always is. -/
def FitsInteger (n : Nat) (text : List Char) : Prop :=
  isBased text = true ∨ (Nat.toDigits 10 n).length ≤ longestInteger

/-- The letter behind a big integer. -/
def bigSuffix : Char := 'n'

/-! ## Digits of a number -/

/-- Digits have values. -/
def HaveValues (base : Nat) : List Char → List Nat → Prop :=
  List.Forall₂ fun c d => digitIn? base c = some d

theorem digitGroup_of_separated (h : Separated base digits text) (hne : digits ≠ []) :
    ∀ {ds : List Nat}, HaveValues base digits ds → DigitGroup base text ds := by
  induction h with
  | nil => exact absurd rfl hne
  | next c htext ih =>
    rintro _ (_ | ⟨hc, hrest⟩)
    cases htext with
    | nil =>
      cases hrest
      exact .last hc
    | next | separated => exact .digit hc (ih (by simp) hrest)
  | separated _ _ _ ih =>
    rintro _ (_ | ⟨hc, hrest⟩)
    exact .separated hc (ih (by simp) hrest)

theorem placeValue_append_singleton (base : Nat) (ds : List Nat) (d : Nat) :
    placeValue base (ds ++ [d]) = placeValue base ds * base + d := by
  rw [← ofDigits_eq_placeValue, ← ofDigits_eq_placeValue, ofDigits, List.foldl_append]
  rfl

theorem placeValue_replicate_append (base zeros : Nat) (ds : List Nat) :
    placeValue base (List.replicate zeros 0 ++ ds) = placeValue base ds := by
  induction zeros with
  | zero => rfl
  | succ zeros ih => rw [List.replicate_succ, List.cons_append, placeValue_cons_zero, ih]

/-- The digits of a number stand for it, and a zero in front stands for zero. -/
theorem exists_haveValues_toDigits (hbase : 1 < base) (hle : base ≤ 16) (n : Nat) :
    ∃ ds, HaveValues base (Nat.toDigits base n) ds ∧ placeValue base ds = n ∧
      (ds.head? = some 0 → ds = [0]) := by
  induction n using Nat.strong_induction_on with
  | h n ih =>
    by_cases hn : n < base
    · refine ⟨[n], ?_, by simp [placeValue], by simp⟩
      rw [Nat.toDigits_of_lt_base hn]
      exact .cons (digitIn?_digitChar hle hn) .nil
    · have hn : base ≤ n := Nat.le_of_not_lt hn
      have hmod : n % base < base := Nat.mod_lt n (by omega)
      obtain ⟨ds, hvalues, hplace, hhead⟩ := ih (n / base) (Nat.div_lt_self (by omega) hbase)
      refine ⟨ds ++ [n % base], ?_, ?_, fun hzero => ?_⟩
      · rw [Nat.toDigits_of_base_le hbase hn]
        exact List.rel_append hvalues (.cons (digitIn?_digitChar hle hmod) .nil)
      · rw [placeValue_append_singleton, hplace, Nat.mul_comm, Nat.div_add_mod]
      · have hpos : 0 < n / base := Nat.div_pos hn (by omega)
        exfalso
        cases ds with
        | nil => exact absurd (List.forall₂_nil_right_iff.1 hvalues) Nat.toDigits_ne_nil
        | cons first others =>
          have hds : first :: others = [0] := hhead (by simpa using hzero)
          rw [hds] at hplace
          simp [placeValue] at hplace
          omega

/-- Digits are the same in either case. -/
theorem digitIn?_toLower (base : Nat) (c : Char) : digitIn? base c.toLower = digitIn? base c := by
  by_cases hupper : 65 ≤ c.toNat ∧ c.toNat ≤ 90
  · obtain ⟨k, hk, rfl⟩ : ∃ k < 26, Char.ofNat (65 + k) = c := by
      refine ⟨c.toNat - 65, by omega, ?_⟩
      rw [Nat.add_sub_cancel' hupper.1, Char.ofNat_toNat]
    interval_cases k <;> rfl
  · have hsame : c.toLower = c := dif_neg hupper
    rw [hsame]

theorem haveValues_of_map_toLower (h : HaveValues base (digits.map Char.toLower) ds) :
    HaveValues base digits ds := by
  refine (List.forall₂_map_left_iff.1 h).imp fun c d hc => ?_
  rwa [digitIn?_toLower] at hc

theorem BasePrefix.one_lt_and_le {letter : Char} (h : BasePrefix letter base) :
    1 < base ∧ base ≤ 16 := by
  cases h <;> decide

/-- A decimal spelling is a group of as many digits as the number has. -/
theorem exists_digitGroup_decimal (h : Separated 10 (Nat.toDigits 10 n) text) :
    ∃ ds, DigitGroup 10 text ds ∧ placeValue 10 ds = n ∧
      ds.length = (Nat.toDigits 10 n).length ∧ (ds.head? = some 0 → ds = [0]) := by
  obtain ⟨ds, hvalues, hplace, hhead⟩ :=
    exists_haveValues_toDigits (show 1 < 10 by decide) (by decide) n
  exact ⟨ds, digitGroup_of_separated h Nat.toDigits_ne_nil hvalues, hplace,
    hvalues.length_eq.symm, hhead⟩

/-- A spelling in a base is a group of digits that stand for the number, whatever zeros are in
front. -/
theorem exists_digitGroup_based {letter : Char} {zeros : Nat} (hletter : BasePrefix letter base)
    (hdigits : digits.map Char.toLower = Nat.toDigits base n)
    (h : Separated base (List.replicate zeros '0' ++ digits) text) :
    ∃ ds, DigitGroup base text ds ∧ placeValue base ds = n := by
  obtain ⟨hbase, hle⟩ := hletter.one_lt_and_le
  obtain ⟨ds, hvalues, hplace, -⟩ := exists_haveValues_toDigits hbase hle n
  have hzero : digitIn? base '0' = some 0 := by cases hletter <;> rfl
  have hzeros : ∀ k, HaveValues base (List.replicate k '0') (List.replicate k 0) := by
    intro k
    induction k with
    | zero => exact .nil
    | succ k ih => exact .cons hzero ih
  have hne : List.replicate zeros '0' ++ digits ≠ [] := by
    rintro hnil
    rw [(List.append_eq_nil_iff.1 hnil).2] at hdigits
    exact Nat.toDigits_ne_nil hdigits.symm
  have hall : HaveValues base (List.replicate zeros '0' ++ digits)
      (List.replicate zeros 0 ++ ds) :=
    List.rel_append (hzeros zeros) (haveValues_of_map_toLower (hdigits ▸ hvalues))
  exact ⟨_, digitGroup_of_separated h hne hall, by rw [placeValue_replicate_append, hplace]⟩

namespace Spelling

/-- The spelling of a number is read as it exactly if it is short enough; a number that is not
becomes a double. -/
theorem readNumber_eq_int_iff (h : Spelling n text) :
    readNumber (Text.ofChars text) = .int n ↔ FitsInteger n text := by
  cases h with
  | decimal htext =>
    obtain ⟨ds, hgroup, hplace, hlength, hhead⟩ := exists_digitGroup_decimal htext
    have hkeeps : KeepsDecimal ds ↔ (Nat.toDigits 10 n).length ≤ longestInteger := by
      rw [KeepsDecimal, hlength]
      refine and_iff_left fun hzero => ?_
      rw [hhead hzero]
      simp
    rw [hgroup.readNumber_eq, hplace, FitsInteger, hgroup.isBased_eq, ← hkeeps]
    split <;> simp_all
  | based zeros hletter hdigits htext =>
    obtain ⟨ds, hgroup, hplace⟩ := exists_digitGroup_based hletter hdigits htext
    rw [readNumber_based hletter hgroup, hplace]
    exact iff_of_true rfl (.inl (isBased_of_basePrefix hletter))

/-- Spellings start with a digit. -/
theorem head_isDigit (h : Spelling n text) : text.head?.any Char.isDigit = true := by
  cases h with
  | decimal htext =>
    obtain ⟨ds, hgroup, -⟩ := exists_digitGroup_decimal htext
    exact hgroup.head_isDigit
  | based => rfl

theorem ne_nil (h : Spelling n text) : text ≠ [] := by
  rintro rfl
  cases h.head_isDigit

theorem isVisible (h : Spelling n text) : ∀ c ∈ text, IsVisible c := by
  cases h with
  | decimal htext =>
    obtain ⟨ds, hgroup, -⟩ := exists_digitGroup_decimal htext
    exact hgroup.isVisible
  | based zeros hletter hdigits htext =>
    obtain ⟨ds, hgroup, -⟩ := exists_digitGroup_based hletter hdigits htext
    refine List.forall_mem_cons.2 ⟨⟨by decide, by decide⟩, List.forall_mem_cons.2 ⟨?_, ?_⟩⟩
    · cases hletter <;> exact ⟨by decide, by decide⟩
    · exact hgroup.isVisible

end Spelling

/-! ## Blanks around -/

/-- A text of blanks only. -/
def IsBlankText (t : Text) : Prop := ∀ p ∈ t, isBlankPoint p.val = true

instance : DecidablePred IsBlankText := fun t => List.decidableBAll _ t

/-- What is at the ends is trimmed off, and nothing else is. -/
theorem trimEnds_surrounded {α : Type} {p : α → Bool} {before core after : List α}
    (hbefore : ∀ x ∈ before, p x = true) (hafter : ∀ x ∈ after, p x = true)
    (hfirst : core.head?.any (fun x => !p x) = true)
    (hlast : core.getLast?.any (fun x => !p x) = true) :
    trimEnds p (before ++ core ++ after) = core := by
  have hreverse : ∀ x ∈ after.reverse, p x = true := fun x hx => hafter x (List.mem_reverse.1 hx)
  have hdrop : ∀ xs : List α, xs.head?.any (fun x => !p x) = true →
      ∀ rest : List α, (xs ++ rest).dropWhile p = xs ++ rest := by
    intro xs hxs rest
    cases xs with
    | nil => cases hxs
    | cons x xs => exact List.dropWhile_cons_of_neg (by simpa using hxs)
  rw [trimEnds, List.append_assoc, List.dropWhile_append_of_pos hbefore,
    hdrop core hfirst, List.reverse_append, List.dropWhile_append_of_pos hreverse]
  have hrest := hdrop core.reverse (by rwa [List.head?_reverse]) []
  rw [List.append_nil] at hrest
  rw [hrest, List.reverse_reverse]

/-- What holds of all of a list holds of its ends. -/
theorem any_ends {α : Type} {p : α → Bool} {xs : List α} (hne : xs ≠ [])
    (h : ∀ x ∈ xs, p x = true) : xs.head?.any p = true ∧ xs.getLast?.any p = true := by
  rw [List.head?_eq_some_head hne, List.getLast?_eq_some_getLast hne, Option.any_some,
    Option.any_some]
  exact ⟨h _ (List.head_mem hne), h _ (List.getLast_mem hne)⟩

theorem trim_surrounded {before core after : Text} (hbefore : IsBlankText before)
    (hafter : IsBlankText after) (hfirst : core.head?.any (fun p => !isBlankPoint p.val) = true)
    (hlast : core.getLast?.any (fun p => !isBlankPoint p.val) = true) :
    (before ++ core ++ after).trim = core :=
  trimEnds_surrounded hbefore hafter hfirst hlast

/-- Blanks around a text do not change what it is read as. -/
theorem readNumber_surrounded {before core after : Text} (hbefore : IsBlankText before)
    (hafter : IsBlankText after) (hfirst : core.head?.any (fun p => !isBlankPoint p.val) = true)
    (hlast : core.getLast?.any (fun p => !isBlankPoint p.val) = true) :
    readNumber (before ++ core ++ after) = readNumber core := by
  have hcore : core.trim = core := by
    have hnone : IsBlankText [] := nofun
    simpa using trim_surrounded hnone hnone hfirst hlast
  simp only [readNumber, trim_surrounded hbefore hafter hfirst hlast, hcore]

/-- Visible characters are no blanks. -/
theorem readNumber_surrounded_ofChars {before after : Text} (hbefore : IsBlankText before)
    (hafter : IsBlankText after) (hne : text ≠ []) (htext : ∀ c ∈ text, IsVisible c) :
    readNumber (before ++ Text.ofChars text ++ after) = readNumber (Text.ofChars text) := by
  have hall : ∀ p ∈ Text.ofChars text, (!isBlankPoint p.val) = true := by
    intro p hp
    obtain ⟨c, hc, rfl⟩ := List.mem_map.1 hp
    have hplain : isBlankPoint (CodePoint.ofChar c).val = false :=
      isBlankPoint_of_isVisible (htext c hc)
    rw [hplain, Bool.not_false]
  have hne : Text.ofChars text ≠ [] := by simpa [Text.ofChars] using hne
  obtain ⟨hfirst, hlast⟩ := any_ends hne hall
  exact readNumber_surrounded hbefore hafter hfirst hlast

/-! ## What is no integer -/

theorem groupedDigits?_mem (h : groupedDigits? base text = some ds) :
    ∀ c ∈ text, c = '_' ∨ (digitIn? base c).isSome = true := by
  fun_induction groupedDigits? base text generalizing ds with
  | case1 => cases h
  | case2 c =>
    obtain ⟨d, hd, -⟩ := Option.map_eq_some_iff.1 h
    simp [hd]
  | case3 c rest ih =>
    obtain ⟨d, hd, hrest⟩ := Option.bind_eq_some_iff.1 h
    obtain ⟨ds, hds, -⟩ := Option.bind_eq_some_iff.1 hrest
    exact List.forall_mem_cons.2 ⟨.inr (by simp [hd]), List.forall_mem_cons.2 ⟨.inl rfl, ih hds⟩⟩
  | case4 c rest _ _ ih =>
    obtain ⟨d, hd, hrest⟩ := Option.bind_eq_some_iff.1 h
    obtain ⟨ds, hds, -⟩ := Option.bind_eq_some_iff.1 hrest
    exact List.forall_mem_cons.2 ⟨.inr (by simp [hd]), ih hds⟩

theorem prefixedDigits?_mem (h : prefixedDigits? base text = some n) :
    ∀ c ∈ text, c = '_' ∨ (digitIn? base c).isSome = true := by
  unfold prefixedDigits? at h
  split at h
  · obtain ⟨ds, hds, -⟩ := Option.map_eq_some_iff.1 h
    exact List.forall_mem_cons.2 ⟨.inl rfl, groupedDigits?_mem hds⟩
  · obtain ⟨ds, hds, -⟩ := Option.map_eq_some_iff.1 h
    exact groupedDigits?_mem hds

/-- What is read as an integer consists of digits and separators, behind the prefix of a base or
without one. -/
theorem readMagnitude?_cases (h : readMagnitude? text = some n) :
    (∃ letter base digits, text = '0' :: letter :: digits ∧ BasePrefix letter base ∧
        ∀ c ∈ digits, c = '_' ∨ (digitIn? base c).isSome = true) ∨
      ∀ c ∈ text, c = '_' ∨ (digitIn? 10 c).isSome = true := by
  unfold readMagnitude? at h
  split at h
  · exact .inl ⟨_, _, _, rfl, .hex, prefixedDigits?_mem h⟩
  · exact .inl ⟨_, _, _, rfl, .hexUpper, prefixedDigits?_mem h⟩
  · exact .inl ⟨_, _, _, rfl, .octal, prefixedDigits?_mem h⟩
  · exact .inl ⟨_, _, _, rfl, .octalUpper, prefixedDigits?_mem h⟩
  · exact .inl ⟨_, _, _, rfl, .binary, prefixedDigits?_mem h⟩
  · exact .inl ⟨_, _, _, rfl, .binaryUpper, prefixedDigits?_mem h⟩
  · obtain ⟨ds, hds, -⟩ := Option.bind_eq_some_iff.1 h
    exact .inr (groupedDigits?_mem hds)

/-- The suffix of a big integer is a digit in no base. -/
theorem digitIn?_bigSuffix (hbase : base ≤ 16) : digitIn? base bigSuffix = none := by
  refine Option.not_isSome_iff_eq_none.1 fun hdigit => ?_
  have hrange := isSome_digitIn?_iff.1 hdigit
  simp only [bigSuffix, Char.reduceToNat] at hrange
  omega

/-- No integer is read where the suffix of a big integer stands. -/
theorem readMagnitude?_of_suffix (h : bigSuffix ∈ text) : readMagnitude? text = none := by
  have hplain : ∀ {base}, base ≤ 16 →
      ¬ (bigSuffix = '_' ∨ (digitIn? base bigSuffix).isSome = true) := by
    intro base hbase
    rw [digitIn?_bigSuffix hbase]
    decide
  refine Option.eq_none_iff_forall_ne_some.2 fun n hn => ?_
  rcases readMagnitude?_cases hn with ⟨letter, base, digits, rfl, hletter, hdigits⟩ | hdigits
  · have hne : bigSuffix ≠ letter := by cases hletter <;> decide
    have hmem : bigSuffix ∈ digits := by
      simpa [hne, show bigSuffix ≠ '0' by decide] using h
    exact hplain hletter.one_lt_and_le.2 (hdigits bigSuffix hmem)
  · exact hplain (by decide) (hdigits bigSuffix h)

theorem readInteger?_of_suffix (h : bigSuffix ∈ text)
    (hstart : text.head?.any Char.isDigit = true) : readInteger? text = none := by
  simp [readInteger?, splitSign_of_digit hstart, readMagnitude?_of_suffix h]

/-! ## What is no fraction either -/

/-- Without their separators, texts keep all other characters and the first one. -/
theorem dropSeparators?_keeps {previous : Option Char} {plain : List Char}
    (h : dropSeparators? previous text = some plain) :
    (∀ c ∈ text, c ≠ '_' → c ∈ plain) ∧ (text.head? ≠ some '_' → plain.head? = text.head?) := by
  fun_induction dropSeparators? previous text generalizing plain with
  | case1 =>
    cases h
    exact ⟨List.forall_mem_nil _, fun _ => rfl⟩
  | case2 previous rest _ ih =>
    refine ⟨List.forall_mem_cons.2 ⟨fun hne => absurd rfl hne, (ih h).1⟩, fun hne => ?_⟩
    exact absurd rfl hne
  | case3 => cases h
  | case4 previous c rest _ ih =>
    obtain ⟨more, hmore, rfl⟩ := Option.map_eq_some_iff.1 h
    refine ⟨List.forall_mem_cons.2 ⟨fun _ => List.mem_cons_self, fun d hd hne => ?_⟩, fun _ => rfl⟩
    exact List.mem_cons_of_mem c ((ih hmore).1 d hd hne)

/-- The characters that fractions consist of. -/
def IsFractionChar (c : Char) : Prop :=
  c.isDigit = true ∨ c = '.' ∨ c = 'e' ∨ c = 'E' ∨ c = '+' ∨ c = '-'

instance : DecidablePred IsFractionChar := fun _ => inferInstanceAs (Decidable (_ ∨ _))

theorem FractionShape.isFractionChar {fraction behind : List Char}
    (h : FractionShape fraction behind) : ∀ c ∈ fraction, IsFractionChar c := by
  cases h with
  | none => nofun
  | point hdigits => exact List.forall_mem_cons.2 ⟨by decide, fun c hc => .inl (hdigits c hc)⟩

theorem ExponentShape.isFractionChar {exponent : List Char} (h : ExponentShape exponent) :
    ∀ c ∈ exponent, IsFractionChar c := by
  cases h with
  | none => nofun
  | @some letter sign digits hletter hsign _ hdigits =>
    have hfirst : IsFractionChar letter := by rcases hletter with rfl | rfl <;> decide
    have hsigns : ∀ c ∈ sign, IsFractionChar c := by
      rcases hsign with rfl | rfl | rfl <;> simp [IsFractionChar]
    exact List.forall_mem_cons.2
      ⟨hfirst, List.forall_mem_append.2 ⟨hsigns, fun c hc => .inl (hdigits c hc)⟩⟩

theorem isFractionChar_of_shape {whole fraction behind exponent : List Char}
    (hwhole : ∀ c ∈ whole, c.isDigit = true) (hfraction : FractionShape fraction behind)
    (hexponent : ExponentShape exponent) :
    ∀ c ∈ whole ++ (fraction ++ exponent), IsFractionChar c :=
  List.forall_mem_append.2 ⟨fun c hc => .inl (hwhole c hc),
    List.forall_mem_append.2 ⟨hfraction.isFractionChar, hexponent.isFractionChar⟩⟩

/-- Digits behind a sign are an exponent, behind its letter. -/
theorem exponentShape_of_splitSign {letter : Char} {rest digits : List Char} {down : Bool}
    (hletter : letter = 'e' ∨ letter = 'E') (hsplit : splitSign rest = (down, digits))
    (hne : digits ≠ []) (hdigits : ∀ c ∈ digits, c.isDigit = true) :
    ExponentShape (letter :: rest) := by
  unfold splitSign at hsplit
  split at hsplit
  · cases hsplit
    exact .some hletter (.inr (.inr rfl)) hne hdigits
  · cases hsplit
    exact .some hletter (.inr (.inl rfl)) hne hdigits
  · cases hsplit
    exact @ExponentShape.some letter [] rest hletter (.inl rfl) hne hdigits

/-- The number that decimal digits stand for when an exponent, or nothing, follows them. -/
def readScaled? (negative : Bool) (digits : Nat) (scale : Int) : List Char → Option Binary64
  | [] => some (Binary64.ofDecimal negative digits scale)
  | e :: rest =>
    if e == 'e' || e == 'E' then
      let (down, ds) := splitSign rest
      if ds.isEmpty || !ds.all Char.isDigit then none
      else
        let size : Int := ofDigits 10 (ds.map fun c => c.toNat - '0'.toNat)
        some (Binary64.ofDecimal negative digits (scale + if down then -size else size))
    else none

theorem exponentShape_of_readScaled? {negative : Bool} {size : Nat} {scale : Int} {x : Binary64}
    (h : readScaled? negative size scale text = some x) : ExponentShape text := by
  unfold readScaled? at h
  split at h
  · exact .none
  · next e rest =>
    split at h
    · next hletter =>
      cases hsign : splitSign rest with
      | mk down ds =>
        simp only [hsign] at h
        split at h
        · cases h
        · next hdigits =>
          simp only [Bool.or_eq_true, not_or, List.isEmpty_iff, Bool.not_eq_true',
            Bool.not_eq_false, List.all_eq_true] at hdigits
          exact exponentShape_of_splitSign (by simpa using hletter) hsign hdigits.1 hdigits.2
    · cases h

/-- What is read as a fraction has the characters of one. -/
theorem isFractionChar_of_readDecimal? {negative : Bool} {x : Binary64}
    (h : readDecimal? negative text = some x) : ∀ c ∈ text, IsFractionChar c := by
  have hwhole := Estree.forall_mem_takeWhile Char.isDigit text
  rw [← List.takeWhile_append_dropWhile (p := Char.isDigit) (l := text)]
  unfold readDecimal? at h
  simp only at h
  split at h
  · next rest hrest =>
    rw [hrest, ← List.takeWhile_append_dropWhile (p := Char.isDigit) (l := rest)]
    split at h
    · cases h
    · exact isFractionChar_of_shape hwhole (.point (Estree.forall_mem_takeWhile _ rest))
        (exponentShape_of_readScaled? h)
  · split at h
    · cases h
    · have hexponent := exponentShape_of_readScaled? h
      have hchars := isFractionChar_of_shape hwhole .none hexponent
      exact hchars

/-- No fraction is read where the suffix of a big integer stands behind a digit. -/
theorem readFloat?_of_suffix (h : bigSuffix ∈ text)
    (hstart : text.head?.any Char.isDigit = true) : readFloat? text = none := by
  have hunderscore : text.head? ≠ some '_' := by
    intro hhead
    rw [hhead] at hstart
    cases hstart
  cases hplain : dropSeparators? none text with
  | none => simp [readFloat?, hplain]
  | some plain =>
    obtain ⟨hkept, hhead⟩ := dropSeparators?_keeps hplain
    have hdigit : plain.head?.any Char.isDigit = true := by rwa [hhead hunderscore]
    cases plain with
    | nil => cases hdigit
    | cons c rest =>
      rw [readFloat?_of_plain hplain (.inl hdigit)]
      refine Option.eq_none_iff_forall_ne_some.2 fun x hx => ?_
      have hsuffix : IsFractionChar bigSuffix :=
        isFractionChar_of_readDecimal? hx bigSuffix (hkept bigSuffix h (by decide))
      exact absurd hsuffix (by decide)

/-- With the suffix of a big integer behind it, what starts with a digit is kept as text. -/
theorem readNumber_of_suffix {before between after : Text} (hbefore : IsBlankText before)
    (hafter : IsBlankText after) (hvisible : ∀ c ∈ text, IsVisible c)
    (hstart : text.head?.any Char.isDigit = true) :
    readNumber (before ++ (Text.ofChars text ++ between ++ Text.ofChars [bigSuffix]) ++ after) =
      .other (Text.ofChars text ++ between ++ Text.ofChars [bigSuffix]) := by
  obtain ⟨c, rest, rfl⟩ : ∃ c rest, text = c :: rest := by
    cases text with
    | nil => cases hstart
    | cons c rest => exact ⟨c, rest, rfl⟩
  have hsuffix : IsVisible bigSuffix := ⟨by decide, by decide⟩
  have hfirst : isBlankPoint (CodePoint.ofChar c).val = false :=
    isBlankPoint_of_isVisible (hvisible c List.mem_cons_self)
  have hlast : isBlankPoint (CodePoint.ofChar bigSuffix).val = false :=
    isBlankPoint_of_isVisible hsuffix
  have hend : (Text.ofChars (c :: rest) ++ between ++ Text.ofChars [bigSuffix]).getLast? =
      some (CodePoint.ofChar bigSuffix) := List.getLast?_concat
  have htrim : (before ++ (Text.ofChars (c :: rest) ++ between ++ Text.ofChars [bigSuffix]) ++
      after).trim = Text.ofChars (c :: rest) ++ between ++ Text.ofChars [bigSuffix] :=
    trim_surrounded hbefore hafter (by simp [Text.ofChars, hfirst]) (by rw [hend]; simp [hlast])
  have hspelled : asciiSpelling (Text.ofChars (c :: rest) ++ between ++ Text.ofChars [bigSuffix]) =
      c :: (rest ++ asciiSpelling between ++ [bigSuffix]) := by
    have htext := asciiSpelling_ofChars hvisible
    have hend : asciiSpelling (Text.ofChars [bigSuffix]) = [bigSuffix] :=
      asciiSpelling_ofChars (by simpa using hsuffix)
    rw [asciiSpelling] at htext hend
    rw [asciiSpelling, List.map_append, List.map_append, htext, hend]
    rfl
  have hmem : bigSuffix ∈ c :: (rest ++ asciiSpelling between ++ [bigSuffix]) := by simp
  simp only [readNumber, htrim, hspelled, readInteger?_of_suffix hmem hstart,
    readFloat?_of_suffix hmem hstart]

/-! ## Fractions -/

theorem dropSeparators?_of_separated {plain : List Char} (h : Separated 10 plain text)
    (hplain : '_' ∉ plain) (previous : Option Char) :
    dropSeparators? previous text = some plain := by
  induction h generalizing previous with
  | nil => rfl
  | next c _ ih =>
    obtain ⟨hc, hrest⟩ := not_or.1 (mt List.mem_cons.2 hplain)
    simp [dropSeparators?, Ne.symm hc, ih hrest]
  | @separated c d plain text hc hd _ ih =>
    have hrest : '_' ∉ d :: plain := fun hmem => hplain (List.mem_cons_of_mem c hmem)
    have hfirst : c.isDigit = true := Estree.isDigit_of_digitIn? le_rfl hc
    have hnext : d.isDigit = true := Estree.isDigit_of_digitIn? le_rfl hd
    simp [dropSeparators?, ne_underscore hc, hfirst, hnext, ih hrest]

namespace Separated

variable {plain : List Char}

theorem refl : (plain : List Char) → Separated base plain plain
  | [] => .nil
  | c :: plain => .next c (refl plain)

theorem subset (h : Separated base plain text) : plain ⊆ text := by
  induction h with
  | nil => exact List.nil_subset []
  | next c _ ih => exact List.cons_subset_cons c ih
  | @separated c d plain text _ _ _ ih =>
    exact List.cons_subset_cons c (List.subset_cons_of_subset '_' ih)

theorem eq_or_mem (h : Separated base plain text) : ∀ c ∈ text, c = '_' ∨ c ∈ plain := by
  induction h with
  | nil => nofun
  | next c _ ih =>
    exact List.forall_mem_cons.2 ⟨.inr (by simp), fun d hd => (ih d hd).imp id (.tail c)⟩
  | @separated c d plain text _ _ _ ih =>
    refine List.forall_mem_cons.2 ⟨.inr (by simp), List.forall_mem_cons.2 ⟨.inl rfl, ?_⟩⟩
    exact fun e he => (ih e he).imp id (.tail c)

theorem head?_eq (h : Separated base plain text) : text.head? = plain.head? := by
  cases h <;> rfl

end Separated

/-- A point or an exponent is no digit. -/
theorem exists_not_digit {fraction behind exponent : List Char}
    (hfraction : FractionShape fraction behind) (hexponent : ExponentShape exponent)
    (hne : fraction ++ exponent ≠ []) :
    ∃ c ∈ fraction ++ exponent, ¬ (c = '_' ∨ (digitIn? 10 c).isSome = true) := by
  cases hfraction with
  | point => exact ⟨'.', by simp, by decide⟩
  | none =>
    cases hexponent with
    | none => exact absurd rfl hne
    | @some letter _ _ hletter =>
      refine ⟨letter, by simp, ?_⟩
      rcases hletter with rfl | rfl <;> decide

namespace DecimalFraction

theorem exists_head (h : DecimalFraction text) :
    ∃ c rest, text = c :: rest ∧ (c.isDigit = true ∨ c = '.') := by
  obtain ⟨hwhole, hfraction, -, hne, -, htext⟩ := h
  next whole fraction behind exponent =>
  obtain ⟨c, rest, hplain, hc⟩ := decimal_head exponent hwhole hfraction hne
  have hhead : text.head? = some c := by rw [htext.head?_eq, hplain]; rfl
  obtain ⟨more, rfl⟩ := List.head?_eq_some_iff.1 hhead
  exact ⟨c, more, rfl, hc⟩

/-- A fraction is not read as an integer. -/
theorem readInteger?_eq_none (h : DecimalFraction text) : readInteger? text = none := by
  have hsign : splitSign text = (false, text) := by
    obtain ⟨c, rest, rfl, hc⟩ := h.exists_head
    exact splitSign_of_plain rest hc
  obtain ⟨hwhole, hfraction, hexponent, hne, hmore, htext⟩ := h
  next whole fraction behind exponent =>
  have hchars : ∀ c ∈ text, c = '_' ∨ IsFractionChar c := fun c hc =>
    (htext.eq_or_mem c hc).imp id (isFractionChar_of_shape hwhole hfraction hexponent c)
  obtain ⟨point, hpoint, hdigit⟩ := exists_not_digit hfraction hexponent hmore
  have hmagnitude : readMagnitude? text = none := by
    refine Option.eq_none_iff_forall_ne_some.2 fun n hn => ?_
    rcases readMagnitude?_cases hn with ⟨letter, base, digits, rfl, hletter, -⟩ | hdigits
    · have hplainLetter := hchars letter (by simp)
      cases hletter <;> exact absurd hplainLetter (by decide)
    · exact hdigit (hdigits point (htext.subset (List.mem_append_right whole hpoint)))
  simp [readInteger?, hsign, hmagnitude]

theorem readFloat?_isSome (h : DecimalFraction text) : (readFloat? text).isSome = true := by
  obtain ⟨hwhole, hfraction, hexponent, hne, -, htext⟩ := h
  next whole fraction behind exponent =>
  have hunderscore : '_' ∉ whole ++ (fraction ++ exponent) := fun hmem =>
    absurd (isFractionChar_of_shape hwhole hfraction hexponent '_' hmem) (by decide)
  have hdecimal := readDecimal?_isSome false hwhole hfraction hexponent hne
  have hdrop := dropSeparators?_of_separated htext hunderscore none
  obtain ⟨c, rest, hplain, hc⟩ := decimal_head exponent hwhole hfraction hne
  rw [hplain] at hdrop hdecimal
  rwa [readFloat?_of_plain hdrop hc]

theorem isVisible (h : DecimalFraction text) : ∀ c ∈ text, IsVisible c := by
  obtain ⟨hwhole, hfraction, hexponent, hne, -, htext⟩ := h
  intro c hc
  rcases htext.eq_or_mem c hc with rfl | hc
  · exact ⟨by decide, by decide⟩
  · exact ((NumeralShape.decimal hwhole hfraction hexponent hne).isNumeralChar c hc).isVisible

/-- A fraction is read as a double. -/
theorem exists_readNumber_eq (h : DecimalFraction text) :
    ∃ x, readNumber (Text.ofChars text) = .float x := by
  obtain ⟨x, hx⟩ := Option.isSome_iff_exists.1 h.readFloat?_isSome
  refine ⟨x, ?_⟩
  simp only [readNumber, trim_ofChars h.isVisible, asciiSpelling_ofChars h.isVisible,
    h.readInteger?_eq_none, hx]

end DecimalFraction

/-! ## Reading back -/

/-- What the spelling of a number is read as between blanks: the number itself, if the spelling is
not a decimal one that is too long; text, if the suffix of a big integer ends it, whatever stands
between. A fraction is read as a double. -/
theorem numerals_read_back {before after : Text} (hbefore : IsBlankText before)
    (hafter : IsBlankText after) :
    (∀ n text, Spelling n text →
      (readNumber (before ++ Text.ofChars text ++ after) = .int n ↔ FitsInteger n text)) ∧
    (∀ n text between, Spelling n text →
      readNumber (before ++ (Text.ofChars text ++ between ++ Text.ofChars [bigSuffix]) ++ after) =
        .other (Text.ofChars text ++ between ++ Text.ofChars [bigSuffix])) ∧
    ∀ text, DecimalFraction text →
      ∃ x, readNumber (before ++ Text.ofChars text ++ after) = .float x := by
  refine ⟨?integer, ?suffix, ?fraction⟩
  case integer =>
    intro n text hspelling
    rw [readNumber_surrounded_ofChars hbefore hafter hspelling.ne_nil hspelling.isVisible]
    exact hspelling.readNumber_eq_int_iff
  case suffix =>
    intro n text between hspelling
    exact readNumber_of_suffix hbefore hafter hspelling.isVisible hspelling.head_isDigit
  case fraction =>
    intro text hfraction
    obtain ⟨c, rest, rfl, -⟩ := hfraction.exists_head
    rw [readNumber_surrounded_ofChars hbefore hafter (List.cons_ne_nil c rest) hfraction.isVisible]
    exact hfraction.exists_readNumber_eq

/-- A number in mixed case with zeros in front and a separator, between a blank outside ASCII and a
line break; the same as a big integer; and a fraction whose value is an integer. -/
theorem numerals_read_back_mixed :
    Spelling 255 "0X0_0fF".toList ∧
    readNumber (Text.ofString "\u00A00X0_0fF\n") = .int 255 ∧
    readNumber (Text.ofString "\u00A00X0_0fF n\n") = .other (Text.ofString "0X0_0fF n") ∧
    ∃ x, readNumber (Text.ofString "\u00A01_0.0e+1\n") = .float x := by
  have hdigits : ['f', 'F'].map Char.toLower = Nat.toDigits 16 255 := rfl
  have hspelling : Spelling 255 "0X0_0fF".toList :=
    .based 2 .hexUpper hdigits (.separated rfl rfl (.refl _))
  have hwhole : ∀ c ∈ ['1', '0'], c.isDigit = true := List.all_eq_true.1 rfl
  have hpoint : FractionShape ['.', '0'] ['0'] := .point (List.all_eq_true.1 rfl)
  have hexponent : ExponentShape ['e', '+', '1'] :=
    @ExponentShape.some 'e' ['+'] ['1'] (.inl rfl) (.inr (.inl rfl)) (by decide)
      (List.all_eq_true.1 rfl)
  have hfraction : DecimalFraction "1_0.0e+1".toList :=
    .mk hwhole hpoint hexponent (by decide) (by decide) (.separated rfl rfl (.refl _))
  have hbefore : IsBlankText (Text.ofString "\u00A0") := by decide
  have hafter : IsBlankText (Text.ofString "\n") := by decide
  obtain ⟨hinteger, hsuffix, hfloat⟩ := numerals_read_back hbefore hafter
  exact ⟨hspelling, (hinteger 255 _ hspelling).2 (.inl rfl),
    hsuffix 255 _ (Text.ofString " ") hspelling, hfloat _ hfraction⟩

end EndpointCatalog
