/-
EndpointCatalog.Proofs.Json.Quoted — strings that are written are read back.

* `isString_quote`: a quoted text is a JSON string, whatever it holds.
* `readString?_quote`: what is read back is the text with its halves joined:
  a pair of escapes is one character for a reader, no matter whether it was
  one for the writer.
-/
import EndpointCatalog.Json.Reader
import EndpointCatalog.Json.Writer
import EndpointCatalog.Proofs.Escape.Spelling
import EndpointCatalog.Proofs.Json.Grammar
import EndpointCatalog.Proofs.Literal.Integer

namespace EndpointCatalog.Json

open CodePoint Text

/-! ## Units -/

/-- So many hexadecimal digits of a number, the last ones. -/
def hexDigits : Nat → Nat → List Char
  | 0, _ => []
  | count + 1, n => hexDigits count (n / 16) ++ [(n % 16).digitChar]

theorem hexDigits_zero (count : Nat) : hexDigits count 0 = List.replicate count '0' := by
  induction count with
  | zero => rfl
  | succ count ih =>
    rw [hexDigits, Nat.zero_div, ih, List.replicate_succ']
    rfl

/-- The digits of a number with zeros before them. -/
theorem replicate_append_toDigits (count : Nat) {n : Nat} (hn : n < 16 ^ (count + 1)) :
    List.replicate (count + 1 - (Nat.toDigits 16 n).length) '0' ++ Nat.toDigits 16 n =
      hexDigits (count + 1) n := by
  induction count generalizing n with
  | zero =>
    have hlt : n < 16 := by omega
    rw [Nat.toDigits_of_lt_base hlt, hexDigits, Nat.mod_eq_of_lt hlt]
    rfl
  | succ count ih =>
    rcases Nat.lt_or_ge n 16 with hlt | hge
    · rw [Nat.toDigits_of_lt_base hlt, hexDigits, Nat.mod_eq_of_lt hlt, Nat.div_eq_of_lt hlt,
        hexDigits_zero]
      rfl
    · have hdiv : n / 16 < 16 ^ (count + 1) :=
        Nat.div_lt_of_lt_mul (by rwa [← Nat.pow_succ'])
      rw [Nat.toDigits_of_base_le (by decide) hge, hexDigits, ← ih hdiv, List.length_append,
        List.length_singleton, Nat.add_sub_add_right, List.append_assoc]

variable {unit : Nat} {rest tail : List Char}

theorem unitEscape_eq (h : unit < 0x10000) : unitEscape unit =
    ['\\', 'u', (unit / 16 / 16 / 16 % 16).digitChar, (unit / 16 / 16 % 16).digitChar,
      (unit / 16 % 16).digitChar, (unit % 16).digitChar] := by
  rw [unitEscape]
  exact congrArg ('\\' :: 'u' :: ·) (replicate_append_toDigits 3 h)

theorem isHex_digitChar {n : Nat} (h : n < 16) : IsHex n.digitChar := by
  interval_cases n <;> decide

/-- A unit that is written is read back. -/
theorem readUnit?_unitEscape (h : unit < 0x10000) (rest : List Char) :
    readUnit? ((unitEscape unit).drop 2 ++ rest) = some (unit, rest) := by
  rw [unitEscape_eq h]
  simp only [List.drop_succ_cons, List.drop_zero, List.cons_append, List.nil_append, readUnit?]
  simp [digitIn?_digitChar le_rfl (Nat.mod_lt _ (by decide : 0 < 16)), ofDigits]
  omega

theorem isContent_unitEscape (h : unit < 0x10000) (hrest : IsContent rest) :
    IsContent (unitEscape unit ++ rest) := by
  have hhex : ∀ n : Nat, IsHex (n % 16).digitChar := fun n =>
    isHex_digitChar (Nat.mod_lt _ (by decide))
  rw [unitEscape_eq h]
  exact .unit (hhex _) (hhex _) (hhex _) (hhex _) hrest

/-! ## Code points -/

/-- How a code point can be written: as it is, by a letter or by its units. -/
inductive Escaped : CodePoint → List Char → Prop where
  | plain {c : Char} : c ≠ '"' → c ≠ '\\' → 0x20 ≤ c.toNat → Escaped (ofChar c) [c]
  | letter {c letter : Char} : letter ∈ escapedLetters → simpleEscape? letter = some c →
      Escaped (ofChar c) ['\\', letter]
  | unit {p : CodePoint} : p.val < 0x10000 → Escaped p (unitEscape p.val)
  | pair {p : CodePoint} : 0x10000 ≤ p.val →
      Escaped p (unitEscape p.highHalf.val ++ unitEscape p.lowHalf.val)

theorem ofChar_ofNat {p : CodePoint} (h : p.val < 0x80) : ofChar (Char.ofNat p.val) = p := by
  have hvalid : p.val.isValidChar := .inl (by omega)
  apply Fin.ext
  rw [ofChar, Char.ofNat, dif_pos hvalid]
  rfl

theorem escaped_escapePoint (p : CodePoint) : Escaped p (escapePoint p) := by
  rw [escapePoint]
  split_ifs with hquote hbackslash hnewline hreturn htab hback hfeed hplain hunit
  · rw [hquote]
    exact .letter (by decide) rfl
  · rw [hbackslash]
    exact .letter (by decide) rfl
  · rw [hnewline]
    exact .letter (by decide) rfl
  · rw [hreturn]
    exact .letter (by decide) rfl
  · rw [htab]
    exact .letter (by decide) rfl
  · rw [hback]
    exact .letter (by decide) rfl
  · rw [hfeed]
    exact .letter (by decide) rfl
  · have hp := ofChar_ofNat (p := p) (by omega)
    have hval : (Char.ofNat p.val).toNat = p.val := congrArg Fin.val hp
    have hescaped := Escaped.plain (c := Char.ofNat p.val) (fun heq => hquote (heq ▸ hp.symm))
      (fun heq => hbackslash (heq ▸ hp.symm)) (by rw [hval]; exact hplain.1)
    rwa [hp] at hescaped
  · exact .unit hunit
  · rw [← val_highHalf, ← val_lowHalf]
    exact .pair (Nat.not_lt.1 hunit)

theorem val_lt_of_isHigh {p : CodePoint} (h : p.isHigh = true) : p.val < 0x10000 := by
  rw [isHigh_iff] at h
  omega

theorem val_lt_of_isLow {p : CodePoint} (h : p.isLow = true) : p.val < 0x10000 := by
  rw [isLow_iff] at h
  omega

/-- A half is written as a unit. -/
theorem Escaped.eq_unitEscape {p : CodePoint} {cs : List Char} (h : Escaped p cs)
    (hp : p.isSurrogate = true) : cs = unitEscape p.val := by
  cases h with
  | plain => rw [not_isSurrogate_ofChar] at hp; cases hp
  | letter => rw [not_isSurrogate_ofChar] at hp; cases hp
  | unit => rfl
  | pair hle => rw [not_isSurrogate_of_le hle] at hp; cases hp

theorem Escaped.length_pos {p : CodePoint} {cs : List Char} (h : Escaped p cs) :
    0 < cs.length := by
  cases h with
  | plain => exact Nat.one_pos
  | letter => exact Nat.two_pos
  | unit => exact Nat.succ_pos _
  | pair => exact Nat.succ_pos _

theorem Escaped.isContent_append {p : CodePoint} {cs : List Char} (h : Escaped p cs)
    (hrest : IsContent rest) : IsContent (cs ++ rest) := by
  cases h with
  | plain hquote hbackslash hle => exact .plain hquote hbackslash hle hrest
  | letter hletter _ => exact .escape hletter hrest
  | unit hlt => exact isContent_unitEscape hlt hrest
  | pair hle =>
    rw [List.append_assoc]
    exact isContent_unitEscape (val_lt_of_isHigh (isHigh_highHalf hle))
      (isContent_unitEscape (val_lt_of_isLow (isLow_lowHalf p)) hrest)

/-- Every quoted text is a string. -/
theorem isString_quote (t : Text) : IsString (quote t) := by
  refine .quoted ?_
  induction t with
  | nil => exact .nil
  | cons p t ih =>
    rw [List.flatMap_cons]
    exact (escaped_escapePoint p).isContent_append ih

/-! ## Reading -/

variable {p q : CodePoint} {done : Text} {fuel : Nat}

/-- A unit is read as a half if the other half does not follow, or as all of its character. -/
theorem readString?_unit (h : p.val < 0x10000) (tail : List Char) :
    readString? (fuel + 1) done (unitEscape p.val ++ tail) =
      (if p.isHigh then readLowHalf? tail else none).elim (readString? fuel (p :: done) tail)
        fun low => readString? fuel (ofPair p low.1 :: done) low.2 := by
  have hunit := readUnit?_unitEscape h tail
  have hpoint : ofNat? p.val = some p := by rw [ofNat?, dif_pos p.isLt]
  rw [unitEscape_eq h] at hunit ⊢
  simp only [List.drop_succ_cons, List.drop_zero, List.cons_append, List.nil_append] at hunit ⊢
  rw [readString?, hunit]
  simp only [hpoint, Option.bind_eq_bind, Option.bind_some]
  cases (if p.isHigh then readLowHalf? tail else none) <;> rfl

theorem readLowHalf?_unit (h : p.val < 0x10000) (tail : List Char) :
    readLowHalf? (unitEscape p.val ++ tail) = if p.isLow then some (p, tail) else none := by
  have hunit := readUnit?_unitEscape h tail
  have hpoint : ofNat? p.val = some p := by rw [ofNat?, dif_pos p.isLt]
  rw [unitEscape_eq h] at hunit ⊢
  simp only [List.drop_succ_cons, List.drop_zero, List.cons_append, List.nil_append] at hunit ⊢
  rw [readLowHalf?, hunit]
  simp only [hpoint, Option.bind_eq_bind, Option.bind_some]
  rfl

/-- What is no second half is not read as one. -/
theorem Escaped.readLowHalf?_eq_none {cs : List Char} (h : Escaped p cs) (hlow : p.isLow = false)
    (tail : List Char) : readLowHalf? (cs ++ tail) = none := by
  cases h with
  | plain _ hbackslash _ =>
    rw [List.singleton_append, readLowHalf?]
    rintro rest' ⟨rfl, -⟩
    exact hbackslash rfl
  | letter hletter _ =>
    rw [List.cons_append, List.singleton_append, readLowHalf?]
    rintro rest' ⟨-, rfl, -⟩
    exact absurd hletter (by decide)
  | unit hlt =>
    rw [readLowHalf?_unit hlt, hlow]
    rfl
  | pair hle =>
    have hhigh := isHigh_highHalf hle
    rw [List.append_assoc, readLowHalf?_unit (val_lt_of_isHigh hhigh), isLow_of_isHigh hhigh]
    rfl

/-- A code point whose partner does not follow is read as it is. -/
theorem Escaped.readString?_eq {cs : List Char} (h : Escaped p cs)
    (halone : p.isHigh = true → readLowHalf? tail = none) :
    readString? (fuel + 1) done (cs ++ tail) = readString? fuel (p :: done) tail := by
  cases h with
  | @plain c hquote hbackslash hle =>
    rw [List.singleton_append, readString?, if_neg (Nat.not_lt.2 hle)]
    · exact hquote
    · exact fun _ heq => absurd heq hbackslash
    · exact fun _ _ heq => absurd heq hbackslash
  | letter hletter hsimple =>
    rw [List.cons_append, List.singleton_append, readString?, hsimple]
    rintro rfl
    exact absurd hletter (by decide)
  | unit hlt =>
    rw [readString?_unit hlt]
    cases hhigh : p.isHigh with
    | false => rfl
    | true => rw [if_pos rfl, halone hhigh, Option.elim_none]
  | pair hle =>
    have hhigh := isHigh_highHalf hle
    have hlow := isLow_lowHalf p
    rw [List.append_assoc, readString?_unit (val_lt_of_isHigh hhigh), hhigh, if_pos rfl,
      readLowHalf?_unit (val_lt_of_isLow hlow), hlow, if_pos rfl, Option.elim_some,
      ofPair_halves hle]

/-- A pair that stands together is read as its character. -/
theorem readString?_pair (hhigh : p.isHigh = true) (hlow : q.isLow = true) (tail : List Char) :
    readString? (fuel + 1) done (escapePoint p ++ (escapePoint q ++ tail)) =
      readString? fuel (ofPair p q :: done) tail := by
  have hp : p.isSurrogate = true := by rw [isSurrogate, hhigh, Bool.true_or]
  have hq : q.isSurrogate = true := by rw [isSurrogate, hlow, Bool.or_true]
  rw [(escaped_escapePoint p).eq_unitEscape hp, (escaped_escapePoint q).eq_unitEscape hq,
    readString?_unit (val_lt_of_isHigh hhigh), hhigh, if_pos rfl,
    readLowHalf?_unit (val_lt_of_isLow hlow), hlow, if_pos rfl, Option.elim_some]

/-- A text is read back with its halves joined. -/
theorem readString?_flatMap (t : Text) (hfuel : t.length < fuel) (rest : List Char) :
    readString? fuel done (t.flatMap escapePoint ++ '"' :: rest) =
      some (done.reverse ++ joinHalves t, rest) := by
  fun_induction joinHalves t generalizing fuel done with
  | case1 =>
    obtain ⟨fuel, rfl⟩ := Nat.exists_eq_succ_of_ne_zero (Nat.ne_zero_of_lt hfuel)
    rw [List.flatMap_nil, List.nil_append, readString?, List.append_nil]
  | case2 p =>
    obtain ⟨fuel, rfl⟩ : ∃ n, fuel = n + 2 :=
      Nat.exists_eq_add_of_le' (Nat.succ_le_of_lt hfuel)
    have halone : p.isHigh = true → readLowHalf? ('"' :: rest) = none := fun _ => rfl
    rw [List.flatMap_singleton, (escaped_escapePoint p).readString?_eq halone, readString?,
      List.reverse_cons]
  | case3 p q t hpair ih =>
    obtain ⟨fuel, rfl⟩ := Nat.exists_eq_succ_of_ne_zero (Nat.ne_zero_of_lt hfuel)
    obtain ⟨hhigh, hlow⟩ := Bool.and_eq_true_iff.1 hpair
    rw [List.flatMap_cons, List.flatMap_cons, List.append_assoc, List.append_assoc,
      readString?_pair hhigh hlow, ih (by simp only [List.length_cons] at hfuel; omega),
      List.reverse_cons, List.append_assoc, List.singleton_append]
  | case4 p q t hpair ih =>
    obtain ⟨fuel, rfl⟩ := Nat.exists_eq_succ_of_ne_zero (Nat.ne_zero_of_lt hfuel)
    -- what stands behind a lone first half is written, but never as a second half
    have halone : p.isHigh = true →
        readLowHalf? ((q :: t).flatMap escapePoint ++ '"' :: rest) = none := fun hhigh => by
      rw [hhigh, Bool.true_and] at hpair
      rw [List.flatMap_cons, List.append_assoc]
      exact (escaped_escapePoint q).readLowHalf?_eq_none (Bool.eq_false_iff.2 hpair) _
    rw [List.flatMap_cons, List.append_assoc, (escaped_escapePoint p).readString?_eq halone,
      ih (Nat.lt_of_succ_lt_succ hfuel), List.reverse_cons, List.append_assoc,
      List.singleton_append]

theorem length_le_flatMap_escapePoint (t : Text) : t.length ≤ (t.flatMap escapePoint).length := by
  induction t with
  | nil => exact Nat.zero_le _
  | cons p t ih =>
    have hpos := (escaped_escapePoint p).length_pos
    rw [List.flatMap_cons, List.length_append, List.length_cons]
    omega

/-- A quoted text is read up to its end, with its halves joined. -/
theorem readString?_quote (t : Text) (rest : List Char) :
    readString? (((quote t).tail ++ rest).length + 1) [] ((quote t).tail ++ rest) =
      some (joinHalves t, rest) := by
  have hlength := length_le_flatMap_escapePoint t
  rw [quote, List.tail_cons, List.append_assoc, List.singleton_append,
    readString?_flatMap t (by simp only [List.length_append, List.length_cons]; omega)]
  rfl

end EndpointCatalog.Json
