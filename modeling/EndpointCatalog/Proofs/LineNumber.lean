/-
EndpointCatalog.Proofs.LineNumber — line numbers that are given as text.

* `LineSpelling n`: the ways to write an integer, with a sign, zeros in front,
  single underscores between digits, zeros behind a point and blanks around.
* `readLineText_spelled`: each of them is read as the integer, unless it is
  too long.
* `ofEntries_insert_line`: data that are accepted as a record stay so with such
  a text as their line, and the record has this line then.

A text is read as it stands before it is tidied up. A spelling is read so only
if it is the text of the integer (`plainInteger_spelled`), and tidied up it
always is (`tidyInteger?_spelled`).
-/
import EndpointCatalog.Proofs.Json.Numeral
import EndpointCatalog.Proofs.Literal.Spelling
import EndpointCatalog.Proofs.Path
import EndpointCatalog.Proofs.Validation

namespace EndpointCatalog

variable {base zeros : Nat} {n : Int} {c d : Char}
  {sign digits plain text fraction rest : List Char}

/-! ## Spellings -/

/-- The sign of an integer. -/
inductive LineSign (n : Int) : List Char → Prop where
  | none : 0 ≤ n → LineSign n []
  | plus : 0 ≤ n → LineSign n ['+']
  | minus : n < 0 → LineSign n ['-']

/-- Nothing, or zeros behind a point. -/
inductive PointZeros : List Char → Prop where
  | none : PointZeros []
  | zeros (count : Nat) : PointZeros ('.' :: List.replicate (count + 1) '0')

/-- Digits, and zeros in front of them, with single underscores between some. -/
def ZerosBefore (zeros : Nat) (plain digits : List Char) : Prop :=
  Separated 10 (List.replicate zeros '0' ++ plain) digits

/-- How a line number may be written. -/
inductive LineSpelling (n : Int) : List Char → Prop where
  | mk {before sign digits fraction after : List Char} {zeros : Nat} :
      (∀ c ∈ before, isLineBlank c = true) → LineSign n sign →
      ZerosBefore zeros (Nat.toDigits 10 n.natAbs) digits → PointZeros fraction →
      (∀ c ∈ after, isLineBlank c = true) →
      LineSpelling n (before ++ (sign ++ (digits ++ fraction)) ++ after)

/-! ## Digits -/

theorem ne_of_isDigit (hc : c.isDigit = true) (hd : d.isDigit = false) : c ≠ d := by
  rintro rfl
  rw [hc] at hd
  cases hd

theorem Json.IsWhole.allDigits (h : Json.IsWhole plain) : ∀ c ∈ plain, c.isDigit = true := by
  cases h with
  | zero => exact List.forall_mem_singleton.2 rfl
  | digits hfirst _ hrest => exact List.forall_mem_cons.2 ⟨hfirst, hrest⟩

theorem Json.IsWhole.ne_nil (h : Json.IsWhole plain) : plain ≠ [] := by
  rintro rfl
  cases h

/-- There is a digit, and no zero in front of others. -/
theorem Json.IsWhole.leads (h : Json.IsWhole plain) :
    (plain.isEmpty || (plain.head? == some '0' && plain.length != 1)) = false := by
  cases h with
  | zero => rfl
  | digits _ hne _ => simp [hne]

theorem Json.IsWhole.isDigit_zeros (h : Json.IsWhole plain) (zeros : Nat) :
    ∀ c ∈ List.replicate zeros '0' ++ plain, c.isDigit = true := by
  refine List.forall_mem_append.2 ⟨fun c hc => ?_, h.allDigits⟩
  rw [List.eq_of_mem_replicate hc]
  rfl

theorem ofDigits_toDigits (n : Nat) :
    ofDigits 10 ((Nat.toDigits 10 n).filterMap (digitIn? 10)) = n := by
  obtain ⟨ds, hgroup, hplace, -⟩ := exists_digitGroup_decimal (Separated.refl (Nat.toDigits 10 n))
  rw [hgroup.filterMap_eq, ofDigits_eq_placeValue, hplace]

namespace Separated

/-- Without underscores it is the characters themselves; the part before the first one begins
them. -/
theorem eq_or_split (h : Separated base plain text) :
    text = plain ∨ ∃ whole behind rest, text = whole ++ '_' :: rest ∧ plain = whole ++ behind := by
  induction h with
  | nil => exact .inl rfl
  | next c _ ih =>
    rcases ih with rfl | ⟨whole, behind, rest, rfl, rfl⟩
    · exact .inl rfl
    · exact .inr ⟨c :: whole, behind, rest, rfl, rfl⟩
  | @separated c d plain text => exact .inr ⟨[c], d :: plain, d :: text, rfl, rfl⟩

/-- The parts between underscores are the characters, in order. -/
theorem exists_parts (h : Separated base plain text) (hne : plain ≠ []) :
    ∃ parts, text = joinWith ['_'] parts ∧ parts.flatten = plain ∧ ∀ part ∈ parts, part ≠ [] := by
  induction h with
  | nil => exact absurd rfl hne
  | @next c plain text htext ih =>
    by_cases hplain : plain = []
    · subst hplain
      cases htext
      exact ⟨[[c]], rfl, rfl, by simp⟩
    · obtain ⟨_ | ⟨part, parts⟩, htext, hflatten, hparts⟩ := ih hplain
      · exact absurd hflatten.symm hplain
      · refine ⟨(c :: part) :: parts, ?_, congrArg (c :: ·) hflatten, ?_⟩
        · rw [htext]
          cases parts <;> rfl
        · exact List.forall_mem_cons.2 ⟨by simp, fun p hp => hparts p (List.mem_cons_of_mem _ hp)⟩
  | @separated c d plain text _ _ _ ih =>
    obtain ⟨_ | ⟨part, parts⟩, htext, hflatten, hparts⟩ := ih (by simp)
    · cases hflatten
    · refine ⟨[c] :: part :: parts, ?_, congrArg (c :: ·) hflatten, ?_⟩
      · rw [htext]
        rfl
      · exact List.forall_mem_cons.2 ⟨by simp, hparts⟩

end Separated

namespace ZerosBefore

theorem exists_digit (h : ZerosBefore zeros plain digits) (hplain : Json.IsWhole plain) :
    ∃ c behind, digits = c :: behind ∧ c.isDigit = true := by
  have hhead := h.head?_eq
  cases digits with
  | nil =>
    have hnil := List.head?_eq_none_iff.1 hhead.symm
    exact absurd (List.append_eq_nil_iff.1 hnil).2 hplain.ne_nil
  | cons c behind =>
    exact ⟨c, behind, rfl, hplain.isDigit_zeros zeros c (List.mem_of_head? hhead.symm)⟩

theorem isVisible (h : ZerosBefore zeros plain digits) (hplain : Json.IsWhole plain) :
    ∀ c ∈ digits, IsVisible c := by
  intro c hc
  rcases h.eq_or_mem c hc with rfl | hmem
  · exact ⟨by decide, by decide⟩
  · exact (isNumeralChar_of_isDigit (hplain.isDigit_zeros zeros c hmem)).isVisible

end ZerosBefore

/-! ## Numbers as they stand -/

/-- Digits in front of something else are read if they are no zeros in front of others, and
nothing else is there. -/
theorem signedInteger_digits (negative : Bool) (hdigits : ∀ c ∈ digits, c.isDigit = true)
    (hrest : rest.head?.any Char.isDigit = false) :
    signedInteger negative (digits ++ rest) =
      if digits.isEmpty || (digits.head? == some '0' && digits.length != 1) then
        .error .unreadableInteger
      else if longestInteger < digits.length + negative.toNat then .error .hugeInteger
      else if !rest.isEmpty then .error .unreadableInteger
      else
        let n : Int := ofDigits 10 (digits.filterMap (digitIn? 10))
        .ok (if negative then -n else n) := by
  rw [signedInteger, takeWhile_digits hdigits hrest, dropWhile_digits hdigits hrest]

theorem signedInteger_of_head (negative : Bool) (hc : c.isDigit = false) :
    signedInteger negative (c :: rest) = .error .unreadableInteger := by
  have hnone : ∀ c ∈ ([] : List Char), c.isDigit = true := nofun
  exact signedInteger_digits negative hnone hc

/-- The digits of a number are read as it. -/
theorem signedInteger_toDigits {n : Nat} (negative : Bool)
    (hsize : (Nat.toDigits 10 n).length + negative.toNat ≤ longestInteger) :
    signedInteger negative (Nat.toDigits 10 n) = .ok (if negative then -(n : Int) else n) := by
  have hwhole := Json.isWhole_toDigits n
  have hend : ([] : List Char).head?.any Char.isDigit = false := rfl
  have h := signedInteger_digits negative hwhole.allDigits hend
  rw [List.append_nil] at h
  simp [h, hwhole.leads, Nat.not_lt.2 hsize, ofDigits_toDigits]

/-- Digits with zeros in front and underscores are read right or not at all. They never are too
long: those that are read have no zeros in front. -/
theorem signedInteger_zerosBefore {n : Nat} (negative : Bool)
    (hsize : (Nat.toDigits 10 n).length + negative.toNat ≤ longestInteger)
    (h : ZerosBefore zeros (Nat.toDigits 10 n) digits)
    (hrest : rest.head?.any Char.isDigit = false) :
    signedInteger negative (digits ++ rest) = .error .unreadableInteger ∨
      signedInteger negative (digits ++ rest) = .ok (if negative then -(n : Int) else n) := by
  have hwhole := Json.isWhole_toDigits n
  have hall := hwhole.isDigit_zeros zeros
  rcases h.eq_or_split with rfl | ⟨whole, behind, others, rfl, hsplit⟩
  · cases zeros with
    | zero =>
      rw [List.replicate_zero, List.nil_append] at hall ⊢
      cases rest with
      | nil =>
        right
        rw [List.append_nil]
        exact signedInteger_toDigits negative hsize
      | cons c rest =>
        left
        rw [signedInteger_digits negative hall hrest, hwhole.leads, if_neg Bool.false_ne_true,
          if_neg (Nat.not_lt.2 hsize)]
        rfl
    | succ zeros =>
      left
      rw [signedInteger_digits negative hall hrest]
      simp [List.replicate_succ, Nat.toDigits_ne_nil]
  · left
    have hfront : ∀ c ∈ whole, c.isDigit = true := fun c hc =>
      hall c (hsplit ▸ List.mem_append_left _ hc)
    rw [List.append_assoc, List.cons_append, signedInteger_digits negative hfront rfl]
    split
    · rfl
    next hleads =>
      have hle : whole.length ≤ (Nat.toDigits 10 n).length := by
        cases zeros with
        | zero =>
          rw [List.replicate_zero, List.nil_append] at hsplit
          rw [hsplit, List.length_append]
          omega
        | succ zeros =>
          cases whole with
          | nil => cases hleads rfl
          | cons c whole =>
            obtain ⟨rfl, -⟩ := List.cons.inj hsplit
            have hone : ('0' :: whole).length = 1 := by simpa using hleads
            have hpos := List.length_pos_of_ne_nil hwhole.ne_nil
            omega
      rw [if_neg (by omega)]
      rfl

theorem plainInteger_of_ne (hc : c ≠ '-') :
    plainInteger (c :: rest) = signedInteger false (c :: rest) := by
  rw [plainInteger]
  intro tail htail
  exact hc (List.cons.inj htail).1

theorem toList_toString_neg (hn : n < 0) :
    (toString n).toList = '-' :: Nat.toDigits 10 n.natAbs := by
  rw [Json.toList_toString_int, if_pos hn, Json.Numeral.text_ofNat]
  rfl

theorem toList_toString_nonneg (hn : 0 ≤ n) : (toString n).toList = Nat.toDigits 10 n.natAbs := by
  rw [Json.toList_toString_int, if_neg (Int.not_lt.2 hn), Json.Numeral.text_ofNat]
  rfl

/-- The text of an integer is read as the integer. -/
theorem plainInteger_toString (hn : (toString n).length ≤ longestInteger) :
    plainInteger (toString n).toList = .ok n := by
  rw [← String.length_toList] at hn
  rcases lt_or_ge n 0 with hneg | hpos
  · rw [toList_toString_neg hneg] at hn ⊢
    have hread := signedInteger_toDigits true hn
    have hvalue : -(n.natAbs : Int) = n := by omega
    exact hread.trans (congrArg _ hvalue)
  · rw [toList_toString_nonneg hpos] at hn ⊢
    have hread := signedInteger_toDigits false hn
    have hvalue : (n.natAbs : Int) = n := by omega
    have hself : ZerosBefore 0 (Nat.toDigits 10 n.natAbs) (Nat.toDigits 10 n.natAbs) :=
      Separated.refl _
    obtain ⟨c, behind, hcons, hc⟩ := hself.exists_digit (Json.isWhole_toDigits _)
    rw [hcons] at hread ⊢
    rw [plainInteger_of_ne (ne_of_isDigit hc rfl), hread]
    exact congrArg _ hvalue

/-- As it stands, a spelling without blanks in front is read right or not at all. -/
theorem plainInteger_spelled (hn : (toString n).length ≤ longestInteger) (hsign : LineSign n sign)
    (hdigits : ZerosBefore zeros (Nat.toDigits 10 n.natAbs) digits)
    (hrest : rest.head?.any Char.isDigit = false) :
    plainInteger (sign ++ (digits ++ rest)) = .error .unreadableInteger ∨
      plainInteger (sign ++ (digits ++ rest)) = .ok n := by
  rw [← String.length_toList] at hn
  cases hsign with
  | none hpos =>
    rw [toList_toString_nonneg hpos] at hn
    have hread := signedInteger_zerosBefore false hn hdigits hrest
    have hvalue : (n.natAbs : Int) = n := by omega
    obtain ⟨c, behind, rfl, hc⟩ := hdigits.exists_digit (Json.isWhole_toDigits _)
    rw [List.nil_append, List.cons_append, plainInteger_of_ne (ne_of_isDigit hc rfl)]
    simpa [hvalue] using hread
  | plus => exact .inl ((plainInteger_of_ne (by decide)).trans (signedInteger_of_head false rfl))
  | minus hneg =>
    rw [toList_toString_neg hneg] at hn
    have hread := signedInteger_zerosBefore true hn hdigits hrest
    have hvalue : -(n.natAbs : Int) = n := by omega
    rw [if_pos rfl, hvalue] at hread
    exact hread

/-! ## Numbers tidied up -/

/-- Zeros in front are passed over, underscores among them too. -/
theorem behindZeros?_eq (h : ZerosBefore zeros plain digits) (hplain : Json.IsWhole plain)
    (hfraction : PointZeros fraction) (last : Char) :
    ∃ tidy, behindZeros? last (digits ++ fraction) = some (tidy ++ fraction) ∧
      Separated 10 plain tidy := by
  induction zeros generalizing digits last with
  | zero =>
    rw [ZerosBefore, List.replicate_zero, List.nil_append] at h
    cases hplain with
    | zero =>
      cases h with
      | next _ h =>
        cases h
        refine ⟨['0'], ?_, .next '0' .nil⟩
        cases hfraction <;> rfl
    | @digits first others hfirst hne hrest =>
      refine ⟨digits, ?_, h⟩
      have hhead := h.head?_eq
      cases digits with
      | nil => cases hhead
      | cons c behind =>
        obtain rfl : c = first := Option.some.inj hhead
        have hunderscore : c ≠ '_' := ne_of_isDigit hfirst rfl
        rw [List.cons_append, behindZeros?, if_neg (by simp [hne, hunderscore]),
          if_neg (ne_of_isDigit hfirst rfl), if_pos (.inl hfirst)]
  | succ zeros ih =>
    rw [ZerosBefore, List.replicate_succ, List.cons_append] at h
    generalize hfront : List.replicate zeros '0' ++ plain = front at h
    cases h with
    | next _ h =>
      rw [← hfront] at h
      exact ih h '0'
    | separated _ _ h =>
      rw [← hfront] at h
      exact ih h '_'

theorem dropZeros?_of_isDigit (hc : c.isDigit = true) :
    dropZeros? (c :: rest) = behindZeros? '0' (c :: rest) := by
  by_cases hzero : c = '0'
  · subst hzero
    rfl
  · have hunderscore : c ≠ '_' := ne_of_isDigit hc rfl
    have hpoint : c ≠ '.' := ne_of_isDigit hc rfl
    simp [dropZeros?, behindZeros?, hzero, hunderscore, hpoint, hc]

theorem dropPoint_append (htext : ∀ c ∈ text, c ≠ '.') (h : PointZeros fraction) :
    dropPoint (text ++ fraction) = text := by
  have hall : ∀ c ∈ text, decide (c ≠ '.') = true := fun c hc => decide_eq_true (htext c hc)
  have hdrop : (text ++ fraction).dropWhile (· ≠ '.') = fraction.dropWhile (· ≠ '.') :=
    List.dropWhile_append_of_pos hall
  have htake : (text ++ fraction).takeWhile (· ≠ '.') = text ++ fraction.takeWhile (· ≠ '.') :=
    List.takeWhile_append_of_pos hall
  rw [dropPoint, hdrop, htake]
  cases h with
  | none => simp
  | zeros count => simp

theorem dropUnderscores_eq (h : Separated base plain text) (hplain : '_' ∉ plain)
    (hne : plain ≠ []) : dropUnderscores text = plain := by
  obtain ⟨parts, rfl, hflatten, hparts⟩ := h.exists_parts hne
  have hparts_ne : parts ≠ [] := by
    rintro rfl
    exact hne hflatten.symm
  have hsplit : splitAt (· == '_') (joinWith ['_'] parts) = parts := by
    refine splitAt_joinWith rfl hparts_ne fun part hpart c hc => ?_
    refine beq_false_of_ne fun heq => hplain ?_
    rw [← hflatten, ← heq]
    exact List.mem_flatten_of_mem hpart hc
  have hall : parts.all (!·.isEmpty) = true := by
    simpa using hparts
  rw [dropUnderscores, hsplit]
  simp only [hall, if_true, hflatten]

/-- Tidied up, only the digits of the number are left. -/
theorem tidyDigits?_eq (h : ZerosBefore zeros plain digits) (hplain : Json.IsWhole plain)
    (hfraction : PointZeros fraction) : tidyDigits? (digits ++ fraction) = some plain := by
  obtain ⟨tidy, hbehind, htidy⟩ := behindZeros?_eq h hplain hfraction '0'
  obtain ⟨c, behind, rfl, hc⟩ := h.exists_digit hplain
  have hzeros : dropZeros? (c :: behind ++ fraction) = some (tidy ++ fraction) :=
    (dropZeros?_of_isDigit hc).trans hbehind
  have hunderscore : '_' ∉ plain := fun hmem => ne_of_isDigit (hplain.allDigits _ hmem) rfl rfl
  have hpoint : ∀ d ∈ tidy, d ≠ '.' := by
    intro d hd
    rcases htidy.eq_or_mem d hd with rfl | hmem
    · decide
    · exact ne_of_isDigit (hplain.allDigits d hmem) rfl
  rw [tidyDigits?, hzeros, Option.map_some, dropPoint_append hpoint hfraction,
    dropUnderscores_eq htidy hunderscore hplain.ne_nil]

/-- Tidied up, the text of the integer is left. -/
theorem tidyInteger?_spelled (hsign : LineSign n sign)
    (hdigits : ZerosBefore zeros (Nat.toDigits 10 n.natAbs) digits)
    (hfraction : PointZeros fraction) :
    tidyInteger? (sign ++ (digits ++ fraction)) = some (toString n).toList := by
  have hwhole := Json.isWhole_toDigits n.natAbs
  have htidy := tidyDigits?_eq hdigits hwhole hfraction
  obtain ⟨c, behind, rfl, hc⟩ := hdigits.exists_digit hwhole
  have hminus : c ≠ '-' := ne_of_isDigit hc rfl
  have hplus : c ≠ '+' := ne_of_isDigit hc rfl
  cases hsign with
  | none hn =>
    rw [toList_toString_nonneg hn, ← htidy]
    simp [tidyInteger?, hminus, hplus]
  | plus hn =>
    rw [toList_toString_nonneg hn, ← htidy]
    simp [tidyInteger?, hminus]
  | minus hn =>
    rw [toList_toString_neg hn]
    exact congrArg (Option.map ('-' :: ·)) htidy

/-! ## Line numbers -/

theorem LineSign.isVisible (h : LineSign n sign) : ∀ c ∈ sign, IsVisible c := by
  cases h with
  | none => exact nofun
  | plus | minus => exact List.forall_mem_singleton.2 ⟨by decide, by decide⟩

theorem PointZeros.isVisible (h : PointZeros fraction) : ∀ c ∈ fraction, IsVisible c := by
  cases h with
  | none => exact nofun
  | zeros count =>
    refine List.forall_mem_cons.2 ⟨⟨by decide, by decide⟩, fun c hc => ?_⟩
    rw [List.eq_of_mem_replicate hc]
    exact ⟨by decide, by decide⟩

theorem isLineBlank_of_isVisible (h : IsVisible c) : isLineBlank c = false := by
  rw [isLineBlank, isBlankPoint_of_isVisible h, Bool.false_and]

/-- A blank is no part of a number. -/
theorem not_isVisible_of_isLineBlank (h : isLineBlank c = true) : ¬ IsVisible c := by
  intro hvisible
  rw [isLineBlank_of_isVisible hvisible] at h
  cases h

theorem isDigit_of_isLineBlank (h : isLineBlank c = true) : c.isDigit = false :=
  Bool.eq_false_of_not_eq_true fun hdigit =>
    not_isVisible_of_isLineBlank h (isNumeralChar_of_isDigit hdigit).isVisible

/-- A line number is read, however it is written. -/
theorem readLineText_spelled (hn : (toString n).length ≤ longestInteger)
    (h : LineSpelling n text) : readLineText (.ofChars text) = .ok n := by
  cases h with
  | @mk before sign digits fraction after zeros hbefore hsign hdigits hfraction hafter =>
    have hwhole := Json.isWhole_toDigits n.natAbs
    obtain ⟨first, others, hcons, -⟩ := hdigits.exists_digit hwhole
    have hvisible : ∀ c ∈ sign ++ (digits ++ fraction), (!isLineBlank c) = true := by
      intro c hc
      rw [Bool.not_eq_true', isLineBlank_of_isVisible]
      simp only [List.mem_append] at hc
      rcases hc with hc | hc | hc
      · exact hsign.isVisible c hc
      · exact hdigits.isVisible hwhole c hc
      · exact hfraction.isVisible c hc
    obtain ⟨hfirst, hlast⟩ := any_ends (by simp [hcons]) hvisible
    have htrim := trimEnds_surrounded hbefore hafter hfirst hlast
    have hraw : plainInteger (before ++ (sign ++ (digits ++ fraction)) ++ after) =
          .error .unreadableInteger ∨
        plainInteger (before ++ (sign ++ (digits ++ fraction)) ++ after) = .ok n := by
      cases before with
      | nil =>
        have hrest : (fraction ++ after).head?.any Char.isDigit = false := by
          cases hfraction with
          | none =>
            cases after with
            | nil => rfl
            | cons c after => exact isDigit_of_isLineBlank (hafter c List.mem_cons_self)
          | zeros count => rfl
        have hread := plainInteger_spelled hn hsign hdigits hrest
        simpa using hread
      | cons c before =>
        have hblank := hbefore c List.mem_cons_self
        have hminus : c ≠ '-' := by
          rintro rfl
          exact not_isVisible_of_isLineBlank hblank ⟨by decide, by decide⟩
        exact .inl ((plainInteger_of_ne hminus).trans
          (signedInteger_of_head false (isDigit_of_isLineBlank hblank)))
    rw [readLineText, Text.toChars?_ofChars]
    simp only [htrim, tidyInteger?_spelled hsign hdigits hfraction, Option.map_some,
      plainInteger_toString hn]
    rcases hraw with hraw | hraw <;> rw [hraw]

example : readLineText " +0_1_2.00 " = .ok 12 := by rfl

variable {data : Entries} {value : Tree}

theorem given?_insert_self (key : String) :
    given? (Entries.insert (Text.ofString key) value data) [key] = some value := by
  rw [given?, List.findSome?_cons, Entries.get?_insert, if_pos rfl]

theorem given?_insert_of_ne {key : Text} {keys : List String}
    (h : ∀ k ∈ keys, key ≠ Text.ofString k) :
    given? (Entries.insert key value data) keys = given? data keys := by
  induction keys with
  | nil => rfl
  | cons k keys ih =>
    obtain ⟨hk, hkeys⟩ := List.forall_mem_cons.1 h
    rw [given?] at ih
    rw [given?, given?, List.findSome?_cons, List.findSome?_cons, Entries.get?_insert, if_neg hk,
      ih hkeys, given?]

namespace EndpointRecord

variable {r : EndpointRecord}

/-- Only the line is read from under its key. -/
theorem Describes.insert_line (h : Describes data r) {line : Option Int}
    (hvalue : readLine value = .ok line) :
    Describes (Entries.insert "line" value data) { r with line := line } where
  method := (given?_insert_of_ne (by decide)).trans h.method
  path := by rw [given?_insert_of_ne (by decide), h.path]
  headers := by rw [given?_insert_of_ne (by decide), h.headers]
  queryParameters := by rw [given?_insert_of_ne (by decide), h.queryParameters]
  body := by rw [given?_insert_of_ne (by decide), h.body]
  sourceFile := (given?_insert_of_ne (by decide)).trans h.sourceFile
  resourceName := (given?_insert_of_ne (by decide)).trans h.resourceName
  kind := by rw [given?_insert_of_ne (by decide), h.kind]
  line := by rw [given?_insert_self, Option.getD_some, hvalue]

/-- Data that are accepted stay so with a line number in a text, however it is written. -/
theorem ofEntries_insert_line (h : ofEntries data = .valid r)
    (hn : (toString n).length ≤ longestInteger) (htext : LineSpelling n text) :
    ofEntries (Entries.insert "line" (.text (.ofChars text)) data) =
      .valid { r with line := some n } := by
  have hline : readLine (.text (.ofChars text)) = .ok (some n) := by
    rw [readLine, readLineText_spelled hn htext]
    rfl
  exact ofEntries_eq_valid_iff.2 ((ofEntries_eq_valid_iff.1 h).insert_line hline)

end EndpointRecord

end EndpointCatalog
