/-
EndpointCatalog.Proofs.Json.Numeral — numbers that are written are read back.

* `Numeral`: a number in parts, as the grammar has it. `readNumber?_text` is
  what it is read as.
* `readNumber?_ofNat`: an integer that is not too long is read as it was
  written.
* `exists_render_eq`: a finite number is written as a numeral that reads back
  as the number, positional or with an exponent.
-/
import EndpointCatalog.Json.Reader
import EndpointCatalog.Json.Writer
import EndpointCatalog.Proofs.Json.Grammar
import EndpointCatalog.Proofs.Number.Shortest

namespace EndpointCatalog.Json

/-- What stands behind a value that is written: a comma, a line break or nothing. -/
def Delimits (rest : List Char) : Prop :=
  ∀ c ∈ rest.head?, c = ',' ∨ c = '\n'

theorem AllDigits.cons {c : Char} {cs : List Char} (hc : c.isDigit = true) (h : AllDigits cs) :
    AllDigits (c :: cs) :=
  List.forall_mem_cons.2 ⟨hc, h⟩

theorem AllDigits.append {cs ds : List Char} (h : AllDigits cs) (h' : AllDigits ds) :
    AllDigits (cs ++ ds) :=
  List.forall_mem_append.2 ⟨h, h'⟩

/-! ## Numbers in parts -/

/-- A number in parts: its digits before and behind the point, and whether its exponent is
negative, with the digits of the exponent. -/
structure Numeral where
  whole : List Char
  fraction : List Char
  exponent : Option (Bool × List Char)

namespace Numeral

/-- The point and what follows it, if anything does. -/
def pointed (fraction : List Char) : List Char :=
  if fraction = [] then [] else '.' :: fraction

/-- An exponent. -/
def powered (exponent : Bool × List Char) : List Char :=
  'e' :: (if exponent.1 then '-' else '+') :: exponent.2

/-- The numeral as it is written, without a sign. -/
def text (n : Numeral) : List Char :=
  n.whole ++ (pointed n.fraction ++ n.exponent.elim [] powered)

/-- The number that all digits stand for. -/
def digits (n : Numeral) : Nat := Nat.ofDigitChars 10 (n.whole ++ n.fraction) 0

/-- The value of an exponent. -/
def power (exponent : Bool × List Char) : Int :=
  if exponent.1 then -(Nat.ofDigitChars 10 exponent.2 0 : Int)
  else Nat.ofDigitChars 10 exponent.2 0

/-- The place of the last digit. -/
def place (n : Numeral) : Int := n.exponent.elim 0 power - n.fraction.length

/-- The parts are digits, as many as the grammar demands. -/
structure WellFormed (n : Numeral) : Prop where
  whole : IsWhole n.whole
  fraction : AllDigits n.fraction
  exponent : ∀ e ∈ n.exponent, e.2 ≠ [] ∧ AllDigits e.2

variable {n : Numeral}

theorem WellFormed.parts (h : n.WellFormed) :
    IsFraction (pointed n.fraction) ∧ IsExponent (n.exponent.elim [] powered) := by
  constructor
  · rw [pointed]
    split
    · exact .none
    · next hne => exact .digits hne h.fraction
  · cases hexponent : n.exponent with
    | none => exact .none
    | some e =>
      obtain ⟨hne, hdigits⟩ := h.exponent e hexponent
      rw [Option.elim_some, powered]
      cases e.1 with
      | false => exact .digits (.inl rfl) .plus hne hdigits
      | true => exact .digits (.inl rfl) .minus hne hdigits

theorem WellFormed.isNumber (h : n.WellFormed) : IsNumber n.text :=
  .plain h.whole h.parts.1 h.parts.2

theorem WellFormed.isNumber_negative (h : n.WellFormed) : IsNumber ('-' :: n.text) :=
  .negative h.whole h.parts.1 h.parts.2

end Numeral

/-! ## Reading numbers -/

theorem ofDigits_eq (cs : List Char) :
    ofDigits 10 (cs.map fun c => c.toNat - '0'.toNat) = Nat.ofDigitChars 10 cs 0 := by
  rw [ofDigits, List.foldl_map, Nat.ofDigitChars_eq_foldl]
  simp only [Nat.mul_comm]

theorem Delimits.not_digit {rest : List Char} (h : Delimits rest) :
    rest.head?.any Char.isDigit = false := by
  cases rest with
  | nil => rfl
  | cons c rest => rcases h c rfl with rfl | rfl <;> rfl

theorem readFraction_pointed {fraction rest : List Char} (hfraction : AllDigits fraction)
    (hdigit : rest.head?.any Char.isDigit = false) (hpoint : rest.head? ≠ some '.') :
    readFraction (Numeral.pointed fraction ++ rest) = (fraction, rest) := by
  rw [Numeral.pointed]
  split
  · next hnone =>
    rw [hnone, List.nil_append, readFraction]
    rintro tail rfl
    exact hpoint rfl
  · next hne =>
    rw [List.cons_append, readFraction]
    simp only [takeWhile_digits hfraction hdigit, dropWhile_digits hfraction hdigit]

theorem readExponent_powered {exponent : Option (Bool × List Char)} {rest : List Char}
    (hexponent : ∀ e ∈ exponent, e.2 ≠ [] ∧ AllDigits e.2) (hrest : Delimits rest) :
    readExponent (exponent.elim [] Numeral.powered ++ rest) =
      (exponent.map Numeral.power, rest) := by
  cases exponent with
  | none =>
    cases rest with
    | nil => rfl
    | cons c rest => rcases hrest c rfl with rfl | rfl <;> rfl
  | some e =>
    obtain ⟨negative, ds⟩ := e
    obtain ⟨hne, hdigits⟩ := hexponent _ rfl
    have htake := takeWhile_digits hdigits hrest.not_digit
    have hdrop := dropWhile_digits hdigits hrest.not_digit
    have hsign : splitSign ((if negative then '-' else '+') :: (ds ++ rest)) =
        (negative, ds ++ rest) := by cases negative <;> rfl
    obtain ⟨d, ds, rfl⟩ := List.exists_cons_of_ne_nil hne
    rw [Option.elim_some, Numeral.powered, List.cons_append, List.cons_append, readExponent]
    simp only [hsign, htake, hdrop, ofDigits_eq, Option.map_some, Numeral.power]
    rfl

/-- A number is read up to its end: as an integer if it is whole, else as double-precision. -/
theorem readNumber?_text {n : Numeral} (h : n.WellFormed) {rest : List Char}
    (hrest : Delimits rest) (negative : Bool) :
    readNumber? negative (n.text ++ rest) =
      if n.fraction.isEmpty && n.exponent.isNone then
        if longestInteger < n.whole.length then none
        else some (.int (if negative then -(n.digits : Int) else n.digits), rest)
      else some (.float (Binary64.ofDecimal negative n.digits n.place), rest) := by
  obtain ⟨whole, fraction, exponent⟩ := n
  -- What follows the exponent, the fraction and the whole part begins with no digit.
  have hexponent := readExponent_powered h.exponent hrest
  have hbehind : (exponent.elim [] Numeral.powered ++ rest).head?.any Char.isDigit = false ∧
      (exponent.elim [] Numeral.powered ++ rest).head? ≠ some '.' := by
    cases exponent with
    | some e => exact ⟨rfl, by simp [Numeral.powered]⟩
    | none =>
      refine ⟨hrest.not_digit, fun hpoint => ?_⟩
      rcases hrest '.' hpoint with heq | heq <;> cases heq
  have hfraction := readFraction_pointed h.fraction hbehind.1 hbehind.2
  have hafter : (Numeral.pointed fraction ++ (exponent.elim [] Numeral.powered ++ rest)).head?.any
      Char.isDigit = false := by
    rw [Numeral.pointed]
    split
    · exact hbehind.1
    · rfl
  have hvalue : exponent.elim 0 Numeral.power = (exponent.map Numeral.power).getD 0 := by
    cases exponent <;> rfl
  have hnone : (exponent.map Numeral.power).isNone = exponent.isNone := Option.isNone_map
  have hwhole : IsWhole whole := h.whole
  rw [Numeral.text, List.append_assoc, List.append_assoc]
  cases hwhole with
  | zero =>
    rw [List.cons_append, List.nil_append, readNumber?]
    simp only [List.length_singleton, List.drop_succ_cons, List.drop_zero, hfraction, hexponent,
      hnone, List.isEmpty_cons, Bool.false_eq_true, if_false]
    rw [ofDigits_eq, Numeral.digits, Numeral.place, hvalue]
  | @digits first ds hfirst hne hds =>
    have htake := takeWhile_digits (List.forall_mem_cons.2 ⟨hfirst, hds⟩) hafter
    rw [List.cons_append] at htake ⊢
    have hdrop : (first :: (ds ++ (Numeral.pointed fraction ++
        (exponent.elim [] Numeral.powered ++ rest)))).drop (first :: ds).length =
          Numeral.pointed fraction ++ (exponent.elim [] Numeral.powered ++ rest) :=
      List.drop_left
    rw [readNumber?]
    · simp only [htake, hdrop, hfraction, hexponent, hnone, List.isEmpty_cons,
        Bool.false_eq_true, if_false]
      rw [ofDigits_eq, Numeral.digits, Numeral.place, hvalue]
    · rintro tail ⟨rfl, -⟩
      exact hne rfl

/-! ## Writing integers -/

/-- The digits of a positive number begin with none that is zero. -/
theorem exists_head_toDigits {n : Nat} (hn : 0 < n) :
    ∃ first rest, Nat.toDigits 10 n = first :: rest ∧ first.isDigit = true ∧ first ≠ '0' ∧
      AllDigits rest := by
  induction n using Nat.strong_induction_on with
  | _ n ih =>
    rcases Nat.lt_or_ge n 10 with hlt | hge
    · refine ⟨n.digitChar, [], Nat.toDigits_of_lt_base hlt, ?_, ?_, fun c hc => by cases hc⟩ <;>
        interval_cases n <;> decide
    · obtain ⟨first, rest, heq, hfirst, hne, hrest⟩ := ih (n / 10) (by omega) (by omega)
      refine ⟨first, rest ++ [(n % 10).digitChar], ?_, hfirst, hne, fun c hc => ?_⟩
      · rw [Nat.toDigits_of_base_le (by decide) hge, heq, List.cons_append]
      · rcases List.mem_append.1 hc with hc | hc
        · exact hrest c hc
        · have hlast : c ∈ Nat.toDigits 10 n := by
            rw [Nat.toDigits_of_base_le (by decide) hge]
            exact List.mem_append_right _ hc
          exact Nat.isDigit_of_mem_toDigits (by decide) (by decide) hlast

theorem isWhole_toDigits (n : Nat) : IsWhole (Nat.toDigits 10 n) := by
  rcases Nat.eq_zero_or_pos n with rfl | hn
  · exact .zero
  · obtain ⟨first, rest, heq, hfirst, hne, hrest⟩ := exists_head_toDigits hn
    rw [heq]
    exact .digits hfirst hne hrest

/-- A natural number as a numeral. -/
def Numeral.ofNat (n : Nat) : Numeral := ⟨Nat.toDigits 10 n, [], none⟩

theorem Numeral.wellFormed_ofNat (n : Nat) : (Numeral.ofNat n).WellFormed where
  whole := isWhole_toDigits n
  fraction := fun _ hc => by cases hc
  exponent := fun _ he => by cases he

theorem Numeral.text_ofNat (n : Nat) : (Numeral.ofNat n).text = Nat.toDigits 10 n :=
  List.append_nil _

theorem toList_toString_int (n : Int) :
    (toString n).toList = (if n < 0 then ['-'] else []) ++ (Numeral.ofNat n.natAbs).text := by
  rw [Numeral.text_ofNat]
  cases n with
  | ofNat n => exact String.toList_ofList
  | negSucc n =>
    have hneg : Int.negSucc n < 0 := Int.negSucc_lt_zero n
    rw [if_pos hneg]
    exact String.toList_append.trans (congrArg ('-' :: ·) String.toList_ofList)

/-- An integer of at most `longestInteger` digits is read as it was written. -/
theorem readNumber?_ofNat {n : Nat} (hn : (Nat.toDigits 10 n).length ≤ longestInteger)
    {rest : List Char} (hrest : Delimits rest) (negative : Bool) :
    readNumber? negative ((Numeral.ofNat n).text ++ rest) =
      some (.int (if negative then -(n : Int) else n), rest) := by
  have hdigits : (Numeral.ofNat n).digits = n := by
    rw [Numeral.digits, Numeral.ofNat, List.append_nil, Nat.ofDigitChars_ten_toDigits]
  rw [readNumber?_text (Numeral.wellFormed_ofNat n) hrest, hdigits]
  exact if_neg (Nat.not_lt.2 hn)

/-! ## Writing double-precision numbers -/

/-- The numeral stands for so many digits at a place, perhaps with a few zeros more. -/
def Numeral.StandsFor (n : Numeral) (digits : Nat) (place : Int) : Prop :=
  ∃ zeros : Nat, zeros ≤ 16 ∧ n.digits = digits * 10 ^ zeros ∧ n.place + zeros = place

section Digits

variable {first : Char} {rest : List Char}

theorem exists_scientific (hfirst : first.isDigit = true) (hne : first ≠ '0')
    (hrest : AllDigits rest) (width : Nat) (exponent : Int) :
    ∃ n : Numeral, n.WellFormed ∧ n.exponent.isNone = false ∧
      n.text = scientific width (first :: rest) exponent ∧
      n.StandsFor (Nat.ofDigitChars 10 (first :: rest) 0) (exponent - rest.length) := by
  let size := Nat.toDigits 10 exponent.natAbs
  let shown := List.replicate (width - size.length) '0' ++ size
  have hshown : Nat.ofDigitChars 10 shown 0 = exponent.natAbs := by
    rw [Nat.ofDigitChars_append, Nat.ofDigitChars_replicate_zero, Nat.mul_zero,
      Nat.ofDigitChars_ten_toDigits]
  have hdigits : AllDigits shown := fun c hc => by
    rcases List.mem_append.1 hc with hc | hc
    · rw [List.eq_of_mem_replicate hc]
      rfl
    · exact Nat.isDigit_of_mem_toDigits (by decide) (by decide) hc
  have hnonempty : shown ≠ [] :=
    List.append_ne_nil_of_right_ne_nil _ (List.ne_nil_of_length_pos Nat.length_toDigits_pos)
  refine ⟨⟨[first], rest, some (decide (exponent < 0), shown)⟩, ⟨.digits hfirst hne
    fun _ hc => (List.not_mem_nil hc).elim, hrest, fun e he => ?_⟩, rfl, ?_, 0,
    by decide, ?_, ?_⟩
  · obtain rfl := Option.some.inj he
    exact ⟨hnonempty, hdigits⟩
  · rw [Numeral.text, Numeral.pointed, Option.elim_some, Numeral.powered]
    cases rest <;> simp [scientific, shown, size]
  · rw [Numeral.digits, List.singleton_append, pow_zero, Nat.mul_one]
  · simp only [Numeral.place, Option.elim_some, Numeral.power, hshown, decide_eq_true_eq]
    split <;> omega

theorem allDigits_zeros (count : Nat) : AllDigits (List.replicate count '0') := fun c hc => by
  rw [List.eq_of_mem_replicate hc]
  rfl

/-- A number below one: zeros stand behind the point. -/
theorem exists_positional_neg (hfirst : first.isDigit = true) (hrest : AllDigits rest)
    {exponent : Int} (hneg : exponent < 0) :
    ∃ n : Numeral, n.WellFormed ∧ n.fraction ≠ [] ∧
      n.text = positional (first :: rest) exponent ∧
      n.StandsFor (Nat.ofDigitChars 10 (first :: rest) 0) (exponent - rest.length) := by
  refine ⟨⟨['0'], List.replicate ((-exponent).toNat - 1) '0' ++ (first :: rest), none⟩,
    ⟨.zero, ?_, fun _ he => by cases he⟩, by simp, ?_, 0, by decide, ?_, ?_⟩
  · exact (allDigits_zeros _).append (.cons hfirst hrest)
  · rw [positional, if_pos hneg, Numeral.text, Numeral.pointed, if_neg (by simp)]
    simp
  · rw [Numeral.digits, Nat.ofDigitChars_append, Nat.ofDigitChars_append,
      Nat.ofDigitChars_replicate_zero, pow_zero, Nat.mul_one]
    simp [Nat.ofDigitChars_cons]
  · simp only [Numeral.place, Option.elim_none, List.length_append, List.length_replicate,
      List.length_cons]
    omega

/-- A number with fewer digits than stand before its point: it is filled up with zeros. -/
theorem exists_positional_filled (hfirst : first.isDigit = true) (hne : first ≠ '0')
    (hrest : AllDigits rest) {whole : Nat} (hle : rest.length ≤ whole) (hwhole : whole < 16) :
    ∃ n : Numeral, n.WellFormed ∧ n.fraction ≠ [] ∧
      n.text = positional (first :: rest) whole ∧
      n.StandsFor (Nat.ofDigitChars 10 (first :: rest) 0) (whole - rest.length) := by
  refine ⟨⟨first :: (rest ++ List.replicate (whole - rest.length) '0'), ['0'], none⟩,
    ⟨.digits hfirst hne (hrest.append (allDigits_zeros _)), allDigits_zeros 1,
      fun _ he => by cases he⟩, by simp, ?_, whole - rest.length + 1, by omega, ?_, ?_⟩
  · rw [positional, if_neg (by omega), Numeral.text, Numeral.pointed, if_neg (by simp)]
    simp [List.take_append, List.drop_append, hle]
  · rw [Numeral.digits, ← List.cons_append, Nat.ofDigitChars_append, Nat.ofDigitChars_append,
      Nat.ofDigitChars_replicate_zero]
    rw [show ['0'] = List.replicate 1 '0' from rfl, Nat.ofDigitChars_replicate_zero]
    ring
  · simp only [Numeral.place, Option.elim_none, List.length_singleton]
    omega

/-- A number with digits behind its point. -/
theorem exists_positional_split (hfirst : first.isDigit = true) (hne : first ≠ '0')
    (hrest : AllDigits rest) {whole : Nat} (hlt : whole < rest.length) :
    ∃ n : Numeral, n.WellFormed ∧ n.fraction ≠ [] ∧
      n.text = positional (first :: rest) whole ∧
      n.StandsFor (Nat.ofDigitChars 10 (first :: rest) 0) (whole - rest.length) := by
  have hdrop : rest.drop whole ≠ [] := by
    rw [ne_eq, List.drop_eq_nil_iff]
    exact Nat.not_le.2 hlt
  refine ⟨⟨first :: rest.take whole, rest.drop whole, none⟩, ⟨.digits hfirst hne
    fun c hc => hrest c (List.mem_of_mem_take hc), fun c hc => hrest c (List.mem_of_mem_drop hc),
    fun _ he => by cases he⟩, hdrop, ?_, 0, by decide, ?_, ?_⟩
  · have hnone : whole - rest.length = 0 := by omega
    rw [positional, if_neg (by omega), Numeral.text, Numeral.pointed, if_neg hdrop]
    simp [hnone, hdrop]
  · rw [Numeral.digits, List.cons_append, List.take_append_drop, pow_zero, Nat.mul_one]
  · simp only [Numeral.place, Option.elim_none, List.length_drop]
    omega

theorem exists_positional (hfirst : first.isDigit = true) (hne : first ≠ '0')
    (hrest : AllDigits rest) {exponent : Int} (hexponent : exponent < 16) :
    ∃ n : Numeral, n.WellFormed ∧ n.fraction ≠ [] ∧
      n.text = positional (first :: rest) exponent ∧
      n.StandsFor (Nat.ofDigitChars 10 (first :: rest) 0) (exponent - rest.length) := by
  rcases Int.lt_or_le exponent 0 with hneg | hpos
  · exact exists_positional_neg hfirst hrest hneg
  · obtain ⟨whole, rfl⟩ := Int.eq_ofNat_of_zero_le hpos
    rcases Nat.lt_or_ge whole rest.length with hlt | hge
    · exact exists_positional_split hfirst hne hrest hlt
    · exact exists_positional_filled hfirst hne hrest hge (by omega)

end Digits

/-- The digits of a positive number are those that count and zeros behind them. -/
theorem exists_dropTrailingZeros {n : Nat} (hn : 0 < n) :
    ∃ first rest zeros, dropTrailingZeros (Nat.toDigits 10 n) = first :: rest ∧
      first.isDigit = true ∧ first ≠ '0' ∧ AllDigits rest ∧
      (Nat.toDigits 10 n).length = rest.length + 1 + zeros ∧
      n = Nat.ofDigitChars 10 (first :: rest) 0 * 10 ^ zeros := by
  obtain ⟨first, rest, heq, hfirst, hne, hrest⟩ := exists_head_toDigits hn
  obtain ⟨kept, zeros, hsplit, hkept⟩ : ∃ kept zeros, Nat.toDigits 10 n =
      kept ++ List.replicate zeros '0' ∧ dropTrailingZeros (Nat.toDigits 10 n) = kept := by
    refine ⟨_, ((Nat.toDigits 10 n).reverse.takeWhile (· == '0')).length, ?_, rfl⟩
    have hzeros : (Nat.toDigits 10 n).reverse.takeWhile (· == '0') =
        List.replicate ((Nat.toDigits 10 n).reverse.takeWhile (· == '0')).length '0' :=
      List.eq_replicate_of_mem fun c hc => by simpa using List.mem_takeWhile_imp hc
    rw [dropTrailingZeros, ← List.reverse_replicate, ← hzeros, ← List.reverse_append,
      List.takeWhile_append_dropWhile, List.reverse_reverse]
  cases kept with
  | nil =>
    cases zeros with
    | zero => simp [heq] at hsplit
    | succ zeros =>
      rw [heq, List.nil_append, List.replicate_succ, List.cons.injEq] at hsplit
      exact absurd hsplit.1 hne
  | cons c kept =>
    have hsplit' := hsplit
    rw [heq, List.cons_append, List.cons.injEq] at hsplit'
    obtain ⟨rfl, rfl⟩ := hsplit'
    refine ⟨first, kept, zeros, hkept, hfirst, hne,
      fun c hc => hrest c (List.mem_append_left _ hc), ?_, ?_⟩
    · rw [hsplit, List.length_append, List.length_replicate, List.length_cons]
    · have hvalue := Nat.ofDigitChars_ten_toDigits (n := n)
      rw [hsplit, Nat.ofDigitChars_append, Nat.ofDigitChars_replicate_zero, Nat.mul_comm] at hvalue
      exact hvalue.symm

theorem decimalValue_mul_pow (digits zeros : Nat) (place : Int) :
    Binary64.decimalValue (digits * 10 ^ zeros) place =
      Binary64.decimalValue digits (place + zeros) := by
  rw [Binary64.decimalValue, Binary64.decimalValue, zpow_add₀ (by norm_num), zpow_natCast]
  push_cast
  ring

theorem shortestDigits?_of_zero {x : Binary64} (hzero : x.magnitude = 0) :
    x.shortestDigits? = none := by
  rw [Binary64.shortestDigits?, Binary64.toRatio?, hzero]
  rfl

theorem toList_render {x : Binary64} (hfinite : x.magnitude < Binary64.infinityMagnitude)
    (format : FloatFormat) :
    (x.render format).toList = (if x.isNegative then ['-'] else []) ++
      x.shortestDigits?.elim ['0', '.', '0'] fun shortest =>
        let all := Nat.toDigits 10 shortest.1
        let exponent := shortest.2 + (all.length : Int) - 1
        if format.leastPositional ≤ exponent && exponent < format.firstScientific then
          positional (dropTrailingZeros all) exponent
        else scientific format.exponentWidth (dropTrailingZeros all) exponent := by
  have hnan : x.isNaN = false := decide_eq_false (Nat.not_lt.2 hfinite.le)
  have hinfinite : x.isInfinite = false := beq_false_of_ne hfinite.ne
  have hsign : (if x.isNegative then "-" else "").toList = if x.isNegative then ['-'] else [] :=
    apply_ite String.toList _ _ _
  rw [Binary64.render, hnan, hinfinite, ← hsign]
  cases x.shortestDigits? with
  | none => exact String.toList_append
  | some shortest => exact String.toList_append.trans (congrArg _ String.toList_ofList)

/-- A numeral that says the digits of a number reads back as the number. -/
theorem ofDecimal_of_standsFor {x : Binary64} {n : Numeral} {digits digits' zeros : Nat}
    {place place' : Int} (hreads : Binary64.ReadsAs x digits place)
    (hdigits : digits = digits' * 10 ^ zeros) (hzeros : zeros ≤ 17)
    (hplace : place' = place + zeros) (hstands : n.StandsFor digits' place') :
    Binary64.ofDecimal x.isNegative n.digits n.place = x := by
  obtain ⟨more, hmore, hn, hnplace⟩ := hstands
  have hlow := hreads.low
  have hhigh := hreads.high
  have hvalue : Binary64.decimalValue digits place = Binary64.decimalValue n.digits n.place := by
    rw [hdigits, hn, decimalValue_mul_pow, decimalValue_mul_pow, hnplace, hplace]
  have hbound : n.digits < 10 ^ 40 := by
    have hle : digits' ≤ 10 ^ 17 := by
      refine le_trans ?_ (hdigits ▸ hreads.le)
      exact Nat.le_mul_of_pos_right _ (by positivity)
    calc n.digits = digits' * 10 ^ more := hn
      _ ≤ 10 ^ 17 * 10 ^ 16 := Nat.mul_le_mul hle (Nat.pow_le_pow_right (by decide) hmore)
      _ < 10 ^ 40 := by norm_num
  rw [← Binary64.ofDecimal_congr hreads.pos (hreads.le.trans_lt (by norm_num)) (by omega)
    (by omega) hbound (by omega) (by omega) hvalue]
  exact hreads.ofDecimal_eq

/-- A finite number is written as a numeral that is no integer and reads back as the number. -/
theorem exists_render_eq {x : Binary64} (hfinite : x.magnitude < Binary64.infinityMagnitude) :
    ∃ n : Numeral, n.WellFormed ∧ (n.fraction.isEmpty && n.exponent.isNone) = false ∧
      (x.render floatFormat).toList = (if x.isNegative then ['-'] else []) ++ n.text ∧
      Binary64.ofDecimal x.isNegative n.digits n.place = x := by
  rw [toList_render hfinite]
  generalize (if x.isNegative then ['-'] else []) = sign
  by_cases hzero : x.magnitude = 0
  · refine ⟨⟨['0'], ['0'], none⟩, ⟨.zero, allDigits_zeros 1, fun _ he => by cases he⟩, rfl, ?_, ?_⟩
    · rw [shortestDigits?_of_zero hzero]
      rfl
    · have hx := Binary64.ofMagnitude_magnitude x
      rw [hzero] at hx
      exact hx
  · obtain ⟨digits, place, hshortest, hreads⟩ := Binary64.exists_shortestDigits hzero hfinite
    obtain ⟨first, rest, zeros, hdrop, hfirst, hne, hrest, hlength, hdigits⟩ :=
      exists_dropTrailingZeros hreads.pos
    have hle : (Nat.toDigits 10 digits).length ≤ 18 :=
      (Nat.length_toDigits_le_iff (by decide) (by decide)).2 (hreads.le.trans_lt (by norm_num))
    rw [hshortest, Option.elim_some]
    simp only [hdrop]
    -- The zeros that were dropped at the end are in the place of the digits that are left.
    split
    · next hpositional =>
      rw [Bool.and_eq_true, decide_eq_true_eq, decide_eq_true_eq] at hpositional
      obtain ⟨n, hwell, hfraction, htext, hstands⟩ :=
        exists_positional hfirst hne hrest hpositional.2
      refine ⟨n, hwell, by simp [hfraction], by rw [htext],
        ofDecimal_of_standsFor hreads hdigits (by omega) ?_ hstands⟩
      omega
    · obtain ⟨n, hwell, hexponent, htext, hstands⟩ := exists_scientific hfirst hne hrest 2
        (place + ((Nat.toDigits 10 digits).length : Int) - 1)
      refine ⟨n, hwell, by rw [hexponent, Bool.and_false], by rw [htext]; rfl,
        ofDecimal_of_standsFor hreads hdigits (by omega) ?_ hstands⟩
      omega

end EndpointCatalog.Json
