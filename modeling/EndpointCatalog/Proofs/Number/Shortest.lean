/-
EndpointCatalog.Proofs.Number.Shortest — the digits of a number read back.

* `ofDecimal_congr`: what a decimal is read as depends on its value alone.
* `exists_shortestDigits`: every finite number but zero has shortest digits,
  and they read back. Seventeen digits are always enough: the nearer of the
  two decimals around a number is at most half of their distance away, and
  this is less than the `2^54`-th part of the number, for `2^53 < 10^16`.
-/
import EndpointCatalog.Number.Shortest
import EndpointCatalog.Proofs.Number.Rounding

namespace EndpointCatalog.Binary64

variable {num den : Nat} {x : Binary64}

/-! ## Signs -/

theorem magnitude_ofMagnitude {magnitude : Nat} (h : magnitude < signBit) (negative : Bool) :
    (ofMagnitude negative magnitude).magnitude = magnitude := by
  rw [signBit] at h
  rw [Binary64.magnitude, ofMagnitude, signBit]
  cases negative <;>
    simp only [Bool.false_eq_true, if_true, if_false, UInt64.toNat_ofNat'] <;> omega

/-- A number is its sign and its magnitude. -/
theorem ofMagnitude_magnitude (x : Binary64) : ofMagnitude x.isNegative x.magnitude = x := by
  obtain ⟨bits⟩ := x
  have hbits := bits.toNat_lt
  rw [ofMagnitude, isNegative, magnitude, signBit]
  congr 1
  rw [← UInt64.toNat_inj, UInt64.toNat_ofNat']
  dsimp only
  split
  · next h =>
    rw [decide_eq_true_eq] at h
    omega
  · next h =>
    rw [decide_eq_true_eq] at h
    omega

theorem magnitudeOfRatio_le (num den : Nat) : magnitudeOfRatio num den ≤ infinityMagnitude := by
  rcases Nat.eq_zero_or_pos num with rfl | hnum
  · rw [magnitudeOfRatio, if_pos rfl]
    exact Nat.zero_le _
  · rw [magnitudeOfRatio_eq hnum]
    exact Nat.min_le_right _ _

theorem magnitude_ofRatio (negative : Bool) (num den : Nat) :
    (ofRatio negative num den).magnitude = magnitudeOfRatio num den :=
  magnitude_ofMagnitude ((magnitudeOfRatio_le num den).trans_lt (by decide)) negative

/-! ## Decimals -/

/-- The value of a decimal. -/
def decimalValue (digits : Nat) (place : Int) : ℚ := digits * 10 ^ place

theorem tenTo_pos (n : Nat) : 0 < tenTo n := Nat.pow_pos (by decide)

theorem cast_tenTo (n : Nat) : ((tenTo n : Nat) : ℚ) = 10 ^ n := by
  rw [tenTo, Nat.pow_eq, Nat.cast_pow, Nat.cast_ofNat]

/-- A decimal as a quotient of naturals. -/
theorem decimalValue_eq (digits : Nat) (place : Int) : decimalValue digits place =
    quotient (digits * tenTo place.toNat) (tenTo (-place).toNat) := by
  have hpow := zpow_eq_quotient 10 place
  rw [Nat.cast_ofNat, quotient, Nat.cast_pow, Nat.cast_pow, Nat.cast_ofNat] at hpow
  rw [decimalValue, quotient, Nat.cast_mul, cast_tenTo, cast_tenTo, hpow, mul_div_assoc]

/-- A decimal of ordinary size is read as the quotient that it is. -/
theorem ofDecimal_eq {digits : Nat} {place : Int} (hpos : 0 < digits) (hdigits : digits < 10 ^ 40)
    (hlow : -400 ≤ place) (hhigh : place ≤ 350) (negative : Bool) :
    ofDecimal negative digits place =
      ofRatio negative (digits * tenTo place.toNat) (tenTo (-place).toNat) := by
  have hlog : Nat.log2 digits < 133 :=
    (Nat.log2_lt hpos.ne').2 (hdigits.trans (by decide))
  rw [ofDecimal, if_neg hpos.ne']
  dsimp only
  rw [if_neg (by omega), if_neg (by omega)]
  split
  · next h =>
    rw [Int.toNat_of_nonpos (Int.neg_nonpos_of_nonneg h)]
    rfl
  · next h =>
    have hone : tenTo 0 = 1 := rfl
    rw [Int.toNat_of_nonpos (Int.le_of_not_le h), hone, Nat.mul_one]

/-- What a decimal is read as depends on its value alone. -/
theorem ofDecimal_congr {digits digits' : Nat} {place place' : Int} (hpos : 0 < digits)
    (hdigits : digits < 10 ^ 40) (hlow : -400 ≤ place) (hhigh : place ≤ 350)
    (hdigits' : digits' < 10 ^ 40) (hlow' : -400 ≤ place') (hhigh' : place' ≤ 350)
    (h : decimalValue digits place = decimalValue digits' place') (negative : Bool) :
    ofDecimal negative digits place = ofDecimal negative digits' place' := by
  have hpos' : 0 < digits' := by
    by_contra hzero
    have hten : (10 : ℚ) ^ place ≠ 0 := zpow_ne_zero _ (by norm_num)
    rw [Nat.eq_zero_of_not_pos hzero, decimalValue, decimalValue, Nat.cast_zero, zero_mul,
      mul_eq_zero, or_iff_left hten, Nat.cast_eq_zero] at h
    exact hpos.ne' h
  rw [decimalValue_eq, decimalValue_eq, quotient_eq_iff (tenTo_pos _) (tenTo_pos _)] at h
  rw [ofDecimal_eq hpos hdigits hlow hhigh, ofDecimal_eq hpos' hdigits' hlow' hhigh', ofRatio,
    ofRatio, magnitudeOfRatio_congr (tenTo_pos _) (tenTo_pos _) h]

/-! ## Decimals around a quotient -/

/-- The number of digits of a natural. -/
theorem length_toDigits_eq {n k : Nat} (hlow : 10 ^ k ≤ n) (hhigh : n < 10 ^ (k + 1)) :
    (Nat.toDigits 10 n).length = k + 1 := by
  refine le_antisymm ((Nat.length_toDigits_le_iff (by decide) (Nat.succ_pos k)).2 hhigh) ?_
  rcases Nat.eq_zero_or_pos k with rfl | hk
  · exact Nat.length_toDigits_pos
  · by_contra hshort
    have hle : (Nat.toDigits 10 n).length ≤ k := by omega
    exact absurd ((Nat.length_toDigits_le_iff (by decide) hk).1 hle) (Nat.not_lt.2 hlow)

theorem exists_length_toDigits {n : Nat} (hn : 0 < n) : ∃ k, (Nat.toDigits 10 n).length = k + 1 ∧
    10 ^ k ≤ n ∧ n < 10 ^ (k + 1) :=
  ⟨Nat.log 10 n, length_toDigits_eq (Nat.pow_log_le_self 10 hn.ne')
    (Nat.lt_pow_succ_log_self (by decide) n), Nat.pow_log_le_self 10 hn.ne',
    Nat.lt_pow_succ_log_self (by decide) n⟩

theorem decimalExponent_eq (hnum : 0 < num) (hden : 0 < den) :
    decimalExponent num den = Int.log 10 (quotient num den) := by
  have hden0 : (0 : ℚ) < den := Nat.cast_pos.2 hden
  have hnum0 : (0 : ℚ) < num := Nat.cast_pos.2 hnum
  rw [decimalExponent]
  refine Eq.symm ?_
  split
  · next h =>
    obtain ⟨k, hlength, hlow, hhigh⟩ := exists_length_toDigits (Nat.div_pos h hden)
    rw [hlength]
    push_cast
    rw [add_sub_cancel_right]
    refine log_eq (b := 10) (by decide) ?_ ?_
    · rw [quotient, zpow_natCast, le_div_iff₀ hden0]
      exact_mod_cast (Nat.le_div_iff_mul_le hden).1 hlow
    · rw [quotient, div_lt_iff₀ hden0]
      exact_mod_cast (Nat.div_lt_iff_lt_mul hden).1 hhigh
  · next h =>
    have hpos : 0 < (den - 1) / num := Nat.div_pos (by omega) hnum
    obtain ⟨k, hlength, hlow, hhigh⟩ := exists_length_toDigits hpos
    have hden' : den ≤ 10 ^ (k + 1) * num := by
      have hlt := (Nat.div_lt_iff_lt_mul hnum).1 hhigh
      omega
    have hden'' : 10 ^ k * num < den := by
      have hle := (Nat.le_div_iff_mul_le hnum).1 hlow
      omega
    rw [hlength]
    refine log_eq (b := 10) (by decide) ?_ ?_
    · rw [quotient, zpow_neg, zpow_natCast, inv_eq_one_div, div_le_div_iff₀ (by positivity) hden0]
      rw [one_mul, mul_comm]
      exact_mod_cast hden'
    · have hexponent : -((k + 1 : Nat) : Int) + 1 = -(k : Int) := by push_cast; ring
      rw [hexponent, quotient, zpow_neg, zpow_natCast, inv_eq_one_div,
        div_lt_div_iff₀ hden0 (by positivity), one_mul, mul_comm]
      exact_mod_cast hden''

/-- The grid point below a quotient. -/
structure Below (count num den digits : Nat) (place : Int) : Prop where
  place_eq : place = Int.log 10 (quotient num den) - count + 1
  le : decimalValue digits place ≤ quotient num den
  lt : quotient num den < decimalValue (digits + 1) place

theorem gridBelow_below (hnum : 0 < num) (hden : 0 < den) (count : Nat) :
    Below count num den (gridBelow count num den).1 (gridBelow count num den).2 := by
  have hfloor : ∀ {a b : Nat} {place : Int}, 0 < b → (a : ℚ) / b = quotient num den / 10 ^ place →
      decimalValue (a / b) place ≤ quotient num den ∧
        quotient num den < decimalValue (a / b + 1) place := by
    intro a b place hb hab
    have hten : (0 : ℚ) < 10 ^ place := by positivity
    have hb0 : (0 : ℚ) < b := Nat.cast_pos.2 hb
    rw [decimalValue, decimalValue, ← le_div_iff₀ hten, ← div_lt_iff₀ hten, ← hab,
      le_div_iff₀ hb0, div_lt_iff₀ hb0]
    exact ⟨by exact_mod_cast Nat.div_mul_le_self a b,
      by exact_mod_cast Nat.lt_mul_of_div_lt (Nat.lt_succ_self (a / b)) hb⟩
  have hplace := decimalExponent_eq hnum hden
  rw [gridBelow, hplace]
  generalize hp : Int.log 10 (quotient num den) - (count : Int) + 1 = place
  split
  · next h =>
    obtain ⟨k, rfl⟩ := Int.eq_ofNat_of_zero_le h
    have hquotient : (num : ℚ) / (den * tenTo k : Nat) = quotient num den / 10 ^ (k : Int) := by
      rw [quotient, zpow_natCast, div_div, Nat.cast_mul, cast_tenTo]
    obtain ⟨hle, hlt⟩ := hfloor (Nat.mul_pos hden (tenTo_pos k)) hquotient
    exact ⟨hp.symm, hle, hlt⟩
  · next h =>
    obtain ⟨k, hk⟩ := Int.eq_ofNat_of_zero_le (Int.neg_nonneg_of_nonpos (Int.le_of_not_le h))
    obtain rfl : place = -(k : Int) := by omega
    have hquotient : ((num * tenTo k : Nat) : ℚ) / den = quotient num den / 10 ^ (-(k : Int)) := by
      rw [quotient, zpow_neg, zpow_natCast, div_inv_eq_mul, Nat.cast_mul, cast_tenTo,
        div_mul_eq_mul_div]
    obtain ⟨hle, hlt⟩ := hfloor hden hquotient
    rw [neg_neg, Int.toNat_natCast]
    exact ⟨hp.symm, hle, hlt⟩

/-- A grid point has no more digits than asked for. -/
theorem Below.digits_lt {count digits : Nat} {place : Int}
    (h : Below count num den digits place) : digits < 10 ^ count := by
  have hten : (0 : ℚ) < 10 ^ place := by positivity
  have hlt : quotient num den < 10 ^ (Int.log 10 (quotient num den) + 1) := by
    exact_mod_cast Int.lt_zpow_succ_log_self (b := 10) (by decide) (quotient num den)
  have hplace : Int.log 10 (quotient num den) + 1 = (count : Int) + place := by
    rw [h.place_eq]
    ring
  rw [hplace, zpow_add₀ (by norm_num), zpow_natCast] at hlt
  have hdigits := (lt_of_le_of_lt h.le hlt)
  rw [decimalValue, mul_lt_mul_iff_of_pos_right hten] at hdigits
  exact_mod_cast hdigits

/-! ## Shortest digits -/

/-- Seventeen digits are enough: the nearer grid point reads back. -/
theorem Below.near {n digits : Nat} {unit place : Int} (h : Below 17 num den digits place)
    (hnum : 0 < num) (hden : 0 < den) (hvalue : quotient num den = n * 2 ^ unit) :
    |decimalValue digits place - n * 2 ^ unit| * 2 ^ 54 < n * 2 ^ unit ∨
      |decimalValue (digits + 1) place - n * 2 ^ unit| * 2 ^ 54 < n * 2 ^ unit := by
  have hten : (0 : ℚ) < 10 ^ place := by positivity
  have hlog : (10 : ℚ) ^ (place + 16) ≤ quotient num den := by
    have hplace : place + 16 = Int.log 10 (quotient num den) := by
      rw [h.place_eq]
      push_cast
      ring
    rw [hplace]
    exact_mod_cast Int.zpow_log_le_self (b := 10) (by decide) (quotient_pos hnum hden)
  have hpow : (10 : ℚ) ^ (place + 16) = 10 ^ 16 * 10 ^ place := by
    rw [zpow_add₀ (by norm_num), mul_comm]
    rfl
  have hstep : decimalValue (digits + 1) place = decimalValue digits place + 10 ^ place := by
    rw [decimalValue, decimalValue]
    push_cast
    ring
  have hle := h.le
  have hlt := h.lt
  rw [hstep] at hlt ⊢
  rw [hpow] at hlog
  rw [← hvalue, abs_of_nonpos (by linarith), abs_of_nonneg (by linarith)]
  -- One of them is no more than half of their distance away.
  by_contra hneither
  rw [not_or, not_lt, not_lt] at hneither
  linarith [hneither.1, hneither.2]

/-- Some digits and a place that are read as a number. -/
structure ReadsAs (x : Binary64) (digits : Nat) (place : Int) : Prop where
  pos : 0 < digits
  le : digits ≤ 10 ^ 17
  low : -340 ≤ place
  high : place ≤ 308
  magnitude : (ofDecimal false digits place).magnitude = x.magnitude

/-- Finite numbers but zero lie between `10^-324` and `10^309`. -/
theorem Unpacked.log_bounds {n : Nat} {unit : Int} (h : Unpacked x n unit)
    (hfinite : x.magnitude < infinityMagnitude) :
    -324 ≤ Int.log 10 ((n : ℚ) * 2 ^ unit) ∧ Int.log 10 ((n : ℚ) * 2 ^ unit) ≤ 308 := by
  have hunit : unit ≤ 971 := by
    have hpattern := h.pattern
    have hlt := h.lt
    rw [patternOf] at hpattern
    split at hpattern
    · next hsmall =>
      have hleast := h.normal.resolve_right (Nat.not_le.2 hsmall)
      omega
    · next hlarge =>
      rw [exponentBit] at hpattern hlarge hlt
      rw [infinityMagnitude] at hfinite
      omega
  have hn : (1 : ℚ) ≤ n := by exact_mod_cast h.pos
  have hn' : (n : ℚ) < 2 ^ 53 := by
    have hlt := h.lt
    rw [exponentBit] at hlt
    exact_mod_cast hlt
  have hpos : (0 : ℚ) < n * 2 ^ unit := by positivity
  have hlow : (2 : ℚ) ^ (-1074 : Int) ≤ n * 2 ^ unit :=
    calc (2 : ℚ) ^ (-1074 : Int) ≤ 2 ^ unit := zpow_le_zpow_right₀ one_le_two h.least_le
      _ ≤ n * 2 ^ unit := le_mul_of_one_le_left (by positivity) hn
  have hhigh : (n : ℚ) * 2 ^ unit < 2 ^ (1024 : Int) :=
    calc (n : ℚ) * 2 ^ unit < 2 ^ 53 * 2 ^ unit := by gcongr
      _ ≤ 2 ^ 53 * 2 ^ (971 : Int) := by
        gcongr
        exact one_le_two
      _ = 2 ^ (1024 : Int) := by
        rw [← zpow_natCast, ← zpow_add₀ two_ne_zero]
        rfl
  constructor
  · have hpow : 2 ^ 1074 ≤ 10 ^ 324 := by decide +kernel
    have hcast : (2 : ℚ) ^ 1074 ≤ 10 ^ 324 := by exact_mod_cast hpow
    refine (Int.zpow_le_iff_le_log (b := 10) (by decide) hpos).1 (le_trans ?_ hlow)
    exact inv_anti₀ (by positivity) hcast
  · have hpow : 2 ^ 1024 < 10 ^ 309 := by decide +kernel
    have hcast : (2 : ℚ) ^ 1024 < 10 ^ 309 := by exact_mod_cast hpow
    refine Int.lt_add_one_iff.1
      ((Int.lt_zpow_iff_log_lt (b := 10) (by decide) hpos).1 (hhigh.trans hcast))

theorem gridHit?_eq_some {count digits : Nat} {place : Int}
    (h : gridHit? x count num den = some (digits, place)) :
    place = (gridBelow count num den).2 ∧
      (digits = (gridBelow count num den).1 ∨ digits = (gridBelow count num den).1 + 1) ∧
      (ofDecimal false digits place).magnitude = x.magnitude := by
  rw [gridHit?] at h
  dsimp only at h
  split at h
  · next hlow hhigh =>
    split at h
    · cases h
      exact ⟨rfl, .inr rfl, beq_iff_eq.1 hhigh⟩
    · cases h
      exact ⟨rfl, .inl rfl, beq_iff_eq.1 hlow⟩
  · next hlow _ =>
    cases h
    exact ⟨rfl, .inl rfl, beq_iff_eq.1 hlow⟩
  · next _ hhigh =>
    cases h
    exact ⟨rfl, .inr rfl, beq_iff_eq.1 hhigh⟩
  · cases h

theorem isSome_gridHit? {count digits : Nat}
    (hdigits : digits = (gridBelow count num den).1 ∨ digits = (gridBelow count num den).1 + 1)
    (h : (ofDecimal false digits (gridBelow count num den).2).magnitude = x.magnitude) :
    (gridHit? x count num den).isSome := by
  rw [gridHit?]
  dsimp only
  split
  · split <;> rfl
  · rfl
  · rfl
  · next hlow hhigh =>
    rcases hdigits with rfl | rfl
    · rw [h, beq_self_eq_true] at hlow
      cases hlow
    · rw [h, beq_self_eq_true] at hhigh
      cases hhigh

/-- The shortest digits of a finite number but zero are there, and they read back. -/
theorem exists_shortestDigits (hne : x.magnitude ≠ 0)
    (hfinite : x.magnitude < infinityMagnitude) :
    ∃ digits place, x.shortestDigits? = some (digits, place) ∧ ReadsAs x digits place := by
  obtain ⟨n, unit, hx⟩ := exists_unpacked hne hfinite
  obtain ⟨num, den, hratio, hnum, hden, hvalue⟩ := hx.value
  obtain ⟨hloglow, hloghigh⟩ := hx.log_bounds hfinite
  rw [← hvalue] at hloglow hloghigh
  have hshortest : x.shortestDigits? = (List.range 17).findSome? fun i =>
      gridHit? x (i + 1) num den := by
    rw [shortestDigits?, hratio]
    dsimp only
    rw [if_neg hnum.ne']
  have hlast : (gridHit? x 17 num den).isSome := by
    have hbelow := gridBelow_below hnum hden 17
    have hplace := hbelow.place_eq
    have hdigits := hbelow.digits_lt
    have hreads : ∀ digits, 0 < digits → digits ≤ 10 ^ 17 →
        |decimalValue digits (gridBelow 17 num den).2 - n * 2 ^ unit| * 2 ^ 54 < n * 2 ^ unit →
        (ofDecimal false digits (gridBelow 17 num den).2).magnitude = x.magnitude := by
      intro digits hpos hle hnear
      rw [decimalValue_eq] at hnear
      rw [ofDecimal_eq hpos (by omega) (by omega) (by omega), magnitude_ofRatio]
      exact magnitudeOfRatio_of_near hx hfinite (Nat.mul_pos hpos (tenTo_pos _)) (tenTo_pos _) hnear
    rcases hbelow.near hnum hden hvalue with hnear | hnear
    · refine isSome_gridHit? (.inl rfl) (hreads _ ?_ hdigits.le hnear)
      by_contra hzero
      have hpos : (0 : ℚ) < n * 2 ^ unit := hvalue ▸ quotient_pos hnum hden
      rw [Nat.eq_zero_of_not_pos hzero, decimalValue, Nat.cast_zero, zero_mul, zero_sub, abs_neg,
        abs_of_pos hpos] at hnear
      linarith
    · exact isSome_gridHit? (.inr rfl) (hreads _ (Nat.succ_pos _) hdigits hnear)
  cases hfound : x.shortestDigits? with
  | none =>
    rw [hshortest, List.findSome?_eq_none_iff] at hfound
    rw [hfound 16 (by decide)] at hlast
    cases hlast
  | some found =>
    obtain ⟨digits, place⟩ := found
    rw [hshortest] at hfound
    obtain ⟨i, hi, hit⟩ := List.exists_of_findSome?_eq_some hfound
    have hi17 := List.mem_range.1 hi
    have hbelow := gridBelow_below hnum hden (i + 1)
    have hplace := hbelow.place_eq
    have hdigits : (gridBelow (i + 1) num den).1 < 10 ^ 17 :=
      hbelow.digits_lt.trans_le (Nat.pow_le_pow_right (by decide) hi17)
    obtain ⟨rfl, hneighbour, hmagnitude⟩ := gridHit?_eq_some hit
    refine ⟨digits, _, rfl, ?_, by omega, by omega, by omega, hmagnitude⟩
    by_contra hzero
    rw [Nat.eq_zero_of_not_pos hzero, ofDecimal, if_pos rfl,
      magnitude_ofMagnitude (by decide)] at hmagnitude
    exact hne hmagnitude.symm

/-- What is read as the magnitude of a number is read as the number under its sign. -/
theorem ReadsAs.ofDecimal_eq {digits : Nat} {place : Int} (h : ReadsAs x digits place) :
    ofDecimal x.isNegative digits place = x := by
  have hle := h.le
  have hlow := h.low
  have hhigh := h.high
  have hmagnitude := h.magnitude
  rw [Binary64.ofDecimal_eq h.pos (by omega) (by omega) (by omega), magnitude_ofRatio]
    at hmagnitude
  rw [Binary64.ofDecimal_eq h.pos (by omega) (by omega) (by omega), ofRatio, hmagnitude,
    ofMagnitude_magnitude]

end EndpointCatalog.Binary64
