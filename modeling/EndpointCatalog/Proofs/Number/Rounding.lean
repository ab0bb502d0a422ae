/-
EndpointCatalog.Proofs.Number.Rounding — quotients rounded to
double-precision numbers.

What a quotient is rounded to depends on its value alone
(`magnitudeOfRatio_congr`), and a quotient close enough to the value of a
number is rounded to that number (`magnitudeOfRatio_of_near`). Close enough is
less than the `2^54`-th part away: below a power of two the numbers lie twice
as close as above it, and half of their distance is still more than that.
-/
import EndpointCatalog.Number.Binary64
import Mathlib

namespace EndpointCatalog

variable {num den num' den' : Nat}

/-! ## Quotients rounded to integers -/

theorem roundHalfEven_eq {n : Nat} (hbelow : 2 * n * den < 2 * num + den)
    (habove : 2 * num < (2 * n + 1) * den) : roundHalfEven num den = n := by
  have hden : 0 < den := by
    by_contra hzero
    rw [Nat.eq_zero_of_not_pos hzero] at habove
    omega
  have hsplit := Nat.div_add_mod num den
  have hrest := Nat.mod_lt num hden
  rw [roundHalfEven]
  generalize num / den = q at hsplit ⊢
  generalize num % den = r at hsplit hrest ⊢
  -- The quotient is the integer itself, or one below it.
  have hlow : q ≤ n := by
    by_contra hlarge
    nlinarith [Nat.mul_le_mul_right den (Nat.lt_of_not_le hlarge)]
  have hhigh : n ≤ q + 1 := by
    by_contra hlarge
    nlinarith [Nat.mul_le_mul_right den (Nat.lt_of_not_le hlarge)]
  rcases Nat.le_iff_lt_or_eq.1 hhigh with hlt | rfl
  · obtain rfl : q = n := by omega
    rw [if_pos (by nlinarith)]
  · rw [if_neg (by nlinarith), if_pos (by nlinarith)]

theorem roundHalfEven_mul {c : Nat} (hc : 0 < c) :
    roundHalfEven (num * c) (den * c) = roundHalfEven num den := by
  have hlow : 2 * (num % den * c) < den * c ↔ 2 * (num % den) < den := by
    rw [← Nat.mul_assoc, Nat.mul_lt_mul_right hc]
  have hhigh : den * c < 2 * (num % den * c) ↔ den < 2 * (num % den) := by
    rw [← Nat.mul_assoc, Nat.mul_lt_mul_right hc]
  simp only [roundHalfEven, Nat.mul_div_mul_right _ _ hc, Nat.mul_mod_mul_right, hlow, hhigh]

theorem roundHalfEven_congr (hden : 0 < den) (hden' : 0 < den')
    (h : num * den' = num' * den) : roundHalfEven num den = roundHalfEven num' den' := by
  rw [← roundHalfEven_mul hden', h, Nat.mul_comm den den', roundHalfEven_mul hden]

namespace Binary64

/-! ## The last place -/

/-- The value of a quotient. -/
def quotient (num den : Nat) : ℚ := num / den

theorem quotient_pos (hnum : 0 < num) (hden : 0 < den) : 0 < quotient num den :=
  div_pos (Nat.cast_pos.2 hnum) (Nat.cast_pos.2 hden)

theorem quotient_eq_iff (hden : 0 < den) (hden' : 0 < den') :
    quotient num den = quotient num' den' ↔ num * den' = num' * den := by
  have hne : (den : ℚ) ≠ 0 := Nat.cast_ne_zero.2 hden.ne'
  have hne' : (den' : ℚ) ≠ 0 := Nat.cast_ne_zero.2 hden'.ne'
  rw [quotient, quotient, div_eq_div_iff hne hne']
  exact_mod_cast Iff.rfl

/-- A power as a quotient of naturals. -/
theorem zpow_eq_quotient (base : Nat) (n : Int) :
    (base : ℚ) ^ n = quotient (base ^ n.toNat) (base ^ (-n).toNat) := by
  rw [quotient]
  rcases Int.le_total 0 n with h | h
  · obtain ⟨k, rfl⟩ := Int.eq_ofNat_of_zero_le h
    simp
  · obtain ⟨k, hk⟩ := Int.eq_ofNat_of_zero_le (Int.neg_nonneg_of_nonpos h)
    obtain rfl : n = -(k : Int) := by omega
    simp

/-- Comparing a power of two with a quotient. -/
theorem two_zpow_le_quotient_iff (hden : 0 < den) (n : Int) :
    (2 : ℚ) ^ n ≤ quotient num den ↔ den <<< n.toNat ≤ num <<< (-n).toNat := by
  have hpos : (0 : ℚ) < (2 ^ (-n).toNat : Nat) := by positivity
  have hpow := zpow_eq_quotient 2 n
  rw [Nat.cast_ofNat] at hpow
  rw [hpow, quotient, quotient, div_le_div_iff₀ hpos (Nat.cast_pos.2 hden), Nat.shiftLeft_eq,
    Nat.shiftLeft_eq, Nat.mul_comm den]
  exact_mod_cast Iff.rfl

/-- A number between a power and the next one has the exponent for its logarithm. -/
theorem log_eq {b : Nat} (hbase : 1 < b) {q : ℚ} {n : Int} (hbelow : (b : ℚ) ^ n ≤ q)
    (habove : q < (b : ℚ) ^ (n + 1)) : Int.log b q = n := by
  have hbase0 : (0 : ℚ) < b := Nat.cast_pos.2 (Nat.zero_lt_of_lt hbase)
  have hq : 0 < q := (zpow_pos hbase0 n).trans_le hbelow
  have hle := (Int.zpow_le_iff_le_log hbase hq).1 hbelow
  have hlt := (Int.lt_zpow_iff_log_lt hbase hq).1 habove
  omega

/-- The logarithm of a quotient is that of its numerator less that of its denominator, or one
below. -/
theorem log_quotient (hnum : 0 < num) (hden : 0 < den) :
    (2 : ℚ) ^ ((Nat.log2 num : Int) - Nat.log2 den - 1) ≤ quotient num den ∧
      quotient num den < (2 : ℚ) ^ ((Nat.log2 num : Int) - Nat.log2 den + 1) := by
  have hden0 : (0 : ℚ) < den := Nat.cast_pos.2 hden
  have hnumlow : (2 : ℚ) ^ Nat.log2 num ≤ num := by exact_mod_cast Nat.log2_self_le hnum.ne'
  have hnumhigh : (num : ℚ) < 2 ^ (Nat.log2 num + 1) := by exact_mod_cast Nat.lt_log2_self
  have hdenlow : (2 : ℚ) ^ Nat.log2 den ≤ den := by exact_mod_cast Nat.log2_self_le hden.ne'
  have hdenhigh : (den : ℚ) < 2 ^ (Nat.log2 den + 1) := by exact_mod_cast Nat.lt_log2_self
  rw [quotient, le_div_iff₀ hden0, div_lt_iff₀ hden0]
  constructor
  · calc (2 : ℚ) ^ ((Nat.log2 num : Int) - Nat.log2 den - 1) * den
        ≤ 2 ^ ((Nat.log2 num : Int) - Nat.log2 den - 1) * 2 ^ (Nat.log2 den + 1) := by gcongr
      _ = 2 ^ Nat.log2 num := by
        rw [← zpow_natCast, ← zpow_natCast, ← zpow_add₀ two_ne_zero]
        congr 1
        push_cast
        ring
      _ ≤ num := hnumlow
  · calc (num : ℚ) < 2 ^ (Nat.log2 num + 1) := hnumhigh
      _ = 2 ^ ((Nat.log2 num : Int) - Nat.log2 den + 1) * 2 ^ Nat.log2 den := by
        rw [← zpow_natCast, ← zpow_natCast, ← zpow_add₀ two_ne_zero]
        congr 1
        push_cast
        ring
      _ ≤ 2 ^ ((Nat.log2 num : Int) - Nat.log2 den + 1) * den := by gcongr

/-- The last place that a quotient keeps depends on its value alone. -/
theorem lastPlace_eq (hnum : 0 < num) (hden : 0 < den) :
    lastPlace num den = max (Int.log 2 (quotient num den) - 52) (-1074) := by
  obtain ⟨hlow, hhigh⟩ := log_quotient hnum hden
  have hreaches := @two_zpow_le_quotient_iff num den hden (Nat.log2 num - Nat.log2 den : Int)
  have hshift : ∀ guess : Int, (if 0 ≤ guess then decide (den <<< guess.toNat ≤ num)
      else decide (den ≤ num <<< (-guess).toNat)) =
        decide (den <<< guess.toNat ≤ num <<< (-guess).toNat) := by
    intro guess
    split
    · next hpos => rw [Int.toNat_of_nonpos (Int.neg_nonpos_of_nonneg hpos), Nat.shiftLeft_zero]
    · next hneg => rw [Int.toNat_of_nonpos (Int.le_of_not_le hneg), Nat.shiftLeft_zero]
  rw [lastPlace]
  simp only [hshift, ← hreaches, decide_eq_true_eq]
  congr 2
  split
  · next hle => exact (log_eq (b := 2) one_lt_two (by exact_mod_cast hle)
      (by exact_mod_cast hhigh)).symm
  · next hlt =>
    refine (log_eq (b := 2) one_lt_two (by exact_mod_cast hlow) ?_).symm
    rw [sub_add_cancel]
    exact_mod_cast not_le.1 hlt

theorem lastPlace_congr (hnum : 0 < num) (hden : 0 < den) (hnum' : 0 < num') (hden' : 0 < den')
    (h : num * den' = num' * den) : lastPlace num den = lastPlace num' den' := by
  rw [lastPlace_eq hnum hden, lastPlace_eq hnum' hden', (quotient_eq_iff hden hden').2 h]

/-! ## The pattern -/

/-- How many units of a place a quotient has, rounded. -/
def units (place : Int) (num den : Nat) : Nat :=
  roundHalfEven (num <<< (-place).toNat) (den <<< place.toNat)

/-- The magnitude pattern of some units of a place. -/
def patternOf (units : Nat) (place : Int) : Nat :=
  if units < exponentBit then units
  else (place + 1075).toNat * exponentBit + (units - exponentBit)

theorem magnitudeOfRatio_eq (hnum : 0 < num) : magnitudeOfRatio num den =
    min (patternOf (units (lastPlace num den) num den) (lastPlace num den)) infinityMagnitude := by
  have hunits : (if 0 ≤ lastPlace num den then roundHalfEven num (den <<< (lastPlace num den).toNat)
      else roundHalfEven (num <<< (-lastPlace num den).toNat) den) =
        units (lastPlace num den) num den := by
    rw [units]
    split
    · next hpos => rw [Int.toNat_of_nonpos (Int.neg_nonpos_of_nonneg hpos), Nat.shiftLeft_zero]
    · next hneg => rw [Int.toNat_of_nonpos (Int.le_of_not_le hneg), Nat.shiftLeft_zero]
  rw [magnitudeOfRatio, if_neg hnum.ne']
  simp only [hunits]
  rfl

theorem units_congr (hden : 0 < den) (hden' : 0 < den') (h : num * den' = num' * den)
    (place : Int) : units place num den = units place num' den' := by
  refine roundHalfEven_congr (by rw [Nat.shiftLeft_eq]; positivity)
    (by rw [Nat.shiftLeft_eq]; positivity) ?_
  simp only [Nat.shiftLeft_eq]
  linear_combination (2 ^ (-place).toNat * 2 ^ place.toNat) * h

/-- What a quotient is rounded to depends on its value alone. -/
theorem magnitudeOfRatio_congr (hden : 0 < den) (hden' : 0 < den')
    (h : num * den' = num' * den) : magnitudeOfRatio num den = magnitudeOfRatio num' den' := by
  rcases Nat.eq_zero_or_pos num with rfl | hnum
  · have hnum' : num' = 0 := by
      rw [Nat.zero_mul] at h
      exact (Nat.mul_eq_zero.1 h.symm).resolve_right hden.ne'
    rw [hnum', magnitudeOfRatio, magnitudeOfRatio, if_pos rfl, if_pos rfl]
  · have hnum' : 0 < num' := by
      by_contra hzero
      rw [Nat.eq_zero_of_not_pos hzero, Nat.zero_mul] at h
      exact (Nat.mul_pos hnum hden').ne' h
    rw [magnitudeOfRatio_eq hnum, magnitudeOfRatio_eq hnum',
      lastPlace_congr hnum hden hnum' hden' h, units_congr hden hden' h]

/-! ## Quotients close to a number -/

/-- A quotient less than half a unit away from some units is rounded to them. -/
theorem units_eq (hden : 0 < den) {place : Int} {n : Nat}
    (h : |quotient num den - n * 2 ^ place| < 2 ^ place / 2) : units place num den = n := by
  have hpow := zpow_eq_quotient 2 place
  rw [Nat.cast_ofNat, quotient] at hpow
  have hlow : (0 : ℚ) < (2 ^ (-place).toNat : Nat) := by positivity
  have hden0 : (0 : ℚ) < den := Nat.cast_pos.2 hden
  rw [abs_lt, quotient] at h
  obtain ⟨hbelow, habove⟩ := h
  have hscaled : ∀ c : ℚ, c * 2 ^ place * (den * (2 ^ (-place).toNat : Nat)) =
      c * (den * (2 ^ place.toNat : Nat)) := by
    intro c
    rw [hpow]
    field_simp
  have hquotient : (num : ℚ) / den * (den * (2 ^ (-place).toNat : Nat)) =
      num * (2 ^ (-place).toNat : Nat) := by
    field_simp
  have hpos : (0 : ℚ) < den * (2 ^ (-place).toNat : Nat) := by positivity
  refine roundHalfEven_eq ?_ ?_
  · have hlt := mul_lt_mul_of_pos_right hbelow hpos
    rw [sub_mul, hquotient, hscaled] at hlt
    have hhalf := hscaled (-(1 / 2))
    simp only [Nat.shiftLeft_eq]
    have hgoal : (2 * n * (den * (2 ^ place.toNat : Nat)) : ℚ) <
        2 * (num * (2 ^ (-place).toNat : Nat)) + den * (2 ^ place.toNat : Nat) := by
      linarith
    exact_mod_cast hgoal
  · have hlt := mul_lt_mul_of_pos_right habove hpos
    rw [sub_mul, hquotient, hscaled] at hlt
    have hhalf := hscaled (1 / 2)
    simp only [Nat.shiftLeft_eq]
    have hgoal : (2 * (num * (2 ^ (-place).toNat : Nat)) : ℚ) <
        (2 * n + 1) * (den * (2 ^ place.toNat : Nat)) := by
      linarith
    exact_mod_cast hgoal

/-- A number as units of its last place: there are fewer than `2^53` of them, and at least `2^52`
unless the place is the least one. -/
structure Unpacked (x : Binary64) (n : Nat) (place : Int) : Prop where
  pos : 0 < n
  lt : n < 2 * exponentBit
  least_le : -1074 ≤ place
  normal : place = -1074 ∨ exponentBit ≤ n
  pattern : patternOf n place = x.magnitude
  value : ∃ num den, x.toRatio? = some (num, den) ∧ 0 < num ∧ 0 < den ∧
    quotient num den = n * 2 ^ place

theorem quotient_shiftLeft (n k : Nat) : quotient (n <<< k) 1 = n * 2 ^ (k : Int) := by
  rw [quotient, Nat.shiftLeft_eq, zpow_natCast]
  push_cast
  ring

theorem quotient_one_shiftLeft (n k : Nat) : quotient n (1 <<< k) = n * 2 ^ (-(k : Int)) := by
  rw [quotient, Nat.shiftLeft_eq, Nat.one_mul, zpow_neg, zpow_natCast, div_eq_mul_inv]
  push_cast
  rfl

/-- Every finite number but zero is some units of its last place. -/
theorem exists_unpacked {x : Binary64} (hne : x.magnitude ≠ 0)
    (hfinite : x.magnitude < infinityMagnitude) : ∃ n place, Unpacked x n place := by
  have hsplit := Nat.div_add_mod x.magnitude exponentBit
  have hfraction := Nat.mod_lt x.magnitude (show 0 < exponentBit by decide)
  have hratio : x.toRatio? = if x.magnitude / exponentBit = 0 then
        some (x.magnitude % exponentBit, 1 <<< 1074)
      else if 1075 ≤ x.magnitude / exponentBit then
        some ((exponentBit + x.magnitude % exponentBit) <<< (x.magnitude / exponentBit - 1075), 1)
      else some (exponentBit + x.magnitude % exponentBit,
        1 <<< (1075 - x.magnitude / exponentBit)) := by
    rw [toRatio?, if_neg (Nat.not_le.2 hfinite)]
  generalize x.magnitude / exponentBit = exponent at hsplit hratio
  generalize hrest : x.magnitude % exponentBit = fraction at hsplit hratio hfraction
  have hexponentBit : exponentBit = 2 ^ 52 := rfl
  rcases Nat.eq_zero_or_pos exponent with rfl | hexponent
  · have hvalue := quotient_one_shiftLeft fraction 1074
    exact ⟨fraction, -1074, by omega, by omega, le_refl _, .inl rfl,
      by rw [patternOf, if_pos hfraction]; omega,
      fraction, 1 <<< 1074, hratio, by omega, by decide, hvalue⟩
  · have hpattern : patternOf (exponentBit + fraction) ((exponent : Int) - 1075) =
        x.magnitude := by
      rw [patternOf, if_neg (by omega)]
      have htoNat : ((exponent : Int) - 1075 + 1075).toNat = exponent := by omega
      rw [htoNat, Nat.add_sub_cancel_left, ← hsplit, Nat.mul_comm]
    refine ⟨exponentBit + fraction, exponent - 1075, by omega, by omega, by omega,
      .inr (Nat.le_add_right _ _), hpattern, ?_⟩
    rw [if_neg hexponent.ne'] at hratio
    by_cases hlarge : 1075 ≤ exponent
    · have hvalue := quotient_shiftLeft (exponentBit + fraction) (exponent - 1075)
      rw [Nat.cast_sub hlarge] at hvalue
      rw [if_pos hlarge] at hratio
      have hpos : 0 < (exponentBit + fraction) <<< (exponent - 1075) := by
        rw [Nat.shiftLeft_eq]
        exact Nat.mul_pos (Nat.add_pos_left (by decide) _) (by positivity)
      exact ⟨_, _, hratio, hpos, Nat.one_pos, hvalue⟩
    · have hvalue := quotient_one_shiftLeft (exponentBit + fraction) (1075 - exponent)
      rw [Nat.cast_sub (by omega), neg_sub] at hvalue
      rw [if_neg hlarge] at hratio
      exact ⟨_, _, hratio, Nat.add_pos_left (by decide) _, by rw [Nat.shiftLeft_eq]; positivity,
        hvalue⟩

/-- Where a quotient is rounded to that lies between `2^52` and `2^53` units of a place, or below
them in the least place. -/
theorem lastPlace_eq_of_le (hnum : 0 < num) (hden : 0 < den) {place : Int}
    (hleast : -1074 ≤ place) (hhigh : quotient num den < 2 ^ (place + 53))
    (hlow : place = -1074 ∨ 2 ^ (place + 52) ≤ quotient num den) :
    lastPlace num den = place := by
  have hq := quotient_pos hnum hden
  have hlt := (Int.lt_zpow_iff_log_lt (b := 2) one_lt_two hq).1 (by exact_mod_cast hhigh)
  rw [lastPlace_eq hnum hden]
  rcases hlow with rfl | hlow
  · omega
  · have hle := (Int.zpow_le_iff_le_log (b := 2) one_lt_two hq).1 (by exact_mod_cast hlow)
    omega

/-- A quotient less than the `2^54`-th part away from a number is rounded to it. -/
theorem magnitudeOfRatio_of_near {x : Binary64} {n : Nat} {place : Int} (hx : Unpacked x n place)
    (hfinite : x.magnitude < infinityMagnitude) (hnum : 0 < num) (hden : 0 < den)
    (h : |quotient num den - n * 2 ^ place| * 2 ^ 54 < n * 2 ^ place) :
    magnitudeOfRatio num den = x.magnitude := by
  have hunit : (0 : ℚ) < 2 ^ place := by positivity
  have hn : (n : ℚ) ≤ 2 ^ 53 - 1 := by
    have hlt := hx.lt
    rw [exponentBit] at hlt
    have hle : n + 1 ≤ 2 ^ 53 := by omega
    have hcast : (n : ℚ) + 1 ≤ 2 ^ 53 := by exact_mod_cast hle
    linarith
  have hpow : ∀ (k : Nat) (e : Int), e = place + k → (2 : ℚ) ^ e = 2 ^ k * 2 ^ place := by
    rintro k _ rfl
    rw [zpow_add₀ two_ne_zero, zpow_natCast, mul_comm]
  have hhalf : |quotient num den - n * 2 ^ place| < 2 ^ place / 2 := by nlinarith
  obtain ⟨hbelow, habove⟩ := abs_lt.1 hhalf
  have hhigh : quotient num den < 2 ^ (place + 53) := by
    rw [hpow 53 (place + 53) rfl]
    nlinarith
  rw [magnitudeOfRatio_eq hnum, ← hx.pattern]
  have hbound : patternOf n place ≤ infinityMagnitude := hx.pattern ▸ hfinite.le
  by_cases hlow : place = -1074 ∨ (2 : ℚ) ^ (place + 52) ≤ quotient num den
  · rw [lastPlace_eq_of_le hnum hden hx.least_le hhigh hlow, units_eq hden hhalf,
      Nat.min_eq_left hbound]
  · -- Below a power of two the units are half as large.
    rw [not_or, not_le, hpow 52 (place + 52) rfl] at hlow
    obtain ⟨hplace, hlow⟩ := hlow
    have hleast := hx.least_le
    have hnormal := hx.normal.resolve_left hplace
    obtain rfl : n = exponentBit := by
      refine le_antisymm ?_ hnormal
      have hlt : (n : ℚ) < 2 ^ 52 + 1 := by nlinarith
      have hcast : n < 2 ^ 52 + 1 := by exact_mod_cast hlt
      exact Nat.le_of_lt_succ hcast
    have hcast : ((exponentBit : Nat) : ℚ) = 2 ^ 52 := by rw [exponentBit]; norm_num
    have hpred : (2 : ℚ) ^ place = 2 * 2 ^ (place - 1) := by
      rw [← zpow_one_add₀ two_ne_zero, add_sub_cancel]
    rw [hcast] at h
    have hplace' : lastPlace num den = place - 1 := by
      refine lastPlace_eq_of_le hnum hden (by omega) ?_ (.inr ?_)
      · rw [hpow 52 _ (by omega)]
        exact hlow
      · rw [hpow 51 _ (by omega)]
        nlinarith
    have hunits : units (place - 1) num den = 2 * exponentBit := by
      refine units_eq hden ?_
      have hvalue : ((2 * exponentBit : Nat) : ℚ) * 2 ^ (place - 1) = 2 ^ 52 * 2 ^ place := by
        rw [Nat.cast_mul, hcast, hpred]
        ring
      rw [hvalue]
      generalize |quotient num den - 2 ^ 52 * 2 ^ place| = distance at h ⊢
      rw [hpred] at h
      linarith only [h]
    have hpattern : patternOf (2 * exponentBit) (place - 1) = patternOf exponentBit place := by
      rw [patternOf, patternOf, if_neg (by decide), if_neg (Nat.lt_irrefl _)]
      have htoNat : (place + 1075).toNat = (place - 1 + 1075).toNat + 1 := by omega
      rw [htoNat, Nat.two_mul, Nat.add_sub_cancel, Nat.sub_self, Nat.add_mul, Nat.one_mul,
        Nat.add_zero]
    rw [hplace', hunits, hpattern, Nat.min_eq_left hbound]

end Binary64

end EndpointCatalog
