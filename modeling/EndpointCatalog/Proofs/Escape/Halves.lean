/-
EndpointCatalog.Proofs.Escape.Halves — surrogate halves in a text.

* `joinHalves` joins each first half with the second half directly behind it.
  A half without its partner stays. `halves` takes characters apart again:
  `joinHalves_eq_iff` says that joining is determined by it.
* `joinPairs?_eq`: reading a text as UTF-16 is joining its halves, and fails
  as soon as one of them has no partner.
* `unescape_joins_iff`: so a single lone half keeps every pair of a literal
  apart, and only then. Without one all pairs are joined.
-/
import EndpointCatalog.Text.Escape
import Mathlib

namespace EndpointCatalog

/-! ## Halves -/

namespace CodePoint

/-- The first half of the pair that stands for a code point beyond the first plane. -/
def highHalf (p : CodePoint) : CodePoint :=
  ⟨0xD800 + (p.val - 0x10000) / 0x400, by omega⟩

/-- The second half of the pair that stands for a code point beyond the first plane. -/
def lowHalf (p : CodePoint) : CodePoint :=
  ⟨0xDC00 + (p.val - 0x10000) % 0x400, by omega⟩

variable {p high low : CodePoint}

theorem isHigh_iff : p.isHigh = true ↔ 0xD800 ≤ p.val ∧ p.val < 0xDC00 := by
  simp only [isHigh, Bool.and_eq_true, decide_eq_true_eq]

theorem isLow_iff : p.isLow = true ↔ 0xDC00 ≤ p.val ∧ p.val < 0xE000 := by
  simp only [isLow, Bool.and_eq_true, decide_eq_true_eq]

theorem isLow_of_isHigh (h : p.isHigh = true) : p.isLow = false := by
  rw [isHigh_iff] at h
  rw [← Bool.not_eq_true, isLow_iff]
  omega

theorem val_ofPair (hhigh : high.isHigh = true) (hlow : low.isLow = true) :
    (ofPair high low).val = 0x10000 + (high.val - 0xD800) * 0x400 + (low.val - 0xDC00) := by
  rw [isHigh_iff] at hhigh
  rw [isLow_iff] at hlow
  rw [ofPair, Fin.val_ofNat]
  omega

theorem val_highHalf (p : CodePoint) : p.highHalf.val = 0xD800 + (p.val - 0x10000) / 0x400 := rfl

theorem val_lowHalf (p : CodePoint) : p.lowHalf.val = 0xDC00 + (p.val - 0x10000) % 0x400 := rfl

theorem isHigh_highHalf (h : 0x10000 ≤ p.val) : p.highHalf.isHigh = true := by
  have := p.isLt
  rw [isHigh_iff, val_highHalf]
  omega

theorem isLow_lowHalf (p : CodePoint) : p.lowHalf.isLow = true := by
  rw [isLow_iff, val_lowHalf]
  omega

theorem ofPair_halves (h : 0x10000 ≤ p.val) : ofPair p.highHalf p.lowHalf = p := by
  apply Fin.ext
  rw [val_ofPair (isHigh_highHalf h) (isLow_lowHalf p), val_highHalf, val_lowHalf]
  omega

theorem le_val_ofPair (hhigh : high.isHigh = true) (hlow : low.isLow = true) :
    0x10000 ≤ (ofPair high low).val := by
  rw [val_ofPair hhigh hlow]
  omega

theorem halves_ofPair (hhigh : high.isHigh = true) (hlow : low.isLow = true) :
    (ofPair high low).highHalf = high ∧ (ofPair high low).lowHalf = low := by
  have hval := val_ofPair hhigh hlow
  rw [isHigh_iff] at hhigh
  rw [isLow_iff] at hlow
  constructor
  · apply Fin.ext
    rw [val_highHalf, hval]
    omega
  · apply Fin.ext
    rw [val_lowHalf, hval]
    omega

/-- What stands beyond the first plane is no half. -/
theorem not_isSurrogate_of_le (h : 0x10000 ≤ p.val) : p.isSurrogate = false := by
  rw [isSurrogate, Bool.or_eq_false_iff, ← Bool.not_eq_true, ← Bool.not_eq_true, isHigh_iff,
    isLow_iff]
  omega

end CodePoint

namespace Text

open CodePoint

/-! ## Joining halves -/

/-- Whether a first half stands directly before a second one. -/
def hasPair : Text → Bool
  | [] => false
  | [_] => false
  | p :: q :: rest => (p.isHigh && q.isLow) || hasPair (q :: rest)

/-- Joins the halves that stand together; a half without its partner stays. -/
def joinHalves : Text → Text
  | [] => []
  | [p] => [p]
  | p :: q :: rest =>
    if p.isHigh && q.isLow then ofPair p q :: joinHalves rest else p :: joinHalves (q :: rest)

/-- Takes the characters beyond the first plane apart. -/
def halves (t : Text) : Text :=
  t.flatMap fun p => if 0x10000 ≤ p.val then [p.highHalf, p.lowHalf] else [p]

variable {p q : CodePoint} {t u : Text}

theorem joinHalves_pair (hhigh : p.isHigh = true) (hlow : q.isLow = true) :
    joinHalves (p :: q :: t) = ofPair p q :: joinHalves t := by
  rw [joinHalves, hhigh, hlow, Bool.and_self, if_pos rfl]

/-- What has no partner stays in front. -/
theorem joinHalves_cons (h : p.isHigh = false ∨ ∀ q ∈ t.head?, q.isLow = false) :
    joinHalves (p :: t) = p :: joinHalves t := by
  cases t with
  | nil => rfl
  | cons q rest =>
    have hpair : (p.isHigh && q.isLow) = false :=
      Bool.and_eq_false_iff.2 (h.imp id fun hlow => hlow q rfl)
    rw [joinHalves, hpair, if_neg Bool.false_ne_true]

/-- Joined, a text begins with a second half only if it did before. -/
theorem isLow_of_head?_joinHalves (h : ∀ q ∈ t.head?, q.isLow = false) :
    ∀ q ∈ (joinHalves t).head?, q.isLow = false := by
  intro q hq
  fun_cases joinHalves t with
  | case1 => cases hq
  | case2 p => exact h q hq
  | case3 p r rest hpair =>
    obtain ⟨hhigh, hlow⟩ := Bool.and_eq_true_iff.1 hpair
    rw [joinHalves_pair hhigh hlow, List.head?_cons, Option.mem_some_iff] at hq
    rw [← hq]
    exact (Bool.or_eq_false_iff.1 (not_isSurrogate_of_le (le_val_ofPair hhigh hlow))).2
  | case4 p r rest hpair =>
    rw [joinHalves, if_neg hpair] at hq
    exact h q hq

theorem hasPair_cons :
    hasPair (p :: t) = (p.isHigh && t.head?.any isLow || hasPair t) := by
  cases t with
  | nil => rw [hasPair, hasPair, List.head?_nil, Option.any_none, Bool.and_false, Bool.or_false]
  | cons q rest => rw [hasPair, List.head?_cons, Option.any_some]

/-- After joining no pair is left. -/
theorem hasPair_joinHalves (t : Text) : hasPair (joinHalves t) = false := by
  fun_induction joinHalves t with
  | case1 => rfl
  | case2 => rfl
  | case3 p q rest hpair ih =>
    obtain ⟨hhigh, hlow⟩ := Bool.and_eq_true_iff.1 hpair
    have hjoined := (Bool.or_eq_false_iff.1 (not_isSurrogate_of_le (le_val_ofPair hhigh hlow))).1
    rw [hasPair_cons, hjoined, Bool.false_and, Bool.false_or, ih]
  | case4 p q rest hpair ih =>
    rw [hasPair_cons, ih, Bool.or_false]
    by_cases hhigh : p.isHigh = true
    · have hlow : q.isLow = false := by
        rw [hhigh, Bool.true_and] at hpair
        exact Bool.eq_false_iff.2 hpair
      have hhead := isLow_of_head?_joinHalves (t := q :: rest) fun r hr => by
        rwa [← Option.mem_some_iff.1 hr]
      rw [hhigh, Bool.true_and]
      exact (Option.any_eq_false _ _).2 hhead
    · rw [Bool.eq_false_iff.2 hhigh, Bool.false_and]

/-- A text without pairs is joined already. -/
theorem joinHalves_of_not_hasPair (h : hasPair t = false) : joinHalves t = t := by
  induction t with
  | nil => rfl
  | cons p rest ih =>
    rw [hasPair_cons, Bool.or_eq_false_iff, Bool.and_eq_false_iff] at h
    rw [joinHalves_cons (h.1.imp id (Option.any_eq_false _ _).1), ih h.2]

/-! ## Taking pairs apart -/

theorem halves_cons :
    halves (p :: t) = (if 0x10000 ≤ p.val then [p.highHalf, p.lowHalf] else [p]) ++ halves t :=
  List.flatMap_cons

theorem halves_cons_of_lt (h : p.val < 0x10000) : halves (p :: t) = p :: halves t := by
  rw [halves_cons, if_neg (Nat.not_le.2 h), List.singleton_append]

theorem halves_cons_of_le (h : 0x10000 ≤ p.val) :
    halves (p :: t) = p.highHalf :: p.lowHalf :: halves t := by
  rw [halves_cons, if_pos h]
  rfl

theorem halves_pair (hhigh : p.isHigh = true) (hlow : q.isLow = true) :
    halves (p :: q :: t) = p :: q :: halves t := by
  rw [isHigh_iff] at hhigh
  rw [isLow_iff] at hlow
  rw [halves_cons_of_lt (by omega), halves_cons_of_lt (by omega)]

/-- Joining changes nothing about the halves that a text consists of. -/
theorem halves_joinHalves (t : Text) : halves (joinHalves t) = halves t := by
  fun_induction joinHalves t with
  | case1 => rfl
  | case2 => rfl
  | case3 p q rest hpair ih =>
    obtain ⟨hhigh, hlow⟩ := Bool.and_eq_true_iff.1 hpair
    obtain ⟨hfirst, hsecond⟩ := halves_ofPair hhigh hlow
    rw [halves_cons_of_le (le_val_ofPair hhigh hlow), hfirst, hsecond, ih,
      halves_pair hhigh hlow]
  | case4 p q rest _ ih =>
    rw [halves_cons, ih, ← halves_cons]

/-- Taken apart, a text begins with a second half only if it did before. -/
theorem isLow_of_head?_halves (h : ∀ q ∈ t.head?, q.isLow = false) :
    ∀ q ∈ (halves t).head?, q.isLow = false := by
  cases t with
  | nil => exact h
  | cons q rest =>
    intro r hr
    by_cases hq : 0x10000 ≤ q.val
    · rw [halves_cons_of_le hq, List.head?_cons, Option.mem_some_iff] at hr
      rw [← hr]
      exact isLow_of_isHigh (isHigh_highHalf hq)
    · rw [halves_cons_of_lt (Nat.not_le.1 hq)] at hr
      exact h r hr

/-- Of the halves of a text joining makes what it makes of the text. -/
theorem joinHalves_halves (t : Text) : joinHalves (halves t) = joinHalves t := by
  -- a code point whose partner does not follow in the text
  have step : ∀ {p : CodePoint} {rest : Text}, joinHalves (halves rest) = joinHalves rest →
      (p.isHigh = false ∨ ∀ q ∈ rest.head?, q.isLow = false) →
      joinHalves (halves (p :: rest)) = joinHalves (p :: rest) := by
    intro p rest ih halone
    rw [joinHalves_cons halone, ← ih]
    by_cases hp : 0x10000 ≤ p.val
    · rw [halves_cons_of_le hp, joinHalves_pair (isHigh_highHalf hp) (isLow_lowHalf p),
        ofPair_halves hp]
    · rw [halves_cons_of_lt (Nat.not_le.1 hp),
        joinHalves_cons (halone.imp id isLow_of_head?_halves)]
  fun_induction joinHalves t with
  | case1 => rfl
  | case2 p => exact step rfl (.inr fun q hq => by cases hq)
  | case3 p q rest hpair ih =>
    obtain ⟨hhigh, hlow⟩ := Bool.and_eq_true_iff.1 hpair
    rw [halves_pair hhigh hlow, joinHalves_pair hhigh hlow, ih]
  | case4 p q rest hpair ih =>
    have halone := Bool.and_eq_false_iff.1 (Bool.eq_false_iff.2 hpair)
    rw [step ih (halone.imp id fun hlow r hr => by rwa [← Option.mem_some_iff.1 hr]), joinHalves,
      if_neg hpair]

/-- The joined text is the one without pairs that consists of the same halves. -/
theorem joinHalves_eq_iff : joinHalves t = u ↔ hasPair u = false ∧ halves u = halves t := by
  constructor
  · rintro rfl
    exact ⟨hasPair_joinHalves t, halves_joinHalves t⟩
  · rintro ⟨hpair, hhalves⟩
    rw [← joinHalves_halves t, ← hhalves, joinHalves_halves, joinHalves_of_not_hasPair hpair]

/-! ## Reading UTF-16 -/

/-- Whether a half of a text has no partner. -/
def hasLoneHalf (t : Text) : Bool := (joinHalves t).hasSurrogate

theorem hasSurrogate_cons : hasSurrogate (p :: t) = (p.isSurrogate || hasSurrogate t) := rfl

/-- Reading UTF-16 fails at a half without a partner, and joins all halves if there is none. -/
theorem joinPairs?_eq (t : Text) :
    joinPairs? t = if hasLoneHalf t then none else some (joinHalves t) := by
  unfold hasLoneHalf
  fun_induction joinPairs? t with
  | case1 => rfl
  | case2 p hp => rw [joinHalves, hasSurrogate_cons, hp, Bool.true_or, if_pos rfl]
  | case3 p hp =>
    rw [joinHalves, hasSurrogate_cons, Bool.eq_false_iff.2 hp, Bool.false_or]
    rfl
  | case4 p q rest hhigh hlow ih =>
    rw [joinHalves_pair hhigh hlow, hasSurrogate_cons,
      not_isSurrogate_of_le (le_val_ofPair hhigh hlow), Bool.false_or, ih]
    split <;> rfl
  | case5 p q rest hhigh hlow =>
    rw [joinHalves_cons (.inr fun r hr => by
      rw [← Option.mem_some_iff.1 hr, Bool.eq_false_iff.2 hlow]), hasSurrogate_cons, isSurrogate,
      hhigh, Bool.true_or, Bool.true_or, if_pos rfl]
  | case6 p q rest hhigh hlow =>
    rw [joinHalves_cons (.inl (Bool.eq_false_iff.2 hhigh)), hasSurrogate_cons, isSurrogate, hlow,
      Bool.or_true, Bool.true_or, if_pos rfl]
  | case7 p q rest hhigh hlow ih =>
    rw [joinHalves_cons (.inl (Bool.eq_false_iff.2 hhigh)), hasSurrogate_cons, isSurrogate,
      Bool.eq_false_iff.2 hhigh, Bool.eq_false_iff.2 hlow, Bool.or_self, Bool.false_or, ih]
    split <;> rfl

/-! ## Literals -/

/-- What the escapes of a literal say, with its halves joined if each of them has its partner. -/
theorem unescape_eq (raw : Text) :
    unescape raw = if hasLoneHalf (unescapePoints raw) then unescapePoints raw
      else joinHalves (unescapePoints raw) := by
  rw [unescape, joinPairs?_eq]
  split <;> rfl

/-- The pairs of a literal are joined, and the halves without a partner kept, unless it holds both:
then nothing is joined, and every pair stays as it is. -/
theorem unescape_joins_iff (raw : Text) :
    unescape raw = (if hasLoneHalf (unescapePoints raw) then unescapePoints raw
        else joinHalves (unescapePoints raw)) ∧
      (unescape raw = joinHalves (unescapePoints raw) ↔
        ¬ (hasLoneHalf (unescapePoints raw) = true ∧ hasPair (unescapePoints raw) = true)) ∧
      (hasPair (unescape raw) = true ↔
        hasLoneHalf (unescapePoints raw) = true ∧ hasPair (unescapePoints raw) = true) := by
  refine ⟨unescape_eq raw, ?_, ?_⟩
  · rw [unescape_eq]
    cases hlone : hasLoneHalf (unescapePoints raw) with
    | false => simp only [Bool.false_eq_true, if_false, false_and, not_false_eq_true]
    | true =>
      simp only [if_true, true_and, Bool.not_eq_true]
      exact eq_comm.trans ⟨fun h => h ▸ hasPair_joinHalves _, joinHalves_of_not_hasPair⟩
  · rw [unescape_eq]
    cases hasLoneHalf (unescapePoints raw) with
    | false => simp only [Bool.false_eq_true, if_false, hasPair_joinHalves, false_and]
    | true => simp only [if_true, true_and]

/-- A pair, and a first half behind it that stands alone. -/
theorem unescape_keeps_pair :
    let raw := ofString "\\ud83d\\ude00\\ud800"
    joinHalves (unescapePoints raw) = [⟨0x1F600, by decide⟩, ⟨0xD800, by decide⟩] ∧
      unescape raw = [⟨0xD83D, by decide⟩, ⟨0xDE00, by decide⟩, ⟨0xD800, by decide⟩] ∧
      hasPair (unescape raw) = true := by
  decide

end Text

end EndpointCatalog
