/-
EndpointCatalog.Proofs.Acquisition.Redaction — what a failing clone says, without the token.

The error of a clone with a token quotes what the cloning program has said,
trimmed and with stars in place of the token. `clone_error_hides_token`: the
token does not occur in what is quoted, and all else of it is there.

* `Replaced`: a text and what is left of it when the occurrences of another
  one are replaced, first occurrence by first occurrence.
* `Replaced.not_infix`: no occurrence is left, nor does one come about where
  the pieces meet. What is put in between shares no character with what is
  replaced, so that an occurrence would have to stand in a piece.
-/
import EndpointCatalog.Proofs.Acquisition

namespace EndpointCatalog

open Disk

/-! ## Replacing -/

section Replacing

variable {α : Type} {old new cs xs ys : List α} {x : α}

/-- What occurs around an item that it does not hold occurs on one side of it. -/
theorem infix_of_infix_append_cons (hx : x ∉ old) :
    ∀ {xs : List α}, old <:+: xs ++ x :: ys → old <:+: xs ∨ old <:+: ys := by
  intro xs
  induction xs with
  | nil =>
    intro h
    rcases List.infix_cons_iff.1 h with hfront | hys
    · cases old with
      | nil => exact .inl (List.nil_infix)
      | cons y rest => simp_all
    · exact .inr hys
  | cons y xs ih =>
    intro h
    rcases List.infix_cons_iff.1 h with hfront | hrest
    · -- the item is the one behind `y :: xs`, so that what occurs at the front ends before it
      have hupto : (y :: xs) ++ [x] <+: y :: (xs ++ x :: ys) := ⟨ys, by simp⟩
      rcases List.prefix_or_prefix_of_prefix hfront hupto with hshort | hlong
      · rcases List.prefix_concat_iff.1 hshort with hwhole | hinside
        · exact absurd (by simp [hwhole]) hx
        · exact .inl hinside.isInfix
      · exact absurd (hlong.subset (by simp)) hx
    · rcases ih hrest with hxs | hys
      · exact .inl (List.infix_cons hxs)
      · exact .inr hys

/-- What occurs around a text of which it has no character occurs on one side of it. -/
theorem infix_of_infix_append (hnew : ∀ c ∈ new, c ∉ old) (hne : new ≠ [])
    (h : old <:+: xs ++ new ++ ys) : old <:+: xs ∨ old <:+: ys := by
  induction new generalizing xs with
  | nil => exact absurd rfl hne
  | cons c rest ih =>
    have hc : c ∉ old := hnew c (by simp)
    rw [List.append_assoc, List.cons_append] at h
    rcases infix_of_infix_append_cons hc h with hxs | hrest
    · exact .inl hxs
    · cases rest with
      | nil => exact .inr hrest
      | cons d others =>
        have hempty : old <:+: [] ++ (d :: others) ++ ys := hrest
        rcases ih (fun e he => hnew e (by simp [he])) (by simp) hempty with hnil | hys
        · exact .inl (hnil.trans (List.nil_infix))
        · exact .inr hys

/-- A text, and the text with `new` in place of each occurrence of `old`: the first occurrence is
replaced, what is in front of it stays, and what is behind it is treated alike. -/
inductive Replaced (old new : List α) : List α → List α → Prop where
  | kept {cs : List α} : ¬ old <:+: cs → Replaced old new cs cs
  | replaced {before rest rest' : List α} : ¬ old <:+: (before ++ old).dropLast →
      Replaced old new rest rest' →
      Replaced old new (before ++ old ++ rest) (before ++ new ++ rest')

/-- A character at which no occurrence begins stays. -/
theorem Replaced.cons (hold : old ≠ []) {c : α} {rest rest' : List α} (hc : ¬ old <+: c :: rest)
    (h : Replaced old new rest rest') : Replaced old new (c :: rest) (c :: rest') := by
  cases h with
  | kept hrest =>
    refine .kept fun hinfix => ?_
    rcases List.infix_cons_iff.1 hinfix with hfront | hbelow
    · exact hc hfront
    · exact hrest hbelow
  | @replaced before rest rest' hbefore hrest =>
    have hnone : ¬ old <:+: (c :: before ++ old).dropLast := by
      intro hinfix
      rw [List.cons_append, List.dropLast_cons_of_ne_nil (by simp [hold])] at hinfix
      rcases List.infix_cons_iff.1 hinfix with hfront | hbelow
      · have hinit : (before ++ old).dropLast <+: before ++ old ++ rest :=
          List.IsPrefix.trans ( List.dropLast_prefix _) (List.prefix_append _ _)
        exact hc (hfront.trans (List.cons_prefix_cons.2 ⟨rfl, hinit⟩))
      · exact hbefore hbelow
    exact .replaced hnone hrest

/-- An occurrence at the front is replaced. -/
theorem Replaced.front (hold : old ≠ []) {rest rest' : List α} (h : Replaced old new rest rest') :
    Replaced old new (old ++ rest) (new ++ rest') := by
  have hnone : ¬ old <:+: ([] ++ old).dropLast := by
    intro hinfix
    have hlength := hinfix.length_le
    have hpos : 0 < old.length := List.length_pos_iff.2 hold
    simp only [List.nil_append, List.length_dropLast] at hlength
    omega
  exact .replaced hnone h

/-- No occurrence is left if what replaces it shares no character with it. -/
theorem Replaced.not_infix (hold : old ≠ []) (hne : new ≠ []) (hnew : ∀ c ∈ new, c ∉ old)
    {cs' : List α} (h : Replaced old new cs cs') : ¬ old <:+: cs' := by
  induction h with
  | kept h => exact h
  | @replaced before rest rest' hbefore _ ih =>
    intro hinfix
    rcases infix_of_infix_append hnew hne hinfix with hfront | hrest
    · -- an occurrence in front of the first one
      have hshort : before <+: (before ++ old).dropLast := by
        rw [List.dropLast_append_of_ne_nil hold]
        exact List.prefix_append _ _
      exact hbefore (hfront.trans hshort.isInfix)
    · exact ih hrest

end Replacing

theorem replaced_replaceFrom (first : Char) (others new cs : List Char) :
    Replaced (first :: others) new cs (replaceFrom first others new cs) := by
  fun_induction replaceFrom first others new cs with
  | case1 => exact .kept (by simp)
  | case2 c rest hfront ih =>
    obtain ⟨behind, hbehind⟩ := List.isPrefixOf_iff_prefix.1 hfront
    have hrest : rest.drop others.length = behind := by
      have htail : others ++ behind = rest := (List.cons.inj hbehind).2
      rw [← htail, List.drop_left]
    rw [hrest] at ih ⊢
    rw [← hbehind]
    exact .front (by simp) ih
  | case3 c rest hfront ih =>
    refine .cons (by simp) (fun h => hfront ?_) ih
    exact List.isPrefixOf_iff_prefix.2 h

/-- Replacing an actual text replaces its occurrences from left to right. -/
theorem replaced_replaceAll {old : List Char} (hold : old ≠ []) (new cs : List Char) :
    Replaced old new cs (replaceAll old new cs) := by
  cases old with
  | nil => exact absurd rfl hold
  | cons first others => exact replaced_replaceFrom first others new cs

/-! ## Trimming -/

/-- What is left of a text without the blanks at its ends. -/
structure Trims (cs kept : List Char) : Prop where
  around : ∃ front back, cs = front ++ kept ++ back ∧ (∀ c ∈ front, isBlankPoint c.toNat = true) ∧
    ∀ c ∈ back, isBlankPoint c.toNat = true
  head : ∀ c ∈ kept.head?, isBlankPoint c.toNat = false
  last : ∀ c ∈ kept.getLast?, isBlankPoint c.toNat = false

theorem head?_dropWhile {α : Type} {p : α → Bool} {xs : List α} :
    ∀ x ∈ (xs.dropWhile p).head?, p x = false := by
  intro x hx
  have hnot := List.head?_dropWhile_not p xs
  rw [Option.mem_def.1 hx] at hnot
  exact hnot

theorem trims_trimBlanks (cs : List Char) : Trims cs (trimBlanks cs) := by
  unfold trimBlanks trimEnds
  generalize hp : (fun c : Char => isBlankPoint c.toNat) = p
  have hsplit : cs.dropWhile p = ((cs.dropWhile p).reverse.dropWhile p).reverse ++
      ((cs.dropWhile p).reverse.takeWhile p).reverse := by
    rw [← List.reverse_append, List.takeWhile_append_dropWhile, List.reverse_reverse]
  refine ⟨⟨cs.takeWhile p, ((cs.dropWhile p).reverse.takeWhile p).reverse, ?_, ?_, ?_⟩, ?_, ?_⟩
  · rw [List.append_assoc, ← hsplit, List.takeWhile_append_dropWhile]
  · intro c hc
    have hblank : p c = true := List.mem_takeWhile_imp hc
    simpa [← hp] using hblank
  · intro c hc
    have hblank : p c = true := List.mem_takeWhile_imp (List.mem_reverse.1 hc)
    simpa [← hp] using hblank
  · intro c hc
    have hfront : c ∈ (cs.dropWhile p).head? := by
      rw [hsplit, List.head?_append, Option.mem_def.1 hc]
      rfl
    simpa [← hp] using head?_dropWhile c hfront
  · intro c hc
    rw [List.getLast?_reverse] at hc
    simpa [← hp] using head?_dropWhile c hc

/-! ## The error of a clone -/

namespace Remote

/-- The characters of bearer tokens. -/
def isTokenChar (c : Char) : Bool := c.isAlphanum || ['-', '.', '_', '~', '+', '/', '='].contains c

/-- What is quoted of a remark: it is trimmed, and stars stand in place of the token. -/
structure Quotes (token said quoted : List Char) : Prop where
  replaced : ∃ trimmed, Trims said trimmed ∧ Replaced token "***".toList trimmed quoted
  hidden : ¬ token <:+: quoted

theorem quotes_cleanedRemark {token : String} (hne : token ≠ "")
    (htoken : ∀ c ∈ token.toList, isTokenChar c = true) (said : String) :
    Quotes token.toList said.toList (cleanedRemark (some token) said).toList := by
  have hnonempty : token.toList ≠ [] := by simpa using hne
  have hreplaced := replaced_replaceAll hnonempty "***".toList (trimBlanks said.toList)
  -- a star is no character of a token
  have hstars : ∀ c ∈ "***".toList, c ∉ token.toList := by
    intro c hc hmem
    have hstar : c = '*' := by simpa using hc
    rw [hstar] at hmem
    exact absurd (htoken _ hmem) (by decide)
  rw [cleanedRemark, String.toList_ofList]
  exact ⟨⟨_, trims_trimBlanks _, hreplaced⟩, hreplaced.not_infix hnonempty (by simp) hstars⟩

/-- Copying fails with the error of a clone that ends with a status other than zero, also if a copy
of some part has been left. -/
theorem acquire_of_failed_clone {before : Session} {outside : Outside} {settings : Settings}
    {locator token : String} {d : Disk} {status : Int} {said : String} {copy : Option FileNode}
    (hmade : before.disk.makeDirectory (temporaryPath before (before.made + 1)) = .ok d)
    (hurl : GithubRepository.ofUrl? locator = .ok none)
    (hclone : outside.clone (cloneCommand locator (some token)
      ((temporaryPath before (before.made + 1)).child "repo")) = .exited status said copy)
    (hstatus : status ≠ 0) :
    ((ExceptT.run (acquire outside settings locator (some token))).run before).1 =
      .error (fetchFailure (cloneError locator (some token) status said)) := by
  obtain ⟨above, hstays, hempty⟩ := Stays.of_makeDirectory (temporaryName_ne _) hmade
  simp only [acquire, run_bind, run_makeTemporary, hmade, run_log, run_onFailure, fetchInto, hurl,
    clone, Acting.request, run_modify, hclone]
  generalize hs : ({ before with
    made := before.made + 1, disk := d, log := before.log ++ [⟨.info, _⟩],
    requests := before.requests ++ [_] } : Session) = s
  have hnew : MakesEmpty before s above := by
    rw [← hs]
    exact ⟨⟨rfl, rfl, hstays⟩, hempty "repo"⟩
  have hplaced := placeCopy_ok hnew copy
  revert hplaced
  obtain ⟨placed, next⟩ := (ExceptT.run (placeCopy _ copy)).run s
  rintro rfl
  simp only [if_neg hstatus, run_throw, run_removeQuietly]

/-- What a failing clone has said is quoted without the token; all of it is there but for the blanks
at its ends, and with stars where the token stood. If nothing of it is left, the status is there
instead. -/
theorem clone_error_hides_token (before : Session) (outside : Outside) (settings : Settings)
    (locator token : String) (d : Disk) (status : Int) (said : String) (copy : Option FileNode)
    (hmade : before.disk.makeDirectory (temporaryPath before (before.made + 1)) = .ok d)
    (hurl : GithubRepository.ofUrl? locator = .ok none)
    (hclone : outside.clone (cloneCommand locator (some token)
      ((temporaryPath before (before.made + 1)).child "repo")) = .exited status said copy)
    (hstatus : status ≠ 0) (hne : token ≠ "")
    (htoken : ∀ c ∈ token.toList, isTokenChar c = true) :
    ∃ quoted : String,
      ((ExceptT.run (acquire outside settings locator (some token))).run before).1 =
        .error (fetchFailure ("git clone of " ++ locator ++ " failed: " ++
          if quoted = "" then toString status else quoted)) ∧
      Quotes token.toList said.toList quoted.toList := by
  refine ⟨cleanedRemark (some token) said, ?_, quotes_cleanedRemark hne htoken said⟩
  rw [acquire_of_failed_clone hmade hurl hclone hstatus, cloneError]

/-- What a cloning program says that quotes a token again and again: one occurrence right behind
another, one that overlaps the one before, and one in front of the blank at the end. -/
def refusal : String := " fatal: abaababa is no token, not aba\n"

/-- A world in which every clone is refused. -/
def refusingWorld : Outside where
  clone _ := .exited 128 refusal none
  fetch _ _ := .failed "no connection"

theorem clone_error_hides_token_overlapping :
    freshSession.disk.makeDirectory (temporaryPath freshSession 1) = .ok freshDisk ∧
      GithubRepository.ofUrl? "https://git.local/shop" = .ok none ∧
      (∀ c ∈ "aba".toList, isTokenChar c = true) ∧
      ∃ quoted : String,
        ((ExceptT.run (acquire refusingWorld {} "https://git.local/shop" (some "aba"))).run
          freshSession).1 = .error (fetchFailure ("git clone of " ++ "https://git.local/shop" ++
            " failed: " ++ if quoted = "" then toString (128 : Int) else quoted)) ∧
        Quotes "aba".toList refusal.toList quoted.toList := by
  have hurl : GithubRepository.ofUrl? "https://git.local/shop" = .ok none := by cbv
  have htoken : ∀ c ∈ "aba".toList, isTokenChar c = true := by simp [isTokenChar]
  have hclone : ∀ command, refusingWorld.clone command = .exited 128 refusal none := by
    intro command
    rfl
  have hstatus : (128 : Int) ≠ 0 := by decide
  have hne : "aba" ≠ "" := by decide
  exact ⟨makeDirectory_freshSession, hurl, htoken,
    clone_error_hides_token freshSession refusingWorld {} "https://git.local/shop" "aba" freshDisk
      128 refusal none makeDirectory_freshSession hurl (hclone _) hstatus hne htoken⟩

example : cleanedRemark (some "aba") refusal = "fatal: ******ba is no token, not ***" := by
  decide +kernel

end Remote

end EndpointCatalog
