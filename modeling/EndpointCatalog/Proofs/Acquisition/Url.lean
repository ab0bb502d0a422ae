/-
EndpointCatalog.Proofs.Acquisition.Url — URLs taken apart as they were written.

* `ofString_spelled`: authority and path are read as they stand in a URL,
  whatever query and fragment follow, but for parameters in the last
  segment of the path.
* `namesOn` are the names on a path, and `spelledPath` writes them with as
  many slashes between them as one likes. `namesOn_dropParameters_path` says
  what the cut of the parameters does to them.
-/
import EndpointCatalog.Proofs.Path
import EndpointCatalog.Remote.Url
import Mathlib

namespace EndpointCatalog.Remote

open Url

/-! ## Characters -/

/-- The characters that a segment of a path may carry as they are. -/
def isPathChar (c : Char) : Bool :=
  c.isAlphanum || "-._~!$&'()*+,;=:@%".toList.contains c

section Characters

variable {c d : Char} {text : List Char}

theorem ne_of_isPathChar (h : isPathChar c = true) (hd : isPathChar d = false) : c ≠ d := by
  rintro rfl
  simp [h] at hd

theorem not_mem_of_isPathChar (h : ∀ c ∈ text, isPathChar c = true)
    (hd : isPathChar d = false) : d ∉ text :=
  fun hmem => ne_of_isPathChar (h d hmem) hd rfl

theorem toNat_of_isAlphanum (h : c.isAlphanum = true) : 32 < c.toNat ∧ c.toNat < 128 := by
  simp only [Char.isAlphanum, Char.isAlpha, Char.isUpper, Char.isLower, Char.isDigit,
    Bool.or_eq_true, Bool.and_eq_true, decide_eq_true_eq, UInt32.le_iff_toNat_le, ge_iff_le] at h
  change ((65 ≤ c.toNat ∧ c.toNat ≤ 90) ∨ (97 ≤ c.toNat ∧ c.toNat ≤ 122)) ∨
    (48 ≤ c.toNat ∧ c.toNat ≤ 57) at h
  omega

theorem toNat_of_isPathChar (h : isPathChar c = true) : 32 < c.toNat ∧ c.toNat < 128 := by
  rcases Bool.or_eq_true_iff.1 h with h | h
  · exact toNat_of_isAlphanum h
  · have hall : ∀ c ∈ "-._~!$&'()*+,;=:@%".toList, 32 < c.toNat ∧ c.toNat < 128 := by simp
    exact hall c (List.contains_iff_mem.1 h)

theorem isPathChar_of_toLower (h : isPathChar c.toLower = true) : isPathChar c = true := by
  by_cases hupper : c.isUpper = true
  · simp [isPathChar, Char.isAlphanum, Char.isAlpha, hupper]
  · rwa [Char.toLower_eq_of_not_isUpper hupper] at h

end Characters

/-! ## The parts of a URL -/

section Parts

variable {p : Char → Bool} {xs ys : List Char} {c : Char}

theorem beq_eq_false_of_not_mem (h : c ∉ xs) : ∀ x ∈ xs, (x == c) = false := by
  intro x hx
  refine beq_eq_false_iff_ne.2 ?_
  rintro rfl
  exact h hx

theorem cutAt_append_cons (h : ∀ x ∈ xs, p x = false) (hc : p c = true) :
    cutAt p (xs ++ c :: ys) = (xs, ys) := by
  have hxs : ∀ x ∈ xs, (!p x) = true := by simpa using h
  simp [cutAt, List.takeWhile_append_of_pos hxs, List.dropWhile_append_of_pos hxs, hc]

theorem cutAt_of_none (h : ∀ x ∈ xs, p x = false) : cutAt p xs = (xs, []) := by
  have hxs : ∀ x ∈ xs, (!p x) = true := by simpa using h
  simp [cutAt, List.takeWhile_eq_self_iff.2 hxs, List.dropWhile_eq_nil_iff.2 hxs]

theorem afterLast_append_cons (h : ∀ y ∈ ys, p y = false) (hc : p c = true) :
    afterLast p (xs ++ c :: ys) = ys := by
  have hys : ∀ y ∈ ys.reverse, (!p y) = true := by simpa using h
  simp [afterLast, List.takeWhile_append_of_pos hys, hc]

theorem afterLast_of_none (h : ∀ y ∈ ys, p y = false) : afterLast p ys = ys := by
  have hys : ∀ y ∈ ys.reverse, (!p y) = true := by simpa using h
  simp [afterLast, List.takeWhile_eq_self_iff.2 hys]

/-- Only the last segment of a path is cut. -/
theorem dropParameters_of_last (front : List Char) {last : List Char} (h : '/' ∉ last) :
    dropParameters (front ++ '/' :: last) = front ++ '/' :: last.takeWhile (· ≠ ';') := by
  have hlast : afterLast (· == '/') (front ++ '/' :: last) = last :=
    afterLast_append_cons (beq_eq_false_of_not_mem h) rfl
  have htake : (front ++ '/' :: last).take ((front ++ '/' :: last).length - last.length) =
      front ++ ['/'] := by
    rw [List.append_cons]
    refine List.take_left' ?_
    simp only [List.length_append]
    omega
  rw [dropParameters, hlast, htake, List.append_assoc, List.singleton_append]

end Parts

/-! ## The parts are found where they were written -/

section Spelled

variable {authority path tail : List Char}

theorem checkBrackets_of_pathChars (h : ∀ c ∈ authority, isPathChar c = true) :
    checkBrackets authority = .ok () := by
  have hopened : '[' ∉ authority := not_mem_of_isPathChar h (by decide)
  have hclosed : ']' ∉ authority := not_mem_of_isPathChar h (by decide)
  simp [checkBrackets, hopened, hclosed]

theorem checkLookalikes_of_pathChars (h : ∀ c ∈ authority, isPathChar c = true) :
    checkLookalikes authority = .ok () := by
  have hfar : ∀ code ∈ separatorLookalikes, 128 ≤ code := by decide
  have hnone : ¬ (authority.any fun c => separatorLookalikes.contains c.toNat) = true := by
    intro hany
    obtain ⟨c, hc, hcontains⟩ := List.any_eq_true.1 hany
    have hlow := (toNat_of_isPathChar (h c hc)).2
    have hhigh := hfar _ (List.contains_iff_mem.1 hcontains)
    omega
  rw [checkLookalikes, if_neg hnone]

/-- What stands behind a path: nothing, a query or a fragment. -/
def EndsPath (tail : List Char) : Prop := ∀ c ∈ tail.head?, c = '?' ∨ c = '#'

/-- Nothing in front of the query is dropped. -/
theorem cleaned_append {front : List Char} (hne : front ≠ [])
    (h : ∀ c ∈ front, 32 < c.toNat) (htail : EndsPath tail) :
    ∃ rest, cleaned (front ++ tail) = front ++ rest ∧ EndsPath rest := by
  refine ⟨tail.filter fun c => c ≠ '\t' && c ≠ '\r' && c ≠ '\n', ?_, ?_⟩
  · have hkept : front.filter (fun c => c ≠ '\t' && c ≠ '\r' && c ≠ '\n') = front := by
      refine List.filter_eq_self.2 fun c hc => ?_
      have hlow := h c hc
      have htab : c ≠ '\t' := by rintro rfl; exact absurd hlow (by decide)
      have hreturn : c ≠ '\r' := by rintro rfl; exact absurd hlow (by decide)
      have hfeed : c ≠ '\n' := by rintro rfl; exact absurd hlow (by decide)
      simp [htab, hreturn, hfeed]
    obtain ⟨first, more, rfl⟩ := List.exists_cons_of_ne_nil hne
    have hfirst : ¬ first.toNat ≤ 32 := Nat.not_le.2 (h first List.mem_cons_self)
    rw [cleaned, List.cons_append, List.dropWhile_cons, if_neg (by simpa using hfirst),
      ← List.cons_append, List.filter_append, hkept]
  · cases tail with
    | nil => exact htail
    | cons c cs =>
      have hc : c = '?' ∨ c = '#' := htail c rfl
      intro d hd
      rcases hc with rfl | rfl
      · left
        simpa using hd.symm
      · right
        simpa using hd.symm

/-- The scheme of a web page. -/
def webScheme (isSecure : Bool) : List Char := if isSecure then "https".toList else "http".toList

theorem splitScheme_spelled (isSecure : Bool) (rest : List Char) :
    splitScheme (webScheme isSecure ++ ':' :: rest) = (webScheme isSecure, rest) := by
  have hcut : cutAt (· == ':') (webScheme isSecure ++ ':' :: rest) =
      (webScheme isSecure, rest) := by
    refine cutAt_append_cons ?_ rfl
    cases isSecure <;> simp [webScheme]
  have hname : (webScheme isSecure).head?.any Char.isAlpha = true ∧
      (webScheme isSecure).all isSchemeChar = true ∧
      (webScheme isSecure).map Char.toLower = webScheme isSecure := by
    cases isSecure <;> decide
  simp [splitScheme, hcut, hname]

theorem splitAuthority_spelled (hauthority : ∀ c ∈ authority, isPathChar c = true)
    (hfirst : ∀ c ∈ path.head?, c = '/') (htail : EndsPath tail) :
    splitAuthority ("//".toList ++ authority ++ path ++ tail) = (authority, path ++ tail) := by
  have hinside : ∀ c ∈ authority, (!(c == '/' || c == '?' || c == '#')) = true := by
    intro c hc
    have hslash : c ≠ '/' := ne_of_isPathChar (hauthority c hc) (by decide)
    have hquery : c ≠ '?' := ne_of_isPathChar (hauthority c hc) (by decide)
    have hfragment : c ≠ '#' := ne_of_isPathChar (hauthority c hc) (by decide)
    simp [hslash, hquery, hfragment]
  have houtside : ∀ c ∈ (path ++ tail).head?, (!(c == '/' || c == '?' || c == '#')) = false := by
    intro c hc
    cases path with
    | cons first more =>
      have hslash : c = '/' := hfirst c hc
      simp [hslash]
    | nil =>
      rcases htail c hc with rfl | rfl <;> rfl
  rw [List.append_assoc, List.append_assoc]
  show (List.takeWhile _ (authority ++ (path ++ tail)),
    List.dropWhile _ (authority ++ (path ++ tail))) = _
  rw [List.takeWhile_append_of_pos hinside, List.dropWhile_append_of_pos hinside]
  cases hrest : path ++ tail with
  | nil => simp
  | cons c cs =>
    have hc := houtside c (by simp [hrest])
    rw [List.takeWhile_cons_of_neg (by simp [hc]), List.dropWhile_cons_of_neg (by simp [hc]),
      List.append_nil]

/-- The path ends where the query or the fragment begins. -/
theorem cutAt_spelled (hpath : ∀ c ∈ path, isPathChar c = true ∨ c = '/') (htail : EndsPath tail) :
    (cutAt (· == '?') (cutAt (· == '#') (path ++ tail)).1).1 = path := by
  have houtside : ∀ c ∈ path, c ≠ '?' ∧ c ≠ '#' := by
    intro c hc
    rcases hpath c hc with h | rfl
    · exact ⟨ne_of_isPathChar h (by decide), ne_of_isPathChar h (by decide)⟩
    · decide
  have hfragment : ∀ c ∈ path, (!c == '#') = true := by
    intro c hc
    simpa using (houtside c hc).2
  have hquery : ∀ c ∈ path, (!c == '?') = true := by
    intro c hc
    simpa using (houtside c hc).1
  simp only [cutAt, List.takeWhile_append_of_pos hfragment, List.takeWhile_append_of_pos hquery]
  cases tail with
  | nil => simp
  | cons c cs => rcases htail c rfl with rfl | rfl <;> simp

/-- The parts of a URL with an authority are read as they were written, apart from parameters. -/
theorem ofString_spelled (isSecure : Bool) (hauthority : ∀ c ∈ authority, isPathChar c = true)
    (hpath : ∀ c ∈ path, isPathChar c = true ∨ c = '/') (hfirst : ∀ c ∈ path.head?, c = '/')
    (htail : EndsPath tail) :
    Url.ofString (String.ofList
        (webScheme isSecure ++ "://".toList ++ authority ++ path ++ tail)) =
      .ok ⟨webScheme isSecure, authority, dropParameters path⟩ := by
  have hvisible : ∀ c ∈ webScheme isSecure ++ "://".toList ++ authority ++ path, 32 < c.toNat := by
    have hscheme : ∀ c ∈ webScheme isSecure ++ "://".toList, 32 < c.toNat := by
      cases isSecure <;> simp [webScheme]
    intro c hc
    rcases List.mem_append.1 hc with hc | hc
    · rcases List.mem_append.1 hc with hc | hc
      · exact hscheme c hc
      · exact (toNat_of_isPathChar (hauthority c hc)).1
    · rcases hpath c hc with hc | rfl
      · exact (toNat_of_isPathChar hc).1
      · decide
  obtain ⟨rest, hcleaned, hrest⟩ := cleaned_append (by simp) hvisible htail
  have hscheme : splitScheme (webScheme isSecure ++ "://".toList ++ authority ++ path ++ rest) =
      (webScheme isSecure, "//".toList ++ authority ++ path ++ rest) := by
    simpa using splitScheme_spelled isSecure ("//".toList ++ authority ++ path ++ rest)
  have hparameters : parameterSchemes.contains (String.ofList (webScheme isSecure)) = true := by
    cases isSecure <;> decide
  rw [Url.ofString, String.toList_ofList, hcleaned, hscheme]
  simp only [splitAuthority_spelled hauthority hfirst hrest, checkBrackets_of_pathChars hauthority,
    checkLookalikes_of_pathChars hauthority, cutAt_spelled hpath hrest, hparameters, if_true]
  rfl

end Spelled

/-! ## The names on a path -/

/-- The names on a path: what stands between its slashes, empty pieces left out. -/
def namesOn (path : List Char) : List (List Char) :=
  (splitAt (· == '/') path).filter (!·.isEmpty)

/-- Segments of a path, each with its slash in front of it and with `doubled` more of them. -/
def spelledPath (doubled : Nat → Nat) : List (List Char) → List Char
  | [] => []
  | segment :: rest =>
    List.replicate (doubled 0 + 1) '/' ++ segment ++ spelledPath (fun i => doubled (i + 1)) rest

section Names

variable {segment rest : List Char} {segments : List (List Char)}

theorem namesOn_slash (path : List Char) : namesOn ('/' :: path) = namesOn path := by
  have hsplit := @splitAt_append_separator _ (· == '/') [] path '/' (by simp) rfl
  rw [List.nil_append] at hsplit
  rw [namesOn, hsplit, List.filter_cons_of_neg (by simp), ← namesOn]

theorem namesOn_slashes (count : Nat) (path : List Char) :
    namesOn (List.replicate count '/' ++ path) = namesOn path := by
  induction count with
  | zero => rfl
  | succ count ih => rw [List.replicate_succ, List.cons_append, namesOn_slash, ih]

theorem namesOn_replicate (count : Nat) : namesOn (List.replicate count '/') = [] := by
  simpa [namesOn, splitAt] using namesOn_slashes count []

theorem head?_replicate (count : Nat) : ∀ c ∈ (List.replicate count '/').head?, c = '/' := by
  intro c hc
  exact List.eq_of_mem_replicate (List.mem_of_mem_head? hc)

theorem namesOn_of_no_slash (h : '/' ∉ segment) :
    namesOn segment = [segment].filter (!·.isEmpty) := by
  rw [namesOn, splitAt_of_no_separator (beq_eq_false_of_not_mem h)]

theorem namesOn_segment (hne : segment ≠ []) (h : '/' ∉ segment)
    (hrest : ∀ c ∈ rest.head?, c = '/') : namesOn (segment ++ rest) = segment :: namesOn rest := by
  cases rest with
  | nil =>
    rw [List.append_nil, namesOn_of_no_slash h]
    simp [hne, namesOn, splitAt]
  | cons c rest =>
    obtain rfl : c = '/' := hrest c rfl
    rw [namesOn_slash, namesOn, splitAt_append_separator (beq_eq_false_of_not_mem h) rfl,
      List.filter_cons_of_pos (by simpa using hne), ← namesOn]

/-- Every character of a path but its slashes stands in one of its names. -/
theorem exists_mem_namesOn {path : List Char} {c : Char} (h : c ∈ path) (hc : c ≠ '/') :
    ∃ name ∈ namesOn path, c ∈ name := by
  obtain ⟨first, pieces, hsplit⟩ :=
    List.exists_cons_of_ne_nil (@splitAt_ne_nil _ (· == '/') path)
  have hjoined := joinWith_splitAt (fun c hc => (beq_iff_eq.1 hc : c = '/')) path
  rw [hsplit, joinWith_cons] at hjoined
  obtain ⟨piece, hpiece, hmem⟩ : ∃ piece ∈ first :: pieces, c ∈ piece := by
    rw [← hjoined] at h
    rcases List.mem_append.1 h with hmem | hmem
    · exact ⟨first, List.mem_cons_self, hmem⟩
    · obtain ⟨piece, hpiece, hmem⟩ := List.mem_flatMap.1 hmem
      exact ⟨piece, List.mem_cons_of_mem _ hpiece, (List.mem_cons.1 hmem).resolve_left hc⟩
  refine ⟨piece, ?_, hmem⟩
  rw [namesOn, hsplit]
  exact List.mem_filter.2 ⟨hpiece, by simpa using List.ne_nil_of_mem hmem⟩

theorem head?_spelledPath (doubled : Nat → Nat) (hrest : ∀ c ∈ rest.head?, c = '/') :
    ∀ c ∈ (spelledPath doubled segments ++ rest).head?, c = '/' := by
  cases segments with
  | nil => exact hrest
  | cons segment segments =>
    intro c hc
    simpa [spelledPath, List.replicate_succ] using hc.symm

theorem mem_spelledPath {doubled : Nat → Nat} {c : Char} (h : c ∈ spelledPath doubled segments) :
    c = '/' ∨ ∃ segment ∈ segments, c ∈ segment := by
  induction segments generalizing doubled with
  | nil => cases h
  | cons segment segments ih =>
    rcases List.mem_append.1 h with h | h
    · rcases List.mem_append.1 h with h | h
      · exact .inl (List.eq_of_mem_replicate h)
      · exact .inr ⟨segment, List.mem_cons_self, h⟩
    · rcases ih h with hslash | ⟨other, hother, hmem⟩
      · exact .inl hslash
      · exact .inr ⟨other, List.mem_cons_of_mem _ hother, hmem⟩

/-- Every segment is a name, however many slashes stand in front of it. -/
theorem namesOn_spelledPath (doubled : Nat → Nat)
    (h : ∀ segment ∈ segments, segment ≠ [] ∧ '/' ∉ segment) (hrest : ∀ c ∈ rest.head?, c = '/') :
    namesOn (spelledPath doubled segments ++ rest) = segments ++ namesOn rest := by
  induction segments generalizing doubled with
  | nil => rfl
  | cons segment segments ih =>
    obtain ⟨⟨hne, hslash⟩, hsegments⟩ := List.forall_mem_cons.1 h
    rw [spelledPath, List.append_assoc, List.append_assoc, namesOn_slashes,
      namesOn_segment hne hslash (head?_spelledPath _ hrest), ih _ hsegments, List.cons_append]

theorem spelledPath_append (doubled : Nat → Nat) (xs ys : List (List Char)) :
    spelledPath doubled (xs ++ ys) =
      spelledPath doubled xs ++ spelledPath (fun i => doubled (i + xs.length)) ys := by
  induction xs generalizing doubled with
  | nil => rfl
  | cons x xs ih =>
    simp only [List.cons_append, spelledPath, ih, List.append_assoc, List.length_cons]
    congr 4

theorem namesOn_dropParameters_of_last (doubled : Nat → Nat) (count : Nat) {last : List Char}
    (h : ∀ segment ∈ segments, segment ≠ [] ∧ '/' ∉ segment) (hlast : '/' ∉ last) :
    namesOn (dropParameters
        (spelledPath doubled segments ++ List.replicate count '/' ++ '/' :: last)) =
      segments ++ [last.takeWhile (· ≠ ';')].filter (!·.isEmpty) := by
  have hcut : '/' ∉ last.takeWhile (· ≠ ';') :=
    fun hmem => hlast (List.takeWhile_subset _ hmem)
  have hrest : ∀ c ∈ (List.replicate count '/' ++ '/' :: last.takeWhile (· ≠ ';')).head?,
      c = '/' := by
    cases count <;> simp [List.replicate_succ]
  rw [dropParameters_of_last _ hlast, List.append_assoc, namesOn_spelledPath doubled h hrest,
    namesOn_slashes, namesOn_slash, namesOn_of_no_slash hcut]

/-- A slash behind the last segment keeps it whole. Without one it ends at its first semicolon, and
what is left of it may be nothing. -/
theorem namesOn_dropParameters_path (doubled : Nat → Nat) (closing : Nat) {last : List Char}
    (h : ∀ segment ∈ segments ++ [last], segment ≠ [] ∧ '/' ∉ segment) :
    namesOn (dropParameters
        (spelledPath doubled (segments ++ [last]) ++ List.replicate closing '/')) =
      if closing = 0 then segments ++ [last.takeWhile (· ≠ ';')].filter (!·.isEmpty)
      else segments ++ [last] := by
  cases closing with
  | zero =>
    have hfront : ∀ segment ∈ segments, segment ≠ [] ∧ '/' ∉ segment :=
      fun segment hmem => h segment (List.mem_append_left _ hmem)
    have hspelled : spelledPath doubled (segments ++ [last]) ++ List.replicate 0 '/' =
        spelledPath doubled segments ++ List.replicate (doubled segments.length) '/' ++
          '/' :: last := by
      simp [spelledPath_append, spelledPath, List.replicate_succ']
    rw [hspelled, namesOn_dropParameters_of_last doubled _ hfront (h last (by simp)).2, if_pos rfl]
  | succ count =>
    have hspelled : spelledPath doubled (segments ++ [last]) ++ List.replicate (count + 1) '/' =
        spelledPath doubled (segments ++ [last]) ++ List.replicate count '/' ++ '/' :: [] := by
      rw [List.replicate_succ', List.append_assoc]
    rw [hspelled, namesOn_dropParameters_of_last doubled _ h List.not_mem_nil,
      if_neg (Nat.succ_ne_zero count)]
    simp

end Names

end EndpointCatalog.Remote
