/-
EndpointCatalog.Proofs.Resource — the resource of an absolute path.

A version can be looked for in two ways: among the components of a path, or in
its text, where it stands between two slashes. The first match in the text may
start at any slash, and what stands behind it may go on like a version does;
`firstVersion_toString_iff` says that it is the first component that is a
version all the same, and never the last one.

`resource_of_absolute`: what a source file serves, by the components of its
path as they are written. Empty ones and dots are among them; they are dropped
when the path is read.
-/
import EndpointCatalog.Proofs.Path
import EndpointCatalog.Resource

namespace EndpointCatalog

variable {parts : List String} {name version : String} {text : List Char} {c : Char}

/-! ## Versions in a text -/

/-- The text starts with a version between two slashes. -/
def VersionAt (text : List Char) (version : String) : Prop :=
  isVersion version = true ∧ ∃ after, text = '/' :: (version.toList ++ '/' :: after)

/-- The version of the first place in a text where one stands between two slashes. -/
inductive FirstVersion : List Char → String → Prop where
  | here {text : List Char} {version : String} : VersionAt text version → FirstVersion text version
  | behind {c : Char} {rest : List Char} {version : String} :
      (∀ other, ¬ VersionAt (c :: rest) other) → FirstVersion rest version →
      FirstVersion (c :: rest) version

/-- A version is a letter with digits behind it. -/
theorem isVersion_iff : isVersion version = true ↔ ∃ digits, version.toList = 'v' :: digits ∧
    digits ≠ [] ∧ ∀ c ∈ digits, (digitValue? c.toNat).isSome = true := by
  unfold isVersion
  split
  · next digits hversion =>
    rw [hversion]
    simp
  · next hother =>
    refine iff_of_false (by simp) ?_
    rintro ⟨digits, hversion, -⟩
    exact hother digits hversion

theorem slash_not_mem_of_isVersion (h : isVersion version = true) : '/' ∉ version.toList := by
  obtain ⟨digits, hversion, -, hdigits⟩ := isVersion_iff.1 h
  rw [hversion]
  intro hmem
  rcases List.mem_cons.1 hmem with hletter | hmem
  · exact absurd hletter (by decide)
  · exact absurd (hdigits '/' hmem) (by decide +kernel)

theorem VersionAt.head_eq (h : VersionAt (c :: text) version) : c = '/' := by
  obtain ⟨-, after, htext⟩ := h
  exact (List.cons.inj htext).1

/-- Where no version stands, the first one stands behind. -/
theorem firstVersion_cons_iff (h : ∀ other, ¬ VersionAt (c :: text) other) :
    FirstVersion (c :: text) version ↔ FirstVersion text version := by
  refine ⟨fun hfirst => ?_, .behind h⟩
  cases hfirst with
  | here hat => exact absurd hat (h version)
  | behind _ hrest => exact hrest

/-- Characters other than slashes are passed over. -/
theorem firstVersion_append_iff {skipped : List Char} (h : '/' ∉ skipped) :
    FirstVersion (skipped ++ text) version ↔ FirstVersion text version := by
  induction skipped with
  | nil => exact Iff.rfl
  | cons c skipped ih =>
    obtain ⟨hc, hrest⟩ := not_or.1 (mt List.mem_cons.2 h)
    rw [List.cons_append, firstVersion_cons_iff fun other hat => hc hat.head_eq.symm, ih hrest]

/-! ## Components -/

/-- Components with a slash before each. -/
def spelled (parts : List String) : List Char := parts.flatMap fun part => '/' :: part.toList

theorem spelled_cons (name : String) (parts : List String) :
    spelled (name :: parts) = '/' :: (name.toList ++ spelled parts) := rfl

/-- No component has a slash in it. -/
def SlashFree (parts : List String) : Prop := ∀ part ∈ parts, '/' ∉ part.toList

theorem ne_slash_of_not_mem {piece : List Char} (h : '/' ∉ piece) :
    ∀ c ∈ piece, (c == '/') = false :=
  fun _ hc => beq_eq_false_iff_ne.2 fun heq => h (heq ▸ hc)

theorem append_slash_inj {xs ys after after' : List Char} (hxs : '/' ∉ xs) (hys : '/' ∉ ys)
    (h : xs ++ '/' :: after = ys ++ '/' :: after') : xs = ys := by
  have hsplit := congrArg (splitAt (· == '/')) h
  rw [splitAt_append_separator (ne_slash_of_not_mem hxs) rfl,
    splitAt_append_separator (ne_slash_of_not_mem hys) rfl] at hsplit
  exact (List.cons.inj hsplit).1

/-- A version stands at a slash exactly if it is the component there and another one follows. -/
theorem versionAt_spelled_iff (hname : '/' ∉ name.toList) :
    VersionAt (spelled (name :: parts)) version ↔
      isVersion name = true ∧ name = version ∧ parts ≠ [] := by
  constructor
  · rintro ⟨hversion, after, htext⟩
    rw [spelled_cons] at htext
    have hbehind := (List.cons.inj htext).2
    have hplain := slash_not_mem_of_isVersion hversion
    cases parts with
    | nil =>
      have hslash : '/' ∈ name.toList := by
        rw [spelled, List.flatMap_nil, List.append_nil] at hbehind
        rw [hbehind]
        simp
      exact absurd hslash hname
    | cons next others =>
      rw [spelled_cons] at hbehind
      have heq : name = version := String.toList_inj.1 (append_slash_inj hname hplain hbehind)
      exact ⟨heq ▸ hversion, heq, by simp⟩
  · rintro ⟨hversion, rfl, hne⟩
    obtain ⟨next, others, rfl⟩ := List.exists_cons_of_ne_nil hne
    exact ⟨hversion, next.toList ++ spelled others, rfl⟩

theorem not_firstVersion_nil : ¬ FirstVersion [] version := by
  rintro ⟨-, after, htext⟩
  cases htext

/-- The first version in the text is the first one among the components, the last one apart. -/
theorem firstVersion_spelled_iff (h : SlashFree parts) :
    FirstVersion (spelled parts) version ↔ parts.dropLast.find? isVersion = some version := by
  induction parts with
  | nil => exact iff_of_false not_firstVersion_nil (by simp)
  | cons name parts ih =>
    obtain ⟨hname, hparts⟩ := List.forall_mem_cons.1 h
    have hat : ∀ other, VersionAt (spelled (name :: parts)) other ↔
        isVersion name = true ∧ name = other ∧ parts ≠ [] := fun _ => versionAt_spelled_iff hname
    by_cases hhere : isVersion name = true ∧ parts ≠ []
    · obtain ⟨hversion, hne⟩ := hhere
      rw [List.dropLast_cons_of_ne_nil hne, List.find?_cons_of_pos hversion, Option.some_inj]
      constructor
      · intro hfirst
        cases hfirst with
        | here hversionAt => exact ((hat version).1 hversionAt).2.1
        | behind hnone => exact absurd ((hat name).2 ⟨hversion, rfl, hne⟩) (hnone name)
      · rintro rfl
        exact .here ((hat name).2 ⟨hversion, rfl, hne⟩)
    · have hnone : ∀ other, ¬ VersionAt (spelled (name :: parts)) other := fun other hother =>
        hhere ⟨((hat other).1 hother).1, ((hat other).1 hother).2.2⟩
      rw [spelled_cons] at hnone
      rw [spelled_cons, firstVersion_cons_iff hnone, firstVersion_append_iff hname, ih hparts]
      cases parts with
      | nil => rfl
      | cons next others =>
        have hversion : ¬ isVersion name = true := fun hversion => hhere ⟨hversion, by simp⟩
        rw [List.dropLast_cons_cons, List.find?_cons_of_neg hversion]

theorem spelled_eq_joinWith (hne : parts ≠ []) :
    spelled parts = '/' :: joinWith ['/'] (parts.map String.toList) := by
  induction parts with
  | nil => exact absurd rfl hne
  | cons name parts ih =>
    cases parts with
    | nil => simp [spelled, joinWith]
    | cons next others =>
      rw [spelled_cons, ih (by simp)]
      simp [joinWith]

theorem isVersion_empty : isVersion "" = false := by decide

/-- The components behind a root; an empty one if there are none. -/
def rooted (parts : List String) : List String := if parts = [] then [""] else parts

theorem rooted_ne_nil (parts : List String) : rooted parts ≠ [] := by
  unfold rooted
  split <;> simp_all

theorem spelled_rooted (parts : List String) :
    spelled (rooted parts) = '/' :: joinWith ['/'] (parts.map String.toList) := by
  by_cases hnil : parts = []
  · subst hnil
    rfl
  · rw [rooted, if_neg hnil, spelled_eq_joinWith hnil]

theorem dropLast_rooted (parts : List String) : (rooted parts).dropLast = parts.dropLast := by
  unfold rooted
  split <;> simp_all

theorem SlashFree.rooted (h : SlashFree parts) : SlashFree (rooted parts) := by
  unfold EndpointCatalog.rooted
  split
  · simp [SlashFree]
  · exact h

/-- Whatever a path starts at, the first version in its text is the first one among the components
that have a slash on both sides. -/
theorem firstVersion_toString_iff {p : Path} (h : SlashFree p.parts) :
    FirstVersion p.toString.toList version ↔ (enclosedParts p).find? isVersion = some version := by
  obtain ⟨root, parts⟩ := p
  cases root with
  | relative =>
    cases parts with
    | nil =>
      refine iff_of_false (fun hfirst => ?_) (by simp [enclosedParts, Path.isAbsolute])
      have hdot : '/' ∉ ['.'] := by decide
      exact not_firstVersion_nil ((firstVersion_append_iff hdot).1 hfirst)
    | cons name others =>
      obtain ⟨hname, hothers⟩ := List.forall_mem_cons.1 h
      have htext : (Path.toString ⟨.relative, name :: others⟩).toList =
          name.toList ++ spelled others := by
        have hjoin := spelled_eq_joinWith (List.cons_ne_nil name others)
        rw [spelled_cons] at hjoin
        rw [(List.cons.inj hjoin).2]
        simp [Path.toString, Path.rootText]
      rw [htext, firstVersion_append_iff hname, firstVersion_spelled_iff hothers]
      simp [enclosedParts, Path.isAbsolute]
  | slash =>
    have htext : (Path.toString ⟨.slash, parts⟩).toList = spelled (rooted parts) := by
      rw [spelled_rooted]
      simp [Path.toString, Path.rootText]
    rw [htext, firstVersion_spelled_iff h.rooted, dropLast_rooted]
    simp [enclosedParts, Path.isAbsolute]
  | doubleSlash =>
    have htext : (Path.toString ⟨.doubleSlash, parts⟩).toList = spelled ("" :: rooted parts) := by
      rw [spelled_cons, spelled_rooted]
      simp [Path.toString, Path.rootText]
    have hdrop : ("" :: rooted parts).dropLast = "" :: (rooted parts).dropLast :=
      List.dropLast_cons_of_ne_nil (rooted_ne_nil parts)
    rw [htext, firstVersion_spelled_iff (List.forall_mem_cons.2 ⟨by simp, h.rooted⟩), hdrop,
      List.find?_cons_of_neg (by rw [isVersion_empty]; simp), dropLast_rooted]
    simp [enclosedParts, Path.isAbsolute]

/-! ## Reading an absolute path -/

theorem splitSuffix_append {ext : String} (hname : name ≠ "") (hext : ext ≠ "")
    (hdot : '.' ∉ ext.toList) :
    Path.splitSuffix (name ++ "." ++ ext) = (name, "." ++ ext) := by
  have hall : ∀ c ∈ ext.toList.reverse, (c ≠ '.' : Bool) = true := by
    intro c hc
    exact decide_eq_true fun heq => hdot (heq ▸ List.mem_reverse.1 hc)
  have hreverse : (name ++ "." ++ ext).toList.reverse =
      ext.toList.reverse ++ '.' :: name.toList.reverse := by
    simp
  have hafter : (ext.toList.reverse ++ '.' :: name.toList.reverse).takeWhile (· ≠ '.') =
      ext.toList.reverse := by
    rw [List.takeWhile_append_of_pos hall, List.takeWhile_cons_of_neg (by simp), List.append_nil]
  have hbefore : (ext.toList.reverse ++ '.' :: name.toList.reverse).dropWhile (· ≠ '.') =
      '.' :: name.toList.reverse := by
    rw [List.dropWhile_append_of_pos hall, List.dropWhile_cons_of_neg (by simp)]
  rw [Path.splitSuffix, hreverse, hafter, hbefore]
  simp [hname, hext]

theorem isAbsolute_ofString_cons_slash (text : List Char) :
    (Path.ofString (String.ofList ('/' :: text))).isAbsolute = true := by
  have hroot : Path.rootOf ('/' :: text) ≠ .relative := by
    unfold Path.rootOf
    split <;> simp_all
  simpa [Path.ofString, Path.isAbsolute] using hroot

/-- Components that are kept when a path is read. -/
def keptParts (parts : List String) : List String :=
  parts.filter fun part => part ≠ "" ∧ part ≠ "."

/-- Components are read as they are written, except that empty ones and dots are dropped. -/
theorem parts_ofString_spelled (h : SlashFree parts) (hne : parts ≠ []) :
    (Path.ofString (String.ofList (spelled parts))).parts = keptParts parts := by
  have hjoin : spelled parts = joinWith ['/'] ([] :: parts.map String.toList) := by
    rw [spelled_eq_joinWith hne]
    obtain ⟨name, others, rfl⟩ := List.exists_cons_of_ne_nil hne
    rfl
  have hsplit : splitAt (· == '/') (spelled parts) = [] :: parts.map String.toList := by
    rw [hjoin]
    refine splitAt_joinWith rfl (by simp) (List.forall_mem_cons.2 ⟨nofun, fun piece hpiece => ?_⟩)
    obtain ⟨name, hname, rfl⟩ := List.mem_map.1 hpiece
    exact ne_slash_of_not_mem (h name hname)
  have hid : String.ofList ∘ String.toList = id := funext fun _ => String.ofList_toList
  simp [Path.ofString, keptParts, hsplit, hid]

/-- What is dropped when a path is read is no version. -/
theorem find?_keptParts (parts : List String) :
    (keptParts parts).find? isVersion = parts.find? isVersion := by
  have hkept : ∀ part, isVersion part = true → part ≠ "" ∧ part ≠ "." := by
    intro part hversion
    obtain ⟨digits, htext, -⟩ := isVersion_iff.1 hversion
    constructor
    · rintro rfl
      cases htext
    · rintro rfl
      exact absurd (List.cons.inj htext).1 (by decide)
  rw [keptParts, List.find?_filter]
  congr 1
  funext part
  by_cases hversion : isVersion part = true
  · simp [hversion, hkept part hversion]
  · simp [hversion]

/-- The text of an absolute path: components, then a file's name with its suffix. -/
def absoluteText (parts : List String) (name ext : String) : String :=
  String.ofList (spelled (parts ++ [name ++ "." ++ ext]))

theorem parts_absoluteText {ext : String} (hparts : SlashFree parts) (hname : name ≠ "")
    (hslash : '/' ∉ (name ++ "." ++ ext).toList) :
    (Path.ofString (absoluteText parts name ext)).parts =
      keptParts parts ++ [name ++ "." ++ ext] := by
  have hfree : SlashFree (parts ++ [name ++ "." ++ ext]) :=
    List.forall_mem_append.2 ⟨hparts, by simpa using hslash⟩
  have hlong : ".".length < (name ++ "." ++ ext).length := by
    have hpos : name.length ≠ 0 := by simpa using hname
    simp only [String.length_append]
    omega
  have hne : name ++ "." ++ ext ≠ "" ∧ name ++ "." ++ ext ≠ "." :=
    ⟨fun heq => by simp [heq] at hlong, fun heq => by simp [heq] at hlong⟩
  rw [absoluteText, parts_ofString_spelled hfree (by simp), keptParts, List.filter_append]
  simp [hne, keptParts]

/-- What a source file serves, by the components of its absolute path: the first of them that is a
version comes into the path of the endpoint, unless the file is an index. The text of the path has
the same version first. -/
theorem resource_of_absolute {ext : String} (hparts : SlashFree parts) (hname : name ≠ "")
    (hslash : '/' ∉ name.toList) (hext : ext = "ts" ∨ ext = "js") :
    Resource.ofPath (Path.ofString (absoluteText parts name ext)) =
      ⟨name, if name = "index" then "/index"
        else match parts.find? isVersion with
          | some version => "/" ++ version ++ "/" ++ name
          | none => "/" ++ name⟩ ∧
    ∀ version, parts.find? isVersion = some version ↔
      FirstVersion (Path.ofString (absoluteText parts name ext)).toString.toList version := by
  have hsuffix : ext ≠ "" ∧ '.' ∉ ext.toList ∧ '/' ∉ ext.toList := by
    rcases hext with rfl | rfl <;> decide
  have hfile : '/' ∉ (name ++ "." ++ ext).toList := by simp [hslash, hsuffix.2.2]
  have hread := parts_absoluteText hparts hname hfile
  have habsolute : (Path.ofString (absoluteText parts name ext)).isAbsolute = true := by
    obtain ⟨first, others, hfirst⟩ := List.exists_cons_of_ne_nil
      (show parts ++ [name ++ "." ++ ext] ≠ [] by simp)
    rw [absoluteText, hfirst]
    exact isAbsolute_ofString_cons_slash _
  have hstem : (Path.ofString (absoluteText parts name ext)).stem = name := by
    rw [Path.stem, Path.name, hread, List.getLast?_concat, Option.getD_some,
      splitSuffix_append hname hsuffix.1 hsuffix.2.1]
  have hfind : (enclosedParts (Path.ofString (absoluteText parts name ext))).find? isVersion =
      parts.find? isVersion := by
    rw [enclosedParts, habsolute, if_pos rfl, hread, List.dropLast_concat, find?_keptParts]
  refine ⟨?_, fun version => ?_⟩
  · rw [Resource.ofPath, hstem, hfind]
    by_cases hindex : name = "index"
    · subst hindex
      rfl
    · have hother : ¬ name = Resource.indexName := hindex
      simp only [hindex, hother, if_false]
      cases parts.find? isVersion with
      | none => rfl
      | some version => rfl
  · have hfree : SlashFree (Path.ofString (absoluteText parts name ext)).parts := by
      rw [hread]
      refine List.forall_mem_append.2 ⟨fun part hpart => ?_, by simpa using hfile⟩
      exact hparts part (List.mem_of_mem_filter hpart)
    rw [firstVersion_toString_iff hfree, hfind]

/-- A version of digits of another script, behind components that contain one or go on behind it,
and before another one; and the file itself is named like a version. -/
theorem resource_of_absolute_named :
    Resource.ofPath (Path.ofString (absoluteText ["", "srv", "xv1", "v1x", "v", "v٢", ".", "v1"]
      "v3.v4" "ts")) = ⟨"v3.v4", "/v٢/v3.v4"⟩ := by
  have hparts : SlashFree ["", "srv", "xv1", "v1x", "v", "v٢", ".", "v1"] := by
    simp [SlashFree]
  have hname : "v3.v4" ≠ "" ∧ '/' ∉ "v3.v4".toList := by decide
  have hresource := (resource_of_absolute hparts hname.1 hname.2 (.inl (Eq.refl "ts"))).1
  exact hresource.trans (by decide +kernel)

end EndpointCatalog
