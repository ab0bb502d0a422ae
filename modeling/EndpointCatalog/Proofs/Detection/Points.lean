/-
EndpointCatalog.Proofs.Detection.Points — what detection makes of points.

The points of a framework do not depend on the order of the signs, but of
several frameworks with the most points the one that scored first is found.

* `Score.leads_iff`: this is the framework of the first sign that speaks for
  one of them.
* `Detection.ofScore_of_leads`: it is found, with a confidence that depends on
  its points and on all points.
* `confidenceOf_eq`: the confidence is its share of the points, kept between
  0.3 and 0.99, and rounded once.
-/
import EndpointCatalog.Proofs.Detection
import EndpointCatalog.Proofs.Number.Rounding

namespace EndpointCatalog

/-! ## Points -/

namespace Score

/-- All points of some signs. -/
def points (signs : List Sign) : Nat := (signs.map Prod.snd).sum

/-- No framework has more points. -/
def Tops (signs : List Sign) (framework : String) : Prop :=
  framework ∈ scored signs ∧ ∀ other ∈ scored signs, weight signs other ≤ weight signs framework

variable {s : Score} {signs signs' : List Sign} {framework other : String}

theorem weight_perm (h : signs.Perm signs') (framework : String) :
    weight signs framework = weight signs' framework :=
  ((h.filter _).map _).sum_eq

theorem mem_scored_perm (h : signs.Perm signs') :
    framework ∈ scored signs ↔ framework ∈ scored signs' := by
  simp only [mem_scored, h.mem_iff]

theorem points_perm (h : signs.Perm signs') : points signs = points signs' :=
  (h.map _).sum_eq

theorem tops_perm (h : signs.Perm signs') : Tops signs framework ↔ Tops signs' framework := by
  simp only [Tops, mem_scored_perm h, weight_perm h]

theorem Tops.weight_eq (h : Tops signs framework) (h' : Tops signs other) :
    weight signs framework = weight signs other :=
  Nat.le_antisymm (h'.2 _ h.1) (h.2 _ h'.1)

theorem total_eq (s : Score) : s.total = points s := by
  induction s with
  | nil => rfl
  | cons e rest ih =>
    rw [total, List.foldr_cons, ← total, ih]
    exact List.sum_cons.symm

theorem points_cons (sign : Sign) (signs : List Sign) :
    points (sign :: signs) = sign.2 + points signs := List.sum_cons

theorem points_add (framework : String) (gained : Nat) (s : Score) :
    points (s.add framework gained) = gained + points s := by
  induction s with
  | nil => rfl
  | cons e rest ih =>
    rw [add]
    split
    · rw [points_cons, points_cons]
      dsimp only
      omega
    · rw [points_cons, points_cons, ih]
      omega

theorem points_addAll (s : Score) (signs : List Sign) :
    points (s.addAll signs) = points s + points signs := by
  induction signs generalizing s with
  | nil => rfl
  | cons sign rest ih =>
    rw [addAll, List.foldl_cons, ← addAll, ih, points_add, points_cons]
    omega

/-- Points are given to frameworks. -/
theorem points_eq_sum {frameworks : List String} (hnodup : frameworks.Nodup)
    (hall : ∀ sign ∈ signs, sign.1 ∈ frameworks) :
    points signs = (frameworks.map (weight signs)).sum := by
  induction signs with
  | nil =>
    have hzero : weight [] = fun _ => 0 := rfl
    rw [hzero, List.map_const', List.sum_replicate, smul_zero]
    rfl
  | cons sign rest ih =>
    obtain ⟨hsign, hrest⟩ := List.forall_mem_cons.1 hall
    have hgiven : (frameworks.map fun framework =>
        if framework = sign.1 then sign.2 else 0).sum = sign.2 := by
      rw [List.sum_map_eq_nsmul_single sign.1 _ fun other hother _ => if_neg hother,
        hnodup.count, if_pos hsign, if_pos rfl, one_smul]
    have hweight : weight (sign :: rest) = fun framework =>
        (if framework = sign.1 then sign.2 else 0) + weight rest framework :=
      funext fun framework => by simp only [weight_cons, eq_comm]
    rw [hweight, List.sum_map_add, hgiven, ← ih hrest]
    rfl

/-! ## The framework that leads -/

theorem Leads.tops (h : Leads signs framework) : Tops signs framework :=
  ⟨h.1, fun other hother => (h.2 other hother).elim Nat.le_of_lt fun heq => heq.1.le⟩

theorem Leads.eq (h : Leads signs framework) (h' : Leads signs other) : framework = other :=
  Option.some.inj ((argmax_weight_eq_some_iff.2 h).symm.trans (argmax_weight_eq_some_iff.2 h'))

/-- A framework that scores later stands behind those that have scored. -/
theorem length_le_idxOf_scored {before after : List Sign} (h : framework ∉ scored before) :
    (scored before).length ≤ (scored (before ++ after)).idxOf framework := by
  rw [scored.eq_1 (before ++ after), List.map_append, List.eraseDups_append, ← scored,
    List.idxOf_append, if_neg h]
  exact Nat.le_add_left _ _

/-- A framework that scores next stands right behind those that have scored. -/
theorem idxOf_scored {before after : List Sign} {sign : Sign} (h : sign.1 ∉ scored before) :
    (scored (before ++ sign :: after)).idxOf sign.1 = (scored before).length := by
  have hnew : sign.1 ∉ before.map Prod.fst := mt List.mem_eraseDups.2 h
  rw [scored, List.map_append, List.eraseDups_append, ← scored, List.idxOf_append, if_neg h]
  simp [List.removeAll, hnew, List.eraseDups_cons]

/-- The framework of the first sign that speaks for a framework with the most points leads. -/
theorem leads_of_first {before after : List Sign} {sign : Sign}
    (htops : Tops (before ++ sign :: after) sign.1)
    (hfirst : ∀ earlier ∈ before, ¬ Tops (before ++ sign :: after) earlier.1) :
    Leads (before ++ sign :: after) sign.1 := by
  have hnone : ∀ other, Tops (before ++ sign :: after) other → other ∉ scored before := by
    intro other hother hscored
    obtain ⟨earlier, hearlier, rfl⟩ := mem_scored.1 hscored
    exact hfirst earlier hearlier hother
  refine ⟨htops.1, fun other hother => ?_⟩
  rcases (htops.2 other hother).lt_or_eq with hless | heq
  · exact .inl hless
  · have hother : Tops (before ++ sign :: after) other := ⟨hother, by simpa [heq] using htops.2⟩
    rw [idxOf_scored (hnone _ htops)]
    exact .inr ⟨heq, length_le_idxOf_scored (hnone other hother)⟩

/-- A framework leads if the first sign that speaks for one with the most points is its own. -/
theorem leads_iff : Leads signs framework ↔ ∃ before sign after,
    signs = before ++ sign :: after ∧ sign.1 = framework ∧ Tops signs framework ∧
      ∀ earlier ∈ before, ¬ Tops signs earlier.1 := by
  classical
  constructor
  · intro h
    obtain ⟨own, hown, hframework⟩ := mem_scored.1 h.1
    have hfound : (signs.find? fun sign => Tops signs sign.1).isSome :=
      List.find?_isSome.2 ⟨own, hown, by simpa [hframework] using h.tops⟩
    obtain ⟨sign, hsign⟩ := Option.isSome_iff_exists.1 hfound
    obtain ⟨htops, before, after, hsplit, hfirst⟩ := List.find?_eq_some_iff_append.1 hsign
    have htops : Tops signs sign.1 := of_decide_eq_true htops
    have hfirst : ∀ earlier ∈ before, ¬ Tops signs earlier.1 := by simpa using hfirst
    have hleads : Leads signs sign.1 := by
      rw [hsplit] at htops hfirst ⊢
      exact leads_of_first htops hfirst
    obtain rfl := hleads.eq h
    exact ⟨before, sign, after, hsplit, rfl, htops, hfirst⟩
  · rintro ⟨before, sign, after, rfl, rfl, htops, hfirst⟩
    exact leads_of_first htops hfirst

/-- Some framework leads if there is any sign. -/
theorem exists_leads (h : signs ≠ []) : ∃ framework, Leads signs framework := by
  cases hframework : (Detection.ofScore (addAll [] signs)).framework with
  | none => exact absurd (Detection.framework_eq_none_iff.1 hframework) h
  | some framework => exact ⟨framework, Detection.framework_eq_some_iff.1 hframework⟩

end Score

/-! ## What is found -/

/-- The framework that leads is found. -/
theorem Detection.ofScore_of_leads {signs : List Sign} {framework : String}
    (h : Score.Leads signs framework) : ofScore (Score.addAll [] signs) =
      ⟨some framework, confidenceOf (Score.weight signs framework) (Score.points signs)⟩ := by
  rw [ofScore, Score.best?_addAll, Score.argmax_weight_eq_some_iff.2 h, Score.total_eq,
    Score.points_addAll]
  simp [Score.points]

theorem Detection.ofScore_eq_nothing_iff {signs : List Sign} :
    ofScore (Score.addAll [] signs) = .nothing ↔ signs = [] := by
  constructor
  · intro h
    rw [← framework_eq_none_iff, h]
    rfl
  · rintro rfl
    rfl

/-- The order of the signs does not matter for the confidence. -/
theorem Detection.confidence_ofScore_perm {signs signs' : List Sign} (h : signs.Perm signs') :
    (ofScore (Score.addAll [] signs')).confidence =
      (ofScore (Score.addAll [] signs)).confidence := by
  by_cases hnone : signs = []
  · subst hnone
    rw [h.nil_eq]
  · have hnone' : signs' ≠ [] := by
      rintro rfl
      exact hnone h.eq_nil
    obtain ⟨framework, hleads⟩ := Score.exists_leads hnone
    obtain ⟨other, hleads'⟩ := Score.exists_leads hnone'
    have hweight := hleads.tops.weight_eq ((Score.tops_perm h).2 hleads'.tops)
    rw [ofScore_of_leads hleads, ofScore_of_leads hleads', hweight, Score.weight_perm h,
      Score.points_perm h]

/-! ## Confidence -/

/-- The number nearest to a rational one. -/
def Binary64.nearest (q : ℚ) : Binary64 := ofRatio (q < 0) q.num.natAbs q.den

theorem Binary64.nearest_div (num : Nat) {den : Nat} (hden : 0 < den) :
    nearest (num / den) = ofRatio false num den := by
  have hpositive : ¬ (num / den : ℚ) < 0 := not_lt.2 (by positivity)
  have hcross : ((num / den : ℚ).num.natAbs : ℚ) * den = num * (num / den : ℚ).den := by
    have hnum : ((num / den : ℚ).num.natAbs : ℚ) = (num / den : ℚ).num := by
      rw [Nat.cast_natAbs, abs_of_nonneg (Rat.num_nonneg.2 (not_lt.1 hpositive))]
    have hden0 : (den : ℚ) ≠ 0 := by positivity
    have hreduced := Rat.num_div_den (num / den : ℚ)
    rw [div_eq_div_iff (by positivity) hden0] at hreduced
    rw [hnum, hreduced]
  rw [nearest, ofRatio, ofRatio, decide_eq_false hpositive,
    magnitudeOfRatio_congr (num / den : ℚ).den_pos hden (by exact_mod_cast hcross)]

/-- The confidence is the share of the points, kept between 0.3 and 0.99. -/
theorem confidenceOf_eq (points : Nat) {total : Nat} (htotal : 0 < total) :
    confidenceOf points total =
      Binary64.nearest (max (3 / 10) (min (99 / 100) (points / total))) := by
  have htotal0 : (0 : ℚ) < total := Nat.cast_pos.2 htotal
  have hlow : (points / total : ℚ) < 3 / 10 ↔ 100 * points < 30 * total := by
    rw [div_lt_div_iff₀ htotal0 (by norm_num)]
    norm_cast
    omega
  have hhigh : (99 / 100 : ℚ) < points / total ↔ 99 * total < 100 * points := by
    rw [div_lt_div_iff₀ (by norm_num) htotal0]
    norm_cast
    omega
  have hthird : Binary64.ofDecimal false 3 (-1) = Binary64.nearest (3 / 10) :=
    (Binary64.nearest_div 3 (show 0 < 10 by decide)).symm
  have hmost : Binary64.ofDecimal false 99 (-2) = Binary64.nearest (99 / 100) :=
    (Binary64.nearest_div 99 (show 0 < 100 by decide)).symm
  rw [confidenceOf]
  by_cases hless : 100 * points < 30 * total
  · have hshare := hlow.2 hless
    rw [if_pos hless, hthird, max_eq_left ((min_le_right _ _).trans hshare.le)]
  · have hshare := not_lt.1 (mt hlow.1 hless)
    rw [if_neg hless]
    by_cases hmore : 99 * total < 100 * points
    · rw [if_pos hmore, hmost, min_eq_left (hhigh.2 hmore).le, max_eq_right (by norm_num)]
    · rw [if_neg hmore, min_eq_right (not_lt.1 (mt hhigh.1 hmore)), max_eq_right hshare,
        Binary64.nearest_div points htotal]

/-! ## Packages -/

/-- A package that holds nothing but a manifest. -/
def packageOf (content : Content) : Scene := .directory [(manifestName, .file content)]

/-- A manifest is no source file. -/
theorem Path.language?_manifest (p : Path) : (p.child manifestName).language? = none := by
  have hsuffix : (p.child manifestName).suffix = (splitSuffix manifestName).2 := by
    rw [suffix, name, child, List.getLast?_concat, Option.getD_some]
  rw [language?, hsuffix]
  decide

namespace Scene

theorem isTree_packageOf (content : Content) : (packageOf content).IsTree :=
  .directory (List.nodup_singleton _) (by simpa using IsTree.file content)

theorem walked_packageOf (root : Path) (content : Content) :
    (packageOf content).walked vendorNames root = [.listed root [(manifestName, content)]] :=
  stages_package _ _ _

/-- No source file is searched if a walk comes to nothing but manifests. -/
theorem searched_of_manifests {scene : Scene} {root : Path} (size : Nat)
    (h : ∀ stage ∈ scene.walked vendorNames root,
      ∃ p content, stage = .listed p [(manifestName, content)]) :
    scene.searched root size = .ok [] := by
  have hfinds : (scene.walked vendorNames root).flatMap Stage.finds = [] := by
    rw [List.flatMap_eq_nil_iff]
    intro stage hstage
    obtain ⟨p, content, rfl⟩ := h stage hstage
    simp [Stage.finds, Stage.sources, Path.language?_manifest]
  rw [searched, hfinds]
  exact (Stage.sample_ok size []).trans (by rw [List.take_nil])

theorem searched_packageOf (root : Path) (size : Nat) (content : Content) :
    (packageOf content).searched root size = .ok [] :=
  searched_of_manifests size (by simp [walked_packageOf])

end Scene

end EndpointCatalog
