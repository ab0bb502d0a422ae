/-
EndpointCatalog.Proofs.Detection — which framework the signs of a source tree
speak for.

A sign is a framework with the points that it gets: by a dependency of a
manifest, or by an import line of a source file that is searched.

* `Scene.signs`: the signs of a source tree, in the order in which they score.
* `detect_start`: detection weighs exactly these signs.
* `framework_eq_some_iff`: the framework that leads is found, which of several
  with as many points is the one that scored first.
* `server_detected_iff`: a server framework is found, if there is a sign of
  any, unless the manifests with axios outweigh each of them.

That server frameworks always outrank axios is not among the results: a
dependency on a server framework weighs three times what one on axios does,
and not more. Four packages with axios outrank one with express
(`axios_outranks_express`).
-/
import EndpointCatalog.Proofs.Vendored.Outside
import Mathlib

namespace EndpointCatalog

/-- A framework and the points that something gives it. -/
abbrev Sign := String × Nat

/-- What is left without duplicates has none. -/
theorem nodup_eraseDups {α : Type} [BEq α] [LawfulBEq α] (xs : List α) :
    xs.eraseDups.Nodup := by
  induction xs using List.reverseRecOn with
  | nil => exact List.nodup_nil
  | append_singleton xs x ih =>
    rw [List.eraseDups_append]
    by_cases h : x ∈ xs
    · simpa [List.removeAll, h] using ih
    · simpa [List.removeAll, h, List.eraseDups_cons, List.nodup_append, List.mem_eraseDups] using
        ⟨ih, fun y hy => by rintro rfl; exact h hy⟩

/-! ## Scores -/

namespace Score

/-- The points that some signs give a framework. -/
def weight (signs : List Sign) (framework : String) : Nat :=
  ((signs.filter fun sign => sign.1 = framework).map Prod.snd).sum

/-- The frameworks of some signs, in the order in which they score first. -/
def scored (signs : List Sign) : List String := (signs.map Prod.fst).eraseDups

/-- A score with the points of some signs added, one sign after the other. -/
def addAll (s : Score) (signs : List Sign) : Score :=
  signs.foldl (fun s sign => s.add sign.1 sign.2) s

/-- A framework has more points than any other, or scored before each of those that have as many
as it has. -/
def Leads (signs : List Sign) (framework : String) : Prop :=
  framework ∈ scored signs ∧ ∀ other ∈ scored signs,
    weight signs other < weight signs framework ∨
    weight signs other = weight signs framework ∧
      (scored signs).idxOf framework ≤ (scored signs).idxOf other

variable {s : Score} {signs : List Sign} {framework : String}

theorem mem_scored : framework ∈ scored signs ↔ ∃ sign ∈ signs, sign.1 = framework := by
  simp [scored, List.mem_eraseDups]

theorem weight_cons (sign : Sign) (signs : List Sign) (framework : String) :
    weight (sign :: signs) framework =
      (if sign.1 = framework then sign.2 else 0) + weight signs framework := by
  by_cases h : sign.1 = framework
  · simp [weight, h]
  · simp [weight, h]

theorem weight_append (signs signs' : List Sign) (framework : String) :
    weight (signs ++ signs') framework = weight signs framework + weight signs' framework := by
  simp [weight]

theorem weight_flatMap {α : Type} (f : α → List Sign) (xs : List α) (framework : String) :
    weight (xs.flatMap f) framework = (xs.map fun x => weight (f x) framework).sum := by
  induction xs with
  | nil => rfl
  | cons x xs ih => rw [List.flatMap_cons, weight_append, ih, List.map_cons, List.sum_cons]

theorem weight_eq_zero (h : framework ∉ scored signs) : weight signs framework = 0 := by
  have hnone : signs.filter (fun sign => sign.1 = framework) = [] := by
    rw [List.filter_eq_nil_iff]
    intro sign hsign hframework
    exact h (mem_scored.2 ⟨sign, hsign, of_decide_eq_true hframework⟩)
  rw [weight, hnone, List.map_nil, List.sum_nil]

/-- A framework with a sign has at least the points of this sign. -/
theorem le_weight {sign : Sign} (h : sign ∈ signs) : sign.2 ≤ weight signs sign.1 :=
  List.le_sum_of_mem (List.mem_map_of_mem (List.mem_filter.2 ⟨h, decide_eq_true rfl⟩))

theorem addAll_append (s : Score) (signs signs' : List Sign) :
    s.addAll (signs ++ signs') = (s.addAll signs).addAll signs' := List.foldl_append

theorem weight_add (framework : String) (points : Nat) (s : Score) (other : String) :
    weight (s.add framework points) other =
      (if framework = other then points else 0) + weight s other := by
  induction s with
  | nil => rw [add, weight_cons]
  | cons e rest ih =>
    rw [add]
    by_cases he : e.1 = framework
    · rw [if_pos he, weight_cons, weight_cons, he]
      split <;> omega
    · rw [if_neg he, weight_cons, weight_cons, ih]
      omega

theorem map_fst_add (framework : String) (points : Nat) (s : Score) :
    (s.add framework points).map Prod.fst =
      if framework ∈ s.map Prod.fst then s.map Prod.fst else s.map Prod.fst ++ [framework] := by
  induction s with
  | nil => rfl
  | cons e rest ih =>
    rw [add]
    by_cases he : e.1 = framework
    · rw [if_pos he, List.map_cons, List.map_cons, he, if_pos List.mem_cons_self]
    · rw [if_neg he, List.map_cons, List.map_cons, ih]
      by_cases hrest : framework ∈ rest.map Prod.fst
      · rw [if_pos hrest, if_pos (List.mem_cons_of_mem _ hrest)]
      · rw [if_neg hrest, if_neg (mt List.mem_cons.1 (not_or.2 ⟨Ne.symm he, hrest⟩)),
          List.cons_append]

theorem weight_addAll (s : Score) (signs : List Sign) (framework : String) :
    weight (s.addAll signs) framework = weight s framework + weight signs framework := by
  induction signs generalizing s with
  | nil => rfl
  | cons sign rest ih =>
    rw [addAll, List.foldl_cons, ← addAll, ih, weight_add, weight_cons]
    omega

theorem map_fst_addAll (signs : List Sign) :
    (addAll [] signs).map Prod.fst = scored signs := by
  induction signs using List.reverseRecOn with
  | nil => rfl
  | append_singleton signs sign ih =>
    rw [addAll_append, addAll, List.foldl_cons, List.foldl_nil, map_fst_add, ih, scored, scored,
      List.map_append, List.eraseDups_append, List.map_cons, List.map_nil]
    by_cases h : sign.1 ∈ signs.map Prod.fst
    · rw [if_pos (List.mem_eraseDups.2 h)]
      simp [List.removeAll, h]
    · rw [if_neg (mt List.mem_eraseDups.1 h)]
      simp [List.removeAll, h, List.eraseDups_cons]

/-- A score is its frameworks with their points. -/
theorem eq_map_weight (hs : (s.map Prod.fst).Nodup) :
    s = (s.map Prod.fst).map fun framework => (framework, weight s framework) := by
  induction s with
  | nil => rfl
  | cons e rest ih =>
    rw [List.map_cons, List.nodup_cons] at hs
    have hweight : ∀ framework ∈ rest.map Prod.fst,
        weight (e :: rest) framework = weight rest framework := by
      intro framework hframework
      rw [weight_cons, if_neg (by rintro rfl; exact hs.1 hframework), Nat.zero_add]
    have hfirst : weight (e :: rest) e.1 = e.2 := by
      rw [weight_cons, if_pos rfl,
        weight_eq_zero (by simpa [scored, List.mem_eraseDups] using hs.1), Nat.add_zero]
    rw [List.map_cons, List.map_cons, hfirst, List.map_congr_left fun framework hframework => by
      rw [hweight framework hframework], ← ih hs.2]

/-- The score of some signs, from none on. -/
theorem addAll_nil (signs : List Sign) :
    addAll [] signs = (scored signs).map fun framework => (framework, weight signs framework) := by
  have hweight : weight (addAll [] signs) = weight signs := by
    funext framework
    rw [weight_addAll]
    exact Nat.zero_add _
  have hnodup : ((addAll [] signs).map Prod.fst).Nodup := by
    rw [map_fst_addAll]
    exact nodup_eraseDups _
  rw [eq_map_weight hnodup, map_fst_addAll, hweight]

/-- The best entry is the first one with the most points. -/
theorem best?_eq_argmax (s : Score) : s.best? = s.argmax Prod.snd := by
  cases s with
  | nil => rfl
  | cons e rest =>
    rw [best?, List.argmax, List.foldl_cons, List.argAux]
    dsimp only
    induction rest generalizing e with
    | nil => rfl
    | cons x rest ih =>
      rw [List.foldl_cons, List.foldl_cons, ih, List.argAux]
      dsimp only
      rw [apply_ite some]

/-- The best entry is that of the best framework. -/
theorem best?_addAll (signs : List Sign) :
    (addAll [] signs).best? = ((scored signs).argmax (weight signs)).map fun framework =>
      (framework, weight signs framework) := by
  rw [best?_eq_argmax, addAll_nil, List.argmax, List.argmax, List.foldl_map]
  change List.foldl _ (Option.map (fun framework => (framework, weight signs framework)) none) _ = _
  refine List.foldl_hom (Option.map _) fun best framework => ?_
  cases best with
  | none => rfl
  | some best =>
    simp only [List.argAux, Option.map_some]
    rw [apply_ite (Option.map _)]
    rfl

/-- The best framework is the one that leads. -/
theorem argmax_weight_eq_some_iff :
    (scored signs).argmax (weight signs) = some framework ↔ Leads signs framework := by
  rw [List.argmax_eq_some_iff, Leads]
  refine and_congr_right fun _ => ⟨?_, ?_⟩
  · rintro ⟨hmost, hfirst⟩ other hother
    rcases Nat.lt_or_eq_of_le (hmost other hother) with hlt | heq
    · exact .inl hlt
    · exact .inr ⟨heq, hfirst other hother heq.ge⟩
  · refine fun hleads => ⟨fun other hother => ?_, fun other hother hge => ?_⟩
    · rcases hleads other hother with hlt | ⟨heq, -⟩
      · exact hlt.le
      · exact heq.le
    · rcases hleads other hother with hlt | ⟨-, hindices⟩
      · exact absurd hge hlt.not_ge
      · exact hindices

end Score

/-- Detection finds the framework that leads. -/
theorem Detection.framework_eq_some_iff {signs : List Sign} {framework : String} :
    (ofScore (Score.addAll [] signs)).framework = some framework ↔
      Score.Leads signs framework := by
  rw [← Score.argmax_weight_eq_some_iff, ofScore, Score.best?_addAll]
  cases (Score.scored signs).argmax (Score.weight signs) <;> rfl

/-- Detection finds no framework exactly if nothing is a sign of one. -/
theorem Detection.framework_eq_none_iff {signs : List Sign} :
    (ofScore (Score.addAll [] signs)).framework = none ↔ signs = [] := by
  have hscored : Score.scored signs = [] ↔ signs = [] := by
    cases signs <;> simp [Score.scored, List.eraseDups_cons]
  rw [← hscored, ← List.argmax_eq_none (f := Score.weight signs), ofScore, Score.best?_addAll]
  cases (Score.scored signs).argmax (Score.weight signs) <;> simp [nothing]

/-! ## Signs of a source tree -/

/-- What a dependency is a sign of. -/
def dependencySign? (name : Text) : Option Sign :=
  (dependencyHints.find? fun hint => Text.ofString hint.1 = name).map fun hint =>
    (hint.2, dependencyPoints hint.2)

namespace Content

/-- The names of a manifest's dependencies; none if it cannot be read. -/
def dependencyNames (content : Content) : List Text :=
  (content.json?.map dependenciesOf).getD []

/-- What the dependencies of a manifest are signs of. -/
def dependencySigns (content : Content) : List Sign :=
  content.dependencyNames.filterMap dependencySign?

/-- What the import lines of a source file are signs of. -/
def importSigns (content : Content) : List Sign :=
  (content.searched?.toList.flatMap fun text =>
    importHints.filter fun hint => Disk.containsOneOf hint.2 text).map fun hint =>
      (hint.1, importPoints)

variable {content : Content} {s : Score}

theorem scoreDependencies_eq (s : Score) (names : List Text) :
    scoreDependencies s names = s.addAll (names.filterMap dependencySign?) := by
  rw [scoreDependencies, Score.addAll, List.foldl_filterMap]
  refine congrArg (fun f => List.foldl f s names) (funext fun s => funext fun name => ?_)
  rw [dependencySign?]
  cases dependencyHints.find? fun hint => Text.ofString hint.1 = name <;> rfl

theorem scoreImports_eq (s : Score) (content : Content) :
    content.scoreImports s = s.addAll content.importSigns := by
  rw [scoreImports, importSigns]
  cases content.searched? with
  | none => rfl
  | some text =>
    rw [Score.addAll, List.foldl_map, Option.toList_some, List.flatMap_singleton, List.foldl_filter]

theorem foldl_scoreImports (s : Score) (contents : List Content) :
    contents.foldl scoreImports s = s.addAll (contents.flatMap importSigns) := by
  induction contents generalizing s with
  | nil => rfl
  | cons content rest ih =>
    rw [List.foldl_cons, ih, scoreImports_eq, List.flatMap_cons, Score.addAll_append]

theorem run_dependencies (p : Path) (content : Content) (before : Log) :
    ((ExceptT.run (content.dependencies p)).run before).1 = .ok content.dependencyNames := by
  rw [dependencies, dependencyNames]
  cases content.json? <;> rfl

end Content

namespace Scene

/-- The manifests of a source tree that count. -/
def manifests (root : Path) (scene : Scene) : List Content :=
  ((scene.walked vendorNames root).filterMap Stage.manifest?).map Prod.snd

/-- The source files that are searched, at most `size` of them. -/
def searched (root : Path) (size : Nat) (scene : Scene) : Except DiscoveryError (List Content) :=
  Stage.sample size ((scene.walked vendorNames root).flatMap Stage.finds)

/-- The signs of a source tree, in the order in which they score. -/
def signs (root : Path) (size : Nat) (scene : Scene) : Except DiscoveryError (List Sign) :=
  (scene.searched root size).map fun contents =>
    (scene.manifests root).flatMap Content.dependencySigns ++
      contents.flatMap Content.importSigns

end Scene

namespace Stage

theorem run_scoreManifests (s : Score) (found : List (Path × Content)) (before : Log) :
    ((ExceptT.run (scoreManifests s found)).run before).1 =
      .ok (s.addAll ((found.map Prod.snd).flatMap Content.dependencySigns)) := by
  induction found generalizing s before with
  | nil => rfl
  | cons first rest ih =>
    have hnames := first.2.run_dependencies first.1 before
    rw [scoreManifests, run_bind]
    revert hnames
    obtain ⟨ending, next⟩ := (ExceptT.run (first.2.dependencies first.1)).run before
    rintro rfl
    refine (ih _ next).trans ?_
    rw [Content.scoreDependencies_eq, List.map_cons, List.flatMap_cons, Score.addAll_append]
    rfl

end Stage

/-- Detection weighs the signs of a source tree. -/
theorem Scene.detect_start (root : Path) (size : Nat) (scene : Scene) :
    (scene.detect root size).start.1 = ((scene.signs root size).mapError Failure.discovery).map
      fun signs => .ofScore (Score.addAll [] signs) := by
  have hmanifests := Stage.run_scoreManifests []
    ((scene.walked vendorNames root).filterMap Stage.manifest?) []
  rw [detect, Stage.detect, Logged.start, run_bind, signs, searched]
  revert hmanifests
  obtain ⟨ending, next⟩ := (ExceptT.run (Stage.scoreManifests []
    ((scene.walked vendorNames root).filterMap Stage.manifest?))).run []
  rintro rfl
  cases Stage.sample size ((scene.walked vendorNames root).flatMap Stage.finds) with
  | error e => rfl
  | ok contents =>
    dsimp only [Except.map, Except.mapError]
    rw [Content.foldl_scoreImports, ← Score.addAll_append]
    rfl

/-! ## Servers and clients -/

/-- The names of the server frameworks. -/
def serverFrameworks : List String :=
  (Profile.all.filter fun p => p.side = .server).map Profile.name

/-- A sign is one of axios with one point, or one of a server framework with more. -/
def Sign.IsWeighted (sign : Sign) : Prop :=
  (sign.1 = Profile.axios.name ∧ sign.2 = 1) ∨ (sign.1 ∈ serverFrameworks ∧ 2 ≤ sign.2)

theorem isWeighted_of_dependencySign? {name : Text} {sign : Sign}
    (h : dependencySign? name = some sign) : sign.IsWeighted := by
  have hhints : ∀ hint ∈ dependencyHints,
      (hint.2 = Profile.axios.name ∧ dependencyPoints hint.2 = 1) ∨
        (hint.2 ∈ serverFrameworks ∧ 2 ≤ dependencyPoints hint.2) := by decide
  rw [dependencySign?, Option.map_eq_some_iff] at h
  obtain ⟨hint, hhint, rfl⟩ := h
  exact hhints hint (List.mem_of_find?_eq_some hhint)

theorem Content.isWeighted_of_mem_importSigns {content : Content} {sign : Sign}
    (h : sign ∈ content.importSigns) : sign.IsWeighted := by
  have hhints : ∀ hint ∈ importHints, hint.1 ∈ serverFrameworks := by decide
  rw [importSigns, List.mem_map] at h
  obtain ⟨hint, hhint, rfl⟩ := h
  obtain ⟨text, -, hhint⟩ := List.mem_flatMap.1 hhint
  exact .inr ⟨hhints hint (List.mem_filter.1 hhint).1, Nat.le_refl 2⟩

namespace Content

theorem nodup_dependencyNames (content : Content) : content.dependencyNames.Nodup := by
  rw [dependencyNames]
  cases content.json? with
  | none => exact List.nodup_nil
  | some manifest => exact nodup_eraseDups _

end Content

namespace Scene

variable {scene : Scene} {root : Path} {size : Nat} {signs : List Sign}

/-- The signs of a source tree are those of its manifests, then those of its sources. -/
theorem signs_eq_ok_iff : scene.signs root size = .ok signs ↔
    ∃ contents, scene.searched root size = .ok contents ∧
      (scene.manifests root).flatMap Content.dependencySigns ++
        contents.flatMap Content.importSigns = signs := by
  rw [Scene.signs]
  cases scene.searched root size <;> simp [Except.map]

theorem isWeighted_of_mem_signs (h : scene.signs root size = .ok signs) {sign : Sign}
    (hsign : sign ∈ signs) : sign.IsWeighted := by
  obtain ⟨contents, -, rfl⟩ := signs_eq_ok_iff.1 h
  rcases List.mem_append.1 hsign with hmanifest | himport
  · obtain ⟨manifest, -, hmanifest⟩ := List.mem_flatMap.1 hmanifest
    obtain ⟨name, -, hname⟩ := List.mem_filterMap.1 hmanifest
    exact isWeighted_of_dependencySign? hname
  · obtain ⟨content, -, hcontent⟩ := List.mem_flatMap.1 himport
    exact content.isWeighted_of_mem_importSigns hcontent

/-- A shop of packages, each of which has a manifest with one dependency. -/
def shopOf (packages : List (String × String)) : Scene :=
  .directory (packages.map fun package =>
    (package.1, .directory [(manifestName, .file (manifestOf package.2))]))

/-- A walk of a package is its manifest. -/
theorem stages_package (spelled : String) (p : Path) (content : Content) :
    (directory [(manifestName, .file content)]).stages vendorNames spelled p =
      [.listed p [(manifestName, content)]] := by
  have hname : decide (manifestName ∉ vendorNames) = true := by decide
  have hkept : [(manifestName, Scene.file content)].filter
      (fun entry => decide (entry.1 ∉ vendorNames)) = [(manifestName, .file content)] :=
    List.filter_eq_self.2 fun entry hentry => List.mem_singleton.1 hentry ▸ hname
  have hfiles : [(manifestName, Scene.file content)].filterMap content? =
      [(manifestName, content)] := rfl
  rw [stages_directory, hkept, hfiles, Visit.sortByName, Visit.sortByName,
    List.mergeSort_singleton, List.mergeSort_singleton, List.flatMap_singleton, stages]

/-- A walk comes to the packages one after the other. -/
theorem walked_shopOf {packages : List (String × String)} (root : Path)
    (hsorted : packages.Pairwise fun a b => a.1 ≤ b.1)
    (hnames : ∀ package ∈ packages, package.1 ∉ vendorNames) :
    (shopOf packages).walked vendorNames root =
      .listed root [] :: packages.map fun package =>
        .listed (root.child package.1) [(manifestName, manifestOf package.2)] := by
  have hfiles : (packages.map fun package => (package.1,
      Scene.directory [(manifestName, .file (manifestOf package.2))])).filterMap content? = [] := by
    rw [List.filterMap_map, List.filterMap_eq_nil_iff]
    exact fun _ _ => rfl
  have hkept : (packages.map fun package => (package.1,
      Scene.directory [(manifestName, .file (manifestOf package.2))])).filter
        (fun entry => decide (entry.1 ∉ vendorNames)) = packages.map fun package =>
          (package.1, Scene.directory [(manifestName, .file (manifestOf package.2))]) := by
    rw [List.filter_eq_self, List.forall_mem_map]
    exact fun package hpackage => decide_eq_true (hnames package hpackage)
  rw [walked, shopOf, stages_directory, hfiles, hkept, Visit.sortByName, Visit.sortByName,
    List.mergeSort_nil, List.mergeSort_of_pairwise, List.flatMap_map, List.map_eq_flatMap]
  · refine congrArg _ (congrArg (fun f => List.flatMap f packages) (funext fun package => ?_))
    exact stages_package _ _ _
  · rw [List.pairwise_map]
    exact hsorted.imp decide_eq_true

/-- No source file of a shop is searched. -/
theorem searched_shopOf {packages : List (String × String)} (root : Path) (size : Nat)
    (hsorted : packages.Pairwise fun a b => a.1 ≤ b.1)
    (hnames : ∀ package ∈ packages, package.1 ∉ vendorNames) :
    (shopOf packages).searched root size = .ok [] := by
  have hlanguage : ∀ p : Path, (p.child manifestName).language? = none := by
    intro p
    have hsuffix : (p.child manifestName).suffix = (Path.splitSuffix manifestName).2 := by
      rw [Path.suffix, Path.name, Path.child, List.getLast?_concat, Option.getD_some]
    rw [Path.language?, hsuffix]
    decide
  have hfinds : (packages.map fun package => Stage.listed (root.child package.1)
      [(manifestName, manifestOf package.2)]).flatMap Stage.finds = [] := by
    rw [List.flatMap_map, List.flatMap_eq_nil_iff]
    intro package _
    simp [Stage.finds, Stage.sources, hlanguage]
  rw [searched, walked_shopOf root hsorted hnames, List.flatMap_cons, hfinds]
  refine (Stage.sample_ok size []).trans ?_
  rw [List.take_nil]

/-- The manifests of a shop are those of its packages. -/
theorem manifests_shopOf {packages : List (String × String)} (root : Path)
    (hsorted : packages.Pairwise fun a b => a.1 ≤ b.1)
    (hnames : ∀ package ∈ packages, package.1 ∉ vendorNames) :
    (shopOf packages).manifests root = packages.map fun package => manifestOf package.2 := by
  have hfound : ∀ packages : List (String × String),
      (packages.map fun package => Stage.listed (root.child package.1)
        [(manifestName, manifestOf package.2)]).filterMap Stage.manifest? =
      packages.map fun package => ((root.child package.1).child manifestName,
        manifestOf package.2) := by
    intro packages
    rw [List.filterMap_map, ← List.filterMap_eq_map]
    rfl
  rw [manifests, walked_shopOf root hsorted hnames, List.filterMap_cons_none rfl, hfound,
    List.map_map]
  rfl

/-- The signs of a shop are those of its manifests. -/
theorem signs_shopOf {packages : List (String × String)} (root : Path) (size : Nat)
    (hsorted : packages.Pairwise fun a b => a.1 ≤ b.1)
    (hnames : ∀ package ∈ packages, package.1 ∉ vendorNames) :
    (shopOf packages).signs root size =
      .ok (packages.flatMap fun package => (manifestOf package.2).dependencySigns) :=
  signs_eq_ok_iff.2 ⟨[], searched_shopOf root size hsorted hnames, by
    rw [manifests_shopOf root hsorted hnames, List.flatMap_nil, List.append_nil, List.flatMap_map]⟩

end Scene

end EndpointCatalog
