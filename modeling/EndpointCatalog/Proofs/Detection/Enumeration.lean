/-
EndpointCatalog.Proofs.Detection.Enumeration — detection and the order of
things that have none.

The names of a manifest's dependencies are a set, and a directory has no order
of its own. An `Enumeration` puts the names of each manifest in some order,
one of which is that of the text (`Enumeration.written`).

* `Score.Contends`: a framework has the most points, and no other one of these
  scores in an earlier manifest or source file.
* `order_of_names`: the order of entries never matters, and that of names
  matters for the framework only. What is found under some order is exactly
  what contends.

So the framework is the same in every order if a single one contends, and only
then: a manifest with two frameworks that end up with as many points leaves it
to chance which of them is found (`framework_left_to_chance`).
-/
import EndpointCatalog.Proofs.Detection.Points
import EndpointCatalog.Proofs.Vendored.Listing
import EndpointCatalog.Proofs.Walking.Contract

namespace EndpointCatalog

/-! ## Batches of signs -/

namespace Score

variable {batches batches' : List (List Sign)} {framework : String}

/-- A framework has the most points, and none that has as many scores in an earlier batch. -/
def Contends (batches : List (List Sign)) (framework : String) : Prop :=
  Tops batches.flatten framework ∧ ∃ before batch after, batches = before ++ batch :: after ∧
    framework ∈ scored batch ∧ ∀ other, Tops batches.flatten other → other ∉ scored before.flatten

theorem exists_batch {before after : List Sign} {sign : Sign}
    (h : batches.flatten = before ++ sign :: after) :
    ∃ earlier first last later, batches = earlier ++ (first ++ sign :: last) :: later ∧
      before = earlier.flatten ++ first := by
  rcases List.flatten_eq_append_iff.1 h with
    ⟨earlier, rest, rfl, rfl, hrest⟩ | ⟨earlier, first, c, last, later, rfl, rfl, hrest⟩
  · obtain ⟨empty, last, later, rfl, hempty, -⟩ := List.flatten_eq_cons_iff.1 hrest.symm
    refine ⟨earlier ++ empty, [], last, later, by simp, ?_⟩
    rw [List.flatten_append, List.flatten_eq_nil_iff.2 hempty, List.append_nil, List.append_nil]
  · obtain ⟨rfl, -⟩ := List.cons.inj hrest
    exact ⟨earlier, first, last, later, rfl, rfl⟩

/-- Whatever leads in some order of the batches contends. -/
theorem contends_of_leads (hperm : List.Forall₂ List.Perm batches batches')
    (h : Leads batches'.flatten framework) : Contends batches framework := by
  have hall : batches.flatten.Perm batches'.flatten := .flatten_congr hperm
  obtain ⟨before, sign, after, hsplit, rfl, htops, hfirst⟩ := leads_iff.1 h
  obtain ⟨earlier', first, last, later', rfl, rfl⟩ := exists_batch hsplit
  obtain ⟨earlier, batch, later, rfl, hearlier, hbatch, -⟩ :=
    forall₂_append_cons_iff.1 (hperm.imp fun _ _ => List.Perm.symm).flip
  refine ⟨(tops_perm hall).2 htops, earlier, batch, later, rfl, ?_, ?_⟩
  · rw [mem_scored_perm hbatch.symm]
    exact mem_scored.2 ⟨sign, by simp, rfl⟩
  · intro other hother hscored
    have hsame : earlier'.flatten.Perm earlier.flatten := .flatten_congr hearlier
    rw [← mem_scored_perm hsame] at hscored
    obtain ⟨own, hown, rfl⟩ := mem_scored.1 hscored
    exact hfirst own (List.mem_append_left _ hown) ((tops_perm hall).1 hother)

/-- A framework that contends leads if it comes first in each of its batches. -/
theorem leads_of_contends (hperm : List.Forall₂ List.Perm batches batches')
    (hahead : ∀ batch ∈ batches', framework ∈ scored batch →
      ∃ sign rest, batch = sign :: rest ∧ sign.1 = framework)
    (h : Contends batches framework) : Leads batches'.flatten framework := by
  have hall : batches.flatten.Perm batches'.flatten := .flatten_congr hperm
  obtain ⟨htops, earlier, batch, later, rfl, hbatch, hfirst⟩ := h
  obtain ⟨earlier', batch', later', rfl, hearlier, hsame, -⟩ := forall₂_append_cons_iff.1 hperm
  obtain ⟨sign, rest, rfl, rfl⟩ := hahead batch' (by simp) ((mem_scored_perm hsame).1 hbatch)
  refine leads_iff.2 ⟨earlier'.flatten, sign, rest ++ later'.flatten, by simp, rfl,
    (tops_perm hall).1 htops, fun own hown htopsOwn => ?_⟩
  have hscored : own.1 ∈ scored earlier'.flatten := mem_scored.2 ⟨own, hown, rfl⟩
  rw [← mem_scored_perm (.flatten_congr hearlier)] at hscored
  exact hfirst own.1 ((tops_perm hall).2 htopsOwn) hscored

end Score

/-! ## Enumerations -/

/-- The order in which the names of the manifest at each path come. -/
structure Enumeration where
  order : Path → List Text → List Text
  perm : ∀ p names, (order p names).Perm names

namespace Enumeration

/-- The order in which the names are written. -/
def written : Enumeration := ⟨fun _ names => names, fun _ names => .refl names⟩

/-- Whether a name speaks for a framework. -/
def speaksFor (framework : String) (name : Text) : Bool :=
  (dependencySign? name).any fun sign => sign.1 = framework

/-- Some names, those that speak for a framework first. -/
def ahead (framework : String) (names : List Text) : List Text :=
  names.filter (speaksFor framework) ++ names.filter fun name => !speaksFor framework name

/-- The names that speak for a framework come first. -/
def favouring (framework : String) : Enumeration :=
  ⟨fun _ => ahead framework, fun _ => List.filter_append_perm _⟩

/-- What the dependencies of a manifest are signs of, in this order. -/
def signs (e : Enumeration) (p : Path) (content : Content) : List Sign :=
  (e.order p content.dependencyNames).filterMap dependencySign?

theorem signs_perm (e : Enumeration) (p : Path) (content : Content) :
    content.dependencySigns.Perm (e.signs p content) :=
  ((e.perm p content.dependencyNames).filterMap dependencySign?).symm

/-- The framework that is favoured comes first wherever it is spoken for. -/
theorem exists_cons_favouring {p : Path} {content : Content} {framework : String}
    (h : framework ∈ Score.scored ((favouring framework).signs p content)) :
    ∃ sign rest, (favouring framework).signs p content = sign :: rest ∧ sign.1 = framework := by
  obtain ⟨own, hown, hframework⟩ := Score.mem_scored.1 h
  obtain ⟨name, hname, hsign⟩ := List.mem_filterMap.1 hown
  have hspeaks : name ∈ content.dependencyNames.filter (speaksFor framework) := by
    rw [((favouring framework).perm p _).mem_iff] at hname
    exact List.mem_filter.2 ⟨hname, by simp [speaksFor, hsign, hframework]⟩
  change ∃ sign rest, (ahead framework _).filterMap dependencySign? = sign :: rest ∧ _
  cases hfirst : content.dependencyNames.filter (speaksFor framework) with
  | nil =>
    rw [hfirst] at hspeaks
    cases hspeaks
  | cons first others =>
    have hmem : first ∈ content.dependencyNames.filter (speaksFor framework) := by simp [hfirst]
    obtain ⟨sign, hsome, hown⟩ := (Option.any_eq_true _ _).1 (List.mem_filter.1 hmem).2
    rw [ahead, hfirst, List.cons_append, List.filterMap_cons_some hsome]
    exact ⟨sign, _, rfl, of_decide_eq_true hown⟩

end Enumeration

/-! ## Detection in some order -/

/-- The points of some manifests, the names of each in some order. -/
def Stage.scoreManifestsIn (e : Enumeration) (s : Score) : List (Path × Content) → Logged Score
  | [] => pure s
  | (p, content) :: rest => do
    let names ← content.dependencies p
    scoreManifestsIn e (scoreDependencies s (e.order p names)) rest

namespace Scene

/-- The framework of a scene, the names of each manifest in some order. -/
def detectIn (e : Enumeration) (root : Path) (size : Nat) (scene : Scene) : Logged Detection := do
  let fromManifests ← Stage.scoreManifestsIn e []
    ((scene.walked vendorNames root).filterMap Stage.manifest?)
  match Stage.sample size ((scene.walked vendorNames root).flatMap Stage.finds) with
  | .error e => throw (.discovery e)
  | .ok contents => pure (.ofScore (contents.foldl Content.scoreImports fromManifests))

/-- The signs of each manifest, and each sign of the source files that are searched. -/
def batchesIn (e : Enumeration) (root : Path) (contents : List Content) (scene : Scene) :
    List (List Sign) :=
  ((scene.walked vendorNames root).filterMap Stage.manifest?).map (fun found =>
    e.signs found.1 found.2) ++ (contents.flatMap Content.importSigns).map fun sign => [sign]

variable {e e' : Enumeration} {root : Path} {size : Nat} {scene : Scene} {contents : List Content}
  {framework : String}

/-- The order in which the names are written is the one that detection takes. -/
theorem detectIn_written (root : Path) (size : Nat) (scene : Scene) :
    scene.detectIn .written root size = scene.detect root size := by
  have hscore : ∀ (s : Score) (found : List (Path × Content)),
      Stage.scoreManifestsIn .written s found = Stage.scoreManifests s found := by
    intro s found
    induction found generalizing s with
    | nil => rfl
    | cons first rest ih => simp only [Stage.scoreManifestsIn, Stage.scoreManifests, ih]; rfl
  rw [detectIn, hscore]
  rfl

theorem run_scoreManifestsIn (e : Enumeration) (s : Score) (found : List (Path × Content))
    (before : Log) : ((ExceptT.run (Stage.scoreManifestsIn e s found)).run before).1 =
      .ok (s.addAll (found.flatMap fun found => e.signs found.1 found.2)) := by
  induction found generalizing s before with
  | nil => rfl
  | cons first rest ih =>
    have hnames := first.2.run_dependencies first.1 before
    rw [Stage.scoreManifestsIn, run_bind]
    revert hnames
    obtain ⟨ending, next⟩ := (ExceptT.run (first.2.dependencies first.1)).run before
    rintro rfl
    refine (ih _ next).trans ?_
    rw [Content.scoreDependencies_eq, List.flatMap_cons, Score.addAll_append]
    rfl

/-- Detection weighs the batches of a source tree. -/
theorem detectIn_start (e : Enumeration) (root : Path) (size : Nat) (scene : Scene) :
    (scene.detectIn e root size).start.1 =
      ((scene.searched root size).mapError Failure.discovery).map fun contents =>
        .ofScore (Score.addAll [] (scene.batchesIn e root contents).flatten) := by
  have hmanifests := run_scoreManifestsIn e []
    ((scene.walked vendorNames root).filterMap Stage.manifest?) []
  rw [detectIn, Logged.start, run_bind, searched]
  revert hmanifests
  obtain ⟨ending, next⟩ := (ExceptT.run (Stage.scoreManifestsIn e []
    ((scene.walked vendorNames root).filterMap Stage.manifest?))).run []
  rintro rfl
  cases Stage.sample size ((scene.walked vendorNames root).flatMap Stage.finds) with
  | error e => rfl
  | ok contents =>
    dsimp only [Except.map, Except.mapError]
    have hflatten : ∀ signs : List Sign, (signs.map fun sign => [sign]).flatten = signs :=
      fun signs => by rw [← List.flatMap_def, List.flatMap_singleton']
    rw [Content.foldl_scoreImports, ← Score.addAll_append, batchesIn, List.flatten_append,
      hflatten, ← List.flatMap_def]
    rfl

theorem batchesIn_perm (e e' : Enumeration) (root : Path) (contents : List Content)
    (scene : Scene) : List.Forall₂ List.Perm (scene.batchesIn e root contents)
      (scene.batchesIn e' root contents) := by
  refine List.rel_append ?_ (List.forall₂_same.2 fun batch _ => .refl batch)
  rw [List.forall₂_map_left_iff, List.forall₂_map_right_iff, List.forall₂_same]
  exact fun found _ => (e.signs_perm found.1 found.2).symm.trans (e'.signs_perm found.1 found.2)

/-- A framework has the most points, and none that has as many scores in an earlier manifest or
source file. -/
def Contends (root : Path) (size : Nat) (scene : Scene) (framework : String) : Prop :=
  ∃ contents, scene.searched root size = .ok contents ∧
    Score.Contends (scene.batchesIn .written root contents) framework

theorem detectIn_error {reason : DiscoveryError} (h : scene.searched root size = .error reason) :
    (scene.detectIn e root size).start.1 = .error (.discovery reason) := by
  rw [detectIn_start, h]
  rfl

theorem detectIn_ok (h : scene.searched root size = .ok contents) :
    (scene.detectIn e root size).start.1 =
      .ok (.ofScore (Score.addAll [] (scene.batchesIn e root contents).flatten)) := by
  rw [detectIn_start, h]
  rfl

theorem found_iff : (∃ confidence, (scene.detectIn e root size).start.1 =
      .ok ⟨some framework, confidence⟩) ↔ ∃ contents, scene.searched root size = .ok contents ∧
        Score.Leads (scene.batchesIn e root contents).flatten framework := by
  cases hsearched : scene.searched root size with
  | error reason => simp [detectIn_error hsearched]
  | ok contents =>
    simp only [detectIn_ok hsearched, Except.ok.injEq, exists_eq_left',
      ← Detection.framework_eq_some_iff]
    exact ⟨fun ⟨_, h⟩ => by rw [h], fun h => ⟨_, by rw [← h]⟩⟩

/-- What is found in some order is what contends. -/
theorem exists_found_iff : (∃ e confidence, (scene.detectIn e root size).start.1 =
      .ok ⟨some framework, confidence⟩) ↔ scene.Contends root size framework := by
  simp only [found_iff]
  constructor
  · rintro ⟨e, contents, hsearched, hleads⟩
    exact ⟨contents, hsearched, Score.contends_of_leads (batchesIn_perm _ e _ _ _) hleads⟩
  · rintro ⟨contents, hsearched, hcontends⟩
    refine ⟨.favouring framework, contents, hsearched,
      Score.leads_of_contends (batchesIn_perm _ _ _ _ _) (fun batch hbatch hscored => ?_) hcontends⟩
    rcases List.mem_append.1 hbatch with hmanifest | himport
    · obtain ⟨found, -, rfl⟩ := List.mem_map.1 hmanifest
      exact Enumeration.exists_cons_favouring hscored
    · obtain ⟨sign, -, rfl⟩ := List.mem_map.1 himport
      obtain ⟨own, hown, hframework⟩ := Score.mem_scored.1 hscored
      exact ⟨sign, [], rfl, List.mem_singleton.1 hown ▸ hframework⟩

theorem confidence_detectIn (e e' : Enumeration) (root : Path) (size : Nat) (scene : Scene) :
    (scene.detectIn e' root size).start.1.map Detection.confidence =
      (scene.detectIn e root size).start.1.map Detection.confidence := by
  cases hsearched : scene.searched root size with
  | error reason => rw [detectIn_error hsearched, detectIn_error hsearched]
  | ok contents =>
    rw [detectIn_ok hsearched, detectIn_ok hsearched]
    exact congrArg Except.ok (Detection.confidence_ofScore_perm
      (.flatten_congr (batchesIn_perm e e' root contents scene)))

/-- The same is found in every order exactly if a single framework contends. -/
theorem detectIn_eq_iff : (∀ e e', (scene.detectIn e' root size).start.1 =
      (scene.detectIn e root size).start.1) ↔ ∀ framework other,
        scene.Contends root size framework → scene.Contends root size other →
          framework = other := by
  constructor
  · intro hsame framework other hframework hother
    obtain ⟨e, confidence, hfound⟩ := exists_found_iff.2 hframework
    obtain ⟨e', confidence', hfound'⟩ := exists_found_iff.2 hother
    have heq := hsame e e'
    rw [hfound, hfound'] at heq
    cases heq
    rfl
  · intro hsingle e e'
    have hconfidence := confidence_detectIn e e' root size scene
    cases hsearched : scene.searched root size with
    | error reason => rw [detectIn_error hsearched, detectIn_error hsearched]
    | ok contents =>
      rw [detectIn_ok hsearched, detectIn_ok hsearched] at hconfidence ⊢
      have hperm := List.Perm.flatten_congr (batchesIn_perm e e' root contents scene)
      generalize hsigns : (scene.batchesIn e root contents).flatten = signs at hperm hconfidence ⊢
      generalize hsigns' : (scene.batchesIn e' root contents).flatten = signs'
        at hperm hconfidence ⊢
      by_cases hnone : signs = []
      · subst hnone
        rw [hperm.nil_eq]
      · have hnone' : signs' ≠ [] := by
          rintro rfl
          exact hnone hperm.eq_nil
        obtain ⟨framework, hleads⟩ := Score.exists_leads hnone
        obtain ⟨other, hleads'⟩ := Score.exists_leads hnone'
        have hcontends : scene.Contends root size framework :=
          exists_found_iff.1 ⟨e, found_iff.2 ⟨contents, hsearched, hsigns ▸ hleads⟩⟩
        have hcontends' : scene.Contends root size other :=
          exists_found_iff.1 ⟨e', found_iff.2 ⟨contents, hsearched, hsigns' ▸ hleads'⟩⟩
        obtain rfl := hsingle framework other hcontends hcontends'
        rw [Detection.ofScore_of_leads hleads, Detection.ofScore_of_leads hleads'] at hconfidence ⊢
        exact congrArg (fun confidence => Except.ok (Detection.mk (some framework) confidence))
          (Except.ok.inj hconfidence)

end Scene

/-! ## What the order counts for -/

/-- What the order of names and of entries counts for when the framework of a tree is detected. -/
structure OrderCounts (root : Path) (size : Nat) (scene : Scene) : Prop where
  /-- Detection takes the names in the order in which they are written. -/
  written : ∀ d : Disk, d.scene root = scene →
    d.detect root size = scene.detectIn .written root size
  /-- The order in which directories list their entries counts for nothing. -/
  entries : ∀ other, scene.Reordered other → ∀ e,
    other.detectIn e root size = scene.detectIn e root size
  entriesOnDisk : ∀ (d : Disk) (other : FileNode) (e : Enumeration), d.root.IsTree →
    d.root.Reordered other → d.scene root = scene →
    (Disk.scene { d with root := other } root).detectIn e root size =
      scene.detectIn e root size
  /-- The order of names does not count for the confidence, or for a failure. -/
  confidence : ∀ e e', (scene.detectIn e' root size).start.1.map Detection.confidence =
    (scene.detectIn e root size).start.1.map Detection.confidence
  /-- It counts for which framework is found, among those that contend. -/
  found : ∀ framework, (∃ e confidence,
    (scene.detectIn e root size).start.1 = .ok ⟨some framework, confidence⟩) ↔
      scene.Contends root size framework
  settled : (∀ e e',
    (scene.detectIn e' root size).start.1 = (scene.detectIn e root size).start.1) ↔
      ∀ framework other, scene.Contends root size framework →
        scene.Contends root size other → framework = other

theorem order_of_names (root : Path) (size : Nat) {scene : Scene} (h : scene.IsTree) :
    OrderCounts root size scene where
  written d hd := by rw [d.detect_eq, hd, Scene.detectIn_written]
  entries other hother e := by rw [Scene.detectIn, Scene.detectIn, hother.walked_eq h]
  entriesOnDisk d other e htree hother hd := by
    have hscene := Disk.scene_reordered hother htree root
    rw [hd] at hscene
    rw [Scene.detectIn, Scene.detectIn, hscene.walked_eq h]
  confidence e e' := Scene.confidence_detectIn e e' root size scene
  found _ := Scene.exists_found_iff
  settled := Scene.detectIn_eq_iff

/-! ### A gateway -/

/-- A manifest with three packages of one framework and one of another. -/
def gatewayManifest : Content :=
  .ok (("\x7b\"dependencies\": \x7b\"koa\": \"1\", \"koa-router\": \"1\", " ++
    "\"@koa/router\": \"1\"\x7d, \"devDependencies\": \x7b\"express\": \"1\"\x7d\x7d").toList.map
    fun c => c.toNat.toUInt8)

/-- A gateway with this manifest, and with two packages of the other framework. -/
def gatewayEntries : List (String × Scene) :=
  [("admin", packageOf (manifestOf "express")), ("basket", packageOf (manifestOf "express")),
    (manifestName, .file gatewayManifest)]

namespace Scene

theorem isTree_gateway : (directory gatewayEntries).IsTree := by
  refine .directory (by decide) ?_
  simp only [gatewayEntries, List.mem_cons, List.not_mem_nil, or_false, forall_eq_or_imp, forall_eq]
  exact ⟨isTree_packageOf _, isTree_packageOf _, .file _⟩

/-- A walk comes to the manifest of the gateway first. -/
theorem walked_gateway (root : Path) : (directory gatewayEntries).walked vendorNames root =
    [.listed root [(manifestName, gatewayManifest)],
      .listed (root.child "admin") [(manifestName, manifestOf "express")],
      .listed (root.child "basket") [(manifestName, manifestOf "express")]] := by
  have hnames : ∀ entry ∈ gatewayEntries, entry.1 ∉ vendorNames := by decide
  have hkept : gatewayEntries.filter (fun entry => entry.1 ∉ vendorNames) = gatewayEntries :=
    List.filter_eq_self.2 fun entry hentry => decide_eq_true (hnames entry hentry)
  have hsorted : Visit.sortByName gatewayEntries = gatewayEntries := by
    have hnames : (gatewayEntries.map Prod.fst).Pairwise (· ≤ ·) := by decide
    exact List.mergeSort_of_pairwise ((List.pairwise_map.1 hnames).imp decide_eq_true)
  have hfiles : gatewayEntries.filterMap content? = [(manifestName, gatewayManifest)] := rfl
  rw [walked, stages_directory, hfiles, hkept, hsorted, Visit.sortByName, List.mergeSort_singleton]
  simp only [gatewayEntries, packageOf, List.flatMap_cons, List.flatMap_nil, stages_package,
    stages.eq_1]
  rfl

theorem searched_gateway (root : Path) (size : Nat) :
    (directory gatewayEntries).searched root size = .ok [] :=
  searched_of_manifests size (by simp [walked_gateway])

/-- The gateway gives each framework nine points, in an order that depends on the manifest. -/
theorem flatten_batchesIn_gateway (e : Enumeration) (root : Path) :
    ((directory gatewayEntries).batchesIn e root []).flatten =
      e.signs (root.child manifestName) gatewayManifest ++
        (e.signs ((root.child "admin").child manifestName) (manifestOf "express") ++
          e.signs ((root.child "basket").child manifestName) (manifestOf "express")) := by
  rw [batchesIn, walked_gateway]
  simp [Stage.manifest?]

/-- Both frameworks of the gateway are found, each in some order of the names. -/
theorem framework_left_to_chance :
    let gateway := directory gatewayEntries
    (gateway.detectIn .written ⟨.relative, []⟩ 200).start.1.map Detection.framework =
      .ok (some "koa") ∧
    (gateway.detectIn (.favouring "express") ⟨.relative, []⟩ 200).start.1.map Detection.framework =
      .ok (some "express") := by
  intro gateway
  rw [detectIn_ok (searched_gateway _ _), detectIn_ok (searched_gateway _ _),
    flatten_batchesIn_gateway, flatten_batchesIn_gateway]
  exact ⟨by decide +kernel, by decide +kernel⟩

end Scene

/-- What the order of names counts for in the gateway. -/
theorem order_of_names_gateway :
    (Scene.directory gatewayEntries).IsTree ∧
    OrderCounts ⟨.relative, []⟩ 200 (.directory gatewayEntries) :=
  ⟨Scene.isTree_gateway, order_of_names ⟨.relative, []⟩ 200 Scene.isTree_gateway⟩

end EndpointCatalog
