/-
EndpointCatalog.Proofs.Detection.Tally — the points of a framework, counted
from outside.

* `Scene.Holds`: a file stands below a directory, with no vendored or linked
  directory on the way. The manifests that count are those that the tree holds,
  each of them once (`mem_found_iff`, `nodup_found`).
* `Content.Lists`, `Content.Mentions`: a manifest lists a dependency, the first
  bytes of a source file have a needle of a framework in them.
* `Scene.score`: what a framework gets for this.
* `detection_tallied`: nothing is found exactly if no framework has any points,
  and else a framework with the most points, with its share of all points as
  the confidence.

A manifest is what the reader of JSON texts takes for a mapping. This reader
knows `NaN` as a number, so that a text with it counts, which is no JSON
(`manifest_without_json`).
-/
import EndpointCatalog.Proofs.Detection.Points
import EndpointCatalog.Proofs.Json.Grammar

namespace EndpointCatalog

/-! ## Manifests -/

namespace Scene

open Visit (sortByName)

/-- A file stands in a tree, at the end of some names none of which but the last may be one of
those that are passed over. -/
inductive Holds (ignored : List String) : Scene → List String → Content → Prop where
  | file {entries : List (String × Scene)} {name : String} {content : Content} :
      (name, .file content) ∈ entries → Holds ignored (.directory entries) [name] content
  | through {entries : List (String × Scene)} {name : String} {scene : Scene}
      {names : List String} {content : Content} : (name, scene) ∈ entries → name ∉ ignored →
      Holds ignored scene names content → Holds ignored (.directory entries) (name :: names) content

/-- The manifests that a walk finds. -/
def found (root : Path) (scene : Scene) : List (Path × Content) :=
  (scene.walked vendorNames root).filterMap Stage.manifest?

variable {ignored : List String} {spelled : String} {p q root : Path} {scene : Scene}
  {entries : List (String × Scene)} {names : List String} {content : Content}

theorem mem_filterMap_content? {name : String} :
    (name, content) ∈ entries.filterMap content? ↔ (name, .file content) ∈ entries := by
  rw [List.mem_filterMap]
  constructor
  · rintro ⟨⟨name', scene⟩, hmem, hcontent⟩
    cases scene with
    | file content' =>
      cases hcontent
      exact hmem
    | _ => cases hcontent
  · exact fun hmem => ⟨_, hmem, rfl⟩

/-- The manifest of a directory is its file of this name. -/
theorem manifest?_listed (h : (entries.map Prod.fst).Nodup) :
    (q, content) ∈ (Stage.listed p (sortByName (entries.filterMap content?))).manifest? ↔
      q = p.child manifestName ∧ (manifestName, .file content) ∈ entries := by
  have hperm := Visit.sortByName_perm (entries.filterMap content?)
  have hnodup := (hperm.map Prod.fst).nodup_iff.2 (nodup_content? h)
  rw [← mem_filterMap_content?, ← hperm.mem_iff, Stage.manifest?, Option.mem_def,
    Option.map_eq_some_iff]
  constructor
  · rintro ⟨⟨name, content'⟩, hfind, heq⟩
    cases heq
    have hname := of_decide_eq_true (List.find?_some (p := fun entry : String × Content =>
      decide (entry.1 = manifestName)) hfind)
    exact ⟨rfl, hname ▸ List.mem_of_find?_eq_some hfind⟩
  · rintro ⟨rfl, hmem⟩
    have hsome : (List.find? (fun entry : String × Content => decide (entry.1 = manifestName))
        (sortByName (entries.filterMap content?))).isSome :=
      List.find?_isSome.2 ⟨_, hmem, decide_eq_true rfl⟩
    obtain ⟨⟨name, content'⟩, hfind⟩ := Option.isSome_iff_exists.1 hsome
    have hname : name = manifestName := of_decide_eq_true (List.find?_some
      (p := fun entry : String × Content => decide (entry.1 = manifestName)) hfind)
    subst hname
    have hsame := List.inj_on_of_nodup_map hnodup (List.mem_of_find?_eq_some hfind) hmem rfl
    cases hsame
    exact ⟨_, hfind, rfl⟩

theorem not_holds_nil : ¬ scene.Holds ignored [] content := nofun

/-- A manifest stands in a directory, or below one of its entries. -/
theorem holds_manifest_iff :
    (directory entries).Holds ignored (names ++ [manifestName]) content ↔
      (names = [] ∧ (manifestName, .file content) ∈ entries) ∨
      ∃ entry ∈ entries, entry.1 ∉ ignored ∧ ∃ rest, names = entry.1 :: rest ∧
        entry.2.Holds ignored (rest ++ [manifestName]) content := by
  constructor
  · intro h
    cases names with
    | nil =>
      cases h with
      | file hmem => exact .inl ⟨rfl, hmem⟩
      | through _ _ hbelow => exact absurd hbelow not_holds_nil
    | cons name rest =>
      rw [List.cons_append] at h
      generalize hlast : rest ++ [manifestName] = last at h
      cases h with
      | file => simp at hlast
      | through hmem hname hbelow =>
        subst hlast
        exact .inr ⟨(name, _), hmem, hname, rest, rfl, hbelow⟩
  · rintro (⟨rfl, hmem⟩ | ⟨entry, hmem, hname, rest, rfl, hbelow⟩)
    · exact .file hmem
    · exact .through hmem hname hbelow

theorem mem_stages_manifest? (h : scene.IsTree) :
    (∃ stage ∈ scene.stages ignored spelled p, (q, content) ∈ stage.manifest?) ↔
      ∃ names, q = p.descend (names ++ [manifestName]) ∧
        scene.Holds ignored (names ++ [manifestName]) content := by
  induction h generalizing spelled p with
  | file content' =>
    simp only [stages, List.not_mem_nil, false_and, exists_false, false_iff, not_exists, not_and]
    intro names _ hholds
    cases hholds
  | linked =>
    simp only [stages, List.not_mem_nil, false_and, exists_false, false_iff, not_exists, not_and]
    intro names _ hholds
    cases hholds
  | closed reason =>
    simp only [stages, List.mem_singleton, exists_eq_left, Stage.manifest?, Option.mem_def,
      reduceCtorEq, false_iff, not_exists, not_and]
    intro names _ hholds
    cases hholds
  | @directory entries hnodup _ ih =>
    have hkept : ∀ entry, entry ∈ sortByName (entries.filter fun entry => entry.1 ∉ ignored) ↔
        entry ∈ entries ∧ entry.1 ∉ ignored := by
      intro entry
      rw [(Visit.sortByName_perm _).mem_iff, List.mem_filter, decide_eq_true_eq]
    rw [stages_directory]
    simp only [List.mem_cons, exists_eq_or_imp, manifest?_listed hnodup, List.mem_flatMap, hkept,
      holds_manifest_iff]
    constructor
    · rintro (⟨rfl, hmem⟩ | ⟨stage, ⟨entry, ⟨hmem, hname⟩, hstage⟩, hfound⟩)
      · exact ⟨[], (p.descend_singleton manifestName).symm, .inl ⟨rfl, hmem⟩⟩
      · obtain ⟨rest, rfl, hbelow⟩ := (ih entry hmem).1 ⟨stage, hstage, hfound⟩
        exact ⟨entry.1 :: rest, (p.descend_cons _ _).symm,
          .inr ⟨entry, hmem, hname, rest, rfl, hbelow⟩⟩
    · rintro ⟨names, rfl, ⟨rfl, hmem⟩ | ⟨entry, hmem, hname, rest, rfl, hbelow⟩⟩
      · exact .inl ⟨p.descend_singleton manifestName, hmem⟩
      · obtain ⟨stage, hstage, hfound⟩ :=
          (ih entry hmem (p := p.child entry.1)).2 ⟨rest, p.descend_cons _ _, hbelow⟩
        exact .inr ⟨stage, ⟨entry, ⟨hmem, hname⟩, hstage⟩, hfound⟩

/-- The manifests that count are those that the tree holds. -/
theorem mem_found_iff (h : scene.IsTree) : (q, content) ∈ scene.found root ↔
    ∃ names, q = root.descend (names ++ [manifestName]) ∧
      scene.Holds vendorNames (names ++ [manifestName]) content := by
  rw [found, walked, List.mem_filterMap]
  exact mem_stages_manifest? h

/-- No two stages of a walk have the manifest at one path. -/
theorem pairwise_stages (h : scene.IsTree) : (scene.stages ignored spelled p).Pairwise
    fun first second => ∀ found ∈ first.manifest?, ∀ other ∈ second.manifest?,
      found.1 ≠ other.1 := by
  induction h generalizing spelled p with
  | file content => exact .nil
  | linked => exact .nil
  | closed reason => exact List.pairwise_singleton _ _
  | @directory entries hnodup hsub ih =>
    have hof : ∀ entry ∈ sortByName (entries.filter fun entry => entry.1 ∉ ignored),
        entry ∈ entries :=
      fun entry hentry => List.mem_of_mem_filter ((Visit.sortByName_perm _).mem_iff.1 hentry)
    -- what is found below an entry stands at the end of its name and of others
    have hbelow : ∀ entry ∈ sortByName (entries.filter fun entry => entry.1 ∉ ignored),
        ∀ stage ∈ entry.2.stages ignored (Sight.spelledBelow spelled entry.1) (p.child entry.1),
          ∀ found ∈ stage.manifest?,
            ∃ names, found.1 = p.descend (entry.1 :: (names ++ [manifestName])) := by
      intro entry hentry stage hstage found hfound
      obtain ⟨names, heq, -⟩ := (mem_stages_manifest? (hsub entry (hof entry hentry))).1
        ⟨stage, hstage, hfound⟩
      exact ⟨names, heq.trans (p.descend_cons _ _).symm⟩
    rw [stages_directory, List.pairwise_cons, List.pairwise_flatMap]
    refine ⟨?_, fun entry hentry => ih entry (hof entry hentry), ?_⟩
    · intro stage hstage found hfound other hother heq
      obtain ⟨entry, hentry, hstage⟩ := List.mem_flatMap.1 hstage
      obtain ⟨names, hnames⟩ := hbelow entry hentry stage hstage other hother
      have hfirst := ((manifest?_listed hnodup).1 hfound).1
      rw [← p.descend_singleton] at hfirst
      have hsame := p.descend_injective (hfirst.symm.trans (heq.trans hnames))
      simp at hsame
    · have hkept : ((entries.filter fun entry => entry.1 ∉ ignored).map Prod.fst).Nodup :=
        hnodup.sublist (List.filter_sublist.map Prod.fst)
      refine (Visit.sortByName_pairwise hkept).imp_of_mem ?_
      intro first second hfirst hsecond hlt stage hstage stage' hstage'
        found hfound other hother heq
      obtain ⟨names, hnames⟩ := hbelow first hfirst stage hstage found hfound
      obtain ⟨names', hnames'⟩ := hbelow second hsecond stage' hstage' other hother
      have hsame := p.descend_injective (hnames.symm.trans (heq.trans hnames'))
      rw [List.head_eq_of_cons_eq hsame] at hlt
      exact String.lt_irrefl _ hlt

/-- No manifest is counted twice. -/
theorem nodup_found (h : scene.IsTree) : ((scene.found root).map Prod.fst).Nodup :=
  List.pairwise_map.2 (List.pairwise_filterMap.2 (pairwise_stages h))

end Scene

/-! ## Dependencies and import lines -/

/-- The names of dependencies that are hints of a framework. -/
def hintNames (framework : String) : List Text :=
  (dependencyHints.filter fun hint => hint.2 = framework).map fun hint => Text.ofString hint.1

/-- The texts in a source file that are hints of a framework. -/
def needlesOf (framework : String) : List String :=
  (importHints.filter fun hint => hint.1 = framework).flatMap Prod.snd

namespace Content

/-- A manifest lists a dependency: it is a mapping, and so is one of its sections, which has this
key. -/
def Lists (content : Content) (name : Text) : Prop :=
  ∃ manifest, content.json? = some manifest ∧ ∃ title ∈ dependencySections, ∃ entries,
    manifest.get? title = some (.map entries) ∧ name ∈ entries.map Prod.fst

/-- The first bytes of a source file have one of some texts among their characters. -/
def Mentions (content : Content) (needles : List String) : Prop :=
  ∃ bytes, content = .ok bytes ∧ ∃ needle ∈ needles,
    needle.toList <:+: Utf8.decodeSkipping (bytes.take Disk.searchedBytes)

variable {content : Content} {framework : String} {name : Text} {needles : List String}

theorem mem_dependencyNames_iff : name ∈ content.dependencyNames ↔ content.Lists name := by
  rw [dependencyNames, Lists]
  cases content.json? with
  | none => simp
  | some manifest =>
    simp only [Option.map_some, Option.getD_some, dependenciesOf, List.mem_eraseDups,
      List.mem_flatMap, Option.some.injEq, exists_eq_left']
    refine exists_congr fun title => and_congr_right fun _ => ?_
    rw [Tree.get]
    cases manifest.get? title with
    | none => simp
    | some value => cases value <;> simp

theorem contains_dependencyNames_iff :
    content.dependencyNames.contains name = true ↔ content.Lists name :=
  List.contains_iff_mem.trans mem_dependencyNames_iff

instance (content : Content) : DecidablePred content.Lists :=
  fun _ => decidable_of_iff _ contains_dependencyNames_iff

theorem containsChars_iff {needle cs : List Char} :
    containsChars needle cs = true ↔ needle <:+: cs := by
  induction cs with
  | nil => simp [containsChars]
  | cons c rest ih =>
    rw [containsChars, List.infix_cons_iff, ← List.isPrefixOf_iff_prefix, ← ih]
    split <;> simp_all

theorem searched?_any_iff :
    content.searched?.any (Disk.containsOneOf needles) = true ↔ content.Mentions needles := by
  cases content with
  | error reason => simp [searched?, Mentions]
  | ok bytes => simp [searched?, Mentions, Disk.containsOneOf, containsChars_iff]

instance (content : Content) : DecidablePred content.Mentions :=
  fun _ => decidable_of_iff _ searched?_any_iff

/-- A name gives points to the framework that it is a hint of. -/
theorem weight_dependencySign? (framework : String) (name : Text) :
    Score.weight (dependencySign? name).toList framework =
      if name ∈ hintNames framework then dependencyPoints framework else 0 := by
  have hnodup : (dependencyHints.map fun hint => Text.ofString hint.1).Nodup := by decide
  have hmem : name ∈ hintNames framework ↔
      ∃ hint ∈ dependencyHints, hint.2 = framework ∧ Text.ofString hint.1 = name := by
    simp only [hintNames, List.mem_map, List.mem_filter, decide_eq_true_eq, and_assoc]
  rw [dependencySign?]
  cases hfind : dependencyHints.find? fun hint => Text.ofString hint.1 = name with
  | none =>
    have hnone : ∀ hint ∈ dependencyHints, Text.ofString hint.1 ≠ name := by
      simpa using hfind
    rw [if_neg fun h => by
      obtain ⟨hint, hhint, -, hname⟩ := hmem.1 h
      exact hnone hint hhint hname]
    rfl
  | some hint =>
    have hhint := List.mem_of_find?_eq_some hfind
    have hname : Text.ofString hint.1 = name := of_decide_eq_true (List.find?_some
      (p := fun hint : String × String => decide (Text.ofString hint.1 = name)) hfind)
    have hown : name ∈ hintNames framework ↔ hint.2 = framework := by
      rw [hmem]
      constructor
      · rintro ⟨other, hother, hframework, hsame⟩
        rwa [List.inj_on_of_nodup_map hnodup hhint hother (hname.trans hsame.symm)]
      · exact fun hframework => ⟨hint, hhint, hframework, hname⟩
    rw [Option.map_some, Option.toList_some, Score.weight_cons]
    by_cases hframework : hint.2 = framework
    · rw [if_pos hframework, if_pos (hown.2 hframework), hframework]
      rfl
    · rw [if_neg hframework, if_neg (mt hown.1 hframework)]
      rfl

theorem nodup_hintNames (framework : String) : (hintNames framework).Nodup := by
  have hall : (dependencyHints.map fun hint => Text.ofString hint.1).Nodup := by decide
  exact hall.sublist (List.filter_sublist.map _)

/-- What a manifest gives a framework: the points of each of its hints that the manifest lists. -/
theorem weight_dependencySigns (framework : String) (content : Content) :
    Score.weight content.dependencySigns framework =
      dependencyPoints framework * (hintNames framework).countP content.Lists := by
  have hsum : ∀ names : List Text, Score.weight (names.filterMap dependencySign?) framework =
      dependencyPoints framework * names.countP (· ∈ hintNames framework) := by
    intro names
    induction names with
    | nil => rfl
    | cons name rest ih =>
      rw [List.filterMap_eq_flatMap_toList, List.flatMap_cons, ← List.filterMap_eq_flatMap_toList,
        Score.weight_append, weight_dependencySign?, ih, List.countP_cons]
      by_cases hname : name ∈ hintNames framework
      · simp only [hname, if_true, decide_true]
        ring
      · simp [hname]
  -- the hints among the names are the names among the hints
  have hperm : (content.dependencyNames.filter (· ∈ hintNames framework)).Perm
      ((hintNames framework).filter content.Lists) := by
    refine (List.perm_ext_iff_of_nodup (content.nodup_dependencyNames.filter _)
      ((nodup_hintNames framework).filter _)).2 fun name => ?_
    simp only [List.mem_filter, decide_eq_true_eq, mem_dependencyNames_iff]
    exact and_comm
  rw [dependencySigns, hsum, List.countP_eq_length_filter, hperm.length_eq,
    List.countP_eq_length_filter]

/-- Hints with needles in a text give their points once for each framework. -/
theorem weight_hints (text : List Char) (framework : String) {hints : List (String × List String)}
    (hnodup : (hints.map Prod.fst).Nodup) :
    Score.weight ((hints.filter fun hint => Disk.containsOneOf hint.2 text).map fun hint =>
      (hint.1, importPoints)) framework =
      if Disk.containsOneOf ((hints.filter fun hint => hint.1 = framework).flatMap Prod.snd) text
      then importPoints else 0 := by
  induction hints with
  | nil => rfl
  | cons hint rest ih =>
    rw [List.map_cons, List.nodup_cons] at hnodup
    have ih := ih hnodup.2
    by_cases hframework : hint.1 = framework
    · -- no other hint is one of this framework
      have hnone : rest.filter (fun hint => hint.1 = framework) = [] := by
        rw [List.filter_eq_nil_iff]
        intro other hother hsame
        exact hnodup.1 (hframework ▸ of_decide_eq_true hsame ▸ List.mem_map_of_mem hother)
      have hempty : Disk.containsOneOf [] text = false := rfl
      simp only [hnone, List.flatMap_nil, hempty, Bool.false_eq_true, if_false] at ih
      simp only [List.filter_cons, hframework, decide_true, if_true, hnone,
        List.flatMap_singleton]
      cases Disk.containsOneOf hint.2 text with
      | false => simpa using ih
      | true => simp [Score.weight_cons, hframework, ih]
    · cases hneedle : Disk.containsOneOf hint.2 text with
      | false => simpa [hneedle, hframework] using ih
      | true => simpa [hneedle, hframework, Score.weight_cons] using ih

/-- What a source file gives a framework, however many of its needles are in the file. -/
theorem weight_importSigns (framework : String) (content : Content) :
    Score.weight content.importSigns framework =
      if content.Mentions (needlesOf framework) then importPoints else 0 := by
  have hnodup : (importHints.map Prod.fst).Nodup := by decide
  rw [importSigns]
  simp only [← searched?_any_iff]
  cases content.searched? with
  | none => rfl
  | some text =>
    rw [Option.toList_some, List.flatMap_singleton, weight_hints text framework hnodup]
    rfl

end Content

/-! ## The files that are searched -/

theorem Stage.sample_eq_ok {size : Nat} {finds : List (Except DiscoveryError Content)}
    {contents : List Content} (h : sample size finds = .ok contents) :
    contents = (finds.filterMap Except.toOption).take size := by
  rw [sample] at h
  cases hfirst : (finds.take (size + 1)).mapM id with
  | error reason =>
    rw [hfirst] at h
    cases h
  | ok found =>
    rw [hfirst] at h
    cases h
    have htaken := mapM_id_eq_ok_iff.1 hfirst
    have hkept :
        (found.map (Except.ok (ε := DiscoveryError))).filterMap Except.toOption = found := by
      rw [List.filterMap_map]
      exact List.filterMap_some
    have hlength : found.length = min (size + 1) finds.length := by
      rw [← List.length_map (Except.ok (ε := DiscoveryError)), ← htaken, List.length_take]
    rw [← List.take_append_drop (size + 1) finds, List.filterMap_append, htaken, hkept]
    by_cases hmore : size + 1 ≤ finds.length
    · rw [List.take_append_of_le_length (by omega)]
    · rw [List.drop_of_length_le (by omega), List.filterMap_nil, List.append_nil]

namespace Scene

/-- The source files below a directory, in the order of the walk. -/
def sources (root : Path) (scene : Scene) : List (Path × Content) :=
  (scene.walked vendorNames root).flatMap Stage.sources

variable {scene : Scene} {root : Path} {size : Nat} {contents : List Content}
  {signs : List Sign}

/-- The first source files are searched. -/
theorem searched_eq_ok (h : scene.searched root size = .ok contents) :
    contents = ((scene.sources root).take size).map Prod.snd := by
  have hfinds : ∀ stage : Stage, stage.finds.filterMap Except.toOption =
      stage.sources.map Prod.snd := by
    intro stage
    cases stage with
    | closed spelled reason => rfl
    | listed p files =>
      rw [Stage.finds, List.filterMap_map, ← List.filterMap_eq_map]
      rfl
  rw [Stage.sample_eq_ok h, List.filterMap_flatMap, sources, List.map_take, List.map_flatMap]
  simp only [hfinds]

/-- On a disk these are the first of the files that it finds. -/
theorem sources_scene {d : Disk} {files : List Path}
    (h : d.sourceFiles vendorNames root = .ok files) :
    (d.scene root).sources root = files.map fun p => (p, d.contentAt p) := by
  rw [sources, Disk.walked_scene]
  rw [Disk.sourceFiles] at h
  cases hvisits : d.visits vendorNames root with
  | error e =>
    rw [hvisits] at h
    cases h
  | ok visits =>
    rw [hvisits] at h
    cases h
    exact Disk.flatMap_stageOf Stage.sources (f := id) (fun _ => (List.map_id _).symm) visits

/-! ## Scores -/

/-- What a framework gets: the points of its hints in each manifest, and those of each file that
mentions it. -/
def score (root : Path) (contents : List Content) (scene : Scene) (framework : String) : Nat :=
  ((scene.found root).map fun manifest =>
    dependencyPoints framework * (hintNames framework).countP manifest.2.Lists).sum +
  importPoints * contents.countP fun content => content.Mentions (needlesOf framework)

/-- What all frameworks get. -/
def totalScore (root : Path) (contents : List Content) (scene : Scene) : Nat :=
  (Profile.names.map (scene.score root contents)).sum

theorem weight_signs (hsearched : scene.searched root size = .ok contents)
    (h : scene.signs root size = .ok signs) (framework : String) :
    Score.weight signs framework = scene.score root contents framework := by
  have himports : ∀ contents : List Content,
      (contents.map fun content => Score.weight content.importSigns framework).sum =
        importPoints * contents.countP fun content => content.Mentions (needlesOf framework) := by
    intro contents
    induction contents with
    | nil => rfl
    | cons content rest ih =>
      rw [List.map_cons, List.sum_cons, ih, Content.weight_importSigns, List.countP_cons]
      by_cases hmentions : content.Mentions (needlesOf framework)
      · simp only [hmentions, if_true, decide_true]
        ring
      · simp [hmentions]
  obtain ⟨contents', hsearched', rfl⟩ := signs_eq_ok_iff.1 h
  obtain rfl := Except.ok.inj (hsearched.symm.trans hsearched')
  rw [Score.weight_append, Score.weight_flatMap, Score.weight_flatMap, himports, manifests, ← found,
    List.map_map, score]
  simp only [Function.comp_def, Content.weight_dependencySigns]

theorem points_signs (hsearched : scene.searched root size = .ok contents)
    (h : scene.signs root size = .ok signs) :
    Score.points signs = scene.totalScore root contents := by
  have hnodup : Profile.names.Nodup := by decide
  have haxios : Profile.axios.name ∈ Profile.names := by decide
  have hservers : ∀ name ∈ serverFrameworks, name ∈ Profile.names := by decide
  have hall : ∀ sign ∈ signs, sign.1 ∈ Profile.names := by
    intro sign hsign
    rcases isWeighted_of_mem_signs h hsign with ⟨hname, -⟩ | ⟨hserver, -⟩
    · exact hname ▸ haxios
    · exact hservers _ hserver
  rw [Score.points_eq_sum hnodup hall, totalScore]
  exact congrArg List.sum (List.map_congr_left fun name _ => weight_signs hsearched h name)

theorem pos_of_mem_signs (h : scene.signs root size = .ok signs) {sign : Sign}
    (hsign : sign ∈ signs) : 0 < sign.2 := by
  rcases isWeighted_of_mem_signs h hsign with ⟨-, hone⟩ | ⟨-, htwo⟩
  · omega
  · omega

/-- Nothing gives points exactly if no framework scores. -/
theorem signs_eq_nil_iff (hsearched : scene.searched root size = .ok contents)
    (h : scene.signs root size = .ok signs) :
    signs = [] ↔ ∀ framework, scene.score root contents framework = 0 := by
  have hweight := weight_signs hsearched h
  constructor
  · rintro rfl framework
    rw [← hweight]
    rfl
  · intro hzero
    by_contra hne
    obtain ⟨sign, hsign⟩ := List.exists_mem_of_ne_nil signs hne
    have hless := (pos_of_mem_signs h hsign).trans_le (Score.le_weight hsign)
    rw [hweight, hzero] at hless
    exact absurd hless (Nat.lt_irrefl 0)

theorem signs_of_searched (h : scene.searched root size = .ok contents) :
    ∃ signs, scene.signs root size = .ok signs :=
  ⟨_, signs_eq_ok_iff.2 ⟨contents, h, rfl⟩⟩

end Scene

/-! ## What is found -/

/-- What detection finds in a tree in which some source files are searched. -/
structure Tallied (root : Path) (size : Nat) (contents : List Content) (scene : Scene) : Prop where
  /-- The manifests that count are those that the tree holds, each of them once. -/
  manifests : ((scene.found root).map Prod.fst).Nodup ∧ ∀ q content,
    (q, content) ∈ scene.found root ↔ ∃ names, q = root.descend (names ++ [manifestName]) ∧
      scene.Holds vendorNames (names ++ [manifestName]) content
  /-- The files that are searched are the first ones of the walk. -/
  searched : contents = ((scene.sources root).take size).map Prod.snd
  searchedOnDisk : ∀ (d : Disk) (files : List Path), d.scene root = scene →
    d.sourceFiles vendorNames root = .ok files → contents = (files.take size).map d.contentAt
  nothing : (scene.detect root size).start.1 = .ok .nothing ↔
    ∀ framework, scene.score root contents framework = 0
  found : (∃ framework, scene.score root contents framework ≠ 0) →
    ∃ framework, (∀ other, scene.score root contents other ≤
        scene.score root contents framework) ∧
      (scene.detect root size).start.1 = .ok ⟨some framework, Binary64.nearest (max (3 / 10)
        (min (99 / 100) (scene.score root contents framework / scene.totalScore root contents)))⟩
  /-- A disk that shows the tree is detected like it. -/
  disk : ∀ d : Disk, d.scene root = scene →
    (d.detect root size).start.1 = (scene.detect root size).start.1

theorem detection_tallied (root : Path) (size : Nat) {scene : Scene} {contents : List Content}
    (h : scene.IsTree) (hsearched : scene.searched root size = .ok contents) :
    Tallied root size contents scene := by
  obtain ⟨signs, hsigns⟩ := Scene.signs_of_searched hsearched
  have hweight := Scene.weight_signs hsearched hsigns
  have hpoints := Scene.points_signs hsearched hsigns
  have hdetect : (scene.detect root size).start.1 = .ok (.ofScore (Score.addAll [] signs)) := by
    rw [Scene.detect_start, hsigns]
    rfl
  have hnone := Scene.signs_eq_nil_iff hsearched hsigns
  refine ⟨⟨Scene.nodup_found h, fun _ _ => Scene.mem_found_iff h⟩, Scene.searched_eq_ok hsearched,
    ?_, ?_, ?_, fun d hd => by rw [d.detect_eq, hd]⟩
  · rintro d files rfl hfiles
    rw [Scene.searched_eq_ok hsearched, Scene.sources_scene hfiles, ← List.map_take, List.map_map]
    rfl
  · rw [hdetect, Except.ok.injEq, Detection.ofScore_eq_nothing_iff, hnone]
  · rintro ⟨some, hsome⟩
    have hne : signs ≠ [] := fun hnil => hsome (hnone.1 hnil some)
    obtain ⟨framework, hleads⟩ := Score.exists_leads hne
    have htotal : 0 < Score.points signs := by
      obtain ⟨sign, rest, rfl⟩ := List.exists_cons_of_ne_nil hne
      rw [Score.points_cons]
      exact Nat.add_pos_left (Scene.pos_of_mem_signs hsigns List.mem_cons_self) _
    refine ⟨framework, fun other => ?_, ?_⟩
    · rw [← hweight, ← hweight]
      by_cases hscored : other ∈ Score.scored signs
      · exact hleads.tops.2 other hscored
      · rw [Score.weight_eq_zero hscored]
        exact Nat.zero_le _
    · rw [hdetect, Detection.ofScore_of_leads hleads, confidenceOf_eq _ htotal, hpoints, hweight]

/-- A package with a dependency is found by the points of its manifest. -/
theorem detection_tallied_package :
    let package := packageOf (manifestOf "express")
    package.IsTree ∧ package.searched ⟨.relative, []⟩ 200 = .ok [] ∧
      Tallied ⟨.relative, []⟩ 200 [] package ∧
      package.score ⟨.relative, []⟩ [] "express" = 3 := by
  intro package
  have htree := Scene.isTree_packageOf (manifestOf "express")
  have hsearched := Scene.searched_packageOf ⟨.relative, []⟩ 200 (manifestOf "express")
  refine ⟨htree, hsearched, detection_tallied _ _ htree hsearched, ?_⟩
  rw [Scene.score, Scene.found, Scene.walked_packageOf]
  decide +kernel

/-! ### A manifest that is no JSON -/

/-- The text of a manifest with a number that JSON does not have. -/
def boundlessText : List Char :=
  "\x7b\"dependencies\": \x7b\"express\": NaN\x7d\x7d".toList

/-- The text is no JSON, and counts. -/
theorem manifest_without_json :
    let content : Content := .ok (boundlessText.map fun c => c.toNat.toUInt8)
    (∃ bytes, content = .ok bytes ∧ Utf8.decode? bytes = some boundlessText) ∧
      ¬ Json.IsDocument boundlessText ∧
      ((packageOf content).detect ⟨.relative, []⟩ 200).start.1.map Detection.framework =
        .ok (some "express") := by
  intro content
  refine ⟨⟨_, rfl, by decide +kernel⟩, fun hdocument => ?_, ?_⟩
  · have hscan : Json.scan .outside boundlessText = none := by decide +kernel
    rw [hdocument.scan_eq] at hscan
    cases hscan
  · rw [Scene.detect, Scene.walked_packageOf]
    decide +kernel

end EndpointCatalog
