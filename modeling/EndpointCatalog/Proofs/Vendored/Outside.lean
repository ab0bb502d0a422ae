/-
EndpointCatalog.Proofs.Vendored.Outside — what is below vendored directories
does not matter.

`Scene.outside` is a scene without its directories of some names, and with
the entries of the others in order. A walk that passes over these names
depends on nothing else (`walked_congr`), however many files are below such
a directory and whether they can be read.

* `AgreeOutside`: two scenes are the same outside vendored directories.
* `vendored_has_no_say`: they are detected alike, and runs that lead to them
  end alike.
-/
import EndpointCatalog.Proofs.Temporary
import EndpointCatalog.Proofs.Vendored.Scene
import EndpointCatalog.Proofs.Walking.Ending

namespace EndpointCatalog

/-- Entries of different names are put in the same order, whatever order they come in. -/
theorem Visit.sortByName_eq_of_perm {α : Type} {entries others : List (String × α)}
    (hperm : entries.Perm others) (hnodup : (entries.map Prod.fst).Nodup) :
    sortByName entries = sortByName others := by
  have hsorted := sortByName_pairwise hnodup
  have hsorted' := sortByName_pairwise ((hperm.map Prod.fst).nodup_iff.1 hnodup)
  refine List.Perm.eq_of_pairwise ?_ hsorted hsorted'
    ((sortByName_perm entries).trans (hperm.trans (sortByName_perm others).symm))
  exact fun a b _ _ hab hba => absurd (String.lt_trans hab hba) (String.lt_irrefl a.1)

/-! ## Scenes without some directories -/

namespace Scene

open Visit (sortByName)
open Sight (spelledBelow)

/-- No directory has two entries of one name. -/
inductive IsTree : Scene → Prop where
  | file (content : Content) : IsTree (.file content)
  | linked : IsTree .linked
  | directory {entries : List (String × Scene)} : (entries.map Prod.fst).Nodup →
      (∀ entry ∈ entries, IsTree entry.2) → IsTree (.directory entries)
  | closed (reason : String) : IsTree (.closed reason)

/-- Whether an entry stays: it has another name, or is no directory. -/
def stays (names : List String) (entry : String × Scene) : Bool :=
  !names.contains entry.1 || (content? entry).isSome

mutual

/-- A scene without its directories of some names, each of the others in order. -/
def outside (names : List String) : Scene → Scene
  | file content => file content
  | linked => linked
  | directory entries => directory (sortByName (outsideBelow names entries))
  | closed reason => closed reason

/-- The entries of a directory that stay. -/
def outsideBelow (names : List String) : List (String × Scene) → List (String × Scene)
  | [] => []
  | (name, scene) :: rest =>
    if stays names (name, scene) then (name, outside names scene) :: outsideBelow names rest
    else outsideBelow names rest

end

variable {names ignored : List String} {entries : List (String × Scene)}

theorem content?_outside (name : String) (scene : Scene) :
    content? (name, scene.outside names) = content? (name, scene) := by
  cases scene <;> simp [outside, content?]

theorem outsideBelow_eq (names : List String) (entries : List (String × Scene)) :
    outsideBelow names entries =
      (entries.filter (stays names)).map fun entry => (entry.1, entry.2.outside names) := by
  induction entries with
  | nil => rfl
  | cons entry rest ih =>
    by_cases hstays : stays names entry = true
    · simp [outsideBelow, hstays, ih]
    · simp [outsideBelow, hstays, ih]

/-- What does not stay is no file. -/
theorem filterMap_content?_outsideBelow :
    (outsideBelow names entries).filterMap content? = entries.filterMap content? := by
  rw [outsideBelow_eq, List.filterMap_map, List.filterMap_filter]
  refine List.filterMap_congr fun entry _ => ?_
  simp only [Function.comp_apply, content?_outside]
  split
  · rfl
  · next hstays =>
    simp only [stays, Bool.or_eq_true, not_or, Option.isSome_iff_ne_none, not_not] at hstays
    exact hstays.2.symm

/-- What does not stay is not looked into. -/
theorem filter_outsideBelow (hsub : names ⊆ ignored) :
    (outsideBelow names entries).filter (fun entry => entry.1 ∉ ignored) =
      (entries.filter fun entry => entry.1 ∉ ignored).map fun entry =>
        (entry.1, entry.2.outside names) := by
  rw [outsideBelow_eq, List.filter_map, List.filter_filter]
  refine congrArg _ (List.filter_congr fun entry _ => ?_)
  simp only [Function.comp_apply, Bool.and_eq_left_iff_imp, decide_eq_true_eq, stays,
    Bool.or_eq_true, Bool.not_eq_true', List.contains_eq_mem, decide_eq_false_iff_not]
  exact fun hname => .inl fun hmem => hname (hsub hmem)

theorem nodup_outsideBelow (h : (entries.map Prod.fst).Nodup) :
    ((outsideBelow names entries).map Prod.fst).Nodup := by
  rw [outsideBelow_eq, List.map_map]
  exact h.sublist (List.filter_sublist.map Prod.fst)

/-- Files of one directory have different names. -/
theorem nodup_content? (h : (entries.map Prod.fst).Nodup) :
    ((entries.filterMap content?).map Prod.fst).Nodup := by
  refine h.sublist ?_
  induction entries with
  | nil => exact List.Sublist.slnil
  | cons entry rest ih =>
    have ih := ih (List.nodup_cons.1 h).2
    obtain ⟨name, scene⟩ := entry
    cases scene with
    | file content => exact ih.cons_cons _
    | linked => exact ih.cons _
    | directory entries => exact ih.cons _
    | closed reason => exact ih.cons _

/-- A walk that passes over some names comes to the same stages without their directories. -/
theorem stages_outside (hsub : names ⊆ ignored) {scene : Scene} (h : scene.IsTree)
    (spelled : String) (p : Path) :
    (scene.outside names).stages ignored spelled p = scene.stages ignored spelled p := by
  induction h generalizing spelled p with
  | file content => rw [outside]
  | linked => rw [outside]
  | closed reason => rw [outside]
  | @directory entries hnodup _ ih =>
    have hperm := Visit.sortByName_perm (outsideBelow names entries)
    have hnodup' := (hperm.map Prod.fst).nodup_iff.2 (nodup_outsideBelow hnodup)
    have hfiles : sortByName ((sortByName (outsideBelow names entries)).filterMap content?) =
        sortByName (entries.filterMap content?) := by
      rw [Visit.sortByName_eq_of_perm (hperm.filterMap content?) (nodup_content? hnodup'),
        filterMap_content?_outsideBelow]
    have hbelow : sortByName ((sortByName (outsideBelow names entries)).filter
          fun entry => entry.1 ∉ ignored) =
        (sortByName (entries.filter fun entry => entry.1 ∉ ignored)).map fun entry =>
          (entry.1, entry.2.outside names) := by
      rw [Visit.sortByName_eq_of_perm (hperm.filter _)
          (hnodup'.sublist (List.filter_sublist.map Prod.fst)),
        filter_outsideBelow hsub]
      exact (Visit.map_sortByName (f := fun entry : String × Scene =>
        (entry.1, entry.2.outside names)) (fun _ => rfl) _).symm
    rw [outside, stages_directory, stages_directory, hfiles, hbelow, List.flatMap_map]
    refine congrArg _ (List.flatMap_congr fun entry hentry => ?_)
    have hmem := (Visit.sortByName_perm _).mem_iff.1 hentry
    exact ih entry (List.mem_of_mem_filter hmem) _ _

end Scene

/-- Two scenes are the same outside directories of some names. -/
structure AgreeOutside (names : List String) (x y : Scene) : Prop where
  isTree : x.IsTree
  isTree' : y.IsTree
  same : y.outside names = x.outside names

theorem AgreeOutside.walked_eq {names ignored : List String} {x y : Scene}
    (h : AgreeOutside names x y) (hsub : names ⊆ ignored) (root : Path) :
    y.walked ignored root = x.walked ignored root := by
  rw [Scene.walked, Scene.walked, ← Scene.stages_outside hsub h.isTree,
    ← Scene.stages_outside hsub h.isTree', h.same]

/-! ## Runs that look at scenes -/

/-- The profile of the framework that a scene uses, and the confidence in it. -/
def Scene.detectProfile (settings : Settings) (root : Path) (scene : Scene) :
    Logged (Profile × Binary64) := do
  let found ← scene.detect root Inquiry.sampleSize
  match found.framework with
  | none => do
    Logged.log .warning ("Could not detect a framework in " ++ root.toString ++ "; using " ++
      settings.defaultFramework)
    pure (← liftM (Inquiry.profileNamed settings.defaultFramework), found.confidence)
  | some name => do
    Logged.log .info ("Detected framework " ++ name ++ " (confidence=" ++
      Inquiry.twoPlaces found.confidence ++ ")")
    pure (← liftM (Inquiry.profileNamed name), found.confidence)

/-- The way in which runs read source trees, if a look at a disk shows them scenes. -/
def Reading.through (look : Disk → Path → Scene) (settings : Settings) : Reading where
  expandHome := Disk.expandHome
  detect d root := (look d root).detectProfile settings root
  catalog d s ignored seenFrom root := (look d root).catalog s ignored seenFrom root

/-- Runs read source trees through the scenes of the disk. -/
theorem Reading.standard_eq (settings : Settings) :
    Reading.standard settings = Reading.through Disk.scene settings := by
  have hdetect : Inquiry.detectProfile settings =
      fun d root => (d.scene root).detectProfile settings root := by
    funext d root
    rw [Inquiry.detectProfile, Disk.detect_eq]
    refine bind_congr fun found => ?_
    cases found.framework <;> rfl
  have hcatalog : Disk.catalog = fun d s ignored seenFrom root =>
      (d.scene root).catalog s ignored seenFrom root := by
    funext d s ignored seenFrom root
    exact Disk.catalog_eq s ignored seenFrom root
  rw [Reading.standard, Reading.through, hdetect, hcatalog]

/-! ### What is logged does not matter -/

theorem Content.steady_dependencies (p : Path) (content : Content) :
    Steady (content.dependencies p) := by
  unfold dependencies
  split
  · exact .pure _
  · exact .bind (.log _ _) fun _ => .pure _

theorem Stage.steady_scoreManifests (s : Score) (found : List (Path × Content)) :
    Steady (scoreManifests s found) := by
  induction found generalizing s with
  | nil => exact .pure s
  | cons first rest ih => exact .bind (first.2.steady_dependencies first.1) fun _ => ih _

theorem Stage.steady_detect (stages : List Stage) (size : Nat) : Steady (detect stages size) := by
  refine .bind (steady_scoreManifests _ _) fun fromManifests => ?_
  split
  · exact .throw _
  · exact .pure _

theorem Scene.steady_detectProfile (settings : Settings) (root : Path) (scene : Scene) :
    Steady (scene.detectProfile settings root) := by
  refine .bind (Stage.steady_detect _ _) fun found => ?_
  split
  · exact .bind (.log _ _) fun _ => .bind (.liftM _) fun _ => .pure _
  · exact .bind (.log _ _) fun _ => .bind (.liftM _) fun _ => .pure _

theorem Scene.steady_catalog (s : Search) (ignored : List String) (seenFrom : Option Path)
    (root : Path) (scene : Scene) : Steady (scene.catalog s ignored seenFrom root) :=
  .bind (Meeting.steady_allRecords _ _ _) fun _ => .bind (.log _ _) fun _ => .pure _

/-! ### How a run ends -/

namespace Inquiry

variable {look look' : Disk → Path → Scene} {outside outside' : Remote.Outside}
  {settings : Settings} {q : Inquiry} {s s' : Session} {root : Path} {x y : Scene}

/-- The profile that is asked for, or else the one that a scene is detected to use. -/
def settled (settings : Settings) (profile : Option Profile) (root : Path) (scene : Scene) :
    Except Failure (Profile × Binary64) :=
  match profile with
  | some p => .ok (p, Binary64.ofRatio false 1 1)
  | none => (scene.detectProfile settings root).start.1

/-- How the discovery in a scene ends, under a profile or under the one that is detected. -/
def surveyed (settings : Settings) (q : Inquiry) (profile : Option Profile) (isCopied : Bool)
    (root : Path) (scene : Scene) : Except Failure Discovery :=
  (settled settings profile root scene).bind fun found =>
    (scene.catalog ⟨found.1, Text.ofString q.object⟩ q.ignored
      (if isCopied then some root else none) root).start.1.map fun endpoints =>
        ⟨q.locator, found.1.name, found.2, q.object, endpoints, isCopied⟩

theorem run_ofLogged {α : Type} {x : Logged α} (h : Steady x) (s : Session) :
    ∃ log, (ExceptT.run (Acting.ofLogged x)).run s = (x.start.1, { s with log := log }) :=
  ⟨((ExceptT.run x).run s.log).2, by rw [← h s.log]; rfl⟩

theorem run_detect (look : Disk → Path → Scene) (copying : Copying) (settings : Settings)
    (root : Path) (s : Session) :
    ∃ log, (ExceptT.run ((copying.steps (Reading.through look settings)).detect root)).run s =
      (((look s.disk root).detectProfile settings root).start.1, { s with log := log }) :=
  run_ofLogged (Scene.steady_detectProfile settings root (look s.disk root)) s

theorem run_catalog (look : Disk → Path → Scene) (copying : Copying) (settings : Settings)
    (search : Search) (ignored : List String) (seenFrom : Option Path) (root : Path)
    (s : Session) :
    ∃ log, (ExceptT.run ((copying.steps (Reading.through look settings)).catalog search ignored
        seenFrom root)).run s =
      (((look s.disk root).catalog search ignored seenFrom root).start.1, { s with log := log }) :=
  run_ofLogged (Scene.steady_catalog search ignored seenFrom root (look s.disk root)) s

/-- A survey reads the scene that stands at its root, and what has been logged does not matter. -/
theorem survey_ending (look : Disk → Path → Scene) (copying : Copying) (settings : Settings)
    (q : Inquiry) (profile : Option Profile) {copy : Option Remote.Checkout} {root : Path}
    (hcopy : ∀ c ∈ copy, c.root = root) (s : Session) :
    ((ExceptT.run (survey (copying.steps (Reading.through look settings)) q profile copy root)).run
      s).1 = surveyed settings q profile copy.isSome root (look s.disk root) := by
  have hseen : copy.map Remote.Checkout.root = if copy.isSome then some root else none := by
    cases copy with
    | none => rfl
    | some c => simp [hcopy c rfl]
  have hsettled : ∃ log, (ExceptT.run (settle (copying.steps (Reading.through look settings))
      profile root)).run s =
        (settled settings profile root (look s.disk root), { s with log := log }) := by
    cases profile with
    | none => exact run_detect look copying settings root s
    | some p => exact ⟨s.log, rfl⟩
  obtain ⟨log, hsettled⟩ := hsettled
  rw [survey, run_bind, hsettled, surveyed]
  cases settled settings profile root (look s.disk root) with
  | error e => rfl
  | ok found =>
    obtain ⟨log', hcatalog⟩ := run_catalog look copying settings
      ⟨found.1, Text.ofString q.object⟩ q.ignored (if copy.isSome then some root else none) root
      { s with log := log }
    simp only [run_bind, hseen, hcatalog, Except.bind]
    cases ((look s.disk root).catalog ⟨found.1, Text.ofString q.object⟩ q.ignored
      (if copy.isSome then some root else none) root).start.1 <;> rfl

/-- A session in which a run has begun. -/
def begun (q : Inquiry) (s : Session) : Session :=
  { s with log := s.log ++ [⟨.info, "Discovering APIs in " ++ q.locator⟩] }

/-- Where the sources of an inquiry stand, and what a look at the disk shows there: below the
locator, or below the root of a copy. -/
inductive LeadsTo (look : Disk → Path → Scene) (outside : Remote.Outside) (settings : Settings)
    (q : Inquiry) (s : Session) : Path → Scene → Prop where
  | here {root : Path} : Remote.isRemote q.locator = false →
      s.disk.expandHome (Path.ofString q.locator) = .ok root →
      LeadsTo look outside settings q s root (look s.disk root)
  | copied {copy : Remote.Checkout} {next : Session} : Remote.isRemote q.locator = true →
      (ExceptT.run (Remote.acquire outside settings q.locator q.token)).run (q.begun s) =
        (.ok copy, next) →
      LeadsTo look outside settings q s copy.root (look next.disk copy.root)

/-- A run ends as the survey of the scene to which it leads. -/
theorem perform_ending (h : LeadsTo look outside settings q s root x) :
    ((ExceptT.run (q.perform ((Copying.from outside settings).steps
      (Reading.through look settings)))).run s).1 =
        q.profile?.bind fun profile =>
          surveyed settings q profile (Remote.isRemote q.locator) root x := by
  have hbegun : (ExceptT.run (modify (((Copying.from outside settings).steps
      (Reading.through look settings)).note ⟨.info, "Discovering APIs in " ++ q.locator⟩) :
        Acting PUnit)).run s = (.ok ⟨⟩, q.begun s) := rfl
  rw [perform, run_bind, hbegun]
  cases hprofile : q.profile? with
  | error e => rfl
  | ok profile =>
    cases h with
    | here hlocal hroot =>
      have hexpand : (ExceptT.run (((Copying.from outside settings).steps
          (Reading.through look settings)).expandHome (Path.ofString q.locator))).run
            (q.begun s) = (.ok root, q.begun s) := by
        show (ExceptT.run (liftM (s.disk.expandHome (Path.ofString q.locator)) : Acting Path)).run
          (q.begun s) = _
        rw [hroot]
        rfl
      simp only [hlocal, Bool.false_eq_true, if_false, run_bind, hexpand]
      have hcopy : ∀ c ∈ (none : Option Remote.Checkout), c.root = root := by simp
      exact survey_ending look _ settings q profile hcopy (q.begun s)
    | @copied copy next hremote hacquire =>
      have hrun : (ExceptT.run (((Copying.from outside settings).steps
          (Reading.through look settings)).acquire q.locator q.token)).run (q.begun s) =
            (.ok copy, next) := hacquire
      have hcopy : ∀ c ∈ some copy, c.root = copy.root := by simp
      have hsurvey :=
        survey_ending look (Copying.from outside settings) settings q profile hcopy next
      have hreleased : ∀ last : Session, ((ExceptT.run (((Copying.from outside settings).steps
          (Reading.through look settings)).release copy)).run last).1 = .ok () :=
        Remote.release_ok copy
      simp only [hremote, if_true, run_bind, hrun, run_thenAlways]
      generalize (ExceptT.run (survey _ q profile (some copy) copy.root)).run next = ran at hsurvey ⊢
      have hlast := hreleased ran.2
      revert hlast
      generalize (ExceptT.run (Steps.release _ copy)).run ran.2 = last
      obtain ⟨ending, after⟩ := last
      rintro rfl
      exact hsurvey

end Inquiry

/-! ## Vendored directories -/

/-- What two scenes that are the same outside vendored directories have in common. -/
structure Unswayed (x y : Scene) : Prop where
  /-- They are detected alike, with the same confidence or the same failure. -/
  detect : ∀ root size, y.detect root size = x.detect root size
  catalog : ∀ (s : Search) (ignored : List String) (seenFrom : Option Path) (root : Path),
    vendorNames ⊆ ignored → y.catalog s ignored seenFrom root = x.catalog s ignored seenFrom root
  /-- Two disks that show them are detected alike. -/
  disks : ∀ (d d' : Disk) (root : Path) (size : Nat), d.scene root = x → d'.scene root = y →
    d'.detect root size = d.detect root size
  /-- Two runs that lead to them end alike, whatever a look at the disks depends on. -/
  runs : ∀ (look look' : Disk → Path → Scene) (outside outside' : Remote.Outside)
    (settings : Settings) (q : Inquiry) (s s' : Session) (root : Path),
    vendorNames ⊆ q.ignored → q.LeadsTo look outside settings s root x →
    q.LeadsTo look' outside' settings s' root y →
    ((ExceptT.run (q.perform ((Copying.from outside' settings).steps
      (Reading.through look' settings)))).run s').1 =
    ((ExceptT.run (q.perform ((Copying.from outside settings).steps
      (Reading.through look settings)))).run s).1
  /-- So do two runs that read the disks of their sessions. -/
  runsOnDisk : ∀ (outside outside' : Remote.Outside) (settings : Settings) (q : Inquiry)
    (s s' : Session) (root : Path), vendorNames ⊆ q.ignored →
    q.LeadsTo Disk.scene outside settings s root x →
    q.LeadsTo Disk.scene outside' settings s' root y →
    ((ExceptT.run (q.run (Copying.from outside' settings) settings)).run s').1 =
    ((ExceptT.run (q.run (Copying.from outside settings) settings)).run s).1

/-- What is below vendored directories has no say. -/
theorem vendored_has_no_say {x y : Scene} (h : AgreeOutside vendorNames x y) : Unswayed x y := by
  have hdetect : ∀ root size, y.detect root size = x.detect root size := by
    intro root size
    rw [Scene.detect, Scene.detect, h.walked_eq (List.Subset.refl _)]
  have hcatalog : ∀ (s : Search) (ignored : List String) (seenFrom : Option Path) (root : Path),
      vendorNames ⊆ ignored →
        y.catalog s ignored seenFrom root = x.catalog s ignored seenFrom root := by
    intro s ignored seenFrom root hsub
    rw [Scene.catalog, Scene.catalog, h.walked_eq hsub]
  have hruns : ∀ (look look' : Disk → Path → Scene) (outside outside' : Remote.Outside)
      (settings : Settings) (q : Inquiry) (s s' : Session) (root : Path),
      vendorNames ⊆ q.ignored → q.LeadsTo look outside settings s root x →
      q.LeadsTo look' outside' settings s' root y →
      ((ExceptT.run (q.perform ((Copying.from outside' settings).steps
        (Reading.through look' settings)))).run s').1 =
      ((ExceptT.run (q.perform ((Copying.from outside settings).steps
        (Reading.through look settings)))).run s).1 := by
    intro look look' outside outside' settings q s s' root hsub hx hy
    rw [Inquiry.perform_ending hx, Inquiry.perform_ending hy]
    simp only [Inquiry.surveyed, Inquiry.settled, Scene.detectProfile, hdetect,
      hcatalog _ _ _ _ hsub]
  refine ⟨hdetect, hcatalog, ?_, hruns, ?_⟩
  · rintro d d' root size rfl rfl
    rw [Disk.detect_eq, Disk.detect_eq, hdetect]
  · intro outside outside' settings q s s' root hsub hx hy
    rw [Inquiry.run, Inquiry.run, Reading.standard_eq]
    exact hruns Disk.scene Disk.scene outside outside' settings q s s' root hsub hx hy

/-- A manifest that depends on some package. -/
def manifestOf (package : String) : Content :=
  .ok (("\x7b\"dependencies\": \x7b\"" ++ package ++ "\": \"1\"\x7d\x7d").toList.map
    fun c => c.toNat.toUInt8)

/-- A package whose vendored directory cannot be listed. -/
def lockedShop : Scene :=
  .directory [("node_modules", .closed "Permission denied"),
    ("package.json", .file (manifestOf "express"))]

/-- The package with vendored files, one of which cannot be read. -/
def openShop : Scene :=
  .directory [("package.json", .file (manifestOf "express")), ("node_modules", .directory
    [("koa.js", .file (.error "Permission denied")), ("package.json", .file (manifestOf "koa"))])]

/-- The directory of the package is a stage, and the only one. -/
theorem walked_lockedShop : lockedShop.walked vendorNames ⟨.relative, ["shop"]⟩ =
    [.listed ⟨.relative, ["shop"]⟩ [("package.json", manifestOf "express")]] := by
  have hnames : "node_modules" ∈ vendorNames ∧ "package.json" ∉ vendorNames := by decide
  have hfiles : [("node_modules", Scene.closed "Permission denied"),
      ("package.json", .file (manifestOf "express"))].filterMap Scene.content? =
        [("package.json", manifestOf "express")] := rfl
  rw [Scene.walked, lockedShop, Scene.stages_directory, hfiles]
  simp [Visit.sortByName, Scene.stages, hnames]

theorem agreeOutside_shops : AgreeOutside vendorNames lockedShop openShop := by
  refine ⟨?_, ?_, ?_⟩
  · refine .directory (by decide) ?_
    simp only [List.mem_cons, List.not_mem_nil, or_false, forall_eq_or_imp, forall_eq]
    exact ⟨.closed _, .file _⟩
  · refine .directory (by decide) ?_
    simp only [List.mem_cons, List.not_mem_nil, or_false, forall_eq_or_imp, forall_eq]
    refine ⟨.file _, .directory (by decide) ?_⟩
    simp only [List.mem_cons, List.not_mem_nil, or_false, forall_eq_or_imp, forall_eq]
    exact ⟨.file _, .file _⟩
  · have hlocked : Scene.outsideBelow vendorNames [("node_modules", .closed "Permission denied"),
        ("package.json", .file (manifestOf "express"))] =
          [("package.json", .file (manifestOf "express"))] := rfl
    have hopen : Scene.outsideBelow vendorNames [("package.json", .file (manifestOf "express")),
        ("node_modules", .directory [("koa.js", .file (.error "Permission denied")),
          ("package.json", .file (manifestOf "koa"))])] =
          [("package.json", .file (manifestOf "express"))] := rfl
    rw [lockedShop, openShop, Scene.outside, Scene.outside, hlocked, hopen]

/-- A shop is detected by its own manifest, and the vendored files change nothing in a run that
leaves it to detection. -/
theorem vendored_has_no_say_shop :
    (openShop.detect ⟨.relative, ["shop"]⟩ 200).start.1.map Detection.framework =
      .ok (some "express") ∧
    Unswayed lockedShop openShop ∧
    ∀ (outside : Remote.Outside) (settings : Settings) (s : Session),
      let q : Inquiry :=
        { locator := "shop", framework := "auto", object := "app", ignored := vendorNames }
      ((ExceptT.run (q.perform ((Copying.from outside settings).steps
        (Reading.through (fun _ _ => openShop) settings)))).run s).1 =
      ((ExceptT.run (q.perform ((Copying.from outside settings).steps
        (Reading.through (fun _ _ => lockedShop) settings)))).run s).1 := by
  have hunswayed := vendored_has_no_say agreeOutside_shops
  refine ⟨?_, hunswayed, ?_⟩
  · rw [hunswayed.detect, Scene.detect, walked_lockedShop]
    decide +kernel
  · intro outside settings s q
    have hlocal : Remote.isRemote q.locator = false := by decide +kernel
    have hpath : Path.ofString q.locator = ⟨.relative, ["shop"]⟩ := by decide +kernel
    have hroot : s.disk.expandHome (Path.ofString q.locator) = .ok ⟨.relative, ["shop"]⟩ := by
      rw [hpath]
      rfl
    exact hunswayed.runs _ _ outside outside settings q s s _ (List.Subset.refl _)
      (.here hlocal hroot) (.here hlocal hroot)

end EndpointCatalog
