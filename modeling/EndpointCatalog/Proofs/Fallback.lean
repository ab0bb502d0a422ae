/-
EndpointCatalog.Proofs.Fallback — the profile of a run that leaves it to
detection.

If a source tree shows no sign of a framework, the standard profile stands in. A
user may name it in the settings, and the same name is what an inquiry asks for if
it asks for nothing else; there `auto` is a name, but there is no profile of it.

* `FailsOnly`: which failures an action may end in. Copying a source and making a
  catalog never end in an unknown framework.
* `Inquiry.run_cases`: a run comes to its sources, or fails in another way before.
* `Inquiry.Chooses`: the profile that stands for the signs of a source tree.
* `Inquiry.automatic_run`: a run that leaves the framework to detection ends in an
  unknown framework if and only if the standard name is `auto` and its sources show
  no sign of a framework; else it ends as a run for the profile that is chosen.

An empty directory is such a source tree (`automatic_default_is_unknown`).
-/
import EndpointCatalog.Proofs.Detection

namespace EndpointCatalog

/-! ## Failures of actions -/

section Failures

variable {σ ε α β : Type}

/-- All failures of an action have a property. -/
def FailsOnly (P : ε → Prop) (x : ExceptT ε (StateM σ) α) : Prop :=
  ∀ s e, ((ExceptT.run x).run s).1 = .error e → P e

namespace FailsOnly

variable {P : ε → Prop}

theorem pure (a : α) : FailsOnly P (pure a : ExceptT ε (StateM σ) α) := by
  intro s e h
  cases h

theorem throw {e : ε} (h : P e) : FailsOnly P (throw e : ExceptT ε (StateM σ) α) := by
  intro s e' he
  cases he
  exact h

theorem modify (f : σ → σ) : FailsOnly P (modify f : ExceptT ε (StateM σ) PUnit) := by
  intro s e h
  cases h

theorem get : FailsOnly P (get : ExceptT ε (StateM σ) σ) := by
  intro s e h
  cases h

theorem set (s : σ) : FailsOnly P (set s : ExceptT ε (StateM σ) PUnit) := by
  intro _ e h
  cases h

theorem bind {x : ExceptT ε (StateM σ) α} {f : α → ExceptT ε (StateM σ) β} (hx : FailsOnly P x)
    (hf : ∀ a, FailsOnly P (f a)) : FailsOnly P (x >>= f) := by
  intro s e he
  rcases run_bind_error_iff.1 he with he | ⟨a, next, -, he⟩
  · exact hx s e he
  · exact hf a next e he

theorem onFailure {x : ExceptT ε (StateM σ) α} {undo : ExceptT ε (StateM σ) Unit}
    (hx : FailsOnly P x) (hundo : FailsOnly P undo) : FailsOnly P (Acting.onFailure x undo) := by
  intro s e he
  rw [Remote.run_onFailure] at he
  cases hrun : (ExceptT.run x).run s with
  | mk ending next =>
    rw [hrun] at he
    cases ending with
    | ok a => cases he
    | error e' =>
      simp only at he
      cases hlast : (ExceptT.run undo).run next with
      | mk last after =>
        rw [hlast] at he
        cases last with
        | ok _ =>
          cases he
          exact hx s _ (by rw [hrun])
        | error _ =>
          cases he
          exact hundo next _ (by rw [hlast])

end FailsOnly

end Failures

/-! ## Copies -/

/-- A failure that is not about the name of a framework. -/
def Failure.IsOther (e : Failure) : Prop :=
  ∀ name known, e ≠ .discovery (.unknownFramework name known)

namespace Remote

theorem isOther_fetchFailure (message : String) : (fetchFailure message).IsOther := by
  rintro _ _ ⟨⟩

theorem failsOnly_disk : FailsOnly Failure.IsOther Acting.disk := by
  intro s e h
  cases h

theorem failsOnly_onDisk (change : Disk → Except FileError Disk) :
    FailsOnly Failure.IsOther (Acting.onDisk change) := by
  refine failsOnly_disk.bind fun d => ?_
  split
  · exact .modify _
  · exact .throw (by rintro _ _ ⟨⟩)

theorem failsOnly_placeCopy (destination : Path) (copy : Option FileNode) :
    FailsOnly Failure.IsOther (placeCopy destination copy) := by
  cases copy with
  | none => exact .pure ()
  | some node =>
    refine failsOnly_disk.bind fun d => ?_
    split
    · exact .throw (by rintro _ _ ⟨⟩)
    · exact .modify _

theorem failsOnly_clone (outside : Outside) (settings : Settings) (url : String)
    (token : Option String) (destination : Path) :
    FailsOnly Failure.IsOther (clone outside settings url token destination) := by
  unfold clone
  refine (FailsOnly.modify _).bind fun _ => ?_
  split
  · exact .throw (isOther_fetchFailure _)
  · exact .throw (isOther_fetchFailure _)
  · refine (failsOnly_placeCopy _ _).bind fun _ => ?_
    split
    · exact .pure _
    · exact .throw (isOther_fetchFailure _)

theorem isOther_obstacleError (title : String) (obstacle : Archive.Obstacle) :
    (obstacleError title obstacle).IsOther := by
  cases obstacle <;> rintro _ _ ⟨⟩

theorem failsOnly_unpackArchive (title : String) (body : List UInt8) (destination : Path) :
    FailsOnly Failure.IsOther (unpackArchive title body destination) := by
  unfold unpackArchive
  split
  · exact .throw (isOther_fetchFailure _)
  · exact .throw (by rintro _ _ ⟨⟩)
  · refine failsOnly_disk.bind fun d => ?_
    split
    · exact .modify _
    · exact (FailsOnly.modify _).bind fun _ => .throw (isOther_obstacleError _ _)

theorem failsOnly_download (outside : Outside) (settings : Settings)
    (repository : GithubRepository) (token : String) (destination : Path) :
    FailsOnly Failure.IsOther (download outside settings repository token destination) := by
  unfold download
  refine (FailsOnly.modify _).bind fun _ => ?_
  split
  · exact .throw (isOther_fetchFailure _)
  · split
    · exact .throw (isOther_fetchFailure _)
    · exact (failsOnly_unpackArchive _ _ _).bind fun _ => failsOnly_disk.bind fun _ => .pure _

theorem failsOnly_fetchInto (outside : Outside) (settings : Settings) (locator : String)
    (token : Option String) (workdir : Path) :
    FailsOnly Failure.IsOther (fetchInto outside settings locator token workdir) := by
  unfold fetchInto
  split
  · exact failsOnly_clone _ _ _ _ _
  · split
    · exact .throw (by rintro _ _ ⟨⟩)
    · exact failsOnly_clone _ _ _ _ _
    · exact failsOnly_download _ _ _ _ _

theorem failsOnly_removeQuietly (path : Path) : FailsOnly Failure.IsOther (removeQuietly path) := by
  refine failsOnly_disk.bind fun d => ?_
  split
  · exact .modify _
  · exact .pure ()

theorem failsOnly_makeTemporary : FailsOnly Failure.IsOther makeTemporary :=
  FailsOnly.get.bind fun _ => (FailsOnly.set _).bind fun _ =>
    (failsOnly_onDisk _).bind fun _ => .pure _

/-- A copy that cannot be made is no matter of frameworks. -/
theorem failsOnly_acquire (outside : Outside) (settings : Settings) (locator : String)
    (token : Option String) : FailsOnly Failure.IsOther (acquire outside settings locator token) :=
  failsOnly_makeTemporary.bind fun workdir => (FailsOnly.modify _).bind fun _ =>
    ((failsOnly_fetchInto _ _ _ _ _).onFailure (failsOnly_removeQuietly workdir)).bind
      fun _ => .pure _

end Remote

/-! ## Catalogs -/

theorem isOther_of_sourceLabel {seenFrom : Option Path} {p : Path} {e : Failure}
    (h : sourceLabel seenFrom p = .error e) : e.IsOther := by
  unfold sourceLabel at h
  split at h
  · cases h
  · split at h
    · cases h
    · cases h
      rintro _ _ ⟨⟩

theorem Meeting.Fails.isOther {s : Search} {seenFrom : Option Path} {m : Meeting} {e : Failure}
    (h : m.Fails s seenFrom e) : e.IsOther := by
  cases h with
  | outside hlabel => exact isOther_of_sourceLabel hlabel
  | _ => rintro _ _ ⟨⟩

/-- No catalog ends in an unknown framework. -/
theorem Scene.isOther_of_catalog {s : Search} {ignored : List String} {seenFrom : Option Path}
    {root : Path} {scene : Scene} {e : Failure}
    (h : (scene.catalog s ignored seenFrom root).start.1 = .error e) : e.IsOther := by
  rw [catalog, Stage.catalog, Logged.start, run_bind_error_iff] at h
  rcases h with h | ⟨_, _, -, h⟩
  · obtain ⟨_, _, _, -, -, hfails⟩ := Meeting.allRecords_error_iff.1 h
    exact hfails.isOther
  · cases h

/-! ## Detection -/

namespace Stage

theorem mem_of_mapM_id_error {finds : List (Except DiscoveryError Content)} {e : DiscoveryError}
    (h : finds.mapM id = .error e) : .error e ∈ finds := by
  induction finds with
  | nil => cases h
  | cons first rest ih =>
    rw [List.mapM_cons] at h
    cases first with
    | error reason =>
      cases h
      exact List.mem_cons_self
    | ok content =>
      cases hrest : rest.mapM id with
      | error reason =>
        rw [hrest] at h
        cases h
        exact List.mem_cons_of_mem _ (ih hrest)
      | ok others =>
        rw [hrest] at h
        cases h

/-- A sample fails with the failure of one of its finds. -/
theorem mem_of_sample_error {size : Nat} {finds : List (Except DiscoveryError Content)}
    {e : DiscoveryError} (h : sample size finds = .error e) : .error e ∈ finds := by
  rw [sample] at h
  cases hread : (finds.take (size + 1)).mapM id with
  | ok contents =>
    rw [hread] at h
    cases h
  | error reason =>
    rw [hread] at h
    cases h
    exact List.mem_of_mem_take (mem_of_mapM_id_error hread)

theorem isOther_of_mem_finds {stage : Stage} {e : DiscoveryError} (h : .error e ∈ stage.finds) :
    (Failure.discovery e).IsOther := by
  cases stage with
  | listed p files => simp [finds] at h
  | closed spelled reason =>
    obtain rfl : e = .fileSystem spelled reason := by simpa [finds] using h
    rintro _ _ ⟨⟩

end Stage

namespace Scene

variable {settings : Settings} {root : Path} {size : Nat} {scene : Scene} {signs : List Sign}

/-- Signs that cannot be looked for are no matter of frameworks either. -/
theorem isOther_of_signs {e : DiscoveryError} (h : scene.signs root size = .error e) :
    (Failure.discovery e).IsOther := by
  rw [Scene.signs] at h
  cases hsearched : scene.searched root size with
  | ok contents =>
    rw [hsearched] at h
    cases h
  | error reason =>
    rw [hsearched] at h
    cases h
    obtain ⟨stage, -, hfind⟩ := List.mem_flatMap.1 (Stage.mem_of_sample_error hsearched)
    exact Stage.isOther_of_mem_finds hfind

/-- The profile of a source tree is that of the framework which is detected by its signs, or else
the standard one. -/
theorem detectProfile_start (settings : Settings) (root : Path) (scene : Scene) :
    (scene.detectProfile settings root).start.1 =
      ((scene.signs root Inquiry.sampleSize).mapError Failure.discovery).bind fun signs =>
        let found := Detection.ofScore (Score.addAll [] signs)
        (Inquiry.profileNamed (found.framework.getD settings.defaultFramework)).map
          (·, found.confidence) := by
  have hdetect := detect_start root Inquiry.sampleSize scene
  rw [detectProfile, Logged.start, run_bind]
  rw [Logged.start] at hdetect
  revert hdetect
  obtain ⟨ending, next⟩ := (ExceptT.run (scene.detect root Inquiry.sampleSize)).run []
  rintro rfl
  cases scene.signs root Inquiry.sampleSize with
  | error e => rfl
  | ok signs =>
    simp only [Except.mapError, Except.map, Except.bind]
    cases (Detection.ofScore (Score.addAll [] signs)).framework with
    | none =>
      simp only [Option.getD_none]
      cases Inquiry.profileNamed settings.defaultFramework <;> rfl
    | some name =>
      simp only [Option.getD_some]
      cases Inquiry.profileNamed name <;> rfl

end Scene

namespace Inquiry

/-- The profile that stands for some signs: the one of the framework that leads, or the standard
one if there are none. -/
inductive Chooses (settings : Settings) (signs : List Sign) : Profile → Prop where
  | leading {p : Profile} : p ∈ Profile.all → Score.Leads signs p.name → Chooses settings signs p
  | standard {p : Profile} : signs = [] → Profile.find? settings.defaultFramework = some p →
      Chooses settings signs p

/-- A name for which an inquiry may ask: `auto`, or the name of a profile. -/
def Accepts (name : String) : Prop :=
  Profile.normalName name = automatic ∨ (Profile.find? name).isSome

theorem accepts_iff {q : Inquiry} : Accepts q.framework ↔ ∃ profile, q.profile? = .ok profile := by
  unfold Accepts profile? profileNamed
  by_cases hname : Profile.normalName q.framework = automatic
  · simp [hname]
  · cases Profile.find? q.framework <;> simp [hname, Except.map]

theorem find?_name : ∀ p ∈ Profile.all, Profile.find? p.name = some p := by decide +kernel

/-- There is no profile of the name `auto`. -/
theorem find?_of_automatic {name : String} (h : Profile.normalName name = automatic) :
    Profile.find? name = none := by
  rw [Profile.find?, h]
  decide

theorem profile?_of_find? {q : Inquiry} {p : Profile}
    (h : Profile.find? q.framework = some p) : q.profile? = .ok (some p) := by
  have hname : Profile.normalName q.framework ≠ automatic := by
    intro hautomatic
    rw [find?_of_automatic hautomatic] at h
    cases h
  rw [profile?, if_neg hname, profileNamed, h]
  rfl

theorem find?_eq_none_iff {name : String} (h : Accepts name) :
    Profile.find? name = none ↔ Profile.normalName name = automatic := by
  refine ⟨fun hnone => h.resolve_right ?_, find?_of_automatic⟩
  rw [hnone]
  exact Bool.false_ne_true

/-- Each sign is one of a profile in the list, which its name finds. -/
theorem exists_profile_of_isWeighted {sign : Sign} (h : sign.IsWeighted) :
    ∃ p ∈ Profile.all, p.name = sign.1 ∧ Profile.find? sign.1 = some p := by
  have hlisted : ∃ p ∈ Profile.all, p.name = sign.1 := by
    rcases h with ⟨haxios, -⟩ | ⟨hserver, -⟩
    · exact ⟨Profile.axios, by decide, haxios.symm⟩
    · obtain ⟨p, hp, hname⟩ := List.mem_map.1 hserver
      exact ⟨p, (List.mem_filter.1 hp).1, hname⟩
  obtain ⟨p, hp, hname⟩ := hlisted
  exact ⟨p, hp, hname, hname ▸ find?_name p hp⟩

variable {outside : Remote.Outside} {settings : Settings} {q : Inquiry} {s : Session}
  {isCopied : Bool} {root : Path} {scene : Scene} {signs : List Sign} {p : Profile}

theorem Chooses.mem_all (h : Chooses settings signs p) : p ∈ Profile.all := by
  cases h with
  | leading hlisted _ => exact hlisted
  | standard _ hstandard => exact List.mem_of_find?_eq_some hstandard

theorem not_chooses_nil (hnone : Profile.find? settings.defaultFramework = none) :
    ¬ Chooses settings [] p := by
  rintro (⟨-, hleads⟩ | ⟨-, hstandard⟩)
  · exact List.not_mem_nil hleads.1
  · rw [hnone] at hstandard
    cases hstandard

/-- Signs settle a profile, unless there are none and the standard one does not exist. -/
theorem settled_of_signs (settings : Settings) (h : scene.signs root sampleSize = .ok signs) :
    (∃ p confidence, Chooses settings signs p ∧
      settled settings none root scene = .ok (p, confidence)) ∨
    signs = [] ∧ Profile.find? settings.defaultFramework = none ∧
      settled settings none root scene =
        .error (.discovery (.unknownFramework (some settings.defaultFramework) Profile.names)) := by
  have hsettled := Scene.detectProfile_start settings root scene
  rw [h] at hsettled
  simp only [Except.mapError, Except.bind] at hsettled
  rw [settled, hsettled]
  cases hframework : (Detection.ofScore (Score.addAll [] signs)).framework with
  | some framework =>
    have hleads := Detection.framework_eq_some_iff.1 hframework
    obtain ⟨sign, hsign, rfl⟩ := Score.mem_scored.1 hleads.1
    obtain ⟨p, hp, hname, hfind⟩ :=
      exists_profile_of_isWeighted (Scene.isWeighted_of_mem_signs h hsign)
    refine .inl ⟨p, (Detection.ofScore (Score.addAll [] signs)).confidence,
      .leading hp (hname ▸ hleads), ?_⟩
    rw [Option.getD_some, profileNamed, hfind]
    rfl
  | none =>
    have hsigns := Detection.framework_eq_none_iff.1 hframework
    rw [Option.getD_none, profileNamed]
    cases hfind : Profile.find? settings.defaultFramework with
    | some p => exact .inl ⟨p, _, .standard hsigns hfind, rfl⟩
    | none => exact .inr ⟨hsigns, rfl, rfl⟩

/-- The ending of a survey with another confidence. -/
def withConfidence (confidence : Binary64) (ending : Except Failure Discovery) :
    Except Failure Discovery :=
  ending.map fun found => { found with confidence := confidence }

/-- A survey under a settled profile ends as one that is given the profile, apart from the
confidence in it. -/
theorem surveyed_of_settled {confidence : Binary64}
    (h : settled settings none root scene = .ok (p, confidence)) :
    surveyed settings q none isCopied root scene =
      withConfidence confidence (surveyed settings q (some p) isCopied root scene) := by
  rw [surveyed, h, surveyed, settled, withConfidence]
  simp only [Except.bind]
  cases (scene.catalog ⟨p, Text.ofString q.object⟩ q.ignored (if isCopied then some root else none)
    root).start.1 <;> rfl

theorem isOther_of_surveyed_some {e : Failure}
    (h : surveyed settings q (some p) isCopied root scene = .error e) : e.IsOther := by
  rw [surveyed, settled] at h
  simp only [Except.bind] at h
  cases hcatalog : (scene.catalog ⟨p, Text.ofString q.object⟩ q.ignored
      (if isCopied then some root else none) root).start.1 with
  | ok endpoints =>
    rw [hcatalog] at h
    cases h
  | error e' =>
    rw [hcatalog] at h
    cases h
    exact Scene.isOther_of_catalog hcatalog

/-- A survey that leaves the framework to detection ends in an unknown one exactly if nothing is a
sign of any, and the standard one does not exist. -/
theorem surveyed_none_iff {name : Option String} {known : List String} :
    surveyed settings q none isCopied root scene =
        .error (.discovery (.unknownFramework name known)) ↔
      (name = some settings.defaultFramework ∧ known = Profile.names) ∧
        Profile.find? settings.defaultFramework = none ∧
        scene.signs root sampleSize = .ok [] := by
  cases hsigns : scene.signs root sampleSize with
  | error e =>
    have hsettled := Scene.detectProfile_start settings root scene
    rw [hsigns] at hsettled
    rw [surveyed, settled, hsettled]
    constructor
    · intro h
      cases h
      exact absurd rfl (Scene.isOther_of_signs hsigns name known)
    · rintro ⟨-, -, h⟩
      cases h
  | ok signs =>
    rcases settled_of_signs settings hsigns with
      ⟨p, confidence, hchooses, hsettled⟩ | ⟨rfl, hnone, hsettled⟩
    · rw [surveyed_of_settled hsettled]
      constructor
      · intro h
        cases hgiven : surveyed settings q (some p) isCopied root scene with
        | ok found =>
          rw [hgiven] at h
          cases h
        | error e =>
          rw [hgiven] at h
          cases h
          exact absurd rfl (isOther_of_surveyed_some hgiven name known)
      · rintro ⟨-, hnone, h⟩
        cases h
        exact absurd hchooses (not_chooses_nil hnone)
    · rw [surveyed, hsettled]
      constructor
      · intro h
        cases h
        exact ⟨⟨rfl, rfl⟩, hnone, rfl⟩
      · rintro ⟨⟨hname, hknown⟩, -, -⟩
        rw [hname, hknown]
        rfl

/-! ## Runs -/

/-- How a run ends. -/
def ending (outside : Remote.Outside) (settings : Settings) (q : Inquiry) (s : Session) :
    Except Failure Discovery :=
  ((ExceptT.run (q.run (Copying.from outside settings) settings)).run s).1

theorem ending_of_leadsTo (h : q.LeadsTo Disk.scene outside settings s root scene) :
    ending outside settings q s = q.profile?.bind fun profile =>
      surveyed settings q profile (Remote.isRemote q.locator) root scene := by
  rw [ending, run, Reading.standard_eq]
  exact perform_ending h

theorem isOther_of_expandHome {d : Disk} {place : Path} {e : Failure}
    (h : d.expandHome place = .error e) : e.IsOther := by
  unfold Disk.expandHome at h
  split at h
  · split at h
    · split at h
      · cases h
      · cases h
        rintro _ _ ⟨⟩
    · cases h
  · cases h

/-- A run comes to the sources of its inquiry, or fails before, if it asks for a name that is
accepted. -/
theorem run_cases (outside : Remote.Outside) (settings : Settings) (s : Session)
    (hname : Accepts q.framework) :
    (∃ root scene, q.LeadsTo Disk.scene outside settings s root scene) ∨
    ∃ e, ending outside settings q s = .error e ∧ e.IsOther := by
  obtain ⟨profile, hprofile⟩ := accepts_iff.1 hname
  have hbegun : (ExceptT.run (modify (((Copying.from outside settings).steps
      (Reading.standard settings)).note ⟨.info, "Discovering APIs in " ++ q.locator⟩) :
        Acting PUnit)).run s = (.ok ⟨⟩, q.begun s) := rfl
  rw [ending, run, perform, run_bind, hbegun]
  simp only [hprofile]
  cases hremote : Remote.isRemote q.locator with
  | true =>
    cases hacquire : (ExceptT.run (Remote.acquire outside settings q.locator q.token)).run
        (q.begun s) with
    | mk acquired next =>
      cases acquired with
      | ok copy => exact .inl ⟨_, _, .copied hremote hacquire⟩
      | error e =>
        refine .inr ⟨e, ?_, Remote.failsOnly_acquire outside settings q.locator q.token _ e
          (by rw [hacquire])⟩
        have hrun : (ExceptT.run (((Copying.from outside settings).steps
            (Reading.standard settings)).acquire q.locator q.token)).run (q.begun s) =
              (.error e, next) := hacquire
        simp only [if_true, run_bind, hrun]
  | false =>
    cases hexpand : s.disk.expandHome (Path.ofString q.locator) with
    | ok root => exact .inl ⟨_, _, .here hremote hexpand⟩
    | error e =>
      refine .inr ⟨e, ?_, isOther_of_expandHome hexpand⟩
      have hrun : (ExceptT.run (((Copying.from outside settings).steps
          (Reading.standard settings)).expandHome (Path.ofString q.locator))).run (q.begun s) =
            (.error e, q.begun s) := by
        show (ExceptT.run (liftM (s.disk.expandHome (Path.ofString q.locator)) : Acting Path)).run
          (q.begun s) = _
        rw [hexpand]
        rfl
      simp only [Bool.false_eq_true, if_false, run_bind, hrun]

/-- Where an inquiry leads does not depend on the framework for which it asks. -/
theorem LeadsTo.withFramework {look : Disk → Path → Scene}
    (h : q.LeadsTo look outside settings s root scene) (framework : String) :
    { q with framework := framework }.LeadsTo look outside settings s root scene := by
  cases h with
  | here hlocal hroot => exact .here hlocal hroot
  | copied hremote hacquire => exact .copied hremote hacquire

/-- A run that leaves the framework to detection, with a standard name for which it could ask.

It ends in an unknown framework if and only if this name is `auto` and nothing in its sources is a
sign of a framework. Wherever else it finds out which signs there are, it goes on with a profile of
the list, and ends as a run that asks for the name of this profile, apart from the confidence. -/
theorem automatic_run (outside : Remote.Outside) (settings : Settings) (q : Inquiry) (s : Session)
    (hq : Profile.normalName q.framework = automatic)
    (hstandard : Accepts settings.defaultFramework) :
    (∀ name known, ending outside settings q s = .error (.discovery (.unknownFramework name known)) ↔
      (name = some settings.defaultFramework ∧ known = Profile.names) ∧
      Profile.normalName settings.defaultFramework = automatic ∧
      ∃ root scene, q.LeadsTo Disk.scene outside settings s root scene ∧
        scene.signs root sampleSize = .ok []) ∧
    ∀ root scene signs, q.LeadsTo Disk.scene outside settings s root scene →
      scene.signs root sampleSize = .ok signs →
      signs ≠ [] ∨ Profile.normalName settings.defaultFramework ≠ automatic →
      ∃ p ∈ Profile.all, Chooses settings signs p ∧ ∃ confidence,
        ending outside settings q s = withConfidence confidence
          (ending outside settings { q with framework := p.name } s) := by
  have hsurvey : ∀ root scene, q.LeadsTo Disk.scene outside settings s root scene →
      ending outside settings q s =
        surveyed settings q none (Remote.isRemote q.locator) root scene := by
    intro root scene hleads
    rw [ending_of_leadsTo hleads, profile?, if_pos hq]
    rfl
  refine ⟨fun name known => ⟨fun hunknown => ?_, ?_⟩, fun root scene signs hleads hsigns hgiven => ?_⟩
  · rcases run_cases outside settings s (.inl hq) with ⟨root, scene, hleads⟩ | ⟨e, he, hother⟩
    · rw [hsurvey root scene hleads] at hunknown
      obtain ⟨hnames, hnone, hsigns⟩ := surveyed_none_iff.1 hunknown
      exact ⟨hnames, (find?_eq_none_iff hstandard).1 hnone, root, scene, hleads, hsigns⟩
    · rw [he] at hunknown
      exact absurd (Except.error.inj hunknown) (hother name known)
  · rintro ⟨hnames, hautomatic, root, scene, hleads, hsigns⟩
    rw [hsurvey root scene hleads]
    exact surveyed_none_iff.2 ⟨hnames, find?_of_automatic hautomatic, hsigns⟩
  · rcases settled_of_signs settings hsigns with
      ⟨p, confidence, hchooses, hsettled⟩ | ⟨hnone, hfind, -⟩
    · have hasked : { q with framework := p.name }.profile? = .ok (some p) :=
        profile?_of_find? (find?_name p hchooses.mem_all)
      refine ⟨p, hchooses.mem_all, hchooses, confidence, ?_⟩
      rw [hsurvey root scene hleads, surveyed_of_settled hsettled,
        ending_of_leadsTo (hleads.withFramework p.name), hasked]
      rfl
    · rcases hgiven with hsome | hstays
      · exact absurd hnone hsome
      · exact absurd ((find?_eq_none_iff hstandard).1 hfind) hstays

/-! ### Runs in an empty directory -/

/-- A world without programs and without pages. -/
def nothingOutside : Remote.Outside where
  clone _ := .noProgram
  fetch _ _ := .failed "no route"

/-- A session in an empty directory. -/
def emptySession : Session := { disk := { root := .directory [] } }

/-- An inquiry into the current directory. -/
def hereInquiry (framework : String) : Inquiry :=
  { locator := ".", framework := framework, object := "app" }

/-- In an empty directory, there is no sign of a framework. -/
theorem leadsTo_emptySession (settings : Settings) (framework : String) :
    (hereInquiry framework).LeadsTo Disk.scene nothingOutside settings emptySession
        ⟨.relative, []⟩ (Scene.shopOf []) ∧
      (Scene.shopOf []).signs ⟨.relative, []⟩ sampleSize = .ok [] := by
  have hlocal : Remote.isRemote "." = false := by decide +kernel
  have hpath : Path.ofString "." = ⟨.relative, []⟩ := by decide +kernel
  have hroot : emptySession.disk.expandHome (Path.ofString "." ) = .ok ⟨.relative, []⟩ := by
    rw [hpath]
    rfl
  have hscene : emptySession.disk.scene ⟨.relative, []⟩ = Scene.shopOf [] := by
    have hplace : emptySession.disk.find ⟨.relative, []⟩ = .ok (.directory []) := by
      rw [Disk.find, Disk.place, Disk.follow]
      rfl
    rw [Disk.scene, Disk.list, hplace]
    rfl
  refine ⟨hscene ▸ .here hlocal hroot, ?_⟩
  exact Scene.signs_shopOf _ _ List.Pairwise.nil fun _ h => absurd h List.not_mem_nil

/-- With ` KOA ` as the standard name, a run for ` Auto ` in an empty directory ends as one for
`koa`, apart from the confidence. -/
theorem automatic_run_empty :
    let settings : Settings := { defaultFramework := " KOA " }
    (∀ name known, ending nothingOutside settings (hereInquiry " Auto ") emptySession ≠
        .error (.discovery (.unknownFramework name known))) ∧
      ∃ confidence, ending nothingOutside settings (hereInquiry " Auto ") emptySession =
        withConfidence confidence
          (ending nothingOutside settings (hereInquiry "koa") emptySession) := by
  intro settings
  have hname : Profile.normalName " Auto " = automatic := by decide +kernel
  have hfind : Profile.find? " KOA " = some .koa := by decide +kernel
  have hstays : Profile.normalName " KOA " ≠ automatic := by decide +kernel
  obtain ⟨hleads, hsigns⟩ := leadsTo_emptySession settings " Auto "
  obtain ⟨hunknown, hchosen⟩ := automatic_run nothingOutside settings (hereInquiry " Auto ")
    emptySession hname (.inr (by rw [hfind]; rfl))
  refine ⟨fun name known h => hstays ((hunknown name known).1 h).2.1, ?_⟩
  obtain ⟨p, -, hchooses, confidence, hending⟩ := hchosen _ _ _ hleads hsigns (.inr hstays)
  obtain rfl : p = .koa := by
    cases hchooses with
    | leading _ hleads => exact absurd hleads.1 List.not_mem_nil
    | standard _ hstandard => exact (Option.some.inj (hfind.symm.trans hstandard)).symm
  exact ⟨confidence, hending⟩

/-- With `auto` as the standard name, it ends in an unknown framework. -/
theorem automatic_default_is_unknown :
    let settings : Settings := { defaultFramework := "auto" }
    Accepts settings.defaultFramework ∧
      ending nothingOutside settings (hereInquiry "auto") emptySession =
        .error (.discovery (.unknownFramework (some "auto") Profile.names)) := by
  intro settings
  have hname : Profile.normalName "auto" = automatic := by decide +kernel
  have hprofile : (hereInquiry "auto").profile? = .ok none := if_pos hname
  obtain ⟨hleads, hsigns⟩ := leadsTo_emptySession settings "auto"
  refine ⟨.inl hname, ?_⟩
  rw [ending_of_leadsTo hleads, hprofile]
  exact surveyed_none_iff.2 ⟨⟨rfl, rfl⟩, find?_of_automatic hname, hsigns⟩

end Inquiry

end EndpointCatalog
