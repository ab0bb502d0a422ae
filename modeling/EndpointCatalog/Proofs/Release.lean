/-
EndpointCatalog.Proofs.Release — what a run does with its copies.

`performed` tells the course of every run from the steps that are written
down: which copies are handed over and released and when, and whose error is
the run's. It holds for all steps, however they end and whatever they do to
the state.
-/
import EndpointCatalog.Proofs.Observation

namespace EndpointCatalog

variable {σ ε α β : Type}

/-! ## Reading a source tree -/

/-- Steps that read one source tree, and the ending that they lead to. -/
structure ReadsTree (root : Path) (ending : Except ε α) (taken : List (Step ε)) : Prop where
  /-- The error of the step that fails, if one does, is the ending. -/
  failures_eq : taken.flatMap Step.failures = failures ending
  read_eq : ∀ step ∈ taken, step.read = [root]

namespace ReadsTree

variable {root : Path}

theorem nil (a : α) : ReadsTree root (.ok a : Except ε α) [] :=
  ⟨rfl, by intro step h; cases h⟩

theorem singleton {step : Step ε} {ending : Except ε α} (hf : step.failures = failures ending)
    (hr : step.read = [root]) : ReadsTree root ending [step] := by
  constructor
  · rw [List.flatMap_cons, List.flatMap_nil, List.append_nil, hf]
  · intro other h
    rw [List.mem_singleton.1 h]
    exact hr

theorem append {a : α} {ending : Except ε β} {first rest : List (Step ε)}
    (h : ReadsTree root (.ok a : Except ε α) first) (hrest : ReadsTree root ending rest) :
    ReadsTree root ending (first ++ rest) := by
  constructor
  · rw [List.flatMap_append, h.failures_eq, hrest.failures_eq]
    rfl
  · intro step hs
    cases List.mem_append.1 hs with
    | inl hs => exact h.read_eq step hs
    | inr hs => exact hrest.read_eq step hs

theorem error {e : ε} {taken : List (Step ε)} (h : ReadsTree root (.error e : Except ε α) taken) :
    ReadsTree root (.error e : Except ε β) taken := ⟨h.failures_eq, h.read_eq⟩

/-- What reads a tree does not copy anything. -/
theorem copies_eq_nil {ending : Except ε α} {taken : List (Step ε)}
    (h : ReadsTree root ending taken) :
    taken.flatMap Step.asked = [] ∧ taken.flatMap Step.handed = [] ∧
      taken.flatMap Step.released = [] := by
  simp only [List.flatMap_eq_nil_iff]
  refine ⟨?_, ?_, ?_⟩ <;>
  · intro step hs
    have hread := h.read_eq step hs
    cases step <;> first | rfl | cases hread

/-- An action that only reads a tree, followed by another one. -/
theorem observes_bind {x : ExceptT ε (StateM (σ × List (Step ε))) α}
    {y : ExceptT ε (StateM σ) α} {f : α → ExceptT ε (StateM (σ × List (Step ε))) β}
    {g : α → ExceptT ε (StateM σ) β} (hx : Observes x y (ReadsTree root))
    (hf : ∀ a, Observes (f a) (g a) (ReadsTree root)) :
    Observes (x >>= f) (y >>= g) (ReadsTree root) :=
  hx.bind hf (fun _ _ _ _ h hrest => h.append hrest) fun _ _ h => h.error

end ReadsTree

namespace Inquiry

/-- A survey reads the tree that it is a survey of. -/
theorem observes_survey (steps : Steps σ ε) (q : Inquiry) (profile : Option Profile)
    (copy : Option Remote.Checkout) (root : Path) :
    Observes (survey steps.observed q profile copy root) (survey steps q profile copy root)
      (ReadsTree root) := by
  unfold survey
  refine ReadsTree.observes_bind ?_ ?_
  · unfold settle
    cases profile with
    | some p => exact Observes.pure (ReadsTree.nil _)
    | none => exact Observes.observe fun ending => ReadsTree.singleton rfl rfl
  · intro found
    refine ReadsTree.observes_bind ?_ ?_
    · exact Observes.observe fun ending => ReadsTree.singleton rfl rfl
    · intro endpoints
      refine ReadsTree.observes_bind ?_ ?_
      · exact Observes.note (ReadsTree.nil _)
      · intro _
        exact Observes.pure (ReadsTree.nil _)

/-- The framework is to be detected, or there is a profile of its name. -/
def NamesProfile (q : Inquiry) : Prop :=
  Profile.normalName q.framework = automatic ∨ (Profile.find? q.framework).isSome = true

instance (q : Inquiry) : Decidable q.NamesProfile := inferInstanceAs (Decidable (_ ∨ _))

theorem profile?_ok_iff (q : Inquiry) : (∃ profile, q.profile? = .ok profile) ↔ q.NamesProfile := by
  unfold profile? profileNamed NamesProfile
  by_cases hauto : Profile.normalName q.framework = automatic
  · simp [hauto]
  · cases Profile.find? q.framework <;> simp [hauto, Except.map]

theorem profile?_eq_error {q : Inquiry} {e : Failure} (h : q.profile? = .error e) :
    ¬ q.NamesProfile ∧
      e = .discovery (.unknownFramework (some q.framework) Profile.names) := by
  constructor
  · rw [← profile?_ok_iff]
    rintro ⟨profile, hok⟩
    rw [h] at hok
    cases hok
  · unfold profile? profileNamed at h
    by_cases hauto : Profile.normalName q.framework = automatic
    · rw [if_pos hauto] at h
      cases h
    · rw [if_neg hauto] at h
      cases hfind : Profile.find? q.framework with
      | some p =>
        rw [hfind] at h
        cases h
      | none =>
        rw [hfind] at h
        cases h
        rfl

/-! ## The course of a run -/

/-- An ending after a release: an error of the release takes its place. -/
def afterRelease (ending : Except ε α) : Except ε Unit → Except ε α
  | .ok _ => ending
  | .error e => .error e

/-- The courses that a run can take, with its ending and its steps. -/
inductive Course (ofFailure : Failure → ε) (q : Inquiry) :
    Except ε Discovery → List (Step ε) → Prop where
  /-- There is no such profile. -/
  | refused {e : Failure} : q.profile? = .error e → Course ofFailure q (.error (ofFailure e)) []
  /-- The source is remote and cannot be copied. -/
  | notCopied {e : ε} : q.NamesProfile → Remote.isRemote q.locator = true →
      Course ofFailure q (.error e) [.acquire q.locator q.token (.error e)]
  /-- The source is remote and has been copied. -/
  | copied {copy : Remote.Checkout} {ending : Except ε Discovery} {reads : List (Step ε)}
      {last : Except ε Unit} : q.NamesProfile → Remote.isRemote q.locator = true →
      ReadsTree copy.root ending reads →
      Course ofFailure q (afterRelease ending last)
        (.acquire q.locator q.token (.ok copy) :: reads ++ [.release copy last])
  /-- The source is local, below a home directory that is not known. -/
  | homeless {e : ε} : q.NamesProfile → Remote.isRemote q.locator = false →
      Course ofFailure q (.error e) [.expandHome (Path.ofString q.locator) (.error e)]
  /-- The source is local. -/
  | inPlace {root : Path} {ending : Except ε Discovery} {reads : List (Step ε)} :
      q.NamesProfile → Remote.isRemote q.locator = false → ReadsTree root ending reads →
      Course ofFailure q ending (.expandHome (Path.ofString q.locator) (.ok root) :: reads)

/-- Every run takes one of these courses. -/
theorem observes_perform (steps : Steps σ ε) (q : Inquiry) :
    Observes (q.perform steps.observed) (q.perform steps) (Course steps.ofFailure q) := by
  unfold perform
  refine Observes.bind (P := fun ending taken => ending = .ok () ∧ taken = [])
    (Q := fun _ => Course steps.ofFailure q) (Observes.note ⟨rfl, rfl⟩) ?_ ?_ ?_
  · intro _
    cases hp : q.profile? with
    | error e => exact Observes.throw (.refused hp)
    | ok profile =>
      have hnames : q.NamesProfile := (profile?_ok_iff q).1 ⟨profile, hp⟩
      cases hremote : Remote.isRemote q.locator with
      | false =>
        refine Observes.bind
          (P := fun ending taken => taken = [.expandHome (Path.ofString q.locator) ending])
          (Observes.observe fun _ => rfl) (fun root => observes_survey steps q profile none root)
          ?_ ?_
        · rintro root ending _ reads rfl hreads
          exact .inPlace hnames hremote hreads
        · rintro e _ rfl
          exact .homeless hnames hremote
      | true =>
        refine Observes.bind
          (P := fun ending taken => taken = [.acquire q.locator q.token ending])
          (Q := fun copy ending taken => ∃ inner reads last, ReadsTree copy.root inner reads ∧
            ending = afterRelease inner last ∧ taken = reads ++ [.release copy last])
          (Observes.observe fun _ => rfl) (fun copy => ?_) ?_ ?_
        · refine Observes.thenAlways (Q := fun last taken => taken = [.release copy last])
            (observes_survey steps q profile (some copy) copy.root) (Observes.observe fun _ => rfl)
            ?_ ?_
          · rintro inner reads _ hreads rfl
            exact ⟨inner, reads, .ok (), hreads, rfl, rfl⟩
          · rintro inner reads e _ hreads rfl
            exact ⟨inner, reads, .error e, hreads, rfl, rfl⟩
        · rintro copy ending _ rest rfl ⟨inner, reads, last, hreads, rfl, rfl⟩
          exact .copied hnames hremote hreads
        · rintro e _ rfl
          exact .notCopied hnames hremote
  · rintro _ ending _ rest ⟨-, rfl⟩ hrest
    exact hrest
  · rintro e taken ⟨h, -⟩
    cases h

/-! ## What every run does -/

/-- What a run does with copies, told by its ending and by the steps that it takes. -/
structure Performed (ofFailure : Failure → ε) (q : Inquiry) (ending : Except ε Discovery)
    (taken : List (Step ε)) : Prop where
  /-- A remote source is copied once, provided that there is a profile. Nothing else is copied. -/
  asked_eq : taken.flatMap Step.asked =
    if q.NamesProfile ∧ Remote.isRemote q.locator = true then [(q.locator, q.token)] else []
  /-- There is at most one copy for what is asked for. -/
  length_handed_le : (taken.flatMap Step.handed).length ≤ (taken.flatMap Step.asked).length
  /-- A local source is neither copied nor is anything released. -/
  local_eq : Remote.isRemote q.locator = false →
    taken.flatMap Step.asked = [] ∧ taken.flatMap Step.released = []
  /-- The copies that are handed over are those that are released, each once. -/
  released_eq : taken.flatMap Step.released = taken.flatMap Step.handed
  /-- No step follows a release, least of all one that reads the copy. -/
  release_last : ∀ before copy last after,
    taken = before ++ .release copy last :: after → after = []
  /-- Without a profile the run takes no step at all. -/
  unknown : ¬ q.NamesProfile →
    ending = .error (ofFailure (.discovery (.unknownFramework (some q.framework) Profile.names))) ∧
      taken = []
  /-- At most one step fails, unless a release fails too; its error is the run's error, and the run
  fails in no other way. -/
  failures_eq : q.NamesProfile →
    (∀ step ∈ taken, step.released ≠ [] → step.failures = []) →
      taken.flatMap Step.failures = failures ending

/-- If no step but the last one is a release, then nothing stands behind a release. -/
theorem eq_nil_of_release {init before after : List (Step ε)} {final : Step ε}
    {copy : Remote.Checkout} {last : Except ε Unit} (hinit : init.flatMap Step.released = [])
    (htaken : init ++ [final] = before ++ .release copy last :: after) : after = [] := by
  rcases List.eq_nil_or_concat after with rfl | ⟨others, other, rfl⟩
  · rfl
  · rw [List.concat_eq_append, ← List.cons_append, ← List.append_assoc] at htaken
    have hmem : Step.release copy last ∈ init := by
      rw [(List.append_inj' htaken rfl).1]
      exact List.mem_append_right _ List.mem_cons_self
    have hnot := List.flatMap_eq_nil_iff.1 hinit _ hmem
    cases hnot

theorem not_mem_of_released_eq_nil {taken : List (Step ε)}
    (h : taken.flatMap Step.released = []) (copy : Remote.Checkout) (last : Except ε Unit) :
    Step.release copy last ∉ taken := by
  intro hmem
  cases List.flatMap_eq_nil_iff.1 h _ hmem

namespace Course

variable {ofFailure : Failure → ε} {q : Inquiry} {ending : Except ε Discovery}
  {taken : List (Step ε)}

theorem asked_eq (h : Course ofFailure q ending taken) : taken.flatMap Step.asked =
    if q.NamesProfile ∧ Remote.isRemote q.locator = true then [(q.locator, q.token)] else [] := by
  cases h with
  | refused h => rw [if_neg fun hn => (profile?_eq_error h).1 hn.1, List.flatMap_nil]
  | notCopied hnames hremote => rw [if_pos ⟨hnames, hremote⟩]; rfl
  | copied hnames hremote hreads =>
    rw [if_pos ⟨hnames, hremote⟩, List.cons_append, List.flatMap_cons, List.flatMap_append,
      hreads.copies_eq_nil.1]
    rfl
  | homeless hnames hremote =>
    rw [hremote, if_neg fun hn => Bool.false_ne_true hn.2]
    rfl
  | inPlace hnames hremote hreads =>
    rw [hremote, if_neg fun hn => Bool.false_ne_true hn.2, List.flatMap_cons,
      hreads.copies_eq_nil.1]
    rfl

theorem released_eq (h : Course ofFailure q ending taken) :
    taken.flatMap Step.released = taken.flatMap Step.handed ∧
      (taken.flatMap Step.handed).length ≤ (taken.flatMap Step.asked).length := by
  cases h with
  | refused => exact ⟨rfl, Nat.le_refl _⟩
  | notCopied => exact ⟨rfl, Nat.zero_le _⟩
  | homeless => exact ⟨rfl, Nat.le_refl _⟩
  | copied _ _ hreads =>
    obtain ⟨hasked, hhanded, hreleased⟩ := hreads.copies_eq_nil
    simp only [List.cons_append, List.flatMap_cons, List.flatMap_append, hasked, hhanded,
      hreleased]
    exact ⟨rfl, Nat.le_refl _⟩
  | inPlace _ _ hreads =>
    obtain ⟨hasked, hhanded, hreleased⟩ := hreads.copies_eq_nil
    simp only [List.flatMap_cons, hasked, hhanded, hreleased]
    exact ⟨rfl, Nat.le_refl _⟩

theorem local_eq (h : Course ofFailure q ending taken)
    (hlocal : Remote.isRemote q.locator = false) :
    taken.flatMap Step.asked = [] ∧ taken.flatMap Step.released = [] := by
  have hasked : taken.flatMap Step.asked = [] := by
    rw [h.asked_eq, hlocal, if_neg fun hn => Bool.false_ne_true hn.2]
  refine ⟨hasked, ?_⟩
  obtain ⟨hreleased, hlength⟩ := h.released_eq
  rw [hasked] at hlength
  rw [hreleased]
  exact List.eq_nil_of_length_eq_zero (Nat.le_zero.1 hlength)

theorem release_last (h : Course ofFailure q ending taken) (before : List (Step ε))
    (copy : Remote.Checkout) (last : Except ε Unit) (after : List (Step ε))
    (htaken : taken = before ++ .release copy last :: after) : after = [] := by
  have hmem : Step.release copy last ∈ taken := by
    rw [htaken]
    exact List.mem_append_right _ List.mem_cons_self
  cases h with
  | refused => cases hmem
  | notCopied => exact absurd hmem (not_mem_of_released_eq_nil rfl copy last)
  | homeless => exact absurd hmem (not_mem_of_released_eq_nil rfl copy last)
  | @copied handed _ reads _ _ _ hreads =>
    have hinit :
        (Step.acquire q.locator q.token (.ok handed) :: reads).flatMap Step.released = [] :=
      hreads.copies_eq_nil.2.2
    exact eq_nil_of_release hinit htaken
  | @inPlace root _ reads _ _ hreads =>
    have hnone : (Step.expandHome (Path.ofString q.locator) (.ok root) :: reads).flatMap
        Step.released = [] := hreads.copies_eq_nil.2.2
    exact absurd hmem (not_mem_of_released_eq_nil hnone copy last)

theorem unknown (h : Course ofFailure q ending taken) (hnames : ¬ q.NamesProfile) :
    ending = .error (ofFailure (.discovery (.unknownFramework (some q.framework) Profile.names))) ∧
      taken = [] := by
  cases h with
  | refused h => rw [(profile?_eq_error h).2]; exact ⟨rfl, rfl⟩
  | notCopied h => exact absurd h hnames
  | copied h => exact absurd h hnames
  | homeless h => exact absurd h hnames
  | inPlace h => exact absurd h hnames

theorem failures_eq (h : Course ofFailure q ending taken) (hnames : q.NamesProfile)
    (hlast : ∀ step ∈ taken, step.released ≠ [] → step.failures = []) :
    taken.flatMap Step.failures = failures ending := by
  cases h with
  | refused h => exact absurd hnames (profile?_eq_error h).1
  | notCopied => rfl
  | homeless => rfl
  | @copied copy inner reads last _ _ hreads =>
    have hnone : (Step.release copy last).failures = [] :=
      hlast _ (List.mem_append_right _ (List.mem_singleton.2 rfl)) (List.cons_ne_nil _ _)
    rw [List.cons_append, List.flatMap_cons, List.flatMap_append, hreads.failures_eq,
      List.flatMap_cons, List.flatMap_nil, hnone, List.append_nil, List.append_nil]
    cases last with
    | ok => rfl
    | error e => cases hnone
  | inPlace _ _ hreads =>
    rw [List.flatMap_cons, hreads.failures_eq]
    rfl

theorem performed (h : Course ofFailure q ending taken) : Performed ofFailure q ending taken where
  asked_eq := h.asked_eq
  length_handed_le := h.released_eq.2
  local_eq := h.local_eq
  released_eq := h.released_eq.1
  release_last := h.release_last
  unknown := h.unknown
  failures_eq := h.failures_eq

end Course

end Inquiry

end EndpointCatalog
