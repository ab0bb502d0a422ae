/-
EndpointCatalog.Proofs.Safety.Assignment — arrow functions and assignments
are sound.

What becomes parameters is changed after it was read: it is read again as a
pattern, and a default `yield` becomes a name. Both keep nodes sound.
-/
import EndpointCatalog.Proofs.Safety.Operator

namespace EndpointCatalog.Estree

variable {depth : Nat}

theorem sound_arrowFunction {params : List Tree} {body : Tree}
    (hparams : ∀ t ∈ params, Sound depth t) (hbody : Sound depth body)
    (isExpression isAsync : Bool) :
    Sound depth (arrowFunction params body isExpression isAsync) :=
  sound_node (by decide) (by simpa [hbody] using hparams)

/-! ## Names of parameters -/

/-- Takes the names of a pattern, or of the patterns in a list, into account. -/
def addValueNames (strict inProperties : Bool) (p : Parameters) : Tree → Parameters
  | .list items =>
    if inProperties then addPropertyNames strict p items else addItemNames strict p items
  | other => addPatternNames strict p other

theorem addNamesUnder_cons (strict : Bool) (key : String) (inProperties : Bool) (p : Parameters)
    (k : Text) (t : Tree) (rest : Entries) :
    addNamesUnder strict key inProperties p ((k, t) :: rest) =
      if k = Text.ofString key then addValueNames strict inProperties p t
      else addNamesUnder strict key inProperties p rest := by
  rw [addNamesUnder.eq_def]
  cases t <;> rfl

mutual

theorem params_addPatternNames (strict : Bool) : ∀ (t : Tree) (p : Parameters),
    (addPatternNames strict p t).params = p.params
  | .map entries, p => by
    rw [addPatternNames]
    dsimp only
    split
    · exact Parameters.params_addName _ _ _ _
    · show Parameters.params _ = p.params
      split
      · exact params_addNamesUnder strict "argument" false entries p
      split
      · exact params_addNamesUnder strict "left" false entries p
      split
      · exact params_addNamesUnder strict "elements" false entries p
      split
      · exact params_addNamesUnder strict "properties" true entries p
      · rfl
  | .null, _ => rfl
  | .bool _, _ => rfl
  | .int _, _ => rfl
  | .float _, _ => rfl
  | .text _, _ => rfl
  | .list _, _ => rfl
  | .regex _ _ _, _ => rfl

theorem params_addValueNames (strict inProperties : Bool) : ∀ (t : Tree) (p : Parameters),
    (addValueNames strict inProperties p t).params = p.params
  | .list items, p => by
    rw [addValueNames]
    split
    · exact params_addPropertyNames strict items p
    · exact params_addItemNames strict items p
  | .map entries, p => params_addPatternNames strict (.map entries) p
  | .null, _ => rfl
  | .bool _, _ => rfl
  | .int _, _ => rfl
  | .float _, _ => rfl
  | .text _, _ => rfl
  | .regex _ _ _, _ => rfl

theorem params_addNamesUnder (strict : Bool) (key : String) (inProperties : Bool) :
    ∀ (entries : List (Text × Tree)) (p : Parameters),
      (addNamesUnder strict key inProperties p entries).params = p.params
  | [], _ => rfl
  | (k, t) :: rest, p => by
    rw [addNamesUnder_cons]
    split
    · exact params_addValueNames strict inProperties t p
    · exact params_addNamesUnder strict key inProperties rest p

theorem params_addItemNames (strict : Bool) : ∀ (items : List Tree) (p : Parameters),
    (addItemNames strict p items).params = p.params
  | [], _ => rfl
  | t :: rest, p => by
    rw [addItemNames, params_addItemNames strict rest, params_addPatternNames strict t]

theorem params_addPropertyNames (strict : Bool) : ∀ (items : List Tree) (p : Parameters),
    (addPropertyNames strict p items).params = p.params
  | [], _ => rfl
  | first :: rest, p => by
    have hrest := params_addPropertyNames strict rest
    cases first with
    | map entries =>
      rw [addPropertyNames]
      dsimp only
      rw [hrest]
      split
      · exact params_addNamesUnder strict "argument" false entries p
      · exact params_addNamesUnder strict "value" false entries p
    | _ => exact hrest p

end

namespace Gives

variable {g : Grammar}

/-! ## Arrow functions -/

theorem withYieldName {param : Tree} (h : Sound depth param) :
    Gives (Sound depth) (withYieldName param) := by
  unfold Estree.withYieldName
  refine ite (ite (skip fun _ => failAt _) ?_) (pure h)
  split
  · rename_i entries outer hright
    extract_lets kept renamed
    have hargument : Sound depth (.map entries) := hright ▸ h.get "right"
    have hkept : ∀ e ∈ withKind "Identifier" kept, SoundEntry depth e := by
      intro e he
      rcases Entries.mem_of_mem_insert he with rfl | he
      · exact ⟨by simp, sound_ofString _⟩
      · exact hargument.entries e (List.mem_of_mem_filter he)
    have hrenamed : Sound depth (.map renamed) := by
      have htype : Entries.get? (Text.ofString "type") renamed = some (.ofString "Identifier") := by
        rw [Entries.get?_append, withKind, Entries.get?_insert, if_pos rfl, Option.some_or]
      have hname : (Entries.get? (Text.ofString "name") renamed).isSome := by
        rw [Entries.get?_append, Option.isSome_or]
        exact Bool.or_eq_true_iff.mpr (.inr rfl)
      refine sound_map_of_kind htype (by decide) (fun _ => hname) fun e he => ?_
      rcases List.mem_append.mp he with he | he
      · exact hkept e he
      · obtain ⟨f, hf, rfl⟩ := mem_attributes he
        rw [List.mem_singleton.mp hf]
        exact ⟨by simp, sound_ofString _⟩
    refine pure (h.change (fun e he => ?_) ?_ fun key hkey => ?_)
    · rcases Entries.mem_of_mem_insert he with rfl | he
      · exact ⟨by simp, hrenamed⟩
      · exact h.entries e he
    · show ((Entries.get? _ _).getD Tree.null).isBranch = _
      rw [Entries.get?_insert, if_neg fun heq => ?_]
      · rfl
      · exact absurd (Text.ofString_injective heq) (by decide)
    · rw [Entries.get?_insert, if_neg fun heq => ?_]
      rw [← Text.ofString_injective heq] at hkey
      exact absurd hkey (by decide)
  · exact pure h

theorem checkArrowParameter (isAsync : Bool) {param : Tree} (hparam : Sound depth param)
    (p : Parameters) (hp : SoundParameters depth p) :
    Gives (SoundParameters depth) (checkArrowParameter isAsync p param) := by
  unfold Estree.checkArrowParameter
  refine bind (withYieldName hparam) fun checked hchecked => ?_
  extract_lets add
  have hadd (r : Unit) : Gives (SoundParameters depth) (add r) := by
    refine skip fun c => pure ?_
    show ∀ t ∈ _ ++ [checked], Sound depth t
    rw [params_addPatternNames]
    exact forall_mem_append_singleton hp hchecked
  exact ite (skip fun token => skip hadd) (hadd ())

theorem arrowParametersOf {e : Tree} (he : Sound depth e) :
    Gives (fun found => ∀ p ∈ found, SoundParameters depth p) (arrowParametersOf e) := by
  unfold Estree.arrowParametersOf
  extract_lets isAsync params?
  have hparams : ∀ params ∈ params?, ∀ t ∈ params, Sound depth t := by
    intro params hmem
    unfold params? at hmem
    split at hmem
    · cases hmem
      exact List.forall_mem_singleton.mpr he
    split at hmem
    · cases hmem
      exact (he.get "params").items
    · cases hmem
  clear_value params?
  cases params? with
  | none => exact pure fun p hp => nomatch hp
  | some params =>
    refine bind (Q := SoundParameters depth) (foldlM (fun t ht p hp =>
      checkArrowParameter isAsync (hparams params rfl t ht) p hp) (List.forall_mem_nil _))
      fun p hp => skip fun c => ?_
    extract_lets accepted checked
    have haccepted (r : Unit) :
        Gives (fun found => ∀ p ∈ found, SoundParameters depth p) (accepted r) :=
      pure fun q hq => by cases hq; exact hp
    have hchecked (r : Unit) :
        Gives (fun found => ∀ p ∈ found, SoundParameters depth p) (checked r) :=
      ite (skip haccepted) (haccepted ())
    exact ite (ite (skip fun token => skip hchecked) (hchecked ())) (hchecked ())

theorem arrowBody (hg : g.GivesSound depth) : Gives (Sound depth) (arrowBody g) := by
  unfold Estree.arrowBody
  exact skip fun _ => ite (skip fun outer => skip fun _ => bind (functionBody hg) fun body hbody =>
    skip fun _ => pure hbody) (isolated hg.assignment)

theorem arrowRest (hg : g.GivesSound depth) (token : Token) (isAsync : Bool) {p : Parameters}
    (hp : SoundParameters depth p) : Gives (Sound depth) (arrowRest g token isAsync p) := by
  unfold Estree.arrowRest
  refine skip fun _ => skip fun _ => skip fun _ => skip fun outer => skip fun _ => skip fun _ =>
    bind (arrowBody hg) fun body hbody => skip fun c => ?_
  extract_lets strict isExpression rest
  have hrest (r : Unit) : Gives (Sound depth) (rest r) :=
    skip fun _ => bind (finishFrom (sound_arrowFunction hp hbody _ isAsync) token) fun e he =>
      skip fun _ => pure he
  split
  · exact ite (skip hrest) (hrest ())
  · exact hrest ()

/-! ## Assignments -/

theorem yieldExpression (hg : g.GivesSound depth) : Gives (Sound depth) (yieldExpression g) := by
  unfold Estree.yieldExpression
  refine skip fun start => skip fun _ => skip fun s => ite ?bare (skip fun outer => skip fun _ =>
    skip fun delegate => skip fun next => ?argument)
  case bare => exact finish (sound_node (by decide) (by simp)) start
  case argument =>
    extract_lets rest
    have hrest (argument : Tree) (h : Sound depth argument) : Gives (Sound depth) (rest argument) :=
      skip fun _ => finish (sound_node (by decide) (by simp [h])) start
    exact ite (bind hg.assignment hrest) (bind (pure sound_null) hrest)

theorem assignmentRest (hg : g.GivesSound depth) (token : Token) {target : Tree}
    (htarget : Sound depth target) : Gives (Sound depth) (assignmentRest g token target) := by
  unfold Estree.assignmentRest
  refine skip fun _ => ite ?_ (pure htarget)
  refine skip fun c => skip fun _ => skip fun _ => skip fun _ => skip fun isPlain => ?_
  extract_lets left rest
  have hrest (r : Unit) : Gives (Sound depth) (rest r) := by
    have hleft : Sound depth left := by
      unfold left
      split
      · exact htarget.toPattern
      · exact htarget
    refine skip fun operator => bind (isolated hg.assignment) fun right hright => ?_
    exact bind (Q := Sound depth) (finishFrom (sound_node (by decide) (by simp [hleft, hright]))
      token) fun e he => skip fun _ => pure he
  exact ite (skip hrest) (hrest ())

theorem asyncParameter (hg : g.GivesSound depth) (token : Token) {e : Tree}
    (he : Sound (depth + 1) e) : Gives (Sound (depth + 1)) (asyncParameter g token e) := by
  unfold Estree.asyncParameter
  refine skip fun next => ite (bind (primary hg) fun param hparam => ?_) (pure he)
  exact pure (sound_arrowParameters (List.forall_mem_singleton.mpr hparam.toPattern) true)

theorem assignment (hg : g.GivesSound depth) : Gives (Sound (depth + 1)) (assignment g) := by
  unfold Estree.assignment
  refine skip fun c => skip fun _ => ite (yieldExpression hg).succ (skip fun token =>
    bind (conditional hg) fun first hfirst => bind (asyncParameter hg token hfirst) fun e he =>
      skip fun _ => ite (skip fun _ => ?_) (assignmentRest hg.succ token he))
  refine bind (arrowParametersOf he) fun found hfound => ?_
  cases found with
  | some p => exact arrowRest hg.succ token _ (hfound p rfl)
  | none => exact pure he

end Gives

end EndpointCatalog.Estree
