/-
EndpointCatalog.Proofs.Safety.Binding — names, patterns, functions and
classes are sound.

All parts of such a node are read one level deeper, or are of no kind that
has parts of its own. So they are nested no deeper than what the grammar
gives.
-/
import EndpointCatalog.Proofs.Safety.Reader

namespace EndpointCatalog.Estree

/-- All readers that are called in circles give sound trees. -/
structure Grammar.GivesSound (depth : Nat) (g : Grammar) : Prop where
  assignment : Gives (Sound depth) g.assignment
  unary : Gives (Sound depth) g.unary
  exponentiation : Gives (Sound depth) g.exponentiation
  member : Gives (Sound depth) g.member
  call : Gives (Sound depth) g.call
  pattern : ∀ declaring, Gives (fun found => Sound depth found.1) (g.pattern declaring)
  listItem : Gives (Sound depth) g.listItem
  statement : Gives (Sound depth) g.statement

theorem Grammar.GivesSound.succ {depth : Nat} {g : Grammar} (hg : g.GivesSound depth) :
    g.GivesSound (depth + 1) where
  assignment := hg.assignment.succ
  unary := hg.unary.succ
  exponentiation := hg.exponentiation.succ
  member := hg.member.succ
  call := hg.call.succ
  pattern declaring := (hg.pattern declaring).mono fun _ h => h.succ
  listItem := hg.listItem.succ
  statement := hg.statement.succ

/-! ## Nodes of several readers -/

theorem sound_property {depth : Nat} {key value : Tree} (hkey : Sound depth key)
    (hvalue : Sound depth value) {kind : String} {computed method shorthand : Bool} :
    Sound depth (property kind key computed value method shorthand) :=
  sound_node (by decide) (by simp [hkey, hvalue])

theorem sound_rest {depth : Nat} {target : Tree} (h : Sound depth target) :
    Sound depth (node "RestElement" [("argument", target)]) :=
  sound_node (by decide) (by simp [h])

namespace Gives

variable {depth : Nat} {g : Grammar}

/-! ## Names and keys -/

theorem itemsAfterCommas {first : Tree} {item : P Tree} (hfirst : Sound depth first)
    (hitem : Gives (Sound depth) item) :
    Gives (fun items => ∀ t ∈ items, Sound depth t) (itemsAfterCommas first item) := by
  unfold Estree.itemsAfterCommas
  refine bind (Q := fun found => ∀ t ∈ found, Sound depth t) ?_ fun found hfound =>
    pure (by simpa using hfound)
  refine repeating (I := fun found => ∀ t ∈ found, Sound depth t) (by simpa using hfirst)
    fun found hfound => skip fun _ => ite ?_ (pure hfound)
  exact bind hitem fun x hx => pure (List.forall_mem_cons.mpr ⟨hx, hfound⟩)

theorem expression (hg : g.GivesSound depth) : Gives (Sound depth) (expression g) := by
  unfold Estree.expression
  refine skip fun token => bind (isolated hg.assignment) fun first hfirst => skip fun _ => ite ?_ ?_
  · refine bind (itemsAfterCommas hfirst (isolated hg.assignment)) fun all hall => ?_
    exact finishFrom (sound_node (by decide) (by simpa using hall)) token
  · exact pure hfirst

theorem identifierName : Gives (Sound depth) identifierName := by
  unfold Estree.identifierName
  refine skip fun start => skip fun t => ?_
  split
  · exact finish (sound_identifier _) start
  · exact failAt t

theorem variableName (declaring : Declaring) : Gives (Sound depth) (variableName declaring) := by
  unfold Estree.variableName
  refine skip fun start => skip fun t => skip fun c => ?_
  extract_lets found
  have hfound (r : Unit) : Gives (Sound depth) (found r) := finish (sound_identifier _) start
  refine ite ?yield (ite ?keyword ?name)
  case yield => exact ite (skip hfound) (ite (skip hfound) (hfound ()))
  case keyword => exact ite (skip hfound) (ite (skip hfound) (hfound ()))
  case name => exact ite (skip hfound) (hfound ())

theorem propertyKey (hg : g.GivesSound depth) : Gives (Sound depth) (propertyKey g) := by
  unfold Estree.propertyKey
  refine skip fun start => skip fun t => ?_
  split
  · exact skip fun _ => skip fun _ => finish (sound_literal rfl _) start
  · exact skip fun _ => skip fun _ => finish (sound_literal (isBranch_ofLiteral _) _) start
  · exact bind (isolated hg.assignment) fun key hkey => skip fun _ => pure hkey
  · split
    · exact finish (sound_identifier _) start
    · exact failAt t

/-! ## Patterns -/

theorem patternWithDefault (hg : g.GivesSound depth) (declaring : Declaring) :
    Gives (fun found => Sound depth found.1) (patternWithDefault g declaring) := by
  unfold Estree.patternWithDefault
  refine skip fun token => bindPair (hg.pattern declaring) fun target names htarget =>
    skip fun _ => ite ?_ (pure htarget)
  refine skip fun outer => skip fun _ => bind (isolated hg.assignment) fun right hright =>
    skip fun _ => ?_
  exact finishPair (sound_node (by decide) (by simp [htarget, hright])) _ _

theorem bindingRest (hg : g.GivesSound depth) (declaring : Declaring) :
    Gives (fun found => Sound depth found.1) (bindingRest g declaring) := by
  unfold Estree.bindingRest
  refine skip fun start => skip fun _ => bindPair (hg.pattern declaring)
    fun target names htarget => ?_
  exact finishPair (sound_rest htarget) _ _

/-- All trees found so far are sound. -/
def SoundBound (depth : Nat) (found : Bound) : Prop := ∀ t ∈ found.1, Sound depth t

theorem arrayPatternStep (hg : g.GivesSound depth) (declaring : Declaring) (found : Bound)
    (hfound : SoundBound depth found) :
    Gives (Sum.elim (SoundBound depth) (SoundBound depth))
      (arrayPatternStep g declaring found) := by
  unfold Estree.arrayPatternStep
  refine skip fun _ => ite (pure hfound) (skip fun _ => ite ?hole (skip fun _ =>
    ite ?rest ?element))
  case hole => exact pure (List.forall_mem_cons.mpr ⟨sound_null, hfound⟩)
  case rest =>
    exact bindPair (bindingRest hg declaring) fun element more helement =>
      pure (List.forall_mem_cons.mpr ⟨helement, hfound⟩)
  case element =>
    refine bindPair (patternWithDefault hg declaring) fun element more helement => skip fun _ => ?_
    have hmore : ∀ t ∈ element :: found.1, Sound depth t :=
      List.forall_mem_cons.mpr ⟨helement, hfound⟩
    exact ite (skip fun _ => pure hmore) (pure hmore)

theorem arrayPattern (hg : g.GivesSound depth) (declaring : Declaring) :
    Gives (fun found => Sound depth found.1) (arrayPattern g declaring) := by
  unfold Estree.arrayPattern
  refine skip fun start => skip fun _ => bindPair (Q := fun items => ∀ t ∈ items, Sound depth t) ?_
    fun elements names helements => skip fun _ => ?_
  · exact repeating (fun t ht => nomatch ht) (arrayPatternStep hg declaring)
  · exact finishPair (sound_node (by decide) (by simpa using helements)) _ _

theorem namedPropertyPattern (hg : g.GivesSound depth) (declaring : Declaring) (start : Place) :
    Gives (fun found => Sound depth found.1) (namedPropertyPattern g declaring start) := by
  unfold Estree.namedPropertyPattern
  refine skip fun token => bind (Q := Sound depth) (variableName _) fun key hkey =>
    bind (Q := Sound depth) (finish (sound_identifier _) start) fun bound hbound => skip fun _ =>
      ite ?initialized (skip fun _ => ite ?renamed ?plain)
  case initialized =>
    refine bind hg.assignment fun right hright => ?_
    refine bind (Q := Sound depth)
      (finishFrom (sound_node (by decide) (by simp [hbound, hright])) token) fun value hvalue => ?_
    exact finishPair (sound_property hkey hvalue) _ _
  case renamed =>
    refine skip fun _ => bindPair (patternWithDefault hg declaring) fun value names hvalue => ?_
    exact finishPair (sound_property hkey hvalue) _ _
  case plain => exact finishPair (sound_property hkey hbound) _ _

theorem propertyPattern (hg : g.GivesSound depth) (declaring : Declaring) :
    Gives (fun found => Sound depth found.1) (propertyPattern g declaring) := by
  unfold Estree.propertyPattern
  refine skip fun start => skip fun _ => ite (namedPropertyPattern hg declaring start) ?_
  refine skip fun computed => bind (propertyKey hg) fun key hkey => skip fun _ =>
    bindPair (patternWithDefault hg declaring) fun value names hvalue => ?_
  exact finishPair (sound_property hkey hvalue) _ _

theorem restProperty (hg : g.GivesSound depth) :
    Gives (fun found => Sound depth found.1) (restProperty g) := by
  unfold Estree.restProperty
  refine skip fun start => skip fun _ => bindPair (hg.pattern _)
    fun target names htarget => skip fun _ => ?_
  have hend := finishPair (sound_rest htarget) start names
  exact ite (skip fun _ => skip fun _ => ite (skip fun _ => hend) hend)
    (skip fun _ => ite (skip fun _ => hend) hend)

theorem objectPatternStep (hg : g.GivesSound depth) (declaring : Declaring) (found : Bound)
    (hfound : SoundBound depth found) :
    Gives (Sum.elim (SoundBound depth) (SoundBound depth))
      (objectPatternStep g declaring found) := by
  unfold Estree.objectPatternStep
  refine skip fun _ => ite (pure hfound) (skip fun isRest => ?_)
  extract_lets add
  have hadd (property : Tree × List Token) (hproperty : Sound depth property.1) :
      Gives (Sum.elim (SoundBound depth) (SoundBound depth)) (add property) := by
    have hmore : ∀ t ∈ property.1 :: found.1, Sound depth t :=
      List.forall_mem_cons.mpr ⟨hproperty, hfound⟩
    exact skip fun _ => ite (skip fun _ => pure hmore) (pure hmore)
  exact ite (bind (restProperty hg) hadd) (bind (propertyPattern hg declaring) hadd)

theorem objectPattern (hg : g.GivesSound depth) (declaring : Declaring) :
    Gives (fun found => Sound depth found.1) (objectPattern g declaring) := by
  unfold Estree.objectPattern
  refine skip fun start => skip fun _ => bindPair (Q := fun items => ∀ t ∈ items, Sound depth t) ?_
    fun properties names hproperties => skip fun _ => ?_
  · exact repeating (fun t ht => nomatch ht) (objectPatternStep hg declaring)
  · exact finishPair (sound_node (by decide) (by simpa using hproperties)) _ _

theorem pattern (hg : g.GivesSound depth) (declaring : Declaring) :
    Gives (fun found => Sound depth found.1) (pattern g declaring) := by
  unfold Estree.pattern
  refine skip fun _ => ite (arrayPattern hg declaring)
    (skip fun _ => ite (objectPattern hg declaring) ?_)
  exact skip fun token => skip fun _ => bind (Q := Sound depth) (variableName declaring)
    fun name hname => pure hname

end Gives

end EndpointCatalog.Estree
