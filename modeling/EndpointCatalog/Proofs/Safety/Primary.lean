/-
EndpointCatalog.Proofs.Safety.Primary — expressions that need no operator
are sound.

Arrays and objects are where literals nest: their parts come from the
grammar, and they may be nested one level deeper.
-/
import EndpointCatalog.Estree.Parser.Primary
import EndpointCatalog.Proofs.Safety.Function

namespace EndpointCatalog.Estree

variable {depth : Nat}

theorem sound_arrowParameters {params : List Tree} (h : ∀ t ∈ params, Sound depth t)
    (isAsync : Bool) : Sound depth (arrowParameters params isAsync) :=
  sound_node (by decide) (by simpa using h)

theorem sound_map_toPattern {ts : List Tree} (h : ∀ t ∈ ts, Sound depth t) :
    ∀ t ∈ ts.map toPattern, Sound depth t := by
  intro t ht
  obtain ⟨t, hmem, rfl⟩ := List.mem_map.mp ht
  exact (h t hmem).toPattern

theorem forall_mem_reverse {α : Type} {Q : α → Prop} {as : List α} (h : ∀ x ∈ as, Q x) :
    ∀ x ∈ as.reverse, Q x := fun x hx => h x (List.mem_reverse.mp hx)

namespace Gives

variable {g : Grammar}

/-! ## Arrays and objects -/

theorem spread (hg : g.GivesSound depth) : Gives (Sound depth) (spread g) := by
  unfold Estree.spread
  refine skip fun start => skip fun _ => bind (inherited hg.assignment) fun argument hargument => ?_
  exact finish (sound_node (by decide) (by simp [hargument])) start

theorem arrayStep (hg : g.GivesSound depth) (elements : List Tree)
    (helements : ∀ t ∈ elements, Sound depth t) :
    Gives (Sum.elim (fun found => ∀ t ∈ found, Sound depth t)
      (fun found => ∀ t ∈ found, Sound depth t)) (arrayStep g elements) := by
  have hmore {element : Tree} (h : Sound depth element) :
      ∀ t ∈ element :: elements, Sound depth t :=
    List.forall_mem_cons.mpr ⟨h, helements⟩
  unfold Estree.arrayStep
  refine skip fun _ => ite (pure helements) (skip fun _ => ite (pure (hmore sound_null))
    (skip fun _ => ite ?spread ?element))
  case spread =>
    exact bind (spread hg) fun element h => skip fun _ =>
      ite (skip fun _ => skip fun _ => pure (hmore h)) (pure (hmore h))
  case element =>
    exact bind (inherited hg.assignment) fun element h => skip fun _ =>
      ite (skip fun _ => pure (hmore h)) (pure (hmore h))

theorem arrayLiteral (hg : g.GivesSound depth) : Gives (Sound (depth + 1)) (arrayLiteral g) := by
  unfold Estree.arrayLiteral
  refine skip fun start => skip fun _ => bind (Q := fun found => ∀ t ∈ found, Sound depth t) ?_
    fun elements helements => skip fun _ =>
      finish (sound_array (forall_mem_reverse helements)) start
  exact repeating (fun t ht => nomatch ht) (arrayStep hg)

theorem propertyHead (hg : g.GivesSound depth) (start : Place) :
    Gives (fun head => Sound depth head.key) (propertyHead g start) := by
  unfold Estree.propertyHead
  refine skip fun token => ite (skip fun _ => skip fun s => ite ?async ?name)
    (skip fun _ => ite (pure sound_null) ?key)
  case async => exact bind (propertyKey hg) fun key hkey => pure hkey
  case name =>
    exact bind (Q := Sound depth) (finish (sound_identifier _) start) fun key hkey => pure hkey
  case key => exact bind (propertyKey hg) fun key hkey => pure hkey

theorem shorthandProperty (hg : g.GivesSound depth) (start : Place) {head : PropertyHead}
    (hhead : Sound depth head.key) : Gives (Sound depth) (shorthandProperty g start head) := by
  unfold Estree.shorthandProperty
  refine bind (Q := Sound depth) (finish (sound_identifier _) start) fun id hid =>
    skip fun _ => ite ?_ (finish (sound_property hhead hid) start)
  refine skip fun token => skip fun _ => skip fun _ => bind (isolated hg.assignment)
    fun right hright => ?_
  refine bind (Q := Sound depth) (finish (sound_node (by decide) (by simp [hid, hright])) start)
    fun value hvalue => ?_
  exact finish (sound_property hhead hvalue) start

theorem plainProperty (hg : g.GivesSound depth) (start : Place) {head : PropertyHead}
    (hhead : Sound depth head.key) (hasProto : Bool) :
    Gives (fun found => Sound depth found.1) (plainProperty g start head hasProto) := by
  have hmethod {value : Tree} (hvalue : Sound depth value) :
      Gives (fun found : Tree × Bool => Sound depth found.1)
        (Estree.finish start (property "init" head.key head.computed value true false) >>=
          fun n => Pure.pure (n, false)) :=
    finishPair (sound_property hhead hvalue) start false
  unfold Estree.plainProperty
  refine ite (skip fun _ => failAt _) (skip fun _ => ite ?pair (skip fun _ => ite ?method
    (ite ?shorthand (skip fun _ => failAt _))))
  case pair =>
    refine skip fun _ => skip fun _ => bind (inherited hg.assignment) fun value hvalue => ?_
    exact finishPair (sound_property hhead hvalue) _ _
  case method =>
    exact ite (bind (asyncMethod hg) fun value => hmethod)
      (bind (methodWith hg _ _) fun value => hmethod)
  case shorthand =>
    exact bind (shorthandProperty hg start hhead) fun n hn => pure hn

theorem markedProperty (hg : g.GivesSound depth) (start : Place) (kind : String) (isMethod : Bool)
    {value : P Tree} (hvalue : Gives (Sound depth) value) :
    Gives (fun found => Sound depth found.1) (markedProperty g start kind isMethod value) := by
  unfold Estree.markedProperty
  refine bind (markedElement hg kind isMethod hvalue) fun e he => ?_
  exact finishPair (sound_property he.key he.value) _ _

theorem objectProperty (hg : g.GivesSound depth) (hasProto : Bool) :
    Gives (fun found => Sound depth found.1) (objectProperty g hasProto) := by
  unfold Estree.objectProperty
  refine skip fun start => bind (propertyHead hg start) fun head hhead => skip fun next => ?_
  exact ite (markedProperty hg _ _ _ (guardedGetter hg))
    (ite (markedProperty hg _ _ _ (methodWith hg _ _))
      (ite (markedProperty hg _ _ _ (methodWith hg _ _)) (plainProperty hg start hhead hasProto)))

theorem objectLiteral (hg : g.GivesSound depth) :
    Gives (Sound (depth + 1)) (objectLiteral g) := by
  unfold Estree.objectLiteral
  refine skip fun start => skip fun _ => bind (Q := fun found => ∀ t ∈ found, Sound depth t) ?_
    fun properties hproperties => skip fun _ =>
      finish (sound_object (forall_mem_reverse hproperties)) start
  refine repeating (I := fun found => ∀ t ∈ found.1, Sound depth t) (fun t ht => nomatch ht)
    fun ⟨properties, hasProto⟩ hproperties => skip fun _ => ite (pure hproperties)
      (skip fun _ => ?_)
  extract_lets add
  have hadd (found : Tree × Bool) (hfound : Sound depth found.1) :
      Gives (Sum.elim (fun found => ∀ t ∈ found.1, Sound depth t)
        (fun found => ∀ t ∈ found, Sound depth t)) (add found) := by
    have hmore : ∀ t ∈ found.1 :: properties, Sound depth t :=
      List.forall_mem_cons.mpr ⟨hfound, hproperties⟩
    exact skip fun _ => ite (skip fun _ => pure hmore) (pure hmore)
  exact ite (bind (spread hg) fun n hn => hadd (n, false) hn)
    (bind (objectProperty hg hasProto) hadd)

/-! ## Templates -/

theorem templateElement :
    Gives (fun found => Sound depth found.1 ∧ isStretch found.1) templateElement := by
  unfold Estree.templateElement
  refine skip fun start => skip fun token => ?_
  split
  · refine skip fun _ => ?_
    extract_lets value
    have hvalue : Sound depth value := sound_attributes (by simp) rfl
    refine bind (Q := fun n => Sound depth n ∧ isStretch n) (skip fun s => pure ⟨?_, ?_⟩)
      fun n hn => pure hn
    · exact (sound_node (by decide) (by simp [hvalue])).located start s.last
    · rfl
  · exact failHere _

/-- What was read of a template so far: its elements, and the expressions between them. -/
structure SoundTemplate (depth : Nat) (quasis expressions : List Tree) : Prop where
  quasis : ∀ t ∈ quasis, Sound depth t ∧ isStretch t
  expressions : ∀ t ∈ expressions, Sound depth t

theorem sound_template {quasis expressions : List Tree}
    (h : SoundTemplate depth quasis expressions) : Sound depth (node "TemplateLiteral"
      [("quasis", .list quasis.reverse), ("expressions", .list expressions.reverse)]) := by
  refine sound_node (by decide) ?_
  simpa using ⟨⟨fun t ht => (h.quasis t ht).2, fun t ht => (h.quasis t ht).1⟩, h.expressions⟩

theorem templateLiteral (hg : g.GivesSound depth) : Gives (Sound depth) (templateLiteral g) := by
  unfold Estree.templateLiteral
  refine skip fun token => ?_
  extract_lets rest
  have hrest (r : Unit) : Gives (Sound depth) (rest r) := by
    refine skip fun start => bind (Q := fun found => Sound depth found.1 ∧ isStretch found.1)
      templateElement fun ⟨first, isWhole⟩ hfirst => ?_
    refine bind (Q := fun found => SoundTemplate depth found.1 found.2) ?_
      fun ⟨quasis, expressions⟩ hfound => finish (sound_template hfound) start
    refine repeating (I := fun found => SoundTemplate depth found.1 found.2.1)
      ⟨by simpa using hfirst, fun t ht => nomatch ht⟩ fun ⟨quasis, expressions, isDone⟩ hfound =>
        ite (pure hfound) (bind (expression hg) fun e he => ?_)
    exact bind templateElement fun ⟨quasi, isDone⟩ hquasi =>
      pure ⟨List.forall_mem_cons.mpr ⟨hquasi, hfound.quasis⟩,
        List.forall_mem_cons.mpr ⟨he, hfound.expressions⟩⟩
  exact ite (skip hrest) (hrest ())

/-! ## Parentheses -/

/-- What stands in parentheses is sound. -/
def SoundGroup (depth : Nat) : GroupFound → Prop :=
  Sum.elim (fun found => ∀ t ∈ found, Sound depth t) (Sound depth)

theorem groupStep (hg : g.GivesSound depth) (found : List Tree)
    (hfound : ∀ t ∈ found, Sound depth t) :
    Gives (Sum.elim (fun found => ∀ t ∈ found, Sound depth t) (SoundGroup depth))
      (groupStep g found) := by
  unfold Estree.groupStep
  refine skip fun token => skip fun _ => ite (pure hfound) (skip fun _ => skip fun _ =>
    ite ?closed (skip fun _ => ite (skip fun c => ?rest) ?next))
  case closed =>
    exact pure (sound_arrowParameters (sound_map_toPattern (forall_mem_reverse hfound)) false)
  case rest =>
    extract_lets last
    have hlast (r : Unit) : Gives (Sum.elim (fun found => ∀ t ∈ found, Sound depth t)
        (SoundGroup depth)) (last r) := by
      refine bindPair (restParameter hg) fun rest names hrest => skip fun _ => skip fun _ =>
        skip fun _ => pure (sound_arrowParameters (sound_map_toPattern ?_) false)
      exact forall_mem_reverse (List.forall_mem_cons.mpr ⟨hrest, hfound⟩)
    exact ite (skip fun _ => skip hlast) (hlast ())
  case next =>
    exact bind (inherited hg.assignment) fun e he => pure (List.forall_mem_cons.mpr ⟨he, hfound⟩)

theorem closeGroup {e : Tree} (he : Sound depth e) : Gives (Sound depth) (closeGroup e) := by
  unfold Estree.closeGroup
  refine skip fun _ => skip fun _ => ?_
  extract_lets close
  have hclose (result : Tree) (h : Sound depth result) : Gives (Sound depth) (close result) :=
    skip fun _ => pure h
  have hitems : ∀ t ∈ (e.get "expressions").items, Sound depth t := (he.get "expressions").items
  have hnamed : ∀ t ∈ [e], Sound depth t := List.forall_mem_singleton.mpr he
  have hpattern : ∀ t ∈ [toPattern e], Sound depth t := List.forall_mem_singleton.mpr he.toPattern
  refine ite (ite ?_ (skip fun c => ite ?_ (ite ?_ ?_))) (bind (pure he) hclose)
  · exact bind (pure (sound_arrowParameters hnamed false)) hclose
  · exact skip fun token => bind (failAt token) hclose
  · exact bind (pure (sound_arrowParameters (sound_map_toPattern hitems) false)) hclose
  · exact bind (pure (sound_arrowParameters hpattern false)) hclose

theorem group (hg : g.GivesSound depth) : Gives (Sound depth) (group g) := by
  unfold Estree.group
  refine skip fun _ => skip fun _ => ite ?empty (skip fun token => ite ?rest ?expressions)
  case empty => exact skip fun _ => pure (sound_arrowParameters (List.forall_mem_nil _) false)
  case rest =>
    exact bindPair (restParameter hg) fun rest names hrest => skip fun _ => skip fun _ =>
      pure (sound_arrowParameters (List.forall_mem_singleton.mpr hrest) false)
  case expressions =>
    refine skip fun _ => bind (inherited hg.assignment) fun first hfirst => skip fun _ =>
      ite (skip fun _ => ?_) (closeGroup hfirst)
    refine bind (Q := SoundGroup depth)
      (repeating (List.forall_mem_singleton.mpr hfirst) (groupStep hg)) fun found hfound => ?_
    cases found with
    | inr params => exact pure hfound
    | inl found =>
      have hfound : ∀ t ∈ found, Sound depth t := hfound
      exact bind (Q := Sound depth)
        (finishFrom (sound_node (by decide) (by simpa using hfound)) token) fun e he =>
          closeGroup he

/-! ## Primary expressions -/

theorem literalToken (start : Place) {value : Tree} (h : value.isBranch = false) :
    Gives (Sound depth) (literalToken start value) := by
  unfold Estree.literalToken
  exact skip fun _ => skip fun t => finish (sound_literal h _) start

theorem regexLiteral (start : Place) : Gives (Sound depth) (regexLiteral start) := by
  unfold Estree.regexLiteral
  refine skip fun _ => skip fun s => skip fun ⟨token, after⟩ => skip fun _ => skip fun _ => ?_
  dsimp only
  split
  · rename_i body flags compiled _
    have hregex : Sound depth (.map (attributes
        [("pattern", .text (Text.ofChars body)), ("flags", .text flags)])) :=
      sound_attributes (by simp) rfl
    refine finish (sound_plain ?_ (by simp [hregex]) (by simp)) start
    cases compiled <;> rfl
  · exact failAt token

theorem keywordExpression (hg : g.GivesSound depth) (start : Place) :
    Gives (Sound depth) (keywordExpression g start) := by
  unfold Estree.keywordExpression
  refine skip fun c => skip fun token => ite identifierName (ite ?_ (skip fun _ =>
    ite (functionExpression hg) (skip fun _ => ite ?_ (ite (classExpression hg)
      (skip fun _ => ite ?_ (skip fun t => failAt t))))))
  · exact skip fun t => finish (sound_identifier _) start
  · exact finish (sound_node (by decide) (by simp)) start
  · exact skip fun _ => finish (sound_node (by decide) (by simp)) start

theorem primary (hg : g.GivesSound depth) : Gives (Sound (depth + 1)) (primary g) := by
  unfold Estree.primary
  refine skip fun start => skip fun token => ?_
  split
  · exact skip fun c => skip fun _ => skip fun _ => ite (functionExpression hg).succ
      (skip fun t => finish (sound_identifier _) start)
  · exact skip fun _ => skip fun _ => literalToken start (isBranch_ofLiteral _)
  · exact skip fun _ => skip fun _ => literalToken start rfl
  · exact literalToken start rfl
  · exact literalToken start rfl
  · exact (templateLiteral hg).succ
  · exact skip fun _ => (inherited (group hg)).succ
  · exact inherited (arrayLiteral hg)
  · exact inherited (objectLiteral hg)
  · exact regexLiteral start
  · exact regexLiteral start
  · exact (keywordExpression hg start).succ
  · exact skip fun t => failAt t

end Gives

end EndpointCatalog.Estree
