/-
EndpointCatalog.Proofs.Safety.Operator — expressions with operators are
sound.

A unary operator is where literals nest beside arrays and objects; what it
stands before comes from the grammar. All other operators join expressions
of the level that they have themselves.
-/
import EndpointCatalog.Estree.Parser.Operator
import EndpointCatalog.Proofs.Safety.Primary

namespace EndpointCatalog.Estree

variable {depth : Nat}

theorem sound_binary (operator : Text) {left right : Tree} (hleft : Sound depth left)
    (hright : Sound depth right) : Sound depth (binary operator left right) := by
  unfold binary
  dsimp only
  split <;> exact sound_node (by decide) (by simp [hleft, hright])

theorem sound_updateNode (operator : Text) {argument : Tree} (h : Sound depth argument)
    (isPrefix : Bool) : Sound depth (updateNode operator argument isPrefix) :=
  sound_node (by decide) (by simp [h])

namespace Gives

variable {g : Grammar}

/-! ## Calls and members -/

theorem argumentStep (hg : g.GivesSound depth) {argument : P Tree}
    (hargument : Gives (Sound depth) argument) (found : List Tree)
    (hfound : ∀ t ∈ found, Sound depth t) :
    Gives (Sum.elim (fun found => ∀ t ∈ found, Sound depth t)
      (fun found => ∀ t ∈ found, Sound depth t)) (argumentStep argument g found) := by
  unfold Estree.argumentStep
  refine skip fun _ => ite (pure hfound) (skip fun _ => ?_)
  extract_lets add
  have hadd (e : Tree) (he : Sound depth e) :
      Gives (Sum.elim (fun found => ∀ t ∈ found, Sound depth t)
        (fun found => ∀ t ∈ found, Sound depth t)) (add e) := by
    have hmore : ∀ t ∈ e :: found, Sound depth t := List.forall_mem_cons.mpr ⟨he, hfound⟩
    exact skip fun _ => ite (skip fun _ => pure hmore) (pure hmore)
  exact ite (bind (spread hg) hadd) (bind (isolated hargument) hadd)

theorem argumentsOf (hg : g.GivesSound depth) {argument : P Tree}
    (hargument : Gives (Sound depth) argument) :
    Gives (fun found => ∀ t ∈ found, Sound depth t) (argumentsOf argument g) := by
  unfold Estree.argumentsOf
  refine skip fun _ => bind (Q := fun found => ∀ t ∈ found, Sound depth t) ?_ fun found hfound =>
    skip fun _ => pure (forall_mem_reverse hfound)
  exact repeating (List.forall_mem_nil _) (argumentStep hg hargument)

theorem plainArguments (hg : g.GivesSound depth) :
    Gives (fun found => ∀ t ∈ found, Sound depth t) (plainArguments g) :=
  argumentsOf hg hg.assignment

theorem coverArguments (hg : g.GivesSound depth) :
    Gives (fun found => ∀ t ∈ found, Sound depth t) (coverArguments g) :=
  argumentsOf hg (bind hg.assignment fun _ he => skip fun _ => pure he)

theorem newExpression (hg : g.GivesSound depth) : Gives (Sound depth) (newExpression g) := by
  unfold Estree.newExpression
  refine skip fun start => bind (Q := Sound depth) identifierName fun keyword hkeyword =>
    skip fun _ => ite ?target (skip fun _ => ite (skip fun _ => failAt _) ?new)
  case target =>
    refine skip fun token => skip fun c => ite ?_ (failAt token)
    exact bind (Q := Sound depth) identifierName fun property hproperty =>
      finish (sound_node (by decide) (by simp [hkeyword, hproperty])) start
  case new =>
    refine bind (isolated hg.member) fun callee hcallee => skip fun _ => ?_
    extract_lets rest
    have hrest (arguments : List Tree) (h : ∀ t ∈ arguments, Sound depth t) :
        Gives (Sound depth) (rest arguments) :=
      skip fun _ => finish (sound_node (by decide) (by simpa [hcallee] using h)) start
    exact ite (bind (plainArguments hg) hrest) (bind (pure (List.forall_mem_nil _)) hrest)

theorem chainStart (hg : g.GivesSound depth) : Gives (Sound (depth + 1)) (chainStart g) := by
  unfold Estree.chainStart
  exact skip fun _ => ite (inherited (newExpression hg)).succ (inherited (primary hg))

theorem pointMember {object : Tree} (h : Sound depth object) :
    Gives (Sound depth) (pointMember object) := by
  unfold Estree.pointMember
  exact skip fun _ => skip fun _ => bind (Q := Sound depth) identifierName fun property hproperty =>
    pure (sound_node (by decide) (by simp [h, hproperty]))

theorem bracketMember (hg : g.GivesSound depth) {object : Tree} (h : Sound depth object) :
    Gives (Sound depth) (bracketMember g object) := by
  unfold Estree.bracketMember
  exact skip fun _ => skip fun _ => bind (isolated (expression hg)) fun property hproperty =>
    skip fun _ => pure (sound_node (by decide) (by simp [h, hproperty]))

theorem taggedTemplate (hg : g.GivesSound depth) {tag : Tree} (h : Sound depth tag) :
    Gives (Sound depth) (taggedTemplate g tag) := by
  unfold Estree.taggedTemplate
  exact bind (templateLiteral hg) fun quasi hquasi =>
    pure (sound_node (by decide) (by simp [h, hquasi]))

theorem superKeyword (followers : List String) : Gives (Sound depth) (superKeyword followers) := by
  unfold Estree.superKeyword
  exact skip fun start => skip fun _ =>
    bind (Q := Sound depth) (finish (sound_node (by decide) (by simp)) start) fun e he =>
      skip fun _ => ite (pure he) (skip fun _ => failAt _)

theorem callOf (hg : g.GivesSound depth) (token : Token) (maybeAsync : Bool) {callee : Tree}
    (hcallee : Sound depth callee) : Gives (Sound depth) (callOf g token maybeAsync callee) := by
  unfold Estree.callOf
  refine skip fun next => ?_
  extract_lets isAsync rest
  refine skip fun _ => ?_
  have hrest (arguments : List Tree) (h : ∀ t ∈ arguments, Sound depth t) :
      Gives (Sound depth) (rest arguments) := by
    have hcall : Sound depth
        (node "CallExpression" [("callee", callee), ("arguments", .list arguments)]) :=
      sound_node (by decide) (by simpa [hcallee] using h)
    exact skip fun _ => bind (finishFrom hcall token) fun e he => skip fun _ =>
      ite (pure (sound_arrowParameters (sound_map_toPattern h) true)) (pure he)
  exact ite (bind (coverArguments hg) hrest) (bind (plainArguments hg) hrest)

theorem callChain (hg : g.GivesSound depth) : Gives (Sound (depth + 1)) (callChain g) := by
  unfold Estree.callChain
  refine skip fun token => ?_
  extract_lets maybeAsync
  refine skip fun outer => skip fun _ => skip fun _ => ?_
  extract_lets rest
  have hrest (first : Tree) (hfirst : Sound (depth + 1) first) :
      Gives (Sound (depth + 1)) (rest first) := by
    refine bind (Q := Sound (depth + 1)) (repeating (I := Sound (depth + 1)) hfirst fun e he =>
      skip fun next => ?_) fun whole hwhole => skip fun _ => pure hwhole
    refine ite ?_ (ite ?_ (ite ?_ (ite ?_ (pure he))))
    · exact bind (pointMember he) fun n hn => bind (finishFrom hn token) fun _ hn => pure hn
    · exact bind (callOf hg.succ token maybeAsync he) fun n hn => pure hn
    · exact bind (bracketMember hg.succ he) fun n hn =>
        bind (finishFrom hn token) fun _ hn => pure hn
    · exact bind (taggedTemplate hg.succ he) fun n hn =>
        bind (finishFrom hn token) fun _ hn => pure hn
  exact ite (bind (superKeyword _) hrest) (bind (chainStart hg) hrest)

theorem memberChain (hg : g.GivesSound depth) : Gives (Sound (depth + 1)) (memberChain g) := by
  unfold Estree.memberChain
  refine skip fun token => ?_
  extract_lets start rest
  refine skip fun _ => ?_
  have hrest (first : Tree) (hfirst : Sound (depth + 1) first) :
      Gives (Sound (depth + 1)) (rest first) := by
    refine repeating (I := Sound (depth + 1)) hfirst fun e he => skip fun next =>
      ite ?_ (ite ?_ (ite ?_ (pure he)))
    · exact bind (bracketMember hg.succ he) fun n hn => bind (finish hn start) fun _ hn => pure hn
    · exact bind (pointMember he) fun n hn => bind (finish hn start) fun _ hn => pure hn
    · exact bind (taggedTemplate hg.succ he) fun n hn => bind (finish hn start) fun _ hn => pure hn
  exact ite (bind (superKeyword _) hrest) (bind (chainStart hg) hrest)

/-! ## Unary operators -/

theorem update (hg : g.GivesSound depth) : Gives (Sound (depth + 1)) (update g) := by
  unfold Estree.update
  refine skip fun token => ite ?_ ?_
  · exact skip fun _ => bind (inherited hg.unary).succ fun e he => skip fun _ => skip fun _ =>
      finish (sound_updateNode _ he true) _
  · refine bind (inherited (callChain hg)) fun e he => skip fun s => ite ?_ (pure he)
    exact skip fun _ => skip fun _ => skip fun operator =>
      finishFrom (sound_updateNode _ he false) token

theorem unary (hg : g.GivesSound depth) : Gives (Sound (depth + 1)) (unary g) := by
  unfold Estree.unary
  refine skip fun token => ite ?operator (skip fun _ => ite ?await (update hg))
  case operator =>
    exact skip fun _ => bind (inherited hg.unary) fun argument hargument =>
      bind (finish (sound_unary hargument _) _) fun e he => skip fun _ => skip fun _ =>
        skip fun _ => pure he
  case await =>
    exact skip fun start => skip fun _ => bind hg.unary.succ fun argument hargument =>
      finish (sound_node (by decide) (by simp [hargument])) start

/-! ## Binary operators -/

theorem exponentiation (hg : g.GivesSound depth) :
    Gives (Sound (depth + 1)) (exponentiation g) := by
  unfold Estree.exponentiation
  refine skip fun token => bind (inherited (unary hg)) fun left hleft => skip fun _ =>
    ite ?_ (pure hleft)
  exact skip fun _ => skip fun _ => bind (isolated hg.exponentiation).succ fun right hright =>
    finishFrom (sound_binary _ hleft hright) token

/-- All operands that wait are sound. -/
def SoundWaiting (depth : Nat) (waiting : List Waiting) : Prop := ∀ w ∈ waiting, Sound depth w.left

theorem joinWaiting (least : Nat) (token : Token) {right : Tree} (hright : Sound depth right)
    {waiting : List Waiting} (hwaiting : SoundWaiting depth waiting) :
    Gives (fun found => Sound depth found.2.1 ∧ SoundWaiting depth found.2.2)
      (joinWaiting least token right waiting) := by
  induction waiting generalizing token right with
  | nil => exact pure ⟨hright, hwaiting⟩
  | cons w rest ih =>
    obtain ⟨hw, hrest⟩ := List.forall_mem_cons.mp hwaiting
    rw [Estree.joinWaiting]
    exact ite (bind (finishFrom (sound_binary _ hw hright) _) fun e he => ih _ he hrest)
      (pure ⟨hright, hwaiting⟩)

theorem joinAll (token : Token) {right : Tree} (hright : Sound depth right)
    {waiting : List Waiting} (hwaiting : SoundWaiting depth waiting) :
    Gives (Sound depth) (joinAll token right waiting) := by
  induction waiting generalizing token right with
  | nil => exact pure hright
  | cons w rest ih =>
    obtain ⟨hw, hrest⟩ := List.forall_mem_cons.mp hwaiting
    exact bind (finish (sound_binary _ hw hright) _) fun e he => ih _ he hrest

theorem binaryStep (hg : g.GivesSound depth) (found : Token × Tree × List Waiting)
    (hfound : Sound (depth + 1) found.2.1 ∧ SoundWaiting (depth + 1) found.2.2) :
    Gives (Sum.elim (fun found => Sound (depth + 1) found.2.1 ∧ SoundWaiting (depth + 1) found.2.2)
      (fun found => Sound (depth + 1) found.2.1 ∧ SoundWaiting (depth + 1) found.2.2))
      (binaryStep g found) := by
  unfold Estree.binaryStep
  refine skip fun operator => skip fun c => ite (pure hfound) ?_
  refine bind (joinWaiting _ _ hfound.1 hfound.2) fun ⟨token, left, waiting⟩ ⟨hleft, hwaiting⟩ => ?_
  exact skip fun _ => skip fun _ => skip fun next => bind (isolated (exponentiation hg))
    fun right hright => pure ⟨hright, List.forall_mem_cons.mpr ⟨hleft, hwaiting⟩⟩

theorem binaryChain (hg : g.GivesSound depth) : Gives (Sound (depth + 1)) (binaryChain g) := by
  unfold Estree.binaryChain
  refine skip fun token => bind (inherited (exponentiation hg)) fun first hfirst => ?_
  refine bind (repeating ⟨hfirst, List.forall_mem_nil _⟩ (binaryStep hg))
    fun ⟨last, right, waiting⟩ ⟨hright, hwaiting⟩ => ?_
  exact joinAll last hright hwaiting

theorem conditional (hg : g.GivesSound depth) : Gives (Sound (depth + 1)) (conditional g) := by
  unfold Estree.conditional
  refine skip fun token => bind (inherited (binaryChain hg)) fun test htest => skip fun _ =>
    ite ?_ (pure htest)
  refine skip fun outer => skip fun _ => bind (isolated hg.assignment).succ
    fun consequent hconsequent => skip fun _ => skip fun _ => bind (isolated hg.assignment).succ
      fun alternate halternate => ?_
  exact bind (Q := Sound (depth + 1))
    (finishFrom (sound_node (by decide) (by simp [htest, hconsequent, halternate])) token)
    fun e he => skip fun _ => pure he

end Gives

end EndpointCatalog.Estree
