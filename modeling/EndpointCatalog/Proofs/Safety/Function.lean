/-
EndpointCatalog.Proofs.Safety.Function — functions and classes are sound.

All parts of such a node are read one level deeper, or are of no kind that
has parts of its own. So they are nested no deeper than what the grammar
gives, and a function as the value of a property costs an object no level.
-/
import EndpointCatalog.Estree.Parser.Class
import EndpointCatalog.Proofs.Safety.Binding

namespace EndpointCatalog.Estree

variable {depth : Nat}

/-! ## Nodes -/

theorem sound_function {kind : String} (hkind : kind ∉ "Identifier" :: literalKinds) {id body : Tree}
    {params : List Tree} (hid : Sound depth id) (hparams : ∀ t ∈ params, Sound depth t)
    (hbody : Sound depth body) (isGenerator : Bool) :
    Sound depth (function kind id params body isGenerator) :=
  sound_node hkind (by simpa [hid, hbody] using hparams)

theorem sound_asyncFunction {kind : String} (hkind : kind ∉ "Identifier" :: literalKinds)
    {id body : Tree} {params : List Tree} (hid : Sound depth id)
    (hparams : ∀ t ∈ params, Sound depth t) (hbody : Sound depth body) :
    Sound depth (asyncFunction kind id params body) :=
  sound_node hkind (by simpa [hid, hbody] using hparams)

/-! ## Parameters -/

theorem Parameters.params_addName (strict : Bool) (place : Restriction) (name : Text)
    (p : Parameters) : (p.addName strict place name).params = p.params := by
  unfold Parameters.addName
  dsimp only
  split
  · split <;> split <;> rfl
  · split
    · split
      · rfl
      · split
        · rfl
        · split <;> rfl
    · rfl

theorem params_foldl_addName (strict : Bool) (tokens : List Token) (p : Parameters) :
    (tokens.foldl (fun p t => p.addName strict (some t.line) (shownToken t)) p).params =
      p.params := by
  induction tokens generalizing p with
  | nil => rfl
  | cons t rest ih => rw [List.foldl_cons, ih, Parameters.params_addName]

/-- All parameters are sound. -/
def SoundParameters (depth : Nat) (p : Parameters) : Prop := ∀ t ∈ p.params, Sound depth t

theorem forall_mem_append_singleton {α : Type} {Q : α → Prop} {as : List α} {a : α}
    (h : ∀ x ∈ as, Q x) (ha : Q a) : ∀ x ∈ as ++ [a], Q x := by
  intro x hx
  rcases List.mem_append.mp hx with hx | hx
  · exact h x hx
  · exact List.mem_singleton.mp hx ▸ ha

namespace Gives

variable {g : Grammar}

theorem restParameter (hg : g.GivesSound depth) :
    Gives (fun found => Sound depth found.1) (restParameter g) := by
  unfold Estree.restParameter
  refine skip fun start => skip fun _ => bindPair (hg.pattern _)
    fun target names htarget => skip fun _ => ?_
  have hend := finishPair (sound_rest htarget) start names
  exact ite (skip fun _ => skip fun _ => ite (skip fun _ => hend) hend)
    (skip fun _ => ite (skip fun _ => hend) hend)

theorem formalParameter (hg : g.GivesSound depth) (p : Parameters) (hp : SoundParameters depth p) :
    Gives (SoundParameters depth) (formalParameter g p) := by
  unfold Estree.formalParameter
  refine skip fun isRest => ?_
  extract_lets add
  have hadd (found : Tree × List Token) (hfound : Sound depth found.1) :
      Gives (SoundParameters depth) (add found) := by
    refine skip fun _ => pure ?_
    show ∀ t ∈ _ ++ [found.1], Sound depth t
    rw [params_foldl_addName]
    exact forall_mem_append_singleton hp hfound
  exact ite (bind (restParameter hg) hadd) (bind (patternWithDefault hg _) hadd)

theorem formalParameters (hg : g.GivesSound depth) (restricted : Option Restriction) :
    Gives (SoundParameters depth) (formalParameters g restricted) := by
  unfold Estree.formalParameters
  refine skip fun _ => bind (Q := SoundParameters depth) ?_ fun found hfound => skip fun _ =>
    pure hfound
  refine repeating (I := SoundParameters depth) (fun t ht => nomatch ht) fun p hp =>
    skip fun _ => skip fun _ => ite (pure hp) ?_
  exact bind (formalParameter hg p hp) fun next hnext => skip fun _ =>
    ite (skip fun _ => pure hnext) (pure hnext)

/-! ## Bodies -/

theorem directive (hg : g.GivesSound depth) :
    Gives (fun found => Sound depth found.1) (directive g) := by
  unfold Estree.directive
  refine skip fun token => skip fun start => bind (expression hg) fun e he => ?_
  extract_lets text isDirective
  refine skip fun _ => ite ?_ ?_
  · exact finishPair (sound_node (by decide) (by simp [he])) _ _
  · exact finishPair (sound_node (by decide) (by simp [he])) _ _

/-- All statements found so far are sound. -/
def SoundPrologue (depth : Nat) (p : Prologue) : Prop := ∀ t ∈ p.statements, Sound depth t

theorem prologueStep (hg : g.GivesSound depth) (p : Prologue) (hp : SoundPrologue depth p) :
    Gives (Sum.elim (SoundPrologue depth) (SoundPrologue depth)) (prologueStep g p) := by
  unfold Estree.prologueStep
  refine skip fun token => ite (pure hp)
    (bindPair (directive hg) fun statement text hstatement => ?_)
  have hmore : ∀ t ∈ statement :: p.statements, Sound depth t :=
    List.forall_mem_cons.mpr ⟨hstatement, hp⟩
  cases text with
  | none => exact pure hmore
  | some text =>
    refine ite ?_ (pure hmore)
    exact skip fun _ => skip fun _ => skip fun _ => skip fun _ => pure hmore

theorem prologue (hg : g.GivesSound depth) :
    Gives (fun items => ∀ t ∈ items, Sound depth t) (prologue g) := by
  unfold Estree.prologue
  refine bind (Q := SoundPrologue depth) ?_ fun found hfound => pure ?_
  · exact repeating (fun t ht => nomatch ht) (prologueStep hg)
  · exact fun t ht => hfound t (List.mem_reverse.mp ht)

theorem functionBody (hg : g.GivesSound depth) : Gives (Sound depth) (functionBody g) := by
  unfold Estree.functionBody
  refine skip fun start => skip fun _ => bind (prologue hg) fun directives hdirectives =>
    skip fun outer => skip fun _ => bind (readUntil hg.listItem) fun items hitems =>
      skip fun _ => skip fun _ => finish (sound_node (by decide) ?_) start
  simpa using fun t ht => ht.elim (hdirectives t) (hitems t)

theorem methodBody (hg : g.GivesSound depth) (p : Parameters) :
    Gives (Sound depth) (methodBody g p) := by
  unfold Estree.methodBody
  refine skip fun _ => skip fun outer => skip fun _ => bind (isolated (functionBody hg))
    fun body hbody => ?_
  exact skip fun _ => skip fun _ => skip fun _ => skip fun _ => pure hbody

/-! ## Methods -/

theorem methodWith (hg : g.GivesSound depth) (isGenerator : Bool) (accepts : List Tree → Bool) :
    Gives (Sound depth) (methodWith g isGenerator accepts) := by
  unfold Estree.methodWith
  refine skip fun start => skip fun outer => skip fun _ => bind (formalParameters hg none)
    fun p hp => skip fun _ => ?_
  extract_lets rest
  have hrest (r : Unit) : Gives (Sound depth) (rest r) :=
    bind (methodBody hg p) fun body hbody => skip fun _ =>
      finish (sound_function (by decide) sound_null hp hbody isGenerator) start
  exact ite (skip hrest) (hrest ())

theorem asyncMethod (hg : g.GivesSound depth) : Gives (Sound depth) (asyncMethod g) := by
  unfold Estree.asyncMethod
  refine skip fun start => skip fun outer => skip fun _ => bind (formalParameters hg none)
    fun p hp => bind (methodBody hg p) fun body hbody => skip fun _ => ?_
  exact finish (sound_asyncFunction (by decide) sound_null hp hbody) start

/-! ## Functions -/

theorem functionRest (hg : g.GivesSound depth) (restricted : Option Restriction)
    (nameFault : Option SyntaxFault) :
    Gives (fun found => (∀ t ∈ found.1, Sound depth t) ∧ Sound depth found.2)
      (functionRest g restricted nameFault) := by
  unfold Estree.functionRest
  refine bind (formalParameters hg restricted) fun p hp => skip fun outer => skip fun _ =>
    bind (functionBody hg) fun body hbody => skip fun c => ?_
  extract_lets strict rest
  have hrest (r : Unit) :
      Gives (fun found : List Tree × Tree => (∀ t ∈ found.1, Sound depth t) ∧ Sound depth found.2)
        (rest r) := skip fun _ => skip fun _ => pure ⟨hp, hbody⟩
  split
  · exact ite (skip hrest) (hrest ())
  · exact hrest ()

theorem functionDeclaration (hg : g.GivesSound depth) (nameIsOptional : Bool) :
    Gives (Sound depth) (functionDeclaration g nameIsOptional) := by
  unfold Estree.functionDeclaration
  refine skip fun start => skip fun ⟨isAsync, isGenerator⟩ => skip fun _ => ?_
  extract_lets rest
  have hrest (found : Tree × Option Restriction × Option SyntaxFault) (hid : Sound depth found.1) :
      Gives (Sound depth) (rest found) := by
    refine skip fun outer => skip fun _ => bind (functionRest hg _ _)
      fun ⟨params, body⟩ ⟨hparams, hbody⟩ => skip fun _ => ite ?_ ?_
    · exact finish (sound_asyncFunction (by decide) hid hparams hbody) start
    · exact finish (sound_function (by decide) hid hparams hbody isGenerator) start
  refine ite ?_ (bind (pure sound_null) fun _ => hrest _)
  exact skip fun token => bind (Q := Sound depth) (variableName _) fun id hid =>
    skip fun ⟨restricted, fault⟩ => hrest (id, restricted, fault) hid

theorem functionExpression (hg : g.GivesSound depth) :
    Gives (Sound depth) (functionExpression g) := by
  unfold Estree.functionExpression
  refine skip fun start => skip fun ⟨isAsync, isGenerator⟩ => skip fun outer => skip fun _ =>
    skip fun _ => ?_
  extract_lets rest
  have hrest (found : Tree × Option Restriction × Option SyntaxFault) (hid : Sound depth found.1) :
      Gives (Sound depth) (rest found) := by
    refine bind (functionRest hg _ _) fun ⟨params, body⟩ ⟨hparams, hbody⟩ => skip fun _ => ite ?_ ?_
    · exact finish (sound_asyncFunction (by decide) hid hparams hbody) start
    · exact finish (sound_function (by decide) hid hparams hbody isGenerator) start
  refine ite (skip fun token => skip fun c => ?_) (bind (pure sound_null) fun _ => hrest _)
  extract_lets named
  have hnamed (id : Tree) (hid : Sound depth id) : Gives (Sound depth) (named id) :=
    skip fun ⟨restricted, fault⟩ => hrest (id, restricted, fault) hid
  exact ite (bind identifierName hnamed) (bind (variableName _) hnamed)

/-! ## Classes -/

/-- The key that an element starts with is sound. -/
def SoundHead (depth : Nat) (head : ElementHead) : Prop := Sound depth head.key

/-- The key and the function of an element are sound. -/
structure SoundElement (depth : Nat) (e : Element) : Prop where
  key : Sound depth e.key
  value : Sound depth e.value

theorem staticHead (hg : g.GivesSound depth) {head : ElementHead} (hhead : SoundHead depth head) :
    Gives (SoundHead depth) (staticHead g head) := by
  unfold Estree.staticHead
  refine skip fun next => ite (ite ?_ ?_) (pure hhead)
  · exact skip fun _ => pure hhead
  · exact bind (propertyKey hg) fun key hkey => pure hkey

theorem asyncHead (hg : g.GivesSound depth) {head : ElementHead} (hhead : SoundHead depth head) :
    Gives (SoundHead depth) (asyncHead g head) := by
  unfold Estree.asyncHead
  refine skip fun s => ite ?_ (pure hhead)
  exact bind (propertyKey hg) fun key hkey => skip fun _ => pure hkey

theorem elementHead (hg : g.GivesSound depth) : Gives (SoundHead depth) (elementHead g) := by
  unfold Estree.elementHead
  refine skip fun token => skip fun _ => ite (pure sound_null) ?_
  refine bind (propertyKey hg) fun key hkey => bind (staticHead hg hkey) fun head hhead => ?_
  exact asyncHead hg hhead

theorem markedElement (hg : g.GivesSound depth) (kind : String) (isMethod : Bool) {value : P Tree}
    (hvalue : Gives (Sound depth) value) :
    Gives (SoundElement depth) (markedElement g kind isMethod value) := by
  unfold Estree.markedElement
  exact skip fun _ => bind (propertyKey hg) fun key hkey => bind hvalue fun value hvalue =>
    pure ⟨hkey, hvalue⟩

theorem guardedGetter (hg : g.GivesSound depth) : Gives (Sound depth) (guardedGetter g) :=
  skip fun _ => methodWith hg _ _

theorem elementRest (hg : g.GivesSound depth) {head : ElementHead} (hhead : SoundHead depth head) :
    Gives (SoundElement depth) (elementRest g head) := by
  unfold Estree.elementRest
  refine skip fun next => ite (markedElement hg _ _ (guardedGetter hg))
    (ite (markedElement hg _ _ (methodWith hg _ _))
      (ite (markedElement hg _ _ (methodWith hg _ _)) (ite ?_ (failAt _))))
  exact ite (bind (asyncMethod hg) fun value hvalue => pure ⟨hhead, hvalue⟩)
    (bind (methodWith hg _ _) fun value hvalue => pure ⟨hhead, hvalue⟩)

theorem classElement (hg : g.GivesSound depth) (hasConstructor : Bool) :
    Gives (fun found => Sound depth found.1) (classElement g hasConstructor) := by
  unfold Estree.classElement
  refine skip fun start => bind (elementHead hg) fun head hhead => bind (elementRest hg hhead)
    fun e he => skip fun kind => ?_
  exact finishPair (sound_node (by decide) (by simp [he.key, he.value])) _ _

theorem classBody (hg : g.GivesSound depth) : Gives (Sound depth) (classBody g) := by
  unfold Estree.classBody
  refine skip fun start => skip fun _ => bind (Q := fun found => ∀ t ∈ found, Sound depth t) ?_
    fun found hfound => skip fun _ => finish (sound_node (by decide) (by simpa using hfound)) start
  refine repeating (I := fun found => ∀ t ∈ found.1, Sound depth t) (fun t ht => nomatch ht)
    fun ⟨elements, hasConstructor⟩ hfound => skip fun _ => ite (pure hfound)
      (skip fun _ => ite (pure hfound) ?_)
  exact bindPair (classElement hg hasConstructor) fun element isConstructor helement =>
    pure (List.forall_mem_cons.mpr ⟨helement, hfound⟩)

theorem classOf (hg : g.GivesSound depth) {kind : String}
    (hkind : kind ∉ "Identifier" :: literalKinds) {name : P Tree}
    (hname : Gives (Sound depth) name) : Gives (Sound depth) (classOf g kind name) := by
  unfold Estree.classOf
  refine skip fun start => skip fun outer => skip fun _ => skip fun _ => bind hname fun id hid =>
    skip fun hasParent => ?_
  extract_lets rest
  have hrest (parent : Tree) (hparent : Sound depth parent) : Gives (Sound depth) (rest parent) :=
    bind (classBody hg) fun body hbody => skip fun _ =>
      finish (sound_node hkind (by simp [hid, hparent, hbody])) start
  exact ite (bind (isolated hg.call) hrest) (bind (pure sound_null) hrest)

theorem classDeclaration (hg : g.GivesSound depth) (nameIsOptional : Bool) :
    Gives (Sound depth) (classDeclaration g nameIsOptional) :=
  classOf hg (by decide) (skip fun _ => ite (pure sound_null) (variableName _))

theorem classExpression (hg : g.GivesSound depth) : Gives (Sound depth) (classExpression g) :=
  classOf hg (by decide) (skip fun _ => ite (variableName _) (pure sound_null))

end Gives

end EndpointCatalog.Estree
