/-
EndpointCatalog.Proofs.Safety.Script — the tree of a script is sound.

* `grammar_givesSound`: by induction on the depth up to which sources may be
  nested, each level of the grammar nests literals one level deeper at most.
* `parse_sound`: so all literals of a script that is read can be evaluated,
  and all its nodes can be read.
-/
import EndpointCatalog.Estree.Parser
import EndpointCatalog.Proofs.Safety.Statement

namespace EndpointCatalog.Estree

variable {depth : Nat}

namespace Gives

variable {g : Grammar}

/-! ## Imports -/

theorem moduleName : Gives (Sound depth) moduleName := by
  unfold Estree.moduleName
  refine skip fun start => skip fun next => ?_
  extract_lets rest
  have hrest (r : Unit) : Gives (Sound depth) (rest r) := by
    refine skip fun t => ?_
    split
    · exact finish (sound_literal rfl _) start
    · exact failAt t
  exact ite (skip hrest) (hrest ())

theorem fromClause : Gives (Sound depth) fromClause := by
  unfold Estree.fromClause
  exact skip fun _ => ite (skip fun _ => skip fun _ => moduleName) (skip fun _ => moduleName)

theorem bracedItems {item : P Tree} (hitem : Gives (Sound depth) item) :
    Gives (fun items => ∀ t ∈ items, Sound depth t) (bracedItems item) := by
  unfold Estree.bracedItems
  refine skip fun _ => bind (readUntil (Q := Sound depth) ?_) fun items hitems => skip fun _ =>
    pure hitems
  exact bind hitem fun x hx => skip fun _ => ite (skip fun _ => pure hx) (pure hx)

theorem importSpecifier : Gives (Sound depth) importSpecifier := by
  unfold Estree.importSpecifier
  refine skip fun start => skip fun next => ?_
  extract_lets isName rest
  have hrest (imported : Tree) (himported : Sound depth imported) :
      Gives (Sound depth) (rest imported) := by
    have hbound (bound : Tree) (h : Sound depth bound) : Gives (Sound depth) (Estree.finish start
        (node "ImportSpecifier" [("local", bound), ("imported", imported)])) :=
      finish (sound_node (by decide) (by simp [himported, h])) start
    have hend (renamed : Bool) := ite (c := renamed) (bind (variableName .parameter) hbound)
      (bind (pure himported) hbound)
    exact skip fun renamed => ite (skip fun t => skip fun _ => hend renamed) (hend renamed)
  exact ite (bind (variableName _) hrest) (bind identifierName hrest)

theorem importDefault : Gives (Sound depth) importDefault :=
  skip fun start => bind (Q := Sound depth) identifierName fun bound hbound =>
    finish (sound_node (by decide) (by simp [hbound])) start

theorem importNamespace : Gives (Sound depth) importNamespace := by
  unfold Estree.importNamespace
  refine skip fun start => skip fun _ => skip fun _ => ?_
  extract_lets rest
  have hrest (r : Unit) : Gives (Sound depth) (rest r) :=
    bind (Q := Sound depth) identifierName fun bound hbound =>
      finish (sound_node (by decide) (by simp [hbound])) start
  exact ite (skip hrest) (hrest ())

theorem importNamespaces :
    Gives (fun items => ∀ t ∈ items, Sound depth t)
      (Estree.importNamespace >>= fun n => Pure.pure [n]) :=
  bind (Q := Sound depth) importNamespace fun _ hn => pure (List.forall_mem_singleton.mpr hn)

theorem importsAfterDefault :
    Gives (fun items => ∀ t ∈ items, Sound depth t) importsAfterDefault := by
  unfold Estree.importsAfterDefault
  exact skip fun _ => ite (skip fun _ => ite importNamespaces (skip fun _ =>
    ite (bracedItems importSpecifier) (skip fun t => failAt t))) (pure (List.forall_mem_nil _))

theorem imports : Gives (fun items => ∀ t ∈ items, Sound depth t) imports := by
  unfold Estree.imports
  refine skip fun token => ite (bracedItems importSpecifier) (ite importNamespaces
    (ite ?_ (skip fun t => failAt t)))
  exact bind (Q := Sound depth) importDefault fun first hfirst =>
    bind (Q := fun items => ∀ t ∈ items, Sound depth t) importsAfterDefault fun rest hrest =>
      pure (List.forall_mem_cons.mpr ⟨hfirst, hrest⟩)

theorem importDeclaration : Gives (Sound depth) importDeclaration := by
  unfold Estree.importDeclaration
  refine skip fun c => ?_
  extract_lets rest
  have hrest (r : Unit) : Gives (Sound depth) (rest r) := by
    refine skip fun start => skip fun _ => skip fun next => ?_
    have hend (specifiers : List Tree) (hspecifiers : ∀ t ∈ specifiers, Sound depth t)
        (source : Tree) (hsource : Sound depth source) :
        Gives (Sound depth) (Estree.endStatement >>= fun _ => Estree.finish start
          (node "ImportDeclaration" [("specifiers", .list specifiers), ("source", source)])) :=
      skip fun _ => finish (sound_node (by decide) (by simpa [hsource] using hspecifiers)) start
    refine ite ?_ ?_
    · exact bind (Q := Sound depth) moduleName fun source hsource =>
        hend [] (List.forall_mem_nil _) source hsource
    · exact bind (Q := fun items => ∀ t ∈ items, Sound depth t) imports
        fun specifiers hspecifiers => bind (Q := Sound depth) fromClause
          fun source hsource => hend specifiers hspecifiers source hsource
  exact ite (skip hrest) (hrest ())

/-! ## Exports -/

theorem exportSpecifier : Gives (Sound depth) exportSpecifier := by
  unfold Estree.exportSpecifier
  refine skip fun start => bind (Q := Sound depth) identifierName fun bound hbound =>
    skip fun _ => ?_
  extract_lets rest
  have hrest (exported : Tree) (h : Sound depth exported) : Gives (Sound depth) (rest exported) :=
    finish (sound_node (by decide) (by simp [hbound, h])) start
  exact ite (bind identifierName hrest) (bind (pure hbound) hrest)

theorem exportedDefault (hg : g.GivesSound depth) :
    Gives (Sound (depth + 1)) (exportedDefault g) := by
  unfold Estree.exportedDefault
  refine skip fun _ => ite (functionDeclaration hg.succ true) (skip fun _ =>
    ite (classDeclaration hg.succ true) (skip fun _ => ite ?async (skip fun _ => ?expression)))
  case async => exact skip fun _ => ite (functionDeclaration hg.succ true) hg.succ.assignment
  case expression =>
    have hend (e : Tree) (h : Sound (depth + 1) e) :
        Gives (Sound (depth + 1)) (Estree.endStatement >>= fun _ => Pure.pure e) :=
      skip fun _ => pure h
    have hliteral : Gives (Sound (depth + 1)) _ := skip (p := atMark "\x7b") fun isObject =>
      skip (p := atMark "[") fun isArray => ite (c := isObject) (bind (objectLiteral hg) hend)
        (ite (c := isArray) (bind (arrayLiteral hg) hend) (bind hg.succ.assignment hend))
    exact ite (skip fun _ => hliteral) hliteral

theorem exportNames (start : Place) : Gives (Sound depth) (exportNames start) := by
  unfold Estree.exportNames
  refine skip fun _ => bind (Q := fun found => ∀ t ∈ found.1, Sound depth t) ?_
    fun ⟨specifiers, hasDefault⟩ hspecifiers => skip fun _ => skip fun _ => ?_
  · refine repeating (I := fun found => ∀ t ∈ found.1, Sound depth t) (fun t ht => nomatch ht)
      fun ⟨specifiers, hasDefault⟩ hfound =>
        skip fun _ => ite (pure hfound) (skip fun isDefault => ?_)
    refine bind (Q := Sound depth) exportSpecifier fun s hs => skip fun _ => ?_
    have hmore : ∀ t ∈ s :: specifiers, Sound depth t := List.forall_mem_cons.mpr ⟨hs, hfound⟩
    exact ite (skip fun _ => pure hmore) (pure hmore)
  · have hspecifiers : ∀ t ∈ specifiers, Sound depth t := hspecifiers
    extract_lets rest
    have hrest (source : Tree) (h : Sound depth source) : Gives (Sound depth) (rest source) :=
      skip fun _ => finish (sound_node (by decide) (by simpa [h] using hspecifiers)) start
    exact ite (bind fromClause hrest) (bind (pure sound_null) hrest)

theorem exportOf (start : Place) (declaration : Tree) (h : Sound depth declaration) :
    Gives (Sound depth) (exportOf start declaration) :=
  finish (sound_node (by decide) (by simp [h])) start

theorem exportDeclaration (hg : g.GivesSound depth) :
    Gives (Sound (depth + 1)) (exportDeclaration g) := by
  unfold Estree.exportDeclaration
  refine skip fun c => ?_
  extract_lets rest
  have hrest (r : Unit) : Gives (Sound (depth + 1)) (rest r) := by
    refine skip fun start => skip fun _ => skip fun token => skip fun _ => ite ?default
      (skip fun _ => ite ?all (ite ?lexical (ite ?item ?names)))
    case default =>
      exact bind (exportedDefault hg) fun declaration h =>
        finish (sound_node (by decide) (by simp [h])) start
    case all =>
      exact bind (Q := Sound (depth + 1)) fromClause fun source h => skip fun _ =>
        finish (sound_node (by decide) (by simp [h])) start
    case lexical => exact bind (lexicalDeclaration hg.succ) (exportOf start)
    case item => exact bind hg.succ.listItem (exportOf start)
    case names =>
      split
      · exact failAt token
      · exact skip fun _ => ite (bind (functionDeclaration hg.succ false) (exportOf start))
          (exportNames start)
  exact ite (skip hrest) (hrest ())

/-! ## Lists of statements -/

theorem listItem (hg : g.GivesSound depth) : Gives (Sound (depth + 1)) (listItem g) := by
  unfold Estree.listItem
  refine skip fun _ => skip fun token => skip fun c => ite ?exported (ite ?imported ?plain)
  case exported => exact skip fun _ => exportDeclaration hg
  case imported =>
    exact skip fun _ => ite (expressionStatement hg.succ) (skip fun _ => importDeclaration)
  case plain =>
    exact ite (lexicalDeclaration hg.succ) (ite (functionDeclaration hg.succ false)
      (ite (classDeclaration hg.succ false) (ite (skip fun _ =>
        ite (lexicalDeclaration hg.succ) (statement hg.succ)) (statement hg.succ))))

theorem program (hg : g.GivesSound depth) (isModule : Bool) :
    Gives (Sound (depth + 1)) (program g isModule) := by
  unfold Estree.program
  extract_lets kind rest
  have hrest (r : Unit) : Gives (Sound (depth + 1)) (rest r) := by
    refine skip fun start => bind (prologue hg.succ) fun directives hdirectives =>
      bind (readUntil (listItem hg)) fun items hitems => finish (sound_node (by decide) ?_) start
    simpa using fun t ht => ht.elim (hdirectives t) (hitems t)
  exact ite (skip hrest) (hrest ())

end Gives

/-! ## Sources -/

theorem Grammar.exhausted_givesSound : Grammar.exhausted.GivesSound depth where
  assignment := .stop _
  unary := .stop _
  exponentiation := .stop _
  member := .stop _
  call := .stop _
  pattern _ := .stop _
  listItem := .stop _
  statement := .stop _

/-- A grammar for sources that are nested no deeper than a number gives trees whose literals are
nested no deeper either. -/
theorem grammar_givesSound (depth : Nat) : (grammar depth).GivesSound depth := by
  induction depth with
  | zero => exact Grammar.exhausted_givesSound
  | succ depth ih => exact {
      assignment := .assignment ih
      unary := .unary ih
      exponentiation := .exponentiation ih
      member := .memberChain ih
      call := .callChain ih
      pattern := .pattern ih.succ
      listItem := .listItem ih
      statement := .statement ih.succ }

theorem Sound.withoutFaults {t : Tree} (h : Sound depth t) (faults : Nat) :
    Sound depth (withoutFaults faults t) := by
  cases t with
  | map entries =>
    rw [Estree.withoutFaults]
    split
    · exact h.append (by decide) (by simp)
    · rwa [List.append_nil]
  | _ => exact h

theorem parseAs_sound {isModule : Bool} {cs : List Char} {parsed : Parsed}
    (h : parseAs isModule cs = .ok parsed) : Sound (deepestNesting + 1) parsed.tree := by
  unfold parseAs at h
  extract_lets read at h
  have hread : Gives (Sound (deepestNesting + 1)) read :=
    .skip fun _ => .skip fun _ => .program (grammar_givesSound deepestNesting) isModule
  cases hrun : read.run (ParserState.ofChars cs) with
  | error e =>
    rw [hrun] at h
    cases h
  | ok r =>
    rw [hrun] at h
    cases h
    exact (hread _ _ _ hrun).withoutFaults _

/-- The tree of a script that is read is sound. -/
theorem parse_sound {cs : List Char} {parsed : Parsed} (h : parse cs = .ok parsed) :
    Sound (deepestNesting + 1) parsed.tree := by
  unfold parse at h
  split at h
  · cases h
  · split at h
    · cases h
    · cases h
    · rename_i hmodule
      cases h
      exact parseAs_sound hmodule
  · rename_i hscript
    cases h
    exact parseAs_sound hscript

end EndpointCatalog.Estree
