/-
EndpointCatalog.Proofs.Safety.Statement — statements and declarations are
sound.

A statement stands in no literal, and all expressions in it are read one
level deeper.
-/
import EndpointCatalog.Estree.Parser.Statement
import EndpointCatalog.Proofs.Safety.Assignment

namespace EndpointCatalog.Estree

variable {depth : Nat}

theorem sound_variableDeclaration {declarations : List Tree}
    (h : ∀ t ∈ declarations, Sound depth t) (kind : String) :
    Sound depth (variableDeclaration declarations kind) :=
  sound_node (by decide) (by simpa using h)

namespace Gives

variable {g : Grammar}

/-! ## Blocks and simple statements -/

theorem block (hg : g.GivesSound depth) : Gives (Sound depth) (block g) := by
  unfold Estree.block
  exact skip fun start => skip fun _ => bind (readUntil hg.listItem) fun items hitems =>
    skip fun _ => finish (sound_node (by decide) (by simpa using hitems)) start

theorem expressionStatement (hg : g.GivesSound depth) :
    Gives (Sound depth) (expressionStatement g) := by
  unfold Estree.expressionStatement
  exact skip fun start => bind (expression hg) fun e he => skip fun _ =>
    finish (sound_node (by decide) (by simp [he])) start

theorem debuggerStatement : Gives (Sound depth) debuggerStatement :=
  skip fun start => skip fun _ => skip fun _ => finish (sound_node (by decide) (by simp)) start

theorem sound_empty : Sound depth (node "EmptyStatement" []) := sound_node (by decide) (by simp)

theorem emptyStatement : Gives (Sound depth) emptyStatement :=
  skip fun start => skip fun _ => finish sound_empty start

theorem closeHead {body : P Tree} (hbody : Gives (Sound depth) body) :
    Gives (Sound depth) (closeHead body) := by
  unfold Estree.closeHead
  refine skip fun _ => ite (skip fun _ => hbody) ?_
  exact skip fun _ => skip fun _ => skip fun start => finish sound_empty start

/-! ## Variables -/

theorem declarator (start : Place) {id value : Tree} (hid : Sound depth id)
    (hvalue : Sound depth value) : Gives (Sound depth) (declarator start id value) :=
  finish (sound_node (by decide) (by simp [hid, hvalue])) start

theorem initializer (hg : g.GivesSound depth) : Gives (Sound depth) (initializer g) :=
  skip fun _ => isolated hg.assignment

theorem lexicalBinding (hg : g.GivesSound depth) (declaring : Declaring) (inFor : Bool) :
    Gives (Sound depth) (lexicalBinding g declaring inFor) := by
  unfold Estree.lexicalBinding
  refine skip fun start => bindPair (hg.pattern declaring) fun id names hid => skip fun _ =>
    skip fun _ => ?_
  have hvalue (value : Tree) (h : Sound depth value) :
      Gives (Sound depth) (Estree.declarator start id value) := declarator start hid h
  have hnone := bind (pure sound_null) hvalue
  have hinitialized := bind (initializer hg) hvalue
  exact ite (skip fun _ => skip fun _ => ite hnone (skip fun _ => ite hinitialized
    (bind (failHere _) hvalue))) (ite hinitialized hnone)

theorem variableBinding (hg : g.GivesSound depth) (inFor : Bool) :
    Gives (Sound depth) (variableBinding g inFor) := by
  unfold Estree.variableBinding
  refine skip fun start => bindPair (hg.pattern _) fun id names hid => skip fun _ =>
    skip fun _ => ?_
  have hvalue (value : Tree) (h : Sound depth value) :
      Gives (Sound depth) (Estree.declarator start id value) := declarator start hid h
  exact ite (bind (initializer hg) hvalue) (bind (pure sound_null) hvalue)

theorem commaList {item : P Tree} (hitem : Gives (Sound depth) item) :
    Gives (fun items => ∀ t ∈ items, Sound depth t) (commaList item) :=
  bind hitem fun _ hfirst => itemsAfterCommas hfirst hitem

theorem variableStatement (hg : g.GivesSound depth) :
    Gives (Sound depth) (variableStatement g) := by
  unfold Estree.variableStatement
  exact skip fun start => skip fun _ => bind (commaList (variableBinding hg false))
    fun declarations h => skip fun _ => finish (sound_variableDeclaration h _) start

theorem lexicalDeclaration (hg : g.GivesSound depth) :
    Gives (Sound depth) (lexicalDeclaration g) := by
  unfold Estree.lexicalDeclaration
  refine skip fun start => skip fun t => ?_
  obtain ⟨declaring, kind⟩ := lexicalKind t
  exact bind (commaList (lexicalBinding hg declaring false)) fun declarations h => skip fun _ =>
    finish (sound_variableDeclaration h kind) start

/-! ## Conditions and loops -/

theorem branch (hg : g.GivesSound depth) : Gives (Sound depth) (branch g) :=
  skip fun _ => skip fun _ => skip fun _ => hg.statement

theorem ifStatement (hg : g.GivesSound depth) : Gives (Sound depth) (ifStatement g) := by
  unfold Estree.ifStatement
  refine skip fun start => skip fun _ => skip fun _ => bind (expression hg) fun test htest =>
    skip fun isClosed => bind (closeHead (branch hg)) fun consequent hconsequent => ?_
  extract_lets rest
  have hrest (alternate : Tree) (h : Sound depth alternate) :
      Gives (Sound depth) (rest alternate) :=
    finish (sound_node (by decide) (by simp [htest, hconsequent, h])) start
  have hnone := bind (pure sound_null) hrest
  exact ite (skip fun _ => ite (bind (branch hg) hrest) hnone) hnone

theorem doWhileStatement (hg : g.GivesSound depth) : Gives (Sound depth) (doWhileStatement g) := by
  unfold Estree.doWhileStatement
  refine skip fun start => skip fun _ => bind (Q := Sound depth) (within hg.statement)
    fun body hbody => skip fun _ => skip fun _ => bind (expression hg) fun test htest =>
      skip fun _ => ?_
  extract_lets rest
  have hrest (r : Unit) : Gives (Sound depth) (rest r) :=
    finish (sound_node (by decide) (by simp [hbody, htest])) start
  exact ite (skip fun _ => hrest ()) (skip fun _ => skip hrest)

theorem whileStatement (hg : g.GivesSound depth) : Gives (Sound depth) (whileStatement g) := by
  unfold Estree.whileStatement
  exact skip fun start => skip fun _ => skip fun _ => bind (expression hg) fun test htest =>
    bind (closeHead (within hg.statement)) fun body hbody =>
      finish (sound_node (by decide) (by simp [htest, hbody])) start

/-- All trees in the head of a loop are sound. -/
inductive SoundForHead (depth : Nat) : ForHead → Prop where
  | counting {start : Tree} (start_sound : Sound depth start) : SoundForHead depth (.counting start)
  | keys {left right : Tree} (left_sound : Sound depth left) (right_sound : Sound depth right) :
    SoundForHead depth (.keys left right)
  | values {left right : Tree} (left_sound : Sound depth left) (right_sound : Sound depth right) :
    SoundForHead depth (.values left right)

theorem forKeys (hg : g.GivesSound depth) {left : Tree} (hleft : Sound depth left) :
    Gives (SoundForHead depth) (forKeys g left) :=
  skip fun _ => bind (expression hg) fun _ hright => pure (.keys hleft hright)

theorem forValues (hg : g.GivesSound depth) {left : Tree} (hleft : Sound depth left) :
    Gives (SoundForHead depth) (forValues g left) :=
  skip fun _ => bind hg.assignment fun _ hright => pure (.values hleft hright)

theorem forVariables (hg : g.GivesSound depth) : Gives (SoundForHead depth) (forVariables g) := by
  unfold Estree.forVariables
  refine skip fun start => skip fun _ => bind (withoutIn (commaList (variableBinding hg true)))
    fun declarations hdeclarations => ?_
  refine bind (Q := Sound depth) (finish (sound_variableDeclaration hdeclarations _) start)
    fun declared hdeclared => ?_
  exact skip fun _ => ite (skip fun _ => skip fun _ => forKeys hg hdeclared) (skip fun _ =>
    ite (forValues hg hdeclared) (skip fun _ => pure (.counting hdeclared)))

theorem forLexical (hg : g.GivesSound depth) : Gives (SoundForHead depth) (forLexical g) := by
  unfold Estree.forLexical
  refine skip fun start => skip fun t => ?_
  obtain ⟨declaring, kind⟩ := lexicalKind t
  refine skip fun c => skip fun next => ite ?keyword (bind (withoutIn
    (commaList (lexicalBinding hg declaring true))) fun declarations h => ?declarations)
  case keyword =>
    exact bind (Q := Sound depth) (finish (sound_identifier _) start) fun left hleft =>
      forKeys hg hleft
  case declarations =>
    have hdeclared : Gives (Sound depth)
        (Estree.finish start (variableDeclaration declarations kind)) :=
      finish (sound_variableDeclaration h kind) start
    exact skip fun _ => ite (bind hdeclared fun left hleft => forKeys hg hleft) (skip fun _ =>
      ite (bind hdeclared fun left hleft => forValues hg hleft)
        (skip fun _ => bind hdeclared fun first hfirst => pure (.counting hfirst)))

theorem forExpression (hg : g.GivesSound depth) : Gives (SoundForHead depth) (forExpression g) := by
  unfold Estree.forExpression
  refine skip fun token => bind (withoutIn (inherited hg.assignment)) fun first hfirst =>
    skip fun isIn => skip fun _ => ite ?through (skip fun _ => ?counting)
  case through =>
    exact skip fun _ => skip fun _ => ite (forKeys hg hfirst.toPattern)
      (forValues hg hfirst.toPattern)
  case counting =>
    extract_lets rest
    have hrest (e : Tree) (h : Sound depth e) : Gives (SoundForHead depth) (rest e) :=
      skip fun _ => pure (.counting h)
    refine ite (bind (itemsAfterCommas hfirst (isolated hg.assignment)) fun all hall => ?_)
      (bind (pure hfirst) hrest)
    exact bind (finishFrom (sound_node (by decide) (by simpa using hall)) token) hrest

theorem forHead (hg : g.GivesSound depth) : Gives (SoundForHead depth) (forHead g) := by
  unfold Estree.forHead
  exact skip fun _ => ite (pure (.counting sound_null)) (skip fun _ => ite (forVariables hg)
    (skip fun _ => ite (forLexical hg) (forExpression hg)))

theorem forStatement (hg : g.GivesSound depth) : Gives (Sound depth) (forStatement g) := by
  unfold Estree.forStatement
  refine skip fun start => skip fun _ => skip fun _ => bind (forHead hg) fun head hhead => ?_
  have hbody : Gives (Sound depth) (Estree.closeHead (loopBody (Estree.isolated g.statement))) :=
    closeHead (within (isolated hg.statement))
  cases hhead with
  | @counting first hfirst =>
    refine skip fun _ => ?_
    have hend (test : Tree) (htest : Sound depth test) (update : Tree)
        (hupdate : Sound depth update) :
        Gives (Sound depth) (Estree.closeHead (loopBody (Estree.isolated g.statement)) >>=
          fun body => Estree.finish start (node "ForStatement"
            [("init", first), ("test", test), ("update", update), ("body", body)])) :=
      bind hbody fun body hbody =>
        finish (sound_node (by decide) (by simp [hfirst, htest, hupdate, hbody])) start
    have htested (test : Tree) (htest : Sound depth test) := skip (p := expect ";") fun _ =>
      skip (p := atMark ")") fun isLast => ite (c := isLast)
        (bind (pure sound_null) (hend test htest)) (bind (expression hg) (hend test htest))
    exact ite (bind (pure sound_null) htested) (bind (expression hg) htested)
  | keys hleft hright =>
    exact bind hbody fun body hbody =>
      finish (sound_node (by decide) (by simp [hleft, hright, hbody])) start
  | values hleft hright =>
    exact bind hbody fun body hbody =>
      finish (sound_node (by decide) (by simp [hleft, hright, hbody])) start

/-! ## Jumps -/

theorem jumpLabel : Gives (Sound depth) jumpLabel := by
  unfold Estree.jumpLabel
  refine skip fun s => ite ?_ (pure sound_null)
  exact bind (Q := Sound depth) (variableName _) fun label hlabel => ite (pure hlabel) (failHere _)

theorem continueStatement : Gives (Sound depth) continueStatement := by
  unfold Estree.continueStatement
  refine skip fun start => skip fun _ => bind (Q := Sound depth) jumpLabel fun label hlabel =>
    skip fun _ => skip fun c => ?_
  extract_lets rest
  have hrest (r : Unit) : Gives (Sound depth) (rest r) :=
    finish (sound_node (by decide) (by simp [hlabel])) start
  exact ite (skip hrest) (hrest ())

theorem breakStatement : Gives (Sound depth) breakStatement := by
  unfold Estree.breakStatement
  refine skip fun start => skip fun _ => bind (Q := Sound depth) jumpLabel fun label hlabel =>
    skip fun _ => skip fun c => ?_
  extract_lets rest
  have hrest (r : Unit) : Gives (Sound depth) (rest r) :=
    finish (sound_node (by decide) (by simp [hlabel])) start
  exact ite (skip hrest) (hrest ())

theorem returnStatement (hg : g.GivesSound depth) : Gives (Sound depth) (returnStatement g) := by
  unfold Estree.returnStatement
  refine skip fun _ => skip fun _ => skip fun start => skip fun _ => skip fun s => ?_
  extract_lets hasArgument rest
  have hrest (argument : Tree) (h : Sound depth argument) : Gives (Sound depth) (rest argument) :=
    skip fun _ => finish (sound_node (by decide) (by simp [h])) start
  exact ite (bind (expression hg) hrest) (bind (pure sound_null) hrest)

theorem throwStatement (hg : g.GivesSound depth) : Gives (Sound depth) (throwStatement g) := by
  unfold Estree.throwStatement
  refine skip fun start => skip fun _ => skip fun s => ?_
  extract_lets rest
  have hrest (r : Unit) : Gives (Sound depth) (rest r) :=
    bind (expression hg) fun argument h => skip fun _ =>
      finish (sound_node (by decide) (by simp [h])) start
  exact ite (skip hrest) (hrest ())

/-! ## Cases, handlers and labels -/

theorem withStatement (hg : g.GivesSound depth) : Gives (Sound depth) (withStatement g) := by
  unfold Estree.withStatement
  exact skip fun _ => skip fun _ => skip fun start => skip fun _ => skip fun _ =>
    bind (expression hg) fun object hobject => bind (closeHead hg.statement) fun body hbody =>
      finish (sound_node (by decide) (by simp [hobject, hbody])) start

theorem switchCase (hg : g.GivesSound depth) : Gives (Sound depth) (switchCase g) := by
  unfold Estree.switchCase
  refine skip fun start => skip fun _ => ?_
  extract_lets isDone rest
  have hrest (test : Tree) (h : Sound depth test) : Gives (Sound depth) (rest test) :=
    skip fun _ => bind (readUntil hg.listItem) fun items hitems =>
      finish (sound_node (by decide) (by simpa [h] using hitems)) start
  exact ite (bind (pure sound_null) hrest) (skip fun _ => bind (expression hg) hrest)

theorem switchCases (hg : g.GivesSound depth) :
    Gives (fun found => ∀ t ∈ found, Sound depth t) (switchCases g) := by
  unfold Estree.switchCases
  refine skip fun _ => bind (Q := fun found => ∀ t ∈ found, Sound depth t) ?_ fun found hfound =>
    skip fun _ => pure (forall_mem_reverse hfound)
  refine repeating (I := fun found => ∀ t ∈ found.1, Sound depth t) (fun t ht => nomatch ht)
    fun ⟨clauses, hasDefault⟩ hfound => skip fun _ => ite (pure hfound) ?_
  refine bind (switchCase hg) fun clause hclause => ?_
  have hmore : ∀ t ∈ clause :: clauses, Sound depth t := List.forall_mem_cons.mpr ⟨hclause, hfound⟩
  exact ite (skip fun _ => pure hmore) (pure hmore)

theorem switchStatement (hg : g.GivesSound depth) : Gives (Sound depth) (switchStatement g) := by
  unfold Estree.switchStatement
  exact skip fun start => skip fun _ => skip fun _ => bind (expression hg) fun discriminant hd =>
    skip fun _ => skip fun outer => skip fun _ => bind (switchCases hg) fun clauses hclauses =>
      skip fun _ => finish (sound_node (by decide) (by simpa [hd] using hclauses)) start

theorem catchClause (hg : g.GivesSound depth) : Gives (Sound depth) (catchClause g) := by
  unfold Estree.catchClause
  refine skip fun start => skip fun _ => skip fun _ => skip fun _ => ?_
  extract_lets rest
  have hrest (r : Unit) : Gives (Sound depth) (rest r) :=
    bindPair (hg.pattern _) fun param names hparam => skip fun _ => skip fun _ => skip fun _ =>
      bind (block hg) fun body hbody =>
        finish (sound_node (by decide) (by simp [hparam, hbody])) start
  exact ite (skip fun _ => skip hrest) (hrest ())

theorem tryStatement (hg : g.GivesSound depth) : Gives (Sound depth) (tryStatement g) := by
  unfold Estree.tryStatement
  refine skip fun start => skip fun _ => bind (block hg) fun body hbody => skip fun _ => ?_
  extract_lets rest
  have hrest (handler : Tree) (hhandler : Sound depth handler) :
      Gives (Sound depth) (rest handler) := by
    refine skip fun _ => ?_
    extract_lets final
    have hfinal (finalizer : Tree) (h : Sound depth finalizer) :
        Gives (Sound depth) (final finalizer) := by
      have hend : Gives (Sound depth) (Estree.finish start (node "TryStatement"
          [("block", body), ("handler", handler), ("finalizer", finalizer)])) :=
        finish (sound_node (by decide) (by simp [hbody, hhandler, h])) start
      exact ite (skip fun _ => hend) hend
    exact ite (bind (block hg) hfinal) (bind (pure sound_null) hfinal)
  exact ite (bind (catchClause hg) hrest) (bind (pure sound_null) hrest)

theorem labelledBody (hg : g.GivesSound depth) : Gives (Sound depth) (labelledBody g) := by
  unfold Estree.labelledBody
  exact skip fun _ => ite (skip fun _ => classDeclaration hg false) (skip fun _ =>
    ite (bind (functionDeclaration hg false) fun declaration h =>
      skip fun _ => skip fun _ => pure h) hg.statement)

theorem labelledStatement (hg : g.GivesSound depth) :
    Gives (Sound depth) (labelledStatement g) := by
  unfold Estree.labelledStatement
  refine skip fun start => bind (expression hg) fun e he => skip fun _ => ite ?label ?expression
  case label =>
    refine skip fun _ => skip fun outer => ?_
    extract_lets rest
    have hrest (r : Unit) : Gives (Sound depth) (rest r) :=
      skip fun _ => bind (labelledBody hg) fun body hbody => skip fun _ =>
        finish (sound_node (by decide) (by simp [he, hbody])) start
    exact ite (skip hrest) (hrest ())
  case expression => exact skip fun _ => finish (sound_node (by decide) (by simp [he])) start

/-! ## Statements -/

theorem keywordStatements (hg : g.GivesSound depth) :
    ∀ entry ∈ keywordStatements g, Gives (Sound depth) entry.2 := by
  simp only [Estree.keywordStatements, List.forall_mem_cons]
  exact ⟨breakStatement, continueStatement, debuggerStatement, doWhileStatement hg, forStatement hg,
    functionDeclaration hg false, ifStatement hg, returnStatement hg, switchStatement hg,
    throwStatement hg, tryStatement hg, variableStatement hg, whileStatement hg, withStatement hg,
    List.forall_mem_nil _⟩

theorem statement (hg : g.GivesSound depth) : Gives (Sound depth) (statement g) := by
  unfold Estree.statement
  refine skip fun token => ?_
  split
  · exact block hg
  · exact emptyStatement
  · exact skip fun _ => ite (functionDeclaration hg false) (labelledStatement hg)
  · split
    · rename_i hfind
      exact keywordStatements hg _ (List.mem_of_find?_eq_some hfind)
    · exact expressionStatement hg
  · exact failAt token
  · exact expressionStatement hg

end Gives

end EndpointCatalog.Estree
