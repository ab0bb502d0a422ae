/-
EndpointCatalog.Proofs.Correspondence — the records of a file and the
endpoints of its tree, one for one.

* `RecordOf`: what stands in the record of an endpoint.
* `Corresponds`: some nodes and some records, both in order. Each endpoint
  has its own record, and no other node has one.
* `source_records_correspond`: the records of a source correspond to the
  mappings of its tree in pre-order.

Not every mapping of a tree is a node. The last part of the theorem is about
those that are none: the mapping of a node's fields is never an endpoint,
whatever the fields are called.
-/
import EndpointCatalog.Proofs.Projection
import EndpointCatalog.Proofs.Rules
import EndpointCatalog.Proofs.Run
import EndpointCatalog.Proofs.Walk

namespace EndpointCatalog

/-! ## Records of endpoints -/

/-- The static text of a call's first argument; empty if there is no such argument or if the
argument is dynamic. -/
def SourceLanguage.staticText (language : SourceLanguage) (call : CallShape) : Text :=
  (call.arguments.head?.bind language.dialect.routeText?).getD []

/-- The record of a call that is an endpoint of a kind with a method. -/
structure RecordOf (language : SourceLanguage) (s : Search) (source : Source) (kind : EndpointKind)
    (method : Method) (call : CallShape) (r : EndpointRecord) : Prop where
  kind_eq : r.kind = kind
  method_eq : r.method = method
  path_eq : r.path = match kind with
    | .route =>
      Text.ofString (Resource.ofPath source.path).endpointPath ++ language.staticText call
    | .request => language.staticText call
  line_eq : r.line = call.line
  sourceFile_eq : r.sourceFile = source.label
  resourceName_eq : r.resourceName = Text.ofString (Resource.ofPath source.path).name
  metadata_eq : some ⟨r.headers, r.queryParameters, r.body⟩ = match kind with
    | .route => serverMetadata? language.dialect s.profile call
    | .request => clientMetadata? language.dialect call

/-- Nodes and records in order: an endpoint has its own record, another node has none. -/
inductive Corresponds (language : SourceLanguage) (s : Search) (source : Source) :
    List Tree → List EndpointRecord → Prop where
  | nil : Corresponds language s source [] []
  | endpoint {node : Tree} {nodes : List Tree} {call : CallShape} {kind : EndpointKind}
      {method : Method} {r : EndpointRecord} {records : List EndpointRecord}
      (shape : language.MemberCall node call) (rule : language.Rule s call kind method)
      (record : RecordOf language s source kind method call r)
      (rest : Corresponds language s source nodes records) :
      Corresponds language s source (node :: nodes) (r :: records)
  | other {node : Tree} {nodes : List Tree} {records : List EndpointRecord}
      (none : ∀ call, language.MemberCall node call →
        ∀ kind method, ¬ language.Rule s call kind method)
      (rest : Corresponds language s source nodes records) :
      Corresponds language s source (node :: nodes) records

theorem firstArgumentText_eq (language : SourceLanguage) (call : CallShape) :
    EndpointRecord.firstArgumentText language.dialect call = language.staticText call := by
  cases h : call.arguments with
  | nil => simp only [EndpointRecord.firstArgumentText, SourceLanguage.staticText, h,
      List.head?_nil, Option.bind_none, Option.getD_none]
  | cons first rest => simp only [EndpointRecord.firstArgumentText, SourceLanguage.staticText, h,
      List.head?_cons, Option.bind_some]

theorem recordOf_of_ofMatch? {language : SourceLanguage} {s : Search} {source : Source}
    {found : EndpointMatch} {r : EndpointRecord}
    (h : EndpointRecord.ofMatch? language.dialect s.profile (Resource.ofPath source.path)
      source.label found = some r) :
    RecordOf language s source found.kind found.method found.call r := by
  obtain ⟨kind, method, call⟩ := found
  simp only [EndpointRecord.ofMatch?, Option.bind_eq_bind, Option.bind_eq_some_iff] at h
  obtain ⟨⟨headers, query, body⟩, hmeta, heq⟩ := h
  have hr := Option.some.inj heq
  have hpath : r.path = EndpointRecord.pathOf language.dialect (Resource.ofPath source.path)
      ⟨kind, method, call⟩ := by rw [← hr]
  have hresource : r.resourceName = Text.ofString (Resource.ofPath source.path).name := by rw [← hr]
  have hmetadata : some ⟨r.headers, r.queryParameters, r.body⟩ =
      EndpointRecord.metadataOf? language.dialect s.profile ⟨kind, method, call⟩ := by
    rw [← hr, hmeta]
  have hkind : r.kind = kind ∧ r.method = method ∧ r.line = call.line ∧
      r.sourceFile = source.label := by
    rw [← hr]
    exact ⟨rfl, rfl, rfl, rfl⟩
  obtain ⟨hkind, hmethod, hline, hsource⟩ := hkind
  cases kind with
  | route =>
    refine ⟨hkind, hmethod, ?_, hline, hsource, hresource, hmetadata⟩
    rw [hpath, EndpointRecord.pathOf, ← firstArgumentText_eq]
    rfl
  | request =>
    refine ⟨hkind, hmethod, ?_, hline, hsource, hresource, hmetadata⟩
    rw [hpath, EndpointRecord.pathOf, ← firstArgumentText_eq]

/-! ## Trees -/

/-- Matching a list of nodes and recording what matches. -/
theorem corresponds_of_filterMap {language : SourceLanguage} {s : Search} {source : Source} :
    ∀ {nodes : List Tree} {records : List EndpointRecord},
      (nodes.filterMap (s.match? language)).mapM (EndpointRecord.ofMatch? language.dialect
        s.profile (Resource.ofPath source.path) source.label) = some records →
      Corresponds language s source nodes records := by
  intro nodes
  induction nodes with
  | nil =>
    intro records h
    cases h
    exact .nil
  | cons node nodes ih =>
    intro records h
    cases hfound : s.match? language node with
    | none =>
      rw [List.filterMap_cons_none hfound] at h
      refine .other (fun call hshape kind method hrule => ?_) (ih h)
      have hmatch : s.match? language node = some ⟨kind, method, call⟩ :=
        match?_eq_some_iff.mpr ⟨hshape, hrule⟩
      rw [hfound] at hmatch
      cases hmatch
    | some found =>
      rw [List.filterMap_cons_some hfound, List.mapM_cons] at h
      simp only [Option.bind_eq_bind, Option.bind_eq_some_iff] at h
      obtain ⟨r, hr, rest, hrest, heq⟩ := h
      cases heq
      obtain ⟨hshape, hrule⟩ := match?_eq_some_iff.mp hfound
      exact .endpoint hshape hrule (recordOf_of_ofMatch? hr) (ih hrest)

/-- The records of a tree are those of its endpoints, if each of them has one. -/
theorem returns_records_iff {s : Search} {dialect : Dialect}
    {match? : Tree → Option EndpointMatch} {source : Source} {tree : Tree}
    {records : List EndpointRecord} :
    Returns (s.records dialect match? source tree) records ↔
      (tree.mappings.filterMap match?).mapM (EndpointRecord.ofMatch? dialect s.profile
        (Resource.ofPath source.path) source.label) = some records := by
  rw [← Tree.walk_eq_mappings]
  simp only [Search.records]
  split
  · rename_i found hfound
    rw [hfound, Option.some.injEq]
    exact ⟨fun h => h.of_pure, fun h => ⟨[], [], h ▸ rfl⟩⟩
  · rename_i hnone
    rw [hnone]
    exact ⟨fun h => absurd h (not_returns_throw _ _), fun h => nomatch h⟩

theorem corresponds_of_records {language : SourceLanguage} {s : Search} {source : Source}
    {tree : Tree} {records : List EndpointRecord}
    (h : Returns (s.records language.dialect (s.match? language) source tree) records) :
    Corresponds language s source tree.mappings records :=
  corresponds_of_filterMap (returns_records_iff.mp h)

/-! ## Files -/

/-- The tree that a source is read as. -/
inductive Source.TreeOf (source : Source) : SourceLanguage → Tree → Prop where
  | script {parsed : Estree.Parsed} (h : Estree.parse source.text = .ok parsed) :
      TreeOf source .plain parsed.tree
  | typed (h : (Cst.parse source.text).hasFault = false) :
      TreeOf source .typed (Cst.project source.text.toArray (Cst.parse source.text))

theorem parseScript_returns {source : Source} {read : Except String Tree}
    (h : Returns source.parseScript read) :
    (∃ reason stop, Estree.parse source.text = .error stop ∧ read = .error reason) ∨
      ∃ tree, source.TreeOf .plain tree ∧ read = .ok tree := by
  unfold Source.parseScript at h
  split at h
  · exact absurd h (not_returns_throw _ _)
  · rename_i stop _ hparse
    exact .inl ⟨stop.message, stop, hparse, h.of_pure.symm⟩
  · rename_i parsed hparse
    refine .inr ⟨parsed.tree, .script hparse, ?_⟩
    -- tolerated faults are logged and change nothing else
    simp only at h
    split at h
    · obtain ⟨_, -, h⟩ := h.of_bind
      exact h.of_pure.symm
    · exact h.of_pure.symm

theorem scriptEndpoints_returns {source : Source} {s : Search} {records : List EndpointRecord}
    (h : Returns (source.scriptEndpoints s) records) :
    ((∃ stop, Estree.parse source.text = .error stop) ∧ records = []) ∨
      ∃ tree, source.TreeOf .plain tree ∧
        Returns (s.records Estree.dialect s.matchScript? source tree) records := by
  unfold Source.scriptEndpoints at h
  obtain ⟨read, hread, h⟩ := h.of_bind
  rcases parseScript_returns hread with ⟨reason, stop, hparse, rfl⟩ | ⟨tree, htree, rfl⟩
  · obtain ⟨_, -, h⟩ := h.of_bind
    exact .inl ⟨⟨stop, hparse⟩, h.of_pure.symm⟩
  · replace h : Returns (s.scriptRecords source tree) records := h
    unfold Search.scriptRecords at h
    split at h
    · exact absurd h (not_returns_throw _ _)
    · exact .inr ⟨tree, htree, h⟩

theorem typedEndpoints_returns {source : Source} {s : Search} {records : List EndpointRecord}
    (h : Returns (source.typedEndpoints s) records) :
    ∃ tree, source.TreeOf .typed tree ∧
      Returns (s.records Cst.dialect s.matchTyped? source tree) records := by
  unfold Source.typedEndpoints at h
  obtain ⟨tree, htree, h⟩ := h.of_bind
  unfold Source.parseTyped at htree
  simp only at htree
  split at htree
  · exact absurd htree (not_returns_throw _ _)
  · rename_i hfault
    rw [← htree.of_pure] at h
    exact ⟨_, .typed (by simpa using hfault), h⟩

theorem corresponds_of_endpoints {language : SourceLanguage} {s : Search} {source : Source}
    {records : List EndpointRecord} (hlang : source.path.language? = some language)
    (h : Returns (source.endpoints s) records) :
    (∃ tree, source.TreeOf language tree ∧ Corresponds language s source tree.mappings records) ∨
      language = .plain ∧ (∃ stop, Estree.parse source.text = .error stop) ∧ records = [] := by
  unfold Source.endpoints at h
  rw [hlang] at h
  cases language with
  | typed =>
    obtain ⟨tree, htree, h⟩ := typedEndpoints_returns h
    exact .inl ⟨tree, htree, corresponds_of_records h⟩
  | plain =>
    rcases scriptEndpoints_returns h with hfailed | ⟨tree, htree, h⟩
    · exact .inr ⟨rfl, hfailed⟩
    · exact .inl ⟨tree, htree, corresponds_of_records h⟩

/-! ## Mappings that are no nodes -/

/-- What has no kind is no call. -/
theorem not_memberCall_of_no_kind {language : SourceLanguage} {node : Tree}
    (h : ∀ kind, node.get language.kindKey ≠ .text kind) (call : CallShape) :
    ¬ language.MemberCall node call := by
  intro hcall
  cases language with
  | typed => exact h _ (Tree.hasText_iff.mp hcall.isCall)
  | plain => exact h _ (Tree.hasText_iff.mp hcall.isCall)

/-- The mapping of a node's fields is no call. -/
theorem not_memberCall_fields {source : Array Char} {n : Cst.Node} {node : Tree} {kind : Text}
    (hnode : node ∈ (Cst.project source n).mappings) (hkind : node.get "kind" = .text kind)
    (call : CallShape) : ¬ SourceLanguage.typed.MemberCall (node.get "fields") call := by
  obtain ⟨fields, hfields, hholds⟩ := Cst.fieldsHoldNodes_project source n node hnode kind hkind
  rw [hfields]
  exact not_memberCall_of_no_kind (hholds.get_ne_text "kind") call

/-- The records of a tree, if there are any, correspond to its mappings in pre-order, and so do
the records of a file; a script that does not parse has none. What has no kind is no call, and
the mapping of a typed node's fields has no kind. -/
theorem source_records_correspond (language : SourceLanguage) (s : Search) (source : Source) :
    (∀ tree records,
      Returns (s.records language.dialect (s.match? language) source tree) records →
        Corresponds language s source tree.mappings records) ∧
    (∀ records, source.path.language? = some language → Returns (source.endpoints s) records →
      (∃ tree, source.TreeOf language tree ∧
        Corresponds language s source tree.mappings records) ∨
      language = .plain ∧ (∃ stop, Estree.parse source.text = .error stop) ∧ records = []) ∧
    (∀ node call, (∀ kind, node.get language.kindKey ≠ .text kind) →
      ¬ language.MemberCall node call) ∧
    ∀ chars n, ∀ node ∈ (Cst.project chars n).mappings, ∀ kind, node.get "kind" = .text kind →
      ∀ call, ¬ SourceLanguage.typed.MemberCall (node.get "fields") call := by
  refine ⟨?_, ?_, ?_, ?_⟩
  · intro tree records h
    exact corresponds_of_records h
  · intro records hlang h
    exact corresponds_of_endpoints hlang h
  · intro node call h
    exact not_memberCall_of_no_kind h call
  · intro chars n node hnode kind hkind call
    exact not_memberCall_fields hnode hkind call

/-- A script with one route. -/
def routerScript : Source := ⟨⟨.relative, ["shop.js"]⟩, "shop.js", "router.get(\"/x\");".toList⟩

/-- Looks for the routes of `router`. -/
def routerSearch : Search := ⟨.express, "router"⟩

/-- The syntax node of an empty file. -/
def emptyFile : Cst.Node := .mk { kind := "program", start := 0, stop := 0, row := 0 } []

theorem source_records_correspond_routerScript :
    (∃ records, Returns (routerScript.endpoints routerSearch) records ∧
      records.map EndpointRecord.path = [Text.ofString "/shop/x"] ∧
      ∃ tree, routerScript.TreeOf .plain tree ∧
        Returns (routerSearch.records Estree.dialect routerSearch.matchScript? routerScript tree)
          records ∧
        Corresponds .plain routerSearch routerScript tree.mappings records) ∧
    ∀ call, ¬ SourceLanguage.typed.MemberCall ((Cst.project #[] emptyFile).get "fields") call := by
  obtain ⟨ofTree, ofFile, -, ofFields⟩ :=
    source_records_correspond .plain routerSearch routerScript
  constructor
  · have hread : (match Estree.parse routerScript.text with
        | .ok parsed => parsed.faults == 0 && !routerSearch.scriptTooLong parsed.tree &&
          ((parsed.tree.mappings.filterMap routerSearch.matchScript?).mapM
            (EndpointRecord.ofMatch? Estree.dialect routerSearch.profile
              (Resource.ofPath routerScript.path) routerScript.label)).map
                (List.map EndpointRecord.path) == some [Text.ofString "/shop/x"]
        | .error _ => false) = true := by
      decide +kernel
    split at hread
    · rename_i parsed hparse
      simp only [Bool.and_eq_true, Bool.not_eq_true', beq_iff_eq, Option.map_eq_some_iff] at hread
      obtain ⟨⟨hfaults, hlong⟩, records, hrecords, hpaths⟩ := hread
      have htree := returns_records_iff.mpr hrecords
      have hscript : routerScript.parseScript = pure (.ok parsed.tree) := by
        simp only [Source.parseScript, hparse, hfaults, gt_iff_lt, Nat.lt_irrefl, if_false]
      have hfile : Returns (routerScript.endpoints routerSearch) records := by
        show Returns (routerScript.scriptEndpoints routerSearch) records
        rw [Source.scriptEndpoints, hscript, pure_bind]
        show Returns (routerSearch.scriptRecords routerScript parsed.tree) records
        rw [Search.scriptRecords, hlong]
        exact htree
      rcases ofFile records rfl hfile with ⟨tree, hread, -⟩ | ⟨-, ⟨stop, hstop⟩, -⟩
      · cases hread with
        | script hagain =>
          rw [hparse] at hagain
          cases hagain
          exact ⟨records, hfile, hpaths, _, .script hparse, htree, ofTree _ records htree⟩
      · rw [hparse] at hstop
        cases hstop
    · cases hread
  · exact ofFields #[] emptyFile _ (.head _) _ rfl

end EndpointCatalog
