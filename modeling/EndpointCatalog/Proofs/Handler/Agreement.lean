/-
EndpointCatalog.Proofs.Handler.Agreement — a handler in both languages.

Both dialects read off a handler what it reads as it is written
(`handlers_scanned_alike`), however deep the code is and in whatever order
the nodes are visited: the same sections, and the same names but for how
words are called. A script calls an identifier by its name, a typed script as
it is written, so an identifier with an escape gives two catalogs
(`escaped_member_differs`), and `undefined` is no identifier in an
expression.

* `ScansAs`: what a scan adds to what is known before.
* `scanHandler_of_shows`: a scan of a tree that shows a code adds what the
  code reads, in any dialect that keeps the laws of its shape.
-/
import EndpointCatalog.Proofs.Handler.Script
import EndpointCatalog.Proofs.Handler.Typed
import EndpointCatalog.Proofs.Literal.Agreement

namespace EndpointCatalog

/-! ## Reads of the body -/

section

variable {d : Dialect} {profile : Profile} {request : Text} {reads : HandlerReads} {node : Tree}

theorem isSome_body_note {sect : Section} {name : Option Text} :
    (reads.note sect name).body.isSome = true ↔ reads.body.isSome = true ∨ sect = .body := by
  cases sect <;> cases name <;> simp [HandlerReads.note]

theorem isSome_body_noteMember :
    (noteMember d profile request reads node).body.isSome = true ↔ reads.body.isSome = true ∨
      ∃ chain name, requestChain? d request node = some chain ∧ chain ≠ [] ∧
        classify profile chain = some (.body, name) := by
  unfold noteMember
  split
  · next first rest hchain =>
    split
    · next sect name hread =>
      rw [isSome_body_note]
      refine or_congr_right ⟨?_, ?_⟩
      · rintro rfl
        exact ⟨_, name, hchain, List.cons_ne_nil _ _, hread⟩
      · rintro ⟨chain, name', hchain', -, hread'⟩
        rw [hchain] at hchain'
        cases hchain'
        rw [hread] at hread'
        cases hread'
        rfl
    · next hread =>
      refine ⟨.inl, fun h => h.resolve_right ?_⟩
      rintro ⟨chain, name, hchain', -, hread'⟩
      rw [hchain] at hchain'
      cases hchain'
      rw [hread] at hread'
      cases hread'
  · next hchain =>
    refine ⟨.inl, fun h => h.resolve_right ?_⟩
    rintro ⟨chain, name, hchain', hne, -⟩
    cases chain with
    | nil => exact hne rfl
    | cons first rest => exact hchain first rest hchain'

theorem isSome_body_noteDestructuring :
    (noteDestructuring d profile request reads node).body.isSome = true ↔
      reads.body.isSome = true ∨ ∃ key, ReadsDestructured d profile request node .body key := by
  unfold noteDestructuring ReadsDestructured
  split
  · next hnone =>
    refine ⟨.inl, fun h => h.resolve_right ?_⟩
    rintro ⟨-, pattern, -, hpattern, -⟩
    rw [hnone] at hpattern
    cases hpattern
  · next pattern hpattern =>
    split
    · next sect hwhole =>
      obtain ⟨chain, hchain, hread⟩ := Option.bind_eq_some_iff.1 hwhole
      rw [foldl_iff (fun b : HandlerReads => b.body.isSome = true) (fun _ => sect = .body)
        (fun b key => isSome_body_note)]
      refine or_congr_right ⟨?_, ?_⟩
      · rintro ⟨key, hkey, rfl⟩
        exact ⟨key, pattern, chain, hpattern, hchain, hread, hkey⟩
      · rintro ⟨key, pattern', chain', hpattern', hchain', hread', hkey⟩
        rw [hpattern] at hpattern'
        cases hpattern'
        rw [hchain] at hchain'
        cases hchain'
        rw [hread] at hread'
        cases hread'
        exact ⟨key, hkey, rfl⟩
    · next hwhole =>
      refine ⟨.inl, fun h => h.resolve_right ?_⟩
      rintro ⟨-, pattern', chain, hpattern', hchain, hread, -⟩
      rw [hpattern] at hpattern'
      cases hpattern'
      exact hwhole .body (Option.bind_eq_some_iff.2 ⟨chain, hchain, hread⟩)

/-- A call gives headers only. -/
theorem body_noteGetter : (noteGetter d profile request reads node).body = reads.body := by
  unfold noteGetter
  repeat' split
  all_goals rfl

/-- One node opens the body if it reads of it, by a name or as a whole. -/
theorem isSome_body_noteNode :
    (noteNode d profile request reads node).body.isSome = true ↔ reads.body.isSome = true ∨
      ∃ name, (d.view node).Reads profile request .body name := by
  rw [noteNode, body_noteGetter, isSome_body_noteDestructuring, isSome_body_noteMember, or_assoc]
  refine or_congr_right ⟨?_, ?_⟩
  · rintro (⟨chain, name, hchain, hne, hread⟩ | ⟨key, hread⟩)
    · exact ⟨name, .member (Dialect.requestChain?_eq_some_iff.1 hchain) hne hread⟩
    · exact ⟨some key, Dialect.nodeReads_iff.1 (.inr (.inl hread))⟩
  · rintro ⟨name, hread⟩
    cases name with
    | none =>
      cases hread with
      | member hchain hne hread =>
        exact .inl ⟨_, none, Dialect.requestChain?_eq_some_iff.2 hchain, hne, hread⟩
    | some key =>
      rcases Dialect.nodeReads_iff.2 hread with ⟨chain, hchain, hne, hread⟩ | hread | ⟨hsect, -⟩
      · exact .inl ⟨chain, some key, hchain, hne, hread⟩
      · exact .inr ⟨key, hread⟩
      · cases hsect

end

/-! ## Scans -/

/-- The names of the fields of a body. -/
def Metadata.fields (found : Metadata) : List Text :=
  match found.body with
  | .map fields => Entries.keys fields
  | _ => []

/-- A scan adds the names that are read to what was known before. A body that was described
stays as it is; else there is a body if something of it is read. -/
structure ScansAs (reads : Section → Option Text → Prop) (found scanned : Metadata) : Prop where
  headers (key : Text) : key ∈ Entries.keys scanned.headers ↔
    key ∈ Entries.keys found.headers ∨ reads .headers (some key)
  query (key : Text) : key ∈ Entries.keys scanned.query ↔
    key ∈ Entries.keys found.query ∨ reads .query (some key)
  described : found.body.isNull = false → scanned.body = found.body
  null : found.body.isNull = true →
    (scanned.body.isNull = true ↔ ∀ name, ¬ reads .body name)
  fields : found.body.isNull = true →
    ∀ key, key ∈ scanned.fields ↔ reads .body (some key)

/-- Two scans give the same names, and a body on one side exactly when on the other. -/
structure Metadata.SameNames (found found' : Metadata) : Prop where
  headers (key : Text) :
    key ∈ Entries.keys found'.headers ↔ key ∈ Entries.keys found.headers
  query (key : Text) : key ∈ Entries.keys found'.query ↔ key ∈ Entries.keys found.query
  null : found'.body.isNull = found.body.isNull
  fields (key : Text) : key ∈ found'.fields ↔ key ∈ found.fields

theorem ScansAs.sameNames {reads reads' : Section → Option Text → Prop}
    {found scanned scanned' : Metadata} (h : ScansAs reads found scanned)
    (h' : ScansAs reads' found scanned') (hreads : ∀ sect name, reads' sect name ↔ reads sect name) :
    scanned.SameNames scanned' := by
  refine ⟨fun key => ?_, fun key => ?_, ?_, fun key => ?_⟩
  · rw [h'.headers, h.headers, hreads]
  · rw [h'.query, h.query, hreads]
  · cases hnull : found.body.isNull with
    | true =>
      rw [Bool.eq_iff_iff, h'.null hnull, h.null hnull]
      simp only [hreads]
    | false => rw [h'.described hnull, h.described hnull]
  · cases hnull : found.body.isNull with
    | true => rw [h'.fields hnull, h.fields hnull, hreads]
    | false => rw [Metadata.fields, h'.described hnull, Metadata.fields, h.described hnull]

/-- What the nodes of a handler read. -/
def HandlerSays (d : Dialect) (profile : Profile) (handler : Tree) (sect : Section)
    (name : Option Text) : Prop :=
  ∃ request, requestName? d handler = some request ∧
    ∃ node ∈ handler.mappings, (d.view node).Reads profile request sect name

section

variable {d : Dialect} {profile : Profile} {handler : Tree} {found : Metadata} {request : Text}

/-- What a scan has read when it has visited all nodes. -/
def readsAll (d : Dialect) (profile : Profile) (handler : Tree) (found : Metadata)
    (request : Text) : HandlerReads :=
  handler.walk.foldl (noteNode d profile request) ⟨found.headers, found.query, none⟩

theorem body_scanHandler (hrequest : requestName? d handler = some request) :
    (scanHandler d profile handler found).body =
      if found.body.isNull then
        (readsAll d profile handler found request).body.elim .null .map
      else found.body := by
  have hreads : handler.walk.foldl (noteNode d profile request)
      ⟨found.headers, found.query, none⟩ = readsAll d profile handler found request := rfl
  simp only [scanHandler, hrequest, hreads]
  cases found.body with
  | null => cases (readsAll d profile handler found request).body <;> rfl
  | _ => rfl

theorem isSome_body_readsAll :
    (readsAll d profile handler found request).body.isSome = true ↔
      ∃ name, ∃ node ∈ handler.mappings, (d.view node).Reads profile request .body name := by
  rw [readsAll, Tree.walk_eq_mappings, foldl_iff (fun b : HandlerReads => b.body.isSome = true)
    (fun node => ∃ name, (d.view node).Reads profile request .body name)
    (fun b node => isSome_body_noteNode), Option.isSome_none, or_iff_right Bool.false_ne_true]
  constructor
  · rintro ⟨node, hnode, name, hread⟩
    exact ⟨name, node, hnode, hread⟩
  · rintro ⟨name, node, hnode, hread⟩
    exact ⟨node, hnode, name, hread⟩

theorem mem_keys_body_readsAll {key : Text} :
    key ∈ Entries.keys ((readsAll d profile handler found request).body.getD []) ↔
      ∃ node ∈ handler.mappings, (d.view node).Reads profile request .body (some key) := by
  show key ∈ Entries.keys ((readsAll d profile handler found request).names .body) ↔ _
  rw [readsAll, Tree.walk_eq_mappings,
    foldl_iff (fun b : HandlerReads => key ∈ Entries.keys (b.names .body))
      (fun node => NodeReads d profile request node .body key) (fun b node => mem_keys_noteNode)]
  have hnew : key ∉ Entries.keys ((⟨found.headers, found.query, none⟩ : HandlerReads).names .body) :=
    List.not_mem_nil
  rw [or_iff_right hnew]
  simp only [Dialect.nodeReads_iff]

end

/-- A scan adds what the nodes read. -/
theorem scansAs_scanHandler (d : Dialect) (profile : Profile) (handler : Tree)
    (found : Metadata) :
    ScansAs (HandlerSays d profile handler) found (scanHandler d profile handler found) := by
  have hnames : ∀ sect, sect ≠ .body → ∀ key,
      key ∈ Entries.keys ((scanHandler d profile handler found).parameters sect) ↔
        key ∈ Entries.keys (found.parameters sect) ∨ HandlerSays d profile handler sect (some key) :=
    fun sect hsect key => by
      rw [mem_keys_scanHandler hsect]
      simp only [Dialect.nodeReads_iff, HandlerSays]
  cases hrequest : requestName? d handler with
  | none =>
    have hsame : scanHandler d profile handler found = found := by rw [scanHandler, hrequest]
    have hsilent : ∀ sect name, ¬ HandlerSays d profile handler sect name := by
      rintro sect name ⟨request, hrequest', -⟩
      rw [hrequest] at hrequest'
      cases hrequest'
    refine ⟨hnames .headers nofun, hnames .query nofun, fun _ => by rw [hsame], fun hnull => ?_,
      fun hnull key => ?_⟩
    · rw [hsame]
      exact iff_of_true hnull fun name => hsilent _ _
    · rw [hsame, Metadata.fields]
      refine iff_of_false ?_ (hsilent _ _)
      cases hbody : found.body <;> first | exact List.not_mem_nil | (rw [hbody] at hnull; cases hnull)
  | some request =>
    have hnodes : ∀ name, HandlerSays d profile handler .body name ↔
        ∃ node ∈ handler.mappings, (d.view node).Reads profile request .body name := by
      intro name
      simp only [HandlerSays, hrequest, Option.some.injEq, exists_eq_left']
    refine ⟨hnames .headers nofun, hnames .query nofun, fun hdescribed => ?_, fun hnull => ?_,
      fun hnull key => ?_⟩
    · rw [body_scanHandler hrequest, hdescribed]
      rfl
    · have hopened : (readsAll d profile handler found request).body.isSome = true ↔ _ :=
        isSome_body_readsAll
      rw [body_scanHandler hrequest, if_pos hnull]
      simp only [hnodes, ← not_exists, ← hopened]
      cases (readsAll d profile handler found request).body <;> simp [Tree.isNull]
    · have hkeys : key ∈ Entries.keys ((readsAll d profile handler found request).body.getD []) ↔ _ :=
        mem_keys_body_readsAll
      rw [hnodes, ← hkeys, Metadata.fields, body_scanHandler hrequest, if_pos hnull]
      cases (readsAll d profile handler found request).body <;> rfl

/-! ## Handlers in both languages -/

/-- The nodes of a tree that shows a handler say what the handler reads. -/
theorem CodeShape.ReadBy.handlerSays_iff {shape : CodeShape} {d : Dialect} {n : Naming}
    {keyOf? : Tree → Option Text} {keysOf? : Tree → Option (List Text)}
    (h : shape.ReadBy d n keyOf? keysOf?) {params : List Word} {parts : List Code} {handler : Tree}
    (hshows : shape.shows (.node (.function params) parts) handler = true) {profile : Profile}
    {sect : Section} {name : Option Text} : HandlerSays d profile handler sect name ↔
      (Code.node (.function params) parts).Reads n profile sect name := by
  obtain ⟨nodes, hnodes, -⟩ := (Option.any_eq_true _ _).1 hshows
  unfold HandlerSays Code.Reads
  rw [h.request hnodes]
  refine exists_congr fun request => and_congr_right fun _ => ?_
  exact h.reads_iff (View.isQuestion_reads profile request sect name) _ hshows

/-- A scan of a tree that shows a handler adds what the handler reads. -/
theorem CodeShape.ReadBy.scanHandler_of_shows {shape : CodeShape} {d : Dialect} {n : Naming}
    {keyOf? : Tree → Option Text} {keysOf? : Tree → Option (List Text)}
    (h : shape.ReadBy d n keyOf? keysOf?) {params : List Word} {parts : List Code} {handler : Tree}
    (hshows : shape.shows (.node (.function params) parts) handler = true) (profile : Profile)
    (found : Metadata) :
    ScansAs ((Code.node (.function params) parts).Reads n profile) found
      (scanHandler d profile handler found) := by
  have hscan := scansAs_scanHandler d profile handler found
  have hnodes : HandlerSays d profile handler =
      (Code.node (.function params) parts).Reads n profile :=
    funext fun sect => funext fun name => propext (h.handlerSays_iff hshows)
  rwa [hnodes] at hscan

/-- Trees of a handler in both languages are scanned for what the handler reads, as each language
calls its words. If both call them alike, the scans give the same names. -/
theorem handlers_scanned_alike (params : List Word) (parts : List Code) {script typed : Tree}
    (hscript : Estree.codeShape.shows (.node (.function params) parts) script = true)
    (htyped : Cst.codeShape.shows (.node (.function params) parts) typed = true)
    (profile : Profile) (found : Metadata) :
    ScansAs ((Code.node (.function params) parts).Reads .script profile) found
        (scanHandler Estree.dialect profile script found) ∧
      ScansAs ((Code.node (.function params) parts).Reads .typed profile) found
        (scanHandler Cst.dialect profile typed found) ∧
      ((Code.node (.function params) parts).CalledAlike .script .typed →
        (scanHandler Estree.dialect profile script found).SameNames
          (scanHandler Cst.dialect profile typed found)) := by
  have hscans := Estree.codeShape_readBy.scanHandler_of_shows hscript profile found
  have hscans' := Cst.codeShape_readBy.scanHandler_of_shows htyped profile found
  exact ⟨hscans, hscans', fun hwords =>
    hscans.sameNames hscans' fun sect name => Code.reads_congr hwords⟩

/-! ### A handler that both languages read -/

/-- A handler with all ways to read, one of them in a default and one in a function. -/
def shopHandlerSource : List Char :=
  ("h = (req, res) => \x7b const \x7b a, b: c, \"d\": e = req.get(\"X\") \x7d = req.query; " ++
    "return res.json([req.body[\"name\"], () => (req.headers).y]); \x7d;").toList

/-- An identifier without escapes. -/
def Code.named (name : Text) : Code := .node (.identifier ⟨name, name⟩) []

/-- A member of an identifier, both without escapes. -/
def Code.memberOf (root name : Text) : Code := .node (.dot ⟨name, name⟩) [.named root]

/-- The body of the handler of `shopHandlerSource`. -/
def shopHandlerBody : List Code :=
  [.node .block
    [.node .declaration
      [.node .declarator
        [.node .pattern
          [.node (.bound ⟨"a", "a"⟩) [],
            .node (.renamed ⟨"b", "b"⟩) [.named "c"],
            .node (.renamed ⟨"d", "d"⟩)
              [.node .assigned
                [.named "e", .node .call [.memberOf "req" "get", .node (.string ⟨"X", "X"⟩) []]]]],
          .memberOf "req" "query"]],
      .node .return
        [.node .call
          [.memberOf "res" "json",
            .node .array
              [.node (.index ⟨"name", "name"⟩) [.memberOf "req" "body"],
                .node (.function [])
                  [.node (.dot ⟨"y", "y"⟩) [.node .paren [.memberOf "req" "headers"]]]]]]]]

theorem handlers_scanned_alike_shop : ∃ tree, Estree.readTree? shopHandlerSource = some tree ∧
    Estree.codeShape.shows (.node (.function [⟨"req", "req"⟩, ⟨"res", "res"⟩]) shopHandlerBody)
      (Estree.assigned tree) = true ∧
    Cst.codeShape.shows (.node (.function [⟨"req", "req"⟩, ⟨"res", "res"⟩]) shopHandlerBody)
      (Cst.assigned (Cst.readTree shopHandlerSource)) = true ∧
    (scanHandler Estree.dialect Profile.express (Estree.assigned tree) {}).SameNames
      (scanHandler Cst.dialect Profile.express
        (Cst.assigned (Cst.readTree shopHandlerSource)) {}) := by
  have hscript : (Estree.readTree? shopHandlerSource).any (fun tree => Estree.codeShape.shows
      (.node (.function [⟨"req", "req"⟩, ⟨"res", "res"⟩]) shopHandlerBody)
      (Estree.assigned tree)) = true := by
    decide +kernel
  have htyped : Cst.codeShape.shows
      (.node (.function [⟨"req", "req"⟩, ⟨"res", "res"⟩]) shopHandlerBody)
      (Cst.assigned (Cst.readTree shopHandlerSource)) = true := by
    rw [Cst.readTree, Cst.project_eq_plainTree]
    decide +kernel
  obtain ⟨tree, htree, hscript⟩ := (Option.any_eq_true _ _).1 hscript
  obtain ⟨-, -, hsame⟩ := handlers_scanned_alike [⟨"req", "req"⟩, ⟨"res", "res"⟩] shopHandlerBody
    hscript htyped Profile.express {}
  exact ⟨tree, htree, hscript, htyped, hsame (by decide +kernel)⟩

/-! ### A member that is written with an escape -/

/-- A handler that reads a member whose name is written with an escape. -/
def escapedHandlerSource : List Char :=
  "h = (req, res) => \x7b req.query.\\u0061; \x7d;".toList

/-- The body of the handler of `escapedHandlerSource`. -/
def escapedHandlerBody : List Code :=
  [.node .block
    [.node .expression [.node (.dot ⟨"a", "\\u0061"⟩) [.memberOf "req" "query"]]]]

/-- Both parsers read the member, and the scans call it differently. -/
theorem escaped_member_differs : ∃ tree, Estree.readTree? escapedHandlerSource = some tree ∧
    Estree.codeShape.shows
      (.node (.function [⟨"req", "req"⟩, ⟨"res", "res"⟩]) escapedHandlerBody)
      (Estree.assigned tree) = true ∧
    Cst.codeShape.shows (.node (.function [⟨"req", "req"⟩, ⟨"res", "res"⟩]) escapedHandlerBody)
      (Cst.assigned (Cst.readTree escapedHandlerSource)) = true ∧
    Text.ofString "a" ∈ Entries.keys
      (scanHandler Estree.dialect Profile.express (Estree.assigned tree) {}).query ∧
    Text.ofString "a" ∉ Entries.keys (scanHandler Cst.dialect Profile.express
      (Cst.assigned (Cst.readTree escapedHandlerSource)) {}).query ∧
    ¬ (scanHandler Estree.dialect Profile.express (Estree.assigned tree) {}).SameNames
      (scanHandler Cst.dialect Profile.express
        (Cst.assigned (Cst.readTree escapedHandlerSource)) {}) := by
  have hscript : (Estree.readTree? escapedHandlerSource).any (fun tree => Estree.codeShape.shows
      (.node (.function [⟨"req", "req"⟩, ⟨"res", "res"⟩]) escapedHandlerBody)
      (Estree.assigned tree) && decide (Text.ofString "a" ∈ Entries.keys
        (scanHandler Estree.dialect Profile.express (Estree.assigned tree) {}).query)) = true := by
    decide +kernel
  have htyped : (Cst.codeShape.shows
      (.node (.function [⟨"req", "req"⟩, ⟨"res", "res"⟩]) escapedHandlerBody)
      (Cst.assigned (Cst.readTree escapedHandlerSource)) &&
        decide (Text.ofString "a" ∉ Entries.keys (scanHandler Cst.dialect Profile.express
          (Cst.assigned (Cst.readTree escapedHandlerSource)) {}).query)) = true := by
    rw [Cst.readTree, Cst.project_eq_plainTree]
    decide +kernel
  obtain ⟨tree, htree, hscript⟩ := (Option.any_eq_true _ _).1 hscript
  obtain ⟨hscript, hnamed⟩ := Bool.and_eq_true_iff.1 hscript
  obtain ⟨htyped, hwritten⟩ := Bool.and_eq_true_iff.1 htyped
  have hnamed := of_decide_eq_true hnamed
  have hwritten := of_decide_eq_true hwritten
  exact ⟨tree, htree, hscript, htyped, hnamed, hwritten,
    fun hsame => hwritten ((hsame.query _).2 hnamed)⟩

end EndpointCatalog
