/-
EndpointCatalog.Proofs.Comments.Metadata — what a route says, with comments
in its arguments.

* `noteNode_eq`: a node with comments reads what the node reads, so that a
  handler reads the same names.
* `serverMetadata?_commented`: the metadata of a route is the same, but for
  comments in nodes that are kept as values.
-/
import EndpointCatalog.Proofs.Comments.Reads
import EndpointCatalog.Proofs.SchemaKeys

namespace EndpointCatalog.Cst

/-! ## Handlers -/

section

variable {profile : Profile} {request : Text}

theorem requestChain?_eq {t t' : Tree} (h : Commented t t') :
    requestChain? dialect request t' = requestChain? dialect request t := by
  have hchain : dialect.memberChain? t' = dialect.memberChain? t := h.memberChain?_eq
  rw [requestChain?, hchain, ← requestChain?]

theorem requestChain?_comment (line : Int) (text : Text) :
    requestChain? dialect request (comment line text) = none := by
  have hchain : dialect.memberChain? (comment line text) = none := memberChain?_comment line text
  rw [requestChain?, hchain]

theorem noteMember_eq {t t' : Tree} (h : Commented t t') (reads : HandlerReads) :
    noteMember dialect profile request reads t' = noteMember dialect profile request reads t := by
  rw [noteMember, requestChain?_eq h, ← noteMember]

theorem noteDestructuring_eq {t t' : Tree} (h : Commented t t') (reads : HandlerReads) :
    noteDestructuring dialect profile request reads t' =
      noteDestructuring dialect profile request reads t := by
  have hpattern : Option.Rel _ (dialect.destructuring? t) (dialect.destructuring? t') :=
    h.destructuring?
  unfold noteDestructuring
  generalize dialect.destructuring? t = pattern, dialect.destructuring? t' = pattern' at hpattern
  cases hpattern with
  | none => rfl
  | some hsame => simp only [hsame.1, requestChain?_eq hsame.2]

theorem head?_bind_routeText?_eq {items items' : List Tree} (h : Interspersed true items items') :
    items'.head?.bind dialect.routeText? = items.head?.bind dialect.routeText? := by
  cases h with
  | nil => rfl
  | keep h rest => exact h.routeText?_eq

theorem noteGetter_eq {t t' : Tree} (h : Commented t t') (reads : HandlerReads) :
    noteGetter dialect profile request reads t' = noteGetter dialect profile request reads t := by
  have hcallee : Option.Rel Commented (dialect.callee? t) (dialect.callee? t') := h.callee?
  have hname : (dialect.callArguments t').head?.bind dialect.routeText? =
      (dialect.callArguments t).head?.bind dialect.routeText? :=
    head?_bind_routeText?_eq h.callArguments
  have hchain : (dialect.callee? t').bind (requestChain? dialect request) =
      (dialect.callee? t).bind (requestChain? dialect request) := by
    generalize dialect.callee? t = callee, dialect.callee? t' = callee' at hcallee
    cases hcallee with
    | none => rfl
    | some h => exact requestChain?_eq h
  simp only [noteGetter, hchain, hname]

/-- A node with comments reads what the node reads. -/
theorem noteNode_eq {t t' : Tree} (h : Commented t t') (reads : HandlerReads) :
    noteNode dialect profile request reads t' = noteNode dialect profile request reads t := by
  rw [noteNode, noteMember_eq h, noteDestructuring_eq h, noteGetter_eq h, ← noteNode]

/-- A comment reads nothing. -/
theorem noteNode_comment (line : Int) (text : Text) (reads : HandlerReads) :
    noteNode dialect profile request reads (comment line text) = reads := by
  have hmember : noteMember dialect profile request reads (comment line text) = reads := by
    rw [noteMember, requestChain?_comment]
  rw [noteNode, hmember]
  rfl

theorem noteNode_empty (reads : HandlerReads) :
    noteNode dialect profile request reads (.map []) = reads := by
  have hchain : dialect.memberChain? (.map []) = none := by
    show memberChain? (.map []) = none
    rw [memberChain?, unwrap_of_not_isTransparent rfl, reversedChain?]
    rfl
  have hmember : noteMember dialect profile request reads (.map []) = reads := by
    rw [noteMember, requestChain?, hchain]
  rw [noteNode, hmember]
  rfl

theorem foldl_noteNode_eq {nodes nodes' : List Tree} (h : Visits nodes nodes')
    (reads : HandlerReads) :
    nodes'.foldl (noteNode dialect profile request) reads =
      nodes.foldl (noteNode dialect profile request) reads := by
  induction h generalizing reads with
  | nil => rfl
  | node h _ ih => rw [List.foldl_cons, List.foldl_cons, noteNode_eq h, ih]
  | extra line text _ ih =>
    rw [List.foldl_cons, List.foldl_cons, noteNode_comment, noteNode_empty, ih]

end

/-! ## Values in a record -/

/-- What stands under a key of a record is the same, but for comments in nodes that are kept. The
children of a node that is kept may themselves stand under a key. -/
def UpToComments (key : Text) (v v' : Tree) : Prop :=
  Commented v v' ∨ key = Text.ofString "children" ∧ ∃ items items', v = .list items ∧
    v' = .list items' ∧ Interspersed false items items'

theorem aligned_of_commentedEntries {first : Bool} {entries entries' : Entries}
    (h : CommentedEntries first entries entries') :
    Entries.Aligned UpToComments entries entries' := by
  induction entries generalizing entries' with
  | nil =>
    cases h
    exact .nil
  | cons e entries ih =>
    cases h with
    | value h rest => exact .cons ⟨rfl, .inl h⟩ (ih rest)
    | children h rest => exact .cons ⟨rfl, .inr ⟨rfl, _, _, rfl, rfl, h.weaken⟩⟩ (ih rest)

theorem upToComments_null (key : Text) : UpToComments key .null .null := .inl (.scalar rfl)

/-- The metadata of a route and of the route with comments. -/
structure CommentedMetadata (found found' : Metadata) : Prop where
  headers : Entries.Aligned UpToComments found.headers found'.headers
  query : Entries.Aligned UpToComments found.query found'.query
  body : Commented found.body found'.body

/-- What was read of a handler under the metadata of a route, and under those of the route with
comments. -/
structure CommentedFound (reads reads' : HandlerReads) : Prop where
  headers : Entries.Aligned UpToComments reads.headers reads'.headers
  query : Entries.Aligned UpToComments reads.query reads'.query
  body : reads'.body = reads.body

namespace CommentedFound

variable {profile : Profile} {request : Text} {reads reads' : HandlerReads}

theorem note (h : CommentedFound reads reads') (sect : Section) (name : Option Text) :
    CommentedFound (reads.note sect name) (reads'.note sect name) := by
  cases name with
  | none =>
    cases sect with
    | body => exact ⟨h.headers, h.query, by simp only [HandlerReads.note, h.body]⟩
    | headers => exact h
    | query => exact h
  | some name =>
    cases sect with
    | body => exact ⟨h.headers, h.query, by simp only [HandlerReads.note, h.body]⟩
    | headers => exact ⟨h.headers.insertNew (upToComments_null name), h.query, h.body⟩
    | query => exact ⟨h.headers, h.query.insertNew (upToComments_null name), h.body⟩

theorem foldl_note (h : CommentedFound reads reads') (sect : Section) (names : List Text) :
    CommentedFound (names.foldl (fun found name => found.note sect (some name)) reads)
      (names.foldl (fun found name => found.note sect (some name)) reads') := by
  induction names generalizing reads reads' with
  | nil => exact h
  | cons name names ih => exact ih (h.note sect (some name))

theorem noteMember (h : CommentedFound reads reads') (d : Dialect) (node : Tree) :
    CommentedFound (noteMember d profile request reads node)
      (noteMember d profile request reads' node) := by
  unfold EndpointCatalog.noteMember
  split
  · split
    · exact h.note _ _
    · exact h
  · exact h

theorem noteDestructuring (h : CommentedFound reads reads') (d : Dialect) (node : Tree) :
    CommentedFound (noteDestructuring d profile request reads node)
      (noteDestructuring d profile request reads' node) := by
  unfold EndpointCatalog.noteDestructuring
  split
  · exact h
  · split
    · exact h.foldl_note _ _
    · exact h

theorem noteGetter (h : CommentedFound reads reads') (d : Dialect) (node : Tree) :
    CommentedFound (noteGetter d profile request reads node)
      (noteGetter d profile request reads' node) := by
  unfold EndpointCatalog.noteGetter
  split
  · split
    · split
      · exact h.note _ _
      · exact h
    · exact h
  · exact h

theorem foldl_noteNode (h : CommentedFound reads reads') (d : Dialect) (nodes : List Tree) :
    CommentedFound (nodes.foldl (noteNode d profile request) reads)
      (nodes.foldl (noteNode d profile request) reads') := by
  induction nodes generalizing reads reads' with
  | nil => exact h
  | cons node nodes ih =>
    exact ih (((h.noteMember d node).noteDestructuring d node).noteGetter d node)

end CommentedFound

theorem requestName?_eq {t t' : Tree} (h : Commented t t') :
    requestName? dialect t' = requestName? dialect t := by
  have hparams : dialect.functionParams? t' = dialect.functionParams? t := h.functionParams?_eq
  rw [requestName?, hparams, ← requestName?]

/-- The body that is described, or else what was read of it. -/
def bodyWith (described : Tree) (read : Option Entries) : Tree :=
  match described, read with
  | .null, some fields => .map fields
  | described, _ => described

theorem bodyWith_commented {described described' : Tree} (h : Commented described described')
    (read : Option Entries) : Commented (bodyWith described read) (bodyWith described' read) := by
  cases h with
  | scalar => exact Commented.refl _
  | list hitems => exact .list hitems
  | map hentries => exact .map hentries

theorem scanHandler_commented {profile : Profile} {handler handler' : Tree}
    {found found' : Metadata}
    (h : Commented handler handler') (hfound : CommentedMetadata found found') :
    CommentedMetadata (scanHandler dialect profile handler found)
      (scanHandler dialect profile handler' found') := by
  unfold scanHandler
  rw [requestName?_eq h]
  split
  · exact hfound
  · rename_i request _
    have hreads : CommentedFound
        (handler.walk.foldl (noteNode dialect profile request) ⟨found.headers, found.query, none⟩)
        (handler'.walk.foldl (noteNode dialect profile request)
          ⟨found'.headers, found'.query, none⟩) := by
      rw [Tree.walk_eq_mappings, Tree.walk_eq_mappings, foldl_noteNode_eq h.visits]
      have hstart : CommentedFound ⟨found.headers, found.query, none⟩
          ⟨found'.headers, found'.query, none⟩ := ⟨hfound.headers, hfound.query, rfl⟩
      exact hstart.foldl_noteNode dialect _
    refine ⟨hreads.headers, hreads.query, ?_⟩
    show Commented (bodyWith found.body _) (bodyWith found'.body _)
    rw [hreads.body]
    exact bodyWith_commented hfound.body _

/-! ## Schemas -/

theorem schemaFields?_commented {v v' : Tree} (h : Commented v v') :
    Option.Rel (Entries.Aligned UpToComments) (schemaFields? v) (schemaFields? v') := by
  cases h with
  | scalar hscalar => cases v <;> first | exact .none | cases hscalar
  | list => exact .none
  | @map entries entries' h =>
    have hkey : Text.ofString "properties" ≠ Text.ofString "children" := by decide
    have hget := h.get? hkey
    unfold schemaFields?
    simp only
    generalize Entries.get? "properties" entries = under,
      Entries.get? "properties" entries' = under' at hget
    cases hget with
    | none => exact .some (aligned_of_commentedEntries h)
    | some hunder =>
      rename_i value value'
      cases hunder with
      | scalar hscalar => cases value <;> first | exact .none | cases hscalar
      | list => exact .none
      | map hentries => exact .some (aligned_of_commentedEntries hentries)

theorem applySchemaSection_commented {first : Bool} {schema schema' : Entries}
    (hschema : CommentedEntries first schema schema') {found found' : Metadata}
    (h : CommentedMetadata found found') (entry : Text × Section)
    (hentry : entry.1 ≠ Text.ofString "children") :
    CommentedMetadata (applySchemaSection schema found entry)
      (applySchemaSection schema' found' entry) := by
  obtain ⟨name, sect⟩ := entry
  have hget := hschema.get? hentry
  unfold applySchemaSection
  generalize Entries.get? name schema = value, Entries.get? name schema' = value' at hget
  cases hget with
  | none => exact h
  | @some value value' hvalue =>
    have hfields := schemaFields?_commented hvalue
    simp only
    generalize schemaFields? value = fields, schemaFields? value' = fields' at hfields
    cases hfields with
    | none =>
      cases sect with
      | body => exact ⟨h.headers, h.query, hvalue⟩
      | headers => exact h
      | query => exact h
    | some hfields =>
      cases sect with
      | body => exact ⟨h.headers, h.query, hvalue⟩
      | headers => exact ⟨h.headers.update hfields, h.query, h.body⟩
      | query => exact ⟨h.headers, h.query.update hfields, h.body⟩

theorem applySections_commented {first : Bool} {schema schema' : Entries}
    (hschema : CommentedEntries first schema schema') (entries : List (Text × Section))
    (hentries : ∀ entry ∈ entries, entry.1 ≠ Text.ofString "children") {found found' : Metadata}
    (h : CommentedMetadata found found') :
    CommentedMetadata (entries.foldl (applySchemaSection schema) found)
      (entries.foldl (applySchemaSection schema') found') := by
  induction entries generalizing found found' with
  | nil => exact h
  | cons entry entries ih =>
    exact ih (fun e he => hentries e (.tail _ he))
      (applySchemaSection_commented hschema h entry (hentries entry (.head _)))

theorem CommentedLiteral.entries? {literal literal' : Literal}
    (h : CommentedLiteral literal literal') :
    Option.Rel (fun entries entries' => ∃ first, CommentedEntries first entries entries')
      literal.entries? literal'.entries? := by
  cases h with
  | kept => exact .none
  | @value v v' h =>
    cases h with
    | scalar hscalar => cases v <;> first | exact .none | cases hscalar
    | list => exact .none
    | map h => exact .some ⟨_, h⟩

theorem applySchema?_commented {options options' : List (Text × Tree)}
    (h : Entries.Aligned (fun _ => Commented) options options')
    (hkeeps : ∀ schema schema', writtenUnder "schema" options = some schema →
      writtenUnder "schema" options' = some schema' → KeepsArrays deepestLiteral schema schema')
    {found : Metadata} (hfound : applySchema? dialect options {} = some found) :
    ∃ found', applySchema? dialect options' {} = some found' ∧ CommentedMetadata found found' := by
  have hempty : CommentedMetadata {} {} := ⟨.nil, .nil, .scalar rfl⟩
  have hget := (Entries.Aligned.ofPairs h).get? "schema"
  rw [Entries.get?_ofPairs, Entries.get?_ofPairs, ← writtenUnder, ← writtenUnder] at hget
  unfold applySchema? at hfound ⊢
  rw [Entries.get?_ofPairs, ← writtenUnder] at hfound ⊢
  generalize hschema : writtenUnder "schema" options = answer,
    hschema' : writtenUnder "schema" options' = answer' at hget hfound ⊢
  cases hget with
  | none =>
    cases hfound
    exact ⟨_, rfl, hempty⟩
  | @some schema schema' hnode =>
    simp only [Option.bind_eq_bind, Option.bind_eq_some_iff] at hfound
    obtain ⟨literal, hliteral, hfound⟩ := hfound
    obtain ⟨literal', hliteral', hrel⟩ :=
      hnode.literal? (hkeeps schema schema' hschema hschema') hliteral
    have hliteral' : dialect.literal? deepestLiteral schema' = some literal' := hliteral'
    simp only [hliteral', Option.bind_eq_bind, Option.bind_some]
    have hentries := hrel.entries?
    generalize literal.entries? = entries, literal'.entries? = entries' at hentries hfound
    cases hentries with
    | none =>
      cases hfound
      exact ⟨_, rfl, hempty⟩
    | some hentries =>
      cases hfound
      obtain ⟨first, hentries⟩ := hentries
      exact ⟨_, rfl, applySections_commented hentries schemaSections (by decide) hempty⟩

/-! ## Routes -/

section

variable {profile : Profile} {call call' : CallShape}

theorem drop_one {first : Bool} {items items' : List Tree} (h : Interspersed first items items') :
    (items ≠ [] → first = true) → Interspersed false (items.drop 1) (items'.drop 1) := by
  intro hfirst
  cases h with
  | nil => exact .nil
  | keep h rest => exact rest
  | extra line text rest =>
    cases items with
    | nil => exact rest
    | cons item items => cases hfirst (List.cons_ne_nil _ _)

/-- The options and the handler of a route say the same with comments behind its first argument,
if none stands in an array of the schema. -/
theorem serverMetadata?_commented
    (h : Interspersed false (call.arguments.drop 1) (call'.arguments.drop 1))
    (hkeeps : profile.optionsSchema = true → ∀ schema schema', SchemaNode dialect call schema →
      SchemaNode dialect call' schema' → KeepsArrays deepestLiteral schema schema')
    {found : Metadata} (hfound : serverMetadata? dialect profile call = some found) :
    ∃ found', serverMetadata? dialect profile call' = some found' ∧
      CommentedMetadata found found' := by
  rw [serverMetadata?_eq, Option.map_eq_some_iff] at hfound
  obtain ⟨described, hdescribed, rfl⟩ := hfound
  have hdescribed' : ∃ described', describedMetadata? dialect profile call' = some described' ∧
      CommentedMetadata described described' := by
    have hempty : CommentedMetadata {} {} := ⟨.nil, .nil, .scalar rfl⟩
    unfold describedMetadata? at hdescribed ⊢
    by_cases hschema : profile.optionsSchema = true
    · rw [if_pos hschema] at hdescribed ⊢
      have hoptions : Option.Rel (Entries.Aligned fun _ => Commented)
          ((call.arguments.drop 1).findSome? dialect.objectEntries?)
          ((call'.arguments.drop 1).findSome? dialect.objectEntries?) :=
        h.findSome? (fun _ _ h => h.objectEntries?) objectEntries?_comment
      generalize ho : (call.arguments.drop 1).findSome? dialect.objectEntries? = options,
        ho' : (call'.arguments.drop 1).findSome? dialect.objectEntries? = options'
        at hoptions hdescribed ⊢
      cases hoptions with
      | none =>
        cases hdescribed
        exact ⟨_, rfl, hempty⟩
      | some haligned =>
        exact applySchema?_commented haligned (fun schema schema' hs hs' =>
          hkeeps hschema schema schema' ⟨_, ho, hs⟩ ⟨_, ho', hs'⟩) hdescribed
    · rw [if_neg hschema] at hdescribed ⊢
      cases hdescribed
      exact ⟨_, rfl, hempty⟩
  obtain ⟨described', hdescribed', hrel⟩ := hdescribed'
  refine ⟨withHandler dialect profile call' described', ?_, ?_⟩
  · rw [serverMetadata?_eq, hdescribed', Option.map_some]
  · have hhandler : Option.Rel Commented (findHandler? dialect (call.arguments.drop 1))
        (findHandler? dialect (call'.arguments.drop 1)) :=
      h.reverse.find? (fun _ _ h => congrArg Option.isSome h.functionParams?_eq)
        (fun _ _ => rfl)
    unfold withHandler
    generalize findHandler? dialect (call.arguments.drop 1) = handler,
      findHandler? dialect (call'.arguments.drop 1) = handler' at hhandler
    cases hhandler with
    | none => exact hrel
    | some h => exact scanHandler_commented h hrel

end

end EndpointCatalog.Cst
