/-
EndpointCatalog.Proofs.Safety.Record — building a record.

* `Evaluates`: the nodes whose literals the metadata of a match take. A match
  has no record if one of them has no literal, and only then
  (`ofMatch?_eq_none_iff`).
* `ofEntries_toEntries`: a record that is written as a mapping, with either
  spelling of the keys, is read back as it is. No text in it is refused.
-/
import EndpointCatalog.Proofs.Safety.Shape
import EndpointCatalog.Record.Validation

namespace EndpointCatalog

/-! ## Evaluated nodes -/

/-- Whether an entry of a request's configuration is evaluated. -/
def isSetting (key : Text) : Prop := key = "headers" ∨ key = "params" ∨ key = "data"

/-- The metadata of a match take the literal of a node. -/
inductive Evaluates (d : Dialect) (profile : Profile) (found : EndpointMatch) : Tree → Prop where
  /-- It stands in the configuration of a request. -/
  | setting {first config : Tree} {rest : List Tree} {entries : List (Text × Tree)}
      {e : Text × Tree} :
      found.kind = .request → found.call.arguments = first :: config :: rest →
      d.objectEntries? config = some entries → e ∈ entries → isSetting e.1 →
      Evaluates d profile found e.2
  /-- It is the schema among the options of a route. -/
  | schema {options : List (Text × Tree)} {node : Tree} :
      found.kind = .route → profile.optionsSchema = true →
      (found.call.arguments.drop 1).findSome? d.objectEntries? = some options →
      Entries.get? "schema" (Entries.ofPairs options) = some node →
      Evaluates d profile found node

variable {d : Dialect} {profile : Profile}

/-- What follows a step and has an answer for sure does not change whether there is one. -/
theorem bind_eq_none_iff_of_isSome {α β : Type} {x : Option α} {f : α → Option β}
    (hf : ∀ a, (f a).isSome) : (x >>= f) = none ↔ x = none := by
  cases x with
  | none => simp
  | some a => simp [Option.isSome_iff_ne_none.mp (hf a)]

theorem addSetting?_eq_none_iff (found : Metadata) {e : Text × Tree} :
    addSetting? d found e = none ↔ isSetting e.1 ∧ d.literal? deepestLiteral e.2 = none := by
  simp only [addSetting?, isSetting]
  split
  · rename_i hheaders
    rw [bind_eq_none_iff_of_isSome fun _ => rfl, and_iff_right (.inl hheaders)]
  split
  · rename_i hparams
    rw [bind_eq_none_iff_of_isSome fun _ => rfl, and_iff_right (.inr (.inl hparams))]
  split
  · rename_i hdata
    rw [bind_eq_none_iff_of_isSome fun _ => rfl, and_iff_right (.inr (.inr hdata))]
  · rename_i hheaders hparams hdata
    simp only [reduceCtorEq, hheaders, hparams, hdata, or_self, false_and]

theorem foldlM_addSetting?_eq_none_iff {found : Metadata} {entries : List (Text × Tree)} :
    entries.foldlM (addSetting? d) found = none ↔
      ∃ e ∈ entries, isSetting e.1 ∧ d.literal? deepestLiteral e.2 = none := by
  induction entries generalizing found with
  | nil => simp
  | cons e rest ih =>
    rw [List.foldlM_cons, List.exists_mem_cons_iff, ← addSetting?_eq_none_iff found]
    cases addSetting? d found e with
    | none => simp
    | some next => simp [ih]

variable {found : EndpointMatch}

theorem clientMetadata?_eq_none_iff (hkind : found.kind = .request) :
    clientMetadata? d found.call = none ↔
      ∃ node, Evaluates d profile found node ∧ d.literal? deepestLiteral node = none := by
  unfold clientMetadata?
  split
  · rename_i first config rest harguments
    rw [foldlM_addSetting?_eq_none_iff]
    constructor
    · rintro ⟨e, he, hsetting, hnone⟩
      cases hentries : d.objectEntries? config with
      | none => simp [hentries] at he
      | some entries =>
        rw [hentries, Option.getD_some] at he
        exact ⟨e.2, .setting hkind harguments hentries he hsetting, hnone⟩
    · rintro ⟨_, ⟨-, harguments', hentries, he, hsetting⟩ | ⟨hroute, -, -, -⟩, hnone⟩
      · obtain ⟨rfl, rfl, rfl⟩ : _ ∧ _ ∧ _ := by simpa [harguments] using harguments'
        exact ⟨_, by rwa [hentries], hsetting, hnone⟩
      · rw [hkind] at hroute
        cases hroute
  · rename_i hshort
    constructor
    · nofun
    · rintro ⟨_, ⟨-, harguments, -, -, -⟩ | ⟨hroute, -, -, -⟩, -⟩
      · exact absurd harguments (hshort _ _ _)
      · rw [hkind] at hroute
        cases hroute

theorem applySchema?_eq_none_iff {options : List (Text × Tree)} {before : Metadata} :
    applySchema? d options before = none ↔
      ∃ node, Entries.get? "schema" (Entries.ofPairs options) = some node ∧
        d.literal? deepestLiteral node = none := by
  unfold applySchema?
  cases Entries.get? "schema" (Entries.ofPairs options) with
  | none => simp
  | some node =>
    simp only [Option.some.injEq, exists_eq_left']
    refine bind_eq_none_iff_of_isSome fun literal => ?_
    split <;> rfl

/-- What the options among a route's arguments say. -/
def optionsMetadata? (d : Dialect) (profile : Profile) (arguments : List Tree) :
    Option Metadata :=
  if profile.optionsSchema then
    match arguments.findSome? d.objectEntries? with
    | some options => applySchema? d options {}
    | none => some {}
  else some {}

/-- The handler is read behind the options, and reading it never fails. -/
theorem serverMetadata?_eq_map (call : CallShape) :
    serverMetadata? d profile call =
      (optionsMetadata? d profile (call.arguments.drop 1)).map fun described =>
        match findHandler? d (call.arguments.drop 1) with
        | some handler => scanHandler d profile handler described
        | none => described := by
  unfold serverMetadata? optionsMetadata?
  simp only
  generalize (call.arguments.drop 1).findSome? d.objectEntries? = options
  generalize findHandler? d (call.arguments.drop 1) = handler
  cases profile.optionsSchema <;> cases options <;> cases handler <;>
    simp [Option.map_eq_bind]

theorem optionsMetadata?_eq_none_iff {arguments : List Tree} :
    optionsMetadata? d profile arguments = none ↔ profile.optionsSchema = true ∧
      ∃ options node, arguments.findSome? d.objectEntries? = some options ∧
        Entries.get? "schema" (Entries.ofPairs options) = some node ∧
          d.literal? deepestLiteral node = none := by
  unfold optionsMetadata?
  by_cases hschema : profile.optionsSchema = true
  · rw [if_pos hschema, and_iff_right hschema]
    cases arguments.findSome? d.objectEntries? with
    | none => simp
    | some options => simp [applySchema?_eq_none_iff]
  · rw [if_neg hschema]
    simp [hschema]

theorem serverMetadata?_eq_none_iff (hkind : found.kind = .route) :
    serverMetadata? d profile found.call = none ↔
      ∃ node, Evaluates d profile found node ∧ d.literal? deepestLiteral node = none := by
  rw [serverMetadata?_eq_map, Option.map_eq_none_iff, optionsMetadata?_eq_none_iff]
  constructor
  · rintro ⟨hschema, options, node, hoptions, hnode, hnone⟩
    exact ⟨node, .schema hkind hschema hoptions hnode, hnone⟩
  · rintro ⟨_, ⟨hrequest, -, -, -, -⟩ | ⟨-, hschema, hoptions, hnode⟩, hnone⟩
    · rw [hkind] at hrequest
      cases hrequest
    · exact ⟨hschema, _, _, hoptions, hnode, hnone⟩

/-- A match has no record if a literal that its metadata take is nested too deep. -/
theorem EndpointRecord.ofMatch?_eq_none_iff {resource : Resource} {label : Text} :
    ofMatch? d profile resource label found = none ↔
      ∃ node, Evaluates d profile found node ∧ d.literal? deepestLiteral node = none := by
  unfold ofMatch?
  rw [bind_eq_none_iff_of_isSome fun _ => rfl, metadataOf?]
  split
  · exact serverMetadata?_eq_none_iff ‹_›
  · exact clientMetadata?_eq_none_iff ‹_›

/-! ## Validation -/

theorem Method.ofText?_toString (m : Method) : ofText? (Text.ofString m.toString) = some m := by
  cases m <;> decide

theorem EndpointKind.ofText?_toString (k : EndpointKind) :
    ofText? (Text.ofString k.toString) = some k := by
  cases k <;> decide

theorem readName_of_ofText? {α : Type} {ofText? : Text → Option α} {name : String} {x : α}
    (h : ofText? (Text.ofString name) = some x) : readName ofText? (.ofString name) = .ok x := by
  rw [readName, Tree.ofString, Tree.text?, Option.bind_some, h]

theorem readField_of_lookup? {α : Type} {data : Entries} {keys : List String} (key : String)
    {value : Tree} {otherwise : Option α} {read : Tree → Except FieldFault α} {x : α}
    (hlookup : lookup? data keys = some (key, value)) (hread : read value = .ok x) :
    readField data keys otherwise read = .valid x := by
  simp only [readField, hlookup, hread]

namespace EndpointRecord

/-- A record is valid, whatever its texts and values are. -/
theorem ofEntries_toEntries (style : KeyStyle) (r : EndpointRecord) :
    ofEntries (r.toEntries style) = .valid r := by
  have hmethod : readField (r.toEntries style) ["method"] none (readName Method.ofText?) =
      .valid r.method :=
    readField_of_lookup? "method" (by cases style <;> rfl)
      (readName_of_ofText? r.method.ofText?_toString)
  have hpath : readField (r.toEntries style) ["path"] (some []) readText = .valid r.path :=
    readField_of_lookup? "path" (by cases style <;> rfl) rfl
  have hheaders : readField (r.toEntries style) ["headers"] (some []) readMapping =
      .valid r.headers :=
    readField_of_lookup? "headers" (by cases style <;> rfl) rfl
  have hquery : readField (r.toEntries style) (keysOf queryKey) (some []) readMapping =
      .valid r.queryParameters :=
    readField_of_lookup? (queryKey style) (by cases style <;> rfl) rfl
  have hbody : readField (r.toEntries style) ["body"] (some Tree.null) Except.ok =
      .valid r.body :=
    readField_of_lookup? "body" (by cases style <;> rfl) rfl
  have hsource : readField (r.toEntries style) (keysOf sourceKey) none readText =
      .valid r.sourceFile :=
    readField_of_lookup? (sourceKey style) (by cases style <;> rfl) rfl
  have hresource : readField (r.toEntries style) (keysOf resourceKey) none readText =
      .valid r.resourceName :=
    readField_of_lookup? (resourceKey style) (by cases style <;> rfl) rfl
  have hkind : readField (r.toEntries style) ["kind"] (some EndpointKind.route)
      (readName EndpointKind.ofText?) = .valid r.kind :=
    readField_of_lookup? "kind" (by cases style <;> rfl)
      (readName_of_ofText? r.kind.ofText?_toString)
  have hline : readField (r.toEntries style) ["line"] (some none) readLine = .valid r.line :=
    readField_of_lookup? "line" (by cases style <;> rfl) (by cases r.line <;> rfl)
  rw [ofEntries, hmethod, hpath, hheaders, hquery, hbody, hsource, hresource, hkind, hline]
  rfl

end EndpointRecord

end EndpointCatalog
