/-
EndpointCatalog.Proofs.SchemaKeys — where the parameter names of a route
come from.

* `SchemaDescribes`: the schema among the route's options writes a name in
  the object literal of a section.
* `SchemaFragment`: the schema gives something else for a section, or for
  its `properties`, and what is known of it is a mapping with such a key. A
  node that is no literal is kept as it is, and a node is a mapping: its own
  attributes are then taken for names.
* `mem_keys_routeRecord`: the names in the record of a route are those that
  the schema describes, those of fragments, and those that the handler
  reads. So each of them was written as a name just when fragments add
  nothing of their own; `fragment_in_record` is a route where they do.
-/
import EndpointCatalog.Estree.Node
import EndpointCatalog.Proofs.HandlerReads
import EndpointCatalog.Proofs.Literals
import EndpointCatalog.Record

namespace EndpointCatalog

/-- The headers or the query parameters of a record; the body has no parameters. -/
def EndpointRecord.parameters (r : EndpointRecord) : Section → Entries
  | .headers => r.headers
  | .query => r.queryParameters
  | .body => []

/-! ## Schemas -/

/-- The last node that is written under a key of an object literal. -/
def writtenUnder (key : Text) (pairs : List (Text × Tree)) : Option Tree :=
  Entries.get? key pairs.reverse

section

variable (d : Dialect)

/-- The schema among a route's options: what the first object literal behind the path has under
`schema`. -/
def SchemaNode (call : CallShape) (schema : Tree) : Prop :=
  ∃ options, (call.arguments.drop 1).findSome? d.objectEntries? = some options ∧
    writtenUnder "schema" options = some schema

/-- The node that a schema gives for a section. -/
def SectionNode (schema : Tree) (sect : Section) (node : Tree) : Prop :=
  ∃ sections name, d.objectEntries? schema = some sections ∧ (name, sect) ∈ schemaSections ∧
    writtenUnder name sections = some node

/-- An object literal names a field: directly, or under `properties` if that is given. -/
inductive DescribesField (node : Tree) (key : Text) : Prop where
  | direct {fields : List (Text × Tree)} (literal : d.objectEntries? node = some fields)
      (absent : writtenUnder "properties" fields = none) (written : key ∈ Entries.keys fields)
  | property {fields properties : List (Text × Tree)} {under : Tree}
      (literal : d.objectEntries? node = some fields)
      (given : writtenUnder "properties" fields = some under)
      (literal_under : d.objectEntries? under = some properties)
      (written : key ∈ Entries.keys properties)

/-- What is no object literal is taken for a mapping with a field. Behind `properties` the value
is nested one deeper. -/
inductive FragmentField (depth : Nat) (node : Tree) (key : Text) : Prop where
  | direct {entries fields : Entries} (no_literal : d.objectEntries? node = none)
      (value : d.valueOf? (depth + 1) node = some (.map entries))
      (fields_eq : schemaFields? (.map entries) = some fields) (has : key ∈ Entries.keys fields)
  | property {fields : List (Text × Tree)} {under : Tree} {entries : Entries}
      (literal : d.objectEntries? node = some fields)
      (given : writtenUnder "properties" fields = some under)
      (no_literal : d.objectEntries? under = none)
      (value : d.valueOf? depth under = some (.map entries)) (has : key ∈ Entries.keys entries)

/-- The schema of a route describes a parameter. -/
def SchemaDescribes (call : CallShape) (sect : Section) (key : Text) : Prop :=
  ∃ schema node, SchemaNode d call schema ∧ SectionNode d schema sect node ∧
    DescribesField d node key

/-- The schema of a route, a section or its `properties` is no object literal, and is taken for
a mapping that has a parameter. -/
inductive SchemaFragment (call : CallShape) (sect : Section) (key : Text) : Prop where
  | inSection {schema node : Tree} (schema_eq : SchemaNode d call schema)
      (section_eq : SectionNode d schema sect node)
      (has : FragmentField d (deepestLiteral - 2) node key) : SchemaFragment call sect key
  | inSchema {schema value : Tree} {entries fields : Entries} {name : Text}
      (schema_eq : SchemaNode d call schema) (no_literal : d.objectEntries? schema = none)
      (value_eq : d.literal? deepestLiteral schema = some (.value (.map entries)))
      (listed : (name, sect) ∈ schemaSections) (under : Entries.get? name entries = some value)
      (fields_eq : schemaFields? value = some fields) (has : key ∈ Entries.keys fields) :
      SchemaFragment call sect key

end

/-! ## Sections -/

/-- The value of a section lists a field. -/
def ListsField (value : Tree) (key : Text) : Prop :=
  ∃ fields, schemaFields? value = some fields ∧ key ∈ Entries.keys fields

theorem parameters_applySchemaSection {schema : Entries} {found : Metadata}
    {entry : Text × Section} {value : Tree} (hvalue : Entries.get? entry.1 schema = some value)
    {sect : Section} (hsect : sect ≠ .body) :
    (applySchemaSection schema found entry).parameters sect =
      if entry.2 = sect then (found.parameters sect).update ((schemaFields? value).getD [])
      else found.parameters sect := by
  obtain ⟨name, target⟩ := entry
  unfold applySchemaSection
  simp only [hvalue]
  cases sect with
  | body => exact absurd rfl hsect
  | headers => cases target <;> cases schemaFields? value <;> rfl
  | query => cases target <;> cases schemaFields? value <;> rfl

theorem listsField_iff {value : Tree} {key : Text} :
    ListsField value key ↔ key ∈ Entries.keys ((schemaFields? value).getD []) := by
  unfold ListsField
  cases schemaFields? value with
  | none => simp only [reduceCtorEq, false_and, exists_false, Option.getD_none, Entries.keys,
      List.map_nil, List.not_mem_nil]
  | some fields => simp only [Option.some.injEq, exists_eq_left', Option.getD_some]

theorem mem_keys_applySchemaSection {schema : Entries} {found : Metadata} {entry : Text × Section}
    {sect : Section} (hsect : sect ≠ .body) {key : Text} :
    key ∈ Entries.keys ((applySchemaSection schema found entry).parameters sect) ↔
      key ∈ Entries.keys (found.parameters sect) ∨
        entry.2 = sect ∧ ∃ value, Entries.get? entry.1 schema = some value ∧
          ListsField value key := by
  cases hvalue : Entries.get? entry.1 schema with
  | none =>
    simp only [applySchemaSection, hvalue, reduceCtorEq, false_and, exists_false, and_false,
      or_false]
  | some value =>
    rw [parameters_applySchemaSection hvalue hsect]
    simp only [Option.some.injEq, exists_eq_left', listsField_iff]
    by_cases htarget : entry.2 = sect
    · rw [if_pos htarget, Entries.mem_keys_update, or_comm]
      simp only [htarget, true_and]
    · rw [if_neg htarget]
      simp only [htarget, false_and, or_false]

/-- Applying the sections of a schema adds the fields that their values list. -/
theorem mem_keys_applySections {schema : Entries} {found : Metadata} {sect : Section}
    (hsect : sect ≠ .body) {key : Text} :
    key ∈ Entries.keys
        ((schemaSections.foldl (applySchemaSection schema) found).parameters sect) ↔
      key ∈ Entries.keys (found.parameters sect) ∨
        ∃ name value, (name, sect) ∈ schemaSections ∧ Entries.get? name schema = some value ∧
          ListsField value key := by
  have hfold := foldl_iff (fun b : Metadata => key ∈ Entries.keys (b.parameters sect))
    (fun entry : Text × Section => entry.2 = sect ∧
      ∃ value, Entries.get? entry.1 schema = some value ∧ ListsField value key)
    (fun b entry => mem_keys_applySchemaSection hsect) found schemaSections
  refine hfold.trans (or_congr_right ⟨?_, ?_⟩)
  · rintro ⟨⟨name, _⟩, hmem, rfl, value, hvalue, hlists⟩
    exact ⟨name, value, hmem, hvalue, hlists⟩
  · rintro ⟨name, value, hmem, hvalue, hlists⟩
    exact ⟨(name, sect), hmem, rfl, value, hvalue, hlists⟩

/-! ## Fields -/

section

variable {d : Dialect}

theorem valueOf?_of_objectEntries? (hd : d.EvaluatesObjects) {depth : Nat} {node : Tree}
    {pairs : List (Text × Tree)} (h : d.objectEntries? node = some pairs) :
    d.valueOf? (depth + 1) node =
      (d.evaluated? depth pairs).map fun entries => .map (Entries.ofPairs entries) := by
  rw [Dialect.valueOf?, hd depth node pairs h, Option.map_map]
  rfl

/-- What an object literal has under a key can be evaluated, if the literal can. -/
theorem valueOf?_writtenUnder {depth : Nat} {pairs entries : List (Text × Tree)}
    (h : d.evaluated? depth pairs = some entries) {key : Text} {node : Tree}
    (hnode : writtenUnder key pairs = some node) :
    ∃ value, d.valueOf? depth node = some value ∧
      Entries.get? key (Entries.ofPairs entries) = some value := by
  have hkey : key ∈ Entries.keys pairs :=
    List.mem_map.mpr ⟨_, List.mem_reverse.mp (Entries.mem_of_get? hnode), rfl⟩
  obtain ⟨value, hvalue⟩ :=
    Entries.mem_keys_iff.mp ((Dialect.mem_keys_ofPairs_evaluated h key).mpr hkey)
  refine ⟨value, ?_, hvalue⟩
  rw [Dialect.get?_ofPairs_evaluated h key, ← writtenUnder, hnode, Option.bind_some] at hvalue
  exact hvalue

theorem get?_of_writtenUnder_eq_none {depth : Nat} {pairs entries : List (Text × Tree)}
    (h : d.evaluated? depth pairs = some entries) {key : Text}
    (hnone : writtenUnder key pairs = none) :
    Entries.get? key (Entries.ofPairs entries) = none := by
  rw [Dialect.get?_ofPairs_evaluated h key, ← writtenUnder, hnone, Option.bind_none]

/-- What an object literal evaluates to has the literal's own fields if nothing is written under
`properties`. -/
theorem schemaFields?_of_absent (hd : d.EvaluatesObjects) {depth : Nat} {node value : Tree}
    (hvalue : d.valueOf? (depth + 1) node = some value) {pairs : List (Text × Tree)}
    (hliteral : d.objectEntries? node = some pairs)
    (habsent : writtenUnder "properties" pairs = none) :
    ∃ fields, schemaFields? value = some fields ∧
      ∀ key, key ∈ Entries.keys fields ↔ key ∈ Entries.keys pairs := by
  rw [valueOf?_of_objectEntries? hd hliteral, Option.map_eq_some_iff] at hvalue
  obtain ⟨entries, hentries, rfl⟩ := hvalue
  refine ⟨Entries.ofPairs entries, ?_, Dialect.mem_keys_ofPairs_evaluated hentries⟩
  simp only [schemaFields?, get?_of_writtenUnder_eq_none hentries habsent]

/-- Otherwise the fields are those of the mapping that stands under `properties`. -/
theorem schemaFields?_of_given (hd : d.EvaluatesObjects) {depth : Nat} {node value under : Tree}
    (hvalue : d.valueOf? (depth + 1) node = some value) {pairs : List (Text × Tree)}
    (hliteral : d.objectEntries? node = some pairs)
    (hgiven : writtenUnder "properties" pairs = some under) :
    ∃ valueUnder, d.valueOf? depth under = some valueUnder ∧
      ∀ fields, schemaFields? value = some fields ↔ valueUnder = .map fields := by
  rw [valueOf?_of_objectEntries? hd hliteral, Option.map_eq_some_iff] at hvalue
  obtain ⟨entries, hentries, rfl⟩ := hvalue
  obtain ⟨valueUnder, hunder, hget⟩ := valueOf?_writtenUnder hentries hgiven
  refine ⟨valueUnder, hunder, fun fields => ?_⟩
  simp only [schemaFields?, hget]
  cases valueUnder with
  | map entries => simp only [Option.some.injEq, Tree.map.injEq]
  | _ => simp only [reduceCtorEq]

/-- The fields of a section are those that its object literal names, and those of a fragment. -/
theorem listsField_valueOf? (hd : d.EvaluatesObjects) {depth : Nat} {node value : Tree}
    (hvalue : d.valueOf? (depth + 2) node = some value) {key : Text} :
    ListsField value key ↔ DescribesField d node key ∨ FragmentField d (depth + 1) node key := by
  constructor
  · rintro ⟨fields, hfields, hkey⟩
    cases hliteral : d.objectEntries? node with
    | none =>
      cases value with
      | map entries => exact .inr (.direct hliteral hvalue hfields hkey)
      | _ => cases hfields
    | some pairs =>
      cases hunder : writtenUnder "properties" pairs with
      | none =>
        obtain ⟨listed, hlisted, hkeys⟩ := schemaFields?_of_absent hd hvalue hliteral hunder
        cases hlisted.symm.trans hfields
        exact .inl (.direct hliteral hunder ((hkeys key).mp hkey))
      | some under =>
        obtain ⟨_, hvalueUnder, hiff⟩ := schemaFields?_of_given hd hvalue hliteral hunder
        rw [(hiff fields).mp hfields] at hvalueUnder
        cases hproperties : d.objectEntries? under with
        | none => exact .inr (.property hliteral hunder hproperties hvalueUnder hkey)
        | some properties =>
          rw [valueOf?_of_objectEntries? hd hproperties, Option.map_eq_some_iff] at hvalueUnder
          obtain ⟨entries, hentries, heq⟩ := hvalueUnder
          cases heq
          rw [Dialect.mem_keys_ofPairs_evaluated hentries] at hkey
          exact .inl (.property hliteral hunder hproperties hkey)
  · rintro (h | h)
    · cases h with
      | direct hliteral habsent hkey =>
        obtain ⟨fields, hfields, hkeys⟩ := schemaFields?_of_absent hd hvalue hliteral habsent
        exact ⟨fields, hfields, (hkeys key).mpr hkey⟩
      | property hliteral hgiven hproperties hkey =>
        obtain ⟨valueUnder, hvalueUnder, hiff⟩ := schemaFields?_of_given hd hvalue hliteral hgiven
        rw [valueOf?_of_objectEntries? hd hproperties, Option.map_eq_some_iff] at hvalueUnder
        obtain ⟨entries, hentries, rfl⟩ := hvalueUnder
        exact ⟨_, (hiff _).mpr rfl, (Dialect.mem_keys_ofPairs_evaluated hentries key).mpr hkey⟩
    · cases h with
      | direct _ hentries hfields hkey =>
        cases hvalue.symm.trans hentries
        exact ⟨_, hfields, hkey⟩
      | property hliteral hgiven _ hentries hkey =>
        obtain ⟨_, hvalueUnder, hiff⟩ := schemaFields?_of_given hd hvalue hliteral hgiven
        cases hvalueUnder.symm.trans hentries
        exact ⟨_, (hiff _).mpr rfl, hkey⟩

end

/-! ## Options -/

section

variable {d : Dialect} {call : CallShape} {options : List (Text × Tree)}

theorem schemaNode_iff
    (hoptions : (call.arguments.drop 1).findSome? d.objectEntries? = some options)
    {schema : Tree} : SchemaNode d call schema ↔ writtenUnder "schema" options = some schema := by
  constructor
  · rintro ⟨options', hoptions', h⟩
    cases hoptions.symm.trans hoptions'
    exact h
  · exact fun h => ⟨options, hoptions, h⟩

theorem literal?_entries? {depth : Nat} {node : Tree} {literal : Literal} {entries : Entries}
    (h : d.literal? depth node = some literal) :
    literal.entries? = some entries ↔ d.literal? depth node = some (.value (.map entries)) := by
  rw [h, Option.some.injEq]
  constructor
  · intro hentries
    unfold Literal.entries? at hentries
    split at hentries
    · cases hentries
      rfl
    · cases hentries
  · rintro rfl
    rfl

/-- A schema that is an object literal adds what its sections describe, and their fragments. -/
theorem listsField_of_literal (hd : d.EvaluatesObjects) {schema : Tree} {entries : Entries}
    (hentries : d.literal? deepestLiteral schema = some (.value (.map entries)))
    {sections : List (Text × Tree)} (hsections : d.objectEntries? schema = some sections)
    {sect : Section} {key : Text} :
    (∃ name value, (name, sect) ∈ schemaSections ∧ Entries.get? name entries = some value ∧
        ListsField value key) ↔
      ∃ node, SectionNode d schema sect node ∧
        (DescribesField d node key ∨ FragmentField d (deepestLiteral - 2) node key) := by
  rw [show deepestLiteral = deepestLiteral - 1 + 1 from rfl, hd _ _ _ hsections,
    Option.map_eq_some_iff] at hentries
  obtain ⟨evaluated, hevaluated, heq⟩ := hentries
  cases heq
  constructor
  · rintro ⟨name, value, hlisted, hget, hfield⟩
    rw [Dialect.get?_ofPairs_evaluated hevaluated, Option.bind_eq_some_iff] at hget
    obtain ⟨node, hnode, hvalue⟩ := hget
    exact ⟨node, ⟨sections, name, hsections, hlisted, hnode⟩,
      (listsField_valueOf? hd hvalue).mp hfield⟩
  · rintro ⟨node, ⟨sections', name, hsections', hlisted, hnode⟩, hfield⟩
    cases hsections.symm.trans hsections'
    obtain ⟨value, hvalue, hget⟩ := valueOf?_writtenUnder hevaluated hnode
    exact ⟨name, value, hlisted, hget, (listsField_valueOf? hd hvalue).mpr hfield⟩

/-- The fields that the value of a schema lists for a section. -/
theorem listsField_of_schema (hd : d.EvaluatesObjects) {schema : Tree}
    (hnode : ∀ other, SchemaNode d call other ↔ other = schema) {literal : Literal}
    (hliteral : d.literal? deepestLiteral schema = some literal) {sect : Section} {key : Text} :
    (∃ entries, literal.entries? = some entries ∧ ∃ name value, (name, sect) ∈ schemaSections ∧
        Entries.get? name entries = some value ∧ ListsField value key) ↔
      SchemaDescribes d call sect key ∨ SchemaFragment d call sect key := by
  constructor
  · rintro ⟨entries, hentries, hlists⟩
    rw [literal?_entries? hliteral] at hentries
    cases hsections : d.objectEntries? schema with
    | none =>
      obtain ⟨name, value, hlisted, hget, fields, hfields, hkey⟩ := hlists
      exact .inr (.inSchema ((hnode schema).mpr rfl) hsections hentries hlisted hget hfields hkey)
    | some sections =>
      obtain ⟨node, hsection, hfield⟩ := (listsField_of_literal hd hentries hsections).mp hlists
      rcases hfield with hfield | hfield
      · exact .inl ⟨schema, node, (hnode schema).mpr rfl, hsection, hfield⟩
      · exact .inr (.inSection ((hnode schema).mpr rfl) hsection hfield)
  · -- a schema with sections is an object literal, and that evaluates to a mapping
    have hsection : ∀ node, SectionNode d schema sect node →
        DescribesField d node key ∨ FragmentField d (deepestLiteral - 2) node key →
        ∃ entries, literal.entries? = some entries ∧ ∃ name value,
          (name, sect) ∈ schemaSections ∧ Entries.get? name entries = some value ∧
            ListsField value key := by
      intro node hsect hfield
      have hsections := hsect
      obtain ⟨sections, -, hsections, -⟩ := hsections
      have hevaluated := hd (deepestLiteral - 1) schema sections hsections
      rw [show deepestLiteral - 1 + 1 = deepestLiteral from rfl, hliteral] at hevaluated
      obtain ⟨evaluated, -, rfl⟩ := Option.map_eq_some_iff.mp hevaluated.symm
      exact ⟨_, rfl, (listsField_of_literal hd hliteral hsections).mpr ⟨node, hsect, hfield⟩⟩
    rintro (⟨other, node, hother, hsect, hfield⟩ | h)
    · cases (hnode other).mp hother
      exact hsection node hsect (.inl hfield)
    · cases h with
      | inSection hother hsect hfield =>
        cases (hnode _).mp hother
        exact hsection _ hsect (.inr hfield)
      | inSchema hother _ hentries hlisted hget hfields hkey =>
        cases (hnode _).mp hother
        exact ⟨_, (literal?_entries? hliteral).mpr hentries, _, _, hlisted, hget, _, hfields, hkey⟩

/-- What the schema of a route adds to a section. -/
theorem mem_keys_applySchema (hd : d.EvaluatesObjects)
    (hoptions : (call.arguments.drop 1).findSome? d.objectEntries? = some options)
    {described : Metadata} (h : applySchema? d options {} = some described) {sect : Section}
    (hsect : sect ≠ .body) {key : Text} :
    key ∈ Entries.keys (described.parameters sect) ↔
      SchemaDescribes d call sect key ∨ SchemaFragment d call sect key := by
  have hempty : key ∉ Entries.keys (({} : Metadata).parameters sect) := by
    cases sect <;> exact List.not_mem_nil
  unfold applySchema? at h
  rw [Entries.get?_ofPairs, ← writtenUnder] at h
  cases hschema : writtenUnder "schema" options with
  | none =>
    rw [hschema] at h
    cases h
    have hno : ∀ schema, ¬ SchemaNode d call schema := by
      intro schema hnode
      cases hschema.symm.trans ((schemaNode_iff hoptions).mp hnode)
    refine iff_of_false hempty ?_
    rintro (⟨schema, _, hnode, -⟩ | (⟨hnode, -⟩ | ⟨hnode, -⟩))
    · exact hno schema hnode
    · exact hno _ hnode
    · exact hno _ hnode
  | some schema =>
    rw [hschema] at h
    simp only [Option.bind_eq_bind, Option.bind_eq_some_iff] at h
    obtain ⟨literal, hliteral, h⟩ := h
    have hnode : ∀ other, SchemaNode d call other ↔ other = schema := by
      intro other
      rw [schemaNode_iff hoptions, hschema, Option.some.injEq, eq_comm]
    rw [← listsField_of_schema hd hnode hliteral]
    cases hentries : literal.entries? with
    | none =>
      rw [hentries] at h
      cases h
      simp only [hempty, reduceCtorEq, false_and, exists_false]
    | some entries =>
      rw [hentries] at h
      cases h
      rw [mem_keys_applySections hsect, or_iff_right hempty]
      simp only [Option.some.injEq, exists_eq_left']

end

/-! ## Records -/

theorem mem_keys_describedMetadata {d : Dialect} (hd : d.EvaluatesObjects) {profile : Profile}
    (hschema : profile.optionsSchema = true) {call : CallShape} {described : Metadata}
    (h : describedMetadata? d profile call = some described) {sect : Section}
    (hsect : sect ≠ .body) {key : Text} :
    key ∈ Entries.keys (described.parameters sect) ↔
      SchemaDescribes d call sect key ∨ SchemaFragment d call sect key := by
  rw [describedMetadata?, if_pos hschema] at h
  cases hoptions : (call.arguments.drop 1).findSome? d.objectEntries? with
  | some options =>
    rw [hoptions] at h
    exact mem_keys_applySchema hd hoptions h hsect
  | none =>
    rw [hoptions] at h
    cases h
    have hno : ∀ schema, ¬ SchemaNode d call schema := by
      rintro schema ⟨options, hoptions', -⟩
      cases hoptions.symm.trans hoptions'
    refine iff_of_false (by cases sect <;> exact List.not_mem_nil) ?_
    rintro (⟨schema, _, hnode, -⟩ | (⟨hnode, -⟩ | ⟨hnode, -⟩))
    · exact hno schema hnode
    · exact hno _ hnode
    · exact hno _ hnode

/-- The parameters in the record of a route are those that its schema describes, those of
fragments in the schema, and those that its handler reads. All of them were written as names just
when those of fragments were. -/
theorem mem_keys_routeRecord (language : SourceLanguage) {profile : Profile}
    (hschema : profile.optionsSchema = true) {resource : Resource} {sourceFile : Text}
    {method : Method} {call : CallShape} {r : EndpointRecord}
    (h : EndpointRecord.ofMatch? language.dialect profile resource sourceFile
      ⟨.route, method, call⟩ = some r) {sect : Section} (hsect : sect ≠ .body) :
    (∀ key, key ∈ Entries.keys (r.parameters sect) ↔
      SchemaDescribes language.dialect call sect key ∨
        SchemaFragment language.dialect call sect key ∨
          HandlerReadsName language.dialect profile (call.arguments.drop 1) sect key) ∧
    ((∀ key ∈ Entries.keys (r.parameters sect),
        SchemaDescribes language.dialect call sect key ∨
          HandlerReadsName language.dialect profile (call.arguments.drop 1) sect key) ↔
      ∀ key, SchemaFragment language.dialect call sect key →
        SchemaDescribes language.dialect call sect key ∨
          HandlerReadsName language.dialect profile (call.arguments.drop 1) sect key) := by
  have hkeys : ∀ key, key ∈ Entries.keys (r.parameters sect) ↔
      SchemaDescribes language.dialect call sect key ∨
        SchemaFragment language.dialect call sect key ∨
          HandlerReadsName language.dialect profile (call.arguments.drop 1) sect key := by
    intro key
    simp only [EndpointRecord.ofMatch?, Option.bind_eq_bind, Option.bind_eq_some_iff] at h
    obtain ⟨found, hfound, heq⟩ := h
    have hfound : serverMetadata? language.dialect profile call = some found := hfound
    rw [serverMetadata?_eq, Option.map_eq_some_iff] at hfound
    obtain ⟨described, hdescribed, rfl⟩ := hfound
    have hrecord : r.parameters sect =
        (withHandler language.dialect profile call described).parameters sect := by
      cases heq
      cases sect <;> rfl
    rw [hrecord, mem_keys_withHandler hsect,
      mem_keys_describedMetadata language.evaluatesObjects hschema hdescribed hsect, or_assoc]
  refine ⟨hkeys, ?_, ?_⟩
  · intro hall key hfragment
    exact hall key ((hkeys key).mpr (.inr (.inl hfragment)))
  · intro hfragments key hkey
    rcases (hkeys key).mp hkey with hdescribed | hfragment | hread
    · exact .inl hdescribed
    · exact hfragments key hfragment
    · exact .inr hread

/-! ## A fragment in a record -/

namespace SharedHeaders

/-- `{ name: value }` -/
def objectOf (name : Text) (value : Tree) : Tree :=
  Estree.node "ObjectExpression"
    [("properties",
      .list [Estree.property "init" (Estree.identifier name) false value false false])]

/-- `{ schema: { headers: common } }` -/
def options : Tree := objectOf "schema" (objectOf "headers" (Estree.identifier "common"))

/-- The call `fastify.get("/x", { schema: { headers: common } })`. -/
def call : CallShape :=
  ⟨"fastify", "get", [Estree.literal (.ofString "/x") "\"/x\"".toList, options], none⟩

/-- The node of that call. -/
def node : Tree :=
  Estree.node "CallExpression"
    [("callee", Estree.node "MemberExpression"
      [("computed", .bool false), ("object", Estree.identifier call.receiver),
       ("property", Estree.identifier call.member)]),
     ("arguments", .list call.arguments)]

theorem isRoute :
    matchRoute? Estree.dialect .fastify "fastify" node = some ⟨.route, .get, call⟩ := by
  rfl

theorem record : ∃ r, EndpointRecord.ofMatch? Estree.dialect .fastify ⟨"shop", "/shop"⟩ "shop.js"
    ⟨.route, .get, call⟩ = some r ∧ Entries.keys (r.parameters .headers) = ["type", "name"] := by
  refine ⟨_, rfl, ?_⟩
  rfl

theorem not_describes (key : Text) : ¬ SchemaDescribes Estree.dialect call .headers key := by
  rintro ⟨schema, node, ⟨given, hgiven, hschema⟩, ⟨sections, name, hsections, hlisted, hnode⟩, h⟩
  cases hgiven
  cases hschema
  cases hsections
  simp only [schemaSections, List.mem_cons, Prod.mk.injEq, reduceCtorEq, and_true, and_false,
    or_false, List.not_mem_nil] at hlisted
  subst hlisted
  cases hnode
  -- the section is an identifier and not an object literal
  cases h with
  | direct literal => cases literal
  | property literal => cases literal

theorem not_reads (key : Text) :
    ¬ HandlerReadsName Estree.dialect .fastify (call.arguments.drop 1) .headers key := by
  rintro ⟨handler, request, hhandler, -⟩
  cases hhandler

end SharedHeaders

/-- A route whose record has the attributes of an identifier for headers. -/
theorem fragment_in_record :
    ∃ found r, matchRoute? Estree.dialect .fastify "fastify" SharedHeaders.node = some found ∧
      Profile.fastify.optionsSchema = true ∧
      EndpointRecord.ofMatch? Estree.dialect .fastify ⟨"shop", "/shop"⟩ "shop.js" found = some r ∧
      Text.ofString "type" ∈ Entries.keys (r.parameters .headers) ∧
      ¬ SchemaDescribes Estree.dialect found.call .headers "type" ∧
      ¬ HandlerReadsName Estree.dialect .fastify (found.call.arguments.drop 1) .headers "type" := by
  obtain ⟨r, hr, hkeys⟩ := SharedHeaders.record
  refine ⟨_, r, SharedHeaders.isRoute, rfl, hr, ?_, SharedHeaders.not_describes _,
    SharedHeaders.not_reads _⟩
  rw [hkeys]
  exact .head _

theorem mem_keys_routeRecord_sharedHeaders :
    ∃ r, EndpointRecord.ofMatch? Estree.dialect .fastify ⟨"shop", "/shop"⟩ "shop.js"
        ⟨.route, .get, SharedHeaders.call⟩ = some r ∧
      Entries.keys (r.parameters .headers) = ["type", "name"] ∧
      ∀ key ∈ Entries.keys (r.parameters .headers),
        SchemaFragment Estree.dialect SharedHeaders.call .headers key := by
  obtain ⟨r, hr, hkeys⟩ := SharedHeaders.record
  have hsect : Section.headers ≠ .body := by decide
  refine ⟨r, hr, hkeys, fun key hkey => ?_⟩
  rcases ((mem_keys_routeRecord .plain rfl hr hsect).1 key).mp hkey with h | h | h
  · exact absurd h (SharedHeaders.not_describes key)
  · exact h
  · exact absurd h (SharedHeaders.not_reads key)

end EndpointCatalog
