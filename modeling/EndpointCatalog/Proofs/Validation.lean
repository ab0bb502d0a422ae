/-
EndpointCatalog.Proofs.Validation — records read from data and written again.

* `Describes`: what data must hold for a record, field by field. Data are
  accepted as a record if and only if they describe it (`ofEntries_eq_valid_iff`);
  a field that may be left out is read as if its default stood there.
* `keys_toEntries`, `values_toEntries`: the two spellings of a record differ in
  three keys. The values under the keys are equal, in the same order.
* `same_iff`: two records are the same if and only if they agree in each field,
  which is so if and only if what is written of them holds the same value under
  each key (`sameUnderKeys_iff`). A record is the same as itself, unless a mapping
  in it has a key twice.
* `accepted_reread`: all of this for accepted data.
-/
import EndpointCatalog.Proofs.Handler.Shape
import EndpointCatalog.Proofs.Safety.Record

namespace EndpointCatalog

/-! ## Checked values -/

namespace Checked

variable {α β : Type}

theorem seq_eq_valid_iff {f : Checked (α → β)} {x : Checked α} {b : β} :
    f <*> x = .valid b ↔ ∃ g a, f = .valid g ∧ x = .valid a ∧ g a = b := by
  change seq f (fun _ => x) = .valid b ↔ _
  cases f <;> cases x <;> simp [seq]

end Checked

/-! ## Fields -/

/-- The value under the first of some keys that the data has. -/
def given? (data : Entries) (keys : List String) : Option Tree :=
  keys.findSome? fun key => Entries.get? (Text.ofString key) data

theorem map_snd_lookup? (data : Entries) (keys : List String) :
    (lookup? data keys).map Prod.snd = given? data keys := by
  induction keys with
  | nil => rfl
  | cons key rest ih =>
    rw [lookup?, given?, List.findSome?_cons]
    cases Entries.get? (Text.ofString key) data with
    | some value => rfl
    | none => exact ih

section Fields

variable {α : Type} {data : Entries} {keys : List String} {read : Tree → Except FieldFault α}
  {x : α}

/-- A field without a default is there and is read. -/
theorem readField_required_iff :
    readField data keys none read = .valid x ↔
      ∃ value, given? data keys = some value ∧ read value = .ok x := by
  rw [← map_snd_lookup?]
  cases hlookup : lookup? data keys with
  | none => simp [readField, hlookup]
  | some found => cases hread : read found.2 <;> simp [readField, hlookup, hread]

/-- A field with a default is read as if the default stood there. -/
theorem readField_optional_iff {start : Tree} {otherwise : α} (hstart : read start = .ok otherwise) :
    readField data keys (some otherwise) read = .valid x ↔
      read ((given? data keys).getD start) = .ok x := by
  rw [← map_snd_lookup?]
  cases hlookup : lookup? data keys with
  | none => simp [readField, hlookup, hstart]
  | some found => cases hread : read found.2 <;> simp [readField, hlookup, hread]

end Fields

theorem readText_eq_ok_iff {value : Tree} {t : Text} : readText value = .ok t ↔ value = .text t := by
  cases value <;> simp [readText]

theorem readMapping_eq_ok_iff {value : Tree} {entries : Entries} :
    readMapping value = .ok entries ↔ value = .map entries := by
  cases value <;> simp [readMapping]

/-- A name is read from its own text only. -/
theorem readName_eq_ok_iff {α : Type} {ofText? : Text → Option α} {name : α → String}
    (hname : ∀ t x, ofText? t = some x ↔ t = Text.ofString (name x)) {value : Tree} {x : α} :
    readName ofText? value = .ok x ↔ value = .ofString (name x) := by
  rw [readName, Tree.ofString]
  cases value with
  | text t =>
    rw [Tree.text?, Option.bind_some, Tree.text.injEq, ← hname]
    cases ofText? t <;> simp
  | _ => simp [Tree.text?]

theorem Method.ofText?_eq_some_iff (t : Text) (m : Method) :
    ofText? t = some m ↔ t = Text.ofString m.toString := by
  constructor
  · intro h
    unfold ofText? at h
    have hfound := List.find?_some h
    exact (of_decide_eq_true hfound).symm
  · rintro rfl
    exact m.ofText?_toString

theorem EndpointKind.ofText?_eq_some_iff (t : Text) (k : EndpointKind) :
    ofText? t = some k ↔ t = Text.ofString k.toString := by
  constructor
  · intro h
    unfold ofText? at h
    have hfound := List.find?_some h
    exact (of_decide_eq_true hfound).symm
  · rintro rfl
    exact k.ofText?_toString

theorem Method.toString_injective {m n : Method} (h : m.toString = n.toString) : m = n := by
  have hm := m.ofText?_toString
  rw [h, n.ofText?_toString] at hm
  exact (Option.some.inj hm).symm

theorem EndpointKind.toString_injective {k l : EndpointKind} (h : k.toString = l.toString) :
    k = l := by
  have hk := k.ofText?_toString
  rw [h, l.ofText?_toString] at hk
  exact (Option.some.inj hk).symm

/-! ## Records -/

namespace EndpointRecord

variable {data : Entries} {r s : EndpointRecord} {style : KeyStyle}

/-- Data describe a record. A field that may be left out is given by its default then. -/
structure Describes (data : Entries) (r : EndpointRecord) : Prop where
  method : given? data ["method"] = some (.ofString r.method.toString)
  path : (given? data ["path"]).getD (.text []) = .text r.path
  headers : (given? data ["headers"]).getD (.map []) = .map r.headers
  queryParameters :
    (given? data ["queryParameters", "query_parameters"]).getD (.map []) = .map r.queryParameters
  body : (given? data ["body"]).getD .null = r.body
  sourceFile : given? data ["sourceFile", "source_file"] = some (.text r.sourceFile)
  resourceName : given? data ["resourceName", "resource_name"] = some (.text r.resourceName)
  kind : (given? data ["kind"]).getD (.ofString "route") = .ofString r.kind.toString
  /-- The only field whose value may be of another kind than what is read from it. -/
  line : readLine ((given? data ["line"]).getD .null) = .ok r.line

theorem readField_method_iff {m : Method} :
    readField data ["method"] none (readName Method.ofText?) = .valid m ↔
      given? data ["method"] = some (.ofString m.toString) := by
  simp only [readField_required_iff, readName_eq_ok_iff Method.ofText?_eq_some_iff,
    exists_eq_right]

theorem readField_kind_iff {k : EndpointKind} :
    readField data ["kind"] (some .route) (readName EndpointKind.ofText?) = .valid k ↔
      (given? data ["kind"]).getD (.ofString "route") = .ofString k.toString := by
  have hroute : readName EndpointKind.ofText? (.ofString "route") = .ok .route :=
    readName_of_ofText? EndpointKind.route.ofText?_toString
  rw [readField_optional_iff hroute, readName_eq_ok_iff EndpointKind.ofText?_eq_some_iff]

theorem readField_text_iff {keys : List String} {t : Text} :
    readField data keys none readText = .valid t ↔ given? data keys = some (.text t) := by
  simp only [readField_required_iff, readText_eq_ok_iff, exists_eq_right]

theorem readField_mapping_iff {keys : List String} {entries : Entries} :
    readField data keys (some []) readMapping = .valid entries ↔
      (given? data keys).getD (.map []) = .map entries := by
  rw [readField_optional_iff (readMapping_eq_ok_iff.mpr rfl), readMapping_eq_ok_iff]

theorem readField_path_iff {t : Text} :
    readField data ["path"] (some []) readText = .valid t ↔
      (given? data ["path"]).getD (.text []) = .text t := by
  have hempty : readText (.text []) = .ok [] := rfl
  rw [readField_optional_iff hempty, readText_eq_ok_iff]

theorem readField_body_iff {body : Tree} :
    readField data ["body"] (some Tree.null) Except.ok = .valid body ↔
      (given? data ["body"]).getD .null = body := by
  have hnull : (Except.ok Tree.null : Except FieldFault Tree) = .ok .null := rfl
  rw [readField_optional_iff hnull, Except.ok.injEq]

theorem readField_line_iff {line : Option Int} :
    readField data ["line"] (some none) readLine = .valid line ↔
      readLine ((given? data ["line"]).getD .null) = .ok line := by
  have hnull : readLine .null = .ok none := rfl
  rw [readField_optional_iff hnull]

/-- Data are accepted as a record if and only if they describe it. -/
theorem ofEntries_eq_valid_iff : ofEntries data = .valid r ↔ Describes data r := by
  constructor
  · intro h
    simp only [ofEntries, Checked.seq_eq_valid_iff] at h
    obtain ⟨_, line, ⟨_, kind, ⟨_, resource, ⟨_, source, ⟨_, body, ⟨_, query, ⟨_, headers,
      ⟨_, path, ⟨_, method, hmk, hmethod, rfl⟩, hpath, rfl⟩, hheaders, rfl⟩, hquery, rfl⟩,
      hbody, rfl⟩, hsource, rfl⟩, hresource, rfl⟩, hkind, rfl⟩, hline, rfl⟩ := h
    cases hmk
    exact {
      method := readField_method_iff.mp hmethod
      path := readField_path_iff.mp hpath
      headers := readField_mapping_iff.mp hheaders
      queryParameters := readField_mapping_iff.mp hquery
      body := readField_body_iff.mp hbody
      sourceFile := readField_text_iff.mp hsource
      resourceName := readField_text_iff.mp hresource
      kind := readField_kind_iff.mp hkind
      line := readField_line_iff.mp hline }
  · intro h
    have hquery : readField data (keysOf queryKey) (some []) readMapping =
        .valid r.queryParameters := readField_mapping_iff.mpr h.queryParameters
    have hsource : readField data (keysOf sourceKey) none readText = .valid r.sourceFile :=
      readField_text_iff.mpr h.sourceFile
    have hresource : readField data (keysOf resourceKey) none readText = .valid r.resourceName :=
      readField_text_iff.mpr h.resourceName
    rw [ofEntries, readField_method_iff.mpr h.method, readField_path_iff.mpr h.path,
      readField_mapping_iff.mpr h.headers, hquery, readField_body_iff.mpr h.body, hsource,
      hresource, readField_kind_iff.mpr h.kind, readField_line_iff.mpr h.line]
    rfl

/-! ## Written records -/

/-- The keys that are written of a record. -/
def writtenKeys : KeyStyle → List String
  | .catalog => ["method", "path", "headers", "queryParameters", "body", "sourceFile",
      "resourceName", "kind", "line"]
  | .plain => ["method", "path", "headers", "query_parameters", "body", "source_file",
      "resource_name", "kind", "line"]

theorem keys_toEntries (r : EndpointRecord) (style : KeyStyle) :
    Entries.keys (r.toEntries style) = (writtenKeys style).map Text.ofString := by
  cases style <;> rfl

/-- Only keys depend on the spelling. -/
theorem values_toEntries (r : EndpointRecord) :
    (r.toEntries .plain).map Prod.snd = (r.toEntries .catalog).map Prod.snd := rfl

end EndpointRecord

/-! ## Same trees -/

namespace Tree

variable {P : Tree → Prop}

/-- Whether no key of a mapping is there twice. -/
def keysApart : Tree → Bool
  | .map entries => decide (Entries.keys entries).Nodup
  | _ => true

/-- No mapping of a tree has a key twice. -/
def KeysApart (t : Tree) : Prop := t.AllMappings (keysApart ·)

theorem sameUnder_iff {other entries : Entries} :
    sameUnder other entries ↔
      ∀ e ∈ entries, ∃ value, Entries.get? e.1 other = some value ∧ same e.2 value := by
  induction entries with
  | nil => simp [sameUnder]
  | cons e rest ih =>
    obtain ⟨key, x⟩ := e
    rw [sameUnder, Bool.and_eq_true, ih, List.forall_mem_cons]
    cases Entries.get? key other <;> simp

theorem sameScalar_refl {t : Tree} (h : t.isBranch = false) : sameScalar t t := by
  cases t with
  | list _ => cases h
  | map _ => cases h
  | float x => cases hx : x.toRatio? <;> simp [sameScalar, ratio?, hx]
  | _ => simp [sameScalar, ratio?]

theorem same_scalar_refl {t : Tree} (h : t.isBranch = false) : same t t := by
  have hscalar : same t t = sameScalar t t := by
    cases t with
    | list _ => cases h
    | map _ => cases h
    | _ => simp [same]
  rw [hscalar]
  exact sameScalar_refl h

mutual

/-- A tree holds the same value as itself. -/
theorem same_refl : ∀ {t : Tree}, t.KeysApart → same t t
  | .list items, h => by
    rw [same]
    exact sameItems_refl (allMappings_list.mp h)
  | .map entries, h => by
    obtain ⟨hself, hbelow⟩ := allMappings_map.mp h
    rw [same, beq_self_eq_true, Bool.true_and]
    exact sameUnder_refl (fun e he => Entries.get?_of_mem (of_decide_eq_true hself) he) hbelow
  | .null, _ => same_scalar_refl rfl
  | .bool _, _ => same_scalar_refl rfl
  | .int _, _ => same_scalar_refl rfl
  | .float _, _ => same_scalar_refl rfl
  | .text _, _ => same_scalar_refl rfl
  | .regex _ _ _, _ => same_scalar_refl rfl

theorem sameItems_refl : ∀ {items : List Tree}, (∀ t ∈ items, t.KeysApart) →
    sameItems items items
  | [], _ => by rw [sameItems]
  | t :: rest, h => by
    rw [sameItems, Bool.and_eq_true]
    exact ⟨same_refl (h t (.head rest)), sameItems_refl fun t ht => h t (.tail _ ht)⟩

theorem sameUnder_refl {other : Entries} : ∀ {entries : List (Text × Tree)},
    (∀ e ∈ entries, Entries.get? e.1 other = some e.2) → (∀ e ∈ entries, e.2.KeysApart) →
      sameUnder other entries
  | [], _, _ => by rw [sameUnder]
  | (key, x) :: rest, hget, h => by
    rw [sameUnder, hget _ (.head rest), Bool.and_eq_true]
    exact ⟨same_refl (h _ (.head rest)), sameUnder_refl (fun e he => hget e (.tail _ he))
      fun e he => h e (.tail _ he)⟩

end

/-- Two mappings hold the same value under a key. -/
def SameUnderKey (key : Text) (xs ys : Entries) : Prop :=
  ∃ x y, Entries.get? key xs = some x ∧ Entries.get? key ys = some y ∧ same x y

/-- Two mappings are the same if they are of one length and hold the same values under the keys
of one of them. -/
theorem same_map_iff {xs ys : Entries} (hxs : (Entries.keys xs).Nodup) :
    same (.map xs) (.map ys) ↔
      xs.length = ys.length ∧ ∀ key ∈ Entries.keys xs, SameUnderKey key xs ys := by
  rw [same, Bool.and_eq_true, beq_iff_eq, sameUnder_iff]
  refine and_congr_right fun _ => ⟨fun h key hkey => ?_, fun h e he => ?_⟩
  · obtain ⟨⟨_, x⟩, he, rfl⟩ := List.mem_map.mp hkey
    obtain ⟨y, hy, hsame⟩ := h _ he
    exact ⟨x, y, Entries.get?_of_mem hxs he, hy, hsame⟩
  · obtain ⟨x, y, hx, hy, hsame⟩ := h e.1 (List.mem_map_of_mem he)
    rw [Entries.get?_of_mem hxs he] at hx
    cases hx
    exact ⟨y, hy, hsame⟩

theorem sameUnderKey_iff {key : Text} {xs ys : Entries} {x y : Tree}
    (hx : Entries.get? key xs = some x) (hy : Entries.get? key ys = some y) :
    SameUnderKey key xs ys ↔ same x y := by
  simp only [SameUnderKey, hx, hy, Option.some.injEq, exists_and_left, exists_eq_left']

theorem same_text_iff {t u : Text} : same (.text t) (.text u) ↔ t = u := by
  simp [same, sameScalar]

end Tree

/-! ## Same records -/

namespace EndpointRecord

variable {data : Entries} {r s : EndpointRecord}

/-- Two records agree in each field: in texts, names and the line they are equal, in the values
that a program may choose they are the same. -/
structure Agree (r s : EndpointRecord) : Prop where
  method : r.method = s.method
  path : r.path = s.path
  headers : (Tree.map r.headers).same (.map s.headers)
  queryParameters : (Tree.map r.queryParameters).same (.map s.queryParameters)
  body : r.body.same s.body
  sourceFile : r.sourceFile = s.sourceFile
  resourceName : r.resourceName = s.resourceName
  kind : r.kind = s.kind
  line : r.line = s.line

/-- A line number as it is written. -/
def lineTree : Option Int → Tree
  | some n => .int n
  | none => .null

theorem same_lineTree_iff {m n : Option Int} : (lineTree m).same (lineTree n) ↔ m = n := by
  cases m <;> cases n <;> simp [lineTree, Tree.same, Tree.sameScalar, Tree.ratio?]

theorem nodup_keys_toEntries (r : EndpointRecord) (style : KeyStyle) :
    (Entries.keys (r.toEntries style)).Nodup := by
  rw [keys_toEntries]
  refine List.Nodup.map (fun _ _ => Text.ofString_injective) ?_
  cases style <;> decide

theorem same_ofString_iff {a b : String} :
    (Tree.ofString a).same (.ofString b) ↔ a = b :=
  Tree.same_text_iff.trans ⟨Text.ofString_injective, congrArg _⟩

/-- The values that are written of a record, under their keys. -/
structure Holds (entries : Entries) (style : KeyStyle) (r : EndpointRecord) : Prop where
  method : Entries.get? "method" entries = some (.ofString r.method.toString)
  path : Entries.get? "path" entries = some (.text r.path)
  headers : Entries.get? "headers" entries = some (.map r.headers)
  queryParameters :
    Entries.get? (Text.ofString (queryKey style)) entries = some (.map r.queryParameters)
  body : Entries.get? "body" entries = some r.body
  sourceFile : Entries.get? (Text.ofString (sourceKey style)) entries = some (.text r.sourceFile)
  resourceName :
    Entries.get? (Text.ofString (resourceKey style)) entries = some (.text r.resourceName)
  kind : Entries.get? "kind" entries = some (.ofString r.kind.toString)
  line : Entries.get? "line" entries = some (lineTree r.line)

theorem holds_toEntries (r : EndpointRecord) (style : KeyStyle) :
    Holds (r.toEntries style) style r := by
  cases style <;> constructor <;> rfl

/-- The values that are written of two records are the same if and only if the records agree. -/
theorem sameUnderKeys_iff (r s : EndpointRecord) (style : KeyStyle) :
    (∀ key ∈ Entries.keys (r.toEntries style),
      Tree.SameUnderKey key (r.toEntries style) (s.toEntries style)) ↔ Agree r s := by
  have hr := holds_toEntries r style
  have hs := holds_toEntries s style
  have hmethod := (Tree.sameUnderKey_iff hr.method hs.method).trans
    (same_ofString_iff.trans ⟨Method.toString_injective, congrArg _⟩)
  have hpath := (Tree.sameUnderKey_iff hr.path hs.path).trans Tree.same_text_iff
  have hheaders := Tree.sameUnderKey_iff hr.headers hs.headers
  have hquery := Tree.sameUnderKey_iff hr.queryParameters hs.queryParameters
  have hbody := Tree.sameUnderKey_iff hr.body hs.body
  have hsource := (Tree.sameUnderKey_iff hr.sourceFile hs.sourceFile).trans Tree.same_text_iff
  have hresource :=
    (Tree.sameUnderKey_iff hr.resourceName hs.resourceName).trans Tree.same_text_iff
  have hkind := (Tree.sameUnderKey_iff hr.kind hs.kind).trans
    (same_ofString_iff.trans ⟨EndpointKind.toString_injective, congrArg _⟩)
  have hline := (Tree.sameUnderKey_iff hr.line hs.line).trans same_lineTree_iff
  have hkeys : Entries.keys (r.toEntries style) = [Text.ofString "method", "path", "headers",
      queryKey style, "body", sourceKey style, resourceKey style, "kind", "line"] := by
    cases style <;> rfl
  simp only [hkeys, List.forall_mem_cons, List.not_mem_nil, false_imp_iff, implies_true, and_true,
    hmethod, hpath, hheaders, hquery, hbody, hsource, hresource, hkind, hline]
  constructor
  · rintro ⟨hmethod, hpath, hheaders, hquery, hbody, hsource, hresource, hkind, hline⟩
    exact ⟨hmethod, hpath, hheaders, hquery, hbody, hsource, hresource, hkind, hline⟩
  · rintro ⟨hmethod, hpath, hheaders, hquery, hbody, hsource, hresource, hkind, hline⟩
    exact ⟨hmethod, hpath, hheaders, hquery, hbody, hsource, hresource, hkind, hline⟩

/-- Two records are the same if and only if they agree in each field. -/
theorem same_iff (r s : EndpointRecord) : r.same s ↔ Agree r s := by
  have hlength : (r.toEntries .plain).length = (s.toEntries .plain).length := rfl
  rw [same, Tree.same_map_iff (nodup_keys_toEntries r .plain), and_iff_right hlength,
    sameUnderKeys_iff]

/-! ### Accepted data -/

theorem keysApart_of_given? {keys : List String} {value : Tree}
    (hdata : (Tree.map data).KeysApart) (h : given? data keys = some value) : value.KeysApart := by
  obtain ⟨key, -, hget⟩ := List.exists_of_findSome?_eq_some h
  exact (Tree.allMappings_map.mp hdata).2 _ (Entries.mem_of_get? hget)

theorem keysApart_of_getD {keys : List String} {start value : Tree}
    (hdata : (Tree.map data).KeysApart) (hstart : start.KeysApart)
    (h : (given? data keys).getD start = value) : value.KeysApart := by
  cases hgiven : given? data keys with
  | none => rwa [← h, hgiven]
  | some found =>
    rw [hgiven, Option.getD_some] at h
    exact h ▸ keysApart_of_given? hdata hgiven

/-- A record from data without repeated keys is the same as itself. -/
theorem Describes.same_self (h : Describes data r) (hdata : (Tree.map data).KeysApart) :
    r.same r := by
  have hempty : (Tree.map []).KeysApart := Tree.allMappings_map.mpr ⟨rfl, nofun⟩
  have hnull : Tree.null.KeysApart := Tree.allMappings_of_not_isBranch rfl
  exact (same_iff r r).mpr {
    method := rfl
    path := rfl
    headers := Tree.same_refl (keysApart_of_getD hdata hempty h.headers)
    queryParameters := Tree.same_refl (keysApart_of_getD hdata hempty h.queryParameters)
    body := Tree.same_refl (keysApart_of_getD hdata hnull h.body)
    sourceFile := rfl
    resourceName := rfl
    kind := rfl
    line := rfl }

/-- What is promised for data that are accepted as a record. -/
structure Reread (data : Entries) (r : EndpointRecord) : Prop where
  /-- The record is the one that the data describe. -/
  described : ∀ s, Describes data s ↔ s = r
  /-- With either spelling it is read back as it was written. -/
  read : ∀ style, ofEntries (r.toEntries style) = .valid r
  /-- It is the same as itself, if the data have no key twice. -/
  self : (Tree.map data).KeysApart → r.same r
  /-- The two spellings differ in three keys only. -/
  keys : ∀ style, Entries.keys (r.toEntries style) = (writtenKeys style).map Text.ofString
  values : (r.toEntries .plain).map Prod.snd = (r.toEntries .catalog).map Prod.snd
  /-- Records from other data are the same if and only if the nine written values are. -/
  same_iff : ∀ other s, ofEntries other = .valid s → ∀ style, r.same s ↔
    ∀ key ∈ writtenKeys style,
      Tree.SameUnderKey (Text.ofString key) (r.toEntries style) (s.toEntries style)
  /-- They are so if and only if they agree in each field. -/
  agree_iff : ∀ other s, ofEntries other = .valid s → (r.same s ↔ Agree r s)

/-- Accepted data give a record that is read back from what is written of it. -/
theorem accepted_reread (h : ofEntries data = .valid r) : Reread data r where
  described s := by
    rw [← ofEntries_eq_valid_iff, h, Checked.valid.injEq]
    exact eq_comm
  read style := ofEntries_toEntries style r
  self := (ofEntries_eq_valid_iff.mp h).same_self
  keys := keys_toEntries r
  values := values_toEntries r
  same_iff _ s _ style := by
    rw [EndpointRecord.same_iff, ← sameUnderKeys_iff r s style, keys_toEntries,
      List.forall_mem_map]
  agree_iff _ s _ := EndpointRecord.same_iff r s

/-- Data with one field under the catalog's key, one under both keys and one under the plain name,
with a key that is no field and a line number in a text. -/
def mixedData : Entries :=
  [("resource_name", .ofString "users"), ("method", .ofString "PUT"),
   ("source_file", .ofString "b.js"), ("sourceFile", .ofString "a.js"), ("extra", .bool true),
   ("queryParameters", .map [("page", .list [.int 1, .float (Binary64.ofMagnitude false 0)])]),
   ("line", .ofString " 1_2.0 ")]

/-- The record of `mixedData`. -/
def mixedRecord : EndpointRecord where
  method := .put
  queryParameters := [("page", .list [.int 1, .float (Binary64.ofMagnitude false 0)])]
  sourceFile := "a.js"
  resourceName := "users"
  line := some 12

theorem accepted_reread_mixed :
    ofEntries mixedData = .valid mixedRecord ∧ Reread mixedData mixedRecord := by
  have h : ofEntries mixedData = .valid mixedRecord := by rfl
  exact ⟨h, accepted_reread h⟩

end EndpointRecord

end EndpointCatalog
