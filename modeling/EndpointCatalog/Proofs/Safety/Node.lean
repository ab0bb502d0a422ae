/-
EndpointCatalog.Proofs.Safety.Node — building sound nodes.

* `sound_node`: a node of a kind without parts is sound if its attributes
  are. `sound_object`, `sound_array` and `sound_unary`: with parts it may be
  nested one level deeper than they are.
* `Sound.located`: a place changes nothing.
* `Sound.toPattern`: an expression that is read again as a pattern stays
  sound. Only kinds change in it, and never to one that has parts.
-/
import EndpointCatalog.Estree.Parser.Operator
import EndpointCatalog.Proofs.Safety.Shape

namespace EndpointCatalog.Estree

variable {depth : Nat} {t : Tree}

attribute [simp] forms fits_ofString sound_list

@[simp] theorem isText_text (text : Text) : (Tree.text text).isText := rfl

@[simp] theorem isText_ofString (s : String) : (Tree.ofString s).isText := rfl

@[simp] theorem isInt_int (n : Int) : (Tree.int n).isInt := rfl

@[simp] theorem isList_list (items : List Tree) : (Tree.list items).isList := rfl

@[simp] theorem isMap_map (entries : Entries) : (Tree.map entries).isMap := rfl

@[simp] theorem sound_null : Sound depth .null := sound_of_not_isBranch rfl

@[simp] theorem sound_bool (b : Bool) : Sound depth (.bool b) := sound_of_not_isBranch rfl

@[simp] theorem sound_int (n : Int) : Sound depth (.int n) := sound_of_not_isBranch rfl

@[simp] theorem sound_text (text : Text) : Sound depth (.text text) := sound_of_not_isBranch rfl

@[simp] theorem sound_regex (pattern : Text) (multiline ignoreCase : Bool) :
    Sound depth (.regex pattern multiline ignoreCase) := sound_of_not_isBranch rfl

@[simp] theorem sound_ofString (s : String) : Sound depth (.ofString s) := sound_text _

@[simp] theorem isStretchList_list (items : List Tree) :
    isStretchList (.list items) = items.all isStretch := rfl

/-! ## Nodes -/

theorem readable_iff {entries : Entries} :
    isReadable (.map entries) ↔ (∀ e ∈ entries, fits e.1 e.2) ∧
      (isKind (.map entries) "Identifier" → ((Tree.map entries).get? "name").isSome) := by
  simp only [isReadable, Bool.and_eq_true, List.all_eq_true, Bool.or_eq_true, Bool.not_eq_true']
  refine and_congr_right fun _ => ⟨fun h hkind => ?_, fun h => ?_⟩
  · exact h.resolve_left fun hnot => by rw [hkind] at hnot; cases hnot
  · cases hkind : isKind (.map entries) "Identifier" with
    | false => exact .inl rfl
    | true => exact .inr (h hkind)

theorem isKind_map_cons (kind other : String) (entries : Entries) :
    isKind (.map (("type", .ofString kind) :: entries)) other = (kind == other) := by
  have hkind : (Tree.map (("type", .ofString kind) :: entries)).hasText "type" kind :=
    Tree.hasText_iff.mpr rfl
  exact Tree.hasText_eq hkind other

theorem isKind_node (kind other : String) (fields : List (String × Tree)) :
    isKind (node kind fields) other = (kind == other) := isKind_map_cons kind other _

/-- The kinds of literals, and of what may have some for its parts. -/
def literalKinds : List String :=
  ["Literal", "ObjectExpression", "ArrayExpression", "UnaryExpression"]

/-- What is of no such kind is nested no deeper than any number but zero. -/
theorem shallow_of_kind (h : ∀ kind ∈ literalKinds, isKind t kind = false) :
    Shallow (depth + 1) t := by
  have hkind {kind : String} (hmem : kind ∈ literalKinds) : ¬ isKind t kind :=
    Bool.eq_false_iff.mp (h kind hmem)
  exact ⟨fun hk => (hkind (by decide) hk).elim, fun hk => (hkind (by decide) hk).elim,
    fun hk => (hkind (by decide) hk).elim, fun hk => (hkind (by decide) hk).elim⟩

theorem shallow_node {kind : String} (hkind : kind ∉ literalKinds) (fields : List (String × Tree)) :
    Shallow (depth + 1) (node kind fields) :=
  shallow_of_kind fun other hother => by
    rw [isKind_node, beq_eq_false_iff_ne]
    exact fun heq => hkind (heq ▸ hother)

theorem mem_attributes {fields : List (String × Tree)} {e : Text × Tree}
    (h : e ∈ attributes fields) : ∃ f ∈ fields, (Text.ofString f.1, f.2) = e := by
  obtain ⟨f, hf, heq⟩ := List.mem_filterMap.mp h
  refine ⟨f, hf, ?_⟩
  dsimp only at heq
  split at heq
  · cases heq
  · exact Option.some.inj heq

theorem get?_attributes_eq_none {key : String} {fields : List (String × Tree)}
    (h : ∀ f ∈ fields, f.1 ≠ key) :
    Entries.get? (Text.ofString key) (attributes fields) = none := by
  cases hget : Entries.get? (Text.ofString key) (attributes fields) with
  | none => rfl
  | some found =>
    obtain ⟨f, hf, heq⟩ := mem_attributes (Entries.mem_of_get? hget)
    exact (h f hf (Text.ofString_injective (congrArg Prod.fst heq))).elim

/-- An attribute that a sound node may have. -/
def SoundField (depth : Nat) (field : String × Tree) : Prop :=
  fits (Text.ofString field.1) field.2 ∧ Sound depth field.2

attribute [simp] SoundField

theorem sound_of_fields {kind : String} {fields : List (String × Tree)}
    (hfields : ∀ f ∈ fields, SoundField depth f)
    (hname : kind = "Identifier" → ((node kind fields).get? "name").isSome)
    (hshallow : Shallow (depth + 1) (node kind fields)) : Sound depth (node kind fields) := by
  have hentries : ∀ e ∈ (("type", .ofString kind) :: attributes fields : Entries),
      fits e.1 e.2 ∧ Sound depth e.2 := by
    intro e he
    rcases List.mem_cons.mp he with rfl | he
    · exact ⟨by simp, sound_ofString kind⟩
    · obtain ⟨f, hf, rfl⟩ := mem_attributes he
      exact hfields f hf
  refine sound_map.mpr ⟨⟨readable_iff.mpr ⟨fun e he => (hentries e he).1, fun hkind => ?_⟩,
    hshallow⟩, fun e he => (hentries e he).2⟩
  exact hname (by simpa [isKind_map_cons] using hkind)

/-- A node of a kind without parts. -/
theorem sound_node {kind : String} {fields : List (String × Tree)}
    (hkind : kind ∉ "Identifier" :: literalKinds) (hfields : ∀ f ∈ fields, SoundField depth f) :
    Sound depth (node kind fields) :=
  sound_of_fields hfields (fun heq => (hkind (heq ▸ .head _)).elim)
    (shallow_node (fun hmem => hkind (.tail _ hmem)) fields)

theorem sound_identifier (name : Text) : Sound depth (identifier name) :=
  sound_of_fields (by simp) (fun _ => rfl) (shallow_node (by decide) _)

theorem get_node_head {kind name : String} {value : Tree} {fields : List (String × Tree)}
    (hname : name ≠ "type") (hfields : ∀ f ∈ fields, f.1 ≠ name) :
    (node kind ((name, value) :: fields)).get name = value := by
  have htype : Text.ofString "type" ≠ Text.ofString name := fun heq =>
    hname (Text.ofString_injective heq).symm
  have hrest := get?_attributes_eq_none hfields
  show (Entries.get? (Text.ofString name)
    ((Text.ofString "type", .ofString kind) :: attributes ((name, value) :: fields))).getD .null =
      value
  rw [Entries.get?, if_neg htype]
  by_cases hnull : value.isNull = true
  · have hskip : attributes ((name, value) :: fields) = attributes fields := by
      simp [attributes, hnull]
    rw [hskip, hrest]
    cases value <;> first | rfl | cases hnull
  · have hkeep : attributes ((name, value) :: fields) =
        (Text.ofString name, value) :: attributes fields := by
      simp [attributes, hnull]
    rw [hkeep, Entries.get?, if_pos rfl]
    rfl

/-- A plain literal has a value without parts. -/
theorem sound_plain {value : Tree} {fields : List (String × Tree)}
    (hvalue : value.isBranch = false) (hfields : ∀ f ∈ fields, SoundField depth f)
    (hnames : ∀ f ∈ fields, f.1 ≠ "value") :
    Sound depth (node "Literal" (("value", value) :: fields)) := by
  refine sound_of_fields (List.forall_mem_cons.mpr ⟨?_, hfields⟩) (by simp) ⟨?_, ?_, ?_, ?_⟩
  · exact ⟨by simp, sound_of_not_isBranch hvalue⟩
  · rw [get_node_head (by decide) hnames]
    exact fun _ => hvalue
  all_goals simp [isKind_node]

theorem sound_literal {value : Tree} (hvalue : value.isBranch = false) (raw : List Char) :
    Sound depth (literal value raw) :=
  sound_plain hvalue (by simp) (by simp)

theorem isBranch_ofLiteral (value : NumberLiteral) : (Tree.ofLiteral value).isBranch = false := by
  cases value <;> rfl

theorem sound_object {properties : List Tree} (h : ∀ p ∈ properties, Sound depth p) :
    Sound (depth + 1) (node "ObjectExpression" [("properties", .list properties)]) := by
  refine sound_of_fields (by simpa using fun p hp => (h p hp).succ) (by simp) ⟨?_, ?_, ?_, ?_⟩
  · simp [isKind_node]
  · exact fun _ p hp => ((h p hp).get "value").shallow
  · simp [isKind_node]
  · simp [isKind_node]

theorem sound_array {elements : List Tree} (h : ∀ e ∈ elements, Sound depth e) :
    Sound (depth + 1) (node "ArrayExpression" [("elements", .list elements)]) := by
  refine sound_of_fields (by simpa using fun e he => (h e he).succ) (by simp) ⟨?_, ?_, ?_, ?_⟩
  · simp [isKind_node]
  · simp [isKind_node]
  · exact fun _ e he => (h e he).shallow
  · simp [isKind_node]

theorem sound_unary {argument : Tree} (h : Sound depth argument) (operator : Text) :
    Sound (depth + 1) (node "UnaryExpression"
      [("prefix", .bool true), ("operator", .text operator), ("argument", argument)]) := by
  refine sound_of_fields (by simp [h.succ]) (by simp) ⟨?_, ?_, ?_, ?_⟩
  · simp [isKind_node]
  · simp [isKind_node]
  · simp [isKind_node]
  · refine fun _ => Sound.shallow ?_
    cases argument <;> exact h

/-! ## Changed nodes -/

/-- The attributes that tell how deep the literals of a node are nested. -/
def nestingKeys : List String := ["type", "properties", "elements", "argument"]

theorem Shallow.congr {n n' : Tree} (h : Shallow depth n)
    (hvalue : (n'.get "value").isBranch = (n.get "value").isBranch)
    (hget : ∀ key ∈ nestingKeys, n'.get key = n.get key) : Shallow depth n' := by
  have hkind (kind : String) : isKind n' kind = isKind n kind := by
    rw [isKind, isKind, Tree.hasText, Tree.hasText, hget "type" (.head _)]
  cases depth with
  | zero => exact h
  | succ depth =>
    rw [Shallow, hkind, hkind, hkind, hkind, hvalue, hget "properties" (.tail _ (.head _)),
      hget "elements" (.tail _ (.tail _ (.head _))),
      hget "argument" (.tail _ (.tail _ (.tail _ (.head _))))]
    exact h

/-- An entry that a sound node may have. -/
def SoundEntry (depth : Nat) (e : Text × Tree) : Prop := fits e.1 e.2 ∧ Sound depth e.2

theorem Sound.entries {entries : Entries} (h : Sound depth (.map entries)) :
    ∀ e ∈ entries, SoundEntry depth e := by
  obtain ⟨⟨hreadable, -⟩, hparts⟩ := sound_map.mp h
  exact fun e he => ⟨(readable_iff.mp hreadable).1 e he, hparts e he⟩

/-- A node stays sound if its kind, its name and its parts stay, whatever else of it changes; its
value may, but not for something with parts. -/
theorem Sound.change {entries changed : Entries} (h : Sound depth (.map entries))
    (hchanged : ∀ e ∈ changed, SoundEntry depth e)
    (hvalue : ((Tree.map changed).get "value").isBranch = ((Tree.map entries).get "value").isBranch)
    (hget : ∀ key ∈ "name" :: nestingKeys,
      Entries.get? (Text.ofString key) changed = Entries.get? (Text.ofString key) entries) :
    Sound depth (.map changed) := by
  have hkeys (key : String) (hkey : key ∈ "name" :: nestingKeys) :
      (Tree.map changed).get key = (Tree.map entries).get key :=
    congrArg (fun value => value.getD Tree.null) (hget key hkey)
  obtain ⟨⟨hreadable, hshallow⟩, -⟩ := sound_map.mp h
  refine sound_map.mpr ⟨⟨readable_iff.mpr ⟨fun e he => (hchanged e he).1, fun hkind => ?_⟩,
    hshallow.congr hvalue fun key hkey => hkeys key (.tail _ hkey)⟩, fun e he => (hchanged e he).2⟩
  have hname : (Tree.map changed).get? "name" = (Tree.map entries).get? "name" :=
    hget "name" (.head _)
  rw [isKind, Tree.hasText, hkeys "type" (.tail _ (.head _))] at hkind
  rw [hname]
  exact (readable_iff.mp hreadable).2 hkind

/-- A node of a kind without parts is sound if its entries are; an identifier needs a name. -/
theorem sound_map_of_kind {kind : String} {entries : Entries}
    (htype : Entries.get? (Text.ofString "type") entries = some (.ofString kind))
    (hkind : kind ∉ literalKinds)
    (hname : kind = "Identifier" → (Entries.get? (Text.ofString "name") entries).isSome)
    (hentries : ∀ e ∈ entries, SoundEntry depth e) : Sound depth (.map entries) := by
  have hkinds (other : String) : isKind (.map entries) other = (kind == other) := by
    refine Tree.hasText_eq (Tree.hasText_iff.mpr ?_) other
    exact congrArg (fun value => value.getD Tree.null) htype
  refine sound_map.mpr ⟨⟨readable_iff.mpr ⟨fun e he => (hentries e he).1, fun hid => ?_⟩,
    shallow_of_kind fun other hother => ?_⟩, fun e he => (hentries e he).2⟩
  · rw [hkinds, beq_iff_eq] at hid
    exact hname hid
  · rw [hkinds, beq_eq_false_iff_ne]
    exact fun heq => hkind (heq ▸ hother)

theorem get?_append_attribute {entries : Entries} {name key : String} (hne : name ≠ key)
    (value : Tree) : Entries.get? (Text.ofString key) (entries ++ attributes [(name, value)]) =
      Entries.get? (Text.ofString key) entries := by
  rw [Entries.get?_append, get?_attributes_eq_none (by simpa using hne), Option.or_none]

theorem Sound.append {entries : Entries} (h : Sound depth (.map entries)) {name : String}
    {value : Tree} (hname : name ∉ "value" :: "name" :: nestingKeys)
    (hfield : SoundField depth (name, value)) :
    Sound depth (.map (entries ++ attributes [(name, value)])) := by
  have hget (key : String) (hkey : key ∈ "value" :: "name" :: nestingKeys) :
      Entries.get? (Text.ofString key) (entries ++ attributes [(name, value)]) =
        Entries.get? (Text.ofString key) entries := by
    refine get?_append_attribute ?_ value
    rintro rfl
    exact hname hkey
  refine h.change (fun e he => ?_) ?_ fun key hkey => hget key (.tail _ hkey)
  · rcases List.mem_append.mp he with he | he
    · exact h.entries e he
    · obtain ⟨f, hf, rfl⟩ := mem_attributes he
      rw [List.mem_singleton.mp hf]
      exact hfield
  · exact congrArg (fun found => (found.getD Tree.null).isBranch) (hget "value" (.head _))

/-- A mapping without a kind is sound if its attributes are. -/
theorem sound_attributes {fields : List (String × Tree)}
    (hfields : ∀ f ∈ fields, SoundField depth f)
    (htype : (Tree.map (attributes fields)).get "type" = .null) :
    Sound depth (.map (attributes fields)) := by
  have hkind (kind : String) : isKind (.map (attributes fields)) kind = false := by
    rw [isKind, Tree.hasText, htype]
  have hentries : ∀ e ∈ attributes fields, SoundEntry depth e := by
    intro e he
    obtain ⟨f, hf, rfl⟩ := mem_attributes he
    exact hfields f hf
  refine sound_map.mpr ⟨⟨readable_iff.mpr ⟨fun e he => (hentries e he).1, fun hid => ?_⟩,
    shallow_of_kind fun kind _ => hkind kind⟩, fun e he => (hentries e he).2⟩
  rw [hkind] at hid
  cases hid

@[simp] theorem sound_place (p : Place) : Sound depth p.toTree := sound_attributes (by simp) rfl

@[simp] theorem isMap_place (p : Place) : p.toTree.isMap := rfl

theorem Sound.located (h : Sound depth t) (start stop : Place) :
    Sound depth (located t start stop) := by
  cases t with
  | map entries => exact h.append (by decide) ⟨by simp, sound_attributes (by simp) rfl⟩
  | _ => exact h

/-! ## Patterns -/

/-- A value under the key may be replaced by any other that is a list if it is one. -/
def OnlyListed (key : Text) : Prop :=
  ∀ value value' : Tree, value'.isList = value.isList → fits key value → fits key value'

theorem onlyListed_innerKey (kind : String) : OnlyListed (Text.ofString (innerKey kind)) := by
  intro value value' hlist
  unfold innerKey
  split <;> simp [hlist]

theorem onlyListed_value : OnlyListed (Text.ofString "value") := fun _ _ _ => by simp

theorem onlyListed_argument : OnlyListed (Text.ofString "argument") := fun _ _ _ => by simp

/-- What becomes of a value that is read as a pattern. -/
def patternValue (inProperties : Bool) : Tree → Tree
  | .list items => .list (if inProperties then toPropertyPatterns items else toPatterns items)
  | other => toPattern other

theorem toPatternUnder_cons (key : Text) (dropsOperator inProperties : Bool) (k : Text) (t : Tree)
    (rest : Entries) :
    toPatternUnder key dropsOperator inProperties ((k, t) :: rest) =
      if dropsOperator ∧ k = "operator" then toPatternUnder key dropsOperator inProperties rest
      else if k = key then (k, patternValue inProperties t) :: rest
      else (k, t) :: toPatternUnder key dropsOperator inProperties rest := by
  rw [toPatternUnder.eq_def]
  cases t <;> rfl

theorem isList_patternValue (inProperties : Bool) (t : Tree) :
    (patternValue inProperties t).isList = t.isList := by
  cases t with
  | map entries =>
    rw [patternValue, toPattern]
    · split <;> rfl
    · exact fun _ heq => nomatch heq
  | _ => rfl

theorem isBranch_patternValue (inProperties : Bool) (t : Tree) :
    (patternValue inProperties t).isBranch = t.isBranch := by
  cases t with
  | map entries =>
    rw [patternValue, toPattern]
    · split <;> rfl
    · exact fun _ heq => nomatch heq
  | _ => rfl

/-- A value with parts keeps some, and one without gets none. -/
theorem isBranch_get_toPatternUnder (key : String) (inProperties : Bool) (entries : Entries) :
    ((Tree.map (toPatternUnder (Text.ofString key) false inProperties entries)).get key).isBranch =
      ((Tree.map entries).get key).isBranch := by
  show ((Entries.get? _ _).getD Tree.null).isBranch = ((Entries.get? _ _).getD Tree.null).isBranch
  induction entries with
  | nil => rfl
  | cons e es ih =>
    obtain ⟨k, t⟩ := e
    rw [toPatternUnder_cons, if_neg (by simp)]
    by_cases hk : k = Text.ofString key
    · rw [if_pos hk, Entries.get?, Entries.get?, if_pos hk, if_pos hk]
      exact isBranch_patternValue inProperties t
    · rw [if_neg hk, Entries.get?, Entries.get?, if_neg hk, if_neg hk]
      exact ih

theorem get?_toPatternUnder {key other : Text} (hne : key ≠ other) (inProperties : Bool)
    (entries : Entries) :
    Entries.get? other (toPatternUnder key false inProperties entries) =
      Entries.get? other entries := by
  induction entries with
  | nil => rfl
  | cons e es ih =>
    obtain ⟨k, t⟩ := e
    rw [toPatternUnder_cons, if_neg (by simp)]
    split
    · rename_i hk
      rw [Entries.get?, Entries.get?, if_neg (hk ▸ hne), if_neg (hk ▸ hne)]
    · rw [Entries.get?, Entries.get?, ih]

/-- A node whose kind becomes one without parts is sound if its entries are. -/
theorem sound_withKind {kind : String} {entries : Entries}
    (hkind : kind ∉ "Identifier" :: literalKinds) (h : ∀ e ∈ entries, SoundEntry depth e) :
    Sound depth (.map (withKind kind entries)) := by
  refine sound_map_of_kind ?_ (fun hmem => hkind (.tail _ hmem))
    (fun heq => (hkind (heq ▸ .head _)).elim) fun e he => ?_
  · exact (Entries.get?_insert _ _ _ _).trans (if_pos rfl)
  · rcases Entries.mem_of_mem_insert he with rfl | he
    · exact ⟨by simp, sound_ofString kind⟩
    · exact h e he

theorem patternKind?_notMem {n : Tree} {kind : String} (h : patternKind? n = some kind) :
    kind ∉ "Identifier" :: literalKinds := by
  unfold patternKind? at h
  split at h
  · cases h; decide
  split at h
  · cases h; decide
  split at h
  · cases h; decide
  split at h
  · cases h; decide
  · cases h

mutual

theorem Sound.toPattern : ∀ {t : Tree}, Sound depth t → Sound depth (toPattern t)
  | .map entries, h => by
    rw [Estree.toPattern]
    split
    · exact h
    · rename_i kind hkind
      exact sound_withKind (patternKind?_notMem hkind)
        (soundEntry_toPatternUnder (onlyListed_innerKey kind) _ _ h.entries)
  | .null, h => h
  | .bool _, h => h
  | .int _, h => h
  | .float _, h => h
  | .text _, h => h
  | .list _, h => h
  | .regex _ _ _, h => h

theorem soundEntry_toPatternUnder {key : Text} (hkey : OnlyListed key)
    (dropsOperator inProperties : Bool) :
    ∀ {entries : List (Text × Tree)}, (∀ e ∈ entries, SoundEntry depth e) →
      ∀ e ∈ toPatternUnder key dropsOperator inProperties entries, SoundEntry depth e
  | [], _, e, he => nomatch he
  | (k, t) :: rest, h, e, he => by
    have hfirst := h (k, t) (.head rest)
    have hrest := soundEntry_toPatternUnder hkey dropsOperator inProperties fun e he =>
      h e (.tail (k, t) he)
    rw [toPatternUnder_cons] at he
    split at he
    · exact hrest e he
    split at he
    · rename_i hk
      rcases List.mem_cons.mp he with rfl | he
      · have hfits : fits key (patternValue inProperties t) :=
          hkey t _ (isList_patternValue inProperties t) (hk ▸ hfirst.1)
        exact ⟨hk ▸ hfits, sound_patternValue inProperties hfirst.2⟩
      · exact h e (.tail (k, t) he)
    · rcases List.mem_cons.mp he with rfl | he
      · exact hfirst
      · exact hrest e he

theorem sound_patternValue (inProperties : Bool) :
    ∀ {t : Tree}, Sound depth t → Sound depth (patternValue inProperties t)
  | .list items, h => by
    rw [patternValue, sound_list]
    split
    · exact sound_toPropertyPatterns (sound_list.mp h)
    · exact sound_toPatterns (sound_list.mp h)
  | .map entries, h => Sound.toPattern h
  | .null, h => h
  | .bool _, h => h
  | .int _, h => h
  | .float _, h => h
  | .text _, h => h
  | .regex _ _ _, h => h

theorem sound_toPatterns :
    ∀ {items : List Tree}, (∀ t ∈ items, Sound depth t) → ∀ t ∈ toPatterns items, Sound depth t
  | [], _, t, ht => nomatch ht
  | first :: rest, h, t, ht => by
    have hrest := sound_toPatterns fun t ht => h t (.tail first ht)
    rcases List.mem_cons.mp ht with rfl | ht
    · exact (h first (.head rest)).toPattern
    · exact hrest t ht

theorem sound_toPropertyPatterns :
    ∀ {items : List Tree}, (∀ t ∈ items, Sound depth t) →
      ∀ t ∈ toPropertyPatterns items, Sound depth t
  | [], _, t, ht => nomatch ht
  | first :: rest, h, t, ht => by
    have hrest := sound_toPropertyPatterns fun t ht => h t (.tail first ht)
    cases first with
    | map entries =>
      have hfirst := h (.map entries) (.head rest)
      rw [toPropertyPatterns] at ht
      rcases List.mem_cons.mp ht with rfl | ht
      · split
        · exact sound_withKind (by decide)
            (soundEntry_toPatternUnder onlyListed_argument _ _ hfirst.entries)
        · refine hfirst.change (soundEntry_toPatternUnder onlyListed_value _ _ hfirst.entries)
            (isBranch_get_toPatternUnder "value" _ entries) fun key hkey => get?_toPatternUnder (fun heq => ?_) _ _
          rw [← Text.ofString_injective heq] at hkey
          exact absurd hkey (by decide)
      · exact hrest t ht
    | _ =>
      rcases List.mem_cons.mp ht with rfl | ht
      · exact h _ (.head rest)
      · exact hrest t ht

end

end EndpointCatalog.Estree
