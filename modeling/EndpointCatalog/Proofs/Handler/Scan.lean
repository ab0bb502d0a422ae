/-
EndpointCatalog.Proofs.Handler.Scan — what a scan of a handler records.

* `Hits`: the first accessor that a chain begins with says which section it
  goes to.
* `Mentions`: a node mentions a name of a section, by a chain of members, by
  a pattern or by a getter.
* `scanHandler_records`: the names of a section are those that some node
  mentions. What was known keeps its value and its position; the names that
  are new map to null, in the order in which the nodes mention them first.

A visit of a node is a list of notes (`notes`), so that a whole scan is one
fold over the notes of all nodes (`readsAll_eq`), and the sections can be
looked at one by one (`HandlerReads.names_noteAll`). The order of the names is
that of the notes; which names they are is known from `mem_keys_noteNode`.
-/
import EndpointCatalog.Proofs.Handler.Agreement

namespace EndpointCatalog

/-! ## Names in order of first occurrence -/

namespace Entries

/-- The names that are no keys yet, each once, in order of first occurrence. -/
def newNames (entries : Entries) (names : List Text) : List Text :=
  (names.filter fun name => !(keys entries).contains name).eraseDups

/-- Entries with null under the names that are no keys yet. -/
def withNames (entries : Entries) (names : List Text) : Entries :=
  entries ++ (newNames entries names).map fun name => (name, .null)

theorem withNames_nil (entries : Entries) : withNames entries [] = entries :=
  List.append_nil entries

theorem insertNew_of_mem {entries : Entries} {key : Text} {value : Tree}
    (h : key ∈ keys entries) : insertNew key value entries = entries := by
  obtain ⟨old, hold⟩ := mem_keys_iff.1 h
  rw [insertNew, hold]

theorem insertNew_of_not_mem {entries : Entries} {key : Text} {value : Tree}
    (h : key ∉ keys entries) : insertNew key value entries = entries ++ [(key, value)] := by
  rw [insertNew]
  split
  · next old hold => exact absurd (mem_keys_iff.2 ⟨old, hold⟩) h
  · rfl

/-- Inserting name by name is inserting what is new among all of them. -/
theorem withNames_cons (entries : Entries) (name : Text) (names : List Text) :
    withNames entries (name :: names) = withNames (insertNew name .null entries) names := by
  by_cases h : name ∈ keys entries
  · rw [insertNew_of_mem h, withNames, withNames, newNames, newNames,
      List.filter_cons_of_neg (by simpa using h)]
  · have hfilter : names.filter (fun n => !(keys (entries ++ [(name, Tree.null)])).contains n) =
        (names.filter fun n => !(keys entries).contains n).filter fun n => !n == name := by
      rw [List.filter_filter]
      refine List.filter_congr fun n _ => ?_
      rw [Bool.eq_iff_iff]
      simp [keys, and_comm]
    rw [insertNew_of_not_mem h, withNames, withNames, newNames, newNames, hfilter,
      List.filter_cons_of_pos (by simpa using h), List.eraseDups_cons, List.map_cons,
      List.append_assoc, List.singleton_append]

theorem withNames_append (entries : Entries) (names names' : List Text) :
    withNames entries (names ++ names') = withNames (withNames entries names) names' := by
  induction names generalizing entries with
  | nil => rw [List.nil_append, withNames_nil]
  | cons name names ih => rw [List.cons_append, withNames_cons, ih, withNames_cons]

theorem mem_keys_withNames {key : Text} {entries : Entries} {names : List Text} :
    key ∈ keys (withNames entries names) ↔ key ∈ keys entries ∨ key ∈ names := by
  induction names generalizing entries with
  | nil => rw [withNames_nil, or_iff_left List.not_mem_nil]
  | cons name names ih =>
    rw [withNames_cons, ih, mem_keys_insertNew, List.mem_cons, ← or_assoc, @or_comm (key = name)]

end Entries

/-! ## Sections of chains -/

/-- A chain behind the request goes to a section, and something follows the accessor. The first
accessor that the chain begins with decides. -/
def Hits (profile : Profile) (chain : List Text) (sect : Section) (rest : List Text) : Prop :=
  ∃ before accessor after, profile.accessors = before ++ (sect, accessor) :: after ∧
    chain = accessor ++ rest ∧ ∀ earlier ∈ before, ¬ earlier.2 <+: chain

theorem classify_eq_some_iff {profile : Profile} {chain : List Text} {sect : Section}
    {name : Option Text} :
    classify profile chain = some (sect, name) ↔
      ∃ rest, Hits profile chain sect rest ∧ rest.head? = name := by
  rw [classify, List.findSome?_eq_some_iff]
  simp only [ite_eq_right_iff, reduceCtorEq, imp_false, List.isPrefixOf_iff_prefix]
  constructor
  · rintro ⟨before, ⟨sect', accessor⟩, after, hsplit, hfirst, hbefore⟩
    dsimp only at hfirst
    split at hfirst
    · next hprefix =>
      cases hfirst
      obtain ⟨rest, rfl⟩ := hprefix
      refine ⟨rest, ⟨before, accessor, after, hsplit, rfl, hbefore⟩, ?_⟩
      rw [List.getElem?_append_right (Nat.le_refl _), Nat.sub_self, List.head?_eq_getElem?]
    · cases hfirst
  · rintro ⟨rest, ⟨before, accessor, after, hsplit, rfl, hbefore⟩, rfl⟩
    refine ⟨before, (sect, accessor), after, hsplit, ?_, hbefore⟩
    rw [if_pos (List.prefix_append accessor rest), List.getElem?_append_right (Nat.le_refl _),
      Nat.sub_self, List.head?_eq_getElem?]

/-! ## Names of nodes -/

/-- A node mentions a name of a section of the request. -/
inductive Mentions (d : Dialect) (profile : Profile) (request : Text) (node : Tree) :
    Section → Text → Prop where
  /-- By `request.query.name`, or anything behind it. -/
  | member {sect : Section} {name : Text} {chain rest : List Text} :
      d.memberChain? node = some (request :: chain) → Hits profile chain sect (name :: rest) →
      Mentions d profile request node sect name
  /-- By a declaration `{ name } = request.query`. -/
  | pattern {sect : Section} {name : Text} {found : Destructuring} {chain : List Text} :
      d.destructuring? node = some found → d.memberChain? found.source = some (request :: chain) →
      Hits profile chain sect [] → name ∈ found.keys → Mentions d profile request node sect name
  /-- By a call `request.get("name")`. -/
  | getter {callee first : Tree} {getter name : Text} {rest : List Tree} :
      d.callee? node = some callee → d.memberChain? callee = some [request, getter] →
      getter ∈ profile.headerGetters → d.callArguments node = first :: rest →
      d.routeText? first = some name → name ≠ [] → Mentions d profile request node .headers name

section

variable {d : Dialect} {profile : Profile} {request : Text} {node : Tree}

theorem nodeReads_iff_mentions {sect : Section} {name : Text} :
    NodeReads d profile request node sect name ↔ Mentions d profile request node sect name := by
  constructor
  · rintro (⟨chain, hchain, -, hread⟩ | ⟨found, chain, hfound, hchain, hread, hname⟩ |
      ⟨rfl, callee, getter, hcallee, hchain, hgetter, hname, hne⟩)
    · obtain ⟨rest, hhits, hhead⟩ := classify_eq_some_iff.1 hread
      obtain ⟨rest, rfl⟩ := List.head?_eq_some_iff.1 hhead
      exact .member (Dialect.requestChain?_eq_some_iff.1 hchain) hhits
    · obtain ⟨rest, hhits, hhead⟩ := classify_eq_some_iff.1 hread
      obtain rfl := List.head?_eq_none_iff.1 hhead
      exact .pattern hfound (Dialect.requestChain?_eq_some_iff.1 hchain) hhits hname
    · obtain ⟨first, hfirst, htext⟩ := Option.bind_eq_some_iff.1 hname
      obtain ⟨rest, harguments⟩ := List.head?_eq_some_iff.1 hfirst
      exact .getter hcallee (Dialect.requestChain?_eq_some_iff.1 hchain) hgetter harguments htext
        hne
  · rintro (⟨hchain, hhits⟩ | ⟨hfound, hchain, hhits, hname⟩ |
      ⟨hcallee, hchain, hgetter, harguments, htext, hne⟩)
    · refine .inl ⟨_, Dialect.requestChain?_eq_some_iff.2 hchain, ?_,
        classify_eq_some_iff.2 ⟨_, hhits, rfl⟩⟩
      rintro rfl
      obtain ⟨_, accessor, _, -, heq, -⟩ := hhits
      exact List.append_ne_nil_of_right_ne_nil accessor (List.cons_ne_nil _ _) heq.symm
    · exact .inr (.inl ⟨_, _, hfound, Dialect.requestChain?_eq_some_iff.2 hchain,
        classify_eq_some_iff.2 ⟨_, hhits, rfl⟩, hname⟩)
    · refine .inr (.inr ⟨rfl, _, _, hcallee, Dialect.requestChain?_eq_some_iff.2 hchain, hgetter,
        ?_, hne⟩)
      rw [harguments, List.head?_cons, Option.bind_some, htext]

end

/-! ## Notes of a scan -/

/-- A section that is read, and which name of it. -/
abbrev Note := Section × Option Text

/-- The names of a section in some notes. -/
def namesIn (sect : Section) (notes : List Note) : List Text :=
  notes.flatMap fun n => if n.1 = sect then n.2.toList else []

namespace HandlerReads

/-- Takes notes one after the other. -/
def noteAll (reads : HandlerReads) (notes : List Note) : HandlerReads :=
  notes.foldl (fun reads n => reads.note n.1 n.2) reads

theorem noteAll_append (reads : HandlerReads) (ns ns' : List Note) :
    reads.noteAll (ns ++ ns') = (reads.noteAll ns).noteAll ns' := List.foldl_append

theorem names_note (reads : HandlerReads) (n : Note) (sect : Section) :
    (reads.note n.1 n.2).names sect =
      (reads.names sect).withNames (if n.1 = sect then n.2.toList else []) := by
  obtain ⟨target, name⟩ := n
  cases name with
  | none => cases target <;> cases sect <;> exact (Entries.withNames_nil _).symm
  | some name =>
    rw [Option.toList_some]
    split
    · next heq =>
      obtain rfl : target = sect := heq
      rw [Entries.withNames_cons, Entries.withNames_nil]
      cases target <;> rfl
    · next hne =>
      rw [Entries.withNames_nil]
      cases target <;> cases sect <;> first | rfl | exact absurd rfl hne

/-- Notes add their names to each section. -/
theorem names_noteAll (reads : HandlerReads) (notes : List Note) (sect : Section) :
    (reads.noteAll notes).names sect = (reads.names sect).withNames (namesIn sect notes) := by
  induction notes generalizing reads with
  | nil => exact (Entries.withNames_nil _).symm
  | cons n notes ih =>
    rw [noteAll, List.foldl_cons, ← noteAll, ih, names_note, ← Entries.withNames_append, namesIn,
      namesIn, List.flatMap_cons]

end HandlerReads

section

variable (d : Dialect) (profile : Profile) (request : Text) (node : Tree)

/-- The note of a chain of members. -/
def memberNotes : List Note :=
  match requestChain? d request node with
  | some (first :: rest) => (classify profile (first :: rest)).toList
  | _ => []

/-- The notes of an object pattern, in the order of its keys. -/
def patternNotes : List Note :=
  match d.destructuring? node with
  | none => []
  | some pattern =>
    match (requestChain? d request pattern.source).bind (classify profile) with
    | some (sect, none) => pattern.keys.map fun key => (sect, some key)
    | _ => []

/-- The note of a call of a getter. -/
def getterNotes : List Note :=
  match (d.callee? node).bind (requestChain? d request) with
  | some [getter] =>
    if profile.headerGetters.contains getter then
      match (d.callArguments node).head?.bind d.routeText? with
      | some (p :: name) => [(.headers, some (p :: name))]
      | _ => []
    else []
  | _ => []

/-- The notes of a visit. -/
def notes : List Note :=
  memberNotes d profile request node ++ patternNotes d profile request node ++
    getterNotes d profile request node

end

section

variable {d : Dialect} {profile : Profile} {request : Text} {node : Tree} {reads : HandlerReads}

theorem noteMember_eq :
    noteMember d profile request reads node = reads.noteAll (memberNotes d profile request node) := by
  rw [noteMember, memberNotes]
  rcases requestChain? d request node with _ | _ | ⟨first, rest⟩
  · rfl
  · rfl
  · dsimp only
    cases classify profile (first :: rest) <;> rfl

theorem noteDestructuring_eq :
    noteDestructuring d profile request reads node =
      reads.noteAll (patternNotes d profile request node) := by
  rw [noteDestructuring, patternNotes]
  cases d.destructuring? node with
  | none => rfl
  | some pattern =>
    dsimp only
    rcases (requestChain? d request pattern.source).bind (classify profile) with
      _ | ⟨sect, _ | name⟩
    · rfl
    · dsimp only
      rw [HandlerReads.noteAll, List.foldl_map]
    · rfl

theorem noteGetter_eq :
    noteGetter d profile request reads node =
      reads.noteAll (getterNotes d profile request node) := by
  rw [noteGetter, getterNotes]
  rcases (d.callee? node).bind (requestChain? d request) with _ | _ | ⟨getter, _ | _⟩
  · rfl
  · rfl
  · dsimp only
    split
    · rcases (d.callArguments node).head?.bind d.routeText? with _ | _ | _ <;> rfl
    · rfl
  · rfl

/-- A visit takes the notes of its node. -/
theorem noteNode_eq :
    noteNode d profile request reads node = reads.noteAll (notes d profile request node) := by
  rw [noteNode, noteMember_eq, noteDestructuring_eq, noteGetter_eq, notes,
    HandlerReads.noteAll_append, HandlerReads.noteAll_append]

/-- A scan takes the notes of all nodes. -/
theorem readsAll_eq {handler : Tree} {found : Metadata} :
    readsAll d profile handler found request =
      HandlerReads.noteAll ⟨found.headers, found.query, none⟩
        (handler.mappings.flatMap (notes d profile request)) := by
  rw [readsAll, Tree.walk_eq_mappings, HandlerReads.noteAll, List.foldl_flatMap]
  exact congrArg (List.foldl · _ _) (funext fun _ => funext fun _ => noteNode_eq)

end

/-! ## Names of a handler -/

/-- The names of a section that a node mentions, in the order in which they are written. -/
def mentionedBy (d : Dialect) (profile : Profile) (request : Text) (sect : Section)
    (node : Tree) : List Text :=
  namesIn sect (notes d profile request node)

/-- The names of a section in the order in which the nodes of a handler mention them. -/
def mentioned (d : Dialect) (profile : Profile) (request : Text) (handler : Tree)
    (sect : Section) : List Text :=
  handler.mappings.flatMap (mentionedBy d profile request sect)

section

variable {d : Dialect} {profile : Profile} {request : Text} {sect : Section}

theorem mem_mentionedBy {node : Tree} {name : Text} :
    name ∈ mentionedBy d profile request sect node ↔
      Mentions d profile request node sect name := by
  have hempty : Entries.keys (HandlerReads.names ⟨[], [], none⟩ sect) = [] := by
    cases sect <;> rfl
  have hkeys : name ∈ Entries.keys
      ((noteNode d profile request ⟨[], [], none⟩ node).names sect) ↔ _ := mem_keys_noteNode
  rw [noteNode_eq, HandlerReads.names_noteAll, Entries.mem_keys_withNames, hempty,
    or_iff_right List.not_mem_nil, or_iff_right List.not_mem_nil] at hkeys
  rw [mentionedBy, hkeys, nodeReads_iff_mentions]

/-- The keys of a pattern are mentioned in the order in which they are written. -/
theorem keys_infix_mentionedBy {node : Tree} {pattern : Destructuring} {chain : List Text}
    (hpattern : d.destructuring? node = some pattern)
    (hchain : d.memberChain? pattern.source = some (request :: chain))
    (hhits : Hits profile chain sect []) :
    pattern.keys <:+: mentionedBy d profile request sect node := by
  have hread : classify profile chain = some (sect, none) :=
    classify_eq_some_iff.2 ⟨[], hhits, rfl⟩
  have hnotes : patternNotes d profile request node =
      pattern.keys.map fun key => (sect, some key) := by
    simp only [patternNotes, hpattern, Dialect.requestChain?_eq_some_iff.2 hchain,
      Option.bind_some, hread]
  have hkeys : namesIn sect (patternNotes d profile request node) = pattern.keys := by
    rw [hnotes, namesIn, List.flatMap_map]
    simp
  rw [mentionedBy, notes, namesIn, List.flatMap_append, List.flatMap_append]
  exact ⟨_, _, congrArg (fun names => _ ++ names ++ _) hkeys.symm⟩

theorem mem_mentioned {handler : Tree} {name : Text} :
    name ∈ mentioned d profile request handler sect ↔
      ∃ node ∈ handler.mappings, Mentions d profile request node sect name := by
  simp only [mentioned, List.mem_flatMap, mem_mentionedBy]

theorem names_readsAll (d : Dialect) (profile : Profile) (request : Text) (sect : Section)
    (handler : Tree) (found : Metadata) : (readsAll d profile handler found request).names sect =
      Entries.withNames (HandlerReads.names ⟨found.headers, found.query, none⟩ sect)
        (mentioned d profile request handler sect) := by
  rw [readsAll_eq, HandlerReads.names_noteAll, namesIn, List.flatMap_assoc]
  rfl

end

/-! ## Sources of patterns -/

namespace Tree

theorem mem_mappings_of_entry {key : Text} {value node : Tree} {entries : Entries}
    (h : Entries.get? key entries = some value) (hnode : node ∈ value.mappings) :
    node ∈ (Tree.map entries).mappings :=
  List.mem_cons_of_mem _ (mem_entryMappings.2 ⟨(key, value), Entries.mem_of_get? h, hnode⟩)

theorem mem_mappings_get {t node : Tree} {key : String} (h : node ∈ (t.get key).mappings) :
    node ∈ t.mappings := by
  cases t with
  | map entries =>
    rw [get, get?] at h
    cases hvalue : Entries.get? (Text.ofString key) entries with
    | none =>
      rw [hvalue] at h
      cases h
    | some value =>
      rw [hvalue] at h
      exact mem_mappings_of_entry hvalue h
  | _ => cases h

/-- The mappings below a mapping of a tree are mappings of that tree. -/
theorem mappings_trans {t : Tree} {outer node : Tree} (hnode : node ∈ outer.mappings)
    (houter : outer ∈ t.mappings) : node ∈ t.mappings := by
  match t, houter with
  | .list items, houter =>
    rw [mappings, mem_listMappings] at houter ⊢
    obtain ⟨item, hitem, houter⟩ := houter
    have := List.sizeOf_lt_of_mem hitem
    exact ⟨item, hitem, mappings_trans hnode houter⟩
  | .map entries, houter =>
    rcases List.mem_cons.1 houter with rfl | houter
    · exact hnode
    · obtain ⟨⟨key, value⟩, hentry, houter⟩ := mem_entryMappings.1 houter
      have := List.sizeOf_lt_of_mem hentry
      exact List.mem_cons_of_mem _
        (mem_entryMappings.2 ⟨_, hentry, mappings_trans hnode houter⟩)
termination_by sizeOf t
decreasing_by
  · simp only [list.sizeOf_spec]; omega
  · simp only [map.sizeOf_spec, Prod.mk.sizeOf_spec] at *; omega

end Tree

/-- The source of a pattern is a node of the declaration. -/
def Dialect.HoldsSources (d : Dialect) : Prop :=
  ∀ {node : Tree} {found : Destructuring} {chain : List Text}, d.destructuring? node = some found →
    d.memberChain? found.source = some chain → found.source ∈ node.mappings

namespace Estree

theorem holdsSources : dialect.HoldsSources := by
  intro node found chain hfound hchain
  have hfound : destructuring? node = some found := hfound
  simp only [destructuring?] at hfound
  split at hfound
  · next hkind =>
    cases hfound
    exact Tree.mem_mappings_get (Tree.mem_mappings_self (Bool.and_eq_true_iff.1 hkind).2)
  · cases hfound

end Estree

namespace Cst

theorem isMap_of_memberChain? {node : Tree} {chain : List Text}
    (h : memberChain? node = some chain) : node.isMap = true := by
  by_cases hnode : isTransparent node
  · exact isMap_of_isTransparent hnode
  · rw [memberChain?, unwrap_of_not_isTransparent (Bool.eq_false_iff.2 hnode), reversedChain?] at h
    split at h
    · next hkind => exact isMap_of_isKind hkind
    · split at h
      · next hkind => exact isMap_of_isKind hkind
      · split at h
        · next hkind => exact isMap_of_isKind hkind
        · cases h

theorem mem_mappings_field {node : Tree} {name : String} (h : (field node name).isMap = true) :
    field node name ∈ node.mappings := by
  have hinner : field node name ∈ ((node.get "fields").get name).mappings := by
    unfold field at h ⊢
    split at h
    · cases h
    · next first rest heq =>
      rw [heq, Tree.mappings, Tree.listMappings]
      exact List.mem_append_left _ (Tree.mem_mappings_self h)
    · exact Tree.mem_mappings_self h
  exact Tree.mem_mappings_get (Tree.mem_mappings_get hinner)

theorem holdsSources : dialect.HoldsSources := by
  intro node found chain hfound hchain
  have hfound : destructuring? node = some found := hfound
  have hsource := isMap_of_memberChain? hchain
  simp only [destructuring?] at hfound
  split at hfound
  · split at hfound
    · cases hfound
    · cases hfound
      exact mem_mappings_field hsource
  · cases hfound

end Cst

theorem SourceLanguage.holdsSources (language : SourceLanguage) :
    language.dialect.HoldsSources := by
  cases language with
  | typed => exact Cst.holdsSources
  | plain => exact Estree.holdsSources

/-! ## Scans -/

/-- Some chain of members in a handler goes to the body. -/
def ReachesBody (d : Dialect) (profile : Profile) (request : Text) (handler : Tree) : Prop :=
  ∃ node ∈ handler.mappings, ∃ chain rest,
    d.memberChain? node = some (request :: chain) ∧ Hits profile chain .body rest

/-- A scan records what a handler mentions. -/
structure Records (d : Dialect) (profile : Profile) (request : Text) (handler : Tree)
    (found scanned : Metadata) : Prop where
  /-- The names of a section are those that the nodes mention. -/
  named (sect : Section) (name : Text) : name ∈ mentioned d profile request handler sect ↔
    ∃ node ∈ handler.mappings, Mentions d profile request node sect name
  /-- Each node stands for the names that it mentions itself. -/
  nodes (sect : Section) (node : Tree) (name : Text) :
    name ∈ mentionedBy d profile request sect node ↔ Mentions d profile request node sect name
  /-- A pattern stands for its keys in their order. -/
  patterns {sect : Section} {node : Tree} {pattern : Destructuring} {chain : List Text} :
    d.destructuring? node = some pattern → d.memberChain? pattern.source = some (request :: chain) →
      Hits profile chain sect [] → pattern.keys <:+: mentionedBy d profile request sect node
  headers : scanned.headers =
    found.headers.withNames (mentioned d profile request handler .headers)
  query : scanned.query = found.query.withNames (mentioned d profile request handler .query)
  /-- A body that is described stays as it is. -/
  described : found.body.isNull = false → scanned.body = found.body
  unread : found.body.isNull = true → ¬ ReachesBody d profile request handler →
    scanned.body = .null
  read : found.body.isNull = true → ReachesBody d profile request handler →
    scanned.body = .map (Entries.withNames [] (mentioned d profile request handler .body))

section

variable {d : Dialect} {profile : Profile} {request : Text} {handler : Tree} {found : Metadata}

/-- The body is opened by a chain of members: where a pattern opens it, its source does, too. -/
theorem isSome_body_iff (hsources : d.HoldsSources)
    (haccessors : ∀ accessor ∈ profile.accessors, accessor.2 ≠ []) :
    (readsAll d profile handler found request).body.isSome = true ↔
      ReachesBody d profile request handler := by
  rw [isSome_body_readsAll]
  constructor
  · rintro ⟨name, node, hnode, ⟨hchain, -, hread⟩ | ⟨hbinding, hread, -⟩ | ⟨-, -, hsect, -⟩⟩
    · obtain ⟨rest, hhits, -⟩ := classify_eq_some_iff.1 hread
      exact ⟨node, hnode, _, rest, hchain, hhits⟩
    · obtain ⟨pattern, hpattern, heq⟩ := Option.map_eq_some_iff.1 hbinding
      obtain ⟨-, hchain⟩ := Prod.mk.inj heq
      obtain ⟨rest, hhits, -⟩ := classify_eq_some_iff.1 hread
      exact ⟨pattern.source, Tree.mappings_trans (hsources hpattern hchain) hnode, _, rest, hchain,
        hhits⟩
    · cases hsect
  · rintro ⟨node, hnode, chain, rest, hchain, hhits⟩
    refine ⟨rest.head?, node, hnode, .member hchain ?_
      (classify_eq_some_iff.2 ⟨rest, hhits, rfl⟩)⟩
    rintro rfl
    obtain ⟨before, accessor, after, hsplit, heq, -⟩ := hhits
    have hempty : accessor = [] := (List.append_eq_nil_iff.1 heq.symm).1
    refine haccessors (.body, accessor) ?_ hempty
    rw [hsplit]
    exact List.mem_append_right _ List.mem_cons_self

end

/-- A first parameter that is no pattern is the name of the request. -/
theorem requestName?_eq_some {d : Dialect} {handler : Tree} {request : Text} {others : List Text}
    (hparams : d.functionParams? handler = some (request :: others)) (hrequest : request ≠ []) :
    requestName? d handler = some request := by
  rw [requestName?, hparams]
  exact if_neg (by simpa using hrequest)

/-- Scanning a handler records exactly what it mentions, in both languages. -/
theorem scanHandler_records (language : SourceLanguage) {profile : Profile} {handler : Tree}
    {request : Text} {others : List Text}
    (haccessors : ∀ accessor ∈ profile.accessors, accessor.2 ≠ [])
    (hparams : language.dialect.functionParams? handler = some (request :: others))
    (hrequest : request ≠ []) (found : Metadata) :
    Records language.dialect profile request handler found
      (scanHandler language.dialect profile handler found) := by
  have hname := requestName?_eq_some hparams hrequest
  have hbody : (scanHandler language.dialect profile handler found).body = _ :=
    body_scanHandler hname
  have hopened : (readsAll language.dialect profile handler found request).body.isSome = true ↔
      ReachesBody language.dialect profile request handler :=
    isSome_body_iff language.holdsSources haccessors
  have hscan : ∀ sect, sect ≠ .body →
      (scanHandler language.dialect profile handler found).parameters sect =
        (found.parameters sect).withNames
          (mentioned language.dialect profile request handler sect) := by
    intro sect hsect
    have hnames := names_readsAll language.dialect profile request sect handler found
    rw [scanHandler, hname]
    cases sect with
    | body => exact absurd rfl hsect
    | headers => exact hnames
    | query => exact hnames
  refine ⟨fun sect name => mem_mentioned, fun sect node name => mem_mentionedBy,
    keys_infix_mentionedBy, hscan .headers (by decide), hscan .query (by decide),
    fun hdescribed => ?_, fun hnull hunread => ?_, fun hnull hread => ?_⟩
  · rw [hbody, hdescribed, if_neg Bool.false_ne_true]
  · rw [← hopened, Option.not_isSome_iff_eq_none] at hunread
    rw [hbody, if_pos hnull, hunread, Option.elim_none]
  · obtain ⟨fields, hfields⟩ := Option.isSome_iff_exists.1 (hopened.2 hread)
    have hnames := names_readsAll language.dialect profile request .body handler found
    rw [HandlerReads.names, hfields] at hnames
    rw [hbody, if_pos hnull, hfields, Option.elim_some]
    exact congrArg Tree.map hnames

end EndpointCatalog
