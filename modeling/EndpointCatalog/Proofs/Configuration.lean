/-
EndpointCatalog.Proofs.Configuration — what a script's configuration of a
request gives.

The entries are read in order, and each one may set a section anew. In the
end headers and query are what the last object literal under their key says,
the body is the last value under its key, and no entry under another key
counts (`configuration_read`). An object literal is the only expression whose
value is a mapping of its own: everything else is a scalar, a list or the node
itself.

A number that is too long to be spelled is the exception. As a static key it
ends the extraction, whatever stands under it (`longKey_fails`).
-/
import EndpointCatalog.Proofs.Safety.Extraction

namespace EndpointCatalog.Estree

/-! ## What the entries say -/

/-- The static entries of the configuration that a call has. -/
def settings (call : CallShape) : List (Text × Tree) :=
  match call.arguments with
  | _ :: config :: _ => (objectEntries? config).getD []
  | _ => []

/-- The nodes under a key, in the order of the source. -/
def nodesUnder (key : Text) (entries : List (Text × Tree)) : List Tree :=
  (entries.filter fun e => e.1 = key).map Prod.snd

/-- What the last object literal says; nothing if there is none. -/
def lastObject (nodes : List Tree) : Entries :=
  (((nodes.filter (isKind · "ObjectExpression")).getLast?.bind (literal? deepestLiteral)).bind
    Literal.entries?).getD []

/-- What the last node says; null if there is none. -/
def lastValue (nodes : List Tree) : Tree :=
  (nodes.getLast?.bind (dialect.valueOf? deepestLiteral)).getD .null

variable {depth : Nat} {node : Tree} {literal : Literal} {entries : List (Text × Tree)}

theorem nodesUnder_append (key : Text) (e : Text × Tree) :
    nodesUnder key (entries ++ [e]) =
      nodesUnder key entries ++ if e.1 = key then [e.2] else [] := by
  rw [nodesUnder, List.filter_append, List.map_append, nodesUnder]
  by_cases hkey : e.1 = key <;> simp [hkey]

theorem lastValue_append (nodes : List Tree) {literal : Literal}
    (h : literal? deepestLiteral node = some literal) :
    lastValue (nodes ++ [node]) = literal.toTree node := by
  have hvalue : dialect.valueOf? deepestLiteral node = some (literal.toTree node) := by
    rw [Dialect.valueOf?, show dialect.literal? deepestLiteral node = some literal from h]
    rfl
  rw [lastValue, List.getLast?_concat, Option.bind_some, hvalue, Option.getD_some]

/-! ## Mappings -/

theorem isBranch_numberOf (node : Tree) {value : Tree} (h : value.isBranch = false) :
    (numberOf node value).isBranch = false := by
  unfold numberOf
  split
  · exact isBranch_ofLiteral _
  · exact h

theorem entries?_value {value : Tree} (h : value.isBranch = false) :
    (Literal.value value).entries? = none := by
  cases value <;> first | rfl | cases h

/-- Only an object literal says a mapping of its own. -/
theorem entries?_eq_none (hkind : isKind node "ObjectExpression" = false)
    (hplain : isKind node "Literal" = true → (node.get "value").isBranch = false)
    (h : literal? depth node = some literal) : literal.entries? = none := by
  cases depth with
  | zero => cases h
  | succ depth =>
    rw [literal?] at h
    split at h
    · rename_i hliteral
      have hvalue := hplain hliteral
      split at h
      · cases h
        rfl
      · split at h
        · cases h
          exact entries?_value (isBranch_numberOf node rfl)
        · cases h
          exact entries?_value (isBranch_numberOf node rfl)
        · cases h
          exact entries?_value hvalue
    split at h
    · cases h
      rfl
    split at h
    · rename_i hobject
      rw [hkind] at hobject
      cases hobject
    split at h
    · obtain ⟨items, -, hitems⟩ := Option.bind_eq_some_iff.1 h
      cases hitems
      rfl
    split at h
    · obtain ⟨argument, -, hargument⟩ := Option.bind_eq_some_iff.1 h
      dsimp only at hargument
      split at hargument
      · rename_i v hv
        cases hargument
        unfold Tree.negated? at hv
        split at hv
        · cases hv
          rfl
        · cases hv
          rfl
        · cases hv
      · cases hargument
        rfl
    · cases h
      rfl

/-- An object literal says a mapping of its static keys. -/
theorem exists_entries?_eq {pairs : List (Text × Tree)} (hpairs : objectEntries? node = some pairs)
    (h : literal? depth node = some literal) : ∃ found, literal.entries? = some found ∧
      ∀ key, key ∈ Entries.keys found ↔ key ∈ Entries.keys pairs := by
  cases depth with
  | zero => cases h
  | succ depth =>
    have hliteral : dialect.literal? (depth + 1) node = some literal := h
    rw [evaluatesObjects depth node pairs hpairs] at hliteral
    obtain ⟨found, hfound, rfl⟩ := Option.map_eq_some_iff.1 hliteral
    exact ⟨_, rfl, Dialect.mem_keys_ofPairs_evaluated hfound⟩

theorem lastObject_append (nodes : List Tree)
    (hplain : isKind node "Literal" = true → (node.get "value").isBranch = false)
    (h : literal? deepestLiteral node = some literal) :
    lastObject (nodes ++ [node]) = sectionOf literal (lastObject nodes) := by
  rw [lastObject, List.filter_append, sectionOf]
  by_cases hkind : isKind node "ObjectExpression" = true
  · have hpairs := objectEntries?_eq node
    rw [if_pos hkind] at hpairs
    obtain ⟨found, hfound, -⟩ := exists_entries?_eq hpairs h
    have hself : [node].filter (isKind · "ObjectExpression") = [node] := by simp [hkind]
    rw [hself, List.getLast?_concat, Option.bind_some, h, Option.bind_some, hfound,
      Option.getD_some, Option.getD_some]
  · have hnone := entries?_eq_none (Bool.eq_false_iff.2 hkind) hplain h
    have hself : [node].filter (isKind · "ObjectExpression") = [] := by simp [hkind]
    rw [hself, List.append_nil, hnone, Option.getD_none, lastObject]

/-- The keys of what the last object literal says are its static keys. -/
theorem mem_keys_lastObject {nodes : List Tree}
    (hliteral : ∀ node ∈ nodes, (literal? deepestLiteral node).isSome = true) (key : Text) :
    key ∈ Entries.keys (lastObject nodes) ↔
      ∃ object pairs, (nodes.filter (isKind · "ObjectExpression")).getLast? = some object ∧
        objectEntries? object = some pairs ∧ key ∈ Entries.keys pairs := by
  rw [lastObject]
  cases hlast : (nodes.filter (isKind · "ObjectExpression")).getLast? with
  | none => simp [Entries.keys]
  | some object =>
    obtain ⟨hmem, hkind⟩ := List.mem_filter.1 (List.mem_of_getLast? hlast)
    obtain ⟨literal, hread⟩ := Option.isSome_iff_exists.1 (hliteral object hmem)
    have hpairs := objectEntries?_eq object
    rw [if_pos hkind] at hpairs
    obtain ⟨found, hfound, hkeys⟩ := exists_entries?_eq hpairs hread
    rw [Option.bind_some, hread, Option.bind_some, hfound, Option.getD_some, hkeys]
    simp [hpairs]

/-! ## One entry after the other -/

/-- What the nodes under the three keys say. -/
def configured (entries : List (Text × Tree)) : Metadata where
  headers := lastObject (nodesUnder "headers" entries)
  query := lastObject (nodesUnder "params" entries)
  body := lastValue (nodesUnder "data" entries)

/-- An entry sets its section anew. -/
theorem addSetting?_configured {e : Text × Tree}
    (hplain : isKind e.2 "Literal" = true → (e.2.get "value").isBranch = false)
    (hliteral : literal? deepestLiteral e.2 = some literal) :
    addSetting? dialect (configured entries) e = some (configured (entries ++ [e])) := by
  have hdialect : dialect.literal? deepestLiteral e.2 = some literal := hliteral
  obtain ⟨key, node⟩ := e
  have hparams : ("params" : Text) ≠ "headers" := by decide
  have hdata : ("data" : Text) ≠ "headers" ∧ ("data" : Text) ≠ "params" := by decide
  simp only [addSetting?, configured, nodesUnder_append]
  by_cases hkey : key = "headers"
  · subst hkey
    simp [hdialect, hparams.symm, hdata.1.symm, lastObject_append _ hplain hliteral]
  by_cases hkey' : key = "params"
  · subst hkey'
    simp [hdialect, hparams, hdata.2.symm, lastObject_append _ hplain hliteral]
  by_cases hkey'' : key = "data"
  · subst hkey''
    simp [hdialect, hdata, lastValue_append _ hliteral]
  · simp [hkey, hkey', hkey'']

/-- What the entries of a configuration give. -/
theorem foldlM_addSetting?_eq (entries : List (Text × Tree))
    (hplain : ∀ e ∈ entries, isKind e.2 "Literal" = true → (e.2.get "value").isBranch = false)
    (hliteral : ∀ e ∈ entries, (literal? deepestLiteral e.2).isSome = true) :
    entries.foldlM (addSetting? dialect) {} = some (configured entries) := by
  induction entries using List.reverseRecOn with
  | nil => rfl
  | append_singleton entries e ih =>
    obtain ⟨hplain, hlast⟩ := List.forall_mem_append.1 hplain
    obtain ⟨hliteral, hlastLiteral⟩ := List.forall_mem_append.1 hliteral
    obtain ⟨literal, hread⟩ := Option.isSome_iff_exists.1 (hlastLiteral e (by simp))
    rw [List.foldlM_append, ih hplain hliteral, Option.bind_eq_bind, Option.bind_some,
      List.foldlM_cons, addSetting?_configured (hlast e (by simp)) hread]
    rfl

/-! ## The configuration of a call -/

theorem clientMetadata?_eq (call : CallShape) :
    clientMetadata? dialect call = (settings call).foldlM (addSetting? dialect) {} := by
  obtain ⟨receiver, member, arguments, line⟩ := call
  rcases arguments with _ | ⟨first, _ | ⟨config, rest⟩⟩ <;> rfl

/-- What stands under a static key stands among the arguments. -/
theorem allMappings_settings {P : Tree → Prop} {call : CallShape}
    (h : ∀ argument ∈ call.arguments, argument.AllMappings P) :
    ∀ e ∈ settings call, e.2.AllMappings P := by
  unfold settings
  split
  · rename_i first config rest harguments
    exact allMappings_of_getD_objectEntries? (h config (by simp [harguments]))
  · nofun

/-- What a call in a script gives as the configuration of a request. -/
structure ConfigurationRead (parsed : Parsed) (node : Tree) (call : CallShape) : Prop where
  /-- All that stands under a static key has a value. -/
  evaluated : ∀ e ∈ settings call, (dialect.valueOf? deepestLiteral e.2).isSome = true
  /-- Headers, query and body are what the last nodes under their own keys say. -/
  read : clientMetadata? dialect call = some (configured (settings call))
  /-- The keys of a mapping are the static keys of the object literal that it is read from. -/
  keys : ∀ name key, key ∈ Entries.keys (lastObject (nodesUnder name (settings call))) ↔
    ∃ object pairs, ((nodesUnder name (settings call)).filter
      (isKind · "ObjectExpression")).getLast? = some object ∧
        objectEntries? object = some pairs ∧ key ∈ Entries.keys pairs
  /-- No number is too long in a configuration without long numbers. -/
  spelled : (∀ config, call.arguments[1]? = some config → Spellable config) →
    settingsTooLong call = false
  /-- With a number that is too long, there is no record of the script at all. -/
  fails : ∀ (source : Source) (s : Search) (found : EndpointMatch),
    parse source.text = .ok parsed → s.matchScript? node = some found → found.kind = .request →
      settingsTooLong call = true →
        (source.scriptEndpoints s).start.1 = .error (.badValue tooLongToSpell)

/-- What is read of a request's configuration, whatever stands in it. -/
theorem configuration_read {cs : List Char} {parsed : Parsed} (hparse : parse cs = .ok parsed)
    {node : Tree} (hnode : node ∈ parsed.tree.mappings) {call : CallShape}
    (hcall : callShape? node = some call) : ConfigurationRead parsed node call := by
  have hmember : MemberCall node call := callShape?_eq_some_iff.1 hcall
  have hsound : ∀ e ∈ settings call, Sound (deepestNesting + 1) e.2 :=
    allMappings_settings (allMappings_arguments (Tree.AllMappings.of_mem (parse_sound hparse) hnode)
      hmember)
  have hliteral : ∀ e ∈ settings call, (literal? deepestLiteral e.2).isSome = true :=
    fun e he => ((hsound e he).shallow.mono (by decide)).isSome_literal?
  have hplain : ∀ e ∈ settings call, isKind e.2 "Literal" = true →
      (e.2.get "value").isBranch = false := fun e he => (hsound e he).shallow.1
  refine ⟨fun e he => ?evaluated, ?read, fun name key => ?keys, ?spelled, ?fails⟩
  case evaluated =>
    rw [Dialect.valueOf?, Option.isSome_map]
    exact hliteral e he
  case read => rw [clientMetadata?_eq, foldlM_addSetting?_eq _ hplain hliteral]
  case keys =>
    refine mem_keys_lastObject (fun node hnode => ?_) key
    obtain ⟨e, he, rfl⟩ := List.mem_map.1 hnode
    exact hliteral e (List.mem_of_mem_filter he)
  case spelled => exact Spellable.settingsTooLong
  case fails =>
    intro source s found hsource hfound hkind hlong
    have hcalled := callShape?_eq_some_iff.2 (memberCall_of_matchScript? hfound)
    rw [hcall] at hcalled
    refine Source.scriptEndpoints_error_iff.2 (.tooLong hsource hnode hfound ?_)
    rw [matchTooLong, hkind, ← Option.some.inj hcalled]
    exact hlong

/-! ### A configuration in which much is of no influence -/

/-- Two sections, among entries of other kinds and under other keys. -/
def mixedSource : List Char :=
  ("axios.get('/v', \x7b headers: \x7b a: 1 \x7d, ...more, headers: other, data: 4, " ++
    "['params']: \x7b c: 3 \x7d, params: \x7b p: 2 \x7d, params() \x7b\x7d, " ++
    "url: '/w', data: 5 \x7d);").toList

theorem configuration_read_mixed : ∃ parsed node call, parse mixedSource = .ok parsed ∧
    node ∈ parsed.tree.mappings ∧ callShape? node = some call ∧
    ∃ found, clientMetadata? dialect call = some found ∧ Entries.keys found.headers = ["a"] ∧
      Entries.keys found.query = ["p"] ∧ found.body.int? = some 5 := by
  obtain ⟨parsed, node, call, hparse, hnode, hcall, hgives⟩ := exists_call_of_any mixedSource
    (fun _ call => Entries.keys (configured (settings call)).headers == ["a"] &&
      (Entries.keys (configured (settings call)).query == ["p"] &&
        (configured (settings call)).body.int? == some 5)) (by decide +kernel)
  simp only [Bool.and_eq_true, beq_iff_eq] at hgives
  have hread := (configuration_read hparse hnode hcall).read
  exact ⟨parsed, node, call, hparse, hnode, hcall, _, hread, hgives.1, hgives.2.1, hgives.2.2⟩

/-! ### A key that ends the extraction -/

/-- The configuration has a header, and a number of 4302 digits for another key. -/
def longKeySource : Source where
  path := ⟨.relative, ["v.js"]⟩
  label := "v.js"
  text := "axios.get('/v', \x7b 0x1".toList ++ List.replicate 3572 '0' ++
    ": 1, headers: \x7b a: 1 \x7d \x7d);".toList

/-- The entry under the long key is none of the three, and yet there is no record. -/
theorem longKey_fails : ∃ parsed node call, parse longKeySource.text = .ok parsed ∧
    node ∈ parsed.tree.mappings ∧ callShape? node = some call ∧
    Entries.keys (configured (settings call)).headers = ["a"] ∧
    (longKeySource.scriptEndpoints ⟨.axios, "axios"⟩).start.1 =
      .error (.badValue tooLongToSpell) := by
  obtain ⟨parsed, node, call, hparse, hnode, hcall, hgives⟩ := exists_call_of_any longKeySource.text
    (fun tree call => Entries.keys (configured (settings call)).headers == ["a"] &&
      Search.scriptTooLong ⟨.axios, "axios"⟩ tree) (by decide +kernel)
  simp only [Bool.and_eq_true, beq_iff_eq] at hgives
  refine ⟨parsed, node, call, hparse, hnode, hcall, hgives.1, ?_⟩
  rw [Source.scriptEndpoints_start, hparse]
  simp only [hgives.2, if_true]

end EndpointCatalog.Estree
