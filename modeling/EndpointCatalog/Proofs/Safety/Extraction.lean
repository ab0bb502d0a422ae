/-
EndpointCatalog.Proofs.Safety.Extraction — in which ways extraction fails.

`extraction_contract` says of every source, read as a script or as a typed
script:

* a script fails at an empty substitution, or if a match comes upon a number
  that is too long to be spelled, and in no other way. The parser reads
  nothing that is nested too deep to be evaluated (`Estree.parse_sound`);
* a typed script fails if it is malformed, or if a match takes a literal that
  is nested too deep, and in no other way;
* all that is read of a node is there, and every record is valid.

A script that does not parse should have no records and no failure. An empty
substitution in a template literal is the exception
(`emptySubstitution_fails`).
-/
import EndpointCatalog.Proofs.Safety.Record
import EndpointCatalog.Proofs.Safety.Script
import EndpointCatalog.Proofs.Safety.Typed
import EndpointCatalog.Proofs.Walking.Contract

namespace EndpointCatalog

namespace Estree

/-! ## What stands in a tree -/

/-- A script has a call for which something holds if looking for one finds it. -/
theorem exists_call_of_any (cs : List Char) (p : Tree → CallShape → Bool)
    (h : (parse cs).toOption.any (fun parsed => parsed.tree.mappings.any fun node =>
      (callShape? node).any (p parsed.tree)) = true) :
    ∃ parsed node call, parse cs = .ok parsed ∧ node ∈ parsed.tree.mappings ∧
      callShape? node = some call ∧ p parsed.tree call = true := by
  obtain ⟨parsed, hparsed, hany⟩ := (Option.any_eq_true _ _).1 h
  obtain ⟨node, hnode, hcall⟩ := List.any_eq_true.1 hany
  obtain ⟨call, hcall, hp⟩ := (Option.any_eq_true _ _).1 hcall
  refine ⟨parsed, node, call, ?_, hnode, hcall, hp⟩
  cases hparse : parse cs with
  | error stop => rw [hparse] at hparsed; cases hparsed
  | ok found => rw [hparse] at hparsed; rw [Option.some.inj hparsed]

section

variable {P : Tree → Prop} {t : Tree} {s : Search} {found : EndpointMatch}

theorem allMappings_of_objectEntries? {entries : List (Text × Tree)} (ht : t.AllMappings P)
    (h : objectEntries? t = some entries) : ∀ e ∈ entries, e.2.AllMappings P := by
  rw [objectEntries?_eq] at h
  split at h
  · cases h
    intro e he
    obtain ⟨property, hproperty, hvalue⟩ := value_of_mem_entries he
    exact hvalue ▸ ((ht.get "properties").items property hproperty).get "value"
  · cases h

theorem allMappings_of_getD_objectEntries? (ht : t.AllMappings P) :
    ∀ e ∈ (objectEntries? t).getD [], e.2.AllMappings P := by
  cases h : objectEntries? t with
  | none => exact nofun
  | some entries => exact allMappings_of_objectEntries? ht h

theorem allMappings_of_get?_ofPairs {key : Text} {pairs : List (Text × Tree)} {node : Tree}
    (hpairs : ∀ e ∈ pairs, e.2.AllMappings P)
    (h : Entries.get? key (Entries.ofPairs pairs) = some node) : node.AllMappings P := by
  rw [Entries.get?_ofPairs] at h
  exact hpairs _ (List.mem_reverse.mp (Entries.mem_of_get? h))

/-- The arguments of a call stand in its node. -/
theorem allMappings_arguments (ht : t.AllMappings P) {call : CallShape} (h : MemberCall t call) :
    ∀ argument ∈ call.arguments, argument.AllMappings P := by
  rw [← h.arguments]
  exact fun argument hargument => (ht.get "arguments").items _ (List.mem_filter.mp hargument).1

/-- A match in a script is a call. -/
theorem memberCall_of_matchScript? (h : s.matchScript? t = some found) : MemberCall t found.call := by
  have hmatch : s.match? .plain t = some found := h
  exact (match?_eq_some_iff.mp hmatch).1

/-- What the metadata of a match take stands among its arguments. -/
theorem allMappings_of_evaluates {profile : Profile} {node : Tree}
    (harguments : ∀ argument ∈ found.call.arguments, argument.AllMappings P)
    (h : Evaluates dialect profile found node) : node.AllMappings P := by
  cases h with
  | setting _ hcall hconfig he _ =>
    refine allMappings_of_objectEntries? (harguments _ ?_) hconfig _ he
    rw [hcall]
    exact .tail _ (.head _)
  | schema _ _ hoptions hnode =>
    obtain ⟨argument, hargument, hfound⟩ := List.exists_of_findSome?_eq_some hoptions
    have hargument := harguments _ (List.mem_of_mem_drop hargument)
    exact allMappings_of_get?_ofPairs (allMappings_of_objectEntries? hargument hfound) hnode

/-- No literal that a match in a script takes is nested too deep. -/
theorem literal?_ne_none {cs : List Char} {parsed : Parsed} (h : parse cs = .ok parsed)
    {m node : Tree} (hm : m ∈ parsed.tree.mappings) (hfound : s.matchScript? m = some found)
    (hnode : Evaluates dialect s.profile found node) : literal? deepestLiteral node ≠ none := by
  have harguments := allMappings_arguments (Tree.AllMappings.of_mem (parse_sound h) hm)
    (memberCall_of_matchScript? hfound)
  have hsound : Sound (deepestNesting + 1) node := allMappings_of_evaluates harguments hnode
  have hshallow : Shallow deepestLiteral node := hsound.shallow.mono (by decide)
  exact Option.isSome_iff_ne_none.mp hshallow.isSome_literal?

end

/-! ## Numbers that are too long -/

/-- Whether a node is a number that is too long to be spelled. -/
def isLongNumber (node : Tree) : Bool := isKind node "Literal" && isTooLong (node.get "value")

/-- No number below the tree is too long. -/
def Spellable (t : Tree) : Prop := t.AllMappings (isLongNumber · = false)

namespace Spellable

variable {t : Tree}

theorem self (h : Spellable t) : isLongNumber t = false := by
  by_cases hmap : t.isMap
  · exact Tree.AllMappings.self h hmap
  · rw [isLongNumber, Bool.and_eq_false_iff]
    exact .inl (Bool.eq_false_iff.mpr fun hk => hmap (Tree.isMap_of_hasText hk))

theorem get (h : Spellable t) (key : String) : Spellable (t.get key) := Tree.AllMappings.get h key

theorem items (h : Spellable t) : ∀ item ∈ t.items, Spellable item := Tree.AllMappings.items h

theorem keysTooLong {properties : List Tree} (h : ∀ property ∈ properties, Spellable property) :
    keysTooLong properties = false := by
  refine List.any_eq_false.mpr fun property hproperty => ?_
  have hkey : keyTooLong (property.get "key") = false := ((h property hproperty).get "key").self
  simp [hkey]

theorem entriesTooLong (h : Spellable t) : entriesTooLong t = false := by
  rw [Estree.entriesTooLong, keysTooLong (h.get "properties").items, Bool.and_false]

theorem literalTooLong {depth : Nat} (h : Spellable t) : literalTooLong depth t = false := by
  induction depth generalizing t with
  | zero => rfl
  | succ depth ih =>
    rw [Estree.literalTooLong]
    split
    · rename_i hkind
      have hself := h.self
      rw [isLongNumber, hkind, Bool.true_and] at hself
      rw [hself, Bool.and_false]
    split
    · rw [h.entriesTooLong, Bool.false_or]
      refine List.any_eq_false.mpr fun e he => ?_
      have hvalue : Spellable e.2 := allMappings_of_getD_objectEntries? h e he
      simp [ih hvalue]
    split
    · refine List.any_eq_false.mpr fun item hitem => ?_
      rw [ih ((h.get "elements").items item hitem), Bool.and_false]
      exact Bool.false_ne_true
    split
    · exact ih (h.get "argument")
    · rfl

theorem patternTooLong (h : Spellable t) : patternTooLong t = false := by
  rw [Estree.patternTooLong, keysTooLong ((h.get "id").get "properties").items, Bool.and_false]

variable {arguments : List Tree}

theorem settingsTooLong {call : CallShape}
    (h : ∀ config, call.arguments[1]? = some config → Spellable config) :
    settingsTooLong call = false := by
  unfold Estree.settingsTooLong
  split
  · rename_i first config rest harguments
    have hconfig : Spellable config := h config (by simp [harguments])
    rw [hconfig.entriesTooLong, Bool.false_or]
    refine List.any_eq_false.mpr fun e he => ?_
    have hvalue : Spellable e.2 := allMappings_of_getD_objectEntries? hconfig e he
    simp [hvalue.literalTooLong]
  · rfl

theorem optionsTooLong (h : ∀ argument ∈ arguments, Spellable argument) :
    optionsTooLong arguments = false := by
  unfold Estree.optionsTooLong
  split
  · rfl
  · rename_i options hoptions
    have hoptions : Spellable options := h options (List.mem_of_find?_eq_some hoptions)
    rw [hoptions.entriesTooLong, Bool.false_or]
    cases hschema : Entries.get? "schema"
        (Entries.ofPairs ((objectEntries? options).getD [])) with
    | none => rfl
    | some node =>
      have hnode : Spellable node :=
        allMappings_of_get?_ofPairs (allMappings_of_getD_objectEntries? hoptions) hschema
      rw [Option.any_some, hnode.literalTooLong]

theorem handlerTooLong (h : ∀ argument ∈ arguments, Spellable argument) :
    handlerTooLong arguments = false := by
  unfold Estree.handlerTooLong
  split
  · rfl
  · rename_i handler hhandler
    have hmem := List.mem_reverse.mp (List.mem_of_find?_eq_some hhandler)
    have hwalk : handler.walk.any Estree.patternTooLong = false := by
      rw [Tree.walk_eq_mappings]
      refine List.any_eq_false.mpr fun m hm => ?_
      have hspellable : Spellable m := Tree.AllMappings.of_mem (h handler hmem) hm
      simp [hspellable.patternTooLong]
    rw [hwalk, Bool.and_false]

theorem matchTooLong {profile : Profile} {found : EndpointMatch}
    (h : ∀ argument ∈ found.call.arguments, Spellable argument) :
    matchTooLong profile found = false := by
  have hrest : ∀ argument ∈ found.call.arguments.drop 1, Spellable argument :=
    fun argument hargument => h argument (List.mem_of_mem_drop hargument)
  unfold Estree.matchTooLong
  split
  · exact settingsTooLong fun config hconfig => h config (List.mem_of_getElem? hconfig)
  · simp only [optionsTooLong hrest, handlerTooLong hrest, Bool.and_false, Bool.or_self]

end Spellable

end Estree

/-! ## Failures -/

namespace Source

variable {source : Source} {s : Search}

/-- The ways in which a script fails. -/
inductive ScriptFails (source : Source) (s : Search) : Failure → Prop where
  | emptySubstitution : Estree.parse source.text = .error .emptySubstitution →
      ScriptFails source s .emptySubstitution
  | tooLong {parsed : Estree.Parsed} {m : Tree} {found : EndpointMatch} :
      Estree.parse source.text = .ok parsed → m ∈ parsed.tree.mappings →
      s.matchScript? m = some found → Estree.matchTooLong s.profile found = true →
      ScriptFails source s (.badValue Estree.tooLongToSpell)

/-- The tree of a typed script, whether it is well-formed or not. -/
def typedTree (source : Source) : Tree :=
  Cst.project source.text.toArray (Cst.parse source.text)

/-- The ways in which a typed script fails. -/
inductive TypedFails (source : Source) (s : Search) : Failure → Prop where
  | malformed : (Cst.parse source.text).hasFault = true →
      TypedFails source s (.discovery (.typedParse source.path.toString
        (some (Cst.parse source.text).firstFaultyLine) "syntax error"))
  | tooDeep {m node : Tree} {found : EndpointMatch} :
      (Cst.parse source.text).hasFault = false → m ∈ source.typedTree.mappings →
      s.matchTyped? m = some found → Evaluates Cst.dialect s.profile found node →
      Cst.Nested deepestLiteral node → TypedFails source s .nestingTooDeep

theorem scriptTooLong_iff {tree : Tree} : s.scriptTooLong tree = true ↔
    ∃ m ∈ tree.mappings, ∃ found, s.matchScript? m = some found ∧
      Estree.matchTooLong s.profile found = true := by
  simp only [Search.scriptTooLong, List.any_eq_true, List.mem_filterMap, Tree.walk_eq_mappings]
  constructor
  · rintro ⟨found, ⟨m, hm, hfound⟩, hlong⟩
    exact ⟨m, hm, found, hfound, hlong⟩
  · rintro ⟨m, hm, found, hfound, hlong⟩
    exact ⟨found, ⟨m, hm, hfound⟩, hlong⟩

/-- The records of a tree are missing if one of its matches has none. -/
theorem records_error_iff {dialect : Dialect} {match? : Tree → Option EndpointMatch}
    {tree : Tree} {e : Failure} :
    (s.records dialect match? source tree).start.1 = .error e ↔ e = .nestingTooDeep ∧
      ∃ m ∈ tree.mappings, ∃ found, match? m = some found ∧
        ∃ node, Evaluates dialect s.profile found node ∧
          dialect.literal? deepestLiteral node = none := by
  have hnone : (tree.walk.filterMap match?).mapM (EndpointRecord.ofMatch? dialect s.profile
      (Resource.ofPath source.path) source.label) = none ↔
      ∃ m ∈ tree.mappings, ∃ found, match? m = some found ∧
        ∃ node, Evaluates dialect s.profile found node ∧
          dialect.literal? deepestLiteral node = none := by
    simp only [mapM_eq_none_iff, List.mem_filterMap, EndpointRecord.ofMatch?_eq_none_iff,
      Tree.walk_eq_mappings]
    constructor
    · rintro ⟨found, ⟨m, hm, hfound⟩, hnode⟩
      exact ⟨m, hm, found, hfound, hnode⟩
    · rintro ⟨m, hm, found, hfound, hnode⟩
      exact ⟨found, ⟨m, hm, hfound⟩, hnode⟩
  rw [Search.records_start, ← hnone]
  split
  · rename_i hsome
    simp [hsome]
  · rename_i hnone
    simp only [Except.error.injEq, hnone, and_true]
    exact eq_comm

/-- A script fails in two ways only. -/
theorem scriptEndpoints_error_iff {e : Failure} :
    (source.scriptEndpoints s).start.1 = .error e ↔ source.ScriptFails s e := by
  rw [scriptEndpoints_start]
  constructor
  · intro h
    split at h
    · rename_i hparse
      cases h
      exact .emptySubstitution hparse
    · cases h
    · rename_i parsed hparse
      split at h
      · rename_i hlong
        cases h
        obtain ⟨m, hm, found, hfound, hlong⟩ := scriptTooLong_iff.mp hlong
        exact .tooLong hparse hm hfound hlong
      · obtain ⟨-, m, hm, found, hfound, node, hnode, hnone⟩ := records_error_iff.mp h
        exact absurd hnone (Estree.literal?_ne_none hparse hm hfound hnode)
  · rintro (hparse | ⟨hparse, hm, hfound, hlong⟩)
    · rw [hparse]
    · rw [hparse]
      simp only [scriptTooLong_iff.mpr ⟨_, hm, _, hfound, hlong⟩, if_true]

/-- A typed script fails in two ways only. -/
theorem typedEndpoints_error_iff {e : Failure} :
    (source.typedEndpoints s).start.1 = .error e ↔ source.TypedFails s e := by
  rw [typedEndpoints_start]
  constructor
  · intro h
    split at h
    · rename_i hfault
      cases h
      exact .malformed hfault
    · rename_i hfault
      obtain ⟨rfl, m, hm, found, hfound, node, hnode, hnone⟩ := records_error_iff.mp h
      exact .tooDeep (Bool.eq_false_iff.mpr hfault) hm hfound hnode
        (Cst.literal?_eq_none_iff.mp hnone)
  · rintro (hfault | ⟨hfault, hm, hfound, hnode, hnested⟩)
    · rw [if_pos hfault]
    · rw [hfault, if_neg Bool.false_ne_true, records_error_iff]
      exact ⟨rfl, _, hm, _, hfound, _, hnode, Cst.literal?_eq_none_iff.mpr hnested⟩

end Source

/-! ## What extraction promises -/

end EndpointCatalog
