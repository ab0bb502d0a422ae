/-
EndpointCatalog.Proofs.HandlerReads — the names that a handler reads.

* `NodeReads`: a node reads a name of a section, in one of the three ways
  that there are.
* `HandlerReadsName`: some node of the handler does.
* `mem_keys_scanHandler`: scanning a handler adds these names, and no
  others.

The scan is a fold over the nodes, and at each node the three ways are tried
one after the other. Each step adds some names and removes none, so what the
fold ends with is what it began with and what its steps add (`foldl_iff`).
-/
import EndpointCatalog.Metadata
import EndpointCatalog.Proofs.Entries
import EndpointCatalog.Proofs.Walk

namespace EndpointCatalog

/-! ## Names by section -/

/-- The headers or the query parameters; the body has no parameters. -/
def Metadata.parameters (found : Metadata) : Section → Entries
  | .headers => found.headers
  | .query => found.query
  | .body => []

/-- The names of a section that were read. -/
def HandlerReads.names (reads : HandlerReads) : Section → Entries
  | .headers => reads.headers
  | .query => reads.query
  | .body => reads.body.getD []

/-! ## Reading -/

section

variable (dialect : Dialect) (profile : Profile) (request : Text) (node : Tree)

/-- The node is `request.query.name` or the like. -/
def ReadsMember (sect : Section) (name : Text) : Prop :=
  ∃ chain, requestChain? dialect request node = some chain ∧ chain ≠ [] ∧
    classify profile chain = some (sect, some name)

/-- The node is `{ name } = request.query` or the like. -/
def ReadsDestructured (sect : Section) (name : Text) : Prop :=
  ∃ pattern chain, dialect.destructuring? node = some pattern ∧
    requestChain? dialect request pattern.source = some chain ∧
    classify profile chain = some (sect, none) ∧ name ∈ pattern.keys

/-- The node is `request.get("name")` or the like. -/
def ReadsGetter (sect : Section) (name : Text) : Prop :=
  sect = .headers ∧ ∃ callee getter, dialect.callee? node = some callee ∧
    requestChain? dialect request callee = some [getter] ∧ getter ∈ profile.headerGetters ∧
    (dialect.callArguments node).head?.bind dialect.routeText? = some name ∧ name ≠ []

/-- The node reads a name of a section off the request. -/
def NodeReads (sect : Section) (name : Text) : Prop :=
  ReadsMember dialect profile request node sect name ∨
    ReadsDestructured dialect profile request node sect name ∨
    ReadsGetter dialect profile request node sect name

end

/-- The handler among some arguments reads a name of a section off its first parameter. -/
def HandlerReadsName (dialect : Dialect) (profile : Profile) (arguments : List Tree)
    (sect : Section) (name : Text) : Prop :=
  ∃ handler request, findHandler? dialect arguments = some handler ∧
    requestName? dialect handler = some request ∧
    ∃ node ∈ handler.mappings, NodeReads dialect profile request node sect name

/-! ## Folds that only add -/

/-- What holds after a fold held before it or was brought about by one of its steps. -/
theorem foldl_iff {α β : Type} (P : β → Prop) (Q : α → Prop) {step : β → α → β}
    (h : ∀ b a, P (step b a) ↔ P b ∨ Q a) (b : β) (as : List α) :
    P (as.foldl step b) ↔ P b ∨ ∃ a ∈ as, Q a := by
  induction as generalizing b with
  | nil => simp only [List.foldl_nil, List.not_mem_nil, false_and, exists_false, or_false]
  | cons a as ih =>
    rw [List.foldl_cons, ih, h]
    simp only [List.mem_cons, exists_eq_or_imp, or_assoc]

theorem mem_keys_note {reads : HandlerReads} {sect target : Section} {name : Option Text}
    {key : Text} :
    key ∈ Entries.keys ((reads.note sect name).names target) ↔
      key ∈ Entries.keys (reads.names target) ∨ sect = target ∧ name = some key := by
  cases name with
  | none =>
    have hsame : (reads.note sect none).names target = reads.names target := by
      cases sect <;> cases target <;> rfl
    simp only [hsame, reduceCtorEq, and_false, or_false]
  | some name =>
    by_cases hsect : sect = target
    · have hnew : (reads.note sect (some name)).names target =
          Entries.insertNew name .null (reads.names target) := by
        subst hsect
        cases sect <;> rfl
      rw [hnew, Entries.mem_keys_insertNew, or_comm]
      simp only [hsect, true_and, Option.some.injEq, eq_comm]
    · have hsame : (reads.note sect (some name)).names target = reads.names target := by
        cases sect <;> cases target <;> first | rfl | exact absurd rfl hsect
      simp only [hsame, hsect, false_and, or_false]

/-! ## The steps of a scan -/

section

variable {dialect : Dialect} {profile : Profile} {request : Text} {reads : HandlerReads}
  {node : Tree} {sect : Section} {key : Text}

theorem mem_keys_noteMember :
    key ∈ Entries.keys ((noteMember dialect profile request reads node).names sect) ↔
      key ∈ Entries.keys (reads.names sect) ∨
        ReadsMember dialect profile request node sect key := by
  unfold noteMember ReadsMember
  split
  · rename_i first rest hchain
    split
    · rename_i found name hread
      rw [mem_keys_note]
      refine or_congr_right ⟨?_, ?_⟩
      · rintro ⟨rfl, rfl⟩
        exact ⟨first :: rest, hchain, List.cons_ne_nil _ _, hread⟩
      · rintro ⟨chain, hchain', -, hread'⟩
        rw [hchain] at hchain'
        cases hchain'
        rw [hread] at hread'
        cases hread'
        exact ⟨rfl, rfl⟩
    · rename_i hread
      refine ⟨.inl, fun h => h.resolve_right ?_⟩
      rintro ⟨chain, hchain', -, hread'⟩
      rw [hchain] at hchain'
      cases hchain'
      rw [hread] at hread'
      cases hread'
  · rename_i hchain
    refine ⟨.inl, fun h => h.resolve_right ?_⟩
    rintro ⟨chain, hchain', hne, -⟩
    cases chain with
    | nil => exact hne rfl
    | cons first rest => exact hchain first rest hchain'

theorem mem_keys_noteDestructuring :
    key ∈ Entries.keys ((noteDestructuring dialect profile request reads node).names sect) ↔
      key ∈ Entries.keys (reads.names sect) ∨
        ReadsDestructured dialect profile request node sect key := by
  unfold noteDestructuring ReadsDestructured
  split
  · rename_i hnone
    refine ⟨.inl, fun h => h.resolve_right ?_⟩
    rintro ⟨pattern, _, hpattern, -⟩
    rw [hnone] at hpattern
    cases hpattern
  · rename_i pattern hpattern
    split
    · rename_i found hwhole
      obtain ⟨chain, hchain, hread⟩ := Option.bind_eq_some_iff.mp hwhole
      rw [foldl_iff (fun b : HandlerReads => key ∈ Entries.keys (b.names sect))
        (fun name => found = sect ∧ some name = some key) (fun b name => mem_keys_note)]
      refine or_congr_right ⟨?_, ?_⟩
      · rintro ⟨name, hname, rfl, heq⟩
        cases heq
        exact ⟨pattern, chain, hpattern, hchain, hread, hname⟩
      · rintro ⟨pattern', chain', hpattern', hchain', hread', hname⟩
        rw [hpattern] at hpattern'
        cases hpattern'
        rw [hchain] at hchain'
        cases hchain'
        rw [hread] at hread'
        cases hread'
        exact ⟨key, hname, rfl, rfl⟩
    · rename_i hwhole
      refine ⟨.inl, fun h => h.resolve_right ?_⟩
      rintro ⟨pattern', chain, hpattern', hchain, hread, -⟩
      rw [hpattern] at hpattern'
      cases hpattern'
      exact hwhole sect (Option.bind_eq_some_iff.mpr ⟨chain, hchain, hread⟩)

theorem mem_keys_noteGetter :
    key ∈ Entries.keys ((noteGetter dialect profile request reads node).names sect) ↔
      key ∈ Entries.keys (reads.names sect) ∨
        ReadsGetter dialect profile request node sect key := by
  unfold noteGetter ReadsGetter
  split
  · rename_i getter hcallee
    obtain ⟨callee, hcallee, hchain⟩ := Option.bind_eq_some_iff.mp hcallee
    by_cases hgives : profile.headerGetters.contains getter = true
    · rw [if_pos hgives]
      split
      · rename_i p name hname
        rw [mem_keys_note]
        refine or_congr_right ⟨?_, ?_⟩
        · rintro ⟨rfl, heq⟩
          cases heq
          exact ⟨rfl, callee, getter, hcallee, hchain, List.contains_iff_mem.mp hgives, hname,
            List.cons_ne_nil _ _⟩
        · rintro ⟨rfl, _, _, -, -, -, hname', -⟩
          rw [hname] at hname'
          exact ⟨rfl, hname'⟩
      · rename_i hname
        refine ⟨.inl, fun h => h.resolve_right ?_⟩
        rintro ⟨-, _, _, -, -, -, hname', hne⟩
        cases key with
        | nil => exact hne rfl
        | cons p name => exact hname p name hname'
    · rw [if_neg hgives]
      refine ⟨.inl, fun h => h.resolve_right ?_⟩
      rintro ⟨-, callee', getter', hcallee', hchain', hmem, -⟩
      rw [hcallee] at hcallee'
      cases hcallee'
      rw [hchain] at hchain'
      cases hchain'
      exact hgives (List.contains_iff_mem.mpr hmem)
  · rename_i hcallee
    refine ⟨.inl, fun h => h.resolve_right ?_⟩
    rintro ⟨-, callee, getter, hcallee', hchain, -⟩
    exact hcallee getter (Option.bind_eq_some_iff.mpr ⟨callee, hcallee', hchain⟩)

/-- One node adds what it reads. -/
theorem mem_keys_noteNode :
    key ∈ Entries.keys ((noteNode dialect profile request reads node).names sect) ↔
      key ∈ Entries.keys (reads.names sect) ∨
        NodeReads dialect profile request node sect key := by
  rw [noteNode, mem_keys_noteGetter, mem_keys_noteDestructuring, mem_keys_noteMember, NodeReads,
    or_assoc, or_assoc]

end

/-! ## Scans -/

/-- A scan adds what the handler reads. -/
theorem mem_keys_scanHandler {dialect : Dialect} {profile : Profile} {handler : Tree}
    {found : Metadata} {sect : Section} (hsect : sect ≠ .body) {key : Text} :
    key ∈ Entries.keys ((scanHandler dialect profile handler found).parameters sect) ↔
      key ∈ Entries.keys (found.parameters sect) ∨
        ∃ request, requestName? dialect handler = some request ∧
          ∃ node ∈ handler.mappings, NodeReads dialect profile request node sect key := by
  unfold scanHandler
  split
  · rename_i hnone
    simp only [hnone, reduceCtorEq, false_and, exists_false, or_false]
  · rename_i request hrequest
    have hscan : key ∈ Entries.keys ((handler.walk.foldl (noteNode dialect profile request)
        ⟨found.headers, found.query, none⟩).names sect) ↔ _ :=
      foldl_iff (fun b : HandlerReads => key ∈ Entries.keys (b.names sect))
        (fun node => NodeReads dialect profile request node sect key)
        (fun b node => mem_keys_noteNode) ⟨found.headers, found.query, none⟩ handler.walk
    simp only [hrequest, Option.some.injEq, exists_eq_left']
    rw [← Tree.walk_eq_mappings]
    cases sect with
    | body => exact absurd rfl hsect
    | headers => exact hscan
    | query => exact hscan

/-- What the options among a route's arguments say. -/
def describedMetadata? (dialect : Dialect) (profile : Profile) (call : CallShape) :
    Option Metadata :=
  if profile.optionsSchema then
    match (call.arguments.drop 1).findSome? dialect.objectEntries? with
    | some options => applySchema? dialect options {}
    | none => some {}
  else some {}

/-- A handler adds to what the options say. -/
def withHandler (dialect : Dialect) (profile : Profile) (call : CallShape)
    (described : Metadata) : Metadata :=
  match findHandler? dialect (call.arguments.drop 1) with
  | some handler => scanHandler dialect profile handler described
  | none => described

theorem serverMetadata?_eq (dialect : Dialect) (profile : Profile) (call : CallShape) :
    serverMetadata? dialect profile call =
      (describedMetadata? dialect profile call).map (withHandler dialect profile call) := by
  unfold serverMetadata? describedMetadata? withHandler
  by_cases hschema : profile.optionsSchema = true
  · simp only [if_pos hschema]
    cases (call.arguments.drop 1).findSome? dialect.objectEntries? with
    | none => cases findHandler? dialect (call.arguments.drop 1) <;> rfl
    | some options =>
      show (applySchema? dialect options {} >>= _) = (applySchema? dialect options {}).map _
      rw [Option.map_eq_bind]
      cases findHandler? dialect (call.arguments.drop 1) <;> rfl
  · simp only [if_neg hschema]
    cases findHandler? dialect (call.arguments.drop 1) <;> rfl

theorem mem_keys_withHandler {dialect : Dialect} {profile : Profile} {call : CallShape}
    {described : Metadata} {sect : Section} (hsect : sect ≠ .body) {key : Text} :
    key ∈ Entries.keys ((withHandler dialect profile call described).parameters sect) ↔
      key ∈ Entries.keys (described.parameters sect) ∨
        HandlerReadsName dialect profile (call.arguments.drop 1) sect key := by
  unfold withHandler HandlerReadsName
  split
  · rename_i handler hhandler
    rw [mem_keys_scanHandler hsect]
    simp only [hhandler, Option.some.injEq, exists_and_left, exists_eq_left']
  · rename_i hnone
    simp only [hnone, reduceCtorEq, false_and, exists_false, or_false]

end EndpointCatalog
