/-
EndpointCatalog.Proofs.Handler.Wrapped — a route's handler in parentheses.

Parentheses, type annotations and non-null marks around an expression change
nothing about its value, and reading a text, a literal, an object or a chain
of members takes them off (`Wraps.read_alike`). Asking for the parameters of
a function does not.

* `serverMetadata?_of_wraps`: so a handler with anything around it counts for
  nothing. What the options say is the same as before; what is scanned is the
  function in front of the handler, if there is one.
-/
import EndpointCatalog.Proofs.HandlerReads
import EndpointCatalog.Proofs.Literal.Agreement

namespace EndpointCatalog.Cst

/-- A node is a value, or parentheses, annotations and marks around it, any number of them. -/
inductive Wraps (value : Tree) : Tree → Prop where
  | bare : Wraps value value
  | around {node : Tree} (h : isTransparent node) (rest : Wraps value (inner node)) :
      Wraps value node

namespace Wraps

variable {value node : Tree}

theorem unwrap_eq (h : Wraps value node) : unwrap node = unwrap value := by
  induction h with
  | bare => rfl
  | around h _ ih => rw [unwrap_of_isTransparent h, ih]

/-- Everything that reads a value takes off what is around it. -/
theorem read_alike (h : Wraps value node) :
    routeText? node = routeText? value ∧ objectEntries? node = objectEntries? value ∧
      memberChain? node = memberChain? value ∧
      ∀ depth, literal? depth node = literal? depth value := by
  refine ⟨?_, ?_, ?_, fun depth => ?_⟩
  · rw [routeText?, h.unwrap_eq, ← routeText?]
  · rw [objectEntries?, h.unwrap_eq, ← objectEntries?]
  · rw [memberChain?, h.unwrap_eq, ← memberChain?]
  · cases depth with
    | zero => rfl
    | succ depth => rw [literal?, h.unwrap_eq, ← literal?]

theorem unwrap (node : Tree) : Wraps (Cst.unwrap node) node := by
  fun_induction Cst.unwrap node with
  | case1 node h ih => exact .around h ih
  | case2 node h => exact .bare

theorem eq_of_not_isTransparent (h : Wraps value node) (hnode : isTransparent node = false) :
    node = value := by
  cases h with
  | bare => rfl
  | around h => rw [h] at hnode; cases hnode

end Wraps

/-! ## Functions -/

/-- The kinds of functions. -/
def functionKinds : List String := ["arrow_function", "function_expression", "function"]

theorem exists_isKind_of_functionParams? {node : Tree} (h : (functionParams? node).isSome) :
    ∃ kind ∈ functionKinds, isKind node kind := by
  unfold functionParams? at h
  split at h
  · next hkind =>
    simp only [Bool.or_eq_true] at hkind
    simp only [functionKinds, List.mem_cons, List.not_mem_nil, or_false, exists_eq_or_imp,
      exists_eq_left]
    exact or_assoc.1 hkind
  · cases h

/-- A function is of no other kind. -/
theorem isKind_eq_false_of_functionParams? {node : Tree} {kind : String}
    (h : (functionParams? node).isSome)
    (hkind : ∀ k ∈ functionKinds, Text.ofString k ≠ Text.ofString kind) :
    isKind node kind = false := by
  obtain ⟨k, hk, hnode⟩ := exists_isKind_of_functionParams? h
  exact Tree.hasText_of_ne hnode (hkind k hk)

theorem isTransparent_of_functionParams? {node : Tree} (h : (functionParams? node).isSome) :
    isTransparent node = false := by
  simp only [isTransparent, Bool.or_eq_false_iff]
  refine ⟨⟨⟨?_, ?_⟩, ?_⟩, ?_⟩ <;> exact isKind_eq_false_of_functionParams? h (by decide)

theorem functionParams?_of_isTransparent {node : Tree} (h : isTransparent node) :
    functionParams? node = none := by
  rw [← Option.not_isSome_iff_eq_none]
  intro hfunction
  rw [isTransparent_of_functionParams? hfunction] at h
  cases h

/-- A function describes nothing. -/
theorem objectEntries?_of_functionParams? {node : Tree} (h : (functionParams? node).isSome) :
    objectEntries? node = none := by
  rw [objectEntries?_eq, unwrap_of_not_isTransparent (isTransparent_of_functionParams? h),
    isKind_eq_false_of_functionParams? h (by decide), if_neg Bool.false_ne_true]

/-! ## Arguments of a route -/

/-- A call with other arguments. -/
def passing (call : CallShape) (arguments : List Tree) : CallShape :=
  { call with arguments := arguments }

theorem map_eq_map_iff {α β : Type} {f g : α → β} {x? : Option α} :
    x?.map f = x?.map g ↔ ∀ x, x? = some x → f x = g x := by
  cases x? <;> simp

section

variable {profile : Profile} {call : CallShape} {path : Tree} {before after : List Tree}
  {handler node : Tree}

theorem findHandler?_append_of_none (hlast : ∀ a ∈ after, functionParams? a = none) :
    findHandler? dialect (before ++ after) = findHandler? dialect before := by
  have hafter : after.reverse.find? (fun a => (dialect.functionParams? a).isSome) = none := by
    refine List.find?_eq_none.2 fun a ha => ?_
    rw [show dialect.functionParams? a = none from hlast a (List.mem_reverse.1 ha)]
    exact Bool.false_ne_true
  rw [findHandler?, List.reverse_append, List.find?_append, hafter, Option.none_or, findHandler?]

theorem findHandler?_append_cons (hfunction : (functionParams? handler).isSome)
    (hlast : ∀ a ∈ after, functionParams? a = none) :
    findHandler? dialect (before ++ handler :: after) = some handler := by
  have hhandler : (dialect.functionParams? handler).isSome := hfunction
  rw [← List.singleton_append, ← List.append_assoc, findHandler?_append_of_none hlast,
    findHandler?, List.reverse_append, List.reverse_singleton, List.singleton_append,
    List.find?_cons, hhandler]

/-- What a registration says whose last function is known. -/
theorem serverMetadata?_of_findHandler? {arguments : List Tree}
    (h : findHandler? dialect arguments = some handler) :
    serverMetadata? dialect profile (passing call (path :: arguments)) =
      (describedMetadata? dialect profile (passing call (path :: arguments))).map
        (scanHandler dialect profile handler) := by
  rw [serverMetadata?_eq]
  refine congrArg (Option.map · _) (funext fun described => ?_)
  rw [withHandler, passing, List.drop_succ_cons, List.drop_zero, h]

/-- An argument that is no object says nothing as an option. -/
theorem describedMetadata?_of_none (h : objectEntries? node = none) :
    describedMetadata? dialect profile (passing call (path :: (before ++ node :: after))) =
      describedMetadata? dialect profile (passing call (path :: (before ++ after))) := by
  simp only [describedMetadata?, passing, List.drop_succ_cons, List.drop_zero,
    List.findSome?_append, List.findSome?_cons, show dialect.objectEntries? node = none from h]

/-- An argument that is neither an object nor a function says nothing. -/
theorem serverMetadata?_of_none (hobject : objectEntries? node = none)
    (hfunction : functionParams? node = none) (hlast : ∀ a ∈ after, functionParams? a = none) :
    serverMetadata? dialect profile (passing call (path :: (before ++ node :: after))) =
      serverMetadata? dialect profile (passing call (path :: (before ++ after))) := by
  rw [serverMetadata?_eq, serverMetadata?_eq, describedMetadata?_of_none hobject]
  refine congrArg (Option.map · _) (funext fun described => ?_)
  simp only [withHandler, passing, List.drop_succ_cons, List.drop_zero]
  rw [findHandler?_append_of_none hlast, findHandler?_append_of_none]
  exact List.forall_mem_cons.2 ⟨hfunction, hlast⟩

/-- With anything around it a handler counts for nothing: the registration says what it says
without that argument. Bare, it is scanned. So it goes unnoticed that something is around it
exactly if the scan finds what the other arguments say anyway. -/
theorem serverMetadata?_of_wraps (hfunction : (functionParams? handler).isSome)
    (hlast : ∀ a ∈ after, functionParams? a = none) (hwraps : Wraps handler node) :
    serverMetadata? dialect profile (passing call (path :: (before ++ node :: after))) =
        (if isTransparent node then
          serverMetadata? dialect profile (passing call (path :: (before ++ after)))
        else
          (describedMetadata? dialect profile (passing call (path :: (before ++ after)))).map
            (scanHandler dialect profile handler)) ∧
      (serverMetadata? dialect profile (passing call (path :: (before ++ node :: after))) =
          serverMetadata? dialect profile (passing call (path :: (before ++ handler :: after))) ↔
        isTransparent node = false ∨ ∀ described,
          describedMetadata? dialect profile (passing call (path :: (before ++ after))) =
              some described →
            withHandler dialect profile (passing call (path :: (before ++ after))) described =
              scanHandler dialect profile handler described) := by
  have hobject := objectEntries?_of_functionParams? hfunction
  have hbare : serverMetadata? dialect profile
      (passing call (path :: (before ++ handler :: after))) = _ :=
    serverMetadata?_of_findHandler? (findHandler?_append_cons hfunction hlast)
  rw [describedMetadata?_of_none hobject] at hbare
  by_cases hnode : isTransparent node
  · have hwrapped : serverMetadata? dialect profile
        (passing call (path :: (before ++ node :: after))) = _ :=
      serverMetadata?_of_none (hwraps.read_alike.2.1.trans hobject)
        (functionParams?_of_isTransparent hnode) hlast
    refine ⟨by rw [hwrapped, if_pos hnode], ?_⟩
    rw [hwrapped, hbare, serverMetadata?_eq, map_eq_map_iff]
    simp only [hnode, Bool.true_eq_false, false_or]
  · obtain rfl := hwraps.eq_of_not_isTransparent (Bool.eq_false_iff.2 hnode)
    exact ⟨by rw [hbare, if_neg hnode], iff_of_true rfl (.inl (Bool.eq_false_iff.2 hnode))⟩

end

/-! ### Registrations in a script -/

/-- The call of the first statement of a typed script. -/
def registered? (source : String) : Option CallShape :=
  ((children (readTree source.toList)).flatMap children).head?.bind callShape?

/-- A route with a function in front of its handler, around which there are three wrappers. -/
def guardedSource : String :=
  "router.get(\"/x\", (req) => \x7b req.query.b; \x7d, " ++
    "((req) => \x7b req.query.a; \x7d as Handler)!);"

theorem serverMetadata?_of_wraps_guarded : ∃ call path guard node,
    registered? guardedSource = some call ∧ call.arguments = [path, guard, node] ∧
      (functionParams? (unwrap node)).isSome ∧
      serverMetadata? dialect Profile.express (passing call [path, guard, node]) =
        serverMetadata? dialect Profile.express (passing call [path, guard]) := by
  have hsource : (registered? guardedSource).any (fun call => call.arguments.length == 3 &&
      call.arguments[2]?.any fun node =>
        (functionParams? (unwrap node)).isSome && isTransparent node) = true := by
    rw [registered?, readTree, project_eq_plainTree]
    decide +kernel
  obtain ⟨call, hcall, hshape⟩ := (Option.any_eq_true _ _).1 hsource
  obtain ⟨hlength, hlast⟩ := Bool.and_eq_true_iff.1 hshape
  obtain ⟨path, guard, node, harguments⟩ := List.length_eq_three.1 (eq_of_beq hlength)
  rw [harguments] at hlast
  obtain ⟨hfunction, hnode⟩ := Bool.and_eq_true_iff.1 hlast
  obtain ⟨hmetadata, -⟩ := @serverMetadata?_of_wraps Profile.express call path [guard] [] _ node
    hfunction (List.forall_mem_nil _) (Wraps.unwrap node)
  exact ⟨call, path, guard, node, hcall, harguments, hfunction, hmetadata.trans (if_pos hnode)⟩

/-- A route with a handler in parentheses. -/
def wrappedSource : String := "router.get(\"/x\", ((req, res) => \x7b req.query.a; \x7d));"

/-- The names of the query parameters that a registration takes. -/
def queryNames? (call : CallShape) : Option (List Text) :=
  (serverMetadata? dialect Profile.express call).map fun found => Entries.keys found.query

/-- In parentheses the handler is not read. -/
theorem handler_in_parentheses_unread : ∃ call path node,
    registered? wrappedSource = some call ∧ call.arguments = [path, node] ∧
      (functionParams? (unwrap node)).isSome ∧ Wraps (unwrap node) node ∧
      queryNames? (passing call [path, unwrap node]) = some [Text.ofString "a"] ∧
      queryNames? call = some [] ∧
      serverMetadata? dialect Profile.express call ≠
        serverMetadata? dialect Profile.express (passing call [path, unwrap node]) := by
  have hsource : (registered? wrappedSource).any (fun call => call.arguments.length == 2 &&
      call.arguments[0]?.any fun path => call.arguments[1]?.any fun node =>
        (functionParams? (unwrap node)).isSome &&
          (queryNames? (passing call [path, unwrap node]) == some [Text.ofString "a"] &&
            queryNames? call == some [])) = true := by
    rw [registered?, readTree, project_eq_plainTree]
    decide +kernel
  obtain ⟨call, hcall, hshape⟩ := (Option.any_eq_true _ _).1 hsource
  obtain ⟨hlength, hread⟩ := Bool.and_eq_true_iff.1 hshape
  obtain ⟨path, node, harguments⟩ := List.length_eq_two.1 (eq_of_beq hlength)
  rw [harguments] at hread
  obtain ⟨hfunction, hnames⟩ := Bool.and_eq_true_iff.1 hread
  obtain ⟨hbare, hwrapped⟩ := Bool.and_eq_true_iff.1 hnames
  have hbare := eq_of_beq hbare
  have hwrapped := eq_of_beq hwrapped
  refine ⟨call, path, node, hcall, harguments, hfunction, .unwrap node, hbare, hwrapped,
    fun hsame => ?_⟩
  rw [queryNames?, hsame, ← queryNames?, hbare] at hwrapped
  cases hwrapped

end EndpointCatalog.Cst
