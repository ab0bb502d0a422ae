/-
EndpointCatalog.Proofs.Handler.Parameters — the parameters of a function in
both languages.

`parameters_read_alike`: for arguments of a call among which function literals
stand, scripts and typed scripts have the same parameter names, choose the same
argument as handler and call the request by the same name, with two exceptions:

* a generator is no function for the dialect of typed scripts, so that its
  parameters are not read and it is no handler
  (`generator_parameters_unread`);
* a parameter that is written with an escape or is called `undefined` has a
  name in scripts only.

What is bound by patterns and rest parameters has no name in either language.
-/
import EndpointCatalog.Proofs.Handler.Typed
import EndpointCatalog.Proofs.Handler.Script

namespace EndpointCatalog

/-! ## Function literals -/

/-- What a parameter binds. -/
inductive Target where
  | identifier (w : Word)
  | object
  | array

/-- A parameter of a function. -/
inductive Parameter where
  | plain (target : Target)
  /-- `target = value`. -/
  | defaulted (target : Target)
  /-- `...target`. -/
  | rest (target : Target)

/-- A function literal, of which only the body is left open. -/
inductive FunctionLiteral where
  /-- `w => body`. -/
  | bareArrow (isAsync : Bool) (w : Word)
  /-- `(params) => body`. -/
  | arrow (isAsync : Bool) (params : List Parameter)
  /-- `function name(params) body`. -/
  | function (isAsync isGenerator : Bool) (params : List Parameter)

/-- The name that a parameter is called by, empty for a pattern. -/
def Parameter.name (n : Naming) : Parameter → Text
  | plain (.identifier w) => (n.root? w).getD []
  | defaulted (.identifier w) => (n.root? w).getD []
  | _ => []

namespace FunctionLiteral

/-- The parameters of a function. -/
def params : FunctionLiteral → List Parameter
  | bareArrow _ w => [.plain (.identifier w)]
  | arrow _ params => params
  | function _ _ params => params

/-- Whether a function is asynchronous. -/
def isAsync : FunctionLiteral → Bool
  | bareArrow isAsync _ => isAsync
  | arrow isAsync _ => isAsync
  | function isAsync _ _ => isAsync

/-- Whether a function is a generator. -/
def isGenerator : FunctionLiteral → Bool
  | function _ isGenerator _ => isGenerator
  | _ => false

/-- The names of the parameters. -/
def names (n : Naming) (f : FunctionLiteral) : List Text := f.params.map (Parameter.name n)

/-- The function is no generator, and its parameters have the same names in both languages. -/
def ReadAlike (f : FunctionLiteral) : Prop :=
  f.isGenerator = false ∧ f.names .typed = f.names .script

instance (f : FunctionLiteral) : Decidable f.ReadAlike := inferInstanceAs (Decidable (_ ∧ _))

end FunctionLiteral

/-- An argument of a call. -/
inductive Argument where
  | function (f : FunctionLiteral)
  | other

namespace Argument

/-- The names of the parameters in a script. -/
def names? : Argument → Option (List Text)
  | function f => some (f.names .script)
  | other => none

/-- The names of the parameters in a typed script, where those of generators are not read. -/
def typedNames? : Argument → Option (List Text)
  | function f => if f.isGenerator then none else some (f.names .typed)
  | other => none

/-- Whether an argument is a function literal. -/
def isFunction : Argument → Bool
  | function _ => true
  | other => false

/-- Whether an argument is a function literal other than a generator. -/
def isPlainFunction : Argument → Bool
  | function f => !f.isGenerator
  | other => false

theorem isSome_names? (a : Argument) : a.names?.isSome = a.isFunction := by cases a <;> rfl

theorem isSome_typedNames? (a : Argument) : a.typedNames?.isSome = a.isPlainFunction := by
  cases a with
  | function f => cases hf : f.isGenerator <;> simp [typedNames?, isPlainFunction, hf]
  | other => rfl

theorem typedNames?_eq_names?_iff (a : Argument) :
    a.typedNames? = a.names? ↔ ∀ f, a = .function f → f.ReadAlike := by
  cases a with
  | function f => cases hf : f.isGenerator <;>
      simp [typedNames?, names?, FunctionLiteral.ReadAlike, hf]
  | other => simp [typedNames?, names?]

end Argument

/-! ## Last positions -/

section Last

variable {α β : Type} {p : α → Bool}

/-- The position of the last item that satisfies `p`. -/
def lastIndex? (p : α → Bool) : List α → Option Nat
  | [] => none
  | x :: rest =>
    match lastIndex? p rest with
    | some i => some (i + 1)
    | none => if p x then some 0 else none

theorem getElem?_of_lastIndex? {xs : List α} {i : Nat} (h : lastIndex? p xs = some i) :
    ∃ x, xs[i]? = some x ∧ p x = true := by
  induction xs generalizing i with
  | nil => cases h
  | cons x rest ih =>
    rw [lastIndex?] at h
    cases hrest : lastIndex? p rest with
    | some j =>
      simp only [hrest, Option.some.injEq] at h
      obtain ⟨y, hy, hp⟩ := ih hrest
      exact ⟨y, by simp [← h, hy], hp⟩
    | none =>
      simp only [hrest] at h
      split at h
      · next hp =>
        cases h
        exact ⟨x, rfl, hp⟩
      · cases h

/-- The last item that satisfies `p` is the one at the last such position. -/
theorem find?_reverse (xs : List α) : xs.reverse.find? p = (lastIndex? p xs).bind (xs[·]?) := by
  induction xs with
  | nil => rfl
  | cons x rest ih =>
    rw [List.reverse_cons, List.find?_append, ih, lastIndex?]
    cases hrest : lastIndex? p rest with
    | some i =>
      obtain ⟨y, hy, -⟩ := getElem?_of_lastIndex? hrest
      simp [hy]
    | none =>
      cases hx : p x <;> simp [hx]

theorem lastIndex?_map (f : β → α) (xs : List β) :
    lastIndex? p (xs.map f) = lastIndex? (fun x => p (f x)) xs := by
  induction xs with
  | nil => rfl
  | cons x rest ih => simp only [List.map_cons, lastIndex?, ih]

theorem lastIndex?_congr {q : α → Bool} (h : ∀ x, q x = p x) (xs : List α) :
    lastIndex? q xs = lastIndex? p xs := by
  rw [funext h]

end Last

/-- The handler is the last argument with parameters. -/
theorem findHandler?_eq (d : Dialect) (nodes : List Tree) : findHandler? d nodes =
    (lastIndex? Option.isSome (nodes.map d.functionParams?)).bind (nodes[·]?) := by
  rw [findHandler?, find?_reverse, lastIndex?_map]

/-- The name of the request among the names of parameters. -/
def firstName? : Option (List Text) → Option Text
  | some (name :: _) => if name.isEmpty then none else some name
  | _ => none

theorem requestName?_eq (d : Dialect) (node : Tree) :
    requestName? d node = firstName? (d.functionParams? node) := rfl

/-- The name of the request depends on the names of the parameters of each argument only. -/
theorem requestName?_findHandler? (d : Dialect) (nodes : List Tree) :
    (findHandler? d nodes).bind (requestName? d) =
      (lastIndex? Option.isSome (nodes.map d.functionParams?)).bind
        fun i => ((nodes.map d.functionParams?)[i]?).bind firstName? := by
  rw [findHandler?_eq, Option.bind_assoc]
  refine congrArg _ (funext fun i => ?_)
  cases hnode : nodes[i]? <;> simp [hnode, requestName?_eq]

/-! ## Trees of functions -/

section Each

variable {α β : Type} {shows : α → Tree → Bool}

/-- Whether some nodes show some things, each one of them. -/
def showsEach (shows : α → Tree → Bool) : List α → List Tree → Bool
  | [], nodes => nodes.isEmpty
  | _ :: _, [] => false
  | a :: rest, node :: nodes => shows a node && showsEach shows rest nodes

theorem map_eq_of_showsEach {f : Tree → β} {g : α → β}
    (h : ∀ a node, shows a node = true → f node = g a) :
    ∀ {things : List α} {nodes : List Tree}, showsEach shows things nodes = true →
      nodes.map f = things.map g
  | [], [], _ => rfl
  | a :: rest, node :: nodes, hshows => by
    obtain ⟨hfirst, hrest⟩ := Bool.and_eq_true_iff.1 hshows
    rw [List.map_cons, List.map_cons, h a node hfirst, map_eq_of_showsEach h hrest]

theorem exists_of_showsEach {node : Tree} :
    ∀ {things : List α} {nodes : List Tree}, showsEach shows things nodes = true → node ∈ nodes →
      ∃ a, shows a node = true
  | [], [], _, hnode => by cases hnode
  | a :: rest, first :: nodes, hshows, hnode => by
    obtain ⟨hfirst, hrest⟩ := Bool.and_eq_true_iff.1 hshows
    rcases List.mem_cons.1 hnode with rfl | hnode
    · exact ⟨a, hfirst⟩
    · exact exists_of_showsEach hrest hnode

end Each

/-! ### Scripts -/

namespace Estree

/-- Whether a node shows what a parameter binds. -/
def showsTarget : Target → Tree → Bool
  | .identifier w, node => isKind node "Identifier" && (node.get "name").text? == some w.name
  | .object, node => isKind node "ObjectPattern"
  | .array, node => isKind node "ArrayPattern"

/-- Whether a node shows a parameter. -/
def showsParameter : Parameter → Tree → Bool
  | .plain target, node => showsTarget target node
  | .defaulted target, node =>
    isKind node "AssignmentPattern" && showsTarget target (node.get "left")
  | .rest target, node => isKind node "RestElement" && showsTarget target (node.get "argument")

/-- The kind of the node of a function. -/
def functionKind : FunctionLiteral → String
  | .function _ _ _ => "FunctionExpression"
  | _ => "ArrowFunctionExpression"

/-- Whether a node shows a function. -/
def showsFunction (f : FunctionLiteral) (node : Tree) : Bool :=
  isKind node (functionKind f) && (node.get "async").truthy == f.isAsync &&
    (node.get "generator").truthy == f.isGenerator &&
    showsEach showsParameter f.params (node.get "params").items

/-- Whether a node shows an argument. -/
def showsArgument : Argument → Tree → Bool
  | .function f, node => showsFunction f node
  | .other, node => !isKind node "ArrowFunctionExpression" && !isKind node "FunctionExpression"

/-- Whether some nodes show the arguments of a call. -/
def showsArguments (arguments : List Argument) (nodes : List Tree) : Bool :=
  showsEach showsArgument arguments nodes

variable {node : Tree}

/-- A target has the name of its identifier, or none. -/
theorem name_of_showsTarget {target : Target} (h : showsTarget target node = true) :
    (if isKind node "Identifier" then (node.get "name").textOf else []) =
      Parameter.name .script (.plain target) := by
  cases target with
  | identifier w =>
    obtain ⟨hkind, hname⟩ := Bool.and_eq_true_iff.1 h
    rw [if_pos hkind, Tree.eq_of_text? (beq_iff_eq.1 hname)]
    rfl
  | object =>
    have hkind : isKind node "ObjectPattern" = true := h
    simp [isKind_eq hkind, Parameter.name]
  | array =>
    have hkind : isKind node "ArrayPattern" = true := h
    simp [isKind_eq hkind, Parameter.name]

theorem paramName_of_showsParameter (p : Parameter) (node : Tree)
    (h : showsParameter p node = true) : paramName node = p.name .script := by
  cases p with
  | plain target =>
    have hnot : isKind node "AssignmentPattern" = false := by
      cases target with
      | identifier w => rw [isKind_eq (Bool.and_eq_true_iff.1 h).1]; rfl
      | object => rw [isKind_eq h]; rfl
      | array => rw [isKind_eq h]; rfl
    rw [paramName]
    simp only [hnot, Bool.false_eq_true, if_false]
    exact name_of_showsTarget h
  | defaulted target =>
    obtain ⟨hkind, htarget⟩ := Bool.and_eq_true_iff.1 h
    rw [paramName]
    simp only [hkind, if_true]
    rw [name_of_showsTarget htarget]
    cases target <;> rfl
  | rest target =>
    obtain ⟨hkind, -⟩ := Bool.and_eq_true_iff.1 h
    simp [paramName, isKind_eq hkind, Parameter.name]

theorem functionParams?_of_showsFunction {f : FunctionLiteral} (h : showsFunction f node = true) :
    functionParams? node = some (f.names .script) := by
  simp only [showsFunction, Bool.and_eq_true] at h
  obtain ⟨⟨⟨hkind, -⟩, -⟩, hparams⟩ := h
  have hfunction : (isKind node "ArrowFunctionExpression" || isKind node "FunctionExpression") =
      true := by
    rw [isKind_eq hkind, isKind_eq hkind]
    cases f <;> rfl
  rw [functionParams?, if_pos hfunction, FunctionLiteral.names,
    map_eq_of_showsEach paramName_of_showsParameter hparams]

theorem functionParams?_of_showsArgument (a : Argument) (node : Tree)
    (h : showsArgument a node = true) : dialect.functionParams? node = a.names? := by
  cases a with
  | function f => exact functionParams?_of_showsFunction h
  | other =>
    have hkinds : isKind node "ArrowFunctionExpression" = false ∧
        isKind node "FunctionExpression" = false := by
      simpa [showsArgument] using h
    show functionParams? node = none
    simp [functionParams?, hkinds]

end Estree

/-! ### Typed scripts -/

namespace Cst

/-- Whether a node shows what a parameter binds. The name `undefined` is a node of its own kind. -/
def showsTarget : Target → Tree → Bool
  | .identifier w, node =>
    isKind node (if w.written = "undefined" then "undefined" else "identifier") &&
      textOf node == w.written
  | .object, node => isKind node "object_pattern"
  | .array, node => isKind node "array_pattern"

/-- Whether a node shows a parameter. -/
def showsParameter : Parameter → Tree → Bool
  | .plain target, node => isKind node "required_parameter" && lacksField node "value" &&
      showsTarget target (field node "pattern")
  | .defaulted target, node => isKind node "required_parameter" && hasField node "value" &&
      showsTarget target (field node "pattern")
  | .rest target, node => isKind node "required_parameter" && lacksField node "value" &&
      (isKind (field node "pattern") "rest_pattern" &&
        showsEach showsTarget [target] (children (field node "pattern")))

/-- The kind of the node of a function. -/
def functionKind : FunctionLiteral → String
  | .bareArrow _ _ => "arrow_function"
  | .arrow _ _ => "arrow_function"
  | .function _ isGenerator _ => if isGenerator then "generator_function" else "function_expression"

/-- The nodes in the parentheses of a function, comments apart. -/
def parameterNodes (node : Tree) : List Tree :=
  (children (field node "parameters")).filter fun child => !isKind child "comment"

/-- Whether a node shows a function. The only parameter of an arrow function without parentheses
has a field of its own, and that a function is asynchronous cannot be seen. -/
def showsFunction : FunctionLiteral → Tree → Bool
  | .bareArrow _ w, node => isKind node "arrow_function" &&
      (isKind (field node "parameter") "identifier" &&
        showsTarget (.identifier w) (field node "parameter"))
  | f, node => isKind node (functionKind f) && lacksField node "parameter" &&
      showsEach showsParameter f.params (parameterNodes node)

/-- Whether a node shows an argument. -/
def showsArgument : Argument → Tree → Bool
  | .function f, node => showsFunction f node
  | .other, node => !isKind node "arrow_function" && !isKind node "function_expression" &&
      !isKind node "function" && !isKind node "generator_function"

/-- Whether some nodes show the arguments of a call. -/
def showsArguments (arguments : List Argument) (nodes : List Tree) : Bool :=
  showsEach showsArgument arguments nodes

variable {node : Tree}

/-- A target has the name of its identifier, or none. -/
theorem name_of_showsTarget {target : Target} (h : showsTarget target node = true) :
    (if isKind node "identifier" then textOf node else []) =
      Parameter.name .typed (.plain target) := by
  cases target with
  | identifier w =>
    obtain ⟨hkind, htext⟩ := Bool.and_eq_true_iff.1 h
    by_cases hundefined : w.written = "undefined"
    · rw [if_pos hundefined] at hkind
      simp [isKind_eq hkind, Parameter.name, Naming.typed, hundefined]
    · rw [if_neg hundefined] at hkind
      simp [isKind_eq hkind, Parameter.name, Naming.typed, hundefined, beq_iff_eq.1 htext]
  | object =>
    have hkind : isKind node "object_pattern" = true := h
    simp [isKind_eq hkind, Parameter.name]
  | array =>
    have hkind : isKind node "array_pattern" = true := h
    simp [isKind_eq hkind, Parameter.name]

theorem isKind_of_showsParameter {p : Parameter} (h : showsParameter p node = true) :
    isKind node "required_parameter" = true := by
  cases p <;> simp_all [showsParameter]

theorem paramName_of_showsParameter (p : Parameter) (node : Tree)
    (h : showsParameter p node = true) : paramName node = p.name .typed := by
  cases p with
  | plain target => exact name_of_showsTarget (Bool.and_eq_true_iff.1 h).2
  | defaulted target =>
    have htarget := name_of_showsTarget (Bool.and_eq_true_iff.1 h).2
    rw [paramName, htarget]
    cases target <;> rfl
  | rest target =>
    obtain ⟨hkind, -⟩ := Bool.and_eq_true_iff.1 (Bool.and_eq_true_iff.1 h).2
    simp [paramName, isKind_eq hkind, Parameter.name]

/-- The parameters are all that stands in the parentheses of a function, comments apart. -/
theorem filter_children_of_showsEach {params : List Parameter}
    (h : showsEach showsParameter params (parameterNodes node) = true) :
    ((children (field node "parameters")).filter fun param =>
      isKind param "required_parameter" || isKind param "optional_parameter") =
        parameterNodes node := by
  refine List.filter_congr fun child hchild => ?_
  cases hcomment : isKind child "comment" with
  | true => simp [isKind_eq hcomment]
  | false =>
    have hmem : child ∈ parameterNodes node := by simp [parameterNodes, hchild, hcomment]
    obtain ⟨p, hp⟩ := exists_of_showsEach h hmem
    simp [isKind_of_showsParameter hp]

theorem functionParams?_of_showsEach {f : FunctionLiteral}
    (hkind : isKind node (functionKind f) = true) (hbare : lacksField node "parameter" = true)
    (hparams : showsEach showsParameter f.params (parameterNodes node) = true) :
    functionParams? node = if f.isGenerator then none else some (f.names .typed) := by
  have hsingle : isKind (field node "parameter") "identifier" = false := by
    rw [field, get_of_lacksField hbare]
    rfl
  simp only [functionParams?, isKind_eq hkind, hsingle, Bool.false_eq_true, if_false,
    filter_children_of_showsEach hparams,
    map_eq_of_showsEach paramName_of_showsParameter hparams, FunctionLiteral.names]
  cases f with
  | function isAsync isGenerator params => cases isGenerator <;> rfl
  | _ => rfl

theorem functionParams?_of_showsFunction {f : FunctionLiteral} (h : showsFunction f node = true) :
    functionParams? node = if f.isGenerator then none else some (f.names .typed) := by
  cases f with
  | bareArrow isAsync w =>
    simp only [showsFunction, Bool.and_eq_true] at h
    obtain ⟨hkind, hidentifier, htarget⟩ := h
    have hname := name_of_showsTarget htarget
    rw [if_pos hidentifier] at hname
    simp [functionParams?, hkind, hidentifier, FunctionLiteral.isGenerator, FunctionLiteral.names,
      FunctionLiteral.params, hname]
  | arrow isAsync params =>
    simp only [showsFunction, Bool.and_eq_true] at h
    exact functionParams?_of_showsEach h.1.1 h.1.2 h.2
  | function isAsync isGenerator params =>
    simp only [showsFunction, Bool.and_eq_true] at h
    exact functionParams?_of_showsEach h.1.1 h.1.2 h.2

theorem functionParams?_of_showsArgument (a : Argument) (node : Tree)
    (h : showsArgument a node = true) : dialect.functionParams? node = a.typedNames? := by
  cases a with
  | function f => exact functionParams?_of_showsFunction h
  | other =>
    simp only [showsArgument, Bool.and_eq_true, Bool.not_eq_true'] at h
    obtain ⟨⟨⟨harrow, hexpression⟩, hfunction⟩, -⟩ := h
    show functionParams? node = none
    simp [functionParams?, harrow, hexpression, hfunction]

end Cst

/-! ## Parameters in both languages -/

/-- How the arguments of a call are read in both languages. -/
structure ParametersRead (arguments : List Argument) (scripts typeds : List Tree) : Prop where
  names : scripts.map Estree.dialect.functionParams? = arguments.map Argument.names?
  typedNames : typeds.map Cst.dialect.functionParams? = arguments.map Argument.typedNames?
  /-- The names are the same exactly if each function is read alike. -/
  same : typeds.map Cst.dialect.functionParams? = scripts.map Estree.dialect.functionParams? ↔
    ∀ f, .function f ∈ arguments → f.ReadAlike
  /-- The handler is the last function. -/
  handler : findHandler? Estree.dialect scripts =
    (lastIndex? Argument.isFunction arguments).bind (scripts[·]?)
  /-- In a typed script the handler is the last function that is no generator. -/
  typedHandler : findHandler? Cst.dialect typeds =
    (lastIndex? Argument.isPlainFunction arguments).bind (typeds[·]?)
  /-- If each function is read alike, the same argument is chosen, and the request has the same
  name. -/
  chosen : (∀ f, .function f ∈ arguments → f.ReadAlike) →
    lastIndex? Argument.isPlainFunction arguments = lastIndex? Argument.isFunction arguments ∧
      (findHandler? Cst.dialect typeds).bind (requestName? Cst.dialect) =
        (findHandler? Estree.dialect scripts).bind (requestName? Estree.dialect)

theorem map_typedNames?_eq_iff {arguments : List Argument} :
    arguments.map Argument.typedNames? = arguments.map Argument.names? ↔
      ∀ f, .function f ∈ arguments → f.ReadAlike := by
  simp only [List.map_inj_left, Argument.typedNames?_eq_names?_iff]
  constructor
  · intro h f hf
    exact h _ hf f rfl
  · intro h a ha f hf
    rw [hf] at ha
    exact h f ha

/-- Trees of the arguments of a call in both languages are read as the arguments say. -/
theorem parameters_read_alike (arguments : List Argument) {scripts typeds : List Tree}
    (hscript : Estree.showsArguments arguments scripts = true)
    (htyped : Cst.showsArguments arguments typeds = true) :
    ParametersRead arguments scripts typeds := by
  have hnames : scripts.map Estree.dialect.functionParams? = arguments.map Argument.names? :=
    map_eq_of_showsEach Estree.functionParams?_of_showsArgument hscript
  have htypedNames : typeds.map Cst.dialect.functionParams? =
      arguments.map Argument.typedNames? :=
    map_eq_of_showsEach Cst.functionParams?_of_showsArgument htyped
  have hlast : lastIndex? Option.isSome (arguments.map Argument.names?) =
      lastIndex? Argument.isFunction arguments := by
    rw [lastIndex?_map, lastIndex?_congr Argument.isSome_names?]
  have htypedLast : lastIndex? Option.isSome (arguments.map Argument.typedNames?) =
      lastIndex? Argument.isPlainFunction arguments := by
    rw [lastIndex?_map, lastIndex?_congr Argument.isSome_typedNames?]
  refine ⟨hnames, htypedNames, ?_, ?_, ?_, ?_⟩
  · rw [hnames, htypedNames, map_typedNames?_eq_iff]
  · rw [findHandler?_eq, hnames, hlast]
  · rw [findHandler?_eq, htypedNames, htypedLast]
  · intro halike
    have hsame := map_typedNames?_eq_iff.2 halike
    refine ⟨?_, ?_⟩
    · rw [← htypedLast, hsame, hlast]
    · rw [requestName?_findHandler?, requestName?_findHandler?, hnames, htypedNames, hsame]

/-! ### Arguments that both parsers read -/

/-- The nodes in the array that is assigned in a script. -/
def Estree.elements (program : Tree) : List Tree := ((assigned program).get "elements").items

/-- The nodes in the array that is assigned in a typed script. -/
def Cst.elements (program : Tree) : List Tree := children (assigned program)

/-- An array of functions with all kinds of parameters. -/
def functionsSource : List Char :=
  ("h = [f, function* (...[a]) \x7b\x7d, async function (\x7bb\x7d, [c] = d) \x7b\x7d, " ++
    "async e => e, (g, /**/ undefined = 1) => g];").toList

/-- An identifier without escapes as a target. -/
def Target.named (name : Text) : Target := .identifier ⟨name, name⟩

/-- The arguments that stand in the array of `functionsSource`. -/
def functionsArguments : List Argument :=
  [.other, .function (.function false true [.rest .array]),
    .function (.function true false [.plain .object, .defaulted .array]),
    .function (.bareArrow true ⟨"e", "e"⟩),
    .function (.arrow false [.plain (.named "g"), .defaulted (.named "undefined")])]

theorem parameters_read_alike_functions : ∃ tree, Estree.readTree? functionsSource = some tree ∧
    Estree.showsArguments functionsArguments (Estree.elements tree) = true ∧
    Cst.showsArguments functionsArguments (Cst.elements (Cst.readTree functionsSource)) = true ∧
    ParametersRead functionsArguments (Estree.elements tree)
      (Cst.elements (Cst.readTree functionsSource)) := by
  have hscript : (Estree.readTree? functionsSource).any (fun tree =>
      Estree.showsArguments functionsArguments (Estree.elements tree)) = true := by
    decide +kernel
  have htyped : Cst.showsArguments functionsArguments
      (Cst.elements (Cst.readTree functionsSource)) = true := by
    rw [Cst.readTree, Cst.project_eq_plainTree]
    decide +kernel
  obtain ⟨tree, htree, hscript⟩ := (Option.any_eq_true _ _).1 hscript
  exact ⟨tree, htree, hscript, htyped, parameters_read_alike functionsArguments hscript htyped⟩

/-! ### A generator as handler -/

/-- A generator as the only element of an array. -/
def generatorSource : List Char :=
  "h = [function* (req, res) \x7b req.query.a; \x7d];".toList

/-- The generator of `generatorSource`. -/
def generatorArgument : Argument :=
  .function (.function false true [.plain (.named "req"), .plain (.named "res")])

/-- Both parsers read the generator, and it is a handler in the script only. -/
theorem generator_parameters_unread : ∃ tree, Estree.readTree? generatorSource = some tree ∧
    Estree.showsArguments [generatorArgument] (Estree.elements tree) = true ∧
    Cst.showsArguments [generatorArgument] (Cst.elements (Cst.readTree generatorSource)) = true ∧
    (Estree.elements tree).map Estree.dialect.functionParams? =
      [some [Text.ofString "req", Text.ofString "res"]] ∧
    (Cst.elements (Cst.readTree generatorSource)).map Cst.dialect.functionParams? = [none] ∧
    (findHandler? Estree.dialect (Estree.elements tree)).isSome = true ∧
    findHandler? Cst.dialect (Cst.elements (Cst.readTree generatorSource)) = none := by
  have hscript : (Estree.readTree? generatorSource).any (fun tree =>
      Estree.showsArguments [generatorArgument] (Estree.elements tree)) = true := by
    decide +kernel
  have htyped : Cst.showsArguments [generatorArgument]
      (Cst.elements (Cst.readTree generatorSource)) = true := by
    rw [Cst.readTree, Cst.project_eq_plainTree]
    decide +kernel
  obtain ⟨tree, htree, hscript⟩ := (Option.any_eq_true _ _).1 hscript
  have hnames := map_eq_of_showsEach Estree.functionParams?_of_showsArgument hscript
  have htypedNames := map_eq_of_showsEach Cst.functionParams?_of_showsArgument htyped
  refine ⟨tree, htree, hscript, htyped, hnames, htypedNames, ?_, ?_⟩
  · rw [findHandler?_eq, hnames]
    cases hnodes : Estree.elements tree with
    | nil => simp [hnodes] at hnames
    | cons first rest => rfl
  · rw [findHandler?_eq, htypedNames]
    rfl

end EndpointCatalog
