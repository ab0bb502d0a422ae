/-
EndpointCatalog.Proofs.Comments.Route — the record of a route with comments
in its arguments.

A comment changes nothing about the record of a route in most places. There
are three where it does, because a child is read for standing first or for
standing there at all:

* in front of the first argument, where the path is then empty;
* first in a transparent node, which then stands around the comment;
* in an array whose items are evaluated, where it is one more item.

`commented_routeRecord` says both: the record is the same without comments
in these places, and what a comment does in each of them.
-/
import EndpointCatalog.Proofs.Comments.Metadata

namespace EndpointCatalog.Cst

/-! ## Calls -/

/-- The call of a member with comments, which may stand among its arguments too. -/
structure CommentedCall (node node' : Tree) : Prop where
  kind : isKind node' "call_expression" = isKind node "call_expression"
  function : Commented (field node "function") (field node' "function")
  line : (node'.get "line").int? = (node.get "line").int?

section

variable {node node' : Tree} {s : Search}

theorem callShape?_commented (h : CommentedCall node node') {call : CallShape}
    (hshape : callShape? node = some call) :
    callShape? node' = some { call with arguments := callArguments node' } := by
  rw [callShape?_eq_some_iff] at hshape ⊢
  have hobject := h.function.field "object" (by decide)
  have hproperty := h.function.field "property" (by decide)
  exact {
    isCall := h.kind.trans hshape.isCall
    callee := (h.function.isKind_eq _).trans hshape.callee
    receiver := (hobject.isKind_eq _).trans hshape.receiver
    receiverName := hobject.textOf_node_eq.trans hshape.receiverName
    member := (hproperty.isKind_eq _).trans hshape.member
    memberName := hproperty.textOf_node_eq.trans hshape.memberName
    arguments := rfl
    line := h.line.trans hshape.line }

theorem matchRoute?_commented (h : CommentedCall node node') {found : EndpointMatch}
    (hmatch : matchRoute? dialect s.profile s.object node = some found) :
    matchRoute? dialect s.profile s.object node' =
      some { found with call := { found.call with arguments := callArguments node' } } := by
  obtain ⟨hshape, hkind, hrule⟩ := matchRoute?_eq_some_iff.mp hmatch
  refine matchRoute?_eq_some_iff.mpr ⟨callShape?_commented h hshape, hkind, ?_⟩
  exact ⟨hrule.side, hrule.receiver, hrule.verb⟩

theorem arguments_of_match {found : EndpointMatch}
    (hmatch : matchRoute? dialect s.profile s.object node = some found) :
    callArguments node = found.call.arguments := by
  obtain ⟨hshape, -, -⟩ := matchRoute?_eq_some_iff.mp hmatch
  exact (callShape?_eq_some_iff.mp hshape).arguments

/-! ## Where comments count -/

/-- A first argument that is kept in its place has the same text. -/
theorem firstArgumentText_commented {call call' : CallShape}
    (h : Interspersed (!call.arguments.isEmpty) call.arguments call'.arguments) :
    EndpointRecord.firstArgumentText dialect call' =
      EndpointRecord.firstArgumentText dialect call := by
  unfold EndpointRecord.firstArgumentText
  generalize call.arguments = items, call'.arguments = items' at h
  cases items with
  | nil =>
    cases h with
    | nil => rfl
    | extra line text rest => exact congrArg (Option.getD · []) (routeText?_comment line text)
  | cons item items =>
    cases h with
    | keep h rest => exact congrArg (Option.getD · []) h.routeText?_eq

/-- A comment in front of the arguments leaves no text for the path. -/
theorem firstArgumentText_comment {call : CallShape} {line : Int} {text : Text}
    {rest : List Tree} (h : call.arguments = comment line text :: rest) :
    EndpointRecord.firstArgumentText dialect call = [] := by
  rw [EndpointRecord.firstArgumentText, h]
  exact congrArg (Option.getD · []) (routeText?_comment line text)

/-- A transparent node that begins with a comment stands around the comment. -/
theorem unwrap_of_leading_comment {wrapper : Tree} (h : isTransparent wrapper) {line : Int}
    {text : Text} {rest : List Tree} (hchildren : children wrapper = comment line text :: rest) :
    unwrap wrapper = comment line text := by
  rw [unwrap_of_isTransparent h, inner, hchildren]
  exact unwrap_comment line text

/-- What begins with a comment says nothing. -/
structure ReadsNothing (node : Tree) : Prop where
  route : routeText? node = none
  object : objectEntries? node = none
  chain : memberChain? node = none
  literal : ∀ depth, literal? (depth + 1) node = some .kept

theorem readsNothing_of_leading_comment {wrapper : Tree} (h : isTransparent wrapper) {line : Int}
    {text : Text} {rest : List Tree} (hchildren : children wrapper = comment line text :: rest) :
    ReadsNothing wrapper := by
  have hunwrap := unwrap_of_leading_comment h hchildren
  refine ⟨?_, ?_, ?_, fun depth => ?_⟩
  · rw [routeText?, hunwrap]
    rfl
  · rw [objectEntries?, hunwrap]
    rfl
  · rw [memberChain?, hunwrap, reversedChain?_comment]
    rfl
  · rw [literal?, hunwrap]
    rfl

theorem CommentedItems.length_eq {items items' : List Tree} (h : CommentedItems items items') :
    items'.length = items.length := by
  induction items generalizing items' with
  | nil =>
    cases h
    rfl
  | cons item items ih =>
    cases h with
    | cons h rest => rw [List.length_cons, List.length_cons, ih rest]

/-- The items of an array are the values of its children, so that there are as many of them just
when no comment was put between the children. -/
theorem items_length_iff {t t' : Tree} (h : Commented t t') (harray : isKind (unwrap t) "array")
    {depth : Nat} {items items' : List Tree}
    (hitems : literal? depth t = some (.value (.list items)))
    (hitems' : literal? depth t' = some (.value (.list items'))) :
    items'.length = items.length ↔
      CommentedItems (children (unwrap t)) (children (unwrap t')) := by
  have hlength : ∀ {node : Tree}, isKind (unwrap node) "array" → ∀ {items : List Tree},
      literal? depth node = some (.value (.list items)) →
        items.length = (children (unwrap node)).length := by
    intro node harray items hitems
    cases depth with
    | zero => cases hitems
    | succ depth =>
      rw [literal?_of_array harray, Option.map_eq_some_iff] at hitems
      obtain ⟨values, hvalues, heq⟩ := hitems
      cases heq
      exact (mapM_eq_some_iff.mp hvalues).length_eq.symm
  rw [hlength harray hitems, hlength ((h.unwrap.isKind_eq _).trans harray) hitems']
  exact ⟨h.unwrap.children.items_of_length.2, CommentedItems.length_eq⟩

/-! ## Records -/

theorem path_of_route {found : EndpointMatch} (hkind : found.kind = .route) {resource : Resource}
    {sourceFile : Text} {r : EndpointRecord}
    (h : EndpointRecord.ofMatch? dialect s.profile resource sourceFile found = some r) :
    r.path = Text.ofString resource.endpointPath ++
      EndpointRecord.firstArgumentText dialect found.call := by
  obtain ⟨kind, method, call⟩ := found
  cases hkind
  simp only [EndpointRecord.ofMatch?, Option.bind_eq_bind, Option.bind_eq_some_iff] at h
  obtain ⟨_, -, heq⟩ := h
  cases heq
  rfl

theorem record_commented {found : EndpointMatch} (hkind : found.kind = .route)
    {arguments : List Tree}
    (hplaces : Interspersed (!found.call.arguments.isEmpty) found.call.arguments arguments)
    (hkeeps : s.profile.optionsSchema = true → ∀ schema schema',
      SchemaNode dialect found.call schema →
      SchemaNode dialect { found.call with arguments := arguments } schema' →
        KeepsArrays deepestLiteral schema schema')
    {resource : Resource} {sourceFile : Text} {r : EndpointRecord}
    (h : EndpointRecord.ofMatch? dialect s.profile resource sourceFile found = some r) :
    ∃ r', EndpointRecord.ofMatch? dialect s.profile resource sourceFile
        { found with call := { found.call with arguments := arguments } } = some r' ∧
      r'.method = r.method ∧ r'.path = r.path ∧
      Entries.Aligned UpToComments r.headers r'.headers ∧
      Entries.Aligned UpToComments r.queryParameters r'.queryParameters ∧
      Commented r.body r'.body := by
  obtain ⟨kind, method, call⟩ := found
  cases hkind
  simp only [EndpointRecord.ofMatch?, Option.bind_eq_bind, Option.bind_eq_some_iff] at h ⊢
  obtain ⟨metadata, hmetadata, heq⟩ := h
  cases heq
  have hbehind : Interspersed false (call.arguments.drop 1) (arguments.drop 1) :=
    drop_one hplaces fun hne => by
      cases hitems : call.arguments with
      | nil => exact absurd hitems hne
      | cons => rfl
  obtain ⟨metadata', hmetadata', hrel⟩ :
      ∃ found', serverMetadata? dialect s.profile { call with arguments := arguments } =
        some found' ∧ CommentedMetadata metadata found' :=
    serverMetadata?_commented hbehind hkeeps hmetadata
  have htext : EndpointRecord.firstArgumentText dialect { call with arguments := arguments } =
      EndpointRecord.firstArgumentText dialect call := firstArgumentText_commented hplaces
  refine ⟨_, ⟨metadata', hmetadata', rfl⟩, rfl, ?_, hrel.headers, hrel.query, hrel.body⟩
  exact congrArg (Resource.join resource) htext

/-- The record of a route is the same with comments in it, but for comments in nodes that are kept
as values, unless they stand where they count. In front of the first argument a comment leaves
only the path of the resource; in a transparent node it hides what the node stands around; in an
array it is one more item. -/
theorem commented_routeRecord (hcall : CommentedCall node node') {found : EndpointMatch}
    (hmatch : matchRoute? dialect s.profile s.object node = some found) {resource : Resource}
    {sourceFile : Text} {r : EndpointRecord}
    (hrecord : EndpointRecord.ofMatch? dialect s.profile resource sourceFile found = some r) :
    ∃ found', matchRoute? dialect s.profile s.object node' = some found' ∧
      (Interspersed (!(callArguments node).isEmpty) (callArguments node) (callArguments node') →
        (s.profile.optionsSchema = true → ∀ schema schema', SchemaNode dialect found.call schema →
          SchemaNode dialect found'.call schema' → KeepsArrays deepestLiteral schema schema') →
        ∃ r', EndpointRecord.ofMatch? dialect s.profile resource sourceFile found' = some r' ∧
          r'.method = r.method ∧ r'.path = r.path ∧
          Entries.Aligned UpToComments r.headers r'.headers ∧
          Entries.Aligned UpToComments r.queryParameters r'.queryParameters ∧
          Commented r.body r'.body) ∧
      (∀ line text rest, callArguments node' = comment line text :: rest → ∀ r',
        EndpointRecord.ofMatch? dialect s.profile resource sourceFile found' = some r' →
          r'.path = Text.ofString resource.endpointPath ∧
          (r'.path = r.path ↔ EndpointRecord.firstArgumentText dialect found.call = [])) ∧
      (∀ wrapper line text rest, isTransparent wrapper →
        children wrapper = comment line text :: rest → ReadsNothing wrapper) ∧
      ∀ t t', Commented t t' → isKind (unwrap t) "array" → ∀ depth items items',
        literal? depth t = some (.value (.list items)) →
        literal? depth t' = some (.value (.list items')) →
          (items'.length = items.length ↔
            CommentedItems (children (unwrap t)) (children (unwrap t'))) := by
  obtain ⟨hshape, hkind, -⟩ := matchRoute?_eq_some_iff.mp hmatch
  have harguments := arguments_of_match hmatch
  refine ⟨_, matchRoute?_commented hcall hmatch, ?_, ?_, ?_, ?_⟩
  · intro hplaces hkeeps
    rw [harguments] at hplaces
    exact record_commented hkind hplaces hkeeps hrecord
  · intro line text rest hleading r' hrecord'
    have hnone : EndpointRecord.firstArgumentText dialect
        { found.call with arguments := callArguments node' } = [] :=
      firstArgumentText_comment hleading
    have hpath := path_of_route hkind hrecord
    have hpath' := path_of_route (by exact hkind) hrecord'
    rw [hpath', hpath, hnone, List.append_nil]
    exact ⟨rfl, List.self_eq_append_right⟩
  · intro wrapper line text rest h hchildren
    exact readsNothing_of_leading_comment h hchildren
  · intro t t' h harray depth items items' hitems hitems'
    exact items_length_iff h harray hitems hitems'

end

/-! ## A route with a comment -/

namespace Commentary

/-- A node with children. -/
def node (kind : String) (text : Text) (fields : Entries) (children : List Tree)
    (extra : Entries) : Tree :=
  .map (("kind", .ofString kind) :: ("line", .int 1) :: ("text", .text text) ::
    ("fields", .map fields) :: ("children", .list children) :: extra)

/-- `"/x"` -/
def path : Tree := node "string" "\"/x\"" [] [] [("value", .ofString "/x")]

/-- `{}` -/
def schema : Tree := node "object" "\x7b\x7d" [] [] []

/-- `{ schema: {} }` -/
def options : Tree :=
  node "object" "\x7b schema: \x7b\x7d \x7d" []
    [node "pair" "schema: \x7b\x7d"
      [("key", node "property_identifier" "schema" [] [] []), ("value", schema)] [] []] []

/-- `fastify.get(…)` with some arguments. -/
def route (arguments : List Tree) : Tree :=
  node "call_expression" []
    [("function", node "member_expression" "fastify.get"
      [("object", node "identifier" "fastify" [] [] []),
       ("property", node "property_identifier" "get" [] [] [])] [] []),
     ("arguments", node "arguments" [] [] arguments [])] [] []

/-- Looks for the routes of `fastify`. -/
def search : Search := ⟨.fastify, "fastify"⟩

/-- The call that is found in `fastify.get(…)`. -/
def found (arguments : List Tree) : EndpointMatch :=
  ⟨.route, .get, ⟨"fastify", "get", arguments, some 1⟩⟩

/-- The record of what is found. -/
def record? (found : EndpointMatch) : Option EndpointRecord :=
  EndpointRecord.ofMatch? dialect search.profile ⟨"shop", "/shop"⟩ "shop.ts" found

theorem isRoute (arguments : List Tree) :
    matchRoute? dialect search.profile search.object (route arguments) =
      some (found arguments) := by
  unfold matchRoute?
  rfl

theorem commentedCall (arguments arguments' : List Tree) :
    CommentedCall (route arguments) (route arguments') :=
  ⟨rfl, Commented.refl _, rfl⟩

theorem routeText?_path : routeText? path = some "/x" := by
  rw [routeText?, unwrap_of_not_isTransparent rfl]
  rfl

theorem path_of_record {arguments : List Tree} {r : EndpointRecord}
    (h : record? (found (path :: arguments)) = some r) : r.path = Text.ofString "/shop/x" := by
  rw [path_of_route rfl h]
  exact congrArg (Text.ofString "/shop" ++ Option.getD · []) routeText?_path

theorem record?_of_described {arguments : List Tree} {described : Metadata}
    (h : describedMetadata? dialect search.profile (found arguments).call = some described) :
    ∃ r, record? (found arguments) = some r := by
  have hrecord : record? (found arguments) =
      (serverMetadata? dialect search.profile (found arguments).call).bind _ := rfl
  rw [serverMetadata?_eq, h] at hrecord
  exact ⟨_, hrecord⟩

theorem described_of_findSome? {arguments : List Tree} {pairs : List (Text × Tree)}
    (h : (arguments.drop 1).findSome? dialect.objectEntries? = some pairs) :
    describedMetadata? dialect search.profile (found arguments).call =
      applySchema? dialect pairs {} := by
  rw [describedMetadata?, if_pos (show search.profile.optionsSchema = true from rfl),
    show (found arguments).call.arguments = arguments from rfl, h]

theorem record?_options : ∃ r, record? (found [path, options]) = some r := by
  have hschema : objectEntries? schema = some [] := by
    rw [objectEntries?_eq, unwrap_of_not_isTransparent rfl]
    rfl
  have hoptions : dialect.objectEntries? options = some [(Text.ofString "schema", schema)] := by
    show objectEntries? options = _
    rw [objectEntries?_eq, unwrap_of_not_isTransparent rfl]
    rfl
  have hliteral : dialect.literal? deepestLiteral schema = some (.value (.map [])) :=
    evaluatesObjects (deepestLiteral - 1) schema [] hschema
  have happly : applySchema? dialect [(Text.ofString "schema", schema)] {} = some {} := by
    simp only [applySchema?, show Entries.get? "schema"
      (Entries.ofPairs [(Text.ofString "schema", schema)]) = some schema from rfl, hliteral]
    rfl
  refine record?_of_described ((described_of_findSome? ?_).trans happly)
  rw [show [path, options].drop 1 = [options] from rfl, List.findSome?_cons, hoptions]

/-- Without options there is a record. -/
theorem record?_of_no_options {arguments : List Tree}
    (h : (arguments.drop 1).findSome? dialect.objectEntries? = none) :
    ∃ r, record? (found arguments) = some r := by
  have hdescribed : describedMetadata? dialect search.profile (found arguments).call = some {} := by
    rw [describedMetadata?, if_pos (show search.profile.optionsSchema = true from rfl),
      show (found arguments).call.arguments = arguments from rfl, h]
  exact record?_of_described hdescribed

theorem keepsArrays_refl (depth : Nat) (t : Tree) : KeepsArrays depth t t := by
  induction depth generalizing t with
  | zero => exact trivial
  | succ depth ih =>
    exact ⟨fun _ => List.forall₂_same.mpr fun item _ => ih item,
      fun _ => List.forall₂_same.mpr fun entry _ => ih entry.2⟩

end Commentary

/-- A comment in front of the first argument takes the text from the path. -/
theorem leading_comment_in_record :
    ∃ found found' r r',
      matchRoute? dialect Commentary.search.profile Commentary.search.object
        (Commentary.route [Commentary.path]) = some found ∧
      matchRoute? dialect Commentary.search.profile Commentary.search.object
        (Commentary.route [comment 1 "/* c */", Commentary.path]) = some found' ∧
      Interspersed false found.call.arguments found'.call.arguments ∧
      Commentary.record? found = some r ∧ Commentary.record? found' = some r' ∧
      r.path = Text.ofString "/shop/x" ∧ r'.path = Text.ofString "/shop" := by
  have hpath : dialect.objectEntries? Commentary.path = none := by
    show objectEntries? Commentary.path = none
    rw [objectEntries?_eq, unwrap_of_not_isTransparent rfl]
    rfl
  obtain ⟨r, hr⟩ : ∃ r, Commentary.record? (Commentary.found [Commentary.path]) = some r :=
    Commentary.record?_of_no_options rfl
  obtain ⟨r', hr'⟩ : ∃ r', Commentary.record?
      (Commentary.found [comment 1 "/* c */", Commentary.path]) = some r' := by
    refine Commentary.record?_of_no_options ?_
    rw [show [comment 1 "/* c */", Commentary.path].drop 1 = [Commentary.path] from rfl,
      List.findSome?_cons, hpath]
    rfl
  refine ⟨_, _, r, r', Commentary.isRoute _, Commentary.isRoute _,
    .extra 1 _ (.keep (Commented.refl _) .nil), hr, hr', Commentary.path_of_record hr, ?_⟩
  rw [path_of_route rfl hr', firstArgumentText_comment rfl]
  rfl

theorem commented_routeRecord_options :
    ∃ r r', Commentary.record? (Commentary.found [Commentary.path, Commentary.options]) = some r ∧
      Commentary.record? (Commentary.found
        [Commentary.path, comment 1 "/* c */", Commentary.options]) = some r' ∧
      r.path = Text.ofString "/shop/x" ∧ r'.path = r.path ∧
      Entries.Aligned UpToComments r.headers r'.headers := by
  obtain ⟨r, hr⟩ := Commentary.record?_options
  obtain ⟨found', hmatch, hsame, -⟩ := commented_routeRecord
    (Commentary.commentedCall [Commentary.path, Commentary.options]
      [Commentary.path, comment 1 "/* c */", Commentary.options])
    (Commentary.isRoute _) hr
  cases (Commentary.isRoute _).symm.trans hmatch
  have hplaces : Interspersed true [Commentary.path, Commentary.options]
      [Commentary.path, comment 1 "/* c */", Commentary.options] :=
    .keep (Commented.refl _) (.extra 1 _ (.keep (Commented.refl _) .nil))
  have hkeeps : ∀ schema schema',
      SchemaNode dialect (Commentary.found [Commentary.path, Commentary.options]).call schema →
      SchemaNode dialect (Commentary.found
        [Commentary.path, comment 1 "/* c */", Commentary.options]).call schema' →
      KeepsArrays deepestLiteral schema schema' := by
    rintro schema schema' ⟨given, hgiven, hschema⟩ ⟨given', hgiven', hschema'⟩
    -- the comment is no object literal, so that both calls have the same options
    have hsame : [comment 1 "/* c */", Commentary.options].findSome? dialect.objectEntries? =
        [Commentary.options].findSome? dialect.objectEntries? := by
      rw [List.findSome?_cons, show dialect.objectEntries? (comment 1 "/* c */") = none from
        objectEntries?_comment 1 _]
    cases (hsame.symm.trans hgiven').symm.trans hgiven
    cases hschema'.symm.trans hschema
    exact Commentary.keepsArrays_refl _ _
  obtain ⟨r', hr', -, hpath, hheaders, -⟩ := hsame hplaces fun _ => hkeeps
  exact ⟨r, r', hr, hr', Commentary.path_of_record hr, hpath, hheaders⟩

end EndpointCatalog.Cst
