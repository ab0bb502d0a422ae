/-
EndpointCatalog.Proofs.Rules — which calls are endpoints, as rules.

The rules say what a node has to look like and what a profile has to list
for the node to be an endpoint, and what stands in the endpoint's record.
Nothing here searches a tree.

* `SourceLanguage.MemberCall`: a node is the call of a member of a plain
  identifier; the shapes of the two kinds of trees are spelled out.
* `SourceLanguage.Rule`: such a call is an endpoint of some kind with some
  method. Scripts know routes and, in second place, requests; typed scripts
  know only routes.
* `match?_eq_some_iff`: matching finds exactly what the rules say.
-/
import EndpointCatalog.Catalog
import Mathlib.Data.Option.Basic

namespace EndpointCatalog

/-! ## Calls of members -/

/-- An ESTree node that is the call `receiver.member(arguments)`. -/
structure Estree.MemberCall (node : Tree) (call : CallShape) : Prop where
  isCall : isKind node "CallExpression"
  callee : isKind (node.get "callee") "MemberExpression"
  dotted : ((node.get "callee").get "computed").truthy = false
  receiver : isKind ((node.get "callee").get "object") "Identifier"
  receiverName : (((node.get "callee").get "object").get "name").textOf = call.receiver
  member : isKind ((node.get "callee").get "property") "Identifier"
  memberName : (((node.get "callee").get "property").get "name").textOf = call.member
  arguments : (node.get "arguments").items.filter Tree.isMap = call.arguments
  line : line? node = call.line

/-- A concrete syntax node that is the call `receiver.member(arguments)`. -/
structure Cst.MemberCall (node : Tree) (call : CallShape) : Prop where
  isCall : isKind node "call_expression"
  callee : isKind (field node "function") "member_expression"
  receiver : isKind (field (field node "function") "object") "identifier"
  receiverName : textOf (field (field node "function") "object") = call.receiver
  member : isKind (field (field node "function") "property") "property_identifier"
  memberName : textOf (field (field node "function") "property") = call.member
  arguments : callArguments node = call.arguments
  line : (node.get "line").int? = call.line

theorem Estree.callShape?_eq_some_iff {node : Tree} {call : CallShape} :
    callShape? node = some call ↔ MemberCall node call := by
  obtain ⟨receiver, member, arguments, line⟩ := call
  constructor
  · intro h
    simp only [callShape?, Option.ite_none_right_eq_some, Bool.and_eq_true,
      Bool.not_eq_true', Option.some.injEq, CallShape.mk.injEq] at h
    obtain ⟨⟨⟨⟨⟨hcall, hcallee⟩, hdot⟩, hrec⟩, hmem⟩, hr, hm, ha, hl⟩ := h
    exact ⟨hcall, hcallee, hdot, hrec, hr, hmem, hm, ha, hl⟩
  · rintro ⟨hcall, hcallee, hdot, hrec, hr, hmem, hm, ha, hl⟩
    simp only [callShape?, callArguments, hcall, hcallee, hdot, hrec, hr, hmem, hm, ha, hl,
      Bool.not_false, Bool.and_self, if_true]

theorem Cst.callShape?_eq_some_iff {node : Tree} {call : CallShape} :
    callShape? node = some call ↔ MemberCall node call := by
  obtain ⟨receiver, member, arguments, line⟩ := call
  constructor
  · intro h
    simp only [callShape?, Option.ite_none_right_eq_some, Bool.and_eq_true,
      Option.some.injEq, CallShape.mk.injEq] at h
    obtain ⟨⟨⟨⟨hcall, hcallee⟩, hrec⟩, hmem⟩, hr, hm, ha, hl⟩ := h
    exact ⟨hcall, hcallee, hrec, hr, hmem, hm, ha, hl⟩
  · rintro ⟨hcall, hcallee, hrec, hr, hmem, hm, ha, hl⟩
    simp only [callShape?, hcall, hcallee, hrec, hr, hmem, hm, ha, hl, Bool.and_self, if_true]

namespace SourceLanguage

/-- The dialect in which trees of a language are read. -/
def dialect : SourceLanguage → Dialect
  | .typed => Cst.dialect
  | .plain => Estree.dialect

/-- The key under which a node of a language has its kind. -/
def kindKey : SourceLanguage → String
  | .typed => "kind"
  | .plain => "type"

/-- A node is the call of a member of a plain identifier. -/
def MemberCall : SourceLanguage → Tree → CallShape → Prop
  | .typed => Cst.MemberCall
  | .plain => Estree.MemberCall

theorem callShape?_eq_some_iff (language : SourceLanguage) {node : Tree} {call : CallShape} :
    language.dialect.callShape? node = some call ↔ language.MemberCall node call := by
  cases language with
  | typed => exact Cst.callShape?_eq_some_iff
  | plain => exact Estree.callShape?_eq_some_iff

end SourceLanguage

/-! ## Endpoints -/

/-- A verb of the router is called under a server profile. -/
structure RouteRule (s : Search) (call : CallShape) (method : Method) : Prop where
  side : s.profile.side = .server
  receiver : call.receiver = s.object
  verb : s.profile.verbs.method? call.member = some method

/-- A verb of the client is called under a client profile. -/
structure ClientRule (s : Search) (call : CallShape) (method : Method) : Prop where
  side : s.profile.side = .client
  receiver : call.receiver = s.object
  verb : s.profile.verbs.method? call.member = some method

/-- A verb of a client library is called. -/
structure LibraryRule (s : Search) (call : CallShape) (method : Method) : Prop where
  receiver : call.receiver ∈ s.profile.clientLibraries
  verb : clientVerbs.method? call.member = some method

/-- The call is a request with a method. The table of the profile goes before that of the
libraries. -/
inductive RequestRule (s : Search) (call : CallShape) : Method → Prop where
  | client {method : Method} (h : ClientRule s call method) : RequestRule s call method
  | library {method : Method} (none : ∀ own, ¬ ClientRule s call own)
      (h : LibraryRule s call method) : RequestRule s call method

/-- The call is an endpoint of a kind, with a method. What is a route is no request, and typed
scripts have no requests. -/
inductive SourceLanguage.Rule (s : Search) (call : CallShape) :
    SourceLanguage → EndpointKind → Method → Prop where
  | route {language : SourceLanguage} {method : Method} (h : RouteRule s call method) :
      Rule s call language .route method
  | request {method : Method} (none : ∀ other, ¬ RouteRule s call other)
      (h : RequestRule s call method) : Rule s call .plain .request method

/-- The endpoint that a node of a language is. -/
def Search.match? (s : Search) : SourceLanguage → Tree → Option EndpointMatch
  | .typed => s.matchTyped?
  | .plain => s.matchScript?

theorem matchRoute?_eq_some_iff {dialect : Dialect} {s : Search} {node : Tree}
    {found : EndpointMatch} :
    matchRoute? dialect s.profile s.object node = some found ↔
      dialect.callShape? node = some found.call ∧ found.kind = .route ∧
        RouteRule s found.call found.method := by
  obtain ⟨kind, method, call⟩ := found
  simp only [matchRoute?, Option.bind_eq_bind, Option.bind_eq_some_iff, Option.guard_eq_some']
  constructor
  · rintro ⟨_, hside, shape, hshape, _, hrec, m, hm, heq⟩
    cases heq
    exact ⟨hshape, rfl, hside, hrec, hm⟩
  · rintro ⟨hshape, rfl, hside, hrec, hm⟩
    exact ⟨(), hside, call, hshape, (), hrec, method, hm, rfl⟩

theorem requestMethod?_eq_some_iff {s : Search} {call : CallShape} {method : Method} :
    requestMethod? s.profile s.object call = some method ↔ RequestRule s call method := by
  by_cases hown : s.profile.side = .client ∧ call.receiver = s.object
  · cases hverb : s.profile.verbs.method? call.member with
    | some own =>
      simp only [requestMethod?, hown, and_self, if_true, hverb, Option.some.injEq]
      constructor
      · rintro rfl
        exact .client ⟨hown.1, hown.2, hverb⟩
      · rintro (⟨⟨_, _, h⟩⟩ | ⟨hnone, _⟩)
        · exact Option.some.inj (hverb.symm.trans h)
        · exact absurd ⟨hown.1, hown.2, hverb⟩ (hnone own)
    | none =>
      have hnone : ∀ own, ¬ ClientRule s call own := fun own h => by
        rw [h.verb] at hverb
        cases hverb
      rw [requestMethod?, if_pos hown, hverb]
      simp only [Option.ite_none_right_eq_some]
      constructor
      · rintro ⟨hlib, h⟩
        exact .library hnone ⟨hlib, h⟩
      · rintro (h | ⟨_, hlib, h⟩)
        · exact absurd h (hnone method)
        · exact ⟨hlib, h⟩
  · have hnone : ∀ own, ¬ ClientRule s call own := fun own h => hown ⟨h.side, h.receiver⟩
    simp only [requestMethod?, hown, if_false, Option.ite_none_right_eq_some]
    constructor
    · rintro ⟨hlib, h⟩
      exact .library hnone ⟨hlib, h⟩
    · rintro (h | ⟨_, hlib, h⟩)
      · exact absurd h (hnone method)
      · exact ⟨hlib, h⟩

theorem matchRequest?_eq_some_iff {dialect : Dialect} {s : Search} {node : Tree}
    {found : EndpointMatch} :
    matchRequest? dialect s.profile s.object node = some found ↔
      dialect.callShape? node = some found.call ∧ found.kind = .request ∧
        RequestRule s found.call found.method := by
  obtain ⟨kind, method, call⟩ := found
  simp only [matchRequest?, Option.bind_eq_bind, Option.bind_eq_some_iff]
  constructor
  · rintro ⟨shape, hshape, m, hm, heq⟩
    cases heq
    exact ⟨hshape, rfl, requestMethod?_eq_some_iff.mp hm⟩
  · rintro ⟨hshape, rfl, h⟩
    exact ⟨call, hshape, method, requestMethod?_eq_some_iff.mpr h, rfl⟩

/-- Matching finds an endpoint exactly where the rules say that there is one. -/
theorem match?_eq_some_iff {language : SourceLanguage} {s : Search} {node : Tree}
    {found : EndpointMatch} :
    s.match? language node = some found ↔
      language.MemberCall node found.call ∧
        language.Rule s found.call found.kind found.method := by
  rw [← language.callShape?_eq_some_iff]
  cases language with
  | typed =>
    rw [Search.match?, Search.matchTyped?, matchRoute?_eq_some_iff]
    constructor
    · rintro ⟨hshape, hkind, h⟩
      exact ⟨hshape, hkind ▸ .route h⟩
    · rintro ⟨hshape, h⟩
      obtain ⟨kind, method, call⟩ := found
      cases h with
      | route h => exact ⟨hshape, rfl, h⟩
  | plain =>
    rw [Search.match?, Search.matchScript?, Option.or_eq_some_iff, matchRoute?_eq_some_iff,
      matchRequest?_eq_some_iff]
    constructor
    · rintro (⟨hshape, hkind, h⟩ | ⟨hnone, hshape, hkind, h⟩)
      · exact ⟨hshape, hkind ▸ .route h⟩
      · -- a call that were a route would have been found as one
        refine ⟨hshape, hkind ▸ .request (fun other hroute => ?_) h⟩
        have hfound : matchRoute? Estree.dialect s.profile s.object node =
            some ⟨.route, other, found.call⟩ :=
          matchRoute?_eq_some_iff.mpr ⟨hshape, rfl, hroute⟩
        rw [hnone] at hfound
        cases hfound
    · rintro ⟨hshape, h⟩
      obtain ⟨kind, method, call⟩ := found
      cases h with
      | route h => exact .inl ⟨hshape, rfl, h⟩
      | request hnone h =>
        refine .inr ⟨?_, hshape, rfl, h⟩
        refine Option.eq_none_iff_forall_ne_some.mpr fun other hother => ?_
        obtain ⟨hshape', -, hroute⟩ := matchRoute?_eq_some_iff.mp hother
        rw [Option.some.inj (hshape'.symm.trans hshape)] at hroute
        exact hnone _ hroute

end EndpointCatalog
