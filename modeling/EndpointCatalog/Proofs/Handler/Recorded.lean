/-
EndpointCatalog.Proofs.Handler.Recorded — what is recorded of a route's
handler, and when nothing is.

`handler_recorded` says of every handler whose first parameter has a name:

* scanning it records exactly what it mentions (`Records`), in both languages;
* a script is the exception if a pattern in the handler has a key that is too
  long to be spelled. Then there is no record of the script at all.

Such a key is a name like any other one, and its written form is at hand. No
use is made of the spelling that cannot be had (`longPattern_fails`).
-/
import EndpointCatalog.Proofs.Handler.Scan
import EndpointCatalog.Proofs.Safety.Extraction

namespace EndpointCatalog

/-- When a handler in a script cannot be scanned. -/
structure ScanEnds (handler : Tree) : Prop where
  /-- A handler comes upon a number that is too long exactly where a pattern in it declares one as
  a static key. -/
  tooLong : ∀ arguments, findHandler? Estree.dialect arguments = some handler →
    (Estree.handlerTooLong arguments = true ↔
      ∃ node ∈ handler.mappings, Estree.patternTooLong node = true)
  /-- There is no such pattern in a handler without long numbers. -/
  spelled : Estree.Spellable handler →
    ∀ node ∈ handler.mappings, Estree.patternTooLong node = false
  /-- With such a pattern in the handler of a route, there is no record of the script. -/
  fails : ∀ (source : Source) (s : Search) (parsed : Estree.Parsed) (node : Tree)
    (found : EndpointMatch), Estree.parse source.text = .ok parsed →
    node ∈ parsed.tree.mappings → s.matchScript? node = some found → found.kind = .route →
    findHandler? Estree.dialect (found.call.arguments.drop 1) = some handler →
    (∃ inner ∈ handler.mappings, Estree.patternTooLong inner = true) →
      (source.scriptEndpoints s).start.1 = .error (.badValue Estree.tooLongToSpell)

theorem scanEnds {handler : Tree} {request : Text}
    (hname : requestName? Estree.dialect handler = some request) : ScanEnds handler := by
  have htooLong : ∀ arguments, findHandler? Estree.dialect arguments = some handler →
      (Estree.handlerTooLong arguments = true ↔
        ∃ node ∈ handler.mappings, Estree.patternTooLong node = true) := by
    intro arguments hhandler
    simp only [Estree.handlerTooLong, hhandler, hname, Option.isSome_some, Bool.true_and,
      Tree.walk_eq_mappings, List.any_eq_true]
  refine ⟨htooLong, fun hspellable node hnode => ?spelled, ?fails⟩
  case spelled =>
    have hnode : Estree.Spellable node := Tree.AllMappings.of_mem hspellable hnode
    exact hnode.patternTooLong
  case fails =>
    intro source s parsed node found hparse hnode hfound hkind hhandler hpattern
    refine Source.scriptEndpoints_error_iff.2 (.tooLong hparse hnode hfound ?_)
    rw [Estree.matchTooLong, hkind]
    exact Bool.or_eq_true_iff.2 (.inr ((htooLong _ hhandler).2 hpattern))

/-- What is known of the scan of a handler. -/
structure HandlerRecorded (language : SourceLanguage) (profile : Profile) (request : Text)
    (handler : Tree) (found : Metadata) : Prop where
  /-- What is recorded is what the handler mentions. -/
  records : Records language.dialect profile request handler found
    (scanHandler language.dialect profile handler found)
  /-- In a script, the extraction may end in its place. -/
  ends : language = .plain → ScanEnds handler
  /-- The extraction of a typed script never ends at a number. -/
  typed : language = .typed → ∀ (source : Source) (s : Search) (reason : String),
    (source.typedEndpoints s).start.1 ≠ .error (.badValue reason)

/-- Scanning a handler records exactly what it mentions, in both languages, unless a pattern in a
script has a key that cannot be spelled. -/
theorem handler_recorded (language : SourceLanguage) {profile : Profile} {handler : Tree}
    {request : Text} {others : List Text}
    (haccessors : ∀ accessor ∈ profile.accessors, accessor.2 ≠ [])
    (hparams : language.dialect.functionParams? handler = some (request :: others))
    (hrequest : request ≠ []) (found : Metadata) :
    HandlerRecorded language profile request handler found where
  records := scanHandler_records language haccessors hparams hrequest found
  ends := by
    rintro rfl
    exact scanEnds (requestName?_eq_some hparams hrequest)
  typed := by
    intro _ source s reason hending
    cases Source.typedEndpoints_error_iff.1 hending

/-! ### A handler that reads a name twice -/

/-- A handler that reads a name twice, first among the keys of a pattern. -/
def pageHandlerSource : List Char :=
  "h = (req) => \x7b let \x7b b, a \x7d = req.query; req.query.b; \x7d;".toList

theorem handler_recorded_page : ∃ script, Estree.readTree? pageHandlerSource = some script ∧
    let typed := Cst.assigned (Cst.readTree pageHandlerSource)
    HandlerRecorded .plain Profile.express "req" (Estree.assigned script) {} ∧
      HandlerRecorded .typed Profile.express "req" typed {} ∧
      (scanHandler Cst.dialect Profile.express typed {}).query =
        [(("b" : Text), .null), (("a" : Text), .null)] := by
  have hscript : (Estree.readTree? pageHandlerSource).any (fun script =>
      Estree.dialect.functionParams? (Estree.assigned script) == some [("req" : Text)]) = true := by
    decide +kernel
  have htyped : (Cst.dialect.functionParams? (Cst.assigned (Cst.readTree pageHandlerSource)) ==
      some [("req" : Text)] &&
        mentioned Cst.dialect Profile.express "req" (Cst.assigned (Cst.readTree pageHandlerSource))
          .query == [("b" : Text), ("a" : Text), ("b" : Text)]) = true := by
    rw [Cst.readTree, Cst.project_eq_plainTree]
    decide +kernel
  obtain ⟨script, hread, hscript⟩ := (Option.any_eq_true _ _).1 hscript
  obtain ⟨htyped, hquery⟩ := Bool.and_eq_true_iff.1 htyped
  have haccessors : ∀ accessor ∈ Profile.express.accessors, accessor.2 ≠ [] := by decide
  have hplain := handler_recorded .plain haccessors (eq_of_beq hscript) (by decide) {}
  have htyped := handler_recorded .typed haccessors (eq_of_beq htyped) (by decide) {}
  refine ⟨script, hread, hplain, htyped, htyped.records.query.trans ?_⟩
  rw [show mentioned SourceLanguage.typed.dialect _ _ _ _ = _ from eq_of_beq hquery]
  rfl

/-! ### A pattern that ends the extraction -/

/-- A number of 4302 decimal digits. -/
def longName : List Char := "0x1".toList ++ List.replicate 3572 '0'

/-- The handler reads one name of the query, and this name is a number. -/
def longPatternSource : Source where
  path := ⟨.relative, ["shop.js"]⟩
  label := "shop.js"
  text := "router.get(\"/x\", (req, res) => \x7b const \x7b ".toList ++ longName ++
    ": a \x7d = req.query; \x7d);".toList

/-- The handler mentions the name, and yet there is no record. -/
theorem longPattern_fails : ∃ parsed node call handler,
    Estree.parse longPatternSource.text = .ok parsed ∧ node ∈ parsed.tree.mappings ∧
    Estree.callShape? node = some call ∧
    findHandler? Estree.dialect (call.arguments.drop 1) = some handler ∧
    Estree.dialect.functionParams? handler = some [("req" : Text), "res"] ∧
    (∃ inner ∈ handler.mappings,
      Mentions Estree.dialect Profile.express "req" inner .query (Text.ofChars longName)) ∧
    (longPatternSource.scriptEndpoints ⟨.express, "router"⟩).start.1 =
      .error (.badValue Estree.tooLongToSpell) := by
  obtain ⟨parsed, node, call, hparse, hnode, hcall, hgives⟩ := Estree.exists_call_of_any
    longPatternSource.text
    (fun tree call => (findHandler? Estree.dialect (call.arguments.drop 1)).any (fun handler =>
      Estree.dialect.functionParams? handler == some [("req" : Text), "res"] &&
        (mentioned Estree.dialect Profile.express "req" handler .query).contains
          (Text.ofChars longName)) &&
      Search.scriptTooLong ⟨.express, "router"⟩ tree) (by decide +kernel)
  obtain ⟨hhandler, hlong⟩ := Bool.and_eq_true_iff.1 hgives
  obtain ⟨handler, hhandler, hreads⟩ := (Option.any_eq_true _ _).1 hhandler
  obtain ⟨hparams, hname⟩ := Bool.and_eq_true_iff.1 hreads
  refine ⟨parsed, node, call, handler, hparse, hnode, hcall, hhandler, eq_of_beq hparams,
    mem_mentioned.1 (List.contains_iff_mem.1 hname), ?_⟩
  rw [Source.scriptEndpoints_start, hparse]
  simp only [hlong, if_true]

end EndpointCatalog
