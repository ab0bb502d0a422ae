/-
EndpointCatalog.Proofs.Printed — what is printed of a discovery as JSON.

The text should be JSON, and say what the records say, with texts in place of
patterns.

* `reread_eq_iff`: a value is read back as it is, but for its patterns, if no
  text of it holds a pair of halves, no key is there twice and NaN is the
  usual one.
* `CommandLine.deliver_json`: for every discovery, what is printed, what it is
  read back as, when it is JSON and when it says what the records say.

An infinity is printed by its name, which JSON does not know
(`overflow_is_no_document`).
-/
import EndpointCatalog.CommandLine
import EndpointCatalog.Extraction
import EndpointCatalog.Proofs.Entries
import EndpointCatalog.Proofs.Json.Document
import EndpointCatalog.Proofs.Path

namespace EndpointCatalog

/-! ## Values without patterns -/

namespace Json

open Text (joinHalves hasPair joinHalves_of_not_hasPair hasPair_joinHalves)

mutual

/-- A value with texts in place of its patterns. -/
def withoutPatterns : Tree → Tree
  | .regex pattern multiline ignoreCase => .text (regexText pattern multiline ignoreCase)
  | .list items => .list (itemsWithoutPatterns items)
  | .map entries => .map (entriesWithoutPatterns entries)
  | t => t

/-- Items with texts in place of patterns. -/
def itemsWithoutPatterns : List Tree → List Tree
  | [] => []
  | item :: rest => withoutPatterns item :: itemsWithoutPatterns rest

/-- Entries with texts in place of patterns. -/
def entriesWithoutPatterns : List (Text × Tree) → List (Text × Tree)
  | [] => []
  | (key, value) :: rest => (key, withoutPatterns value) :: entriesWithoutPatterns rest

end

mutual

/-- Whether a reader takes a value for what it is: no text of it holds a pair of halves, no mapping
a key twice, and what is no number has the usual bits. -/
def isKept : Tree → Bool
  | .float x => !x.isNaN || decide (x = Binary64.nan false)
  | .text t => !hasPair t
  | .regex pattern multiline ignoreCase => !hasPair (regexText pattern multiline ignoreCase)
  | .list items => itemsAreKept items
  | .map entries => decide (Entries.keys entries).Nodup && entriesAreKept entries
  | _ => true

/-- Whether a reader takes some items for what they are. -/
def itemsAreKept : List Tree → Bool
  | [] => true
  | item :: rest => isKept item && itemsAreKept rest

/-- Whether a reader takes some keys and values for what they are. -/
def entriesAreKept : List (Text × Tree) → Bool
  | [] => true
  | (key, value) :: rest => !hasPair key && isKept value && entriesAreKept rest

end

theorem joinHalves_eq_self_iff {t : Text} : joinHalves t = t ↔ (!hasPair t) = true := by
  rw [Bool.not_eq_true']
  exact ⟨fun h => h ▸ hasPair_joinHalves t, joinHalves_of_not_hasPair⟩

theorem keys_entriesWithoutPatterns (entries : Entries) :
    Entries.keys (entriesWithoutPatterns entries) = Entries.keys entries := by
  induction entries with
  | nil => rfl
  | cons entry rest ih => exact congrArg (entry.1 :: ·) ih

theorem length_rereadEntries (entries : Entries) :
    (rereadEntries entries).length = (entriesWithoutPatterns entries).length := by
  induction entries with
  | nil => rfl
  | cons entry rest ih => exact congrArg (· + 1) ih

mutual

/-- A value is read back as it is, but for its patterns, exactly if it is kept. -/
theorem reread_eq_iff : ∀ t : Tree, reread t = withoutPatterns t ↔ isKept t = true
  | .null => ⟨fun _ => rfl, fun _ => rfl⟩
  | .bool _ => ⟨fun _ => rfl, fun _ => rfl⟩
  | .int _ => ⟨fun _ => rfl, fun _ => rfl⟩
  | .float x => by
    have hsame : withoutPatterns (.float x) = .float x := rfl
    rw [reread, hsame, isKept, Tree.float.injEq]
    cases x.isNaN with
    | false => simp
    | true => simp [eq_comm]
  | .text u => by
    have hsame : withoutPatterns (.text u) = .text u := rfl
    rw [reread, hsame, isKept, Tree.text.injEq, joinHalves_eq_self_iff]
  | .regex pattern multiline ignoreCase => by
    rw [reread, withoutPatterns, isKept, Tree.text.injEq, joinHalves_eq_self_iff]
  | .list items => by
    rw [reread, withoutPatterns, isKept, Tree.list.injEq, rereadItems_eq_iff]
  | .map entries => by
    rw [reread, withoutPatterns, isKept, Tree.map.injEq,
      Entries.ofPairs_eq_iff (length_rereadEntries entries), keys_entriesWithoutPatterns,
      rereadEntries_eq_iff, Bool.and_eq_true, decide_eq_true_eq, and_comm]

theorem rereadItems_eq_iff : ∀ items : List Tree,
    rereadItems items = itemsWithoutPatterns items ↔ itemsAreKept items = true
  | [] => ⟨fun _ => rfl, fun _ => rfl⟩
  | item :: rest => by
    rw [rereadItems, itemsWithoutPatterns, itemsAreKept, List.cons.injEq, reread_eq_iff item,
      rereadItems_eq_iff rest, Bool.and_eq_true]

theorem rereadEntries_eq_iff : ∀ entries : List (Text × Tree),
    rereadEntries entries = entriesWithoutPatterns entries ↔ entriesAreKept entries = true
  | [] => ⟨fun _ => rfl, fun _ => rfl⟩
  | (key, value) :: rest => by
    rw [rereadEntries, entriesWithoutPatterns, entriesAreKept, List.cons.injEq, Prod.mk.injEq,
      joinHalves_eq_self_iff, reread_eq_iff value, rereadEntries_eq_iff rest, Bool.and_eq_true,
      Bool.and_eq_true]

end

theorem rereadItems_eq_map (items : List Tree) : rereadItems items = items.map reread := by
  induction items with
  | nil => rfl
  | cons item rest ih => rw [rereadItems, ih, List.map_cons]

theorem itemsWithoutPatterns_eq_map (items : List Tree) :
    itemsWithoutPatterns items = items.map withoutPatterns := by
  induction items with
  | nil => rfl
  | cons item rest ih => rw [itemsWithoutPatterns, ih, List.map_cons]

end Json

/-! ## What is printed -/

theorem ofToOption {ε α : Type} {x : Except ε α} {a : α} (h : x.toOption = some a) : x = .ok a := by
  cases x with
  | error e => cases h
  | ok b => exact congrArg _ (Option.some.inj h)

/-- The object of a record in a catalog. -/
def EndpointRecord.object (r : EndpointRecord) : Tree := .map (r.toEntries .catalog)

/-- A discovery of some records. -/
def Discovery.ofRecords (records : List EndpointRecord) : Discovery :=
  ⟨"shop", "axios", .nan false, "axios", records, false⟩

theorem Acting.put_output_ofChars (cs : List Char) (s : Session) :
    (put .output (Text.ofChars cs)).run s = (.ok (), { s with output := s.output ++ cs }) := by
  rw [put, Text.toChars?_ofChars]
  rfl

namespace CommandLine

theorem deliver_json_eq {o : DiscoverOptions} (hformat : o.format = .json)
    (hout : o.out.filter (· ≠ "") = none) (found : Discovery) :
    o.deliver found = (liftM found.json >>= fun text =>
      Acting.put .output (Text.ofChars (text ++ ['\n']))) := by
  rw [DiscoverOptions.deliver, hformat, hout]

/-- What is printed of a discovery as JSON, and that it says of every record what it is. -/
theorem deliver_json {o : DiscoverOptions} (hformat : o.format = .json)
    (hout : o.out.filter (· ≠ "") = none) (found : Discovery) (s : Session) :
    (Json.hasLongInteger found.dump = true →
      (o.deliver found).run s = (.error (.badValue Estree.tooLongToSpell), s)) ∧
    (Json.hasLongInteger found.dump = false →
      ∃ text, (o.deliver found).run s = (.ok (), { s with output := s.output ++ text }) ∧
        Json.read? text = some (.list (found.endpoints.map fun r => Json.reread r.object)) ∧
        (Json.IsDocument text ↔ Json.isFinite found.dump = true) ∧
        (Json.read? text = some (.list (found.endpoints.map fun r =>
          Json.withoutPatterns r.object)) ↔ Json.isKept found.dump = true)) := by
  rw [deliver_json_eq hformat hout, Discovery.json]
  constructor
  · intro hlong
    rw [if_pos hlong]
    rfl
  · intro hshort
    rw [if_neg (Bool.eq_false_iff.1 hshort)]
    have hread := Json.read?_write hshort
    have hreread : Json.reread found.dump =
        .list (found.endpoints.map fun r => Json.reread r.object) := by
      rw [Discovery.dump, Json.reread, Json.rereadItems_eq_map, List.map_map]
      rfl
    have hpatterns : Json.withoutPatterns found.dump =
        .list (found.endpoints.map fun r => Json.withoutPatterns r.object) := by
      rw [Discovery.dump, Json.withoutPatterns, Json.itemsWithoutPatterns_eq_map, List.map_map]
      rfl
    refine ⟨Json.write 0 found.dump ++ ['\n'], Acting.put_output_ofChars _ s, ?_,
      Json.isDocument_write_iff hshort, ?_⟩
    · rw [hread, hreread]
    · rw [hread, ← hpatterns, Option.some.injEq, Json.reread_eq_iff]

/-- A record whose body is a text. -/
def plainRecord : EndpointRecord :=
  ⟨.get, "/v", [], [], .text "a", "v.js", "v", .request, some 1⟩

/-- The options that ask for a catalog as JSON on the terminal. -/
def jsonOptions : DiscoverOptions := ⟨".", "axios", "axios", none, true, .json, none, 200⟩

/-- A run that has done nothing yet. -/
def freshSession : Session := { disk := { root := .directory [] } }

/-- Of a record that holds only texts all is printed as it is. -/
theorem deliver_json_plain : jsonOptions.format = .json ∧
    jsonOptions.out.filter (· ≠ "") = none ∧
    ∃ text, (jsonOptions.deliver (.ofRecords [plainRecord])).run freshSession =
        (.ok (), { freshSession with output := freshSession.output ++ text }) ∧
      Json.IsDocument text ∧
      Json.read? text = some (.list [Json.withoutPatterns plainRecord.object]) := by
  have hshort : Json.hasLongInteger (Discovery.ofRecords [plainRecord]).dump = false := by
    decide +kernel
  obtain ⟨text, hrun, -, hdocument, hkept⟩ :=
    (deliver_json (o := jsonOptions) rfl rfl (.ofRecords [plainRecord]) freshSession).2 hshort
  exact ⟨rfl, rfl, text, hrun, hdocument.2 (by decide +kernel), hkept.2 (by decide +kernel)⟩

end CommandLine

/-! ## A number that is too large -/

/-- A script with a number beyond all double-precision numbers. -/
def overflowSource : Source where
  path := ⟨.relative, ["v.js"]⟩
  label := "v.js"
  text := "axios.get('/v', \x7b data: 1e400 \x7d);".toList

/-- What is printed of the script, but for the line break at the end. -/
def overflowText : List Char :=
  ("[\n  \x7b\n    \"method\": \"GET\",\n    \"path\": \"/v\",\n    \"headers\": \x7b\x7d,\n" ++
    "    \"queryParameters\": \x7b\x7d,\n    \"body\": Infinity,\n" ++
    "    \"sourceFile\": \"v.js\",\n    \"resourceName\": \"v\",\n" ++
    "    \"kind\": \"request\",\n    \"line\": 1\n  \x7d\n]").toList

/-- The script has a record, and what is printed of it is no JSON. -/
theorem overflow_is_no_document : ∃ records,
    (overflowSource.scriptEndpoints ⟨.axios, "axios"⟩).start.1 = .ok records ∧
      (Discovery.ofRecords records).json = .ok overflowText ∧
      ¬ Json.IsDocument (overflowText ++ ['\n']) := by
  have hprinted : (overflowSource.scriptEndpoints ⟨.axios, "axios"⟩).start.1.toOption.map
      (fun records => (Discovery.ofRecords records).json.toOption) = some (some overflowText) := by
    decide +kernel
  have hscan : Json.scan .outside (overflowText ++ ['\n']) = none := by decide +kernel
  obtain ⟨records, hrecords, hjson⟩ := Option.map_eq_some_iff.1 hprinted
  refine ⟨records, ?_, ?_, fun h => ?_⟩
  · exact ofToOption hrecords
  · exact ofToOption hjson
  · rw [h.scan_eq] at hscan
    cases hscan

end EndpointCatalog
