/-
EndpointCatalog.Proofs.Template — templates are cut at their substitutions.

The ranges between the substitutions of a template are its `gaps`. If what
stands in a range is what stands in its two parts, what stands in the gaps and
in the substitutions, in turn, is all that stands around them (`inTurn_gaps`).
Positions are such (`positions_append`), and so are the elements of a list
(`extract_append_extract`).

* `rawStretches_eq`: the pass over the children of a template finds the text
  of the gaps between its substitutions, and steps over all other children.
* `rawStretches_inBytes`: cutting the bytes between characters is cutting the
  characters, although bytes are decoded piece by piece.
* `template_cut_at_substitutions`: nothing between the delimiters is lost or
  repeated, and the static text is that of the gaps.
-/
import EndpointCatalog.Cst.Bytes
import EndpointCatalog.Proofs.Safety.Typed
import EndpointCatalog.Proofs.Utf8

namespace EndpointCatalog

/-! ## Pieces in turn -/

section InTurn

variable {α β : Type}

/-- Some pieces and some fillings in turn, a piece first; if there are more of one sort, these
stand at the end. -/
def inTurn : List (List α) → List (List α) → List α
  | piece :: pieces, filling :: fillings => piece ++ filling ++ inTurn pieces fillings
  | pieces, [] => pieces.flatten
  | [], fillings => fillings.flatten

theorem inTurn_map {g : List α → List β} (hnil : g [] = [])
    (happend : ∀ as bs, g (as ++ bs) = g as ++ g bs) (pieces fillings : List (List α)) :
    inTurn (pieces.map g) (fillings.map g) = g (inTurn pieces fillings) := by
  have hflatten (parts : List (List α)) : (parts.map g).flatten = g parts.flatten := by
    induction parts with
    | nil => exact hnil.symm
    | cons part rest ih => rw [List.map_cons, List.flatten_cons, ih, List.flatten_cons, happend]
  induction pieces generalizing fillings with
  | nil =>
    cases fillings with
    | nil => exact hnil.symm
    | cons filling fillings => exact hflatten (filling :: fillings)
  | cons piece pieces ih =>
    cases fillings with
    | nil => exact hflatten (piece :: pieces)
    | cons filling fillings =>
      rw [List.map_cons, List.map_cons, inTurn, inTurn, ih, happend, happend]

end InTurn

/-! ## Ranges -/

/-- The ranges between some ranges, from `start` to `stop`. -/
def gaps (start stop : Nat) : List (Nat × Nat) → List (Nat × Nat)
  | [] => [(start, stop)]
  | (first, last) :: rest => (start, first) :: gaps last stop rest

/-- Whether some ranges follow each other between `start` and `stop`. They may be empty, and one
may begin where the one before it ends. -/
def InOrder (start stop : Nat) : List (Nat × Nat) → Prop
  | [] => start ≤ stop
  | (first, last) :: rest => start ≤ first ∧ first ≤ last ∧ InOrder last stop rest

instance decidableInOrder : ∀ start stop ranges, Decidable (InOrder start stop ranges)
  | start, stop, [] => inferInstanceAs (Decidable (start ≤ stop))
  | start, stop, (first, last) :: rest =>
    have := decidableInOrder last stop rest
    inferInstanceAs (Decidable (start ≤ first ∧ first ≤ last ∧ InOrder last stop rest))

/-- The positions in a range. -/
def positions (range : Nat × Nat) : List Nat := List.range' range.1 (range.2 - range.1)

section Ranges

variable {start stop : Nat} {ranges : List (Nat × Nat)}

theorem length_gaps (start stop : Nat) (ranges : List (Nat × Nat)) :
    (gaps start stop ranges).length = ranges.length + 1 := by
  induction ranges generalizing start with
  | nil => rfl
  | cons range rest ih => rw [gaps, List.length_cons, ih, List.length_cons]

theorem gaps_map (f : Nat → Nat) (start stop : Nat) (ranges : List (Nat × Nat)) :
    gaps (f start) (f stop) (ranges.map (Prod.map f f)) =
      (gaps start stop ranges).map (Prod.map f f) := by
  induction ranges generalizing start with
  | nil => rfl
  | cons range rest ih =>
    obtain ⟨first, last⟩ := range
    rw [List.map_cons, Prod.map_apply, gaps, ih, gaps, List.map_cons, Prod.map_apply]

theorem InOrder.le (h : InOrder start stop ranges) : start ≤ stop := by
  induction ranges generalizing start with
  | nil => exact h
  | cons range rest ih =>
    obtain ⟨hfirst, hlast, hrest⟩ := h
    exact Nat.le_trans hfirst (Nat.le_trans hlast (ih hrest))

/-- If what stands in a range is made of what stands in its halves, the gaps between some ranges
and the ranges, in turn, make all that stands around them. -/
theorem inTurn_gaps {α : Type} {f : Nat × Nat → List α}
    (hf : ∀ {a b c}, a ≤ b → b ≤ c → f (a, b) ++ f (b, c) = f (a, c))
    (h : InOrder start stop ranges) :
    inTurn ((gaps start stop ranges).map f) (ranges.map f) = f (start, stop) := by
  induction ranges generalizing start with
  | nil => exact List.append_nil _
  | cons range rest ih =>
    obtain ⟨first, last⟩ := range
    obtain ⟨hfirst, hlast, hrest⟩ := h
    rw [gaps, List.map_cons, List.map_cons, inTurn, ih hrest, hf hfirst hlast,
      hf (Nat.le_trans hfirst hlast) hrest.le]

theorem positions_append {a b c : Nat} (hab : a ≤ b) (hbc : b ≤ c) :
    positions (a, b) ++ positions (b, c) = positions (a, c) := by
  have hb : a + (b - a) = b := by omega
  have hlength : b - a + (c - b) = c - a := by omega
  calc List.range' a (b - a) ++ List.range' b (c - b)
      = List.range' a (b - a) ++ List.range' (a + (b - a)) (c - b) := by rw [hb]
    _ = List.range' a (b - a + (c - b)) := List.range'_append_1
    _ = List.range' a (c - a) := by rw [hlength]

theorem extract_append_extract {α : Type} (xs : List α) {a b c : Nat} (hab : a ≤ b) (hbc : b ≤ c) :
    xs.extract a b ++ xs.extract b c = xs.extract a c := by
  have h : xs.toArray.extract a b ++ xs.toArray.extract b c = xs.toArray.extract a c := by
    rw [Array.extract_append_extract, Nat.min_eq_left hab, Nat.max_eq_right hbc]
  simpa only [Array.toList_append, Array.toList_extract] using congrArg Array.toList h

/-- A range without its first and last element. -/
theorem dropLast_drop_extract {α : Type} {xs : List α} (hstop : stop ≤ xs.length) :
    ((xs.extract start stop).drop 1).dropLast = xs.extract (start + 1) (stop - 1) := by
  simp only [List.extract_eq_take_drop, List.dropLast_eq_take, List.length_drop, List.length_take,
    List.drop_take, List.drop_drop, List.take_take]
  congr 1
  omega

end Ranges

namespace Cst

/-! ## The pass over the children -/

section Pass

variable {data : List UInt8}

theorem substitutionRanges_cons (name : Option String) (n : Node)
    (rest : List (Option String × Node)) :
    substitutionRanges ((name, n) :: rest) =
      if n.kind = substitutionKind then (n.label.start, n.label.stop) :: substitutionRanges rest
      else substitutionRanges rest := by
  by_cases h : n.kind = substitutionKind
  · rw [if_pos h]
    exact List.filterMap_cons_some (if_pos h)
  · rw [if_neg h]
    exact List.filterMap_cons_none (if_neg h)

/-- After the pass over some children the stretches are the text of the gaps that the substitutions
among them leave. -/
theorem stretches_foldl_pass (children : List (Option String × Node)) (stop : Nat)
    (scan : TemplateScan) :
    ((children.map Prod.snd).foldl (TemplateScan.pass data) scan).stretches data stop =
      scan.raw ++ (gaps scan.start stop (substitutionRanges children)).map (byteText data) := by
  induction children generalizing scan with
  | nil => rfl
  | cons c rest ih =>
    obtain ⟨name, child⟩ := c
    rw [List.map_cons, List.foldl_cons, ih, substitutionRanges_cons, TemplateScan.pass]
    split
    · rw [List.append_assoc, gaps, List.map_cons, List.singleton_append]
    · rfl

theorem substitutions_foldl_pass (children : List (Option String × Node)) (scan : TemplateScan) :
    ((children.map Prod.snd).foldl (TemplateScan.pass data) scan).substitutions =
      scan.substitutions + (substitutionRanges children).length := by
  induction children generalizing scan with
  | nil => rfl
  | cons c rest ih =>
    obtain ⟨name, child⟩ := c
    rw [List.map_cons, List.foldl_cons, ih, substitutionRanges_cons, TemplateScan.pass]
    split
    · exact Nat.add_right_comm _ _ _
    · rfl

end Pass

/-- The static ranges of a template, without its first and last character. -/
def staticRanges (n : Node) : List (Nat × Nat) :=
  gaps (n.label.start + 1) (n.label.stop - 1) (substitutionRanges n.children)

theorem rawStretches_eq (data : List UInt8) (n : Node) :
    rawStretches data n = (staticRanges n).map (byteText data) :=
  stretches_foldl_pass _ _ _

theorem substitutions_templateScan (data : List UInt8) (n : Node) :
    (templateScan data n).substitutions = (substitutionRanges n.children).length :=
  (substitutions_foldl_pass _ _).trans (Nat.zero_add _)

/-! ## Bytes and characters -/

section Characters

variable {source : Array Char} {n : Node}

/-- Between characters stand the bytes of the characters. -/
theorem bytesIn_byteOffset (source : Array Char) (range : Nat × Nat) :
    bytesIn (Utf8.encode source.toList) (range.map (byteOffset source) (byteOffset source)) =
      Utf8.encode (source.toList.extract range.1 range.2) :=
  Utf8.extract_encode _ _ _

theorem byteText_byteOffset (source : Array Char) (range : Nat × Nat) :
    byteText (Utf8.encode source.toList) (range.map (byteOffset source) (byteOffset source)) =
      slice source range.1 range.2 := by
  rw [byteText, bytesIn_byteOffset, Utf8.decodeReplacing_encode, slice, Array.toList_extract]

/-- A delimiter is one byte long. -/
theorem byteOffset_succ {i : Nat} (h : source[i]? = some '\x60') :
    byteOffset source (i + 1) = byteOffset source i + 1 := by
  rw [byteOffset, List.take_add_one, Array.getElem?_toList, h, Utf8.encode_append,
    List.length_append]
  rfl

theorem byteOffset_pred {i : Nat} (h : source[i - 1]? = some '\x60') :
    byteOffset source (i - 1) = byteOffset source i - 1 := by
  cases i with
  | zero => rfl
  | succ i => rw [Nat.add_sub_cancel] at h ⊢; rw [byteOffset_succ h, Nat.add_sub_cancel]

section Labels

variable (source : Array Char) (n : Node)

theorem kind_inBytes : (n.inBytes source).kind = n.kind := by
  cases n
  rw [Node.inBytes]
  rfl

theorem start_inBytes : (n.inBytes source).label.start = byteOffset source n.label.start := by
  cases n
  rw [Node.inBytes]
  rfl

theorem stop_inBytes : (n.inBytes source).label.stop = byteOffset source n.label.stop := by
  cases n
  rw [Node.inBytes]
  rfl

end Labels

theorem substitutionRanges_allInBytes (source : Array Char)
    (children : List (Option String × Node)) :
    substitutionRanges (Node.allInBytes source children) =
      (substitutionRanges children).map (Prod.map (byteOffset source) (byteOffset source)) := by
  induction children with
  | nil => rfl
  | cons c rest ih =>
    obtain ⟨name, child⟩ := c
    rw [Node.allInBytes, substitutionRanges_cons, substitutionRanges_cons, ih, kind_inBytes,
      start_inBytes, stop_inBytes]
    split <;> rfl

theorem substitutionRanges_inBytes (source : Array Char) (n : Node) :
    substitutionRanges (n.inBytes source).children =
      (substitutionRanges n.children).map (Prod.map (byteOffset source) (byteOffset source)) := by
  cases n
  rw [Node.inBytes]
  exact substitutionRanges_allInBytes _ _

/-- Whether a node begins and ends with the delimiter of templates. -/
structure IsDelimited (source : Array Char) (n : Node) : Prop where
  first : source[n.label.start]? = some '\x60'
  last : source[n.label.stop - 1]? = some '\x60'

theorem staticRanges_inBytes (h : IsDelimited source n) :
    staticRanges (n.inBytes source) =
      (staticRanges n).map (Prod.map (byteOffset source) (byteOffset source)) := by
  rw [staticRanges, substitutionRanges_inBytes, start_inBytes, stop_inBytes,
    ← byteOffset_succ h.first, ← byteOffset_pred h.last, gaps_map, staticRanges]

/-- What is decoded of the bytes of a node is its text. -/
theorem byteText_inBytes (source : Array Char) (n : Node) :
    byteText (Utf8.encode source.toList)
        ((n.inBytes source).label.start, (n.inBytes source).label.stop) =
      n.text source := by
  rw [start_inBytes, stop_inBytes]
  exact byteText_byteOffset source (n.label.start, n.label.stop)

theorem byteText_substitutions (source : Array Char) (n : Node) :
    (substitutionRanges (n.inBytes source).children).map (byteText (Utf8.encode source.toList)) =
      (substitutionRanges n.children).map fun range => slice source range.1 range.2 := by
  rw [substitutionRanges_inBytes, List.map_map]
  exact List.map_congr_left fun range _ => byteText_byteOffset source range

theorem stretches_eq (source : Array Char) (start stop : Nat) (ranges : List (Nat × Nat)) :
    stretches source start stop ranges =
      (gaps start stop ranges).map fun range => slice source range.1 range.2 := by
  induction ranges generalizing start with
  | nil => rfl
  | cons range rest ih => rw [stretches, ih, gaps, List.map_cons]

/-- The pass over the bytes of a source finds the stretches between its characters. -/
theorem rawStretches_inBytes (h : IsDelimited source n) :
    rawStretches (Utf8.encode source.toList) (n.inBytes source) = templateStretches source n := by
  rw [rawStretches_eq, staticRanges_inBytes h, List.map_map, templateStretches, stretches_eq,
    staticRanges]
  exact List.map_congr_left fun range _ => byteText_byteOffset source range

/-- The text of a node without its delimiters is the source between them. -/
theorem undelimited_text (h : IsDelimited source n) :
    undelimited (n.text source) = slice source (n.label.start + 1) (n.label.stop - 1) := by
  obtain ⟨hlast, -⟩ := Array.getElem?_eq_some_iff.mp h.last
  have hstop : n.label.stop ≤ source.toList.length := by
    rw [Array.length_toList]
    omega
  rw [Node.text, slice, slice, Array.toList_extract, Array.toList_extract, undelimited,
    Text.ofChars, ← List.map_drop, ← List.map_dropLast, dropLast_drop_extract hstop, Text.ofChars]

/-- The stretches of a template and its substitutions, in turn, are its text without the
delimiters. -/
theorem inTurn_templateStretches (h : IsDelimited source n)
    (hinside : InOrder ((n.inBytes source).label.start + 1) ((n.inBytes source).label.stop - 1)
      (substitutionRanges (n.inBytes source).children)) :
    inTurn (templateStretches source n)
        ((substitutionRanges n.children).map fun range => slice source range.1 range.2) =
      undelimited (n.text source) := by
  let chars (range : Nat × Nat) : List Char := source.toList.extract range.1 range.2
  let data := Utf8.encode source.toList
  have hbytes : bytesIn data ∘ Prod.map (byteOffset source) (byteOffset source) =
      Utf8.encode ∘ chars := funext (bytesIn_byteOffset source)
  have hslice : (fun range : Nat × Nat => slice source range.1 range.2) = Text.ofChars ∘ chars :=
    funext fun range => congrArg Text.ofChars Array.toList_extract
  have hdata := inTurn_gaps (f := bytesIn data) (extract_append_extract data) hinside
  rw [← staticRanges, staticRanges_inBytes h, substitutionRanges_inBytes, start_inBytes,
    stop_inBytes, ← byteOffset_succ h.first, ← byteOffset_pred h.last, List.map_map, List.map_map,
    hbytes, ← List.map_map, ← List.map_map, inTurn_map rfl Utf8.encode_append] at hdata
  -- the bytes say which characters there are, so these are in turn what is between the delimiters
  have hchars : inTurn ((staticRanges n).map chars) ((substitutionRanges n.children).map chars) =
      chars (n.label.start + 1, n.label.stop - 1) :=
    Utf8.encode_injective (hdata.trans (bytesIn_byteOffset source (_, _)))
  rw [undelimited_text h, templateStretches, stretches_eq, ← staticRanges, hslice, ← List.map_map,
    ← List.map_map, inTurn_map (g := Text.ofChars) rfl fun _ _ => List.map_append, hchars]
  exact (congrFun hslice (_, _)).symm

end Characters

/-! ## Projected templates -/

section Projection

variable {source : Array Char} {n : Node} {found : Attached}

theorem exists_mapping (source : Array Char) (n : Node) :
    ∃ found, project source n = mapping source n found := by
  cases n
  exact ⟨_, rfl⟩

theorem extras_template (hkind : n.kind = "template_string") : extras source n =
    [("quasis", .list ((templateStretches source n).map fun t => .text t.unescape)),
      ("substitutions", .ofNat (substitutionRanges n.children).length)] := by
  simp only [extras, hkind]

theorem get_quasis_mapping (hkind : n.kind = "template_string") :
    (mapping source n found).get "quasis" =
      .list ((templateStretches source n).map fun t => .text t.unescape) := by
  have hget : (mapping source n found).get "quasis" = (Entries.get? (Text.ofString "quasis")
      ((extras source n).map fun e => (Text.ofString e.1, e.2))).getD .null := rfl
  simp only [hget, extras_template hkind, List.map_cons, List.map_nil]
  rfl

theorem get_substitutions_mapping (hkind : n.kind = "template_string") :
    (mapping source n found).get "substitutions" = .ofNat (substitutionRanges n.children).length := by
  have hget : (mapping source n found).get "substitutions" =
      (Entries.get? (Text.ofString "substitutions")
        ((extras source n).map fun e => (Text.ofString e.1, e.2))).getD .null := rfl
  simp only [hget, extras_template hkind, List.map_cons, List.map_nil]
  rfl

theorem routeText?_mapping (hkind : n.kind = "template_string") :
    routeText? (mapping source n found) =
      some ((templateStretches source n).flatMap Text.unescape) := by
  have hopaque : isTransparent (mapping source n found) = false := by
    rw [isTransparent, isKind_mapping, isKind_mapping, isKind_mapping, isKind_mapping, hkind]
    rfl
  have htext : templateText (mapping source n found) =
      (templateStretches source n).flatMap Text.unescape := by
    rw [templateText, get_quasis_mapping hkind, Tree.items, List.flatMap_map]
    rfl
  rw [routeText?, unwrap_of_not_isTransparent hopaque, isKind_mapping, isKind_mapping, hkind, htext]
  rfl

end Projection

/-! ## Templates are cut at their substitutions -/

/-- A template whose substitutions follow each other between its first and its last byte has one
stretch more than substitutions; the stretches stand in the gaps between these. Gaps and
substitutions, in turn, are each position between the delimiters once, and so are their bytes.
Where the bytes are those of a source, the stretches as they are written and the text of the
substitutions, in turn, are the text of the template without its delimiters, and the text of a
route is made of the stretches with their escapes read. -/
theorem template_cut_at_substitutions (data : List UInt8) (m : Node)
    (hinside : InOrder (m.label.start + 1) (m.label.stop - 1) (substitutionRanges m.children)) :
    (templateParts data m).1.length = (templateParts data m).2 + 1 ∧
      (templateParts data m).2 = (substitutionRanges m.children).length ∧
      rawStretches data m = (staticRanges m).map (byteText data) ∧
      inTurn ((staticRanges m).map positions)
          ((substitutionRanges m.children).map positions) =
        positions (m.label.start + 1, m.label.stop - 1) ∧
      inTurn ((staticRanges m).map (bytesIn data))
          ((substitutionRanges m.children).map (bytesIn data)) =
        bytesIn data (m.label.start + 1, m.label.stop - 1) ∧
      ∀ source n, data = Utf8.encode source.toList → m = n.inBytes source →
        IsDelimited source n → m.kind = "template_string" →
          byteText data (m.label.start, m.label.stop) = n.text source ∧
          inTurn (rawStretches data m)
              ((substitutionRanges m.children).map (byteText data)) =
            undelimited (byteText data (m.label.start, m.label.stop)) ∧
          (project source n).get "quasis" = .list ((templateParts data m).1.map .text) ∧
          (project source n).get "substitutions" = .ofNat (templateParts data m).2 ∧
          routeText? (project source n) = some ((rawStretches data m).flatMap Text.unescape) := by
  have hcount : (templateParts data m).2 = (substitutionRanges m.children).length :=
    substitutions_templateScan data m
  refine ⟨?_, hcount, rawStretches_eq data m, inTurn_gaps positions_append hinside,
    inTurn_gaps (f := bytesIn data) (extract_append_extract data) hinside, ?_⟩
  · rw [hcount, templateParts, List.length_map, rawStretches_eq, List.length_map, staticRanges,
      length_gaps]
  rintro source n rfl rfl hdelimited hkind
  obtain ⟨found, hproject⟩ := exists_mapping source n
  rw [kind_inBytes] at hkind
  rw [byteText_inBytes, byteText_substitutions, hproject, hcount, templateParts,
    rawStretches_inBytes hdelimited, substitutionRanges_inBytes, List.length_map, List.map_map]
  exact ⟨rfl, inTurn_templateStretches hdelimited hinside, get_quasis_mapping hkind,
    get_substitutions_mapping hkind, routeText?_mapping hkind⟩

/-- A template with a letter of two bytes, two substitutions that are adjacent, and a template in
the second one; an escape follows. -/
def nestedSource : Array Char :=
  #['\x60', 'é', '$', '\x7b', 'a', '\x7d', '$', '\x7b', '\x60', '$', '\x7b', 'b', '\x7d', '\x60', '\x7d',
    '\\', 'n', '\x60']

/-- The tree of `nestedSource`. -/
def nestedTemplate : Node :=
  let mark (kind : String) (start stop : Nat) : Option String × Node :=
    (none, .mk ⟨kind, false, false, start, stop, 0⟩ [])
  let node (kind : String) (start stop : Nat) (children : List (Option String × Node)) :
      Option String × Node :=
    (none, .mk ⟨kind, true, false, start, stop, 0⟩ children)
  let filling (start stop : Nat) (inner : Option String × Node) : Option String × Node :=
    node substitutionKind start stop
      [mark "$\x7b" start (start + 2), inner, mark "\x7d" (stop - 1) stop]
  let template (start stop : Nat) (inner : List (Option String × Node)) : Option String × Node :=
    node "template_string" start stop
      (mark "\x60" start (start + 1) :: inner ++ [mark "\x60" (stop - 1) stop])
  (template 0 18
    [node "string_fragment" 1 2 [], filling 2 6 (node "identifier" 4 5 []),
      filling 6 15 (template 8 14 [filling 9 13 (node "identifier" 11 12 [])]),
      node "escape_sequence" 15 17 []]).2

theorem template_cut_at_substitutions_nestedTemplate :
    InOrder ((nestedTemplate.inBytes nestedSource).label.start + 1)
        ((nestedTemplate.inBytes nestedSource).label.stop - 1)
        (substitutionRanges (nestedTemplate.inBytes nestedSource).children) ∧
      IsDelimited nestedSource nestedTemplate ∧
      (templateParts (Utf8.encode nestedSource.toList) (nestedTemplate.inBytes nestedSource)).2 = 2 ∧
      routeText? (project nestedSource nestedTemplate) = some (Text.ofString "é\n") := by
  have hinside : InOrder ((nestedTemplate.inBytes nestedSource).label.start + 1)
      ((nestedTemplate.inBytes nestedSource).label.stop - 1)
      (substitutionRanges (nestedTemplate.inBytes nestedSource).children) := by decide
  have hdelimited : IsDelimited nestedSource nestedTemplate := ⟨by decide, by decide⟩
  obtain ⟨-, hcount, -, -, -, htext⟩ :=
    template_cut_at_substitutions (Utf8.encode nestedSource.toList)
      (nestedTemplate.inBytes nestedSource) hinside
  obtain ⟨-, -, -, -, hroute⟩ := htext nestedSource nestedTemplate rfl rfl hdelimited rfl
  rw [rawStretches_inBytes hdelimited] at hroute
  exact ⟨hinside, hdelimited, hcount.trans (by decide), hroute.trans (by decide)⟩

end Cst

end EndpointCatalog
