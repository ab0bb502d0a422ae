/-
EndpointCatalog.Proofs.Walking.Ending — how a walk ends.

What is logged does not change how an action ends (`Steady`), so that each
meeting of a walk has an ending of its own.

* `Meeting.Fails`: the failures of a meeting, with what each of them takes.
* `Meeting.Yields`: the records of a meeting that does not fail.
* `ending_ok_iff`, `ending_error_iff`: a walk ends with the records of all its
  meetings, or with the failure of the first one that fails.
-/
import EndpointCatalog.Proofs.Run
import EndpointCatalog.Proofs.Walking.Sight

namespace EndpointCatalog

/-! ## Actions and their log -/

/-- How an action ends does not depend on what has been logged before. -/
def Steady {α : Type} (x : Logged α) : Prop :=
  ∀ before, ((ExceptT.run x).run before).1 = x.start.1

namespace Steady

variable {α β : Type}

theorem pure (a : α) : Steady (pure a) := fun _ => rfl

theorem throw (e : Failure) : Steady (throw e : Logged α) := fun _ => rfl

theorem log (level : LogLevel) (message : String) : Steady (Logged.log level message) :=
  fun _ => rfl

theorem liftM (ending : Except Failure α) : Steady (liftM ending : Logged α) := by
  cases ending with
  | ok a => exact pure a
  | error e => exact throw e

theorem bind {x : Logged α} {f : α → Logged β} (hx : Steady x) (hf : ∀ a, Steady (f a)) :
    Steady (x >>= f) := by
  intro before
  have hending := hx before
  rw [Logged.start] at hending ⊢
  rw [run_bind, run_bind]
  revert hending
  obtain ⟨ending, next⟩ := (ExceptT.run x).run before
  obtain ⟨ending', next'⟩ := (ExceptT.run x).run []
  intro hending
  obtain rfl : ending = ending' := hending
  cases ending with
  | error e => rfl
  | ok a => exact (hf a next).trans (hf a next').symm

end Steady

/-- The records of a tree, or the failure if one of them is nested too deep. -/
theorem Search.records_start (s : Search) (dialect : Dialect)
    (match? : Tree → Option EndpointMatch) (source : Source) (tree : Tree) :
    (s.records dialect match? source tree).start.1 =
      match (tree.walk.filterMap match?).mapM (EndpointRecord.ofMatch? dialect s.profile
          (Resource.ofPath source.path) source.label) with
      | some block => .ok block
      | none => .error .nestingTooDeep := by
  simp only [records]
  generalize List.mapM (EndpointRecord.ofMatch? dialect s.profile (Resource.ofPath source.path)
    source.label) (tree.walk.filterMap match?) = found
  cases found <;> rfl

theorem Search.steady_records (s : Search) (dialect : Dialect)
    (match? : Tree → Option EndpointMatch) (source : Source) (tree : Tree) :
    Steady (s.records dialect match? source tree) := by
  simp only [records]
  split
  · exact .pure _
  · exact .throw _

theorem Search.scriptRecords_start (s : Search) (source : Source) (tree : Tree) :
    (s.scriptRecords source tree).start.1 =
      if s.scriptTooLong tree then .error (.badValue Estree.tooLongToSpell)
      else (s.records Estree.dialect s.matchScript? source tree).start.1 := by
  unfold scriptRecords
  split <;> rfl

theorem Search.steady_scriptRecords (s : Search) (source : Source) (tree : Tree) :
    Steady (s.scriptRecords source tree) := by
  unfold scriptRecords
  split
  · exact .throw _
  · exact s.steady_records _ _ source tree

namespace Source

theorem steady_parseScript (source : Source) : Steady source.parseScript := by
  unfold parseScript
  split
  · exact .throw _
  · exact .pure _
  · simp only
    split
    · exact .bind (.log _ _) fun _ => .pure _
    · exact .pure _

theorem steady_endpoints (source : Source) (s : Search) : Steady (source.endpoints s) := by
  unfold endpoints
  split
  · refine .bind ?_ fun tree => s.steady_records _ _ source tree
    unfold parseTyped
    simp only
    split
    · exact .throw _
    · exact .pure _
  · refine .bind source.steady_parseScript fun parsed => ?_
    split
    · exact .bind (.log _ _) fun _ => .pure _
    · exact s.steady_scriptRecords source _
  · exact .pure _

/-- How a script ends: its log does not matter. -/
theorem scriptEndpoints_start (source : Source) (s : Search) :
    (source.scriptEndpoints s).start.1 = match Estree.parse source.text with
      | .error .emptySubstitution => .error .emptySubstitution
      | .error _ => .ok []
      | .ok parsed =>
        if s.scriptTooLong parsed.tree then .error (.badValue Estree.tooLongToSpell)
        else (s.records Estree.dialect s.matchScript? source parsed.tree).start.1 := by
  unfold scriptEndpoints parseScript
  cases Estree.parse source.text with
  | error stop => cases stop <;> rfl
  | ok parsed =>
    have hsteady := s.steady_scriptRecords source parsed.tree
    refine Eq.trans ?_ (s.scriptRecords_start source parsed.tree)
    by_cases hfaults : parsed.faults > 0
    · simp only [if_pos hfaults]
      exact hsteady _
    · simp only [if_neg hfaults]
      rfl

theorem typedEndpoints_start (source : Source) (s : Search) :
    (source.typedEndpoints s).start.1 =
      if (Cst.parse source.text).hasFault then
        .error (.discovery (.typedParse source.path.toString
          (some (Cst.parse source.text).firstFaultyLine) "syntax error"))
      else (s.records Cst.dialect s.matchTyped? source
        (Cst.project source.text.toArray (Cst.parse source.text))).start.1 := by
  unfold typedEndpoints parseTyped
  by_cases hfault : (Cst.parse source.text).hasFault = true
  · simp only [hfault, if_true]
    rfl
  · simp only [hfault]
    rfl

end Source

namespace Meeting

variable {s : Search} {seenFrom : Option Path} {m : Meeting} {e : Failure}
  {block records : List EndpointRecord}

theorem steady_records (s : Search) (seenFrom : Option Path) (m : Meeting) :
    Steady (m.records s seenFrom) :=
  .bind (.liftM _) fun source => source.steady_endpoints s

/-- How a meeting ends. -/
def ending (s : Search) (seenFrom : Option Path) (m : Meeting) :
    Except Failure (List EndpointRecord) := (m.records s seenFrom).start.1

/-- The record of a match in a source. -/
def record? (s : Search) (dialect : Dialect) (p label : Path) :
    EndpointMatch → Option EndpointRecord :=
  EndpointRecord.ofMatch? dialect s.profile (Resource.ofPath p) (Text.ofString label.toString)

/-- The records of a meeting that does not fail. -/
inductive Yields (s : Search) (seenFrom : Option Path) : Meeting → List EndpointRecord → Prop where
  /-- A script that does not parse has none. -/
  | skipped {p label : Path} {text : List Char} {stop : Estree.Stop} :
      sourceLabel seenFrom p = .ok label → p.language? = some .plain →
      Estree.parse text = .error stop → stop ≠ .emptySubstitution →
      Yields s seenFrom (.source p (.ok text)) []
  | script {p label : Path} {text : List Char} {parsed : Estree.Parsed}
      {block : List EndpointRecord} :
      sourceLabel seenFrom p = .ok label → p.language? = some .plain →
      Estree.parse text = .ok parsed → s.scriptTooLong parsed.tree = false →
      (parsed.tree.walk.filterMap s.matchScript?).mapM (record? s Estree.dialect p label) =
        some block →
      Yields s seenFrom (.source p (.ok text)) block
  | typed {p label : Path} {text : List Char} {block : List EndpointRecord} :
      sourceLabel seenFrom p = .ok label → p.language? = some .typed →
      (Cst.parse text).hasFault = false →
      ((Cst.project text.toArray (Cst.parse text)).walk.filterMap s.matchTyped?).mapM
        (record? s Cst.dialect p label) = some block →
      Yields s seenFrom (.source p (.ok text)) block
  | unknown {p label : Path} {text : List Char} :
      sourceLabel seenFrom p = .ok label → p.language? = none →
      Yields s seenFrom (.source p (.ok text)) []

/-- The failures of a meeting. -/
inductive Fails (s : Search) (seenFrom : Option Path) : Meeting → Failure → Prop where
  | closed {spelled reason : String} :
      Fails s seenFrom (.closed spelled reason) (.discovery (.fileSystem spelled reason))
  | outside {p : Path} {text : Except String (List Char)} {e : Failure} :
      sourceLabel seenFrom p = .error e → Fails s seenFrom (.source p text) e
  | unreadable {p label : Path} {reason : String} : sourceLabel seenFrom p = .ok label →
      Fails s seenFrom (.source p (.error reason)) (.discovery (.fileSystem p.toString reason))
  | malformed {p label : Path} {text : List Char} :
      sourceLabel seenFrom p = .ok label → p.language? = some .typed →
      (Cst.parse text).hasFault = true →
      Fails s seenFrom (.source p (.ok text)) (.discovery (.typedParse p.toString
        (some (Cst.parse text).firstFaultyLine) "syntax error"))
  /-- One way in which a script does not parse ends the walk. -/
  | emptySubstitution {p label : Path} {text : List Char} :
      sourceLabel seenFrom p = .ok label → p.language? = some .plain →
      Estree.parse text = .error .emptySubstitution →
      Fails s seenFrom (.source p (.ok text)) .emptySubstitution
  | tooLong {p label : Path} {text : List Char} {parsed : Estree.Parsed} :
      sourceLabel seenFrom p = .ok label → p.language? = some .plain →
      Estree.parse text = .ok parsed → s.scriptTooLong parsed.tree = true →
      Fails s seenFrom (.source p (.ok text)) (.badValue Estree.tooLongToSpell)
  | deepScript {p label : Path} {text : List Char} {parsed : Estree.Parsed} :
      sourceLabel seenFrom p = .ok label → p.language? = some .plain →
      Estree.parse text = .ok parsed → s.scriptTooLong parsed.tree = false →
      (parsed.tree.walk.filterMap s.matchScript?).mapM (record? s Estree.dialect p label) = none →
      Fails s seenFrom (.source p (.ok text)) .nestingTooDeep
  | deepTyped {p label : Path} {text : List Char} :
      sourceLabel seenFrom p = .ok label → p.language? = some .typed →
      (Cst.parse text).hasFault = false →
      ((Cst.project text.toArray (Cst.parse text)).walk.filterMap s.matchTyped?).mapM
        (record? s Cst.dialect p label) = none →
      Fails s seenFrom (.source p (.ok text)) .nestingTooDeep

theorem ending_of_source {source : Source} (h : m.source? seenFrom = .ok source) :
    m.ending s seenFrom = (source.endpoints s).start.1 := by
  rw [ending, Meeting.records, h]
  rfl

theorem source?_of_label {p label : Path} {text : List Char}
    (h : sourceLabel seenFrom p = .ok label) : (source p (.ok text)).source? seenFrom =
      .ok ⟨p, Text.ofString label.toString, text⟩ := by
  simp only [source?, h]

theorem ending_plain {p label : Path} {text : List Char} (h : sourceLabel seenFrom p = .ok label)
    (hplain : p.language? = some .plain) : (source p (.ok text)).ending s seenFrom =
      (Source.scriptEndpoints ⟨p, Text.ofString label.toString, text⟩ s).start.1 := by
  rw [ending_of_source (source?_of_label h), Source.endpoints, hplain]

theorem ending_typed {p label : Path} {text : List Char} (h : sourceLabel seenFrom p = .ok label)
    (htyped : p.language? = some .typed) : (source p (.ok text)).ending s seenFrom =
      (Source.typedEndpoints ⟨p, Text.ofString label.toString, text⟩ s).start.1 := by
  rw [ending_of_source (source?_of_label h), Source.endpoints, htyped]

theorem ending_of_yields (h : m.Yields s seenFrom block) : m.ending s seenFrom = .ok block := by
  cases h with
  | skipped hlabel hplain hparse hstop =>
    rw [ending_plain hlabel hplain, Source.scriptEndpoints_start, hparse]
    split
    · next heq =>
      cases heq
      exact absurd rfl hstop
    · rfl
    · next heq => cases heq
  | script hlabel hplain hparse hlong hrecords =>
    rw [ending_plain hlabel hplain, Source.scriptEndpoints_start, hparse]
    simp only [hlong, Bool.false_eq_true, if_false, Search.records_start]
    rw [record?] at hrecords
    rw [hrecords]
  | typed hlabel htyped hfault hrecords =>
    rw [ending_typed hlabel htyped, Source.typedEndpoints_start]
    rw [record?] at hrecords
    simp only [hfault, Search.records_start, hrecords]
    rfl
  | unknown hlabel hnone =>
    rw [ending_of_source (source?_of_label hlabel), Source.endpoints, hnone]
    rfl

theorem ending_of_fails (h : m.Fails s seenFrom e) : m.ending s seenFrom = .error e := by
  cases h with
  | closed => rfl
  | outside hlabel =>
    simp only [ending, Meeting.records, source?, hlabel]
    rfl
  | unreadable hlabel =>
    simp only [ending, Meeting.records, source?, hlabel]
    rfl
  | malformed hlabel htyped hfault =>
    rw [ending_typed hlabel htyped, Source.typedEndpoints_start]
    simp only [hfault, if_true]
  | emptySubstitution hlabel hplain hparse =>
    rw [ending_plain hlabel hplain, Source.scriptEndpoints_start, hparse]
  | tooLong hlabel hplain hparse hlong =>
    rw [ending_plain hlabel hplain, Source.scriptEndpoints_start, hparse]
    simp only [hlong, if_true]
  | deepScript hlabel hplain hparse hlong hrecords =>
    rw [ending_plain hlabel hplain, Source.scriptEndpoints_start, hparse]
    simp only [hlong, Bool.false_eq_true, if_false, Search.records_start]
    rw [record?] at hrecords
    rw [hrecords]
  | deepTyped hlabel htyped hfault hrecords =>
    rw [ending_typed hlabel htyped, Source.typedEndpoints_start]
    rw [record?] at hrecords
    simp only [hfault, Search.records_start, hrecords]
    rfl

/-- A meeting yields records or fails. -/
theorem yields_or_fails (s : Search) (seenFrom : Option Path) (m : Meeting) :
    (∃ block, m.Yields s seenFrom block) ∨ ∃ e, m.Fails s seenFrom e := by
  cases m with
  | closed spelled reason => exact .inr ⟨_, .closed⟩
  | source p text =>
    cases hlabel : sourceLabel seenFrom p with
    | error e => exact .inr ⟨e, .outside hlabel⟩
    | ok label =>
      cases text with
      | error reason => exact .inr ⟨_, .unreadable hlabel⟩
      | ok text =>
        cases hlanguage : p.language? with
        | none => exact .inl ⟨[], .unknown hlabel hlanguage⟩
        | some language =>
          cases language with
          | plain =>
            cases hparse : Estree.parse text with
            | error stop =>
              by_cases hstop : stop = .emptySubstitution
              · subst hstop
                exact .inr ⟨_, .emptySubstitution hlabel hlanguage hparse⟩
              · exact .inl ⟨_, .skipped hlabel hlanguage hparse hstop⟩
            | ok parsed =>
              cases hlong : s.scriptTooLong parsed.tree with
              | true => exact .inr ⟨_, .tooLong hlabel hlanguage hparse hlong⟩
              | false =>
                cases hrecords : (parsed.tree.walk.filterMap s.matchScript?).mapM
                    (record? s Estree.dialect p label) with
                | none => exact .inr ⟨_, .deepScript hlabel hlanguage hparse hlong hrecords⟩
                | some block => exact .inl ⟨_, .script hlabel hlanguage hparse hlong hrecords⟩
          | typed =>
            cases hfault : (Cst.parse text).hasFault with
            | true => exact .inr ⟨_, .malformed hlabel hlanguage hfault⟩
            | false =>
              cases hrecords : ((Cst.project text.toArray (Cst.parse text)).walk.filterMap
                  s.matchTyped?).mapM (record? s Cst.dialect p label) with
              | none => exact .inr ⟨_, .deepTyped hlabel hlanguage hfault hrecords⟩
              | some block => exact .inl ⟨_, .typed hlabel hlanguage hfault hrecords⟩

theorem ending_ok_iff : m.ending s seenFrom = .ok block ↔ m.Yields s seenFrom block := by
  refine ⟨fun h => ?_, ending_of_yields⟩
  rcases yields_or_fails s seenFrom m with ⟨block', hyields⟩ | ⟨e, hfails⟩
  · rw [ending_of_yields hyields] at h
    cases h
    exact hyields
  · rw [ending_of_fails hfails] at h
    cases h

theorem ending_error_iff : m.ending s seenFrom = .error e ↔ m.Fails s seenFrom e := by
  refine ⟨fun h => ?_, ending_of_fails⟩
  rcases yields_or_fails s seenFrom m with ⟨block', hyields⟩ | ⟨e', hfails⟩
  · rw [ending_of_yields hyields] at h
    cases h
  · rw [ending_of_fails hfails] at h
    cases h
    exact hfails

/-! ## Some meetings -/

theorem steady_allRecords (s : Search) (seenFrom : Option Path) (ms : List Meeting) :
    Steady (allRecords s seenFrom ms) := by
  induction ms with
  | nil => exact .pure _
  | cons m rest ih => exact .bind (m.steady_records s seenFrom) fun _ => .bind ih fun _ => .pure _

/-- The first meeting that fails ends all. -/
theorem allRecords_cons (m : Meeting) (rest : List Meeting) :
    (allRecords s seenFrom (m :: rest)).start.1 = (m.ending s seenFrom).bind fun first =>
      (allRecords s seenFrom rest).start.1.map (first ++ ·) := by
  rw [allRecords, Logged.start, run_bind, ending, Logged.start]
  obtain ⟨first, next⟩ := (ExceptT.run (m.records s seenFrom)).run []
  cases first with
  | error e => rfl
  | ok first =>
    have hrest := steady_allRecords s seenFrom rest next
    simp only [run_bind, ← hrest]
    obtain ⟨others, last⟩ := (ExceptT.run (allRecords s seenFrom rest)).run next
    cases others <;> rfl

/-- Some meetings end with all their records if none of them fails. -/
theorem allRecords_ok_iff {ms : List Meeting} :
    (allRecords s seenFrom ms).start.1 = .ok records ↔
      ∃ blocks, List.Forall₂ (Meeting.Yields s seenFrom) ms blocks ∧ records = blocks.flatten := by
  induction ms generalizing records with
  | nil =>
    constructor
    · intro h
      cases h
      exact ⟨[], .nil, rfl⟩
    · rintro ⟨blocks, hblocks, rfl⟩
      cases hblocks
      rfl
  | cons m rest ih =>
    rw [allRecords_cons]
    constructor
    · intro h
      cases hending : m.ending s seenFrom with
      | error e => simp [hending, Except.bind] at h
      | ok block =>
        cases hrest : (allRecords s seenFrom rest).start.1 with
        | error e => simp [hending, hrest, Except.bind, Except.map] at h
        | ok others =>
          obtain ⟨blocks, hblocks, rfl⟩ := ih.1 hrest
          simp only [hending, hrest, Except.bind, Except.map, Except.ok.injEq] at h
          exact ⟨block :: blocks, .cons (ending_ok_iff.1 hending) hblocks, h.symm⟩
    · rintro ⟨blocks, hblocks, rfl⟩
      cases hblocks with
      | @cons _ block _ blocks hfirst hblocks =>
        rw [ending_of_yields hfirst, ih.2 ⟨blocks, hblocks, rfl⟩]
        rfl

/-- Some meetings end with the failure of the first one that fails. -/
theorem allRecords_error_iff {ms : List Meeting} :
    (allRecords s seenFrom ms).start.1 = .error e ↔
      ∃ done m rest, ms = done ++ m :: rest ∧
        (∀ first ∈ done, ∃ block, first.Yields s seenFrom block) ∧ m.Fails s seenFrom e := by
  induction ms with
  | nil =>
    constructor
    · intro h
      cases h
    · rintro ⟨done, m, rest, h, -⟩
      simp at h
  | cons m rest ih =>
    rw [allRecords_cons]
    constructor
    · intro h
      cases hending : m.ending s seenFrom with
      | error e' =>
        rw [hending] at h
        cases h
        exact ⟨[], m, rest, rfl, nofun, ending_error_iff.1 hending⟩
      | ok block =>
        cases hrest : (allRecords s seenFrom rest).start.1 with
        | ok others => simp [hending, hrest, Except.bind, Except.map] at h
        | error e' =>
          simp only [hending, hrest, Except.bind, Except.map, Except.error.injEq] at h
          subst h
          obtain ⟨done, m', rest', rfl, hdone, hfails⟩ := ih.1 hrest
          refine ⟨m :: done, m', rest', rfl, ?_, hfails⟩
          exact List.forall_mem_cons.2 ⟨⟨block, ending_ok_iff.1 hending⟩, hdone⟩
    · rintro ⟨done, m', rest', heq, hdone, hfails⟩
      cases done with
      | nil =>
        cases heq
        rw [ending_of_fails hfails]
        rfl
      | cons first done =>
        cases heq
        obtain ⟨⟨block, hfirst⟩, hdone⟩ := List.forall_mem_cons.1 hdone
        rw [ending_of_yields hfirst, ih.2 ⟨done, m', rest', rfl, hdone, hfails⟩]
        rfl

/-- Only how a meeting ends counts for those that it stands among. -/
theorem allRecords_congr {m m' : Meeting} (h : m'.ending s seenFrom = m.ending s seenFrom)
    (done rest : List Meeting) : (allRecords s seenFrom (done ++ m' :: rest)).start.1 =
      (allRecords s seenFrom (done ++ m :: rest)).start.1 := by
  induction done with
  | nil => rw [List.nil_append, List.nil_append, allRecords_cons, allRecords_cons, h]
  | cons first done ih =>
    rw [List.cons_append, List.cons_append, allRecords_cons, allRecords_cons, ih]

end Meeting

/-! ## A walk -/

namespace Sight

variable {s : Search} {ignored : List String} {seenFrom : Option Path} {root : Path}
  {sight : Sight} {e : Failure} {records : List EndpointRecord}

/-- How a walk from a path on ends. -/
def ending (s : Search) (ignored : List String) (seenFrom : Option Path) (root : Path)
    (sight : Sight) : Except Failure (List EndpointRecord) :=
  (walk s ignored seenFrom [.look root.toString root sight]).start.1

theorem walk_look (s : Search) (ignored : List String) (seenFrom : Option Path) (root : Path)
    (sight : Sight) : walk s ignored seenFrom [.look root.toString root sight] =
      Meeting.allRecords s seenFrom (sight.met ignored root) := by
  rw [walk_eq]
  simp [Task.meetings, met]

theorem ending_ok_iff : sight.ending s ignored seenFrom root = .ok records ↔
    ∃ blocks, List.Forall₂ (Meeting.Yields s seenFrom) (sight.met ignored root) blocks ∧
      records = blocks.flatten := by
  rw [ending, walk_look]
  exact Meeting.allRecords_ok_iff

theorem ending_error_iff : sight.ending s ignored seenFrom root = .error e ↔
    ∃ done m rest, sight.met ignored root = done ++ m :: rest ∧
      (∀ first ∈ done, ∃ block, first.Yields s seenFrom block) ∧ m.Fails s seenFrom e := by
  rw [ending, walk_look]
  exact Meeting.allRecords_error_iff

end Sight

/-- The catalog of a disk ends like a walk of what the disk shows. -/
theorem Disk.catalog_ending (d : Disk) (s : Search) (ignored : List String)
    (seenFrom : Option Path) (root : Path) (before : Log) :
    ((ExceptT.run (d.catalog s ignored seenFrom root)).run before).1 =
      (d.sight root).ending s ignored seenFrom root := by
  have hsteady := Meeting.steady_allRecords s seenFrom ((d.sight root).met ignored root) before
  rw [catalog_eq_walk, Sight.ending, Sight.walk_look, run_bind, ← hsteady]
  obtain ⟨ending, next⟩ := (ExceptT.run (Meeting.allRecords s seenFrom _)).run before
  cases ending <;> rfl

end EndpointCatalog
