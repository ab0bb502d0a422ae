/-
EndpointCatalog.Proofs.Walking.Contract — what the walk of a source tree
promises.

`walk_contract` says of every tree, whatever can be read and listed in it:

* the catalog is that of all files, one after the other, or the failure of the
  first file or directory that fails;
* another text in one file changes the records of this file and no others;
* seen from the directory where the walk begins, a record names the path of
  its file.

A script that does not parse has no records and does not end the walk, with
one exception: an empty substitution in a template literal
(`emptySubstitution_ends_catalog`).
-/
import EndpointCatalog.Proofs.Literals
import EndpointCatalog.Proofs.Walking.Change
import EndpointCatalog.Proofs.Walking.Ending

namespace EndpointCatalog

/-! ## How records name their file -/

theorem sourceFile_of_ofMatch? {dialect : Dialect} {profile : Profile} {resource : Resource}
    {sourceFile : Text} {found : EndpointMatch} {record : EndpointRecord}
    (h : EndpointRecord.ofMatch? dialect profile resource sourceFile found = some record) :
    record.sourceFile = sourceFile := by
  simp only [EndpointRecord.ofMatch?, Option.bind_eq_bind, Option.bind_eq_some_iff] at h
  obtain ⟨metadata, -, h⟩ := h
  cases h
  rfl

theorem Meeting.sourceFile_of_yields {s : Search} {seenFrom : Option Path} {p label : Path}
    {text : Except String (List Char)} {block : List EndpointRecord}
    (hlabel : sourceLabel seenFrom p = .ok label)
    (h : (Meeting.source p text).Yields s seenFrom block) :
    ∀ record ∈ block, record.sourceFile = Text.ofString label.toString := by
  have hall : ∀ {dialect : Dialect} {found : List EndpointMatch} {label' : Path},
      sourceLabel seenFrom p = .ok label' →
      found.mapM (record? s dialect p label') = some block →
      ∀ record ∈ block, record.sourceFile = Text.ofString label.toString := by
    intro dialect found label' hlabel' hrecords record hrecord
    rw [hlabel] at hlabel'
    cases hlabel'
    have hforall := mapM_eq_some_iff.1 hrecords
    clear hrecords h
    induction hforall with
    | nil => cases hrecord
    | cons hfirst _ ih =>
      rcases List.mem_cons.1 hrecord with rfl | hrecord
      · exact sourceFile_of_ofMatch? hfirst
      · exact ih hrecord
  cases h with
  | skipped => nofun
  | script hlabel' _ _ _ hrecords => exact hall hlabel' hrecords
  | typed hlabel' _ _ hrecords => exact hall hlabel' hrecords
  | unknown => nofun

theorem sourceLabel_descend (root : Path) (names : List String) :
    sourceLabel (some root) (root.descend names) = .ok ⟨.relative, names⟩ := by
  simp only [sourceLabel, Path.relativeTo?_descend]

/-! ## The contract -/

/-- What the walk of a tree from a path on promises. -/
structure WalkContract (s : Search) (ignored : List String) (root : Path) (sight : Sight) :
    Prop where
  /-- The catalog of a disk that shows this tree is what the walk ends with. -/
  catalog : ∀ (d : Disk) (seenFrom : Option Path) (before : Log), d.sight root = sight →
    ((ExceptT.run (d.catalog s ignored seenFrom root)).run before).1 =
      sight.ending s ignored seenFrom root
  complete : ∀ (seenFrom : Option Path) (records : List EndpointRecord),
    sight.ending s ignored seenFrom root = .ok records ↔ ∃ blocks,
      List.Forall₂ (Meeting.Yields s seenFrom) (sight.met ignored root) blocks ∧
        records = blocks.flatten
  broken : ∀ (seenFrom : Option Path) (e : Failure),
    sight.ending s ignored seenFrom root = .error e ↔ ∃ done m rest,
      sight.met ignored root = done ++ m :: rest ∧
        (∀ first ∈ done, ∃ block, first.Yields s seenFrom block) ∧ m.Fails s seenFrom e
  /-- The records of a file stand together, and another text changes nothing but these. -/
  block : ∀ (seenFrom : Option Path) (target : Path) (old : Except String (List Char))
    (records : List EndpointRecord), .source target old ∈ sight.met ignored root →
    sight.ending s ignored seenFrom root = .ok records → ∃ before block after,
      records = before ++ block ++ after ∧
        (Meeting.source target old).Yields s seenFrom block ∧
        ∀ text other, (Meeting.source target (.ok text)).Yields s seenFrom other →
          (sight.overwrite root target text).ending s ignored seenFrom root =
            .ok (before ++ other ++ after)
  /-- A file without records is as good as any other one without records. -/
  silent : ∀ (seenFrom : Option Path) (target : Path) (old : Except String (List Char))
    (text : List Char), .source target old ∈ sight.met ignored root →
    (Meeting.source target old).Yields s seenFrom [] →
    (Meeting.source target (.ok text)).Yields s seenFrom [] →
      (sight.overwrite root target text).ending s ignored seenFrom root =
        sight.ending s ignored seenFrom root
  named : ∀ (target : Path) (text : Except String (List Char)),
    .source target text ∈ sight.met ignored root →
    (∃ label, sourceLabel (some root) target = .ok label) ∧
      ∀ block, (Meeting.source target text).Yields s (some root) block →
        ∀ record ∈ block, root ++ Path.ofString record.sourceFile.toString = target

theorem forall₂_append_cons_iff {α β : Type} {R : α → β → Prop} {done rest : List α} {a : α}
    {bs : List β} : List.Forall₂ R (done ++ a :: rest) bs ↔ ∃ before b after,
      bs = before ++ b :: after ∧ List.Forall₂ R done before ∧ R a b ∧
        List.Forall₂ R rest after := by
  induction done generalizing bs with
  | nil =>
    rw [List.nil_append, List.forall₂_cons_left_iff]
    constructor
    · rintro ⟨b, after, hb, hafter, rfl⟩
      exact ⟨[], b, after, rfl, .nil, hb, hafter⟩
    · rintro ⟨before, b, after, rfl, hbefore, hb, hafter⟩
      cases hbefore
      exact ⟨b, after, hb, hafter, rfl⟩
  | cons first done ih =>
    rw [List.cons_append, List.forall₂_cons_left_iff]
    constructor
    · rintro ⟨b', bs', hb', hbs', rfl⟩
      obtain ⟨before, b, after, rfl, hbefore, hb, hafter⟩ := ih.1 hbs'
      exact ⟨b' :: before, b, after, rfl, .cons hb' hbefore, hb, hafter⟩
    · rintro ⟨before, b, after, rfl, hbefore, hb, hafter⟩
      cases hbefore with
      | @cons _ b' _ before hb' hbefore =>
        exact ⟨b', _, hb', ih.2 ⟨before, b, after, rfl, hbefore, hb, hafter⟩, rfl⟩

namespace Sight

variable {s : Search} {ignored : List String} {seenFrom : Option Path} {root target : Path}
  {sight : Sight} {old : Except String (List Char)} {done rest : List Meeting}

/-- The records of one file among those of a walk, with another text and without. -/
theorem ending_overwrite (h : sight.IsTree)
    (hmet : sight.met ignored root = done ++ .source target old :: rest)
    {records : List EndpointRecord} (hok : sight.ending s ignored seenFrom root = .ok records) :
    ∃ before block after, records = before ++ block ++ after ∧
      (Meeting.source target old).Yields s seenFrom block ∧
      ∀ text other, (Meeting.source target (.ok text)).Yields s seenFrom other →
        (sight.overwrite root target text).ending s ignored seenFrom root =
          .ok (before ++ other ++ after) := by
  obtain ⟨blocks, hblocks, rfl⟩ := ending_ok_iff.1 hok
  rw [hmet] at hblocks
  obtain ⟨before, block, after, rfl, hbefore, hblock, hafter⟩ := forall₂_append_cons_iff.1 hblocks
  refine ⟨before.flatten, block, after.flatten, by simp, hblock, ?_⟩
  intro text other hother
  refine ending_ok_iff.2 ⟨before ++ other :: after, ?_, by simp⟩
  rw [met_overwrite h hmet text]
  exact forall₂_append_cons_iff.2 ⟨before, other, after, rfl, hbefore, hother, hafter⟩

/-- A walk ends alike with two texts in one file if neither of them has records. -/
theorem ending_overwrite_silent (h : sight.IsTree)
    (hmet : sight.met ignored root = done ++ .source target old :: rest) {text : List Char}
    (hold : (Meeting.source target old).Yields s seenFrom [])
    (hnew : (Meeting.source target (.ok text)).Yields s seenFrom []) :
    (sight.overwrite root target text).ending s ignored seenFrom root =
      sight.ending s ignored seenFrom root := by
  rw [ending, walk_look, ending, walk_look, met_overwrite h hmet text, hmet]
  refine Meeting.allRecords_congr ?_ done rest
  rw [Meeting.ending_of_yields hold, Meeting.ending_of_yields hnew]

end Sight

/-- Every walk keeps the contract. -/
theorem walk_contract (s : Search) (ignored : List String) (root : Path) {sight : Sight}
    (h : sight.IsTree) : WalkContract s ignored root sight where
  catalog d seenFrom before hd := by rw [← hd, d.catalog_ending]
  complete _ _ := Sight.ending_ok_iff
  broken _ _ := Sight.ending_error_iff
  block seenFrom target old records hmem hok := by
    obtain ⟨done, rest, hmet⟩ := List.append_of_mem hmem
    exact Sight.ending_overwrite h hmet hok
  silent seenFrom target old text hmem hold hnew := by
    obtain ⟨done, rest, hmet⟩ := List.append_of_mem hmem
    exact Sight.ending_overwrite_silent h hmet hold hnew
  named target text hmem := by
    obtain ⟨names, hne, hnames, rfl⟩ := Sight.exists_names h (List.mem_filterMap.2 ⟨_, hmem, rfl⟩)
    have hlabel := sourceLabel_descend root names
    refine ⟨⟨_, hlabel⟩, fun block hyields record hrecord => ?_⟩
    rw [Meeting.sourceFile_of_yields hlabel hyields record hrecord, Text.toString_ofString,
      Path.ofString_toString_of_names hne hnames, Path.append_relative]

/-- Why a script does not parse. -/
def Estree.stop? (text : List Char) : Option Estree.Stop :=
  match Estree.parse text with
  | .error stop => some stop
  | .ok _ => none

theorem Estree.parse_of_stop? {text : List Char} {stop : Estree.Stop}
    (h : Estree.stop? text = some stop) : Estree.parse text = .error stop := by
  unfold Estree.stop? at h
  split at h
  · next hparse => rw [hparse, Option.some.inj h]
  · cases h

/-- A script that does not parse, beside a directory that cannot be listed. -/
def closedSight : Sight :=
  .directory [("a.js", .file (.ok ['('])), ("lib", .closed "Permission denied")]

theorem met_closedSight : closedSight.met [] ⟨.relative, []⟩ =
    [.source ⟨.relative, ["a.js"]⟩ (.ok ['(']), .closed "./lib" "Permission denied"] := by
  have hsource : ((⟨.relative, []⟩ : Path).child "a.js").language?.isSome = true := by decide
  have hname : Sight.spelledBelow (Path.toString ⟨.relative, []⟩) "lib" = "./lib" := by decide
  have hsorted : [("a.js", Sight.file (.ok ['('])), ("lib", .closed "Permission denied")].Pairwise
      fun a b => decide (a.1 ≤ b.1) = true := by simp
  rw [Sight.met, closedSight, Sight.meetings_directory, Sight.ownSources]
  simp [Visit.sortByName, List.filterMap_cons, Sight.text?, hsource,
    List.mergeSort_of_pairwise hsorted, Sight.meetings, hname]
  rfl

/-- The script is passed over, and the directory ends the walk under the name by which the walk
came to it. -/
theorem walk_contract_closedSight : closedSight.IsTree ∧
    WalkContract ⟨.express, "router"⟩ [] ⟨.relative, []⟩ closedSight ∧
    closedSight.ending ⟨.express, "router"⟩ [] none ⟨.relative, []⟩ =
      .error (.discovery (.fileSystem "./lib" "Permission denied")) := by
  have htree : closedSight.IsTree := by
    refine .directory (by decide) ?_ ?_
    · simp only [List.mem_cons, List.not_mem_nil, or_false, forall_eq_or_imp, forall_eq]
      exact ⟨⟨by decide, by decide, by decide⟩, ⟨by decide, by decide, by decide⟩⟩
    · simp only [List.mem_cons, List.not_mem_nil, or_false, forall_eq_or_imp, forall_eq]
      exact ⟨.file _, .closed _⟩
  have hcontract := walk_contract ⟨.express, "router"⟩ [] ⟨.relative, []⟩ htree
  refine ⟨htree, hcontract, (hcontract.broken none _).2
    ⟨[.source ⟨.relative, ["a.js"]⟩ (.ok ['('])], _, [], met_closedSight, ?_, .closed⟩⟩
  have hread : (Estree.stop? ['(']).any (fun stop => stop ≠ .emptySubstitution) = true := by
    decide +kernel
  obtain ⟨stop, hstop, hother⟩ := (Option.any_eq_true _ _).1 hread
  simp only [List.mem_singleton, forall_eq]
  exact ⟨[], .skipped rfl (by decide) (Estree.parse_of_stop? hstop) (of_decide_eq_true hother)⟩

/-! ### The script that ends a walk -/

/-- A disk with one script, a template literal with nothing between the braces. -/
def substitutionDisk : Disk :=
  { root := .directory [("a.js", .file [0x60, 0x24, 0x7B, 0x7D, 0x60])] }

theorem met_substitutionDisk : (substitutionDisk.sight ⟨.relative, []⟩).met [] ⟨.relative, []⟩ =
    [.source ⟨.relative, ["a.js"]⟩ (substitutionDisk.textAt ⟨.relative, ["a.js"]⟩)] := by
  have hsource : ((⟨.relative, []⟩ : Path).child "a.js").language?.isSome = true := by decide
  have hlist : substitutionDisk.list ⟨.relative, []⟩ = .ok substitutionDisk.root.entries := by cbv
  rw [Disk.sight, hlist, Sight.met]
  simp only [substitutionDisk, FileNode.entries, Disk.sightsBelow, Disk.sightOf]
  rw [Sight.meetings_directory, Sight.ownSources]
  simp [Visit.sortByName, Sight.text?, hsource, Sight.meetings]
  exact ⟨rfl, rfl⟩

/-- The script does not parse, and for this it is not passed over. -/
theorem emptySubstitution_ends_catalog :
    (∃ text stop, substitutionDisk.textAt ⟨.relative, ["a.js"]⟩ = .ok text ∧
      Estree.parse text = .error stop) ∧
    ((ExceptT.run (substitutionDisk.catalog ⟨.express, "router"⟩ [] none ⟨.relative, []⟩)).run
      []).1 = .error .emptySubstitution := by
  have htext : substitutionDisk.textAt ⟨.relative, ["a.js"]⟩ = .ok "`$\x7b\x7d`".toList := by cbv
  have hread : Estree.stop? "`$\x7b\x7d`".toList = some .emptySubstitution := by decide +kernel
  have hstop := Estree.parse_of_stop? hread
  refine ⟨⟨_, _, htext, hstop⟩, ?_⟩
  rw [Disk.catalog_ending]
  refine Sight.ending_error_iff.2 ⟨[], _, [], met_substitutionDisk,
    fun _ hm => absurd hm List.not_mem_nil, ?_⟩
  rw [htext]
  exact .emptySubstitution rfl (by decide) hstop

end EndpointCatalog
