/-
EndpointCatalog.Proofs.FileTree.Following — where walks along links lead.

* `Leads`: some names lead from a place to a place, wherever links on the way
  point; names that are missing stand for themselves. It is what `follow` and
  `realPlaceFrom` compute while there are links enough.
* `Reaches`: the same, with nothing missing on the way.
* `Kept`: a tree still has the directories of another one, and those of its
  links that reach a directory there. Such a tree leads to the same
  directories (`Kept.follow`).
-/
import EndpointCatalog.FileTree.Disk
import EndpointCatalog.Proofs.FileTree

namespace EndpointCatalog.Disk

open FileNode

/-- Where the walk along the target of a link starts. -/
def targetStart (place : List String) (target : String) : List String :=
  if (Path.ofString target).isAbsolute then [] else place

/-- The places that some names lead to from a place. -/
inductive Leads (root : FileNode) : List String → List String → List String → Prop where
  | here (place : List String) : Leads root place [] place
  | up {place rest reached : List String} : Leads root place.dropLast rest reached →
      Leads root place (".." :: rest) reached
  | down {place rest reached : List String} {name : String} : name ≠ ".." →
      (∀ target, root.kindAt (place ++ [name]) ≠ some (.link target)) →
      Leads root (place ++ [name]) rest reached → Leads root place (name :: rest) reached
  | link {place rest reached : List String} {name target : String} : name ≠ ".." →
      root.kindAt (place ++ [name]) = some (.link target) →
      Leads root (targetStart place target) ((Path.ofString target).parts ++ rest) reached →
      Leads root place (name :: rest) reached

/-- The places that some names lead to with directories all the way, and a number of links. -/
inductive Reaches (root : FileNode) : Nat → List String → List String → List String → Prop where
  | here {place : List String} : root.kindAt place = some .directory →
      Reaches root 0 place [] place
  | up {links : Nat} {place rest reached : List String} :
      Reaches root links place.dropLast rest reached →
      Reaches root links place (".." :: rest) reached
  | down {links : Nat} {place rest reached : List String} {name : String} : name ≠ ".." →
      root.kindAt (place ++ [name]) = some .directory →
      Reaches root links (place ++ [name]) rest reached →
      Reaches root links place (name :: rest) reached
  | link {links : Nat} {place rest reached : List String} {name target : String} :
      name ≠ ".." → root.kindAt (place ++ [name]) = some (.link target) →
      Reaches root links (targetStart place target) ((Path.ofString target).parts ++ rest) reached →
      Reaches root (links + 1) place (name :: rest) reached

variable {root first : FileNode} {place names more reached other : List String}

/-! ## Leading -/

theorem Leads.unique (h : Leads root place names reached) (h' : Leads root place names other) :
    reached = other := by
  induction h with
  | here => cases h'; rfl
  | up _ ih =>
    cases h' with
    | up h' => exact ih h'
    | down hname => exact absurd rfl hname
    | link hname => exact absurd rfl hname
  | down hname hno _ ih =>
    cases h' with
    | up => exact absurd rfl hname
    | down _ _ h' => exact ih h'
    | link _ hkind => exact absurd hkind (hno _)
  | link hname hkind _ ih =>
    cases h' with
    | up => exact absurd rfl hname
    | down _ hno => exact absurd hkind (hno _)
    | link _ hkind' h' =>
      rw [hkind] at hkind'
      cases hkind'
      exact ih h'

theorem Leads.split (h : Leads root place (names ++ more) other) :
    ∃ reached, Leads root place names reached ∧ Leads root reached more other := by
  generalize hall : names ++ more = all at h
  induction h generalizing names with
  | here place =>
    obtain ⟨rfl, rfl⟩ := List.append_eq_nil_iff.1 hall
    exact ⟨place, .here place, .here place⟩
  | @up place rest _ h ih =>
    cases names with
    | nil =>
      rw [List.nil_append] at hall
      refine ⟨place, .here place, ?_⟩
      rw [hall]
      exact .up h
    | cons name names =>
      rw [List.cons_append] at hall
      cases hall
      obtain ⟨reached, hnames, hmore⟩ := ih rfl
      exact ⟨reached, .up hnames, hmore⟩
  | @down place rest _ name hname hno h ih =>
    cases names with
    | nil =>
      rw [List.nil_append] at hall
      refine ⟨place, .here place, ?_⟩
      rw [hall]
      exact .down hname hno h
    | cons _ names =>
      rw [List.cons_append] at hall
      cases hall
      obtain ⟨reached, hnames, hmore⟩ := ih rfl
      exact ⟨reached, .down hname hno hnames, hmore⟩
  | @link place rest _ name target hname hkind h ih =>
    cases names with
    | nil =>
      rw [List.nil_append] at hall
      refine ⟨place, .here place, ?_⟩
      rw [hall]
      exact .link hname hkind h
    | cons _ names =>
      rw [List.cons_append] at hall
      cases hall
      obtain ⟨reached, hnames, hmore⟩ := ih (List.append_assoc ..)
      exact ⟨reached, .link hname hkind hnames, hmore⟩

/-- Where names lead depends on the links only. -/
theorem Leads.of_links (h : Leads first place names reached)
    (hlinks : ∀ q target,
      root.kindAt q = some (.link target) ↔ first.kindAt q = some (.link target)) :
    Leads root place names reached := by
  induction h with
  | here place => exact .here place
  | up _ ih => exact .up ih
  | down hname hno _ ih => exact .down hname (fun target h => hno target ((hlinks _ _).1 h)) ih
  | link hname hkind _ ih => exact .link hname ((hlinks _ _).2 hkind) ih

/-! ## Following -/

theorem kindAt_of_at? {node : Option FileNode} (h : root.at? place = node) :
    root.kindAt place = node.map kind := by
  rw [kindAt, h]

theorem kindAt_root {kind : FileKind} {name : String}
    (h : root.kindAt (place ++ [name]) = some kind) : root.kindAt [] = some .directory := by
  have hthere : (root.kindAt ([] ++ (place ++ [name]))).isSome := by
    rw [List.nil_append, h]
    rfl
  exact kindAt_of_append hthere (by simp)

theorem kindAt_dropLast (h : root.kindAt place = some .directory) :
    root.kindAt place.dropLast = some .directory := by
  rcases List.eq_nil_or_concat place with rfl | ⟨above, name, rfl⟩
  · exact h
  · rw [List.concat_eq_append] at h
    rw [List.concat_eq_append, List.dropLast_concat]
    exact kindAt_of_append (by rw [h]; rfl) (List.cons_ne_nil name [])

/-- The walk along the target of a link in a directory starts in a directory. -/
theorem kindAt_targetStart {kind : FileKind} {name target : String}
    (hplace : root.kindAt place = some .directory)
    (hkind : root.kindAt (place ++ [name]) = some kind) :
    root.kindAt (targetStart place target) = some .directory := by
  unfold targetStart
  split
  · exact kindAt_root hkind
  · exact hplace

theorem follow_down {links : Nat} {name : String} (hname : name ≠ "..")
    (hkind : root.kindAt (place ++ [name]) = some .directory) :
    follow root links place (name :: names) = follow root links (place ++ [name]) names := by
  rw [follow, if_neg hname]
  obtain ⟨node, hnode, hdirectory⟩ := Option.map_eq_some_iff.1 hkind
  obtain ⟨es, rfl⟩ := kind_eq_directory_iff.1 hdirectory
  rw [hnode]

theorem follow_link {links : Nat} {name target : String} (hname : name ≠ "..")
    (hkind : root.kindAt (place ++ [name]) = some (.link target)) :
    follow root (links + 1) place (name :: names) =
      follow root links (targetStart place target) ((Path.ofString target).parts ++ names) := by
  rw [follow, if_neg hname]
  obtain ⟨node, hnode, hlink⟩ := Option.map_eq_some_iff.1 hkind
  obtain rfl := kind_eq_link_iff.1 hlink
  rw [hnode]
  rfl

/-- A walk ends where its names lead. -/
theorem leads_of_follow {links : Nat} {node : Option FileNode}
    (h : follow root links place names = .ok (reached, node)) :
    Leads root place names reached ∧ node = root.at? reached := by
  fun_induction follow root links place names with
  | case1 links place =>
    cases h
    exact ⟨.here _, rfl⟩
  | case2 links place rest ih =>
    obtain ⟨hrest, hnode⟩ := ih h
    exact ⟨.up hrest, hnode⟩
  | case3 links place name rest hname hnone hempty =>
    cases h
    rw [List.isEmpty_iff.1 hempty]
    refine ⟨.down hname ?_ (.here _), hnone.symm⟩
    intro target htarget
    rw [kindAt_of_at? hnone] at htarget
    cases htarget
  | case4 => cases h
  | case5 links place name rest hname es hdirectory ih =>
    obtain ⟨hrest, hnode⟩ := ih h
    refine ⟨.down hname ?_ hrest, hnode⟩
    intro target htarget
    rw [kindAt_of_at? hdirectory] at htarget
    cases htarget
  | case6 links place name rest hname content hfile hempty =>
    cases h
    rw [List.isEmpty_iff.1 hempty]
    refine ⟨.down hname ?_ (.here _), hfile.symm⟩
    intro target htarget
    rw [kindAt_of_at? hfile] at htarget
    cases htarget
  | case7 => cases h
  | case8 => cases h
  | case9 place name rest hname target hlink fewer path ih =>
    obtain ⟨hrest, hnode⟩ := ih h
    exact ⟨.link hname (kindAt_of_at? hlink) hrest, hnode⟩

/-- A walk that ends at a directory has gone by directories. -/
theorem reaches_of_follow {links : Nat} {es : List (String × FileNode)}
    (h : follow root links place names = .ok (reached, some (.directory es))) :
    ∃ used spare, links = used + spare ∧ Reaches root used place names reached := by
  fun_induction follow root links place names with
  | case1 links place =>
    injection h with h
    injection h with hplace hnode
    subst hplace
    exact ⟨0, links, (Nat.zero_add links).symm, .here (kindAt_of_at? hnode)⟩
  | case2 links place rest ih =>
    obtain ⟨used, spare, hlinks, hrest⟩ := ih h
    exact ⟨used, spare, hlinks, .up hrest⟩
  | case3 => cases h
  | case4 => cases h
  | case5 links place name rest hname es hdirectory ih =>
    obtain ⟨used, spare, hlinks, hrest⟩ := ih h
    exact ⟨used, spare, hlinks, .down hname (kindAt_of_at? hdirectory) hrest⟩
  | case6 => cases h
  | case7 => cases h
  | case8 => cases h
  | case9 place name rest hname target hlink fewer path ih =>
    obtain ⟨used, spare, hlinks, hrest⟩ := ih h
    exact ⟨used + 1, spare, by omega, .link hname (kindAt_of_at? hlink) hrest⟩

/-- From a directory a walk ends at another directory, or at a name in one that is free or a
file. -/
theorem ends_of_follow {links : Nat} {node : Option FileNode}
    (h : follow root links place names = .ok (reached, node))
    (hplace : root.kindAt place = some .directory) :
    root.kindAt reached = some .directory ∨
      (root.kindAt reached = none ∨ root.kindAt reached = some .file) ∧
        ∃ name, ∃ above, reached = above ++ [name] ∧ root.kindAt above = some .directory := by
  fun_induction follow root links place names with
  | case1 links place =>
    cases h
    exact .inl hplace
  | case2 links place rest ih =>
    exact ih h (kindAt_dropLast hplace)
  | case3 links place name rest hname hnone hempty =>
    cases h
    exact .inr ⟨.inl (kindAt_of_at? hnone), name, place, rfl, hplace⟩
  | case4 => cases h
  | case5 links place name rest hname es hdirectory ih =>
    exact ih h (kindAt_of_at? hdirectory)
  | case6 links place name rest hname content hfile hempty =>
    cases h
    exact .inr ⟨.inr (kindAt_of_at? hfile), name, place, rfl, hplace⟩
  | case7 => cases h
  | case8 => cases h
  | case9 place name rest hname target hlink fewer path ih =>
    exact ih h (kindAt_targetStart hplace (kindAt_of_at? hlink))

namespace Reaches

variable {links : Nat}

theorem kindAt_eq (h : Reaches root links place names reached) :
    root.kindAt reached = some .directory := by
  induction h with
  | here hplace => exact hplace
  | up _ ih => exact ih
  | down _ _ _ ih => exact ih
  | link _ _ _ ih => exact ih

theorem leads (h : Reaches root links place names reached) : Leads root place names reached := by
  induction h with
  | here => exact .here _
  | up _ ih => exact .up ih
  | down hname hkind _ ih =>
    refine .down hname ?_ ih
    intro target htarget
    rw [hkind] at htarget
    cases htarget
  | link hname hkind _ ih => exact .link hname hkind ih

/-- A walk over names goes on from where some first names reach, with the links that are left. -/
theorem follow_append (h : Reaches root links place names reached) (spare : Nat)
    (more : List String) :
    follow root (links + spare) place (names ++ more) = follow root spare reached more := by
  induction h with
  | here => rw [Nat.zero_add, List.nil_append]
  | up _ ih =>
    rw [List.cons_append, follow, if_pos rfl]
    exact ih
  | @down links place rest _ name hname hkind _ ih =>
    rw [List.cons_append, follow_down hname hkind]
    exact ih
  | @link links place rest _ name target hname hkind _ ih =>
    rw [List.cons_append, Nat.add_right_comm, follow_link hname hkind, ← List.append_assoc]
    exact ih

/-- Where names reach a directory, the first of them do. -/
theorem split (h : Reaches root links place (names ++ more) reached)
    (hplace : root.kindAt place = some .directory) :
    ∃ used first, Reaches root used place names first := by
  generalize hall : names ++ more = all at h
  induction h generalizing names with
  | @here place hkind =>
    obtain ⟨rfl, rfl⟩ := List.append_eq_nil_iff.1 hall
    exact ⟨0, place, .here hkind⟩
  | @up links place rest _ _ ih =>
    cases names with
    | nil => exact ⟨0, place, .here hplace⟩
    | cons _ names =>
      rw [List.cons_append] at hall
      cases hall
      obtain ⟨used, first, hfirst⟩ := ih (kindAt_dropLast hplace) rfl
      exact ⟨used, first, .up hfirst⟩
  | @down links place rest _ name hname hkind _ ih =>
    cases names with
    | nil => exact ⟨0, place, .here hplace⟩
    | cons _ names =>
      rw [List.cons_append] at hall
      cases hall
      obtain ⟨used, first, hfirst⟩ := ih hkind rfl
      exact ⟨used, first, .down hname hkind hfirst⟩
  | @link links place rest _ name target hname hkind _ ih =>
    cases names with
    | nil => exact ⟨0, place, .here hplace⟩
    | cons _ names =>
      rw [List.cons_append] at hall
      cases hall
      obtain ⟨used, first, hfirst⟩ := ih (kindAt_targetStart hplace hkind) (List.append_assoc ..)
      exact ⟨used + 1, first, .link hname hkind hfirst⟩

end Reaches

/-- The real place of a path is where its names lead. -/
theorem leads_of_realPlaceFrom {strict : Bool} {links : Nat}
    (h : realPlaceFrom root strict links place names = .ok reached) :
    Leads root place names reached := by
  fun_induction realPlaceFrom root strict links place names with
  | case1 => cases h; exact .here _
  | case2 links place rest ih => exact .up (ih h)
  | case3 => cases h
  | case4 links place name rest hname content hfile _ ih =>
    refine .down hname ?_ (ih h)
    intro target htarget
    have hplace : root.kindAt place = some .directory :=
      kindAt_of_append (by rw [htarget]; rfl) (List.cons_ne_nil name [])
    rw [kindAt_of_at? hfile] at hplace
    cases hplace
  | case5 => cases h
  | case6 place name rest hname target hlink fewer path _ ih =>
    exact .link hname (kindAt_of_at? hlink) (ih h)
  | case7 links place name rest hname _ hno ih =>
    refine .down hname ?_ (ih h)
    intro target htarget
    obtain ⟨node, hnode, hlink⟩ := Option.map_eq_some_iff.1 htarget
    rw [kind_eq_link_iff.1 hlink] at hnode
    exact hno target hnode

/-! ## Keeping -/

/-- A tree still has the directories of the first one, and those links of it that reach a directory
there. -/
structure Kept (first root : FileNode) : Prop where
  directories : ∀ place, first.kindAt place = some .directory → root.kindAt place = some .directory
  links : ∀ place name target links reached,
    first.kindAt (place ++ [name]) = some (.link target) →
    Reaches first links (targetStart place target) (Path.ofString target).parts reached →
    root.kindAt (place ++ [name]) = some (.link target)

namespace Kept

theorem refl (root : FileNode) : Kept root root :=
  ⟨fun _ h => h, fun _ _ _ _ _ h _ => h⟩

/-- Names reach the same directories. -/
theorem reaches (h : Kept first root) {links : Nat} (hr : Reaches first links place names reached) :
    Reaches root links place names reached := by
  induction hr with
  | here hplace => exact .here (h.directories _ hplace)
  | up _ ih => exact .up ih
  | down hname hkind _ ih => exact .down hname (h.directories _ hkind) ih
  | @link links place rest _ name target hname hkind hrest ih =>
    have hplace : first.kindAt place = some .directory :=
      kindAt_of_append (by rw [hkind]; rfl) (List.cons_ne_nil name [])
    obtain ⟨used, reached, hreached⟩ := hrest.split (kindAt_targetStart hplace hkind)
    exact .link hname (h.links _ _ _ _ _ hkind hreached) ih

theorem trans {last : FileNode} (h : Kept first root) (h' : Kept root last) : Kept first last :=
  ⟨fun q hq => h'.directories q (h.directories q hq),
    fun q name target links reached hkind hreached =>
      h'.links q name target links reached (h.links q name target links reached hkind hreached)
        (h.reaches hreached)⟩

/-- A change at a name that is no directory, and no link to a directory of the first tree. -/
theorem change (h : Kept first root) {next : FileNode} {name : String}
    (hframe : ∀ q, ¬ place ++ [name] <+: q → next.kindAt q = root.kindAt q)
    (hdirectory : root.kindAt (place ++ [name]) ≠ some .directory)
    (hlink : ∀ target links reached, root.kindAt (place ++ [name]) = some (.link target) →
      Reaches root links (targetStart place target) (Path.ofString target).parts reached →
      first.kindAt reached ≠ some .directory) :
    Kept first next := by
  -- below the changed name there was nothing
  have hbelow : ∀ q kind, place ++ [name] <+: q → root.kindAt q = some kind →
      q = place ++ [name] := by
    rintro q kind ⟨more, rfl⟩ hkind
    cases more with
    | nil => exact List.append_nil _
    | cons next rest =>
      exact absurd (kindAt_of_append (by rw [hkind]; rfl) (List.cons_ne_nil next rest)) hdirectory
  constructor
  · intro q hq
    have hroot := h.directories q hq
    rw [hframe q, hroot]
    intro hprefix
    rw [hbelow q _ hprefix hroot] at hroot
    exact hdirectory hroot
  · intro above last target links reached hkind hreached
    have hroot := h.links above last target links reached hkind hreached
    rw [hframe _, hroot]
    intro hprefix
    have heq := hbelow _ _ hprefix hroot
    obtain ⟨rfl, hlast⟩ := List.append_inj' heq rfl
    cases hlast
    exact hlink target links reached hroot (h.reaches hreached) hreached.kindAt_eq

/-- A change at a place that is free in the first tree. -/
theorem change_free (h : Kept first root) {next : FileNode}
    (hframe : ∀ q, ¬ place <+: q → next.kindAt q = root.kindAt q)
    (hfree : first.kindAt place = none) : Kept first next := by
  have hnot : ∀ q kind, first.kindAt q = some kind → ¬ place <+: q := by
    rintro q kind hkind ⟨more, rfl⟩
    rw [kindAt_append_of_none hfree] at hkind
    cases hkind
  constructor
  · intro q hq
    rw [hframe q (hnot q _ hq)]
    exact h.directories q hq
  · intro above last target links reached hkind hreached
    rw [hframe _ (hnot _ _ hkind)]
    exact h.links above last target links reached hkind hreached

end Kept

/-- A path leads to the same directory. -/
theorem place_of_kept {first d : Disk} {p : Path} {es : List (String × FileNode)}
    (hcurrent : d.current = first.current) (hkept : Kept first.root d.root)
    (hplace : first.place p = .ok (reached, some (.directory es))) :
    ∃ es, d.place p = .ok (reached, some (.directory es)) := by
  obtain ⟨used, spare, hlinks, hreaches⟩ := reaches_of_follow hplace
  have hreached := hkept.reaches hreaches
  obtain ⟨node, hnode, hdirectory⟩ := Option.map_eq_some_iff.1 hreached.kindAt_eq
  obtain ⟨entries, rfl⟩ := kind_eq_directory_iff.1 hdirectory
  have hstart : d.startOf p = first.startOf p := by
    unfold startOf
    rw [hcurrent]
  have hfollow := hreached.follow_append spare []
  rw [List.append_nil, follow, hnode] at hfollow
  refine ⟨entries, ?_⟩
  rw [Disk.place, hstart, hlinks]
  exact hfollow

end EndpointCatalog.Disk
