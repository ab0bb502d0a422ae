/-
EndpointCatalog.Proofs.FileTree — what putting and erasing a node changes.

`kindAt` is what stands at a place, apart from contents. A node that is put
below a directory, or erased, changes this at its own place and below it and
nowhere else (`kindAt_put_of_not_below`, `kindAt_erase_of_not_below`).
-/
import EndpointCatalog.FileTree

namespace EndpointCatalog

/-- What a node is, apart from its content. -/
inductive FileKind where
  | file
  | link (target : String)
  | directory
deriving DecidableEq

namespace FileNode

/-- The kind of a node. -/
def kind : FileNode → FileKind
  | file _ => .file
  | link target => .link target
  | directory _ => .directory

/-- The kind of what stands at a place. -/
def kindAt (n : FileNode) (place : List String) : Option FileKind := (n.at? place).map kind

variable {n new : FileNode} {name other : String} {names place more : List String}

theorem kind_eq_directory_iff : n.kind = .directory ↔ ∃ es, n = .directory es := by
  cases n <;> simp [kind]

theorem kind_eq_link_iff {target : String} : n.kind = .link target ↔ n = .link target := by
  cases n <;> simp [kind]

/-! ## Looking up -/

theorem at?_cons : n.at? (name :: names) = (n.entry? name).bind fun child => child.at? names := by
  rw [at?]
  cases n.entry? name <;> rfl

theorem at?_append : n.at? (names ++ more) = (n.at? names).bind fun child => child.at? more := by
  induction names generalizing n with
  | nil => rfl
  | cons name names ih =>
    rw [List.cons_append, at?_cons, at?_cons, Option.bind_assoc]
    congr 1
    funext child
    exact ih

/-- Only a directory has entries. -/
theorem kind_of_entry?_eq_some {child : FileNode} (h : n.entry? name = some child) :
    n.kind = .directory := by
  cases n with
  | directory es => rfl
  | file content => cases h
  | link target => cases h

theorem kindAt_nil : n.kindAt [] = some n.kind := rfl

theorem kindAt_cons : n.kindAt (name :: names) =
    (n.entry? name).bind fun child => child.kindAt names := by
  rw [kindAt, at?_cons]
  cases n.entry? name <;> rfl

theorem kindAt_append : n.kindAt (names ++ more) =
    (n.at? names).bind fun child => child.kindAt more := by
  rw [kindAt, at?_append]
  cases n.at? names <;> rfl

/-- Everything stands in a directory. -/
theorem kindAt_of_append (h : (n.kindAt (names ++ more)).isSome) (hmore : more ≠ []) :
    n.kindAt names = some .directory := by
  rw [kindAt_append] at h
  obtain ⟨kind, h⟩ := Option.isSome_iff_exists.1 h
  obtain ⟨child, hchild, h⟩ := Option.bind_eq_some_iff.1 h
  cases more with
  | nil => exact absurd rfl hmore
  | cons name rest =>
    rw [kindAt_cons] at h
    obtain ⟨entry, hentry, -⟩ := Option.bind_eq_some_iff.1 h
    rw [kindAt, hchild, Option.map_some, kind_of_entry?_eq_some hentry]

theorem kindAt_append_of_none (h : n.kindAt names = none) : n.kindAt (names ++ more) = none := by
  rw [kindAt_append, Option.map_eq_none_iff.1 h]
  rfl

/-! ## Putting a node -/

theorem entry?_putEntry (es : List (String × FileNode)) :
    entry? (directory (putEntry name new es)) other =
      if other = name then some new else entry? (directory es) other := by
  induction es with
  | nil =>
    by_cases h : other = name
    · subst h
      simp [entries, entry?, putEntry]
    · simp [entries, entry?, putEntry, h, Ne.symm h]
  | cons e rest ih =>
    simp only [entries, entry?, putEntry] at ih ⊢
    by_cases he : e.1 = name
    · by_cases h : other = name
      · subst h
        simp [he]
      · simp [he, h, Ne.symm h]
    · by_cases h : e.1 = other
      · have hne : other ≠ name := fun heq => he (h.trans heq)
        simp [h, hne]
      · simp only [he, if_false, List.find?_cons, h, decide_false, ih]

theorem entry?_put : entry? (n.put (name :: names) new) other =
    if other = name then some (((n.entry? name).getD (.directory [])).put names new)
    else n.entry? other := by
  rw [put, entry?_putEntry]
  cases n <;> rfl

theorem at?_put_append : (n.put names new).at? (names ++ more) = new.at? more := by
  induction names generalizing n with
  | nil => rfl
  | cons name names ih =>
    rw [List.cons_append, at?_cons, entry?_put, if_pos rfl]
    exact ih

theorem at?_put_self : (n.put names new).at? names = some new := by
  have h : (n.put names new).at? (names ++ []) = new.at? [] := at?_put_append
  rw [List.append_nil] at h
  exact h

/-- A node that is put into a directory changes nothing but what is at its place and below. -/
theorem kindAt_put_of_not_below (hparent : n.kindAt names.dropLast = some .directory)
    (h : ¬ names <+: place) : (n.put names new).kindAt place = n.kindAt place := by
  induction names generalizing n place with
  | nil => exact absurd List.nil_prefix h
  | cons name names ih =>
    cases place with
    | nil =>
      have hn : n.kind = .directory := by
        cases names with
        | nil => exact Option.some.inj hparent
        | cons next rest =>
          rw [List.dropLast_cons_cons, kindAt_cons] at hparent
          obtain ⟨child, hchild, -⟩ := Option.bind_eq_some_iff.1 hparent
          exact kind_of_entry?_eq_some hchild
      rw [kindAt_nil, kindAt_nil, hn]
      rfl
    | cons other place =>
      rw [kindAt_cons, kindAt_cons, entry?_put]
      by_cases hother : other = name
      · subst hother
        rw [if_pos rfl]
        cases names with
        | nil => exact absurd (List.cons_prefix_cons.2 ⟨rfl, List.nil_prefix⟩) h
        | cons next rest =>
          rw [List.dropLast_cons_cons, kindAt_cons] at hparent
          obtain ⟨child, hchild, hparent⟩ := Option.bind_eq_some_iff.1 hparent
          rw [hchild]
          refine ih hparent ?_
          intro hprefix
          exact h (List.cons_prefix_cons.2 ⟨rfl, hprefix⟩)
      · rw [if_neg hother]

/-! ## Erasing a node -/

theorem entry?_filter (es : List (String × FileNode)) :
    entry? (directory (es.filter fun e => e.1 ≠ name)) other =
      if other = name then none else entry? (directory es) other := by
  simp only [entries, entry?, List.find?_filter]
  by_cases h : other = name
  · subst h
    simp
  · rw [if_neg h]
    congr 2
    funext e
    by_cases he : e.1 = other
    · simp [he, h]
    · simp [he]

theorem at?_erase_append (h : names ≠ []) : (n.erase names).at? (names ++ more) = none := by
  induction names generalizing n with
  | nil => exact absurd rfl h
  | cons name names ih =>
    rw [List.cons_append, at?_cons]
    cases names with
    | nil => rw [erase, entry?_filter, if_pos rfl]; rfl
    | cons next rest =>
      cases hchild : n.entry? name with
      | none =>
        have herase : n.erase (name :: next :: rest) = n := by simp only [erase, hchild]
        rw [herase, hchild]
        rfl
      | some child =>
        simp only [erase, hchild]
        rw [entry?_putEntry, if_pos rfl]
        exact ih (List.cons_ne_nil _ _)

theorem at?_erase_self (h : names ≠ []) : (n.erase names).at? names = none := by
  have hgone : (n.erase names).at? (names ++ []) = none := at?_erase_append h
  rw [List.append_nil] at hgone
  exact hgone

/-- A node that is erased changes nothing but what is at its place and below. -/
theorem kindAt_erase_of_not_below (hthere : (n.kindAt names).isSome) (h : ¬ names <+: place) :
    (n.erase names).kindAt place = n.kindAt place := by
  induction names generalizing n place with
  | nil => exact absurd List.nil_prefix h
  | cons name names ih =>
    rw [kindAt_cons] at hthere
    obtain ⟨kind, hkind⟩ := Option.isSome_iff_exists.1 hthere
    obtain ⟨child, hchild, hbelow⟩ := Option.bind_eq_some_iff.1 hkind
    have hn : n.kind = .directory := kind_of_entry?_eq_some hchild
    obtain ⟨es, rfl⟩ := kind_eq_directory_iff.1 hn
    cases names with
    | nil =>
      cases place with
      | nil => rfl
      | cons other place =>
        have hother : other ≠ name := by
          rintro rfl
          exact h (List.cons_prefix_cons.2 ⟨rfl, List.nil_prefix⟩)
        rw [kindAt_cons, kindAt_cons, erase, entries, entry?_filter, if_neg hother]
    | cons next rest =>
      simp only [erase, hchild]
      cases place with
      | nil => rfl
      | cons other place =>
        rw [kindAt_cons, kindAt_cons, entries, entry?_putEntry]
        by_cases hother : other = name
        · subst hother
          rw [if_pos rfl, hchild]
          refine ih (by rw [hbelow]; rfl) ?_
          intro hprefix
          exact h (List.cons_prefix_cons.2 ⟨rfl, hprefix⟩)
        · rw [if_neg hother]

/-- What is neither at its place, nor above it, nor below it stays as it is. -/
theorem at?_erase_of_not_below (hbelow : ¬ names <+: place) (habove : ¬ place <+: names) :
    (n.erase names).at? place = n.at? place := by
  induction names generalizing n place with
  | nil => exact absurd List.nil_prefix hbelow
  | cons name names ih =>
    cases place with
    | nil => exact absurd List.nil_prefix habove
    | cons other place =>
      cases names with
      | nil =>
        have hother : other ≠ name := by
          rintro rfl
          exact hbelow (List.cons_prefix_cons.2 ⟨rfl, List.nil_prefix⟩)
        rw [erase, at?_cons, at?_cons, entry?_filter, if_neg hother]
        cases n <;> rfl
      | cons next rest =>
        cases hchild : n.entry? name with
        | none => simp only [erase, hchild]
        | some child =>
          simp only [erase, hchild]
          rw [at?_cons, at?_cons, entry?_putEntry]
          by_cases hother : other = name
          · subst hother
            rw [if_pos rfl, hchild]
            exact ih (fun h => hbelow (List.cons_prefix_cons.2 ⟨rfl, h⟩))
              fun h => habove (List.cons_prefix_cons.2 ⟨rfl, h⟩)
          · rw [if_neg hother]
            cases n <;> rfl

end FileNode

end EndpointCatalog
