/-
EndpointCatalog.Proofs.Json.Document — values that are written are read back.

* `reread`: what a reader makes of a value that was written. Patterns are
  texts, halves that stand together are joined, there is only one NaN.
* `Spells cs t`: some characters are a text of a value. `spells_write`: so is
  what is written of a value without too long integers, whatever it holds.
* `read?_write`: read back it gives what a reader makes of the value.
* `isDocument_write_iff`: it is JSON exactly if all numbers are finite.
-/
import EndpointCatalog.Proofs.Json.Numeral
import EndpointCatalog.Proofs.Json.Quoted

namespace EndpointCatalog.Json

open Text (joinHalves hasPair)

/-! ## What is read back -/

mutual

/-- What a reader makes of a value that was written. -/
def reread : Tree → Tree
  | .null => .null
  | .bool b => .bool b
  | .int n => .int n
  | .float x => .float (if x.isNaN then Binary64.nan false else x)
  | .text t => .text (joinHalves t)
  | .regex pattern multiline ignoreCase =>
    .text (joinHalves (regexText pattern multiline ignoreCase))
  | .list items => .list (rereadItems items)
  | .map entries => .map (Entries.ofPairs (rereadEntries entries))

/-- What a reader makes of some items. -/
def rereadItems : List Tree → List Tree
  | [] => []
  | item :: rest => reread item :: rereadItems rest

/-- What a reader makes of some entries, before a key that is read twice is given one value. -/
def rereadEntries : List (Text × Tree) → List (Text × Tree)
  | [] => []
  | (key, value) :: rest => (joinHalves key, reread value) :: rereadEntries rest

end

mutual

/-- Whether all numbers of a value are finite. -/
def isFinite : Tree → Bool
  | .float x => decide (x.magnitude < Binary64.infinityMagnitude)
  | .list items => itemsAreFinite items
  | .map entries => entriesAreFinite entries
  | _ => true

/-- Whether all numbers of some items are finite. -/
def itemsAreFinite : List Tree → Bool
  | [] => true
  | item :: rest => isFinite item && itemsAreFinite rest

/-- Whether all numbers of some entries are finite. -/
def entriesAreFinite : List (Text × Tree) → Bool
  | [] => true
  | (_, value) :: rest => isFinite value && entriesAreFinite rest

end

/-! ## Blanks -/

/-- Whether a character may begin a value: it is no blank and closes nothing. -/
def Begins (c : Char) : Prop := c ∉ [' ', '\t', '\n', '\r', ']', '\x7d']

instance (c : Char) : Decidable (Begins c) := inferInstanceAs (Decidable (¬ _))

variable {cs rest tail : List Char} {fuel depth : Nat} {t item value : Tree} {key : Text}

theorem begins_of_isDigit {c : Char} (h : c.isDigit = true) : Begins c := by
  have hno : ∀ d ∈ [' ', '\t', '\n', '\r', ']', '\x7d'], d.isDigit = false := by
    simp only [List.forall_mem_cons, List.not_mem_nil, false_implies, implies_true]
    decide
  intro hc
  rw [hno c hc] at h
  cases h

theorem skipBlanks_of_begins {c : Char} (h : Begins c) (cs : List Char) :
    skipBlanks (c :: cs) = c :: cs := by
  simp only [Begins, List.mem_cons, not_or] at h
  rw [skipBlanks, List.dropWhile_cons_of_neg]
  simp only [Bool.or_eq_true, beq_iff_eq, not_or]
  exact ⟨⟨⟨h.1, h.2.1⟩, h.2.2.1⟩, h.2.2.2.1⟩

theorem skipBlanks_newline (depth : Nat) (cs : List Char) :
    skipBlanks (newline depth ++ cs) = skipBlanks cs := by
  have hspaces : ∀ count, skipBlanks (List.replicate count ' ' ++ cs) = skipBlanks cs := by
    intro count
    induction count with
    | zero => rfl
    | succ count ih => exact ih
  exact hspaces (2 * depth)

theorem isBlank_nil : IsBlank [] := fun _ hc => absurd hc List.not_mem_nil

theorem isBlank_newline (depth : Nat) : IsBlank (newline depth) := by
  intro c hc
  rcases List.mem_cons.1 hc with rfl | hc
  · exact .inr (.inr (.inl rfl))
  · exact .inl (List.eq_of_mem_replicate hc)

theorem Numeral.WellFormed.exists_head {n : Numeral} (h : n.WellFormed) :
    ∃ c cs, n.text = c :: cs ∧ c.isDigit = true := by
  have hwhole := h.whole
  rw [Numeral.text]
  cases hw : n.whole with
  | nil =>
    rw [hw] at hwhole
    cases hwhole
  | cons c cs =>
    rw [hw] at hwhole
    refine ⟨c, _, List.cons_append, ?_⟩
    cases hwhole with
    | zero => rfl
    | digits hfirst _ _ => exact hfirst

/-! ## Values -/

/-- Some characters are a text of a value: read back they give what a reader makes of the value, and
they are JSON exactly if its numbers are finite. -/
structure Spells (cs : List Char) (t : Tree) : Prop where
  begins : ∃ c cs', cs = c :: cs' ∧ Begins c
  read : ∀ (fuel : Nat) (tail : List Char), 2 * cs.length ≤ fuel + 1 → Delimits tail →
    readValue? (fuel + 1) (cs ++ tail) = some (reread t, tail)
  isValue : isFinite t = true → IsValue cs
  scan_eq : isFinite t = false → scan .outside cs = none

theorem dropWord?_append (word : String) (tail : List Char) :
    dropWord? word (word.toList ++ tail) = some tail := by
  rw [dropWord?, if_pos (List.isPrefixOf_iff_prefix.2 (List.prefix_append _ _)),
    ← String.length_toList, List.drop_left]

/-! ### Words -/

/-- A keyword of a value. -/
theorem spells_of_word {word : String} (hword : ∀ fuel tail,
      readValue? (fuel + 1) (word.toList ++ tail) =
        (dropWord? word (word.toList ++ tail)).map fun after => (reread t, after))
    (hbegins : ∃ c cs', word.toList = c :: cs' ∧ Begins c)
    (hvalue : isFinite t = true → IsValue word.toList)
    (hscan : isFinite t = false → scan .outside word.toList = none) : Spells word.toList t where
  begins := hbegins
  read fuel tail _ _ := by
    rw [hword, dropWord?_append, Option.map_some]
  isValue := hvalue
  scan_eq := hscan

theorem spells_null : Spells "null".toList .null :=
  spells_of_word (fun _ _ => rfl) ⟨'n', _, rfl, by decide⟩ (fun _ => .null) fun h => by cases h

theorem spells_bool (b : Bool) : Spells (bif b then "true" else "false").toList (.bool b) := by
  cases b with
  | true =>
    exact spells_of_word (fun _ _ => rfl) ⟨'t', _, rfl, by decide⟩ (fun _ => .true)
      fun h => by cases h
  | false =>
    exact spells_of_word (fun _ _ => rfl) ⟨'f', _, rfl, by decide⟩ (fun _ => .false)
      fun h => by cases h

/-! ### Strings -/

theorem spells_quote {u : Text} (hfinite : isFinite t = true)
    (hreread : reread t = .text (joinHalves u)) : Spells (quote u) t where
  begins := ⟨'"', _, rfl, by decide⟩
  read fuel tail _ _ := by
    have hread := readString?_quote u tail
    rw [hreread, quote, List.cons_append, readValue?]
    rw [quote, List.tail_cons] at hread
    rw [hread, Option.map_some]
  isValue _ := .string (isString_quote u)
  scan_eq h := by
    rw [hfinite] at h
    cases h

/-! ### Numbers -/

theorem readValue?_of_isDigit {c : Char} (h : c.isDigit = true) (cs : List Char) :
    readValue? (fuel + 1) (c :: cs) = readNumber? false (c :: cs) := by
  rw [readValue?]
  all_goals
    intros
    rename_i heq
    cases heq
    exact absurd h (by decide)

theorem readValue?_minus {c : Char} (h : c.isDigit = true) (cs : List Char) :
    readValue? (fuel + 1) ('-' :: c :: cs) = readNumber? true (c :: cs) := by
  rw [readValue?]
  intro rest heq
  cases heq
  exact absurd h (by decide)

/-- A number with its sign. -/
theorem spells_of_numeral {n : Numeral} (h : n.WellFormed) {negative : Bool}
    (hfinite : isFinite t = true) (hread : ∀ tail, Delimits tail →
      readNumber? negative (n.text ++ tail) = some (reread t, tail)) :
    Spells ((if negative then ['-'] else []) ++ n.text) t := by
  obtain ⟨c, cs, htext, hdigit⟩ := h.exists_head
  have hscan : isFinite t = false → scan .outside ((if negative then ['-'] else []) ++ n.text) =
      none := fun hno => by
    rw [hfinite] at hno
    cases hno
  cases negative with
  | false =>
    refine ⟨⟨c, cs, htext, begins_of_isDigit hdigit⟩, fun fuel tail _ htail => ?_,
      fun _ => .number h.isNumber, hscan⟩
    rw [← hread tail htail, htext]
    exact readValue?_of_isDigit hdigit (cs ++ tail)
  | true =>
    refine ⟨⟨'-', n.text, rfl, by decide⟩, fun fuel tail _ htail => ?_,
      fun _ => .number h.isNumber_negative, hscan⟩
    rw [← hread tail htail, htext]
    exact readValue?_minus hdigit (cs ++ tail)

theorem length_toDigits_le {n count : Nat} (hcount : 0 < count) (h : ¬ Nat.pow 10 count ≤ n) :
    (Nat.toDigits 10 n).length ≤ count :=
  (Nat.length_toDigits_le_iff (by decide) hcount).2 (Nat.not_le.1 h)

theorem spells_int {n : Int} (h : hasLongInteger (.int n) = false) :
    Spells (toString n).toList (.int n) := by
  have hpos : 0 < longestInteger := by decide
  rw [hasLongInteger, decide_eq_false_iff_not] at h
  have hlength := length_toDigits_le hpos h
  have hvalue : (if decide (n < 0) then -(n.natAbs : Int) else n.natAbs) = n := by
    simp only [decide_eq_true_eq]
    split <;> omega
  have hspells : Spells ((if decide (n < 0) then ['-'] else []) ++ (Numeral.ofNat n.natAbs).text)
      (.int n) := by
    refine spells_of_numeral (Numeral.wellFormed_ofNat _) rfl fun tail htail => ?_
    rw [readNumber?_ofNat hlength htail, hvalue, reread]
  rw [toList_toString_int]
  simpa only [decide_eq_true_eq] using hspells

theorem render_nan {x : Binary64} (h : x.isNaN = true) :
    (x.render floatFormat).toList = "NaN".toList := by
  rw [Binary64.render, if_pos h]
  rfl

theorem render_infinite {x : Binary64} (hnan : x.isNaN = false) (h : x.isInfinite = true) :
    (x.render floatFormat).toList =
      (bif x.isNegative then "-Infinity" else "Infinity").toList := by
  rw [Binary64.render, hnan, if_neg Bool.false_ne_true, if_pos h]
  cases x.isNegative <;> rfl

theorem spells_float (x : Binary64) : Spells (x.render floatFormat).toList (.float x) := by
  have hkinds : x.isNaN = true ∨ x.isNaN = false ∧ x.isInfinite = true ∨
      x.isNaN = false ∧ x.magnitude < Binary64.infinityMagnitude := by
    rw [Binary64.isNaN, Binary64.isInfinite, decide_eq_true_eq, decide_eq_false_iff_not,
      beq_iff_eq]
    omega
  rcases hkinds with hnan | ⟨hnan, hinfinite⟩ | ⟨hnan, hfinite⟩
  · have hnot : isFinite (.float x) = false := by
      rw [Binary64.isNaN, decide_eq_true_eq] at hnan
      rw [isFinite, decide_eq_false_iff_not]
      omega
    rw [render_nan hnan]
    refine spells_of_word (fun _ _ => ?_) ⟨'N', _, rfl, by decide⟩ (fun h => ?_) fun _ => by decide
    · rw [reread, if_pos hnan]
      rfl
    · rw [hnot] at h
      cases h
  · have hnot : isFinite (.float x) = false := by
      rw [Binary64.isInfinite, beq_iff_eq] at hinfinite
      rw [isFinite, decide_eq_false_iff_not, hinfinite]
      exact Nat.lt_irrefl _
    have hx : Binary64.infinity x.isNegative = x := by
      rw [Binary64.infinity, ← beq_iff_eq.1 hinfinite, Binary64.ofMagnitude_magnitude]
    have hreread : reread (.float x) = .float (Binary64.infinity x.isNegative) := by
      rw [reread, hnan, if_neg Bool.false_ne_true, hx]
    have hno : isFinite (.float x) = true → False := fun h => by
      rw [hnot] at h
      cases h
    rw [render_infinite hnan hinfinite]
    cases hsign : x.isNegative with
    | false =>
      rw [hsign] at hreread
      refine spells_of_word (fun _ _ => ?_) ⟨'I', _, rfl, by decide⟩ (fun h => (hno h).elim)
        fun _ => by decide
      rw [hreread]
      rfl
    | true =>
      rw [hsign] at hreread
      refine spells_of_word (fun _ _ => ?_) ⟨'-', _, rfl, by decide⟩ (fun h => (hno h).elim)
        fun _ => by decide
      rw [hreread]
      rfl
  · obtain ⟨n, hwell, hfloat, htext, hvalue⟩ := exists_render_eq hfinite
    rw [htext]
    refine spells_of_numeral hwell (decide_eq_true hfinite) fun tail htail => ?_
    rw [readNumber?_text hwell htail, hfloat, if_neg Bool.false_ne_true, hvalue, reread, hnan,
      if_neg Bool.false_ne_true]

/-! ### Lists -/

theorem delimits_newline (depth : Nat) (cs : List Char) : Delimits (newline depth ++ cs) :=
  fun _ hc => .inr (Option.some.inj hc).symm

theorem delimits_comma (cs : List Char) : Delimits (',' :: cs) :=
  fun _ hc => .inl (Option.some.inj hc).symm

theorem Spells.skipBlanks_append (h : Spells cs t) (tail : List Char) :
    skipBlanks (cs ++ tail) = cs ++ tail := by
  obtain ⟨c, cs', rfl, hbegins⟩ := h.begins
  exact skipBlanks_of_begins hbegins _

theorem Spells.length_pos (h : Spells cs t) : 0 < cs.length := by
  obtain ⟨c, cs', rfl, -⟩ := h.begins
  exact Nat.succ_pos _

/-- Items up to the closing bracket are read back. -/
theorem readItems?_write {items : List Tree} (hrest : ∀ other ∈ items,
      Spells (write (depth + 1) other) other) (hitem : Spells (write (depth + 1) item) item)
    (hfuel : 2 * (write (depth + 1) item ++ writeItems depth items).length ≤ fuel)
    (done : List Tree) (tail : List Char) :
    readItems? fuel done (write (depth + 1) item ++ (writeItems depth items ++ tail)) =
      some (done.reverse ++ reread item :: rereadItems items, tail) := by
  have hpos := hitem.length_pos
  rw [List.length_append] at hfuel
  -- A turn takes two steps and at least two characters: the item, and a comma or a bracket.
  induction items generalizing item done fuel with
  | nil =>
    rw [writeItems] at hfuel ⊢
    rw [List.length_append, List.length_singleton] at hfuel
    obtain ⟨fuel, rfl⟩ : ∃ k, fuel = k + 2 := Nat.exists_eq_add_of_le' (by omega)
    have hread := hitem.read fuel (newline depth ++ ([']'] ++ tail)) (by omega)
      (delimits_newline depth _)
    rw [List.append_assoc, readItems?, hread]
    simp only [skipBlanks_newline]
    rw [rereadItems, ← List.reverse_cons]
    rfl
  | cons other items ih =>
    obtain ⟨hother, hrest⟩ := List.forall_mem_cons.1 hrest
    rw [writeItems] at hfuel ⊢
    simp only [List.length_cons, List.length_append] at hfuel
    obtain ⟨fuel, rfl⟩ : ∃ k, fuel = k + 2 := Nat.exists_eq_add_of_le' (by omega)
    have hread := hitem.read fuel (',' :: (newline (depth + 1) ++
      (write (depth + 1) other ++ (writeItems depth items ++ tail)))) (by omega) (delimits_comma _)
    have hbound : 2 * ((write (depth + 1) other).length + (writeItems depth items).length) ≤
        fuel + 1 := by omega
    have hmore := ih hrest hother hbound (reread item :: done) hother.length_pos
    have hskip : skipBlanks (',' :: (newline (depth + 1) ++ (write (depth + 1) other ++
        (writeItems depth items ++ tail)))) = ',' :: (newline (depth + 1) ++
          (write (depth + 1) other ++ (writeItems depth items ++ tail))) := rfl
    rw [List.cons_append, List.append_assoc, List.append_assoc, readItems?, hread]
    simp only [hskip, skipBlanks_newline, hother.skipBlanks_append]
    rw [hmore, List.reverse_cons, List.append_assoc, rereadItems]
    rfl

theorem isItems_write {items : List Tree} (hrest : ∀ other ∈ items,
      IsValue (write (depth + 1) other)) {text : List Char} (hitem : IsValue text) :
    ∃ body, newline (depth + 1) ++ (text ++ writeItems depth items) = body ++ [']'] ∧
      IsItems body := by
  induction items generalizing text with
  | nil =>
    refine ⟨_, ?_, .last (isBlank_newline (depth + 1)) hitem (isBlank_newline depth)⟩
    rw [writeItems, List.append_assoc, List.append_assoc]
  | cons other items ih =>
    obtain ⟨hother, hrest⟩ := List.forall_mem_cons.1 hrest
    obtain ⟨body, heq, hbody⟩ := ih hrest hother
    refine ⟨_, ?_, .more (isBlank_newline (depth + 1)) hitem isBlank_nil hbody⟩
    rw [writeItems, List.append_assoc, heq]
    simp only [List.append_assoc, List.nil_append, List.cons_append]

theorem scan_newline (depth : Nat) (cs : List Char) :
    scan .outside (newline depth ++ cs) = scan .outside cs :=
  scan_outside_append (isBlank_newline depth).scan_eq cs

theorem scan_append_of_none (h : scan .outside cs = none) (tail : List Char) :
    scan .outside (cs ++ tail) = none := by
  rw [scan_append, h, Option.bind_none]

theorem scan_writeItems {items : List Tree} (hitems : ∀ other ∈ items,
      Spells (write (depth + 1) other) other) (hinfinite : itemsAreFinite items = false) :
    scan .outside (writeItems depth items) = none := by
  induction items with
  | nil => cases hinfinite
  | cons other items ih =>
    obtain ⟨hother, hrest⟩ := List.forall_mem_cons.1 hitems
    rw [writeItems, scan_bare_cons (by decide +kernel), List.append_assoc, scan_newline]
    cases hfinite : isFinite other with
    | false => exact scan_append_of_none (hother.scan_eq hfinite) _
    | true =>
      rw [itemsAreFinite, hfinite, Bool.true_and] at hinfinite
      rw [scan_outside_append (hother.isValue hfinite).scan_eq, ih hrest hinfinite]

theorem forall_isFinite {items : List Tree} (h : itemsAreFinite items = true) :
    ∀ item ∈ items, isFinite item = true := by
  induction items with
  | nil => exact fun _ hitem => absurd hitem List.not_mem_nil
  | cons item items ih =>
    rw [itemsAreFinite, Bool.and_eq_true] at h
    exact List.forall_mem_cons.2 ⟨h.1, ih h.2⟩

theorem spells_list {items : List Tree}
    (h : ∀ item ∈ items, Spells (write (depth + 1) item) item) :
    Spells (write depth (.list items)) (.list items) := by
  cases items with
  | nil =>
    exact ⟨⟨'[', _, rfl, by decide⟩, fun _ _ _ _ => rfl, fun _ => .emptyList isBlank_nil,
      fun hno => by cases hno⟩
  | cons item items =>
    obtain ⟨hitem, hrest⟩ := List.forall_mem_cons.1 h
    refine ⟨⟨'[', _, rfl, by decide⟩, fun fuel tail hfuel htail => ?_, fun hfinite => ?_,
      fun hinfinite => ?_⟩
    · rw [write, List.append_assoc] at hfuel ⊢
      rw [List.length_cons, List.length_append] at hfuel
      have hbound : 2 * (write (depth + 1) item ++ writeItems depth items).length ≤ fuel := by
        omega
      have hmore := readItems?_write hrest hitem hbound [] tail
      obtain ⟨c, cs', heq, hbegins⟩ := hitem.begins
      rw [heq, List.cons_append] at hmore
      rw [List.cons_append, readValue?, List.append_assoc, skipBlanks_newline, heq,
        List.append_assoc, List.cons_append, skipBlanks_of_begins hbegins]
      -- An item never begins with the bracket that would end an empty list.
      split
      · next hclosed =>
        cases hclosed
        exact absurd hbegins (by decide)
      · rw [hmore, reread, rereadItems]
        rfl
    · have hvalues := fun other hother =>
        (h other hother).isValue (forall_isFinite hfinite other hother)
      obtain ⟨hvalue, hvalues⟩ := List.forall_mem_cons.1 hvalues
      obtain ⟨body, heq, hbody⟩ := isItems_write hvalues hvalue
      rw [write, List.append_assoc, heq]
      exact .list hbody
    · rw [write, scan_bare_cons (by decide +kernel), List.append_assoc, scan_newline]
      cases hfinite : isFinite item with
      | false => exact scan_append_of_none (hitem.scan_eq hfinite) _
      | true =>
        rw [isFinite, itemsAreFinite, hfinite, Bool.true_and] at hinfinite
        rw [scan_outside_append (hitem.isValue hfinite).scan_eq, scan_writeItems hrest hinfinite]

/-! ### Mappings -/

/-- A member as it is written. -/
def memberText (depth : Nat) (key : Text) (value : Tree) : List Char :=
  quote key ++ (':' :: ' ' :: write (depth + 1) value)

theorem writeMembers_cons (depth : Nat) (key : Text) (value : Tree) (entries : Entries) :
    writeMembers depth ((key, value) :: entries) =
      ',' :: (newline (depth + 1) ++ (memberText depth key value ++
        writeMembers depth entries)) := by
  rw [writeMembers, memberText]
  simp only [List.append_assoc, List.cons_append, List.nil_append]

theorem write_map_cons (depth : Nat) (key : Text) (value : Tree) (entries : Entries) :
    write depth (.map ((key, value) :: entries)) =
      '\x7b' :: (newline (depth + 1) ++ (memberText depth key value ++
        writeMembers depth entries)) := by
  rw [write, memberText]
  simp only [List.append_assoc, List.cons_append, List.nil_append]

theorem length_memberText (depth : Nat) (key : Text) (value : Tree) :
    (write (depth + 1) value).length + 3 ≤ (memberText depth key value).length := by
  rw [memberText, quote]
  simp only [List.length_append, List.length_cons]
  omega

theorem skipBlanks_memberText (depth : Nat) (key : Text) (value : Tree) (tail : List Char) :
    skipBlanks (memberText depth key value ++ tail) = memberText depth key value ++ tail := rfl

/-- A key and its value are read back before a comma. -/
theorem readMembers?_comma (hvalue : Spells (write (depth + 1) value) value)
    (hfuel : 2 * (write (depth + 1) value).length ≤ fuel + 1) (done : Entries)
    (tail : List Char) :
    readMembers? (fuel + 2) done (memberText depth key value ++ ',' :: tail) =
      readMembers? (fuel + 1) ((joinHalves key, reread value) :: done) (skipBlanks tail) := by
  have hkey := readString?_quote key (':' :: ' ' :: (write (depth + 1) value ++ ',' :: tail))
  have hread := hvalue.read fuel (',' :: tail) hfuel (delimits_comma tail)
  have hcolon : ∀ cs, skipBlanks (':' :: cs) = ':' :: cs := fun _ => rfl
  have hspace : skipBlanks (' ' :: (write (depth + 1) value ++ ',' :: tail)) =
      write (depth + 1) value ++ ',' :: tail := hvalue.skipBlanks_append _
  have hcomma : skipBlanks (',' :: tail) = ',' :: tail := rfl
  rw [quote, List.tail_cons] at hkey
  rw [memberText, quote, List.append_assoc, List.cons_append, readMembers?]
  simp only [List.cons_append, hkey, hcolon, hspace, hread, hcomma]

/-- A key and its value are read back before the closing brace. -/
theorem readMembers?_brace (hvalue : Spells (write (depth + 1) value) value)
    (hfuel : 2 * (write (depth + 1) value).length ≤ fuel + 1) (done : Entries)
    (tail : List Char) :
    readMembers? (fuel + 2) done (memberText depth key value ++ (newline depth ++ '\x7d' :: tail)) =
      some (done.reverse ++ [(joinHalves key, reread value)], tail) := by
  have hkey := readString?_quote key
    (':' :: ' ' :: (write (depth + 1) value ++ (newline depth ++ '\x7d' :: tail)))
  have hread := hvalue.read fuel _ hfuel (delimits_newline depth ('\x7d' :: tail))
  have hcolon : ∀ cs, skipBlanks (':' :: cs) = ':' :: cs := fun _ => rfl
  have hspace : skipBlanks (' ' :: (write (depth + 1) value ++ (newline depth ++ '\x7d' :: tail))) =
      write (depth + 1) value ++ (newline depth ++ '\x7d' :: tail) := hvalue.skipBlanks_append _
  have hbrace : skipBlanks ('\x7d' :: tail) = '\x7d' :: tail := rfl
  rw [quote, List.tail_cons] at hkey
  rw [memberText, quote, List.append_assoc, List.cons_append, readMembers?]
  simp only [List.cons_append, hkey, hcolon, hspace, hread, skipBlanks_newline, hbrace,
    List.reverse_cons]

/-- Members up to the closing brace are read back. -/
theorem readMembers?_write {entries : Entries} (hrest : ∀ other ∈ entries,
      Spells (write (depth + 1) other.2) other.2) (hvalue : Spells (write (depth + 1) value) value)
    (hfuel : 2 * (memberText depth key value ++ writeMembers depth entries).length ≤ fuel)
    (done : Entries) (tail : List Char) :
    readMembers? fuel done
        (memberText depth key value ++ (writeMembers depth entries ++ tail)) =
      some (done.reverse ++ (joinHalves key, reread value) :: rereadEntries entries, tail) := by
  rw [List.length_append] at hfuel
  have hlength := length_memberText depth key value
  induction entries generalizing key value done fuel with
  | nil =>
    obtain ⟨fuel, rfl⟩ : ∃ k, fuel = k + 2 := Nat.exists_eq_add_of_le' (by omega)
    rw [writeMembers, List.append_assoc, List.singleton_append,
      readMembers?_brace hvalue (by omega), rereadEntries]
  | cons other entries ih =>
    obtain ⟨fuel, rfl⟩ : ∃ k, fuel = k + 2 := Nat.exists_eq_add_of_le' (by omega)
    obtain ⟨key', value'⟩ := other
    obtain ⟨hother, hrest⟩ := List.forall_mem_cons.1 hrest
    rw [writeMembers_cons] at hfuel ⊢
    simp only [List.length_cons, List.length_append] at hfuel
    have hbound : 2 * ((memberText depth key' value').length +
        (writeMembers depth entries).length) ≤ fuel + 1 := by omega
    have hmore := ih hrest hother hbound ((joinHalves key, reread value) :: done)
      (length_memberText depth key' value')
    rw [List.cons_append, readMembers?_comma hvalue (by omega), List.append_assoc,
      skipBlanks_newline, List.append_assoc, skipBlanks_memberText, hmore, List.reverse_cons,
      List.append_assoc, rereadEntries]
    rfl

theorem isMembers_write {entries : Entries} (hrest : ∀ other ∈ entries,
      IsValue (write (depth + 1) other.2)) (hvalue : IsValue (write (depth + 1) value)) :
    ∃ body, newline (depth + 1) ++ (memberText depth key value ++ writeMembers depth entries) =
      body ++ ['\x7d'] ∧ IsMembers body := by
  have hspace : IsBlank [' '] := fun c hc => .inl (List.mem_singleton.1 hc)
  induction entries generalizing key value with
  | nil =>
    refine ⟨_, ?_, .last (isBlank_newline (depth + 1)) (isString_quote key) isBlank_nil hspace
      hvalue (isBlank_newline depth)⟩
    rw [writeMembers, memberText]
    simp only [List.append_assoc, List.nil_append, List.cons_append]
  | cons other entries ih =>
    obtain ⟨key', value'⟩ := other
    obtain ⟨hother, hrest⟩ := List.forall_mem_cons.1 hrest
    obtain ⟨body, heq, hbody⟩ := ih hrest hother
    refine ⟨_, ?_, .more (isBlank_newline (depth + 1)) (isString_quote key) isBlank_nil hspace
      hvalue isBlank_nil hbody⟩
    rw [writeMembers_cons, heq, memberText]
    simp only [List.append_assoc, List.nil_append, List.cons_append]

theorem scan_memberText (key : Text) (value : Tree) (tail : List Char) :
    scan .outside (memberText depth key value ++ tail) =
      scan .outside (write (depth + 1) value ++ tail) := by
  rw [memberText, List.append_assoc, scan_outside_append (isString_quote key).scan_eq,
    List.cons_append, scan_bare_cons (by decide +kernel), List.cons_append,
    scan_bare_cons (by decide +kernel)]

theorem scan_writeMembers {entries : Entries} (hentries : ∀ other ∈ entries,
      Spells (write (depth + 1) other.2) other.2) (hinfinite : entriesAreFinite entries = false) :
    scan .outside (writeMembers depth entries) = none := by
  induction entries with
  | nil => cases hinfinite
  | cons other entries ih =>
    obtain ⟨key, value⟩ := other
    obtain ⟨hvalue, hrest⟩ := List.forall_mem_cons.1 hentries
    rw [writeMembers_cons, scan_bare_cons (by decide +kernel), scan_newline, scan_memberText]
    cases hfinite : isFinite value with
    | false => exact scan_append_of_none (hvalue.scan_eq hfinite) _
    | true =>
      rw [entriesAreFinite, hfinite, Bool.true_and] at hinfinite
      rw [scan_outside_append (hvalue.isValue hfinite).scan_eq, ih hrest hinfinite]

theorem forall_isFinite_entries {entries : Entries} (h : entriesAreFinite entries = true) :
    ∀ entry ∈ entries, isFinite entry.2 = true := by
  induction entries with
  | nil => exact fun _ hentry => absurd hentry List.not_mem_nil
  | cons entry entries ih =>
    obtain ⟨key, value⟩ := entry
    rw [entriesAreFinite, Bool.and_eq_true] at h
    exact List.forall_mem_cons.2 ⟨h.1, ih h.2⟩

theorem spells_map {entries : Entries}
    (h : ∀ entry ∈ entries, Spells (write (depth + 1) entry.2) entry.2) :
    Spells (write depth (.map entries)) (.map entries) := by
  cases entries with
  | nil =>
    exact ⟨⟨'\x7b', _, rfl, by decide⟩, fun _ _ _ _ => rfl, fun _ => .emptyMap isBlank_nil,
      fun hno => by cases hno⟩
  | cons entry entries =>
    obtain ⟨key, value⟩ := entry
    obtain ⟨hvalue, hrest⟩ := List.forall_mem_cons.1 h
    rw [write_map_cons]
    refine ⟨⟨'\x7b', _, rfl, by decide⟩, fun fuel tail hfuel htail => ?_, fun hfinite => ?_,
      fun hinfinite => ?_⟩
    · rw [List.length_cons, List.length_append] at hfuel
      have hbound : 2 * (memberText depth key value ++ writeMembers depth entries).length ≤
          fuel := by omega
      have hmore := readMembers?_write hrest hvalue hbound [] tail
      rw [List.cons_append, readValue?, List.append_assoc, skipBlanks_newline, List.append_assoc,
        skipBlanks_memberText]
      split
      · next hclosed =>
        cases hclosed
      · rw [hmore, reread, rereadEntries]
        rfl
    · have hvalues := fun other hother =>
        (h other hother).isValue (forall_isFinite_entries hfinite other hother)
      obtain ⟨hvalue, hvalues⟩ := List.forall_mem_cons.1 hvalues
      obtain ⟨body, heq, hbody⟩ := isMembers_write hvalues hvalue
      rw [heq]
      exact .map hbody
    · rw [scan_bare_cons (by decide +kernel), scan_newline, scan_memberText]
      cases hfinite : isFinite value with
      | false => exact scan_append_of_none (hvalue.scan_eq hfinite) _
      | true =>
        rw [isFinite, entriesAreFinite, hfinite, Bool.true_and] at hinfinite
        rw [scan_outside_append (hvalue.isValue hfinite).scan_eq, scan_writeMembers hrest hinfinite]

/-! ### Trees -/

mutual

/-- Every value without too long integers is read back from its text. -/
theorem spells_write : ∀ (t : Tree) (depth : Nat), hasLongInteger t = false →
    Spells (write depth t) t
  | .null, _ => fun _ => spells_null
  | .bool b, _ => fun _ => by
    have h := spells_bool b
    cases b <;> exact h
  | .int n, _ => fun h => by
    rw [write]
    exact spells_int h
  | .float x, _ => fun _ => spells_float x
  | .text u, _ => fun _ => spells_quote rfl rfl
  | .regex pattern multiline ignoreCase, _ => fun _ => spells_quote rfl rfl
  | .list items, depth => fun h => spells_list (spells_writeItems items (depth + 1) (by
    rwa [hasLongInteger] at h))
  | .map entries, depth => fun h => spells_map (spells_writeEntries entries (depth + 1) (by
    rwa [hasLongInteger] at h))

theorem spells_writeItems : ∀ (items : List Tree) (depth : Nat),
    itemsHaveLongInteger items = false → ∀ item ∈ items, Spells (write depth item) item
  | [], _, _ => fun _ hitem => absurd hitem List.not_mem_nil
  | item :: rest, depth, h => List.forall_mem_cons.2
    ⟨spells_write item depth (Bool.or_eq_false_iff.1 h).1,
      spells_writeItems rest depth (Bool.or_eq_false_iff.1 h).2⟩

theorem spells_writeEntries : ∀ (entries : List (Text × Tree)) (depth : Nat),
    entriesHaveLongInteger entries = false →
      ∀ entry ∈ entries, Spells (write depth entry.2) entry.2
  | [], _, _ => fun _ hentry => absurd hentry List.not_mem_nil
  | (_, value) :: rest, depth, h => List.forall_mem_cons.2
    ⟨spells_write value depth (Bool.or_eq_false_iff.1 h).1,
      spells_writeEntries rest depth (Bool.or_eq_false_iff.1 h).2⟩

end

/-! ## Documents -/

/-- A text on its own, with a line break behind it or without, is read back. -/
theorem read?_write (h : hasLongInteger t = false) :
    read? (write 0 t ++ ['\n']) = some (reread t) := by
  have hspells := spells_write t 0 h
  have hread := hspells.read (2 * (write 0 t ++ ['\n']).length + 1) ['\n'] (by
    rw [List.length_append]
    omega) (delimits_newline 0 [])
  rw [read?, hspells.skipBlanks_append, hread]
  rfl

/-- A text is JSON exactly if all numbers of its value are finite. -/
theorem isDocument_write_iff (h : hasLongInteger t = false) :
    IsDocument (write 0 t ++ ['\n']) ↔ isFinite t = true := by
  have hspells := spells_write t 0 h
  constructor
  · intro hdocument
    -- The name of an infinity stands outside of all strings, where no document has an `I` or `N`.
    by_contra hinfinite
    have hnone := scan_append_of_none (hspells.scan_eq (Bool.eq_false_iff.2 hinfinite)) ['\n']
    rw [hdocument.scan_eq] at hnone
    cases hnone
  · intro hfinite
    exact .value isBlank_nil (hspells.isValue hfinite) (isBlank_newline 0)

end EndpointCatalog.Json
