/-
EndpointCatalog.Proofs.Handler.Code — handlers as they are written.

* `Code`: functions, the statements and expressions in their bodies, and the
  patterns that they bind, one in another to any depth.
* `View`: what one place of a code says about reads. It is a chain of names,
  a binding by a pattern, or a call with a text in front.
* `Code.Reads`: some place reads a name of a section off the first parameter.

A word is called by its name in a script and as it is written in a typed
script. `Naming` says how, and what a code reads depends on it in no other
way (`Code.reads_congr`).
-/
import EndpointCatalog.Metadata
import EndpointCatalog.Proofs.HandlerReads

namespace EndpointCatalog

/-! ## Views -/

/-- What one place says about reads. -/
structure View where
  /-- The names along a chain of members. -/
  chain? : Option (List Text) := none
  /-- The keys that a pattern binds, and the names along the chain that it binds them to. -/
  binding? : Option (List Text × Option (List Text)) := none
  /-- The names along the chain that is called, and the text that is the first argument. -/
  call? : Option (Option (List Text) × Option Text) := none

namespace View

/-- The place reads a section off a request: a name of it, or the section as a whole. -/
inductive Reads (profile : Profile) (request : Text) (sect : Section) :
    Option Text → View → Prop where
  /-- By `request.query.name` or `request.query`. -/
  | member {v : View} {chain : List Text} {name : Option Text} :
      v.chain? = some (request :: chain) → chain ≠ [] →
      classify profile chain = some (sect, name) → Reads profile request sect name v
  /-- By `{ name } = request.query`. -/
  | binding {v : View} {keys chain : List Text} {name : Text} :
      v.binding? = some (keys, some (request :: chain)) →
      classify profile chain = some (sect, none) → name ∈ keys →
      Reads profile request sect (some name) v
  /-- By `request.get("name")`. -/
  | getter {v : View} {getter name : Text} :
      v.call? = some (some [request, getter], some name) → getter ∈ profile.headerGetters →
      sect = .headers → name ≠ [] → Reads profile request sect (some name) v

variable {profile : Profile} {request : Text} {sect : Section} {name : Option Text} {v : View}

/-- No place reads anything by a single name. -/
def IsIdle (v : View) : Prop :=
  (∀ chain, v.chain? = some chain → chain.length ≤ 1) ∧ v.binding? = none ∧ v.call? = none

theorem IsIdle.not_reads (h : v.IsIdle) : ¬ v.Reads profile request sect name := by
  obtain ⟨hchain, hbinding, hcall⟩ := h
  rintro (⟨hv, hne, -⟩ | ⟨hv, -, -⟩ | ⟨hv, -, -, -⟩)
  · have hlength := hchain _ hv
    exact hne (by simpa using hlength)
  · rw [hbinding] at hv
    cases hv
  · rw [hcall] at hv
    cases hv

/-- What is read by a chain is read wherever this chain stands. -/
theorem Reads.of_chain {chain? : Option (List Text)}
    (h : (View.mk chain? none none).Reads profile request sect name) (hv : v.chain? = chain?) :
    v.Reads profile request sect name := by
  rcases h with ⟨hchain, hne, hread⟩ | ⟨hbinding, -, -⟩ | ⟨hcall, -, -, -⟩
  · exact .member (hv.trans hchain) hne hread
  · cases hbinding
  · cases hcall

end View

/-! ## Codes -/

/-- A word of a source: what it stands for, and how it is written. -/
structure Word where
  name : Text
  written : Text
deriving DecidableEq

/-- What words are called. -/
structure Naming where
  /-- An identifier in an expression, if it is one. -/
  root? : Word → Option Text
  /-- A declared name, a member, a key or a string. -/
  word : Word → Text

/-- In scripts words are called by their names. -/
def Naming.script : Naming := ⟨fun w => some w.name, Word.name⟩

/-- In typed scripts words are called as they are written, and one identifier is a keyword. -/
def Naming.typed : Naming :=
  ⟨fun w => if w.written = "undefined" then none else some w.written, Word.written⟩

/-- The ways in which code is put together. -/
inductive Form where
  | identifier (w : Word)
  /-- A declared name. -/
  | target (w : Word)
  | string (w : Word)
  /-- `object.w`. -/
  | dot (w : Word)
  /-- `object["w"]`. -/
  | index (w : Word)
  /-- What is called stands before the arguments. -/
  | call
  | object
  /-- `w: value`. -/
  | pair (w : Word)
  | array
  | paren
  /-- The body stands below. -/
  | function (params : List Word)
  | block
  | expression
  | return
  | declaration
  /-- A target, and what it is bound to. -/
  | declarator
  | pattern
  /-- `w` in a pattern. -/
  | bound (w : Word)
  /-- `w = value` in a pattern. -/
  | boundDefault (w : Word)
  /-- `w: target` in a pattern. -/
  | renamed (w : Word)
  /-- `target = value` in a pattern. -/
  | assigned
  /-- `[key]: target` in a pattern. -/
  | computed
  | rest

/-- Code: a form and the codes that stand below it. -/
inductive Code where
  | node (form : Form) (parts : List Code)

namespace Form

/-- The words of a form but for identifiers. -/
def words : Form → List Word
  | target w => [w]
  | string w => [w]
  | dot w => [w]
  | index w => [w]
  | pair w => [w]
  | bound w => [w]
  | boundDefault w => [w]
  | renamed w => [w]
  | function params => params
  | _ => []

/-- The identifiers of a form. -/
def identifiers : Form → List Word
  | identifier w => [w]
  | _ => []

/-- The key that a form stands under. -/
def key? (n : Naming) : Form → Option Text
  | pair w => some (n.word w)
  | bound w => some (n.word w)
  | boundDefault w => some (n.word w)
  | renamed w => some (n.word w)
  | _ => none

/-- Two namings call the words of a form alike. -/
def CalledAlike (n n' : Naming) (form : Form) : Prop :=
  (∀ w ∈ form.words, n'.word w = n.word w) ∧ ∀ w ∈ form.identifiers, n'.root? w = n.root? w

instance (n n' : Naming) (form : Form) : Decidable (form.CalledAlike n n') :=
  inferInstanceAs (Decidable (_ ∧ _))

end Form

namespace Code

variable {n n' : Naming}

/-- The form of a code. -/
def form : Code → Form
  | node form _ => form

/-- The codes below a code. -/
def parts : Code → List Code
  | node _ parts => parts

mutual

/-- A code and all codes below it. -/
def all : Code → List Code
  | node form parts => node form parts :: allBelow parts

/-- Some codes and all codes below them. -/
def allBelow : List Code → List Code
  | [] => []
  | c :: rest => c.all ++ allBelow rest

end

/-- The names along a chain of members, the leftmost identifier first. -/
def chain? (n : Naming) : Code → Option (List Text)
  | node (.identifier w) _ => (n.root? w).map fun name => [name]
  | node (.target w) _ => some [n.word w]
  | node (.dot w) (o :: _) => (o.chain? n).map fun chain => chain ++ [n.word w]
  | node (.index w) (o :: _) => (o.chain? n).map fun chain => chain ++ [n.word w]
  | node .paren (e :: _) => e.chain? n
  | _ => none

/-- The text of a string. -/
def text? (n : Naming) : Code → Option Text
  | node (.string w) _ => some (n.word w)
  | node .paren (e :: _) => e.text? n
  | _ => none

/-- The keys that a pattern binds. -/
def keys? (n : Naming) : Code → Option (List Text)
  | node .pattern elements => some (elements.filterMap fun e => e.form.key? n)
  | _ => none

/-- What the place at the top of a code says about reads. -/
def view (n : Naming) : Code → View
  | node .declarator [target, source] =>
    { binding? := (target.keys? n).map fun keys => (keys, source.chain? n) }
  | node .call (callee :: arguments) =>
    { call? := some (callee.chain? n, arguments.head?.bind (text? n)) }
  | c => { chain? := c.chain? n }

/-- The name of a function's first parameter. -/
def request? (n : Naming) : Code → Option Text
  | node (.function (w :: _)) _ => if (n.word w).isEmpty then none else some (n.word w)
  | _ => none

/-- The handler reads a section off its first parameter: a name of it, or the section as a
whole. -/
def Reads (n : Naming) (profile : Profile) (sect : Section) (name : Option Text) (c : Code) :
    Prop :=
  ∃ request, c.request? n = some request ∧
    ∃ place ∈ c.all, (place.view n).Reads profile request sect name

/-! ### What a code reads depends on its words -/

theorem mem_all_self (c : Code) : c ∈ c.all := by
  cases c with
  | node form parts => exact List.mem_cons_self

theorem mem_allBelow {place : Code} {cs : List Code} :
    place ∈ allBelow cs ↔ ∃ c ∈ cs, place ∈ c.all := by
  induction cs with
  | nil => simp [allBelow]
  | cons c rest ih => simp [allBelow, ih]

mutual

/-- What is below a place of a code is below the code. -/
theorem all_subset {place : Code} : ∀ {c : Code}, place ∈ c.all → place.all ⊆ c.all
  | node form parts, h => by
    rcases List.mem_cons.1 h with rfl | hbelow
    · exact List.Subset.refl _
    · exact fun _ hmem => List.mem_cons_of_mem _ (all_subset_below hbelow hmem)

theorem all_subset_below {place : Code} : ∀ {cs : List Code}, place ∈ allBelow cs →
    place.all ⊆ allBelow cs
  | c :: rest, h => by
    rcases List.mem_append.1 h with hfirst | hrest
    · exact fun _ hmem => List.mem_append_left _ (all_subset hfirst hmem)
    · exact fun _ hmem => List.mem_append_right _ (all_subset_below hrest hmem)

end

/-- A code calls its words alike in two namings. -/
def CalledAlike (n n' : Naming) (c : Code) : Prop := ∀ place ∈ c.all, place.form.CalledAlike n n'

instance (n n' : Naming) (c : Code) : Decidable (c.CalledAlike n n') :=
  inferInstanceAs (Decidable (∀ place ∈ c.all, place.form.CalledAlike n n'))

theorem CalledAlike.form {form : Form} {parts : List Code}
    (h : (node form parts).CalledAlike n n') : form.CalledAlike n n' :=
  h _ (mem_all_self _)

theorem CalledAlike.part {form : Form} {parts : List Code} {c : Code}
    (h : (node form parts).CalledAlike n n') (hc : c ∈ parts) : c.CalledAlike n n' :=
  fun place hplace => h place (List.mem_cons_of_mem _ (mem_allBelow.2 ⟨c, hc, hplace⟩))

theorem chain?_congr : ∀ {c : Code}, c.CalledAlike n n' → c.chain? n' = c.chain? n := by
  intro c h
  fun_induction chain? n c with
  | case1 w parts => rw [chain?, h.form.2 w (by simp [Form.identifiers])]
  | case2 w parts => rw [chain?, h.form.1 w (by simp [Form.words])]
  | case3 w o rest ih =>
    rw [chain?, ih (h.part List.mem_cons_self), h.form.1 w (by simp [Form.words])]
  | case4 w o rest ih =>
    rw [chain?, ih (h.part List.mem_cons_self), h.form.1 w (by simp [Form.words])]
  | case5 e rest ih => rw [chain?, ih (h.part List.mem_cons_self)]
  | case6 c => simp_all [chain?]

theorem text?_congr : ∀ {c : Code}, c.CalledAlike n n' → c.text? n' = c.text? n := by
  intro c h
  fun_induction text? n c with
  | case1 w parts => rw [text?, h.form.1 w (by simp [Form.words])]
  | case2 e rest ih => rw [text?, ih (h.part List.mem_cons_self)]
  | case3 c => simp_all [text?]

theorem keys?_congr {c : Code} (h : c.CalledAlike n n') : c.keys? n' = c.keys? n := by
  fun_cases keys? n c with
  | case1 elements =>
    rw [keys?]
    refine congrArg some (List.filterMap_congr fun e he => ?_)
    have hwords := ((h.part he) e (mem_all_self e)).1
    cases hform : e.form <;> simp_all [Form.key?, Form.words]
  | case2 c => simp_all [keys?]

theorem view_congr {c : Code} (h : c.CalledAlike n n') : c.view n' = c.view n := by
  fun_cases view n c with
  | case1 target source =>
    rw [view, keys?_congr (h.part (by simp)), chain?_congr (h.part (by simp))]
  | case2 callee arguments =>
    have htext : arguments.head?.bind (text? n') = arguments.head?.bind (text? n) := by
      cases arguments with
      | nil => rfl
      | cons first rest => exact text?_congr (h.part (by simp))
    rw [view, chain?_congr (h.part (by simp)), htext]
  | case3 c => simp_all [view, chain?_congr h]

theorem request?_congr {c : Code} (h : c.CalledAlike n n') : c.request? n' = c.request? n := by
  fun_cases request? n c with
  | case1 w params parts hempty =>
    rw [request?, h.form.1 w (by simp [Form.words]), if_pos hempty]
  | case2 w params parts hname =>
    rw [request?, h.form.1 w (by simp [Form.words]), if_neg hname]
  | case3 c => simp_all [request?]

/-- What a code reads depends on what its words are called only. -/
theorem reads_congr {c : Code} (h : c.CalledAlike n n') {profile : Profile} {sect : Section}
    {name : Option Text} : c.Reads n' profile sect name ↔ c.Reads n profile sect name := by
  have hplace : ∀ place ∈ c.all, place.view n' = place.view n := fun place hmem =>
    view_congr fun inner hinner => h inner (all_subset hmem hinner)
  unfold Reads
  rw [request?_congr h]
  refine exists_congr fun request => and_congr_right fun _ => exists_congr fun place => ?_
  refine and_congr_right fun hmem => ?_
  rw [hplace place hmem]

end Code

end EndpointCatalog
