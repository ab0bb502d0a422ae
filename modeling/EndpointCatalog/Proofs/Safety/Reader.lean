/-
EndpointCatalog.Proofs.Safety.Reader — what readers give.

`Gives Q p` says that whatever the reader `p` gives has the property `Q`, in
whichever state it starts. No tree is kept in the state, so that what comes
before a step matters only through the trees that were read.

Each way to build a reader from others has its law, named after it. A step
whose result is no tree is passed by `Gives.skip`.
-/
import EndpointCatalog.Estree.Parser.Module
import EndpointCatalog.Proofs.Safety.Node

namespace EndpointCatalog.Estree

/-- Whatever a reader gives has a property. -/
def Gives {α : Type} (Q : α → Prop) (p : P α) : Prop :=
  ∀ s a s', p.run s = .ok (a, s') → Q a

namespace Gives

variable {α β : Type} {Q R : α → Prop} {S : β → Prop} {p : P α} {depth : Nat}

theorem mono (h : Gives Q p) (himp : ∀ a, Q a → R a) : Gives R p :=
  fun s a s' hrun => himp a (h s a s' hrun)

theorem any (p : P α) : Gives (fun _ => True) p := fun _ _ _ _ => trivial

theorem succ {p : P Tree} (h : Gives (Sound depth) p) : Gives (Sound (depth + 1)) p :=
  h.mono fun _ ht => ht.succ

/-! ## Sequences -/

theorem pure {a : α} (h : Q a) : Gives Q (pure a) := by
  intro s b s' hrun
  cases hrun
  exact h

theorem bind {f : α → P β} (hp : Gives Q p) (hf : ∀ a, Q a → Gives S (f a)) :
    Gives S (p >>= f) := by
  intro s b s' hrun
  rw [StateT.run_bind] at hrun
  cases hp' : p.run s with
  | error e => rw [hp'] at hrun; cases hrun
  | ok r =>
    obtain ⟨a, between⟩ := r
    rw [hp'] at hrun
    exact hf a (hp s a between hp') between b s' hrun

theorem skip {f : α → P β} (hf : ∀ a, Gives S (f a)) : Gives S (p >>= f) :=
  bind (any p) fun a _ => hf a

/-- The same for a step that gives a tree and something that is none. -/
theorem bindPair {γ : Type} {p : P (α × γ)} {f : α × γ → P β} (hp : Gives (fun r => Q r.1) p)
    (hf : ∀ a c, Q a → Gives S (f (a, c))) : Gives S (p >>= f) :=
  bind hp fun r hr => hf r.1 r.2 hr

theorem ite {c : Prop} [Decidable c] {p q : P α} (hp : Gives Q p) (hq : Gives Q q) :
    Gives Q (if c then p else q) := by
  split
  · exact hp
  · exact hq

/-! ## Ends -/

theorem stop (e : Stop) : Gives Q (stop e) := by
  intro s a s' hrun
  cases hrun

theorem failHere (fault : SyntaxFault) : Gives Q (failHere fault) := skip fun _ => stop _

theorem failAt (t : Token) : Gives Q (failAt t) := skip fun _ => stop _

theorem failAtRestriction (place : Restriction) (fault : SyntaxFault) :
    Gives Q (failAtRestriction place fault) := by
  cases place with
  | none => exact failHere fault
  | some line => exact stop _

theorem finish {n : Tree} (h : Sound depth n) (start : Place) :
    Gives (Sound depth) (finish start n) := skip fun _ => pure (h.located _ _)

theorem finishFrom {n : Tree} (h : Sound depth n) (token : Token) :
    Gives (Sound depth) (finishFrom token n) := finish h _

theorem finishPair {γ : Type} {n : Tree} (h : Sound depth n) (start : Place) (x : γ) :
    Gives (fun found : Tree × γ => Sound depth found.1)
      (Estree.finish start n >>= fun n => Pure.pure (n, x)) :=
  bind (finish h start) fun _ hn => pure hn

/-! ## Contexts -/

theorem isolated (h : Gives Q p) : Gives Q (isolated p) := by
  unfold Estree.isolated
  refine skip fun _ => skip fun _ => bind h fun a ha => skip fun c => ?_
  split
  · exact failAt _
  · exact skip fun _ => pure ha

theorem inherited (h : Gives Q p) : Gives Q (inherited p) := by
  unfold Estree.inherited
  exact skip fun _ => skip fun _ => bind h fun a ha => skip fun _ => pure ha

theorem withoutIn (h : Gives Q p) : Gives Q (withoutIn p) := by
  unfold Estree.withoutIn
  exact skip fun _ => skip fun _ => bind h fun a ha => skip fun _ => pure ha

theorem within {change restore : Context → Context → Context} {p : P Tree} {Q : Tree → Prop}
    (h : Gives Q p) : Gives Q (within change restore p) := by
  unfold Estree.within
  exact skip fun _ => skip fun _ => bind h fun a ha => skip fun _ => pure ha

/-! ## Repetition -/

/-- What a repeated step keeps of what was found so far holds when it gives a result. -/
theorem repeatUpTo {I : α → Prop} {step : α → P (α ⊕ β)}
    (hstep : ∀ x, I x → Gives (Sum.elim I S) (step x)) (bound : Nat) {x : α} (hx : I x) :
    Gives S (repeatUpTo step bound x) := by
  induction bound generalizing x with
  | zero => exact stop _
  | succ bound ih =>
    rw [Estree.repeatUpTo]
    refine bind (hstep x hx) fun r hr => ?_
    cases r with
    | inl next => exact ih hr
    | inr result => exact pure hr

theorem repeating {I : α → Prop} {step : α → P (α ⊕ β)} {start : α} (hstart : I start)
    (hstep : ∀ x, I x → Gives (Sum.elim I S) (step x)) : Gives S (repeating start step) :=
  skip fun _ => repeatUpTo hstep _ hstart

theorem readUntil {isDone : P Bool} {item : P α} (h : Gives Q item) :
    Gives (fun found => ∀ x ∈ found, Q x) (readUntil isDone item) := by
  unfold Estree.readUntil
  refine bind (Q := fun found : List α => ∀ x ∈ found, Q x) ?_ fun found hfound => pure ?_
  · refine repeating (I := fun found => ∀ x ∈ found, Q x) (by simp) fun found hfound => ?_
    refine skip fun _ => ite (pure hfound) (bind h fun x hx => pure ?_)
    exact List.forall_mem_cons.mpr ⟨hx, hfound⟩
  · simpa using hfound

/-- A step that is done for each item of a list keeps a property. -/
theorem foldlM {I : β → Prop} {step : β → α → P β} {items : List α}
    (hstep : ∀ x ∈ items, ∀ b, I b → Gives I (step b x)) {b : β} (hb : I b) :
    Gives I (items.foldlM step b) := by
  induction items generalizing b with
  | nil => exact pure hb
  | cons x rest ih =>
    rw [List.foldlM_cons]
    exact bind (hstep x (.head rest) b hb) fun next hnext =>
      ih (fun y hy => hstep y (.tail x hy)) hnext

end Gives

end EndpointCatalog.Estree
