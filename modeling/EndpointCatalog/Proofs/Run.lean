/-
EndpointCatalog.Proofs.Run — actions taken apart into their steps.

Actions read and change a state, and end in a result or in an error; what
they have done to the state before an error stays done (`run_bind`).

* `Returns x a`: the action ends in this result, from some state.
* `Ensures P Q x`: the action leaves a state with `Q` behind it if it starts
  in one with `P`, however it ends.
-/
import EndpointCatalog.Log

namespace EndpointCatalog

variable {σ ε α β : Type}

theorem run_pure (a : α) (s : σ) :
    (ExceptT.run (pure a : ExceptT ε (StateM σ) α)).run s = (.ok a, s) := rfl

theorem run_throw (e : ε) (s : σ) :
    (ExceptT.run (throw e : ExceptT ε (StateM σ) α)).run s = (.error e, s) := rfl

/-- The second step starts from the state that the first one leaves, and only if that one has a
result. -/
theorem run_bind (x : ExceptT ε (StateM σ) α) (f : α → ExceptT ε (StateM σ) β) (s : σ) :
    (ExceptT.run (x >>= f)).run s = match (ExceptT.run x).run s with
      | (.ok a, next) => (ExceptT.run (f a)).run next
      | (.error e, next) => (.error e, next) := by
  rw [ExceptT.run_bind, StateT.run_bind]
  cases (ExceptT.run x).run s with
  | mk result next => cases result <;> rfl

/-- A sequence of steps ends in the error of its first step that fails. -/
theorem run_bind_error_iff {x : ExceptT ε (StateM σ) α} {f : α → ExceptT ε (StateM σ) β} {s : σ}
    {e : ε} : ((ExceptT.run (x >>= f)).run s).1 = .error e ↔
      ((ExceptT.run x).run s).1 = .error e ∨ ∃ a next, (ExceptT.run x).run s = (.ok a, next) ∧
        ((ExceptT.run (f a)).run next).1 = .error e := by
  rw [run_bind]
  obtain ⟨ending, next⟩ := (ExceptT.run x).run s
  cases ending with
  | error e' =>
    constructor
    · intro h
      exact .inl (by cases h; rfl)
    · rintro (h | ⟨a, next, h, -⟩)
      · cases h
        rfl
      · cases h
  | ok a =>
    constructor
    · exact fun h => .inr ⟨a, next, rfl, h⟩
    · rintro (h | ⟨a, next, h, hf⟩)
      · cases h
      · cases h
        exact hf

theorem run_modify (f : σ → σ) (s : σ) :
    (ExceptT.run (modify f : ExceptT ε (StateM σ) PUnit)).run s = (.ok ⟨⟩, f s) := rfl

theorem run_get (s : σ) : (ExceptT.run (get : ExceptT ε (StateM σ) σ)).run s = (.ok s, s) := rfl

theorem run_set (s next : σ) :
    (ExceptT.run (set next : ExceptT ε (StateM σ) PUnit)).run s = (.ok ⟨⟩, next) := rfl

/-- An error is handled in the state that it leaves. -/
theorem run_tryCatch (x : ExceptT ε (StateM σ) α) (handle : ε → ExceptT ε (StateM σ) α) (s : σ) :
    (ExceptT.run (tryCatch x handle)).run s = match (ExceptT.run x).run s with
      | (.ok a, next) => (.ok a, next)
      | (.error e, next) => (ExceptT.run (handle e)).run next := by
  show (ExceptT.run x >>= fun ending => match ending with
    | .ok a => pure (.ok a)
    | .error e => ExceptT.run (handle e)).run s = _
  rw [StateT.run_bind]
  cases (ExceptT.run x).run s with
  | mk ending next => cases ending <;> rfl

/-- The action ends in a result. -/
def Returns (x : ExceptT ε (StateM σ) α) (a : α) : Prop :=
  ∃ before after : σ, (ExceptT.run x).run before = (.ok a, after)

theorem Returns.of_pure {a b : α} (h : Returns (pure a : ExceptT ε (StateM σ) α) b) : a = b := by
  obtain ⟨before, after, h⟩ := h
  cases h
  rfl

theorem not_returns_throw (e : ε) (a : α) :
    ¬ Returns (throw e : ExceptT ε (StateM σ) α) a := by
  rintro ⟨before, after, h⟩
  cases h

/-- A sequence of steps ends in a result only if each of them does. -/
theorem Returns.of_bind {x : ExceptT ε (StateM σ) α} {f : α → ExceptT ε (StateM σ) β} {b : β}
    (h : Returns (x >>= f) b) : ∃ a, Returns x a ∧ Returns (f a) b := by
  obtain ⟨before, after, h⟩ := h
  rw [run_bind] at h
  cases hx : (ExceptT.run x).run before with
  | mk result next =>
    rw [hx] at h
    cases result with
    | ok a => exact ⟨a, ⟨before, next, hx⟩, ⟨next, after, h⟩⟩
    | error e => cases h

/-- From a state with one property the action comes to a state with another one, whether it ends in
a result or in an error. -/
def Ensures (P Q : σ → Prop) (x : ExceptT ε (StateM σ) α) : Prop :=
  ∀ s, P s → Q ((ExceptT.run x).run s).2

namespace Ensures

variable {P Q R : σ → Prop}

theorem pure {a : α} (h : ∀ s, P s → Q s) : Ensures P Q (pure a : ExceptT ε (StateM σ) α) := h

theorem throw {e : ε} (h : ∀ s, P s → Q s) : Ensures P Q (throw e : ExceptT ε (StateM σ) α) := h

theorem modify {f : σ → σ} (h : ∀ s, P s → Q (f s)) :
    Ensures P Q (modify f : ExceptT ε (StateM σ) PUnit) := h

/-- The first action may be the last one, if it ends in an error. -/
theorem bind {x : ExceptT ε (StateM σ) α} {f : α → ExceptT ε (StateM σ) β} (hx : Ensures P Q x)
    (hf : ∀ a, Ensures Q R (f a)) (hqr : ∀ s, Q s → R s) : Ensures P R (x >>= f) := by
  intro s hs
  have hnext := hx s hs
  rw [run_bind]
  cases hrun : (ExceptT.run x).run s with
  | mk ending next =>
    rw [hrun] at hnext
    cases ending with
    | ok a => exact hf a next hnext
    | error e => exact hqr next hnext

end Ensures

end EndpointCatalog
