/-
EndpointCatalog.Loop — loops that work off what is pending.

A round of a loop gives another state, or the result. No rounds follow each
other without end, so that a loop has a result from every state; as a rule
because there is a number that each round makes smaller
(`wellFounded_of_pending`).

* `Loop.Ends`: the loop ends with a result, said round by round.
  `Loop.run` computes that result, and there is no other (`ends_iff`).
* `Loop.Comes`: the states that the loop comes by.
* `run_of_invariant`: what each round keeps says something of the result.
-/

namespace EndpointCatalog

/-- A loop by its round. -/
structure Loop (σ β : Type) where
  round : σ → σ ⊕ β
  /-- No rounds follow each other without end. -/
  wellFounded : WellFounded fun t s => round s = .inl t

namespace Loop

variable {σ β : Type}

/-- Rounds that make some number smaller come to an end. -/
theorem wellFounded_of_pending {round : σ → σ ⊕ β} (pending : σ → Nat)
    (h : ∀ {s t}, round s = .inl t → pending t < pending s) :
    WellFounded fun t s => round s = .inl t :=
  Subrelation.wf h (measure pending).wf

variable (loop : Loop σ β)

/-- The result of the loop. -/
def run (s : σ) : β :=
  match _h : loop.round s with
  | .inl t => run t
  | .inr b => b
termination_by loop.wellFounded.wrap s
decreasing_by exact _h

/-- The loop ends with a result after finitely many rounds. -/
inductive Ends : σ → β → Prop where
  | stop {s : σ} {b : β} : loop.round s = .inr b → Ends s b
  | next {s t : σ} {b : β} : loop.round s = .inl t → Ends t b → Ends s b

/-- The states that the loop comes by on its way from a state. -/
inductive Comes (start : σ) : σ → Prop where
  | start : Comes start start
  | next {s t : σ} : Comes start s → loop.round s = .inl t → Comes start t

variable {loop}

theorem run_of_inl {s t : σ} (h : loop.round s = .inl t) : loop.run s = loop.run t := by
  rw [run]
  split
  · rename_i next hnext
    rw [Sum.inl.inj (hnext.symm.trans h)]
  · rename_i b hb
    cases hb.symm.trans h

theorem run_of_inr {s : σ} {b : β} (h : loop.round s = .inr b) : loop.run s = b := by
  rw [run]
  split
  · rename_i next hnext
    cases hnext.symm.trans h
  · rename_i b' hb
    exact Sum.inr.inj (hb.symm.trans h)

/-- A loop has a result from every state. -/
theorem ends_run (s : σ) : loop.Ends s (loop.run s) := by
  induction s using run.induct loop with
  | case1 s t h ih =>
    rw [run_of_inl h]
    exact .next h ih
  | case2 s b h =>
    rw [run_of_inr h]
    exact .stop h

/-- A loop has one result. -/
theorem ends_iff {s : σ} {b : β} : loop.Ends s b ↔ b = loop.run s := by
  constructor
  · intro h
    induction h with
    | stop h => exact (run_of_inr h).symm
    | next h _ ih => exact ih.trans (run_of_inl h).symm
  · rintro rfl
    exact ends_run s

/-- If each round keeps what holds at the start, it holds of every state that the loop comes by. -/
theorem Comes.invariant {P : σ → Prop} (hround : ∀ {s t}, P s → loop.round s = .inl t → P t)
    {start s : σ} (h : loop.Comes start s) (hstart : P start) : P s := by
  induction h with
  | start => exact hstart
  | next _ hnext ih => exact hround ih hnext

/-- What each round keeps holds when the loop ends. -/
theorem run_of_invariant {P : σ → Prop} {Q : β → Prop}
    (hround : ∀ {s t}, P s → loop.round s = .inl t → P t)
    (hend : ∀ {s b}, P s → loop.round s = .inr b → Q b) {s : σ} (h : P s) : Q (loop.run s) := by
  induction s using run.induct loop with
  | case1 s t hnext ih =>
    rw [run_of_inl hnext]
    exact ih (hround h hnext)
  | case2 s b hstop =>
    rw [run_of_inr hstop]
    exact hend h hstop

end Loop

end EndpointCatalog
