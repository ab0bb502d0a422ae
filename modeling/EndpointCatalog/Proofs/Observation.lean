/-
EndpointCatalog.Proofs.Observation — runs whose steps are written down.

`Steps.observed` takes the same steps and writes each of them down with its
ending. `Observes x y P` ties an action to the same one unobserved: both end
alike and leave the same state, and `P` holds of the ending and of the steps
that have been written down on the way. It is shown for a run part by part
(`Observes.bind`, `Observes.thenAlways`).
-/
import EndpointCatalog.Discovery
import EndpointCatalog.Proofs.Run

namespace EndpointCatalog

/-- A step of a run, with its ending. -/
inductive Step (ε : Type) where
  | acquire (locator : String) (token : Option String) (ending : Except ε Remote.Checkout)
  | expandHome (p : Path) (ending : Except ε Path)
  | detect (root : Path) (ending : Except ε (Profile × Binary64))
  | catalog (root : Path) (ending : Except ε (List EndpointRecord))
  | release (copy : Remote.Checkout) (ending : Except ε Unit)

variable {σ ε α β : Type}

/-- The error of an ending, if it is one. -/
def failures : Except ε α → List ε
  | .ok _ => []
  | .error e => [e]

namespace Step

/-- The error that the step ends in. -/
def failures : Step ε → List ε
  | acquire _ _ ending => EndpointCatalog.failures ending
  | expandHome _ ending => EndpointCatalog.failures ending
  | detect _ ending => EndpointCatalog.failures ending
  | catalog _ ending => EndpointCatalog.failures ending
  | release _ ending => EndpointCatalog.failures ending

/-- The copy that the step hands over. -/
def handed : Step ε → List Remote.Checkout
  | acquire _ _ (.ok copy) => [copy]
  | _ => []

/-- The copy that the step is to remove. -/
def released : Step ε → List Remote.Checkout
  | release copy _ => [copy]
  | _ => []

/-- What is asked for if the step is to copy a source. -/
def asked : Step ε → List (String × Option String)
  | acquire locator token _ => [(locator, token)]
  | _ => []

/-- The source tree that the step reads. -/
def read : Step ε → List Path
  | detect root _ => [root]
  | catalog root _ => [root]
  | _ => []

end Step

/-! ## Last steps -/

/-- What is done last starts from the state that the action leaves, however that one ends. -/
theorem run_thenAlways (x : ExceptT ε (StateM σ) α) (last : ExceptT ε (StateM σ) Unit) (s : σ) :
    (ExceptT.run (Acting.thenAlways x last)).run s =
      match (ExceptT.run last).run ((ExceptT.run x).run s).2 with
      | (.ok _, after) => (((ExceptT.run x).run s).1, after)
      | (.error e, after) => (.error e, after) := by
  unfold Acting.thenAlways
  simp only [run_bind, run_tryCatch, run_pure]
  obtain ⟨ending, next⟩ := (ExceptT.run x).run s
  cases hlast : (ExceptT.run last).run next with
  | mk lastEnding after => cases ending <;> cases lastEnding <;> simp only [hlast] <;> rfl

/-! ## Observed steps -/

/-- An action that writes its ending down as a step. -/
def observe (step : Except ε α → Step ε) (x : ExceptT ε (StateM σ) α) :
    ExceptT ε (StateM (σ × List (Step ε))) α := fun s =>
  let (ending, next) := (ExceptT.run x).run s.1
  (ending, next, s.2 ++ [step ending])

/-- The same steps, written down. -/
def Steps.observed (steps : Steps σ ε) : Steps (σ × List (Step ε)) ε where
  note entry s := (steps.note entry s.1, s.2)
  acquire locator token := observe (.acquire locator token) (steps.acquire locator token)
  release copy := observe (.release copy) (steps.release copy)
  expandHome p := observe (.expandHome p) (steps.expandHome p)
  detect root := observe (.detect root) (steps.detect root)
  catalog search ignored seenFrom root :=
    observe (.catalog root) (steps.catalog search ignored seenFrom root)
  ofFailure := steps.ofFailure

/-! ## What is observed -/

/-- The first action ends and works as the second one does, and what it writes down goes with the
ending in the way that `P` tells. -/
def Observes (x : ExceptT ε (StateM (σ × List (Step ε))) α) (y : ExceptT ε (StateM σ) α)
    (P : Except ε α → List (Step ε) → Prop) : Prop :=
  ∀ s before, ∃ taken,
    (ExceptT.run x).run (s, before) =
      (((ExceptT.run y).run s).1, ((ExceptT.run y).run s).2, before ++ taken) ∧
    P ((ExceptT.run y).run s).1 taken

namespace Observes

variable {x : ExceptT ε (StateM (σ × List (Step ε))) α} {y : ExceptT ε (StateM σ) α}
  {P P' : Except ε α → List (Step ε) → Prop}

theorem pure {a : α} (h : P (.ok a) []) : Observes (σ := σ) (pure a) (pure a) P := by
  intro s before
  refine ⟨[], ?_, h⟩
  rw [run_pure, run_pure, List.append_nil]

theorem throw {e : ε} (h : P (.error e) []) : Observes (σ := σ) (throw e) (throw e) P := by
  intro s before
  refine ⟨[], ?_, h⟩
  rw [run_throw, run_throw, List.append_nil]

theorem observe {step : Except ε α → Step ε} (h : ∀ ending, P ending [step ending]) :
    Observes (EndpointCatalog.observe step y) y P := by
  intro s before
  exact ⟨[step ((ExceptT.run y).run s).1], rfl, h _⟩

/-- Writing a line of the log is no step. -/
theorem note {f : σ → σ} {P : Except ε Unit → List (Step ε) → Prop} (h : P (.ok ()) []) :
    Observes (modify fun s => (f s.1, s.2)) (modify f) P := by
  intro s before
  refine ⟨[], ?_, h⟩
  rw [List.append_nil]
  rfl

/-- What the second action writes down stands behind what the first one does. An error of the first
action is the error of both. -/
theorem bind {f : α → ExceptT ε (StateM (σ × List (Step ε))) β} {g : α → ExceptT ε (StateM σ) β}
    {Q : α → Except ε β → List (Step ε) → Prop} {R : Except ε β → List (Step ε) → Prop}
    (hx : Observes x y P) (hf : ∀ a, Observes (f a) (g a) (Q a))
    (hok : ∀ a ending first rest, P (.ok a) first → Q a ending rest → R ending (first ++ rest))
    (herror : ∀ e taken, P (.error e) taken → R (.error e) taken) :
    Observes (x >>= f) (y >>= g) R := by
  intro s before
  obtain ⟨first, hrun, hfirst⟩ := hx s before
  rw [run_bind, run_bind, hrun]
  cases hy : (ExceptT.run y).run s with
  | mk ending next =>
    rw [hy] at hfirst
    cases ending with
    | error e => exact ⟨first, rfl, herror e first hfirst⟩
    | ok a =>
      obtain ⟨rest, hrest, hq⟩ := hf a next (before ++ first)
      refine ⟨first ++ rest, ?_, hok a _ first rest hfirst hq⟩
      rw [← List.append_assoc]
      exact hrest

/-- What is done last is done in any case. -/
theorem thenAlways {l : ExceptT ε (StateM (σ × List (Step ε))) Unit}
    {m : ExceptT ε (StateM σ) Unit} {Q : Except ε Unit → List (Step ε) → Prop}
    {R : Except ε α → List (Step ε) → Prop} (hx : Observes x y P) (hl : Observes l m Q)
    (hok : ∀ ending first rest, P ending first → Q (.ok ()) rest → R ending (first ++ rest))
    (herror : ∀ ending first e rest, P ending first → Q (.error e) rest →
      R (.error e) (first ++ rest)) :
    Observes (Acting.thenAlways x l) (Acting.thenAlways y m) R := by
  intro s before
  obtain ⟨first, hrun, hfirst⟩ := hx s before
  rw [run_thenAlways, run_thenAlways, hrun]
  obtain ⟨rest, hlast, hrest⟩ := hl ((ExceptT.run y).run s).2 (before ++ first)
  rw [List.append_assoc] at hlast
  refine ⟨first ++ rest, ?_⟩
  rw [hlast]
  revert hrest
  obtain ⟨lastEnding, after⟩ := (ExceptT.run m).run ((ExceptT.run y).run s).2
  intro hrest
  cases lastEnding with
  | ok => exact ⟨rfl, hok _ first rest hfirst hrest⟩
  | error e => exact ⟨rfl, herror _ first e rest hfirst hrest⟩

end Observes

end EndpointCatalog
