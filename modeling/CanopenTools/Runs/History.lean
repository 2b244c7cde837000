import Mathlib.Data.List.Induction

/-!
# Runs and their histories

A system takes one step after another, and `runFrom` is its state after a list of steps. What the
start satisfies and every step keeps, every run satisfies (`invariant_runFrom`).

`Since event cancel` is a property of histories: an event has happened, and nothing has cancelled it
since. `since_iff_of_flag` is the rule for it. A flag of the state that the event sets, a
cancellation resets and every other step leaves as it is, is set exactly since the event.
-/

set_option autoImplicit false
set_option relaxedAutoImplicit false

namespace CanopenTools.Runs

variable {σ ι : Type*}

/-- The state after some steps. -/
def runFrom (step : σ → ι → σ) (start : σ) (steps : List ι) : σ := steps.foldl step start

variable {step : σ → ι → σ} {start : σ}

@[simp] theorem runFrom_concat (steps : List ι) (last : ι) :
    runFrom step start (steps ++ [last]) = step (runFrom step start steps) last := by
  rw [runFrom, List.foldl_append]
  rfl

/-- What the start satisfies and every step keeps, every run satisfies. -/
theorem invariant_runFrom {invariant : σ → Prop} (hstart : invariant start)
    (hstep : ∀ state input, invariant state → invariant (step state input)) (steps : List ι) :
    invariant (runFrom step start steps) := by
  induction steps using List.reverseRecOn with
  | nil => exact hstart
  | append_singleton steps last ih =>
    rw [runFrom_concat]
    exact hstep _ last ih

/-- An event has happened in a run, and nothing has cancelled it since. Both may depend on the state
before the step. -/
inductive Since (step : σ → ι → σ) (start : σ) (event cancel : σ → ι → Prop) : List ι → Prop
  | now {steps : List ι} {last : ι} (hevent : event (runFrom step start steps) last) :
    Since step start event cancel (steps ++ [last])
  | keep {steps : List ι} {last : ι} (hbefore : Since step start event cancel steps)
    (hcancel : ¬ cancel (runFrom step start steps) last) :
    Since step start event cancel (steps ++ [last])

/-- A flag that the event sets, a cancellation resets and every other step leaves as it is. -/
theorem since_iff_of_flag {event cancel : σ → ι → Prop} (flag : σ → Prop) (hstart : ¬ flag start)
    (hset : ∀ state input, event state input → flag (step state input))
    (hreset : ∀ state input, ¬ event state input → cancel state input →
      ¬ flag (step state input))
    (hhold : ∀ state input, ¬ event state input → ¬ cancel state input →
      (flag (step state input) ↔ flag state)) (steps : List ι) :
    Since step start event cancel steps ↔ flag (runFrom step start steps) := by
  constructor
  · intro hsince
    induction hsince with
    | @now steps last hevent =>
      rw [runFrom_concat]
      exact hset _ _ hevent
    | @keep steps last _ hcancel ih =>
      rw [runFrom_concat]
      by_cases hevent : event (runFrom step start steps) last
      · exact hset _ _ hevent
      · exact (hhold _ _ hevent hcancel).mpr ih
  · intro hflag
    induction steps using List.reverseRecOn with
    | nil => exact absurd hflag hstart
    | append_singleton steps last ih =>
      rw [runFrom_concat] at hflag
      by_cases hevent : event (runFrom step start steps) last
      · exact .now hevent
      · by_cases hcancel : cancel (runFrom step start steps) last
        · exact absurd hflag (hreset _ _ hevent hcancel)
        · exact .keep (ih ((hhold _ _ hevent hcancel).mp hflag)) hcancel

end CanopenTools.Runs
