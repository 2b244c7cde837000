import CanopenTools.Runs.History
import Mathlib.Data.Prod.Lex
import Mathlib.Order.Filter.AtTopBot.Basic

/-!
# What happens at last in an infinite run

An infinite run takes one step after another without end (`states`), and each of its states is the
last of a finite run (`states_runFrom`), so that invariants hold of it. For liveness a rank in a
well-founded order that never grows shows that a goal is reached at last, if again and again the
goal is reached or the rank drops (`eventually_of_rank`). Fairness is such an assumption: again and
again a thread takes a step, or there is none left to take.
-/

set_option autoImplicit false
set_option relaxedAutoImplicit false

namespace CanopenTools.Runs

open Filter

variable {σ ι : Type*}

/-- The states of an infinite run. -/
def states (step : σ → ι → σ) (start : σ) (inputs : ℕ → ι) : ℕ → σ
  | 0 => start
  | time + 1 => step (states step start inputs time) (inputs time)

/-- The states of an infinite run behind a finite one are the states of finite runs. -/
theorem states_runFrom (step : σ → ι → σ) (start : σ) (earlier : List ι) (inputs : ℕ → ι)
    (time : ℕ) : states step (runFrom step start earlier) inputs time =
      runFrom step start (earlier ++ (List.range time).map inputs) := by
  induction time with
  | zero => simp [states]
  | succ time ih =>
    rw [states, ih, List.range_succ, List.map_append, ← List.append_assoc, List.map_singleton,
      runFrom_concat]

/-- What stays once it holds, and holds at some time, holds from some time on. -/
theorem eventually_of_stays {goal : ℕ → Prop} {time : ℕ}
    (hstays : ∀ later ≥ time, goal later → goal (later + 1)) (hgoal : goal time) :
    ∀ᶠ later in atTop, goal later := by
  refine eventually_atTop.mpr ⟨time, fun later hlater ↦ ?_⟩
  induction later, hlater using Nat.le_induction with
  | base => exact hgoal
  | succ later hlater ih => exact hstays later hlater ih

/-- A rank that never grows, and again and again the goal or a drop of the rank: the goal is reached
at last. -/
theorem eventually_of_rank {ρ : Type*} [Preorder ρ] [WellFoundedLT ρ] (rank : ℕ → ρ)
    {goal : ℕ → Prop} (hrank : ∀ᶠ time in atTop, rank (time + 1) ≤ rank time)
    (hstays : ∀ᶠ time in atTop, goal time → goal (time + 1))
    (hprogress : ∃ᶠ time in atTop, goal time ∨ rank (time + 1) < rank time) :
    ∀ᶠ time in atTop, goal time := by
  obtain ⟨start, hstart⟩ := eventually_atTop.mp (hrank.and hstays)
  -- The least rank that occurs from there on cannot drop any more.
  obtain ⟨least, ⟨time, htime, rfl⟩, hleast⟩ := wellFounded_lt.has_min
    {value | ∃ time ≥ start, rank time = value} ⟨rank start, start, le_rfl, rfl⟩
  have hbelow : ∀ later ≥ time, rank later ≤ rank time := by
    intro later hlater
    induction later, hlater using Nat.le_induction with
    | base => exact le_rfl
    | succ later hlater ih => exact (hstart later (htime.trans hlater)).1.trans ih
  obtain ⟨later, hlater, hgoal | hdrop⟩ := frequently_atTop.mp hprogress time
  · exact eventually_of_stays (fun other hother ↦ (hstart other
      (htime.trans (hlater.trans hother))).2) hgoal
  · exact absurd (hdrop.trans_le (hbelow later hlater))
      (hleast _ ⟨later + 1, htime.trans (hlater.trans (Nat.le_succ later)), rfl⟩)

end CanopenTools.Runs
