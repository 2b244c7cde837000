import Mathlib.Data.List.DropRight

/-!
# Windows and loops that push

A queue that keeps the last elements of what has been put into it. `List.rtake` is the window.
Whoever trims it to a bound and pushes afterwards keeps one more than the bound (`rtake_push`), also
when the trimming takes one element only (`ite_tail`).

`foldlM_push` is the rule for a loop that may fail. When the loop pushes a value for some of its
inputs and skips the others, it ends with the values of those inputs, in their order.
-/

set_option autoImplicit false
set_option relaxedAutoImplicit false

namespace CanopenTools.Runs

variable {α β ε : Type*}

/-! ### The last elements -/

theorem length_rtake (inputs : List α) (bound : ℕ) :
    (inputs.rtake bound).length = min bound inputs.length := by
  unfold List.rtake
  rw [List.length_drop]
  omega

theorem rtake_sublist (inputs : List α) (bound : ℕ) : (inputs.rtake bound).Sublist inputs :=
  List.drop_sublist _ _

/-- A smaller window of a window. -/
theorem rtake_rtake_succ (inputs : List α) (bound : ℕ) :
    (inputs.rtake (bound + 1)).rtake bound = inputs.rtake bound := by
  unfold List.rtake
  rw [List.drop_drop, List.length_drop]
  congr 1
  omega

/-- Trimming to the bound and pushing keeps one more than the bound. -/
theorem rtake_push (inputs : List α) (bound : ℕ) (last : α) :
    (inputs.rtake (bound + 1)).rtake bound ++ [last] = (inputs ++ [last]).rtake (bound + 1) := by
  rw [rtake_rtake_succ, List.rtake_concat_succ]

/-- Dropping the first element of a list that is one too long trims it. -/
theorem ite_tail {inputs : List α} {bound : ℕ} (hlength : inputs.length ≤ bound + 1) :
    (if inputs.length > bound then inputs.tail else inputs) = inputs.rtake bound := by
  unfold List.rtake
  split_ifs with hlong
  · have hone : inputs.length - bound = 1 := by omega
    rw [hone, List.drop_one]
  · have hzero : inputs.length - bound = 0 := by omega
    rw [hzero, List.drop_zero]

/-! ### Loops -/

/-- A loop that pushes a value for each input that it keeps and skips the others. -/
theorem foldlM_push {step : List β → α → Except ε (List β)} (keeps : α → Prop)
    [DecidablePred keeps] (value : α → β) {inputs : List α}
    (hstep : ∀ input ∈ inputs, ∀ pushed,
      step pushed input = .ok (if keeps input then pushed ++ [value input] else pushed))
    (pushed : List β) :
    inputs.foldlM step pushed =
      .ok (pushed ++ (inputs.filter fun input ↦ keeps input).map value) := by
  induction inputs generalizing pushed with
  | nil =>
    rw [List.filter_nil, List.map_nil, List.append_nil]
    rfl
  | cons input rest ih =>
    have hrest := ih fun other hother ↦ hstep other (List.mem_cons_of_mem _ hother)
    rw [List.foldlM_cons, hstep input List.mem_cons_self]
    refine (hrest _).trans ?_
    split_ifs with hkeeps
    · rw [List.filter_cons_of_pos (by simpa using hkeeps), List.map_cons, List.append_assoc,
        List.singleton_append]
    · rw [List.filter_cons_of_neg (by simpa using hkeeps)]

end CanopenTools.Runs
