import CanopenTools.Viewer.Gui
import Mathlib.Data.List.Induction

/-!
# Runs of the viewer

A run of the viewer is a sequence of passes of the driver, frames of the GUI and changes that the
user makes to the global filter and to the pinned filters, in any order. A frame reads what the last
pass has sent.
-/

set_option autoImplicit false
set_option relaxedAutoImplicit false

namespace CanopenTools.Viewer

/-- The driver and the GUI. -/
structure App where
  driver : Driver
  gui : Gui

/-- The steps of the viewer. -/
inductive Step
  | pass (changed : Option ControlCommand) (rcv : Rcv)
  | frame (clock : MessageCached → Instant)
  | setGlobalFilter (filter : GlobalFilter)
  | pin (filter : DataFilter) (now : Instant)
  | editPinned (row : ℕ) (filter : DataFilter)
  | unpin (row : ℕ)

/-- A frame of the GUI reads the driver. -/
def Step.IsFrame : Step → Prop
  | .frame _ => True
  | _ => False

namespace App

/-- One step. -/
def step (canopen : Canopen) (app : App) : Step → App
  | .pass changed rcv => { app with driver := app.driver.pass canopen changed rcv }
  | .frame clock =>
    { app with gui := app.gui.getDataFromDriver clock app.driver.data }
  | .setGlobalFilter filter =>
    { app with gui := { app.gui with globalFilter := filter } }
  | .pin filter now =>
    { app with
      gui := { app.gui with
        pinnedFilters := pinFilter app.gui.pinnedFilters filter app.gui.data now } }
  | .editPinned row filter =>
    { app with
      gui := { app.gui with
        pinnedFilters :=
          app.gui.pinnedFilters.modify row fun pinned ↦ { pinned with filter := filter } } }
  | .unpin row =>
    { app with
      gui := { app.gui with pinnedFilters := app.gui.pinnedFilters.eraseIdx row } }

/-- The viewer after some steps. -/
def run (canopen : Canopen) (steps : List Step) : App :=
  steps.foldl (step canopen) ⟨.new .process, .new⟩

section Runs

variable (canopen : Canopen)

theorem run_concat (steps : List Step) (step : Step) :
    run canopen (steps ++ [step]) = (run canopen steps).step canopen step := by
  rw [run, List.foldl_append]
  rfl

/-- A step that is not a frame leaves the list of the GUI and what was pushed as they are. -/
theorem step_of_not_isFrame (app : App) {step : Step} (hstep : ¬ step.IsFrame) :
    (app.step canopen step).gui.data = app.gui.data ∧
      (app.step canopen step).gui.pushed = app.gui.pushed := by
  cases step with
  | frame clock => exact absurd trivial hstep
  | _ => exact ⟨rfl, rfl⟩

/-- What a step does to the driver: nothing, or a pass. -/
theorem driver_step (app : App) (step : Step) :
    (app.step canopen step).driver = app.driver ∨
      ∃ changed rcv, (app.step canopen step).driver =
        app.driver.pass canopen changed rcv := by
  cases step with
  | pass changed rcv => exact Or.inr ⟨changed, rcv, rfl⟩
  | _ => exact Or.inl rfl

theorem windowed_run (steps : List Step) : (run canopen steps).driver.Windowed := by
  induction steps using List.reverseRecOn with
  | nil => exact Driver.windowed_new _
  | append_singleton steps step ih =>
    rw [run_concat]
    rcases driver_step canopen (run canopen steps) step with hsame | ⟨changed, rcv, hpass⟩
    · rwa [hsame]
    · rw [hpass]
      exact ih.pass canopen changed rcv

theorem index_le_step (app : App) (step : Step) :
    app.driver.index ≤ (app.step canopen step).driver.index := by
  rcases driver_step canopen app step with hsame | ⟨changed, rcv, hpass⟩
  · rw [hsame]
  · rw [hpass]
    rcases Driver.pass_cases canopen app.driver changed rcv with ⟨-, hindex⟩ | ⟨msg, -, hindex⟩
    · rw [hindex]
    · rw [hindex]
      exact Nat.le_succ _

theorem index_le_run (steps more : List Step) :
    (run canopen steps).driver.index ≤ (run canopen (steps ++ more)).driver.index := by
  induction more using List.reverseRecOn with
  | nil => rw [List.append_nil]
  | append_singleton more step ih =>
    rw [← List.append_assoc, run_concat]
    exact ih.trans (index_le_step canopen _ step)

/-- A message stays with the driver until enough newer ones have been stored. -/
theorem mem_run_of_recent {steps more : List Step} {message : MessageCached}
    (hmessage : message ∈ (run canopen steps).driver.data)
    (hrecent : (run canopen (steps ++ more)).driver.index ≤
      message.index + (maxMessagesInState + 1)) :
    message ∈ (run canopen (steps ++ more)).driver.data := by
  induction more using List.reverseRecOn with
  | nil => rwa [List.append_nil]
  | append_singleton more step ih =>
    rw [← List.append_assoc, run_concat] at hrecent ⊢
    have hbefore := ih ((index_le_step canopen _ step).trans hrecent)
    rcases driver_step canopen (run canopen (steps ++ more)) step with
      hsame | ⟨changed, rcv, hpass⟩
    · rwa [hsame]
    · rw [hpass] at hrecent ⊢
      exact (windowed_run canopen _).mem_pass canopen changed rcv hbefore hrecent

/-- Steps without a frame leave the list of the GUI and what was pushed as they are. -/
theorem run_of_not_isFrame (steps : List Step) {more : List Step}
    (hmore : ∀ step ∈ more, ¬ step.IsFrame) :
    (run canopen (steps ++ more)).gui.data = (run canopen steps).gui.data ∧
      (run canopen (steps ++ more)).gui.pushed = (run canopen steps).gui.pushed := by
  induction more using List.reverseRecOn with
  | nil => rw [List.append_nil]; exact ⟨rfl, rfl⟩
  | append_singleton more step ih =>
    rw [List.forall_mem_append, List.forall_mem_singleton] at hmore
    rw [← List.append_assoc, run_concat]
    obtain ⟨hdata, hpushed⟩ := step_of_not_isFrame canopen (run canopen (steps ++ more)) hmore.2
    exact ⟨hdata.trans (ih hmore.1).1, hpushed.trans (ih hmore.1).2⟩

/-- Induction along a run: a frame, and any other step. -/
theorem run_induction {motive : List Step → Prop} (nil : motive [])
    (frame : ∀ steps clock, motive steps → motive (steps ++ [.frame clock]))
    (other : ∀ steps step, ¬ step.IsFrame → motive steps → motive (steps ++ [step]))
    (steps : List Step) : motive steps := by
  induction steps using List.reverseRecOn with
  | nil => exact nil
  | append_singleton steps step ih =>
    by_cases hframe : step.IsFrame
    · cases step with
      | frame clock => exact frame steps clock ih
      | _ => exact absurd hframe not_false
    · exact other steps step hframe ih

/-- A frame of a run, as a whole. -/
theorem gui_run_frame (steps : List Step) (clock : MessageCached → Instant) :
    (run canopen (steps ++ [.frame clock])).gui =
      { (run canopen steps).gui with
        data := (((run canopen steps).gui.accepted (run canopen steps).driver.data).reverse ++
          (run canopen steps).gui.data).take messagesCount
        pinnedFilters := ((run canopen steps).gui.fresh (run canopen steps).driver.data).foldl
          (fun rows message ↦ pushData rows message (clock message))
          (run canopen steps).gui.pinnedFilters
        pushed := ((run canopen steps).gui.fresh (run canopen steps).driver.data).reverse ++
          (run canopen steps).gui.pushed } := by
  rw [run_concat]
  exact Gui.getDataFromDriver_eq clock _ (windowed_run canopen steps).sorted

/-- What was pushed stays pushed. -/
theorem pushed_suffix_run (steps more : List Step) :
    (run canopen steps).gui.pushed <:+ (run canopen (steps ++ more)).gui.pushed := by
  induction more using run_induction with
  | nil => exact ⟨[], by rw [List.nil_append, List.append_nil]⟩
  | frame more clock ih =>
    rw [← List.append_assoc, gui_run_frame]
    exact ih.trans (List.suffix_append _ _)
  | other more step hstep ih =>
    have hsame := (run_of_not_isFrame canopen (steps ++ more)
      (List.forall_mem_singleton.mpr hstep)).2
    rw [← List.append_assoc, hsame]
    exact ih

end Runs

end App

end CanopenTools.Viewer
