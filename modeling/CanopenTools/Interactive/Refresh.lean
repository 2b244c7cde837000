import CanopenTools.Interactive.EventMonitor
import CanopenTools.Runs.History

/-!
# No lost screen refresh

Three threads of `co.py` share the event flag `force_refresh` and the flag `in_main_menu`. The
listener changes the tables of the monitor in a callback and then sets the event. The refresh thread
waits for the event, clears it, tests whether the main thread is in the main menu, and if so
renders. The main thread sets `in_main_menu`, renders, reads a line, clears `in_main_menu` and runs
an operation, in which it may unsubscribe and so change the tables and set the event too.

A table change is visible on the screen when a render came after it. `Covered` says how a change
whose event was set is on its way to the screen, `Sound` is the invariant, and `refresh_not_lost`
the result: when the refresh thread waits on a clear event and the main thread waits for input,
every such change is on the screen.
-/

set_option autoImplicit false
set_option relaxedAutoImplicit false

namespace CanopenTools.Interactive.Refresh

open Runs

/-! ### The three threads -/

/-- A change of the tables of shown values under the lock. -/
inductive Change
  | store (key : Key) (shown : Shown)
  | pop (key : Key)
  deriving DecidableEq, Repr

/-- Where the refresh thread is in `refresh_loop`: before the action that is named. -/
inductive RefreshAt
  | wait
  | clear
  | test
  | render
  deriving DecidableEq, Repr

/-- Where the main thread is in the loop of `main`: before the action that is named, in `input("")`,
or in an operation, with the number of the change that it has still to set the event for. -/
inductive MainAt
  | setMenu
  | render
  | input
  | clearMenu
  | operation (unset : Option ℕ)
  deriving DecidableEq, Repr

/-- The main thread renders before it waits for input again. -/
def MainAt.RendersFirst : MainAt → Prop
  | .setMenu | .render | .operation _ => True
  | .input | .clearMenu => False

/-- The main thread is past the clearing of `in_main_menu` and before its setting. -/
def MainAt.OutOfMenu : MainAt → Prop
  | .setMenu | .operation _ => True
  | .render | .input | .clearMenu => False

theorem MainAt.OutOfMenu.rendersFirst {main : MainAt} (hmain : main.OutOfMenu) :
    main.RendersFirst := by
  cases main <;> trivial

/-- The state of the three threads. The tables are the changes made to them, numbered from zero, and
`screen` is the part of them that the last `render_monitor` has seen. `listener` is the number of
the change that a callback has still to set the event for. `announced` records the changes whose
`force_refresh.set()` was executed. -/
structure Threads where
  changes : List Change := []
  screen : List Change := []
  announced : List ℕ := []
  forceRefresh : Bool := false
  inMainMenu : Bool := true
  listener : Option ℕ := none
  refresh : RefreshAt := .wait
  main : MainAt := .setMenu
  deriving DecidableEq, Repr

/-- The atomic actions of the listener, the refresh thread and the main thread. -/
inductive Action
  | callbackChange (change : Change)
  | callbackSet
  | refreshWait
  | refreshClear
  | refreshTest
  | refreshRender
  | mainSetMenu
  | mainRender
  | mainRead
  | mainClearMenu
  | mainUnsubscribe (change : Change)
  | mainSet
  | mainReturn
  deriving DecidableEq, Repr

namespace Threads

/-- `force_refresh.set()`, for the change with a number. -/
def set (threads : Threads) (number : ℕ) : Threads :=
  { threads with forceRefresh := true, announced := number :: threads.announced }

/-- `render_full`: `render_monitor` prints the tables under the lock. -/
def renderFull (threads : Threads) : Threads := { threads with screen := threads.changes }

/-- One action. An action of a thread that is elsewhere changes nothing. -/
def step (threads : Threads) : Action → Threads
  | .callbackChange change =>
    match threads.listener with
    | none =>
      { threads with
        changes := threads.changes ++ [change]
        listener := some threads.changes.length }
    | some _ => threads
  | .callbackSet =>
    match threads.listener with
    | none => threads
    | some number => { threads.set number with listener := none }
  | .refreshWait =>
    if threads.refresh = .wait ∧ threads.forceRefresh then { threads with refresh := .clear }
    else threads
  | .refreshClear =>
    if threads.refresh = .clear then { threads with forceRefresh := false, refresh := .test }
    else threads
  | .refreshTest =>
    if threads.refresh = .test then
      { threads with refresh := if threads.inMainMenu then .render else .wait }
    else threads
  | .refreshRender =>
    if threads.refresh = .render then { threads.renderFull with refresh := .wait } else threads
  | .mainSetMenu =>
    if threads.main = .setMenu then { threads with inMainMenu := true, main := .render }
    else threads
  | .mainRender =>
    if threads.main = .render then { threads.renderFull with main := .input } else threads
  | .mainRead => if threads.main = .input then { threads with main := .clearMenu } else threads
  | .mainClearMenu =>
    if threads.main = .clearMenu then
      { threads with inMainMenu := false, main := .operation none }
    else threads
  | .mainUnsubscribe change =>
    if threads.main = .operation none then
      { threads with
        changes := threads.changes ++ [change]
        main := .operation (some threads.changes.length) }
    else threads
  | .mainSet =>
    match threads.main with
    | .operation (some number) => { threads.set number with main := .operation none }
    | _ => threads
  | .mainReturn =>
    if threads.main = .operation none then { threads with main := .setMenu } else threads

/-- The threads after some actions, from the start of the refresh thread on. -/
def run (actions : List Action) : Threads := runFrom step {} actions

/-! ### The invariant -/

/-- A change is on the screen, or a render is still to come: the event is set, the refresh thread
has cleared it and not come back to its wait, or the main thread renders before it waits for input.
-/
def Covered (threads : Threads) (number : ℕ) : Prop :=
  number < threads.screen.length ∨ threads.forceRefresh = true ∨ threads.refresh = .test ∨
    threads.refresh = .render ∨ threads.main.RendersFirst

/-- What holds of the threads after any actions. -/
structure Sound (threads : Threads) : Prop where
  screen_initial : threads.screen <+: threads.changes
  announced_lt : ∀ number ∈ threads.announced, number < threads.changes.length
  listener_lt : ∀ number, threads.listener = some number → number < threads.changes.length
  main_lt : ∀ number, threads.main = .operation (some number) → number < threads.changes.length
  menu : threads.inMainMenu = false → threads.main.OutOfMenu
  covered : ∀ number ∈ threads.announced, threads.Covered number

theorem sound_start : Sound {} where
  screen_initial := List.prefix_refl _
  announced_lt := fun _ hnumber ↦ absurd hnumber List.not_mem_nil
  listener_lt := fun _ hnone ↦ absurd hnone (by simp)
  main_lt := fun _ hmain ↦ absurd hmain (by simp)
  menu := fun hmenu ↦ absurd hmenu (by simp)
  covered := fun _ hnumber ↦ absurd hnumber List.not_mem_nil

/-- A change of the tables. It is announced later. -/
theorem Sound.change {threads : Threads} (hsound : Sound threads) (change : Change) :
    Sound { threads with changes := threads.changes ++ [change] } := by
  have hlater {number : ℕ} (hnumber : number < threads.changes.length) :
      number < (threads.changes ++ [change]).length := by
    rw [List.length_append]
    exact Nat.lt_add_right _ hnumber
  exact {
    screen_initial := hsound.screen_initial.trans (List.prefix_append _ _)
    announced_lt := fun number hnumber ↦ hlater (hsound.announced_lt number hnumber)
    listener_lt := fun number hnumber ↦ hlater (hsound.listener_lt number hnumber)
    main_lt := fun number hnumber ↦ hlater (hsound.main_lt number hnumber)
    menu := hsound.menu
    covered := hsound.covered }

theorem length_lt_length_concat (changes : List Change) (change : Change) :
    changes.length < (changes ++ [change]).length := by
  rw [List.length_append]
  exact Nat.lt_succ_self _

/-! ### The actions of the listener -/

theorem Sound.callbackChange {threads : Threads} (hsound : Sound threads) (change : Change) :
    Sound (threads.step (.callbackChange change)) := by
  cases hlistener : threads.listener with
  | some number =>
    simp only [step, hlistener]
    exact hsound
  | none =>
    simp only [step, hlistener]
    have hchange := hsound.change change
    refine ⟨hchange.screen_initial, hchange.announced_lt, fun number hnumber ↦ ?_, hchange.main_lt,
      hchange.menu, hchange.covered⟩
    obtain rfl := Option.some.inj hnumber
    exact length_lt_length_concat threads.changes change

/-- Setting the event covers all changes. -/
theorem Sound.callbackSet {threads : Threads} (hsound : Sound threads) :
    Sound (threads.step .callbackSet) := by
  cases hlistener : threads.listener with
  | none =>
    simp only [step, hlistener]
    exact hsound
  | some number =>
    simp only [step, hlistener, set]
    refine ⟨hsound.screen_initial, ?_, fun _ hnone ↦ absurd hnone (by simp), hsound.main_lt,
      hsound.menu, fun _ _ ↦ Or.inr (Or.inl rfl)⟩
    exact List.forall_mem_cons.mpr ⟨hsound.listener_lt number hlistener, hsound.announced_lt⟩

/-! ### The actions of the refresh thread

Between the clearing of the event and the end of a pass the thread is itself the cover. It skips the
render only when the main thread is to render. -/

theorem Sound.refreshWait {threads : Threads} (hsound : Sound threads) :
    Sound (threads.step .refreshWait) := by
  simp only [step]
  split_ifs with hwake
  · exact ⟨hsound.screen_initial, hsound.announced_lt, hsound.listener_lt, hsound.main_lt,
      hsound.menu, fun _ _ ↦ Or.inr (Or.inl hwake.2)⟩
  · exact hsound

theorem Sound.refreshClear {threads : Threads} (hsound : Sound threads) :
    Sound (threads.step .refreshClear) := by
  simp only [step]
  split_ifs
  · exact ⟨hsound.screen_initial, hsound.announced_lt, hsound.listener_lt, hsound.main_lt,
      hsound.menu, fun _ _ ↦ Or.inr (Or.inr (Or.inl rfl))⟩
  · exact hsound

theorem Sound.refreshTest {threads : Threads} (hsound : Sound threads) :
    Sound (threads.step .refreshTest) := by
  simp only [step]
  split_ifs with htest hmenu
  · exact ⟨hsound.screen_initial, hsound.announced_lt, hsound.listener_lt, hsound.main_lt,
      hsound.menu, fun _ _ ↦ Or.inr (Or.inr (Or.inr (Or.inl rfl)))⟩
  · have hout := hsound.menu (by simpa using hmenu)
    exact ⟨hsound.screen_initial, hsound.announced_lt, hsound.listener_lt, hsound.main_lt,
      hsound.menu, fun _ _ ↦ Or.inr (Or.inr (Or.inr (Or.inr hout.rendersFirst)))⟩
  · exact hsound

theorem Sound.refreshRender {threads : Threads} (hsound : Sound threads) :
    Sound (threads.step .refreshRender) := by
  simp only [step, renderFull]
  split_ifs
  · exact ⟨List.prefix_refl _, hsound.announced_lt, hsound.listener_lt, hsound.main_lt,
      hsound.menu, fun number hnumber ↦ Or.inl (hsound.announced_lt number hnumber)⟩
  · exact hsound

/-! ### The actions of the main thread -/

/-- The main thread goes to a place from which it renders before it waits for input. -/
theorem Sound.main_rendersFirst {threads : Threads} (hsound : Sound threads) {main : MainAt}
    {inMainMenu : Bool} (hmain : main.RendersFirst)
    (hmenu : inMainMenu = false → main.OutOfMenu)
    (hunset : ∀ number, main ≠ .operation (some number)) :
    Sound { threads with inMainMenu, main } :=
  ⟨hsound.screen_initial, hsound.announced_lt, hsound.listener_lt,
    fun number hnumber ↦ absurd hnumber (hunset number), hmenu,
    fun _ _ ↦ Or.inr (Or.inr (Or.inr (Or.inr hmain)))⟩

theorem Sound.mainRender {threads : Threads} (hsound : Sound threads) :
    Sound (threads.step .mainRender) := by
  simp only [step, renderFull]
  split_ifs with hmain
  · refine ⟨List.prefix_refl _, hsound.announced_lt, hsound.listener_lt,
      fun _ hother ↦ absurd hother (by simp), fun hmenu ↦ ?_,
      fun number hnumber ↦ Or.inl (hsound.announced_lt number hnumber)⟩
    have hout := hsound.menu hmenu
    rw [hmain] at hout
    exact hout
  · exact hsound

theorem Sound.mainRead {threads : Threads} (hsound : Sound threads) :
    Sound (threads.step .mainRead) := by
  simp only [step]
  split_ifs with hmain
  · refine ⟨hsound.screen_initial, hsound.announced_lt, hsound.listener_lt,
      fun _ hother ↦ absurd hother (by simp), fun hmenu ↦ ?_, fun number hnumber ↦ ?_⟩
    · have hout := hsound.menu hmenu
      rw [hmain] at hout
      exact hout
    · have hcovered := hsound.covered number hnumber
      rw [Covered, hmain] at hcovered
      exact hcovered
  · exact hsound

theorem Sound.mainUnsubscribe {threads : Threads} (hsound : Sound threads) (change : Change) :
    Sound (threads.step (.mainUnsubscribe change)) := by
  simp only [step]
  split_ifs
  · have hchange := hsound.change change
    refine ⟨hchange.screen_initial, hchange.announced_lt, hchange.listener_lt,
      fun number hnumber ↦ ?_, fun _ ↦ trivial,
      fun _ _ ↦ Or.inr (Or.inr (Or.inr (Or.inr trivial)))⟩
    obtain rfl := Option.some.inj (MainAt.operation.inj hnumber)
    exact length_lt_length_concat threads.changes change
  · exact hsound

theorem Sound.mainSet {threads : Threads} (hsound : Sound threads) :
    Sound (threads.step .mainSet) := by
  simp only [step, set]
  split
  · rename_i number hmain
    refine ⟨hsound.screen_initial, ?_, hsound.listener_lt, fun _ hother ↦ absurd hother (by simp),
      fun _ ↦ trivial, fun _ _ ↦ Or.inr (Or.inl rfl)⟩
    exact List.forall_mem_cons.mpr ⟨hsound.main_lt number hmain, hsound.announced_lt⟩
  · exact hsound

/-- Every action keeps the invariant. -/
theorem Sound.step {threads : Threads} (hsound : Sound threads) (action : Action) :
    Sound (threads.step action) := by
  cases action with
  | callbackChange change => exact hsound.callbackChange change
  | callbackSet => exact hsound.callbackSet
  | refreshWait => exact hsound.refreshWait
  | refreshClear => exact hsound.refreshClear
  | refreshTest => exact hsound.refreshTest
  | refreshRender => exact hsound.refreshRender
  | mainSetMenu =>
    simp only [Threads.step]
    split_ifs
    · exact hsound.main_rendersFirst trivial (by simp) (by simp)
    · exact hsound
  | mainRender => exact hsound.mainRender
  | mainRead => exact hsound.mainRead
  | mainClearMenu =>
    simp only [Threads.step]
    split_ifs
    · exact hsound.main_rendersFirst trivial (fun _ ↦ trivial) (by simp)
    · exact hsound
  | mainUnsubscribe change => exact hsound.mainUnsubscribe change
  | mainSet => exact hsound.mainSet
  | mainReturn =>
    simp only [Threads.step]
    split_ifs
    · exact hsound.main_rendersFirst trivial (fun _ ↦ trivial) (by simp)
    · exact hsound

theorem sound_run (actions : List Action) : Sound (run actions) :=
  invariant_runFrom sound_start (fun _ action hsound ↦ hsound.step action) actions

/-! ### The result -/

/-- The last `render_monitor` has seen the change with a number. -/
def OnScreen (threads : Threads) (number : ℕ) : Prop :=
  ∃ change, threads.changes[number]? = some change ∧ threads.screen[number]? = some change

/-- What the last render has seen of the changes that had been made. -/
theorem Sound.onScreen {threads : Threads} (hsound : Sound threads) {number : ℕ}
    (hnumber : number < threads.screen.length) : threads.OnScreen number := by
  obtain ⟨rest, hrest⟩ := hsound.screen_initial
  refine ⟨threads.screen[number], ?_, List.getElem?_eq_getElem hnumber⟩
  rw [← hrest, List.getElem?_append_left hnumber, List.getElem?_eq_getElem hnumber]

/-- No refresh is lost. After any actions of the three threads, when the refresh thread waits on a
clear event and the main thread waits for input in the main menu, the screen shows every change
whose event was set. -/
theorem refresh_not_lost (actions : List Action) (hrefresh : (run actions).refresh = .wait)
    (hclear : (run actions).forceRefresh = false) (hmain : (run actions).main = .input) :
    ∀ number ∈ (run actions).announced, (run actions).OnScreen number := by
  intro number hnumber
  have hsound := sound_run actions
  rcases hsound.covered number hnumber with hscreen | hset | htest | hrender | hfirst
  · exact hsound.onScreen hscreen
  · exact absurd (hclear.symm.trans hset) (by decide)
  · exact absurd (hrefresh.symm.trans htest) (by decide)
  · exact absurd (hrefresh.symm.trans hrender) (by decide)
  · rw [hmain] at hfirst
    exact absurd hfirst not_false

/-- A heartbeat comes in before the first render, and its refresh after it. -/
theorem refresh_not_lost_heartbeat :
    (run [.callbackChange (.store (.heartbeat 5) ⟨.state 5, 10, "drive"⟩), .callbackSet,
      .mainSetMenu, .mainRender, .refreshWait, .refreshClear, .refreshTest,
      .refreshRender]).OnScreen 0 :=
  refresh_not_lost _ (by decide) (by decide) (by decide) 0 (by decide)

end Threads

end CanopenTools.Interactive.Refresh
