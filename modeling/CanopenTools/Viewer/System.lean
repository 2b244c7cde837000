import CanopenTools.Cells.Watch
import CanopenTools.Viewer.GuiList
import CanopenTools.Viewer.Widgets

/-!
# The viewer as a whole

The driver, the GUI and the two channels between them. The GUI sends controls over a `watch`
channel, which keeps the last one, and `main` sends the control of the command line once more when
the driver is started. The driver looks at the channel in each pass. What it sends to the GUI is its
state after each pass. Its end of the channel is dropped after its last pass, or before it, when
control-C ends the thread of `main` and the runtime with it; then it makes no pass any more.

`Session.run` is a run of the viewer, in which passes, frames, the sending of the first control and
the end of the driver come in any order. `run_refines`: no run panics, and each is a run of `App`,
whose steps are those that the input of each step stands for. `list_shows`: what the list shows in a
frame is what the widgets let pass, row by row.
-/

set_option autoImplicit false
set_option relaxedAutoImplicit false

namespace CanopenTools.Viewer

open Cells

/-! ### The parts -/

/-- The driver with the connection of its control, the connection of the CANopen stack and the
information about the stack. -/
structure Station where
  driver : Driver
  connection : Connection
  applied : Connection
  info : CanOpenInfo

namespace Station

/-- `Driver::new`. -/
def new (control : Control) : Station where
  driver := .new control.command
  connection := control.connection
  applied := control.connection
  info := ⟨false, false, 0⟩

/-- The state that the driver has sent last. -/
def state (station : Station) : DriverState where
  data := station.driver.data
  info := station.info
  exitSignal := station.driver.exitSignal

/-- The driver takes a control over. -/
def takeControl (station : Station) (control : Control) : Station :=
  { station with connection := control.connection, applied := control.connection }

variable {tokio : Watch Control}

/-- One pass of `Driver::run`, for what ends the wait and the information about the stack. Control-C
is handled before the channel is looked at. -/
def pass (canopen : Canopen) (station : Station) (watch : tokio.Channel) (rcv : Rcv)
    (info : CanOpenInfo) : Station × tokio.Channel :=
  if station.driver.exitSignal then (station, watch)
  else
    match rcv with
    | .ctrlC => ({ station with driver := station.driver.pass canopen none .ctrlC }, watch)
    | rcv =>
      if tokio.hasChanged watch then
        let (control, watch) := tokio.borrowAndUpdate watch
        ({ station.takeControl control with
          driver := station.driver.pass canopen (some control.command) rcv, info }, watch)
      else ({ station with driver := station.driver.pass canopen none rcv, info }, watch)

/-- The command that a pass takes over. -/
def changed (station : Station) (watch : tokio.Channel) (rcv : Rcv) : Option ControlCommand :=
  if station.driver.exitSignal ∨ rcv = .ctrlC ∨ ¬ tokio.hasChanged watch then none
  else some (tokio.borrow watch).command

end Station

/-- A session of the viewer; `initial` is the control of the command line. -/
structure Session (tokio : Watch Control) where
  station : Station
  watch : tokio.Channel
  initial : Control
  heap : Heap
  screen : Screen

/-- The steps of the session: a pass of the driver, a frame, the thread of `main` sends the first
control, and the driver's end of the channel is dropped. -/
inductive SessionStep
  | pass (rcv : Rcv) (info : CanOpenInfo)
  | frame (input : FrameInput)
  | sendInitial
  | dropDriver

namespace Session

variable {tokio : Watch Control}

/-- The session when `main` has set it up. -/
def start (tokio : Watch Control) (connection : Connection) (startTime : Instant) :
    Session tokio where
  station := .new ⟨.process, connection⟩
  watch := tokio.channel ⟨.process, connection⟩
  initial := ⟨.process, connection⟩
  heap := .start
  screen := .new connection startTime

/-- The driver, and the GUI with plain filters. -/
def app (session : Session tokio) : App := ⟨session.station.driver, session.screen.gui session.heap⟩

/-- The widgets of the filter panel. -/
def widgets (session : Session tokio) : Widgets := session.screen.widgets session.heap

/-- The invariant, which is that of the screen. -/
def Valid (parsers : Parsers) (session : Session tokio) : Prop :=
  session.screen.Valid parsers session.heap

section Runs

variable (canopen : Canopen) (parsers : Parsers) (formats : Formats)

/-- One step, with what a frame leads to. A driver without its end of the channel makes no pass.
When the first control cannot be sent the thread of `main` ends, and with it the runtime, which the
driver has left by then. -/
def step (session : Session tokio) : SessionStep → Except Panic (Session tokio × FrameOutput)
  | .pass rcv info =>
    if tokio.hasReceiver session.watch then
      let (station, watch) := session.station.pass canopen session.watch rcv info
      .ok ({ session with station, watch }, {})
    else .ok (session, {})
  | .frame input => do
    let ((screen, output), heap) ←
      (session.screen.update parsers formats session.station.state input).run session.heap
    .ok ({ session with heap, screen, watch := output.controls.foldl tokio.send session.watch },
      output)
  | .sendInitial => .ok ({ session with watch := tokio.send session.watch session.initial }, {})
  | .dropDriver => .ok ({ session with watch := tokio.dropReceiver session.watch }, {})

/-- The session after some steps. -/
def run (tokio : Watch Control) (connection : Connection) (startTime : Instant)
    (steps : List SessionStep) : Except Panic (Session tokio) :=
  steps.foldlM (fun session step ↦ Prod.fst <$> session.step canopen parsers formats step)
    (start tokio connection startTime)

/-- What a step leads to. -/
inductive StepDone (session : Session tokio) : SessionStep → Session tokio → FrameOutput → Prop
  | pass (rcv : Rcv) (info : CanOpenInfo) (hreceiver : tokio.hasReceiver session.watch = true) :
      StepDone session (.pass rcv info)
        { session with
          station := (session.station.pass canopen session.watch rcv info).1
          watch := (session.station.pass canopen session.watch rcv info).2 } {}
  | noPass (rcv : Rcv) (info : CanOpenInfo) (hclosed : tokio.hasReceiver session.watch = false) :
      StepDone session (.pass rcv info) session {}
  | frame {input : FrameInput} {heap' : Heap} {screen' : Screen} {output : FrameOutput}
      (hdone : Screen.FrameDone canopen parsers formats session.station.state input session.heap
        session.screen heap' screen' output) :
      StepDone session (.frame input) { session with
        heap := heap', screen := screen'
        watch := output.controls.foldl tokio.send session.watch } output
  | sendInitial :
      StepDone session .sendInitial
        { session with watch := tokio.send session.watch session.initial } {}
  | dropDriver :
      StepDone session .dropDriver { session with watch := tokio.dropReceiver session.watch } {}

variable {canopen parsers formats} {connection : Connection} {startTime : Instant}

theorem run_concat (steps : List SessionStep) (step : SessionStep) :
    run canopen parsers formats tokio connection startTime (steps ++ [step]) =
      (run canopen parsers formats tokio connection startTime steps).bind fun session ↦
        Prod.fst <$> session.step canopen parsers formats step := by
  unfold run
  rw [List.foldlM_append]
  congr 1
  funext session
  exact List.foldlM_cons.trans (bind_pure _)

theorem run_step {steps : List SessionStep} {session after : Session tokio} {step : SessionStep}
    {output : FrameOutput}
    (hrun : run canopen parsers formats tokio connection startTime steps = .ok session)
    (hstep : session.step canopen parsers formats step = .ok (after, output)) :
    run canopen parsers formats tokio connection startTime (steps ++ [step]) = .ok after := by
  rw [run_concat, hrun]
  show Prod.fst <$> session.step canopen parsers formats step = _
  rw [hstep]
  rfl

/-! ### One step -/

theorem valid_start (parsers : Parsers) (tokio : Watch Control) (connection : Connection)
    (startTime : Instant) : (start tokio connection startTime).Valid parsers := by
  have hpanels : PanelsValid parsers .start (Screen.new connection startTime).filterPanel
      (Screen.new connection startTime).pinnedPanels := by
    refine ⟨⟨rfl, fun _ ↦ rfl⟩, rfl, List.nodup_singleton _, ?_, ?_⟩
    · exact List.forall_mem_singleton.mpr Nat.zero_lt_one
    · exact List.forall_mem_singleton.mpr (FilterDataPanel.agrees_new parsers 0)
  exact ⟨hpanels, Format.noConfusion, rfl⟩

/-- A frame ends without a panic. -/
theorem exists_frame {session : Session tokio} (hvalid : session.Valid parsers)
    (input : FrameInput) :
    ∃ screen' output heap', session.step canopen parsers formats (.frame input) =
        .ok ({ session with
          heap := heap', screen := screen'
          watch := output.controls.foldl tokio.send session.watch }, output) ∧
      Screen.FrameDone canopen parsers formats session.station.state input session.heap
        session.screen heap' screen' output := by
  obtain ⟨screen', output, heap', hyields, hdone⟩ :=
    Screen.yields_update canopen formats hvalid session.station.state input
  refine ⟨screen', output, heap', ?_, hdone⟩
  unfold Yields at hyields
  unfold step
  dsimp only
  rw [hyields]
  rfl

theorem exists_step {session : Session tokio} (hvalid : session.Valid parsers)
    (step : SessionStep) :
    ∃ after output, session.step canopen parsers formats step = .ok (after, output) ∧
      StepDone canopen parsers formats session step after output := by
  cases step with
  | pass rcv info =>
    by_cases hreceiver : tokio.hasReceiver session.watch = true
    · exact ⟨_, _, if_pos hreceiver, .pass rcv info hreceiver⟩
    · exact ⟨_, _, if_neg hreceiver, .noPass rcv info (Bool.eq_false_iff.mpr hreceiver)⟩
  | frame input =>
    obtain ⟨screen', output, heap', hstep, hdone⟩ := exists_frame hvalid input
    exact ⟨_, _, hstep, .frame hdone⟩
  | sendInitial => exact ⟨_, _, rfl, .sendInitial⟩
  | dropDriver => exact ⟨_, _, rfl, .dropDriver⟩

end Runs

end Session

namespace Station

variable {tokio : Watch Control}

/-- A pass of the station is a pass of its driver. -/
theorem driver_pass (canopen : Canopen) (station : Station) (watch : tokio.Channel) (rcv : Rcv)
    (info : CanOpenInfo) :
    (station.pass canopen watch rcv info).1.driver =
      station.driver.pass canopen (station.changed watch rcv) rcv := by
  unfold pass changed
  by_cases hexit : station.driver.exitSignal = true
  · rw [if_pos hexit, if_pos (Or.inl hexit), Driver.pass, if_pos hexit]
  · cases rcv with
    | ctrlC =>
      rw [if_neg hexit, if_pos (Or.inr (Or.inl rfl))]
    | _ =>
      by_cases hchanged : tokio.hasChanged watch = true
      · rw [if_neg hexit, if_neg (by simp [hexit, hchanged]), ← tokio.fst_borrowAndUpdate]
        dsimp only
        rw [if_pos hchanged]
      · rw [if_neg hexit, if_pos (Or.inr (Or.inr hchanged))]
        dsimp only
        rw [if_neg hchanged]

/-- A driver that has ended does nothing more. -/
theorem pass_of_ended (canopen : Canopen) {station : Station}
    (hexit : station.driver.exitSignal = true) (watch : tokio.Channel) (rcv : Rcv)
    (info : CanOpenInfo) :
    station.pass canopen watch rcv info = (station, watch) := if_pos hexit

/-- A pass keeps the value of the channel and the driver's end of it. -/
theorem keeps_pass (canopen : Canopen) (station : Station) (watch : tokio.Channel) (rcv : Rcv)
    (info : CanOpenInfo) :
    tokio.borrow (station.pass canopen watch rcv info).2 = tokio.borrow watch ∧
      tokio.hasReceiver (station.pass canopen watch rcv info).2 = tokio.hasReceiver watch := by
  unfold pass
  by_cases hexit : station.driver.exitSignal = true
  · rw [if_pos hexit]
    exact ⟨rfl, rfl⟩
  · rw [if_neg hexit]
    split
    · exact ⟨rfl, rfl⟩
    · split_ifs
      · exact ⟨tokio.borrow_borrowAndUpdate watch, tokio.hasReceiver_borrowAndUpdate watch⟩
      · exact ⟨rfl, rfl⟩

end Station

namespace Session

section Runs

variable {tokio : Watch Control} {canopen : Canopen} {parsers : Parsers} {formats : Formats}
  {connection : Connection} {startTime : Instant}

theorem StepDone.valid {session after : Session tokio} {step : SessionStep} {output : FrameOutput}
    (hstep : StepDone canopen parsers formats session step after output)
    (hvalid : session.Valid parsers) : after.Valid parsers := by
  cases hstep with
  | frame hdone => exact hdone.valid
  | _ => exact hvalid

/-! ### Runs -/

/-- What holds at the start, and after each step of a session in which it held, holds after every
run. No run panics. -/
theorem run_induction {motive : List SessionStep → Session tokio → Prop}
    (start : motive [] (start tokio connection startTime))
    (step : ∀ steps session step after output,
      run canopen parsers formats tokio connection startTime steps = .ok session →
      session.Valid parsers →
      motive steps session → session.step canopen parsers formats step = .ok (after, output) →
      StepDone canopen parsers formats session step after output → motive (steps ++ [step]) after)
    (steps : List SessionStep) :
    ∃ session, run canopen parsers formats tokio connection startTime steps = .ok session ∧
      session.Valid parsers ∧ motive steps session := by
  induction steps using List.reverseRecOn with
  | nil => exact ⟨_, rfl, valid_start parsers tokio connection startTime, start⟩
  | append_singleton steps next ih =>
    obtain ⟨session, hrun, hvalid, hmotive⟩ := ih
    obtain ⟨after, output, hstep, hdone⟩ := exists_step hvalid next
    exact ⟨after, run_step hrun hstep, hdone.valid hvalid,
      step steps session next after output hrun hvalid hmotive hstep hdone⟩

theorem exists_run (canopen : Canopen) (parsers : Parsers) (formats : Formats)
    (tokio : Watch Control) (connection : Connection) (startTime : Instant)
    (steps : List SessionStep) :
    ∃ session, run canopen parsers formats tokio connection startTime steps = .ok session ∧
      session.Valid parsers := by
  obtain ⟨session, hrun, hvalid, -⟩ :=
    @run_induction tokio canopen parsers formats connection startTime
      (fun _ _ ↦ True) trivial (fun _ _ _ _ _ _ _ _ _ _ ↦ trivial) steps
  exact ⟨session, hrun, hvalid⟩

end Runs

/-! ### Sessions and runs of `App` -/

section App

variable (canopen : Canopen) (parsers : Parsers) (formats : Formats) (tokio : Watch Control)
  (connection : Connection) (startTime : Instant)

variable {tokio}

/-- The steps of `App` that a step stands for: a pass with the command that it takes over, if there
is one, or a frame and then what the user does in it. -/
def appSteps (session : Session tokio) : SessionStep → List Step
  | .pass rcv _ =>
    if tokio.hasReceiver session.watch then [.pass (session.station.changed session.watch rcv) rcv]
    else []
  | .frame input =>
    .frame input.clock :: ((session.screen.gui session.heap).getDataFromDriver input.clock
      session.station.driver.data).frameSteps parsers session.station.driver.exitSignal
        session.screen.connected input
  | .sendInitial => []
  | .dropDriver => []

/-- One step, with the steps of `App` so far. -/
def traceStep (traced : Session tokio × List Step) (step : SessionStep) :
    Except Panic (Session tokio × List Step) :=
  (fun done ↦ (done.1, traced.2 ++ traced.1.appSteps parsers step)) <$>
    traced.1.step canopen parsers formats step

variable (tokio)

/-- A run, with the steps of `App` that its steps stand for. -/
def trace (steps : List SessionStep) : Except Panic (Session tokio × List Step) :=
  steps.foldlM (traceStep canopen parsers formats) (start tokio connection startTime, [])

variable {tokio} {canopen parsers formats}

/-- A step of a session in `App`. -/
theorem StepDone.app {session after : Session tokio} {step : SessionStep} {output : FrameOutput}
    (hstep : StepDone canopen parsers formats session step after output) :
    (session.appSteps parsers step).foldl (App.step canopen) session.app = after.app := by
  cases hstep with
  | pass rcv info hreceiver =>
    have hdriver := session.station.driver_pass canopen session.watch rcv info
    rw [appSteps, if_pos hreceiver]
    show App.mk (session.station.driver.pass canopen _ rcv) _ = _
    rw [← hdriver]
    rfl
  | noPass rcv info hclosed =>
    rw [appSteps, if_neg (by rw [hclosed]; exact Bool.false_ne_true)]
    rfl
  | frame hdone => exact hdone.edited session.station.driver
  | sendInitial => rfl
  | dropDriver => rfl

theorem trace_step {steps : List SessionStep} {session after : Session tokio} {traced : List Step}
    {step : SessionStep} {output : FrameOutput}
    (htrace : trace canopen parsers formats tokio connection startTime steps =
      .ok (session, traced))
    (hstep : session.step canopen parsers formats step = .ok (after, output)) :
    trace canopen parsers formats tokio connection startTime (steps ++ [step]) =
      .ok (after, traced ++ session.appSteps parsers step) := by
  unfold trace at htrace ⊢
  rw [List.foldlM_append, htrace]
  show traceStep canopen parsers formats (session, traced) step >>= pure = _
  rw [bind_pure, traceStep, hstep]
  rfl

variable (canopen parsers formats tokio)

/-- Every run of the viewer ends without a panic, and it is a run of `App`, whose steps are those
that the steps of the run stand for. -/
theorem run_refines (steps : List SessionStep) :
    ∃ session traced, run canopen parsers formats tokio connection startTime steps = .ok session ∧
      trace canopen parsers formats tokio connection startTime steps = .ok (session, traced) ∧
      App.run canopen traced = session.app := by
  obtain ⟨session, hrun, -, traced, htrace, happ⟩ :=
    @run_induction tokio canopen parsers formats connection
    startTime (fun steps session ↦ ∃ traced,
      trace canopen parsers formats tokio connection startTime steps = .ok (session, traced) ∧
      App.run canopen traced = session.app) ⟨[], rfl, rfl⟩ (by
    rintro steps session step after output - - ⟨traced, htrace, happ⟩ hstep hdone
    refine ⟨_, trace_step connection startTime htrace hstep, ?_⟩
    rw [App.run, List.foldl_append, ← App.run, happ, hdone.app]) steps
  exact ⟨session, traced, hrun, htrace, happ⟩

/-! ### What is shown -/

/-- The list of every state of a run is newest first and within its bound, as that of every GUI is.
-/
theorem ordered_run {steps : List SessionStep} {session : Session tokio}
    (hrun : run canopen parsers formats tokio connection startTime steps = .ok session) :
    (session.screen.gui session.heap).Ordered := by
  obtain ⟨other, traced, hother, -, happ⟩ :=
    run_refines canopen parsers formats tokio connection startTime steps
  rw [hrun] at hother
  obtain rfl := Except.ok.inj hother
  obtain ⟨guiSteps, hgui⟩ := App.exists_guiRun canopen traced
  rw [happ] at hgui
  show session.app.gui.Ordered
  rw [hgui]
  exact Gui.ordered_run guiSteps

/-- In every frame of every run the widgets follow what the user does to them, and the list shows
the rows that the scroll area asks for out of the messages that the widgets let pass, newest first.
-/
theorem list_shows (steps : List SessionStep) (input : FrameInput) :
    ∃ session after output,
      run canopen parsers formats tokio connection startTime steps = .ok session ∧
      session.step canopen parsers formats (.frame input) = .ok (after, output) ∧
      after.widgets = session.widgets.step (session.screen.panelInput session.station.state input) ∧
      (after.screen.gui after.heap).Ordered ∧
      (session.station.driver.exitSignal = false →
        output.listLines = shownLines formats after.screen.format after.screen.startTime
          (after.screen.data.filter (after.widgets.passes parsers))
          (input.showRows _ (Nat.succ_pos _))) := by
  obtain ⟨session, hrun, hvalid⟩ :=
    exists_run canopen parsers formats tokio connection startTime steps
  obtain ⟨screen', output, heap', hstep, hdone⟩ := exists_frame hvalid input
  have hordered :=
    ordered_run canopen parsers formats tokio connection startTime (run_step hrun hstep)
  refine ⟨session, _, output, hrun, hstep, hdone.widgets, hordered, fun hexit ↦ ?_⟩
  exact (hdone.listLines hexit).trans (congrArg (fun messages ↦ shownLines formats screen'.format
    screen'.startTime messages (input.showRows (messages.length + 1) (Nat.succ_pos _)))
      (hdone.valid.visible_eq screen'.data))

/-- In every state of every run no two panels share a filter, and each pinned row decides as its own
texts say. -/
theorem pinned_say (steps : List SessionStep) :
    ∃ session, run canopen parsers formats tokio connection startTime steps = .ok session ∧
      ((session.screen.filterPanel.dataPanel :: session.screen.pinnedPanels).map
        FilterDataPanel.dataFilter).Nodup ∧
      ∀ row ∈ session.screen.pinnedFilters, ∀ message,
        (session.heap.value row.panel.dataFilter).filter message =
          (row.panel.said parsers).filter message := by
  obtain ⟨session, hrun, hvalid⟩ :=
    exists_run canopen parsers formats tokio connection startTime steps
  refine ⟨session, hrun, hvalid.panels.nodup, fun row hrow message ↦ ?_⟩
  exact (hvalid.panels.agrees row.panel
    (List.mem_cons_of_mem _ (List.mem_map_of_mem hrow))).filter_eq message

end App

end Session

end CanopenTools.Viewer
