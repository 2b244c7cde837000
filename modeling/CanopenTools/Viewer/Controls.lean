import CanopenTools.Viewer.System

/-!
# From the buttons to the driver

What the GUI asks for goes over a channel, which the driver looks at in each pass. `main` sends the
first control once more, and this comes from a thread of its own, so that it may come after a
control of the GUI. And what the GUI sends is lost once the driver's end of the channel has been
dropped. `channelAgrees_iff`: the channel always has what the GUI stands for exactly when neither
happens (`Keeps`).

`pass_obeys` is about one pass of the driver in any state of any run: it follows the control that is
in the channel at that moment. So nothing that is received after the user has stopped the list gets
into it, and the CANopen stack has the connection that the user asked for.
-/

set_option autoImplicit false
set_option relaxedAutoImplicit false

namespace CanopenTools.Viewer

open Cells

/-! ### The channel -/

namespace Session

variable {tokio : Watch Control} {canopen : Canopen} {parsers : Parsers} {formats : Formats}
  {connection : Connection} {startTime : Instant}

/-- The channel has what the GUI stands for. -/
def Agrees (session : Session tokio) : Prop := tokio.borrow session.watch = session.screen.control

/-- A channel without the driver's end keeps its value. -/
theorem StepDone.borrow_closed {session after : Session tokio} {step : SessionStep}
    {output : FrameOutput} (hstep : StepDone canopen parsers formats session step after output)
    (hclosed : tokio.hasReceiver session.watch = false) :
    tokio.borrow after.watch = tokio.borrow session.watch := by
  cases hstep with
  | pass rcv info hreceiver =>
    exact (session.station.keeps_pass canopen session.watch rcv info).1
  | noPass rcv info hclosed => rfl
  | frame hdone =>
    exact congrArg tokio.borrow (tokio.foldl_send_closed hclosed _)
  | sendInitial => exact congrArg tokio.borrow (tokio.send_closed _ _ hclosed)
  | dropDriver => exact tokio.borrow_dropReceiver session.watch

/-- While the driver has its end, all steps but for the sending of the first control keep it so. -/
theorem StepDone.agrees {session after : Session tokio} {step : SessionStep} {output : FrameOutput}
    (hstep : StepDone canopen parsers formats session step after output)
    (hreceiver : tokio.hasReceiver session.watch = true) (hne : step ≠ .sendInitial)
    (hagrees : session.Agrees) : after.Agrees := by
  unfold Agrees at hagrees ⊢
  cases hstep with
  | pass rcv info _ =>
    exact (session.station.keeps_pass canopen session.watch rcv info).1.trans hagrees
  | noPass rcv info _ => exact hagrees
  | frame hdone =>
    rw [tokio.borrow_foldl_send hreceiver, hagrees]
    exact hdone.control
  | sendInitial => exact absurd rfl hne
  | dropDriver => exact (tokio.borrow_dropReceiver _).trans hagrees

/-- A step from a state in which the channel has what the GUI stands for: it still has afterwards,
unless the first control is sent while the GUI stands for another one, or the GUI comes to stand for
another one without the driver's end. -/
theorem StepDone.agrees_iff {session after : Session tokio} {step : SessionStep}
    {output : FrameOutput} (hstep : StepDone canopen parsers formats session step after output)
    (hagrees : session.Agrees) :
    after.Agrees ↔
      (step = .sendInitial → tokio.hasReceiver session.watch = true →
        session.screen.control = session.initial) ∧
      (tokio.hasReceiver session.watch = false →
        after.screen.control = session.screen.control) := by
  cases hreceiver : tokio.hasReceiver session.watch with
  | false =>
    have hafter : after.Agrees ↔ after.screen.control = session.screen.control := by
      unfold Agrees at hagrees ⊢
      rw [hstep.borrow_closed hreceiver, hagrees, eq_comm]
    exact ⟨fun h ↦ ⟨fun _ ↦ nofun, fun _ ↦ hafter.mp h⟩, fun h ↦ hafter.mpr (h.2 rfl)⟩
  | true =>
    by_cases hsend : step = .sendInitial
    · subst hsend
      cases hstep
      show tokio.borrow (tokio.send session.watch session.initial) = session.screen.control ↔ _
      rw [tokio.borrow_send _ _ hreceiver, eq_comm]
      exact ⟨fun h ↦ ⟨fun _ _ ↦ h, nofun⟩, fun h ↦ h.1 rfl rfl⟩
    · exact iff_of_true (hstep.agrees hreceiver hsend hagrees) ⟨fun h ↦ absurd h hsend, nofun⟩

/-- What the last step of a run has led to. -/
theorem run_last {steps : List SessionStep} {session after : Session tokio} {next : SessionStep}
    (hrun : run canopen parsers formats tokio connection startTime steps = .ok session)
    (hafter : run canopen parsers formats tokio connection startTime (steps ++ [next]) =
      .ok after) :
    ∃ output, StepDone canopen parsers formats session next after output := by
  obtain ⟨other, hother, hvalid⟩ :=
    exists_run canopen parsers formats tokio connection startTime steps
  obtain rfl := Except.ok.inj (hrun.symm.trans hother)
  obtain ⟨last, output, hstep, hdone⟩ := exists_step hvalid next
  obtain rfl := Except.ok.inj ((run_step hrun hstep).symm.trans hafter)
  exact ⟨output, hdone⟩

/-- The control of the command line stays what it is. -/
theorem initial_run {steps : List SessionStep} {session : Session tokio}
    (hrun : run canopen parsers formats tokio connection startTime steps = .ok session) :
    session.initial = ⟨.process, connection⟩ := by
  obtain ⟨other, hother, -, hinitial⟩ :=
    @run_induction tokio canopen parsers formats connection startTime
    (fun _ session ↦ session.initial = ⟨.process, connection⟩) rfl (by
      intro steps session step after output _ _ hinitial _ hstep
      cases hstep <;> exact hinitial) steps
  rw [hrun] at hother
  exact (Except.ok.inj hother) ▸ hinitial

section Runs

variable (canopen : Canopen) (parsers : Parsers) (formats : Formats) (tokio : Watch Control)
  (connection : Connection) (startTime : Instant)

/-- Something holds in every state that a run reaches. -/
def Always (holds : List SessionStep → Session tokio → Prop) (steps : List SessionStep) : Prop :=
  ∀ before, before <+: steps → ∀ session,
    run canopen parsers formats tokio connection startTime before = .ok session →
      holds before session

/-- The next step of a run does not take the control of the GUI out of the channel: the first
control is not sent while the GUI stands for another one, and once the driver's end of the channel
has been dropped the GUI does not come to stand for another one. -/
structure Keeps (steps before : List SessionStep) (session : Session tokio) : Prop where
  first : before ++ [.sendInitial] <+: steps → tokio.hasReceiver session.watch = true →
    session.screen.control = ⟨.process, connection⟩
  late : ∀ next, before ++ [next] <+: steps → tokio.hasReceiver session.watch = false →
    ∀ after, run canopen parsers formats tokio connection startTime (before ++ [next]) = .ok after →
      after.screen.control = session.screen.control

/-- The channel always has what the GUI stands for exactly when no step takes it out. -/
theorem channelAgrees_iff (steps : List SessionStep) :
    Always canopen parsers formats tokio connection startTime
      (fun _ session ↦ session.Agrees) steps ↔
      Always canopen parsers formats tokio connection startTime
        (Keeps canopen parsers formats tokio connection startTime steps) steps := by
  constructor
  · intro hagrees before hbefore session hrun
    have hnow : session.Agrees := hagrees before hbefore session hrun
    refine ⟨fun hsend hreceiver ↦ ?_, fun next hnext hclosed after hafter ↦ ?_⟩
    · have hstep : session.step canopen parsers formats .sendInitial = .ok (_, _) := rfl
      obtain ⟨output, hdone⟩ := run_last hrun (run_step hrun hstep)
      rw [← initial_run hrun]
      exact ((hdone.agrees_iff hnow).mp (hagrees _ hsend _ (run_step hrun hstep))).1 rfl hreceiver
    · obtain ⟨output, hdone⟩ := run_last hrun hafter
      exact ((hdone.agrees_iff hnow).mp (hagrees _ hnext after hafter)).2 hclosed
  · intro hkeeps before
    induction before using List.reverseRecOn with
    | nil =>
      rintro - session hrun
      rw [← Except.ok.inj hrun]
      exact tokio.borrow_channel _
    | append_singleton before step ih =>
      intro hprefix session hrun
      have hbefore : before <+: steps := (List.prefix_append _ _).trans hprefix
      obtain ⟨middle, hmiddle, -⟩ :=
        exists_run canopen parsers formats tokio connection startTime before
      obtain ⟨hfirst, hlate⟩ := hkeeps before hbefore middle hmiddle
      obtain ⟨output, hdone⟩ := run_last hmiddle hrun
      refine (hdone.agrees_iff (ih hbefore middle hmiddle)).mpr ⟨fun hsend hreceiver ↦ ?_, ?_⟩
      · rw [initial_run hmiddle]
        exact hfirst (hsend ▸ hprefix) hreceiver
      · exact fun hclosed ↦ hlate step hprefix hclosed session hrun

end Runs

end Session

/-! ### Passes of the driver -/

/-- The driver when it follows a command, after what ended the wait. -/
def Driver.following (canopen : Canopen) (driver : Driver) (command : ControlCommand) : Rcv → Driver
  | .message msg =>
    if command = .process then { driver.store canopen msg with command }
    else { driver with command }
  | _ => { driver with command }

/-- A pass of a driver that runs, for a command that does not end it. -/
theorem Driver.pass_eq_following (canopen : Canopen) {driver : Driver}
    (hexit : driver.exitSignal = false) (changed : Option ControlCommand) {command : ControlCommand}
    (hchanged : changed.getD driver.command = command) (hcommand : command ≠ .kill) {rcv : Rcv}
    (hrcv : rcv ≠ .ctrlC) :
    driver.pass canopen changed rcv = driver.following canopen command rcv := by
  obtain ⟨data, exitSignal, old, index⟩ := driver
  obtain rfl : exitSignal = false := hexit
  unfold pass process
  cases rcv with
  | ctrlC => exact absurd rfl hrcv
  | _ =>
    dsimp only at hchanged ⊢
    rw [hchanged]
    cases command with
    | kill => exact absurd rfl hcommand
    | _ => rfl

theorem Driver.command_following (canopen : Canopen) (driver : Driver) (command : ControlCommand)
    (rcv : Rcv) : (driver.following canopen command rcv).command = command := by
  unfold following
  cases rcv with
  | message msg =>
    dsimp only
    split_ifs <;> rfl
  | _ => rfl

theorem Driver.exitSignal_pass_ctrlC (canopen : Canopen) {driver : Driver}
    (hexit : driver.exitSignal = false) (changed : Option ControlCommand) :
    (driver.pass canopen changed .ctrlC).exitSignal = true := by
  unfold pass
  rw [hexit]
  rfl

namespace Station

variable {tokio : Watch Control} {canopen : Canopen} {station : Station} {watch : tokio.Channel}

/-- What the driver has seen it follows. -/
def Follows (station : Station) (watch : tokio.Channel) : Prop :=
  tokio.hasChanged watch = false →
    station.driver.command = (tokio.borrow watch).command ∧
      station.applied = (tokio.borrow watch).connection

/-- A pass that is not ended by control-C follows the control in the channel, and has then seen it.
-/
theorem pass_eq (canopen : Canopen) (hfollows : station.Follows watch)
    (hexit : station.driver.exitSignal = false) (hcommand : (tokio.borrow watch).command ≠ .kill)
    {rcv : Rcv} (hrcv : rcv ≠ .ctrlC) (info : CanOpenInfo) :
    (station.pass canopen watch rcv info).1.driver =
        station.driver.following canopen (tokio.borrow watch).command rcv ∧
      (station.pass canopen watch rcv info).1.applied = (tokio.borrow watch).connection ∧
      tokio.hasChanged (station.pass canopen watch rcv info).2 = false := by
  have hrunning : ¬ station.driver.exitSignal = true := by
    rw [hexit]
    exact Bool.false_ne_true
  have hpass : station.pass canopen watch rcv info =
      if tokio.hasChanged watch then
        ({ station.takeControl (tokio.borrow watch) with
          driver := station.driver.pass canopen (some (tokio.borrow watch).command) rcv, info },
            (tokio.borrowAndUpdate watch).2)
      else ({ station with driver := station.driver.pass canopen none rcv, info }, watch) := by
    unfold pass
    rw [if_neg hrunning, ← tokio.fst_borrowAndUpdate]
    cases rcv with
    | ctrlC => exact absurd rfl hrcv
    | _ => rfl
  rw [hpass]
  by_cases hchanged : tokio.hasChanged watch = true
  · rw [if_pos hchanged]
    have hdriver := Driver.pass_eq_following canopen hexit (some (tokio.borrow watch).command) rfl
      hcommand hrcv
    exact ⟨hdriver, rfl, tokio.hasChanged_borrowAndUpdate watch⟩
  · obtain ⟨hold, happlied⟩ := hfollows (Bool.eq_false_iff.mpr hchanged)
    rw [if_neg hchanged]
    exact ⟨Driver.pass_eq_following canopen hexit none hold hcommand hrcv, happlied,
      Bool.eq_false_iff.mpr hchanged⟩

/-- More controls are sent. -/
theorem Follows.foldl_send (hfollows : station.Follows watch) (controls : List Control) :
    station.Follows (controls.foldl tokio.send watch) := by
  by_cases hcontrols : controls = []
  · rw [hcontrols]
    exact hfollows
  · cases hreceiver : tokio.hasReceiver watch with
    | true =>
      intro hchanged
      rw [tokio.hasChanged_foldl_send hreceiver hcontrols] at hchanged
      cases hchanged
    | false =>
      rw [tokio.foldl_send_closed hreceiver]
      exact hfollows

theorem follows_pass (canopen : Canopen)
    (hfollows : station.driver.exitSignal = false → station.Follows watch)
    (hcommand : (tokio.borrow watch).command ≠ .kill) (rcv : Rcv) (info : CanOpenInfo)
    (hafter : (station.pass canopen watch rcv info).1.driver.exitSignal = false) :
    (station.pass canopen watch rcv info).1.Follows (station.pass canopen watch rcv info).2 := by
  by_cases hexit : station.driver.exitSignal = true
  · rw [pass_of_ended canopen hexit] at hafter ⊢
    exact hfollows hafter
  · rw [Bool.not_eq_true] at hexit
    by_cases hrcv : rcv = .ctrlC
    · subst hrcv
      rw [driver_pass, Driver.exitSignal_pass_ctrlC canopen hexit] at hafter
      cases hafter
    · obtain ⟨hdriver, happlied, -⟩ := pass_eq canopen (hfollows hexit) hexit hcommand hrcv info
      intro _
      rw [(station.keeps_pass canopen watch rcv info).1, hdriver, happlied]
      exact ⟨Driver.command_following canopen station.driver _ rcv, rfl⟩

end Station

namespace Session

variable {tokio : Watch Control} {canopen : Canopen} {parsers : Parsers} {formats : Formats}
  {connection : Connection} {startTime : Instant}

/-- A connection that the user has asked for, or that of the command line. -/
def Known (connection asked : Connection) : Prop := asked = connection ∨ asked.Allowed

/-- What holds of the driver, the channel and the GUI in every state. -/
structure Followed (connection : Connection) (session : Session tokio) : Prop where
  follows : tokio.hasReceiver session.watch = true →
    session.station.driver.exitSignal = false → session.station.Follows session.watch
  command : (tokio.borrow session.watch).command ≠ .kill
  known : Known connection (tokio.borrow session.watch).connection
  screen : Known connection session.screen.connection
  initial : session.initial = ⟨.process, connection⟩

theorem command_control_ne (screen : Screen) : screen.control.command ≠ .kill := by
  unfold Screen.control
  dsimp only
  split_ifs <;> exact ControlCommand.noConfusion

theorem followed_start (tokio : Watch Control) (connection : Connection) (startTime : Instant) :
    (start tokio connection startTime).Followed connection := by
  have hvalue : tokio.borrow (start tokio connection startTime).watch = ⟨.process, connection⟩ :=
    tokio.borrow_channel _
  refine ⟨fun _ _ _ ↦ ?_, ?_, ?_, Or.inl rfl, rfl⟩
  · rw [hvalue]
    exact ⟨rfl, rfl⟩
  · rw [hvalue]
    exact ControlCommand.noConfusion
  · rw [hvalue]
    exact Or.inl rfl

/-- The first control is sent once more. -/
theorem Followed.sendInitial {session : Session tokio} (hfollowed : session.Followed connection) :
    Followed connection { session with watch := tokio.send session.watch session.initial } := by
  cases hreceiver : tokio.hasReceiver session.watch with
  | false =>
    rw [tokio.send_closed _ _ hreceiver]
    exact hfollowed
  | true =>
    obtain ⟨hfollows, -, -, hscreen, hinitial⟩ := hfollowed
    have hvalue := tokio.borrow_send session.watch session.initial hreceiver
    rw [hinitial] at hvalue
    refine ⟨fun _ hexit ↦ (hfollows hreceiver hexit).foldl_send [session.initial], ?_, ?_, hscreen,
      hinitial⟩
    · dsimp only
      rw [hinitial, hvalue]
      exact ControlCommand.noConfusion
    · dsimp only
      rw [hinitial, hvalue]
      exact Or.inl rfl

/-- After a frame the channel has its old value, or what the GUI stands for. -/
theorem borrow_frame {session : Session tokio} {input : FrameInput} {heap' : Heap}
    {screen' : Screen} {output : FrameOutput}
    (hdone : Screen.FrameDone canopen parsers formats session.station.state input session.heap
      session.screen heap' screen' output) :
    tokio.borrow (output.controls.foldl tokio.send session.watch) = tokio.borrow session.watch ∨
      tokio.borrow (output.controls.foldl tokio.send session.watch) = screen'.control := by
  cases hreceiver : tokio.hasReceiver session.watch with
  | false => exact Or.inl (congrArg tokio.borrow (tokio.foldl_send_closed hreceiver _))
  | true =>
    rw [tokio.borrow_foldl_send hreceiver, ← hdone.control]
    cases output.controls with
    | nil => exact Or.inl rfl
    | cons control controls => exact Or.inr (by rw [List.getLastD_cons, List.getLastD_cons])

theorem StepDone.followed {session after : Session tokio} {step : SessionStep}
    {output : FrameOutput} (hstep : StepDone canopen parsers formats session step after output)
    (hfollowed : session.Followed connection) : after.Followed connection := by
  obtain ⟨hfollows, hcommand, hknown, hscreen, hinitial⟩ := hfollowed
  cases hstep with
  | pass rcv info hreceiver =>
    have hvalue := (session.station.keeps_pass canopen session.watch rcv info).1
    exact ⟨fun _ ↦ Station.follows_pass canopen (hfollows hreceiver) hcommand rcv info,
      hvalue ▸ hcommand, hvalue ▸ hknown, hscreen, hinitial⟩
  | noPass rcv info hclosed => exact ⟨hfollows, hcommand, hknown, hscreen, hinitial⟩
  | sendInitial => exact Followed.sendInitial ⟨hfollows, hcommand, hknown, hscreen, hinitial⟩
  | dropDriver =>
    have hvalue := tokio.borrow_dropReceiver session.watch
    refine ⟨fun hreceiver ↦ ?_, hvalue ▸ hcommand, hvalue ▸ hknown, hscreen, hinitial⟩
    exact absurd ((tokio.hasReceiver_dropReceiver session.watch).symm.trans hreceiver)
      Bool.false_ne_true
  | @frame input heap' screen' output hdone =>
    have hscreen' : Known connection screen'.connection := by
      rcases hdone.connection with hold | hallowed
      · exact hold ▸ hscreen
      · exact Or.inr hallowed
    have hvalue := borrow_frame hdone
    refine ⟨fun hreceiver hexit ↦ ?_, ?_, ?_, hscreen', hinitial⟩
    · dsimp only at hreceiver
      rw [tokio.hasReceiver_foldl_send] at hreceiver
      exact (hfollows hreceiver hexit).foldl_send output.controls
    · rcases hvalue with hold | hnew
      · exact fun hkill ↦ hcommand (hold ▸ hkill)
      · exact fun hkill ↦ command_control_ne screen' (hnew ▸ hkill)
    · rcases hvalue with hold | hnew
      · dsimp only
        rw [hold]
        exact hknown
      · dsimp only
        rw [hnew]
        exact hscreen'

/-- In every state of every run, the control in the channel does not kill and has a connection that
the user may ask for or that of the command line, and the next pass of the driver follows it, unless
control-C ends the pass: a message is stored exactly when the command is to process, and the CANopen
stack has the connection of the control. A driver that has ended, or whose end of the channel has
been dropped, does nothing more. -/
theorem pass_obeys (canopen : Canopen) (parsers : Parsers) (formats : Formats)
    (tokio : Watch Control) (connection : Connection) (startTime : Instant)
    (steps : List SessionStep) (rcv : Rcv) (info : CanOpenInfo) :
    ∃ session after output,
      run canopen parsers formats tokio connection startTime steps = .ok session ∧
      session.step canopen parsers formats (.pass rcv info) = .ok (after, output) ∧
      (tokio.borrow session.watch).command ≠ .kill ∧
      Known connection (tokio.borrow session.watch).connection ∧
      (session.station.driver.exitSignal = true ∨ tokio.hasReceiver session.watch = false →
        after = session) ∧
      (session.station.driver.exitSignal = false → tokio.hasReceiver session.watch = true →
        rcv ≠ .ctrlC →
          after.station.driver =
              session.station.driver.following canopen (tokio.borrow session.watch).command rcv ∧
            after.station.applied = (tokio.borrow session.watch).connection) := by
  obtain ⟨session, hrun, hvalid, hfollowed⟩ :=
    @run_induction tokio canopen parsers formats connection startTime
      (fun _ session ↦ session.Followed connection) (followed_start tokio connection startTime)
      (fun _ _ _ _ _ _ _ hfollowed _ hstep ↦ hstep.followed hfollowed) steps
  obtain ⟨after, output, hstep, hdone⟩ := exists_step hvalid (.pass rcv info)
  refine ⟨session, after, output, hrun, hstep, hfollowed.command, hfollowed.known, ?_, ?_⟩
  · rintro (hexit | hclosed)
    · cases hdone with
      | pass _ _ hreceiver => rw [Station.pass_of_ended canopen hexit]
      | noPass _ _ hclosed => rfl
    · cases hdone with
      | pass _ _ hreceiver => exact absurd (hclosed.symm.trans hreceiver) Bool.false_ne_true
      | noPass _ _ hclosed => rfl
  · intro hexit hreceiver hrcv
    cases hdone with
    | pass _ _ _ =>
      obtain ⟨hdriver, happlied, -⟩ := Station.pass_eq canopen
        (hfollowed.follows hreceiver hexit) hexit hfollowed.command hrcv info
      exact ⟨hdriver, happlied⟩
    | noPass _ _ hclosed => exact absurd (hclosed.symm.trans hreceiver) Bool.false_ne_true

end Session

end CanopenTools.Viewer
