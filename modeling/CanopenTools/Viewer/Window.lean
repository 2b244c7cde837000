import CanopenTools.Viewer.Retention

/-!
# The window of the driver under any commands

A run of `Driver::process` alone: each step has what ends its wait and the command of the GUI if
that has changed. `StepLog` says what such a run has processed, without the driver: the command in
force and the messages that arrived under the command Process. `Follows` is the invariant, that the
driver holds the end of the log. The trim of `store` comes before the push, so the end has one
message more than the bound (`follows_run`), and `currentWindow_iff` says in which runs the window
is bounded, contiguous and current in every state.
-/

set_option autoImplicit false
set_option relaxedAutoImplicit false

namespace CanopenTools.Viewer

/-- A step of `Driver::process`: the command of the GUI, if it has changed, and what ends the wait.
-/
structure ProcessStep where
  changed : Option ControlCommand
  rcv : Rcv
  deriving DecidableEq, Repr

/-! ### What a run has processed -/

/-- The command in force after some steps and the messages processed in them, oldest first. -/
structure StepLog where
  command : ControlCommand
  processed : List RxMessage
  deriving DecidableEq, Repr

namespace StepLog

/-- The command that a step is taken under. -/
def commandOf (command : ControlCommand) (step : ProcessStep) : ControlCommand :=
  match step.rcv with
  | .ctrlC => .kill
  | _ => step.changed.getD command

/-- One more step: its message is processed if it is taken under the command Process. -/
def add (log : StepLog) (step : ProcessStep) : StepLog where
  command := commandOf log.command step
  processed :=
    match commandOf log.command step, step.rcv with
    | .process, .message msg => log.processed ++ [msg]
    | _, _ => log.processed

/-- The log of a run that starts under a command. -/
def ofSteps (command : ControlCommand) (steps : List ProcessStep) : StepLog :=
  steps.foldl add ⟨command, []⟩

theorem ofSteps_concat (command : ControlCommand) (steps : List ProcessStep) (step : ProcessStep) :
    ofSteps command (steps ++ [step]) = (ofSteps command steps).add step := by
  rw [ofSteps, List.foldl_append]
  rfl

/-- A step takes over the command, and processes a message that it received under the command
Process. -/
theorem add_cases (log : StepLog) (step : ProcessStep) :
    (∃ msg, step.rcv = .message msg ∧ commandOf log.command step = .process ∧
        log.add step = ⟨.process, log.processed ++ [msg]⟩) ∨
      ((∀ msg, step.rcv = .message msg → commandOf log.command step ≠ .process) ∧
        log.add step = { log with command := commandOf log.command step }) := by
  unfold add
  split
  · rename_i msg hcommand hrcv
    exact Or.inl ⟨msg, hrcv, hcommand, by rw [hcommand]⟩
  · rename_i hother
    exact Or.inr ⟨fun msg hrcv hcommand ↦ hother msg hcommand hrcv, rfl⟩

/-- Nothing processed is ever forgotten. -/
theorem processed_grows (command : ControlCommand) (steps more : List ProcessStep) :
    (ofSteps command steps).processed <+: (ofSteps command (steps ++ more)).processed := by
  induction more using List.reverseRecOn with
  | nil => rw [List.append_nil]
  | append_singleton more step ih =>
    rw [← List.append_assoc, ofSteps_concat]
    rcases add_cases (ofSteps command (steps ++ more)) step with ⟨msg, -, -, hmore⟩ | ⟨-, hsame⟩
    · rw [hmore]
      exact ih.trans (List.prefix_append _ _)
    · rwa [hsame]

end StepLog

/-! ### The driver -/

namespace Driver

/-- One step of `Driver::process`. -/
def processStep (canopen : Canopen) (driver : Driver) (step : ProcessStep) : Driver :=
  driver.process canopen step.changed step.rcv

/-- The driver after some steps, started under a command. -/
def processAll (canopen : Canopen) (command : ControlCommand) (steps : List ProcessStep) : Driver :=
  steps.foldl (processStep canopen) (new command)

theorem processAll_concat (canopen : Canopen) (command : ControlCommand)
    (steps : List ProcessStep) (step : ProcessStep) :
    processAll canopen command (steps ++ [step]) =
      (processAll canopen command steps).processStep canopen step := by
  rw [processAll, List.foldl_append]
  rfl

/-- The messages of a log as the driver keeps them, numbered from zero. -/
def cached (canopen : Canopen) (processed : List RxMessage) : List MessageCached :=
  processed.mapIdx (MessageCached.new canopen)

theorem cached_concat (canopen : Canopen) (processed : List RxMessage) (msg : RxMessage) :
    cached canopen (processed ++ [msg]) =
      cached canopen processed ++ [MessageCached.new canopen processed.length msg] := by
  rw [cached, List.mapIdx_append]
  simp [cached]

@[simp] theorem length_cached (canopen : Canopen) (processed : List RxMessage) :
    (cached canopen processed).length = processed.length := List.length_mapIdx

theorem index_cached (canopen : Canopen) (processed : List RxMessage) :
    (cached canopen processed).map MessageCached.index = List.range processed.length := by
  induction processed using List.reverseRecOn with
  | nil => rfl
  | append_singleton processed msg ih =>
    rw [cached_concat, List.map_append, ih, List.length_append, List.length_singleton,
      List.range_succ]
    rfl

/-- The driver holds the end of a log: one message more than the bound, if there are that many. -/
structure Follows (canopen : Canopen) (log : StepLog) (driver : Driver) : Prop where
  command_eq : driver.command = log.command
  index_eq : driver.index = log.processed.length
  data_eq : driver.data = (cached canopen log.processed).drop
    (log.processed.length - (maxMessagesInState + 1))

/-- A step stores the message that it received under the command Process. -/
theorem processStep_message (canopen : Canopen) (driver : Driver) {step : ProcessStep}
    {msg : RxMessage} (hrcv : step.rcv = .message msg)
    (hcommand : StepLog.commandOf driver.command step = .process) :
    driver.processStep canopen step = store canopen { driver with command := .process } msg := by
  obtain ⟨changed, rcv⟩ := step
  subst hrcv
  change changed.getD driver.command = .process at hcommand
  unfold processStep process
  dsimp only
  rw [hcommand]

/-- Any other step takes over the command and nothing else. -/
theorem processStep_other (canopen : Canopen) (driver : Driver) {step : ProcessStep}
    (hother : ∀ msg, step.rcv = .message msg → StepLog.commandOf driver.command step ≠ .process) :
    driver.processStep canopen step =
      { driver with command := StepLog.commandOf driver.command step } := by
  obtain ⟨changed, rcv⟩ := step
  cases rcv with
  | ctrlC => rfl
  | message msg =>
    have hcommand : changed.getD driver.command ≠ .process := hother msg rfl
    unfold processStep process
    dsimp only
    split
    · exact absurd ‹_› hcommand
    · rfl
  | error =>
    unfold processStep process
    dsimp only
    split
    · cases ‹Rcv.error = _›
    · rfl
  | timeout =>
    unfold processStep process
    dsimp only
    split
    · cases ‹Rcv.timeout = _›
    · rfl

theorem follows_new (canopen : Canopen) (command : ControlCommand) :
    Follows canopen (.ofSteps command []) (new command) where
  command_eq := rfl
  index_eq := rfl
  data_eq := by rw [show (StepLog.ofSteps command []).processed = [] from rfl, cached,
    List.mapIdx_nil, List.drop_nil, new]

theorem Follows.processStep {canopen : Canopen} {log : StepLog} {driver : Driver}
    (hfollows : Follows canopen log driver) (step : ProcessStep) :
    Follows canopen (log.add step) (driver.processStep canopen step) := by
  obtain ⟨hcommand, hindex, hdata⟩ := hfollows
  rcases log.add_cases step with ⟨msg, hrcv, hprocess, hadd⟩ | ⟨hother, hadd⟩
  · rw [hadd, processStep_message canopen driver hrcv (by rw [hcommand, hprocess])]
    refine ⟨rfl, ?_, ?_⟩
    · rw [List.length_append, ← hindex]
      rfl
    · have hstore := @App.drop_store (cached canopen log.processed)
        (MessageCached.new canopen log.processed.length msg)
      rw [length_cached, ← cached_concat, length_cached] at hstore
      rw [← hstore, ← hdata, ← hindex]
      rfl
  · rw [hadd, processStep_other canopen driver (by rwa [hcommand]), hcommand]
    exact ⟨rfl, hindex, hdata⟩

/-- The driver follows the log of its steps in every run. -/
theorem follows_run (canopen : Canopen) (command : ControlCommand) (steps : List ProcessStep) :
    Follows canopen (.ofSteps command steps) (processAll canopen command steps) := by
  induction steps using List.reverseRecOn with
  | nil => exact follows_new canopen command
  | append_singleton steps step ih =>
    rw [StepLog.ofSteps_concat, processAll_concat]
    exact ih.processStep step

/-! ### The window -/

/-- The window is bounded, contiguous and current: at most `MAX_MESSAGES_IN_STATE` messages, with
consecutive indices up to the one before the next, and these are the last messages processed, in
order. -/
structure CurrentWindow (canopen : Canopen) (processed : List RxMessage) (driver : Driver) :
    Prop where
  length_le : driver.data.length ≤ maxMessagesInState
  indices : driver.data.map MessageCached.index =
    List.range' (driver.index - driver.data.length) driver.data.length
  index_eq : driver.index = processed.length
  current : driver.data <:+ cached canopen processed

/-- A step under the command Stop changes neither the messages nor the index. -/
def Pauses (canopen : Canopen) (driver : Driver) : Prop :=
  ∀ step : ProcessStep, StepLog.commandOf driver.command step = .stop →
    (driver.processStep canopen step).data = driver.data ∧
      (driver.processStep canopen step).index = driver.index

theorem pauses (canopen : Canopen) (driver : Driver) : driver.Pauses canopen := by
  intro step hstop
  rw [processStep_other canopen driver (by rw [hstop]; simp)]
  exact ⟨rfl, rfl⟩

/-- What the driver holds are the last messages processed, with consecutive indices. -/
theorem Follows.contiguous {canopen : Canopen} {log : StepLog} {driver : Driver}
    (hfollows : Follows canopen log driver) :
    driver.data.length = min log.processed.length (maxMessagesInState + 1) ∧
      driver.data.map MessageCached.index =
        List.range' (driver.index - driver.data.length) driver.data.length ∧
      driver.data <:+ cached canopen log.processed := by
  have hlength : driver.data.length = min log.processed.length (maxMessagesInState + 1) := by
    rw [hfollows.data_eq, List.length_drop, length_cached]
    omega
  refine ⟨hlength, ?_, ?_⟩
  · have hcount : log.processed.length - (log.processed.length - (maxMessagesInState + 1)) =
        min log.processed.length (maxMessagesInState + 1) := by omega
    have hstart : log.processed.length - (maxMessagesInState + 1) =
        log.processed.length - min log.processed.length (maxMessagesInState + 1) := by omega
    rw [hlength, hfollows.index_eq, hfollows.data_eq, List.map_drop, index_cached,
      List.range_eq_range', List.drop_range', hcount, Nat.zero_add, Nat.mul_one, hstart]
  · rw [hfollows.data_eq]
    exact List.drop_suffix _ _

/-- The window is bounded, contiguous and current in every state of a run, and steps under the
command Stop leave it alone, exactly in the runs that process no more messages than the bound. -/
theorem currentWindow_iff (canopen : Canopen) (command : ControlCommand)
    (steps : List ProcessStep) :
    (∀ before, before <+: steps →
        CurrentWindow canopen (StepLog.ofSteps command before).processed
            (processAll canopen command before) ∧
          (processAll canopen command before).Pauses canopen) ↔
      (StepLog.ofSteps command steps).processed.length ≤ maxMessagesInState := by
  constructor
  · intro hall
    have hbound := (hall steps (List.prefix_refl steps)).1.length_le
    rw [(follows_run canopen command steps).contiguous.1] at hbound
    omega
  · rintro hbound before ⟨more, rfl⟩
    obtain ⟨hlength, hindices, hcurrent⟩ := (follows_run canopen command before).contiguous
    have hless := (StepLog.processed_grows command before more).length_le
    refine ⟨⟨?_, hindices, (follows_run canopen command before).index_eq, hcurrent⟩,
      pauses canopen _⟩
    rw [hlength]
    omega

/-! ### The first message too many -/

/-- An empty SYNC frame. -/
def syncMessage : RxMessage := ⟨0, 0x80, [], 0⟩

/-- As many SYNC frames as the state is made for, and one more, under the command Process. -/
def oneTooMany : List ProcessStep :=
  List.replicate (maxMessagesInState + 1) ⟨none, .message syncMessage⟩

theorem processed_replicate (count : ℕ) (msg : RxMessage) :
    (StepLog.ofSteps .process (List.replicate count ⟨none, .message msg⟩)).processed =
        List.replicate count msg ∧
      (StepLog.ofSteps .process (List.replicate count ⟨none, .message msg⟩)).command =
        .process := by
  induction count with
  | zero => exact ⟨rfl, rfl⟩
  | succ count ih =>
    rw [List.replicate_succ', StepLog.ofSteps_concat, List.replicate_succ', ← ih.1]
    unfold StepLog.add StepLog.commandOf
    simp [ih.2]

/-- After one message too many the state holds it too. -/
theorem not_currentWindow_oneTooMany :
    let canopen : Canopen := ⟨fun _ ↦ none, fun _ ↦ .sync, fun _ ↦ "80", fun _ ↦ ""⟩
    (processAll canopen .process oneTooMany).data.length = maxMessagesInState + 1 ∧
      ¬ CurrentWindow canopen (StepLog.ofSteps .process oneTooMany).processed
        (processAll canopen .process oneTooMany) := by
  intro canopen
  have hlength : (processAll canopen .process oneTooMany).data.length = maxMessagesInState + 1 := by
    rw [(follows_run canopen .process oneTooMany).contiguous.1, oneTooMany,
      (processed_replicate _ _).1, List.length_replicate, min_self]
  refine ⟨hlength, fun hwindow ↦ ?_⟩
  have hbound := hwindow.length_le
  rw [hlength] at hbound
  exact Nat.not_succ_le_self _ hbound

end Driver

end CanopenTools.Viewer
