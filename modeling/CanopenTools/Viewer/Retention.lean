import CanopenTools.Runs.Windows
import CanopenTools.Viewer.App
import Mathlib.Data.List.Infix

/-!
# What the GUI shows of the messages

The driver keeps the last messages, a frame of the GUI takes what is past its cursor, and the cursor
is the newest message that has passed the global filter. `processed` is the list of all messages
that the driver has processed. In a run that stays in the process state, `driver_run` says what the
driver holds of them. `PacedRun` is such a run with one global filter and at most
`maxMessagesInState` messages between two frames. `retains_newest` is the result: after each frame
the GUI shows the newest messages that pass the filter, as many as it has room for.
-/

set_option autoImplicit false
set_option relaxedAutoImplicit false

namespace CanopenTools.Viewer

/-! ### The messages of a run -/

/-- The message that a step gives to the driver, if it gives one. -/
def Step.message? : Step → Option RxMessage
  | .pass _ (.message msg) => some msg
  | _ => none

/-- A step keeps the driver in the process state. -/
def Step.Processing : Step → Prop
  | .pass changed rcv => changed.getD .process = .process ∧ rcv ≠ .ctrlC
  | _ => True

/-- A step sets the global filter. -/
def Step.SetsGlobalFilter : Step → Prop
  | .setGlobalFilter _ => True
  | _ => False

namespace App

/-- The messages that the driver processes in a run in the process state, oldest first. -/
def processed (canopen : Canopen) (steps : List Step) : List MessageCached :=
  (steps.filterMap Step.message?).mapIdx (MessageCached.new canopen)

section Processed

variable (canopen : Canopen)

/-- More steps add the messages that they give to the driver. -/
theorem processed_append (steps more : List Step) :
    ∃ new, processed canopen (steps ++ more) = processed canopen steps ++ new ∧
      new.length = (more.filterMap Step.message?).length := by
  refine ⟨(more.filterMap Step.message?).mapIdx fun position ↦
    MessageCached.new canopen (position + (steps.filterMap Step.message?).length), ?_,
    List.length_mapIdx⟩
  rw [processed, List.filterMap_append, List.mapIdx_append]
  rfl

theorem processed_concat (steps : List Step) (step : Step) :
    processed canopen (steps ++ [step]) = processed canopen steps ++
      (step.message?.map (MessageCached.new canopen (processed canopen steps).length)).toList := by
  rw [processed, List.filterMap_append, List.mapIdx_append, processed, List.length_mapIdx]
  cases hmessage : step.message? with
  | none => simp [hmessage]
  | some msg => simp [hmessage]

/-- The messages have the indices 0, 1, 2, ... -/
theorem index_processed (steps : List Step) :
    (processed canopen steps).map MessageCached.index =
      List.range (processed canopen steps).length := by
  refine List.ext_getElem (by simp) fun position hleft hright ↦ ?_
  simp [processed, MessageCached.new]

theorem sorted_processed (steps : List Step) :
    (processed canopen steps).Pairwise fun first second ↦ first.index < second.index := by
  rw [← List.pairwise_map, index_processed]
  exact List.pairwise_lt_range

/-! ### The driver -/

@[simp] theorem command_store (driver : Driver) (msg : RxMessage) :
    (driver.store canopen msg).command = driver.command := by
  unfold Driver.store
  rfl

@[simp] theorem exitSignal_store (driver : Driver) (msg : RxMessage) :
    (driver.store canopen msg).exitSignal = driver.exitSignal := by
  unfold Driver.store
  rfl

section Pass

variable {canopen} {driver : Driver} {changed : Option ControlCommand}

/-- A pass that leaves the driver in the process state sets no exit signal. -/
theorem pass_of_process (hsignal : driver.exitSignal = false) {rcv : Rcv} {after : Driver}
    (hprocess : driver.process canopen changed rcv = after) (hcommand : after.command = .process)
    (hafter : after.exitSignal = false) : driver.pass canopen changed rcv = after := by
  obtain ⟨data, exitSignal, command, index⟩ := after
  subst hcommand hafter
  rw [Driver.pass, if_neg (by simp [hsignal]), hprocess]
  rfl

/-- A pass in the process state stores the message that it receives. -/
theorem pass_message (hcommand : driver.command = .process) (hsignal : driver.exitSignal = false)
    {msg : RxMessage} (hstep : (Step.pass changed (.message msg)).Processing) :
    driver.pass canopen changed (.message msg) = driver.store canopen msg := by
  have hsame : { driver with command := ControlCommand.process } = driver := by rw [← hcommand]
  have hprocess : driver.process canopen changed (.message msg) = driver.store canopen msg := by
    unfold Driver.process
    simp only [hcommand, hstep.1]
    rw [hsame]
  refine pass_of_process hsignal hprocess ?_ ?_
  · rw [command_store, hcommand]
  · rw [exitSignal_store, hsignal]

/-- Any other pass in the process state does nothing. -/
theorem pass_other (hcommand : driver.command = .process) (hsignal : driver.exitSignal = false)
    {rcv : Rcv} (hstep : (Step.pass changed rcv).Processing)
    (hother : (Step.pass changed rcv).message? = none) :
    driver.pass canopen changed rcv = driver := by
  have hsame : { driver with command := ControlCommand.process } = driver := by rw [← hcommand]
  refine pass_of_process hsignal ?_ hcommand hsignal
  cases rcv with
  | message msg => cases hother
  | ctrlC => exact absurd rfl hstep.2
  | error =>
    unfold Driver.process
    simp only [hcommand, hstep.1]
    exact hsame
  | timeout =>
    unfold Driver.process
    simp only [hcommand, hstep.1]
    exact hsame

end Pass

/-- Storing a message after the last of a list keeps the last of the longer list. -/
theorem drop_store {messages : List MessageCached} (message : MessageCached) :
    (messages.drop (messages.length - (maxMessagesInState + 1))).drop
        ((messages.drop (messages.length - (maxMessagesInState + 1))).length -
          maxMessagesInState) ++ [message] =
      (messages ++ [message]).drop ((messages ++ [message]).length - (maxMessagesInState + 1)) := by
  exact Runs.rtake_push messages maxMessagesInState message

/-- What the driver holds in a run in the process state: the last messages. -/
theorem driver_run {steps : List Step} (hsteps : ∀ step ∈ steps, step.Processing) :
    (run canopen steps).driver =
      { data := (processed canopen steps).drop
          ((processed canopen steps).length - (maxMessagesInState + 1))
        exitSignal := false
        command := .process
        index := (processed canopen steps).length } := by
  induction steps using List.reverseRecOn with
  | nil => simp [run, Driver.new, processed]
  | append_singleton steps step ih =>
    rw [List.forall_mem_append, List.forall_mem_singleton] at hsteps
    have hbefore := ih hsteps.1
    have hcommand : (run canopen steps).driver.command = .process := by rw [hbefore]
    have hsignal : (run canopen steps).driver.exitSignal = false := by rw [hbefore]
    rw [run_concat, processed_concat]
    cases hmessage : step.message? with
    | none =>
      have hsame : ((run canopen steps).step canopen step).driver = (run canopen steps).driver := by
        cases step with
        | pass changed rcv => exact pass_other hcommand hsignal hsteps.2 hmessage
        | _ => rfl
      rw [hsame, hbefore, Option.map_none, Option.toList_none, List.append_nil]
    | some msg =>
      have hstored : ((run canopen steps).step canopen step).driver =
          (run canopen steps).driver.store canopen msg := by
        cases step with
        | pass changed rcv =>
          cases rcv with
          | message other =>
            obtain rfl := Option.some.inj hmessage
            exact pass_message hcommand hsignal hsteps.2
          | _ => cases hmessage
        | _ => cases hmessage
      rw [hstored, hbefore, Driver.store]
      simp only [Option.map_some, Option.toList_some, drop_store, List.length_append,
        List.length_singleton]

/-! ### The GUI -/

/-- A run that does not set the global filter any more. -/
theorem globalFilter_run (filter : GlobalFilter) {steps : List Step}
    (hsteps : ∀ step ∈ steps, ¬ step.SetsGlobalFilter) :
    (run canopen (.setGlobalFilter filter :: steps)).gui.globalFilter = filter := by
  induction steps using List.reverseRecOn with
  | nil => rfl
  | append_singleton steps step ih =>
    rw [List.forall_mem_append, List.forall_mem_singleton] at hsteps
    have hbefore := ih hsteps.1
    rw [← List.cons_append]
    cases step with
    | setGlobalFilter other => exact absurd trivial hsteps.2
    | frame clock => rw [gui_run_frame]; exact hbefore
    | _ => rw [run_concat]; exact hbefore

end Processed

/-- The newest messages of a list that pass a filter, newest first, as many as the GUI has room
for. -/
def newestPassing (filter : GlobalFilter) (messages : List MessageCached) : List MessageCached :=
  (messages.filter fun message ↦ !filter.filter message).reverse.take messagesCount

/-- The cursor of a GUI that shows the newest passing messages of `old` is behind no passing message
of `old`. -/
theorem not_past_of_mem {filter : GlobalFilter} {old : List MessageCached}
    (hsorted : old.Pairwise fun first second ↦ first.index < second.index)
    {message : MessageCached} (hmessage : message ∈ old) (hpass : filter.filter message = false) :
    Gui.Past (newestPassing filter old) message = false := by
  have hmem : message ∈ (old.filter fun message ↦ !filter.filter message).reverse :=
    List.mem_reverse.mpr (List.mem_filter.mpr ⟨hmessage, by rw [hpass]; rfl⟩)
  have hreverse : (old.filter fun message ↦ !filter.filter message).reverse.Pairwise
      fun newer older ↦ older.index < newer.index :=
    List.pairwise_reverse.mpr (hsorted.filter _)
  unfold newestPassing
  generalize (old.filter fun message ↦ !filter.filter message).reverse = passing at *
  rw [← Bool.not_eq_true, Gui.past_iff]
  intro hpast
  cases passing with
  | nil => exact absurd hmem List.not_mem_nil
  | cons newest rest =>
    have hlt := hpast newest rfl
    rcases List.mem_cons.mp hmem with rfl | hrest
    · exact lt_irrefl _ hlt
    · exact lt_asymm hlt ((List.pairwise_cons.mp hreverse).1 message hrest)

/-- A frame accepts the passing ones of the messages that were stored since the last frame, when the
driver still has all of them. -/
theorem accepted_of_split {gui : Gui} {old recent new : List MessageCached}
    (hsorted : (old ++ new).Pairwise fun first second ↦ first.index < second.index)
    (hdata : gui.data = newestPassing gui.globalFilter old) (hrecent : recent ⊆ old) :
    gui.accepted (recent ++ new) = new.filter fun message ↦ !gui.globalFilter.filter message := by
  obtain ⟨hold, -, hacross⟩ := List.pairwise_append.mp hsorted
  have hnew : gui.fresh new = new := by
    refine List.filter_eq_self.mpr fun message hmessage ↦ ?_
    refine (Gui.past_iff _ _).mpr fun last hlast ↦ ?_
    have hmem := List.mem_of_head? hlast
    rw [hdata, newestPassing] at hmem
    have hlast := List.mem_of_mem_filter (List.mem_reverse.mp (List.mem_of_mem_take hmem))
    exact hacross last hlast message hmessage
  have hnone : (gui.fresh recent).filter (fun message ↦ !gui.globalFilter.filter message) = [] := by
    refine List.filter_eq_nil_iff.mpr fun message hmessage hpass ↦ ?_
    obtain ⟨hmem, hpast⟩ := Gui.mem_fresh.mp hmessage
    rw [hdata, not_past_of_mem hold (hrecent hmem) (by simpa using hpass)] at hpast
    exact Bool.false_ne_true hpast
  have happend : gui.fresh (recent ++ new) = gui.fresh recent ++ gui.fresh new :=
    List.filter_append ..
  rw [Gui.accepted, happend, List.filter_append, hnone, hnew, List.nil_append]

/-- Messages in front of a list that is cut off. -/
theorem newestPassing_append (filter : GlobalFilter) (old new : List MessageCached) :
    ((new.filter fun message ↦ !filter.filter message).reverse ++ newestPassing filter old).take
        messagesCount = newestPassing filter (old ++ new) := by
  rw [newestPassing, newestPassing, List.filter_append, List.reverse_append, List.take_append,
    List.take_append, List.take_take, min_eq_left (Nat.sub_le ..)]

/-! ### Paced runs -/

/-- A run with the driver in the process state, one global filter, and at most
`maxMessagesInState` messages before each frame since the last one or since the start. -/
structure PacedRun where
  filter : GlobalFilter
  steps : List Step
  processing : ∀ step ∈ steps, step.Processing
  unchanged : ∀ step ∈ steps, ¬ step.SetsGlobalFilter
  paced : ∀ before between clock after, steps = before ++ between ++ .frame clock :: after →
    (∀ step ∈ between, ¬ step.IsFrame) →
    (between.filterMap Step.message?).length ≤ maxMessagesInState

/-- The viewer after some steps with a global filter. -/
def runWith (canopen : Canopen) (filter : GlobalFilter) (steps : List Step) : App :=
  run canopen (.setGlobalFilter filter :: steps)

/-- The GUI shows the newest passing messages that the driver had processed at the last frame. -/
def Retains (canopen : Canopen) (filter : GlobalFilter) (steps : List Step) : Prop :=
  ∃ before between, steps = before ++ between ∧ (∀ step ∈ between, ¬ step.IsFrame) ∧
    (runWith canopen filter steps).gui.data = newestPassing filter (processed canopen before)

/-- The first steps of a paced run are a paced run. -/
def PacedRun.takeSteps (run : PacedRun) {before after : List Step}
    (hsplit : run.steps = before ++ after) : PacedRun where
  filter := run.filter
  steps := before
  processing := fun step hstep ↦
    run.processing step (hsplit ▸ List.mem_append_left after hstep)
  unchanged := fun step hstep ↦
    run.unchanged step (hsplit ▸ List.mem_append_left after hstep)
  paced := by
    rintro earlier between clock later rfl hbetween
    exact run.paced earlier between clock (later ++ after) (by simp [hsplit]) hbetween

section Runs

variable (canopen : Canopen)

theorem processed_setGlobalFilter (filter : GlobalFilter) (steps : List Step) :
    processed canopen (.setGlobalFilter filter :: steps) = processed canopen steps := rfl

/-- What the driver holds after the steps of a paced run: the new messages and some old ones. -/
theorem PacedRun.driver_data (run : PacedRun) {before between : List Step}
    {clock : MessageCached → Instant} (hsteps : run.steps = before ++ between ++ [.frame clock])
    (hbetween : ∀ step ∈ between, ¬ step.IsFrame) :
    ∃ recent new, recent ⊆ processed canopen before ∧
      processed canopen (before ++ between) = processed canopen before ++ new ∧
      (runWith canopen run.filter (before ++ between)).driver.data = recent ++ new := by
  obtain ⟨new, hprocessed, hlength⟩ := processed_append canopen before between
  have hpaced := run.paced before between clock [] hsteps hbetween
  have hprocessing : ∀ step ∈ Step.setGlobalFilter run.filter :: (before ++ between),
      step.Processing := by
    intro step hstep
    rcases List.mem_cons.mp hstep with rfl | hrest
    · trivial
    · exact run.processing step (hsteps ▸ List.mem_append_left _ hrest)
  refine ⟨(processed canopen before).drop
    ((processed canopen (before ++ between)).length - (maxMessagesInState + 1)), new,
    List.drop_subset _ _, hprocessed, ?_⟩
  rw [runWith, driver_run canopen hprocessing, processed_setGlobalFilter, hprocessed]
  have hle : (processed canopen before ++ new).length - (maxMessagesInState + 1) ≤
      (processed canopen before).length := by
    rw [List.length_append]
    omega
  rw [List.drop_append_of_le_length hle]

/-- A frame keeps the invariant. -/
theorem Retains.frame {run : PacedRun} {steps : List Step} {clock : MessageCached → Instant}
    (hsteps : run.steps = steps ++ [.frame clock])
    (hretains : Retains canopen run.filter steps) :
    (runWith canopen run.filter (steps ++ [.frame clock])).gui.data =
      newestPassing run.filter (processed canopen steps) := by
  obtain ⟨before, between, rfl, hbetween, hdata⟩ := hretains
  obtain ⟨recent, new, hrecent, hprocessed, hdriver⟩ := run.driver_data canopen hsteps hbetween
  have hfilter : (runWith canopen run.filter (before ++ between)).gui.globalFilter = run.filter :=
    globalFilter_run canopen run.filter fun step hstep ↦
      run.unchanged step (hsteps ▸ List.mem_append_left _ hstep)
  have hsorted := sorted_processed canopen (before ++ between)
  rw [hprocessed] at hsorted
  have haccepted : (runWith canopen run.filter (before ++ between)).gui.accepted (recent ++ new) =
      new.filter fun message ↦ !run.filter.filter message := by
    rw [accepted_of_split hsorted (by rw [hfilter]; exact hdata) hrecent, hfilter]
  rw [runWith, ← List.cons_append, gui_run_frame]
  change List.take messagesCount
    (((runWith canopen run.filter (before ++ between)).gui.accepted
      (runWith canopen run.filter (before ++ between)).driver.data).reverse ++
      (runWith canopen run.filter (before ++ between)).gui.data) = _
  rw [hdriver, haccepted, hdata, newestPassing_append, hprocessed]

/-- Every paced run keeps the invariant. -/
theorem retains_run (run : PacedRun) : Retains canopen run.filter run.steps := by
  obtain ⟨steps, hsteps⟩ : ∃ steps, steps = run.steps := ⟨_, rfl⟩
  rw [← hsteps]
  induction steps using run_induction generalizing run with
  | nil => exact ⟨[], [], rfl, fun _ hstep ↦ absurd hstep List.not_mem_nil, rfl⟩
  | frame steps clock ih =>
    have hbefore := ih (run.takeSteps hsteps.symm) rfl
    refine ⟨steps ++ [.frame clock], [], by rw [List.append_nil],
      fun _ hstep ↦ absurd hstep List.not_mem_nil, ?_⟩
    rw [hbefore.frame canopen hsteps.symm, processed_concat]
    exact congrArg (newestPassing run.filter) (List.append_nil _).symm
  | other steps step hstep ih =>
    obtain ⟨before, between, rfl, hbetween, hdata⟩ := ih (run.takeSteps hsteps.symm) rfl
    refine ⟨before, between ++ [step], List.append_assoc .., ?_, ?_⟩
    · exact List.forall_mem_append.mpr ⟨hbetween, List.forall_mem_singleton.mpr hstep⟩
    · have hsame := run_of_not_isFrame canopen (.setGlobalFilter run.filter :: (before ++ between))
        (List.forall_mem_singleton.mpr hstep)
      exact hsame.1.trans hdata

/-- Driver and GUI together lose nothing. After each frame of a paced run the GUI shows the newest
of the messages that the driver has processed and that pass the global filter, as many as it has
room for, newest first and no message twice. -/
theorem retains_newest (run : PacedRun) (before : List Step) (clock : MessageCached → Instant)
    (after : List Step) (hframe : run.steps = before ++ .frame clock :: after) :
    (runWith canopen run.filter (before ++ [.frame clock])).gui.data =
        newestPassing run.filter (processed canopen before) ∧
      ((runWith canopen run.filter (before ++ [.frame clock])).gui.data.map
        MessageCached.index).Nodup := by
  have hsplit : run.steps = (before ++ [.frame clock]) ++ after := by
    rw [hframe, List.append_assoc, List.singleton_append]
  have hbefore := retains_run canopen (run.takeSteps hframe)
  have hdata : (runWith canopen run.filter (before ++ [.frame clock])).gui.data =
      newestPassing run.filter (processed canopen before) :=
    @Retains.frame canopen (run.takeSteps hsplit) before clock rfl hbefore
  refine ⟨hdata, ?_⟩
  have hnodup : ((processed canopen before).reverse.map MessageCached.index).Nodup := by
    rw [List.map_reverse, index_processed]
    exact List.nodup_reverse.mpr List.nodup_range
  have hsublist : (newestPassing run.filter (processed canopen before)).Sublist
      (processed canopen before).reverse :=
    (List.take_sublist _ _).trans List.filter_sublist.reverse
  rw [hdata]
  exact hnodup.sublist (hsublist.map _)

end Runs

/-- A PDO and a SYNC, then a frame, with a global filter that filters PDOs out. -/
def syncRun : PacedRun where
  filter := ⟨.pdo, ⟨none, none, none⟩⟩
  steps := [.pass none (.message ⟨10, 0x183, [1], 1⟩), .pass none (.message ⟨20, 0x80, [], 0⟩),
    .frame fun _ ↦ 30]
  processing := by simp [Step.Processing]
  unchanged := by simp [Step.SetsGlobalFilter]
  paced := by
    intro before between clock after hsteps hbetween
    have hlength := congrArg List.length hsteps
    have hfilter := List.length_filterMap_le Step.message? between
    simp only [List.length_append, List.length_cons, List.length_nil] at hlength
    unfold maxMessagesInState
    omega

/-- After the frame the GUI shows the SYNC. -/
theorem retains_newest_syncRun :
    let canopen : Canopen :=
      ⟨fun _ ↦ none, fun msg ↦ if msg.cobId = 0x80 then .sync else .pdo, fun _ ↦ "", fun _ ↦ ""⟩
    (runWith canopen syncRun.filter syncRun.steps).gui.data =
        [MessageCached.new canopen 1 ⟨20, 0x80, [], 0⟩] ∧
      ((runWith canopen syncRun.filter syncRun.steps).gui.data.map MessageCached.index).Nodup := by
  intro canopen
  have hretains := retains_newest canopen syncRun
    [.pass none (.message ⟨10, 0x183, [1], 1⟩), .pass none (.message ⟨20, 0x80, [], 0⟩)]
    (fun _ ↦ 30) [] rfl
  refine ⟨hretains.1.trans ?_, hretains.2⟩
  decide

end App

end CanopenTools.Viewer
