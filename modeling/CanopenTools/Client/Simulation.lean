import CanopenTools.Client.Traffic

/-!
# The program of the client refines its state machine

`main_simulates`: at every call of a run of `main`, there is a run of the machine over what was
received so far with the traffic so far. It is between two steps when the program polls or asks for
a frame, and nothing that was received is left; it waits for input when the program calls
`zsock_recv`; its last act is this frame when the program calls `can_send`; and it has stopped when
`main` returns from the loop. `main_receives` is what this says about a stream of records.
-/

set_option autoImplicit false
set_option relaxedAutoImplicit false

namespace CanopenTools.Client

namespace Board

open Effects Framing

section Simulation

variable {zephyr : ZephyrCan} {α β : Type} {history : List (Event board)} {state : ClientState}

/-! ### The loop -/

/-- A run of the machine that has used up what was received is at this state. -/
def Along (zephyr : ZephyrCan) (history : List (Event board)) (state : ClientState) : Prop :=
  ∃ events, Tracks zephyr (fun sock ↦ runClient zephyr events { sock }) [] history state id

theorem along_nil (zephyr : ZephyrCan) {history : List (Event board)}
    (hreceived : received history = []) (htraffic : traffic history = {}) :
    Along zephyr history { sock := [] } :=
  ⟨[], htraffic.symm, [], hreceived, fun _ ↦ rfl⟩

theorem Along.traffic_eq (halong : Along zephyr history state) :
    state.traffic zephyr = traffic history := by
  obtain ⟨events, htracks⟩ := halong
  exact htracks.traffic

theorem Along.paused (halong : Along zephyr history state) (hrunning : state.status = .running) :
    Paused zephyr history := by
  obtain ⟨events, htraffic, chunk, hreceived, hresumes⟩ := halong
  obtain rfl : received history = chunk := hreceived
  exact ⟨events, state, hrunning, htraffic, hresumes⟩

/-- More steps of the machine lead to more states of it. -/
theorem Along.explains (halong : Along zephyr history state) (more : List ClientEvent) :
    Explains zephyr (fun sock ↦ runClient zephyr more { state with sock }) history := by
  obtain ⟨events, -, earlier, hearlier, hresumes⟩ := halong
  obtain rfl : received history = earlier := hearlier
  intro after chunk due hreceived htraffic
  have hrun : runClient zephyr (events ++ more) { sock := received after } =
      runClient zephyr more { state with sock := chunk } := by
    rw [hreceived, runClient, List.foldl_append]
    exact congrArg (runClient zephyr more) (hresumes chunk)
  refine ⟨events ++ more, ?_, ?_⟩
  · rw [hrun]
  · rw [hrun]
    exact htraffic

theorem Along.shows (halong : Along zephyr history state) : Shows zephyr history state.status [] :=
  halong.explains [] history [] [] (List.append_nil _).symm
    (halong.traffic_eq.trans (Traffic.sends_nil _).symm)

/-- The machine takes more steps. -/
theorem Along.steps (halong : Along zephyr history state) (more : List ClientEvent)
    {after : List (Event board)} {chunk : List RecvEvent} {state' : ClientState}
    (hreceived : received after = received history ++ chunk)
    (htraffic : state'.traffic zephyr = traffic after)
    (hsteps : ∀ rest, runClient zephyr more { state with sock := chunk ++ rest } =
      { state' with sock := rest }) :
    Along zephyr after state' := by
  obtain ⟨events, htracks⟩ := halong
  have hmore : Tracks zephyr (fun sock ↦ runClient zephyr (events ++ more) { sock })
      [] history state (runClient zephyr more) := by
    obtain ⟨earlier, hearlier, hresumes⟩ := htracks.resumes
    refine ⟨htracks.traffic, earlier, hearlier, fun rest ↦ ?_⟩
    rw [runClient, List.foldl_append]
    exact congrArg (runClient zephyr more) (hresumes rest)
  exact ⟨events ++ more, hmore.extend hreceived htraffic hsteps⟩

/-- The machine is in the loop with an empty queue. -/
structure InLoop (state : ClientState) (draining : Bool) : Prop where
  status : state.status = .running
  canRxQ : state.canRxQ = []
  draining : state.draining = draining

/-- The steps of the machine for a frame of the queue. -/
theorem runClient_take (hin : InLoop state true) (cf : CanFrame) (sends : FrameSends) :
    runClient zephyr [.canRx cf, .main { sends, poll := .timeout }] state =
      { state with sendCalls := state.sendCalls ++ [(cf, sends)] } := by
  obtain ⟨hstatus, hqueue, hdraining⟩ := hin
  simp [runClient, clientStep, canRxCb, mainStep, hstatus, hqueue, hdraining, rxMsgqLen]

/-- The step of the machine for the end of the drain loop. -/
theorem runClient_drained (hin : InLoop state true) :
    runClient zephyr [.main { poll := .timeout }] state = { state with draining := false } := by
  obtain ⟨hstatus, hqueue, hdraining⟩ := hin
  simp [runClient, clientStep, mainStep, hstatus, hqueue, hdraining]

/-- The step of the machine for the rest of a pass. -/
theorem runClient_poll (hin : InLoop state false) (poll : Poll) :
    runClient zephyr [.main { poll }] state =
      pollAndReceive zephyr { state with draining := true } poll := by
  obtain ⟨hstatus, hqueue, hdraining⟩ := hin
  simp [runClient, clientStep, mainStep, hstatus, hdraining]

theorem InLoop.withSock {draining : Bool} (hin : InLoop state draining) (sock : List RecvEvent) :
    InLoop { state with sock } draining :=
  ⟨hin.status, hin.canRxQ, hin.draining⟩

/-- The machine has taken a frame and has sent it as far as the connection accepted it. -/
theorem Along.take (halong : Along zephyr history state) (hin : InLoop state true) {cf : CanFrame}
    {sends : FrameSends} {after : List (Event board)}
    (hsends : Sends (history ++ [⟨.kMsgqGet, .ok (some cf)⟩])
      (Client.tcpSendCanFrame zephyr cf sends).1 after) :
    Along zephyr after { state with sendCalls := state.sendCalls ++ [(cf, sends)] } := by
  obtain ⟨hreceived, htraffic⟩ := hsends
  refine @Along.steps _ _ _ halong [.canRx cf, .main { sends, poll := .timeout }] _ [] _ ?_ ?_
    fun rest ↦ runClient_take (hin.withSock rest) cf sends
  · rw [hreceived, received_concat]
    rfl
  · rw [htraffic, traffic_concat, ← halong.traffic_eq]
    ext <;> simp [ClientState.traffic, ClientState.wire, ClientState.sentFrames, sentBy, canSentBy,
      takenBy]

/-- What is called with the next piece of the record of the frame that was sent last. -/
theorem Along.sending (halong : Along zephyr history state) (hrunning : state.status = .running)
    {earlier : List (CanFrame × FrameSends)} {cf : CanFrame} {sends : FrameSends}
    {bytes : List UInt8} (hlast : state.sendCalls = earlier ++ [(cf, sends)])
    (hpiece : (Client.tcpSendCanFrame zephyr cf sends).1 ++ bytes <+:
      beBytes 2 (sizeofTcpHdr + cf.dlc.toNat) ++ clientRecord zephyr cf) :
    Sending zephyr history bytes := by
  obtain ⟨events, htraffic, chunk, hreceived, hresumes⟩ := halong
  obtain rfl : received history = chunk := hreceived
  exact ⟨events, state, earlier, cf, sends, hrunning, hlast, htraffic, hresumes, hpiece⟩

theorem simulates_drainQueue (sock : ℤ) (fuel : ℕ) (halong : Along zephyr history state)
    (hin : InLoop state true) :
    Simulates zephyr history (drainQueue zephyr sock fuel) fun _ after ↦
      ∃ state', Along zephyr after state' ∧ InLoop state' false ∧
        state'.buffers = state.buffers := by
  induction fuel generalizing history state with
  | zero => trivial
  | succ fuel ih =>
    refine simulates_ask_bind (halong.paused hin.status) fun (taken : Option CanFrame) _ ↦ ?_
    cases taken with
    | none =>
      refine ⟨{ state with draining := false }, ?_, ⟨hin.status, hin.canRxQ, rfl⟩, rfl⟩
      exact halong.steps [.main { poll := .timeout }] (received_concat _ _)
        (halong.traffic_eq.trans (traffic_concat_of_none rfl rfl rfl).symm)
        fun rest ↦ runClient_drained (hin.withSock rest)
    | some cf =>
      refine simulates_bind (simulates_tcpSendCanFrame sock cf fun sends after more hsends hpiece ↦
        (halong.take hin hsends).sending hin.status rfl hpiece) fun _ after hafter ↦ ?_
      obtain ⟨sends, hsends⟩ := hafter
      have hrest := ih (halong.take hin hsends) ⟨hin.status, hin.canRxQ, hin.draining⟩
      exact hrest

/-- The record of a pass about itself touches nothing else. -/
theorem receivePass_shows (zephyr : ZephyrCan) (state : ClientState) :
    (receivePass zephyr state).status = (receiveRecord zephyr state).status ∧
      (receivePass zephyr state).traffic zephyr = (receiveRecord zephyr state).traffic zephyr := by
  unfold receivePass
  dsimp only
  split_ifs <;> exact ⟨rfl, rfl⟩

theorem pending_append (first second : List RecvEvent) :
    pending (first ++ second) = pending first ++ pending second := by
  induction first with
  | nil => rfl
  | cons event first ih => cases event <;> simp [pending, ih]

/-- What a pass of the machine is called with at a poll. -/
theorem Along.explains_receive (halong : Along zephyr history state) (hin : InLoop state false) :
    Explains zephyr (fun sock ↦ receiveRecord zephyr { state with sock, draining := true })
      history := by
  intro after chunk due hreceived htraffic
  have hpass := halong.explains [.main { poll := .ready true }] after chunk due hreceived
  dsimp only at hpass htraffic ⊢
  rw [runClient_poll (hin.withSock chunk)] at hpass
  obtain ⟨hstatus, hsame⟩ := receivePass_shows zephyr { state with sock := chunk, draining := true }
  rw [← hstatus]
  exact hpass (hsame.trans htraffic)

/-- The machine behind a pass. -/
theorem Along.pass (halong : Along zephyr history state) (hin : InLoop state false)
    {after : List (Event board)} {state' : ClientState}
    (htracks : Tracks zephyr (fun sock ↦ receiveRecord zephyr { state with sock, draining := true })
      history after state' id) :
    ∃ consumed, Along zephyr after { state' with consumed } := by
  obtain ⟨chunk, hreceived, hresumes⟩ := htracks.resumes
  have hsteps : ∀ rest,
      runClient zephyr [.main { poll := .ready true }] { state with sock := chunk ++ rest } =
        receivePass zephyr { state with sock := chunk ++ rest, draining := true } :=
    fun rest ↦ runClient_poll (hin.withSock _) _
  by_cases hrunning : state'.status = .running
  · refine ⟨state'.consumed ++ [(pending chunk).length],
      halong.steps [.main { poll := .ready true }] hreceived htracks.traffic fun rest ↦ ?_⟩
    rw [hsteps, receivePass]
    simp only [hresumes, id_eq, hrunning, if_true, pending_append, List.length_append,
      Nat.add_sub_cancel]
  · refine ⟨state'.consumed, halong.steps [.main { poll := .ready true }] hreceived htracks.traffic
      fun rest ↦ ?_⟩
    rw [hsteps, receivePass]
    simp only [hresumes, id_eq, hrunning, if_false]

theorem simulates_bridgeLoop (sock : ℤ) (fuel passes : ℕ) {buffers : Buffers}
    (halong : Along zephyr history state) (hin : InLoop state true)
    (hbuffers : state.buffers = buffers) :
    Simulates zephyr history (bridgeLoop zephyr sock fuel passes buffers) fun _ after ↦
      Shows zephyr after .stopped [] := by
  induction passes generalizing history state buffers with
  | zero => trivial
  | succ passes ih =>
    refine simulates_bind (simulates_drainQueue sock fuel halong hin) fun _ before hbefore ↦ ?_
    obtain ⟨drained, hdrained, hin', hkept⟩ := hbefore
    have hsame : drained.buffers = buffers := hkept.trans hbuffers
    refine simulates_ask_bind (hdrained.paused hin'.status) fun (polled : Poll) _ ↦ ?_
    have hpolled : Along zephyr (before ++ [⟨.zsockPoll sock 10, .ok polled⟩]) drained :=
      hdrained.steps [] (received_concat _ _)
        (hdrained.traffic_eq.trans (traffic_concat_of_none rfl rfl rfl).symm) fun _ ↦ rfl
    have hagain : Along zephyr (before ++ [⟨.zsockPoll sock 10, .ok polled⟩])
        { drained with draining := true } :=
      hpolled.steps [.main { poll := .timeout }] (List.append_nil _).symm hpolled.traffic_eq
        fun rest ↦ runClient_poll (hin'.withSock rest) .timeout
    have hloop : InLoop { drained with draining := true } true := ⟨hin'.status, hin'.canRxQ, rfl⟩
    rcases polled with _ | _ | _ | _
    · exact ih hagain hloop hsame
    · have herror : Along zephyr (before ++ [⟨.zsockPoll sock 10, .ok .error⟩])
          { drained with draining := true, status := .stopped } :=
        hpolled.steps [.main { poll := .error }] (List.append_nil _).symm hpolled.traffic_eq
          fun rest ↦ runClient_poll (hin'.withSock rest) .error
      exact herror.shows
    · exact ih hagain hloop hsame
    · have htracks : Tracks zephyr
          (fun sock ↦ receiveRecord zephyr { drained with sock, draining := true })
          (before ++ [⟨.zsockPoll sock 10, .ok (.ready true)⟩])
          (before ++ [⟨.zsockPoll sock 10, .ok (.ready true)⟩])
          { drained with draining := true } (receiveRecord zephyr) :=
        ⟨hpolled.traffic_eq, [], (List.append_nil _).symm, fun _ ↦ rfl⟩
      have hreceive :=
        simulates_receive (hpolled.explains_receive hin') sock fuel hloop.status htracks
      have hbuffers : ({ drained with draining := true } : ClientState).buffers = buffers := hsame
      rw [hbuffers] at hreceive
      refine simulates_bind hreceive fun result after hafter ↦ ?_
      cases result with
      | none =>
        obtain ⟨stopped, hstopped, hend⟩ := hafter
        obtain ⟨consumed, hpass⟩ := hpolled.pass hin' hend
        exact hstopped ▸ hpass.shows
      | some buffers =>
        obtain ⟨canSends, hend⟩ := hafter
        obtain ⟨consumed, hpass⟩ := hpolled.pass hin' hend
        exact ih hpass ⟨hin'.status, hin'.canRxQ, rfl⟩ rfl

/-! ### `main` -/

theorem silent_tcpConnect (config : Config) : (tcpConnect config).Uses Silent := by
  refine Program.uses_bind (Program.uses_perform trivial) fun (invalid : ℤ) ↦ ?_
  refine Program.uses_ite trivial ?_
  refine Program.uses_bind (Program.uses_perform trivial) fun (opened : Except ℕ+ ℕ) ↦ ?_
  cases opened with
  | error errno => trivial
  | ok sock =>
    refine Program.uses_bind (Program.uses_perform trivial) fun (connected : Except ℕ+ ℕ) ↦ ?_
    cases connected with
    | error errno => exact Program.uses_bind (Program.uses_perform trivial) fun _ ↦ trivial
    | ok _ => trivial

theorem silent_connectLoop (config : Config) (fuel : ℕ) :
    (connectLoop config fuel).Uses Silent := by
  induction fuel with
  | zero => trivial
  | succ fuel ih =>
    refine Program.uses_bind (silent_tcpConnect config) fun sock ↦ Program.uses_ite ?_ trivial
    exact Program.uses_bind (Program.uses_perform trivial) fun _ ↦ ih

/-- Nothing was received or sent. -/
def Unused (history : List (Event board)) : Prop := received history = [] ∧ traffic history = {}

theorem Unused.concat (hunused : Unused history) {event : Event board} (hsilent : Silent event.op) :
    Unused (history ++ [event]) :=
  ⟨(received_concat_of_silent hsilent history).trans hunused.1,
    (traffic_concat_of_silent hsilent history).trans hunused.2⟩

/-- The machine has not done anything either. -/
theorem Unused.shows (hunused : Unused history) : Shows zephyr history .running [] := by
  refine ⟨[], rfl, ?_⟩
  rw [hunused.2, Traffic.sends_nil]
  rfl

/-- A call before the loop and what follows it. -/
theorem simulates_ask_unused {op : Op} {rest : op.Result → Routine α}
    {returns : α → List (Event board) → Prop} (hsilent : Silent op) (hunused : Unused history)
    (hrest : ∀ result after, Unused after → Simulates zephyr after (rest result) returns) :
    Simulates zephyr history (ask op >>= rest) returns := by
  exact simulates_ask_bind (guard_of_silent hsilent hunused.shows)
    fun result _ ↦ hrest result _ (hunused.concat hsilent)

/-- How `main` ends: the loop has stopped, or it has not been reached. -/
def Ends (zephyr : ZephyrCan) (history : List (Event board)) : Prop :=
  Shows zephyr history .stopped [] ∨ Unused history

theorem Ends.shows (hends : Ends zephyr history) : ∃ status, Shows zephyr history status [] := by
  rcases hends with hstopped | hunused
  · exact ⟨_, hstopped⟩
  · exact ⟨_, hunused.shows⟩

/-- What is done behind the end. -/
theorem simulates_end {routine : Routine α} (huses : routine.Uses Silent)
    (hends : Ends zephyr history) :
    Simulates zephyr history routine fun _ after ↦ Ends zephyr after := by
  obtain ⟨status, hshows⟩ := hends.shows
  refine Program.wp_mono (fun _ after hsame ↦ ?_) (fun _ _ _ ↦ trivial)
    (simulates_silent huses hshows)
  obtain ⟨hreceived, htraffic⟩ := hsame
  rw [Ends, Shows, Unused, hreceived, htraffic]
  exact hends

theorem simulates_runFiltered (fuel : ℕ) (sock : ℤ) (hunused : Unused history) :
    Simulates zephyr history (runFiltered zephyr fuel sock) fun _ after ↦ Ends zephyr after := by
  refine simulates_ask_unused trivial hunused fun (filterId : ℤ) after hunused ↦ ?_
  refine simulates_ite (fun _ ↦ simulates_end ?_ (Or.inr hunused)) fun _ ↦ ?_
  · exact Program.uses_bind (Program.uses_perform trivial) fun _ ↦ Program.uses_perform trivial
  · have halong := along_nil zephyr hunused.1 hunused.2
    refine simulates_bind (simulates_bridgeLoop sock fuel fuel halong
      ⟨rfl, rfl, rfl⟩ rfl) fun _ after hstopped ↦ simulates_end ?_ (Or.inl hstopped)
    exact Program.uses_bind (Program.uses_perform trivial) fun _ ↦
      Program.uses_bind (Program.uses_perform trivial) fun _ ↦ Program.uses_perform trivial

theorem simulates_runConnected (fuel : ℕ) (sock : ℤ) (hunused : Unused history) :
    Simulates zephyr history (runConnected zephyr fuel sock) fun _ after ↦ Ends zephyr after := by
  refine simulates_ask_unused trivial hunused fun (ready : Bool) after hunused ↦ ?_
  refine simulates_ite (fun _ ↦ simulates_end (Program.uses_perform trivial) (Or.inr hunused))
    fun _ ↦ ?_
  refine simulates_ask_unused trivial hunused fun (ret : ℤ) after hunused ↦ ?_
  exact simulates_ite (fun _ ↦ simulates_end (Program.uses_perform trivial) (Or.inr hunused))
    fun _ ↦ simulates_runFiltered fuel sock hunused

theorem simulates_main (config : Config) (fuel : ℕ) :
    Simulates zephyr [] (main zephyr config fuel) fun _ after ↦ Ends zephyr after := by
  refine simulates_ask_unused trivial ⟨rfl, rfl⟩ fun (ret : ℤ) after hunused ↦ ?_
  refine simulates_ite (fun _ ↦ Or.inr hunused) fun _ ↦ ?_
  refine simulates_bind (simulates_silent (silent_connectLoop config fuel) hunused.shows)
    fun sock final hsame ↦ ?_
  exact simulates_runConnected fuel sock ⟨hsame.1.trans hunused.1, hsame.2.trans hunused.2⟩

/-- Every run of `main` is explained by the machine: at every call it is where the call says, with
the traffic of the run, and when `main` returns the machine has stopped, unless the loop was never
reached. -/
theorem main_simulates (config : Config) (fuel : ℕ) (surroundings : Surroundings board)
    (hrelies : ∀ history op, Relies ⟨op, surroundings history op⟩) :
    (∀ before event after,
      ((main zephyr config fuel).run surroundings []).1 = before ++ event :: after →
        Guard zephyr before event.op) ∧
      ∀ value, ((main zephyr config fuel).run surroundings []).2 = .returned value →
        Ends zephyr ((main zephyr config fuel).run surroundings []).1 := by
  have hkeeps : surroundings.Keeps (simulation zephyr) := hrelies
  obtain ⟨hguarded, houtcome⟩ := Program.wp_sound hkeeps (@simulates_main zephyr config fuel)
  refine ⟨fun before event after hsplit ↦ hguarded before event after hsplit List.nil_prefix,
    fun value hreturned ↦ ?_⟩
  rw [hreturned] at houtcome
  exact houtcome

/-! ### A stream of records -/

open Bridge (WireRecord recordStream)

/-- Some socket delivers given bytes. -/
theorem exists_pending (bytes : List UInt8) : ∃ sock, OpenSocket sock ∧ pending sock = bytes := by
  cases bytes with
  | nil => exact ⟨[], nofun, rfl⟩
  | cons first more =>
    refine ⟨[.segment first more], fun event hevent ↦ ?_, List.append_nil _⟩
    obtain rfl := List.mem_singleton.mp hevent
    exact Or.inr ⟨first, more, rfl⟩

/-- A paused machine over a front of a stream of records has taken whole records off it, and its
frames are those of the well-formed ones. -/
theorem Paused.receives (hpaused : Paused zephyr history) {records : List WireRecord}
    (hopen : OpenSocket (received history))
    (hfront : pending (received history) <+: recordStream records) :
    ∃ done todo, records = done ++ todo ∧ pending (received history) = recordStream done ∧
      List.Forall₂ (FrameOfRecord zephyr) ((done.map WireRecord.bytes).filter (WellFormed ·))
        (traffic history).canSent := by
  obtain ⟨events, state, hrunning, htraffic, hresumes⟩ := hpaused
  obtain ⟨missing, hmissing⟩ := hfront
  obtain ⟨rest, hrestOpen, hrest⟩ := exists_pending missing
  have hstart : Received zephyr [] records { sock := received history ++ rest } :=
    { consumed := rfl
      canSends := .nil
      sized := ⟨rfl, rfl, rfl, nofun⟩
      stream := fun _ ↦
        ⟨fun event hevent ↦ (List.mem_append.mp hevent).elim (hopen event) (hrestOpen event),
          by rw [pending_append, hrest, hmissing]⟩
      waiting := nofun }
  obtain ⟨done, todo, rfl, hreceived, -⟩ := received_runClient hstart events
  rw [hresumes, List.nil_append] at hreceived
  refine ⟨done, todo, rfl, ?_, ?_⟩
  · have htodo : missing = recordStream todo := hrest.symm.trans (hreceived.stream hrunning).2
    rw [htodo, recordStream, recordStream, List.map_append, List.flatMap_append] at hmissing
    exact List.append_cancel_right hmissing
  · have hcanSent : state.canSends = (traffic history).canSent := congrArg Traffic.canSent htraffic
    exact hcanSent ▸ hreceived.canSends

/-- Over a stream of records: whenever the program polls or asks for a frame, it has taken whole
records off the stream and has called `can_send` for the well-formed ones of them, once each and in
order. -/
theorem main_receives (config : Config) (fuel : ℕ) (surroundings : Surroundings board)
    (hrelies : ∀ history op, Relies ⟨op, surroundings history op⟩) (records : List WireRecord)
    {before after : List (Event board)} {event : Event board}
    (hsplit : ((main zephyr config fuel).run surroundings []).1 = before ++ event :: after)
    (hpauses : event.op = .kMsgqGet ∨ ∃ sock timeout, event.op = .zsockPoll sock timeout)
    (hopen : OpenSocket (received before))
    (hfront : pending (received before) <+: recordStream records) :
    ∃ done todo, records = done ++ todo ∧ pending (received before) = recordStream done ∧
      List.Forall₂ (FrameOfRecord zephyr) ((done.map WireRecord.bytes).filter (WellFormed ·))
        (traffic before).canSent := by
  have hkeeps : surroundings.Keeps (simulation zephyr) := hrelies
  have hguard := (Program.wp_sound hkeeps (@simulates_main zephyr config fuel)).1 before event
    after hsplit List.nil_prefix
  have hpaused : Paused zephyr before := by
    obtain ⟨op, answer⟩ := event
    rcases hpauses with rfl | ⟨sock, timeout, rfl⟩
    · exact hguard
    · exact hguard
  exact hpaused.receives hopen hfront

/-- A read that is given the next bytes. -/
def deliver (size : ℕ) (bytes : List UInt8) : RecvEvent :=
  match bytes.take size with
  | [] => .again
  | first :: more => .segment first more

theorem fits_deliver (size : ℕ) (bytes : List UInt8) : Fits size (deliver size bytes) := by
  have hlength := List.length_take_le size bytes
  unfold deliver
  split
  next => trivial
  next first more hbytes =>
    rw [hbytes] at hlength
    exact hlength

/-- A board on which a record with one data byte arrives in four reads behind an `EAGAIN`, and then
the server closes the connection. -/
def delivering : Surroundings board := fun history op ↦ .ok (answer history.length op)
where
  pieces : List (List UInt8) := [[], [0], [7], [0, 0, 1, 0x23, 0, 1], [0xAA]]
  answer (count : ℕ) : (op : Op) → op.Result
  | .zsockSocket => (.ok 5 : Except ℕ+ ℕ)
  | .zsockConnect _ _ _ => (.ok 0 : Except ℕ+ ℕ)
  | .deviceIsReady => true
  | .kMsgqGet => (none : Option CanFrame)
  | .zsockSend _ bytes => ZsockSend.accepted bytes.length
  | .zsockPoll _ _ => Poll.ready true
  | .zsockRecv _ size =>
    if count < 14 then deliver size (pieces.getD (count - 9) []) else RecvEvent.closed
  | .connectionManagerInit _ _ => (0 : ℤ)
  | .netAddrPton _ => (0 : ℤ)
  | .canStart => (0 : ℤ)
  | .canAddRxFilter _ => (0 : ℤ)
  | .canSend _ _ => (0 : ℤ)
  | .zsockClose _ => ()
  | .kSleep _ => ()
  | .canStop => ()
  | .canRemoveRxFilter _ => ()

theorem relies_delivering (history : List (Event board)) (op : Op) :
    Relies ⟨op, delivering history op⟩ := by
  cases op with
  | zsockRecv sock size =>
    show Fits size (if history.length < 14 then _ else _)
    split_ifs
    · exact fits_deliver size _
    · trivial
  | _ => trivial

/-- The history of `main` on this board. -/
def delivered : List (Event board) := ((main documentedZephyrCan home 5).run delivering []).1

theorem main_simulates_delivering :
    delivered.length = 21 ∧ Guard documentedZephyrCan (delivered.take 14) (.canSend
      { id := 0x123, dlc := 1, data := 0xAA :: List.replicate 7 0 } 10) ∧
        Ends documentedZephyrCan delivered := by
  obtain ⟨hguarded, hends⟩ := main_simulates home 5 delivering relies_delivering
  exact ⟨rfl, hguarded (delivered.take 14) _ (delivered.drop 15) rfl, hends () rfl⟩

/-- The record that arrives. -/
def deliveredRecord : WireRecord where
  bytes := [0, 0, 1, 0x23, 0, 1, 0xAA]
  length_lt := by decide

theorem main_receives_delivering :
    ∃ done todo, [deliveredRecord] = done ++ todo ∧
      pending (received (delivered.take 15)) = recordStream done ∧
      List.Forall₂ (FrameOfRecord documentedZephyrCan)
        ((done.map WireRecord.bytes).filter (WellFormed ·))
        (traffic (delivered.take 15)).canSent := by
  have hreceived : received (delivered.take 15) =
      [.again, .segment 0 [], .segment 7 [], .segment 0 [0, 1, 0x23, 0, 1], .segment 0xAA []] := by
    decide +kernel
  have hopen : OpenSocket (received (delivered.take 15)) := by
    rw [hreceived]
    simp [OpenSocket]
  have hsplit : delivered = delivered.take 15 ++ ⟨.kMsgqGet, .ok none⟩ :: delivered.drop 16 := rfl
  exact main_receives home 5 delivering relies_delivering [deliveredRecord] hsplit
    (Or.inl rfl) hopen ⟨[], rfl⟩

end Simulation

end Board

end CanopenTools.Client
