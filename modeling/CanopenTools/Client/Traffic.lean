import CanopenTools.Client.Resources

/-!
# The calls of the client and its state machine

`MainLoop` is a state machine with a step for a pass of the loop; `Board` is the program with a call
of Zephyr as its unit. The answers of `zsock_recv` so far are the socket of the machine, and what
the program has sent on the connection and on the bus and has taken from the queue is its `Traffic`.
`Guard` says where the machine is at a call.

`Tracks` is the simulation relation. It follows a computation of the machine over a socket of which
only a front is known yet: with any rest of the socket behind that front, the computation goes on as
a given function of the state. Each part of a pass of the program has one lemma that moves this
function forward.
-/

set_option autoImplicit false
set_option relaxedAutoImplicit false

namespace CanopenTools.Client

open Framing

/-! ### Traffic -/

/-- The bytes that the connection accepted, the frames that `can_send` was called with, and the
frames that were taken from the queue. -/
@[ext]
structure Traffic where
  sent : List UInt8 := []
  canSent : List CanFrame := []
  taken : List CanFrame := []
  deriving DecidableEq, Repr

/-- More frames for the bus. -/
def Traffic.sends (traffic : Traffic) (frames : List CanFrame) : Traffic :=
  { traffic with canSent := traffic.canSent ++ frames }

@[simp] theorem Traffic.sends_nil (traffic : Traffic) : traffic.sends [] = traffic := by
  ext <;> simp [Traffic.sends]

/-- The traffic of the state machine. -/
def ClientState.traffic (zephyr : ZephyrCan) (state : ClientState) : Traffic :=
  { sent := state.wire zephyr, canSent := state.canSends, taken := state.sentFrames }

/-- The buffers of a state. -/
def ClientState.buffers (state : ClientState) : Board.Buffers :=
  { lenbuf := state.lenbuf, hdrbuf := state.hdrbuf, databuf := state.databuf }

/-- A state with other buffers. -/
def ClientState.withBuffers (state : ClientState) (buffers : Board.Buffers) : ClientState :=
  { state with lenbuf := buffers.lenbuf, hdrbuf := buffers.hdrbuf, databuf := buffers.databuf }

section ReceiveRecord

variable (zephyr : ZephyrCan)

/-- `receiveRecord` behind its second read. -/
def receiveData (payLen : ℕ) (state : ClientState) : ClientState :=
  let dataLen := payLen - sizeofTcpHdr
  if dataLen ≠ 0 then
    state.afterRecv (recvAll dataLen state.sock state.databuf 0) fun databuf sock ↦
      sendParts zephyr dataLen { state with databuf, sock }
  else sendParts zephyr dataLen state

/-- `receiveRecord` behind its first read. -/
def receiveHdr (payLen : ℕ) (state : ClientState) : ClientState :=
  if payLen < sizeofTcpHdr ∨ payLen > sizeofTcpHdr + 8 then dumpLoop payLen payLen state
  else
    state.afterRecv (recvAll sizeofTcpHdr state.sock state.hdrbuf 0) fun hdrbuf sock ↦
      receiveData zephyr payLen { state with hdrbuf, sock }

end ReceiveRecord

/-- A request that is met ends `recv_all`. -/
theorem recvAll_met {n got : ℕ} (sock : List RecvEvent) (buf : List UInt8) (hgot : ¬ got < n) :
    recvAll n sock buf got = .filled buf sock := by
  cases sock with
  | nil => exact if_neg hgot
  | cons answer sock =>
    unfold recvAll
    exact if_neg hgot

/-- A segment that is no longer than the request and fits the buffer is taken whole. -/
theorem recvAll_segment_within {n got : ℕ} {first : UInt8} {more buf : List UInt8}
    (sock : List RecvEvent) (hgot : got < n) (hsegment : (first :: more).length ≤ n - got)
    (hfits : got + (first :: more).length ≤ buf.length) :
    recvAll n (.segment first more :: sock) buf got =
      recvAll n sock (buf.take got ++ (first :: more) ++ buf.drop (got + (first :: more).length))
        (got + (first :: more).length) := by
  have hr : min (n - got) (first :: more).length = (first :: more).length := min_eq_right hsegment
  have hwrite := writeAt_of_le (first :: more) hfits
  rw [recvAll, if_pos hgot]
  simp only [hr, List.take_of_length_le le_rfl, List.drop_of_length_le le_rfl, hwrite]

namespace Board

open Effects Framing

/-- What a call received. -/
def receivedBy : Event board → List RecvEvent
  | ⟨.zsockRecv _ _, .ok received⟩ => [received]
  | _ => []

/-- The bytes that the connection accepted in a call. -/
def sentBy : Event board → List UInt8
  | ⟨.zsockSend _ bytes, .ok result⟩ => bytes.take (ZsockSend.count bytes.length result)
  | _ => []

/-- The frame of a call of `can_send`. -/
def canSentBy : Event board → List CanFrame
  | ⟨.canSend frame _, _⟩ => [frame]
  | _ => []

/-- The frame that a call took from the queue. -/
def takenBy : Event board → List CanFrame
  | ⟨.kMsgqGet, .ok taken⟩ => @Option.toList CanFrame taken
  | _ => []

/-- What the socket delivered. -/
def received (history : List (Event board)) : List RecvEvent := history.flatMap receivedBy

/-- The traffic of a history. -/
def traffic (history : List (Event board)) : Traffic :=
  { sent := history.flatMap sentBy
    canSent := history.flatMap canSentBy
    taken := history.flatMap takenBy }

theorem received_concat (history : List (Event board)) (event : Event board) :
    received (history ++ [event]) = received history ++ receivedBy event := by
  rw [received, List.flatMap_append, List.flatMap_singleton]
  rfl

theorem traffic_concat (history : List (Event board)) (event : Event board) :
    traffic (history ++ [event]) =
      { sent := (traffic history).sent ++ sentBy event
        canSent := (traffic history).canSent ++ canSentBy event
        taken := (traffic history).taken ++ takenBy event } := by
  simp only [traffic, List.flatMap_append, List.flatMap_singleton]

/-- An event without traffic. -/
theorem traffic_concat_of_none {history : List (Event board)} {event : Event board}
    (hsent : sentBy event = []) (hcanSent : canSentBy event = []) (htaken : takenBy event = []) :
    traffic (history ++ [event]) = traffic history := by
  rw [traffic_concat, hsent, hcanSent, htaken]
  simp only [List.append_nil]

/-- Calls that neither receive nor send. -/
def Silent : Op → Prop
  | .kMsgqGet => False
  | .zsockSend _ _ => False
  | .zsockPoll _ _ => False
  | .zsockRecv _ _ => False
  | .canSend _ _ => False
  | _ => True

theorem received_concat_of_silent {event : Event board} (hsilent : Silent event.op)
    (history : List (Event board)) : received (history ++ [event]) = received history := by
  obtain ⟨op, answer⟩ := event
  rw [received_concat]
  cases op <;> first | exact hsilent.elim | exact List.append_nil _

theorem traffic_concat_of_silent {event : Event board} (hsilent : Silent event.op)
    (history : List (Event board)) : traffic (history ++ [event]) = traffic history := by
  obtain ⟨op, answer⟩ := event
  cases op <;> first | exact hsilent.elim | exact traffic_concat_of_none rfl rfl rfl

/-! ### The contract -/

section Simulation

variable (zephyr : ZephyrCan)

/-- A run of the machine over what was received ends with a status and with the traffic of the
history and frames that are still due. -/
def Shows (history : List (Event board)) (status : LoopStatus) (due : List CanFrame) : Prop :=
  ∃ events, (runClient zephyr events { sock := received history }).status = status ∧
    (runClient zephyr events { sock := received history }).traffic zephyr =
      (traffic history).sends due

/-- A run of the machine uses up what was received, whatever comes behind it, and is still in the
loop then, with the traffic of the history. -/
def Paused (history : List (Event board)) : Prop :=
  ∃ (events : List ClientEvent) (state : ClientState),
    state.status = .running ∧ state.traffic zephyr = traffic history ∧
      ∀ rest, runClient zephyr events { sock := received history ++ rest } =
        { state with sock := rest }

/-- A run of the machine that uses up what was received has just sent a frame, as far as the
connection accepted it, and is still in the loop with the traffic of the history. The bytes are the
next piece of the record of this frame. -/
def Sending (history : List (Event board)) (bytes : List UInt8) : Prop :=
  ∃ (events : List ClientEvent) (state : ClientState) (earlier : List (CanFrame × FrameSends))
    (cf : CanFrame) (sends : FrameSends),
    state.status = .running ∧ state.sendCalls = earlier ++ [(cf, sends)] ∧
      state.traffic zephyr = traffic history ∧
      (∀ rest, runClient zephyr events { sock := received history ++ rest } =
        { state with sock := rest }) ∧
      (Client.tcpSendCanFrame zephyr cf sends).1 ++ bytes <+:
        beBytes 2 (sizeofTcpHdr + cf.dlc.toNat) ++ clientRecord zephyr cf

/-- Where the machine is at a call. -/
def Guard (history : List (Event board)) : Op → Prop
  | .kMsgqGet => Paused zephyr history
  | .zsockPoll _ _ => Paused zephyr history
  | .zsockRecv _ _ => Shows zephyr history .waiting []
  | .zsockSend _ bytes => Sending zephyr history bytes
  | .canSend frame _ => Shows zephyr history .running [frame]
  | _ => ∃ status, Shows zephyr history status []

/-- The calls of the program are explained by the machine. -/
def simulation : Contract board where
  rely := fun _ ↦ Relies
  guard := Guard zephyr

/-- From a history, the program is explained by the machine. -/
def Simulates {α : Type} (history : List (Event board)) (routine : Routine α)
    (returns : α → List (Event board) → Prop) : Prop :=
  routine.wp (simulation zephyr) returns (fun _ _ ↦ True) history

variable {zephyr} {α β : Type} {history : List (Event board)}

theorem simulates_ask_bind {op : Op} {rest : op.Result → Routine α}
    {returns : α → List (Event board) → Prop} (hguard : Guard zephyr history op)
    (hrest : ∀ result, Relies ⟨op, .ok result⟩ →
      Simulates zephyr (history ++ [⟨op, .ok result⟩]) (rest result) returns) :
    Simulates zephyr history (ask op >>= rest) returns := by
  refine ⟨hguard, fun answer hrelies ↦ ?_⟩
  cases answer with
  | ok result => exact hrest result hrelies
  | error error => trivial

theorem simulates_bind {routine : Routine β} {rest : β → Routine α}
    {middle : β → List (Event board) → Prop} {returns : α → List (Event board) → Prop}
    (hroutine : Simulates zephyr history routine middle)
    (hrest : ∀ value history, middle value history →
      Simulates zephyr history (rest value) returns) :
    Simulates zephyr history (routine >>= rest) returns :=
  Program.wp_seq hroutine hrest

theorem simulates_ite {condition : Prop} [Decidable condition] {yes no : Routine α}
    {returns : α → List (Event board) → Prop}
    (hyes : condition → Simulates zephyr history yes returns)
    (hno : ¬ condition → Simulates zephyr history no returns) :
    Simulates zephyr history (if condition then yes else no) returns := by
  split_ifs with hcondition
  · exact hyes hcondition
  · exact hno hcondition

/-- A silent call may be made wherever the machine is. -/
theorem guard_of_silent {op : Op} (hsilent : Silent op) {status : LoopStatus}
    (hshows : Shows zephyr history status []) : Guard zephyr history op := by
  cases op <;> first | exact hsilent.elim | exact ⟨status, hshows⟩

/-- A part that neither receives nor sends. -/
theorem simulates_silent {routine : Routine α} (huses : routine.Uses Silent) {status : LoopStatus}
    (hshows : Shows zephyr history status []) :
    Simulates zephyr history routine fun _ after ↦
      received after = received history ∧ traffic after = traffic history := by
  have hguard : ∀ after op, Silent op →
      (received after = received history ∧ traffic after = traffic history) →
        (simulation zephyr).guard after op := by
    rintro after op hsilent ⟨hreceived, htraffic⟩
    have hstill : Shows zephyr after status [] := by
      rwa [Shows, hreceived, htraffic]
    exact guard_of_silent hsilent hstill
  refine Program.wp_mono (fun _ _ hsame ↦ hsame) (fun _ _ _ ↦ trivial)
    (Program.wp_of_uses huses hguard (fun before event hsilent _ hsame ↦ ?_) ⟨rfl, rfl⟩)
  rw [received_concat_of_silent hsilent, traffic_concat_of_silent hsilent]
  exact hsame

/-! ### The simulation relation -/

/-- A computation over a socket, behind what was received since a history `start`, goes on as
`resume` from a state that has the traffic so far. -/
structure Tracks (zephyr : ZephyrCan) (base : List RecvEvent → ClientState)
    (start history : List (Event board)) (state : ClientState)
    (resume : ClientState → ClientState) : Prop where
  traffic : state.traffic zephyr = traffic history
  resumes : ∃ chunk, received history = received start ++ chunk ∧
    ∀ rest, base (chunk ++ rest) = resume { state with sock := rest }

/-- What a computation over a socket arrives at is a state of the machine. -/
def Explains (zephyr : ZephyrCan) (base : List RecvEvent → ClientState)
    (start : List (Event board)) : Prop :=
  ∀ history chunk due, received history = received start ++ chunk →
    (base chunk).traffic zephyr = (traffic history).sends due →
      Shows zephyr history (base chunk).status due

variable {base : List RecvEvent → ClientState} {start : List (Event board)} {state : ClientState}
  {resume : ClientState → ClientState}

/-- What is known of the machine at a call inside a computation. -/
theorem Tracks.shows (htracks : Tracks zephyr base start history state resume)
    (hexplains : Explains zephyr base start) (due : List CanFrame)
    (htraffic : (resume { state with sock := [] }).traffic zephyr =
      (state.traffic zephyr).sends due) :
    Shows zephyr history (resume { state with sock := [] }).status due := by
  obtain ⟨chunk, hreceived, hresumes⟩ := htracks.resumes
  have hbase := hresumes []
  rw [List.append_nil] at hbase
  rw [← hbase] at htraffic ⊢
  rw [htracks.traffic] at htraffic
  exact hexplains history chunk due hreceived htraffic

/-- The computation goes on behind what was received since. -/
theorem Tracks.extend (htracks : Tracks zephyr base start history state resume)
    {after : List (Event board)} {chunk : List RecvEvent} {state' : ClientState}
    {resume' : ClientState → ClientState} (hreceived : received after = received history ++ chunk)
    (htraffic : state'.traffic zephyr = Board.traffic after)
    (hresume : ∀ rest, resume { state with sock := chunk ++ rest } =
      resume' { state' with sock := rest }) :
    Tracks zephyr base start after state' resume' := by
  obtain ⟨earlier, hearlier, hresumes⟩ := htracks.resumes
  refine ⟨htraffic, earlier ++ chunk, ?_, fun rest ↦ ?_⟩
  · rw [hreceived, hearlier, List.append_assoc]
  · rw [List.append_assoc, hresumes, hresume]

/-- The same computation in other words. -/
theorem Tracks.congr (htracks : Tracks zephyr base start history state resume)
    {state' : ClientState} {resume' : ClientState → ClientState}
    (htraffic : state'.traffic zephyr = state.traffic zephyr)
    (hresume : ∀ rest, resume { state with sock := rest } = resume' { state' with sock := rest }) :
    Tracks zephyr base start history state' resume' :=
  htracks.extend (List.append_nil _).symm (htraffic.trans htracks.traffic) hresume

/-! ### Reading -/

/-- Since a history, a call of `recv_all` with the request `n` and the buffer `buf` has received
what makes it end with `result`. -/
structure Reads (n : ℕ) (buf : List UInt8) (history after : List (Event board))
    (result : List RecvEvent → RecvAll) : Prop where
  traffic : traffic after = traffic history
  resumes : ∃ chunk, received after = received history ++ chunk ∧
    ∀ rest, Client.recvAll n (chunk ++ rest) buf 0 = result rest

/-- One more answer of `zsock_recv`. -/
theorem Reads.receive {n size : ℕ} {buf : List UInt8} {after : List (Event board)} {sock : ℤ}
    {result result' : List RecvEvent → RecvAll} (hreads : Reads n buf history after result)
    (answer : RecvEvent) (hresult : ∀ rest, result (answer :: rest) = result' rest) :
    Reads n buf history (after ++ [⟨.zsockRecv sock size, .ok answer⟩]) result' := by
  obtain ⟨chunk, hreceived, hresumes⟩ := hreads.resumes
  refine ⟨(traffic_concat_of_none rfl rfl rfl).trans hreads.traffic, chunk ++ [answer], ?_,
    fun rest ↦ ?_⟩
  · rw [received_concat, hreceived, List.append_assoc]
    rfl
  · rw [List.append_assoc, List.singleton_append, hresumes, hresult]

/-- How a call of `recv_all` has ended. -/
def ReadsAll (n : ℕ) (buf : List UInt8) (history : List (Event board)) :
    Option (List UInt8) → List (Event board) → Prop
  | some filled, after => Reads n buf history after (.filled filled)
  | none, after => Reads n buf history after .failed

theorem simulates_recvAll_from {n : ℕ} {buf : List UInt8} {sock : ℤ}
    (hwaits : ∀ after result, Reads n buf history after result → result [] = .waiting →
      Shows zephyr after .waiting []) (fuel : ℕ) {after : List (Event board)} {filled : List UInt8}
    {got : ℕ} (hreads : Reads n buf history after fun rest ↦ Client.recvAll n rest filled got) :
    Simulates zephyr after (recvAll sock n fuel filled got) (ReadsAll n buf history) := by
  induction fuel generalizing filled got after with
  | zero => trivial
  | succ fuel ih =>
    unfold recvAll
    split_ifs with hgot
    · have hwaiting := hwaits after _ hreads (by rw [Client.recvAll, if_pos hgot])
      refine simulates_ask_bind hwaiting fun (answer : RecvEvent) hrelies ↦ ?_
      cases answer with
      | again => exact ih (hreads.receive .again fun rest ↦ by rw [Client.recvAll, if_pos hgot])
      | closed => exact hreads.receive .closed fun rest ↦ by rw [Client.recvAll, if_pos hgot]
      | error errno =>
        exact hreads.receive (.error errno) fun rest ↦ by rw [Client.recvAll, if_pos hgot]
      | segment first more =>
        have hsegment : (first :: more).length ≤ n - got := hrelies
        by_cases hfits : got + (first :: more).length ≤ filled.length
        · have hwrite := writeAt_of_le (first :: more) hfits
          simp only [hwrite]
          refine ih (hreads.receive (.segment first more) fun rest ↦ ?_)
          rw [recvAll_segment_within rest hgot hsegment hfits]
        · have hwrite : writeAt filled got (first :: more) = none := if_neg hfits
          simp only [hwrite]
          trivial
    · refine ⟨hreads.traffic, ?_⟩
      obtain ⟨chunk, hreceived, hresumes⟩ := hreads.resumes
      refine ⟨chunk, hreceived, fun rest ↦ (hresumes rest).trans ?_⟩
      exact recvAll_met rest filled hgot

section Pass

variable {sock : ℤ} (hexplains : Explains zephyr base start)

/-- After a call of `recv_all` the computation goes on with the buffer, or it has stopped. -/
def AfterRecv (zephyr : ZephyrCan) (base : List RecvEvent → ClientState)
    (start : List (Event board)) (state : ClientState)
    (next : List UInt8 → List RecvEvent → ClientState) :
    Option (List UInt8) → List (Event board) → Prop
  | some filled, after => Tracks zephyr base start after state fun state ↦ next filled state.sock
  | none, after => Tracks zephyr base start after { state with status := .stopped } id

include hexplains

theorem simulates_recvAll {n : ℕ} (fuel : ℕ) {buf : List UInt8}
    {next : List UInt8 → List RecvEvent → ClientState}
    (htracks : Tracks zephyr base start history state fun state ↦
      state.afterRecv (Client.recvAll n state.sock buf 0) next) :
    Simulates zephyr history (recvAll sock n fuel buf 0)
      (AfterRecv zephyr base start state next) := by
  refine Program.wp_mono (fun filled after hreads ↦ ?_) (fun _ _ _ ↦ trivial)
    (simulates_recvAll_from (fun after result hreads hwaiting ↦ ?_) fuel
      ⟨rfl, [], (List.append_nil _).symm, fun _ ↦ rfl⟩)
  · cases filled with
    | some filled =>
      obtain ⟨chunk, hreceived, hresumes⟩ := hreads.resumes
      refine htracks.extend hreceived (htracks.traffic.trans hreads.traffic.symm) fun rest ↦ ?_
      simp only [hresumes]
      rfl
    | none =>
      obtain ⟨chunk, hreceived, hresumes⟩ := hreads.resumes
      refine htracks.extend hreceived (htracks.traffic.trans hreads.traffic.symm) fun rest ↦ ?_
      simp only [hresumes]
      rfl
  · obtain ⟨earlier, hearlier, hbase⟩ := htracks.resumes
    obtain ⟨chunk, hreceived, hresumes⟩ := hreads.resumes
    have hresult := hresumes []
    rw [List.append_nil, hwaiting] at hresult
    have hstate : base (earlier ++ chunk) = { state with sock := chunk, status := .waiting } := by
      rw [hbase]
      simp only [hresult]
      rfl
    have hshows :=
      hexplains after (earlier ++ chunk) [] (by rw [hreceived, hearlier, List.append_assoc])
    rw [hstate, Traffic.sends_nil, hreads.traffic] at hshows
    exact hshows htracks.traffic

theorem simulates_dump (fuel passes toDump : ℕ)
    (htracks : Tracks zephyr base start history state (dumpLoop passes toDump)) :
    Simulates zephyr history (dump sock fuel passes toDump) fun running after ↦
      Tracks zephyr base start after
        (if running then state else { state with status := .stopped }) id := by
  induction passes generalizing history toDump with
  | zero => exact htracks
  | succ passes ih =>
    unfold dump
    split_ifs with hdone
    · refine htracks.congr rfl fun rest ↦ ?_
      rw [dumpLoop, if_pos hdone]
      rfl
    · have hrecv : Tracks zephyr base start history state fun current ↦
          current.afterRecv (Client.recvAll (min toDump 32) current.sock (List.replicate 32 0) 0)
            fun _ sock ↦ dumpLoop passes (toDump - min toDump 32) { state with sock } := by
        refine htracks.congr rfl fun rest ↦ ?_
        rw [dumpLoop, if_neg hdone]
      refine simulates_bind (simulates_recvAll hexplains fuel hrecv) fun filled after hafter ↦ ?_
      cases filled with
      | none => exact hafter
      | some _ => exact ih _ (hafter.congr rfl fun _ ↦ rfl)

theorem simulates_sendOut (dataLen : ℕ) (hrunning : state.status = .running)
    (htracks : Tracks zephyr base start history state (sendParts zephyr dataLen)) :
    Simulates zephyr history (sendOut zephyr dataLen state.buffers) fun _ after ↦
      ∃ canSends, Tracks zephyr base start after { state with canSends } id := by
  unfold sendOut
  cases hparts : canFromTcpParts zephyr (some (.ofBytes state.hdrbuf)) state.databuf dataLen {} with
  | error errno =>
    simp only [ClientState.buffers, hparts]
    refine ⟨state.canSends, htracks.congr rfl fun rest ↦ ?_⟩
    simp only [sendParts, hparts]
    rfl
  | ok out =>
    simp only [ClientState.buffers, hparts]
    have hsent : ∀ rest, sendParts zephyr dataLen { state with sock := rest } =
        { state with sock := rest, canSends := state.canSends ++ [out] } := by
      intro rest
      simp only [sendParts, hparts]
    have hguard : Shows zephyr history .running [out] := by
      have hshows := htracks.shows hexplains [out] (by rw [hsent]; rfl)
      rw [hsent] at hshows
      exact hrunning ▸ hshows
    refine simulates_ask_bind hguard fun _ _ ↦ ⟨state.canSends ++ [out], ?_⟩
    refine @Tracks.extend _ _ _ _ _ _ htracks _ [] _ _ ?_ ?_ fun rest ↦ hsent rest
    · rw [received_concat]
      rfl
    · rw [traffic_concat, ← htracks.traffic]
      ext <;> simp [ClientState.traffic, ClientState.wire, ClientState.sentFrames, sentBy,
        canSentBy, takenBy]

/-- A pass has ended: the computation is at a state with these buffers, or the loop has stopped. -/
def AfterPass (zephyr : ZephyrCan) (base : List RecvEvent → ClientState)
    (start : List (Event board)) (state : ClientState) : Option Buffers → List (Event board) → Prop
  | some buffers, after => ∃ canSends,
    Tracks zephyr base start after { state.withBuffers buffers with canSends } id
  | none, after => ∃ stopped, stopped.status = .stopped ∧ Tracks zephyr base start after stopped id

omit hexplains in
/-- The state as it is. -/
theorem afterPass_id {buffers : Buffers}
    (htracks : Tracks zephyr base start history (state.withBuffers buffers) id) :
    AfterPass zephyr base start state (some buffers) history :=
  ⟨state.canSends, htracks⟩

/-- A read of a pass and what follows it. -/
theorem simulates_orStop {n : ℕ} (fuel : ℕ) {buf : List UInt8}
    {routine : List UInt8 → Routine (Option Buffers)}
    (next : List UInt8 → List RecvEvent → ClientState) {initial : ClientState}
    (htracks : Tracks zephyr base start history state fun current ↦
      current.afterRecv (Client.recvAll n current.sock buf 0) next)
    (hnext : ∀ filled after,
      Tracks zephyr base start after state (fun current ↦ next filled current.sock) →
        Simulates zephyr after (routine filled) (AfterPass zephyr base start initial)) :
    Simulates zephyr history (orStop (recvAll sock n fuel buf 0) routine)
      (AfterPass zephyr base start initial) := by
  refine simulates_bind (simulates_recvAll hexplains fuel htracks) fun filled after hafter ↦ ?_
  cases filled with
  | none => exact ⟨_, rfl, hafter⟩
  | some filled => exact hnext filled after hafter

/-- The end of a pass that has read a record. -/
theorem simulates_sendOut_pass (dataLen : ℕ) {buffers : Buffers}
    (hrunning : state.status = .running)
    (htracks : Tracks zephyr base start history (state.withBuffers buffers)
      (sendParts zephyr dataLen)) :
    Simulates zephyr history (do sendOut zephyr dataLen buffers; pure (some buffers))
      (AfterPass zephyr base start state) :=
  simulates_bind
    (@simulates_sendOut _ _ _ _ (state.withBuffers buffers) hexplains dataLen hrunning htracks)
    fun _ _ hafter ↦ hafter

theorem simulates_receiveData (fuel payLen : ℕ) {buffers : Buffers}
    (hrunning : state.status = .running)
    (htracks : Tracks zephyr base start history (state.withBuffers buffers)
      (Client.receiveData zephyr payLen)) :
    Simulates zephyr history (receiveData zephyr sock fuel payLen buffers)
      (AfterPass zephyr base start state) := by
  refine simulates_ite (fun hdata ↦ ?_) fun hempty ↦ ?_
  · refine simulates_orStop hexplains fuel
      (fun databuf sock ↦ sendParts zephyr (payLen - sizeofTcpHdr)
        { state.withBuffers { buffers with databuf } with sock })
      (htracks.congr rfl fun rest ↦ if_pos hdata)
      fun databuf after hafter ↦ ?_
    exact simulates_sendOut_pass hexplains _ hrunning
      (hafter.congr rfl fun _ ↦ rfl)
  · exact simulates_sendOut_pass hexplains _ hrunning
      (htracks.congr rfl fun rest ↦ if_neg hempty)

theorem simulates_receiveHdr (fuel payLen : ℕ) {buffers : Buffers}
    (hrunning : state.status = .running)
    (htracks : Tracks zephyr base start history (state.withBuffers buffers)
      (Client.receiveHdr zephyr payLen)) :
    Simulates zephyr history (receiveHdr zephyr sock fuel payLen buffers)
      (AfterPass zephyr base start state) := by
  refine simulates_ite (fun hbad ↦ ?_) fun hgood ↦ ?_
  · have hdump := htracks.congr rfl fun rest ↦ if_pos hbad
    refine simulates_bind (simulates_dump hexplains fuel payLen payLen hdump)
      fun running after hafter ↦ ?_
    cases running with
    | false => exact ⟨_, rfl, hafter⟩
    | true => exact afterPass_id hafter
  · refine simulates_orStop hexplains fuel
      (fun hdrbuf sock ↦ Client.receiveData zephyr payLen
        { state.withBuffers { buffers with hdrbuf } with sock })
      (htracks.congr rfl fun rest ↦ if_neg hgood)
      fun hdrbuf after hafter ↦ ?_
    exact simulates_receiveData hexplains fuel payLen hrunning
      (hafter.congr rfl fun _ ↦ rfl)

theorem simulates_receive (sock : ℤ) (fuel : ℕ) (hrunning : state.status = .running)
    (htracks : Tracks zephyr base start history state (receiveRecord zephyr)) :
    Simulates zephyr history (receive zephyr sock fuel state.buffers)
      (AfterPass zephyr base start state) := by
  refine simulates_orStop hexplains fuel
    (fun lenbuf sock ↦ Client.receiveHdr zephyr (beNat lenbuf)
      { state.withBuffers { state.buffers with lenbuf } with sock })
    (htracks.congr rfl fun _ ↦ rfl) fun lenbuf after hafter ↦ ?_
  exact simulates_receiveHdr hexplains fuel (beNat lenbuf) hrunning
    (hafter.congr rfl fun _ ↦ rfl)

end Pass

/-! ### Sending -/

/-- Since a history, nothing has happened but that the connection accepted bytes. -/
def Sends (history : List (Event board)) (bytes : List UInt8) (after : List (Event board)) : Prop :=
  received after = received history ∧
    traffic after = { traffic history with sent := (traffic history).sent ++ bytes }

theorem sends_nil (history : List (Event board)) : Sends history [] history :=
  ⟨rfl, by rw [List.append_nil]⟩

/-- One more call of `zsock_send`. -/
theorem Sends.concat {bytes : List UInt8} {after : List (Event board)}
    (hsends : Sends history bytes after) (sock : ℤ) (more : List UInt8) (result : ZsockSend) :
    Sends history (bytes ++ more.take (result.count more.length))
      (after ++ [⟨.zsockSend sock more, .ok result⟩]) := by
  obtain ⟨hreceived, htraffic⟩ := hsends
  refine ⟨?_, ?_⟩
  · rw [received_concat, hreceived]
    exact List.append_nil _
  · rw [traffic_concat, htraffic, ← List.append_assoc]
    ext <;> simp [sentBy, canSentBy, takenBy]

/-- A count is cut off at the size of what there is to send. -/
theorem take_count {bytes : List UInt8} {size : ℕ} (hsize : bytes.length ≤ size)
    (send : ZsockSend) : bytes.take (send.count bytes.length) = bytes.take (send.count size) := by
  cases send with
  | accepted count =>
    rw [List.take_eq_take_iff]
    simp only [ZsockSend.count]
    omega
  | error => rfl

/-- A call that returns its size has sent everything. -/
theorem take_count_of_complete {bytes : List UInt8} {send : ZsockSend}
    (hcomplete : ¬ (!send.complete bytes.length) = true) :
    bytes.take (send.count bytes.length) = bytes := by
  rw [Bool.not_eq_true', Bool.not_eq_false] at hcomplete
  rw [ZsockSend.count_of_complete hcomplete, List.take_length]

section Parts

variable {len hdr : ZsockSend}

theorem take_lenBe (hlen : ¬ (!len.complete 2) = true) (payLen : ℕ) :
    (beBytes 2 payLen).take (len.count 2) = beBytes 2 payLen := by
  have hcomplete := @take_count_of_complete (beBytes 2 payLen) len
  rw [length_beBytes] at hcomplete
  exact hcomplete hlen

theorem take_sendHeader (hhdr : ¬ (!hdr.complete sizeofTcpHdr) = true) (cf : CanFrame) :
    (sendHeader zephyr cf).bytes.take (hdr.count sizeofTcpHdr) = (sendHeader zephyr cf).bytes := by
  have hcomplete := @take_count_of_complete (sendHeader zephyr cf).bytes hdr
  rw [length_bytes_sendHeader] at hcomplete
  exact hcomplete hhdr

/-- When the header cannot be sent, the length has been. -/
theorem sent_len (hlen : ¬ (!len.complete 2) = true) (cf : CanFrame) :
    (Client.tcpSendCanFrame zephyr cf ⟨len, .error, .error⟩).1 =
      beBytes 2 (sizeofTcpHdr + cf.dlc.toNat) := by
  rw [Client.tcpSendCanFrame]
  simp [hlen, take_lenBe hlen, ZsockSend.count_error, ZsockSend.complete_error]

/-- When the data cannot be sent, the length and the header have been. -/
theorem sent_header (hlen : ¬ (!len.complete 2) = true)
    (hhdr : ¬ (!hdr.complete sizeofTcpHdr) = true) {cf : CanFrame} (hdata : 0 < cf.dlc.toNat) :
    (Client.tcpSendCanFrame zephyr cf ⟨len, hdr, .error⟩).1 =
      beBytes 2 (sizeofTcpHdr + cf.dlc.toNat) ++ (sendHeader zephyr cf).bytes := by
  rw [Client.tcpSendCanFrame]
  simp [hlen, hhdr, hdata, take_lenBe hlen, take_sendHeader hhdr, ZsockSend.count_error,
    ZsockSend.complete_error]

end Parts

/-- What `tcp_send_can_frame` sends are the bytes of the model of this function for some outcomes of
the calls. At each call the outcomes so far, with errors for the calls that are still to come,
explain what was sent. -/
theorem simulates_tcpSendCanFrame (sock : ℤ) (cf : CanFrame)
    (hsending : ∀ sends after more, Sends history (Client.tcpSendCanFrame zephyr cf sends).1 after →
      (Client.tcpSendCanFrame zephyr cf sends).1 ++ more <+:
        beBytes 2 (sizeofTcpHdr + cf.dlc.toNat) ++ clientRecord zephyr cf →
      Sending zephyr after more) :
    Simulates zephyr history (tcpSendCanFrame zephyr sock cf) fun _ after ↦
      ∃ sends, Sends history (Client.tcpSendCanFrame zephyr cf sends).1 after := by
  have hfirst := hsending ⟨.error, .error, .error⟩ history (beBytes 2 (sizeofTcpHdr + cf.dlc.toNat))
    (sends_nil history) (List.prefix_append _ _)
  refine simulates_ask_bind hfirst fun (len : ZsockSend) _ ↦ ?_
  have hlen := (sends_nil history).concat sock (beBytes 2 (sizeofTcpHdr + cf.dlc.toNat)) len
  rw [length_beBytes, List.nil_append] at hlen
  refine simulates_ite (fun hshort ↦ ⟨⟨len, .error, .error⟩, ?_⟩) fun hwhole ↦ ?_
  · rw [Client.tcpSendCanFrame]
    simp only [if_pos hshort]
    exact hlen
  have hsecond := hsending ⟨len, .error, .error⟩ _ (sendHeader zephyr cf).bytes
    (by rw [sent_len hwhole, ← take_lenBe hwhole]; exact hlen)
    (by rw [sent_len hwhole, clientRecord, ← List.append_assoc]; exact List.prefix_append _ _)
  refine simulates_ask_bind hsecond fun (hdr : ZsockSend) _ ↦ ?_
  have hhdr := hlen.concat sock (sendHeader zephyr cf).bytes hdr
  rw [length_bytes_sendHeader] at hhdr
  refine simulates_ite (fun hshort ↦ ⟨⟨len, hdr, .error⟩, ?_⟩) fun hwhole' ↦ ?_
  · rw [Client.tcpSendCanFrame]
    simp only [if_neg hwhole, if_pos hshort]
    exact hhdr
  refine simulates_ite (fun hdata ↦ ?_) fun hempty ↦ ⟨⟨len, hdr, .error⟩, ?_⟩
  · have hthird := hsending ⟨len, hdr, .error⟩ _ (cf.data.take cf.dlc.toNat)
      (by
        rw [sent_header hwhole hwhole' hdata, ← take_sendHeader hwhole', ← take_lenBe hwhole]
        exact hhdr)
      (by rw [sent_header hwhole hwhole' hdata, clientRecord, List.append_assoc])
    refine simulates_ask_bind hthird fun (data : ZsockSend) _ ↦ ⟨⟨len, hdr, data⟩, ?_⟩
    have hall := hhdr.concat sock (cf.data.take cf.dlc.toNat) data
    rw [take_count (List.length_take_le _ _)] at hall
    rw [Client.tcpSendCanFrame]
    simp only [if_neg hwhole, if_neg hwhole', if_pos hdata]
    split_ifs <;> exact hall
  · rw [Client.tcpSendCanFrame]
    simp only [if_neg hwhole, if_neg hwhole', if_neg hempty]
    exact hhdr

end Simulation

end Board

end CanopenTools.Client
