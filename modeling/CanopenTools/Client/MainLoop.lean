import CanopenTools.Client.RecvAll
import CanopenTools.Client.TcpParts

/-!
# The main loop of the ESP32 client

`main` of `main.c` after the connection is up. A pass of the loop drains the queue `can_rx_q` of
received CAN frames, polls the socket and, when data is there, reads one record and sends its frame
on the bus. The callback `can_rx_cb` puts frames in the queue at any time. The model is a state
machine: a `ClientEvent` is either a callback or one step of the main thread, which evaluates the
condition of the drain loop or does the rest of a pass.

`mainStep_cases` says once what a step of the main thread can be. `run_buffersSized` holds for every
socket and every run: the buffers keep their sizes and no read writes past its buffer.
-/

set_option autoImplicit false
set_option relaxedAutoImplicit false

namespace CanopenTools.Client

open Framing

/-! ### The state machine -/

/-- `RX_MSGQ_LEN`. -/
def rxMsgqLen : ℕ := 32

/-- Where the main thread is: in the loop, past it, inside a read that waits for input, or past a
write beyond a buffer. -/
inductive LoopStatus
  | running
  | stopped
  | waiting
  | overflow
  deriving DecidableEq, Repr

/-- The state of the client: the queue `can_rx_q`, the socket, the buffers of `main`, the calls of
`tcp_send_can_frame` with what `zsock_send` did, the calls of `can_send`, the number of bytes that
every complete pass took off the stream, and the place of the main thread in its loop. -/
structure ClientState where
  canRxQ : List CanFrame := []
  sock : List RecvEvent
  lenbuf : List UInt8 := List.replicate 2 0
  hdrbuf : List UInt8 := List.replicate 6 0
  databuf : List UInt8 := List.replicate 8 0
  sendCalls : List (CanFrame × FrameSends) := []
  canSends : List CanFrame := []
  consumed : List ℕ := []
  draining : Bool := true
  status : LoopStatus := .running
  deriving DecidableEq, Repr

/-- How `zsock_poll` ends; `ready` says whether `ZSOCK_POLLIN` is set. -/
inductive Poll
  | timeout
  | error
  | ready (pollin : Bool)
  deriving DecidableEq, Repr

/-- What a step of the main thread meets. -/
structure MainInput where
  sends : FrameSends := ⟨.accepted 2, .accepted 6, .accepted 8⟩
  poll : Poll
  deriving DecidableEq, Repr

/-- A frame arrives and `can_rx_cb` runs, or the main thread takes a step. -/
inductive ClientEvent
  | canRx (frame : CanFrame)
  | main (input : MainInput)
  deriving DecidableEq, Repr

/-- The rest of a pass after a call of `recv_all`. An error ends the loop. -/
def ClientState.afterRecv (state : ClientState) (result : RecvAll)
    (next : List UInt8 → List RecvEvent → ClientState) : ClientState :=
  match result with
  | .filled buf sock => next buf sock
  | .failed sock => { state with sock, status := .stopped }
  | .waiting => { state with status := .waiting }
  | .overflow => { state with status := .overflow }

/-- The loop `while (to_dump)`. A pass reads at least one byte, so the initial `to_dump` is fuel
enough. -/
def dumpLoop : ℕ → ℕ → ClientState → ClientState
  | 0, _, state => state
  | fuel + 1, toDump, state =>
    if toDump = 0 then state
    else
      let chunk := min toDump 32
      let dump := List.replicate 32 0
      state.afterRecv (recvAll chunk state.sock dump 0) fun _ sock ↦
        dumpLoop fuel (toDump - chunk) { state with sock }

/-- `can_rx_cb`: `k_msgq_put` with `K_NO_WAIT` drops the frame when the queue is full. -/
def canRxCb (state : ClientState) (frame : CanFrame) : ClientState :=
  if state.canRxQ.length < rxMsgqLen then { state with canRxQ := state.canRxQ ++ [frame] }
  else state

section Steps

variable (zephyr : ZephyrCan)

/-- The conversion of a received record and the call of `can_send`. -/
def sendParts (dataLen : ℕ) (state : ClientState) : ClientState :=
  match canFromTcpParts zephyr (some (.ofBytes state.hdrbuf)) state.databuf dataLen {} with
  | .ok out => { state with canSends := state.canSends ++ [out] }
  | .error _ => state

/-- The part of a pass that reads a record, from `recv_all(sock, lenbuf, 2)` on. -/
def receiveRecord (state : ClientState) : ClientState :=
  state.afterRecv (recvAll 2 state.sock state.lenbuf 0) fun lenbuf sock ↦
    let state := { state with lenbuf, sock }
    let payLen := beNat lenbuf
    if payLen < sizeofTcpHdr ∨ payLen > sizeofTcpHdr + 8 then dumpLoop payLen payLen state
    else
      state.afterRecv (recvAll sizeofTcpHdr state.sock state.hdrbuf 0) fun hdrbuf sock ↦
        let state := { state with hdrbuf, sock }
        let dataLen := payLen - sizeofTcpHdr
        if dataLen ≠ 0 then
          state.afterRecv (recvAll dataLen state.sock state.databuf 0) fun databuf sock ↦
            sendParts zephyr dataLen { state with databuf, sock }
        else sendParts zephyr dataLen state

/-- A pass that reads a record, with the number of bytes it took off the stream. -/
def receivePass (state : ClientState) : ClientState :=
  let after := receiveRecord zephyr state
  if after.status = .running then
    { after with consumed :=
        after.consumed ++ [(pending state.sock).length - (pending after.sock).length] }
  else after

/-- The part of a pass after the drain loop. -/
def pollAndReceive (state : ClientState) : Poll → ClientState
  | .timeout => state
  | .error => { state with status := .stopped }
  | .ready false => state
  | .ready true => receivePass zephyr state

/-- One step of the main thread: the condition of the drain loop with the body when a frame was
there, or the rest of a pass. -/
def mainStep (state : ClientState) (input : MainInput) : ClientState :=
  if state.status = .running then
    if state.draining then
      match state.canRxQ with
      | [] => { state with draining := false }
      | cf :: canRxQ => { state with canRxQ, sendCalls := state.sendCalls ++ [(cf, input.sends)] }
    else pollAndReceive zephyr { state with draining := true } input.poll
  else state

/-- One event of the client. -/
def clientStep (state : ClientState) : ClientEvent → ClientState
  | .canRx frame => canRxCb state frame
  | .main input => mainStep zephyr state input

/-- A run of the client. -/
def runClient (events : List ClientEvent) (state : ClientState) : ClientState :=
  events.foldl (clientStep zephyr) state

/-- The bytes that the connection has accepted from the client. -/
def ClientState.wire (state : ClientState) : List UInt8 :=
  state.sendCalls.flatMap fun call ↦ (tcpSendCanFrame zephyr call.1 call.2).1

end Steps

/-- What a step of the main thread can be: nothing, the end of the drain loop, one frame of it, or
the rest of a pass. -/
theorem mainStep_cases (zephyr : ZephyrCan) (state : ClientState) (input : MainInput) :
    mainStep zephyr state input = state ∨
      (state.status = .running ∧ state.canRxQ = [] ∧
        mainStep zephyr state input = { state with draining := false }) ∨
      (∃ cf canRxQ, state.status = .running ∧ state.canRxQ = cf :: canRxQ ∧
        mainStep zephyr state input =
          { state with canRxQ, sendCalls := state.sendCalls ++ [(cf, input.sends)] }) ∨
      (state.status = .running ∧ state.draining = false ∧
        mainStep zephyr state input =
          pollAndReceive zephyr { state with draining := true } input.poll) := by
  unfold mainStep
  split_ifs with hrunning hdraining
  · cases hqueue : state.canRxQ with
    | nil => exact Or.inr (Or.inl ⟨hrunning, rfl, rfl⟩)
    | cons cf canRxQ => exact Or.inr (Or.inr (Or.inl ⟨cf, canRxQ, hrunning, rfl, rfl⟩))
  · exact Or.inr (Or.inr (Or.inr ⟨hrunning, by simpa using hdraining, rfl⟩))
  · exact Or.inl rfl

/-! ### Receiving leaves the sending side as it is -/

/-- The queue of received CAN frames and the calls of `tcp_send_can_frame`. -/
def ClientState.sendSide (state : ClientState) : List CanFrame × List (CanFrame × FrameSends) :=
  (state.canRxQ, state.sendCalls)

theorem sendSide_afterRecv (state : ClientState) {result : RecvAll}
    {next : List UInt8 → List RecvEvent → ClientState}
    (hnext : ∀ buf sock, (next buf sock).sendSide = state.sendSide) :
    (state.afterRecv result next).sendSide = state.sendSide := by
  cases result with
  | filled buf sock => exact hnext buf sock
  | failed sock => rfl
  | waiting => rfl
  | overflow => rfl

theorem sendSide_dumpLoop (fuel toDump : ℕ) (state : ClientState) :
    (dumpLoop fuel toDump state).sendSide = state.sendSide := by
  induction fuel generalizing toDump state with
  | zero => rfl
  | succ fuel ih =>
    unfold dumpLoop
    split_ifs
    · rfl
    · exact sendSide_afterRecv state fun _ sock ↦ ih _ { state with sock }

theorem sendSide_sendParts (zephyr : ZephyrCan) (dataLen : ℕ) (state : ClientState) :
    (sendParts zephyr dataLen state).sendSide = state.sendSide := by
  unfold sendParts
  split <;> rfl

theorem sendSide_receiveRecord (zephyr : ZephyrCan) (state : ClientState) :
    (receiveRecord zephyr state).sendSide = state.sendSide := by
  refine sendSide_afterRecv state fun lenbuf sock ↦ ?_
  dsimp only
  split_ifs
  · exact sendSide_dumpLoop _ _ _
  · refine sendSide_afterRecv { state with lenbuf, sock } fun hdrbuf sock ↦ ?_
    exact sendSide_afterRecv { state with lenbuf, hdrbuf, sock } fun databuf sock ↦
      sendSide_sendParts zephyr _ _
  · refine sendSide_afterRecv { state with lenbuf, sock } fun hdrbuf sock ↦ ?_
    exact sendSide_sendParts zephyr _ _

/-- The part of a pass after the drain loop touches neither the queue nor the connection's other
direction. -/
theorem sendSide_pollAndReceive (zephyr : ZephyrCan) (state : ClientState) (poll : Poll) :
    (pollAndReceive zephyr state poll).sendSide = state.sendSide := by
  unfold pollAndReceive
  split
  · rfl
  · rfl
  · rfl
  · have hreceive := sendSide_receiveRecord zephyr state
    unfold receivePass
    dsimp only
    split_ifs
    · exact hreceive
    · exact hreceive

/-! ### No read writes past its buffer -/

/-- The buffers have their sizes and nothing was written past them. -/
structure BuffersSized (state : ClientState) : Prop where
  lenbuf : state.lenbuf.length = 2
  hdrbuf : state.hdrbuf.length = sizeofTcpHdr
  databuf : state.databuf.length = 8
  status : state.status ≠ .overflow

/-- A read that fits its buffer keeps the sizes when what follows does. -/
theorem BuffersSized.afterRecv {state : ClientState} (hsized : BuffersSized state) {n : ℕ}
    {buf : List UInt8} {next : List UInt8 → List RecvEvent → ClientState} (hfits : n ≤ buf.length)
    (hnext : ∀ filled sock, filled.length = buf.length → BuffersSized (next filled sock)) :
    BuffersSized (state.afterRecv (recvAll n state.sock buf 0) next) := by
  obtain ⟨hno, hlength⟩ := recvAll_ne_overflow n state.sock buf 0 hfits
  cases hrecv : recvAll n state.sock buf 0 with
  | filled filled sock => exact hnext filled sock (hlength filled sock hrecv)
  | failed sock =>
    exact ⟨hsized.lenbuf, hsized.hdrbuf, hsized.databuf, by simp [ClientState.afterRecv]⟩
  | waiting =>
    exact ⟨hsized.lenbuf, hsized.hdrbuf, hsized.databuf, by simp [ClientState.afterRecv]⟩
  | overflow => exact absurd hrecv hno

theorem BuffersSized.dumpLoop {fuel toDump : ℕ} {state : ClientState}
    (hsized : BuffersSized state) : BuffersSized (dumpLoop fuel toDump state) := by
  induction fuel generalizing toDump state with
  | zero => exact hsized
  | succ fuel ih =>
    unfold Client.dumpLoop
    split_ifs
    · exact hsized
    · refine hsized.afterRecv (by simp) fun _ sock _ ↦ ih ?_
      exact ⟨hsized.lenbuf, hsized.hdrbuf, hsized.databuf, hsized.status⟩

theorem BuffersSized.sendParts (zephyr : ZephyrCan) {dataLen : ℕ} {state : ClientState}
    (hsized : BuffersSized state) : BuffersSized (sendParts zephyr dataLen state) := by
  unfold Client.sendParts
  split
  · exact ⟨hsized.lenbuf, hsized.hdrbuf, hsized.databuf, hsized.status⟩
  · exact hsized

theorem BuffersSized.receiveRecord (zephyr : ZephyrCan) {state : ClientState}
    (hsized : BuffersSized state) : BuffersSized (receiveRecord zephyr state) := by
  refine hsized.afterRecv (le_of_eq hsized.lenbuf.symm) fun lenbuf sock hlen ↦ ?_
  have hsized₁ : BuffersSized { state with lenbuf, sock } :=
    ⟨hlen.trans hsized.lenbuf, hsized.hdrbuf, hsized.databuf, hsized.status⟩
  dsimp only
  split_ifs with hbad hdata
  · exact hsized₁.dumpLoop
  · refine hsized₁.afterRecv (le_of_eq hsized.hdrbuf.symm) fun hdrbuf sock hhdr ↦ ?_
    have hsized₂ : BuffersSized { state with lenbuf, hdrbuf, sock } :=
      ⟨hlen.trans hsized.lenbuf, hhdr.trans hsized.hdrbuf, hsized.databuf, hsized.status⟩
    refine hsized₂.afterRecv (by have := hsized.databuf; omega) fun databuf sock hdatabuf ↦ ?_
    exact BuffersSized.sendParts zephyr ⟨hlen.trans hsized.lenbuf, hhdr.trans hsized.hdrbuf,
      hdatabuf.trans hsized.databuf, hsized.status⟩
  · refine hsized₁.afterRecv (le_of_eq hsized.hdrbuf.symm) fun hdrbuf sock hhdr ↦ ?_
    exact BuffersSized.sendParts zephyr ⟨hlen.trans hsized.lenbuf, hhdr.trans hsized.hdrbuf,
      hsized.databuf, hsized.status⟩

theorem BuffersSized.receivePass (zephyr : ZephyrCan) {state : ClientState}
    (hsized : BuffersSized state) : BuffersSized (receivePass zephyr state) := by
  have hreceive := hsized.receiveRecord zephyr
  unfold Client.receivePass
  dsimp only
  split_ifs
  · exact ⟨hreceive.lenbuf, hreceive.hdrbuf, hreceive.databuf, hreceive.status⟩
  · exact hreceive

theorem BuffersSized.clientStep (zephyr : ZephyrCan) {state : ClientState}
    (hsized : BuffersSized state) (event : ClientEvent) :
    BuffersSized (clientStep zephyr state event) := by
  obtain ⟨hlenbuf, hhdrbuf, hdatabuf, hstatus⟩ := hsized
  cases event with
  | canRx frame =>
    change BuffersSized (canRxCb state frame)
    unfold canRxCb
    split_ifs <;> exact ⟨hlenbuf, hhdrbuf, hdatabuf, hstatus⟩
  | main input =>
    change BuffersSized (mainStep zephyr state input)
    rcases mainStep_cases zephyr state input with
      hstep | ⟨-, -, hstep⟩ | ⟨cf, canRxQ, -, -, hstep⟩ | ⟨-, -, hstep⟩
    · rw [hstep]
      exact ⟨hlenbuf, hhdrbuf, hdatabuf, hstatus⟩
    · rw [hstep]
      exact ⟨hlenbuf, hhdrbuf, hdatabuf, hstatus⟩
    · rw [hstep]
      exact ⟨hlenbuf, hhdrbuf, hdatabuf, hstatus⟩
    · have hsized : BuffersSized { state with draining := true } :=
        ⟨hlenbuf, hhdrbuf, hdatabuf, hstatus⟩
      rw [hstep]
      unfold pollAndReceive
      split
      · exact hsized
      · exact ⟨hlenbuf, hhdrbuf, hdatabuf, by simp⟩
      · exact hsized
      · exact hsized.receivePass zephyr

/-- Whatever the socket delivers, reports and fails with, and whatever the interleaving, no call of
`recv_all` writes past its buffer. -/
theorem run_buffersSized (zephyr : ZephyrCan) (events : List ClientEvent) (state : ClientState)
    (hsized : BuffersSized state) : BuffersSized (runClient zephyr events state) := by
  induction events generalizing state with
  | nil => exact hsized
  | cons event events ih => exact ih _ (hsized.clientStep zephyr event)

end CanopenTools.Client
