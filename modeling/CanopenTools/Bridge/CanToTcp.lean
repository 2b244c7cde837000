import CanopenTools.Bridge.CanRecord
import CanopenTools.Bridge.TcpFramer
import Mathlib.Data.List.ReduceOption

/-!
# From the CAN bus to the TCP connection

`Bridge._loop_can_to_tcp` receives messages from the bus, makes a record of each with
`frame_from_can` and writes it with `sendall` on the current socket. The model takes one `CanTurn`
for each pass of the loop and collects the bytes that reach the connection. An exception other than
`KeyboardInterrupt` is logged and the loop goes on.

`loopCanToTcp_delivering` gives the bytes written over an unbroken connection: the record of every
message delivered, in order.
-/

set_option autoImplicit false
set_option relaxedAutoImplicit false

namespace CanopenTools.Bridge

/-! ### The loop -/

/-- How a call of `bus.recv(timeout=0.2)` ends; `timeout` is the result `None`. -/
inductive BusRecv
  | timeout
  | message (msg : Message)
  | keyboardInterrupt
  | otherError
  deriving DecidableEq, Repr

/-- How a call of `s.sendall(payload)` ends: it returns and has written everything, or it raises
and has written a prefix. -/
inductive SendAll
  | written
  | raised (count : ℕ)
  deriving DecidableEq, Repr

/-- What one pass of the loop meets. -/
structure CanTurn where
  stopEvent : Bool := false
  recv : BusRecv
  sock : Bool := true
  sendall : SendAll := .written
  deriving DecidableEq, Repr

/-- The state of `_loop_can_to_tcp`: the bytes written and whether the loop has ended. -/
structure CanToTcp where
  wire : List UInt8 := []
  ended : Bool := false
  deriving DecidableEq, Repr

/-- The bytes that `sendall` writes. -/
def SendAll.bytes (payload : List UInt8) : SendAll → List UInt8
  | .written => payload
  | .raised count => payload.take count

/-- One pass of the loop. -/
def canToTcpPass (useFdCfg : Bool) (state : CanToTcp) (turn : CanTurn) : CanToTcp :=
  if state.ended then state
  else if turn.stopEvent then { state with ended := true }
  else
    match turn.recv with
    | .timeout => state
    | .keyboardInterrupt => { state with ended := true }
    | .otherError => state
    | .message msg =>
      match frameFromCan msg useFdCfg with
      | .error _ => state
      | .ok payload =>
        if turn.sock then { state with wire := state.wire ++ turn.sendall.bytes payload } else state

/-- `Bridge._loop_can_to_tcp`, run on a sequence of passes. -/
def loopCanToTcp (useFdCfg : Bool) (turns : List CanTurn) (state : CanToTcp) : CanToTcp :=
  turns.foldl (canToTcpPass useFdCfg) state

/-- The turns of a bus that delivers messages or times out, over an unbroken connection. -/
def delivering (deliveries : List (Option BusMessage)) : List CanTurn :=
  deliveries.map fun
    | none => { recv := .timeout }
    | some message => { recv := .message message.msg }

/-! ### What the loop writes -/

/-- The record of a message that fits the format, without its length. -/
def recordOf (useFdCfg : Bool) (message : BusMessage) : List UInt8 :=
  recordBody message.msg.arbitrationId (frameFlags message.msg useFdCfg) message.msg.payload

theorem length_recordOf_lt (useFdCfg : Bool) (message : BusMessage) :
    (recordOf useFdCfg message).length < 65536 := by
  have hpayload := message.payload_length_le
  rw [recordOf, length_recordBody]
  omega

/-- The record of a message on the wire. -/
def wireRecordOf (useFdCfg : Bool) (message : BusMessage) : WireRecord :=
  ⟨recordOf useFdCfg message, length_recordOf_lt useFdCfg message⟩

/-- `frame_from_can` writes the record of the message behind its length. -/
theorem frameFromCan_eq_encodeRecord (useFdCfg : Bool) (message : BusMessage) :
    frameFromCan message.msg useFdCfg = .ok (encodeRecord (recordOf useFdCfg message)) := by
  rw [frameFromCan_eq, encodeRecord, recordOf, length_recordBody]

/-- Over an unbroken connection the loop writes the record of every message, in order. -/
theorem loopCanToTcp_delivering (useFdCfg : Bool) (deliveries : List (Option BusMessage))
    (state : CanToTcp) (hrunning : state.ended = false) :
    loopCanToTcp useFdCfg (delivering deliveries) state =
      { state with wire := state.wire ++
        recordStream (deliveries.reduceOption.map (wireRecordOf useFdCfg)) } := by
  induction deliveries generalizing state with
  | nil => simp [loopCanToTcp, delivering, recordStream]
  | cons delivery deliveries ih =>
    cases delivery with
    | none =>
      have hpass : canToTcpPass useFdCfg state { recv := .timeout } = state := by
        simp [canToTcpPass, hrunning]
      change loopCanToTcp useFdCfg (delivering deliveries)
        (canToTcpPass useFdCfg state { recv := .timeout }) = _
      rw [hpass, ih state hrunning, List.reduceOption_cons_of_none]
    | some message =>
      have hpass : canToTcpPass useFdCfg state { recv := .message message.msg } =
          { state with wire := state.wire ++ encodeRecord (recordOf useFdCfg message) } := by
        simp [canToTcpPass, hrunning, frameFromCan_eq_encodeRecord, SendAll.bytes]
      change loopCanToTcp useFdCfg (delivering deliveries)
        (canToTcpPass useFdCfg state { recv := .message message.msg }) = _
      rw [hpass, ih { state with wire := state.wire ++ _ } hrunning,
        List.reduceOption_cons_of_some]
      simp [recordStream, wireRecordOf]

end CanopenTools.Bridge
