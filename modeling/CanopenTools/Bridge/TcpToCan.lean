import CanopenTools.Bridge.CanRecord
import CanopenTools.Bridge.TcpFramer
import Mathlib.Data.List.Forall2

/-!
# From the TCP connection to the CAN bus

`Bridge._loop_tcp_to_can` receives chunks, feeds them to a `TCPFramer` and sends the message of
every record on the bus. The model takes one `TcpTurn` for each pass of the outer loop and records
the calls of `bus.send` in order. A `can.CanError` is caught inside the drain loop; every other
exception, a `ValueError` of `can_from_frame` included, is caught outside it and ends the loop.

`sendPrefix` is what the loop is for, on a list of records: the messages of the records in front of
the first one that is rejected. `loopTcpToCan_chunks` shows that this is what the loop sends,
whatever the chunks and whatever calls raise `can.CanError`.
-/

set_option autoImplicit false
set_option relaxedAutoImplicit false

namespace CanopenTools.Bridge

open Framing

/-! ### The loop -/

/-- How a call of `bus.send` ends. -/
inductive BusSend
  | sent
  | canError
  | otherError
  deriving DecidableEq, Repr

/-- How a call of `s.recv(4096)` ends; the empty chunk means that the peer closed. -/
inductive Recv
  | chunk (bytes : List UInt8)
  | osError
  | otherError
  deriving DecidableEq, Repr

/-- What one pass of the outer loop meets: the stop event, the socket, and the chunk received. -/
structure TcpTurn where
  stopEvent : Bool := false
  sock : Bool := true
  recv : Recv
  deriving DecidableEq, Repr

/-- The state of `_loop_tcp_to_can`: the framer, the messages passed to `bus.send` in order, and
whether the loop has ended. -/
structure TcpToCan where
  framer : TCPFramer := {}
  sent : List Message := []
  ended : Bool := false
  deriving DecidableEq, Repr

section Loop

variable (python : PythonCan) (busSend : ℕ → BusSend)

/-- The body of the drain loop on one record. `busSend n` is how the call number `n` of `bus.send`
ends. -/
def handleRecord (state : TcpToCan) (record : List UInt8) : TcpToCan :=
  match canFromFrame python record with
  | .error _ => { state with ended := true }
  | .ok msg =>
    match busSend state.sent.length with
    | .sent | .canError => { state with sent := state.sent ++ [msg] }
    | .otherError => { state with sent := state.sent ++ [msg], ended := true }

/-- The drain loop. Every record is cut off the buffer, so the length of the buffer is fuel
enough. -/
def drainRecords : ℕ → TcpToCan → TcpToCan
  | 0, state => state
  | fuel + 1, state =>
    match state.framer.nextRecord with
    | (none, framer) => { state with framer }
    | (some record, framer) =>
      let state := handleRecord python busSend { state with framer } record
      if state.ended then state else drainRecords fuel state

/-- One pass of the outer loop. -/
def tcpToCanPass (state : TcpToCan) (turn : TcpTurn) : TcpToCan :=
  if state.ended then state
  else if turn.stopEvent then { state with ended := true }
  else if !turn.sock then { state with ended := true }
  else
    match turn.recv with
    | .chunk [] => { state with ended := true }
    | .chunk (byte :: bytes) =>
      let framer := state.framer.feed (byte :: bytes)
      drainRecords python busSend framer.buf.length { state with framer }
    | .osError => { state with ended := true }
    | .otherError => { state with ended := true }

/-- `Bridge._loop_tcp_to_can`, run on a sequence of passes. -/
def loopTcpToCan (turns : List TcpTurn) (state : TcpToCan) : TcpToCan :=
  turns.foldl (tcpToCanPass python busSend) state

end Loop

/-- The turns of a connection that delivers the given chunks. -/
def receiving (chunks : List (List UInt8)) : List TcpTurn :=
  chunks.map fun bytes ↦ { recv := .chunk bytes }

/-- The calls of `bus.send` that raise `can.CanError` are given by a pattern, and no call raises
anything else. -/
def raisingCanError (pattern : ℕ → Bool) (call : ℕ) : BusSend :=
  if pattern call then .canError else .sent

/-! ### What the loop sends -/

section Sending

variable (python : PythonCan)

/-- The message that `can_from_frame` makes of a record, if it accepts it. -/
def accepted (record : List UInt8) : Option Message := (canFromFrame python record).toOption

/-- A record that `can_from_frame` rejects. -/
def Rejected (record : List UInt8) : Prop := accepted python record = none

instance : DecidablePred (Rejected python) := fun record ↦
  inferInstanceAs (Decidable (accepted python record = none))

/-- The messages of the records in front of the first rejected one, and whether there is a rejected
one. -/
def sendPrefix : List (List UInt8) → List Message × Bool
  | [] => ([], false)
  | record :: records =>
    match accepted python record with
    | none => ([], true)
    | some msg => (msg :: (sendPrefix records).1, (sendPrefix records).2)

theorem sendPrefix_cons_of_none {record : List UInt8} (hrecord : accepted python record = none)
    (records : List (List UInt8)) : sendPrefix python (record :: records) = ([], true) := by
  simp only [sendPrefix, hrecord]

theorem sendPrefix_cons_of_some {record : List UInt8} {msg : Message}
    (hrecord : accepted python record = some msg) (records : List (List UInt8)) :
    sendPrefix python (record :: records) =
      (msg :: (sendPrefix python records).1, (sendPrefix python records).2) := by
  simp only [sendPrefix, hrecord]

theorem sendPrefix_append (first second : List (List UInt8)) :
    sendPrefix python (first ++ second) =
      if (sendPrefix python first).2 then sendPrefix python first
      else ((sendPrefix python first).1 ++ (sendPrefix python second).1,
        (sendPrefix python second).2) := by
  induction first with
  | nil => simp [sendPrefix]
  | cons record records ih =>
    rw [List.cons_append]
    cases hrecord : accepted python record with
    | none => simp only [sendPrefix_cons_of_none python hrecord, if_true]
    | some msg =>
      simp only [sendPrefix_cons_of_some python hrecord, ih]
      split_ifs <;> rfl

/-- When every record is accepted, all messages are sent. -/
theorem sendPrefix_of_forall₂ {records : List (List UInt8)} {messages : List Message}
    (haccepted : List.Forall₂ (fun record msg ↦ canFromFrame python record = .ok msg) records
      messages) :
    sendPrefix python records = (messages, false) := by
  induction haccepted with
  | nil => rfl
  | cons hrecord _ ih =>
    rw [sendPrefix_cons_of_some python (by rw [accepted, hrecord]; rfl), ih]

/-- The handling of a record when `bus.send` raises nothing but `can.CanError`. -/
theorem handleRecord_eq (pattern : ℕ → Bool) (state : TcpToCan) (record : List UInt8) :
    handleRecord python (raisingCanError pattern) state record =
      match accepted python record with
      | none => { state with ended := true }
      | some msg => { state with sent := state.sent ++ [msg] } := by
  unfold handleRecord accepted raisingCanError
  cases canFromFrame python record with
  | error _ => rfl
  | ok msg => cases pattern state.sent.length <;> rfl

/-- What the drain loop does with a buffer: it sends the messages in front of the first rejected
record, ends at that record if there is one, and leaves the leftover otherwise. -/
structure Drained (start final : TcpToCan) (drained : List (List UInt8) × List UInt8) :
    Prop where
  sent : final.sent = start.sent ++ (sendPrefix python drained.1).1
  ended : final.ended = (sendPrefix python drained.1).2
  leftover : final.ended = false → final.framer.buf = drained.2

/-- Records behind a rejected one are never looked at. -/
theorem Drained.append_of_ended {start final : TcpToCan}
    {first : List (List UInt8) × List UInt8} (hfirst : Drained python start final first)
    (hended : final.ended = true) (second : List (List UInt8) × List UInt8) :
    Drained python start final (first.1 ++ second.1, second.2) := by
  have hrejected : (sendPrefix python first.1).2 = true := hfirst.ended.symm.trans hended
  refine ⟨?_, ?_, fun hrunning ↦ absurd hended (by simp [hrunning])⟩
  · rw [sendPrefix_append, if_pos hrejected, hfirst.sent]
  · rw [sendPrefix_append, if_pos hrejected, hfirst.ended]

/-- Two drains, the second from where the first has left off. -/
theorem Drained.append {start middle final : TcpToCan}
    {first second : List (List UInt8) × List UInt8} (hfirst : Drained python start middle first)
    (hrunning : middle.ended = false) (hsecond : Drained python middle final second) :
    Drained python start final (first.1 ++ second.1, second.2) := by
  have haccepted : ¬ (sendPrefix python first.1).2 = true := by
    rw [← hfirst.ended, hrunning]
    exact Bool.false_ne_true
  refine ⟨?_, ?_, hsecond.leftover⟩
  · rw [sendPrefix_append, if_neg haccepted, hsecond.sent, hfirst.sent, List.append_assoc]
  · rw [sendPrefix_append, if_neg haccepted, hsecond.ended]

theorem drainRecords_spec (pattern : ℕ → Bool) (fuel : ℕ) (state : TcpToCan)
    (hfuel : state.framer.buf.length ≤ fuel) (hrunning : state.ended = false) :
    Drained python state (drainRecords python (raisingCanError pattern) fuel state)
      (recordCodec.drain state.framer.buf) := by
  induction fuel generalizing state with
  | zero =>
    have hempty : state.framer.buf = [] := List.eq_nil_of_length_eq_zero (by omega)
    rw [hempty, recordCodec.drain_nil]
    exact ⟨by simp [drainRecords, sendPrefix], hrunning, fun _ ↦ hempty⟩
  | succ fuel ih =>
    cases hnext : recordCodec.next state.framer.buf with
    | none =>
      simp only [drainRecords, nextRecord_of_next_eq_none hnext, recordCodec.drain_of_none hnext]
      exact ⟨by simp [sendPrefix], hrunning, fun _ ↦ rfl⟩
    | some pair =>
      obtain ⟨record, rest⟩ := pair
      have hshorter := recordCodec.length_lt_of_next hnext
      simp only [drainRecords, nextRecord_of_next_eq_some hnext, recordCodec.drain_of_some hnext,
        handleRecord_eq]
      cases hrecord : accepted python record with
      | none => exact ⟨by simp [sendPrefix, hrecord], by simp [sendPrefix, hrecord], by simp⟩
      | some msg =>
        have htail := ih { state with framer := ⟨rest⟩, sent := state.sent ++ [msg] }
          (by simp only; omega) hrunning
        simp only [hrunning, Bool.false_eq_true, if_false] at htail ⊢
        refine ⟨?_, ?_, htail.leftover⟩
        · simp [htail.sent, sendPrefix, hrecord]
        · simp [htail.ended, sendPrefix, hrecord]

/-- After the loop has ended, nothing more happens. -/
theorem loopTcpToCan_of_ended (busSend : ℕ → BusSend) (turns : List TcpTurn) {state : TcpToCan}
    (hended : state.ended = true) : loopTcpToCan python busSend turns state = state := by
  induction turns with
  | nil => rfl
  | cons turn turns ih =>
    rw [loopTcpToCan, List.foldl_cons, tcpToCanPass, if_pos hended]
    exact ih

/-- A pass that receives a non-empty chunk feeds it and drains the buffer. -/
theorem tcpToCanPass_chunk (busSend : ℕ → BusSend) {state : TcpToCan} {chunk : List UInt8}
    (hrunning : state.ended = false) (hchunk : chunk ≠ []) :
    tcpToCanPass python busSend state { recv := .chunk chunk } =
      drainRecords python busSend (state.framer.feed chunk).buf.length
        { state with framer := state.framer.feed chunk } := by
  cases chunk with
  | nil => exact absurd rfl hchunk
  | cons byte bytes => simp [tcpToCanPass, hrunning]

/-- Receiving chunks is draining the whole stream at once: the loop sends the messages in front of
the first rejected record of the stream, and ends there if there is one. -/
theorem loopTcpToCan_chunks (pattern : ℕ → Bool) (chunks : List (List UInt8)) (state : TcpToCan)
    (hchunks : ∀ chunk ∈ chunks, chunk ≠ []) (hrunning : state.ended = false)
    (hdrained : recordCodec.next state.framer.buf = none) :
    Drained python state
      (loopTcpToCan python (raisingCanError pattern) (receiving chunks) state)
      (recordCodec.drain (state.framer.buf ++ chunks.flatten)) := by
  induction chunks generalizing state with
  | nil =>
    rw [List.flatten_nil, List.append_nil, recordCodec.drain_of_none hdrained]
    exact ⟨by simp [loopTcpToCan, receiving, sendPrefix], hrunning, fun _ ↦ rfl⟩
  | cons chunk chunks ih =>
    have hpass : Drained python state
        (tcpToCanPass python (raisingCanError pattern) state { recv := .chunk chunk })
        (recordCodec.drain (state.framer.buf ++ chunk)) := by
      have hdrain := drainRecords_spec python pattern (state.framer.feed chunk).buf.length
        { state with framer := state.framer.feed chunk } le_rfl hrunning
      rw [← tcpToCanPass_chunk python _ hrunning (hchunks chunk List.mem_cons_self)] at hdrain
      exact ⟨hdrain.sent, hdrain.ended, hdrain.leftover⟩
    change Drained python state (loopTcpToCan python (raisingCanError pattern) (receiving chunks)
      (tcpToCanPass python (raisingCanError pattern) state { recv := .chunk chunk })) _
    generalize tcpToCanPass python (raisingCanError pattern) state { recv := .chunk chunk } =
      middle at hpass ⊢
    rw [List.flatten_cons, ← List.append_assoc, recordCodec.drain_append]
    cases hmiddle : middle.ended with
    | true =>
      rw [loopTcpToCan_of_ended python _ _ hmiddle]
      exact hpass.append_of_ended python hmiddle _
    | false =>
      have hleft := hpass.leftover hmiddle
      have hrest := ih middle (fun other hother ↦ hchunks other (List.mem_cons_of_mem _ hother))
        hmiddle (hleft ▸ recordCodec.next_drain_snd _)
      rw [hleft] at hrest
      exact hpass.append python hmiddle hrest

/-- On a stream of records that are all accepted, whatever the chunks and whatever calls of
`bus.send` raise `can.CanError`, the loop sends every message, in order, goes on, and has an empty
buffer. -/
theorem loopTcpToCan_accepted {records : List WireRecord} {messages : List Message}
    (haccepted : List.Forall₂ (fun record msg ↦ canFromFrame python record.bytes = .ok msg) records
      messages)
    {stream : List UInt8} (hstream : stream = recordStream records) (chunking : Chunking stream)
    (pattern : ℕ → Bool) :
    let final := loopTcpToCan python (raisingCanError pattern) (receiving chunking.chunks) {}
    final.sent = messages ∧ final.framer.buf = [] ∧ final.ended = false := by
  intro final
  subst hstream
  have hspec := loopTcpToCan_chunks python pattern chunking.chunks {} chunking.chunk_ne_nil rfl
    recordCodec.next_nil
  have hfront : sendPrefix python (records.map WireRecord.bytes) = (messages, false) :=
    sendPrefix_of_forall₂ python (List.forall₂_map_left_iff.mpr haccepted)
  rw [List.nil_append, chunking.flatten_eq, drain_recordStream] at hspec
  have hended : final.ended = false := by
    have hended := hspec.ended
    rwa [hfront] at hended
  refine ⟨?_, hspec.leftover hended, hended⟩
  have hsent := hspec.sent
  rwa [hfront, List.nil_append] at hsent

end Sending

end CanopenTools.Bridge
