import CanopenTools.Bridge.CanToTcp
import CanopenTools.Bridge.TcpToCan
import Mathlib.Data.List.Forall2

/-!
# A pair of Python bridges

Two Python bridges are connected by a TCP stream: `_loop_can_to_tcp` and `frame_from_can` write it,
`_loop_tcp_to_can` and `can_from_frame` read it, in whatever chunks it arrives. This module proves
what the pair does to a sequence of messages.

Data frames arrive unchanged, once each and in order (`dataFrames_roundTrip`). A record that
`can_from_frame` rejects ends the receiving loop, so the accepted records are all sent exactly when
no accepted record follows a rejected one (`sent_eq_accepted_iff`). The sender has no case for error
frames, so the frames on the peer bus correspond to the data and remote frames delivered exactly
when no error frame is delivered (`bridgePair_corresponds_iff`).
-/

set_option autoImplicit false
set_option relaxedAutoImplicit false

namespace CanopenTools.Bridge

open Framing

section Pair

variable (python : PythonCan)

/-- The message that the peer makes of a record. -/
def received (useFdCfg : Bool) (message : BusMessage) : Message :=
  python.message message.msg.arbitrationId message.msg.isExtendedId message.msg.isRemoteFrame
    message.msg.payload (message.msg.isFd || useFdCfg)
    ((message.msg.isFd || useFdCfg) && message.msg.bitrateSwitch)

/-- Whatever the chunks, the receiving loop sends the message of every record of a stream of
messages, goes on, and has an empty buffer. -/
theorem loopTcpToCan_recordOf (useFdCfg : Bool) (messages : List BusMessage)
    {stream : List UInt8} (hstream : stream = recordStream (messages.map (wireRecordOf useFdCfg)))
    (chunking : Chunking stream) (canErrors : ℕ → Bool) :
    let final := loopTcpToCan python (raisingCanError canErrors) (receiving chunking.chunks) {}
    final.sent = messages.map (received python useFdCfg) ∧ final.framer.buf = [] ∧
      final.ended = false := by
  refine loopTcpToCan_accepted python ?_ hstream chunking canErrors
  rw [List.forall₂_map_left_iff, List.forall₂_map_right_iff, List.forall₂_same]
  exact fun message _ ↦ canFromFrame_body python message useFdCfg

/-! ### Data frames -/

/-- Two messages that agree in everything a data frame has on the bus. -/
structure SameFrame (original arrived : Message) : Prop where
  arbitrationId : arrived.arbitrationId = original.arbitrationId
  isExtendedId : arrived.isExtendedId = original.isExtendedId
  isRemoteFrame : arrived.isRemoteFrame = original.isRemoteFrame
  isFd : arrived.isFd = original.isFd
  bitrateSwitch : arrived.bitrateSwitch = original.bitrateSwitch
  data : arrived.data = some original.payload

/-- With `use_fd_cfg = False`, a data frame comes back as it was. -/
theorem sameFrame_received (frame : DataFrame) :
    SameFrame frame.msg (received python false frame.toBusMessage) := by
  have hbrs : ((frame.msg.isFd || false) && frame.msg.bitrateSwitch) =
      frame.msg.bitrateSwitch := by
    cases hswitch : frame.msg.bitrateSwitch with
    | false => simp
    | true => simp [frame.fd_of_bitrateSwitch hswitch]
  unfold received
  rw [hbrs, Bool.or_false, python.message_eq]
  exact ⟨rfl, rfl, rfl, rfl, rfl, by simp [frame.notRemote]⟩

/-- The stream round trip: a list of data frames is encoded without error, and whatever the chunks
of the stream and whatever calls of `bus.send` raise `can.CanError`, the receiving loop calls
`bus.send` once for each frame, in order, with an equal message, and its buffer is empty after the
last chunk. -/
theorem dataFrames_roundTrip (frames : List DataFrame) :
    ∃ records : List (List UInt8),
      frames.mapM (fun frame ↦ frameFromCan frame.msg false) = .ok records ∧
        ∀ (chunking : Chunking records.flatten) (canErrors : ℕ → Bool),
          let final :=
            loopTcpToCan python (raisingCanError canErrors) (receiving chunking.chunks) {}
          List.Forall₂ (fun frame msg ↦ SameFrame frame.msg msg) frames final.sent ∧
            final.framer.buf = [] ∧ final.ended = false := by
  have hencode : (fun frame : DataFrame ↦ frameFromCan frame.msg false) =
      fun frame ↦ pure (encodeRecord (recordOf false frame.toBusMessage)) :=
    funext fun frame ↦ frameFromCan_eq_encodeRecord false frame.toBusMessage
  refine ⟨frames.map fun frame ↦ encodeRecord (recordOf false frame.toBusMessage), ?_, ?_⟩
  · rw [hencode, List.mapM_pure]
    rfl
  · intro chunking canErrors final
    have hstream : (frames.map fun frame ↦
        encodeRecord (recordOf false frame.toBusMessage)).flatten =
        recordStream ((frames.map DataFrame.toBusMessage).map (wireRecordOf false)) := by
      simp [recordStream, wireRecordOf, List.flatMap, Function.comp_def]
    obtain ⟨hsent, hbuf, hended⟩ := loopTcpToCan_recordOf python false
      (frames.map DataFrame.toBusMessage) hstream chunking canErrors
    refine ⟨?_, hbuf, hended⟩
    rw [show final.sent = _ from hsent, List.map_map, List.forall₂_map_right_iff,
      List.forall₂_same]
    exact fun frame _ ↦ sameFrame_received python frame

/-! ### Rejected records -/

/-- The messages in front of the first rejected record are all accepted messages exactly when no
accepted record follows a rejected one. -/
theorem sendPrefix_eq_filterMap_iff (records : List (List UInt8)) :
    (sendPrefix python records).1 = records.filterMap (accepted python) ↔
      records.Pairwise fun earlier later ↦ Rejected python earlier → Rejected python later := by
  induction records with
  | nil => simp [sendPrefix]
  | cons record records ih =>
    rw [List.pairwise_cons, ← ih]
    cases hrecord : accepted python record with
    | none =>
      rw [sendPrefix_cons_of_none python hrecord, List.filterMap_cons_none hrecord]
      constructor
      · intro hempty
        have hnone : ∀ later ∈ records, Rejected python later :=
          List.filterMap_eq_nil_iff.mp hempty.symm
        refine ⟨fun later hlater _ ↦ hnone later hlater, ih.mpr ?_⟩
        exact List.pairwise_of_forall_mem_list fun _ _ later hlater _ ↦ hnone later hlater
      · rintro ⟨hlater, -⟩
        exact (List.filterMap_eq_nil_iff.mpr fun later hmem ↦ hlater later hmem hrecord).symm
    | some msg =>
      rw [sendPrefix_cons_of_some python hrecord, List.filterMap_cons_some hrecord,
        List.cons.injEq]
      have hnot : ¬ Rejected python record := by simp [Rejected, hrecord]
      simp [hnot]

/-- The receiving loop on a stream of complete records with arbitrary contents: whatever the
chunks, every record that `can_from_frame` accepts is sent, in order and once, exactly when no
accepted record comes after a rejected one. -/
theorem sent_eq_accepted_iff (records : List WireRecord)
    (chunking : Chunking (recordStream records)) (canErrors : ℕ → Bool) :
    (loopTcpToCan python (raisingCanError canErrors) (receiving chunking.chunks) {}).sent =
        (records.map WireRecord.bytes).filterMap (accepted python) ↔
      (records.map WireRecord.bytes).Pairwise fun earlier later ↦
        Rejected python earlier → Rejected python later := by
  have hspec := loopTcpToCan_chunks python canErrors chunking.chunks {} chunking.chunk_ne_nil rfl
    recordCodec.next_nil
  have hsent := hspec.sent
  rw [List.nil_append, show ({} : TcpToCan).framer.buf ++ chunking.chunks.flatten =
    recordStream records by rw [chunking.flatten_eq]; rfl, drain_recordStream] at hsent
  rw [hsent, sendPrefix_eq_filterMap_iff]

/-- A record of one byte in front of a data frame: `can_from_frame` rejects the first record and
accepts the second, and nothing is sent. -/
theorem sent_ne_accepted_shortHeader :
    (loopTcpToCan documentedPythonCan (raisingCanError fun _ ↦ false)
        (receiving [[[0], [0, 0, 1, 0x23, 0, 0]].flatMap encodeRecord]) {}).sent ≠
      [[0], [0, 0, 1, 0x23, 0, 0]].filterMap (accepted documentedPythonCan) := by
  decide

/-! ### Error frames -/

/-- What a data or remote frame and the frame it becomes on the peer bus have in common; a remote
frame has no data. -/
structure Corresponds (original arrived : Message) : Prop where
  arbitrationId : arrived.arbitrationId = original.arbitrationId
  isExtendedId : arrived.isExtendedId = original.isExtendedId
  isRemoteFrame : arrived.isRemoteFrame = original.isRemoteFrame
  isErrorFrame : arrived.isErrorFrame = original.isErrorFrame
  data : original.isRemoteFrame = false → arrived.data = some original.payload

theorem corresponds_received (useFdCfg : Bool) (message : BusMessage)
    (hmessage : message.msg.isErrorFrame = false) :
    Corresponds message.msg (received python useFdCfg message) := by
  unfold received
  rw [python.message_eq]
  exact ⟨rfl, rfl, rfl, hmessage.symm, fun hdata ↦ by simp [hdata]⟩

/-- The data and remote frames among the messages that `bus.recv` delivers. -/
def dataAndRemote (deliveries : List (Option BusMessage)) : List BusMessage :=
  deliveries.reduceOption.filter fun message ↦ !message.msg.isErrorFrame

/-- A pair of bridges over one unbroken connection: the frames sent on the peer bus correspond one
to one and in order to the data and remote frames delivered exactly when no error frame is
delivered. -/
theorem bridgePair_corresponds_iff (useFdCfg : Bool) (deliveries : List (Option BusMessage))
    (chunking : Chunking (loopCanToTcp useFdCfg (delivering deliveries) {}).wire)
    (canErrors : ℕ → Bool) :
    List.Forall₂ (fun message msg ↦ Corresponds message.msg msg) (dataAndRemote deliveries)
        (loopTcpToCan python (raisingCanError canErrors) (receiving chunking.chunks) {}).sent ↔
      ∀ message ∈ deliveries.reduceOption, message.msg.isErrorFrame = false := by
  have hwire : (loopCanToTcp useFdCfg (delivering deliveries) {}).wire =
      recordStream (deliveries.reduceOption.map (wireRecordOf useFdCfg)) := by
    rw [loopCanToTcp_delivering useFdCfg deliveries {} rfl, List.nil_append]
  obtain ⟨hsent, -, -⟩ :=
    loopTcpToCan_recordOf python useFdCfg deliveries.reduceOption hwire chunking canErrors
  rw [hsent]
  constructor
  · intro hcorresponds
    -- An error frame would make the peer send more frames than there are data and remote frames.
    have hlength := hcorresponds.length_eq
    rw [List.length_map, dataAndRemote, List.length_filter_eq_length_iff] at hlength
    exact fun message hmessage ↦ by simpa using hlength message hmessage
  · intro hnone
    have hall : dataAndRemote deliveries = deliveries.reduceOption := by
      rw [dataAndRemote, List.filter_eq_self]
      exact fun message hmessage ↦ by simp [hnone message hmessage]
    rw [hall, List.forall₂_map_right_iff, List.forall₂_same]
    exact fun message hmessage ↦
      corresponds_received python useFdCfg message (hnone message hmessage)

/-- An error frame of class 0x200 as socketcan delivers it. -/
def errorFrame : BusMessage where
  msg :=
    { arbitrationId := 0x200, isExtendedId := false, isRemoteFrame := false, isErrorFrame := true
      isFd := false, bitrateSwitch := false, data := some [0, 0, 0, 0, 0, 0, 0, 0], dlc := 8 }
  arbitrationId_lt := by decide
  payload_length_le := by decide

/-- What the peer sends when the error frame alone is delivered. -/
def sentForErrorFrame : List Message :=
  (loopTcpToCan documentedPythonCan (raisingCanError fun _ ↦ false)
    (receiving [(loopCanToTcp false (delivering [some errorFrame]) {}).wire]) {}).sent

/-- The error frame is neither a data nor a remote frame, and the peer sends a data frame for it. -/
theorem bridgePair_errorFrame_sent :
    ¬ List.Forall₂ (fun message msg ↦ Corresponds message.msg msg)
        (dataAndRemote [some errorFrame]) sentForErrorFrame ∧
      sentForErrorFrame = [{ errorFrame.msg with isErrorFrame := false }] := by
  have hsent : sentForErrorFrame = [{ errorFrame.msg with isErrorFrame := false }] := by decide
  refine ⟨fun hcorresponds ↦ ?_, hsent⟩
  rw [hsent] at hcorresponds
  exact absurd hcorresponds.length_eq (by decide)

end Pair

end CanopenTools.Bridge
