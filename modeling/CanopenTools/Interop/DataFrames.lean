import CanopenTools.Bridge.CanToTcp
import CanopenTools.Bridge.TcpToCan
import CanopenTools.Client.RecordStream

/-!
# Data frames between the two implementations

The ESP32 client and the Python bridge write and read the same records with separate code. What they
have in common is a frame on the bus, `BusFrame`: an identifier, its format, a length and data. A
`CanFrame` of the client and a `Message` of the bridge each stand for such a frame when they are
classic data frames, and the two encoders and the two decoders agree on it.

`canFromFrame_clientRecord` is what the bridge makes of a record of the client, remote frames
included. `interoperate` is the result for streams: data frames go from the client to the bridge
and from the bridge to the client unchanged and in order, whatever the chunks and the short reads.
-/

set_option autoImplicit false
set_option relaxedAutoImplicit false

namespace CanopenTools.Interop

open Framing Bridge Client

/-! ### Frames on the bus -/

/-- A classic data frame on the bus. -/
structure BusFrame where
  id : ℕ
  extended : Bool
  dlc : ℕ
  data : List UInt8
  deriving DecidableEq, Repr

/-- The classic data frame that a frame of the client stands for, if it is one. -/
def clientBusFrame (zephyr : ZephyrCan) (cf : CanFrame) : Option BusFrame :=
  if testFlag cf.flags zephyr.canFrameRtr then none
  else
    some
      { id := cf.id
        extended := testFlag cf.flags zephyr.canFrameIde
        dlc := cf.dlc.toNat
        data := cf.data.take cf.dlc.toNat }

/-- The classic data frame that a message of the bridge stands for, if it is one. -/
def messageBusFrame (msg : Message) : Option BusFrame :=
  if msg.isRemoteFrame || msg.isErrorFrame || msg.isFd then none
  else
    some
      { id := msg.arbitrationId
        extended := msg.isExtendedId
        dlc := msg.payload.length
        data := msg.payload }

/-- A classic data frame of the client: RTR clear, and an identifier in the range of its format. -/
structure ClientDataFrame (zephyr : ZephyrCan) extends ClassicFrame where
  notRemote : testFlag flags zephyr.canFrameRtr = false
  standard_le : testFlag flags zephyr.canFrameIde = false → id ≤ 0x7FF

/-- A classic data frame of the bridge. -/
structure ClassicDataFrame extends DataFrame where
  notFd : msg.isFd = false

/-! ### From the client to the bridge -/

/-- The record of the client has the layout of the bridge. -/
theorem clientRecord_eq_recordBody (zephyr : ZephyrCan) (frame : ClassicFrame) :
    clientRecord zephyr frame.toCanFrame =
      recordBody frame.id (sendFlags zephyr frame.toCanFrame)
        (frame.data.take frame.dlc.toNat) := by
  have hdlc := frame.dlc_le
  have hlength : (frame.data.take frame.dlc.toNat).length = frame.dlc.toNat := by
    rw [List.length_take, frame.data_length]
    omega
  rw [clientRecord, recordBody, hlength, UInt8.ofNat_toNat]
  simp only [sendHeader, TcpHdr.bytes, and_mask_of_lt frame.id_lt]

/-- The client never sets the FD and the bit-rate flag. -/
theorem hasFlag_sendFlags (zephyr : ZephyrCan) (cf : CanFrame) :
    hasFlag (sendFlags zephyr cf) Bridge.flagFd = false ∧
      hasFlag (sendFlags zephyr cf) Bridge.flagBrs = false := by
  unfold sendFlags
  cases testFlag cf.flags zephyr.canFrameIde <;> cases testFlag cf.flags zephyr.canFrameRtr <;>
    decide

/-- What a frame of the client and the message that the bridge makes of its record have in common; a
remote frame has no data. -/
structure Carries (zephyr : ZephyrCan) (cf : CanFrame) (msg : Message) : Prop where
  arbitrationId : msg.arbitrationId = cf.id
  isExtendedId : msg.isExtendedId = testFlag cf.flags zephyr.canFrameIde
  isRemoteFrame : msg.isRemoteFrame = testFlag cf.flags zephyr.canFrameRtr
  isErrorFrame : msg.isErrorFrame = false
  isFd : msg.isFd = false
  data : msg.isRemoteFrame = false → msg.payload = cf.data.take cf.dlc.toNat

/-- `can_from_frame` accepts the record of every classic frame of the client. -/
theorem canFromFrame_clientRecord (zephyr : ZephyrCan) (python : PythonCan)
    (frame : ClassicFrame) :
    ∃ msg, canFromFrame python (clientRecord zephyr frame.toCanFrame) = .ok msg ∧
      Carries zephyr frame.toCanFrame msg := by
  have hdlc := frame.dlc_le
  have hdata : (frame.data.take frame.dlc.toNat).length ≤ 64 := by
    rw [List.length_take]
    omega
  have hid : frame.id < 2 ^ 32 := by
    have hlt := frame.id_lt
    omega
  obtain ⟨hext, hrtr⟩ := testFlag_sendFlags zephyr frame.toCanFrame
  obtain ⟨hfd, hbrs⟩ := hasFlag_sendFlags zephyr frame.toCanFrame
  rw [clientRecord_eq_recordBody, canFromFrame_recordBody python hid _ hdata, python.message_eq]
  refine ⟨_, rfl, rfl, hext, hrtr, rfl, hfd, fun hremote ↦ ?_⟩
  simp only [Message.payload, Option.getD_some]
  exact if_neg (by simpa using hremote)

/-- The record of a frame of the client on the wire. -/
def clientWireRecord (zephyr : ZephyrCan) (frame : ClassicFrame) : WireRecord :=
  ⟨clientRecord zephyr frame.toCanFrame, by
    have hdlc := frame.dlc_le
    rw [length_clientRecord]
    omega⟩

/-- The outcomes of `zsock_send` when every call accepts everything. -/
def allAccepted : FrameSends := ⟨.accepted 2, .accepted 6, .accepted 8⟩

/-- When every call accepts everything, `tcp_send_can_frame` writes the record of the frame. -/
theorem tcpSendCanFrame_allAccepted (zephyr : ZephyrCan) (frame : ClassicFrame) :
    (tcpSendCanFrame zephyr frame.toCanFrame allAccepted).1 =
      encodeRecord (clientRecord zephyr frame.toCanFrame) := by
  have hdlc := frame.dlc_le
  have hcount : allAccepted.count frame.dlc.toNat =
      (encodeRecord (clientRecord zephyr frame.toCanFrame)).length := by
    rw [length_encodeRecord, length_clientRecord]
    simp [allAccepted, FrameSends.count, ZsockSend.complete, ZsockSend.count]
    omega
  rw [tcpSendCanFrame_bytes, hcount]
  exact List.take_of_length_le le_rfl

/-- The bytes that the client writes for a list of frames when every call accepts everything. -/
def clientStream (zephyr : ZephyrCan) (frames : List (ClientDataFrame zephyr)) : List UInt8 :=
  frames.flatMap fun frame ↦ (tcpSendCanFrame zephyr frame.toCanFrame allAccepted).1

theorem clientStream_eq (zephyr : ZephyrCan) (frames : List (ClientDataFrame zephyr)) :
    clientStream zephyr frames =
      recordStream (frames.map fun frame ↦ clientWireRecord zephyr frame.toClassicFrame) := by
  induction frames with
  | nil => rfl
  | cons frame frames ih =>
    rw [clientStream, List.flatMap_cons, tcpSendCanFrame_allAccepted]
    exact congrArg (encodeRecord _ ++ ·) ih

/-- A message that carries a data frame of the client stands for the same frame. -/
theorem messageBusFrame_of_carries {zephyr : ZephyrCan} (frame : ClientDataFrame zephyr)
    {msg : Message} (hcarries : Carries zephyr frame.toCanFrame msg) :
    messageBusFrame msg = clientBusFrame zephyr frame.toCanFrame := by
  have hremote : msg.isRemoteFrame = false := hcarries.isRemoteFrame.trans frame.notRemote
  have hdlc := frame.dlc_le
  have hlength : (frame.data.take frame.dlc.toNat).length = frame.dlc.toNat := by
    rw [List.length_take, frame.data_length]
    omega
  simp only [messageBusFrame, clientBusFrame, hremote, hcarries.isErrorFrame, hcarries.isFd,
    frame.notRemote, Bool.or_false, Bool.false_eq_true, if_false, hcarries.arbitrationId,
    hcarries.isExtendedId, hcarries.data hremote, hlength]

/-- Data frames of the client arrive at the bridge. -/
theorem client_to_bridge (zephyr : ZephyrCan) (python : PythonCan)
    (frames : List (ClientDataFrame zephyr)) (chunking : Chunking (clientStream zephyr frames))
    (canErrors : ℕ → Bool) :
    let final := loopTcpToCan python (raisingCanError canErrors) (receiving chunking.chunks) {}
    final.sent.map messageBusFrame = frames.map (fun frame ↦ clientBusFrame zephyr frame.toCanFrame)
      ∧ final.framer.buf = [] ∧ final.ended = false := by
  intro final
  choose message haccepted hcarries using fun frame : ClientDataFrame zephyr ↦
    canFromFrame_clientRecord zephyr python frame.toClassicFrame
  have hall : List.Forall₂ (fun (record : WireRecord) msg ↦
      canFromFrame python record.bytes = .ok msg)
      (frames.map fun frame ↦ clientWireRecord zephyr frame.toClassicFrame)
      (frames.map message) := by
    rw [List.forall₂_map_left_iff, List.forall₂_map_right_iff, List.forall₂_same]
    exact fun frame _ ↦ haccepted frame
  obtain ⟨hsent, hbuf, hended⟩ := loopTcpToCan_accepted python hall
    (clientStream_eq zephyr frames) chunking canErrors
  refine ⟨?_, hbuf, hended⟩
  rw [show final.sent = _ from hsent, List.map_map]
  exact List.map_congr_left fun frame _ ↦ messageBusFrame_of_carries frame (hcarries frame)

/-! ### From the bridge to the client -/

/-- The records of data frames of the bridge are well formed for the client. -/
theorem wellFormed_recordOf (useFdCfg : Bool) (frame : ClassicDataFrame) :
    WellFormed (recordOf useFdCfg frame.toBusMessage) := by
  have hdata := frame.classic_le frame.notFd
  have hid : frame.msg.arbitrationId < 2 ^ 32 := by
    have hlt := frame.arbitrationId_lt
    omega
  have hheader := hdrNoLenUnpack_recordBody hid (frameFlags frame.msg useFdCfg)
    (show frame.msg.payload.length < 256 by omega)
  have hlen := (Prod.mk.inj (Prod.mk.inj hheader).2).2
  unfold WellFormed recordOf
  rw [hlen, length_recordBody]
  omega

/-- The frame of the client that a record of the bridge describes stands for the same frame. -/
theorem clientBusFrame_of_record {zephyr : ZephyrCan} {useFdCfg : Bool} (frame : ClassicDataFrame)
    {cf : CanFrame}
    (hframe : FrameOfRecord zephyr (recordOf useFdCfg frame.toBusMessage) cf) :
    clientBusFrame zephyr cf = messageBusFrame frame.msg := by
  have hdata := frame.classic_le frame.notFd
  have hid : frame.msg.arbitrationId < 2 ^ 32 := by
    have hlt := frame.arbitrationId_lt
    omega
  have hheader := hdrNoLenUnpack_recordBody hid (frameFlags frame.msg useFdCfg)
    (show frame.msg.payload.length < 256 by omega)
  obtain ⟨hcanId, hrest⟩ := Prod.mk.inj hheader
  obtain ⟨hflags, hlen⟩ := Prod.mk.inj hrest
  have hdlc := hframe.dlc
  have hext := hframe.ide
  have hrtr := hframe.rtr
  have hbytes := hframe.data
  have hident := hframe.id
  rw [recordOf] at hdlc hext hrtr hbytes hident
  rw [hcanId, and_mask_of_lt frame.arbitrationId_lt] at hident
  rw [hflags] at hext hrtr
  rw [← hdlc] at hlen
  have hdrop : (recordBody frame.msg.arbitrationId (frameFlags frame.msg useFdCfg)
      frame.msg.payload).drop 6 = frame.msg.payload := by
    rw [recordBody, List.drop_left' (by simp)]
  rw [hlen, hdrop] at hbytes
  have hremote : testFlag cf.flags zephyr.canFrameRtr = false :=
    hrtr.trans ((hasFlag_frameFlags_rtr frame.msg useFdCfg).trans frame.notRemote)
  have hextended : testFlag cf.flags zephyr.canFrameIde = frame.msg.isExtendedId :=
    hext.trans (hasFlag_frameFlags_ext frame.msg useFdCfg)
  simp only [clientBusFrame, messageBusFrame, hremote, hextended, hident, hlen, hbytes,
    frame.notRemote, frame.notError, frame.notFd, Bool.or_false, Bool.false_eq_true, if_false]

/-- The records of a list of data frames on the wire. -/
def bridgeRecords (useFdCfg : Bool) (frames : List ClassicDataFrame) : List WireRecord :=
  frames.map fun frame ↦ wireRecordOf useFdCfg frame.toBusMessage

/-- What the client has received of the records of data frames are these data frames. -/
theorem busFrames_of_received {zephyr : ZephyrCan} {useFdCfg : Bool}
    {frames : List ClassicDataFrame} {todo : List WireRecord} {state : ClientState}
    (hreceived : Received zephyr (bridgeRecords useFdCfg frames) todo state) :
    state.canSends.map (clientBusFrame zephyr) = frames.map fun frame ↦
      messageBusFrame frame.msg := by
  have hsends := hreceived.canSends
  have hall : ((bridgeRecords useFdCfg frames).map WireRecord.bytes).filter (WellFormed ·) =
      frames.map fun frame ↦ recordOf useFdCfg frame.toBusMessage := by
    rw [bridgeRecords, List.map_map]
    refine List.filter_eq_self.mpr fun record hrecord ↦ ?_
    obtain ⟨frame, -, rfl⟩ := List.mem_map.mp hrecord
    exact decide_eq_true (wellFormed_recordOf useFdCfg frame)
  rw [hall, List.forall₂_map_left_iff] at hsends
  have hequal : List.Forall₂ (· = ·) (frames.map fun frame ↦ messageBusFrame frame.msg)
      (state.canSends.map (clientBusFrame zephyr)) := by
    rw [List.forall₂_map_left_iff, List.forall₂_map_right_iff]
    exact hsends.imp fun frame cf hframe ↦ (clientBusFrame_of_record frame hframe).symm
  rw [List.forall₂_eq_eq_eq] at hequal
  exact hequal.symm

/-- The stream that `frame_from_can` writes for data frames. -/
theorem mapM_frameFromCan (useFdCfg : Bool) (frames : List ClassicDataFrame) :
    ∃ payloads, frames.mapM (fun frame ↦ frameFromCan frame.msg useFdCfg) = .ok payloads ∧
      payloads.flatten = recordStream (bridgeRecords useFdCfg frames) := by
  have hencode : (fun frame : ClassicDataFrame ↦ frameFromCan frame.msg useFdCfg) =
      fun frame ↦ pure (encodeRecord (recordOf useFdCfg frame.toBusMessage)) :=
    funext fun frame ↦ frameFromCan_eq_encodeRecord useFdCfg frame.toBusMessage
  refine ⟨frames.map fun frame ↦ encodeRecord (recordOf useFdCfg frame.toBusMessage), ?_, ?_⟩
  · rw [hencode, List.mapM_pure]
    rfl
  · simp [recordStream, bridgeRecords, wireRecordOf, List.flatMap, Function.comp_def]

/-- The frames that the client has sent on its bus in a run, over a fragmentation of what the bridge
writes for data frames, are the first ones of them, and while the client runs it can go on and send
all of them. -/
structure DeliversAll (zephyr : ZephyrCan) {stream : List UInt8}
    (fragmentation : Fragmentation stream) (frames : List (Option BusFrame))
    (events : List ClientEvent) : Prop where
  sent : (runClient zephyr events (startClient fragmentation)).canSends.map
    (clientBusFrame zephyr) <+: frames
  stopped : (runClient zephyr events (startClient fragmentation)).status = .stopped →
    ∃ event ∈ events, event.IsPollError
  waiting : (runClient zephyr events (startClient fragmentation)).status = .waiting →
    (runClient zephyr events (startClient fragmentation)).canSends.map
      (clientBusFrame zephyr) = frames
  running : (runClient zephyr events (startClient fragmentation)).status = .running →
    ∃ steps, (runClient zephyr (events ++ List.replicate steps mainReady)
      (startClient fragmentation)).canSends.map (clientBusFrame zephyr) = frames

/-- Data frames of the bridge arrive at the client. -/
theorem bridge_to_client (zephyr : ZephyrCan) (useFdCfg : Bool) (frames : List ClassicDataFrame) :
    ∃ payloads, frames.mapM (fun frame ↦ frameFromCan frame.msg useFdCfg) = .ok payloads ∧
      ∀ (fragmentation : Fragmentation payloads.flatten) (events : List ClientEvent),
        DeliversAll zephyr fragmentation (frames.map fun frame ↦ messageBusFrame frame.msg)
          events := by
  obtain ⟨payloads, hencode, hstream⟩ := mapM_frameFromCan useFdCfg frames
  refine ⟨payloads, hencode, ?_⟩
  rw [hstream]
  intro fragmentation events
  obtain ⟨done, todo, hsplit, hreceived, hstopped⟩ :=
    received_runClient (received_startClient zephyr fragmentation) events
  rw [List.nil_append] at hreceived
  obtain ⟨first, second, hframes, rfl, htodo⟩ := List.map_eq_append_iff.mp hsplit
  have hsent := busFrames_of_received hreceived
  refine ⟨?_, fun hstatus ↦ ?_, fun hwaiting ↦ ?_, fun hrunning ↦ ?_⟩
  · rw [hsent, hframes, List.map_append]
    exact List.prefix_append _ _
  · exact (hstopped hstatus).resolve_left (by simp [startClient])
  · have hnone : second = [] := by
      rw [← List.map_eq_nil_iff, htodo]
      exact hreceived.waiting hwaiting
    rw [hsent, hframes, hnone, List.append_nil]
  · obtain ⟨steps, hdone⟩ := hreceived.completes hrunning
    rw [← hsplit] at hdone
    refine ⟨steps, ?_⟩
    rw [runClient, List.foldl_append]
    exact busFrames_of_received hdone

/-- The two implementations agree on data frames. The bridge sends exactly the frames that the
client wrote, and the client sends exactly the frames that the bridge wrote, with or without
`use_fd_cfg`, in order and however the stream is cut. -/
theorem interoperate (zephyr : ZephyrCan) (python : PythonCan) :
    (∀ (frames : List (ClientDataFrame zephyr))
        (chunking : Chunking (clientStream zephyr frames)) (canErrors : ℕ → Bool),
      let final := loopTcpToCan python (raisingCanError canErrors) (receiving chunking.chunks) {}
      final.sent.map messageBusFrame =
          frames.map (fun frame ↦ clientBusFrame zephyr frame.toCanFrame) ∧
        final.framer.buf = [] ∧ final.ended = false) ∧
    ∀ (useFdCfg : Bool) (frames : List ClassicDataFrame),
      ∃ payloads, frames.mapM (fun frame ↦ frameFromCan frame.msg useFdCfg) = .ok payloads ∧
        ∀ (fragmentation : Fragmentation payloads.flatten) (events : List ClientEvent),
          DeliversAll zephyr fragmentation (frames.map fun frame ↦ messageBusFrame frame.msg)
            events :=
  ⟨client_to_bridge zephyr python, bridge_to_client zephyr⟩

end CanopenTools.Interop
