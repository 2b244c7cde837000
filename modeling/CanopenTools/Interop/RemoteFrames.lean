import CanopenTools.Interop.Decoders

/-!
# Remote frames between the two implementations

A remote frame asks for a number of bytes and carries none. The length byte of a record means the
number of bytes that follow to `frame_from_can` and the data length code to `tcp_send_can_frame`,
and only for remote frames do the two differ. The three pairings of an encoder and a decoder that
run against each other are `bridgeToBridge`, `bridgeToClient` and `clientToBridge`.

Each pairing keeps the identifier and its format and forgets the requested length
(`bridgeToBridge_eq`, `bridgeToClient_eq`, `clientToBridge_eq`). `remote_kept_iff` is the exact
condition for the whole request to arrive.
-/

set_option autoImplicit false
set_option relaxedAutoImplicit false

namespace CanopenTools.Interop

open Framing Bridge Client

/-! ### Requests on the bus -/

/-- A remote frame on the bus: the identifier, its format and the requested length. -/
structure RemoteRequest where
  id : ℕ
  extended : Bool
  dlc : ℕ
  deriving DecidableEq, Repr

/-- The request with length zero. -/
def RemoteRequest.withoutDlc (request : RemoteRequest) : RemoteRequest := { request with dlc := 0 }

/-- The remote frame that a frame of the client stands for, if it is one. -/
def clientRemote (zephyr : ZephyrCan) (cf : CanFrame) : Option RemoteRequest :=
  if testFlag cf.flags zephyr.canFrameRtr then
    some { id := cf.id, extended := testFlag cf.flags zephyr.canFrameIde, dlc := cf.dlc.toNat }
  else none

/-- The remote frame that a message of the bridge stands for, if it is one. -/
def messageRemote (msg : Message) : Option RemoteRequest :=
  if msg.isRemoteFrame then
    some { id := msg.arbitrationId, extended := msg.isExtendedId, dlc := msg.dlc }
  else none

/-- A remote message as python-can delivers it: no data, the requested length in `dlc`, and an
identifier in the range of its format. CAN FD has no remote frames. -/
structure RemoteMessage extends BusMessage where
  remote : msg.isRemoteFrame = true
  notError : msg.isErrorFrame = false
  notFd : msg.isFd = false
  noData : msg.payload = []
  dlc_le : msg.dlc ≤ 8
  standard_le : msg.isExtendedId = false → msg.arbitrationId ≤ 0x7FF

/-- A remote frame of the client: RTR set, and an identifier in the range of its format. -/
structure ClientRemoteFrame (zephyr : ZephyrCan) extends ClassicFrame where
  remote : testFlag flags zephyr.canFrameRtr = true
  standard_le : testFlag flags zephyr.canFrameIde = false → id ≤ 0x7FF

/-- The request of a remote message. -/
def RemoteMessage.request (frame : RemoteMessage) : RemoteRequest :=
  { id := frame.msg.arbitrationId, extended := frame.msg.isExtendedId, dlc := frame.msg.dlc }

/-- The request of a remote frame of the client. -/
def ClientRemoteFrame.request {zephyr : ZephyrCan} (frame : ClientRemoteFrame zephyr) :
    RemoteRequest :=
  { id := frame.id
    extended := testFlag frame.flags zephyr.canFrameIde
    dlc := frame.dlc.toNat }

theorem RemoteMessage.messageRemote_eq (frame : RemoteMessage) :
    messageRemote frame.msg = some frame.request := by
  rw [messageRemote, if_pos frame.remote, request]

theorem ClientRemoteFrame.clientRemote_eq {zephyr : ZephyrCan} (frame : ClientRemoteFrame zephyr) :
    clientRemote zephyr frame.toCanFrame = some frame.request := by
  rw [clientRemote, if_pos frame.remote, request]

/-! ### The three pairings -/

/-- The payload behind the two bytes of the length. -/
def payloadOf (record : List UInt8) : List UInt8 := record.drop 2

/-- `frame_from_can` with `use_fd_cfg = False`, then `can_from_frame`. -/
def bridgeToBridge (python : PythonCan) (msg : Message) : Except ValueError Message :=
  (frameFromCan msg false).bind fun record ↦ canFromFrame python (payloadOf record)

/-- `frame_from_can`, then `can_from_tcp_parts`. -/
def bridgeToClient (zephyr : ZephyrCan) (useFdCfg : Bool) (msg : Message) (stale : List UInt8) :
    Option CanFrame :=
  (frameFromCan msg useFdCfg).toOption.bind fun record ↦
    (clientDecode zephyr (payloadOf record) stale).toOption

/-- `tcp_send_can_frame` with sends that accept everything, then `can_from_frame`. -/
def clientToBridge (zephyr : ZephyrCan) (python : PythonCan) (cf : CanFrame) :
    Except ValueError Message :=
  canFromFrame python (payloadOf (tcpSendCanFrame zephyr cf allAccepted).1)

/-! ### What arrives -/

@[simp] theorem payloadOf_encodeRecord (record : List UInt8) :
    payloadOf (encodeRecord record) = record := by
  rw [payloadOf, encodeRecord, List.drop_left' (length_beBytes 2 _)]

/-- The record of a remote message has six bytes. -/
theorem frameFromCan_remote (frame : RemoteMessage) (useFdCfg : Bool) :
    frameFromCan frame.msg useFdCfg = .ok (encodeRecord
      (recordBody frame.msg.arbitrationId (frameFlags frame.msg useFdCfg) [])) := by
  have hencode := frameFromCan_eq frame.toBusMessage useFdCfg
  rwa [frame.noData] at hencode

/-- Between two bridges the requested length is forgotten. -/
theorem bridgeToBridge_eq (python : PythonCan) (frame : RemoteMessage) :
    ∃ msg, bridgeToBridge python frame.msg = .ok msg ∧
      messageRemote msg = some frame.request.withoutDlc := by
  have hdecode := canFromFrame_body python frame.toBusMessage false
  rw [frame.noData, frame.remote, python.message_eq] at hdecode
  have hpair : bridgeToBridge python frame.msg = canFromFrame python
      (recordBody frame.msg.arbitrationId (frameFlags frame.msg false) []) := by
    simp only [bridgeToBridge, frameFromCan_remote, Except.bind, payloadOf_encodeRecord]
  exact ⟨_, hpair.trans hdecode, rfl⟩

/-- From a bridge to a client the requested length is forgotten. -/
theorem bridgeToClient_eq (zephyr : ZephyrCan) (useFdCfg : Bool) (frame : RemoteMessage)
    (stale : List UInt8) :
    ∃ cf, bridgeToClient zephyr useFdCfg frame.msg stale = some cf ∧
      clientRemote zephyr cf = some frame.request.withoutDlc := by
  have hid : frame.msg.arbitrationId < 2 ^ 32 := by
    have hlt := frame.arbitrationId_lt
    omega
  have hheader := hdrNoLenUnpack_recordBody hid (frameFlags frame.msg useFdCfg)
    (show ([] : List UInt8).length < 256 by decide)
  obtain ⟨hcanId, hrest⟩ := Prod.mk.inj hheader
  obtain ⟨hflags, hlen⟩ := Prod.mk.inj hrest
  obtain ⟨body, hbody⟩ : ∃ body, body =
      recordBody frame.msg.arbitrationId (frameFlags frame.msg useFdCfg) [] := ⟨_, rfl⟩
  rw [← hbody] at hcanId hflags hlen
  have hpair : bridgeToClient zephyr useFdCfg frame.msg stale =
      (clientDecode zephyr body stale).toOption := by
    simp only [bridgeToClient, frameFromCan_remote, Except.toOption, Option.bind_some,
      payloadOf_encodeRecord, hbody]
  have hlength : body.length = 6 := by
    rw [hbody, length_recordBody]
    rfl
  have hle : body.length ≤ 14 := by omega
  have hformed : WellFormed body := by
    refine ⟨hlength.ge, hle, ?_⟩
    rw [hlen, hlength]
    rfl
  obtain ⟨cf, haccepts⟩ :=
    Option.isSome_iff_exists.mp ((clientAccepts_isSome_iff zephyr _).mpr hformed)
  have hframe := clientAccepts_frameOfRecord haccepts
  refine ⟨cf, ?_, ?_⟩
  · rw [hpair, clientDecode_toOption zephyr hlength.ge hle, haccepts]
  · have hremote : testFlag cf.flags zephyr.canFrameRtr = true :=
      hframe.rtr.trans (((congrArg (hasFlag · Bridge.flagRtr) hflags).trans
        (hasFlag_frameFlags_rtr frame.msg useFdCfg)).trans frame.remote)
    have hextended : testFlag cf.flags zephyr.canFrameIde = frame.msg.isExtendedId :=
      hframe.ide.trans ((congrArg (hasFlag · Bridge.flagExt) hflags).trans
        (hasFlag_frameFlags_ext frame.msg useFdCfg))
    have hident : cf.id = frame.msg.arbitrationId :=
      hframe.id.trans ((congrArg (· &&& 0x1FFFFFFF) hcanId).trans
        (and_mask_of_lt frame.arbitrationId_lt))
    have hdlc : cf.dlc.toNat = 0 := (congrArg UInt8.toNat hframe.dlc).trans hlen
    rw [clientRemote, if_pos hremote, hextended, hident, hdlc]
    rfl

/-- From a client to a bridge the requested length is forgotten. -/
theorem clientToBridge_eq (zephyr : ZephyrCan) (python : PythonCan)
    (frame : ClientRemoteFrame zephyr) :
    ∃ msg, clientToBridge zephyr python frame.toCanFrame = .ok msg ∧
      messageRemote msg = some frame.request.withoutDlc := by
  have hdlc := frame.dlc_le
  have hdata : (frame.data.take frame.dlc.toNat).length ≤ 64 := by
    rw [List.length_take]
    omega
  have hid : frame.id < 2 ^ 32 := by
    have hlt := frame.id_lt
    omega
  obtain ⟨hext, hrtr⟩ := testFlag_sendFlags zephyr frame.toCanFrame
  have hremote : hasFlag (sendFlags zephyr frame.toCanFrame) Bridge.flagRtr = true :=
    hrtr.trans frame.remote
  have hpair : clientToBridge zephyr python frame.toCanFrame = canFromFrame python
      (recordBody frame.id (sendFlags zephyr frame.toCanFrame)
        (frame.data.take frame.dlc.toNat)) := by
    rw [clientToBridge, tcpSendCanFrame_allAccepted, payloadOf_encodeRecord,
      clientRecord_eq_recordBody]
  refine ⟨_, hpair.trans (canFromFrame_recordBody python hid _ hdata), ?_⟩
  rw [hremote, python.message_eq, messageRemote, if_pos rfl]
  exact congrArg (fun extended ↦ some
    ({ id := frame.id, extended, dlc := 0 } : RemoteRequest)) hext

/-! ### The exact condition -/

/-- Forgetting the length keeps a request exactly when the length is zero. -/
theorem withoutDlc_eq_iff (request : RemoteRequest) :
    request.withoutDlc = request ↔ request.dlc = 0 := by
  obtain ⟨id, extended, dlc⟩ := request
  simp [RemoteRequest.withoutDlc, eq_comm]

/-- In each pairing a remote frame arrives with its identifier, its format and its requested length
exactly when the requested length is zero; from a bridge to a client with either value of
`use_fd_cfg`. -/
theorem remote_kept_iff (zephyr : ZephyrCan) (python : PythonCan) :
    (∀ frame : RemoteMessage,
      (∃ msg, bridgeToBridge python frame.msg = .ok msg ∧
        messageRemote msg = messageRemote frame.msg) ↔ frame.msg.dlc = 0) ∧
    (∀ (useFdCfg : Bool) (frame : RemoteMessage) (stale : List UInt8),
      (∃ cf, bridgeToClient zephyr useFdCfg frame.msg stale = some cf ∧
        clientRemote zephyr cf = messageRemote frame.msg) ↔ frame.msg.dlc = 0) ∧
    ∀ frame : ClientRemoteFrame zephyr,
      (∃ msg, clientToBridge zephyr python frame.toCanFrame = .ok msg ∧
        messageRemote msg = clientRemote zephyr frame.toCanFrame) ↔ frame.dlc.toNat = 0 := by
  refine ⟨fun frame ↦ ?_, fun useFdCfg frame stale ↦ ?_, fun frame ↦ ?_⟩
  · obtain ⟨msg, hpair, hrequest⟩ := bridgeToBridge_eq python frame
    simp only [hpair, Except.ok.injEq, exists_eq_left', hrequest, frame.messageRemote_eq,
      Option.some.injEq, withoutDlc_eq_iff, RemoteMessage.request]
  · obtain ⟨cf, hpair, hrequest⟩ := bridgeToClient_eq zephyr useFdCfg frame stale
    simp only [hpair, Option.some.injEq, exists_eq_left', hrequest, frame.messageRemote_eq,
      withoutDlc_eq_iff, RemoteMessage.request]
  · obtain ⟨msg, hpair, hrequest⟩ := clientToBridge_eq zephyr python frame
    simp only [hpair, Except.ok.injEq, exists_eq_left', hrequest, frame.clientRemote_eq,
      Option.some.injEq, withoutDlc_eq_iff, ClientRemoteFrame.request]

/-- A remote message with a standard identifier that asks for eight bytes. -/
def eightByteRequest : RemoteMessage where
  msg :=
    { arbitrationId := 0x123, isExtendedId := false, isRemoteFrame := true, isErrorFrame := false
      isFd := false, bitrateSwitch := false, data := some [], dlc := 8 }
  arbitrationId_lt := by decide
  payload_length_le := by decide
  remote := rfl
  notError := rfl
  notFd := rfl
  noData := rfl
  dlc_le := by decide
  standard_le := by decide

theorem eightByteRequest_forgotten :
    ¬ ∃ msg, bridgeToBridge documentedPythonCan eightByteRequest.msg = .ok msg ∧
      messageRemote msg = messageRemote eightByteRequest.msg := by
  rintro ⟨msg, hpair, hrequest⟩
  have hresult : bridgeToBridge documentedPythonCan eightByteRequest.msg =
      .ok { eightByteRequest.msg with dlc := 0 } := by decide
  obtain rfl := Except.ok.inj (hpair.symm.trans hresult)
  exact absurd hrequest (by decide)

end CanopenTools.Interop
