import CanopenTools.Interop.DataFrames

/-!
# The two record decoders

`can_from_tcp_parts` of the client and `can_from_frame` of the bridge read the same payload, and the
streams of `DataFrames` hold only payloads that an encoder wrote. Here the payload is any string of
bytes of the size of a classic record. `clientDecode_isOk_iff` and `canFromFrame_isOk_iff` say which
payloads each of the decoders accepts: the client wants the length byte to be exactly the number of
bytes that follow, the bridge wants it to be at most that number. The client masks the identifier,
the bridge takes it as it is. `decodersAgree_iff` puts the two differences together.
-/

set_option autoImplicit false
set_option relaxedAutoImplicit false

namespace CanopenTools.Interop

open Framing Bridge Client

/-! ### The payloads -/

/-- A payload of the size of a classic record with the FD and the bit-rate flag clear. Nothing else
is assumed of its bytes. -/
structure ClassicPayload where
  bytes : List UInt8
  length_ge : 6 ≤ bytes.length
  length_le : bytes.length ≤ 14
  notFd : hasFlag (bytes.getD 4 0) Bridge.flagFd = false
  notBrs : hasFlag (bytes.getD 4 0) Bridge.flagBrs = false

/-- The identifier field of a payload. -/
def ClassicPayload.canId (payload : ClassicPayload) : ℕ := beNat (payload.bytes.take 4)

/-- The length byte of a payload. -/
def ClassicPayload.dlc (payload : ClassicPayload) : ℕ := (payload.bytes.getD 5 0).toNat

/-- `can_from_tcp_parts` as `main` calls it for a payload: the first six bytes are in `hdrbuf`, the
others at the front of `databuf`, and the rest of `databuf` is left from earlier records. -/
def clientDecode (zephyr : ZephyrCan) (payload stale : List UInt8) : Except Errno CanFrame :=
  canFromTcpParts zephyr (some (.ofBytes (payload.take 6))) (payload.drop 6 ++ stale)
    (payload.length - 6) {}

/-- The decoders accept the same payload or reject it both, and when both accept it, the message
stands for the frame. -/
structure DecodersAgree (zephyr : ZephyrCan) (python : PythonCan) (payload stale : List UInt8) :
    Prop where
  accept : (clientDecode zephyr payload stale).isOk = true ↔
    (canFromFrame python payload).isOk = true
  produce : ∀ cf msg, clientDecode zephyr payload stale = .ok cf →
    canFromFrame python payload = .ok msg → Carries zephyr cf msg

/-! ### The client -/

/-- The bytes left from earlier records do not matter. -/
theorem clientDecode_toOption (zephyr : ZephyrCan) {payload : List UInt8}
    (hge : 6 ≤ payload.length) (hle : payload.length ≤ 14) (stale : List UInt8) :
    (clientDecode zephyr payload stale).toOption = clientAccepts zephyr payload := by
  apply canFromTcpParts_record zephyr hge hle
  rw [List.take_left' List.length_drop]

theorem clientDecode_isOk_iff (zephyr : ZephyrCan) (payload : ClassicPayload)
    (stale : List UInt8) :
    (clientDecode zephyr payload.bytes stale).isOk = true ↔
      payload.dlc = payload.bytes.length - 6 := by
  have hoption : (clientDecode zephyr payload.bytes stale).isOk =
      (clientDecode zephyr payload.bytes stale).toOption.isSome := by
    cases clientDecode zephyr payload.bytes stale <;> rfl
  rw [hoption, clientDecode_toOption zephyr payload.length_ge payload.length_le,
    clientAccepts_isSome_iff]
  exact ⟨fun hformed ↦ hformed.2.2, fun hdlc ↦ ⟨payload.length_ge, payload.length_le, hdlc⟩⟩

/-- The frame that the client makes of an accepted payload is the one that the payload describes. -/
theorem frameOfRecord_of_clientDecode {zephyr : ZephyrCan} {payload : ClassicPayload}
    {stale : List UInt8} {cf : CanFrame}
    (hdecode : clientDecode zephyr payload.bytes stale = .ok cf) :
    FrameOfRecord zephyr payload.bytes cf := by
  apply clientAccepts_frameOfRecord
  rw [← clientDecode_toOption zephyr payload.length_ge payload.length_le stale, hdecode]
  rfl

/-! ### The bridge -/

/-- The message that the bridge makes of a payload whose length byte is not too large. -/
theorem canFromFrame_of_dlc_le (python : PythonCan) (payload : ClassicPayload)
    (hdlc : payload.dlc ≤ payload.bytes.length - 6) :
    canFromFrame python payload.bytes =
      .ok (python.message payload.canId (hasFlag (payload.bytes.getD 4 0) Bridge.flagExt)
        (hasFlag (payload.bytes.getD 4 0) Bridge.flagRtr)
        ((payload.bytes.take (6 + payload.dlc)).drop 6) false false) := by
  have hlow := payload.length_ge
  have hhigh := payload.length_le
  have hheader : ¬ payload.bytes.length < 6 := not_lt.mpr hlow
  have hsmall : ¬ payload.dlc > 64 := by omega
  have hbody : ¬ payload.bytes.length < 6 + payload.dlc := by omega
  unfold ClassicPayload.dlc at hsmall hbody
  simp only [canFromFrame, hdrNoLenUnpack, hdrNoLenSize, if_neg hheader, if_neg hsmall,
    if_neg hbody, payload.notFd, payload.notBrs, ClassicPayload.canId, ClassicPayload.dlc]

/-- The bridge rejects a payload that is shorter than its length byte says. -/
theorem canFromFrame_of_lt_dlc (python : PythonCan) (payload : ClassicPayload)
    (hdlc : payload.bytes.length - 6 < payload.dlc) :
    ∃ error, canFromFrame python payload.bytes = .error error := by
  have hheader : ¬ payload.bytes.length < hdrNoLenSize := not_lt.mpr payload.length_ge
  have hbody : payload.bytes.length < hdrNoLenSize + (payload.bytes.getD 5 0).toNat := by
    unfold ClassicPayload.dlc at hdlc
    unfold hdrNoLenSize
    omega
  by_cases hlarge : (payload.bytes.getD 5 0).toNat > 64
  · refine ⟨⟨"invalid DLC (>64)"⟩, ?_⟩
    rw [canFromFrame, if_neg hheader]
    exact if_pos hlarge
  · refine ⟨⟨"short frame body"⟩, ?_⟩
    rw [canFromFrame, if_neg hheader]
    exact (if_neg hlarge).trans (if_pos hbody)

theorem canFromFrame_isOk_iff (python : PythonCan) (payload : ClassicPayload) :
    (canFromFrame python payload.bytes).isOk = true ↔
      payload.dlc ≤ payload.bytes.length - 6 := by
  by_cases hdlc : payload.dlc ≤ payload.bytes.length - 6
  · rw [canFromFrame_of_dlc_le python payload hdlc]
    exact iff_of_true rfl hdlc
  · obtain ⟨error, hreject⟩ := canFromFrame_of_lt_dlc python payload (not_le.mp hdlc)
    rw [hreject]
    exact iff_of_false Bool.false_ne_true hdlc

/-! ### Agreement -/

/-- When the length byte is the number of bytes that follow, the two decoders read the same format,
kind and data, and the same identifier if the mask of the client keeps it. -/
theorem carries_iff {zephyr : ZephyrCan} (python : PythonCan) {payload : ClassicPayload}
    {cf : CanFrame} (hframe : FrameOfRecord zephyr payload.bytes cf)
    (hdlc : payload.dlc = payload.bytes.length - 6) :
    Carries zephyr cf (python.message payload.canId
        (hasFlag (payload.bytes.getD 4 0) Bridge.flagExt)
        (hasFlag (payload.bytes.getD 4 0) Bridge.flagRtr)
        ((payload.bytes.take (6 + payload.dlc)).drop 6) false false) ↔
      payload.canId < 2 ^ 29 := by
  have hlow := payload.length_ge
  have hid : cf.id = payload.canId &&& 0x1FFFFFFF := hframe.id
  have hwhole : payload.bytes.take (6 + payload.dlc) = payload.bytes :=
    List.take_of_length_le (by omega)
  rw [python.message_eq, hwhole]
  constructor
  · intro hcarries
    have hmask : payload.canId = payload.canId &&& 0x1FFFFFFF :=
      hcarries.arbitrationId.trans hid
    have hle : payload.canId &&& 0x1FFFFFFF ≤ 0x1FFFFFFF := Nat.and_le_right
    omega
  · intro hlt
    refine ⟨?_, hframe.ide.symm, hframe.rtr.symm, rfl, rfl, fun hdata ↦ ?_⟩
    · exact ((hid.trans (and_mask_of_lt hlt))).symm
    · rw [hframe.data]
      exact if_neg (by simpa using hdata)

/-- The exact condition for the two decoders to agree on a payload: the length byte is at least the
number of bytes that follow, and when it is that number, the identifier field has at most 29
bits. -/
theorem decodersAgree_iff (zephyr : ZephyrCan) (python : PythonCan) (payload : ClassicPayload)
    (stale : List UInt8) :
    DecodersAgree zephyr python payload.bytes stale ↔
      payload.bytes.length - 6 ≤ payload.dlc ∧
        (payload.dlc = payload.bytes.length - 6 → payload.canId < 2 ^ 29) := by
  have hclient := clientDecode_isOk_iff zephyr payload stale
  have hbridge := canFromFrame_isOk_iff python payload
  constructor
  · rintro ⟨haccept, hproduce⟩
    have hlow : payload.bytes.length - 6 ≤ payload.dlc := by
      by_contra hshort
      have hexact := hclient.mp (haccept.mpr (hbridge.mpr (by omega)))
      omega
    refine ⟨hlow, fun hdlc ↦ ?_⟩
    cases hdecode : clientDecode zephyr payload.bytes stale with
    | error code => exact absurd (hclient.mpr hdlc) (by simp [hdecode, Except.isOk, Except.toBool])
    | ok cf =>
      have hmessage := canFromFrame_of_dlc_le python payload (le_of_eq hdlc)
      exact (carries_iff python (frameOfRecord_of_clientDecode hdecode) hdlc).mp
        (hproduce cf _ hdecode hmessage)
  · rintro ⟨hlow, hid⟩
    refine ⟨?_, fun cf msg hdecode hmessage ↦ ?_⟩
    · rw [hclient, hbridge]
      omega
    · have hdlc := hclient.mp (by rw [hdecode]; rfl)
      have hexpected := canFromFrame_of_dlc_le python payload (le_of_eq hdlc)
      obtain rfl := Except.ok.inj (hmessage.symm.trans hexpected)
      exact (carries_iff python (frameOfRecord_of_clientDecode hdecode) hdlc).mpr (hid hdlc)

/-- A length byte of zero in front of one data byte: the client rejects the payload and the bridge
makes a message without data of it. -/
def trailingByte : ClassicPayload where
  bytes := [0, 0, 1, 0x23, 0, 0, 0xAA]
  length_ge := by decide
  length_le := by decide
  notFd := by decide
  notBrs := by decide

theorem not_decodersAgree_trailingByte :
    ¬ DecodersAgree documentedZephyrCan documentedPythonCan trailingByte.bytes [] := by
  intro hagree
  have hclient : (clientDecode documentedZephyrCan trailingByte.bytes []).isOk = false := by decide
  have hbridge : (canFromFrame documentedPythonCan trailingByte.bytes).isOk = true := by decide
  have haccept := hagree.accept.mpr hbridge
  exact absurd (hclient.symm.trans haccept) (by decide)

end CanopenTools.Interop
