import CanopenTools.Framing.BigEndian
import Mathlib.Data.List.GetD

/-!
# CAN messages and their records

The record format of the Python bridge, `can_tcp_bridge.py`. A record on the wire is
`[2B length][4B can_id][1B flags][1B data_len][data...]`. `frameFromCan` writes one for a
python-can message, length included, and `canFromFrame` reads the part after the length back into a
message. `canFromFrame_body` is the round trip of one record: it names the constructor arguments
that come back for every message that fits the format, remote, error and FD messages included.

python-can itself is outside the repository. Its message constructor is the field `message` of
`PythonCan`, which carries the documented behaviour as a field.
-/

set_option autoImplicit false
set_option relaxedAutoImplicit false

namespace CanopenTools.Bridge

open Framing

/-! ### Messages -/

/-- The attributes of a `can.Message` that the bridge reads or sets. -/
structure Message where
  arbitrationId : ℕ
  isExtendedId : Bool
  isRemoteFrame : Bool
  isErrorFrame : Bool
  isFd : Bool
  bitrateSwitch : Bool
  data : Option (List UInt8)
  dlc : ℕ
  deriving DecidableEq, Repr

/-- `bytes(msg.data) if msg.data is not None else b""`. -/
def Message.payload (msg : Message) : List UInt8 := msg.data.getD []

/-- The constructor `can.Message(...)` with the keyword arguments the bridge passes, and what
python-can documents of it. Without `check=True` nothing is validated, the arguments are stored, a
remote message has no data, and a missing `dlc` is the length of the stored data. -/
structure PythonCan where
  message : (arbitrationId : ℕ) → (isExtendedId isRemoteFrame : Bool) → (data : List UInt8) →
    (isFd bitrateSwitch : Bool) → Message
  message_eq : ∀ arbitrationId isExtendedId isRemoteFrame data isFd bitrateSwitch,
    message arbitrationId isExtendedId isRemoteFrame data isFd bitrateSwitch =
      { arbitrationId, isExtendedId, isRemoteFrame, isErrorFrame := false, isFd, bitrateSwitch
        data := some (if isRemoteFrame then [] else data)
        dlc := if isRemoteFrame then 0 else data.length }

/-- A constructor that behaves as documented. -/
def documentedPythonCan : PythonCan where
  message := fun arbitrationId isExtendedId isRemoteFrame data isFd bitrateSwitch ↦
    { arbitrationId, isExtendedId, isRemoteFrame, isErrorFrame := false, isFd, bitrateSwitch
      data := some (if isRemoteFrame then [] else data)
      dlc := if isRemoteFrame then 0 else data.length }
  message_eq := fun _ _ _ _ _ _ ↦ rfl

/-- A message that `bus.recv` delivers, of any kind: its identifier has at most 29 bits and it
carries at most 64 bytes. -/
structure BusMessage where
  msg : Message
  arbitrationId_lt : msg.arbitrationId < 2 ^ 29
  payload_length_le : msg.payload.length ≤ 64

/-- A CAN data frame: neither remote nor error, an identifier in the range of its format, at most 8
bytes if classic and at most 64 if FD, and a bit-rate switch only on FD frames. -/
structure DataFrame extends BusMessage where
  notRemote : msg.isRemoteFrame = false
  notError : msg.isErrorFrame = false
  standard_le : msg.isExtendedId = false → msg.arbitrationId ≤ 0x7FF
  classic_le : msg.isFd = false → msg.payload.length ≤ 8
  fd_of_bitrateSwitch : msg.bitrateSwitch = true → msg.isFd = true

/-! ### Flags and headers -/

def flagExt : UInt8 := (1 : UInt8) <<< 0

def flagRtr : UInt8 := (1 : UInt8) <<< 1

def flagFd : UInt8 := (1 : UInt8) <<< 2

def flagBrs : UInt8 := (1 : UInt8) <<< 3

/-- `bool(flags & flag)`. -/
def hasFlag (flags flag : UInt8) : Bool := flags &&& flag != 0

/-- `_RECORD_HDR.pack(length, can_id, flags, n)` with the format `!H I B B`. -/
def recordHdrPack (length canId : ℕ) (flags : UInt8) (n : ℕ) : List UInt8 :=
  beBytes 2 length ++ beBytes 4 canId ++ [flags, UInt8.ofNat n]

/-- `_HDR_NO_LEN.size`, the size of the format `!I B B`. -/
def hdrNoLenSize : ℕ := 6

/-- `_HDR_NO_LEN.unpack_from(buf, 0)` with the format `!I B B`. -/
def hdrNoLenUnpack (buf : List UInt8) : ℕ × UInt8 × ℕ :=
  (beNat (buf.take 4), buf.getD 4 0, (buf.getD 5 0).toNat)

/-! ### Encoding and decoding -/

/-- A Python `ValueError` with its message. -/
structure ValueError where
  message : String
  deriving DecidableEq, Repr

/-- The flag byte that `frame_from_can` computes. The bit-rate switch is looked at only when the FD
flag is set. -/
def frameFlags (msg : Message) (useFdCfg : Bool) : UInt8 :=
  let flags := if msg.isExtendedId then flagExt else 0
  let flags := if msg.isRemoteFrame then flags ||| flagRtr else flags
  if msg.isFd || useFdCfg then
    let flags := flags ||| flagFd
    if msg.bitrateSwitch then flags ||| flagBrs else flags
  else flags

/-- `frame_from_can`: the record of a message, its length in front. The configuration sets the FD
flag even on a classic message, and `is_error_frame` is not looked at. -/
def frameFromCan (msg : Message) (useFdCfg : Bool) : Except ValueError (List UInt8) :=
  let data := msg.payload
  let n := data.length
  if n > 64 then .error ⟨"Data length exceeds 64 bytes"⟩
  else .ok (recordHdrPack (6 + n) (msg.arbitrationId &&& 0x1FFFFFFF) (frameFlags msg useFdCfg) n
    ++ data)

/-- `can_from_frame`: the message of a record without its length. -/
def canFromFrame (python : PythonCan) (buf : List UInt8) : Except ValueError Message :=
  if buf.length < hdrNoLenSize then .error ⟨"short frame header"⟩
  else
    let (canId, flags, n) := hdrNoLenUnpack buf
    if n > 64 then .error ⟨"invalid DLC (>64)"⟩
    else if buf.length < hdrNoLenSize + n then .error ⟨"short frame body"⟩
    else
      let data := (buf.take (hdrNoLenSize + n)).drop hdrNoLenSize
      .ok (python.message canId (hasFlag flags flagExt) (hasFlag flags flagRtr) data
        (hasFlag flags flagFd) (hasFlag flags flagBrs))

/-! ### The round trip of one record -/

@[simp] theorem hasFlag_frameFlags_ext (msg : Message) (useFdCfg : Bool) :
    hasFlag (frameFlags msg useFdCfg) flagExt = msg.isExtendedId := by
  unfold frameFlags
  cases msg.isExtendedId <;> cases msg.isRemoteFrame <;> cases msg.isFd <;> cases useFdCfg <;>
    cases msg.bitrateSwitch <;> decide

@[simp] theorem hasFlag_frameFlags_rtr (msg : Message) (useFdCfg : Bool) :
    hasFlag (frameFlags msg useFdCfg) flagRtr = msg.isRemoteFrame := by
  unfold frameFlags
  cases msg.isExtendedId <;> cases msg.isRemoteFrame <;> cases msg.isFd <;> cases useFdCfg <;>
    cases msg.bitrateSwitch <;> decide

@[simp] theorem hasFlag_frameFlags_fd (msg : Message) (useFdCfg : Bool) :
    hasFlag (frameFlags msg useFdCfg) flagFd = (msg.isFd || useFdCfg) := by
  unfold frameFlags
  cases msg.isExtendedId <;> cases msg.isRemoteFrame <;> cases msg.isFd <;> cases useFdCfg <;>
    cases msg.bitrateSwitch <;> decide

@[simp] theorem hasFlag_frameFlags_brs (msg : Message) (useFdCfg : Bool) :
    hasFlag (frameFlags msg useFdCfg) flagBrs =
      ((msg.isFd || useFdCfg) && msg.bitrateSwitch) := by
  unfold frameFlags
  cases msg.isExtendedId <;> cases msg.isRemoteFrame <;> cases msg.isFd <;> cases useFdCfg <;>
    cases msg.bitrateSwitch <;> decide

/-- The mask of `frame_from_can` keeps an identifier of at most 29 bits. -/
theorem and_mask_of_lt {id : ℕ} (hid : id < 2 ^ 29) : id &&& 0x1FFFFFFF = id := by
  rw [show (0x1FFFFFFF : ℕ) = 2 ^ 29 - 1 from rfl, Nat.and_two_pow_sub_one_eq_mod,
    Nat.mod_eq_of_lt hid]

/-- The bytes of a record after its length: identifier, flags, data length and data. -/
def recordBody (canId : ℕ) (flags : UInt8) (data : List UInt8) : List UInt8 :=
  beBytes 4 canId ++ [flags, UInt8.ofNat data.length] ++ data

@[simp] theorem length_recordBody (canId : ℕ) (flags : UInt8) (data : List UInt8) :
    (recordBody canId flags data).length = 6 + data.length := by
  simp [recordBody]
  omega

/-- The header fields of a record are read back. -/
theorem hdrNoLenUnpack_recordBody {canId : ℕ} (hid : canId < 2 ^ 32) (flags : UInt8)
    {data : List UInt8} (hdata : data.length < 256) :
    hdrNoLenUnpack (recordBody canId flags data) = (canId, flags, data.length) := by
  have htake : (recordBody canId flags data).take 4 = beBytes 4 canId := by
    rw [recordBody, List.append_assoc, List.take_left' (length_beBytes 4 canId)]
  have hfields : ∀ index, (recordBody canId flags data).getD (4 + index) 0 =
      ([flags, UInt8.ofNat data.length] ++ data).getD index 0 := by
    intro index
    rw [recordBody, List.append_assoc, List.getD_append_right _ _ _ _ (by simp),
      length_beBytes, Nat.add_sub_cancel_left]
  rw [hdrNoLenUnpack, htake, beNat_beBytes hid, hfields 0, hfields 1]
  simp [Nat.mod_eq_of_lt hdata]

/-- A record whose length byte is the length of its data is accepted, and its fields are the
arguments of the message constructor. -/
theorem canFromFrame_recordBody (python : PythonCan) {canId : ℕ} (hid : canId < 2 ^ 32)
    (flags : UInt8) {data : List UInt8} (hdata : data.length ≤ 64) :
    canFromFrame python (recordBody canId flags data) =
      .ok (python.message canId (hasFlag flags flagExt) (hasFlag flags flagRtr) data
        (hasFlag flags flagFd) (hasFlag flags flagBrs)) := by
  have hheader : ¬ (recordBody canId flags data).length < hdrNoLenSize := by
    simp [hdrNoLenSize]
  have hbody : ¬ (recordBody canId flags data).length < hdrNoLenSize + data.length := by
    simp [hdrNoLenSize]
  have hslice : ((recordBody canId flags data).take (hdrNoLenSize + data.length)).drop
      hdrNoLenSize = data := by
    rw [List.take_of_length_le (by simp [hdrNoLenSize]), recordBody,
      List.drop_left' (by simp [hdrNoLenSize])]
  rw [canFromFrame, if_neg hheader, hdrNoLenUnpack_recordBody hid flags (by omega)]
  simp only [if_neg hbody, hslice, if_neg (show ¬ data.length > 64 by omega)]

/-- The record of a message that fits the format: its length and its body. -/
theorem frameFromCan_eq (message : BusMessage) (useFdCfg : Bool) :
    frameFromCan message.msg useFdCfg =
      .ok (beBytes 2 (6 + message.msg.payload.length) ++ recordBody message.msg.arbitrationId
        (frameFlags message.msg useFdCfg) message.msg.payload) := by
  have hfits : ¬ message.msg.payload.length > 64 := not_lt.mpr message.payload_length_le
  simp only [frameFromCan, if_neg hfits, recordHdrPack, recordBody,
    and_mask_of_lt message.arbitrationId_lt, List.append_assoc]

/-- The round trip of one record: what `can_from_frame` makes of the record of a message. -/
theorem canFromFrame_body (python : PythonCan) (message : BusMessage) (useFdCfg : Bool) :
    canFromFrame python (recordBody message.msg.arbitrationId (frameFlags message.msg useFdCfg)
        message.msg.payload) =
      .ok (python.message message.msg.arbitrationId message.msg.isExtendedId
        message.msg.isRemoteFrame message.msg.payload (message.msg.isFd || useFdCfg)
        ((message.msg.isFd || useFdCfg) && message.msg.bitrateSwitch)) := by
  have hid : message.msg.arbitrationId < 2 ^ 32 := by
    have hlt := message.arbitrationId_lt
    omega
  rw [canFromFrame_recordBody python hid _ message.payload_length_le]
  simp only [hasFlag_frameFlags_ext, hasFlag_frameFlags_rtr, hasFlag_frameFlags_fd,
    hasFlag_frameFlags_brs]

end CanopenTools.Bridge
