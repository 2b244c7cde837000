import CanopenTools.Framing.BigEndian
import Mathlib.Data.Fintype.Basic
import Mathlib.Data.List.GetD

/-!
# Frames and records of the ESP32 client

The structures and the two conversions of `main.c`. A record on the wire is a two-byte length, the
packed header `tcp_hdr` and the data bytes. `tcpSendCanFrame` writes one with three calls of
`zsock_send`, each of which may accept everything, a part or nothing, and `canFromTcpParts` makes a
frame of a received header and data.

`struct can_frame` and the flag bits of a frame belong to Zephyr, which is outside the repository:
the bit positions are fields of `ZephyrCan`, which carries the fact that they differ.
-/

set_option autoImplicit false
set_option relaxedAutoImplicit false

namespace CanopenTools.Client

open Framing

/-! ### Frames -/

/-- The bits of `CAN_FRAME_IDE` and `CAN_FRAME_RTR` in the flags of a Zephyr CAN frame. -/
structure ZephyrCan where
  ideBit : Fin 8
  rtrBit : Fin 8
  ideBit_ne_rtrBit : ideBit ≠ rtrBit

/-- The bits that Zephyr documents. -/
def documentedZephyrCan : ZephyrCan where
  ideBit := 0
  rtrBit := 1
  ideBit_ne_rtrBit := by decide

/-- The Zephyr macro `BIT(n)`. -/
def bit (n : Fin 8) : UInt8 := (1 : UInt8) <<< UInt8.ofNat n.val

def ZephyrCan.canFrameIde (zephyr : ZephyrCan) : UInt8 := bit zephyr.ideBit

def ZephyrCan.canFrameRtr (zephyr : ZephyrCan) : UInt8 := bit zephyr.rtrBit

/-- `struct can_frame`: the identifier, the data length code, the flags and the eight data bytes. -/
structure CanFrame where
  id : ℕ := 0
  dlc : UInt8 := 0
  flags : UInt8 := 0
  data : List UInt8 := List.replicate 8 0
  deriving DecidableEq, Repr

/-- A classic CAN frame: the identifier has 29 bits, at most 8 data bytes are in use, and the data
field has its size. -/
structure ClassicFrame extends CanFrame where
  id_lt : id < 2 ^ 29
  dlc_le : dlc.toNat ≤ 8
  data_length : data.length = 8

/-- `flags & flag`, as a condition. -/
def testFlag (flags flag : UInt8) : Bool := flags &&& flag != 0

def flagExt : UInt8 := (1 : UInt8) <<< 0

def flagRtr : UInt8 := (1 : UInt8) <<< 1

/-- `struct tcp_hdr`, the packed header; `canIdBe` is the big-endian identifier as it lies in
memory. -/
structure TcpHdr where
  canIdBe : List UInt8
  flags : UInt8
  dlc : UInt8
  deriving DecidableEq, Repr

/-- `sizeof(struct tcp_hdr)`. -/
def sizeofTcpHdr : ℕ := 6

/-- The bytes of a header in memory. -/
def TcpHdr.bytes (header : TcpHdr) : List UInt8 := header.canIdBe ++ [header.flags, header.dlc]

/-- The header whose bytes are in a buffer. -/
def TcpHdr.ofBytes (buf : List UInt8) : TcpHdr :=
  { canIdBe := buf.take 4, flags := buf.getD 4 0, dlc := buf.getD 5 0 }

/-- The error numbers of the conversions. -/
inductive Errno
  | eio
  | einval
  | econnreset
  | other (code : ℕ)
  deriving DecidableEq, Repr

/-! ### Sending -/

/-- How a call of `zsock_send` ends: it returns a count of accepted bytes, or an error. -/
inductive ZsockSend
  | accepted (count : ℕ)
  | error
  deriving DecidableEq, Repr

/-- The number of bytes of a call of `zsock_send` with `size` bytes that reach the connection. -/
def ZsockSend.count (size : ℕ) : ZsockSend → ℕ
  | .accepted count => min count size
  | .error => 0

/-- Whether the call returns `size`. -/
def ZsockSend.complete (size : ℕ) : ZsockSend → Bool
  | .accepted count => size ≤ count
  | .error => false

/-- The outcomes of the calls of `zsock_send` for one frame; a call that is not made has no use for
its outcome. -/
structure FrameSends where
  len : ZsockSend
  hdr : ZsockSend
  data : ZsockSend
  deriving DecidableEq, Repr

/-- The flag byte of `tcp_send_can_frame`. -/
def sendFlags (zephyr : ZephyrCan) (cf : CanFrame) : UInt8 :=
  let flags := if testFlag cf.flags zephyr.canFrameIde then flagExt else 0
  if testFlag cf.flags zephyr.canFrameRtr then flags ||| flagRtr else flags

/-- The header that `tcp_send_can_frame` fills in. -/
def sendHeader (zephyr : ZephyrCan) (cf : CanFrame) : TcpHdr :=
  { canIdBe := beBytes 4 (cf.id &&& 0x1FFFFFFF), flags := sendFlags zephyr cf, dlc := cf.dlc }

/-- `tcp_send_can_frame`: the bytes that reach the connection and the result. -/
def tcpSendCanFrame (zephyr : ZephyrCan) (cf : CanFrame) (sends : FrameSends) :
    List UInt8 × Except Errno Unit :=
  let tcpHeader := sendHeader zephyr cf
  let payLen := sizeofTcpHdr + cf.dlc.toNat
  let lenBe := beBytes 2 payLen
  let sentLen := lenBe.take (sends.len.count 2)
  if !sends.len.complete 2 then (sentLen, .error .eio)
  else
    let sentHdr := tcpHeader.bytes.take (sends.hdr.count sizeofTcpHdr)
    if !sends.hdr.complete sizeofTcpHdr then (sentLen ++ sentHdr, .error .eio)
    else if 0 < cf.dlc.toNat then
      let sentData := (cf.data.take cf.dlc.toNat).take (sends.data.count cf.dlc.toNat)
      if !sends.data.complete cf.dlc.toNat then (sentLen ++ sentHdr ++ sentData, .error .eio)
      else (sentLen ++ sentHdr ++ sentData, .ok ())
    else (sentLen ++ sentHdr, .ok ())

/-- The record of a frame without its length, as `tcp_send_can_frame` lays it out. -/
def clientRecord (zephyr : ZephyrCan) (cf : CanFrame) : List UInt8 :=
  (sendHeader zephyr cf).bytes ++ cf.data.take cf.dlc.toNat

/-- The number of bytes of the record of a frame that reach the connection. -/
def FrameSends.count (dlc : ℕ) (sends : FrameSends) : ℕ :=
  if !sends.len.complete 2 then sends.len.count 2
  else if !sends.hdr.complete 6 then 2 + sends.hdr.count 6
  else 8 + sends.data.count dlc

theorem ZsockSend.count_error (size : ℕ) : ZsockSend.error.count size = 0 := rfl

theorem ZsockSend.complete_error (size : ℕ) : ZsockSend.error.complete size = false := rfl

theorem ZsockSend.count_le (size : ℕ) (send : ZsockSend) : send.count size ≤ size := by
  cases send with
  | accepted count => exact min_le_right _ _
  | error => exact Nat.zero_le _

/-- A call that returns its size has written everything. -/
theorem ZsockSend.count_of_complete {size : ℕ} {send : ZsockSend}
    (hcomplete : send.complete size = true) : send.count size = size := by
  cases send with
  | accepted count => exact min_eq_right (of_decide_eq_true hcomplete)
  | error => exact absurd hcomplete (by simp [ZsockSend.complete])

theorem FrameSends.count_le (dlc : ℕ) (sends : FrameSends) : sends.count dlc ≤ 8 + dlc := by
  have hlen := sends.len.count_le 2
  have hhdr := sends.hdr.count_le 6
  have hdata := sends.data.count_le dlc
  unfold FrameSends.count
  split_ifs <;> omega

@[simp] theorem length_bytes_sendHeader (zephyr : ZephyrCan) (cf : CanFrame) :
    (sendHeader zephyr cf).bytes.length = 6 := by
  simp [sendHeader, TcpHdr.bytes]

theorem length_clientRecord (zephyr : ZephyrCan) (frame : ClassicFrame) :
    (clientRecord zephyr frame.toCanFrame).length = 6 + frame.dlc.toNat := by
  have hdlc := frame.dlc_le
  have hdata := frame.data_length
  rw [clientRecord, List.length_append, length_bytes_sendHeader, List.length_take]
  omega

/-- A prefix that ends in the second of three parts. -/
theorem take_second_part (first : List UInt8) {second : List UInt8} {count : ℕ}
    (hcount : count ≤ second.length) (third : List UInt8) :
    (first ++ (second ++ third)).take (first.length + count) = first ++ second.take count := by
  rw [List.take_append, List.take_of_length_le (by omega), Nat.add_sub_cancel_left,
    List.take_append_of_le_length hcount]

/-- A prefix that ends in the third of three parts. -/
theorem take_third_part (first second third : List UInt8) (count : ℕ) :
    (first ++ (second ++ third)).take (first.length + second.length + count) =
      first ++ second ++ third.take count := by
  rw [← List.append_assoc, List.take_append, List.length_append,
    List.take_of_length_le (by rw [List.length_append]; omega), Nat.add_sub_cancel_left]

/-- What reaches the connection is a prefix of the record behind its length: the three calls write
its three parts in order, and the first call that is short is the last. -/
theorem tcpSendCanFrame_bytes (zephyr : ZephyrCan) (frame : ClassicFrame) (sends : FrameSends) :
    (tcpSendCanFrame zephyr frame.toCanFrame sends).1 =
      (beBytes 2 (clientRecord zephyr frame.toCanFrame).length ++
        clientRecord zephyr frame.toCanFrame).take (sends.count frame.dlc.toNat) := by
  have hlength : (beBytes 2 (6 + frame.dlc.toNat)).length = 2 := length_beBytes _ _
  have hheader := length_bytes_sendHeader zephyr frame.toCanFrame
  rw [length_clientRecord, clientRecord]
  simp only [tcpSendCanFrame, FrameSends.count, sizeofTcpHdr]
  generalize beBytes 2 (6 + frame.dlc.toNat) = len at hlength ⊢
  generalize (sendHeader zephyr frame.toCanFrame).bytes = header at hheader ⊢
  by_cases hlen : sends.len.complete 2 = true
  · have htwo : len.take (sends.len.count 2) = len := by
      rw [ZsockSend.count_of_complete hlen, List.take_of_length_le (le_of_eq hlength)]
    by_cases hhdr : sends.hdr.complete 6 = true
    · have hsix : header.take (sends.hdr.count 6) = header := by
        rw [ZsockSend.count_of_complete hhdr, List.take_of_length_le (le_of_eq hheader)]
      have hfront := take_third_part len header (frame.data.take frame.dlc.toNat)
        (sends.data.count frame.dlc.toNat)
      rw [hlength, hheader] at hfront
      simp only [hlen, hhdr, Bool.not_true, Bool.false_eq_true, if_false, htwo, hsix, hfront]
      split_ifs with hpos hdata
      · rfl
      · rfl
      · have hzero : frame.dlc.toNat = 0 := by omega
        simp [hzero]
    · have hle : sends.hdr.count 6 ≤ header.length := by
        rw [hheader]
        exact sends.hdr.count_le 6
      have hfront := take_second_part len hle (frame.data.take frame.dlc.toNat)
      rw [hlength] at hfront
      simp only [hlen, hhdr, Bool.not_true, Bool.not_false, Bool.false_eq_true, if_true, if_false,
        htwo, hfront]
  · have hle := sends.len.count_le 2
    simp only [hlen, Bool.not_false, if_true]
    rw [List.take_append_of_le_length (by omega)]

/-! ### Receiving -/

/-- `can_from_tcp_parts`; a missing header stands for a null pointer. The frame is written over
`out`, of which the data bytes beyond the length stay. -/
def canFromTcpParts (zephyr : ZephyrCan) (tcpHeader : Option TcpHdr) (data : List UInt8)
    (dataLen : ℕ) (out : CanFrame) : Except Errno CanFrame :=
  match tcpHeader with
  | none => .error .einval
  | some tcpHeader =>
    if tcpHeader.dlc.toNat > 8 then .error .einval
    else if dataLen ≠ tcpHeader.dlc.toNat then .error .einval
    else
      let canId := beNat tcpHeader.canIdBe
      let flags : UInt8 := 0
      let flags := if testFlag tcpHeader.flags flagExt then flags ||| zephyr.canFrameIde else flags
      let flags := if testFlag tcpHeader.flags flagRtr then flags ||| zephyr.canFrameRtr else flags
      let dlc := tcpHeader.dlc.toNat
      .ok
        { id := canId &&& 0x1FFFFFFF
          dlc := tcpHeader.dlc
          flags
          data := if dlc ≠ 0 then data.take dlc ++ out.data.drop dlc else out.data }

/-- The flags of a frame with the given format and kind. -/
def frameFlags (zephyr : ZephyrCan) (extended remote : Bool) : UInt8 :=
  (if extended then zephyr.canFrameIde else 0) ||| (if remote then zephyr.canFrameRtr else 0)

theorem testFlag_frameFlags_ide (zephyr : ZephyrCan) (extended remote : Bool) :
    testFlag (frameFlags zephyr extended remote) zephyr.canFrameIde = extended := by
  obtain ⟨ideBit, rtrBit, hne⟩ := zephyr
  revert ideBit rtrBit extended remote
  decide

theorem testFlag_frameFlags_rtr (zephyr : ZephyrCan) (extended remote : Bool) :
    testFlag (frameFlags zephyr extended remote) zephyr.canFrameRtr = remote := by
  obtain ⟨ideBit, rtrBit, hne⟩ := zephyr
  revert ideBit rtrBit extended remote
  decide

/-- The flag byte of a sent record carries the format and the kind of the frame. -/
theorem testFlag_sendFlags (zephyr : ZephyrCan) (cf : CanFrame) :
    testFlag (sendFlags zephyr cf) flagExt = testFlag cf.flags zephyr.canFrameIde ∧
      testFlag (sendFlags zephyr cf) flagRtr = testFlag cf.flags zephyr.canFrameRtr := by
  unfold sendFlags
  cases testFlag cf.flags zephyr.canFrameIde <;> cases testFlag cf.flags zephyr.canFrameRtr <;>
    decide

end CanopenTools.Client
