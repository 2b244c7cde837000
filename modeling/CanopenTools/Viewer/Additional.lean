import CanopenTools.Framing.FixedLayout
import CanopenTools.Viewer.Filter

/-!
# The decoded information of a message

`MessageCached::new` gives the reader of the message's type a cursor over all eight bytes of the
data array, while the frame on the bus had `dlc` of them. The readers belong to the crate
`oze_canopen`, which is not part of the repository: each is a `FixedReader`, and the one for NMT
commands is written out. `additional_onBus_iff` says for which frames the decoding depends on bytes
of the bus only.
-/

set_option autoImplicit false
set_option relaxedAutoImplicit false

namespace CanopenTools.Viewer

open Framing

/-! ### Readers -/

/-- `NmtCommand`: what to do, and the node that is to do it. -/
structure NmtCommand (Specifier : Type) where
  commandSpecifier : Specifier
  nodeId : UInt8
  deriving DecidableEq, Repr

/-- `NmtCommand::read`: the command is byte 0 and the node id byte 1. Not every byte is a command,
but some byte is. -/
def nmtReader {Specifier : Type} (specifierOf : UInt8 → Option Specifier)
    (hcommands : ∃ byte specifier, specifierOf byte = some specifier) :
    FixedReader UInt8 (NmtCommand Specifier) where
  size := 2
  read := fun
    | command :: nodeId :: _ => (specifierOf command).map fun specifier ↦ ⟨specifier, nodeId⟩
    | _ => none
  read_take := by
    rintro (_ | ⟨command, _ | ⟨nodeId, rest⟩⟩) <;> rfl
  last_read := by
    intro before hbefore
    obtain rfl : before = 1 := Nat.succ.inj hbefore
    obtain ⟨byte, specifier, hbyte⟩ := hcommands
    refine ⟨[byte, 0], [byte, 1], rfl, rfl, rfl, ?_⟩
    simp [hbyte]

/-- What the viewer gets from the crate: the type of a message, which its COB id decides, and the
reader of each type that is decoded. All of them read within the eight bytes of a frame. -/
structure OzeCanopen (Response Request Specifier Emergency : Type) where
  parsedType : ℕ → RxMessageType
  sdoResponse : FixedReader UInt8 Response
  sdoRequest : FixedReader UInt8 Request
  specifierOf : UInt8 → Option Specifier
  emcy : FixedReader UInt8 Emergency
  commands : ∃ byte specifier, specifierOf byte = some specifier
  sdoResponse_le : sdoResponse.size ≤ 8
  sdoRequest_le : sdoRequest.size ≤ 8
  emcy_le : emcy.size ≤ 8

/-- A message with the array of the CAN interface: eight bytes, of which the first `dlc` were on the
bus. -/
structure ReceivedMessage extends RxMessage where
  length_data : data.length = 8
  dlc_le : dlc ≤ 8

/-- `RxMessageAdditional`. -/
inductive RxMessageAdditional (Response Request Specifier Emergency : Type)
  | sdoTx (response : Response)
  | sdoRx (request : Request)
  | nmt (command : NmtCommand Specifier)
  | emcy (emergency : Emergency)
  | none
  deriving DecidableEq, Repr

namespace OzeCanopen

variable {Response Request Specifier Emergency : Type}

/-- `NmtCommand::read`. -/
def nmtCommand (oze : OzeCanopen Response Request Specifier Emergency) :
    FixedReader UInt8 (NmtCommand Specifier) :=
  nmtReader oze.specifierOf oze.commands

/-- The `additional` field that `MessageCached::new` computes. The cursor is over the whole array.
-/
def additional (oze : OzeCanopen Response Request Specifier Emergency) (msg : RxMessage) :
    RxMessageAdditional Response Request Specifier Emergency :=
  match oze.parsedType msg.cobId with
  | .sdoTx => (oze.sdoResponse.read msg.data).elim .none .sdoTx
  | .sdoRx => (oze.sdoRequest.read msg.data).elim .none .sdoRx
  | .nmt => (oze.nmtCommand.read msg.data).elim .none .nmt
  | .emcy => (oze.emcy.read msg.data).elim .none .emcy
  | .guarding | .lss | .pdo | .sync | .unknown => .none

/-- The number of bytes that the reader of a COB id looks at. -/
def layoutSize (oze : OzeCanopen Response Request Specifier Emergency) (cobId : ℕ) : ℕ :=
  match oze.parsedType cobId with
  | .sdoTx => oze.sdoResponse.size
  | .sdoRx => oze.sdoRequest.size
  | .nmt => 2
  | .emcy => oze.emcy.size
  | .guarding | .lss | .pdo | .sync | .unknown => 0

/-! ### Two messages -/

/-- The decoding of the frames with a COB id and a length depends on bytes of the bus only: two
messages that agree on the first `dlc` bytes are decoded alike. -/
def OnBus (oze : OzeCanopen Response Request Specifier Emergency) (cobId dlc : ℕ) : Prop :=
  ∀ first second : ReceivedMessage, first.cobId = cobId → second.cobId = cobId →
    first.dlc = dlc → second.dlc = dlc → first.data.take dlc = second.data.take dlc →
      oze.additional first.toRxMessage = oze.additional second.toRxMessage

/-- What the front decides of a reader it decides of the variant made of what is read. -/
theorem onBus_iff_of_reader {oze : OzeCanopen Response Request Specifier Emergency} {α : Type}
    (reader : FixedReader UInt8 α) (hsize : reader.size ≤ 8)
    (variant : α → RxMessageAdditional Response Request Specifier Emergency)
    (hvariant : Function.Injective variant) (hnone : ∀ value, variant value ≠ .none)
    {cobId dlc : ℕ} (hdlc : dlc ≤ 8)
    (hadditional : ∀ msg : RxMessage, msg.cobId = cobId →
      oze.additional msg = (reader.read msg.data).elim .none variant) :
    oze.OnBus cobId dlc ↔ reader.size ≤ dlc := by
  have helim : ∀ first second : Option α,
      first.elim .none variant = second.elim .none variant ↔ first = second := by
    intro first second
    cases first with
    | none =>
      cases second with
      | none => simp
      | some value => simpa using (hnone value).symm
    | some value =>
      cases second with
      | none => simpa using hnone value
      | some other => simpa using hvariant.eq_iff
  rw [← reader.determined_iff hsize dlc]
  constructor
  · intro hbus first second hfirst hsecond hfront
    have hsame :=
      hbus ⟨⟨0, cobId, first, dlc⟩, hfirst, hdlc⟩ ⟨⟨0, cobId, second, dlc⟩, hsecond, hdlc⟩
      rfl rfl rfl rfl hfront
    rw [hadditional _ rfl, hadditional _ rfl] at hsame
    exact (helim _ _).mp hsame
  · intro hdetermined first second hfirst hsecond _ _ hfront
    rw [hadditional _ hfirst, hadditional _ hsecond, helim]
    exact hdetermined _ _ first.length_data second.length_data hfront

theorem layoutSize_le (oze : OzeCanopen Response Request Specifier Emergency) (cobId : ℕ) :
    oze.layoutSize cobId ≤ 8 := by
  unfold layoutSize
  split
  · exact oze.sdoResponse_le
  · exact oze.sdoRequest_le
  · exact Nat.le_of_ble_eq_true rfl
  · exact oze.emcy_le
  all_goals exact Nat.zero_le 8

/-- The decoding depends on bytes of the bus only, for exactly the frames that are at least as long
as the layout of their type. -/
theorem additional_onBus_iff (oze : OzeCanopen Response Request Specifier Emergency)
    (cobId dlc : ℕ) : oze.OnBus cobId dlc ↔ oze.layoutSize cobId ≤ dlc := by
  by_cases hdlc : dlc ≤ 8
  · cases htype : oze.parsedType cobId with
    | sdoTx =>
      rw [layoutSize, htype]
      refine onBus_iff_of_reader oze.sdoResponse oze.sdoResponse_le .sdoTx
        (fun _ _ ↦ RxMessageAdditional.sdoTx.inj) (by simp) hdlc fun msg hmsg ↦ ?_
      rw [additional, hmsg, htype]
    | sdoRx =>
      rw [layoutSize, htype]
      refine onBus_iff_of_reader oze.sdoRequest oze.sdoRequest_le .sdoRx
        (fun _ _ ↦ RxMessageAdditional.sdoRx.inj) (by simp) hdlc fun msg hmsg ↦ ?_
      rw [additional, hmsg, htype]
    | nmt =>
      rw [layoutSize, htype]
      refine onBus_iff_of_reader oze.nmtCommand (Nat.le_of_ble_eq_true rfl) .nmt
        (fun _ _ ↦ RxMessageAdditional.nmt.inj) (by simp) hdlc fun msg hmsg ↦ ?_
      rw [additional, hmsg, htype]
    | emcy =>
      rw [layoutSize, htype]
      refine onBus_iff_of_reader oze.emcy oze.emcy_le .emcy
        (fun _ _ ↦ RxMessageAdditional.emcy.inj) (by simp) hdlc fun msg hmsg ↦ ?_
      rw [additional, hmsg, htype]
    | _ =>
      refine ⟨fun _ ↦ by rw [layoutSize, htype]; exact Nat.zero_le dlc, ?_⟩
      intro _ first second hfirst hsecond _ _ _
      rw [additional, additional, hfirst, hsecond, htype]
  · refine ⟨fun _ ↦ Nat.le_trans (oze.layoutSize_le cobId) (Nat.le_of_not_le hdlc), ?_⟩
    intro _ first _ _ _ hfirst
    exact absurd (hfirst ▸ first.dlc_le) hdlc

end OzeCanopen

/-! ### A short command -/

/-- A reader that takes the bytes of its layout as they are. -/
def bytesReader (size : ℕ) : FixedReader UInt8 (List UInt8) where
  size := size
  read := fun bytes ↦ if size ≤ bytes.length then some (bytes.take size) else none
  read_take := by
    intro bytes
    rw [List.length_take, List.take_take, Nat.min_self]
    by_cases hlength : size ≤ bytes.length
    · rw [if_pos hlength, if_pos (Nat.le_min.mpr ⟨Nat.le_refl size, hlength⟩)]
    · rw [if_neg hlength, if_neg fun hmin ↦ hlength (Nat.le_min.mp hmin).2]
  last_read := by
    rintro before rfl
    refine ⟨List.replicate before 0 ++ [0], List.replicate before 0 ++ [1], by simp, by simp,
      by simp, ?_⟩
    rw [if_pos (by simp), if_pos (by simp), List.take_of_length_le (by simp),
      List.take_of_length_le (by simp)]
    simp

/-- The five commands of CANopen. -/
inductive NmtCommandSpecifier
  | startRemoteNode
  | stopRemoteNode
  | enterPreOperational
  | resetNode
  | resetCommunication
  deriving DecidableEq, Repr

/-- The crate with SDOs and emergencies of eight bytes, on the default COB ids. -/
def defaultIds : OzeCanopen (List UInt8) (List UInt8) NmtCommandSpecifier (List UInt8) where
  parsedType := fun cobId ↦
    if cobId = 0 then .nmt
    else if 0x80 < cobId ∧ cobId < 0x100 then .emcy
    else if 0x580 < cobId ∧ cobId < 0x600 then .sdoTx
    else if 0x600 < cobId ∧ cobId < 0x680 then .sdoRx
    else .unknown
  sdoResponse := bytesReader 8
  sdoRequest := bytesReader 8
  specifierOf := fun byte ↦
    if byte = 0x01 then some .startRemoteNode
    else if byte = 0x02 then some .stopRemoteNode
    else if byte = 0x80 then some .enterPreOperational
    else if byte = 0x81 then some .resetNode
    else if byte = 0x82 then some .resetCommunication
    else none
  emcy := bytesReader 8
  commands := ⟨0x01, .startRemoteNode, rfl⟩
  sdoResponse_le := Nat.le_refl 8
  sdoRequest_le := Nat.le_refl 8
  emcy_le := Nat.le_refl 8

/-- An NMT frame of one byte, with what was left in the array behind it. -/
def shortStart (stale : UInt8) : ReceivedMessage where
  timestamp := 0
  cobId := 0
  data := [0x01, stale, 0, 0, 0, 0, 0, 0]
  dlc := 1
  length_data := rfl
  dlc_le := Nat.le_of_ble_eq_true rfl

/-- Two NMT frames with the one byte `01` are decoded to commands for different nodes. -/
theorem not_onBus_shortStart :
    (shortStart 0).data.take 1 = (shortStart 5).data.take 1 ∧
      defaultIds.additional (shortStart 0).toRxMessage = .nmt ⟨.startRemoteNode, 0⟩ ∧
      defaultIds.additional (shortStart 5).toRxMessage = .nmt ⟨.startRemoteNode, 5⟩ ∧
      ¬ defaultIds.OnBus 0 1 := by
  refine ⟨rfl, rfl, rfl, fun hbus ↦ ?_⟩
  have hsame := hbus (shortStart 0) (shortStart 5) rfl rfl rfl rfl rfl
  cases hsame

end CanopenTools.Viewer
