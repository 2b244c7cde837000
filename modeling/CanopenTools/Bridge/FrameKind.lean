import CanopenTools.Bridge.WellFormed

/-!
# The kind of a frame across the bridge

A message that one bridge receives and the other sends passes through a record
(`acrossBridge`). `acrossBridge_eq` is what comes out under either configuration. On a bus without
FD the kind of every frame is kept, and a frame of the bus comes out as a frame of the bus
(`acrossBridge_wellFormed`). On a bus with FD the configuration sets the FD flag of every record, so
that data frames go on as FD frames whatever they were (`acrossBridge_kind`).
-/

set_option autoImplicit false
set_option relaxedAutoImplicit false

namespace CanopenTools.Bridge

open Framing

/-- A data or remote frame that `bus.recv` delivers on a bus opened with `fd=useFdCfg`: FD frames
only if the bus is opened for them, a bit-rate switch only on FD frames, and no remote frame that is
an FD frame. -/
structure BusFrame (useFdCfg : Bool) extends BusMessage where
  notError : msg.isErrorFrame = false
  cfg_of_fd : msg.isFd = true → useFdCfg = true
  fd_of_bitrateSwitch : msg.bitrateSwitch = true → msg.isFd = true
  classic_of_remote : msg.isRemoteFrame = true → msg.isFd = false

/-- `frame_from_can` on one side and `can_from_frame` on the other, with the two bytes of the length
taken off in between. -/
def acrossBridge (python : PythonCan) (useFdCfg : Bool) (msg : Message) :
    Except ValueError Message :=
  (frameFromCan msg useFdCfg).bind fun record ↦ canFromFrame python (record.drop 2)

/-- What comes out on the other side. The configuration adds the FD flag, and the bit-rate switch
passes wherever the FD flag is set. -/
theorem acrossBridge_eq (python : PythonCan) (useFdCfg : Bool) (message : BusMessage) :
    acrossBridge python useFdCfg message.msg =
      .ok (python.message message.msg.arbitrationId message.msg.isExtendedId
        message.msg.isRemoteFrame message.msg.payload (message.msg.isFd || useFdCfg)
        ((message.msg.isFd || useFdCfg) && message.msg.bitrateSwitch)) := by
  rw [acrossBridge, frameFromCan_eq]
  change canFromFrame python (List.drop 2 _) = _
  rw [List.drop_left' (length_beBytes 2 _), canFromFrame_body]

/-- The kind of a frame across the bridge: the bit-rate switch of every frame is kept. On a bus
without FD, and for an FD frame on any bus, the FD flag is kept and is never set beside the remote
flag. A data frame from a bus with FD goes on as an FD frame. -/
theorem acrossBridge_kind (python : PythonCan) (useFdCfg : Bool) (frame : BusFrame useFdCfg) :
    ∃ decoded, acrossBridge python useFdCfg frame.msg = .ok decoded ∧
      decoded.bitrateSwitch = frame.msg.bitrateSwitch ∧
      (useFdCfg = false ∨ frame.msg.isFd = true →
        decoded.isFd = frame.msg.isFd ∧ ¬ (decoded.isRemoteFrame = true ∧ decoded.isFd = true)) ∧
      (useFdCfg = true → frame.msg.isRemoteFrame = false →
        decoded.isFd = true ∧ decoded.isRemoteFrame = false) := by
  refine ⟨_, acrossBridge_eq python useFdCfg frame.toBusMessage, ?_, ?_, ?_⟩
  · rw [python.message_eq]
    cases hbrs : frame.msg.bitrateSwitch with
    | false => simp
    | true => simp [frame.fd_of_bitrateSwitch hbrs]
  · intro hkept
    have hfd : (frame.msg.isFd || useFdCfg) = frame.msg.isFd := by
      rcases hkept with rfl | hisFd
      · exact Bool.or_false _
      · rw [hisFd, Bool.true_or]
    rw [python.message_eq, hfd]
    refine ⟨rfl, fun hboth ↦ ?_⟩
    exact absurd hboth.2 (by rw [frame.classic_of_remote hboth.1]; exact Bool.false_ne_true)
  · rintro rfl hdata
    rw [python.message_eq, Bool.or_true]
    exact ⟨rfl, hdata⟩

/-- A classic data frame with identifier `0x2A5` and one byte, on a bus with FD. -/
def classicOnFdBus : BusFrame true where
  msg :=
    { arbitrationId := 0x2A5, isExtendedId := false, isRemoteFrame := false, isErrorFrame := false
      isFd := false, bitrateSwitch := false, data := some [0x2A], dlc := 1 }
  arbitrationId_lt := by decide
  payload_length_le := by simp [Message.payload]
  notError := rfl
  cfg_of_fd := fun hfd ↦ absurd hfd Bool.false_ne_true
  fd_of_bitrateSwitch := fun hbrs ↦ absurd hbrs Bool.false_ne_true
  classic_of_remote := fun _ ↦ rfl

/-- A classic data frame from a bus with FD is put on the other bus as an FD frame. -/
theorem acrossBridge_classic_becomesFd :
    classicOnFdBus.msg.isFd = false ∧
      (acrossBridge documentedPythonCan true classicOnFdBus.msg).toOption.map Message.isFd =
        some true := by
  refine ⟨rfl, ?_⟩
  rw [acrossBridge_eq documentedPythonCan true classicOnFdBus.toBusMessage]
  rfl

/-- Without FD in the configuration a frame of the bus comes out as a frame of the bus. -/
theorem acrossBridge_wellFormed (python : PythonCan) (message : BusMessage)
    (hwell : BusWellFormed message.msg) :
    ∃ decoded, acrossBridge python false message.msg = .ok decoded ∧ BusWellFormed decoded := by
  refine ⟨_, acrossBridge_eq python false message, ?_⟩
  have hstored : ∀ data : List UInt8,
      (Option.some (if message.msg.isRemoteFrame then [] else data)).getD [] =
        if message.msg.isRemoteFrame then [] else data := fun _ ↦ rfl
  rw [python.message_eq, Bool.or_false]
  refine ⟨hwell.standard_le, hwell.extended_lt, hwell.not_remote_fd, ?_, ?_, ?_⟩
  · intro hbrs
    exact (Bool.and_eq_true_iff.mp hbrs).1
  · intro hclassic
    rw [Message.payload, hstored]
    split_ifs with hremote
    · exact Nat.zero_le 8
    · exact hwell.classic_le hclassic
  · intro hfd
    rw [Message.payload, hstored, if_neg fun hremote ↦ hwell.not_remote_fd ⟨hremote, hfd⟩]
    exact hwell.fd_length hfd

end CanopenTools.Bridge
