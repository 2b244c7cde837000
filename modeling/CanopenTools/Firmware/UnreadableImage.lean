import CanopenTools.Effects.Tied
import CanopenTools.Firmware.Ordering

/-!
# An image that cannot be read

Both versions of `flash_firmware` take the size of the image and open it only after they have
stopped and cleared the program on the device. `UnreadableHost` is a host where the file is there
but its size or its contents cannot be had. Whatever the device does on such a host,
`flash_firmware` asks for STOP or CLEAR in exactly the runs in which the device was switched to
PRE-OPERATIONAL (`flashFirmware_spares_iff`).
-/

set_option autoImplicit false
set_option relaxedAutoImplicit false

namespace CanopenTools.Firmware

open Effects Tools

/-- A host on which the image is a file, but `os.path.getsize` or `open` raises for it whenever they
are called. Everything else, the device included, does as it likes. -/
structure UnreadableHost where
  surroundings : Surroundings host
  isfile : ∀ history path, surroundings history (.isfile path) = .ok true
  unreadable :
    (∀ history path, ∃ error, surroundings history (.getsize path) = .error error) ∨
      ∀ history path, ∃ error, surroundings history (.fileOpen path) = .error error

/-- A write of STOP or CLEAR to `0x1F51:1`, with any outcome. -/
def Erases : Event host → Prop
  | ⟨.sdoWrite _ index subindex value, _⟩ =>
    index = h1f51ProgramCtrl ∧ subindex = programNumber ∧
      (value = programCtrlStop ∨ value = programCtrlClear)
  | _ => False

/-- A successful switch to PRE-OPERATIONAL. -/
def EntersPreOperational : Event host → Prop
  | ⟨.setPreOperational _, .ok _⟩ => True
  | _ => False

/-! ### The update -/

/-- An operation that neither writes an object of the device nor switches its state. -/
def SparesDevice : Op → Prop
  | .sdoWrite _ _ _ _ | .setPreOperational _ => False
  | _ => True

theorem Polls.sparesDevice {op : Op} (hop : Polls op) : SparesDevice op := by
  cases op <;> trivial

theorem harmless_of_sparesDevice {op : Op} (hop : SparesDevice op) :
    Harmless Erases EntersPreOperational op := by
  cases op with
  | sdoWrite node index subindex value => exact absurd hop not_false
  | setPreOperational node => exact absurd hop not_false
  | _ => exact ⟨fun _ ↦ not_false, fun _ ↦ not_false⟩

theorem uses_ask_harmless {op : Op} (hop : SparesDevice op) :
    (ask op).Uses (Harmless Erases EntersPreOperational) :=
  Program.uses_perform (harmless_of_sparesDevice hop)

/-- From the switch to PRE-OPERATIONAL on: when it succeeds, STOP is the next operation. -/
theorem tied_preOperational (node : Node) (rest : Script Unit) :
    Tied Erases EntersPreOperational (do
      setPreOperational node
      programCtrl node programCtrlStop
      rest) := by
  refine tied_perform (fun _ ↦ ⟨not_false, not_false⟩) (fun _ ↦ trivial) ?_
  exact fun _ ↦ happened_perform (fun _ ↦ ⟨rfl, rfl, Or.inl rfl⟩) fun _ ↦ rest

/-- In every run of the update, STOP or CLEAR is written exactly when the device was switched to
PRE-OPERATIONAL. -/
theorem tied_updateProgram (node : Node) (binPath : String) (fuel : ℕ) :
    Tied Erases EntersPreOperational (updateProgram node binPath fuel) := by
  have hharmless : ∀ op, Polls op → Harmless Erases EntersPreOperational op :=
    fun _ hop ↦ harmless_of_sparesDevice hop.sparesDevice
  refine tied_seq ((uses_readSwid node).mono hharmless) fun _ ↦ ?_
  refine tied_seq ((uses_waitForFlashStatusOk node defaultTimeout fuel).mono hharmless) fun _ ↦ ?_
  exact tied_preOperational node _

/-- `co-firmware-update.py` adds nothing to it: the network is connected and disconnected. -/
theorem tied_flashFirmware (nodeId : ℤ) (binPath interface : String) (baudrate : ℤ) (fuel : ℕ) :
    Tied Erases EntersPreOperational (flashFirmware nodeId binPath interface baudrate fuel) := by
  refine tied_seq (uses_ask_harmless trivial) fun flashNode ↦ ?_
  refine tied_seq (uses_ask_harmless trivial) fun _ ↦ ?_
  exact tied_ensuring (tied_updateProgram flashNode binPath fuel) (uses_ask_harmless trivial)

/-- `co.py` adds nothing to it past the confirmation: the handler reports the error. -/
theorem tied_flashConfirmed (node : Node) (binPath : String) (fuel : ℕ) :
    Tied Erases EntersPreOperational (Interactive.flashConfirmed node binPath fuel) := by
  refine tied_seq (uses_ask_harmless trivial) fun flashNode ↦ ?_
  refine tied_then (tied_tryCatch (tied_updateProgram flashNode binPath fuel) fun error ↦ ?_)
    fun _ ↦ uses_ask_harmless trivial
  cases error with
  | exception message => exact uses_ask_harmless trivial
  | keyboardInterrupt => trivial

/-- Nor does it before the confirmation: the user chooses a node and types a path. -/
theorem tied_interactive (nodes : Interactive.Table) (fuel : ℕ) :
    Tied Erases EntersPreOperational (Interactive.flashFirmware nodes fuel) := by
  have hleave : Tied Erases EntersPreOperational (ask .inputEnter) :=
    tied_of_uses (uses_ask_harmless trivial)
  have hchoose : (Interactive.chooseNode nodes fuel).Uses (Harmless Erases EntersPreOperational) :=
    (Interactive.uses_chooseNode nodes fuel).mono fun op hop ↦ by
      subst hop
      exact harmless_of_sparesDevice trivial
  refine tied_seq hchoose fun chosen ↦ ?_
  cases chosen with
  | none => exact hleave
  | some node =>
    refine tied_seq (uses_ask_harmless trivial) fun (binPath : String) ↦ ?_
    refine tied_seq (uses_ask_harmless trivial) fun (found : Bool) ↦ ?_
    cases found with
    | false => exact hleave
    | true =>
      refine tied_seq (uses_ask_harmless trivial) fun (confirmed : Bool) ↦ ?_
      cases confirmed with
      | false => exact hleave
      | true => exact tied_flashConfirmed node binPath fuel

/-! ### The result -/

/-- On every host, in every run of either version of `flash_firmware`, neither STOP nor CLEAR is
written exactly when the device was not switched to PRE-OPERATIONAL. -/
theorem spares_iff_of_surroundings (surroundings : Surroundings host) {script : Script Unit}
    (htied : Tied Erases EntersPreOperational script) :
    ¬ Happened Erases (script.run surroundings []).1 ↔
      ¬ Happened EntersPreOperational (script.run surroundings []).1 :=
  (htied surroundings [] ⟨by rintro ⟨_, ⟨⟩, _⟩, by rintro ⟨_, ⟨⟩, _⟩⟩).not

/-- The history of a run from the start. -/
def UnreadableHost.history (image : UnreadableHost) (script : Script Unit) : List (Event host) :=
  (script.run image.surroundings []).1

/-- For an image that cannot be read: in every run of either version of `flash_firmware`, neither
STOP nor CLEAR is written exactly when the device was not switched to PRE-OPERATIONAL. -/
theorem flashFirmware_spares_iff (image : UnreadableHost) :
    (∀ nodeId binPath interface baudrate fuel,
      ¬ Happened Erases (image.history (flashFirmware nodeId binPath interface baudrate fuel)) ↔
        ¬ Happened EntersPreOperational
          (image.history (flashFirmware nodeId binPath interface baudrate fuel))) ∧
      ∀ nodes fuel,
        ¬ Happened Erases (image.history (Interactive.flashFirmware nodes fuel)) ↔
          ¬ Happened EntersPreOperational (image.history (Interactive.flashFirmware nodes fuel)) :=
  ⟨fun nodeId binPath interface baudrate fuel ↦
      spares_iff_of_surroundings image.surroundings
        (tied_flashFirmware nodeId binPath interface baudrate fuel),
    fun nodes fuel ↦ spares_iff_of_surroundings image.surroundings (tied_interactive nodes fuel)⟩

/-- A host on which the device and the user agree to everything, but the image may not be opened. -/
def lockedImage : UnreadableHost where
  surroundings := fun history op ↦
    match op with
    | .fileOpen _ => .error (.exception "Permission denied")
    | op => (willingHost [1, 2, 3]).surroundings history op
  isfile := fun _ _ ↦ rfl
  unreadable := Or.inr fun _ _ ↦ ⟨_, rfl⟩

/-- With this host both versions have written STOP and CLEAR when they end. -/
theorem flashFirmware_erases_lockedImage :
    (∀ command ∈ [programCtrlStop, programCtrlClear],
      Happened (Wrote ⟨0, 1⟩ command)
        (lockedImage.history (flashFirmware 1 "zephyr.bin" "can0" 500000 1))) ∧
      ∀ command ∈ [programCtrlStop, programCtrlClear],
        Happened (Wrote ⟨0, 1⟩ command)
          (lockedImage.history (Interactive.flashFirmware [(1, ⟨0, 1⟩)] 1)) := by
  have hwritten : ∀ {history : List (Event host)} (position : ℕ),
      (history[position]? =
        some ⟨.sdoWrite ⟨0, 1⟩ h1f51ProgramCtrl programNumber programCtrlStop, .ok ()⟩) →
      (history[position + 1]? =
        some ⟨.sdoWrite ⟨0, 1⟩ h1f51ProgramCtrl programNumber programCtrlClear, .ok ()⟩) →
      ∀ command ∈ [programCtrlStop, programCtrlClear],
        Happened (Wrote ⟨0, 1⟩ command) history := by
    intro history position hstop hclear command hcommand
    rcases List.mem_cons.mp hcommand with rfl | hcommand
    · exact ⟨_, List.mem_of_getElem? hstop, rfl, rfl, rfl, rfl⟩
    · obtain rfl := List.mem_singleton.mp hcommand
      exact ⟨_, List.mem_of_getElem? hclear, rfl, rfl, rfl, rfl⟩
  exact ⟨hwritten 6 rfl rfl, hwritten 9 rfl rfl⟩

end CanopenTools.Firmware
