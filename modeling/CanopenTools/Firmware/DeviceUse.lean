import CanopenTools.Effects.Protocol
import CanopenTools.Firmware.Tool

/-!
# What an update does to the device and the host

The two programs that flash a device, `main` of `co-firmware-update.py` and `flash_firmware` of
`co.py`, hold a network, the image and a stream to the device. `deviceUse` says how. Nothing is
asked of the bus before the image is there and the user has agreed. Then only the flash node is
used, and of its objects only the four of the program download. The stream is opened while the image
is open, with its size announced, and everything that is written to it is the next piece of the
image.

`flashTools_keep_deviceUse`: in every run of both programs the protocol is kept, wherever the run
stops; and whatever the run ends with, `KeyboardInterrupt` included, the stream and the image are
closed and the network is as it was at the start.
-/

set_option autoImplicit false
set_option relaxedAutoImplicit false

namespace CanopenTools.Firmware.DeviceUse

open Effects Tools

open Effects.Program (Follows follows_pure follows_raise follows_unfinished follows_bind
  follows_tryCatch follows_ensuring follows_perform follows_ite follows_of_uses follows_sound Idle)

/-! ### The protocol -/

/-- What the program has found out and what it holds. -/
structure Usage where
  found : Bool := false
  agreed : Bool
  flashNode : Option Node := none
  connected : Bool
  image : Bool := false
  stream : Bool := false
  sent : List UInt8 := []
  deriving DecidableEq, Repr

/-- Neither the image nor the stream is open. -/
def Usage.Closed (usage : Usage) : Prop := usage.image = false ∧ usage.stream = false

/-- The network is connected with the flash node on it. -/
def Usage.Reaches (usage : Usage) (node : Node) : Prop :=
  usage.flashNode = some node ∧ usage.connected = true

/-- The user may be asked. -/
def Usage.Waits (usage : Usage) : Prop := usage.Closed ∧ usage.flashNode = none

section Protocol

variable (attached skipsConfirm : Bool) (file : List UInt8)

/-- Which operations are allowed. -/
def Allows (usage : Usage) : Op → Prop
  | .isfile _ | .inputPath | .inputYes | .inputNumber => usage.Waits
  | .getsize _ | .time | .sleep _ | .inputEnter | .reportError _ => usage.Closed
  | .networkAddNew _ => usage.Waits ∧ usage.found = true ∧ usage.agreed = true
  | .networkConnect _ _ => usage.Closed ∧ usage.flashNode ≠ none ∧ usage.connected = false
  | .networkDisconnect => usage.Closed ∧ usage.connected = true ∧ attached = false
  | .sdoRead node index subindex =>
    usage.Closed ∧ usage.Reaches node ∧ subindex = programNumber ∧
      (index = h1f56ProgramSwid ∨ index = h1f57FlashStatus)
  | .sdoWrite node index subindex command =>
    usage.Closed ∧ usage.Reaches node ∧ subindex = programNumber ∧ index = h1f51ProgramCtrl ∧
      command ∈ [programCtrlStop, programCtrlClear, programCtrlStart, programCtrlConfirm]
  | .setPreOperational node | .waitForBootup node _ => usage.Closed ∧ usage.Reaches node
  | .reportSuccess => usage.Closed ∧ usage.connected = true
  | .fileOpen _ => usage.Closed ∧ usage.connected = true
  | .streamOpen node index subindex _ size =>
    usage.image = true ∧ usage.stream = false ∧ usage.Reaches node ∧ index = h1f50ProgramData ∧
      subindex = programNumber ∧ size = file.length
  | .fileRead position size =>
    usage.image = true ∧ usage.stream = true ∧ position = usage.sent.length ∧
      size = defaultBufferSize / 2
  | .streamWrite chunk =>
    usage.stream = true ∧ chunk ≠ [] ∧ chunk.length ≤ defaultBufferSize / 2 ∧
      usage.sent ++ chunk <+: file
  | .streamClose => usage.stream = true
  | .fileClose => usage.image = true ∧ usage.stream = false
  | .inputNodeId | .menuOther | .remoteNode _ _ | .networkAddNode _ => False

/-- The user answered the question. -/
def Usage.answered (usage : Usage) (yes : Bool) : Usage :=
  { usage with agreed := usage.agreed || yes }

/-- `os.path.isfile` answered. -/
def Usage.looked (usage : Usage) (found : Bool) : Usage := { usage with found }

/-- The flash node is on the network. -/
def Usage.added (usage : Usage) (node : Node) : Usage := { usage with flashNode := some node }

/-- What an operation makes of it. -/
def next (usage : Usage) : Event host → Usage
  | ⟨.isfile _, .ok found⟩ => usage.looked found
  | ⟨.inputYes, .ok yes⟩ => usage.answered yes
  | ⟨.networkAddNew _, .ok node⟩ => usage.added node
  | ⟨.networkConnect _ _, .ok _⟩ => { usage with connected := true }
  | ⟨.networkDisconnect, _⟩ => { usage with connected := false }
  | ⟨.fileOpen _, .ok _⟩ => { usage with image := true }
  | ⟨.fileClose, _⟩ => { usage with image := false }
  | ⟨.streamOpen _ _ _ _ _, .ok _⟩ => { usage with stream := true, sent := [] }
  | ⟨.streamWrite chunk, .ok _⟩ => { usage with sent := usage.sent ++ chunk }
  | ⟨.streamClose, _⟩ => { usage with stream := false }
  | _ => usage

/-- How an update may use the device and the host; `attached` says that the network is connected
throughout, `skipsConfirm` that the user agreed in advance. -/
def deviceUse : Protocol host where
  Usage := Usage
  start := { agreed := skipsConfirm, connected := attached }
  allows := Allows attached file
  next := next
  relies := fun _ ↦ FileUnmodified file

end Protocol

/-! ### Rules -/

section Rules

variable {attached skipsConfirm : Bool} {file : List UInt8} {usage : Usage} {α β : Type}

/-- From a state of use, the program keeps the protocol and ends in states as given, whether it
returns or raises. -/
def Keeps (attached skipsConfirm : Bool) (file : List UInt8) (usage : Usage) (script : Script α)
    (returns : α → Usage → Prop) (raises : Usage → Prop) : Prop :=
  script.Follows (deviceUse attached skipsConfirm file) usage returns fun _ ↦ raises

/-- An operation that changes nothing. -/
def Still (op : Op) : Prop := ∀ usage answer, next usage ⟨op, answer⟩ = usage

/-- A part that asks for allowed operations that change nothing. -/
theorem keeps_still {script : Script α}
    (huses : script.Uses fun op ↦ Allows attached file usage op ∧ Still op) :
    Keeps attached skipsConfirm file usage script (fun _ after ↦ after = usage)
      fun after ↦ after = usage :=
  follows_of_uses (huses.mono fun _ hop ↦ ⟨hop.1, hop.2 usage⟩)

/-- Such a part and what follows it. -/
theorem keeps_still_seq {script : Script β} {rest : β → Script α} {returns : α → Usage → Prop}
    {raises : Usage → Prop} (huses : script.Uses fun op ↦ Allows attached file usage op ∧ Still op)
    (hraises : raises usage)
    (hrest : ∀ value, Keeps attached skipsConfirm file usage (rest value) returns raises) :
    Keeps attached skipsConfirm file usage (script >>= rest) returns raises := by
  refine follows_bind ((keeps_still huses).mono (fun _ _ hafter ↦ hafter) ?_) ?_
  · rintro _ after rfl
    exact hraises
  · rintro value after rfl
    exact hrest value

/-- An operation and what follows it. -/
theorem keeps_ask_bind {op : Op} {rest : op.Result → Script α} {returns : α → Usage → Prop}
    {raises : Usage → Prop} (hallows : Allows attached file usage op)
    (hraises : ∀ error, raises (next usage ⟨op, .error error⟩))
    (hrest : ∀ result, FileUnmodified file ⟨op, .ok result⟩ →
      Keeps attached skipsConfirm file (next usage ⟨op, .ok result⟩) (rest result) returns raises) :
    Keeps attached skipsConfirm file usage (ask op >>= rest) returns raises := by
  have hask : Keeps attached skipsConfirm file usage (ask op) (fun result after ↦
      FileUnmodified file ⟨op, .ok result⟩ ∧ after = next usage ⟨op, .ok result⟩) raises :=
    follows_perform hallows (fun _ hrelies ↦ ⟨hrelies, rfl⟩) fun error _ ↦ hraises error
  refine follows_bind hask ?_
  rintro result after ⟨hrelies, rfl⟩
  exact hrest result hrelies

/-- `except Exception` around a part that ends as `raises` says. -/
theorem keeps_exceptException {body : Script α} {handler : PyError → Script α}
    {returns : α → Usage → Prop} {fails raises : Usage → Prop}
    (hbody : Keeps attached skipsConfirm file usage body returns fails)
    (hhandler : ∀ error after, fails after →
      Keeps attached skipsConfirm file after (handler error) returns raises)
    (hinterrupt : ∀ after, fails after → raises after) :
    Keeps attached skipsConfirm file usage (exceptException body handler) returns raises := by
  refine follows_tryCatch hbody fun error after hfails ↦ ?_
  cases error with
  | exception message => exact hhandler (.exception message) after hfails
  | keyboardInterrupt => exact follows_raise (hinterrupt after hfails)

end Rules

/-! ### The update -/

section Update

variable {attached skipsConfirm : Bool} {file : List UInt8} {usage : Usage} {node : Node}

/-- Between two steps of the update. -/
structure AtRest (node : Node) (usage : Usage) : Prop where
  closed : usage.Closed
  reaches : usage.Reaches node

/-- The stream is open, and a first part of the image was written to it. -/
structure Streaming (file : List UInt8) (node : Node) (position : ℕ) (usage : Usage) : Prop where
  image : usage.image = true
  stream : usage.stream = true
  reaches : usage.Reaches node
  sent : usage.sent = file.take position
  position_le : position ≤ file.length

/-- The waiting asks for the clock and for one object. -/
theorem uses_waitForFlashStatusOk {allowed : Op → Prop} (htime : allowed .time)
    (hsleep : ∀ seconds, allowed (.sleep seconds))
    (hread : allowed (.sdoRead node h1f57FlashStatus programNumber)) (timeout : ℚ) (fuel : ℕ) :
    (waitForFlashStatusOk node timeout fuel).Uses allowed := by
  refine Program.uses_bind (Program.uses_perform htime) fun (now : ℚ) ↦ ?_
  generalize 0xFFFFFFFF = status
  induction fuel generalizing status with
  | zero => trivial
  | succ fuel ih =>
    have hpoll : (pollOnce node).Uses allowed := uses_exceptException
      (Program.uses_bind (Program.uses_perform hread) fun _ ↦ trivial) fun _ ↦ trivial
    refine Program.uses_bind hpoll fun polled ↦ Program.uses_ite trivial ?_
    refine Program.uses_bind (Program.uses_perform htime) fun (now : ℚ) ↦
      Program.uses_ite trivial ?_
    exact Program.uses_bind (Program.uses_perform (hsleep _)) fun _ ↦ ih _

theorem AtRest.uses_wait (hrest : AtRest node usage) (timeout : ℚ) (fuel : ℕ) :
    (waitForFlashStatusOk node timeout fuel).Uses
      fun op ↦ Allows attached file usage op ∧ Still op :=
  uses_waitForFlashStatusOk ⟨hrest.closed, fun _ _ ↦ rfl⟩ (fun _ ↦ ⟨hrest.closed, fun _ _ ↦ rfl⟩)
    ⟨⟨hrest.closed, hrest.reaches, rfl, Or.inr rfl⟩, fun _ _ ↦ rfl⟩ timeout fuel

theorem AtRest.uses_readSwid (hrest : AtRest node usage) :
    (readSwid node).Uses fun op ↦ Allows attached file usage op ∧ Still op :=
  uses_exceptException (Program.uses_bind (Program.uses_perform
    ⟨⟨hrest.closed, hrest.reaches, rfl, Or.inl rfl⟩, fun _ _ ↦ rfl⟩) fun _ ↦ trivial)
    fun _ ↦ trivial

theorem AtRest.uses_setPreOperational (hrest : AtRest node usage) :
    (setPreOperational node).Uses fun op ↦ Allows attached file usage op ∧ Still op :=
  Program.uses_perform ⟨⟨hrest.closed, hrest.reaches⟩, fun _ _ ↦ rfl⟩

theorem AtRest.uses_programCtrl (hrest : AtRest node usage) {command : ℕ}
    (hcommand : command ∈
      [programCtrlStop, programCtrlClear, programCtrlStart, programCtrlConfirm]) :
    (programCtrl node command).Uses fun op ↦ Allows attached file usage op ∧ Still op :=
  Program.uses_perform ⟨⟨hrest.closed, hrest.reaches, rfl, rfl, hcommand⟩, fun _ _ ↦ rfl⟩

/-- The loop writes the next piece of the image each time. -/
theorem keeps_writeChunks (binSize fuel : ℕ) {position : ℕ}
    (hstreaming : Streaming file node position usage) :
    Keeps attached skipsConfirm file usage (writeChunks binSize fuel position)
      (fun _ after ↦ ∃ position, Streaming file node position after)
      (fun after ↦ ∃ position, Streaming file node position after) := by
  induction fuel generalizing position usage with
  | zero => exact follows_unfinished
  | succ fuel ih =>
    have hlength : position = usage.sent.length := by
      rw [hstreaming.sent, List.length_take, min_eq_left hstreaming.position_le]
    refine keeps_ask_bind ⟨hstreaming.image, hstreaming.stream, hlength, rfl⟩
      (fun _ ↦ ⟨position, hstreaming⟩) fun (chunk : List UInt8) hchunk ↦ ?_
    refine follows_ite (fun _ ↦ follows_pure ⟨position, hstreaming⟩) fun hmore ↦ ?_
    have hpiece : chunk = (file.drop position).take (defaultBufferSize / 2) := hchunk
    have hsize : chunk.length ≤ defaultBufferSize / 2 := hpiece ▸ List.length_take_le _ _
    have hnext : usage.sent ++ chunk = file.take (position + chunk.length) := by
      rw [hstreaming.sent, take_append_read hpiece]
    have hfront : usage.sent ++ chunk <+: file := hnext ▸ List.take_prefix _ _
    have hend : position + chunk.length ≤ file.length := by
      have hle := hfront.length_le
      rwa [List.length_append, ← hlength] at hle
    refine keeps_ask_bind ⟨hstreaming.stream, hmore, hsize, hfront⟩
      (fun _ ↦ ⟨position, hstreaming⟩) fun _ _ ↦ ?_
    have hlater : Streaming file node (position + chunk.length)
        { usage with sent := usage.sent ++ chunk } :=
      ⟨hstreaming.image, hstreaming.stream, hstreaming.reaches, hnext, hend⟩
    exact keeps_still_seq (uses_progress binSize) ⟨_, hlater⟩ fun _ ↦ ih hlater

/-- The image is open and the stream is not. -/
structure ImageOpen (node : Node) (usage : Usage) : Prop where
  image : usage.image = true
  stream : usage.stream = false
  reaches : usage.Reaches node

/-- A clean-up, whether the body returned or raised. -/
theorem keeps_ensuring {α : Type} {script : Script α} {cleanup : Script Unit}
    {during after : Usage → Prop}
    (hbody : Keeps attached skipsConfirm file usage script (fun _ ↦ during) during)
    (hcleanup : ∀ usage, during usage →
      Keeps attached skipsConfirm file usage cleanup (fun _ ↦ after) after) :
    Keeps attached skipsConfirm file usage (script.ensuring cleanup) (fun _ ↦ after) after :=
  follows_ensuring hbody (fun _ ↦ hcleanup) fun _ ↦ hcleanup

/-- The inner `with` statement closes the stream. -/
theorem keeps_stream (fuel : ℕ) (hopen : ImageOpen node usage) :
    Keeps attached skipsConfirm file usage (do
      ask (.streamOpen node h1f50ProgramData programNumber defaultBufferSize file.length)
      Program.ensuring (writeChunks file.length fuel 0) (ask .streamClose)) (fun _ ↦ ImageOpen node)
      (ImageOpen node) := by
  refine keeps_ask_bind ⟨hopen.image, hopen.stream, hopen.reaches, rfl, rfl, rfl⟩ (fun _ ↦ hopen)
    fun _ _ ↦ ?_
  have hstreaming : Streaming file node 0 { usage with stream := true, sent := [] } :=
    ⟨hopen.image, rfl, hopen.reaches, rfl, Nat.zero_le _⟩
  refine keeps_ensuring (keeps_writeChunks file.length fuel hstreaming) ?_
  rintro usage ⟨position, hstreaming⟩
  exact follows_perform hstreaming.stream (fun _ _ ↦ ⟨hstreaming.image, rfl, hstreaming.reaches⟩)
    fun _ _ ↦ ⟨hstreaming.image, rfl, hstreaming.reaches⟩

/-- The outer `with` statement closes the image. -/
theorem keeps_downloadFirmware (binPath : String) (fuel : ℕ) (hrest : AtRest node usage) :
    Keeps attached skipsConfirm file usage (downloadFirmware node binPath fuel)
      (fun _ ↦ AtRest node) (AtRest node) := by
  refine keeps_ask_bind hrest.closed (fun _ ↦ hrest) fun (binSize : ℕ) hsize ↦ ?_
  obtain rfl : binSize = file.length := hsize
  refine keeps_ask_bind ⟨hrest.closed, hrest.reaches.2⟩ (fun _ ↦ hrest) fun _ _ ↦ ?_
  have hopen : ImageOpen node { usage with image := true } := ⟨rfl, hrest.closed.2, hrest.reaches⟩
  refine keeps_ensuring (keeps_stream fuel hopen) fun usage hopen ↦ ?_
  exact follows_perform ⟨hopen.image, hopen.stream⟩ (fun _ _ ↦ ⟨⟨rfl, hopen.stream⟩, hopen.reaches⟩)
    fun _ _ ↦ ⟨⟨rfl, hopen.stream⟩, hopen.reaches⟩

theorem keeps_checkStatus_seq {rest : Script Unit} (failure : String) (status : ℕ)
    (hrest : AtRest node usage)
    (hnext : Keeps attached skipsConfirm file usage rest (fun _ ↦ AtRest node) (AtRest node)) :
    Keeps attached skipsConfirm file usage (checkStatus failure status >>= fun _ ↦ rest)
      (fun _ ↦ AtRest node) (AtRest node) :=
  keeps_still_seq (uses_checkStatus failure status) hrest fun _ ↦ hnext

/-- The update leaves the image and the stream closed, however it ends. -/
theorem keeps_updateProgram (binPath : String) (fuel : ℕ) (hrest : AtRest node usage) :
    Keeps attached skipsConfirm file usage (updateProgram node binPath fuel) (fun _ ↦ AtRest node)
      (AtRest node) := by
  refine keeps_still_seq hrest.uses_readSwid hrest fun _ ↦ ?_
  refine keeps_still_seq (hrest.uses_wait defaultTimeout fuel) hrest fun _ ↦ ?_
  refine keeps_still_seq hrest.uses_setPreOperational hrest fun _ ↦ ?_
  refine keeps_still_seq (hrest.uses_programCtrl (by decide)) hrest fun _ ↦ ?_
  refine keeps_still_seq (hrest.uses_programCtrl (by decide)) hrest fun _ ↦ ?_
  refine keeps_still_seq (hrest.uses_wait defaultTimeout fuel) hrest fun _ ↦ ?_
  refine keeps_checkStatus_seq _ _ hrest ?_
  refine follows_bind (keeps_downloadFirmware binPath fuel hrest) fun _ usage hrest ↦ ?_
  refine keeps_still_seq (hrest.uses_wait defaultTimeout fuel) hrest fun _ ↦ ?_
  refine keeps_checkStatus_seq _ _ hrest ?_
  refine keeps_still_seq hrest.uses_readSwid hrest fun _ ↦ ?_
  refine keeps_still_seq (hrest.uses_programCtrl (by decide)) hrest fun _ ↦ ?_
  refine keeps_still_seq (uses_exceptException (Program.uses_perform
    ⟨⟨hrest.closed, hrest.reaches⟩, fun _ _ ↦ rfl⟩) fun _ ↦ trivial) hrest fun _ ↦ ?_
  refine keeps_still_seq hrest.uses_setPreOperational hrest fun _ ↦ ?_
  refine keeps_still_seq (hrest.uses_programCtrl (by decide)) hrest fun _ ↦ ?_
  exact follows_perform ⟨hrest.closed, hrest.reaches.2⟩ (fun _ _ ↦ hrest) fun _ _ ↦ hrest

end Update

/-! ### The two programs -/

section Programs

variable {attached skipsConfirm : Bool} {file : List UInt8} {usage : Usage}

/-- Nothing is held, and the network is as it was at the start. -/
def Released (attached : Bool) (usage : Usage) : Prop := usage.Closed ∧ usage.connected = attached

/-- The image is there and the user has agreed. -/
structure MayFlash (attached : Bool) (usage : Usage) : Prop where
  waits : usage.Waits
  found : usage.found = true
  agreed : usage.agreed = true
  connected : usage.connected = attached

theorem keeps_flashFirmware (nodeId : ℤ) (binPath interface : String) (baudrate : ℤ) (fuel : ℕ)
    (hmay : MayFlash false usage) :
    Keeps false skipsConfirm file usage (flashFirmware nodeId binPath interface baudrate fuel)
      (fun _ ↦ Released false) (Released false) := by
  have hreleased : Released false usage := ⟨hmay.waits.1, hmay.connected⟩
  refine keeps_ask_bind ⟨hmay.waits, hmay.found, hmay.agreed⟩ (fun _ ↦ hreleased)
    fun (flashNode : Node) _ ↦ ?_
  refine keeps_ask_bind ⟨hmay.waits.1, Option.some_ne_none _, hmay.connected⟩
    (fun _ ↦ hreleased) fun _ _ ↦ ?_
  have hrest : AtRest flashNode { usage.added flashNode with connected := true } :=
    ⟨hmay.waits.1, rfl, rfl⟩
  refine keeps_ensuring (keeps_updateProgram binPath fuel hrest) fun usage hrest ↦ ?_
  exact follows_perform ⟨hrest.closed, hrest.reaches.2, rfl⟩ (fun _ _ ↦ ⟨hrest.closed, rfl⟩)
    fun _ _ ↦ ⟨hrest.closed, rfl⟩

/-- The handler reports the error, and the exit code is 1. -/
theorem keeps_tryFlash (args : Args) (binPath interface : String) (baudrate : ℤ) (fuel : ℕ)
    (hmay : MayFlash false usage) :
    Keeps false skipsConfirm file usage (tryFlash args binPath interface baudrate fuel)
      (fun _ ↦ Released false) (Released false) := by
  refine keeps_exceptException (follows_bind
    (keeps_flashFirmware args.nodeId binPath interface baudrate fuel hmay) fun _ _ hreleased ↦
      follows_pure hreleased) (fun error after hreleased ↦ ?_) fun _ hreleased ↦ hreleased
  exact keeps_ask_bind hreleased.1 (fun _ ↦ hreleased) fun _ _ ↦ follows_pure hreleased

theorem keeps_runUpdate (args : Args) (binPath interface : String) (baudrate : ℤ) (fuel : ℕ)
    (hwaits : usage.Waits) (hagreed : args.yes = true → usage.agreed = true)
    (hconnected : usage.connected = false) :
    Keeps false skipsConfirm file usage (runUpdate args binPath interface baudrate fuel)
      (fun _ ↦ Released false) (Released false) := by
  refine keeps_ask_bind hwaits (fun _ ↦ ⟨hwaits.1, hconnected⟩) fun (found : Bool) _ ↦ ?_
  cases found with
  | false => exact follows_pure ⟨hwaits.1, hconnected⟩
  | true =>
    refine keeps_ask_bind hwaits.1 (fun _ ↦ ⟨hwaits.1, hconnected⟩) fun _ _ ↦ ?_
    have hconfirm : Keeps false skipsConfirm file (usage.looked true) (confirm args)
        (fun confirmed after ↦ Released false after ∧ (confirmed = true → MayFlash false after))
        (Released false) := by
      unfold confirm
      cases hyes : args.yes with
      | true =>
        exact follows_pure ⟨⟨hwaits.1, hconnected⟩, fun _ ↦ ⟨hwaits, rfl, hagreed hyes, hconnected⟩⟩
      | false =>
        refine follows_perform hwaits (fun (confirmed : Bool) _ ↦ ⟨⟨hwaits.1, hconnected⟩, ?_⟩)
          fun _ _ ↦ ⟨hwaits.1, hconnected⟩
        rintro rfl
        exact ⟨hwaits, rfl, Bool.or_true _, hconnected⟩
    refine follows_bind hconfirm fun confirmed after hafter ↦ ?_
    cases confirmed with
    | false => exact follows_pure hafter.1
    | true => exact keeps_tryFlash args binPath interface baudrate fuel (hafter.2 rfl)

/-- `--yes` was given. -/
def saysYes : CommandLine → Bool
  | .accepted args => args.yes
  | .help | .refused => false

/-- `main` of `co-firmware-update.py`. -/
theorem keeps_main (abspath : String → String) (commandLine : CommandLine) (configFile : ConfigFile)
    (fuel : ℕ) :
    Keeps false (saysYes commandLine) file { agreed := saysYes commandLine, connected := false }
      (main abspath commandLine configFile fuel) (fun _ ↦ Released false) (Released false) := by
  have hreleased : ∀ agreed, Released false { agreed, connected := false } :=
    fun _ ↦ ⟨⟨rfl, rfl⟩, rfl⟩
  cases commandLine with
  | help => exact follows_pure (hreleased _)
  | refused => exact follows_pure (hreleased _)
  | accepted args =>
    refine keeps_still_seq (uses_pyOr _ _ _ _) (hreleased _) fun interface ↦ ?_
    refine keeps_still_seq (uses_pyOr _ _ _ _) (hreleased _) fun baudrate ↦ ?_
    split
    · exact keeps_runUpdate args _ _ _ fuel ⟨⟨rfl, rfl⟩, rfl⟩ id rfl
    · exact follows_pure (hreleased _)

/-- A run has kept the protocol, and when it has ended everything is released. -/
structure Kept {α : Type} (attached skipsConfirm : Bool) (file : List UInt8)
    (run : List (Event host) × Outcome host α) : Prop where
  obeyed : (deviceUse attached skipsConfirm file).Obeyed run.1
  released : run.2 ≠ .running →
    Released attached ((deviceUse attached skipsConfirm file).usage run.1)

end Programs

end CanopenTools.Firmware.DeviceUse
