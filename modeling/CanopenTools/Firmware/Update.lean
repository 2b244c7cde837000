import CanopenTools.Tools.Host

/-!
# The firmware update

`flash_firmware` of `co-firmware-update.py`, and what it shares with the one of `co.py`. Both run
the same sequence of steps on a node with a synthetic object dictionary, `updateProgram`. This one
connects a network, disconnects it in a `finally` and lets an exception through.

Setting the SDO timeouts and printing are left out, but for the division of the progress by the
size: where `getsize` answered 0 for a file with content it raises `ZeroDivisionError` (`progress`).
-/

set_option autoImplicit false
set_option relaxedAutoImplicit false

namespace CanopenTools.Firmware

open Effects Tools

/-! ### Constants -/

def h1f50ProgramData : ℕ := 0x1F50

def h1f51ProgramCtrl : ℕ := 0x1F51

def h1f56ProgramSwid : ℕ := 0x1F56

def h1f57FlashStatus : ℕ := 0x1F57

def programNumber : ℕ := 1

def programCtrlStop : ℕ := 0x00

def programCtrlStart : ℕ := 0x01

def programCtrlClear : ℕ := 0x03

def programCtrlConfirm : ℕ := 0x80

def defaultTimeout : ℚ := 60

def defaultBufferSize : ℕ := 1024

/-! ### The operations under their names -/

section Operations

variable (flashNode : Node)

/-- `flash_node.sdo[index][PROGRAM_NUMBER].raw`. -/
def sdoRead (index : ℕ) : Script ℕ := ask (.sdoRead flashNode index programNumber)

/-- `flash_node.sdo[H1F51_PROGRAM_CTRL][PROGRAM_NUMBER].raw = command`. -/
def programCtrl (command : ℕ) : Script Unit :=
  ask (.sdoWrite flashNode h1f51ProgramCtrl programNumber command)

/-- `flash_node.nmt.state = 'PRE-OPERATIONAL'`. -/
def setPreOperational : Script Unit := ask (.setPreOperational flashNode)

/-! ### The flash status -/

/-- The `try` of a poll; an exception is passed over. -/
def pollOnce : Script (Option ℕ) :=
  exceptException (do
    let value ← sdoRead flashNode h1f57FlashStatus
    pure (some value)) fun _ ↦ pure none

/-- The loop of `wait_for_flash_status_ok`, with the status read last. -/
def pollFlashStatus (endTime : ℚ) : ℕ → ℕ → Script ℕ
  | 0, _ => .unfinished
  | fuel + 1, status => do
    let polled ← pollOnce flashNode
    if polled = some 0 then pure 0
    else do
      let status := polled.getD status
      let now : ℚ ← ask .time
      if now > endTime then pure status
      else do
        ask (.sleep (1 / 2))
        pollFlashStatus endTime fuel status

/-- `wait_for_flash_status_ok`. -/
def waitForFlashStatusOk (timeout : ℚ) (fuel : ℕ) : Script ℕ := do
  let now : ℚ ← ask .time
  pollFlashStatus flashNode (now + timeout) fuel 0xFFFFFFFF

/-- A number as `:08x` formats it. -/
def hex08 (number : ℕ) : String :=
  let digits := Nat.toDigits 16 number
  String.ofList (List.replicate (8 - digits.length) '0' ++ digits)

/-- `if status != 0: raise ValueError(f"{failure}: status 0x{status:08x}")`. -/
def checkStatus (failure : String) (status : ℕ) : Script Unit :=
  if status ≠ 0 then .raise (.exception (failure ++ ": status 0x" ++ hex08 status)) else pure ()

/-! ### The download -/

/-- `total_sent / bin_size` for the printed progress. -/
def progress (binSize : ℕ) : Script Unit :=
  if binSize = 0 then .raise (.exception "division by zero") else pure ()

/-- The loop that reads chunks of the file and writes them to the stream. -/
def writeChunks (binSize : ℕ) : ℕ → ℕ → Script Unit
  | 0, _ => .unfinished
  | fuel + 1, totalSent => do
    let chunk : List UInt8 ← ask (.fileRead totalSent (defaultBufferSize / 2))
    if chunk = [] then pure ()
    else do
      ask (.streamWrite chunk)
      progress binSize
      writeChunks binSize fuel (totalSent + chunk.length)

/-- Step 6: the size of the file and the two nested `with` statements around the loop. -/
def downloadFirmware (binPath : String) (fuel : ℕ) : Script Unit := do
  let binSize : ℕ ← ask (.getsize binPath)
  ask (.fileOpen binPath)
  Program.ensuring (do
      ask
        (.streamOpen flashNode h1f50ProgramData programNumber defaultBufferSize binSize)
      Program.ensuring (writeChunks binSize fuel 0) (ask .streamClose))
    (ask .fileClose)

/-! ### The update -/

/-- A read of the software ID of which only the printed value is used. -/
def readSwid : Script Unit :=
  exceptException (do
    let _ ← sdoRead flashNode h1f56ProgramSwid
    pure ()) fun _ ↦ pure ()

/-- The steps of both versions of `flash_firmware` on the flash node. -/
def updateProgram (binPath : String) (fuel : ℕ) : Script Unit := do
  readSwid flashNode
  let _ ← waitForFlashStatusOk flashNode defaultTimeout fuel
  setPreOperational flashNode
  programCtrl flashNode programCtrlStop
  programCtrl flashNode programCtrlClear
  let status ← waitForFlashStatusOk flashNode defaultTimeout fuel
  checkStatus "Flash clear failed" status
  downloadFirmware flashNode binPath fuel
  let status ← waitForFlashStatusOk flashNode defaultTimeout fuel
  checkStatus "Firmware download failed" status
  readSwid flashNode
  programCtrl flashNode programCtrlStart
  exceptException (ask (.waitForBootup flashNode defaultTimeout)) fun _ ↦ pure ()
  setPreOperational flashNode
  programCtrl flashNode programCtrlConfirm
  ask .reportSuccess

/-! ### The operations of an update -/

/-- What an update asks for: files, the clock and the flash node. It adds no node. -/
def InUpdate : Op → Prop
  | .getsize _ | .fileOpen _ | .fileRead _ _ | .fileClose | .time | .sleep _ | .sdoRead _ _ _
  | .sdoWrite _ _ _ _ | .setPreOperational _ | .waitForBootup _ _ | .streamOpen _ _ _ _ _
  | .streamWrite _ | .streamClose | .reportSuccess => True
  | _ => False

/-- What the waiting for the flash status asks for: the clock and reads of the flash node. -/
def Polls : Op → Prop
  | .time | .sleep _ | .sdoRead _ _ _ => True
  | _ => False

theorem Polls.inUpdate {op : Op} (hop : Polls op) : InUpdate op := by
  cases op <;> trivial

theorem uses_waitForFlashStatusOk (timeout : ℚ) (fuel : ℕ) :
    (waitForFlashStatusOk flashNode timeout fuel).Uses Polls := by
  refine Program.uses_bind (Program.uses_perform trivial) fun now ↦ ?_
  generalize 0xFFFFFFFF = status
  induction fuel generalizing status with
  | zero => trivial
  | succ fuel ih =>
    have hpoll : (pollOnce flashNode).Uses Polls := uses_exceptException
      (Program.uses_bind (Program.uses_perform trivial) fun _ ↦ trivial) fun _ ↦ trivial
    refine Program.uses_bind hpoll fun polled ↦ ?_
    by_cases hzero : polled = some 0
    · rw [if_pos hzero]
      trivial
    · rw [if_neg hzero]
      refine Program.uses_bind (Program.uses_perform trivial) fun now ↦ ?_
      split_ifs
      · trivial
      · exact Program.uses_bind (Program.uses_perform trivial) fun _ ↦ ih _

theorem uses_readSwid : (readSwid flashNode).Uses Polls := uses_exceptException
  (Program.uses_bind (Program.uses_perform trivial) fun _ ↦ trivial) fun _ ↦ trivial

theorem uses_progress {allowed : Op → Prop} (binSize : ℕ) : (progress binSize).Uses allowed := by
  unfold progress
  split_ifs <;> trivial

theorem uses_downloadFirmware (binPath : String) (fuel : ℕ) :
    (downloadFirmware flashNode binPath fuel).Uses InUpdate := by
  have hchunks : ∀ binSize totalSent, (writeChunks binSize fuel totalSent).Uses InUpdate := by
    intro binSize
    induction fuel with
    | zero => exact fun _ ↦ trivial
    | succ fuel ih =>
      refine fun totalSent ↦ Program.uses_bind (Program.uses_perform trivial)
        fun (chunk : List UInt8) ↦ ?_
      by_cases hempty : chunk = []
      · rw [if_pos hempty]
        trivial
      · rw [if_neg hempty]
        exact Program.uses_bind (Program.uses_perform trivial) fun _ ↦
          Program.uses_bind (uses_progress binSize) fun _ ↦ ih _
  refine Program.uses_bind (Program.uses_perform trivial) fun binSize ↦ ?_
  refine Program.uses_bind (Program.uses_perform trivial) fun _ ↦ ?_
  refine Program.uses_ensuring ?_ (Program.uses_perform trivial)
  exact Program.uses_bind (Program.uses_perform trivial) fun _ ↦
    Program.uses_ensuring (hchunks binSize 0) (Program.uses_perform trivial)

theorem uses_updateProgram (binPath : String) (fuel : ℕ) :
    (updateProgram flashNode binPath fuel).Uses InUpdate := by
  have hswid := (uses_readSwid flashNode).mono fun _ ↦ Polls.inUpdate
  have hwait := (uses_waitForFlashStatusOk flashNode defaultTimeout fuel).mono fun _ ↦
    Polls.inUpdate
  have hctrl : ∀ command, (programCtrl flashNode command).Uses InUpdate := fun _ ↦
    Program.uses_perform trivial
  have hcheck : ∀ failure status, (checkStatus failure status).Uses InUpdate := by
    intro failure status
    unfold checkStatus
    split_ifs <;> trivial
  refine Program.uses_bind hswid fun _ ↦ Program.uses_bind hwait fun _ ↦
    Program.uses_bind (Program.uses_perform trivial) fun _ ↦ Program.uses_bind (hctrl _) fun _ ↦
    Program.uses_bind (hctrl _) fun _ ↦ Program.uses_bind hwait fun _ ↦
    Program.uses_bind (hcheck _ _) fun _ ↦ ?_
  refine Program.uses_bind (uses_downloadFirmware flashNode binPath fuel) fun _ ↦
    Program.uses_bind hwait fun _ ↦ Program.uses_bind (hcheck _ _) fun _ ↦
    Program.uses_bind hswid fun _ ↦ Program.uses_bind (hctrl _) fun _ ↦ ?_
  refine Program.uses_bind (uses_exceptException (Program.uses_perform trivial) fun _ ↦ trivial)
    fun _ ↦ Program.uses_bind (Program.uses_perform trivial) fun _ ↦
    Program.uses_bind (hctrl _) fun _ ↦ Program.uses_perform trivial

end Operations

/-- `flash_firmware` of `co-firmware-update.py`. -/
def flashFirmware (nodeId : ℤ) (binPath interface : String) (baudrate : ℤ) (fuel : ℕ) :
    Script Unit := do
  let flashNode : Node ← ask (.networkAddNew nodeId)
  ask (.networkConnect interface baudrate)
  Program.ensuring (updateProgram flashNode binPath fuel) (ask .networkDisconnect)

end CanopenTools.Firmware
