import CanopenTools.Interactive.Menu
import Mathlib.Algebra.GroupWithZero.Nat

/-!
# The order of the firmware update

What a history of `flash_firmware` must contain before the program on the device is started. The
steps are spelled out as nested `After` assertions: `Cleared` is a successful STOP, then a
successful CLEAR, then a flash status of 0, and `Downloaded` a transfer of the whole file between an
open and a successful close of the stream behind that. `updateContract` guards START with
`ReadyToStart`, CONFIRM with `Started` and the report of success with `Confirmed`.

Each step of the update has one lemma about its weakest precondition, `wp_updateProgram` chains
them, and `flashFirmware_ordered` is the result for both versions of `flash_firmware`: whatever the
device, the bus, the user and the host do, and wherever a run stops, the order is kept.
-/

set_option autoImplicit false
set_option relaxedAutoImplicit false

namespace CanopenTools.Firmware

open Effects Tools

open Effects.Program (wp_seq wp_perform wp_perform_stable wp_mono wp_ensuring wp_sound)

/-! ### The order -/

/-- A successful write of a program control command to `0x1F51:1`. -/
def Wrote (node : Node) (command : ℕ) : Event host → Prop
  | ⟨.sdoWrite other index subindex value, .ok _⟩ =>
    other = node ∧ index = h1f51ProgramCtrl ∧ subindex = programNumber ∧ value = command
  | _ => False

/-- A read of `0x1F57:1` that returned 0. -/
def ReadZero (node : Node) : Event host → Prop
  | ⟨.sdoRead other index subindex, .ok status⟩ =>
    other = node ∧ index = h1f57FlashStatus ∧ subindex = programNumber ∧ status = (0 : ℕ)
  | _ => False

/-- A successful open of the stream to `0x1F50:1` with the announced size. -/
def Opened (node : Node) (size : ℕ) : Event host → Prop
  | ⟨.streamOpen other index subindex _ announced, .ok _⟩ =>
    other = node ∧ index = h1f50ProgramData ∧ subindex = programNumber ∧ announced = size
  | _ => False

/-- A read of the file or a successful write to the stream. -/
def Transferred : Event host → Prop
  | ⟨.fileRead _ _, _⟩ => True
  | ⟨.streamWrite _, .ok _⟩ => True
  | _ => False

/-- A successful close of the stream. -/
def Closed : Event host → Prop
  | ⟨.streamClose, .ok _⟩ => True
  | _ => False

/-- The chunk that an event writes to the stream. -/
def writtenChunk : Event host → Option (List UInt8)
  | ⟨.streamWrite chunk, _⟩ => some chunk
  | _ => none

/-- The chunks that a history writes to the stream. -/
def writtenChunks (history : List (Event host)) : List (List UInt8) :=
  history.filterMap writtenChunk

section Order

variable (file : List UInt8) (node : Node)

/-- The program was stopped, then cleared, and then the flash status was 0. -/
def Cleared : List (Event host) → Prop :=
  After (After (After (fun _ ↦ True) (Wrote node programCtrlStop)) (Wrote node programCtrlClear))
    (ReadZero node)

/-- After the program was cleared, the whole file was written to the stream, with its size announced
and the stream closed without an error. -/
def Downloaded (history : List (Event host)) : Prop :=
  ∃ before size opened transfer closed after,
    history = before ++ opened :: (transfer ++ closed :: after) ∧ Cleared node before ∧
      Opened node size opened ∧ (∀ event ∈ transfer, Transferred event) ∧
      (writtenChunks transfer).flatten = file ∧
      ((writtenChunks transfer).map List.length).sum = size ∧ Closed closed

/-- The file was downloaded and then the flash status was 0. -/
def ReadyToStart : List (Event host) → Prop := After (Downloaded file node) (ReadZero node)

/-- The program was started. -/
def Started : List (Event host) → Prop := After (fun _ ↦ True) (Wrote node programCtrlStart)

/-- The program was confirmed. -/
def Confirmed : List (Event host) → Prop := After (fun _ ↦ True) (Wrote node programCtrlConfirm)

/-- A command is written only under its condition. -/
def CommandGuard (command : ℕ) (history : List (Event host)) : Prop :=
  (command = programCtrlStart → ReadyToStart file node history) ∧
    (command = programCtrlConfirm → Started node history)

/-- The update relies on a file that is not modified. Commands are written under their conditions,
and success is reported after a successful CONFIRM. -/
def updateContract : Contract host where
  rely := fun _ ↦ FileUnmodified file
  guard := fun history op ↦
    match op with
    | .sdoWrite node index subindex value =>
      index = h1f51ProgramCtrl → subindex = programNumber → CommandGuard file node value history
    | .reportSuccess => ∃ node, Confirmed node history
    | _ => True

theorem stable_downloaded : Stable (Downloaded file node) := by
  rintro history more ⟨before, size, opened, transfer, closed, after, rfl, hrest⟩
  exact ⟨before, size, opened, transfer, closed, after ++ more, by simp, hrest⟩

end Order

/-! ### The steps of the update -/

section Steps

variable {file : List UInt8} {node : Node} {history : List (Event host)}

/-- Reading the software ID keeps what is known. -/
theorem wp_readSwid {assertion : List (Event host) → Prop} (hstable : Stable assertion)
    (hhistory : assertion history) :
    (readSwid node).wp (updateContract file) (fun _ ↦ assertion) (fun _ ↦ assertion) history := by
  refine wp_exceptException assertion ?_ (fun _ _ hafter ↦ hafter) fun _ hafter ↦ hafter
  exact wp_seq (wp_perform_stable hstable trivial hhistory) fun _ _ hafter ↦ hafter

/-- A poll that returns 0 has read 0. -/
theorem wp_pollOnce {assertion : List (Event host) → Prop} (hstable : Stable assertion)
    (hhistory : assertion history) :
    (pollOnce node).wp (updateContract file)
      (fun polled after ↦ assertion after ∧
        (polled = some 0 → After assertion (ReadZero node) after))
      (fun _ ↦ assertion) history := by
  refine wp_exceptException assertion ?_ ?_ fun _ hafter ↦ hafter
  · refine wp_seq (wp_perform trivial (fun result _ ↦ ?_) fun _ _ ↦ hstable _ _ hhistory)
      fun _ _ hafter ↦ hafter
    refine ⟨hstable _ _ hhistory, fun hzero ↦ after_concat hhistory ?_⟩
    exact ⟨rfl, rfl, rfl, Option.some.inj hzero⟩
  · exact fun _ _ hafter ↦ ⟨hafter, fun hnone ↦ absurd hnone (Option.some_ne_none 0).symm⟩

/-- The polling loop returns 0 only after a read of 0. -/
theorem wp_pollFlashStatus {assertion : List (Event host) → Prop} (hstable : Stable assertion)
    (endTime : ℚ) (fuel : ℕ) {status : ℕ} (hstatus : status ≠ 0) (hhistory : assertion history) :
    (pollFlashStatus node endTime fuel status).wp (updateContract file)
      (fun status after ↦ assertion after ∧ (status = 0 → After assertion (ReadZero node) after))
      (fun _ ↦ assertion) history := by
  induction fuel generalizing status history with
  | zero => trivial
  | succ fuel ih =>
    refine wp_seq (wp_pollOnce hstable hhistory) fun polled after hafter ↦ ?_
    by_cases hzero : polled = some 0
    · rw [if_pos hzero]
      exact ⟨hafter.1, fun _ ↦ hafter.2 hzero⟩
    · have hvalue : polled.getD status ≠ 0 := by
        cases polled with
        | none => exact hstatus
        | some value => exact fun heq ↦ hzero (congrArg some heq)
      rw [if_neg hzero]
      refine wp_seq (wp_perform_stable hstable trivial hafter.1) fun now after hafter ↦ ?_
      split_ifs
      · exact ⟨hafter, fun heq ↦ absurd heq hvalue⟩
      · exact wp_seq (wp_perform_stable hstable trivial hafter) fun _ _ hafter ↦ ih hvalue hafter

/-- `wait_for_flash_status_ok` returns 0 only after a read of 0 that it made. -/
theorem wp_waitForFlashStatusOk {assertion : List (Event host) → Prop}
    (hstable : Stable assertion) (timeout : ℚ) (fuel : ℕ) (hhistory : assertion history) :
    (waitForFlashStatusOk node timeout fuel).wp (updateContract file)
      (fun status after ↦ assertion after ∧ (status = 0 → After assertion (ReadZero node) after))
      (fun _ ↦ assertion) history :=
  wp_seq (wp_perform_stable hstable trivial hhistory) fun _ _ hafter ↦
    wp_pollFlashStatus hstable _ fuel (by decide) hafter

/-- A checked wait: the rest of the update runs only after a read of 0. -/
theorem wp_waitAndCheck {assertion : List (Event host) → Prop} (hstable : Stable assertion)
    (timeout : ℚ) (fuel : ℕ) (failure : String) {next : Script Unit}
    (hhistory : assertion history)
    (hnext : ∀ history, After assertion (ReadZero node) history →
      next.wp (updateContract file) (fun _ _ ↦ True) (fun _ _ ↦ True) history) :
    (do
      let status ← waitForFlashStatusOk node timeout fuel
      checkStatus failure status
      next).wp (updateContract file) (fun _ _ ↦ True) (fun _ _ ↦ True) history := by
  refine wp_seq (wp_mono (fun _ _ hafter ↦ hafter) (fun _ _ _ ↦ trivial)
    (wp_waitForFlashStatusOk hstable timeout fuel hhistory)) fun status after hafter ↦ ?_
  unfold checkStatus
  split_ifs with hstatus
  · trivial
  · exact hnext after (hafter.2 (not_not.mp hstatus))

/-- A command is written under its condition and is then in the history. -/
theorem wp_programCtrl (assertion : List (Event host) → Prop) {command : ℕ}
    (hguard : CommandGuard file node command history) (hhistory : assertion history) :
    (programCtrl node command).wp (updateContract file)
      (fun _ ↦ After assertion (Wrote node command)) (fun _ _ ↦ True) history :=
  wp_perform (fun _ _ ↦ hguard) (fun _ _ ↦ after_concat hhistory ⟨rfl, rfl, rfl, rfl⟩)
    fun _ _ ↦ trivial

/-- STOP and CLEAR have no condition. -/
theorem commandGuard_of_ne {command : ℕ} (hstart : command ≠ programCtrlStart)
    (hconfirm : command ≠ programCtrlConfirm) : CommandGuard file node command history :=
  ⟨fun heq ↦ absurd heq hstart, fun heq ↦ absurd heq hconfirm⟩

/-! ### The download -/

/-- The first part of the file, up to a position, was written to the stream since a point of the
history. -/
def Written (file : List UInt8) (start : List (Event host)) (position : ℕ)
    (history : List (Event host)) : Prop :=
  ∃ transfer, history = start ++ transfer ∧ (∀ event ∈ transfer, Transferred event) ∧
    (writtenChunks transfer).flatten = file.take position

theorem written_start (start : List (Event host)) : Written file start 0 start :=
  ⟨[], (List.append_nil start).symm, fun _ hevent ↦ absurd hevent List.not_mem_nil, rfl⟩

/-- One more transfer event. -/
theorem Written.concat {start : List (Event host)} {position next : ℕ}
    (hwritten : Written file start position history) {event : Event host}
    (hevent : Transferred event)
    (hnext : file.take position ++ (writtenChunk event).getD [] = file.take next) :
    Written file start next (history ++ [event]) := by
  obtain ⟨transfer, rfl, hall, hflatten⟩ := hwritten
  refine ⟨transfer ++ [event], by rw [List.append_assoc], ?_, ?_⟩
  · intro other hother
    rcases List.mem_append.mp hother with hold | hnew
    · exact hall other hold
    · rwa [List.mem_singleton.mp hnew]
  · rw [← hnext, ← hflatten, writtenChunks, writtenChunks, List.filterMap_append,
      List.flatten_append]
    cases hchunk : writtenChunk event <;> simp [hchunk]

/-- A read that returns nothing is made at the end of the file. -/
theorem length_le_of_read_nil {position size : ℕ} (hsize : size ≠ 0)
    (hread : (file.drop position).take size = []) : file.length ≤ position := by
  rw [List.take_eq_nil_iff, List.drop_eq_nil_iff] at hread
  exact hread.resolve_left hsize

/-- A chunk read behind a first part of the file makes a longer first part. -/
theorem take_append_read {chunk : List UInt8} {position size : ℕ}
    (hchunk : chunk = (file.drop position).take size) :
    file.take position ++ chunk = file.take (position + chunk.length) := by
  have hlength : chunk = (file.drop position).take chunk.length := by
    conv_lhs => rw [hchunk]
    rw [hchunk, List.length_take, List.take_eq_take_iff]
    omega
  rw [List.take_add, ← hlength]

/-- The printed progress changes nothing. -/
theorem wp_progress {assertion : List (Event host) → Prop} (binSize : ℕ)
    (hhistory : assertion history) :
    (progress binSize).wp (updateContract file) (fun _ ↦ assertion) (fun _ _ ↦ True) history := by
  unfold progress
  split_ifs
  · trivial
  · exact hhistory

/-- The chunk loop returns only when the whole file was written. -/
theorem wp_writeChunks {start : List (Event host)} (binSize fuel : ℕ) {totalSent : ℕ}
    (hwritten : Written file start totalSent history) :
    (writeChunks binSize fuel totalSent).wp (updateContract file)
      (fun _ after ↦ Written file start file.length after) (fun _ _ ↦ True) history := by
  induction fuel generalizing totalSent history with
  | zero => trivial
  | succ fuel ih =>
    have hread : (ask (.fileRead totalSent (defaultBufferSize / 2))).wp (updateContract file)
        (fun chunk after ↦ chunk = (file.drop totalSent).take (defaultBufferSize / 2) ∧
          Written file start totalSent after) (fun _ _ ↦ True) history :=
      wp_perform trivial
        (fun chunk hchunk ↦ ⟨hchunk, hwritten.concat trivial (List.append_nil _)⟩)
        fun _ _ ↦ trivial
    refine wp_seq hread fun chunk after hafter ↦ ?_
    obtain ⟨hchunk, hafter⟩ := hafter
    by_cases hempty : chunk = ([] : List UInt8)
    · -- The file has no more bytes, so everything was written.
      have hend : file.length ≤ totalSent :=
        length_le_of_read_nil (by decide) (hchunk.symm.trans hempty)
      obtain ⟨transfer, hsplit, hall, hflatten⟩ := hafter
      rw [if_pos hempty]
      refine ⟨transfer, hsplit, hall, ?_⟩
      rw [hflatten, List.take_of_length_le hend, List.take_length]
    · have hwrite : (ask (.streamWrite chunk)).wp (updateContract file)
          (fun _ after ↦ Written file start (totalSent + chunk.length) after) (fun _ _ ↦ True)
          after :=
        wp_perform trivial
          (fun _ _ ↦ hafter.concat trivial (take_append_read hchunk)) fun _ _ ↦ trivial
      rw [if_neg hempty]
      refine wp_seq hwrite fun _ _ hmore ↦ ?_
      exact wp_seq (wp_progress binSize hmore) fun _ _ hmore ↦ ih hmore

/-- A successful close behind the whole file completes the download. -/
theorem downloaded_of_written {before : List (Event host)} {opened closed : Event host}
    (hbefore : Cleared node before) (hopened : Opened node file.length opened)
    (hwritten : Written file (before ++ [opened]) file.length history) (hclosed : Closed closed) :
    Downloaded file node (history ++ [closed]) := by
  obtain ⟨transfer, rfl, hall, hflatten⟩ := hwritten
  rw [List.take_length] at hflatten
  refine ⟨before, file.length, opened, transfer, closed, [], by simp, hbefore, hopened, hall,
    hflatten, ?_, hclosed⟩
  rw [← List.length_flatten, hflatten]

/-- The `with` statement of the stream. -/
theorem wp_stream {before : List (Event host)} (fuel : ℕ) (hbefore : Cleared node before) :
    (do
      ask (.streamOpen node h1f50ProgramData programNumber defaultBufferSize file.length)
      Program.ensuring (writeChunks file.length fuel 0) (ask .streamClose)).wp (updateContract file)
        (fun _ ↦ Downloaded file node) (fun _ _ ↦ True) before := by
  have hopen : (ask (.streamOpen node h1f50ProgramData programNumber defaultBufferSize
      file.length)).wp (updateContract file)
        (fun _ after ↦ ∃ opened, Opened node file.length opened ∧
          Written file (before ++ [opened]) 0 after) (fun _ _ ↦ True) before :=
    wp_perform trivial (fun result _ ↦ ⟨⟨.streamOpen .., .ok result⟩, ⟨rfl, rfl, rfl, rfl⟩,
      written_start _⟩) fun _ _ ↦ trivial
  refine wp_seq hopen fun _ after hafter ↦ ?_
  obtain ⟨opened, hopened, hstart⟩ := hafter
  refine (wp_ensuring _ _).mpr (wp_mono (fun _ after hwritten ↦ ?_) (fun _ after _ ↦ ?_)
    (wp_writeChunks _ fuel hstart))
  · exact wp_perform trivial
      (fun _ _ ↦ downloaded_of_written hbefore hopened hwritten trivial) fun _ _ ↦ trivial
  · exact wp_perform trivial (fun _ _ ↦ trivial) fun _ _ ↦ trivial

/-- The download reaches its end only when the whole file was written, with its size announced and
the stream closed without an error. -/
theorem wp_downloadFirmware (binPath : String) (fuel : ℕ) (hhistory : Cleared node history) :
    (downloadFirmware node binPath fuel).wp (updateContract file)
      (fun _ ↦ Downloaded file node) (fun _ _ ↦ True) history := by
  have hstable : Stable (Cleared node) := stable_after _ _
  have hsize : (ask (.getsize binPath)).wp (updateContract file)
      (fun size after ↦ size = file.length ∧ Cleared node after) (fun _ _ ↦ True) history :=
    wp_perform trivial (fun size hsize ↦ ⟨hsize, hstable _ _ hhistory⟩) fun _ _ ↦ trivial
  refine wp_seq hsize fun binSize after hafter ↦ ?_
  obtain ⟨rfl, hafter⟩ := hafter
  refine wp_seq (wp_perform trivial (fun _ _ ↦ hstable _ _ hafter) fun _ _ ↦ trivial)
    fun _ after hafter ↦ ?_
  refine (wp_ensuring _ _).mpr (wp_mono (fun _ after hdownloaded ↦ ?_) (fun _ after _ ↦ ?_)
    (wp_stream fuel hafter))
  · exact wp_perform trivial (fun _ _ ↦ stable_downloaded file node _ _ hdownloaded)
      fun _ _ ↦ trivial
  · exact wp_perform trivial (fun _ _ ↦ trivial) fun _ _ ↦ trivial

/-! ### The update -/

/-- Every step of the update is made in the order. -/
theorem wp_updateProgram (binPath : String) (fuel : ℕ) :
    (updateProgram node binPath fuel).wp (updateContract file) (fun _ _ ↦ True)
      (fun _ _ ↦ True) history := by
  have hfree : ∀ {command}, command ≠ programCtrlStart → command ≠ programCtrlConfirm →
      ∀ {history}, CommandGuard file node command history := fun hstart hconfirm ↦
    commandGuard_of_ne hstart hconfirm
  -- Up to STOP, nothing has to be remembered.
  refine wp_seq (wp_readSwid stable_true trivial) fun _ history _ ↦ ?_
  refine wp_seq (wp_mono (fun _ _ _ ↦ trivial) (fun _ _ h ↦ h)
    (wp_waitForFlashStatusOk stable_true defaultTimeout fuel trivial)) fun _ history _ ↦ ?_
  refine wp_seq (wp_perform_stable stable_true trivial trivial) fun _ history _ ↦ ?_
  refine wp_seq (wp_programCtrl (fun _ ↦ True) (hfree (by decide) (by decide)) trivial)
    fun _ history hstopped ↦ ?_
  refine wp_seq (wp_programCtrl _ (hfree (by decide) (by decide)) hstopped)
    fun _ history hcleared ↦ ?_
  refine wp_waitAndCheck (stable_after _ _) defaultTimeout fuel _ hcleared fun history hcleared ↦ ?_
  refine wp_seq (wp_downloadFirmware binPath fuel hcleared) fun _ history hdownloaded ↦ ?_
  refine wp_waitAndCheck (stable_downloaded file node) defaultTimeout fuel _ hdownloaded
    fun history hready ↦ ?_
  refine wp_seq (wp_mono (fun _ _ h ↦ h) (fun _ _ _ ↦ trivial)
    (wp_readSwid (stable_after _ _) hready)) fun _ history hready ↦ ?_
  -- START has its condition, and from here on it is remembered that it succeeded.
  refine wp_seq (wp_programCtrl (fun _ ↦ True) ⟨fun _ ↦ hready, fun heq ↦ absurd heq (by decide)⟩
    trivial) fun _ history hstarted ↦ ?_
  have hstable : Stable (Started node) := stable_after _ _
  refine wp_seq (wp_exceptException (Started node) (wp_perform_stable hstable trivial hstarted)
    (fun _ _ hafter ↦ hafter) fun _ _ ↦ trivial) fun _ history hstarted ↦ ?_
  refine wp_seq (wp_mono (fun _ _ h ↦ h) (fun _ _ _ ↦ trivial)
    (wp_perform_stable hstable trivial hstarted)) fun _ history hstarted ↦ ?_
  refine wp_seq (wp_programCtrl (fun _ ↦ True) ⟨fun heq ↦ absurd heq (by decide), fun _ ↦ hstarted⟩
    trivial) fun _ history hconfirmed ↦ ?_
  exact wp_perform ⟨node, hconfirmed⟩ (fun _ _ ↦ trivial) fun _ _ ↦ trivial

/-- Choosing a node asks for nothing that is guarded. -/
theorem wp_chooseNode (nodes : Interactive.Table) (fuel : ℕ) :
    (Interactive.chooseNode nodes fuel).wp (updateContract file) (fun _ _ ↦ True)
      (fun _ _ ↦ True) history := by
  refine Program.wp_of_uses (Interactive.uses_chooseNode nodes fuel) (fun _ op hop _ ↦ ?_)
    (fun _ _ _ _ _ ↦ trivial) trivial
  subst hop
  trivial

end Steps

/-! ### Runs of flash_firmware -/

/-- The order of an update in a history: whenever START is written, everything in front of it was
done, whenever CONFIRM is written, a START has succeeded, and whenever success is reported, a
CONFIRM has succeeded. -/
structure OrderedUpdate (file : List UInt8) (history : List (Event host)) : Prop where
  start : ∀ before node answer after,
    history = before ++ ⟨.sdoWrite node h1f51ProgramCtrl programNumber programCtrlStart, answer⟩ ::
      after → ReadyToStart file node before
  confirm : ∀ before node answer after,
    history = before ++
      ⟨.sdoWrite node h1f51ProgramCtrl programNumber programCtrlConfirm, answer⟩ :: after →
        Started node before
  success : ∀ before answer after, history = before ++ ⟨.reportSuccess, answer⟩ :: after →
    ∃ node, Confirmed node before

theorem orderedUpdate_of_guarded {file : List UInt8} {history : List (Event host)}
    (hguarded : Guarded (updateContract file) [] history) : OrderedUpdate file history where
  start := fun before _ _ _ hsplit ↦
    (hguarded before _ _ hsplit List.nil_prefix rfl rfl).1 rfl
  confirm := fun before _ _ _ hsplit ↦
    (hguarded before _ _ hsplit List.nil_prefix rfl rfl).2 rfl
  success := fun before _ _ hsplit ↦ hguarded before _ _ hsplit List.nil_prefix

/-- The script keeps the contract: what it does around the update is covered by no clause. -/
theorem wp_flashFirmware_update (file : List UInt8) (nodeId : ℤ) (binPath interface : String)
    (baudrate : ℤ) (fuel : ℕ) :
    (flashFirmware nodeId binPath interface baudrate fuel).wp (updateContract file)
      (fun _ _ ↦ True) (fun _ _ ↦ True) [] := by
  refine wp_seq (wp_perform_stable stable_true trivial trivial) fun flashNode history _ ↦ ?_
  refine wp_seq (wp_perform_stable stable_true trivial trivial) fun _ history _ ↦ ?_
  refine (wp_ensuring _ _).mpr (wp_mono (fun _ _ _ ↦ ?_) (fun _ _ _ ↦ ?_)
    (wp_updateProgram binPath fuel))
  · exact wp_perform_stable stable_true trivial trivial
  · exact wp_perform_stable stable_true trivial trivial

/-- So does the menu entry, which ends in front of the update unless the user goes through with it.
-/
theorem wp_menuFlashFirmware_update (file : List UInt8) (nodes : Interactive.Table) (fuel : ℕ) :
    (Interactive.flashFirmware nodes fuel).wp (updateContract file)
      (fun _ _ ↦ True) (fun _ _ ↦ True) [] := by
  have henter : ∀ history, (ask .inputEnter).wp (updateContract file) (fun _ _ ↦ True)
      (fun _ _ ↦ True) history := fun _ ↦ wp_perform_stable stable_true trivial trivial
  refine wp_seq (wp_chooseNode nodes fuel) fun chosen history _ ↦ ?_
  cases chosen with
  | none => exact henter history
  | some node =>
    refine wp_seq (wp_perform_stable stable_true trivial trivial) fun binPath history _ ↦ ?_
    refine wp_seq (wp_perform_stable stable_true trivial trivial)
      fun (found : Bool) history _ ↦ ?_
    cases found with
    | false => exact henter history
    | true =>
      refine wp_seq (wp_perform_stable stable_true trivial trivial)
        fun (confirmed : Bool) history _ ↦ ?_
      cases confirmed with
      | false => exact henter history
      | true =>
        refine wp_seq (wp_perform_stable stable_true trivial trivial)
          fun flashNode history _ ↦ ?_
        exact wp_seq (wp_exceptException (fun _ ↦ True) (wp_updateProgram binPath fuel)
          (fun _ _ _ ↦ wp_perform_stable stable_true trivial trivial) fun _ _ ↦ trivial)
          fun _ history _ ↦ henter history

/-- For every file that is not modified and every behaviour of the device, the bus, the user and the
host, a run of either version of `flash_firmware` keeps the order of the update. -/
theorem flashFirmware_ordered (file : List UInt8) (surroundings : Host file) (fuel : ℕ) :
    (∀ (nodeId : ℤ) (binPath interface : String) (baudrate : ℤ),
      OrderedUpdate file ((flashFirmware nodeId binPath interface baudrate fuel).run
        surroundings.surroundings []).1) ∧
    ∀ nodes : Interactive.Table,
      OrderedUpdate file ((Interactive.flashFirmware nodes fuel).run
        surroundings.surroundings []).1 := by
  have hkeeps : surroundings.surroundings.Keeps (updateContract file) := surroundings.unmodified
  constructor
  · intro nodeId binPath interface baudrate
    have hwp := wp_flashFirmware_update file nodeId binPath interface baudrate fuel
    exact orderedUpdate_of_guarded (wp_sound hkeeps hwp).1
  · intro nodes
    have hwp := wp_menuFlashFirmware_update file nodes fuel
    exact orderedUpdate_of_guarded (wp_sound hkeeps hwp).1

/-- A host on which every operation succeeds, with a device that reports the flash status 0. -/
def willingHost (file : List UInt8) : Host file where
  surroundings := fun _ op ↦
    match op with
    | .inputPath => .ok ""
    | .inputYes => .ok true
    | .inputNodeId => .ok (1 : ℤ)
    | .inputNumber => .ok (1 : ℤ)
    | .isfile _ => .ok true
    | .getsize _ => .ok file.length
    | .fileRead position size => .ok ((file.drop position).take size)
    | .time => .ok (0 : ℚ)
    | .remoteNode nodeId _ => .ok (⟨0, nodeId⟩ : Node)
    | .networkAddNew nodeId => .ok (⟨0, nodeId⟩ : Node)
    | .sdoRead _ _ _ => .ok (0 : ℕ)
    | .inputEnter | .menuOther | .fileOpen _ | .fileClose | .sleep _ | .networkConnect _ _
    | .networkDisconnect | .networkAddNode _ | .sdoWrite _ _ _ _ | .setPreOperational _
    | .waitForBootup _ _ | .streamOpen _ _ _ _ _ | .streamWrite _ | .streamClose | .reportSuccess
    | .reportError _ =>
      .ok ()
  unmodified := fun _ op ↦ by cases op <;> trivial

example : (((flashFirmware 1 "zephyr.bin" "can0" 500000 2).run
    (willingHost [1, 2, 3]).surroundings []).1.filterMap writtenChunk) = [[1, 2, 3]] := by
  decide

end CanopenTools.Firmware
