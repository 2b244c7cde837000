import CanopenTools.Effects.Contract
import Mathlib.Data.Rat.Defs

/-!
# What the Python tools ask of their surroundings

`co-firmware-update.py` and `co.py` talk to a user, to files of the host, to python-canopen and to
the clock. `Tools.host` lists these operations. Each of them may raise: an exception that `except
Exception` catches, or `KeyboardInterrupt`, which it does not. Everything else is left to the
surroundings, except that the firmware file is not modified while a tool runs (`FileUnmodified`).

Output to the terminal is left out, but for the line that reports the outcome of an update.
-/

set_option autoImplicit false
set_option relaxedAutoImplicit false

namespace CanopenTools.Tools

open Effects

/-- A Python error. -/
inductive PyError
  | exception (message : String)
  | keyboardInterrupt
  deriving DecidableEq, Repr

/-- A node object of python-canopen: which object it is, and its `id`. -/
structure Node where
  object : ℕ
  id : ℤ
  deriving DecidableEq, Repr

/-- The operations. `inputPath` is `input(...).strip()`, `inputYes` compares
`input(...).strip().lower()` with `"y"`, `inputNodeId` and `inputNumber` are `int(input(...))` at
the prompt for a node id and in a selection loop, and `inputEnter` is `input()`. The two forms of
`network.add_node` take a node object, or an id and an object dictionary. `menuOther` stands for
what the other menu operations of `co.py` do. -/
inductive Op
  | inputPath
  | inputYes
  | inputNodeId
  | inputNumber
  | inputEnter
  | menuOther
  | isfile (path : String)
  | getsize (path : String)
  | fileOpen (path : String)
  | fileRead (position size : ℕ)
  | fileClose
  | time
  | sleep (seconds : ℚ)
  | networkConnect (interface : String) (baudrate : ℤ)
  | networkDisconnect
  | remoteNode (nodeId : ℤ) (eds : String)
  | networkAddNode (node : Node)
  | networkAddNew (nodeId : ℤ)
  | sdoRead (node : Node) (index subindex : ℕ)
  | sdoWrite (node : Node) (index subindex value : ℕ)
  | setPreOperational (node : Node)
  | waitForBootup (node : Node) (timeout : ℚ)
  | streamOpen (node : Node) (index subindex buffering size : ℕ)
  | streamWrite (chunk : List UInt8)
  | streamClose
  | reportSuccess
  | reportError (error : PyError)

/-- The results of the operations. -/
def Op.Result : Op → Type
  | inputPath => String
  | inputYes => Bool
  | inputNodeId => ℤ
  | inputNumber => ℤ
  | isfile _ => Bool
  | getsize _ => ℕ
  | fileRead _ _ => List UInt8
  | time => ℚ
  | remoteNode _ _ => Node
  | networkAddNew _ => Node
  | sdoRead _ _ _ => ℕ
  | _ => Unit

/-- The interface of the tools. -/
abbrev host : Interface where
  Op := Op
  Result := Op.Result
  Error := PyError

/-- A function of the tools. -/
abbrev Script (α : Type) : Type := Program host α

/-- Ask for an operation. -/
def ask (op : Op) : Script op.Result := Program.perform (I := host) op

/-- `except Exception`: only exceptions are handled. -/
def exceptException {α : Type} (body : Script α) (handler : PyError → Script α) : Script α :=
  body.tryCatch fun
    | .exception message => handler (.exception message)
    | .keyboardInterrupt => .raise .keyboardInterrupt

theorem uses_exceptException {α : Type} {allowed : Op → Prop} {body : Script α}
    {handler : PyError → Script α} (hbody : body.Uses allowed)
    (hhandler : ∀ error, (handler error).Uses allowed) :
    (exceptException body handler).Uses allowed := by
  refine Program.uses_tryCatch hbody fun error ↦ ?_
  cases error with
  | exception message => exact hhandler _
  | keyboardInterrupt => trivial

/-- `except Exception` around a body that keeps an assertion. -/
theorem wp_exceptException {α : Type} (assertion : List (Event host) → Prop) {body : Script α}
    {handler : PyError → Script α} {contract : Contract host} {history : List (Event host)}
    {returns : α → List (Event host) → Prop} {raises : PyError → List (Event host) → Prop}
    (hbody : body.wp contract returns (fun _ ↦ assertion) history)
    (hhandler : ∀ error history, assertion history →
      (handler error).wp contract returns raises history)
    (hinterrupt : ∀ history, assertion history → raises .keyboardInterrupt history) :
    (exceptException body handler).wp contract returns raises history := by
  refine (Program.wp_tryCatch body _).mpr (Program.wp_mono (fun _ _ hvalue ↦ hvalue) ?_ hbody)
  intro error after hafter
  cases error with
  | exception message => exact hhandler (.exception message) after hafter
  | keyboardInterrupt => exact hinterrupt after hafter

/-- The firmware file has the given content throughout: its size and every read say so. -/
def FileUnmodified (file : List UInt8) : Event host → Prop
  | ⟨.getsize _, .ok size⟩ => size = file.length
  | ⟨.fileRead position size, .ok bytes⟩ => bytes = (file.drop position).take size
  | _ => True

/-- Surroundings in which the firmware file is not modified. -/
structure Host (file : List UInt8) where
  surroundings : Surroundings host
  unmodified : ∀ history op, FileUnmodified file ⟨op, surroundings history op⟩

end CanopenTools.Tools
