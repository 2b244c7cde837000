import CanopenTools.Bridge.CanRecord
import CanopenTools.Bridge.LoadConfig
import CanopenTools.Effects.Program

/-!
# The main thread of the bridge

`main` of `can_tcp_bridge.py` as a program: it loads the settings, brings the interface up, opens
the bus, starts the thread `_tcp_manager`, runs `_loop_can_to_tcp` itself and at last calls `stop`.
Its operations are the calls of the host and of python-can and the accesses to the attributes that
the threads share. The socket is read in two ways: in the loop under `sock_lock` (`readSock`), and
in `stop` without it (`selfSock`), so that there it may be gone at the second access.

Every operation may raise, `KeyboardInterrupt` included. The connections behind the sockets are
numbered.
-/

set_option autoImplicit false
set_option relaxedAutoImplicit false

namespace CanopenTools.Bridge.MainThread

open Effects Mappings

/-! ### Operations -/

/-- A Python error. `exception` is every `Exception` that is neither of the two in front of it. -/
inductive PyError
  | calledProcessError
  | osError
  | exception
  | keyboardInterrupt
  deriving DecidableEq, Repr

/-- The operations. `openBus` is `can.Bus(channel=…, interface="socketcan", fd=…)`, `setBus` and
`selfBus` are the assignment to `self.bus` and the test of it, `isSet` and `set` belong to
`stop_event`, and `printInterrupted` is the line that is printed on `KeyboardInterrupt`. -/
inductive Op (K F O : Type)
  | geteuid
  | subprocessRun (cmd : List String)
  | openBus (channel : Entry (Key K) (Plain F O)) (fd : Bool)
  | setBus
  | selfBus
  | threadStart
  | isSet
  | busRecv
  | readSock
  | sendall (sock : ℕ) (payload : List UInt8)
  | printInterrupted
  | set
  | selfSock
  | sockShutdown (sock : ℕ)
  | sockClose (sock : ℕ)
  | busShutdown

/-- The results of the operations. -/
def Op.Result {K F O : Type} : Op K F O → Type
  | geteuid => ℕ
  | selfBus => Bool
  | isSet => Bool
  | busRecv => Option Message
  | readSock => Option ℕ
  | selfSock => Option ℕ
  | _ => Unit

/-- The interface of the main thread. -/
abbrev process (K F O : Type) : Interface where
  Op := Op K F O
  Result := Op.Result
  Error := PyError

/-- A function that the main thread runs. -/
abbrev Script (K F O α : Type) : Type := Program (process K F O) α

section Scripts

variable {K F O : Type}

/-- Ask for an operation. -/
def ask (op : Op K F O) : Script K F O op.Result := Program.perform (I := process K F O) op

/-- `except Exception: pass`. -/
def quietly (body : Script K F O Unit) : Script K F O Unit :=
  body.tryCatch fun
    | .keyboardInterrupt => .raise .keyboardInterrupt
    | .exception | .osError | .calledProcessError => pure ()

/-! ### Settings -/

/-- Conversions of the settings, with the truth values of floating-point numbers and of other
objects. -/
structure Python (K F O : Type) extends Conversions K F O where
  floatTruth : F → Bool
  otherTruth : O → Bool

variable (python : Python K F O)

/-- `bool(value)`. -/
def Python.truth : Entry (Key K) (Plain F O) → Bool
  | .value .null => false
  | .value (.bool flag) => flag
  | .value (.int number) => number != 0
  | .value (.float number) => python.floatTruth number
  | .value (.str text) => text != ""
  | .value (.other object) => python.otherTruth object
  | .mapping child => !child.keys.isEmpty

/-- `int(value)`. -/
def toInt (value : Entry (Key K) (Plain F O)) : Script K F O ℤ :=
  match python.toInt value with
  | .ok number => pure number
  | .error _ => .raise .exception

/-! ### Bringing the interface up -/

/-- `run` of `bring_up_interface`, on `["ip", "link", "set", iface]` with more words behind it. The
debug message joins the words, so a name that is no text fails before anything is run. -/
def run (iface : Entry (Key K) (Plain F O)) (words : List String) : Script K F O Unit :=
  match iface with
  | .value (.str name) =>
    (ask (.subprocessRun (["ip", "link", "set", name] ++ words))).tryCatch fun
      | .calledProcessError => pure ()
      | error => .raise error
  | _ => .raise .exception

/-- The words behind the name in the command that sets the bitrates, without `restart-ms`. -/
def typeWords (bitrate dataBitrate : ℤ) (useFd : Bool) : List String :=
  if useFd then
    ["type", "can", "bitrate", toString bitrate, "dbitrate",
      toString (if dataBitrate = 0 then 2000000 else dataBitrate), "fd", "on"]
  else ["type", "can", "bitrate", toString bitrate]

/-- `["restart-ms", str(int(restart_ms))]`, if `restart_ms` is set. -/
def restartWords (restartMs : Entry (Key K) (Plain F O)) : Except ConversionError (List String) :=
  if python.truth restartMs then
    (python.toInt restartMs).map fun number ↦ ["restart-ms", toString number]
  else .ok []

/-- The part of `bring_up_interface` that needs root. `restart_ms` is converted after the first
command. -/
def setLink (iface restartMs : Entry (Key K) (Plain F O)) (bitrate dataBitrate : ℤ) (useFd : Bool) :
    Script K F O Unit := do
  run iface ["down"]
  match restartWords python restartMs with
  | .error _ => .raise .exception
  | .ok more =>
    run iface (typeWords bitrate dataBitrate useFd ++ more)
    run iface ["up"]

/-! ### The loop -/

/-- The end of a pass: the socket is copied under the lock and the record is sent. -/
def sendRecord (payload : List UInt8) : Script K F O Unit := do
  let sock : Option ℕ ← ask .readSock
  match sock with
  | none => pure ()
  | some connection =>
    (ask (.sendall connection payload)).tryCatch fun
      | .osError => pure ()
      | error => .raise error

/-- What a pass does with what it received. -/
def handleMessage (useFdCfg : Bool) : Option Message → Script K F O Unit
  | none => pure ()
  | some msg =>
    match frameFromCan msg useFdCfg with
    | .error _ => .raise .exception
    | .ok payload => sendRecord payload

/-- The body of the loop with its handlers. It returns whether the loop goes on. -/
def canToTcpBody (useFdCfg : Bool) : Script K F O Bool :=
  Program.tryCatch (do
    let msg : Option Message ← ask .busRecv
    handleMessage useFdCfg msg
    pure true) fun
      | .keyboardInterrupt => pure false
      | .exception | .osError | .calledProcessError => pure true

/-- The `while` loop of `_loop_can_to_tcp`. -/
def canToTcpLoop (useFdCfg : Bool) : ℕ → Script K F O Unit
  | 0 => .unfinished
  | fuel + 1 => do
    let stopped : Bool ← ask .isSet
    if stopped then pure ()
    else do
      let goesOn ← canToTcpBody useFdCfg
      if goesOn then canToTcpLoop useFdCfg fuel else pure ()

/-! ### Stopping -/

/-- One use of the socket in `stop`. At the second access the attribute may be `None`. -/
def onSock (use : ℕ → Script K F O Unit) : Script K F O Unit := do
  let sock : Option ℕ ← ask .selfSock
  match sock with
  | none => pure ()
  | some _ =>
    let sock : Option ℕ ← ask .selfSock
    match sock with
    | none => .raise .exception
    | some connection => use connection

/-- The shutdown of the bus in `stop`. -/
def shutdownBus : Script K F O Unit := do
  let bus : Bool ← ask .selfBus
  if bus then ask .busShutdown else pure ()

/-- `stop`. -/
def stop : Script K F O Unit := do
  ask .set
  quietly (onSock fun sock ↦ ask (.sockShutdown sock))
  quietly (onSock fun sock ↦ ask (.sockClose sock))
  quietly shutdownBus

/-! ### From the settings to the loop -/

variable [DecidableEq K]

/-- `bring_up_interface`. The bitrates are converted in any case. -/
def bringUpInterface (canCfg : Mapping (Key K) (Plain F O)) : Script K F O Unit := do
  let iface := cfgGet canCfg "iface" (.str "can0")
  let bringup := python.truth (cfgGet canCfg "bringup" (.bool false))
  let bitrate ← toInt python (cfgGet canCfg "bitrate" (.int 250000))
  let restartMs := cfgGet canCfg "restart_ms" .null
  let useFd := python.truth (cfgGet canCfg "fd" (.bool false))
  let dataBitrate ← toInt python (cfgGet canCfg "data_bitrate" (.int 0))
  if !bringup then pure ()
  else do
    let uid : ℕ ← ask .geteuid
    if uid ≠ 0 then pure () else setLink python iface restartMs bitrate dataBitrate useFd

/-- `make_bus`. -/
def makeBus (canCfg : Mapping (Key K) (Plain F O)) : Script K F O Unit :=
  ask (.openBus (cfgGet canCfg "iface" (.str "vcan0"))
    (python.truth (cfgGet canCfg "fd" (.bool false))))

/-- `_loop_can_to_tcp`. -/
def loopCanToTcp (canCfg : Mapping (Key K) (Plain F O)) (fuel : ℕ) : Script K F O Unit := do
  let bus : Bool ← ask .selfBus
  if !bus then .raise .exception
  else canToTcpLoop (python.truth (cfgGet canCfg "fd" (.bool false))) fuel

/-- `start`, on the settings below `can`. The message about the open bus looks the name up. -/
def startBus (canCfg : Mapping (Key K) (Plain F O)) (fuel : ℕ) : Script K F O Unit := do
  bringUpInterface python canCfg
  makeBus python canCfg
  ask .setBus
  if canCfg.lookup "iface" = none then .raise .exception
  else do
    ask .threadStart
    loopCanToTcp python canCfg fuel

/-- `start`. -/
def start (cfg : Mapping (Key K) (Plain F O)) (fuel : ℕ) : Script K F O Unit :=
  match cfg.lookup "can" with
  | some (.mapping canCfg) => startBus python canCfg fuel
  | _ => .raise .exception

/-- `main`, on the mapping of the file. The settings are loaded before there is a bridge to stop. -/
def main (file : Mapping (Key K) (Plain F O)) (fuel : ℕ) : Script K F O Unit :=
  match loadConfig python.toConversions file with
  | .error _ => .raise .exception
  | .ok cfg =>
    Program.ensuring ((start python cfg fuel).tryCatch fun
      | .keyboardInterrupt => ask .printInterrupted
      | error => .raise error) stop

end Scripts

end CanopenTools.Bridge.MainThread
