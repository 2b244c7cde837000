import CanopenTools.Effects.Translate
import CanopenTools.Interactive.Menu
import CanopenTools.Tools.PyText
import Mathlib.Data.List.Infix

/-!
# The interactive session

`main` of `co.py` with all its options, in terms of the lines that the user types. `Console.Op`
lists what the session asks for. A line is typed at a `Prompt`; `input` may also raise, at the end
of the input or on Ctrl-C. The operations of python-canopen and of the monitor are those that a
`try` of the source can tell apart: each may return or raise.

The selection loops, `add_node` and `flash_firmware` are the scripts of the menu. `typed` carries
their operations out at the prompts, and `typedScript` is the script in terms of typed lines.

The output of the operations of the menu is left out. A look-up in `nodes_meta` is an operation,
since its `KeyError` is not handled everywhere; `nodes_meta` has the keys of `nodes`, so
`choose_node` never fails in it.
-/

set_option autoImplicit false
set_option relaxedAutoImplicit false

namespace CanopenTools.Interactive.Console

open Effects Tools Firmware

/-! ### What the session asks for -/

/-- The prompts. `number` is the one of all selection loops, and `enter` the wait for the Enter key,
which two places of `subscribe_tpdo` do inside a `try`. -/
inductive Prompt
  | interface
  | baudrate
  | mainMenu
  | nodeId
  | number
  | sdoValue
  | pdoValues
  | firmwarePath
  | flashConfirm
  | enter
  | enterInTry
  deriving DecidableEq, Repr

/-- An entry of an object dictionary: its index, its name, its data type as `str` shows it, and the
subindices with their names if it has any. -/
structure OdEntry where
  index : ℕ
  name : String
  dataType : String
  subindices : Option (List (ℕ × String))
  deriving DecidableEq, Repr

namespace OdEntry

/-- `is_record`. -/
def isRecord (obj : OdEntry) : Bool := obj.dataType.toUpper == "RECORD"

/-- `is_array`. -/
def isArray (obj : OdEntry) : Bool :=
  obj.dataType.toUpper == "ARRAY" ||
    ((obj.subindices.getD []).length > 1 && !obj.isRecord)

/-- `is_octet_string`: the first of its two tests implies the second. -/
def isOctetString (obj : OdEntry) : Bool :=
  decide ("STRING".toList <:+: obj.dataType.toUpper.toList)

end OdEntry

/-- Where a name of a node is looked up in `nodes_meta`. -/
inductive MetaPlace
  | showNodeState
  | showNodeOdInfo
  deriving DecidableEq, Repr

/-- The operations of the session. `printEstablished`, `eventMonitor` and `threadStart` are what
`main` does between the connection and its `try`: the line on the terminal, `EventMonitor()`, and
the start of the thread of `refresh_loop`. `manualRefresh` draws the screen of the main menu.
`nodesMeta` looks up a key in a dictionary with the given keys. `sdoRaw` reads
`node.sdo[index].raw`, or `node.sdo[index][sub].raw`, and `sdoAssign` converts a text to the type of
the value there and assigns it. `rpdoTransmit` converts the values, assigns and transmits them.
`tpdo` is the look-up `node.tpdo[pdo_num]` of `unsubscribe_pdo`. -/
inductive Op
  | input (prompt : Prompt)
  | connect (interface : String) (baudrate : ℤ)
  | printEstablished
  | eventMonitor
  | threadStart
  | manualRefresh
  | tool (op : Tools.Op)
  | nodesMeta (place : MetaPlace) (keys : List ℤ) (key : ℤ)
  | objectDictionary (node : Node)
  | formatEntry (entry : OdEntry)
  | sendCommand (node : Node) (code : ℕ)
  | sdoRaw (node : Node) (index : ℕ) (sub : Option ℕ)
  | sdoAssign (node : Node) (index : ℕ) (sub : Option ℕ) (text : String)
  | sdoAssignByte (node : Node) (index sub : ℕ) (byte : UInt8)
  | rpdoCount (node : Node)
  | rpdoMaps (node : Node) (number : ℕ)
  | rpdoTransmit (node : Node) (number : ℕ) (values : List String)
  | tpdoCount (node : Node)
  | subscribePdo (node : Node) (number : ℕ)
  | subscribeHeartbeat (node : Node)
  | subscribedPdos
  | subscribedHbs
  | tpdo (node : Node) (number : ℕ)
  | removePdoCallback (node : Node) (number : ℕ)
  | removeHeartbeatCallback (node : Node)
  | nmtState (node : Node)

/-- The results of the operations. Of the mapped variables of an RPDO only their number matters. -/
def Op.Result : Op → Type
  | input _ => String
  | tool op => op.Result
  | objectDictionary _ => List OdEntry
  | rpdoCount _ => ℕ
  | rpdoMaps _ _ => ℕ
  | tpdoCount _ => ℕ
  | subscribedPdos => List (ℤ × ℕ)
  | subscribedHbs => List ℤ
  | _ => Unit

/-- The interface of the session. -/
abbrev console : Interface where
  Op := Op
  Result := Op.Result
  Error := PyError

/-- A function of the session. -/
abbrev Dialog (α : Type) : Type := Program console α

/-- Ask for an operation. -/
def ask (op : Op) : Dialog op.Result := Program.perform (I := console) op

/-- `input(...)` at a prompt. -/
def input (prompt : Prompt) : Dialog String := ask (.input prompt)

/-- `int(text)`. -/
def int (text : String) : Dialog ℤ :=
  match pyInt text with
  | some number => pure number
  | none => .raise (.exception ("invalid literal for int() with base 10: '" ++ text ++ "'"))

/-- `input()`, the wait for the Enter key. -/
def enter : Dialog Unit := do
  let _ ← input .enter
  pure ()

/-- `except Exception`. -/
def exceptException {α : Type} (body : Dialog α) (handler : PyError → Dialog α) : Dialog α :=
  body.tryCatch fun
    | .exception message => handler (.exception message)
    | .keyboardInterrupt => .raise .keyboardInterrupt

/-- `except KeyboardInterrupt`. -/
def exceptKeyboardInterrupt (body handler : Dialog Unit) : Dialog Unit :=
  body.tryCatch fun
    | .exception message => .raise (.exception message)
    | .keyboardInterrupt => handler

/-! ### The scripts of the menu at the prompts -/

/-- The operations of the tools, carried out at the prompts of the session. -/
def typedOp : (op : Tools.Op) → Dialog op.Result
  | .inputNodeId => do
    let line ← input .nodeId
    int line
  | .inputNumber => do
    let line ← input .number
    int line
  | .inputPath => do
    let line ← input .firmwarePath
    pure (strip line)
  | .inputYes => do
    let line ← input .flashConfirm
    pure (decide ((strip line).toLower = "y"))
  | .inputEnter => enter
  | op => ask (.tool op)

/-- The operations of the tools in terms of the session. -/
def typed : Translation host where
  Op := Op
  Result := Op.Result
  carryOut := typedOp

/-- A script of the tools in terms of the session. -/
def typedScript {α : Type} (script : Script α) : Dialog α := typed.translate script

/-- A selection loop. -/
def select {α : Type} (items : List α) (fuel : ℕ) : Dialog α :=
  typedScript (selectByNumber items fuel)

/-- `choose_node`. -/
def chooseNode (nodes : Table) (fuel : ℕ) : Dialog (Option Node) :=
  typedScript (Interactive.chooseNode nodes fuel)

/-- `add_node`. -/
def addNode (edsFiles : List String) (fuel : ℕ) (nodes : Table) : Dialog Table :=
  typedScript (Interactive.addNode edsFiles fuel nodes)

/-- `flash_firmware`. -/
def flashFirmware (nodes : Table) (fuel : ℕ) : Dialog Unit :=
  typedScript (Interactive.flashFirmware nodes fuel)

/-! ### Objects of a node -/

/-- `list_od_entries`: the entries with a name, by index. -/
def listOdEntries (node : Node) : Dialog (List OdEntry) := do
  let entries : List OdEntry ← ask (.objectDictionary node)
  pure ((entries.filter (·.name ≠ "")).mergeSort fun first second ↦ first.index ≤ second.index)

/-- `choose_od_entry`. -/
def chooseOdEntry (node : Node) (fuel : ℕ) : Dialog OdEntry := do
  let entries ← listOdEntries node
  select entries fuel

/-- The keys of `obj.subindices`. -/
def subindexKeys (obj : OdEntry) : Dialog (List ℕ) :=
  match obj.subindices with
  | none => .raise (.exception "object has no attribute 'subindices'")
  | some subindices => pure (subindices.map Prod.fst)

/-- The loop over `obj.subindices` that passes over the count at subindex 0. -/
def forSubindices (obj : OdEntry) (body : ℕ → Dialog Unit) : Dialog Unit := do
  let subs ← subindexKeys obj
  subs.forM fun sub ↦ if sub = 0 ∧ subs.length > 1 then pure () else body sub

/-- A `try` around one access, with its error printed or passed over. -/
def attempt (body : Dialog Unit) : Dialog Unit := exceptException body fun _ ↦ pure ()

/-- `read_sdo`. -/
def readSdo (node : Node) (fuel : ℕ) : Dialog Unit := do
  let obj ← chooseOdEntry node fuel
  attempt <|
    if obj.isArray || obj.isRecord then
      forSubindices obj fun sub ↦ attempt (ask (.sdoRaw node obj.index (some sub)))
    else ask (.sdoRaw node obj.index none)
  enter

/-- Bytes or values, at the subindices from one on. -/
def forElements {α : Type} (items : List α) (write : ℕ → α → Dialog Unit) : Dialog Unit :=
  items.zipIdx.forM fun item ↦ attempt (write (item.2 + 1) item.1)

/-- The array branch of `write_sdo`. An element that the object describes is read for its type. -/
def writeArray (node : Node) (obj : OdEntry) : Dialog Unit := do
  let line ← input .sdoValue
  if obj.isOctetString then
    forElements line.toUTF8.toList fun sub byte ↦ ask (.sdoAssignByte node obj.index sub byte)
  else
    forElements (splitValues line) fun sub value ↦ do
      let subs ← subindexKeys obj
      let _ ← (if sub ∈ subs then ask (.sdoRaw node obj.index (some sub)) else pure ())
      ask (.sdoAssign node obj.index (some sub) value)

/-- The record branch of `write_sdo`. An empty line leaves a field as it is. -/
def writeRecord (node : Node) (obj : OdEntry) : Dialog Unit :=
  forSubindices obj fun sub ↦ do
    attempt (ask (.sdoRaw node obj.index (some sub)))
    let line ← input .sdoValue
    attempt (if line ≠ "" then ask (.sdoAssign node obj.index (some sub) line) else pure ())

/-- The branch of `write_sdo` for a variable. It is read for its type, and again in the inner `try`.
-/
def writeVariable (node : Node) (obj : OdEntry) : Dialog Unit := do
  let line ← input .sdoValue
  ask (.sdoRaw node obj.index none)
  attempt do
    ask (.sdoRaw node obj.index none)
    ask (.sdoAssign node obj.index none line)

/-- `write_sdo`. -/
def writeSdo (node : Node) (fuel : ℕ) : Dialog Unit := do
  let obj ← chooseOdEntry node fuel
  attempt <|
    if obj.isArray then writeArray node obj
    else if obj.isRecord then writeRecord node obj
    else writeVariable node obj
  enter

/-! ### Commands and process data -/

/-- `nmt_cmds`, the codes. -/
def nmtCmds : List ℕ := [0x01, 0x02, 0x80, 0x81, 0x82]

/-- `send_nmt`, on the chosen node. -/
def sendNmt (node : Node) (fuel : ℕ) : Dialog Unit := do
  let code ← select nmtCmds fuel
  attempt (ask (.sendCommand node code))

/-- `send_pdo`, on the chosen node. -/
def sendPdo (node : Node) (fuel : ℕ) : Dialog Unit :=
  attempt do
    let rpdoCount : ℕ ← ask (.rpdoCount node)
    if rpdoCount = 0 then pure ()
    else do
      let number ← select (List.range' 1 rpdoCount) fuel
      let varCount : ℕ ← ask (.rpdoMaps node number)
      if varCount = 0 then pure ()
      else do
        let line ← input .pdoValues
        if (splitValues line).length ≠ varCount then pure ()
        else ask (.rpdoTransmit node number (splitValues line))

/-- `subscribe_tpdo`, on the chosen node. -/
def subscribeTpdo (node : Node) (fuel : ℕ) : Dialog Unit :=
  exceptException (do
    let tpdoCount : ℕ ← ask (.tpdoCount node)
    if tpdoCount = 0 then
      let _ ← input .enterInTry
      pure ()
    else do
      let number ← select (List.range' 1 tpdoCount) fuel
      ask (.subscribePdo node number)
      let _ ← input .enterInTry
      pure ()) fun _ ↦ enter

/-- `subscribe_heartbeat`, on the chosen node. -/
def subscribeHeartbeat (node : Node) : Dialog Unit := attempt (ask (.subscribeHeartbeat node))

/-- `nodes.get(node_id)`. -/
def getNode (nodes : Table) (nodeId : ℤ) : Option Node :=
  (nodes.find? fun entry ↦ entry.1 = nodeId).map Prod.snd

/-- `EventMonitor.unsubscribe_pdo`: the look-up of the TPDO is not in the `try`. -/
def unsubscribePdo (node : Node) (number : ℕ) : Dialog Unit := do
  ask (.tpdo node number)
  attempt (ask (.removePdoCallback node number))

/-- `unsubscribe_tpdo`. -/
def unsubscribeTpdo (nodes : Table) (fuel : ℕ) : Dialog Unit := do
  let current : List (ℤ × ℕ) ← ask .subscribedPdos
  if current = [] then pure ()
  else do
    let chosen ← select current fuel
    match getNode nodes chosen.1 with
    | none => pure ()
    | some node => unsubscribePdo node chosen.2

/-- `unsubscribe_heartbeat`, with `EventMonitor.unsubscribe_heartbeat`. -/
def unsubscribeHeartbeat (nodes : Table) (fuel : ℕ) : Dialog Unit := do
  let current : List ℤ ← ask .subscribedHbs
  if current = [] then pure ()
  else do
    let nodeId ← select current fuel
    match getNode nodes nodeId with
    | none => pure ()
    | some node => attempt (ask (.removeHeartbeatCallback node))

/-! ### Information -/

/-- `show_node_state`, on the chosen node. -/
def showNodeState (nodes : Table) (node : Node) : Dialog Unit := do
  attempt do
    ask (.nmtState node)
    ask (.nodesMeta .showNodeState (nodes.map Prod.fst) node.id)
  enter

/-- `show_node_od_info`, on the chosen node. -/
def showNodeOdInfo (nodes : Table) (node : Node) : Dialog Unit := do
  ask (.nodesMeta .showNodeOdInfo (nodes.map Prod.fst) node.id)
  let entries ← listOdEntries node
  entries.forM fun entry ↦ ask (.formatEntry entry)
  enter

/-! ### The main loop -/

/-- The operations that start with `choose_node` and do nothing without a node. -/
def withNode (nodes : Table) (fuel : ℕ) (operation : Node → Dialog Unit) : Dialog Unit := do
  match ← chooseNode nodes fuel with
  | none => pure ()
  | some node => operation node

/-- The options that leave the table as it is. -/
def runOperation (fuel : ℕ) (nodes : Table) (op : String) : Dialog Unit :=
  if op = "2" then withNode nodes fuel (sendNmt · fuel)
  else if op = "3" then withNode nodes fuel (readSdo · fuel)
  else if op = "4" then withNode nodes fuel (writeSdo · fuel)
  else if op = "5" then withNode nodes fuel (sendPdo · fuel)
  else if op = "6" then withNode nodes fuel (subscribeTpdo · fuel)
  else if op = "7" then withNode nodes fuel subscribeHeartbeat
  else if op = "8" then unsubscribeTpdo nodes fuel
  else if op = "9" then unsubscribeHeartbeat nodes fuel
  else if op = "10" then enter
  else if op = "11" then withNode nodes fuel (showNodeState nodes)
  else if op = "12" then withNode nodes fuel (showNodeOdInfo nodes)
  else if op = "13" then flashFirmware nodes fuel
  else pure ()

/-- One pass of the main loop, on a line other than 14, with the table after it. -/
def runOption (edsFiles : List String) (fuel : ℕ) (nodes : Table) (op : String) :
    Dialog Table :=
  if op = "1" then addNode edsFiles fuel nodes
  else do
    runOperation fuel nodes op
    pure nodes

/-- The main loop. `passes` bounds the number of lines typed at the main menu. -/
def mainLoop (edsFiles : List String) (fuel : ℕ) : ℕ → Table → Dialog Unit
  | 0, _ => .unfinished
  | passes + 1, nodes => do
    ask .manualRefresh
    let op ← input .mainMenu
    if strip op = "14" then ask (.tool .networkDisconnect)
    else do
      let nodes ← runOption edsFiles fuel nodes (strip op)
      mainLoop edsFiles fuel passes nodes

/-- The `try` of `main`. -/
def session (edsFiles : List String) (fuel passes : ℕ) : Dialog Unit :=
  exceptKeyboardInterrupt (mainLoop edsFiles fuel passes []) (ask (.tool .networkDisconnect))

/-- `load_eds_files`, on the paths of the command line. -/
def loadEdsFiles : List String → Dialog (List String)
  | [] => pure []
  | path :: paths => do
    let found : Bool ← ask (.tool (.isfile path))
    let edsFiles ← loadEdsFiles paths
    pure (if found then path :: edsFiles else edsFiles)

/-- The part of `main` up to the connection. -/
def start (edsPaths : List String) : Dialog (List String) := do
  let edsFiles ← loadEdsFiles edsPaths
  let interface ← input .interface
  let interface := if strip interface = "" then "vcan0" else strip interface
  let baudStr ← input .baudrate
  let baudrate ← (if strip baudStr ≠ "" then int (strip baudStr) else pure 125000)
  ask (.connect interface baudrate)
  pure edsFiles

/-- The part of `main` between the connection and the `try`. No handler is around it. -/
def startMonitor : Dialog Unit := do
  ask .printEstablished
  ask .eventMonitor
  ask .threadStart

/-- `main`. -/
def main (edsPaths : List String) (fuel passes : ℕ) : Dialog Unit := do
  let edsFiles ← start edsPaths
  startMonitor
  session edsFiles fuel passes

end CanopenTools.Interactive.Console
