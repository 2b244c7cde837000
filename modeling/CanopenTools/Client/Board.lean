import CanopenTools.Client.BusForwarding
import CanopenTools.Effects.Protocol
import Mathlib.Data.PNat.Notation

/-!
# The program of the ESP32 client

`main` of `main.c` from its first line to its last, call by call. It brings up the connection
manager, tries `tcp_connect` until it succeeds, starts the CAN controller, adds the filter, runs the
loop and takes everything down again. `MainLoop` models the loop as a state machine with a pass of
the loop as one step; here every call to Zephyr is an operation of its own.

A socket call returns a number or sets `errno`. Logging and the address structure are left out. The
frame that `can_rx_cb` puts in the queue is what `k_msgq_get` returns later.
-/

set_option autoImplicit false
set_option relaxedAutoImplicit false

namespace CanopenTools.Client.Board

open Effects Framing

/-! ### What the program asks of Zephyr -/

/-- The settings of the firmware: `CONFIG_APP_WIFI_SSID`, `CONFIG_APP_WIFI_PASSWORD`,
`CONFIG_APP_SERVER_HOST` and `CONFIG_APP_SERVER_PORT`. -/
structure Config where
  wifiSsid : String
  wifiPassword : String
  serverHost : String
  serverPort : ℕ
  deriving DecidableEq, Repr

/-- The calls. -/
inductive Op
  | connectionManagerInit (ssid password : String)
  | netAddrPton (host : String)
  | zsockSocket
  | zsockConnect (sock : ℤ) (host : String) (port : ℕ)
  | zsockClose (sock : ℤ)
  | kSleep (seconds : ℕ)
  | deviceIsReady
  | canStart
  | canStop
  | canAddRxFilter (filter : CanFilter)
  | canRemoveRxFilter (filterId : ℤ)
  | kMsgqGet
  | zsockSend (sock : ℤ) (bytes : List UInt8)
  | zsockPoll (sock : ℤ) (timeout : ℕ)
  | zsockRecv (sock : ℤ) (size : ℕ)
  | canSend (frame : CanFrame) (timeout : ℕ)
  deriving DecidableEq, Repr

/-- What the calls return: `errno` or a number for a socket call, the frame that was in the queue.
-/
def Op.Result : Op → Type
  | connectionManagerInit _ _ => ℤ
  | netAddrPton _ => ℤ
  | zsockSocket => Except ℕ+ ℕ
  | zsockConnect _ _ _ => Except ℕ+ ℕ
  | deviceIsReady => Bool
  | canStart => ℤ
  | canAddRxFilter _ => ℤ
  | kMsgqGet => Option CanFrame
  | zsockSend _ _ => ZsockSend
  | zsockPoll _ _ => Poll
  | zsockRecv _ _ => RecvEvent
  | canSend _ _ => ℤ
  | _ => Unit

/-- A write past the end of a buffer. No call raises it; the program would. -/
inductive MemoryError
  | overflow
  deriving DecidableEq, Repr

/-- The interface of the firmware. -/
abbrev board : Interface where
  Op := Op
  Result := Op.Result
  Error := MemoryError

/-- A function of the firmware. -/
abbrev Routine (α : Type) : Type := Program board α

/-- Ask for a call. -/
def ask (op : Op) : Routine op.Result := Program.perform (I := board) op

/-! ### Connecting -/

/-- `EINVAL`. -/
def einval : ℤ := 22

/-- `tcp_connect`: the socket, or a negative error. -/
def tcpConnect (config : Config) : Routine ℤ := do
  let invalid : ℤ ← ask (.netAddrPton config.serverHost)
  if invalid ≠ 0 then pure (-einval)
  else
    let opened : Except ℕ+ ℕ ← ask .zsockSocket
    match opened with
    | .error errno => pure (-(errno : ℤ))
    | .ok sock => do
      let connected : Except ℕ+ ℕ ← ask (.zsockConnect sock config.serverHost config.serverPort)
      match connected with
      | .error errno => do
        ask (.zsockClose sock)
        pure (-(errno : ℤ))
      | .ok _ => pure (sock : ℤ)

/-- The loop of `main` that tries `tcp_connect` until it succeeds. -/
def connectLoop (config : Config) : ℕ → Routine ℤ
  | 0 => .unfinished
  | fuel + 1 => do
    let sock ← tcpConnect config
    if sock < 0 then do
      ask (.kSleep 2)
      connectLoop config fuel
    else pure sock

/-! ### The loop -/

/-- The buffers of `main`. -/
structure Buffers where
  lenbuf : List UInt8 := List.replicate 2 0
  hdrbuf : List UInt8 := List.replicate 6 0
  databuf : List UInt8 := List.replicate 8 0
  deriving DecidableEq, Repr

section Loop

variable (zephyr : ZephyrCan) (sock : ℤ)

/-- `recv_all` after `got` bytes: the buffer, or nothing for an error. -/
def recvAll (n : ℕ) : ℕ → List UInt8 → ℕ → Routine (Option (List UInt8))
  | 0, _, _ => .unfinished
  | fuel + 1, buf, got =>
    if got < n then do
      let received : RecvEvent ← ask (.zsockRecv sock (n - got))
      match received with
      | .closed => pure none
      | .again => recvAll n fuel buf got
      | .error _ => pure none
      | .segment first more =>
        match writeAt buf got (first :: more) with
        | none => .raise .overflow
        | some buf => recvAll n fuel buf (got + (first :: more).length)
    else pure (some buf)

/-- `tcp_send_can_frame`, of which the caller has no use for the result. -/
def tcpSendCanFrame (cf : CanFrame) : Routine Unit := do
  let len : ZsockSend ← ask (.zsockSend sock (beBytes 2 (sizeofTcpHdr + cf.dlc.toNat)))
  if !len.complete 2 then pure ()
  else do
    let hdr : ZsockSend ← ask (.zsockSend sock (sendHeader zephyr cf).bytes)
    if !hdr.complete sizeofTcpHdr then pure ()
    else if 0 < cf.dlc.toNat then do
      let _ ← ask (.zsockSend sock (cf.data.take cf.dlc.toNat))
      pure ()
    else pure ()

/-- The loop `while (k_msgq_get(&can_rx_q, &cf, K_NO_WAIT) == 0)`. -/
def drainQueue : ℕ → Routine Unit
  | 0 => .unfinished
  | fuel + 1 => do
    let taken : Option CanFrame ← ask .kMsgqGet
    match taken with
    | none => pure ()
    | some cf => do
      tcpSendCanFrame zephyr sock cf
      drainQueue fuel

/-- The loop `while (to_dump)`; false when a read fails. -/
def dump (fuel : ℕ) : ℕ → ℕ → Routine Bool
  | 0, _ => pure true
  | passes + 1, toDump =>
    if toDump = 0 then pure true
    else do
      let chunk := min toDump 32
      match ← recvAll sock chunk fuel (List.replicate 32 0) 0 with
      | none => pure false
      | some _ => dump fuel passes (toDump - chunk)

/-- The conversion of a received record and `can_send`. -/
def sendOut (dataLen : ℕ) (buffers : Buffers) : Routine Unit :=
  match canFromTcpParts zephyr (some (.ofBytes buffers.hdrbuf)) buffers.databuf dataLen {} with
  | .ok out => do
    let _ ← ask (.canSend out 10)
    pure ()
  | .error _ => pure ()

/-- A call of `recv_all` in a pass: an error ends the loop. -/
def orStop (read : Routine (Option (List UInt8))) (next : List UInt8 → Routine (Option Buffers)) :
    Routine (Option Buffers) := do
  match ← read with
  | none => pure none
  | some filled => next filled

/-- A pass behind the read of `hdrbuf`. -/
def receiveData (fuel payLen : ℕ) (buffers : Buffers) : Routine (Option Buffers) :=
  let dataLen := payLen - sizeofTcpHdr
  if dataLen ≠ 0 then
    orStop (recvAll sock dataLen fuel buffers.databuf 0) fun databuf ↦ do
      sendOut zephyr dataLen { buffers with databuf }
      pure (some { buffers with databuf })
  else do
    sendOut zephyr dataLen buffers
    pure (some buffers)

/-- A pass behind the read of `lenbuf`. -/
def receiveHdr (fuel payLen : ℕ) (buffers : Buffers) : Routine (Option Buffers) :=
  if payLen < sizeofTcpHdr ∨ payLen > sizeofTcpHdr + 8 then do
    let running ← dump sock fuel payLen payLen
    pure (if running then some buffers else none)
  else
    orStop (recvAll sock sizeofTcpHdr fuel buffers.hdrbuf 0) fun hdrbuf ↦
      receiveData zephyr sock fuel payLen { buffers with hdrbuf }

/-- The part of a pass from `recv_all(sock, lenbuf, 2)` on: the buffers, or nothing when the loop
ends. -/
def receive (fuel : ℕ) (buffers : Buffers) : Routine (Option Buffers) :=
  orStop (recvAll sock 2 fuel buffers.lenbuf 0) fun lenbuf ↦
    receiveHdr zephyr sock fuel (beNat lenbuf) { buffers with lenbuf }

/-- The loop `while (running)`. -/
def bridgeLoop (fuel : ℕ) : ℕ → Buffers → Routine Unit
  | 0, _ => .unfinished
  | passes + 1, buffers => do
    drainQueue zephyr sock fuel
    let polled : Poll ← ask (.zsockPoll sock 10)
    match polled with
    | .timeout => bridgeLoop fuel passes buffers
    | .error => pure ()
    | .ready false => bridgeLoop fuel passes buffers
    | .ready true => do
      match ← receive zephyr sock fuel buffers with
      | none => pure ()
      | some buffers => bridgeLoop fuel passes buffers

end Loop

/-! ### `main` -/

section Main

variable (zephyr : ZephyrCan) (config : Config) (fuel : ℕ)

/-- `main` behind `can_start`. -/
def runFiltered (sock : ℤ) : Routine Unit := do
  let filterId : ℤ ← ask (.canAddRxFilter mainFilter)
  if filterId < 0 then do
    ask .canStop
    ask (.zsockClose sock)
  else do
    bridgeLoop zephyr sock fuel fuel {}
    ask (.canRemoveRxFilter filterId)
    ask .canStop
    ask (.zsockClose sock)

/-- `main` behind the connection. -/
def runConnected (sock : ℤ) : Routine Unit := do
  let ready : Bool ← ask .deviceIsReady
  if !ready then ask (.zsockClose sock)
  else do
    let ret : ℤ ← ask .canStart
    if ret ≠ 0 then ask (.zsockClose sock) else runFiltered zephyr fuel sock

/-- `main`. -/
def main : Routine Unit := do
  let ret : ℤ ← ask (.connectionManagerInit config.wifiSsid config.wifiPassword)
  if ret ≠ 0 then pure ()
  else do
    let sock ← connectLoop config fuel
    runConnected zephyr fuel sock

end Main

end CanopenTools.Client.Board
