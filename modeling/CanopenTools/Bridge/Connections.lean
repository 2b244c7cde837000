import CanopenTools.Bridge.CanToTcp
import CanopenTools.Bridge.TcpToCan
import CanopenTools.Framing.Numbered
import CanopenTools.Runs.History
import Mathlib.Logic.Function.Basic

/-!
# The threads of the bridge and its connections

`Bridge` as a system of three threads that take turns: `_loop_can_to_tcp`, `_tcp_manager` with
`_accept_once` or `_connect_once` and `_loop_tcp_to_can`, and any number of calls of `stop`. They
share `stop_event`, the socket `self.sock` and the connections behind the sockets. `self.sock_lock`
makes the reading of `self.sock` one action, and the closing of the old socket together with its
replacement another. `stop` does not take the lock. `sendall` is a sequence of writes that ends by
returning, when everything is written, or by raising.

Every byte on a connection carries the number of the CAN message whose record it comes from, and
every byte received carries the number of the connection it comes from. A connection that was
closed, or on which `sendall` raised, accepts no further bytes.
-/

set_option autoImplicit false
set_option relaxedAutoImplicit false

namespace CanopenTools.Bridge.Connections

open Framing Runs

/-! ### Threads and connections -/

/-- A TCP connection: the bytes written to it with the numbers of their messages, whether the bridge
has closed it, and whether `sendall` has raised on it. -/
structure Connection where
  written : List (ℕ × UInt8) := []
  closed : Bool := false
  broken : Bool := false
  deriving DecidableEq, Repr

/-- The connection accepts bytes. -/
def Connection.Accepts (connection : Connection) : Prop :=
  connection.closed = false ∧ connection.broken = false

instance (connection : Connection) : Decidable connection.Accepts :=
  inferInstanceAs (Decidable (_ ∧ _))

/-- Where `_loop_can_to_tcp` is: before the named action, with the number of the message it has
received, the record it has made of it, and in `sendall` the connection behind its copy of
`self.sock` and the part of the record that is not written. -/
inductive SenderAt
  | loopTest
  | recv
  | encode (number : ℕ) (msg : Message)
  | readSock (number : ℕ) (payload : List UInt8)
  | sendall (number : ℕ) (connection : ℕ) (rest : List UInt8)
  | ended
  deriving DecidableEq, Repr

/-- Where `_tcp_manager` is: before the named action. `openTest`, `opening` and `install` belong to
`_accept_once` and `_connect_once`, and `start` to `next` to `_loop_tcp_to_can`. -/
inductive ManagerAt
  | loopTest
  | openTest
  | opening
  | install (connection : ℕ)
  | start
  | tcpTest
  | readSock
  | recv (connection : ℕ)
  | next
  | clear
  | delay
  | ended
  deriving DecidableEq, Repr

/-- Where a call of `stop` is: before it, before `shutdown` and `close` of the socket, or before the
shutdown of the bus. -/
inductive StopAt
  | idle
  | shutdown
  | close
  | busShutdown
  deriving DecidableEq, Repr

/-- A record that `_loop_tcp_to_can` has decoded, with the bytes it was cut from and the connections
they were received on. -/
structure Decoded where
  record : List UInt8
  bytes : List (ℕ × UInt8)
  deriving DecidableEq, Repr

/-- The state of the bridge. Connections are numbered in the order in which they were opened, and
messages in the order of their reception. `abandoned` counts the connections that were made and
given up before they were installed: they have no number, no byte passes on them, and nothing closes
them. `loop` is the state of `_loop_tcp_to_can`, and `buffered` the bytes of its framer with their
connections. -/
structure State where
  stopEvent : Bool := false
  sock : Option ℕ := none
  connections : ℕ → Connection := fun _ ↦ {}
  opened : ℕ := 0
  abandoned : ℕ := 0
  messages : List Message := []
  sender : SenderAt := .loopTest
  manager : ManagerAt := .loopTest
  stopper : StopAt := .idle
  loop : TcpToCan := {}
  buffered : List (ℕ × UInt8) := []
  decoded : List Decoded := []

/-! ### Actions -/

/-- What `sendall` raises. -/
inductive SendError
  | osError
  | otherError
  | keyboardInterrupt
  deriving DecidableEq, Repr

/-- How an attempt to accept or to connect ends: with a connection, with another pass of the loop (a
timeout of `accept`, an `OSError` of `create_connection`), or with an exception that leaves it. The
connection is `abandoned` when `set_tcp_keepalive` or `settimeout` raises on it. The `except
OSError` of `_connect_once` retries then, and any other exception leaves the loop, as in
`_accept_once`. -/
inductive Opening
  | connected
  | retry
  | raised
  | abandoned (retries : Bool)
  deriving DecidableEq, Repr

/-- The actions of `_loop_can_to_tcp`, with what they meet. -/
inductive SenderAction
  | loopTest
  | recv (outcome : BusRecv)
  | encode
  | readSock
  | write (count : ℕ)
  | sendallReturns
  | sendallRaises (error : SendError)
  deriving DecidableEq, Repr

/-- The actions of `_tcp_manager`, with what they meet. -/
inductive ManagerAction
  | loopTest
  | openTest
  | opening (outcome : Opening)
  | install
  | start
  | tcpTest
  | readSock
  | recv (outcome : Recv)
  | next (busSend : BusSend)
  | clear
  | delay
  deriving DecidableEq, Repr

/-- The next action of one of the threads. -/
inductive Action
  | sender (action : SenderAction)
  | manager (action : ManagerAction)
  | stop
  deriving DecidableEq, Repr

namespace State

/-- Replace one connection. -/
def setConnection (bridge : State) (number : ℕ) (connection : Connection) : State :=
  { bridge with connections := Function.update bridge.connections number connection }

theorem setConnection_self (bridge : State) (number : ℕ) (connection : Connection) :
    (bridge.setConnection number connection).connections number = connection :=
  Function.update_self _ _ _

theorem setConnection_of_ne (bridge : State) {number other : ℕ} (connection : Connection)
    (hother : other ≠ number) :
    (bridge.setConnection number connection).connections other = bridge.connections other :=
  Function.update_of_ne hother _ _

/-- `self.sock.close()`, if there is a socket. -/
def closeSock (bridge : State) : State :=
  match bridge.sock with
  | none => bridge
  | some number =>
    bridge.setConnection number { bridge.connections number with closed := true }

/-! ### From the bus to the connection -/

section Sender

variable (useFdCfg : Bool)

/-- `frame_from_can`, on a message that was received. An exception is logged. -/
def senderEncode (bridge : State) (number : ℕ) (msg : Message) : State :=
  match frameFromCan msg useFdCfg with
  | .error _ => { bridge with sender := .loopTest }
  | .ok payload => { bridge with sender := .readSock number payload }

/-- `bus.recv` ends. -/
def senderRecv (bridge : State) : BusRecv → State
  | .timeout | .otherError => { bridge with sender := .loopTest }
  | .keyboardInterrupt => { bridge with sender := .ended }
  | .message msg =>
    { bridge with
      messages := bridge.messages ++ [msg]
      sender := .encode bridge.messages.length msg }

/-- The copy of `self.sock`, and the call of `sendall` on it if there is a socket. -/
def senderReadSock (bridge : State) (number : ℕ) (payload : List UInt8) : State :=
  match bridge.sock with
  | none => { bridge with sender := .loopTest }
  | some connection => { bridge with sender := .sendall number connection payload }

/-- `sendall` writes some bytes, to a connection that accepts them. -/
def senderWrite (bridge : State) (number connection : ℕ) (rest : List UInt8) (count : ℕ) : State :=
  let target := bridge.connections connection
  if target.Accepts then
    { bridge.setConnection connection
        { target with written := target.written ++ tagged number (rest.take count) } with
      sender := .sendall number connection (rest.drop count) }
  else bridge

/-- `sendall` raises. An `OSError` is logged in the loop, every other exception around its body. -/
def sendallRaises (bridge : State) (connection : ℕ) (error : SendError) : State :=
  { bridge.setConnection connection { bridge.connections connection with broken := true } with
    sender :=
      match error with
      | .osError | .otherError => .loopTest
      | .keyboardInterrupt => .ended }

/-- One action of `_loop_can_to_tcp`. An action that is not the next one changes nothing. -/
def senderStep (bridge : State) : SenderAction → State
  | .loopTest =>
    if bridge.sender = .loopTest then
      { bridge with sender := if bridge.stopEvent then .ended else .recv }
    else bridge
  | .recv outcome => if bridge.sender = .recv then bridge.senderRecv outcome else bridge
  | .encode =>
    match bridge.sender with
    | .encode number msg => bridge.senderEncode useFdCfg number msg
    | _ => bridge
  | .readSock =>
    match bridge.sender with
    | .readSock number payload => bridge.senderReadSock number payload
    | _ => bridge
  | .write count =>
    match bridge.sender with
    | .sendall number connection rest => bridge.senderWrite number connection rest count
    | _ => bridge
  | .sendallReturns =>
    match bridge.sender with
    | .sendall _ _ [] => { bridge with sender := .loopTest }
    | _ => bridge
  | .sendallRaises error =>
    match bridge.sender with
    | .sendall _ connection _ => bridge.sendallRaises connection error
    | _ => bridge

end Sender

/-! ### From the connection to the bus -/

section Manager

variable (python : PythonCan)

/-- `s.recv(4096)` ends. A chunk is fed to the framer, everything else ends the loop. -/
def managerRecv (bridge : State) (connection : ℕ) : Recv → State
  | .chunk [] | .osError | .otherError => { bridge with manager := .clear }
  | .chunk (byte :: bytes) =>
    { bridge with
      manager := .next
      loop := { bridge.loop with framer := bridge.loop.framer.feed (byte :: bytes) }
      buffered := bridge.buffered ++ tagged connection (byte :: bytes) }

/-- `framer.next_record()` and the handling of the record. -/
def managerNext (bridge : State) (busSend : BusSend) : State :=
  match bridge.loop.framer.nextRecord with
  | (none, framer) =>
    { bridge with
      manager := .tcpTest
      loop := { bridge.loop with framer } }
  | (some record, framer) =>
    let loop := handleRecord python (fun _ ↦ busSend) { bridge.loop with framer } record
    { bridge with
      manager := if loop.ended then .clear else .next
      loop
      buffered := bridge.buffered.drop (2 + record.length)
      decoded := bridge.decoded ++ [⟨record, bridge.buffered.take (2 + record.length)⟩] }

/-- An attempt to accept or to connect ends. -/
def managerOpening (bridge : State) : Opening → State
  | .connected =>
    { bridge with
      opened := bridge.opened + 1
      manager := .install bridge.opened }
  | .retry => { bridge with manager := .openTest }
  | .raised => { bridge with manager := .clear }
  | .abandoned retries =>
    { bridge with
      abandoned := bridge.abandoned + 1
      manager := if retries then .openTest else .clear }

/-- One action of `_tcp_manager`. An action that is not the next one changes nothing. -/
def managerStep (bridge : State) : ManagerAction → State
  | .loopTest =>
    if bridge.manager = .loopTest then
      { bridge with manager := if bridge.stopEvent then .ended else .openTest }
    else bridge
  | .openTest =>
    if bridge.manager = .openTest then
      { bridge with manager := if bridge.stopEvent then .start else .opening }
    else bridge
  | .opening outcome =>
    if bridge.manager = .opening then bridge.managerOpening outcome else bridge
  | .install =>
    match bridge.manager with
    | .install connection =>
      { bridge.closeSock with
        sock := some connection
        manager := .start }
    | _ => bridge
  | .start =>
    if bridge.manager = .start then
      { bridge with
        loop := {}
        buffered := []
        manager := .tcpTest }
    else bridge
  | .tcpTest =>
    if bridge.manager = .tcpTest then
      { bridge with manager := if bridge.stopEvent then .clear else .readSock }
    else bridge
  | .readSock =>
    if bridge.manager = .readSock then
      { bridge with
        manager :=
          match bridge.sock with
          | none => .clear
          | some connection => .recv connection }
    else bridge
  | .recv outcome =>
    match bridge.manager with
    | .recv connection => bridge.managerRecv connection outcome
    | _ => bridge
  | .next busSend => if bridge.manager = .next then bridge.managerNext python busSend else bridge
  | .clear =>
    if bridge.manager = .clear then
      { bridge.closeSock with
        sock := none
        manager := .delay }
    else bridge
  | .delay => if bridge.manager = .delay then { bridge with manager := .loopTest } else bridge

end Manager

/-- One action of `stop`. A socket that is shut down may still accept bytes or not. -/
def stopStep (bridge : State) : State :=
  match bridge.stopper with
  | .idle =>
    { bridge with
      stopEvent := true
      stopper := .shutdown }
  | .shutdown => { bridge with stopper := .close }
  | .close => { bridge.closeSock with stopper := .busShutdown }
  | .busShutdown => { bridge with stopper := .idle }

end State

/-- One action of the bridge. -/
def step (python : PythonCan) (useFdCfg : Bool) (bridge : State) : Action → State
  | .sender action => bridge.senderStep useFdCfg action
  | .manager action => bridge.managerStep python action
  | .stop => bridge.stopStep

/-- The bridge after some actions. -/
def run (python : PythonCan) (useFdCfg : Bool) (actions : List Action) : State :=
  runFrom (step python useFdCfg) {} actions

/-! ### The records of messages -/

/-- The record that `frame_from_can` makes of the message with a number. -/
def recordNumber (useFdCfg : Bool) (messages : List Message) (number : ℕ) : List UInt8 :=
  match messages[number]? with
  | none => []
  | some msg => (frameFromCan msg useFdCfg).toOption.getD []

/-- A message that is received later does not change the records of the others. -/
theorem recordNumber_append (useFdCfg : Bool) (messages more : List Message) {number : ℕ}
    (hnumber : number < messages.length) :
    recordNumber useFdCfg messages number = recordNumber useFdCfg (messages ++ more) number := by
  rw [recordNumber, recordNumber, List.getElem?_append_left hnumber]

theorem recordNumber_last (useFdCfg : Bool) (messages : List Message) (msg : Message) :
    recordNumber useFdCfg (messages ++ [msg]) messages.length =
      (frameFromCan msg useFdCfg).toOption.getD [] := by
  rw [recordNumber, List.getElem?_concat_length]

end CanopenTools.Bridge.Connections
