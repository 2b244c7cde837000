import CanopenTools.Bridge.Connections

/-!
# Connections never mix or split records

What the bytes on the connections of a bridge are, in every run of its threads (`unmixed_run`). A
connection carries whole records of the CAN messages in the order of their reception, then at most a
part of one more; no two connections carry bytes of one message; and the bytes of a record that
`_loop_tcp_to_can` decodes were all received on one connection.

The invariant has a part for each direction. `SenderSound` is about the messages, the sender and the
connections, of which the other threads only close some (`Untouched`). A connection that still
accepts bytes is whole up to the message that the sender is at, and the one in `sendall` is underway
with the part that is written. `ManagerSound` binds the buffer of the framer to the socket, which no
other thread replaces (`SameReceiving`).
-/

set_option autoImplicit false
set_option relaxedAutoImplicit false

namespace CanopenTools.Bridge.Connections

open Framing Runs

/-! ### The sender and the connections -/

/-- The connection that `sendall` is writing to. -/
def SenderAt.target : SenderAt → Option ℕ
  | .sendall _ connection _ => some connection
  | _ => none

namespace State

/-- The number of the message that the sender is at: the messages before it are done with. -/
def atMessage (bridge : State) : ℕ :=
  match bridge.sender with
  | .encode number _ | .readSock number _ | .sendall number _ _ => number
  | _ => bridge.messages.length

end State

/-- A connection that nothing is being written to. -/
structure Rests (record : ℕ → List UInt8) (bound : ℕ) (connection : Connection) : Prop where
  orderly : Orderly record bound connection.written
  whole : connection.Accepts → Whole record bound connection.written

/-- A connection that the rest of a record is being written to. -/
structure Sends (record : ℕ → List UInt8) (number : ℕ) (rest : List UInt8)
    (connection : Connection) : Prop where
  orderly : Orderly record (number + 1) connection.written
  underway : connection.Accepts → Underway record number rest connection.written

section Invariant

variable (useFdCfg : Bool) (bridge : State)

/-- The message that the sender holds is the last one received, and what it holds is its record. -/
def SenderHolds : Prop :=
  match bridge.sender with
  | .encode number msg =>
    bridge.messages.length = number + 1 ∧
      recordNumber useFdCfg bridge.messages number = (frameFromCan msg useFdCfg).toOption.getD []
  | .readSock number payload =>
    bridge.messages.length = number + 1 ∧
      recordNumber useFdCfg bridge.messages number = payload
  | .sendall number connection rest =>
    bridge.messages.length = number + 1 ∧
      Sends (recordNumber useFdCfg bridge.messages) number rest (bridge.connections connection)
  | _ => True

/-- No two connections carry bytes of one message. -/
def Apart : Prop :=
  ∀ first second, first ≠ second → ∀ byte ∈ (bridge.connections first).written,
    ∀ other ∈ (bridge.connections second).written, byte.1 ≠ other.1

/-- The invariant of the sender and the connections. -/
structure SenderSound : Prop where
  holds : SenderHolds useFdCfg bridge
  rests : ∀ connection, bridge.sender.target ≠ some connection →
    Rests (recordNumber useFdCfg bridge.messages) bridge.atMessage (bridge.connections connection)
  apart : Apart bridge

end Invariant

/-- The sender and the messages are as before, and connections are at most closed. -/
structure Untouched (bridge after : State) : Prop where
  messages : after.messages = bridge.messages
  sender : after.sender = bridge.sender
  written : ∀ connection,
    (after.connections connection).written = (bridge.connections connection).written
  accepts : ∀ connection,
    (after.connections connection).Accepts → (bridge.connections connection).Accepts

theorem Untouched.refl (bridge : State) : Untouched bridge bridge :=
  ⟨rfl, rfl, fun _ ↦ rfl, fun _ haccepts ↦ haccepts⟩

theorem untouched_closeSock (bridge : State) : Untouched bridge bridge.closeSock := by
  unfold State.closeSock
  cases bridge.sock with
  | none => exact Untouched.refl bridge
  | some number =>
    refine ⟨rfl, rfl, fun connection ↦ ?_, fun connection haccepts ↦ ?_⟩
    · by_cases hsame : connection = number
      · subst hsame
        simp [State.setConnection]
      · simp [State.setConnection, Function.update_of_ne hsame]
    · by_cases hsame : connection = number
      · subst hsame
        simp [State.setConnection, Connection.Accepts] at haccepts
      · simpa [State.setConnection, Function.update_of_ne hsame] using haccepts

/-- The manager at most closes a connection. -/
theorem untouched_managerStep (python : PythonCan) (bridge : State) (action : ManagerAction) :
    Untouched bridge (bridge.managerStep python action) := by
  have hsame := Untouched.refl bridge
  have hclose := untouched_closeSock bridge
  cases action with
  | install =>
    simp only [State.managerStep]
    split
    · exact ⟨hclose.messages, hclose.sender, hclose.written, hclose.accepts⟩
    · exact hsame
  | clear =>
    simp only [State.managerStep]
    split_ifs
    · exact ⟨hclose.messages, hclose.sender, hclose.written, hclose.accepts⟩
    · exact hsame
  | opening outcome =>
    simp only [State.managerStep]
    split_ifs
    · cases outcome <;> exact ⟨rfl, rfl, hsame.written, hsame.accepts⟩
    · exact hsame
  | recv outcome =>
    simp only [State.managerStep]
    split
    · unfold State.managerRecv
      split <;> exact ⟨rfl, rfl, hsame.written, hsame.accepts⟩
    · exact hsame
  | next busSend =>
    simp only [State.managerStep]
    split_ifs
    · unfold State.managerNext
      split <;> exact ⟨rfl, rfl, hsame.written, hsame.accepts⟩
    · exact hsame
  | _ =>
    simp only [State.managerStep]
    split_ifs <;> exact ⟨rfl, rfl, hsame.written, hsame.accepts⟩

/-- So does `stop`. -/
theorem untouched_stopStep (bridge : State) : Untouched bridge bridge.stopStep := by
  have hclose := untouched_closeSock bridge
  unfold State.stopStep
  cases bridge.stopper with
  | close => exact ⟨hclose.messages, hclose.sender, hclose.written, hclose.accepts⟩
  | _ => exact ⟨rfl, rfl, fun _ ↦ rfl, fun _ haccepts ↦ haccepts⟩

variable {useFdCfg : Bool} {bridge after : State}

/-- A connection that is closed keeps what is written on it. -/
theorem SenderSound.untouched (hsound : SenderSound useFdCfg bridge)
    (huntouched : Untouched bridge after) : SenderSound useFdCfg after := by
  obtain ⟨hmessages, hsender, hwritten, haccepts⟩ := huntouched
  refine ⟨?_, fun connection htarget ↦ ?_, fun first second hne byte hbyte other hother ↦ ?_⟩
  · have hholds := hsound.holds
    unfold SenderHolds at hholds ⊢
    rw [hsender, hmessages]
    cases hat : bridge.sender with
    | sendall number connection rest =>
      rw [hat] at hholds
      obtain ⟨hlength, horderly, hunderway⟩ := hholds
      refine ⟨hlength, ?_, fun haccept ↦ ?_⟩
      · rw [hwritten]
        exact horderly
      · rw [hwritten]
        exact hunderway (haccepts connection haccept)
    | _ =>
      rw [hat] at hholds
      exact hholds
  · rw [hsender] at htarget
    obtain ⟨horderly, hwhole⟩ := hsound.rests connection htarget
    have hat : after.atMessage = bridge.atMessage := by
      rw [State.atMessage, State.atMessage, hsender, hmessages]
    rw [hmessages, hat]
    refine ⟨?_, fun haccept ↦ ?_⟩
    · rw [hwritten]
      exact horderly
    · rw [hwritten]
      exact hwhole (haccepts connection haccept)
  · rw [hwritten] at hbyte hother
    exact hsound.apart first second hne byte hbyte other hother

/-! ### The actions of the sender -/

/-- The sender is between two messages. -/
def SenderAt.Idle (sender : SenderAt) : Prop :=
  sender = .loopTest ∨ sender = .recv ∨ sender = .ended

theorem SenderAt.Idle.target {sender : SenderAt} (hidle : sender.Idle) : sender.target = none := by
  rcases hidle with rfl | rfl | rfl <;> rfl

theorem State.atMessage_of_idle (hidle : bridge.sender.Idle) :
    bridge.atMessage = bridge.messages.length := by
  unfold State.atMessage
  rcases hidle with hat | hat | hat <;> rw [hat]

theorem senderHolds_of_idle (hidle : bridge.sender.Idle) : SenderHolds useFdCfg bridge := by
  unfold SenderHolds
  rcases hidle with hat | hat | hat <;> rw [hat] <;> trivial

theorem SenderSound.at_encode (hsound : SenderSound useFdCfg bridge) {number : ℕ} {msg : Message}
    (hat : bridge.sender = .encode number msg) :
    bridge.messages.length = number + 1 ∧
      recordNumber useFdCfg bridge.messages number =
        (frameFromCan msg useFdCfg).toOption.getD [] := by
  have hholds := hsound.holds
  unfold SenderHolds at hholds
  rwa [hat] at hholds

theorem SenderSound.at_readSock (hsound : SenderSound useFdCfg bridge) {number : ℕ}
    {payload : List UInt8} (hat : bridge.sender = .readSock number payload) :
    bridge.messages.length = number + 1 ∧
      recordNumber useFdCfg bridge.messages number = payload := by
  have hholds := hsound.holds
  unfold SenderHolds at hholds
  rwa [hat] at hholds

theorem SenderSound.at_sendall (hsound : SenderSound useFdCfg bridge) {number connection : ℕ}
    {rest : List UInt8} (hat : bridge.sender = .sendall number connection rest) :
    bridge.messages.length = number + 1 ∧
      Sends (recordNumber useFdCfg bridge.messages) number rest
        (bridge.connections connection) := by
  have hholds := hsound.holds
  unfold SenderHolds at hholds
  rwa [hat] at hholds

theorem Rests.mono {record : ℕ → List UInt8} {bound larger : ℕ} {connection : Connection}
    (hrests : Rests record bound connection) (hbound : bound ≤ larger) :
    Rests record larger connection :=
  ⟨hrests.orderly.mono hbound, fun haccepts ↦ (hrests.whole haccepts).mono hbound⟩

theorem SenderSound.atMessage_le (hsound : SenderSound useFdCfg bridge) :
    bridge.atMessage ≤ bridge.messages.length := by
  unfold State.atMessage
  cases hat : bridge.sender with
  | encode number msg => exact (hsound.at_encode hat).1 ▸ Nat.le_succ number
  | readSock number payload => exact (hsound.at_readSock hat).1 ▸ Nat.le_succ number
  | sendall number connection rest => exact (hsound.at_sendall hat).1 ▸ Nat.le_succ number
  | _ => exact le_rfl

/-- Outside `sendall` the sender can go on to the next message. -/
theorem SenderSound.goOn (hsound : SenderSound useFdCfg bridge)
    (htarget : bridge.sender.target = none) {sender : SenderAt} (hidle : sender.Idle) :
    SenderSound useFdCfg { bridge with sender } := by
  refine ⟨senderHolds_of_idle hidle, fun connection _ ↦ ?_, hsound.apart⟩
  rw [State.atMessage_of_idle hidle]
  exact (hsound.rests connection (by rw [htarget]; simp)).mono hsound.atMessage_le

/-- `sendall` ends. -/
theorem SenderSound.sendEnds (hsound : SenderSound useFdCfg bridge) {number connection : ℕ}
    {rest : List UInt8} (hat : bridge.sender = .sendall number connection rest)
    {sender : SenderAt} (hidle : sender.Idle) {left : Connection}
    (hwritten : left.written = (bridge.connections connection).written)
    (hwhole : left.Accepts → Whole (recordNumber useFdCfg bridge.messages) (number + 1)
      left.written) :
    SenderSound useFdCfg { bridge.setConnection connection left with sender } := by
  obtain ⟨hlength, horderly, -⟩ := hsound.at_sendall hat
  have hsame : ∀ other, ((bridge.setConnection connection left).connections other).written =
      (bridge.connections other).written := by
    intro other
    by_cases hother : other = connection
    · subst hother
      rw [State.setConnection_self, hwritten]
    · rw [State.setConnection_of_ne bridge left hother]
  refine ⟨senderHolds_of_idle hidle, fun other _ ↦ ?_, fun first second hne byte hbyte ↦ ?_⟩
  · rw [State.atMessage_of_idle hidle]
    by_cases hother : other = connection
    · subst hother
      change Rests (recordNumber useFdCfg bridge.messages) bridge.messages.length
        ((bridge.setConnection other left).connections other)
      rw [State.setConnection_self, hlength]
      exact ⟨hwritten ▸ horderly, hwhole⟩
    · have hrests := hsound.rests other (by rw [hat]; simpa [SenderAt.target] using Ne.symm hother)
      change Rests (recordNumber useFdCfg bridge.messages) bridge.messages.length
        ((bridge.setConnection connection left).connections other)
      rw [State.setConnection_of_ne bridge left hother]
      exact hrests.mono hsound.atMessage_le
  · change byte ∈ ((bridge.setConnection connection left).connections first).written at hbyte
    change ∀ other ∈ ((bridge.setConnection connection left).connections second).written, _
    rw [hsame] at hbyte ⊢
    exact hsound.apart first second hne byte hbyte

/-- A message is received. It is the next one, and the records before it stay what they are. -/
theorem SenderSound.receive (hsound : SenderSound useFdCfg bridge) (hidle : bridge.sender.Idle)
    (msg : Message) :
    SenderSound useFdCfg
      { bridge with
        messages := bridge.messages ++ [msg]
        sender := .encode bridge.messages.length msg } := by
  refine ⟨⟨?_, ?_⟩, fun connection _ ↦ ?_, hsound.apart⟩
  · rw [List.length_append, List.length_singleton]
  · exact recordNumber_last useFdCfg bridge.messages msg
  · have hrests := hsound.rests connection (by rw [hidle.target]; simp)
    rw [State.atMessage_of_idle hidle] at hrests
    have hagree : ∀ number < bridge.messages.length,
        recordNumber useFdCfg bridge.messages number =
          recordNumber useFdCfg (bridge.messages ++ [msg]) number :=
      fun _ hnumber ↦ recordNumber_append useFdCfg bridge.messages [msg] hnumber
    exact ⟨hrests.orderly.congr hagree, fun haccepts ↦ (hrests.whole haccepts).congr hagree⟩

/-- The sender goes from a message to its record. -/
theorem SenderSound.encode (hsound : SenderSound useFdCfg bridge) {number : ℕ} {msg : Message}
    (hat : bridge.sender = .encode number msg) :
    SenderSound useFdCfg (bridge.senderEncode useFdCfg number msg) := by
  have hholds := hsound.at_encode hat
  unfold State.senderEncode
  cases hframe : frameFromCan msg useFdCfg with
  | error error => exact hsound.goOn (by rw [hat]; rfl) (Or.inl rfl)
  | ok payload =>
    rw [hframe] at hholds
    refine ⟨hholds, fun connection _ ↦ ?_, hsound.apart⟩
    have hrests := hsound.rests connection (by rw [hat]; simp [SenderAt.target])
    rw [State.atMessage, hat] at hrests
    exact hrests

/-- The sender takes a copy of the socket. -/
theorem SenderSound.readSock (hsound : SenderSound useFdCfg bridge) {number : ℕ}
    {payload : List UInt8} (hat : bridge.sender = .readSock number payload) :
    SenderSound useFdCfg (bridge.senderReadSock number payload) := by
  obtain ⟨hlength, hrecord⟩ := hsound.at_readSock hat
  have hrests : ∀ connection, Rests (recordNumber useFdCfg bridge.messages) number
      (bridge.connections connection) := by
    intro connection
    have hrests := hsound.rests connection (by rw [hat]; simp [SenderAt.target])
    rwa [State.atMessage, hat] at hrests
  unfold State.senderReadSock
  split
  · exact hsound.goOn (by rw [hat]; rfl) (Or.inl rfl)
  · rename_i connection _
    refine ⟨⟨hlength, (hrests connection).orderly.mono (Nat.le_succ number), fun haccepts ↦ ?_⟩,
      fun other _ ↦ hrests other, hsound.apart⟩
    exact hrecord ▸ ((hrests connection).whole haccepts).start

/-- Bytes of a message that no other connection carries may be written to a connection. -/
theorem Apart.write (hapart : Apart bridge) {number connection : ℕ}
    (hbelow : ∀ other, other ≠ connection →
      ∀ byte ∈ (bridge.connections other).written, byte.1 < number)
    {left : Connection} {bytes : List UInt8}
    (hleft : left.written = (bridge.connections connection).written ++ tagged number bytes) :
    Apart (bridge.setConnection connection left) := by
  have hcross : ∀ other, other ≠ connection → ∀ byte ∈ left.written,
      ∀ foreign ∈ (bridge.connections other).written, byte.1 ≠ foreign.1 := by
    intro other hother byte hbyte foreign hforeign
    rw [hleft] at hbyte
    rcases List.mem_append.mp hbyte with hold | hnew
    · exact hapart connection other (Ne.symm hother) byte hold foreign hforeign
    · rw [fst_of_mem_tagged hnew]
      exact (hbelow other hother foreign hforeign).ne'
  intro first second hne byte hbyte foreign hforeign
  by_cases hfirst : first = connection
  · subst hfirst
    rw [State.setConnection_self] at hbyte
    rw [State.setConnection_of_ne bridge left (Ne.symm hne)] at hforeign
    exact hcross second (Ne.symm hne) byte hbyte foreign hforeign
  · rw [State.setConnection_of_ne bridge left hfirst] at hbyte
    by_cases hsecond : second = connection
    · subst hsecond
      rw [State.setConnection_self] at hforeign
      exact (hcross first hne foreign hforeign byte hbyte).symm
    · rw [State.setConnection_of_ne bridge left hsecond] at hforeign
      exact hapart first second hne byte hbyte foreign hforeign

/-- `sendall` writes the next bytes of its record. No other connection carries bytes of it, since
what rests is below the message that the sender is at. -/
theorem SenderSound.write (hsound : SenderSound useFdCfg bridge) {number connection : ℕ}
    {rest : List UInt8} (hat : bridge.sender = .sendall number connection rest) (count : ℕ) :
    SenderSound useFdCfg (bridge.senderWrite number connection rest count) := by
  obtain ⟨hlength, -, hunderway⟩ := hsound.at_sendall hat
  by_cases haccepts : (bridge.connections connection).Accepts
  · have hnew := (hunderway haccepts).write count
    have hothers : ∀ other, other ≠ connection →
        Rests (recordNumber useFdCfg bridge.messages) number (bridge.connections other) := by
      intro other hother
      have hrests := hsound.rests other (by rw [hat]; simpa [SenderAt.target] using Ne.symm hother)
      rwa [State.atMessage, hat] at hrests
    simp only [State.senderWrite, if_pos haccepts, State.setConnection]
    have hapart : Apart (bridge.setConnection connection
        { bridge.connections connection with
          written := (bridge.connections connection).written ++
            tagged number (rest.take count) }) :=
      hsound.apart.write
        (fun other hother byte hbyte ↦ (hothers other hother).orderly.fst_lt hbyte) rfl
    refine ⟨⟨hlength, ?_⟩, fun other htarget ↦ ?_, hapart⟩
    · simp only [Function.update_self]
      exact ⟨hnew.orderly, fun _ ↦ hnew⟩
    · have hother : other ≠ connection := fun hsame ↦ htarget (hsame ▸ rfl)
      simp only [Function.update_of_ne hother]
      exact hothers other hother
  · simp only [State.senderWrite, if_neg haccepts]
    exact hsound

/-- Every action of the sender keeps the invariant. -/
theorem SenderSound.senderStep (hsound : SenderSound useFdCfg bridge) (action : SenderAction) :
    SenderSound useFdCfg (bridge.senderStep useFdCfg action) := by
  cases action with
  | loopTest =>
    simp only [State.senderStep]
    split_ifs with hat hstop
    · exact hsound.goOn (by rw [hat]; rfl) (Or.inr (Or.inr rfl))
    · exact hsound.goOn (by rw [hat]; rfl) (Or.inr (Or.inl rfl))
    · exact hsound
  | recv outcome =>
    simp only [State.senderStep]
    split_ifs with hat
    · have hidle : bridge.sender.Idle := Or.inr (Or.inl hat)
      cases outcome with
      | message msg => exact hsound.receive hidle msg
      | keyboardInterrupt => exact hsound.goOn hidle.target (Or.inr (Or.inr rfl))
      | timeout => exact hsound.goOn hidle.target (Or.inl rfl)
      | otherError => exact hsound.goOn hidle.target (Or.inl rfl)
    · exact hsound
  | encode =>
    simp only [State.senderStep]
    split
    · exact hsound.encode ‹_›
    · exact hsound
  | readSock =>
    simp only [State.senderStep]
    split
    · exact hsound.readSock ‹_›
    · exact hsound
  | write count =>
    simp only [State.senderStep]
    split
    · exact hsound.write ‹_› count
    · exact hsound
  | sendallReturns =>
    simp only [State.senderStep]
    split
    · rename_i number connection hat
      have hsends := (hsound.at_sendall hat).2
      have hends := hsound.sendEnds hat (Or.inl rfl) rfl
        fun haccepts ↦ (hsends.underway haccepts).finish
      rwa [State.setConnection, Function.update_eq_self] at hends
    · exact hsound
  | sendallRaises error =>
    simp only [State.senderStep]
    split
    · rename_i number connection rest hat
      refine hsound.sendEnds hat ?_ rfl fun haccepts ↦ absurd haccepts.2 Bool.noConfusion
      cases error with
      | keyboardInterrupt => exact Or.inr (Or.inr rfl)
      | osError => exact Or.inl rfl
      | otherError => exact Or.inl rfl
    · exact hsound

/-! ### The manager and its buffer -/

/-- The manager is in the loop of `_loop_tcp_to_can`. -/
def ManagerAt.InLoop : ManagerAt → Prop
  | .tcpTest | .readSock | .recv _ | .next => True
  | _ => False

/-- The invariant of the manager. In the loop, the framer holds the bytes received on the connection
behind the socket. -/
structure ManagerSound (bridge : State) : Prop where
  bytes : bridge.manager.InLoop → bridge.buffered.map Prod.snd = bridge.loop.framer.buf
  sources : bridge.manager.InLoop → ∀ byte ∈ bridge.buffered, bridge.sock = some byte.1
  recv : ∀ connection, bridge.manager = .recv connection → bridge.sock = some connection
  decoded : ∀ entry ∈ bridge.decoded, entry.bytes.map Prod.snd = encodeRecord entry.record ∧
    ∃ connection, ∀ byte ∈ entry.bytes, byte.1 = connection

/-- The manager, the socket and the buffer are as before. -/
structure SameReceiving (bridge after : State) : Prop where
  manager : after.manager = bridge.manager
  sock : after.sock = bridge.sock
  loop : after.loop = bridge.loop
  buffered : after.buffered = bridge.buffered
  decoded : after.decoded = bridge.decoded

theorem ManagerSound.sameReceiving (hsound : ManagerSound bridge)
    (hsame : SameReceiving bridge after) : ManagerSound after := by
  obtain ⟨hmanager, hsock, hloop, hbuffered, hdecoded⟩ := hsame
  refine ⟨?_, ?_, ?_, ?_⟩
  · rw [hmanager, hbuffered, hloop]
    exact hsound.bytes
  · rw [hmanager, hbuffered, hsock]
    exact hsound.sources
  · rw [hmanager, hsock]
    exact hsound.recv
  · rw [hdecoded]
    exact hsound.decoded

/-- `close` changes connections only. -/
theorem sameReceiving_closeSock (bridge : State) : SameReceiving bridge bridge.closeSock := by
  unfold State.closeSock
  split <;> exact ⟨rfl, rfl, rfl, rfl, rfl⟩

/-- The sender receives nothing. -/
theorem sameReceiving_senderStep (useFdCfg : Bool) (bridge : State) (action : SenderAction) :
    SameReceiving bridge (bridge.senderStep useFdCfg action) := by
  cases action with
  | loopTest =>
    simp only [State.senderStep]
    split_ifs <;> exact ⟨rfl, rfl, rfl, rfl, rfl⟩
  | recv outcome =>
    simp only [State.senderStep]
    split_ifs
    · cases outcome <;> exact ⟨rfl, rfl, rfl, rfl, rfl⟩
    · exact ⟨rfl, rfl, rfl, rfl, rfl⟩
  | encode =>
    simp only [State.senderStep, State.senderEncode]
    split
    · split <;> exact ⟨rfl, rfl, rfl, rfl, rfl⟩
    · exact ⟨rfl, rfl, rfl, rfl, rfl⟩
  | readSock =>
    simp only [State.senderStep, State.senderReadSock]
    split
    · split <;> exact ⟨rfl, rfl, rfl, rfl, rfl⟩
    · exact ⟨rfl, rfl, rfl, rfl, rfl⟩
  | write count =>
    simp only [State.senderStep, State.senderWrite]
    split
    · split_ifs <;> exact ⟨rfl, rfl, rfl, rfl, rfl⟩
    · exact ⟨rfl, rfl, rfl, rfl, rfl⟩
  | sendallReturns =>
    simp only [State.senderStep]
    split <;> exact ⟨rfl, rfl, rfl, rfl, rfl⟩
  | sendallRaises error =>
    simp only [State.senderStep]
    split <;> exact ⟨rfl, rfl, rfl, rfl, rfl⟩

/-- Neither does `stop`. -/
theorem sameReceiving_stopStep (bridge : State) : SameReceiving bridge bridge.stopStep := by
  have hclose := sameReceiving_closeSock bridge
  unfold State.stopStep
  cases bridge.stopper with
  | close =>
    exact ⟨hclose.manager, hclose.sock, hclose.loop, hclose.buffered, hclose.decoded⟩
  | _ => exact ⟨rfl, rfl, rfl, rfl, rfl⟩

theorem handleRecord_framer (python : PythonCan) (busSend : ℕ → BusSend) (loop : TcpToCan)
    (record : List UInt8) :
    (handleRecord python busSend loop record).framer = loop.framer := by
  unfold handleRecord
  split
  · rfl
  · split <;> rfl

/-- Outside the loop nothing is known of the buffer. -/
theorem ManagerSound.outside (hsound : ManagerSound bridge)
    (hdecoded : after.decoded = bridge.decoded) (hout : ¬ after.manager.InLoop) :
    ManagerSound after := by
  refine ⟨fun hin ↦ absurd hin hout, fun hin ↦ absurd hin hout, fun connection hat ↦ ?_, ?_⟩
  · rw [hat] at hout
    exact absurd trivial hout
  · rw [hdecoded]
    exact hsound.decoded

/-- In the loop the manager can go on, to a receive on the connection behind the socket only. -/
theorem ManagerSound.goOn (hsound : ManagerSound bridge) (hin : bridge.manager.InLoop)
    {manager : ManagerAt}
    (hrecv : ∀ connection, manager = .recv connection → bridge.sock = some connection) :
    ManagerSound { bridge with manager } :=
  ⟨fun _ ↦ hsound.bytes hin, fun _ ↦ hsound.sources hin, hrecv, hsound.decoded⟩

/-- A chunk is fed: it was received on the connection behind the socket. -/
theorem ManagerSound.managerRecv (hsound : ManagerSound bridge) {connection : ℕ}
    (hat : bridge.manager = .recv connection) (outcome : Recv) :
    ManagerSound (bridge.managerRecv connection outcome) := by
  have hin : bridge.manager.InLoop := by
    rw [hat]
    trivial
  unfold State.managerRecv
  split
  · exact hsound.outside rfl not_false
  · exact hsound.outside rfl not_false
  · exact hsound.outside rfl not_false
  · rename_i byte bytes
    refine ⟨fun _ ↦ ?_, fun _ ↦ ?_, fun _ hrecv ↦ absurd hrecv (by simp), hsound.decoded⟩
    · change (bridge.buffered ++ tagged connection (byte :: bytes)).map Prod.snd =
        bridge.loop.framer.buf ++ (byte :: bytes)
      rw [List.map_append, map_snd_tagged, hsound.bytes hin]
    · intro other hother
      rcases List.mem_append.mp hother with hold | hnew
      · exact hsound.sources hin other hold
      · rw [fst_of_mem_tagged hnew]
        exact hsound.recv connection hat

theorem eq_of_nextRecord_none {framer rest : TCPFramer}
    (hnext : framer.nextRecord = (none, rest)) : rest = framer := by
  unfold TCPFramer.nextRecord at hnext
  simp only at hnext
  split_ifs at hnext
  · exact (congrArg Prod.snd hnext).symm
  · exact (congrArg Prod.snd hnext).symm
  · exact absurd (congrArg Prod.fst hnext) (by simp)

/-- A record is cut off the buffer, and so are its bytes. -/
theorem ManagerSound.managerNext (hsound : ManagerSound bridge) (hat : bridge.manager = .next)
    (python : PythonCan) (busSend : BusSend) :
    ManagerSound (bridge.managerNext python busSend) := by
  have hin : bridge.manager.InLoop := by
    rw [hat]
    trivial
  have hbytes := hsound.bytes hin
  have hsources := hsound.sources hin
  unfold State.managerNext
  split
  · rename_i framer hnext
    obtain rfl := eq_of_nextRecord_none hnext
    exact ⟨fun _ ↦ hbytes, fun _ ↦ hsources, fun _ hrecv ↦ absurd hrecv (by simp), hsound.decoded⟩
  · rename_i record framer hnext
    have hcut : record.length < 65536 ∧
        bridge.loop.framer.buf = encodeRecord record ++ framer.buf :=
      eq_encodeRecord_of_nextRecord hnext
    rw [hcut.2] at hbytes
    refine ⟨fun _ ↦ ?_, fun _ byte hbyte ↦ ?_, fun connection hrecv ↦ ?_, fun entry hentry ↦ ?_⟩
    · change (bridge.buffered.drop (2 + record.length)).map Prod.snd =
        (handleRecord python (fun _ ↦ busSend) { bridge.loop with framer } record).framer.buf
      rw [handleRecord_framer, List.map_drop, hbytes, List.drop_left' (length_encodeRecord record)]
    · exact hsources byte (List.mem_of_mem_drop hbyte)
    · change (if _ then ManagerAt.clear else ManagerAt.next) = _ at hrecv
      split_ifs at hrecv
    · rcases List.mem_append.mp hentry with hold | hnew
      · exact hsound.decoded entry hold
      · obtain rfl := List.mem_singleton.mp hnew
        refine ⟨?_, bridge.sock.getD 0, fun byte hbyte ↦ ?_⟩
        · change (bridge.buffered.take (2 + record.length)).map Prod.snd = _
          rw [List.map_take, hbytes, List.take_left' (length_encodeRecord record)]
        · rw [hsources byte (List.mem_of_mem_take hbyte)]
          rfl

/-- Every action of the manager keeps the invariant. -/
theorem ManagerSound.managerStep (hsound : ManagerSound bridge) (python : PythonCan)
    (action : ManagerAction) : ManagerSound (bridge.managerStep python action) := by
  cases action with
  | loopTest =>
    simp only [State.managerStep]
    split_ifs
    · exact hsound.outside rfl not_false
    · exact hsound.outside rfl not_false
    · exact hsound
  | openTest =>
    simp only [State.managerStep]
    split_ifs
    · exact hsound.outside rfl not_false
    · exact hsound.outside rfl not_false
    · exact hsound
  | opening outcome =>
    simp only [State.managerStep]
    split_ifs
    · cases outcome with
      | abandoned retries => cases retries <;> exact hsound.outside rfl not_false
      | _ => exact hsound.outside rfl not_false
    · exact hsound
  | install =>
    simp only [State.managerStep]
    split
    · exact hsound.outside (sameReceiving_closeSock bridge).decoded not_false
    · exact hsound
  | start =>
    simp only [State.managerStep]
    split_ifs
    · exact ⟨fun _ ↦ rfl, fun _ _ hnone ↦ absurd hnone List.not_mem_nil,
        fun _ hrecv ↦ absurd hrecv (by simp), hsound.decoded⟩
    · exact hsound
  | tcpTest =>
    simp only [State.managerStep]
    split_ifs with hat hstop
    · exact hsound.outside rfl not_false
    · exact hsound.goOn (by rw [hat]; trivial) fun _ hrecv ↦ absurd hrecv (by simp)
    · exact hsound
  | readSock =>
    simp only [State.managerStep]
    split_ifs with hat
    · refine hsound.goOn (by rw [hat]; trivial) fun connection hrecv ↦ ?_
      split at hrecv
      · exact absurd hrecv (by simp)
      · rename_i other hsock
        rw [hsock, ManagerAt.recv.inj hrecv]
    · exact hsound
  | recv outcome =>
    simp only [State.managerStep]
    split
    · exact hsound.managerRecv ‹_› outcome
    · exact hsound
  | next busSend =>
    simp only [State.managerStep]
    split_ifs with hat
    · exact hsound.managerNext hat python busSend
    · exact hsound
  | clear =>
    simp only [State.managerStep]
    split_ifs
    · exact hsound.outside (sameReceiving_closeSock bridge).decoded not_false
    · exact hsound
  | delay =>
    simp only [State.managerStep]
    split_ifs
    · exact hsound.outside rfl not_false
    · exact hsound

/-! ### The result -/

/-- The connections carry whole records of the messages in the order of their reception, then at
most a part of one more. No two connections carry bytes of one message, and the bytes of a decoded
record were received on one connection. -/
structure Unmixed (useFdCfg : Bool) (bridge : State) : Prop where
  orderly : ∀ connection, Orderly (recordNumber useFdCfg bridge.messages) bridge.messages.length
    (bridge.connections connection).written
  apart : Apart bridge
  decoded : ∀ entry ∈ bridge.decoded, entry.bytes.map Prod.snd = encodeRecord entry.record ∧
    ∃ connection, ∀ byte ∈ entry.bytes, byte.1 = connection

theorem SenderSound.orderly (hsound : SenderSound useFdCfg bridge) (connection : ℕ) :
    Orderly (recordNumber useFdCfg bridge.messages) bridge.messages.length
      (bridge.connections connection).written := by
  by_cases htarget : bridge.sender.target = some connection
  · cases hat : bridge.sender with
    | sendall number other rest =>
      rw [hat] at htarget
      obtain rfl := Option.some.inj htarget
      obtain ⟨hlength, hsends⟩ := hsound.at_sendall hat
      rw [hlength]
      exact hsends.orderly
    | _ =>
      rw [hat] at htarget
      exact absurd htarget (by simp [SenderAt.target])
  · exact (hsound.rests connection htarget).orderly.mono hsound.atMessage_le

/-- In every run of the bridge, whatever the order of the actions of its threads and whatever they
meet, connections never mix or split records. -/
theorem unmixed_run (python : PythonCan) (useFdCfg : Bool) (actions : List Action) :
    Unmixed useFdCfg (run python useFdCfg actions) := by
  have hsound : SenderSound useFdCfg (run python useFdCfg actions) ∧
      ManagerSound (run python useFdCfg actions) := by
    refine @invariant_runFrom _ _ (step python useFdCfg) {}
      (fun bridge ↦ SenderSound useFdCfg bridge ∧ ManagerSound bridge) ?_ ?_ actions
    · refine ⟨⟨trivial, fun _ _ ↦ ⟨(whole_nil _ _).orderly, fun _ ↦ whole_nil _ _⟩, ?_⟩, ?_⟩
      · exact fun _ _ _ _ hnone ↦ absurd hnone List.not_mem_nil
      · exact ⟨fun _ ↦ rfl, fun _ _ hnone ↦ absurd hnone List.not_mem_nil,
          fun _ hrecv ↦ absurd hrecv (by simp), fun _ hnone ↦ absurd hnone List.not_mem_nil⟩
    · rintro bridge action ⟨hsender, hmanager⟩
      cases action with
      | sender action =>
        exact ⟨hsender.senderStep action,
          hmanager.sameReceiving (sameReceiving_senderStep useFdCfg bridge action)⟩
      | manager action =>
        exact ⟨hsender.untouched (untouched_managerStep python bridge action),
          hmanager.managerStep python action⟩
      | stop =>
        exact ⟨hsender.untouched (untouched_stopStep bridge),
          hmanager.sameReceiving (sameReceiving_stopStep bridge)⟩
  exact ⟨hsound.1.orderly, hsound.1.apart, hsound.2.decoded⟩

-- The first connection is closed in the middle of a record; the next message goes to the next one.
example :
    let opens : List Action :=
      [.manager .loopTest, .manager .openTest, .manager (.opening .connected), .manager .install]
    let sends : List Action :=
      [.sender .loopTest,
        .sender (.recv (.message ⟨0x705, false, false, false, false, false, some [5], 1⟩)),
        .sender .encode, .sender .readSock, .sender (.write 5)]
    let reopens : List Action :=
      [.manager .start, .manager .tcpTest, .manager .readSock, .manager (.recv .osError),
        .manager .clear, .sender (.write 4), .sender (.sendallRaises .osError), .manager .delay]
    let bridge := run documentedPythonCan false (opens ++ sends ++ reopens ++ opens ++ sends)
    (bridge.connections 0).written.map Prod.fst = [0, 0, 0, 0, 0] ∧
      (bridge.connections 1).written.map Prod.fst = [1, 1, 1, 1, 1] := by
  decide

end CanopenTools.Bridge.Connections
