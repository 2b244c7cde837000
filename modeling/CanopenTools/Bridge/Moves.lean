import CanopenTools.Bridge.Unmixed

/-!
# What a thread of the bridge can do next

`senderStep` and `managerStep` say what an action does to the bridge. This module turns them around:
`senderStep_moves` and `managerStep_moves` list once what one step of a thread can be, with what it
needs to be that step. Most steps only move the thread to another place (`SenderGoes`,
`ManagerGoes`). The others are the constructors of `SenderMoves` and `ManagerMoves`.

The invariants about connections and about the end of the threads are case analyses over these
lists.
-/

set_option autoImplicit false
set_option relaxedAutoImplicit false

namespace CanopenTools.Bridge.Connections

open Framing

variable {useFdCfg : Bool} {bridge after : State}

/-! ### The sender -/

/-- The sender moves on and changes nothing else. -/
inductive SenderGoes (useFdCfg : Bool) (bridge : State) : SenderAt → SenderAt → Prop
  | stop (hstop : bridge.stopEvent = true) : SenderGoes useFdCfg bridge .loopTest .ended
  | goOn (hrunning : bridge.stopEvent = false) : SenderGoes useFdCfg bridge .loopTest .recv
  | nothing : SenderGoes useFdCfg bridge .recv .loopTest
  | interrupted : SenderGoes useFdCfg bridge .recv .ended
  | refused (number : ℕ) (msg : Message) : SenderGoes useFdCfg bridge (.encode number msg) .loopTest
  | encoded (number : ℕ) {msg : Message} {payload : List UInt8}
    (hpayload : frameFromCan msg useFdCfg = .ok payload) :
    SenderGoes useFdCfg bridge (.encode number msg) (.readSock number payload)
  | noSock (number : ℕ) (payload : List UInt8) :
    SenderGoes useFdCfg bridge (.readSock number payload) .loopTest
  | sock (number : ℕ) (payload : List UInt8) {connection : ℕ}
    (hsock : bridge.sock = some connection) :
    SenderGoes useFdCfg bridge (.readSock number payload) (.sendall number connection payload)
  | returned (number connection : ℕ) :
    SenderGoes useFdCfg bridge (.sendall number connection []) .loopTest

/-- What one step of the sender can be. -/
inductive SenderMoves (useFdCfg : Bool) (bridge : State) : State → Prop
  | stays : SenderMoves useFdCfg bridge bridge
  | goes {place : SenderAt} (hgoes : SenderGoes useFdCfg bridge bridge.sender place) :
    SenderMoves useFdCfg bridge { bridge with sender := place }
  | receives (msg : Message) (hat : bridge.sender = .recv) :
    SenderMoves useFdCfg bridge
      { bridge with
        messages := bridge.messages ++ [msg]
        sender := .encode bridge.messages.length msg }
  | writes {number connection : ℕ} {rest : List UInt8} (count : ℕ)
    (hat : bridge.sender = .sendall number connection rest)
    (haccepts : (bridge.connections connection).Accepts) :
    SenderMoves useFdCfg bridge (bridge.senderWrite number connection rest count)
  | raises {number connection : ℕ} {rest : List UInt8} (error : SendError)
    (hat : bridge.sender = .sendall number connection rest) :
    SenderMoves useFdCfg bridge (bridge.sendallRaises connection error)

/-- A step of the sender is one of its moves. -/
theorem senderStep_moves (useFdCfg : Bool) (bridge : State) (action : SenderAction) :
    SenderMoves useFdCfg bridge (bridge.senderStep useFdCfg action) := by
  have hgoes : ∀ {current place : SenderAt}, bridge.sender = current →
      SenderGoes useFdCfg bridge current place →
        SenderMoves useFdCfg bridge { bridge with sender := place } :=
    fun hat hgoes ↦ .goes (hat ▸ hgoes)
  cases action with
  | loopTest =>
    simp only [State.senderStep]
    split_ifs with hat hstop
    · exact hgoes hat (.stop hstop)
    · exact hgoes hat (.goOn (by simpa using hstop))
    · exact .stays
  | recv outcome =>
    simp only [State.senderStep]
    split_ifs with hat
    · cases outcome with
      | timeout => exact hgoes hat .nothing
      | otherError => exact hgoes hat .nothing
      | keyboardInterrupt => exact hgoes hat .interrupted
      | message msg => exact .receives msg hat
    · exact .stays
  | encode =>
    simp only [State.senderStep]
    split
    next number msg hat =>
      unfold State.senderEncode
      split
      · exact hgoes hat (.refused number msg)
      next payload hpayload => exact hgoes hat (.encoded number hpayload)
    · exact .stays
  | readSock =>
    simp only [State.senderStep]
    split
    next number payload hat =>
      unfold State.senderReadSock
      split
      · exact hgoes hat (.noSock number payload)
      next connection hsock => exact hgoes hat (.sock number payload hsock)
    · exact .stays
  | write count =>
    simp only [State.senderStep]
    split
    next number connection rest hat =>
      by_cases haccepts : (bridge.connections connection).Accepts
      · exact .writes count hat haccepts
      · rw [State.senderWrite, if_neg haccepts]
        exact .stays
    · exact .stays
  | sendallReturns =>
    simp only [State.senderStep]
    split
    next number connection hat => exact hgoes hat (.returned number connection)
    · exact .stays
  | sendallRaises error =>
    simp only [State.senderStep]
    split
    next number connection rest hat => exact .raises error hat
    · exact .stays

/-! ### The manager -/

/-- The manager moves on and changes nothing else. -/
inductive ManagerGoes (bridge : State) : ManagerAt → ManagerAt → Prop
  | stop (hstop : bridge.stopEvent = true) : ManagerGoes bridge .loopTest .ended
  | goOn (hrunning : bridge.stopEvent = false) : ManagerGoes bridge .loopTest .openTest
  | stopOpening (hstop : bridge.stopEvent = true) : ManagerGoes bridge .openTest .start
  | keepOpening (hrunning : bridge.stopEvent = false) : ManagerGoes bridge .openTest .opening
  | retry : ManagerGoes bridge .opening .openTest
  | openingRaised : ManagerGoes bridge .opening .clear
  | stopReceiving (hstop : bridge.stopEvent = true) : ManagerGoes bridge .tcpTest .clear
  | keepReceiving (hrunning : bridge.stopEvent = false) : ManagerGoes bridge .tcpTest .readSock
  | noSock (hsock : bridge.sock = none) : ManagerGoes bridge .readSock .clear
  | sock {connection : ℕ} (hsock : bridge.sock = some connection) :
    ManagerGoes bridge .readSock (.recv connection)
  | recvEnds (connection : ℕ) : ManagerGoes bridge (.recv connection) .clear
  | waited : ManagerGoes bridge .delay .loopTest

/-- What one step of the manager can be. -/
inductive ManagerMoves (bridge : State) : State → Prop
  | stays : ManagerMoves bridge bridge
  | goes {place : ManagerAt} (hgoes : ManagerGoes bridge bridge.manager place) :
    ManagerMoves bridge { bridge with manager := place }
  | abandons {place : ManagerAt} (hat : bridge.manager = .opening)
    (hgoes : ManagerGoes bridge bridge.manager place) :
    ManagerMoves bridge
      { bridge with
        abandoned := bridge.abandoned + 1
        manager := place }
  | connected (hat : bridge.manager = .opening) :
    ManagerMoves bridge
      { bridge with
        opened := bridge.opened + 1
        manager := .install bridge.opened }
  | installs {connection : ℕ} (hat : bridge.manager = .install connection) :
    ManagerMoves bridge
      { bridge.closeSock with
        sock := some connection
        manager := .start }
  | starts (hat : bridge.manager = .start) :
    ManagerMoves bridge
      { bridge with
        loop := {}
        buffered := []
        manager := .tcpTest }
  | feeds {connection : ℕ} (hat : bridge.manager = .recv connection) (chunk : List UInt8) :
    ManagerMoves bridge
      { bridge with
        manager := .next
        loop := { bridge.loop with framer := bridge.loop.framer.feed chunk }
        buffered := bridge.buffered ++ tagged connection chunk }
  | drained (hat : bridge.manager = .next) (framer : TCPFramer) :
    ManagerMoves bridge
      { bridge with
        manager := .tcpTest
        loop := { bridge.loop with framer } }
  | handles {record : List UInt8} {framer : TCPFramer} (hat : bridge.manager = .next)
    (hnext : bridge.loop.framer.nextRecord = (some record, framer)) {loop : TcpToCan}
    (hframer : loop.framer = framer) :
    ManagerMoves bridge
      { bridge with
        manager := if loop.ended then .clear else .next
        loop
        buffered := bridge.buffered.drop (2 + record.length)
        decoded := bridge.decoded ++ [⟨record, bridge.buffered.take (2 + record.length)⟩] }
  | clears (hat : bridge.manager = .clear) :
    ManagerMoves bridge
      { bridge.closeSock with
        sock := none
        manager := .delay }

/-- A step of the manager is one of its moves. -/
theorem managerStep_moves (python : PythonCan) (bridge : State) (action : ManagerAction) :
    ManagerMoves bridge (bridge.managerStep python action) := by
  have hgoes : ∀ {current place : ManagerAt}, bridge.manager = current →
      ManagerGoes bridge current place → ManagerMoves bridge { bridge with manager := place } :=
    fun hat hgoes ↦ .goes (hat ▸ hgoes)
  cases action with
  | loopTest =>
    simp only [State.managerStep]
    split_ifs with hat hstop
    · exact hgoes hat (.stop hstop)
    · exact hgoes hat (.goOn (by simpa using hstop))
    · exact .stays
  | openTest =>
    simp only [State.managerStep]
    split_ifs with hat hstop
    · exact hgoes hat (.stopOpening hstop)
    · exact hgoes hat (.keepOpening (by simpa using hstop))
    · exact .stays
  | opening outcome =>
    simp only [State.managerStep]
    split_ifs with hat
    · cases outcome with
      | connected => exact .connected hat
      | retry => exact hgoes hat .retry
      | raised => exact hgoes hat .openingRaised
      | abandoned retries =>
        cases retries with
        | true => exact .abandons hat (hat ▸ .retry)
        | false => exact .abandons hat (hat ▸ .openingRaised)
    · exact .stays
  | install =>
    simp only [State.managerStep]
    split
    next connection hat => exact .installs hat
    · exact .stays
  | start =>
    simp only [State.managerStep]
    split_ifs with hat
    · exact .starts hat
    · exact .stays
  | tcpTest =>
    simp only [State.managerStep]
    split_ifs with hat hstop
    · exact hgoes hat (.stopReceiving hstop)
    · exact hgoes hat (.keepReceiving (by simpa using hstop))
    · exact .stays
  | readSock =>
    simp only [State.managerStep]
    split_ifs with hat
    · split
      next hsock => exact hgoes hat (.noSock hsock)
      next connection hsock => exact hgoes hat (.sock hsock)
    · exact .stays
  | recv outcome =>
    simp only [State.managerStep]
    split
    next connection hat =>
      unfold State.managerRecv
      split
      · exact hgoes hat (.recvEnds connection)
      · exact hgoes hat (.recvEnds connection)
      · exact hgoes hat (.recvEnds connection)
      next byte bytes => exact .feeds hat (byte :: bytes)
    · exact .stays
  | next busSend =>
    simp only [State.managerStep]
    split_ifs with hat
    · unfold State.managerNext
      split
      next framer hnext => exact .drained hat framer
      next record framer hnext =>
        exact .handles hat hnext (handleRecord_framer python _ _ record)
    · exact .stays
  | clear =>
    simp only [State.managerStep]
    split_ifs with hat
    · exact .clears hat
    · exact .stays
  | delay =>
    simp only [State.managerStep]
    split_ifs with hat
    · exact hgoes hat .waited
    · exact .stays

end CanopenTools.Bridge.Connections
