import CanopenTools.Bridge.EndToEnd
import CanopenTools.Runs.Liveness
import Mathlib.Data.Finset.Card
import Mathlib.Data.Finset.Range

/-!
# The sockets of a bridge and its shutdown

Two results about whole runs of the threads. At any time at most one of the connections that a
bridge has opened is open, the one in `self.sock` or the one that is being installed, and when
`_tcp_manager` has ended all of them are closed (`tidy_run`). A connection on which
`set_tcp_keepalive` raised is not among them: nothing closes it, and the bridge goes on without it
(`one_open_connection`).

`stop` ends the bridge (`shutdown_completes`). The bridge may be anywhere when a call of `stop`
closes the socket. A connection may still be accepted, a record in the buffer handled, a message
received and sent. `s.recv` and `sendall` on an open connection need never return, since the peer
may neither send nor read; every other operation returns with some result, in whatever order the
threads run. Then both loops end, with every connection closed. For the receiving loop this is so
because a socket that it can still wait for was there when `stop` closed `self.sock`, and for
`sendall` because `_tcp_manager` closes what it installs.
-/

set_option autoImplicit false
set_option relaxedAutoImplicit false

namespace CanopenTools.Bridge.Connections

open Framing Runs Filter

variable {useFdCfg : Bool} {bridge after : State}

/-! ### Closing -/

/-- The connection is closed. -/
def State.Closed (bridge : State) (connection : ℕ) : Prop :=
  (bridge.connections connection).closed = true

/-- `self.sock.close()` closes the socket, and nothing is ever opened again. -/
theorem closed_closeSock (bridge : State) (connection : ℕ) :
    bridge.closeSock.Closed connection ↔
      bridge.Closed connection ∨ bridge.sock = some connection := by
  unfold State.closeSock
  split
  next hsock => simp [hsock]
  next number hsock =>
    by_cases hsame : connection = number
    · subst hsame
      simp [State.Closed, State.setConnection_self, hsock]
    · simp [State.Closed, State.setConnection_of_ne _ _ hsame, hsock, Ne.symm hsame]

/-- The stop event stays set and what is closed stays closed. -/
structure Onward (bridge after : State) : Prop where
  stopEvent : bridge.stopEvent = true → after.stopEvent = true
  closed : ∀ connection, bridge.Closed connection → after.Closed connection

theorem Onward.refl (bridge : State) : Onward bridge bridge := ⟨id, fun _ ↦ id⟩

theorem stopEvent_closeSock (bridge : State) : bridge.closeSock.stopEvent = bridge.stopEvent := by
  unfold State.closeSock
  split <;> rfl

theorem onward_closeSock (bridge : State) : Onward bridge bridge.closeSock :=
  ⟨fun hstop ↦ (stopEvent_closeSock bridge).trans hstop,
    fun connection hclosed ↦ (closed_closeSock bridge connection).mpr (Or.inl hclosed)⟩

/-- Replacing a connection by one that is closed if the old one was. -/
theorem closed_setConnection {number : ℕ} {connection : Connection}
    (hclosed : connection.closed = (bridge.connections number).closed) (other : ℕ) :
    (bridge.setConnection number connection).Closed other ↔ bridge.Closed other := by
  by_cases hsame : other = number
  · subst hsame
    simp [State.Closed, State.setConnection_self, hclosed]
  · simp [State.Closed, State.setConnection_of_ne _ _ hsame]

/-- The sender opens and closes nothing. -/
theorem closed_senderMoves (hmoves : SenderMoves useFdCfg bridge after) (connection : ℕ) :
    after.Closed connection ↔ bridge.Closed connection := by
  cases hmoves with
  | stays => exact Iff.rfl
  | goes hgoes => exact Iff.rfl
  | receives msg hat => exact Iff.rfl
  | @writes number target rest count hat haccepts =>
    rw [State.senderWrite, if_pos haccepts]
    exact @closed_setConnection bridge target
      { bridge.connections target with
        written :=
          (bridge.connections target).written ++ tagged number (rest.take count) } rfl connection
  | @raises number target rest error hat =>
    exact @closed_setConnection bridge target { bridge.connections target with broken := true } rfl
      connection

theorem stopEvent_senderMoves (hmoves : SenderMoves useFdCfg bridge after) :
    after.stopEvent = bridge.stopEvent := by
  cases hmoves with
  | writes count hat haccepts =>
    rw [State.senderWrite, if_pos haccepts]
    rfl
  | _ => rfl

theorem onward_managerMoves (hmoves : ManagerMoves bridge after) : Onward bridge after := by
  have hclose := onward_closeSock bridge
  cases hmoves with
  | installs hat => exact ⟨hclose.stopEvent, hclose.closed⟩
  | clears hat => exact ⟨hclose.stopEvent, hclose.closed⟩
  | _ => exact ⟨id, fun _ ↦ id⟩

theorem onward_stopStep (bridge : State) : Onward bridge bridge.stopStep := by
  have hclose := onward_closeSock bridge
  unfold State.stopStep
  split
  · exact ⟨fun _ ↦ rfl, fun _ ↦ id⟩
  · exact ⟨id, fun _ ↦ id⟩
  · exact ⟨hclose.stopEvent, hclose.closed⟩
  · exact ⟨id, fun _ ↦ id⟩

/-- A step of the bridge is one of the sender, of the manager or of `stop`. -/
theorem step_moves (python : PythonCan) (useFdCfg : Bool) (bridge : State) (action : Action) :
    SenderMoves useFdCfg bridge (step python useFdCfg bridge action) ∨
      ManagerMoves bridge (step python useFdCfg bridge action) ∨
        step python useFdCfg bridge action = bridge.stopStep := by
  cases action with
  | sender action => exact Or.inl (senderStep_moves useFdCfg bridge action)
  | manager action => exact Or.inr (Or.inl (managerStep_moves python bridge action))
  | stop => exact Or.inr (Or.inr rfl)

/-! ### One connection at a time -/

/-- Between the end of one connection and the installation of the next there is no socket. -/
def ManagerAt.Between : ManagerAt → Prop
  | .loopTest | .openTest | .opening | .install _ | .delay | .ended => True
  | _ => False

/-- The connections that were opened are closed, but for the socket and the one being installed. -/
structure Tidy (bridge : State) : Prop where
  open_cases : ∀ connection < bridge.opened, bridge.Closed connection ∨
    bridge.sock = some connection ∨ bridge.manager = .install connection
  between : bridge.manager.Between → bridge.sock = none
  recv : ∀ connection, bridge.manager = .recv connection → bridge.sock = some connection
  stopping : bridge.stopper ≠ .idle → bridge.stopEvent = true

/-- At most one connection is open, and none when the manager has ended. -/
theorem Tidy.unique (htidy : Tidy bridge) {first second : ℕ} (hfirst : first < bridge.opened)
    (hsecond : second < bridge.opened) (hopen : ¬ bridge.Closed first)
    (hopen' : ¬ bridge.Closed second) : first = second := by
  have hnone : ∀ connection, bridge.manager = .install connection → bridge.sock = none :=
    fun connection hat ↦ htidy.between (by rw [hat]; trivial)
  rcases (htidy.open_cases first hfirst).resolve_left hopen with hsock | hinstall
  · rcases (htidy.open_cases second hsecond).resolve_left hopen' with hsock' | hinstall'
    · exact Option.some.inj (hsock.symm.trans hsock')
    · rw [hnone second hinstall'] at hsock
      exact nomatch hsock
  · rcases (htidy.open_cases second hsecond).resolve_left hopen' with hsock' | hinstall'
    · rw [hnone first hinstall] at hsock'
      exact nomatch hsock'
    · rw [hinstall] at hinstall'
      injection hinstall'

theorem Tidy.closed_of_ended (htidy : Tidy bridge) (hended : bridge.manager = .ended)
    {connection : ℕ} (hopened : connection < bridge.opened) : bridge.Closed connection := by
  have hnone := htidy.between (by rw [hended]; trivial)
  rcases htidy.open_cases connection hopened with hclosed | hsock | hinstall
  · exact hclosed
  · rw [hnone] at hsock
    exact nomatch hsock
  · rw [hended] at hinstall
    exact nomatch hinstall

/-- Steps that leave the socket and the place of the manager as they are. -/
theorem Tidy.keep (htidy : Tidy bridge) (honward : Onward bridge after)
    (hopened : after.opened = bridge.opened) (hsock : after.sock = bridge.sock)
    (hmanager : after.manager = bridge.manager)
    (hstopping : after.stopper ≠ .idle → after.stopEvent = true) : Tidy after := by
  constructor
  · intro connection hconnection
    rw [hopened] at hconnection
    rw [hsock, hmanager]
    exact (htidy.open_cases connection hconnection).imp_left (honward.closed connection)
  · rw [hmanager, hsock]
    exact htidy.between
  · rw [hmanager, hsock]
    exact htidy.recv
  · exact hstopping

theorem Tidy.senderMoves (htidy : Tidy bridge) (hmoves : SenderMoves useFdCfg bridge after) :
    Tidy after := by
  have honward : Onward bridge after :=
    ⟨fun hstop ↦ (stopEvent_senderMoves hmoves).trans hstop,
      fun connection ↦ (closed_senderMoves hmoves connection).mpr⟩
  have hstop := stopEvent_senderMoves hmoves
  cases hmoves with
  | writes count hat haccepts =>
    rw [State.senderWrite, if_pos haccepts] at honward ⊢
    exact htidy.keep honward rfl rfl rfl fun hbusy ↦ htidy.stopping hbusy
  | _ => exact htidy.keep honward rfl rfl rfl fun hbusy ↦ htidy.stopping hbusy

theorem sock_closeSock (bridge : State) : bridge.closeSock.sock = bridge.sock :=
  (sameReceiving_closeSock bridge).sock

theorem stopper_closeSock (bridge : State) : bridge.closeSock.stopper = bridge.stopper := by
  unfold State.closeSock
  split <;> rfl

/-- A place that the manager goes to is between two connections only if the place before was, it
receives from the socket, and it never leaves a connection uninstalled. -/
theorem ManagerGoes.tidy {here there : ManagerAt} (hgoes : ManagerGoes bridge here there) :
    (there.Between → here.Between) ∧
      (∀ connection, there = .recv connection → bridge.sock = some connection) ∧
      ∀ connection, here ≠ .install connection ∧ there ≠ .install connection := by
  cases hgoes with
  | sock hsock =>
    refine ⟨nofun, fun connection hrecv ↦ ?_, fun _ ↦ ⟨nofun, nofun⟩⟩
    injection hrecv with hrecv
    rw [hsock, hrecv]
  | _ => exact ⟨fun hbetween ↦ by trivial, nofun, fun _ ↦ ⟨nofun, nofun⟩⟩

/-- The steps of the manager: every connection is installed, and closed before the next is opened.
-/
theorem Tidy.managerMoves (htidy : Tidy bridge) (hmoves : ManagerMoves bridge after) :
    Tidy after := by
  have hstopping := htidy.stopping
  -- In these steps the manager stays with its connection.
  have hwithin : ∀ {place : ManagerAt}, (∀ connection, bridge.manager ≠ .install connection) →
      ∀ connection < bridge.opened, bridge.Closed connection ∨ bridge.sock = some connection ∨
        place = .install connection := by
    intro place hnot connection hconnection
    exact (htidy.open_cases connection hconnection).imp_right
      (Or.imp_right fun hinstall ↦ absurd hinstall (hnot connection))
  cases hmoves with
  | stays => exact htidy
  | @goes place hgoes | @abandons place hat hgoes =>
    obtain ⟨hbetween, hrecv, hinstall⟩ := hgoes.tidy
    exact ⟨hwithin fun connection ↦ (hinstall connection).1,
      fun hplace ↦ htidy.between (hbetween hplace), hrecv, hstopping⟩
  | connected hat =>
    refine ⟨fun connection hconnection ↦ ?_, fun _ ↦ htidy.between (by rw [hat]; trivial), nofun,
      hstopping⟩
    rcases Nat.lt_succ_iff_lt_or_eq.mp hconnection with hold | rfl
    · exact hwithin (by simp [hat]) connection hold
    · exact Or.inr (Or.inr rfl)
  | @installs new hat =>
    have hnone := htidy.between (by rw [hat]; trivial)
    refine ⟨fun connection hconnection ↦ ?_, nofun, nofun, fun hbusy ↦ ?_⟩
    · have hconnection : connection < bridge.closeSock.opened := hconnection
      rw [opened_closeSock] at hconnection
      rcases htidy.open_cases connection hconnection with hclosed | hsock | hinstall
      · exact Or.inl ((onward_closeSock bridge).closed connection hclosed)
      · exact Or.inl ((closed_closeSock bridge connection).mpr (Or.inr hsock))
      · obtain rfl : new = connection := by
          rw [hat] at hinstall
          injection hinstall
        exact Or.inr (Or.inl rfl)
    · exact (stopEvent_closeSock bridge).trans (hstopping (by rwa [← stopper_closeSock]))
  | starts hat =>
    exact ⟨hwithin (by simp [hat]), nofun, nofun, hstopping⟩
  | feeds hat chunk =>
    exact ⟨hwithin (by simp [hat]), nofun, nofun, hstopping⟩
  | drained hat framer =>
    exact ⟨hwithin (by simp [hat]), nofun, nofun, hstopping⟩
  | handles hat hnext hframer =>
    refine ⟨hwithin (by simp [hat]), ?_, ?_, hstopping⟩
    · dsimp only
      split_ifs
      · nofun
      · nofun
    · intro connection hrecv
      dsimp only at hrecv
      split_ifs at hrecv
  | clears hat =>
    refine ⟨fun connection hconnection ↦ ?_, fun _ ↦ rfl, nofun, fun hbusy ↦ ?_⟩
    · have hconnection : connection < bridge.closeSock.opened := hconnection
      rw [opened_closeSock] at hconnection
      refine Or.inl ((closed_closeSock bridge connection).mpr ?_)
      rcases htidy.open_cases connection hconnection with hclosed | hsock | hinstall
      · exact Or.inl hclosed
      · exact Or.inr hsock
      · rw [hat] at hinstall
        exact nomatch hinstall
    · exact (stopEvent_closeSock bridge).trans (hstopping (by rwa [← stopper_closeSock]))

theorem Tidy.stopStep (htidy : Tidy bridge) : Tidy bridge.stopStep := by
  have honward := onward_stopStep bridge
  have hsame := sameReceiving_closeSock bridge
  have hstopping := htidy.stopping
  unfold State.stopStep at honward ⊢
  split at honward
  next hat => exact htidy.keep honward rfl rfl rfl fun _ ↦ rfl
  next hat => exact htidy.keep honward rfl rfl rfl fun _ ↦ hstopping (by rw [hat]; simp)
  next hat =>
    refine htidy.keep honward (opened_closeSock bridge) hsame.sock hsame.manager fun _ ↦ ?_
    exact (stopEvent_closeSock bridge).trans (hstopping (by rw [hat]; simp))
  next hat => exact htidy.keep honward rfl rfl rfl fun hbusy ↦ absurd rfl hbusy

/-- In every run of the threads at most the socket, or the connection that is being installed, is
open. -/
theorem tidy_run (python : PythonCan) (useFdCfg : Bool) (actions : List Action) :
    Tidy (run python useFdCfg actions) := by
  refine @invariant_runFrom _ _ (step python useFdCfg) {} Tidy ?_
    (fun bridge action htidy ↦ ?_) actions
  · exact ⟨fun _ hnone ↦ absurd hnone (Nat.not_lt_zero _), fun _ ↦ rfl, nofun, fun hbusy ↦
      absurd rfl hbusy⟩
  · rcases step_moves python useFdCfg bridge action with hmoves | hmoves | hstop
    · exact htidy.senderMoves hmoves
    · exact htidy.managerMoves hmoves
    · rw [hstop]
      exact htidy.stopStep

/-- A record has at most 72 bytes. -/
theorem length_frameFromCan_le {msg : Message} {payload : List UInt8}
    (hpayload : frameFromCan msg useFdCfg = .ok payload) : payload.length ≤ 72 := by
  unfold frameFromCan at hpayload
  dsimp only at hpayload
  split_ifs at hpayload with hlong
  obtain rfl := Except.ok.inj hpayload
  simp [recordHdrPack]
  omega

/-- The steps left to the sender once the stop event is set, at most. -/
def SenderAt.rank : SenderAt → ℕ
  | .ended => 0
  | .loopTest => 1
  | .sendall _ _ rest => 2 + rest.length
  | .readSock _ payload => 3 + payload.length
  | .encode _ _ => 76
  | .recv => 77

/-- The phases of the manager once the stop event is set, from its end. -/
def ManagerAt.phase : ManagerAt → ℕ
  | .ended => 0
  | .loopTest => 1
  | .delay => 2
  | .clear => 3
  | .tcpTest => 4
  | .next => 5
  | .recv _ => 6
  | .readSock => 7
  | .start => 8
  | .openTest => 9
  | .install _ => 9
  | .opening => 10

/-- How far the manager is from its end: its phase, and within a phase the bytes to be framed. -/
def State.managerRank (bridge : State) : ℕ ×ₗ ℕ :=
  toLex (bridge.manager.phase, bridge.loop.framer.buf.length)

theorem phase_le_of_managerRank_le (hrank : after.managerRank ≤ bridge.managerRank) :
    after.manager.phase ≤ bridge.manager.phase := by
  rcases Prod.Lex.toLex_le_toLex.mp hrank with hlt | ⟨heq, -⟩
  · exact hlt.le
  · exact heq.le

theorem managerRank_lt_of_phase (hphase : after.manager.phase < bridge.manager.phase) :
    after.managerRank < bridge.managerRank :=
  Prod.Lex.toLex_lt_toLex.mpr (Or.inl hphase)

/-- After the stop event every move of the manager brings it nearer to its end. -/
theorem managerRank_managerMoves (hstop : bridge.stopEvent = true)
    (hmoves : ManagerMoves bridge after) :
    after = bridge ∨ after.managerRank < bridge.managerRank := by
  cases hmoves with
  | stays => exact Or.inl rfl
  | @goes place hgoes | @abandons place hat hgoes =>
    refine Or.inr (managerRank_lt_of_phase ?_)
    show place.phase < bridge.manager.phase
    generalize bridge.manager = current at hgoes
    cases hgoes with
    | goOn hrunning => exact absurd hstop (by simp [hrunning])
    | keepOpening hrunning => exact absurd hstop (by simp [hrunning])
    | keepReceiving hrunning => exact absurd hstop (by simp [hrunning])
    | _ => simp [ManagerAt.phase]
  | @handles record framer hat hnext loop hframer =>
    refine Or.inr ?_
    by_cases hended : loop.ended
    · refine managerRank_lt_of_phase ?_
      simp [hended, hat, ManagerAt.phase]
    · refine Prod.Lex.toLex_lt_toLex.mpr (Or.inr ⟨?_, ?_⟩)
      · simp [hended, hat]
      · -- A record that is handled is cut off the buffer.
        have hcut := eq_encodeRecord_of_nextRecord hnext
        show loop.framer.buf.length < bridge.loop.framer.buf.length
        rw [hcut.2, hframer, List.length_append, length_encodeRecord]
        omega
  | connected hat => exact Or.inr (managerRank_lt_of_phase (by simp [hat, ManagerAt.phase]))
  | installs hat => exact Or.inr (managerRank_lt_of_phase (by simp [hat, ManagerAt.phase]))
  | starts hat => exact Or.inr (managerRank_lt_of_phase (by simp [hat, ManagerAt.phase]))
  | feeds hat chunk => exact Or.inr (managerRank_lt_of_phase (by simp [hat, ManagerAt.phase]))
  | drained hat framer => exact Or.inr (managerRank_lt_of_phase (by simp [hat, ManagerAt.phase]))
  | clears hat => exact Or.inr (managerRank_lt_of_phase (by simp [hat, ManagerAt.phase]))

/-- After the stop event every move of the sender brings it nearer to its end. -/
theorem senderRank_senderMoves (hstop : bridge.stopEvent = true)
    (hmoves : SenderMoves useFdCfg bridge after) :
    after = bridge ∨ after.sender.rank < bridge.sender.rank := by
  cases hmoves with
  | stays => exact Or.inl rfl
  | @goes place hgoes =>
    refine Or.inr ?_
    show place.rank < bridge.sender.rank
    generalize bridge.sender = current at hgoes
    cases hgoes with
    | goOn hrunning => exact absurd hstop (by simp [hrunning])
    | encoded number hpayload =>
      have hlength := length_frameFromCan_le hpayload
      simp only [SenderAt.rank]
      omega
    | _ => simp [SenderAt.rank] <;> omega
  | receives msg hat => exact Or.inr (by simp [hat, SenderAt.rank])
  | @writes number connection rest count hat haccepts =>
    rw [State.senderWrite, if_pos haccepts]
    by_cases hnone : rest.take count = []
    · -- A write of nothing leaves everything as it is.
      refine Or.inl ?_
      have hrest : rest.drop count = rest := by
        have hsplit := List.take_append_drop count rest
        rwa [hnone, List.nil_append] at hsplit
      have hwritten : (bridge.connections connection).written ++ tagged number (rest.take count) =
          (bridge.connections connection).written := by
        rw [hnone]
        exact List.append_nil _
      rw [hwritten, hrest, State.setConnection, Function.update_eq_self, ← hat]
    · refine Or.inr ?_
      have hpos := List.length_pos_iff.mpr hnone
      rw [List.length_take] at hpos
      simp only [hat, SenderAt.rank, List.length_drop]
      omega
  | raises error hat =>
    refine Or.inr ?_
    cases error <;> simp [State.sendallRaises, hat, SenderAt.rank] <;> omega

/-! ### After `stop` -/

/-- Where the manager receives, or may come to receive without another look at the stop event. -/
def ManagerAt.Receiving : ManagerAt → Prop
  | .readSock | .recv _ | .next => True
  | _ => False

/-- `stop` has set the stop event and closed the socket that the manager receives from. -/
structure Released (bridge : State) : Prop where
  stopEvent : bridge.stopEvent = true
  closed : bridge.manager.Receiving → ∀ connection, bridge.sock = some connection →
    bridge.Closed connection

theorem Released.keep (hreleased : Released bridge) (honward : Onward bridge after)
    (hsock : after.sock = bridge.sock)
    (hreceiving : after.manager.Receiving → bridge.manager.Receiving) : Released after := by
  refine ⟨honward.stopEvent hreleased.stopEvent, fun hafter connection hconnection ↦ ?_⟩
  rw [hsock] at hconnection
  exact honward.closed connection (hreleased.closed (hreceiving hafter) connection hconnection)

/-- With the stop event set the manager does not turn to another socket. -/
theorem Released.managerMoves (hreleased : Released bridge) (hmoves : ManagerMoves bridge after) :
    Released after := by
  have honward := onward_managerMoves hmoves
  have hstop := hreleased.stopEvent
  cases hmoves with
  | stays => exact hreleased
  | @goes place hgoes | @abandons place hat hgoes =>
    refine hreleased.keep honward rfl fun hafter ↦ ?_
    have hafter : place.Receiving := hafter
    generalize bridge.manager = current at hgoes ⊢
    cases hgoes with
    | keepReceiving hrunning => exact absurd hstop (by simp [hrunning])
    | sock hsock => trivial
    | _ => exact hafter.elim
  | installs hat => exact ⟨honward.stopEvent hstop, fun hnone ↦ hnone.elim⟩
  | clears hat => exact ⟨honward.stopEvent hstop, fun hnone ↦ hnone.elim⟩
  | connected hat => exact hreleased.keep honward rfl fun hnone ↦ hnone.elim
  | starts hat => exact hreleased.keep honward rfl fun hnone ↦ hnone.elim
  | drained hat framer => exact hreleased.keep honward rfl fun hnone ↦ hnone.elim
  | feeds hat chunk => exact hreleased.keep honward rfl fun _ ↦ by rw [hat]; trivial
  | handles hat hnext hframer => exact hreleased.keep honward rfl fun _ ↦ by rw [hat]; trivial

/-- Every step keeps what `stop` has brought about. -/
theorem Released.step (hreleased : Released bridge) (python : PythonCan) (useFdCfg : Bool)
    (action : Action) : Released (step python useFdCfg bridge action) := by
  cases action with
  | manager action => exact hreleased.managerMoves (managerStep_moves python bridge action)
  | sender action =>
    have hmoves := senderStep_moves useFdCfg bridge action
    have hsame := sameReceiving_senderStep useFdCfg bridge action
    refine hreleased.keep ⟨fun hstop ↦ (stopEvent_senderMoves hmoves).trans hstop,
      fun connection ↦ (closed_senderMoves hmoves connection).mpr⟩ hsame.sock fun hafter ↦ ?_
    exact hsame.manager ▸ hafter
  | stop =>
    have hsame := sameReceiving_stopStep bridge
    exact hreleased.keep (onward_stopStep bridge) hsame.sock fun hafter ↦ hsame.manager ▸ hafter

/-- A call of `stop` that closes the socket brings it about. -/
theorem Tidy.released (htidy : Tidy bridge) (hstopper : bridge.stopper = .close) :
    Released bridge.stopStep := by
  have hstop := htidy.stopping (by rw [hstopper]; simp)
  unfold State.stopStep
  rw [hstopper]
  refine ⟨(stopEvent_closeSock bridge).trans hstop, fun _ connection hsock ↦ ?_⟩
  have hsock : bridge.closeSock.sock = some connection := hsock
  rw [sock_closeSock] at hsock
  exact (closed_closeSock bridge connection).mpr (Or.inr hsock)

/-! ### Fair runs -/

/-- `sendall` on an open connection need not return. -/
def State.SenderWaits (bridge : State) : Prop :=
  ∃ number connection rest, bridge.sender = .sendall number connection rest ∧
    ¬ bridge.Closed connection

/-- `s.recv` on an open connection need not return. -/
def State.ManagerWaits (bridge : State) : Prop :=
  ∃ connection, bridge.manager = .recv connection ∧ ¬ bridge.Closed connection

section Fair

variable (python : PythonCan) (useFdCfg : Bool) (start : State) (actions : ℕ → Action)

/-- The bridge after some actions of an infinite run. -/
def bridges (time : ℕ) : State := states (step python useFdCfg) start actions time

/-- A run in which each thread, again and again, does something, waits for its peer or has ended. -/
structure Fair : Prop where
  sender : ∃ᶠ time in atTop,
    (∃ action, actions time = .sender action ∧
      bridges python useFdCfg start actions (time + 1) ≠
        bridges python useFdCfg start actions time) ∨
    (bridges python useFdCfg start actions time).SenderWaits ∨
    (bridges python useFdCfg start actions time).sender = .ended
  manager : ∃ᶠ time in atTop,
    (∃ action, actions time = .manager action ∧
      bridges python useFdCfg start actions (time + 1) ≠
        bridges python useFdCfg start actions time) ∨
    (bridges python useFdCfg start actions time).ManagerWaits ∨
    (bridges python useFdCfg start actions time).manager = .ended

/-- The rank of the manager never grows, and its own steps make it smaller. -/
theorem managerRank_step (hstop : bridge.stopEvent = true) (action : Action) :
    (step python useFdCfg bridge action).managerRank ≤ bridge.managerRank ∧
      ((∃ own, action = .manager own) → step python useFdCfg bridge action ≠ bridge →
        (step python useFdCfg bridge action).managerRank < bridge.managerRank) := by
  have hsame : SameReceiving bridge (step python useFdCfg bridge action) →
      (step python useFdCfg bridge action).managerRank = bridge.managerRank := fun hsame ↦ by
    rw [State.managerRank, State.managerRank, hsame.manager, hsame.loop]
  cases action with
  | sender action =>
    exact ⟨(hsame (sameReceiving_senderStep useFdCfg bridge action)).le, nofun⟩
  | stop => exact ⟨(hsame (sameReceiving_stopStep bridge)).le, nofun⟩
  | manager action =>
    rcases managerRank_managerMoves hstop (managerStep_moves python bridge action) with heq | hlt
    · exact ⟨(congrArg State.managerRank heq).le, fun _ hne ↦ absurd heq hne⟩
    · exact ⟨hlt.le, fun _ _ ↦ hlt⟩

/-- The rank of the sender never grows, and its own steps make it smaller. -/
theorem senderRank_step (hstop : bridge.stopEvent = true) (action : Action) :
    (step python useFdCfg bridge action).sender.rank ≤ bridge.sender.rank ∧
      ((∃ own, action = .sender own) → step python useFdCfg bridge action ≠ bridge →
        (step python useFdCfg bridge action).sender.rank < bridge.sender.rank) := by
  cases action with
  | sender action =>
    rcases senderRank_senderMoves hstop (senderStep_moves useFdCfg bridge action) with heq | hlt
    · exact ⟨(congrArg (SenderAt.rank ∘ State.sender) heq).le, fun _ hne ↦ absurd heq hne⟩
    · exact ⟨hlt.le, fun _ _ ↦ hlt⟩
  | stop => exact ⟨(congrArg SenderAt.rank (untouched_stopStep bridge).sender).le, nofun⟩
  | manager action =>
    exact ⟨(congrArg SenderAt.rank (untouched_managerStep python bridge action).sender).le, nofun⟩

variable {python useFdCfg start actions}

theorem eq_ended_of_phase {place : ManagerAt} (hphase : place.phase = 0) : place = .ended := by
  cases place <;> simp_all [ManagerAt.phase]

theorem eq_ended_of_rank {place : SenderAt} (hrank : place.rank = 0) : place = .ended := by
  cases place <;> simp_all [SenderAt.rank]

/-- After `stop` has closed the socket the manager ends: what it still waits for is closed. -/
theorem eventually_manager_ended (htidy : ∀ time, Tidy (bridges python useFdCfg start actions time))
    (hreleased : ∀ time, Released (bridges python useFdCfg start actions time))
    (hfair : Fair python useFdCfg start actions) :
    ∀ᶠ time in atTop, (bridges python useFdCfg start actions time).manager = .ended := by
  have hstep := fun time ↦
    managerRank_step python useFdCfg (hreleased time).stopEvent (actions time)
  refine eventually_of_rank (fun time ↦ (bridges python useFdCfg start actions time).managerRank)
    (.of_forall fun time ↦ (hstep time).1) (.of_forall fun time hended ↦ ?_) ?_
  · have hle := phase_le_of_managerRank_le (hstep time).1
    rw [hended] at hle
    exact eq_ended_of_phase (Nat.le_zero.mp hle)
  · refine hfair.manager.mono fun time hturn ↦ ?_
    rcases hturn with ⟨own, hown, hchanged⟩ | ⟨connection, hrecv, hopen⟩ | hended
    · exact Or.inr ((hstep time).2 ⟨own, hown⟩ hchanged)
    · have hsock := (htidy time).recv connection hrecv
      exact absurd ((hreleased time).closed (by rw [hrecv]; trivial) connection hsock) hopen
    · exact Or.inl hended

/-- Once the manager has ended, the sender ends too: no connection is open. -/
theorem eventually_sender_ended (htidy : ∀ time, Tidy (bridges python useFdCfg start actions time))
    (hadvancing : ∀ time, Advancing (bridges python useFdCfg start actions time))
    (hreleased : ∀ time, Released (bridges python useFdCfg start actions time))
    (hmanager : ∀ᶠ time in atTop, (bridges python useFdCfg start actions time).manager = .ended)
    (hfair : Fair python useFdCfg start actions) :
    ∀ᶠ time in atTop, (bridges python useFdCfg start actions time).sender = .ended := by
  have hstep := fun time ↦
    senderRank_step python useFdCfg (hreleased time).stopEvent (actions time)
  refine eventually_of_rank (fun time ↦ (bridges python useFdCfg start actions time).sender.rank)
    (.of_forall fun time ↦ (hstep time).1) (.of_forall fun time hended ↦ ?_) ?_
  · have hle := (hstep time).1
    rw [hended] at hle
    exact eq_ended_of_rank (Nat.le_zero.mp hle)
  · refine (hfair.sender.and_eventually hmanager).mono fun time hturn ↦ ?_
    obtain ⟨⟨own, hown, hchanged⟩ | ⟨number, connection, rest, hat, hopen⟩ | hended,
      hmanagerEnded⟩ := hturn
    · exact Or.inr ((hstep time).2 ⟨own, hown⟩ hchanged)
    · have htarget := (hadvancing time).target connection (by rw [hat]; rfl)
      exact absurd ((htidy time).closed_of_ended hmanagerEnded htarget.1) hopen
    · exact Or.inl hended

end Fair

/-- From whatever state a call of `stop` closes the socket in, in every fair run both loops end at
last, with every connection closed. -/
theorem shutdown_completes (python : PythonCan) (useFdCfg : Bool) (earlier : List Action)
    (hstopper : (run python useFdCfg earlier).stopper = .close) (actions : ℕ → Action)
    (hfair : Fair python useFdCfg (run python useFdCfg (earlier ++ [.stop])) actions) :
    ∀ᶠ time in atTop,
      let bridge := bridges python useFdCfg (run python useFdCfg (earlier ++ [.stop])) actions time
      bridge.sender = .ended ∧ bridge.manager = .ended ∧
        ∀ connection < bridge.opened, bridge.Closed connection := by
  have hreach : ∀ time, bridges python useFdCfg (run python useFdCfg (earlier ++ [.stop]))
      actions time =
      run python useFdCfg (earlier ++ [.stop] ++ (List.range time).map actions) :=
    fun time ↦ states_runFrom _ _ _ actions time
  have htidy := fun time ↦ hreach time ▸ tidy_run python useFdCfg _
  have hadvancing := fun time ↦ hreach time ▸ (advancing_run python useFdCfg _).2
  have hreleased : ∀ time,
      Released
        (bridges python useFdCfg (run python useFdCfg (earlier ++ [.stop])) actions time) := by
    intro time
    induction time with
    | zero =>
      show Released (run python useFdCfg (earlier ++ [.stop]))
      rw [run, runFrom_concat]
      exact (tidy_run python useFdCfg earlier).released hstopper
    | succ time ih => exact ih.step python useFdCfg (actions time)
  have hmanager := eventually_manager_ended htidy hreleased hfair
  have hsender := eventually_sender_ended htidy hadvancing hreleased hmanager hfair
  filter_upwards [hmanager, hsender] with time hmanagerEnded hsenderEnded
  exact ⟨hsenderEnded, hmanagerEnded, fun connection ↦ (htidy time).closed_of_ended hmanagerEnded⟩

/-- `stop` is called while the manager waits in `s.recv` and the sender is in `sendall`. -/
def stoppedWhileBusy : List Action :=
  [.manager .loopTest, .manager .openTest, .manager (.opening .connected), .manager .install,
    .manager .start, .manager .tcpTest, .manager .readSock, .sender .loopTest,
    .sender (.recv (.message heartbeat.msg)), .sender .encode, .sender .readSock, .stop, .stop]

/-- Both calls fail on the closed socket, and the threads go on to their ends. -/
def lastActions (time : ℕ) : Action :=
  [Action.manager (.recv .osError), .sender (.sendallRaises .osError), .manager .clear,
    .manager .delay, .manager .loopTest, .sender .loopTest][time]?.getD .stop

theorem fair_lastActions : Fair documentedPythonCan false
    (run documentedPythonCan false (stoppedWhileBusy ++ [.stop])) lastActions := by
  have hlater : ∀ time ≥ 6, lastActions time = .stop := fun time htime ↦ by
    rw [lastActions, List.getElem?_eq_none htime]
    rfl
  have hended : ∀ᶠ time in atTop,
      (bridges documentedPythonCan false
        (run documentedPythonCan false (stoppedWhileBusy ++ [.stop])) lastActions time).sender =
          .ended ∧
      (bridges documentedPythonCan false
        (run documentedPythonCan false (stoppedWhileBusy ++ [.stop])) lastActions time).manager =
          .ended := by
    refine @eventually_of_stays _ 6 (fun time htime ⟨hsender, hmanager⟩ ↦ ?_)
      ⟨by decide, by decide⟩
    rw [bridges, states, hlater time htime]
    exact ⟨(untouched_stopStep _).sender.trans hsender,
      (sameReceiving_stopStep _).manager.trans hmanager⟩
  exact ⟨(hended.mono fun _ hboth ↦ Or.inr (Or.inr hboth.1)).frequently,
    (hended.mono fun _ hboth ↦ Or.inr (Or.inr hboth.2)).frequently⟩

theorem shutdown_completes_while_busy :
    (run documentedPythonCan false stoppedWhileBusy).stopper = .close ∧
      ∀ᶠ time in atTop,
        let bridge := bridges documentedPythonCan false
          (run documentedPythonCan false (stoppedWhileBusy ++ [.stop])) lastActions time
        bridge.sender = .ended ∧ bridge.manager = .ended ∧
          ∀ connection < bridge.opened, bridge.Closed connection := by
  have hstopper : (run documentedPythonCan false stoppedWhileBusy).stopper = .close := by decide
  exact ⟨hstopper, shutdown_completes documentedPythonCan false stoppedWhileBusy hstopper
    lastActions fair_lastActions⟩

end CanopenTools.Bridge.Connections
