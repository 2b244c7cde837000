import CanopenTools.Bridge.Moves
import CanopenTools.Bridge.PairTransport
import CanopenTools.Framing.Arrivals

/-!
# From bus to bus across connections

What reaches the bus behind the peer when connections break and are opened again. A bridge runs in
any order of its threads and with any failures (`Connections`), a front of what it wrote on each
connection arrives, and the peer runs `_loop_tcp_to_can` on one connection after the other.

The frames that the peer puts on its bus are exactly those of which the whole record has arrived,
each once and in the order in which they were received (`arrived_in_order`). Across connections this
needs more than `SenderSound`: a connection is written to only as long as no later one is, so
messages on an earlier connection come before those on a later one (`Advancing`).
-/

set_option autoImplicit false
set_option relaxedAutoImplicit false

namespace CanopenTools.Bridge.Connections

open Framing Runs

/-! ### Connections are used one after the other -/

/-- Something was written on the connection. -/
def State.Used (bridge : State) (connection : ℕ) : Prop :=
  (bridge.connections connection).written ≠ []

/-- No connection is written to after a later one: neither the socket nor the connection in
`sendall` is behind a connection in use, and the numbers of messages increase from connection to
connection. -/
structure Advancing (bridge : State) : Prop where
  opened : ∀ connection, bridge.Used connection → connection < bridge.opened
  sock : ∀ current, bridge.sock = some current →
    current < bridge.opened ∧ ∀ connection, bridge.Used connection → connection ≤ current
  install : ∀ new, bridge.manager = .install new → new + 1 = bridge.opened
  target : ∀ target, bridge.sender.target = some target → target < bridge.opened ∧
    (∀ connection, bridge.Used connection → connection ≤ target) ∧
      ∀ current, bridge.sock = some current → target ≤ current
  ordered : ∀ first second, first < second → ∀ byte ∈ (bridge.connections first).written,
    ∀ other ∈ (bridge.connections second).written, byte.1 < other.1

variable {useFdCfg : Bool} {bridge after : State}

/-- A step that writes nothing, opens at most a connection and turns to no other one. -/
theorem Advancing.keep (hadvancing : Advancing bridge)
    (hwritten : ∀ connection,
      (after.connections connection).written = (bridge.connections connection).written)
    (hopened : bridge.opened ≤ after.opened)
    (hsock : ∀ current, after.sock = some current → bridge.sock = some current)
    (hinstall : ∀ new, after.manager = .install new → new + 1 = after.opened)
    (htarget : ∀ target, after.sender.target = some target →
      bridge.sender.target = some target) : Advancing after := by
  have hused : ∀ connection, after.Used connection → bridge.Used connection := by
    intro connection hused
    rwa [State.Used, hwritten] at hused
  constructor
  · exact fun connection hafter ↦
      (hadvancing.opened connection (hused connection hafter)).trans_le hopened
  · intro current hcurrent
    obtain ⟨hlt, hle⟩ := hadvancing.sock current (hsock current hcurrent)
    exact ⟨hlt.trans_le hopened, fun connection hafter ↦ hle connection (hused connection hafter)⟩
  · exact hinstall
  · intro target hat
    obtain ⟨hlt, hle, hbehind⟩ := hadvancing.target target (htarget target hat)
    exact ⟨hlt.trans_le hopened, fun connection hafter ↦ hle connection (hused connection hafter),
      fun current hcurrent ↦ hbehind current (hsock current hcurrent)⟩
  · intro first second hlt byte hbyte other hother
    rw [hwritten] at hbyte hother
    exact hadvancing.ordered first second hlt byte hbyte other hother

theorem opened_closeSock (bridge : State) : bridge.closeSock.opened = bridge.opened := by
  unfold State.closeSock
  split <;> rfl

/-- A new socket is ahead of all connections in use. -/
theorem Advancing.installs (hadvancing : Advancing bridge) {connection : ℕ}
    (hat : bridge.manager = .install connection) :
    Advancing
      { bridge.closeSock with
        sock := some connection
        manager := .start } := by
  have hclosed := untouched_closeSock bridge
  have hlast := hadvancing.install connection hat
  have hopened := opened_closeSock bridge
  have hused : ∀ other, bridge.closeSock.Used other → bridge.Used other := by
    intro other hused
    rwa [State.Used, hclosed.written] at hused
  constructor
  · intro other hother
    show other < bridge.closeSock.opened
    rw [hopened]
    exact hadvancing.opened other (hused other hother)
  · rintro current hcurrent
    obtain rfl := Option.some.inj hcurrent
    show connection < bridge.closeSock.opened ∧ _
    rw [hopened]
    refine ⟨by omega, fun other hother ↦ ?_⟩
    have := hadvancing.opened other (hused other hother)
    omega
  · exact fun new hnew ↦ absurd hnew (by simp)
  · intro target htarget
    have hbefore : bridge.sender.target = some target := hclosed.sender ▸ htarget
    obtain ⟨hlt, hle, -⟩ := hadvancing.target target hbefore
    show target < bridge.closeSock.opened ∧ _
    rw [hopened]
    refine ⟨hlt, fun other hother ↦ hle other (hused other hother), fun current hcurrent ↦ ?_⟩
    obtain rfl := Option.some.inj hcurrent
    omega
  · intro first second hlt byte hbyte other hother
    have hbyte : byte ∈ (bridge.closeSock.connections first).written := hbyte
    have hother : other ∈ (bridge.closeSock.connections second).written := hother
    rw [hclosed.written] at hbyte hother
    exact hadvancing.ordered first second hlt byte hbyte other hother

/-- The steps of the manager. -/
theorem Advancing.managerMoves (hadvancing : Advancing bridge)
    (hmoves : ManagerMoves bridge after) : Advancing after := by
  have hclosed := untouched_closeSock bridge
  cases hmoves with
  | stays => exact hadvancing
  | installs hat => exact hadvancing.installs hat
  | @goes place hgoes | @abandons place hat hgoes =>
    refine hadvancing.keep (fun _ ↦ rfl) le_rfl (fun _ hsock ↦ hsock) ?_ fun _ htarget ↦ htarget
    intro new hnew
    have hplace : place = .install new := hnew
    subst hplace
    generalize bridge.manager = current at hgoes
    cases hgoes
  | connected hat =>
    refine hadvancing.keep (fun _ ↦ rfl) (Nat.le_succ _) (fun _ hsock ↦ hsock) ?_
      fun _ htarget ↦ htarget
    intro new hnew
    injection hnew with hnew
    exact congrArg (· + 1) hnew.symm
  | starts hat =>
    exact hadvancing.keep (fun _ ↦ rfl) le_rfl (fun _ hsock ↦ hsock) (fun _ hnew ↦ nomatch hnew)
      fun _ htarget ↦ htarget
  | feeds hat chunk =>
    exact hadvancing.keep (fun _ ↦ rfl) le_rfl (fun _ hsock ↦ hsock) (fun _ hnew ↦ nomatch hnew)
      fun _ htarget ↦ htarget
  | drained hat framer =>
    exact hadvancing.keep (fun _ ↦ rfl) le_rfl (fun _ hsock ↦ hsock) (fun _ hnew ↦ nomatch hnew)
      fun _ htarget ↦ htarget
  | handles hat hnext hframer =>
    refine hadvancing.keep (fun _ ↦ rfl) le_rfl (fun _ hsock ↦ hsock) (fun new hnew ↦ ?_)
      fun _ htarget ↦ htarget
    dsimp only at hnew
    split_ifs at hnew
  | clears hat =>
    exact hadvancing.keep hclosed.written (opened_closeSock bridge).ge (fun _ hsock ↦ nomatch hsock)
      (fun _ hnew ↦ nomatch hnew) fun _ htarget ↦ hclosed.sender ▸ htarget

/-- Bytes of a message are written behind those of the earlier connections, and no later connection
is in use. -/
theorem Advancing.writes (hadvancing : Advancing bridge) (hsound : SenderSound useFdCfg bridge)
    {number connection : ℕ} {rest : List UInt8} (count : ℕ)
    (hat : bridge.sender = .sendall number connection rest)
    (haccepts : (bridge.connections connection).Accepts) :
    Advancing (bridge.senderWrite number connection rest count) := by
  have htarget : bridge.sender.target = some connection := by rw [hat]; rfl
  obtain ⟨hlt, hle, hbehind⟩ := hadvancing.target connection htarget
  rw [State.senderWrite, if_pos haccepts]
  have hself := bridge.setConnection_self connection
  have hother := fun (written : Connection) {other : ℕ} (hne : other ≠ connection) ↦
    bridge.setConnection_of_ne written hne
  have hused : ∀ other (written : Connection),
      (bridge.setConnection connection written).Used other →
        other = connection ∨ bridge.Used other := by
    intro other written hused
    by_cases hne : other = connection
    · exact Or.inl hne
    · rw [State.Used, hother written hne] at hused
      exact Or.inr hused
  constructor
  · intro other hafter
    rcases hused other _ hafter with rfl | hbefore
    · exact hlt
    · exact hadvancing.opened other hbefore
  · intro current hcurrent
    refine ⟨(hadvancing.sock current hcurrent).1, fun other hafter ↦ ?_⟩
    rcases hused other _ hafter with rfl | hbefore
    · exact hbehind current hcurrent
    · exact (hadvancing.sock current hcurrent).2 other hbefore
  · exact hadvancing.install
  · intro target hafter
    obtain rfl : connection = target := Option.some.inj hafter
    refine ⟨hlt, fun other hafter ↦ ?_, hbehind⟩
    rcases hused other _ hafter with rfl | hbefore
    · exact le_rfl
    · exact hle other hbefore
  · intro first second hless byte hbyte other hmem
    have hbyte : byte ∈ ((bridge.setConnection connection _).connections first).written := hbyte
    have hmem : other ∈ ((bridge.setConnection connection _).connections second).written := hmem
    by_cases hsecond : second = connection
    · subst hsecond
      rw [hother _ hless.ne] at hbyte
      rw [hself, List.mem_append] at hmem
      rcases hmem with hold | hnew
      · exact hadvancing.ordered first second hless byte hbyte other hold
      · -- Only bytes of earlier messages are on the other connections.
        have hrests := hsound.rests first (by rw [htarget]; simpa using hless.ne')
        have hnumber : bridge.atMessage = number := by rw [State.atMessage, hat]
        rw [fst_of_mem_tagged hnew, ← hnumber]
        exact hrests.orderly.fst_lt hbyte
    · rw [hother _ hsecond] at hmem
      have hsecondUsed := hle second (List.ne_nil_of_mem hmem)
      rw [hother _ (hless.trans_le hsecondUsed).ne] at hbyte
      exact hadvancing.ordered first second hless byte hbyte other hmem

/-- The steps of the sender. -/
theorem Advancing.senderMoves (hadvancing : Advancing bridge) (hsound : SenderSound useFdCfg bridge)
    (hmoves : SenderMoves useFdCfg bridge after) : Advancing after := by
  cases hmoves with
  | stays => exact hadvancing
  | writes count hat haccepts => exact hadvancing.writes hsound count hat haccepts
  | receives msg hat =>
    exact hadvancing.keep (fun _ ↦ rfl) le_rfl (fun _ hsock ↦ hsock) hadvancing.install
      fun _ htarget ↦ nomatch htarget
  | @goes place hgoes =>
    -- The only place with a target is `sendall` on the current socket.
    by_cases hplace : ∃ target, place.target = some target
    · obtain ⟨target, hplace⟩ := hplace
      have hsock : bridge.sock = some target := by
        generalize bridge.sender = current at hgoes
        cases hgoes with
        | sock number payload hsock =>
          obtain rfl : _ = target := Option.some.inj hplace
          exact hsock
        | _ => exact nomatch hplace
      obtain ⟨hlt, hle⟩ := hadvancing.sock target hsock
      refine ⟨hadvancing.opened, hadvancing.sock, hadvancing.install, fun other hother ↦ ?_,
        hadvancing.ordered⟩
      obtain rfl : target = other := Option.some.inj (hplace.symm.trans hother)
      refine ⟨hlt, hle, fun current hcurrent ↦ ?_⟩
      have hcurrent : bridge.sock = some current := hcurrent
      rw [hsock] at hcurrent
      exact (Option.some.inj hcurrent).le
    · exact hadvancing.keep (fun _ ↦ rfl) le_rfl (fun _ hsock ↦ hsock) hadvancing.install
        fun target htarget ↦ absurd ⟨target, htarget⟩ hplace
  | @raises number connection rest error hat =>
    refine hadvancing.keep (fun other ↦ ?_) le_rfl (fun _ hsock ↦ hsock) hadvancing.install
      fun target htarget ↦ ?_
    · by_cases hne : other = connection
      · subst hne
        show ((bridge.setConnection other _).connections other).written = _
        rw [bridge.setConnection_self]
      · show ((bridge.setConnection connection _).connections other).written = _
        rw [bridge.setConnection_of_ne _ hne]
    · cases error <;> exact nomatch htarget

/-- The steps of `stop`. -/
theorem Advancing.stopStep (hadvancing : Advancing bridge) : Advancing bridge.stopStep := by
  have hclosed := untouched_closeSock bridge
  have hsame := sameReceiving_closeSock bridge
  unfold State.stopStep
  split
  · exact hadvancing.keep (fun _ ↦ rfl) le_rfl (fun _ hsock ↦ hsock) hadvancing.install
      fun _ htarget ↦ htarget
  · exact hadvancing.keep (fun _ ↦ rfl) le_rfl (fun _ hsock ↦ hsock) hadvancing.install
      fun _ htarget ↦ htarget
  · refine hadvancing.keep hclosed.written (opened_closeSock bridge).ge
      (fun _ hsock ↦ hsame.sock ▸ hsock) (fun new hnew ↦ ?_) fun _ htarget ↦
        hclosed.sender ▸ htarget
    have hnew : bridge.manager = .install new := hsame.manager ▸ hnew
    exact (hadvancing.install new hnew).trans (opened_closeSock bridge).symm
  · exact hadvancing.keep (fun _ ↦ rfl) le_rfl (fun _ hsock ↦ hsock) hadvancing.install
      fun _ htarget ↦ htarget

/-- The sender is sound and the connections advance in every run of the bridge. -/
theorem advancing_run (python : PythonCan) (useFdCfg : Bool) (actions : List Action) :
    SenderSound useFdCfg (run python useFdCfg actions) ∧
      Advancing (run python useFdCfg actions) := by
  refine @invariant_runFrom _ _ (step python useFdCfg) {}
    (fun bridge ↦ SenderSound useFdCfg bridge ∧ Advancing bridge) ?_ ?_ actions
  · constructor
    · exact ⟨trivial, fun _ _ ↦ ⟨(whole_nil _ _).orderly, fun _ ↦ whole_nil _ _⟩,
        fun _ _ _ _ hnone ↦ absurd hnone List.not_mem_nil⟩
    · exact ⟨fun _ hused ↦ absurd rfl hused, fun _ hsock ↦ (nomatch hsock),
        fun _ hnew ↦ (nomatch hnew), fun _ htarget ↦ (nomatch htarget),
        fun _ _ _ _ hnone ↦ absurd hnone List.not_mem_nil⟩
  · rintro bridge action ⟨hsound, hadvancing⟩
    cases action with
    | sender action =>
      exact ⟨hsound.senderStep action,
        hadvancing.senderMoves hsound (senderStep_moves useFdCfg bridge action)⟩
    | manager action =>
      exact ⟨hsound.untouched (untouched_managerStep python bridge action),
        hadvancing.managerMoves (managerStep_moves python bridge action)⟩
    | stop =>
      exact ⟨hsound.untouched (untouched_stopStep bridge), hadvancing.stopStep⟩

/-! ### What the peer puts on its bus -/

/-- What has arrived of a stream: a front of it, in chunks. -/
structure Arrival (stream : List (ℕ × UInt8)) where
  bytes : List (ℕ × UInt8)
  front : bytes <+: stream
  chunking : Chunking (bytes.map Prod.snd)

/-- The message that the peer makes of the record of a message. -/
def forwarded (peer : PythonCan) (useFdCfg : Bool) (msg : Message) : Message :=
  peer.message msg.arbitrationId msg.isExtendedId msg.isRemoteFrame msg.payload
    (msg.isFd || useFdCfg) ((msg.isFd || useFdCfg) && msg.bitrateSwitch)

/-- The messages that the peer passes to `bus.send` when it runs `_loop_tcp_to_can` on one
connection after the other. -/
def arrived (peer : PythonCan) (canErrors : ℕ → ℕ → Bool) (bridge : State)
    (arrivals : ∀ connection, Arrival (bridge.connections connection).written) : List Message :=
  (List.range bridge.opened).flatMap fun connection ↦
    (loopTcpToCan peer (raisingCanError (canErrors connection))
      (receiving (arrivals connection).chunking.chunks) {}).sent

/-- Every message was delivered by a bus. -/
def FromBus (messages : List Message) : Prop :=
  ∀ msg ∈ messages, ∃ message : BusMessage, message.msg = msg

section Peer

variable (peer : PythonCan)

/-- The record of a message from a bus, without its length. -/
def bodyNumber (useFdCfg : Bool) (messages : List Message) (number : ℕ) : List UInt8 :=
  match messages[number]? with
  | none => []
  | some msg => recordBody msg.arbitrationId (frameFlags msg useFdCfg) msg.payload

/-- A message from a bus has a record that the peer takes for the message. -/
theorem bodyNumber_spec {messages : List Message} (hbus : FromBus messages) (useFdCfg : Bool)
    {number : ℕ} (hnumber : number < messages.length) :
    recordCodec.Valid (bodyNumber useFdCfg messages number) ∧
      recordNumber useFdCfg messages number =
        recordCodec.encode (bodyNumber useFdCfg messages number) ∧
      canFromFrame peer (bodyNumber useFdCfg messages number) =
        .ok (forwarded peer useFdCfg (messages[number])) := by
  obtain ⟨message, hmessage⟩ := hbus _ (List.getElem_mem hnumber)
  have hbody : bodyNumber useFdCfg messages number = recordOf useFdCfg message := by
    rw [bodyNumber, List.getElem?_eq_getElem hnumber, ← hmessage]
    rfl
  rw [hbody, recordCodec_valid, recordCodec_encode]
  refine ⟨length_recordOf_lt useFdCfg message, ?_, ?_⟩
  · rw [recordNumber, List.getElem?_eq_getElem hnumber, ← hmessage]
    simp only [frameFromCan_eq_encodeRecord]
    rfl
  · rw [← hmessage]
    exact canFromFrame_body peer message useFdCfg

/-- A message that the peer sends is the one with the given number. -/
def ForwardedOf (useFdCfg : Bool) (messages : List Message) (number : ℕ) (msg : Message) : Prop :=
  ∃ original, messages[number]? = some original ∧ msg = forwarded peer useFdCfg original

/-- One connection: the peer sends the messages whose records have arrived completely, in order. -/
theorem arrived_of_orderly {messages : List Message} (hbus : FromBus messages) (useFdCfg : Bool)
    {stream : List (ℕ × UInt8)}
    (horderly : Orderly (recordNumber useFdCfg messages) messages.length stream)
    (arrival : Arrival stream) (pattern : ℕ → Bool) :
    ∃ complete : List ℕ, complete.Pairwise (· < ·) ∧
      (∀ number, number ∈ complete ↔ number < messages.length ∧
        Complete (recordNumber useFdCfg messages) number arrival.bytes) ∧
      List.Forall₂ (ForwardedOf peer useFdCfg messages) complete
        (loopTcpToCan peer (raisingCanError pattern) (receiving arrival.chunking.chunks)
          {}).sent := by
  have hspec := fun {number : ℕ} (hnumber : number < messages.length) ↦
    bodyNumber_spec peer hbus useFdCfg hnumber
  obtain ⟨complete, hincreasing, hmem, hdrain⟩ := drain_arrived_orderly recordCodec
    (bodyNumber useFdCfg messages) horderly
    (fun number hnumber ↦ ⟨(hspec hnumber).1, (hspec hnumber).2.1⟩) arrival.front
  refine ⟨complete, hincreasing, hmem, ?_⟩
  have hbelow : ∀ number ∈ complete, number < messages.length := fun number hnumber ↦
    ((hmem number).mp hnumber).1
  have hsent := (loopTcpToCan_chunks peer pattern arrival.chunking.chunks {}
    arrival.chunking.chunk_ne_nil rfl recordCodec.next_nil).sent
  rw [List.nil_append, arrival.chunking.flatten_eq, List.nil_append, hdrain] at hsent
  rw [hsent]
  clear hsent hdrain hmem hincreasing
  induction complete with
  | nil => exact List.Forall₂.nil
  | cons number complete ih =>
    have hnumber := hbelow number List.mem_cons_self
    have haccepted : accepted peer (bodyNumber useFdCfg messages number) =
        some (forwarded peer useFdCfg (messages[number])) := by
      rw [accepted, (hspec hnumber).2.2]
      rfl
    rw [List.map_cons, sendPrefix_cons_of_some peer haccepted]
    exact .cons ⟨messages[number], List.getElem?_eq_getElem hnumber, rfl⟩
      (ih fun other hother ↦ hbelow other (List.mem_cons_of_mem _ hother))

/-- The peer puts on its bus exactly the messages of which the whole record has arrived on some
connection, each once, in the order of their reception. -/
def DeliveredInOrder (useFdCfg : Bool) (bridge : State)
    (arrivals : ∀ connection, Arrival (bridge.connections connection).written)
    (canErrors : ℕ → ℕ → Bool) : Prop :=
  ∃ numbers : List ℕ, numbers.Pairwise (· < ·) ∧
    (∀ number, number ∈ numbers ↔ number < bridge.messages.length ∧ ∃ connection,
      Complete (recordNumber useFdCfg bridge.messages) number (arrivals connection).bytes) ∧
    List.Forall₂ (ForwardedOf peer useFdCfg bridge.messages) numbers
      (arrived peer canErrors bridge arrivals)

/-- From bus to bus: whatever the order of the threads, whatever fails and however much of each
connection arrives in whatever chunks, the complete messages are delivered in order. -/
theorem arrived_in_order (python : PythonCan) (useFdCfg : Bool) (actions : List Action)
    (hbus : FromBus (run python useFdCfg actions).messages)
    (arrivals : ∀ connection,
      Arrival ((run python useFdCfg actions).connections connection).written)
    (canErrors : ℕ → ℕ → Bool) :
    DeliveredInOrder peer useFdCfg (run python useFdCfg actions) arrivals canErrors := by
  obtain ⟨hsound, hadvancing⟩ := advancing_run python useFdCfg actions
  generalize run python useFdCfg actions = bridge at hbus arrivals hsound hadvancing
  choose complete hincreasing hmem hforwarded using fun connection ↦
    arrived_of_orderly peer hbus useFdCfg (hsound.orderly connection) (arrivals connection)
      (canErrors connection)
  -- A complete record has left bytes on its connection.
  have hbyte : ∀ connection, ∀ number ∈ complete connection,
      ∃ byte ∈ (bridge.connections connection).written, byte.1 = number := by
    intro connection number hnumber
    obtain ⟨hlt, hcomplete⟩ := (hmem connection number).mp hnumber
    have hrecord : recordNumber useFdCfg bridge.messages number ≠ [] := by
      rw [(bodyNumber_spec peer hbus useFdCfg hlt).2.1]
      exact recordCodec.encode_ne_nil _
    obtain ⟨byte, hin, hfst⟩ := hcomplete.exists_mem hrecord
    exact ⟨byte, (arrivals connection).front.subset hin, hfst⟩
  refine ⟨(List.range bridge.opened).flatMap complete, ?_, fun number ↦ ?_, ?_⟩
  · refine List.pairwise_flatMap.mpr ⟨fun connection _ ↦ hincreasing connection, ?_⟩
    refine List.pairwise_lt_range.imp fun {first second} hlt number hnumber other hother ↦ ?_
    obtain ⟨byte, hbyteIn, rfl⟩ := hbyte first number hnumber
    obtain ⟨byte', hbyteIn', rfl⟩ := hbyte second other hother
    exact hadvancing.ordered first second hlt byte hbyteIn byte' hbyteIn'
  · rw [List.mem_flatMap]
    constructor
    · rintro ⟨connection, -, hnumber⟩
      obtain ⟨hlt, hcomplete⟩ := (hmem connection number).mp hnumber
      exact ⟨hlt, connection, hcomplete⟩
    · rintro ⟨hlt, connection, hcomplete⟩
      have hnumber := (hmem connection number).mpr ⟨hlt, hcomplete⟩
      obtain ⟨byte, hin, -⟩ := hbyte connection number hnumber
      exact ⟨connection, List.mem_range.mpr (hadvancing.opened connection (List.ne_nil_of_mem hin)),
        hnumber⟩
  · apply List.rel_flatMap (R := Eq) (List.forall₂_refl _)
    rintro connection _ rfl
    exact hforwarded connection

end Peer

/-- Everything arrives, in one chunk. -/
def Arrival.whole (stream : List (ℕ × UInt8)) : Arrival stream where
  bytes := stream
  front := List.prefix_rfl
  chunking :=
    { chunks := if stream = [] then [] else [stream.map Prod.snd]
      chunk_ne_nil := by
        split_ifs with hempty
        · exact fun _ hnone ↦ absurd hnone List.not_mem_nil
        · simpa using hempty
      flatten_eq := by
        split_ifs with hempty
        · rw [hempty]
          rfl
        · exact List.flatten_singleton }

/-- A heartbeat of node 5. -/
def heartbeat : BusMessage where
  msg := ⟨0x705, false, false, false, false, false, some [5], 1⟩
  arbitrationId_lt := by decide
  payload_length_le := by decide

/-- Two heartbeats with a connection lost in the middle of the first: the second goes to the next
connection. -/
def reconnecting : List Action :=
  let opens : List Action :=
    [.manager .loopTest, .manager .openTest, .manager (.opening .connected), .manager .install]
  let sends : List Action :=
    [.sender .loopTest, .sender (.recv (.message heartbeat.msg)), .sender .encode,
      .sender .readSock]
  let reopens : List Action :=
    [.sender (.write 5), .manager .start, .manager .tcpTest, .manager .readSock,
      .manager (.recv .osError), .manager .clear, .sender (.sendallRaises .osError),
      .manager .delay]
  opens ++ sends ++ reopens ++ opens ++ sends ++ [.sender (.write 9), .sender .sendallReturns]

theorem arrived_in_order_reconnecting :
    FromBus (run documentedPythonCan false reconnecting).messages ∧
      DeliveredInOrder documentedPythonCan false (run documentedPythonCan false reconnecting)
        (fun _ ↦ Arrival.whole _) fun _ _ ↦ false := by
  have hbus : FromBus (run documentedPythonCan false reconnecting).messages := by
    have hmessages : (run documentedPythonCan false reconnecting).messages =
        [heartbeat.msg, heartbeat.msg] := by decide
    rw [hmessages]
    intro msg hmsg
    obtain rfl : msg = heartbeat.msg := by simpa using hmsg
    exact ⟨heartbeat, rfl⟩
  exact ⟨hbus, arrived_in_order documentedPythonCan documentedPythonCan false reconnecting hbus _ _⟩

end CanopenTools.Bridge.Connections
