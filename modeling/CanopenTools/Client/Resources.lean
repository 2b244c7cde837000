import CanopenTools.Client.Board

/-!
# The resources of the ESP32 client

What `main` holds: a socket, the started CAN controller and the filter. `resources` says how they
may be used. There is one socket at a time, it is connected before the controller is started, frames
are only taken, read and sent while all three are there, and they are given back in the opposite
order.

`main_keeps_resources`: whatever the calls return, on every path through `main` with its error
branches, and wherever a run stops, the resources are used in this way; when `main` returns,
everything it took has been given back; and no read of the socket ever leaves its buffer.
-/

set_option autoImplicit false
set_option relaxedAutoImplicit false

namespace CanopenTools.Client.Board

open Effects Framing

open Effects.Program (Follows follows_pure follows_unfinished follows_bind follows_perform
  follows_ite follows_sound)

/-! ### The protocol -/

/-- What the program holds. -/
structure Usage where
  sock : Option ℤ := none
  connected : Bool := false
  started : Bool := false
  filterId : Option ℤ := none
  deriving DecidableEq, Repr

/-- Everything is there for the loop on a socket. -/
def Usage.Ready (usage : Usage) (sock : ℤ) : Prop :=
  usage.sock = some sock ∧ usage.connected = true ∧ usage.started = true ∧ usage.filterId ≠ none

/-- The controller and its filter are not in use. -/
def Usage.Quiet (usage : Usage) : Prop := usage.started = false ∧ usage.filterId = none

/-- Which calls are allowed. -/
def Allows (usage : Usage) : Op → Prop
  | .connectionManagerInit _ _ => usage = {}
  | .netAddrPton _ => usage = {}
  | .zsockSocket => usage = {}
  | .kSleep _ => usage = {}
  | .zsockConnect sock _ _ => usage.sock = some sock ∧ usage.connected = false ∧ usage.Quiet
  | .zsockClose sock => usage.sock = some sock ∧ usage.Quiet
  | .deviceIsReady => usage.connected = true ∧ usage.Quiet
  | .canStart => usage.connected = true ∧ usage.Quiet
  | .canStop => usage.started = true ∧ usage.filterId = none
  | .canAddRxFilter _ => usage.connected = true ∧ usage.started = true ∧ usage.filterId = none
  | .canRemoveRxFilter filterId => usage.filterId = some filterId
  | .kMsgqGet => ∃ sock, usage.Ready sock
  | .zsockSend sock _ => usage.Ready sock
  | .zsockPoll sock _ => usage.Ready sock
  | .zsockRecv sock _ => usage.Ready sock
  | .canSend _ _ => ∃ sock, usage.Ready sock

/-- The descriptor that `zsock_socket` returned is held. -/
def Usage.opened (usage : Usage) : Except ℕ+ ℕ → Usage
  | .ok sock => { usage with sock := some (sock : ℤ) }
  | .error _ => usage

/-- `zsock_connect` returned. -/
def Usage.connects (usage : Usage) : Except ℕ+ ℕ → Usage
  | .ok _ => { usage with connected := true }
  | .error _ => usage

/-- `can_start` returned. -/
def Usage.starts (usage : Usage) (ret : ℤ) : Usage :=
  if ret ≠ 0 then usage else { usage with started := true }

/-- `can_add_rx_filter` returned. -/
def Usage.filters (usage : Usage) (filterId : ℤ) : Usage :=
  if filterId < 0 then usage else { usage with filterId := some filterId }

/-- What a call makes of the resources. -/
def next (usage : Usage) : Event board → Usage
  | ⟨.zsockSocket, .ok result⟩ => usage.opened result
  | ⟨.zsockConnect _ _ _, .ok result⟩ => usage.connects result
  | ⟨.zsockClose _, _⟩ => { usage with sock := none, connected := false }
  | ⟨.canStart, .ok ret⟩ => usage.starts ret
  | ⟨.canStop, _⟩ => { usage with started := false }
  | ⟨.canAddRxFilter _, .ok filterId⟩ => usage.filters filterId
  | ⟨.canRemoveRxFilter _, _⟩ => { usage with filterId := none }
  | _ => usage

/-- A read returns at most what it is asked for. -/
def Fits (size : ℕ) : RecvEvent → Prop
  | .segment first more => (first :: more).length ≤ size
  | _ => True

/-- No call fails but by what it returns, and `zsock_recv` returns at most what it is asked for. -/
def Relies : Event board → Prop
  | ⟨.zsockRecv _ size, .ok received⟩ => Fits size received
  | ⟨_, .ok _⟩ => True
  | ⟨_, .error _⟩ => False

theorem not_relies_error (op : Op) (error : MemoryError) : ¬ Relies ⟨op, .error error⟩ := by
  cases op <;> exact not_false

/-- How the program may use its resources. -/
def resources : Protocol board where
  Usage := Usage
  start := {}
  allows := Allows
  next := next
  relies := fun _ ↦ Relies

/-- The program never leaves a buffer. -/
def Safe {α : Type} (before : Usage) (routine : Routine α) (returns : α → Usage → Prop) : Prop :=
  routine.Follows resources before returns fun _ _ ↦ False

variable {usage : Usage} {α β : Type}

theorem safe_ask {op : Op} (hallows : Allows usage op) :
    Safe usage (ask op) fun result after ↦
      Relies ⟨op, .ok result⟩ ∧ after = next usage ⟨op, .ok result⟩ :=
  follows_perform hallows (fun _ hrelies ↦ ⟨hrelies, rfl⟩) fun error ↦ not_relies_error op error

/-- A call and what follows it. -/
theorem safe_ask_bind {op : Op} {rest : op.Result → Routine α} {returns : α → Usage → Prop}
    (hallows : Allows usage op)
    (hrest : ∀ result, Relies ⟨op, .ok result⟩ →
      Safe (next usage ⟨op, .ok result⟩) (rest result) returns) :
    Safe usage (ask op >>= rest) returns := by
  refine follows_bind (safe_ask hallows) fun result after hafter ↦ ?_
  obtain ⟨hrelies, rfl⟩ := hafter
  exact hrest result hrelies

/-- A part that keeps the resources as they are and what follows it. -/
theorem safe_bind {routine : Routine β} {rest : β → Routine α} {holds : β → Prop}
    {returns : α → Usage → Prop}
    (hroutine : Safe usage routine fun value after ↦ after = usage ∧ holds value)
    (hrest : ∀ value, holds value → Safe usage (rest value) returns) :
    Safe usage (routine >>= rest) returns := by
  refine follows_bind hroutine fun value after hafter ↦ ?_
  obtain ⟨rfl, hholds⟩ := hafter
  exact hrest value hholds

/-! ### Connecting -/

/-- A result of `tcp_connect` with what is held then: nothing, or the connected socket. -/
def TcpConnected (sock : ℤ) (after : Usage) : Prop :=
  (sock < 0 → after = {}) ∧ (¬ sock < 0 → after = { sock := some sock, connected := true })

theorem tcpConnected_error (errno : ℕ+) : TcpConnected (-(errno : ℤ)) {} :=
  ⟨fun _ ↦ rfl, fun hnot ↦ absurd (by have := errno.pos; omega) hnot⟩

theorem safe_tcpConnect (config : Config) : Safe {} (tcpConnect config) TcpConnected := by
  refine safe_ask_bind rfl fun (invalid : ℤ) _ ↦ ?_
  apply follows_ite
  · exact fun _ ↦ follows_pure (tcpConnected_error 22)
  · intro _
    refine safe_ask_bind rfl fun (opened : Except ℕ+ ℕ) _ ↦ ?_
    rcases opened with errno | sock
    · exact follows_pure (tcpConnected_error errno)
    · refine safe_ask_bind ⟨rfl, rfl, rfl, rfl⟩ fun (connected : Except ℕ+ ℕ) _ ↦ ?_
      rcases connected with errno | _
      · exact safe_ask_bind ⟨rfl, rfl, rfl⟩ fun _ _ ↦ follows_pure (tcpConnected_error errno)
      · exact follows_pure ⟨fun hneg ↦ absurd hneg (by omega), fun _ ↦ rfl⟩

theorem safe_connectLoop (config : Config) (fuel : ℕ) :
    Safe {} (connectLoop config fuel) fun sock after ↦
      after = { sock := some sock, connected := true } := by
  induction fuel with
  | zero => exact follows_unfinished
  | succ fuel ih =>
    refine follows_bind (safe_tcpConnect config) fun sock after hafter ↦ ?_
    apply follows_ite
    · intro hfailed
      obtain rfl := hafter.1 hfailed
      exact safe_ask_bind rfl fun _ _ ↦ ih
    · exact fun hconnected ↦ follows_pure (hafter.2 hconnected)

/-! ### The loop -/

section Loop

variable (zephyr : ZephyrCan) {sock : ℤ} (hready : usage.Ready sock)

include hready

/-- `recv_all` stays in its buffer when the request fits it, and the buffer keeps its size. -/
theorem safe_recvAll {n : ℕ} (fuel : ℕ) {buf : List UInt8} (got : ℕ) (hfits : n ≤ buf.length) :
    Safe usage (recvAll sock n fuel buf got) fun filled after ↦
      after = usage ∧ ∀ bytes, filled = some bytes → bytes.length = buf.length := by
  induction fuel generalizing buf got with
  | zero => exact follows_unfinished
  | succ fuel ih =>
    apply follows_ite
    · intro hgot
      refine safe_ask_bind hready fun (received : RecvEvent) hrelies ↦ ?_
      cases received with
      | again => exact ih got hfits
      | closed => exact follows_pure ⟨rfl, nofun⟩
      | error errno => exact follows_pure ⟨rfl, nofun⟩
      | segment first more =>
        have hsegment : (first :: more).length ≤ n - got := hrelies
        have hwrite := @writeAt_of_le buf (first :: more) got (by omega)
        have hlength := @length_replace buf (first :: more) got (by omega)
        simp only [hwrite]
        rw [← hlength] at hfits ⊢
        exact ih _ hfits
    · exact fun _ ↦
        follows_pure ⟨rfl, fun bytes hsame ↦ congrArg List.length (Option.some.inj hsame).symm⟩

theorem safe_tcpSendCanFrame (cf : CanFrame) :
    Safe usage (tcpSendCanFrame zephyr sock cf) fun _ after ↦ after = usage := by
  refine safe_ask_bind hready fun (len : ZsockSend) _ ↦ ?_
  refine follows_ite (fun _ ↦ follows_pure rfl) fun _ ↦ ?_
  refine safe_ask_bind hready fun (hdr : ZsockSend) _ ↦ ?_
  refine follows_ite (fun _ ↦ follows_pure rfl) fun _ ↦ ?_
  refine follows_ite (fun _ ↦ ?_) fun _ ↦ follows_pure rfl
  exact safe_ask_bind hready fun _ _ ↦ follows_pure rfl

theorem safe_drainQueue (fuel : ℕ) :
    Safe usage (drainQueue zephyr sock fuel) fun _ after ↦ after = usage := by
  induction fuel with
  | zero => exact follows_unfinished
  | succ fuel ih =>
    refine safe_ask_bind ⟨sock, hready⟩ fun (taken : Option CanFrame) _ ↦ ?_
    cases taken with
    | none => exact follows_pure rfl
    | some cf =>
      refine follows_bind (safe_tcpSendCanFrame zephyr hready cf) fun _ after hafter ↦ ?_
      obtain rfl := hafter
      exact ih

theorem safe_dump (fuel passes toDump : ℕ) :
    Safe usage (dump sock fuel passes toDump) fun _ after ↦ after = usage := by
  induction passes generalizing toDump with
  | zero => exact follows_pure rfl
  | succ passes ih =>
    refine follows_ite (fun _ ↦ follows_pure rfl) fun _ ↦ ?_
    refine safe_bind (safe_recvAll hready fuel 0 (by simp)) fun filled _ ↦ ?_
    cases filled with
    | none => exact follows_pure rfl
    | some _ => exact ih _

theorem safe_sendOut (dataLen : ℕ) (buffers : Buffers) :
    Safe usage (sendOut zephyr dataLen buffers) fun _ after ↦ after = usage := by
  unfold sendOut
  split
  · exact safe_ask_bind ⟨sock, hready⟩ fun _ _ ↦ follows_pure rfl
  · exact follows_pure rfl

omit hready in
/-- The buffers have their sizes. -/
def Buffers.Sized (buffers : Buffers) : Prop :=
  buffers.lenbuf.length = 2 ∧ buffers.hdrbuf.length = sizeofTcpHdr ∧ buffers.databuf.length = 8

omit hready in
/-- A part of a pass keeps the resources and the sizes of the buffers. -/
abbrev SafePass (usage : Usage) (routine : Routine (Option Buffers)) : Prop :=
  Safe usage routine fun result after ↦
    after = usage ∧ ∀ buffers, result = some buffers → buffers.Sized

omit hready in
theorem safePass_pure {result : Option Buffers}
    (hsized : ∀ buffers, result = some buffers → buffers.Sized) :
    SafePass usage (pure result : Routine (Option Buffers)) :=
  follows_pure ⟨rfl, hsized⟩

/-- A read of a pass keeps the size of its buffer. -/
theorem safePass_orStop {n : ℕ} (fuel : ℕ) {buf : List UInt8} (hfits : n ≤ buf.length)
    {next : List UInt8 → Routine (Option Buffers)}
    (hnext : ∀ filled, filled.length = buf.length → SafePass usage (next filled)) :
    SafePass usage (orStop (recvAll sock n fuel buf 0) next) := by
  refine safe_bind (safe_recvAll hready fuel 0 hfits) fun filled hfilled ↦ ?_
  cases filled with
  | none => exact safePass_pure nofun
  | some filled => exact hnext filled (hfilled filled rfl)

/-- The end of a pass that has read a record. -/
theorem safePass_sendOut (dataLen : ℕ) {buffers : Buffers} (hsized : buffers.Sized) :
    SafePass usage (do sendOut zephyr dataLen buffers; pure (some buffers)) := by
  refine follows_bind (safe_sendOut zephyr hready dataLen buffers) fun _ after hafter ↦ ?_
  obtain rfl := hafter
  exact safePass_pure fun _ hsame ↦ Option.some.inj hsame ▸ hsized

theorem safePass_receiveData (fuel : ℕ) {payLen : ℕ} (hpayLen : payLen ≤ sizeofTcpHdr + 8)
    {buffers : Buffers} (hsized : buffers.Sized) :
    SafePass usage (receiveData zephyr sock fuel payLen buffers) := by
  obtain ⟨hlenbuf, hhdrbuf, hdatabuf⟩ := hsized
  refine follows_ite (fun _ ↦ ?_) fun _ ↦ safePass_sendOut zephyr hready _
    ⟨hlenbuf, hhdrbuf, hdatabuf⟩
  have hfits : payLen - sizeofTcpHdr ≤ buffers.databuf.length := by omega
  exact safePass_orStop hready fuel hfits fun databuf hlength ↦
    safePass_sendOut zephyr hready _ ⟨hlenbuf, hhdrbuf, hlength.trans hdatabuf⟩

theorem safePass_receiveHdr (fuel payLen : ℕ) {buffers : Buffers} (hsized : buffers.Sized) :
    SafePass usage (receiveHdr zephyr sock fuel payLen buffers) := by
  refine follows_ite (fun _ ↦ ?_) fun hgood ↦ ?_
  · refine follows_bind (safe_dump hready fuel _ _) fun running after hafter ↦ ?_
    obtain rfl := hafter
    refine safePass_pure fun kept hkept ↦ ?_
    cases running with
    | false => exact nomatch hkept
    | true => exact Option.some.inj hkept ▸ hsized
  · obtain ⟨hlenbuf, hhdrbuf, hdatabuf⟩ := hsized
    exact safePass_orStop hready fuel hhdrbuf.ge fun hdrbuf hlength ↦
      safePass_receiveData zephyr hready fuel (by omega) ⟨hlenbuf, hlength.trans hhdrbuf, hdatabuf⟩

theorem safePass_receive (fuel : ℕ) {buffers : Buffers} (hsized : buffers.Sized) :
    SafePass usage (receive zephyr sock fuel buffers) := by
  obtain ⟨hlenbuf, hhdrbuf, hdatabuf⟩ := hsized
  exact safePass_orStop hready fuel hlenbuf.ge fun lenbuf hlength ↦
    safePass_receiveHdr zephyr hready fuel _ ⟨hlength.trans hlenbuf, hhdrbuf, hdatabuf⟩

theorem safe_bridgeLoop (fuel passes : ℕ) {buffers : Buffers} (hsized : buffers.Sized) :
    Safe usage (bridgeLoop zephyr sock fuel passes buffers) fun _ after ↦ after = usage := by
  induction passes generalizing buffers with
  | zero => exact follows_unfinished
  | succ passes ih =>
    refine follows_bind (safe_drainQueue zephyr hready fuel) fun _ after hafter ↦ ?_
    obtain rfl := hafter
    refine safe_ask_bind hready fun (polled : Poll) _ ↦ ?_
    rcases polled with _ | _ | _ | _
    · exact ih hsized
    · exact follows_pure rfl
    · exact ih hsized
    · refine safe_bind (safePass_receive zephyr hready fuel hsized) fun result hresult ↦ ?_
      cases result with
      | none => exact follows_pure rfl
      | some buffers => exact ih (hresult buffers rfl)

end Loop

/-! ### `main` -/

section Main

variable (zephyr : ZephyrCan) (config : Config) (fuel : ℕ)

/-- The connected socket, with the controller as given. -/
def held (sock : ℤ) (started : Bool) (filterId : Option ℤ) : Usage :=
  { sock := some sock, connected := true, started, filterId }

theorem safe_zsockClose (sock : ℤ) :
    Safe (held sock false none) (ask (.zsockClose sock)) fun _ after ↦ after = {} := by
  have hallows : Allows (held sock false none) (.zsockClose sock) := ⟨rfl, rfl, rfl⟩
  exact (safe_ask hallows).mono (fun _ _ hafter ↦ hafter.2) fun _ _ hnone ↦ hnone

theorem safe_canStop (sock : ℤ) :
    Safe (held sock true none) (ask .canStop >>= fun _ ↦ ask (.zsockClose sock)) fun _ after ↦
      after = {} := by
  have hallows : Allows (held sock true none) .canStop := ⟨rfl, rfl⟩
  exact safe_ask_bind hallows fun _ _ ↦ safe_zsockClose sock

theorem safe_runFiltered (sock : ℤ) :
    Safe (held sock true none) (runFiltered zephyr fuel sock) fun _ after ↦ after = {} := by
  refine safe_ask_bind ⟨rfl, rfl, rfl⟩ fun (filterId : ℤ) _ ↦ ?_
  refine follows_ite (fun hfailed ↦ ?_) fun hadded ↦ ?_
  · have hnext : next (held sock true none) ⟨.canAddRxFilter mainFilter, .ok filterId⟩ =
        held sock true none := if_pos hfailed
    rw [hnext]
    exact safe_canStop sock
  · have hnext : next (held sock true none) ⟨.canAddRxFilter mainFilter, .ok filterId⟩ =
        held sock true (some filterId) := if_neg hadded
    rw [hnext]
    have hready : (held sock true (some filterId)).Ready sock :=
      ⟨rfl, rfl, rfl, Option.some_ne_none filterId⟩
    refine follows_bind (safe_bridgeLoop zephyr hready fuel fuel ⟨rfl, rfl, rfl⟩)
      fun _ after hafter ↦ ?_
    obtain rfl := hafter
    exact safe_ask_bind rfl fun _ _ ↦ safe_canStop sock

theorem safe_runConnected (sock : ℤ) :
    Safe (held sock false none) (runConnected zephyr fuel sock) fun _ after ↦ after = {} := by
  refine safe_ask_bind ⟨rfl, rfl, rfl⟩ fun (ready : Bool) _ ↦ ?_
  refine follows_ite (fun _ ↦ safe_zsockClose sock) fun _ ↦ ?_
  show Safe (held sock false none) _ _
  refine safe_ask_bind ⟨rfl, rfl, rfl⟩ fun (ret : ℤ) _ ↦ ?_
  refine follows_ite (fun hfailed ↦ ?_) fun hstarted ↦ ?_
  · have hnext : next (held sock false none) ⟨.canStart, .ok ret⟩ = held sock false none :=
      if_pos hfailed
    rw [hnext]
    exact safe_zsockClose sock
  · have hnext : next (held sock false none) ⟨.canStart, .ok ret⟩ = held sock true none :=
      if_neg hstarted
    rw [hnext]
    exact safe_runFiltered zephyr fuel sock

theorem safe_main : Safe {} (main zephyr config fuel) fun _ after ↦ after = {} := by
  refine safe_ask_bind rfl fun (ret : ℤ) _ ↦ ?_
  refine follows_ite (fun _ ↦ follows_pure rfl) fun _ ↦ ?_
  refine follows_bind (safe_connectLoop config fuel) fun sock after hafter ↦ ?_
  obtain rfl := hafter
  exact safe_runConnected zephyr fuel sock

/-- Whatever the calls return: at every call the resources are in the state that the call needs,
when `main` returns everything has been given back, and no write leaves a buffer. -/
theorem main_keeps_resources (surroundings : Surroundings board)
    (hrelies : ∀ history op, Relies ⟨op, surroundings history op⟩) :
    resources.Obeyed ((main zephyr config fuel).run surroundings []).1 ∧
      (∀ value, ((main zephyr config fuel).run surroundings []).2 = .returned value →
        resources.usage ((main zephyr config fuel).run surroundings []).1 = ({} : Usage)) ∧
      ∀ error, ((main zephyr config fuel).run surroundings []).2 ≠ .raised error := by
  obtain ⟨hobeyed, houtcome⟩ := follows_sound (safe_main zephyr config fuel) surroundings hrelies
  refine ⟨hobeyed, fun value hreturned ↦ ?_, fun error hraised ↦ ?_⟩
  · rw [hreturned] at houtcome
    exact houtcome
  · rw [hraised] at houtcome
    exact houtcome

/-- A board on which the first try to connect fails, a frame waits in the queue, and the server
closes the connection. -/
def hangingUp : Surroundings board := fun history op ↦ .ok (answer history.length op)
where
  answer (count : ℕ) : (op : Op) → op.Result
  | .connectionManagerInit _ _ => (0 : ℤ)
  | .netAddrPton _ => (0 : ℤ)
  | .zsockSocket => (.ok 5 : Except ℕ+ ℕ)
  | .zsockConnect _ _ _ => (if count < 5 then .error 111 else .ok 0 : Except ℕ+ ℕ)
  | .deviceIsReady => true
  | .canStart => (0 : ℤ)
  | .canAddRxFilter _ => (0 : ℤ)
  | .kMsgqGet => (if count < 13 then some {} else none : Option CanFrame)
  | .zsockSend _ bytes => ZsockSend.accepted bytes.length
  | .zsockPoll _ _ => Poll.ready true
  | .zsockRecv _ _ => RecvEvent.closed
  | .canSend _ _ => (0 : ℤ)
  | .zsockClose _ => ()
  | .kSleep _ => ()
  | .canStop => ()
  | .canRemoveRxFilter _ => ()

theorem relies_hangingUp (history : List (Event board)) (op : Op) :
    Relies ⟨op, hangingUp history op⟩ := by
  cases op <;> trivial

/-- The settings of a client. -/
def home : Config := ⟨"owl", "secret", "192.0.2.2", 9000⟩

theorem main_keeps_resources_hangingUp :
    ((main documentedZephyrCan home 5).run hangingUp []).1.length = 21 ∧
      resources.Obeyed ((main documentedZephyrCan home 5).run hangingUp []).1 ∧
      resources.usage ((main documentedZephyrCan home 5).run hangingUp []).1 = ({} : Usage) := by
  obtain ⟨hobeyed, hgivenBack, -⟩ :=
    main_keeps_resources documentedZephyrCan home 5 hangingUp relies_hangingUp
  exact ⟨rfl, hobeyed, hgivenBack () rfl⟩

end Main

end CanopenTools.Client.Board
