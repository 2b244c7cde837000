import CanopenTools.Runs.History
import Mathlib.Data.Int.Order.Basic

/-!
# The Wi-Fi connection manager

`connection_manager_init` of the client, with `cm_wifi_connect`, `dhcp_client_start` and the event
handlers. The main thread registers a handler for connect results, requests a connection until
`net_mgmt` accepts a request or the tries are used up, and takes `wifi_connected_sem`. Then it
starts DHCP and takes `dhcp_completed_sem`. The handlers run in another thread, at any time, and
give the semaphores.

Of Zephyr it is assumed that a handler is called for the event it is registered for, and that a
connect result is delivered for accepted requests only, once for each of them.

`Sound` is the invariant of the runs. `cm_wifi_connect` returns nothing, so that the main thread
takes the semaphore also when every request was refused. `waitsForResults_iff` says that it waits
for results that can come exactly when one of the requests is accepted or there is no interface.
-/

set_option autoImplicit false
set_option relaxedAutoImplicit false

namespace CanopenTools.Client.ConnectionManager

open Runs

/-! ### The platform -/

/-- What the connection manager runs on: `CONFIG_WIFI_NUM_TRIES`, whether `net_if_get_default` finds
an interface, and what `net_mgmt(NET_REQUEST_WIFI_CONNECT, …)` returns for each request. -/
structure Platform where
  wifiNumTries : ℤ
  hasIface : Bool
  netMgmt : ℕ → ℤ

/-- `enum cm_wifi_conn_status`. -/
inductive CmWifiConnStatus
  | wifiConnected
  | wifiNotConnected
  deriving DecidableEq, Repr

/-- `enum dhcp_status`. -/
inductive DhcpStatus
  | dhcpOk
  | dhcpFailed
  deriving DecidableEq, Repr

/-- The network management events: `NET_EVENT_WIFI_CONNECT_RESULT` with whether its `conn_status` is
`WIFI_STATUS_CONN_SUCCESS`, `NET_EVENT_IPV4_ADDR_ADD`, and all others. -/
inductive MgmtEvent
  | wifiConnectResult (connSuccess : Bool)
  | ipv4AddrAdd
  | other (code : ℕ)
  deriving DecidableEq, Repr

/-- What `connection_manager_init` returns: zero, `-ECONNREFUSED` or `-ENXIO`. -/
inductive ReturnCode
  | zero
  | econnrefused
  | enxio
  deriving DecidableEq, Repr

/-! ### The state -/

/-- Where the main thread is: before the named action, blocked in `k_sem_take`, or behind
`connection_manager_init`. In the request loop it is before the sleep, with the value of `nr_tries`.
-/
inductive Position
  | getDefault
  | request (nrTries : ℤ)
  | takeWifi
  | blockedWifi
  | testWifi
  | takeDhcp
  | blockedDhcp
  | testDhcp
  | returned (rc : ReturnCode)
  deriving DecidableEq, Repr

/-- The state of the connection manager. `results` records what the requests returned, and
`undelivered` counts the accepted requests whose result event is still to come. The semaphores count
up to one. A static enumeration starts with its first value. -/
structure Manager where
  position : Position := .getDefault
  results : List ℤ := []
  undelivered : ℕ := 0
  wifiHandler : Bool := false
  dhcpHandler : Bool := false
  wifiConnectedSem : ℕ := 0
  dhcpCompletedSem : ℕ := 0
  wifiStatus : CmWifiConnStatus := .wifiConnected
  dhcpStatus : DhcpStatus := .dhcpOk
  deriving DecidableEq, Repr

namespace Manager

/-! ### The event handlers -/

/-- `k_sem_give(&wifi_connected_sem)`: a thread that is blocked on it goes on. -/
def giveWifi (manager : Manager) : Manager :=
  if manager.position = .blockedWifi then { manager with position := .testWifi }
  else { manager with wifiConnectedSem := min (manager.wifiConnectedSem + 1) 1 }

/-- `k_sem_give(&dhcp_completed_sem)`. -/
def giveDhcp (manager : Manager) : Manager :=
  if manager.position = .blockedDhcp then { manager with position := .testDhcp }
  else { manager with dhcpCompletedSem := min (manager.dhcpCompletedSem + 1) 1 }

/-- `wifi_events_cb`. -/
def wifiEventsCb (status : CmWifiConnStatus) (manager : Manager) : Manager :=
  { manager with wifiStatus := status }.giveWifi

/-- `dhcp_events_cb`. -/
def dhcpEventsCb (status : DhcpStatus) (manager : Manager) : Manager :=
  { manager with dhcpStatus := status }.giveDhcp

/-- `wifi_mgmt_event_handler_cb`. -/
def wifiMgmtEventHandlerCb (event : MgmtEvent) : Manager → Manager :=
  wifiEventsCb <|
    match event with
    | .wifiConnectResult true => .wifiConnected
    | _ => .wifiNotConnected

/-- `dhcp_mgmt_events_cb`. -/
def dhcpMgmtEventsCb (event : MgmtEvent) : Manager → Manager :=
  dhcpEventsCb <|
    match event with
    | .ipv4AddrAdd => .dhcpOk
    | _ => .dhcpFailed

/-- The delivery of an event to the handler that is registered for it. There is a connect result for
accepted requests only. -/
def deliver (event : MgmtEvent) (manager : Manager) : Manager :=
  match event with
  | .wifiConnectResult _ =>
    if manager.undelivered = 0 then manager
    else
      let delivered := { manager with undelivered := manager.undelivered - 1 }
      if manager.wifiHandler then delivered.wifiMgmtEventHandlerCb event else delivered
  | .ipv4AddrAdd => if manager.dhcpHandler then manager.dhcpMgmtEventsCb event else manager
  | .other _ => manager

/-! ### The main thread -/

/-- One pass of the request loop: `while ((status != 0) && (nr_tries-- > 0))`. -/
def cmWifiRequest (status nrTries : ℤ) (manager : Manager) : Manager :=
  { manager with
    results := manager.results ++ [status]
    undelivered := if status = 0 then manager.undelivered + 1 else manager.undelivered
    position := if status ≠ 0 ∧ nrTries > 0 then .request (nrTries - 1) else .takeWifi }

/-- The next action of the main thread. -/
def main (platform : Platform) (manager : Manager) : Manager :=
  match manager.position with
  | .getDefault =>
    if platform.hasIface then
      { manager with wifiHandler := true, position := .request platform.wifiNumTries }
    else { manager with position := .returned .enxio }
  | .request nrTries =>
    manager.cmWifiRequest (platform.netMgmt manager.results.length) nrTries
  | .takeWifi =>
    if manager.wifiConnectedSem = 0 then { manager with position := .blockedWifi }
    else
      { manager with
        wifiConnectedSem := manager.wifiConnectedSem - 1
        position := .testWifi }
  | .testWifi =>
    if manager.wifiStatus = .wifiConnected then
      { manager with dhcpHandler := true, position := .takeDhcp }
    else { manager with position := .returned .econnrefused }
  | .takeDhcp =>
    if manager.dhcpCompletedSem = 0 then { manager with position := .blockedDhcp }
    else
      { manager with
        dhcpCompletedSem := manager.dhcpCompletedSem - 1
        position := .testDhcp }
  | .testDhcp =>
    { manager with
      position := .returned (if manager.dhcpStatus ≠ .dhcpOk then .econnrefused else .zero) }
  | .blockedWifi | .blockedDhcp | .returned _ => manager

end Manager

/-- What happens next: an action of the main thread or an event. -/
inductive Action
  | main
  | event (event : MgmtEvent)
  deriving DecidableEq, Repr

/-- One step of the connection manager. -/
def step (platform : Platform) (manager : Manager) : Action → Manager
  | .main => manager.main platform
  | .event event => manager.deliver event

/-- The connection manager after some steps. -/
def run (platform : Platform) (actions : List Action) : Manager :=
  runFrom (step platform) {} actions

/-! ### The invariant -/

namespace Manager

variable (platform : Platform) (manager : Manager)

/-- The main thread is in the request loop. -/
structure Requesting (nrTries : ℤ) : Prop where
  hasIface : platform.hasIface = true
  wifiHandler : manager.wifiHandler = true
  refused : 0 ∉ manager.results
  undelivered : manager.undelivered = 0
  wifiConnectedSem : manager.wifiConnectedSem = 0
  tries : manager.results.length + nrTries.toNat = platform.wifiNumTries.toNat

/-- The main thread is past the request loop: a request was accepted, or the tries are used up. -/
structure Requested : Prop where
  hasIface : platform.hasIface = true
  wifiHandler : manager.wifiHandler = true
  tries : 0 ∈ manager.results ∨ manager.results.length = platform.wifiNumTries.toNat + 1

/-- What holds at a position of the main thread. -/
def Holds : Position → Prop
  | .getDefault => manager.results = [] ∧ manager.undelivered = 0 ∧ manager.wifiConnectedSem = 0
  | .request nrTries => manager.Requesting platform nrTries
  | .takeWifi =>
    manager.Requested platform ∧
      (0 ∈ manager.results ↔ 0 < manager.undelivered + manager.wifiConnectedSem)
  | .blockedWifi => manager.Requested platform ∧ (0 ∈ manager.results ↔ 0 < manager.undelivered)
  | .testWifi | .takeDhcp | .blockedDhcp | .testDhcp | .returned .zero
  | .returned .econnrefused => 0 ∈ manager.results
  | .returned .enxio => platform.hasIface = false

/-- What holds in every run: the requests are those of the platform in order, a result is to come
only where the handler is registered, and the position of the main thread tells what became of the
requests. -/
structure Sound : Prop where
  results : manager.results = (List.range manager.results.length).map platform.netMgmt
  handler : manager.undelivered ≠ 0 → manager.wifiHandler = true
  position : manager.Holds platform manager.position

end Manager

open Manager

variable {platform : Platform} {manager : Manager}

theorem sound_start : Sound platform {} := ⟨rfl, absurd rfl, rfl, rfl, rfl⟩

theorem Manager.cmWifiRequest_position (manager : Manager) (status nrTries : ℤ) :
    (manager.cmWifiRequest status nrTries).position =
      if status ≠ 0 ∧ nrTries > 0 then .request (nrTries - 1) else .takeWifi := rfl

/-- A pass of the request loop leaves it when the request is accepted or no try is left. -/
theorem Manager.Requesting.cmWifiRequest {nrTries : ℤ}
    (hrequesting : manager.Requesting platform nrTries) (status : ℤ) :
    (manager.cmWifiRequest status nrTries).Holds platform
      (manager.cmWifiRequest status nrTries).position := by
  obtain ⟨hiface, hhandler, hrefused, hundelivered, hsem, htries⟩ := hrequesting
  have hlength : (manager.results ++ [status]).length = manager.results.length + 1 := by simp
  by_cases hstatus : status = 0
  · subst hstatus
    have haccepted : (0 : ℤ) ∈ manager.results ++ [0] := by simp
    rw [Manager.cmWifiRequest_position, if_neg fun hagain ↦ hagain.1 rfl]
    refine ⟨⟨hiface, hhandler, Or.inl haccepted⟩, iff_of_true haccepted ?_⟩
    exact Nat.add_pos_left (Nat.succ_pos _) _
  · have hstill : (0 : ℤ) ∉ manager.results ++ [status] := by
      simp only [List.mem_append, List.mem_singleton, not_or]
      exact ⟨hrefused, Ne.symm hstatus⟩
    have hnone : (manager.cmWifiRequest status nrTries).undelivered = 0 :=
      (if_neg hstatus).trans hundelivered
    by_cases hmore : nrTries > 0
    · rw [Manager.cmWifiRequest_position, if_pos ⟨hstatus, hmore⟩]
      refine ⟨hiface, hhandler, hstill, hnone, hsem, ?_⟩
      change (manager.results ++ [status]).length + (nrTries - 1).toNat = _
      omega
    · rw [Manager.cmWifiRequest_position, if_neg fun hagain ↦ hmore hagain.2]
      refine ⟨⟨hiface, hhandler, Or.inr ?_⟩, iff_of_false hstill ?_⟩
      · change (manager.results ++ [status]).length = _
        omega
      · rw [hnone, Nat.zero_add]
        exact Nat.not_lt_of_le (Nat.le_of_eq hsem)

/-- The main thread keeps the invariant. -/
theorem Manager.Sound.main (hsound : Sound platform manager) :
    Sound platform (manager.main platform) := by
  obtain ⟨hresults, hhandler, hposition⟩ := hsound
  unfold Manager.main
  split <;> rename_i hat <;> rw [hat] at hposition
  · obtain ⟨hempty, hundelivered, hsem⟩ := hposition
    split_ifs with hiface
    · refine ⟨hresults, fun _ ↦ rfl, hiface, rfl, ?_, hundelivered, hsem, ?_⟩
      · simp [hempty]
      · simp [hempty]
    · exact ⟨hresults, hhandler, eq_false_of_ne_true hiface⟩
  · refine ⟨?_, fun _ ↦ hposition.wifiHandler, hposition.cmWifiRequest _⟩
    change manager.results ++ [_] = _
    rw [Manager.cmWifiRequest, List.length_append, List.length_singleton, List.range_succ,
      List.map_append, ← hresults]
    rfl
  · obtain ⟨hrequested, haccepted⟩ := hposition
    split_ifs with hsem
    · rw [hsem, Nat.add_zero] at haccepted
      exact ⟨hresults, hhandler, ⟨hrequested.1, hrequested.2, hrequested.3⟩, haccepted⟩
    · exact ⟨hresults, hhandler, haccepted.mpr (by omega)⟩
  · split_ifs
    · exact ⟨hresults, hhandler, hposition⟩
    · exact ⟨hresults, hhandler, hposition⟩
  · split_ifs
    · exact ⟨hresults, hhandler, hposition⟩
    · exact ⟨hresults, hhandler, hposition⟩
  · refine ⟨hresults, hhandler, ?_⟩
    change Manager.Holds platform _ (Position.returned (if _ then _ else _))
    split_ifs
    · exact hposition
    · exact hposition
  · exact ⟨hresults, hhandler, hat ▸ hposition⟩
  · exact ⟨hresults, hhandler, hat ▸ hposition⟩
  · exact ⟨hresults, hhandler, hat ▸ hposition⟩

/-- What holds at a position depends on four fields only. -/
theorem Manager.Holds.frame {position : Position} {after : Manager}
    (hholds : manager.Holds platform position) (hresults : after.results = manager.results)
    (hundelivered : after.undelivered = manager.undelivered)
    (hhandler : after.wifiHandler = manager.wifiHandler)
    (hsem : after.wifiConnectedSem = manager.wifiConnectedSem) :
    after.Holds platform position := by
  obtain ⟨_, results, undelivered, wifiHandler, _, sem, _, _, _⟩ := after
  obtain rfl : results = manager.results := hresults
  obtain rfl : undelivered = manager.undelivered := hundelivered
  obtain rfl : wifiHandler = manager.wifiHandler := hhandler
  obtain rfl : sem = manager.wifiConnectedSem := hsem
  cases position with
  | request nrTries => exact ⟨hholds.1, hholds.2, hholds.3, hholds.4, hholds.5, hholds.6⟩
  | takeWifi => exact ⟨⟨hholds.1.1, hholds.1.2, hholds.1.3⟩, hholds.2⟩
  | blockedWifi => exact ⟨⟨hholds.1.1, hholds.1.2, hholds.1.3⟩, hholds.2⟩
  | returned rc => cases rc <;> exact hholds
  | _ => exact hholds

/-- A connect result gives the semaphore, or wakes the main thread. -/
theorem Manager.Sound.giveWifi (hsound : Sound platform manager) (hpos : 0 < manager.undelivered)
    (status : CmWifiConnStatus) :
    Sound platform
      ({ manager with undelivered := manager.undelivered - 1 }.wifiEventsCb status) := by
  obtain ⟨hresults, hhandler, hposition⟩ := hsound
  unfold wifiEventsCb Manager.giveWifi
  split_ifs with hblocked
  · change manager.position = .blockedWifi at hblocked
    rw [hblocked] at hposition
    exact ⟨hresults, fun _ ↦ hhandler (Nat.ne_of_gt hpos), hposition.2.mpr hpos⟩
  · refine ⟨hresults, fun _ ↦ hhandler (Nat.ne_of_gt hpos), ?_⟩
    change Manager.Holds platform _ manager.position
    cases hat : manager.position with
    | blockedWifi => exact absurd hat hblocked
    | getDefault =>
      rw [hat] at hposition
      exact absurd hposition.2.1 (Nat.ne_of_gt hpos)
    | request nrTries =>
      rw [hat] at hposition
      exact absurd hposition.undelivered (Nat.ne_of_gt hpos)
    | takeWifi =>
      rw [hat] at hposition
      obtain ⟨hrequested, haccepted⟩ := hposition
      refine ⟨⟨hrequested.1, hrequested.2, hrequested.3⟩, ?_⟩
      refine iff_of_true (haccepted.mpr (Nat.add_pos_left hpos _)) (Nat.add_pos_right _ ?_)
      exact Nat.lt_min.mpr ⟨Nat.succ_pos _, Nat.one_pos⟩
    | returned rc =>
      rw [hat] at hposition
      cases rc <;> exact hposition
    | _ =>
      rw [hat] at hposition
      exact hposition

/-- A new address gives the other semaphore, or wakes the main thread. -/
theorem Manager.Sound.giveDhcp (hsound : Sound platform manager) (status : DhcpStatus) :
    Sound platform (manager.dhcpEventsCb status) := by
  obtain ⟨hresults, hhandler, hposition⟩ := hsound
  unfold dhcpEventsCb Manager.giveDhcp
  split_ifs with hblocked
  · change manager.position = .blockedDhcp at hblocked
    rw [hblocked] at hposition
    exact ⟨hresults, hhandler, hposition⟩
  · exact ⟨hresults, hhandler, hposition.frame rfl rfl rfl rfl⟩

/-- Every event keeps the invariant. -/
theorem Manager.Sound.deliver (hsound : Sound platform manager) (event : MgmtEvent) :
    Sound platform (manager.deliver event) := by
  cases event with
  | wifiConnectResult connSuccess =>
    by_cases hnone : manager.undelivered = 0
    · rw [Manager.deliver, if_pos hnone]
      exact hsound
    · rw [Manager.deliver, if_neg hnone, if_pos (hsound.handler hnone)]
      exact hsound.giveWifi (Nat.pos_of_ne_zero hnone) _
  | ipv4AddrAdd =>
    rw [Manager.deliver]
    split_ifs
    · exact hsound.giveDhcp _
    · exact hsound
  | other code => exact hsound

/-- The invariant holds in every run. -/
theorem sound_run (platform : Platform) (actions : List Action) :
    Sound platform (run platform actions) := by
  refine invariant_runFrom sound_start (fun manager action hsound ↦ ?_) actions
  cases action with
  | main => exact hsound.main
  | event event => exact hsound.deliver event

/-! ### Waiting for a result -/

/-- In every run, the main thread is blocked on `wifi_connected_sem` only while the result of an
accepted request is to come. Where every request was refused it is not blocked there, and it returns
an error. -/
structure WaitsForResults (platform : Platform) : Prop where
  awaited : ∀ actions, (run platform actions).position = .blockedWifi →
    0 ∈ (run platform actions).results ∧ 0 < (run platform actions).undelivered
  refused : ∀ actions, 0 ∉ (run platform actions).results →
    (run platform actions).position ≠ .blockedWifi ∧
      (run platform actions).position ≠ .returned .zero

/-- One of the requests that the loop makes at most is accepted. -/
def Platform.Accepts (platform : Platform) : Prop :=
  ∃ number ≤ platform.wifiNumTries.toNat, platform.netMgmt number = 0

/-- On a platform that accepts a request, the request loop ends with an accepted one. -/
theorem Manager.Requested.accepted (hrequested : manager.Requested platform)
    (hsound : Sound platform manager) (haccepts : platform.Accepts) : 0 ∈ manager.results := by
  rcases hrequested.tries with haccepted | hall
  · exact haccepted
  · obtain ⟨number, hnumber, hzero⟩ := haccepts
    rw [hsound.results, hall]
    exact List.mem_map.mpr ⟨number, List.mem_range.mpr (Nat.lt_succ_of_le hnumber), hzero⟩

/-- Without an interface or with an accepted request, a blocked main thread waits for a result that
is to come. -/
theorem Manager.Sound.awaited (hsound : Sound platform manager)
    (hplatform : platform.hasIface = false ∨ platform.Accepts)
    (hblocked : manager.position = .blockedWifi) :
    0 ∈ manager.results ∧ 0 < manager.undelivered := by
  have hposition := hsound.position
  rw [hblocked] at hposition
  obtain ⟨hrequested, hiff⟩ := hposition
  rcases hplatform with hnone | haccepts
  · exact absurd (hrequested.hasIface.symm.trans hnone) (by decide)
  · have haccepted := hrequested.accepted hsound haccepts
    exact ⟨haccepted, hiff.mp haccepted⟩

/-- Success is not returned where every request was refused. -/
theorem Manager.Sound.not_returned_zero (hsound : Sound platform manager)
    (hrefused : 0 ∉ manager.results) : manager.position ≠ .returned .zero := by
  intro hzero
  have hposition := hsound.position
  rw [hzero] at hposition
  exact hrefused hposition

section Refusing

variable (hiface : platform.hasIface = true) (hrefuses : ¬ platform.Accepts)

include hiface hrefuses

/-- The main thread alone on a platform that refuses every request: it makes one request after
another. -/
theorem run_refused (count : ℕ) (hcount : count ≤ platform.wifiNumTries.toNat) :
    run platform (List.replicate (count + 1) .main) =
      { wifiHandler := true
        results := (List.range count).map platform.netMgmt
        position := .request (platform.wifiNumTries - count) } := by
  induction count with
  | zero =>
    change Manager.main platform {} = _
    rw [Manager.main, if_pos hiface]
    simp
  | succ count ih =>
    have hrefused : platform.netMgmt count ≠ 0 := fun hzero ↦
      hrefuses ⟨count, by omega, hzero⟩
    have hmore : platform.wifiNumTries - count > 0 := by omega
    rw [List.replicate_succ', run, runFrom_concat, ← run, ih (by omega)]
    simp only [step, Manager.main, List.length_map, List.length_range, cmWifiRequest, hrefused,
      ne_eq, not_false_iff, hmore, and_self, if_true, if_false, List.range_succ, List.map_append,
      List.map_singleton, Int.sub_sub, Int.natCast_add, Int.cast_ofNat_Int]

/-- After the last request it blocks on the semaphore. -/
theorem run_blocked :
    run platform (List.replicate (platform.wifiNumTries.toNat + 3) .main) =
      { wifiHandler := true
        results := (List.range (platform.wifiNumTries.toNat + 1)).map platform.netMgmt
        position := .blockedWifi } := by
  have hrefused : platform.netMgmt platform.wifiNumTries.toNat ≠ 0 := fun hzero ↦
    hrefuses ⟨_, Nat.le_refl _, hzero⟩
  have hnone : ¬ platform.wifiNumTries - platform.wifiNumTries.toNat > 0 := by omega
  rw [List.replicate_succ', List.replicate_succ', run, runFrom_concat, runFrom_concat, ← run,
    run_refused hiface hrefuses _ (Nat.le_refl _)]
  simp only [step, Manager.main, List.length_map, List.length_range, cmWifiRequest, hrefused,
    ne_eq, not_false_iff, hnone, and_false, if_true, if_false, List.range_succ, List.map_append,
    List.map_singleton]

end Refusing

/-- The main thread waits for results that can come exactly when there is no interface or a request
is accepted. -/
theorem waitsForResults_iff (platform : Platform) :
    WaitsForResults platform ↔ platform.hasIface = false ∨ platform.Accepts := by
  constructor
  · intro hwaits
    by_contra hneither
    obtain ⟨hiface, hrefuses⟩ := not_or.mp hneither
    have hblocked := run_blocked (eq_true_of_ne_false hiface) hrefuses
    have hposition := congrArg Manager.position hblocked
    have haccepted := (hwaits.awaited _ hposition).1
    rw [hblocked] at haccepted
    obtain ⟨number, hnumber, hzero⟩ := List.mem_map.mp haccepted
    exact hrefuses ⟨number, Nat.lt_succ_iff.mp (List.mem_range.mp hnumber), hzero⟩
  · intro hplatform
    refine ⟨fun actions ↦ (sound_run platform actions).awaited hplatform, fun actions hrefused ↦ ?_⟩
    have hsound := sound_run platform actions
    exact ⟨fun hblocked ↦ hrefused (hsound.awaited hplatform hblocked).1,
      hsound.not_returned_zero hrefused⟩

/-- A platform with the default number of tries that refuses every request. -/
def refusing : Platform := ⟨10, true, fun _ ↦ -1⟩

/-- After eleven refused requests the main thread is blocked, with no result to come. -/
theorem not_waitsForResults_refusing : ¬ WaitsForResults refusing := by
  intro hwaits
  have hblocked : (run refusing (List.replicate 13 .main)).position = .blockedWifi := by decide
  have hnone : (run refusing (List.replicate 13 .main)).undelivered = 0 := by decide
  exact absurd (hwaits.awaited _ hblocked).2 (hnone ▸ Nat.lt_irrefl 0)

end CanopenTools.Client.ConnectionManager
