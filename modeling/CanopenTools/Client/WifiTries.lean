import CanopenTools.Client.ConnectionManager

/-!
# How often `cm_wifi_connect` requests a connection

`cm_wifi_connect` requests a connection until a request is accepted or the tries are used up. Its
loop tests the number of tries that are left behind a request and counts it down with the test, so
that it makes one request more than it has tries when all of them are refused
(`requests_cmWifiConnect`). `keepsTries_iff` says for which platforms the number of tries is kept
all the same: those that accept one of the first requests.

The runs of the connection manager go through this loop, one request in a step (`allRequests_run`).
-/

set_option autoImplicit false
set_option relaxedAutoImplicit false

namespace CanopenTools.Client.ConnectionManager

open Runs

/-! ### The loop -/

/-- The `do … while` loop of `cm_wifi_connect` with the value of `nr_tries` in front of a request:
what this request and the later ones return. -/
def requestLoop (netMgmt : ℕ → ℤ) (number : ℕ) (nrTries : ℤ) : List ℤ :=
  let status := netMgmt number
  if status ≠ 0 ∧ nrTries > 0 then status :: requestLoop netMgmt (number + 1) (nrTries - 1)
  else [status]
termination_by nrTries.toNat

/-- `cm_wifi_connect`: what its connect requests return. -/
def cmWifiConnect (platform : Platform) : List ℤ :=
  requestLoop platform.netMgmt 0 platform.wifiNumTries

theorem requestLoop_of_again {netMgmt : ℕ → ℤ} {number : ℕ} {nrTries : ℤ}
    (hagain : netMgmt number ≠ 0 ∧ nrTries > 0) :
    requestLoop netMgmt number nrTries =
      netMgmt number :: requestLoop netMgmt (number + 1) (nrTries - 1) := by
  rw [requestLoop]
  exact if_pos hagain

theorem requestLoop_of_last {netMgmt : ℕ → ℤ} {number : ℕ} {nrTries : ℤ}
    (hlast : ¬ (netMgmt number ≠ 0 ∧ nrTries > 0)) :
    requestLoop netMgmt number nrTries = [netMgmt number] := by
  rw [requestLoop]
  exact if_neg hlast

/-- Requests from a number on: in their order, none behind an accepted one, and as many as there are
tries and one more unless one of them is accepted. -/
structure Requests (netMgmt : ℕ → ℤ) (number tries : ℕ) (results : List ℤ) : Prop where
  ne_nil : results ≠ []
  getElem_eq : ∀ later (hlater : later < results.length),
    results[later] = netMgmt (number + later)
  stops : 0 ∉ results.dropLast
  length_le : results.length ≤ tries + 1
  refused : 0 ∉ results → results.length = tries + 1

theorem Requests.last {netMgmt : ℕ → ℤ} {number tries : ℕ}
    (hlast : netMgmt number = 0 ∨ tries = 0) : Requests netMgmt number tries [netMgmt number] := by
  refine ⟨List.cons_ne_nil _ _, ?_, List.not_mem_nil, Nat.succ_le_succ (Nat.zero_le tries), ?_⟩
  · intro later hlater
    obtain rfl : later = 0 := Nat.lt_one_iff.mp hlater
    rfl
  · intro hrefused
    rcases hlast with haccepted | hnone
    · exact absurd (List.mem_singleton.mpr haccepted.symm) hrefused
    · rw [hnone, List.length_singleton]

/-- A refused request in front of the others takes one try. -/
theorem Requests.cons {netMgmt : ℕ → ℤ} {number tries : ℕ} {results : List ℤ}
    (hrefused : netMgmt number ≠ 0) (hlater : Requests netMgmt (number + 1) tries results) :
    Requests netMgmt number (tries + 1) (netMgmt number :: results) := by
  refine ⟨List.cons_ne_nil _ _, ?_, ?_, ?_, ?_⟩
  · intro later hlt
    cases later with
    | zero => rfl
    | succ later =>
      rw [List.getElem_cons_succ, hlater.getElem_eq, Nat.add_assoc, Nat.add_comm 1]
  · rw [List.dropLast_cons_of_ne_nil hlater.ne_nil, List.mem_cons, not_or]
    exact ⟨Ne.symm hrefused, hlater.stops⟩
  · exact Nat.succ_le_succ hlater.length_le
  · intro hall
    rw [List.length_cons, hlater.refused fun hmem ↦ hall (List.mem_cons_of_mem _ hmem)]

theorem requests_requestLoop (netMgmt : ℕ → ℤ) (number : ℕ) (nrTries : ℤ) :
    Requests netMgmt number nrTries.toNat (requestLoop netMgmt number nrTries) := by
  induction hleft : nrTries.toNat generalizing number nrTries with
  | zero =>
    rw [requestLoop_of_last fun hagain ↦ by omega]
    exact .last (Or.inr rfl)
  | succ left ih =>
    by_cases hstatus : netMgmt number = 0
    · rw [requestLoop_of_last fun hagain ↦ hagain.1 hstatus]
      exact .last (Or.inl hstatus)
    · rw [requestLoop_of_again ⟨hstatus, by omega⟩]
      exact .cons hstatus (ih (number + 1) (nrTries - 1) (by omega))

theorem requests_cmWifiConnect (platform : Platform) :
    Requests platform.netMgmt 0 platform.wifiNumTries.toNat (cmWifiConnect platform) :=
  requests_requestLoop platform.netMgmt 0 platform.wifiNumTries

/-! ### The number of tries -/

/-- The number of tries is kept: there are no more requests, none follows an accepted one, and there
are as many when all of them are refused. -/
structure KeepsTries (platform : Platform) : Prop where
  length_le : (cmWifiConnect platform).length ≤ platform.wifiNumTries
  stops : 0 ∉ (cmWifiConnect platform).dropLast
  refused : 0 ∉ cmWifiConnect platform →
    (cmWifiConnect platform).length = platform.wifiNumTries

/-- The number of tries is kept exactly on the platforms that accept one of as many requests. -/
theorem keepsTries_iff (platform : Platform) :
    KeepsTries platform ↔
      ∃ number : ℕ, number < platform.wifiNumTries ∧ platform.netMgmt number = 0 := by
  obtain ⟨-, hresults, hstops, hlength, hrefused⟩ := requests_cmWifiConnect platform
  constructor
  · intro hkeeps
    have hkept := hkeeps.length_le
    have haccepted : 0 ∈ cmWifiConnect platform := by
      by_contra hnone
      have htotal := hrefused hnone
      omega
    obtain ⟨number, hnumber, hzero⟩ := List.getElem_of_mem haccepted
    refine ⟨number, by omega, ?_⟩
    rw [← hzero, hresults number hnumber, Nat.zero_add]
  · rintro ⟨number, hnumber, hzero⟩
    have hmem (hlt : number < (cmWifiConnect platform).length) :
        (cmWifiConnect platform)[number] = 0 := by
      rw [← hzero, hresults number hlt, Nat.zero_add]
    have haccepted : 0 ∈ cmWifiConnect platform := by
      by_contra hnone
      have hlt : number < (cmWifiConnect platform).length := by
        have htotal := hrefused hnone
        omega
      exact hnone (hmem hlt ▸ List.getElem_mem hlt)
    refine ⟨?_, hstops, absurd haccepted⟩
    by_contra hmore
    -- the accepted request is in front of the last one
    have hfront : number < (cmWifiConnect platform).dropLast.length := by
      rw [List.length_dropLast]
      omega
    refine hstops ?_
    rw [← hmem (by omega), ← List.getElem_dropLast hfront]
    exact List.getElem_mem hfront

/-- With the default number of tries, eleven requests are made when all of them are refused. -/
theorem not_keepsTries_refusing :
    (cmWifiConnect refusing).length = 11 ∧ ¬ KeepsTries refusing := by
  have hrefused : 0 ∉ cmWifiConnect refusing := by
    intro hmem
    obtain ⟨number, hnumber, hzero⟩ := List.getElem_of_mem hmem
    rw [(requests_cmWifiConnect refusing).getElem_eq number hnumber] at hzero
    exact absurd hzero (show (-1 : ℤ) ≠ 0 by decide)
  have hlength : (cmWifiConnect refusing).length = 11 :=
    (requests_cmWifiConnect refusing).refused hrefused
  refine ⟨hlength, fun hkeeps ↦ ?_⟩
  have hkept := hkeeps.refused hrefused
  rw [hlength] at hkept
  exact absurd hkept (by decide)

/-! ### In the connection manager -/

/-- What the requests return that the main thread is still to make, when it has made some of them.
-/
def requestsLeft (platform : Platform) (number : ℕ) : Position → List ℤ
  | .getDefault => requestLoop platform.netMgmt number platform.wifiNumTries
  | .request nrTries => requestLoop platform.netMgmt number nrTries
  | _ => []

/-- The requests of the main thread, those that it has made and those that it is still to make. -/
def allRequests (platform : Platform) (manager : Manager) : List ℤ :=
  manager.results ++ requestsLeft platform manager.results.length manager.position

/-- A pass of the loop makes the next of the requests that are left. -/
theorem allRequests_cmWifiRequest (platform : Platform) {manager : Manager} {nrTries : ℤ}
    (hat : manager.position = .request nrTries) :
    allRequests platform
        (manager.cmWifiRequest (platform.netMgmt manager.results.length) nrTries) =
      allRequests platform manager := by
  have hresults :
      (manager.cmWifiRequest (platform.netMgmt manager.results.length) nrTries).results =
        manager.results ++ [platform.netMgmt manager.results.length] := rfl
  rw [allRequests, allRequests, manager.cmWifiRequest_position, hat, hresults, List.length_append,
    List.append_assoc]
  by_cases hagain : platform.netMgmt manager.results.length ≠ 0 ∧ nrTries > 0
  · rw [if_pos hagain, requestsLeft, requestsLeft, requestLoop_of_again hagain]
    rfl
  · rw [if_neg hagain, requestsLeft, requestLoop_of_last hagain]
    rfl

/-- An action of the main thread makes the next request or none. -/
theorem allRequests_main {platform : Platform} (hiface : platform.hasIface = true)
    (manager : Manager) :
    allRequests platform (manager.main platform) = allRequests platform manager := by
  unfold Manager.main
  split <;> rename_i hat
  · rw [if_pos hiface, allRequests, allRequests, hat]
    rfl
  · exact allRequests_cmWifiRequest platform hat
  · rw [allRequests, allRequests, hat]
    split_ifs <;> rfl
  · rw [allRequests, allRequests, hat]
    split_ifs <;> rfl
  · rw [allRequests, allRequests, hat]
    split_ifs <;> rfl
  · rw [allRequests, allRequests, hat]
    rfl
  all_goals rfl

/-- An event makes no request. -/
theorem allRequests_deliver (platform : Platform) (manager : Manager) (event : MgmtEvent) :
    allRequests platform (manager.deliver event) = allRequests platform manager := by
  have hwifi (status : CmWifiConnStatus) (undelivered : ℕ) :
      allRequests platform ({ manager with undelivered := undelivered }.wifiEventsCb status) =
        allRequests platform manager := by
    unfold Manager.wifiEventsCb Manager.giveWifi allRequests
    split_ifs with hblocked
    · change manager.position = .blockedWifi at hblocked
      rw [hblocked]
      rfl
    · rfl
  have hdhcp (status : DhcpStatus) :
      allRequests platform (manager.dhcpEventsCb status) = allRequests platform manager := by
    unfold Manager.dhcpEventsCb Manager.giveDhcp allRequests
    split_ifs with hblocked
    · change manager.position = .blockedDhcp at hblocked
      rw [hblocked]
      rfl
    · rfl
  unfold Manager.deliver
  cases event with
  | wifiConnectResult connSuccess =>
    dsimp only
    split_ifs
    · rfl
    · exact hwifi _ _
    · rfl
  | ipv4AddrAdd =>
    dsimp only
    split_ifs
    · exact hdhcp _
    · rfl
  | other code => rfl

/-- In every run with an interface, the requests of the main thread are those of `cm_wifi_connect`.
-/
theorem allRequests_run {platform : Platform} (hiface : platform.hasIface = true)
    (actions : List Action) :
    allRequests platform (run platform actions) = cmWifiConnect platform := by
  induction actions using List.reverseRecOn with
  | nil => rfl
  | append_singleton actions action ih =>
    rw [← ih, run, runFrom_concat]
    cases action with
    | main => exact allRequests_main hiface _
    | event event => exact allRequests_deliver platform _ event

end CanopenTools.Client.ConnectionManager
