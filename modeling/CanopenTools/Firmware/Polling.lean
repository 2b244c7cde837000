import CanopenTools.Firmware.Update
import Mathlib.Data.List.Induction
import Mathlib.Data.Rat.Floor
import Mathlib.Tactic.Linarith

/-!
# Waiting for the flash status

`wait_for_flash_status_ok` reads the flash status until it is 0 or the time is over. `SteadyHost`
are surroundings with a clock that never goes back and goes on while the program sleeps; the flash
node answers whatever it likes. `statusReads` lists what the polls of the flash status gave.

`Ended` says which polls end a wait, and with which outcome. A pass of the loop is one poll, which
ends the wait or not (`run_pollFlashStatus_cases`), and each sleep brings the end of the time
nearer, so that every wait ends (`exists_run_pollFlashStatus`). `waitForFlashStatusOk_waited` has
the number of polls and the result.
-/

set_option autoImplicit false
set_option relaxedAutoImplicit false

namespace CanopenTools.Firmware

open Effects Tools

/-! ### The clock and the polls -/

/-- Surroundings in which `time.time()` and `time.sleep(0.5)` succeed, with a clock that never goes
back and goes on by at least half a second in each sleep. -/
structure SteadyHost where
  surroundings : Surroundings host
  clock : List (Event host) → ℚ
  time_eq : ∀ history, surroundings history .time = .ok (clock history)
  sleep_eq : ∀ history, surroundings history (.sleep (1 / 2)) = .ok ()
  clock_le : ∀ history op, clock history ≤ clock (history ++ [⟨op, surroundings history op⟩])
  clock_sleep : ∀ history, clock history + 1 / 2 ≤ clock (history ++ [⟨.sleep (1 / 2), .ok ()⟩])

/-- A poll of the flash status with what it gave. -/
def statusRead (flashNode : Node) (poll : Except PyError ℕ) : Event host :=
  ⟨.sdoRead flashNode h1f57FlashStatus programNumber, poll⟩

/-- What the polls in a history gave. -/
def statusReads (flashNode : Node) (history : List (Event host)) : List (Except PyError ℕ) :=
  history.filterMap fun
    | ⟨.sdoRead node index subindex, answer⟩ =>
      if node = flashNode ∧ index = h1f57FlashStatus ∧ subindex = programNumber then some answer
      else none
    | _ => none

/-- The value of the last poll that did not raise, or the status before the first poll. -/
def lastStatus (polls : List (Except PyError ℕ)) : ℕ :=
  (polls.filterMap Except.toOption).getLast?.getD 0xFFFFFFFF

theorem lastStatus_concat (polls : List (Except PyError ℕ)) (poll : Except PyError ℕ) :
    lastStatus (polls ++ [poll]) = poll.toOption.getD (lastStatus polls) := by
  rw [lastStatus, List.filterMap_append]
  cases poll with
  | ok value => simp [Except.toOption]
  | error error => simp [Except.toOption, lastStatus]

/-- The wait goes on after a poll that neither gave 0 nor was interrupted. -/
def GoesOn (poll : Except PyError ℕ) : Prop := poll ≠ .ok 0 ∧ poll ≠ .error .keyboardInterrupt

/-- The status is not 0 while the wait goes on. -/
theorem lastStatus_ne_zero {polls : List (Except PyError ℕ)}
    (hpolls : ∀ poll ∈ polls, GoesOn poll) : lastStatus polls ≠ 0 := by
  induction polls using List.reverseRecOn with
  | nil => decide
  | append_singleton polls poll ih =>
    rw [List.forall_mem_append, List.forall_mem_singleton] at hpolls
    rw [lastStatus_concat]
    cases poll with
    | ok value => exact fun hzero ↦ hpolls.2.1 (congrArg Except.ok hzero)
    | error error => exact ih hpolls.1

/-- The polls that end a wait, and its outcome: the wait has gone on after each of them but the
last, and it returns the last status unless the last poll was interrupted. -/
inductive Ended : List (Except PyError ℕ) → Outcome host ℕ → Prop
  | returned {earlier : List (Except PyError ℕ)} {last : Except PyError ℕ}
      (hearlier : ∀ poll ∈ earlier, GoesOn poll) (hlast : last ≠ .error .keyboardInterrupt) :
      Ended (earlier ++ [last]) (.returned (lastStatus (earlier ++ [last])))
  | interrupted {earlier : List (Except PyError ℕ)} (hearlier : ∀ poll ∈ earlier, GoesOn poll) :
      Ended (earlier ++ [.error .keyboardInterrupt]) (.raised .keyboardInterrupt)

section Waiting

variable (steady : SteadyHost) (flashNode : Node)

theorem statusReads_statusRead (history : List (Event host)) (poll : Except PyError ℕ) :
    statusReads flashNode (history ++ [statusRead flashNode poll]) =
      statusReads flashNode history ++ [poll] := by
  rw [statusReads, List.filterMap_append]
  simp [statusRead, statusReads]

/-! ### One pass -/

/-- What the next poll gives. -/
def SteadyHost.poll (history : List (Event host)) : Except PyError ℕ :=
  steady.surroundings history (.sdoRead flashNode h1f57FlashStatus programNumber)

/-- How a poll goes on with what it gives: it passes over an exception, but not over an interrupt.
-/
def afterRead : Except PyError ℕ → Script (Option ℕ)
  | .ok value => .pure (some value)
  | .error (.exception _) => .pure none
  | .error .keyboardInterrupt => .raise .keyboardInterrupt

theorem pollOnce_eq :
    pollOnce flashNode =
      @Program.call host (Option ℕ) (.sdoRead flashNode h1f57FlashStatus programNumber)
        afterRead := by
  refine congrArg (@Program.call host (Option ℕ) _) (funext fun poll ↦ ?_)
  match poll with
  | .ok value => rfl
  | .error (.exception message) => rfl
  | .error .keyboardInterrupt => rfl

/-- The history after a poll. -/
def SteadyHost.afterPoll (history : List (Event host)) : List (Event host) :=
  history ++ [statusRead flashNode (steady.poll flashNode history)]

/-- The history after a poll and a look at the clock. -/
def SteadyHost.afterTime (history : List (Event host)) : List (Event host) :=
  steady.afterPoll flashNode history ++
    [⟨.time, .ok (steady.clock (steady.afterPoll flashNode history))⟩]

/-- The history after a whole pass of the loop. -/
def SteadyHost.afterPass (history : List (Event host)) : List (Event host) :=
  steady.afterTime flashNode history ++ [⟨.sleep (1 / 2), .ok ()⟩]

variable {steady flashNode} {history : List (Event host)} (endTime : ℚ) (fuel status : ℕ)

theorem run_pollOnce :
    (pollOnce flashNode).run steady.surroundings history =
      (afterRead (steady.poll flashNode history)).run steady.surroundings
        (steady.afterPoll flashNode history) := by
  rw [pollOnce_eq]
  rfl

/-- A poll that gives 0 ends the loop. -/
theorem run_pollFlashStatus_zero (hpoll : steady.poll flashNode history = .ok 0) :
    (pollFlashStatus flashNode endTime (fuel + 1) status).run steady.surroundings history =
      (steady.afterPoll flashNode history, .returned 0) := by
  rw [pollFlashStatus, Program.run_bind, run_pollOnce, hpoll]
  rfl

/-- A poll that is interrupted ends the loop. -/
theorem run_pollFlashStatus_interrupted
    (hpoll : steady.poll flashNode history = .error .keyboardInterrupt) :
    (pollFlashStatus flashNode endTime (fuel + 1) status).run steady.surroundings history =
      (steady.afterPoll flashNode history, .raised .keyboardInterrupt) := by
  rw [pollFlashStatus, Program.run_bind, run_pollOnce, hpoll]
  rfl

/-- The rest of a pass, behind the poll: the loop returns a status or sleeps, by the clock. -/
theorem run_byClock (next : Script ℕ) (value : ℕ) (history : List (Event host)) :
    Program.run steady.surroundings (do
        let now : ℚ ← ask .time
        if now > endTime then pure value
        else do
          ask (.sleep (1 / 2))
          next) history =
      if endTime < steady.clock history then
        (history ++ [⟨.time, .ok (steady.clock history)⟩], .returned value)
      else
        next.run steady.surroundings
          (history ++ [⟨.time, .ok (steady.clock history)⟩] ++ [⟨.sleep (1 / 2), .ok ()⟩]) := by
  refine (Program.run_perform_bind steady.surroundings .time _ history).trans ?_
  rw [steady.time_eq]
  dsimp only
  by_cases hover : endTime < steady.clock history
  · rw [if_pos hover, if_pos hover]
    rfl
  · rw [if_neg hover, if_neg hover]
    refine (Program.run_perform_bind steady.surroundings (.sleep (1 / 2)) _ _).trans ?_
    rw [steady.sleep_eq]

/-- Any other poll sets the status, and the loop ends or sleeps by the clock. -/
theorem run_pollFlashStatus_goesOn (hpoll : GoesOn (steady.poll flashNode history)) :
    (pollFlashStatus flashNode endTime (fuel + 1) status).run steady.surroundings history =
      if endTime < steady.clock (steady.afterPoll flashNode history) then
        (steady.afterTime flashNode history,
          .returned ((steady.poll flashNode history).toOption.getD status))
      else
        (pollFlashStatus flashNode endTime fuel
          ((steady.poll flashNode history).toOption.getD status)).run steady.surroundings
            (steady.afterPass flashNode history) := by
  obtain ⟨polled, hnext, hpolled, hstatus⟩ : ∃ polled : Option ℕ,
      afterRead (steady.poll flashNode history) = .pure polled ∧ polled ≠ some 0 ∧
        polled.getD status = (steady.poll flashNode history).toOption.getD status := by
    generalize steady.poll flashNode history = poll at hpoll
    match poll with
    | .ok value =>
      exact ⟨some value, rfl, fun hzero ↦ hpoll.1 (congrArg Except.ok (Option.some.inj hzero)), rfl⟩
    | .error (.exception message) => exact ⟨none, rfl, nofun, rfl⟩
    | .error .keyboardInterrupt => exact absurd rfl hpoll.2
  rw [pollFlashStatus, Program.run_bind, run_pollOnce, hnext]
  change Program.run _ (if polled = some 0 then _ else _) _ = _
  rw [if_neg hpolled, ← hstatus]
  exact run_byClock endTime (pollFlashStatus flashNode endTime fuel (polled.getD status)) _ _

/-! ### The whole wait -/

theorem statusReads_afterPoll (history : List (Event host)) :
    statusReads flashNode (steady.afterPoll flashNode history) =
      statusReads flashNode history ++ [steady.poll flashNode history] :=
  statusReads_statusRead flashNode history _

theorem statusReads_afterTime (history : List (Event host)) :
    statusReads flashNode (steady.afterTime flashNode history) =
      statusReads flashNode history ++ [steady.poll flashNode history] := by
  rw [← statusReads_afterPoll, SteadyHost.afterTime, statusReads, List.filterMap_append]
  exact List.append_nil _

theorem statusReads_afterPass (history : List (Event host)) :
    statusReads flashNode (steady.afterPass flashNode history) =
      statusReads flashNode history ++ [steady.poll flashNode history] := by
  rw [← statusReads_afterTime, SteadyHost.afterPass, statusReads, List.filterMap_append]
  exact List.append_nil _

/-- The clock goes on by half a second in a pass that sleeps. -/
theorem clock_afterPass (steady : SteadyHost) (flashNode : Node) (history : List (Event host)) :
    steady.clock history + 1 / 2 ≤ steady.clock (steady.afterPass flashNode history) := by
  have hpoll : steady.clock history ≤ steady.clock (steady.afterPoll flashNode history) :=
    steady.clock_le history _
  have htime : steady.clock (steady.afterPoll flashNode history) ≤
      steady.clock (steady.afterTime flashNode history) := by
    have hle := steady.clock_le (steady.afterPoll flashNode history) .time
    rwa [steady.time_eq] at hle
  have hsleep : steady.clock (steady.afterTime flashNode history) + 1 / 2 ≤
      steady.clock (steady.afterPass flashNode history) := steady.clock_sleep _
  linarith

/-- A pass ends the loop, or another one follows while there is time left. -/
theorem run_pollFlashStatus_cases (steady : SteadyHost) (flashNode : Node) (endTime : ℚ)
    (history : List (Event host)) {earlier : List (Except PyError ℕ)}
    (hearlier : ∀ poll ∈ earlier, GoesOn poll) :
    let poll := steady.poll flashNode history
    (∃ after outcome,
      (∀ fuel, (pollFlashStatus flashNode endTime (fuel + 1) (lastStatus earlier)).run
        steady.surroundings history = (after, outcome)) ∧
      statusReads flashNode after = statusReads flashNode history ++ [poll] ∧
      Ended (earlier ++ [poll]) outcome) ∨
    (steady.clock history ≤ endTime ∧ (∀ other ∈ earlier ++ [poll], GoesOn other) ∧
      ∀ fuel, (pollFlashStatus flashNode endTime (fuel + 1) (lastStatus earlier)).run
        steady.surroundings history =
          (pollFlashStatus flashNode endTime fuel (lastStatus (earlier ++ [poll]))).run
            steady.surroundings (steady.afterPass flashNode history)) := by
  intro poll
  by_cases hinterrupted : poll = .error .keyboardInterrupt
  · refine Or.inl ⟨_, _, fun fuel ↦ run_pollFlashStatus_interrupted endTime fuel _ hinterrupted,
      statusReads_afterPoll history, ?_⟩
    rw [hinterrupted]
    exact .interrupted hearlier
  have hstatus := lastStatus_concat earlier poll
  by_cases hzero : poll = .ok 0
  · refine Or.inl ⟨_, _, fun fuel ↦ run_pollFlashStatus_zero endTime fuel _ hzero,
      statusReads_afterPoll history, ?_⟩
    have hended := Ended.returned hearlier hinterrupted
    rw [hstatus, hzero] at hended
    rw [hzero]
    exact hended
  · have hgoesOn : GoesOn poll := ⟨hzero, hinterrupted⟩
    by_cases hover : endTime < steady.clock (steady.afterPoll flashNode history)
    · refine Or.inl ⟨_, _, fun fuel ↦ ?_, statusReads_afterTime history,
        .returned hearlier hinterrupted⟩
      rw [run_pollFlashStatus_goesOn endTime fuel _ hgoesOn, if_pos hover, hstatus]
    · refine Or.inr ⟨(steady.clock_le history _).trans (not_lt.mp hover), ?_, fun fuel ↦ ?_⟩
      · exact List.forall_mem_append.mpr ⟨hearlier, List.forall_mem_singleton.mpr hgoesOn⟩
      · rw [run_pollFlashStatus_goesOn endTime fuel _ hgoesOn, if_neg hover, hstatus]

/-- The loop ends after at most as many polls as there are half seconds left, and one. -/
theorem exists_run_pollFlashStatus (steady : SteadyHost) (flashNode : Node) (endTime : ℚ)
    (halves : ℕ) (history : List (Event host)) {earlier : List (Except PyError ℕ)}
    (hearlier : ∀ poll ∈ earlier, GoesOn poll)
    (hleft : 2 * (endTime - steady.clock history) < halves) :
    ∃ after polls outcome,
      (∀ fuel, halves < fuel →
        (pollFlashStatus flashNode endTime fuel (lastStatus earlier)).run steady.surroundings
          history = (after, outcome)) ∧
      statusReads flashNode after = statusReads flashNode history ++ polls ∧
      polls.length ≤ halves + 1 ∧ Ended (earlier ++ polls) outcome := by
  induction halves generalizing history earlier with
  | zero =>
    rcases run_pollFlashStatus_cases steady flashNode endTime history hearlier with
      ⟨after, outcome, hrun, hreads, hended⟩ | ⟨htime, -, -⟩
    · refine ⟨after, _, outcome, fun fuel hfuel ↦ ?_, hreads, Nat.le_refl 1, hended⟩
      obtain ⟨fuel, rfl⟩ := Nat.exists_eq_add_of_lt hfuel
      exact hrun _
    · rw [Nat.cast_zero] at hleft
      linarith
  | succ halves ih =>
    rcases run_pollFlashStatus_cases steady flashNode endTime history hearlier with
      ⟨after, outcome, hrun, hreads, hended⟩ | ⟨-, hgoesOn, hrun⟩
    · refine ⟨after, _, outcome, fun fuel hfuel ↦ ?_, hreads, Nat.succ_le_succ (Nat.zero_le _),
        hended⟩
      obtain ⟨fuel, rfl⟩ := Nat.exists_eq_add_of_lt hfuel
      exact hrun _
    · have hpass := clock_afterPass steady flashNode history
      push_cast at hleft
      obtain ⟨after, polls, outcome, hlater, hreads, hlength, hended⟩ :=
        ih (steady.afterPass flashNode history) hgoesOn (by linarith)
      refine ⟨after, steady.poll flashNode history :: polls, outcome, fun fuel hfuel ↦ ?_, ?_,
        Nat.succ_le_succ hlength, ?_⟩
      · obtain ⟨fuel, rfl⟩ := Nat.exists_eq_add_of_lt hfuel
        exact (hrun _).trans (hlater _ (by omega))
      · rw [hreads, statusReads_afterPass, List.append_assoc]
        rfl
      · rwa [List.append_assoc] at hended

end Waiting

/-- A wait with a time limit, as it should be: it polls at least once, at most twice in a second and
twice more (so once when the limit is far in the past), and no poll follows one that gave 0. It
returns the value of the last poll that did not raise, which is 0 exactly if the last poll gave 0,
unless a poll was interrupted. -/
structure Waited (timeout : ℚ) (polls : List (Except PyError ℕ)) (outcome : Outcome host ℕ) :
    Prop where
  ne_nil : polls ≠ []
  length_le : (polls.length : ℚ) ≤ max 1 (2 * timeout + 2)
  zero_last : .ok 0 ∉ polls.dropLast
  returned : .error .keyboardInterrupt ∉ polls →
    outcome = .returned (lastStatus polls) ∧
      (lastStatus polls = 0 ↔ polls.getLast? = some (.ok 0))
  interrupted : .error .keyboardInterrupt ∈ polls →
    polls.getLast? = some (.error .keyboardInterrupt) ∧ outcome = .raised .keyboardInterrupt

/-- The number of half seconds in a time limit. -/
theorem exists_halves (timeout : ℚ) : ∃ halves : ℕ, 2 * timeout < halves ∧
    (halves + 1 : ℚ) ≤ max 1 (2 * timeout + 2) := by
  by_cases hpos : 0 ≤ timeout
  · have hfloor : (⌊2 * timeout⌋₊ : ℚ) ≤ 2 * timeout := Nat.floor_le (by linarith)
    refine ⟨⌊2 * timeout⌋₊ + 1, ?_, ?_⟩
    · rw [Nat.cast_succ]
      exact Nat.lt_floor_add_one _
    · rw [Nat.cast_succ]
      exact le_max_of_le_right (by linarith)
  · refine ⟨0, ?_, ?_⟩
    · rw [Nat.cast_zero]
      linarith
    · rw [Nat.cast_zero, zero_add]
      exact le_max_left _ _

/-- The status is 0 behind the last poll exactly if that gave 0. -/
theorem lastStatus_concat_eq_zero_iff {earlier : List (Except PyError ℕ)}
    (hearlier : ∀ poll ∈ earlier, GoesOn poll) (last : Except PyError ℕ) :
    lastStatus (earlier ++ [last]) = 0 ↔ last = .ok 0 := by
  rw [lastStatus_concat]
  cases last with
  | ok value => exact Except.ok.injEq value 0 ▸ Iff.rfl
  | error error => exact iff_of_false (lastStatus_ne_zero hearlier) nofun

/-- The polls that end a wait are as they should be if there are not too many. -/
theorem Ended.waited {polls : List (Except PyError ℕ)} {outcome : Outcome host ℕ}
    (hended : Ended polls outcome) {timeout : ℚ}
    (hle : (polls.length : ℚ) ≤ max 1 (2 * timeout + 2)) : Waited timeout polls outcome := by
  have hzero {earlier : List (Except PyError ℕ)} (last : Except PyError ℕ)
      (hearlier : ∀ poll ∈ earlier, GoesOn poll) : .ok 0 ∉ (earlier ++ [last]).dropLast := by
    rw [List.dropLast_concat]
    exact fun hmem ↦ (hearlier _ hmem).1 rfl
  cases hended with
  | @returned earlier last hearlier hlast =>
    refine ⟨by simp, hle, hzero last hearlier, fun _ ↦ ⟨rfl, ?_⟩, fun hmem ↦ ?_⟩
    · rw [lastStatus_concat_eq_zero_iff hearlier, List.getLast?_concat, Option.some.injEq]
    · rcases List.mem_append.mp hmem with hbefore | hat
      · exact absurd rfl (hearlier _ hbefore).2
      · exact absurd (List.mem_singleton.mp hat).symm hlast
  | interrupted hearlier =>
    refine ⟨by simp, hle, hzero _ hearlier, fun hnot ↦ absurd (by simp) hnot,
      fun _ ↦ ⟨List.getLast?_concat, rfl⟩⟩

/-- `wait_for_flash_status_ok` ends, and as it should: with enough fuel its run has one result. -/
theorem waitForFlashStatusOk_waited (steady : SteadyHost) (flashNode : Node) (timeout : ℚ)
    (history : List (Event host)) :
    ∃ bound after polls outcome,
      (∀ fuel, bound < fuel →
        (waitForFlashStatusOk flashNode timeout fuel).run steady.surroundings history =
          (after, outcome)) ∧
      statusReads flashNode after = statusReads flashNode history ++ polls ∧
      Waited timeout polls outcome := by
  obtain ⟨halves, hleft, hle⟩ := exists_halves timeout
  let started : List (Event host) := history ++ [⟨.time, .ok (steady.clock history)⟩]
  have hreads : statusReads flashNode started = statusReads flashNode history := by
    rw [statusReads, List.filterMap_append]
    exact List.append_nil _
  have hclock : steady.clock history ≤ steady.clock started := by
    have hstep := steady.clock_le history .time
    rwa [steady.time_eq] at hstep
  obtain ⟨after, polls, outcome, hrun, hpolls, hlength, hended⟩ :=
    exists_run_pollFlashStatus steady flashNode (steady.clock history + timeout) halves started
      (List.forall_mem_nil GoesOn) (by linarith)
  rw [List.nil_append] at hended
  refine ⟨halves, after, polls, outcome, fun fuel hfuel ↦ ?_, hreads ▸ hpolls,
    hended.waited ?_⟩
  · refine (Program.run_perform_bind steady.surroundings .time _ history).trans ?_
    rw [steady.time_eq]
    exact hrun fuel hfuel
  · have hcount : (polls.length : ℚ) ≤ halves + 1 := by exact_mod_cast hlength
    exact hcount.trans hle

/-- The number of sleeps in a history. -/
def sleeps (history : List (Event host)) : ℕ :=
  history.countP fun event ↦
    match event.op with
    | .sleep _ => true
    | _ => false

theorem sleeps_concat (history : List (Event host)) (event : Event host) :
    (sleeps (history ++ [event]) : ℚ) = sleeps history + sleeps [event] := by
  rw [sleeps, List.countP_append, Nat.cast_add]
  rfl

/-- A clock that stands still but for the sleeps, and a flash node that does not answer. -/
def silentHost : SteadyHost where
  surroundings := fun history op ↦
    match op with
    | .time => .ok (sleeps history / 2 : ℚ)
    | .sleep _ => .ok ()
    | _ => .error (.exception "no SDO response received")
  clock := fun history ↦ sleeps history / 2
  time_eq := fun _ ↦ rfl
  sleep_eq := fun _ ↦ rfl
  clock_le := by
    intro history op
    rw [sleeps_concat]
    refine div_le_div_of_nonneg_right (le_add_of_nonneg_right (Nat.cast_nonneg _)) ?_
    norm_num
  clock_sleep := by
    intro history
    have hone : (sleeps [⟨.sleep (1 / 2), .ok ()⟩] : ℚ) = 1 := Nat.cast_one
    rw [sleeps_concat, hone, add_div]

/-- In one second there can be four polls. -/
example :
    (statusReads ⟨0, 1⟩
      ((waitForFlashStatusOk ⟨0, 1⟩ 1 5).run silentHost.surroundings []).1).length = 4 := by
  decide +kernel

end CanopenTools.Firmware
