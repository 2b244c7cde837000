import CanopenTools.Viewer.Filter
import Mathlib.Data.List.Nodup
import Mathlib.Data.List.Range

/-!
# The driver of the viewer

`Driver` receives messages, counts them and keeps the last of them in its state, which it sends to
the GUI after each pass of its loop. `Windowed` is its invariant: the state holds the last messages
with consecutive indices up to the count, and is full or holds every message.
-/

set_option autoImplicit false
set_option relaxedAutoImplicit false

namespace CanopenTools.Viewer

/-- The commands of the GUI to the driver. -/
inductive ControlCommand
  | stop
  | kill
  | process
  deriving DecidableEq, Repr

/-- What ends the wait of a pass. -/
inductive Rcv
  | message (msg : RxMessage)
  | error
  | timeout
  | ctrlC
  deriving DecidableEq, Repr

/-- The driver with the parts of its state that the GUI reads: the messages, oldest first, and the
exit signal. -/
structure Driver where
  data : List MessageCached
  exitSignal : Bool
  command : ControlCommand
  index : ℕ
  deriving DecidableEq, Repr

/-- `MAX_MESSAGES_IN_STATE`. -/
def maxMessagesInState : ℕ := 512

namespace Driver

/-- `Driver::new`. -/
def new (command : ControlCommand) : Driver := ⟨[], false, command, 0⟩

/-- Add a new message to the state, whose oldest messages go while it is longer than the bound. -/
def store (canopen : Canopen) (driver : Driver) (msg : RxMessage) : Driver :=
  { driver with
    data := driver.data.drop (driver.data.length - maxMessagesInState) ++
      [MessageCached.new canopen driver.index msg]
    index := driver.index + 1 }

/-- `Driver::process`, for what ends the wait and the command of the GUI if it has changed. -/
def process (canopen : Canopen) (driver : Driver) (changed : Option ControlCommand) :
    Rcv → Driver
  | .ctrlC => { driver with command := .kill }
  | rcv =>
    let driver := { driver with command := changed.getD driver.command }
    match driver.command, rcv with
    | .process, .message msg => driver.store canopen msg
    | _, _ => driver

/-- One pass of the loop of `Driver::run`, which ends with a kill command. -/
def pass (canopen : Canopen) (driver : Driver) (changed : Option ControlCommand) (rcv : Rcv) :
    Driver :=
  if driver.exitSignal then driver
  else
    let driver := driver.process canopen changed rcv
    { driver with exitSignal := driver.command == .kill }

/-! ### The window -/

/-- The state holds the last messages, with consecutive indices up to the count. -/
structure Windowed (driver : Driver) : Prop where
  indices : driver.data.map MessageCached.index =
    List.range' (driver.index - driver.data.length) driver.data.length
  length_eq : driver.data.length = min driver.index (maxMessagesInState + 1)

/-- What a pass does to the messages: nothing, or it stores one. -/
theorem pass_cases (canopen : Canopen) (driver : Driver) (changed : Option ControlCommand)
    (rcv : Rcv) :
    ((driver.pass canopen changed rcv).data = driver.data ∧
        (driver.pass canopen changed rcv).index = driver.index) ∨
      ∃ msg, (driver.pass canopen changed rcv).data = (driver.store canopen msg).data ∧
        (driver.pass canopen changed rcv).index = driver.index + 1 := by
  unfold pass process
  split_ifs
  · exact Or.inl ⟨rfl, rfl⟩
  · split
    · exact Or.inl ⟨rfl, rfl⟩
    · dsimp only
      split
      · exact Or.inr ⟨_, rfl, rfl⟩
      · exact Or.inl ⟨rfl, rfl⟩

theorem windowed_new (command : ControlCommand) : (new command).Windowed := ⟨rfl, rfl⟩

theorem Windowed.store {driver : Driver} (hdriver : driver.Windowed) (canopen : Canopen)
    (msg : RxMessage) : (driver.store canopen msg).Windowed := by
  have hlength := hdriver.length_eq
  obtain ⟨dropped, hdropped⟩ : ∃ dropped, dropped = driver.data.length - maxMessagesInState :=
    ⟨_, rfl⟩
  have hstored : (driver.store canopen msg).data.length = driver.data.length - dropped + 1 := by
    rw [Driver.store, List.length_append, List.length_drop, List.length_singleton, hdropped]
  constructor
  · have hstart : driver.index + 1 - (driver.data.length - dropped + 1) =
        driver.index - driver.data.length + dropped := by omega
    have hlast : driver.index - driver.data.length + dropped + (driver.data.length - dropped) =
        driver.index := by omega
    rw [hstored, List.range'_concat, Nat.one_mul]
    simp only [Driver.store, ← hdropped, List.map_append, List.map_drop, hdriver.indices,
      List.drop_range', Nat.mul_one, List.map_singleton, MessageCached.new, hstart, hlast]
  · rw [hstored]
    change driver.data.length - dropped + 1 = min (driver.index + 1) (maxMessagesInState + 1)
    omega

theorem Windowed.pass {driver : Driver} (hdriver : driver.Windowed) (canopen : Canopen)
    (changed : Option ControlCommand) (rcv : Rcv) :
    (driver.pass canopen changed rcv).Windowed := by
  rcases pass_cases canopen driver changed rcv with ⟨hdata, hindex⟩ | ⟨msg, hdata, hindex⟩
  · exact ⟨by rw [hdata, hindex, hdriver.indices], by rw [hdata, hindex, hdriver.length_eq]⟩
  · have hstored := hdriver.store canopen msg
    exact ⟨by rw [hdata, hindex]; exact hstored.indices,
      by rw [hdata, hindex]; exact hstored.length_eq⟩

/-- The indices of a window. -/
theorem Windowed.index_bounds {driver : Driver} (hdriver : driver.Windowed)
    {message : MessageCached} (hmessage : message ∈ driver.data) :
    message.index < driver.index ∧ driver.index ≤ message.index + (maxMessagesInState + 1) := by
  have hindex := List.mem_map_of_mem (f := MessageCached.index) hmessage
  rw [hdriver.indices, List.mem_range'_1] at hindex
  have hlength := hdriver.length_eq
  omega

/-- The messages of a window are in the order of their indices. -/
theorem Windowed.sorted {driver : Driver} (hdriver : driver.Windowed) :
    driver.data.Pairwise fun first second ↦ first.index < second.index := by
  have hrange : (driver.data.map MessageCached.index).Pairwise (· < ·) := by
    rw [hdriver.indices]
    exact List.pairwise_lt_range'
  exact List.pairwise_map.mp hrange

/-- A window has no two messages with one index. -/
theorem Windowed.eq_of_index_eq {driver : Driver} (hdriver : driver.Windowed)
    {first second : MessageCached} (hfirst : first ∈ driver.data) (hsecond : second ∈ driver.data)
    (hindex : first.index = second.index) : first = second := by
  have hnodup : (driver.data.map MessageCached.index).Nodup := by
    rw [hdriver.indices]
    exact List.nodup_range'
  exact List.inj_on_of_nodup_map hnodup hfirst hsecond hindex

/-- The last message that the driver stored is in its state. -/
theorem Windowed.exists_newest {driver : Driver} (hdriver : driver.Windowed)
    (hindex : 0 < driver.index) : ∃ message ∈ driver.data, message.index + 1 = driver.index := by
  have hmem : driver.index - 1 ∈ driver.data.map MessageCached.index := by
    rw [hdriver.indices, List.mem_range'_1]
    have hlength := hdriver.length_eq
    omega
  obtain ⟨message, hmessage, hlast⟩ := List.mem_map.mp hmem
  exact ⟨message, hmessage, by omega⟩

/-- A message leaves the state only when more messages have been stored than the state can hold. -/
theorem Windowed.mem_pass {driver : Driver} (hdriver : driver.Windowed) (canopen : Canopen)
    (changed : Option ControlCommand) (rcv : Rcv) {message : MessageCached}
    (hmessage : message ∈ driver.data)
    (hrecent : (driver.pass canopen changed rcv).index ≤ message.index + (maxMessagesInState + 1)) :
    message ∈ (driver.pass canopen changed rcv).data := by
  rcases pass_cases canopen driver changed rcv with ⟨hdata, hindex⟩ | ⟨msg, hdata, hindex⟩
  · rwa [hdata]
  · rw [hdata, Driver.store, List.mem_append]
    rw [hindex] at hrecent
    left
    obtain ⟨position, hposition, rfl⟩ := List.mem_iff_getElem.mp hmessage
    have hvalue : driver.data[position].index = driver.index - driver.data.length + position := by
      have hmap := List.getElem_of_eq hdriver.indices (i := position)
        (by rwa [List.length_map])
      rw [List.getElem_map, List.getElem_range'] at hmap
      omega
    have hlength := hdriver.length_eq
    have hplace : driver.data.length - maxMessagesInState +
        (position - (driver.data.length - maxMessagesInState)) = position := by omega
    refine List.mem_drop_iff_getElem.mpr
      ⟨position - (driver.data.length - maxMessagesInState), by omega, ?_⟩
    simp only [hplace]

end Driver

end CanopenTools.Viewer
