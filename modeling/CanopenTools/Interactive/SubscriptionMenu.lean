import CanopenTools.Interactive.EventMonitor
import CanopenTools.Runs.History

/-!
# Which subscriptions the menu offers

`unsubscribe_tpdo` and `unsubscribe_heartbeat` let the user choose from the keys of
`subscribed_pdos` and `subscribed_hbs`. These are the tables of received values; the subscriptions
are in `pdo_callbacks` and `hb_callbacks`. A subscription fills the second, a callback fills the
first, and an unsubscription clears both.

`live_iff_recorded` and `received_iff_offered` say what each table holds in terms of the history.
`live_offered_iff` is the exact condition for every live subscription to be offered.
-/

set_option autoImplicit false
set_option relaxedAutoImplicit false

namespace CanopenTools.Interactive

open Tools Runs

namespace Monitor

/-! ### What the menu offers -/

/-- `unsubscribe_tpdo` offers the keys of `subscribed_pdos`. -/
def TpdoOffered (monitor : Monitor) (nodeId : ℤ) (pdoNum : ℕ) : Prop :=
  (monitor.subscribed (.pdo nodeId pdoNum)).isSome

/-- `unsubscribe_heartbeat` offers the keys of `subscribed_hbs`. -/
def HeartbeatOffered (monitor : Monitor) (nodeId : ℤ) : Prop :=
  (monitor.subscribed (.heartbeat nodeId)).isSome

/-- The entry of a key is offered by its operation. -/
def Offered (monitor : Monitor) : Key → Prop
  | .pdo nodeId pdoNum => monitor.TpdoOffered nodeId pdoNum
  | .heartbeat nodeId => monitor.HeartbeatOffered nodeId

theorem offered_iff (monitor : Monitor) (key : Key) :
    monitor.Offered key ↔ (monitor.subscribed key).isSome := by
  cases key <;> rfl

/-! ### Histories -/

/-- A step that is a subscription to a key. It does nothing while an unsubscription is under way. -/
def Records (key : Key) (monitor : Monitor) (step : Step) : Prop :=
  Subscribes key step ∧ monitor.unsubscribing = none

/-- A key was subscribed to, and no unsubscription of it has ended since. -/
def Live (key : Key) (steps : List Step) : Prop :=
  Runs.Since Monitor.step init (Records key) (Pops key) steps

/-- A callback has stored an event for a key, and no unsubscription of it has ended since. -/
def Received (key : Key) (steps : List Step) : Prop :=
  Runs.Since Monitor.step init (Stores key) (Pops key) steps

/-- The record of a key changes only when it is subscribed to or taken out. -/
theorem callbacks_step (key : Key) (monitor : Monitor) (step : Step) :
    ((monitor.step step).callbacks key = monitor.callbacks key ∧ ¬ Pops key monitor step) ∨
      ((monitor.step step).callbacks key = none ∧ Pops key monitor step) ∨
      Records key monitor step := by
  by_cases hpops : Pops key monitor step
  · rw [step_of_pops hpops]
    exact Or.inr (Or.inl ⟨Function.update_self .., hpops⟩)
  · have htransition := transition_step monitor step
    generalize monitor.step step = after at htransition
    cases htransition with
    | subscribe topic hidle =>
      by_cases hkey : key = topic.key
      · exact Or.inr (Or.inr ⟨hkey.symm, hidle⟩)
      · exact Or.inl ⟨Function.update_of_ne hkey .., hpops⟩
    | pop other hbusy =>
      have hkey : key ≠ other := by
        rintro rfl
        exact hpops hbusy
      exact Or.inl ⟨Function.update_of_ne hkey .., hpops⟩
    | call reading timestamp nodesMeta callback pending hpending =>
      unfold store
      split <;> exact Or.inl ⟨rfl, hpops⟩
    | _ => exact Or.inl ⟨rfl, hpops⟩

/-- A subscription is recorded. -/
theorem callbacks_step_of_records {key : Key} {monitor : Monitor} {step : Step}
    (hrecords : Records key monitor step) : ((monitor.step step).callbacks key).isSome := by
  obtain ⟨hsubscribes, hidle⟩ := hrecords
  cases step with
  | subscribe topic =>
    obtain rfl : topic.key = key := hsubscribes
    simp only [Monitor.step, if_pos hidle, subscribe_eq, register, Function.update_self,
      Option.isSome_some]
  | _ => exact absurd hsubscribes not_false

/-- The live keys are the recorded ones. -/
theorem live_iff_recorded (key : Key) (steps : List Step) :
    Live key steps ↔ ((init.run steps).callbacks key).isSome := by
  refine since_iff_of_flag (fun monitor : Monitor ↦ (monitor.callbacks key).isSome = true)
    (by simp [init]) ?_ ?_ ?_ steps
  · exact fun monitor step hrecords ↦ callbacks_step_of_records hrecords
  · intro monitor step hrecords hpops
    rcases callbacks_step key monitor step with ⟨-, hno⟩ | ⟨hnone, -⟩ | hyes
    · exact absurd hpops hno
    · simp [hnone]
    · exact absurd hyes hrecords
  · intro monitor step hrecords hpops
    rcases callbacks_step key monitor step with ⟨hsame, -⟩ | ⟨-, hyes⟩ | hyes
    · rw [hsame]
    · exact absurd hyes hpops
    · exact absurd hyes hrecords

/-- The offered keys are the ones for which an event was stored. -/
theorem received_iff_offered (key : Key) (steps : List Step) :
    Received key steps ↔ (init.run steps).Offered key := by
  rw [offered_iff]
  refine since_iff_of_flag (fun monitor : Monitor ↦ (monitor.subscribed key).isSome = true)
    (by simp [init]) ?_ ?_ ?_ steps
  · exact fun monitor step hstores ↦
      Option.isSome_iff_ne_none.mpr (subscribed_step_of_stores hstores)
  · intro monitor step hstores hpops
    rcases subscribed_step key monitor step with ⟨-, hno⟩ | ⟨hnone, -⟩ | hyes
    · exact absurd hpops hno
    · simp [hnone]
    · exact absurd hyes hstores
  · intro monitor step hstores hpops
    rcases subscribed_step key monitor step with ⟨hsame, -⟩ | ⟨-, hyes⟩ | hyes
    · rw [hsame]
    · exact absurd hyes hpops
    · exact absurd hyes hstores

/-- In every reachable state the menu offers all live subscriptions exactly when an event has been
stored for each of them. -/
theorem live_offered_iff (steps : List Step) :
    (∀ key, Live key steps → (init.run steps).Offered key) ↔
      ∀ key, Live key steps → Received key steps := by
  simp only [received_iff_offered]

/-- A TPDO that was subscribed to and has not come in yet is not offered. -/
theorem subscribed_pdo_not_offered :
    Live (.pdo 5 1) [.subscribe (.pdo ⟨0, 5⟩ 1)] ∧
      ¬ (init.run [.subscribe (.pdo ⟨0, 5⟩ 1)]).Offered (.pdo 5 1) := by
  constructor
  · exact (live_iff_recorded _ _).mpr rfl
  · rw [offered_iff]
    exact Bool.false_ne_true

end Monitor

end CanopenTools.Interactive
