import CanopenTools.Tools.Host
import Mathlib.Data.List.Nodup
import Mathlib.Logic.Function.Basic

/-!
# The event monitor

`EventMonitor` of `co.py` shows the last PDO and the last heartbeat of what the user has subscribed
to. A subscription registers a new callback with the TPDO or the NMT object of the node object, and
records it under the key. An unsubscription looks the recorded callback up, takes it off the list of
the object and then, under the lock, takes the key out of the shown values and of the record.

Two threads take part. The main thread subscribes and unsubscribes; the listener of python-canopen
takes an arrival and calls, one after the other, the callbacks that are registered when it comes in.
A step is a part of either that the other cannot tell apart: the listener never reads the record of
callbacks, so a subscription is one step, and an unsubscription is two, up to the lock and from it
on.

`unsubscribe_final_iff` is the result: after an unsubscription no later arrival puts the key back
exactly when the recorded callback is the only one that is registered for the key, and is registered
with the object that the unsubscription was called for. Its second part is about an arrival whose
callbacks the listener is still calling when the unsubscription returns.
-/

set_option autoImplicit false
set_option relaxedAutoImplicit false

namespace CanopenTools.Interactive

open Tools

/-! ### The monitor -/

/-- The keys of the shown values: `(node_id, pdo_num)` in `subscribed_pdos` and `pdo_callbacks`, and
`node_id` in `subscribed_hbs` and `hb_callbacks`. -/
inductive Key
  | pdo (nodeId : ℤ) (pdoNum : ℕ)
  | heartbeat (nodeId : ℤ)
  deriving DecidableEq, Repr

/-- The node that a key is about. -/
def Key.nodeId : Key → ℤ
  | pdo nodeId _ => nodeId
  | heartbeat nodeId => nodeId

/-- The objects of python-canopen that callbacks are registered with: `node.tpdo[pdo_num]` and
`node.nmt` of a node object. -/
inductive Source
  | tpdo (object pdoNum : ℕ)
  | nmt (object : ℕ)
  deriving DecidableEq, Repr

/-- `pdo_callback` or `hb_callback`: every subscription makes a new function, which stores under its
key. -/
structure Callback where
  serial : ℕ
  key : Key
  deriving DecidableEq, Repr

/-- What an arrival brings: the values of the mapped variables, or the state of a heartbeat. -/
inductive Reading
  | values (values : List ℤ)
  | state (state : ℕ)
  deriving DecidableEq, Repr

/-- A shown value: the reading, when it was taken, and the EDS name of the node. -/
structure Shown where
  reading : Reading
  timestamp : ℕ
  edsName : String
  deriving DecidableEq, Repr

/-- The monitor with the two threads: the callbacks registered with each object, the record of
callbacks `pdo_callbacks` and `hb_callbacks`, the shown values `subscribed_pdos` and
`subscribed_hbs`, the number of callbacks made, the key of an unsubscription that has not reached
the lock, and the callbacks that the listener has still to call for its arrival. -/
structure Monitor where
  registered : Source → List Callback
  callbacks : Key → Option Callback
  subscribed : Key → Option Shown
  made : ℕ
  unsubscribing : Option Key
  pending : List Callback

/-- `EventMonitor()`. -/
def Monitor.init : Monitor := ⟨fun _ ↦ [], fun _ ↦ none, fun _ ↦ none, 0, none, []⟩

/-- The argument of the four methods of the monitor: a node with the number of a TPDO, or a node. -/
inductive Topic
  | pdo (node : Node) (pdoNum : ℕ)
  | heartbeat (node : Node)
  deriving DecidableEq, Repr

/-- The key of a topic. -/
def Topic.key : Topic → Key
  | pdo node pdoNum => .pdo node.id pdoNum
  | heartbeat node => .heartbeat node.id

/-- The object that the callbacks of a topic are registered with. -/
def Topic.source : Topic → Source
  | pdo node pdoNum => .tpdo node.object pdoNum
  | heartbeat node => .nmt node.object

/-- The steps of the two threads. The first three are the main thread's, the others the listener's.
`call` has what the callback reads, the time, and `nodes_meta` then. It reads nothing when
`mapobject.values()` raises, as it does if the maps of the library have no `values`. -/
inductive Step
  | subscribe (topic : Topic)
  | unsubscribe (topic : Topic)
  | pop
  | arrive (source : Source)
  | call (reading : Option Reading) (timestamp : ℕ) (nodesMeta : ℤ → Option String)

namespace Monitor

/-- A new callback is appended to the list of an object and recorded under a key. -/
def register (monitor : Monitor) (key : Key) (source : Source) : Monitor :=
  let callback : Callback := ⟨monitor.made, key⟩
  { monitor with
    registered := Function.update monitor.registered source
      (monitor.registered source ++ [callback])
    callbacks := Function.update monitor.callbacks key (some callback)
    made := monitor.made + 1 }

/-- The recorded callback of a key is taken off the list of an object; an exception of the removal
is ignored. Without a recorded callback there is nothing to do. -/
def unregister (monitor : Monitor) (key : Key) (source : Source) : Monitor :=
  match monitor.callbacks key with
  | none => monitor
  | some callback =>
    { monitor with
      registered := Function.update monitor.registered source
        ((monitor.registered source).erase callback)
      unsubscribing := some key }

/-- `subscribe_pdo`. -/
def subscribePdo (monitor : Monitor) (node : Node) (pdoNum : ℕ) : Monitor :=
  monitor.register (.pdo node.id pdoNum) (.tpdo node.object pdoNum)

/-- `subscribe_heartbeat`. -/
def subscribeHeartbeat (monitor : Monitor) (node : Node) : Monitor :=
  monitor.register (.heartbeat node.id) (.nmt node.object)

/-- `unsubscribe_pdo` up to the lock. -/
def unsubscribePdo (monitor : Monitor) (node : Node) (pdoNum : ℕ) : Monitor :=
  monitor.unregister (.pdo node.id pdoNum) (.tpdo node.object pdoNum)

/-- `unsubscribe_heartbeat` up to the lock. -/
def unsubscribeHeartbeat (monitor : Monitor) (node : Node) : Monitor :=
  monitor.unregister (.heartbeat node.id) (.nmt node.object)

/-- An unsubscription from the lock on. -/
def pop (monitor : Monitor) (key : Key) : Monitor :=
  { monitor with
    subscribed := Function.update monitor.subscribed key none
    callbacks := Function.update monitor.callbacks key none
    unsubscribing := none }

/-- A callback stores under its key. It raises without a reading, and `KeyError` when the node has
no EDS name. -/
def store (monitor : Monitor) (callback : Callback) (reading : Option Reading) (timestamp : ℕ)
    (nodesMeta : ℤ → Option String) : Monitor :=
  match reading, nodesMeta callback.key.nodeId with
  | some reading, some edsName =>
    { monitor with
      subscribed := Function.update monitor.subscribed callback.key
        (some ⟨reading, timestamp, edsName⟩) }
  | _, _ => monitor

/-- A call of a subscribing method. -/
def subscribe (monitor : Monitor) : Topic → Monitor
  | .pdo node pdoNum => monitor.subscribePdo node pdoNum
  | .heartbeat node => monitor.subscribeHeartbeat node

/-- A call of an unsubscribing method up to the lock. -/
def unsubscribe (monitor : Monitor) : Topic → Monitor
  | .pdo node pdoNum => monitor.unsubscribePdo node pdoNum
  | .heartbeat node => monitor.unsubscribeHeartbeat node

theorem subscribe_eq (monitor : Monitor) (topic : Topic) :
    monitor.subscribe topic = monitor.register topic.key topic.source := by
  cases topic <;> rfl

theorem unsubscribe_eq (monitor : Monitor) (topic : Topic) :
    monitor.unsubscribe topic = monitor.unregister topic.key topic.source := by
  cases topic <;> rfl

/-- One step. The main thread makes no other call during an unsubscription, and the listener takes
no arrival while it has callbacks to call; such a step changes nothing. -/
def step (monitor : Monitor) : Step → Monitor
  | .subscribe topic => if monitor.unsubscribing = none then monitor.subscribe topic else monitor
  | .unsubscribe topic =>
    if monitor.unsubscribing = none then monitor.unsubscribe topic else monitor
  | .pop =>
    match monitor.unsubscribing with
    | none => monitor
    | some key => monitor.pop key
  | .arrive source =>
    if monitor.pending = [] then { monitor with pending := monitor.registered source } else monitor
  | .call reading timestamp nodesMeta =>
    match monitor.pending with
    | [] => monitor
    | callback :: pending =>
      { monitor.store callback reading timestamp nodesMeta with pending := pending }

/-- The monitor after some steps. -/
def run (monitor : Monitor) (steps : List Step) : Monitor := steps.foldl step monitor

@[simp] theorem run_nil (monitor : Monitor) : monitor.run [] = monitor := rfl

@[simp] theorem run_cons (monitor : Monitor) (step : Step) (steps : List Step) :
    monitor.run (step :: steps) = (monitor.step step).run steps := rfl

theorem run_append (monitor : Monitor) (first second : List Step) :
    monitor.run (first ++ second) = (monitor.run first).run second := List.foldl_append

/-- What every allowed step keeps, a run of allowed steps keeps. -/
theorem run_keeps (allowed : Step → Prop) (invariant : Monitor → Prop)
    (hstep : ∀ monitor step, allowed step → invariant monitor → invariant (monitor.step step))
    {monitor : Monitor} {steps : List Step} (hallowed : ∀ step ∈ steps, allowed step)
    (hmonitor : invariant monitor) : invariant (monitor.run steps) := by
  induction steps generalizing monitor with
  | nil => exact hmonitor
  | cons step steps ih =>
    rw [List.forall_mem_cons] at hallowed
    exact ih hallowed.2 (hstep monitor step hallowed.1 hmonitor)

/-! ### What a step can do -/

/-- What the steps do, with the conditions under which they do anything. -/
inductive Transition (monitor : Monitor) : Step → Monitor → Prop
  | idle (step : Step) : Transition monitor step monitor
  | subscribe (topic : Topic) (hidle : monitor.unsubscribing = none) :
    Transition monitor (.subscribe topic) (monitor.register topic.key topic.source)
  | unsubscribe (topic : Topic) (callback : Callback) (hidle : monitor.unsubscribing = none)
    (hrecorded : monitor.callbacks topic.key = some callback) :
    Transition monitor (.unsubscribe topic)
      { monitor with
        registered := Function.update monitor.registered topic.source
          ((monitor.registered topic.source).erase callback)
        unsubscribing := some topic.key }
  | pop (key : Key) (hbusy : monitor.unsubscribing = some key) :
    Transition monitor .pop (monitor.pop key)
  | arrive (source : Source) (hpending : monitor.pending = []) :
    Transition monitor (.arrive source) { monitor with pending := monitor.registered source }
  | call (reading : Option Reading) (timestamp : ℕ) (nodesMeta : ℤ → Option String)
    (callback : Callback)
    (pending : List Callback) (hpending : monitor.pending = callback :: pending) :
    Transition monitor (.call reading timestamp nodesMeta)
      { monitor.store callback reading timestamp nodesMeta with pending := pending }

theorem transition_step (monitor : Monitor) (step : Step) :
    Transition monitor step (monitor.step step) := by
  cases step with
  | subscribe topic =>
    rw [step, subscribe_eq]
    split_ifs with hidle
    · exact .subscribe topic hidle
    · exact .idle _
  | unsubscribe topic =>
    rw [step, unsubscribe_eq, unregister]
    split_ifs with hidle
    · cases hrecorded : monitor.callbacks topic.key with
      | none => exact .idle _
      | some callback => exact .unsubscribe topic callback hidle hrecorded
    · exact .idle _
  | pop =>
    rw [step]
    cases hbusy : monitor.unsubscribing with
    | none => exact .idle _
    | some key => exact .pop key hbusy
  | arrive source =>
    rw [step]
    split_ifs with hpending
    · exact .arrive source hpending
    · exact .idle _
  | call reading timestamp nodesMeta =>
    rw [step]
    cases hpending : monitor.pending with
    | nil => exact .idle _
    | cons callback pending =>
      exact .call reading timestamp nodesMeta callback pending hpending

/-! ### What is registered -/

/-- What a step can do to the callbacks registered with an object: nothing, append a new one for the
key of a subscription, or take one off. -/
theorem registered_step (monitor : Monitor) (step : Step) (source : Source) :
    ((monitor.step step).registered source = monitor.registered source ∧
        monitor.made ≤ (monitor.step step).made) ∨
      (∃ topic, step = .subscribe topic ∧ (monitor.step step).made = monitor.made + 1 ∧
        (monitor.step step).registered source =
          monitor.registered source ++ [⟨monitor.made, topic.key⟩]) ∨
      ((monitor.step step).made = monitor.made ∧ ∃ callback,
        (monitor.step step).registered source = (monitor.registered source).erase callback) := by
  have htransition := transition_step monitor step
  generalize monitor.step step = after at htransition
  cases htransition with
  | subscribe topic _ =>
    by_cases hsource : source = topic.source
    · subst hsource
      exact Or.inr (Or.inl ⟨topic, rfl, rfl, Function.update_self ..⟩)
    · exact Or.inl ⟨Function.update_of_ne hsource .., Nat.le_succ _⟩
  | unsubscribe topic callback _ _ =>
    by_cases hsource : source = topic.source
    · subst hsource
      exact Or.inr (Or.inr ⟨rfl, callback, Function.update_self ..⟩)
    · exact Or.inl ⟨Function.update_of_ne hsource .., le_rfl⟩
  | call reading timestamp nodesMeta callback pending _ =>
    unfold store
    split <;> exact Or.inl ⟨rfl, le_rfl⟩
  | _ => exact Or.inl ⟨rfl, le_rfl⟩

/-- Callbacks are made one at a time, and each is registered at most once. -/
structure Consistent (monitor : Monitor) : Prop where
  lt_made : ∀ source, ∀ callback ∈ monitor.registered source, callback.serial < monitor.made
  nodup : ∀ source, (monitor.registered source).Nodup

theorem consistent_init : Consistent init :=
  ⟨fun _ _ hcallback ↦ absurd hcallback List.not_mem_nil, fun _ ↦ List.nodup_nil⟩

theorem Consistent.step {monitor : Monitor} (hmonitor : Consistent monitor) (step : Step) :
    Consistent (monitor.step step) := by
  constructor
  · intro source callback hcallback
    have hold := hmonitor.lt_made source callback
    rcases registered_step monitor step source with
      ⟨hsame, hmade⟩ | ⟨topic, -, hmade, happend⟩ | ⟨hmade, other, herase⟩
    · exact (hold (hsame ▸ hcallback)).trans_le hmade
    · rw [happend, List.mem_append, List.mem_singleton] at hcallback
      rw [hmade]
      rcases hcallback with hcallback | rfl
      · exact (hold hcallback).trans (Nat.lt_succ_self _)
      · exact Nat.lt_succ_self _
    · rw [hmade]
      exact hold (List.mem_of_mem_erase (herase ▸ hcallback))
  · intro source
    have hold := hmonitor.nodup source
    rcases registered_step monitor step source with
      ⟨hsame, -⟩ | ⟨topic, -, -, happend⟩ | ⟨-, other, herase⟩
    · rwa [hsame]
    · rw [happend]
      refine List.Nodup.append hold (List.nodup_singleton _) ?_
      rw [List.disjoint_singleton]
      exact fun hcallback ↦ (hmonitor.lt_made source _ hcallback).ne rfl
    · rw [herase]
      exact hold.erase other

theorem consistent_run (steps : List Step) : Consistent (init.run steps) :=
  run_keeps (fun _ ↦ True) Consistent (fun _ step _ hmonitor ↦ hmonitor.step step)
    (fun _ _ ↦ trivial) consistent_init

/-! ### Keys that stay away -/

/-- A step that subscribes to a key. -/
def Subscribes (key : Key) : Step → Prop
  | .subscribe topic => topic.key = key
  | _ => False

/-- No callback of a key is registered with any object. -/
def Unregistered (key : Key) (monitor : Monitor) : Prop :=
  ∀ source, ∀ callback ∈ monitor.registered source, callback.key ≠ key

/-- No callback of a key is registered or has still to be called. -/
def Quiet (key : Key) (monitor : Monitor) : Prop :=
  Unregistered key monitor ∧ ∀ callback ∈ monitor.pending, callback.key ≠ key

theorem Unregistered.step {key : Key} {monitor : Monitor} (hmonitor : Unregistered key monitor)
    {step : Step} (hstep : ¬ Subscribes key step) : Unregistered key (monitor.step step) := by
  intro source callback hcallback
  rcases registered_step monitor step source with
    ⟨hsame, -⟩ | ⟨topic, rfl, -, happend⟩ | ⟨-, other, herase⟩
  · exact hmonitor source callback (hsame ▸ hcallback)
  · rw [happend, List.mem_append, List.mem_singleton] at hcallback
    rcases hcallback with hcallback | rfl
    · exact hmonitor source callback hcallback
    · exact hstep
  · exact hmonitor source callback (List.mem_of_mem_erase (herase ▸ hcallback))

/-- What a step can do to the callbacks that the listener has still to call: nothing, take an
arrival, or call the first. -/
theorem pending_step (monitor : Monitor) (step : Step) :
    (monitor.step step).pending ⊆ monitor.pending ∨
      ∃ source, (monitor.step step).pending = monitor.registered source := by
  have htransition := transition_step monitor step
  generalize monitor.step step = after at htransition
  cases htransition with
  | arrive source _ => exact Or.inr ⟨source, rfl⟩
  | call reading timestamp nodesMeta callback pending hpending =>
    rw [hpending]
    exact Or.inl (List.subset_cons_self callback pending)
  | _ => exact Or.inl (List.Subset.refl _)

theorem Quiet.step {key : Key} {monitor : Monitor} (hmonitor : Quiet key monitor)
    {step : Step} (hstep : ¬ Subscribes key step) : Quiet key (monitor.step step) := by
  refine ⟨hmonitor.1.step hstep, fun callback hcallback ↦ ?_⟩
  rcases pending_step monitor step with hsubset | ⟨source, harrival⟩
  · exact hmonitor.2 callback (hsubset hcallback)
  · exact hmonitor.1 source callback (harrival ▸ hcallback)

/-- A step that calls a callback which stores under a key. -/
def Stores (key : Key) (monitor : Monitor) : Step → Prop
  | .call reading _ nodesMeta =>
    reading.isSome ∧ (nodesMeta key.nodeId).isSome ∧
      ∃ callback pending, monitor.pending = callback :: pending ∧ callback.key = key
  | _ => False

theorem Quiet.not_stores {key : Key} {monitor : Monitor} (hmonitor : Quiet key monitor)
    (step : Step) : ¬ Stores key monitor step := by
  intro hstores
  cases step with
  | call reading timestamp nodesMeta =>
    obtain ⟨-, -, callback, pending, hpending, hkey⟩ := hstores
    exact hmonitor.2 callback (hpending ▸ List.mem_cons_self) hkey
  | _ => exact hstores

/-- A step that takes a key out at the end of an unsubscription. -/
def Pops (key : Key) (monitor : Monitor) : Step → Prop
  | .pop => monitor.unsubscribing = some key
  | _ => False

theorem step_of_pops {key : Key} {monitor : Monitor} {step : Step}
    (hpops : Pops key monitor step) : monitor.step step = monitor.pop key := by
  cases step with
  | pop =>
    have hbusy : monitor.unsubscribing = some key := hpops
    simp only [Monitor.step, hbusy]
  | _ => exact absurd hpops not_false

/-- A shown value changes only when it is taken out or stored. -/
theorem subscribed_step (key : Key) (monitor : Monitor) (step : Step) :
    ((monitor.step step).subscribed key = monitor.subscribed key ∧ ¬ Pops key monitor step) ∨
      ((monitor.step step).subscribed key = none ∧ Pops key monitor step) ∨
      Stores key monitor step := by
  by_cases hpops : Pops key monitor step
  · rw [step_of_pops hpops]
    exact Or.inr (Or.inl ⟨Function.update_self .., hpops⟩)
  · have htransition := transition_step monitor step
    generalize monitor.step step = after at htransition
    cases htransition with
    | pop other hbusy =>
      have hkey : key ≠ other := by
        rintro rfl
        exact hpops hbusy
      exact Or.inl ⟨Function.update_of_ne hkey .., hpops⟩
    | call reading timestamp nodesMeta callback pending hpending =>
      unfold store
      split
      next value edsName hname =>
        by_cases hkey : key = callback.key
        · subst hkey
          exact Or.inr (Or.inr ⟨rfl, Option.isSome_of_mem hname, callback, pending, hpending, rfl⟩)
        · exact Or.inl ⟨Function.update_of_ne hkey .., hpops⟩
      · exact Or.inl ⟨rfl, hpops⟩
    | _ => exact Or.inl ⟨rfl, hpops⟩

/-- A stored value is shown. -/
theorem subscribed_step_of_stores {key : Key} {monitor : Monitor} {step : Step}
    (hstores : Stores key monitor step) : (monitor.step step).subscribed key ≠ none := by
  cases step with
  | call reading timestamp nodesMeta =>
    obtain ⟨hreading, hname, callback, pending, hpending, rfl⟩ := hstores
    obtain ⟨value, rfl⟩ := Option.isSome_iff_exists.mp hreading
    obtain ⟨edsName, hname⟩ := Option.isSome_iff_exists.mp hname
    simp [Monitor.step, hpending, store, hname]
  | _ => exact absurd hstores not_false

/-! ### Unsubscriptions -/

/-- The steps of an unsubscription, with what the listener does before the lock. -/
def unsubscription (topic : Topic) (meanwhile : List Step) : List Step :=
  .unsubscribe topic :: meanwhile ++ [.pop]

/-- No arrival that comes in later stores under the key until the key is subscribed to again. An
arrival that is taken when the listener has no callback to call any more has come in later. -/
def NoLaterStore (key : Key) (returned : Monitor) : Prop :=
  ∀ first second step, (∀ other ∈ first ++ second, ¬ Subscribes key other) →
    (returned.run first).pending = [] → ¬ Stores key (returned.run (first ++ second)) step

/-- The key is not shown until it is subscribed to again. -/
def StaysAway (key : Key) (returned : Monitor) : Prop :=
  ∀ steps, (∀ step ∈ steps, ¬ Subscribes key step) → (returned.run steps).subscribed key = none

/-- The recorded callback is the only one registered for the key of a topic, and is registered with
the object of the topic if at all. -/
def OnlyRegistration (topic : Topic) (monitor : Monitor) : Prop :=
  ∀ source, ∀ callback ∈ monitor.registered source, callback.key = topic.key →
    source = topic.source ∧ monitor.callbacks topic.key = some callback

/-- During an unsubscription nothing is registered or taken off. -/
theorem registered_step_of_unsubscribing {key : Key} {monitor : Monitor} {step : Step}
    (hstep : step ≠ .pop) (hbusy : monitor.unsubscribing = some key) :
    (monitor.step step).registered = monitor.registered ∧
      (monitor.step step).unsubscribing = some key := by
  have hnotIdle : monitor.unsubscribing ≠ none := hbusy ▸ Option.some_ne_none key
  have htransition := transition_step monitor step
  generalize monitor.step step = after at htransition
  cases htransition with
  | subscribe topic hidle => exact absurd hidle hnotIdle
  | unsubscribe topic callback hidle _ => exact absurd hidle hnotIdle
  | pop other _ => exact absurd rfl hstep
  | call reading timestamp nodesMeta callback pending _ =>
    unfold store
    split <;> exact ⟨rfl, hbusy⟩
  | _ => exact ⟨rfl, hbusy⟩

/-- An unsubscription that has returned has taken the recorded callback off the list of its object,
and the key is not shown. -/
theorem run_unsubscription {monitor : Monitor} {topic : Topic} {meanwhile : List Step}
    {callback : Callback} (hidle : monitor.unsubscribing = none)
    (hrecorded : monitor.callbacks topic.key = some callback) (hmeanwhile : .pop ∉ meanwhile) :
    (monitor.run (unsubscription topic meanwhile)).registered =
        Function.update monitor.registered topic.source
          ((monitor.registered topic.source).erase callback) ∧
      (monitor.run (unsubscription topic meanwhile)).subscribed topic.key = none := by
  have hfirst : monitor.step (.unsubscribe topic) =
      { monitor with
        registered := Function.update monitor.registered topic.source
          ((monitor.registered topic.source).erase callback)
        unsubscribing := some topic.key } := by
    rw [step, if_pos hidle, unsubscribe_eq, unregister, hrecorded]
  have hmiddle : ((monitor.step (.unsubscribe topic)).run meanwhile).registered =
        (monitor.step (.unsubscribe topic)).registered ∧
      ((monitor.step (.unsubscribe topic)).run meanwhile).unsubscribing = some topic.key := by
    refine run_keeps (fun step ↦ step ≠ .pop)
      (fun later ↦ later.registered = (monitor.step (.unsubscribe topic)).registered ∧
        later.unsubscribing = some topic.key) ?_ (fun step hstep hpop ↦ hmeanwhile (hpop ▸ hstep))
      ⟨rfl, by rw [hfirst]⟩
    intro later step hstep hlater
    obtain ⟨hsame, hbusy⟩ := registered_step_of_unsubscribing hstep hlater.2
    exact ⟨hsame.trans hlater.1, hbusy⟩
  obtain ⟨hregistered, hbusy⟩ := hmiddle
  have hlast : monitor.run (unsubscription topic meanwhile) =
      ((monitor.step (.unsubscribe topic)).run meanwhile).pop topic.key := by
    rw [unsubscription, List.cons_append, run_cons, run_append, run_cons, run_nil]
    generalize (monitor.step (.unsubscribe topic)).run meanwhile = later at hbusy
    rw [step, hbusy]
  rw [hlast]
  exact ⟨hregistered.trans (by rw [hfirst]), Function.update_self ..⟩

/-- After an unsubscription no callback of the key is registered exactly when the recorded callback
was the only one. -/
theorem unregistered_iff_onlyRegistration {monitor returned : Monitor} {topic : Topic}
    {callback : Callback} (hmonitor : Consistent monitor)
    (hrecorded : monitor.callbacks topic.key = some callback)
    (hreturned : returned.registered = Function.update monitor.registered topic.source
      ((monitor.registered topic.source).erase callback)) :
    Unregistered topic.key returned ↔ OnlyRegistration topic monitor := by
  unfold Unregistered OnlyRegistration
  rw [hreturned, hrecorded]
  constructor
  · intro hgone source other hother hkey
    by_contra hmore
    refine hgone source other ?_ hkey
    by_cases hsource : source = topic.source
    · subst hsource
      have hdistinct : other ≠ callback := fun heq ↦ hmore ⟨rfl, by rw [heq]⟩
      rw [Function.update_self]
      exact (List.mem_erase_of_ne hdistinct).mpr hother
    · rwa [Function.update_of_ne hsource]
  · intro honly source other hother hkey
    by_cases hsource : source = topic.source
    · subst hsource
      rw [Function.update_self] at hother
      obtain ⟨-, heq⟩ := honly topic.source other (List.mem_of_mem_erase hother) hkey
      obtain rfl := Option.some.inj heq
      exact (hmonitor.nodup topic.source).not_mem_erase hother
    · rw [Function.update_of_ne hsource] at hother
      exact hsource (honly source other hother hkey).1

/-! ### What the listener can still do -/

/-- A call of a callback for a node that has an EDS name. -/
def namedCall : Step := .call (some (.state 5)) 0 fun _ ↦ some ""

theorem not_subscribes_namedCall (key : Key) : ¬ Subscribes key namedCall := not_false

/-- Calls take the pending callbacks one after the other. -/
theorem run_namedCalls (monitor : Monitor) (count : ℕ) :
    (monitor.run (List.replicate count namedCall)).pending = monitor.pending.drop count ∧
      (monitor.run (List.replicate count namedCall)).registered = monitor.registered := by
  induction count generalizing monitor with
  | zero => exact ⟨rfl, rfl⟩
  | succ count ih =>
    rw [List.replicate_succ, run_cons, (ih _).1, (ih _).2, namedCall, step]
    split
    · rename_i hpending
      exact ⟨by rw [hpending, List.drop_nil, List.drop_nil], rfl⟩
    · rename_i callback pending hpending
      exact ⟨by rw [hpending, List.drop_succ_cons], rfl⟩

/-- A pending callback is called in the end. -/
theorem exists_stores_of_mem_pending {monitor : Monitor} {callback : Callback}
    (hcallback : callback ∈ monitor.pending) :
    ∃ count, Stores callback.key (monitor.run (List.replicate count namedCall)) namedCall := by
  obtain ⟨before, after, hsplit⟩ := List.append_of_mem hcallback
  refine ⟨before.length, rfl, rfl, callback, after, ?_, rfl⟩
  rw [(run_namedCalls monitor before.length).1, hsplit, List.drop_left]

/-- No later arrival stores under a key exactly when no callback of the key is registered. -/
theorem noLaterStore_iff_unregistered (key : Key) (returned : Monitor) :
    NoLaterStore key returned ↔ Unregistered key returned := by
  constructor
  · rintro hstore source callback hcallback rfl
    have hdrained := run_namedCalls returned returned.pending.length
    rw [List.drop_length] at hdrained
    set drain := List.replicate returned.pending.length namedCall
    have harrival : ((returned.run drain).step (.arrive source)).pending =
        returned.registered source := by
      rw [step, if_pos hdrained.1]
      exact congrFun hdrained.2 source
    obtain ⟨count, hstores⟩ := exists_stores_of_mem_pending (harrival ▸ hcallback)
    refine hstore drain (.arrive source :: List.replicate count namedCall) namedCall ?_ hdrained.1
      (by rwa [run_append, run_cons])
    intro other hother
    rw [List.mem_append, List.mem_cons] at hother
    rcases hother with hother | rfl | hother
    · exact List.eq_of_mem_replicate hother ▸ not_subscribes_namedCall _
    · exact not_false
    · exact List.eq_of_mem_replicate hother ▸ not_subscribes_namedCall _
  · intro hgone first second step hsteps hidle
    rw [List.forall_mem_append] at hsteps
    have hfirst : Unregistered key (returned.run first) :=
      run_keeps _ (Unregistered key) (fun _ _ hother hmonitor ↦ hmonitor.step hother) hsteps.1 hgone
    have hquiet : Quiet key (returned.run first) :=
      ⟨hfirst, by rw [hidle]; exact fun _ hnil ↦ absurd hnil List.not_mem_nil⟩
    rw [run_append]
    exact (run_keeps _ (Quiet key) (fun _ _ hother hmonitor ↦ hmonitor.step hother) hsteps.2
      hquiet).not_stores step

/-- A key that is not shown stays away exactly when no callback of the key is registered or has
still to be called. -/
theorem staysAway_iff_quiet {key : Key} {returned : Monitor}
    (habsent : returned.subscribed key = none) : StaysAway key returned ↔ Quiet key returned := by
  constructor
  · intro haway
    have hno : ∀ steps step, (∀ other ∈ steps, ¬ Subscribes key other) →
        ¬ Stores key (returned.run steps) step := by
      intro steps step hsteps hstores
      have hcall : ¬ Subscribes key step := by
        cases step with
        | call reading timestamp nodesMeta => exact not_false
        | _ => exact absurd hstores not_false
      have hshown := haway (steps ++ [step])
        (List.forall_mem_append.mpr ⟨hsteps, List.forall_mem_singleton.mpr hcall⟩)
      rw [run_append] at hshown
      exact subscribed_step_of_stores hstores hshown
    refine ⟨(noLaterStore_iff_unregistered key returned).mp fun first second step hsteps _ ↦
      hno _ step hsteps, ?_⟩
    rintro callback hcallback rfl
    obtain ⟨count, hstores⟩ := exists_stores_of_mem_pending hcallback
    exact hno _ _ (fun other hother ↦
      List.eq_of_mem_replicate hother ▸ not_subscribes_namedCall _) hstores
  · intro hquiet steps hsteps
    have hboth : Quiet key (returned.run steps) ∧ (returned.run steps).subscribed key = none := by
      refine run_keeps _ (fun monitor ↦ Quiet key monitor ∧ monitor.subscribed key = none)
        (fun monitor step hstep hmonitor ↦ ⟨hmonitor.1.step hstep, ?_⟩) hsteps ⟨hquiet, habsent⟩
      rcases subscribed_step key monitor step with ⟨hsame, -⟩ | ⟨hnone, -⟩ | hstores
      · rw [hsame]
        exact hmonitor.2
      · exact hnone
      · exact absurd hstores (hmonitor.1.not_stores step)
    exact hboth.2

/-- After any steps of the two threads, an unsubscription of a subscribed key is final: no later
arrival stores under the key exactly when the recorded callback was the only one registered for it,
and registered with the object of the topic. The key is not shown at all any more exactly when, in
addition, the listener has no callback of the key still to call when the unsubscription returns. -/
theorem unsubscribe_final_iff (steps : List Step) (topic : Topic) (meanwhile : List Step)
    (hidle : (init.run steps).unsubscribing = none)
    (hsubscribed : ((init.run steps).callbacks topic.key).isSome)
    (hmeanwhile : .pop ∉ meanwhile) :
    (NoLaterStore topic.key ((init.run steps).run (unsubscription topic meanwhile)) ↔
        OnlyRegistration topic (init.run steps)) ∧
      (StaysAway topic.key ((init.run steps).run (unsubscription topic meanwhile)) ↔
        OnlyRegistration topic (init.run steps) ∧
          ∀ callback ∈ ((init.run steps).run (unsubscription topic meanwhile)).pending,
            callback.key ≠ topic.key) := by
  obtain ⟨callback, hrecorded⟩ := Option.isSome_iff_exists.mp hsubscribed
  obtain ⟨hregistered, habsent⟩ := run_unsubscription hidle hrecorded hmeanwhile
  have honly := unregistered_iff_onlyRegistration (consistent_run steps) hrecorded hregistered
  exact ⟨(noLaterStore_iff_unregistered _ _).trans honly,
    (staysAway_iff_quiet habsent).trans (and_congr_left' honly)⟩

/-- A heartbeat subscribed to once does not come back, although one arrives during the
unsubscription. -/
theorem unsubscribe_final_once :
    NoLaterStore (.heartbeat 5) ((init.run [.subscribe (.heartbeat ⟨0, 5⟩)]).run
      (unsubscription (.heartbeat ⟨0, 5⟩) [.arrive (.nmt 0), namedCall])) := by
  refine (unsubscribe_final_iff [.subscribe (.heartbeat ⟨0, 5⟩)] (.heartbeat ⟨0, 5⟩)
    [.arrive (.nmt 0), namedCall] rfl rfl (by simp [namedCall])).1.mpr ?_
  intro source callback hcallback _
  by_cases hsource : source = .nmt 0
  · subst hsource
    obtain rfl : callback = ⟨0, .heartbeat 5⟩ := List.mem_singleton.mp hcallback
    exact ⟨rfl, rfl⟩
  · have hother : (init.run [.subscribe (.heartbeat ⟨0, 5⟩)]).registered source = [] :=
      Function.update_of_ne hsource ..
    exact absurd (hother ▸ hcallback) List.not_mem_nil

/-- A heartbeat subscribed to twice comes back: the unsubscription takes the second callback off,
and the next arrival calls the first. -/
theorem subscribe_twice_stores :
    ((init.run [.subscribe (.heartbeat ⟨0, 5⟩), .subscribe (.heartbeat ⟨0, 5⟩)]).callbacks
        (.heartbeat 5)).isSome ∧
      ¬ NoLaterStore (.heartbeat 5)
        ((init.run [.subscribe (.heartbeat ⟨0, 5⟩), .subscribe (.heartbeat ⟨0, 5⟩)]).run
          (unsubscription (.heartbeat ⟨0, 5⟩) [])) := by
  refine ⟨rfl, fun hstore ↦ ?_⟩
  refine hstore [] [.arrive (.nmt 0)] namedCall ?_ rfl ⟨rfl, rfl, ⟨0, .heartbeat 5⟩, [], rfl, rfl⟩
  rintro other hother
  obtain rfl := List.mem_singleton.mp hother
  exact not_false

end Monitor

end CanopenTools.Interactive
