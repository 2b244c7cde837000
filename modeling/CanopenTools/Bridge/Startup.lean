import CanopenTools.Bridge.MainThread
import CanopenTools.Effects.Protocol

/-!
# From the start to the end of the bridge

What the main thread does to the host and the bus, as a protocol over the settings (`startup`). The
commands that bring the interface up are run only by root and only if the settings ask for it, in
their order, and all of them before the bus is opened. The bus is opened at most once, as the
settings say, and a thread is started only when there is a bus. What is sent is the record of the
message that was just received, on the socket that was read after it, and once. After `stop` has set
the event nothing is received or sent any more, and the bus is shut down at most once.

`main_keeps_startup` is about every file of settings and every behaviour of the host, the bus and
the other thread: the protocol is kept wherever the run stops. When `main` has ended on settings
that could be loaded, the event is set and the bus that was assigned is shut down if there was one,
unless a call of `stop` itself was interrupted; `KeyboardInterrupt` anywhere before does not keep
`stop` from being run.
-/

set_option autoImplicit false
set_option relaxedAutoImplicit false

namespace CanopenTools.Bridge.MainThread

open Effects Mappings

open Effects.Program (Follows follows_pure follows_raise follows_unfinished follows_bind
  follows_tryCatch follows_ensuring follows_perform follows_ite follows_of_uses follows_sound Idle)

variable {K F O : Type}

/-! ### The plan -/

/-- What the settings ask for: the commands that bring the interface up, as far as they can be made,
and the arguments of the bus. -/
structure Plan (K F O : Type) where
  bringup : Bool
  commands : List (List String)
  channel : Entry (Key K) (Plain F O)
  fd : Bool

section Plan

variable (python : Python K F O)

/-- The commands after the first one. -/
def laterCommands (name : String) (restartMs : Entry (Key K) (Plain F O)) (bitrate dataBitrate : ℤ)
    (useFd : Bool) : List (List String) :=
  match restartWords python restartMs with
  | .error _ => []
  | .ok more =>
    [["ip", "link", "set", name] ++ (typeWords bitrate dataBitrate useFd ++ more),
      ["ip", "link", "set", name, "up"]]

/-- The commands for an interface: down, its type with the bitrates, up. -/
def linkCommands (iface restartMs : Entry (Key K) (Plain F O)) (bitrate dataBitrate : ℤ)
    (useFd : Bool) : List (List String) :=
  match iface with
  | .value (.str name) =>
    ["ip", "link", "set", name, "down"] ::
      laterCommands python name restartMs bitrate dataBitrate useFd
  | _ => []

variable [DecidableEq K]

/-- The plan of settings below `can`. Without both bitrates there are no commands. -/
def planFor (canCfg : Mapping (Key K) (Plain F O)) : Plan K F O where
  bringup := python.truth (cfgGet canCfg "bringup" (.bool false))
  commands :=
    match python.toInt (cfgGet canCfg "bitrate" (.int 250000)),
      python.toInt (cfgGet canCfg "data_bitrate" (.int 0)) with
    | .ok bitrate, .ok dataBitrate =>
      linkCommands python (cfgGet canCfg "iface" (.str "can0"))
        (cfgGet canCfg "restart_ms" .null) bitrate dataBitrate
        (python.truth (cfgGet canCfg "fd" (.bool false)))
    | _, _ => []
  channel := cfgGet canCfg "iface" (.str "vcan0")
  fd := python.truth (cfgGet canCfg "fd" (.bool false))

/-- The plan of a file: that of the loaded settings below `can`. -/
def planOf (file : Mapping (Key K) (Plain F O)) : Plan K F O :=
  match loadConfig python.toConversions file with
  | .error _ => planFor python .empty
  | .ok cfg =>
    match cfg.lookup "can" with
    | some (.mapping canCfg) => planFor python canCfg
    | _ => planFor python .empty

/-- What the file itself says below `can`. -/
def ownCan (file : Mapping (Key K) (Plain F O)) : Mapping (Key K) (Plain F O) :=
  match file.lookup "can" with
  | some (.mapping own) => own
  | _ => .empty

/-- A setting below `can` reads as in the file, with the default of the loader. -/
theorem cfgGet_loaded {python : Python K F O} {file cfg canCfg : Mapping (Key K) (Plain F O)}
    (hload : loadConfig python.toConversions file = .ok cfg)
    (hcan : cfg.lookup "can" = some (.mapping canCfg)) {key : String} {plain : Plain F O}
    (hdefault : (defaultCan : Mapping (Key K) (Plain F O)).lookup key = some (.value plain))
    (fallback : Plain F O) : cfgGet canCfg key fallback = cfgGet (ownCan file) key plain := by
  have hmerged := merged_lookup (defaultConfig python.toConversions).unique hload (Key.str "can")
  have hdefaults : (defaultConfig python.toConversions).entries.lookup (Key.str "can") =
      some (.mapping defaultCan) := rfl
  rw [hcan, hdefaults] at hmerged
  unfold ownCan
  generalize file.lookup "can" = own at hmerged
  cases hmerged with
  | absent => simp only [cfgGet, hdefault, Mapping.lookup, Option.getD_some, Option.getD_none]
  | kept own hsource => exact absurd rfl (hsource defaultCan)
  | merged own child result hmerge =>
    have hunique : (defaultCan : Mapping (Key K) (Plain F O)).UniqueKeys := by
      simp [Mapping.UniqueKeys, Mapping.keys, defaultCan]
    have hinner := merged_lookup hunique hmerge (Key.str key)
    rw [hdefault] at hinner
    simp only [cfgGet]
    generalize own.lookup (Key.str key) = first, canCfg.lookup (Key.str key) = second at hinner ⊢
    cases hinner <;> rfl

/-- The interface is brought up only if the file says so. -/
theorem bringup_planOf {python : Python K F O} {file : Mapping (Key K) (Plain F O)}
    (hbringup : (planOf python file).bringup = true) :
    python.truth (cfgGet (ownCan file) "bringup" (.bool false)) = true := by
  unfold planOf at hbringup
  cases hload : loadConfig python.toConversions file with
  | error error =>
    rw [hload] at hbringup
    cases hbringup
  | ok cfg =>
    rw [hload] at hbringup
    dsimp only at hbringup
    split at hbringup
    next canCfg hcan =>
      rw [← cfgGet_loaded hload hcan rfl (.bool false)]
      exact hbringup
    · cases hbringup

end Plan

/-! ### The protocol -/

/-- What the main thread has done and found out; `cut` when a call of `stop` was interrupted. -/
structure Usage where
  uid : Option ℕ := none
  commands : List (List String) := []
  opened : Bool := false
  hasBus : Bool := false
  started : Bool := false
  polled : Bool := false
  taken : Option Message := none
  sock : Option ℕ := none
  stopped : Bool := false
  shut : Bool := false
  cut : Bool := false
  deriving DecidableEq, Repr

/-- The interface may be brought up. -/
def Plan.MayBringUp (plan : Plan K F O) (usage : Usage) : Prop :=
  plan.bringup = true ∧ usage.uid = some 0

instance (plan : Plan K F O) (usage : Usage) : Decidable (plan.MayBringUp usage) :=
  inferInstanceAs (Decidable (_ ∧ _))

/-- Before the bus is opened. -/
def Usage.Before (usage : Usage) : Prop := usage.opened = false ∧ usage.stopped = false

/-- In the loop. -/
def Usage.Running (usage : Usage) : Prop := usage.started = true ∧ usage.stopped = false

/-- Which operations are allowed. -/
def Allows (plan : Plan K F O) (usage : Usage) : Op K F O → Prop
  | .geteuid => usage.Before ∧ plan.bringup = true ∧ usage.uid = none
  | .subprocessRun cmd =>
    usage.Before ∧ plan.MayBringUp usage ∧ usage.commands ++ [cmd] <+: plan.commands
  | .openBus channel fd =>
    usage.Before ∧ channel = plan.channel ∧ fd = plan.fd ∧
      usage.commands = if plan.MayBringUp usage then plan.commands else []
  | .setBus => usage.opened = true ∧ usage.hasBus = false ∧ usage.stopped = false
  | .threadStart => usage.hasBus = true ∧ usage.started = false ∧ usage.stopped = false
  | .isSet => usage.Running
  | .busRecv => usage.Running ∧ usage.polled = true
  | .readSock => usage.Running ∧ usage.taken ≠ none
  | .sendall sock payload =>
    usage.Running ∧ usage.sock = some sock ∧
      ∃ msg, usage.taken = some msg ∧ frameFromCan msg plan.fd = .ok payload
  | .printInterrupted | .set => usage.stopped = false
  | .selfBus => usage.stopped = true ∨ usage.Running
  | .selfSock => usage.stopped = true
  | .sockShutdown sock | .sockClose sock => usage.stopped = true ∧ usage.sock = some sock
  | .busShutdown => usage.stopped = true ∧ usage.hasBus = true ∧ usage.shut = false

/-- The event was tested, so a new pass begins or the loop ends. -/
def Usage.tested (usage : Usage) (stopped : Bool) : Usage :=
  { usage with polled := !stopped, taken := none, sock := none }

/-- A call failed, which cuts `stop` off when it is `KeyboardInterrupt`. -/
def Usage.failed (usage : Usage) (error : PyError) : Usage :=
  { usage with cut := usage.cut || (usage.stopped && error == .keyboardInterrupt) }

/-- What an operation makes of it. A socket that was used has to be read again. -/
def next (usage : Usage) : Event (process K F O) → Usage
  | ⟨.geteuid, .ok uid⟩ => { usage with uid := some uid }
  | ⟨.subprocessRun cmd, _⟩ => { usage with commands := usage.commands ++ [cmd] }
  | ⟨.openBus _ _, .ok _⟩ => { usage with opened := true }
  | ⟨.setBus, .ok _⟩ => { usage with hasBus := true }
  | ⟨.threadStart, .ok _⟩ => { usage with started := true }
  | ⟨.isSet, .ok stopped⟩ => usage.tested stopped
  | ⟨.busRecv, .ok taken⟩ => { usage with polled := false, taken := taken }
  | ⟨.busRecv, .error _⟩ => { usage with polled := false }
  | ⟨.readSock, .ok sock⟩ => { usage with sock := sock }
  | ⟨.sendall _ _, _⟩ => { usage with taken := none, sock := none }
  | ⟨.set, .ok _⟩ => { usage with stopped := true }
  | ⟨.set, .error _⟩ => { usage with cut := true }
  | ⟨.selfSock, .ok sock⟩ => { usage with sock := sock }
  | ⟨.selfSock, .error error⟩ => usage.failed error
  | ⟨.sockShutdown _, .ok _⟩ => { usage with sock := none }
  | ⟨.sockShutdown _, .error error⟩ => { usage with sock := none }.failed error
  | ⟨.sockClose _, .ok _⟩ => { usage with sock := none }
  | ⟨.sockClose _, .error error⟩ => { usage with sock := none }.failed error
  | ⟨.selfBus, .error error⟩ => usage.failed error
  | ⟨.busShutdown, .ok _⟩ => { usage with shut := true }
  | ⟨.busShutdown, .error error⟩ => { usage with shut := true }.failed error
  | _ => usage

/-- `self.bus` is what was assigned to it. Setting the event and looking at the bus fail at most
with `KeyboardInterrupt`. -/
def Relies (usage : Usage) : Event (process K F O) → Prop
  | ⟨.selfBus, .ok bus⟩ => bus = usage.hasBus
  | ⟨.selfBus, .error error⟩ => error = .keyboardInterrupt
  | ⟨.set, .error error⟩ => error = .keyboardInterrupt
  | _ => True

/-- How the main thread may use the host and the bus. -/
def startup (plan : Plan K F O) : Protocol (process K F O) where
  Usage := Usage
  start := {}
  allows := Allows plan
  next := next
  relies := Relies

/-! ### Rules -/

section Rules

variable {plan : Plan K F O} {usage : Usage} {α β : Type}

/-- From a state of use, the main thread keeps the protocol and ends in states as given. -/
def Keeps (plan : Plan K F O) (usage : Usage) (script : Script K F O α) (returns : α → Usage → Prop)
    (raises : PyError → Usage → Prop) : Prop :=
  script.Follows (startup plan) usage returns raises

theorem keeps_ask {op : Op K F O} {returns : op.Result → Usage → Prop}
    {raises : PyError → Usage → Prop} (hallows : Allows plan usage op)
    (hreturns : ∀ result, Relies usage (⟨op, .ok result⟩ : Event (process K F O)) →
      returns result (next usage (⟨op, .ok result⟩ : Event (process K F O))))
    (hraises : ∀ error, Relies usage (⟨op, .error error⟩ : Event (process K F O)) →
      raises error (next usage (⟨op, .error error⟩ : Event (process K F O)))) :
    Keeps plan usage (ask op) returns raises :=
  follows_perform hallows hreturns hraises

/-- An operation and what follows it. -/
theorem keeps_ask_bind {op : Op K F O} {rest : op.Result → Script K F O α}
    {returns : α → Usage → Prop} {raises : PyError → Usage → Prop} (hallows : Allows plan usage op)
    (hraises : ∀ error, Relies usage (⟨op, .error error⟩ : Event (process K F O)) →
      raises error (next usage (⟨op, .error error⟩ : Event (process K F O))))
    (hrest : ∀ result, Relies usage (⟨op, .ok result⟩ : Event (process K F O)) →
      Keeps plan (next usage (⟨op, .ok result⟩ : Event (process K F O)))
        (rest result) returns raises) :
    Keeps plan usage (ask op >>= rest) returns raises := by
  have hask : Keeps plan usage (ask op) (fun result after ↦
      Relies usage (⟨op, .ok result⟩ : Event (process K F O)) ∧
        after = next usage (⟨op, .ok result⟩ : Event (process K F O))) raises :=
    keeps_ask hallows (fun _ hrelies ↦ ⟨hrelies, rfl⟩) hraises
  refine follows_bind hask ?_
  rintro result after ⟨hrelies, rfl⟩
  exact hrest result hrelies

/-- `stop` was cut off. -/
def Interrupted (error : PyError) (usage : Usage) : Prop :=
  error = .keyboardInterrupt ∧ usage.cut = true

theorem Usage.cut_failed (hstopped : usage.stopped = true) :
    (usage.failed .keyboardInterrupt).cut = true := by
  unfold failed
  rw [hstopped]
  exact Bool.or_true _

/-- `except Exception: pass` around a part that ends as it should, unless it is interrupted. -/
theorem keeps_quietly {body : Script K F O Unit} {returns : Usage → Prop}
    (hbody : Keeps plan usage body (fun _ ↦ returns) fun error after ↦
      (error = .keyboardInterrupt → after.cut = true) ∧
        (error ≠ .keyboardInterrupt → returns after)) :
    Keeps plan usage (quietly body) (fun _ ↦ returns) Interrupted := by
  refine follows_tryCatch hbody fun error after hafter ↦ ?_
  cases error with
  | keyboardInterrupt => exact follows_raise ⟨rfl, hafter.1 rfl⟩
  | _ => exact follows_pure (hafter.2 nofun)

end Rules

/-! ### Stopping -/

section Stop

variable {plan : Plan K F O} {usage : Usage}

/-- Before `stop`. -/
structure Unstopped (usage : Usage) : Prop where
  stopped : usage.stopped = false
  shut : usage.shut = false

/-- In `stop`, with a bus or without one. -/
structure Stopping (hasBus : Bool) (usage : Usage) : Prop where
  stopped : usage.stopped = true
  hasBus : usage.hasBus = hasBus
  shut : usage.shut = false

theorem Stopping.withSock {hasBus : Bool} (hstopping : Stopping hasBus usage) (sock : Option ℕ) :
    Stopping hasBus { usage with sock } :=
  ⟨hstopping.stopped, hstopping.hasBus, hstopping.shut⟩

theorem Stopping.failed {hasBus : Bool} (hstopping : Stopping hasBus usage) (error : PyError) :
    Stopping hasBus (usage.failed error) :=
  ⟨hstopping.stopped, hstopping.hasBus, hstopping.shut⟩

/-- The event is set, and a bus that there was is shut down. -/
def Released (usage : Usage) : Prop :=
  usage.stopped = true ∧ (usage.hasBus = true → usage.shut = true)

/-- A part of `stop` has ended: it goes on, or it was cut off. -/
theorem Stopping.ended {hasBus : Bool} (hstopping : Stopping hasBus usage) (error : PyError) :
    (error = .keyboardInterrupt → (usage.failed error).cut = true) ∧
      (error ≠ .keyboardInterrupt → Stopping hasBus (usage.failed error)) := by
  constructor
  · rintro rfl
    exact Usage.cut_failed hstopping.stopped
  · exact fun _ ↦ hstopping.failed error

/-- One use of the socket, whatever becomes of it. -/
theorem keeps_onSock {hasBus : Bool} {use : ℕ → Script K F O Unit}
    (hstopping : Stopping hasBus usage)
    (huse : ∀ sock usage, Stopping hasBus usage → usage.sock = some sock →
      Keeps plan usage (use sock) (fun _ ↦ Stopping hasBus) fun error after ↦
        (error = .keyboardInterrupt → after.cut = true) ∧
          (error ≠ .keyboardInterrupt → Stopping hasBus after)) :
    Keeps plan usage (quietly (onSock use)) (fun _ ↦ Stopping hasBus) Interrupted := by
  refine keeps_quietly ?_
  refine keeps_ask_bind hstopping.stopped (fun error _ ↦ hstopping.ended error)
    fun (sock : Option ℕ) _ ↦ ?_
  cases sock with
  | none => exact follows_pure (hstopping.withSock none)
  | some sock =>
    refine keeps_ask_bind hstopping.stopped
      (fun error _ ↦ (hstopping.withSock (some sock)).ended error) fun (again : Option ℕ) _ ↦ ?_
    cases again with
    | none => exact follows_raise ⟨nofun, fun _ ↦ hstopping.withSock none⟩
    | some connection => exact huse connection _ (hstopping.withSock (some connection)) rfl

theorem keeps_shutdownBus {hasBus : Bool} (hstopping : Stopping hasBus usage) :
    Keeps plan usage (quietly shutdownBus) (fun _ ↦ Released) Interrupted := by
  refine keeps_quietly (keeps_ask_bind (Or.inl hstopping.stopped) (fun error herror ↦ ?_)
    fun (bus : Bool) hbus ↦ ?_)
  · exact ⟨(hstopping.ended error).1, fun hother ↦ absurd herror hother⟩
  · obtain rfl : bus = usage.hasBus := hbus
    apply follows_ite
    · intro hhas
      refine keeps_ask ⟨hstopping.stopped, hhas, hstopping.shut⟩
        (fun _ _ ↦ ⟨hstopping.stopped, fun _ ↦ rfl⟩) fun error _ ↦ ⟨?_, fun _ ↦ ?_⟩
      · rintro rfl
        exact Usage.cut_failed hstopping.stopped
      · exact ⟨hstopping.stopped, fun _ ↦ rfl⟩
    · exact fun hnone ↦ follows_pure ⟨hstopping.stopped, fun hhas ↦ absurd hhas hnone⟩

/-- `stop` sets the event and releases the bus, unless it is cut off. -/
theorem keeps_stop (hbefore : Unstopped usage) :
    Keeps plan usage stop (fun _ ↦ Released) Interrupted := by
  refine keeps_ask_bind hbefore.stopped (fun _ herror ↦ ⟨herror, rfl⟩) fun _ _ ↦ ?_
  have hstopping : Stopping usage.hasBus { usage with stopped := true } := ⟨rfl, rfl, hbefore.shut⟩
  refine follows_bind (keeps_onSock hstopping fun sock usage hstopping hsock ↦
    keeps_ask ⟨hstopping.stopped, hsock⟩ (fun _ _ ↦ hstopping.withSock none)
      fun error _ ↦ (hstopping.withSock none).ended error) fun _ usage hstopping ↦ ?_
  exact follows_bind (keeps_onSock hstopping fun sock usage hstopping hsock ↦
    keeps_ask ⟨hstopping.stopped, hsock⟩ (fun _ _ ↦ hstopping.withSock none)
      fun error _ ↦ (hstopping.withSock none).ended error) fun _ usage hstopping ↦
        keeps_shutdownBus hstopping

end Stop

/-! ### Bringing the interface up -/

section BringUp

variable {plan : Plan K F O} {usage : Usage} {python : Python K F O}

theorem unstopped_early (uid : Option ℕ) (commands : List (List String)) :
    Unstopped { uid, commands } := ⟨rfl, rfl⟩

/-- One command of the plan. -/
theorem keeps_run {name : String} {words : List String} {done : List (List String)}
    (hbringup : plan.bringup = true)
    (hfront : done ++ [["ip", "link", "set", name] ++ words] <+: plan.commands) :
    Keeps plan { uid := some 0, commands := done } (run (.value (.str name)) words)
      (fun _ after ↦ after =
        { uid := some 0, commands := done ++ [["ip", "link", "set", name] ++ words] })
      fun _ ↦ Unstopped := by
  have hrun : Keeps plan { uid := some 0, commands := done }
      (ask (.subprocessRun (["ip", "link", "set", name] ++ words))) (fun _ after ↦ after =
        { uid := some 0, commands := done ++ [["ip", "link", "set", name] ++ words] })
      fun _ after ↦ after =
        { uid := some 0, commands := done ++ [["ip", "link", "set", name] ++ words] } :=
    keeps_ask ⟨⟨rfl, rfl⟩, ⟨hbringup, rfl⟩, hfront⟩ (fun _ _ ↦ rfl) fun _ _ ↦ rfl
  refine follows_tryCatch hrun ?_
  rintro error after rfl
  cases error with
  | calledProcessError => exact follows_pure rfl
  | _ => exact follows_raise (unstopped_early _ _)

/-- With a name that is no text nothing is run. -/
theorem keeps_run_of_not_text {iface : Entry (Key K) (Plain F O)} (words : List String)
    (htext : ¬ ∃ name, iface = .value (.str name)) :
    Keeps plan usage (run iface words) (fun _ _ ↦ False) fun _ after ↦ after = usage := by
  cases iface with
  | mapping child => exact follows_raise rfl
  | value plain =>
    cases plain with
    | str name => exact absurd ⟨name, rfl⟩ htext
    | _ => exact follows_raise rfl

/-- The commands are run in their order. -/
theorem keeps_setLink {iface restartMs : Entry (Key K) (Plain F O)} {bitrate dataBitrate : ℤ}
    {useFd : Bool} (hbringup : plan.bringup = true)
    (hcommands : plan.commands = linkCommands python iface restartMs bitrate dataBitrate useFd) :
    Keeps plan { uid := some 0 } (setLink python iface restartMs bitrate dataBitrate useFd)
      (fun _ after ↦ after = { uid := some 0, commands := plan.commands }) fun _ ↦ Unstopped := by
  by_cases htext : ∃ name, iface = .value (.str name)
  · obtain ⟨name, rfl⟩ := htext
    have hdown : ["ip", "link", "set", name, "down"] ::
          laterCommands python name restartMs bitrate dataBitrate useFd = plan.commands :=
      hcommands.symm
    refine follows_bind (keeps_run hbringup ⟨_, hdown⟩) ?_
    rintro _ after rfl
    unfold laterCommands at hdown
    cases hrestart : restartWords python restartMs with
    | error error => exact follows_raise (unstopped_early _ _)
    | ok more =>
      rw [hrestart] at hdown
      refine follows_bind (keeps_run hbringup ⟨[["ip", "link", "set", name, "up"]], hdown⟩) ?_
      rintro _ after rfl
      refine Follows.mono (keeps_run hbringup ⟨[], hdown⟩) ?_ fun _ _ hafter ↦ hafter
      rintro _ after rfl
      rw [← hdown]
      rfl
  · refine follows_bind (Follows.mono (keeps_run_of_not_text _ htext) (fun _ _ hfalse ↦ hfalse) ?_)
      fun _ _ hfalse ↦ hfalse.elim
    rintro _ after rfl
    exact unstopped_early _ _

/-- When `bring_up_interface` has returned. -/
structure BroughtUp (plan : Plan K F O) (usage : Usage) : Prop where
  fresh : usage = { uid := usage.uid, commands := usage.commands }
  commands : usage.commands = if plan.MayBringUp usage then plan.commands else []

/-- Without `bringup`, or without root, nothing was run. -/
theorem broughtUp_of_not {uid : Option ℕ} (hnot : ¬ plan.MayBringUp { uid }) :
    BroughtUp plan { uid } :=
  ⟨rfl, (if_neg hnot).symm⟩

/-- A conversion does nothing. -/
theorem keeps_toInt_bind {value : Entry (Key K) (Plain F O)} {rest : ℤ → Script K F O Unit}
    {returns : Unit → Usage → Prop} {raises : PyError → Usage → Prop}
    (hraises : raises .exception usage)
    (hrest : ∀ number, python.toInt value = .ok number →
      Keeps plan usage (rest number) returns raises) :
    Keeps plan usage (toInt python value >>= rest) returns raises := by
  unfold toInt
  cases hvalue : python.toInt value with
  | error error => exact follows_raise hraises
  | ok number => exact hrest number hvalue

theorem keeps_bringUpInterface [DecidableEq K] (canCfg : Mapping (Key K) (Plain F O)) :
    Keeps (planFor python canCfg) {} (bringUpInterface python canCfg)
      (fun _ ↦ BroughtUp (planFor python canCfg)) fun _ ↦ Unstopped := by
  refine keeps_toInt_bind (unstopped_early _ _) fun bitrate hbitrate ↦ ?_
  refine keeps_toInt_bind (unstopped_early _ _) fun dataBitrate hdata ↦ ?_
  have hcommands : (planFor python canCfg).commands =
      linkCommands python (cfgGet canCfg "iface" (.str "can0"))
        (cfgGet canCfg "restart_ms" .null) bitrate dataBitrate
        (python.truth (cfgGet canCfg "fd" (.bool false))) := by
    simp only [planFor, hbitrate, hdata]
  apply follows_ite
  · intro hno
    refine follows_pure (broughtUp_of_not fun hmay ↦ ?_)
    rw [show python.truth (cfgGet canCfg "bringup" (.bool false)) = true from hmay.1] at hno
    cases hno
  · intro hyes
    have hbringup : (planFor python canCfg).bringup = true := by simpa [planFor] using hyes
    refine keeps_ask_bind ⟨⟨rfl, rfl⟩, hbringup, rfl⟩ (fun _ _ ↦ unstopped_early _ _)
      fun (uid : ℕ) _ ↦ ?_
    apply follows_ite
    · exact fun huser ↦ follows_pure (broughtUp_of_not fun hmay ↦ huser (Option.some.inj hmay.2))
    · intro hroot
      obtain rfl : uid = 0 := not_not.mp hroot
      refine Follows.mono (keeps_setLink hbringup hcommands) ?_ fun _ _ hafter ↦ hafter
      rintro _ after rfl
      exact ⟨rfl, (if_pos ⟨hbringup, rfl⟩).symm⟩

end BringUp

/-! ### The loop -/

section Loop

variable {plan : Plan K F O} {usage : Usage}

/-- From the start of the thread to `stop`. -/
structure InLoop (usage : Usage) : Prop where
  running : usage.Running
  hasBus : usage.hasBus = true
  shut : usage.shut = false

theorem InLoop.unstopped (hin : InLoop usage) : Unstopped usage := ⟨hin.running.2, hin.shut⟩

/-- The record of the message is sent on the socket that was read. -/
theorem keeps_sendRecord {msg : Message} {payload : List UInt8} (hin : InLoop usage)
    (htaken : usage.taken = some msg) (hpayload : frameFromCan msg plan.fd = .ok payload) :
    Keeps plan usage (sendRecord payload) (fun _ ↦ InLoop) fun _ ↦ InLoop := by
  have hhas : usage.taken ≠ none := by
    rw [htaken]
    exact Option.some_ne_none msg
  refine keeps_ask_bind ⟨hin.running, hhas⟩ (fun _ _ ↦ hin) fun (sock : Option ℕ) _ ↦ ?_
  cases sock with
  | none => exact follows_pure ⟨hin.running, hin.hasBus, hin.shut⟩
  | some connection =>
    have hsend : Keeps plan { usage with sock := some connection }
        (ask (.sendall connection payload)) (fun _ ↦ InLoop) fun _ ↦ InLoop :=
      keeps_ask ⟨hin.running, rfl, msg, htaken, hpayload⟩
        (fun _ _ ↦ ⟨hin.running, hin.hasBus, hin.shut⟩)
        fun _ _ ↦ ⟨hin.running, hin.hasBus, hin.shut⟩
    refine follows_tryCatch hsend fun error after hafter ↦ ?_
    cases error with
    | osError => exact follows_pure hafter
    | _ => exact follows_raise hafter

theorem keeps_handleMessage {taken : Option Message} (hin : InLoop usage)
    (htaken : usage.taken = taken) :
    Keeps plan usage (handleMessage plan.fd taken) (fun _ ↦ InLoop) fun _ ↦ InLoop := by
  cases taken with
  | none => exact follows_pure hin
  | some msg =>
    unfold handleMessage
    dsimp only
    cases hpayload : frameFromCan msg plan.fd with
    | error error => exact follows_raise hin
    | ok payload => exact keeps_sendRecord hin htaken hpayload

/-- A pass, with whatever it meets. -/
theorem keeps_canToTcpBody (hin : InLoop usage) (hpolled : usage.polled = true) :
    Keeps plan usage (canToTcpBody plan.fd) (fun _ ↦ InLoop) fun _ ↦ InLoop := by
  have hbody : Keeps plan usage (do
      let msg : Option Message ← ask .busRecv
      handleMessage plan.fd msg
      pure true) (fun _ ↦ InLoop) fun _ ↦ InLoop := by
    refine keeps_ask_bind ⟨hin.running, hpolled⟩ (fun _ _ ↦ ⟨hin.running, hin.hasBus, hin.shut⟩)
      fun (taken : Option Message) _ ↦ ?_
    have hafter : InLoop { usage with polled := false, taken := taken } :=
      ⟨hin.running, hin.hasBus, hin.shut⟩
    exact follows_bind (keeps_handleMessage hafter rfl) fun _ _ hdone ↦ follows_pure hdone
  refine follows_tryCatch hbody fun error after hafter ↦ ?_
  cases error <;> exact follows_pure hafter

theorem keeps_canToTcpLoop (fuel : ℕ) (hin : InLoop usage) :
    Keeps plan usage (canToTcpLoop plan.fd fuel) (fun _ ↦ InLoop) fun _ ↦ InLoop := by
  induction fuel generalizing usage with
  | zero => exact follows_unfinished
  | succ fuel ih =>
    refine keeps_ask_bind hin.running (fun _ _ ↦ hin) fun (stopped : Bool) _ ↦ ?_
    have htested : InLoop (usage.tested stopped) := ⟨hin.running, hin.hasBus, hin.shut⟩
    apply follows_ite
    · exact fun _ ↦ follows_pure htested
    · intro hrunning
      have hpolled : (usage.tested stopped).polled = true := by simpa [Usage.tested] using hrunning
      refine follows_bind (keeps_canToTcpBody htested hpolled) fun goesOn after hafter ↦ ?_
      exact follows_ite (fun _ ↦ ih hafter) fun _ ↦ follows_pure hafter

end Loop

/-! ### The whole program -/

section Main

variable {python : Python K F O} [DecidableEq K]

theorem keeps_startBus (canCfg : Mapping (Key K) (Plain F O)) (fuel : ℕ) :
    Keeps (planFor python canCfg) {} (startBus python canCfg fuel) (fun _ ↦ Unstopped)
      fun _ ↦ Unstopped := by
  refine follows_bind (keeps_bringUpInterface canCfg) fun _ usage hup ↦ ?_
  obtain ⟨hfresh, hcommands⟩ := hup
  generalize usage.uid = uid, usage.commands = commands at hfresh hcommands
  subst hfresh
  refine keeps_ask_bind ⟨⟨rfl, rfl⟩, rfl, rfl, hcommands⟩ (fun _ _ ↦ ⟨rfl, rfl⟩) fun _ _ ↦ ?_
  refine keeps_ask_bind ⟨rfl, rfl, rfl⟩ (fun _ _ ↦ ⟨rfl, rfl⟩) fun _ _ ↦ ?_
  apply follows_ite
  · exact fun _ ↦ follows_raise ⟨rfl, rfl⟩
  · intro _
    refine keeps_ask_bind ⟨rfl, rfl, rfl⟩ (fun _ _ ↦ ⟨rfl, rfl⟩) fun _ _ ↦ ?_
    refine keeps_ask_bind (Or.inr ⟨rfl, rfl⟩) (fun _ _ ↦ ⟨rfl, rfl⟩) fun (bus : Bool) _ ↦ ?_
    apply follows_ite
    · exact fun _ ↦ follows_raise ⟨rfl, rfl⟩
    · exact fun _ ↦ Follows.mono (keeps_canToTcpLoop fuel ⟨⟨rfl, rfl⟩, rfl, rfl⟩)
        (fun _ _ hin ↦ hin.unstopped) fun _ _ hin ↦ hin.unstopped

/-- `start` and the handler around it. -/
theorem keeps_start (cfg : Mapping (Key K) (Plain F O)) (fuel : ℕ) {plan : Plan K F O}
    (hplan : ∀ canCfg, cfg.lookup "can" = some (.mapping canCfg) → plan = planFor python canCfg) :
    Keeps plan {} ((start python cfg fuel).tryCatch fun
      | .keyboardInterrupt => ask .printInterrupted
      | error => .raise error) (fun _ ↦ Unstopped) fun _ ↦ Unstopped := by
  have hstart : Keeps plan {} (start python cfg fuel) (fun _ ↦ Unstopped) fun _ ↦ Unstopped := by
    unfold start
    split
    next canCfg hcan =>
      obtain rfl := hplan canCfg hcan
      exact keeps_startBus canCfg fuel
    · exact follows_raise ⟨rfl, rfl⟩
  refine follows_tryCatch hstart fun error after hbefore ↦ ?_
  cases error with
  | keyboardInterrupt => exact keeps_ask hbefore.stopped (fun _ _ ↦ hbefore) fun _ _ ↦ hbefore
  | _ => exact follows_raise hbefore

theorem keeps_main {file cfg : Mapping (Key K) (Plain F O)}
    (hload : loadConfig python.toConversions file = .ok cfg) (fuel : ℕ) :
    Keeps (planOf python file) {} (main python file fuel) (fun _ ↦ Released) fun error after ↦
      Released after ∨ Interrupted error after := by
  unfold main planOf
  rw [hload]
  refine follows_ensuring (keeps_start cfg fuel fun canCfg hcan ↦ ?_) (fun _ usage hbefore ↦ ?_)
    fun error usage hbefore ↦ ?_
  · simp only [hcan]
  · exact Follows.mono (keeps_stop hbefore) (fun _ _ hafter ↦ hafter) fun _ _ hcut ↦ Or.inr hcut
  · exact Follows.mono (keeps_stop hbefore) (fun _ _ hafter ↦ Or.inl hafter) fun _ _ hcut ↦
      Or.inr hcut

/-- The host, the bus and the other thread, with whatever they do. -/
structure Around (plan : Plan K F O) where
  surroundings : Surroundings (process K F O)
  relied : ∀ history op, (startup plan).relies ((startup plan).usage history)
    ⟨op, surroundings history op⟩

/-- A run has kept the protocol. With settings that cannot be loaded nothing is done. Otherwise,
when the run has ended, however it did, the event is set and the bus is shut down if there was one,
unless a call of `stop` was interrupted. -/
structure Kept (python : Python K F O) (file : Mapping (Key K) (Plain F O))
    (run : List (Event (process K F O)) × Outcome (process K F O) Unit) : Prop where
  obeyed : (startup (planOf python file)).Obeyed run.1
  refused : ∀ error, loadConfig python.toConversions file = .error error →
    run = ([], .raised .exception)
  returned : ∀ value, run.2 = .returned value →
    Released ((startup (planOf python file)).usage run.1)
  raised : ∀ cfg, loadConfig python.toConversions file = .ok cfg → ∀ error, run.2 = .raised error →
    Released ((startup (planOf python file)).usage run.1) ∨
      Interrupted error ((startup (planOf python file)).usage run.1)

/-- A user who interrupts everything that can be interrupted. -/
instance (plan : Plan K F O) : Inhabited (Around plan) where
  default :=
    { surroundings := fun history op ↦
        match op with
        | .selfBus => .ok ((startup plan).usage history).hasBus
        | _ => .error .keyboardInterrupt
      relied := fun _ op ↦ by cases op <;> trivial }

theorem kept_main (python : Python K F O) (file : Mapping (Key K) (Plain F O)) (fuel : ℕ)
    (around : Around (planOf python file)) :
    Kept python file ((main python file fuel).run around.surroundings []) := by
  cases hload : loadConfig python.toConversions file with
  | error refusal =>
    have hrun : (main python file fuel).run around.surroundings [] = ([], .raised .exception) := by
      unfold main
      rw [hload]
      rfl
    rw [hrun]
    refine ⟨fun before event after hsplit ↦ ?_, fun _ _ ↦ rfl, nofun, fun cfg hcfg ↦ ?_⟩
    · exact absurd hsplit
        (List.append_ne_nil_of_right_ne_nil before (List.cons_ne_nil event after)).symm
    · rw [hload] at hcfg
      cases hcfg
  | ok cfg =>
    obtain ⟨hobeyed, houtcome⟩ :=
      follows_sound (keeps_main hload fuel) around.surroundings around.relied
    refine ⟨hobeyed, fun error herror ↦ ?_, fun value hreturned ↦ ?_, fun _ _ error hraised ↦ ?_⟩
    · rw [hload] at herror
      cases herror
    · rw [hreturned] at houtcome
      exact houtcome
    · rw [hraised] at houtcome
      exact houtcome

/-- For every file of settings and every behaviour of the host, the bus and the other thread, `main`
keeps the protocol of its settings, wherever the run stops, and releases what it has when it ends,
and it brings the interface up only if the file says so. -/
theorem main_keeps_startup (python : Python K F O) (file : Mapping (Key K) (Plain F O)) (fuel : ℕ)
    (around : Around (planOf python file)) :
    Kept python file ((main python file fuel).run around.surroundings []) ∧
      ∀ event ∈ ((main python file fuel).run around.surroundings []).1, ∀ cmd,
        event.op = .subprocessRun cmd →
          python.truth (cfgGet (ownCan file) "bringup" (.bool false)) = true := by
  have hkept := kept_main python file fuel around
  refine ⟨hkept, fun event hevent cmd hop ↦ ?_⟩
  obtain ⟨before, after, hsplit⟩ := List.append_of_mem hevent
  have hallowed : Allows (planOf python file) ((startup (planOf python file)).usage before)
      event.op :=
    hkept.obeyed before event after hsplit
  rw [hop] at hallowed
  exact bringup_planOf hallowed.2.1.1

end Main

end CanopenTools.Bridge.MainThread
