import CanopenTools.Bridge.ConfigMerge
import CanopenTools.Tools.PyText
import Mathlib.Data.Rat.Init

/-!
# The settings of the bridge

`load_config` merges the file of the user with `DEFAULT_CONFIG`, and the readers in `Bridge` fall
back on defaults of their own, `peer_port` on the value of `port`. `read` is what a reader obtains
from a configuration. A setting that the loader fills in reads as the fallback of its reader would,
with one exception: the loader gives `peer_port` a value of its own, so that its fallback is never
used (`loadConfig_agrees_iff`).

The values of a file are those of `yaml.safe_load`. Of floating-point numbers and of the rarer types
of values only the conversions are used, which `Conversions` has as fields.
-/

set_option autoImplicit false
set_option relaxedAutoImplicit false

namespace CanopenTools.Bridge

open Mappings Tools

/-! ### Values -/

/-- A key of a YAML file. `other` is for keys that are not texts. -/
inductive Key (K : Type)
  | str (text : String)
  | other (object : K)
  deriving DecidableEq, Repr

instance (K : Type) : Coe String (Key K) where
  coe := .str

/-- A plain value of a YAML file. `other` is for sequences, dates and the like. -/
inductive Plain (F O : Type)
  | null
  | bool (flag : Bool)
  | int (number : ℤ)
  | float (number : F)
  | str (text : String)
  | other (object : O)
  deriving DecidableEq, Repr

/-- What `int` and `float` raise. -/
inductive ConversionError
  | typeError
  | valueError
  | overflowError
  deriving DecidableEq, Repr

section Settings

variable {K F O : Type}

/-- The conversions of floating-point numbers and of other objects, and the number `2.0`. -/
structure Conversions (K F O : Type) where
  two : F
  floatToInt : F → Except ConversionError ℤ
  otherToInt : O → Except ConversionError ℤ
  toFloat : Entry (Key K) (Plain F O) → Except ConversionError F

/-- `int(value)`. -/
def Conversions.toInt (python : Conversions K F O) :
    Entry (Key K) (Plain F O) → Except ConversionError ℤ
  | .value (.bool flag) => .ok (if flag then 1 else 0)
  | .value (.int number) => .ok number
  | .value (.float number) => python.floatToInt number
  | .value (.str text) =>
    match pyInt text with
    | some number => .ok number
    | none => .error .valueError
  | .value (.other object) => python.otherToInt object
  | .value .null => .error .typeError
  | .mapping _ => .error .typeError

/-! ### Defaults -/

/-- `DEFAULT_CONFIG["can"]`. -/
def defaultCan : Mapping (Key K) (Plain F O) :=
  .value "iface" (.str "vcan0") <|
  .value "bitrate" (.int 250000) <|
  .value "fd" (.bool false) <|
  .value "data_bitrate" (.int 2000000) <|
  .value "brs" (.bool false) <|
  .value "bringup" (.bool false) <|
  .value "restart_ms" (.int 100) .empty

/-- `DEFAULT_CONFIG`. -/
def defaultConfig (python : Conversions K F O) : Config (Key K) (Plain F O) where
  entries :=
    .value "role" (.str "server") <|
    .value "bind_host" (.str "0.0.0.0") <|
    .value "port" (.int 50000) <|
    .value "peer_host" (.str "127.0.0.1") <|
    .value "peer_port" (.int 50000) <|
    .value "tcp_keepalive" (.bool true) <|
    .value "reconnect_delay_sec" (.float python.two) <|
    .node "can" defaultCan .empty
  unique := by simp [Mapping.UniqueKeys, Mapping.keys, defaultCan]

variable [DecidableEq K]

/-- `load_config`, on the mapping of the file. -/
def loadConfig (python : Conversions K F O) (cfg : Mapping (Key K) (Plain F O)) :
    Except AttributeError (Mapping (Key K) (Plain F O)) :=
  merge cfg (defaultConfig python).entries

/-! ### Readers -/

/-- `cfg.get(key, default)`. -/
def cfgGet (cfg : Mapping (Key K) (Plain F O)) (key : String) (default : Plain F O) :
    Entry (Key K) (Plain F O) :=
  (cfg.lookup key).getD (.value default)

/-- The network settings. -/
inductive Setting
  | role
  | bindHost
  | port
  | peerHost
  | peerPort
  | tcpKeepalive
  | reconnectDelaySec
  deriving DecidableEq, Repr

/-- What a reader obtains: an object as it is, or one that has been converted. -/
inductive Reading (K F O : Type)
  | object (entry : Entry (Key K) (Plain F O))
  | number (result : Except ConversionError ℤ)
  | seconds (result : Except ConversionError F)

/-- The expressions of `_tcp_manager`, `_accept_once` and `_connect_once` that read a setting. The
fallback of `peer_port` is an argument, so `port` is read and converted in any case. -/
def read (python : Conversions K F O) (cfg : Mapping (Key K) (Plain F O)) :
    Setting → Reading K F O
  | .role => .object (cfgGet cfg "role" (.str "server"))
  | .bindHost => .object (cfgGet cfg "bind_host" (.str "0.0.0.0"))
  | .port => .number (python.toInt (cfgGet cfg "port" (.int 50000)))
  | .peerHost => .object (cfgGet cfg "peer_host" (.str "127.0.0.1"))
  | .peerPort => .number do
    let port ← python.toInt (cfgGet cfg "port" (.int 50000))
    python.toInt (cfgGet cfg "peer_port" (.int port))
  | .tcpKeepalive => .object (cfgGet cfg "tcp_keepalive" (.bool true))
  | .reconnectDelaySec =>
    .seconds (python.toFloat (cfgGet cfg "reconnect_delay_sec" (.float python.two)))

/-- A configuration whose entry `can`, if there is one, is a mapping. -/
structure UserConfig (K F O : Type) [DecidableEq K] extends Config (Key K) (Plain F O) where
  can_mapping : ∀ plain, entries.lookup "can" ≠ some (.value plain)

/-- The loader does not fail, and every network setting then reads as it would without the loader.
-/
def LoadAgrees (python : Conversions K F O) (cfg : UserConfig K F O) : Prop :=
  ∃ loaded, loadConfig python cfg.entries = .ok loaded ∧
    ∀ setting, read python loaded setting = read python cfg.entries setting

/-! ### What is loaded -/

/-- The default of a key that the loader fills in as it is. -/
theorem cfgGet_loadConfig {python : Conversions K F O} {cfg loaded : Mapping (Key K) (Plain F O)}
    (hload : loadConfig python cfg = .ok loaded) {key : String} {plain : Plain F O}
    (hdefault : (defaultConfig python).entries.lookup key = some (.value plain))
    (fallback : Plain F O) : cfgGet loaded key fallback = cfgGet cfg key plain := by
  have hmerged := merged_lookup (defaultConfig python).unique hload key
  rw [hdefault] at hmerged
  unfold cfgGet
  generalize cfg.lookup key = own, loaded.lookup key = made at hmerged ⊢
  cases hmerged <;> rfl

/-- Inside `can` every default is plain. -/
theorem not_clash_defaultCan (own : Mapping (Key K) (Plain F O)) :
    ¬ Clash (some (.mapping own)) (some (.mapping defaultCan)) := by
  refine not_clash_of_lookup fun key child hlookup ↦ ?_
  simp only [defaultCan, Mapping.lookup] at hlookup
  split_ifs at hlookup <;> cases hlookup

/-- The defaults go on in a mapping only for `can`, where they are plain. -/
theorem not_clash_defaultConfig (python : Conversions K F O) (cfg : UserConfig K F O) :
    ¬ Clash (some (.mapping cfg.entries)) (some (.mapping (defaultConfig python).entries)) := by
  refine not_clash_of_lookup fun key child hlookup ↦ ?_
  have hcan : Key.str "can" = key ∧ defaultCan = child := by
    simp only [defaultConfig, Mapping.lookup] at hlookup
    split_ifs at hlookup with _ _ _ _ _ _ _ hkey <;> cases hlookup
    exact ⟨hkey, rfl⟩
  obtain ⟨rfl, rfl⟩ := hcan
  match hown : cfg.entries.lookup "can" with
  | none => exact not_clash_none_left _
  | some (.value plain) => exact absurd hown (cfg.can_mapping plain)
  | some (.mapping own) => exact not_clash_defaultCan own

/-- The loader does not fail. -/
theorem exists_loadConfig (python : Conversions K F O) (cfg : UserConfig K F O) :
    ∃ loaded, loadConfig python cfg.entries = .ok loaded := by
  cases hload : loadConfig python cfg.entries with
  | ok loaded => exact ⟨loaded, rfl⟩
  | error error =>
    exact absurd ((merge_error_iff (defaultConfig python).unique).mp ⟨error, hload⟩)
      (not_clash_defaultConfig python cfg)

/-- A setting other than `peer_port` reads as it would without the loader. -/
theorem read_loadConfig {python : Conversions K F O} {cfg loaded : Mapping (Key K) (Plain F O)}
    (hload : loadConfig python cfg = .ok loaded) {setting : Setting}
    (hsetting : setting ≠ .peerPort) : read python loaded setting = read python cfg setting := by
  cases setting with
  | role => exact congrArg Reading.object (cfgGet_loadConfig hload rfl _)
  | bindHost => exact congrArg Reading.object (cfgGet_loadConfig hload rfl _)
  | port => exact congrArg (Reading.number ∘ python.toInt) (cfgGet_loadConfig hload rfl _)
  | peerHost => exact congrArg Reading.object (cfgGet_loadConfig hload rfl _)
  | peerPort => exact absurd rfl hsetting
  | tcpKeepalive => exact congrArg Reading.object (cfgGet_loadConfig hload rfl _)
  | reconnectDelaySec =>
    exact congrArg (Reading.seconds ∘ python.toFloat) (cfgGet_loadConfig hload rfl _)

/-- After the loader `peer_port` falls back on 50000, whatever `port` is. -/
theorem read_loadConfig_peerPort {python : Conversions K F O}
    {cfg loaded : Mapping (Key K) (Plain F O)} (hload : loadConfig python cfg = .ok loaded) :
    read python loaded .peerPort =
      .number ((python.toInt (cfgGet cfg "port" (.int 50000))).bind fun _ ↦
        python.toInt (cfgGet cfg "peer_port" (.int 50000))) := by
  have hport : cfgGet loaded "port" (.int 50000) = cfgGet cfg "port" (.int 50000) :=
    cfgGet_loadConfig hload rfl _
  have hpeer (port : ℤ) :
      cfgGet loaded "peer_port" (.int port) = cfgGet cfg "peer_port" (.int 50000) :=
    cfgGet_loadConfig hload rfl _
  simp only [read, hport, hpeer]
  rfl

/-- Without the loader `peer_port` falls back on `port`. These two agree if the configuration has a
`peer_port`, or a `port` that is 50000 or no number. -/
theorem read_peerPort_eq_iff (python : Conversions K F O) (cfg : Mapping (Key K) (Plain F O)) :
    Reading.number (K := K) (F := F) (O := O)
        ((python.toInt (cfgGet cfg "port" (.int 50000))).bind fun _ ↦
          python.toInt (cfgGet cfg "peer_port" (.int 50000))) = read python cfg .peerPort ↔
      cfg.lookup "peer_port" ≠ none ∨
        ∀ number, python.toInt (cfgGet cfg "port" (.int 50000)) = .ok number → number = 50000 := by
  change Reading.number _ = Reading.number ((python.toInt _).bind _) ↔ _
  rw [Reading.number.injEq]
  cases hport : python.toInt (cfgGet cfg "port" (.int 50000)) with
  | error error =>
    refine iff_of_true rfl (Or.inr ?_)
    intro number hnumber
    cases hnumber
  | ok port =>
    cases hpeer : cfg.lookup "peer_port" with
    | some entry =>
      refine iff_of_true ?_ (Or.inl nofun)
      simp only [Except.bind, cfgGet, hpeer, Option.getD_some]
    | none =>
      simp only [Except.bind, cfgGet, hpeer, Option.getD_none, Conversions.toInt]
      simp [eq_comm]

/-- The loader agrees with the readers exactly if the configuration has a `peer_port`, or a `port`
that is 50000 or no number. -/
theorem loadConfig_agrees_iff (python : Conversions K F O) (cfg : UserConfig K F O) :
    LoadAgrees python cfg ↔
      cfg.entries.lookup "peer_port" ≠ none ∨
        ∀ number, python.toInt (cfgGet cfg.entries "port" (.int 50000)) = .ok number →
          number = 50000 := by
  obtain ⟨loaded, hload⟩ := exists_loadConfig python cfg
  have hpeer := read_loadConfig_peerPort hload
  rw [← read_peerPort_eq_iff, ← hpeer]
  constructor
  · rintro ⟨other, hother, hagrees⟩
    obtain rfl := Except.ok.inj (hload.symm.trans hother)
    exact hagrees .peerPort
  · intro hagrees
    refine ⟨loaded, hload, fun setting ↦ ?_⟩
    by_cases hsetting : setting = .peerPort
    · rw [hsetting, hagrees]
    · exact read_loadConfig hload hsetting

/-- A client that is to connect to port 40000. -/
def clientConfig : UserConfig Empty ℚ Empty where
  entries := .value "role" (.str "client") (.value "port" (.int 40000) .empty)
  unique := by simp [Mapping.UniqueKeys, Mapping.keys]
  can_mapping := by simp [Mapping.lookup]

/-- Conversions of numbers that are fractions. -/
def fractions : Conversions Empty ℚ Empty where
  two := 2
  floatToInt number := .ok (number.num.tdiv number.den)
  otherToInt := nofun
  toFloat
    | .value (.int number) => .ok number
    | .value (.float number) => .ok number
    | _ => .error .typeError

/-- The client connects to port 50000, which is the default of `peer_port`. Its own fallback would
be port 40000. -/
theorem not_loadAgrees_clientConfig :
    ¬ LoadAgrees fractions clientConfig ∧
      (∀ loaded, loadConfig fractions clientConfig.entries = .ok loaded →
        read fractions loaded .peerPort = .number (.ok 50000)) ∧
      read fractions clientConfig.entries .peerPort = .number (.ok 40000) := by
  have hown : read fractions clientConfig.entries .peerPort = .number (.ok 40000) := rfl
  have hloaded : ∀ loaded, loadConfig fractions clientConfig.entries = .ok loaded →
      read fractions loaded .peerPort = .number (.ok 50000) := by
    intro loaded hload
    rw [read_loadConfig_peerPort hload]
    rfl
  refine ⟨?_, hloaded, hown⟩
  rintro ⟨loaded, hload, hagrees⟩
  have hsame := hagrees .peerPort
  rw [hloaded loaded hload, hown] at hsame
  cases hsame

end Settings

end CanopenTools.Bridge
