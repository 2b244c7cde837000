import CanopenTools.Effects.Accounts
import CanopenTools.Interactive.Console

/-!
# Exceptions in an interactive session

The main loop of `co.py` handles `KeyboardInterrupt` only, and the operations of the menu handle
`Exception` in most places but not in all. `Unguarded` lists the operations that are asked for
outside every handler of an exception, `BeforeTry` those that `main` does before its `try`, where
Ctrl-C is not handled either, and `Refused` the lines on which an unguarded `int` fails. A `Fatal`
event is one of them. Every operation of the menu accounts for its exceptions by fatal events
(`accounts_runOption`): it raises one exactly when a fatal event has happened, and it never
disconnects the network.
-/

set_option autoImplicit false
set_option relaxedAutoImplicit false

namespace CanopenTools.Interactive.Console

open Effects Tools Firmware

/-! ### Fatal events -/

/-- The operations of the tools that are asked for outside every `except Exception`. -/
def ToolUnguarded : Tools.Op → Prop
  | .isfile _ | .remoteNode _ _ | .networkAddNode _ | .networkAddNew _ | .reportError _ => True
  | _ => False

/-- The operations of the session that are asked for outside every `except Exception`. The prompts
of the selection loops, of values, and of two waits for the Enter key are inside. -/
def Unguarded : Op → Prop
  | .input .number | .input .sdoValue | .input .pdoValues | .input .enterInTry => False
  | .input _ | .connect _ _ | .printEstablished | .eventMonitor | .threadStart => True
  | .manualRefresh => True
  | .tool op => ToolUnguarded op
  | .nodesMeta place _ _ => place = .showNodeOdInfo
  | .objectDictionary _ | .formatEntry _ | .subscribedPdos | .subscribedHbs | .tpdo _ _ => True
  | _ => False

/-- The operations between the connection and the `try` of `main`. -/
def BeforeTry : Op → Prop
  | .printEstablished | .eventMonitor | .threadStart => True
  | _ => False

/-- A line on which an `int` outside every handler fails. -/
def Refused : (op : Op) → op.Result → Prop
  | .input .nodeId, line => pyInt line = none
  | .input .baudrate, line => strip line ≠ "" ∧ pyInt (strip line) = none
  | _, _ => False

/-- An exception of an unguarded operation, Ctrl-C before the `try`, or a refused line. -/
def Fatal (event : Event console) : Prop :=
  match event.answer with
  | .error (.exception _) => Unguarded event.op
  | .error .keyboardInterrupt => BeforeTry event.op
  | .ok result => Refused event.op result

/-- The operations of the menu with no lines to refuse, other than the disconnect. -/
def Plain : Op → Prop
  | .input .nodeId | .input .baudrate | .tool .networkDisconnect => False
  | .printEstablished | .eventMonitor | .threadStart => False
  | _ => True

/-- A call of `network.disconnect`, with any outcome. -/
def Disconnects (event : Event console) : Prop := event.op = .tool .networkDisconnect

/-- The line 14 at the main menu. -/
def ChoosesExit : Event console → Prop
  | ⟨.input .mainMenu, .ok line⟩ => strip line = "14"
  | _ => False

/-- What the `except KeyboardInterrupt` of `main` does not handle. -/
def Escaping : PyError → Prop
  | .exception _ => True
  | .keyboardInterrupt => False

/-- A part of the session that raises an exception exactly when something fatal has happened. -/
abbrev Accountable {α : Type} (dialog : Dialog α) : Prop :=
  Accounts Fatal Disconnects Escaping dialog

/-- An operation that is neither fatal nor a disconnect. -/
abbrev Safe (op : Op) : Prop := Effects.Harmless Fatal Disconnects op

/-! ### Rules -/

variable {α : Type} {op : Op}

theorem Plain.not_refused (hplain : Plain op) (result : op.Result) : ¬ Refused op result := by
  intro hrefused
  unfold Refused at hrefused
  split at hrefused
  · exact hplain
  · exact hplain
  · exact hrefused

theorem Plain.not_beforeTry (hplain : Plain op) : ¬ BeforeTry op := by
  intro hbefore
  unfold BeforeTry at hbefore
  split at hbefore
  · exact hplain
  · exact hplain
  · exact hplain
  · exact hbefore

theorem Plain.not_disconnects (hplain : Plain op) (answer : Except PyError op.Result) :
    ¬ Disconnects ⟨op, answer⟩ := by
  rintro rfl
  exact hplain

/-- A plain operation under a handler. -/
theorem uses_ask (hguarded : ¬ Unguarded op) (hplain : Plain op) : (ask op).Uses Safe := by
  refine Program.uses_perform ⟨fun answer ↦ ?_, hplain.not_disconnects⟩
  rcases answer with (message | _) | result
  · exact hguarded
  · exact hplain.not_beforeTry
  · exact hplain.not_refused result

theorem fatal_error_iff (hunguarded : Unguarded op) (hinside : ¬ BeforeTry op) (error : PyError) :
    Fatal ⟨op, .error error⟩ ↔ Escaping error := by
  cases error with
  | exception message => exact iff_of_true hunguarded trivial
  | keyboardInterrupt => exact iff_of_false hinside not_false

/-- A plain operation outside every handler. -/
theorem accounts_ask (hunguarded : Unguarded op) (hplain : Plain op) : Accountable (ask op) :=
  accounts_perform hplain.not_disconnects (fatal_error_iff hunguarded hplain.not_beforeTry)
    hplain.not_refused

theorem accounts_exceptException {body : Dialog α} {handler : PyError → Dialog α}
    (hbody : body.Uses Safe) (hhandler : ∀ error, Accountable (handler error)) :
    Accountable (exceptException body handler) := by
  refine accounts_tryCatch hbody fun error ↦ ?_
  cases error with
  | exception message => exact hhandler _
  | keyboardInterrupt => exact accounts_raise not_false

theorem accounts_attempt {body : Dialog Unit} (hbody : body.Uses Safe) :
    Accountable (attempt body) :=
  accounts_exceptException hbody fun _ ↦ accounts_pure ()

theorem uses_attempt {body : Dialog Unit} (hbody : body.Uses Safe) : (attempt body).Uses Safe := by
  refine Program.uses_tryCatch hbody fun error ↦ ?_
  cases error <;> trivial

theorem int_of_none {text : String} (hnone : pyInt text = none) :
    ∃ error, Escaping error ∧ int text = .raise error := by
  rw [int, hnone]
  refine ⟨_, ?_, rfl⟩
  trivial

theorem accounts_int {text : String} (hsome : pyInt text ≠ none) : Accountable (int text) := by
  obtain ⟨number, hnumber⟩ := Option.ne_none_iff_exists'.mp hsome
  rw [int, hnumber]
  exact accounts_pure number

theorem uses_int (text : String) : (int text).Uses Safe := by
  unfold int
  split <;> trivial

theorem accounts_enter : Accountable enter :=
  accounts_bind (accounts_ask trivial trivial) fun _ ↦ accounts_pure ()

/-! ### The scripts of the menu -/

theorem accounts_typed_bind {β : Type} {script : Script β} {next : β → Script α}
    (hscript : Accountable (typedScript script))
    (hnext : ∀ value, Accountable (typedScript (next value))) :
    Accountable (typedScript (script >>= next)) := by
  rw [typedScript, typed.translate_bind]
  exact accounts_bind hscript hnext

theorem accounts_typed_ask {op : Tools.Op} (hop : Accountable (typedOp op)) :
    Accountable (typedScript (Tools.ask op)) := by
  rw [typedScript, Tools.ask, typed.translate_perform]
  exact hop

theorem accounts_typed_exceptException {body : Script α} {handler : PyError → Script α}
    (hbody : (typedScript body).Uses Safe)
    (hhandler : ∀ error, Accountable (typedScript (handler error))) :
    Accountable (typedScript (Tools.exceptException body handler)) := by
  rw [typedScript, Tools.exceptException, typed.translate_tryCatch]
  refine accounts_tryCatch hbody fun error ↦ ?_
  cases error with
  | exception message => exact hhandler _
  | keyboardInterrupt => exact accounts_raise not_false

/-- What the update asks for is not fatal, since `flash_firmware` handles it. -/
theorem uses_typedOp_of_inUpdate {op : Tools.Op} (hop : InUpdate op) : (typedOp op).Uses Safe := by
  cases op <;> first
    | exact absurd hop not_false
    | exact uses_ask not_false trivial

theorem uses_typedOp_of_inputNumber (op : Tools.Op) (hop : op = .inputNumber) :
    (typedOp op).Uses Safe := by
  subst hop
  exact Program.uses_bind (uses_ask not_false trivial) fun line ↦ uses_int line

/-- A selection loop handles whatever is typed. -/
theorem accounts_select (items : List α) (fuel : ℕ) : Accountable (select items fuel) := by
  induction fuel with
  | zero => exact accounts_unfinished
  | succ fuel ih =>
    have hread : Accountable (typedScript (readChoice items)) := by
      refine accounts_typed_exceptException ?_ fun _ ↦ accounts_pure none
      refine typed.uses_translate uses_typedOp_of_inputNumber ?_
      exact Program.uses_bind (Program.uses_perform rfl) fun _ ↦ trivial
    refine accounts_typed_bind hread fun chosen ↦ ?_
    cases chosen with
    | none => exact ih
    | some item => exact accounts_pure item

theorem uses_select (items : List α) (fuel : ℕ) : (select items fuel).Uses Safe :=
  typed.uses_translate uses_typedOp_of_inputNumber (uses_selectByNumber items fuel)

theorem accounts_chooseNode (nodes : Table) (fuel : ℕ) : Accountable (chooseNode nodes fuel) := by
  unfold chooseNode Interactive.chooseNode
  split_ifs
  · exact accounts_pure none
  · exact accounts_typed_bind (accounts_select _ fuel) fun node ↦ accounts_pure (some node)

/-- `add_node`: an `int` that fails on the typed line is fatal. -/
theorem accounts_addNode (edsFiles : List String) (fuel : ℕ) (nodes : Table) :
    Accountable (addNode edsFiles fuel nodes) := by
  have hnodeId : Accountable (typedOp .inputNodeId) :=
    accounts_perform_bind (fun _ ↦ nofun) (fatal_error_iff trivial not_false)
      (fun _ ↦ int_of_none) fun _ ↦ accounts_int
  refine accounts_typed_bind (accounts_typed_ask hnodeId) fun nodeId ↦ ?_
  refine accounts_typed_bind (accounts_select edsFiles fuel) fun eds ↦ ?_
  refine accounts_typed_bind (accounts_typed_ask ?_) fun node ↦ ?_
  · exact accounts_ask trivial trivial
  refine accounts_typed_bind (accounts_typed_ask ?_) fun _ ↦ accounts_pure _
  exact accounts_ask trivial trivial

/-- `flash_firmware`: the update is in a `try`, what comes before it is not. -/
theorem accounts_flashFirmware (nodes : Table) (fuel : ℕ) :
    Accountable (flashFirmware nodes fuel) := by
  have henter : Accountable (typedScript (Tools.ask .inputEnter)) :=
    accounts_typed_ask accounts_enter
  refine accounts_typed_bind (accounts_chooseNode nodes fuel) fun chosen ↦ ?_
  cases chosen with
  | none => exact henter
  | some node =>
    refine accounts_typed_bind (accounts_typed_ask ?_) fun (binPath : String) ↦ ?_
    · exact accounts_bind (accounts_ask trivial trivial) fun _ ↦ accounts_pure _
    refine accounts_typed_bind (accounts_typed_ask ?_) fun (found : Bool) ↦ ?_
    · exact accounts_ask trivial trivial
    cases found with
    | false => exact henter
    | true =>
      refine accounts_typed_bind (accounts_typed_ask ?_) fun (confirmed : Bool) ↦ ?_
      · exact accounts_bind (accounts_ask trivial trivial)
          fun _ ↦ accounts_pure _
      cases confirmed with
      | false => exact henter
      | true =>
        refine accounts_typed_bind (accounts_typed_ask ?_) fun flashNode ↦ ?_
        · exact accounts_ask trivial trivial
        refine accounts_typed_bind ?_ fun _ ↦ henter
        refine accounts_typed_exceptException ?_ fun error ↦ ?_
        · exact typed.uses_translate (fun op ↦ uses_typedOp_of_inUpdate)
            (uses_updateProgram flashNode binPath fuel)
        · exact accounts_typed_ask (accounts_ask trivial trivial)

/-! ### The other operations -/

/-- `list_od_entries` reads the object dictionary outside every handler. -/
theorem accounts_listOdEntries (node : Node) : Accountable (listOdEntries node) :=
  accounts_bind (accounts_ask trivial trivial) fun _ ↦ accounts_pure _

theorem accounts_chooseOdEntry (node : Node) (fuel : ℕ) : Accountable (chooseOdEntry node fuel) :=
  accounts_bind (accounts_listOdEntries node) fun entries ↦ accounts_select entries fuel

theorem uses_subindexKeys (obj : OdEntry) : (subindexKeys obj).Uses Safe := by
  unfold subindexKeys
  split <;> trivial

theorem uses_forSubindices (obj : OdEntry) {body : ℕ → Dialog Unit}
    (hbody : ∀ sub, (body sub).Uses Safe) : (forSubindices obj body).Uses Safe := by
  refine Program.uses_bind (uses_subindexKeys obj) fun subs ↦ Program.uses_forM fun sub _ ↦ ?_
  exact Program.uses_ite trivial (hbody sub)

theorem uses_forElements {items : List α} {write : ℕ → α → Dialog Unit}
    (hwrite : ∀ sub item, (write sub item).Uses Safe) : (forElements items write).Uses Safe :=
  Program.uses_forM fun item _ ↦ uses_attempt (hwrite (item.2 + 1) item.1)

theorem uses_sdoRaw (node : Node) (index : ℕ) (sub : Option ℕ) :
    (ask (.sdoRaw node index sub)).Uses Safe :=
  uses_ask not_false trivial

theorem uses_sdoAssign (node : Node) (index : ℕ) (sub : Option ℕ) (text : String) :
    (ask (.sdoAssign node index sub text)).Uses Safe :=
  uses_ask not_false trivial

theorem uses_input_sdoValue : (input .sdoValue).Uses Safe :=
  uses_ask not_false trivial

/-- `read_sdo`: past the choice of an entry everything is in a `try`. -/
theorem accounts_readSdo (node : Node) (fuel : ℕ) : Accountable (readSdo node fuel) := by
  refine accounts_bind (accounts_chooseOdEntry node fuel) fun obj ↦ ?_
  refine accounts_bind (accounts_attempt (Program.uses_ite ?_ ?_)) fun _ ↦ accounts_enter
  · exact uses_forSubindices obj fun sub ↦ uses_attempt (uses_sdoRaw node obj.index (some sub))
  · exact uses_sdoRaw node obj.index none

theorem uses_writeArray (node : Node) (obj : OdEntry) : (writeArray node obj).Uses Safe := by
  refine Program.uses_bind uses_input_sdoValue fun line ↦ Program.uses_ite ?_ ?_
  · exact uses_forElements fun _ _ ↦ uses_ask not_false trivial
  · refine uses_forElements fun sub value ↦
      Program.uses_bind (uses_subindexKeys obj) fun subs ↦ ?_
    refine Program.uses_bind ?_ fun _ ↦ uses_sdoAssign node obj.index (some sub) value
    exact Program.uses_ite (uses_sdoRaw node obj.index (some sub)) trivial

theorem uses_writeRecord (node : Node) (obj : OdEntry) : (writeRecord node obj).Uses Safe := by
  refine uses_forSubindices obj fun sub ↦ ?_
  refine Program.uses_bind (uses_attempt (uses_sdoRaw node obj.index (some sub))) fun _ ↦ ?_
  refine Program.uses_bind uses_input_sdoValue fun line ↦ uses_attempt ?_
  exact Program.uses_ite (uses_sdoAssign node obj.index (some sub) line) trivial

theorem uses_writeVariable (node : Node) (obj : OdEntry) : (writeVariable node obj).Uses Safe := by
  have hread := uses_sdoRaw node obj.index none
  refine Program.uses_bind uses_input_sdoValue fun line ↦ Program.uses_bind hread fun _ ↦ ?_
  exact uses_attempt (Program.uses_bind hread fun _ ↦ uses_sdoAssign node obj.index none line)

/-- `write_sdo`: past the choice of an entry everything is in a `try`. -/
theorem accounts_writeSdo (node : Node) (fuel : ℕ) : Accountable (writeSdo node fuel) := by
  refine accounts_bind (accounts_chooseOdEntry node fuel) fun obj ↦ ?_
  refine accounts_bind (accounts_attempt ?_) fun _ ↦ accounts_enter
  refine Program.uses_ite (uses_writeArray node obj) (Program.uses_ite ?_ ?_)
  · exact uses_writeRecord node obj
  · exact uses_writeVariable node obj

theorem accounts_sendNmt (node : Node) (fuel : ℕ) : Accountable (sendNmt node fuel) :=
  accounts_bind (accounts_select nmtCmds fuel) fun _ ↦
    accounts_attempt (uses_ask not_false trivial)

theorem accounts_sendPdo (node : Node) (fuel : ℕ) : Accountable (sendPdo node fuel) := by
  refine accounts_attempt (Program.uses_bind ?_ fun count ↦ Program.uses_ite trivial ?_)
  · exact uses_ask not_false trivial
  refine Program.uses_bind (uses_select _ fuel) fun number ↦ ?_
  refine Program.uses_bind ?_ fun vars ↦ Program.uses_ite trivial ?_
  · exact uses_ask not_false trivial
  refine Program.uses_bind ?_ fun line ↦ Program.uses_ite trivial ?_
  · exact uses_ask not_false trivial
  · exact uses_ask not_false trivial

theorem accounts_subscribeTpdo (node : Node) (fuel : ℕ) :
    Accountable (subscribeTpdo node fuel) := by
  have henter : (input .enterInTry >>= fun _ ↦ (pure () : Dialog Unit)).Uses Safe :=
    Program.uses_bind (uses_ask not_false trivial) fun _ ↦ trivial
  refine accounts_exceptException ?_ fun _ ↦ accounts_enter
  refine Program.uses_bind ?_ fun count ↦ Program.uses_ite henter ?_
  · exact uses_ask not_false trivial
  refine Program.uses_bind (uses_select _ fuel) fun number ↦ ?_
  exact Program.uses_bind (uses_ask not_false trivial) fun _ ↦ henter

theorem accounts_subscribeHeartbeat (node : Node) : Accountable (subscribeHeartbeat node) :=
  accounts_attempt (uses_ask not_false trivial)

/-- `unsubscribe_tpdo`: the look-up of the TPDO is outside the `try`. -/
theorem accounts_unsubscribeTpdo (nodes : Table) (fuel : ℕ) :
    Accountable (unsubscribeTpdo nodes fuel) := by
  refine accounts_bind ?_ fun (current : List (ℤ × ℕ)) ↦ accounts_ite (accounts_pure ()) ?_
  · exact accounts_ask trivial trivial
  refine accounts_bind (accounts_select current fuel) fun chosen ↦ ?_
  split
  · exact accounts_pure ()
  · refine accounts_bind (accounts_ask trivial trivial) fun _ ↦ ?_
    exact accounts_attempt (uses_ask not_false trivial)

theorem accounts_unsubscribeHeartbeat (nodes : Table) (fuel : ℕ) :
    Accountable (unsubscribeHeartbeat nodes fuel) := by
  refine accounts_bind ?_ fun (current : List ℤ) ↦ accounts_ite (accounts_pure ()) ?_
  · exact accounts_ask trivial trivial
  refine accounts_bind (accounts_select current fuel) fun chosen ↦ ?_
  split
  · exact accounts_pure ()
  · exact accounts_attempt (uses_ask not_false trivial)

theorem accounts_showNodeState (nodes : Table) (node : Node) :
    Accountable (showNodeState nodes node) := by
  refine accounts_bind (accounts_attempt ?_) fun _ ↦ accounts_enter
  refine Program.uses_bind (uses_ask not_false trivial) fun _ ↦ ?_
  exact uses_ask nofun trivial

/-- `show_node_od_info` has no `try`. -/
theorem accounts_showNodeOdInfo (nodes : Table) (node : Node) :
    Accountable (showNodeOdInfo nodes node) := by
  refine accounts_bind (accounts_ask rfl trivial) fun _ ↦ ?_
  refine accounts_bind (accounts_listOdEntries node) fun entries ↦ ?_
  refine accounts_bind (accounts_forM fun entry _ ↦ ?_) fun _ ↦ accounts_enter
  exact accounts_ask trivial trivial

theorem accounts_withNode (nodes : Table) (fuel : ℕ) {operation : Node → Dialog Unit}
    (hoperation : ∀ node, Accountable (operation node)) :
    Accountable (withNode nodes fuel operation) := by
  refine accounts_bind (accounts_chooseNode nodes fuel) fun chosen ↦ ?_
  cases chosen with
  | none => exact accounts_pure ()
  | some node => exact hoperation node

theorem accounts_runOperation (fuel : ℕ) (nodes : Table) (op : String) :
    Accountable (runOperation fuel nodes op) := by
  have hwith : ∀ {operation : Node → Dialog Unit}, (∀ node, Accountable (operation node)) →
      Accountable (withNode nodes fuel operation) := accounts_withNode nodes fuel
  refine accounts_ite (hwith fun node ↦ accounts_sendNmt node fuel) ?_
  refine accounts_ite (hwith fun node ↦ accounts_readSdo node fuel) ?_
  refine accounts_ite (hwith fun node ↦ accounts_writeSdo node fuel) ?_
  refine accounts_ite (hwith fun node ↦ accounts_sendPdo node fuel) ?_
  refine accounts_ite (hwith fun node ↦ accounts_subscribeTpdo node fuel) ?_
  refine accounts_ite (hwith accounts_subscribeHeartbeat) ?_
  refine accounts_ite (accounts_unsubscribeTpdo nodes fuel) ?_
  refine accounts_ite (accounts_unsubscribeHeartbeat nodes fuel) ?_
  refine accounts_ite accounts_enter ?_
  refine accounts_ite (hwith (accounts_showNodeState nodes)) ?_
  refine accounts_ite (hwith (accounts_showNodeOdInfo nodes)) ?_
  exact accounts_ite (accounts_flashFirmware nodes fuel) (accounts_pure ())

/-- Every operation of the menu accounts for its exceptions. -/
theorem accounts_runOption (edsFiles : List String) (fuel : ℕ) (nodes : Table) (op : String) :
    Accountable (runOption edsFiles fuel nodes op) := by
  refine accounts_ite (accounts_addNode edsFiles fuel nodes) ?_
  exact accounts_bind (accounts_runOperation fuel nodes op) fun _ ↦ accounts_pure nodes

end CanopenTools.Interactive.Console
