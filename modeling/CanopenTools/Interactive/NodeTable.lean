import CanopenTools.Interactive.Menu
import Mathlib.Data.List.Induction

/-!
# The table of nodes and the network

`co.py` keeps the nodes it has added in the dictionary `nodes`, and python-canopen keeps the nodes
attached to the bus in the network. `networkAfter` is the network after a history: `add_node` with a
node object stores this object under its id, and with an id it makes a new object and stores that.
`InStep` says that every node in the table is the one attached under its key.

`add_node` of the menu keeps the two in step when the node object has the typed id. `flash_firmware`
of the menu attaches a node of its own under the id of the chosen one and never restores it
(`Flashed`). `sessions_inStep_iff` is the result for whole sessions: the two are in step in every
state between two operations exactly when every event is `Harmless`, that is when no flash is
confirmed and every node object made by `add_node` has the typed id.
-/

set_option autoImplicit false
set_option relaxedAutoImplicit false

namespace CanopenTools.Interactive

open Effects Tools Firmware

open Effects.Program (wp_seq wp_perform wp_mono wp_of_uses wp_sound uses_perform uses_bind)

/-! ### The network -/

/-- The nodes attached to the bus, by id. -/
abbrev Network : Type := ℤ → Option Node

/-- Attach a node under its id. A node that was there is detached. -/
def Network.attach (network : Network) (node : Node) : Network :=
  fun id ↦ if id = node.id then some node else network id

/-- What an event does to the network. -/
def networkStep (network : Network) : Event host → Network
  | ⟨.networkAddNode node, .ok _⟩ => network.attach node
  | ⟨.networkAddNew _, .ok node⟩ => network.attach node
  | _ => network

/-- The network after a history. -/
def networkAfter (history : List (Event host)) : Network :=
  history.foldl networkStep fun _ ↦ none

theorem networkAfter_concat (history : List (Event host)) (event : Event host) :
    networkAfter (history ++ [event]) = networkStep (networkAfter history) event := by
  rw [networkAfter, List.foldl_append]
  rfl

/-- Every node is attached under its own id. -/
theorem id_of_networkAfter (history : List (Event host)) {id : ℤ} {node : Node}
    (hnode : networkAfter history id = some node) : node.id = id := by
  induction history using List.reverseRecOn with
  | nil => exact absurd hnode (by simp [networkAfter])
  | append_singleton history event ih =>
    rw [networkAfter_concat] at hnode
    have hattach : ∀ other, (networkAfter history).attach other id = some node → node.id = id := by
      intro other hother
      unfold Network.attach at hother
      split_ifs at hother with hid
      · rw [hid, Option.some.inj hother]
      · exact ih hother
    unfold networkStep at hnode
    split at hnode
    · exact hattach _ hnode
    · exact hattach _ hnode
    · exact ih hnode

/-- What python-canopen makes of a call: a node object that is not attached yet, and with the given
id when a network makes it. -/
def FreshNode (history : List (Event host)) : Event host → Prop
  | ⟨.remoteNode _ _, .ok node⟩ => ∀ id, networkAfter history id ≠ some node
  | ⟨.networkAddNew nodeId, .ok node⟩ =>
    Node.id node = nodeId ∧ ∀ id, networkAfter history id ≠ some node
  | _ => True

/-- Surroundings with python-canopen in them. -/
structure Library where
  surroundings : Surroundings host
  freshNode : ∀ history op, FreshNode history ⟨op, surroundings history op⟩

/-- The menu relies on python-canopen and guards nothing. -/
def menuContract : Contract host where
  rely := FreshNode
  guard := fun _ _ ↦ True

theorem Library.keeps (library : Library) : library.surroundings.Keeps menuContract :=
  library.freshNode

/-! ### Sessions -/

/-- The state between two menu operations: the table and everything that has happened. -/
structure Session where
  nodes : Table
  history : List (Event host)

/-- The states between the operations of the main loop, for the options that the user chooses. -/
def sessions (library : Library) (edsFiles : List String) (fuel : ℕ) :
    List MenuOption → Session → List Session
  | [], session => [session]
  | option :: options, session =>
    session ::
      match (runOption edsFiles fuel session.nodes option).run library.surroundings
        session.history with
      | (history, .returned nodes) => sessions library edsFiles fuel options ⟨nodes, history⟩
      | _ => []

/-- Every node of the table is attached to the bus under its key. -/
def InStep (session : Session) : Prop :=
  ∀ entry ∈ session.nodes, networkAfter session.history entry.1 = some entry.2

/-- An event that keeps the table and the network in step: the user does not confirm a flash, and
the node object that `add_node` makes has the typed id. -/
def Harmless : Event host → Prop
  | ⟨.inputYes, .ok answer⟩ => answer = false
  | ⟨.remoteNode nodeId _, .ok node⟩ => Node.id node = nodeId
  | _ => True

/-! ### What the operations do -/

/-- What has happened since a point of the history: the network that it led to, and the condition
under which all of it was harmless. -/
structure Since (start history : List (Event host)) (network : Network) (harmless : Prop) :
    Prop where
  networkAfter_eq : networkAfter history = network
  harmless_iff : ∃ more, history = start ++ more ∧ ((∀ event ∈ more, Harmless event) ↔ harmless)

section Operations

variable {start history : List (Event host)} {network : Network} {harmless : Prop}

theorem since_start (start : List (Event host)) : Since start start (networkAfter start) True :=
  ⟨rfl, [], (List.append_nil start).symm, by simp⟩

theorem Since.congr {harmless' : Prop} (hsince : Since start history network harmless)
    (hiff : harmless ↔ harmless') : Since start history network harmless' := by
  obtain ⟨hnetwork, more, hmore, hharmless⟩ := hsince
  exact ⟨hnetwork, more, hmore, hharmless.trans hiff⟩

/-- One more event. -/
theorem Since.concat (hsince : Since start history network harmless) (event : Event host) :
    Since start (history ++ [event]) (networkStep network event)
      (harmless ∧ Harmless event) := by
  obtain ⟨hnetwork, more, rfl, hharmless⟩ := hsince
  refine ⟨by rw [networkAfter_concat, hnetwork], more ++ [event], by rw [List.append_assoc], ?_⟩
  rw [List.forall_mem_append, List.forall_mem_singleton, hharmless]

/-- Operations that attach nothing and are harmless. -/
def Idle : Op → Prop
  | .networkAddNode _ | .networkAddNew _ | .inputYes | .remoteNode _ _ => False
  | _ => True

theorem Since.idle (hsince : Since start history network harmless) {event : Event host}
    (hidle : Idle event.op) : Since start (history ++ [event]) network harmless := by
  obtain ⟨op, answer⟩ := event
  have hboth : networkStep network ⟨op, answer⟩ = network ∧ Harmless ⟨op, answer⟩ := by
    cases op <;> first | exact absurd hidle not_false | exact ⟨rfl, trivial⟩
  have hconcat := hsince.concat ⟨op, answer⟩
  rwa [hboth.1, and_iff_left hboth.2] at hconcat

/-- An idle program leaves everything as it is. -/
theorem Since.wp_uses (hsince : Since start history network harmless) {α : Type}
    {program : Script α} (huses : program.Uses Idle) :
    program.wp menuContract (fun _ after ↦ Since start after network harmless)
      (fun _ after ↦ Since start after network harmless) history :=
  wp_of_uses huses (fun _ _ _ _ ↦ trivial) (fun _ _ hop _ hbefore ↦ hbefore.idle hop) hsince

theorem idle_of_inUpdate (op : Op) (hop : InUpdate op) : Idle op := by
  cases op <;> first | exact absurd hop not_false | trivial

theorem uses_chooseEds (edsFiles : List String) (fuel : ℕ) :
    (chooseEds edsFiles fuel).Uses Idle :=
  (uses_selectByNumber edsFiles fuel).mono fun _ hop ↦ hop ▸ trivial

/-- `add_node` attaches the node object that it puts in the table. -/
theorem wp_addNode (edsFiles : List String) (fuel : ℕ) (nodes : Table) :
    (addNode edsFiles fuel nodes).wp menuContract
      (fun after history ↦ ∃ nodeId node, after = nodes.set nodeId node ∧
        (∀ id, networkAfter start id ≠ some node) ∧
        Since start history ((networkAfter start).attach node) (node.id = nodeId))
      (fun _ _ ↦ True) start := by
  have hinput : (ask .inputNodeId).wp menuContract
      (fun _ after ↦ Since start after (networkAfter start) True) (fun _ _ ↦ True) start :=
    wp_perform trivial (fun _ _ ↦ (since_start start).idle trivial) fun _ _ ↦ trivial
  refine wp_seq hinput fun nodeId history hsince ↦ ?_
  refine wp_seq (wp_mono (fun _ _ h ↦ h) (fun _ _ _ ↦ trivial)
    (hsince.wp_uses (uses_chooseEds edsFiles fuel)))
    fun eds history hsince ↦ ?_
  have hmake : (ask (.remoteNode nodeId eds)).wp menuContract
      (fun node after ↦ (∀ id, networkAfter start id ≠ some node) ∧
        Since start after (networkAfter start) (Node.id node = nodeId))
      (fun _ _ ↦ True) history := by
    refine wp_perform trivial (fun node hfresh ↦ ⟨?_, ?_⟩) fun _ _ ↦ trivial
    · exact hsince.networkAfter_eq ▸ hfresh
    · exact (hsince.concat ⟨.remoteNode nodeId eds, .ok node⟩).congr (iff_of_eq (true_and _))
  refine wp_seq hmake fun node history hmade ↦ ?_
  exact wp_seq (wp_perform trivial (fun _ _ ↦ (hmade.2.concat ⟨.networkAddNode node, .ok ()⟩).congr
    (and_iff_left trivial)) fun _ _ ↦ trivial)
    fun _ history hadded ↦ ⟨nodeId, node, rfl, hmade.1, hadded⟩

/-- What a completed `flash_firmware` has done: nothing to the network, or it has attached a new
node under the id of a node of the table, for which the user confirmed the flash. -/
def Flashed (nodes : Table) (start history : List (Event host)) : Prop :=
  Since start history (networkAfter start) True ∨
    ∃ node ∈ nodes.map Prod.snd, ∃ flashNode : Node, flashNode.id = node.id ∧
      (∀ id, networkAfter start id ≠ some flashNode) ∧
      Since start history ((networkAfter start).attach flashNode) False

/-- Past the confirmation, the node of the flash is attached and stays attached. -/
theorem wp_flashConfirmed (node : Node) (binPath : String) (fuel : ℕ)
    (hsince : Since start history (networkAfter start) False) :
    (flashConfirmed node binPath fuel).wp menuContract
      (fun _ after ↦ ∃ flashNode : Node, flashNode.id = node.id ∧
        (∀ id, networkAfter start id ≠ some flashNode) ∧
        Since start after ((networkAfter start).attach flashNode) False)
      (fun _ _ ↦ True) history := by
  have hadd : (ask (.networkAddNew node.id)).wp menuContract
      (fun flashNode after ↦ Node.id flashNode = node.id ∧
        (∀ id, networkAfter start id ≠ some flashNode) ∧
        Since start after ((networkAfter start).attach flashNode) False)
      (fun _ _ ↦ True) history := by
    refine wp_perform trivial (fun flashNode hfresh ↦ ⟨hfresh.1, ?_, ?_⟩) fun _ _ ↦ trivial
    · exact hsince.networkAfter_eq ▸ hfresh.2
    · exact (hsince.concat ⟨.networkAddNew node.id, .ok flashNode⟩).congr (iff_of_eq (false_and _))
  refine wp_seq hadd fun flashNode history hadded ↦ ?_
  obtain ⟨hid, hfresh, hattached⟩ := hadded
  have hrest : (do
      exceptException (updateProgram flashNode binPath fuel) fun error ↦ ask (.reportError error)
      ask .inputEnter).Uses Idle :=
    uses_bind (uses_exceptException ((uses_updateProgram flashNode binPath fuel).mono
      idle_of_inUpdate) fun _ ↦ uses_perform trivial) fun _ ↦ uses_perform trivial
  exact wp_mono (fun _ _ hafter ↦ ⟨flashNode, hid, hfresh, hafter⟩) (fun _ _ _ ↦ trivial)
    (hattached.wp_uses hrest)

/-- A selection loop returns one of its items. -/
theorem wp_selectByNumber {α : Type} (items : List α) (fuel : ℕ)
    (hsince : Since start history network harmless) :
    (selectByNumber items fuel).wp menuContract
      (fun item after ↦ item ∈ items ∧ Since start after network harmless)
      (fun _ _ ↦ True) history := by
  induction fuel generalizing history with
  | zero => trivial
  | succ fuel ih =>
    have hchoice : (readChoice items).wp menuContract
        (fun chosen after ↦ (∀ item, chosen = some item → item ∈ items) ∧
          Since start after network harmless) (fun _ _ ↦ True) history := by
      refine wp_exceptException (fun after ↦ Since start after network harmless) ?_
        (fun _ _ hafter ↦ ⟨fun item hitem ↦ absurd hitem (Option.some_ne_none item).symm, hafter⟩)
        fun _ _ ↦ trivial
      have hnumber : (ask .inputNumber).wp menuContract
          (fun _ after ↦ Since start after network harmless)
          (fun _ after ↦ Since start after network harmless) history :=
        wp_perform trivial (fun _ _ ↦ hsince.idle trivial) fun _ _ ↦ hsince.idle trivial
      refine wp_seq hnumber fun (choice : ℤ) after hafter ↦ ⟨fun item hitem ↦ ?_, hafter⟩
      split_ifs at hitem
      exact List.mem_of_getElem? hitem
    refine wp_seq hchoice fun chosen history hchosen ↦ ?_
    cases chosen with
    | none => exact ih hchosen.2
    | some item => exact ⟨hchosen.1 item rfl, hchosen.2⟩

/-- A chosen node is one of the table, and nothing but asking the user was done. -/
theorem wp_chooseNode_since (nodes : Table) (fuel : ℕ) :
    (chooseNode nodes fuel).wp menuContract
      (fun chosen after ↦ (∀ node, chosen = some node → node ∈ nodes.map Prod.snd) ∧
        Since start after (networkAfter start) True) (fun _ _ ↦ True) start := by
  unfold chooseNode
  split_ifs
  · exact ⟨fun node hnode ↦ absurd hnode (Option.some_ne_none node).symm, since_start start⟩
  · refine wp_seq (wp_selectByNumber _ fuel (since_start start)) fun node history hnode ↦ ?_
    exact ⟨fun other hother ↦ Option.some.inj hother ▸ hnode.1, hnode.2⟩

/-- What a completed `flash_firmware` has done. -/
theorem wp_flashFirmware (nodes : Table) (fuel : ℕ) :
    (flashFirmware nodes fuel).wp menuContract (fun _ ↦ Flashed nodes start)
      (fun _ _ ↦ True) start := by
  have hask : ∀ {op history}, Idle op → Since start history (networkAfter start) True →
      (ask op).wp menuContract (fun _ after ↦ Since start after (networkAfter start) True)
        (fun _ _ ↦ True) history := fun hidle hsince ↦
    wp_perform trivial (fun _ _ ↦ hsince.idle hidle) fun _ _ ↦ trivial
  have henter : ∀ {history}, Since start history (networkAfter start) True →
      (ask .inputEnter).wp menuContract (fun _ ↦ Flashed nodes start) (fun _ _ ↦ True)
        history := fun hsince ↦
    wp_mono (fun _ _ hafter ↦ Or.inl hafter) (fun _ _ _ ↦ trivial) (hask trivial hsince)
  refine wp_seq (wp_chooseNode_since nodes fuel) fun chosen history hchosen ↦ ?_
  obtain ⟨hmem, hsince⟩ := hchosen
  cases chosen with
  | none => exact henter hsince
  | some node =>
    refine wp_seq (hask trivial hsince) fun (binPath : String) history hsince ↦ ?_
    refine wp_seq (hask trivial hsince) fun (found : Bool) history hsince ↦ ?_
    cases found with
    | false => exact henter hsince
    | true =>
      have hconfirm : (ask .inputYes).wp menuContract
          (fun answer after ↦ Since start after (networkAfter start) (answer = false))
          (fun _ _ ↦ True) history :=
        wp_perform trivial (fun answer _ ↦
          (hsince.concat ⟨.inputYes, .ok answer⟩).congr (iff_of_eq (true_and _))) fun _ _ ↦ trivial
      refine wp_seq hconfirm fun (confirmed : Bool) history hsince ↦ ?_
      cases confirmed with
      | false => exact henter (hsince.congr (iff_true_intro rfl))
      | true =>
        have hflash := wp_flashConfirmed node binPath fuel
          (hsince.congr (iff_false_intro Bool.noConfusion))
        exact wp_mono (fun _ _ hafter ↦ Or.inr ⟨node, hmem node rfl, hafter⟩)
          (fun _ _ _ ↦ trivial) hflash

end Operations

/-! ### The table and the network -/

/-- A new node attached under its id keeps the table in step exactly when it is also put in the
table under its id. -/
theorem inStep_set_iff {nodes : Table} {start history : List (Event host)}
    (hstart : InStep ⟨nodes, start⟩) {nodeId : ℤ} {node : Node}
    (hfresh : ∀ id, networkAfter start id ≠ some node)
    (hnetwork : networkAfter history = (networkAfter start).attach node) :
    InStep ⟨nodes.set nodeId node, history⟩ ↔ node.id = nodeId := by
  unfold InStep
  rw [hnetwork]
  constructor
  · intro hstep
    have hentry := hstep (nodeId, node) ((nodes.mem_set nodeId node _).mpr (Or.inl rfl))
    by_contra hother
    rw [Network.attach, if_neg (Ne.symm hother)] at hentry
    exact hfresh nodeId hentry
  · rintro rfl entry hentry
    rcases (nodes.mem_set node.id node entry).mp hentry with rfl | ⟨hold, hkey⟩
    · exact if_pos rfl
    · rw [Network.attach, if_neg hkey]
      exact hstart entry hold

/-- A new node attached under the id of a node of the table is never in step with the table. -/
theorem not_inStep_replaced {nodes : Table} {start history : List (Event host)}
    (hstart : InStep ⟨nodes, start⟩) {node flashNode : Node}
    (hnode : node ∈ nodes.map Prod.snd) (hid : flashNode.id = node.id)
    (hfresh : ∀ id, networkAfter start id ≠ some flashNode)
    (hnetwork : networkAfter history = (networkAfter start).attach flashNode) :
    ¬ InStep ⟨nodes, history⟩ := by
  obtain ⟨⟨key, other⟩, hentry, rfl⟩ := List.mem_map.mp hnode
  intro hstep
  have hbefore : networkAfter start key = some other := hstart _ hentry
  have hkey : key = flashNode.id := (hid.trans (id_of_networkAfter start hbefore)).symm
  have hafter : networkAfter history key = some other := hstep _ hentry
  rw [hnetwork, Network.attach, if_pos hkey, Option.some.injEq] at hafter
  exact hfresh key (hafter ▸ hbefore)

/-- One completed operation keeps the table and the network in step exactly when everything that it
did was harmless. -/
theorem inStep_step_iff (library : Library) {edsFiles : List String} {fuel : ℕ}
    {option : MenuOption} {session : Session} {nodes : Table} {history : List (Event host)}
    (hrun : (runOption edsFiles fuel session.nodes option).run library.surroundings
      session.history = (history, .returned nodes))
    (hstart : InStep session) (hharmless : ∀ event ∈ session.history, Harmless event) :
    InStep ⟨nodes, history⟩ ↔ ∀ event ∈ history, Harmless event := by
  have hall : ∀ {network harmless}, Since session.history history network harmless →
      ((∀ event ∈ history, Harmless event) ↔ harmless) := by
    rintro network harmless ⟨-, more, rfl, hmore⟩
    rw [List.forall_mem_append, hmore]
    exact and_iff_right hharmless
  have hsound : ∀ {returns : Table → List (Event host) → Prop},
      (runOption edsFiles fuel session.nodes option).wp menuContract returns (fun _ _ ↦ True)
        session.history → returns nodes history := by
    intro returns hwp
    have hend := (wp_sound library.keeps hwp).2
    rwa [hrun] at hend
  have hquiet : Since session.history history (networkAfter session.history) True →
      (InStep ⟨session.nodes, history⟩ ↔ ∀ event ∈ history, Harmless event) := by
    intro hsince
    rw [hall hsince]
    exact iff_true_intro fun entry hentry ↦ hsince.networkAfter_eq ▸ hstart entry hentry
  cases option with
  | addNode =>
    obtain ⟨nodeId, node, rfl, hfresh, hsince⟩ := hsound (wp_addNode edsFiles fuel session.nodes)
    rw [hall hsince]
    exact inStep_set_iff hstart hfresh hsince.networkAfter_eq
  | flashFirmware =>
    have hwp : (runOption edsFiles fuel session.nodes .flashFirmware).wp menuContract
        (fun after history ↦ after = session.nodes ∧
          Flashed session.nodes session.history history) (fun _ _ ↦ True) session.history :=
      wp_seq (wp_flashFirmware session.nodes fuel) fun _ _ hflashed ↦ ⟨rfl, hflashed⟩
    obtain ⟨rfl, hflashed⟩ := hsound hwp
    rcases hflashed with hsince | ⟨node, hnode, flashNode, hid, hfresh, hsince⟩
    · exact hquiet hsince
    · rw [hall hsince, iff_false]
      exact not_inStep_replaced hstart hnode hid hfresh hsince.networkAfter_eq
  | other =>
    have hask : (ask .menuOther).wp menuContract
        (fun _ after ↦ Since session.history after (networkAfter session.history) True)
        (fun _ _ ↦ True) session.history :=
      wp_perform trivial (fun _ _ ↦ (since_start session.history).idle trivial) fun _ _ ↦ trivial
    have hwp : (runOption edsFiles fuel session.nodes .other).wp menuContract
        (fun after history ↦ after = session.nodes ∧
          Since session.history history (networkAfter session.history) True)
        (fun _ _ ↦ True) session.history :=
      wp_seq hask fun _ _ hsince ↦ ⟨rfl, hsince⟩
    obtain ⟨rfl, hsince⟩ := hsound hwp
    exact hquiet hsince

theorem mem_sessions_self (library : Library) (edsFiles : List String) (fuel : ℕ)
    (options : List MenuOption) (session : Session) :
    session ∈ sessions library edsFiles fuel options session := by
  cases options <;> exact List.mem_cons_self

/-- From a session in step and without harm, the table and the network are in step in every state
exactly when every event is harmless. -/
theorem sessions_inStep_iff_of_inStep (library : Library) (edsFiles : List String) (fuel : ℕ)
    (options : List MenuOption) {session : Session} (hstart : InStep session)
    (hharmless : ∀ event ∈ session.history, Harmless event) :
    (∀ reached ∈ sessions library edsFiles fuel options session, InStep reached) ↔
      ∀ reached ∈ sessions library edsFiles fuel options session,
        ∀ event ∈ reached.history, Harmless event := by
  induction options generalizing session with
  | nil =>
    rw [sessions, List.forall_mem_singleton, List.forall_mem_singleton]
    exact iff_of_true hstart hharmless
  | cons option options ih =>
    rw [sessions, List.forall_mem_cons, List.forall_mem_cons, and_iff_right hstart,
      and_iff_right hharmless]
    split
    · rename_i history nodes hrun
      have hiff := inStep_step_iff library hrun hstart hharmless
      by_cases hstep : InStep ⟨nodes, history⟩
      · exact ih hstep (hiff.mp hstep)
      · have hmem := mem_sessions_self library edsFiles fuel options ⟨nodes, history⟩
        exact iff_of_false (fun hall ↦ hstep (hall _ hmem))
          fun hall ↦ hstep (hiff.mpr (hall _ hmem))
    · simp

/-- In every state of a session between two menu operations, every node of the table is the one that
the network has under its key, exactly when no flash is confirmed and every node object that
`add_node` makes has the typed id. -/
theorem sessions_inStep_iff (library : Library) (edsFiles : List String) (fuel : ℕ)
    (options : List MenuOption) :
    (∀ reached ∈ sessions library edsFiles fuel options ⟨[], []⟩, InStep reached) ↔
      ∀ reached ∈ sessions library edsFiles fuel options ⟨[], []⟩,
        ∀ event ∈ reached.history, Harmless event :=
  sessions_inStep_iff_of_inStep library edsFiles fuel options
    (fun _ hentry ↦ absurd hentry List.not_mem_nil) fun _ hevent ↦ absurd hevent List.not_mem_nil

/-! ### A flash takes a node off the bus -/

/-- The node object that python-canopen makes for an id in `obliging`. -/
def newNode (history : List (Event host)) (nodeId : ℤ) : Except PyError Node :=
  if networkAfter history nodeId = some ⟨history.length, nodeId⟩ then .error (.exception "attached")
  else .ok ⟨history.length, nodeId⟩

theorem fresh_newNode {history : List (Event host)} {nodeId : ℤ} {node : Node}
    (hnode : newNode history nodeId = .ok node) :
    node.id = nodeId ∧ ∀ id, networkAfter history id ≠ some node := by
  unfold newNode at hnode
  split_ifs at hnode with hattached
  obtain rfl := Except.ok.inj hnode
  refine ⟨rfl, fun id hid ↦ hattached ?_⟩
  obtain rfl := id_of_networkAfter history hid
  exact hid

/-- A bus and a user for which everything goes well: the user types 5 for a node id, takes the first
item of every selection and confirms, and the device answers every read with zero. -/
def obliging (history : List (Event host)) : (op : Op) → Except PyError op.Result
  | .inputPath => .ok "firmware.bin"
  | .inputYes | .isfile _ => .ok true
  | .inputNodeId => .ok (5 : ℤ)
  | .inputNumber => .ok (1 : ℤ)
  | .getsize _ | .sdoRead _ _ _ => .ok (0 : ℕ)
  | .time => .ok (0 : ℚ)
  | .fileRead _ _ => .ok []
  | .remoteNode nodeId _ | .networkAddNew nodeId => newNode history nodeId
  | .inputEnter | .menuOther | .fileOpen _ | .fileClose | .sleep _ | .networkConnect _ _
  | .networkDisconnect | .networkAddNode _ | .sdoWrite _ _ _ _ | .setPreOperational _
  | .waitForBootup _ _ | .streamOpen _ _ _ _ _ | .streamWrite _ | .streamClose | .reportSuccess
  | .reportError _ => .ok ()

theorem freshNode_obliging (history : List (Event host)) (op : Op) :
    FreshNode history ⟨op, obliging history op⟩ := by
  cases op with
  | remoteNode nodeId eds =>
    change FreshNode history ⟨.remoteNode nodeId eds, newNode history nodeId⟩
    cases hnode : newNode history nodeId with
    | ok node => exact (fresh_newNode hnode).2
    | error error => trivial
  | networkAddNew nodeId =>
    change FreshNode history ⟨.networkAddNew nodeId, newNode history nodeId⟩
    cases hnode : newNode history nodeId with
    | ok node => exact fresh_newNode hnode
    | error error => trivial
  | _ => trivial

def obligingLibrary : Library where
  surroundings := obliging
  freshNode := freshNode_obliging

instance : DecidablePred InStep := fun session ↦
  inferInstanceAs (Decidable (∀ entry ∈ session.nodes,
    networkAfter session.history entry.1 = some entry.2))

/-- Node 5 is added and flashed: the table keeps the node object that the flash took off the bus. -/
theorem sessions_flash_not_inStep :
    ¬ ∀ reached ∈ sessions obligingLibrary ["device.eds"] 3 [.addNode, .flashFirmware] ⟨[], []⟩,
      InStep reached := by
  decide

end CanopenTools.Interactive
