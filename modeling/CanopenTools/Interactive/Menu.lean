import CanopenTools.Firmware.Update

/-!
# The menu of the interactive tool

The operations of `co.py` that write to the table `nodes` or to the network, with the selection
loops they go through: `add_node` and `flash_firmware`. The table is a Python dictionary, a list of
entries in the order of their first insertion. The other operations of the menu only read the table
and never call `network.add_node`; they are one operation here.

`runOption` is one pass of the main loop. An exception that is not handled in the operation ends the
loop, so a pass goes on only when its operation returns.
-/

set_option autoImplicit false
set_option relaxedAutoImplicit false

namespace CanopenTools.Interactive

open Effects Tools Firmware

/-! ### Selection loops -/

/-- The `try` of a selection loop: the item with the chosen number, or none for a number out of
range and for every exception. -/
def readChoice {α : Type} (items : List α) : Script (Option α) :=
  exceptException (do
    let choice : ℤ ← ask .inputNumber
    pure (if 1 ≤ choice then items[(choice - 1).toNat]? else none)) fun _ ↦ pure none

/-- The selection loop of `choose_eds` and `choose_node`. -/
def selectByNumber {α : Type} (items : List α) : ℕ → Script α
  | 0 => .unfinished
  | fuel + 1 => do
    match ← readChoice items with
    | some item => pure item
    | none => selectByNumber items fuel

/-- `choose_eds`. -/
def chooseEds (edsFiles : List String) (fuel : ℕ) : Script String := selectByNumber edsFiles fuel

/-! ### The table of nodes -/

/-- The dictionary `nodes`. -/
abbrev Table : Type := List (ℤ × Node)

/-- `table[key] = node`: a key that is there keeps its place. -/
def Table.set (table : Table) (key : ℤ) (node : Node) : Table :=
  if key ∈ table.map Prod.fst then
    table.map fun entry ↦ if entry.1 = key then (key, node) else entry
  else table ++ [(key, node)]

/-- After an assignment the table has the new entry and the entries of the other keys. -/
theorem Table.mem_set (table : Table) (key : ℤ) (node : Node) (entry : ℤ × Node) :
    entry ∈ table.set key node ↔ entry = (key, node) ∨ (entry ∈ table ∧ entry.1 ≠ key) := by
  unfold Table.set
  split_ifs with hkey
  · rw [List.mem_map]
    constructor
    · rintro ⟨other, hother, rfl⟩
      split_ifs with hsame
      · exact Or.inl rfl
      · exact Or.inr ⟨hother, hsame⟩
    · rintro (rfl | ⟨hentry, hother⟩)
      · obtain ⟨old, hold, hsame⟩ := List.mem_map.mp hkey
        exact ⟨old, hold, if_pos hsame⟩
      · exact ⟨entry, hentry, if_neg hother⟩
  · have hfresh : entry ∈ table → entry.1 ≠ key := fun hentry hsame ↦
      hkey (List.mem_map.mpr ⟨entry, hentry, hsame⟩)
    rw [List.mem_append, List.mem_singleton, or_comm]
    exact or_congr_right ⟨fun hentry ↦ ⟨hentry, hfresh hentry⟩, And.left⟩

/-- `choose_node`. -/
def chooseNode (nodes : Table) (fuel : ℕ) : Script (Option Node) :=
  if nodes = [] then pure none
  else do
    let node ← selectByNumber (nodes.map Prod.snd) fuel
    pure (some node)

/-- A selection loop asks for numbers only. -/
theorem uses_selectByNumber {α : Type} (items : List α) (fuel : ℕ) :
    (selectByNumber items fuel).Uses fun op ↦ op = Op.inputNumber := by
  induction fuel with
  | zero => trivial
  | succ fuel ih =>
    refine Program.uses_bind (Program.uses_tryCatch ?_ fun error ↦ ?_) fun chosen ↦ ?_
    · exact Program.uses_bind (Program.uses_perform rfl) fun _ ↦ trivial
    · cases error <;> trivial
    · cases chosen with
      | none => exact ih
      | some item => trivial

theorem uses_chooseNode (nodes : Table) (fuel : ℕ) :
    (chooseNode nodes fuel).Uses fun op ↦ op = Op.inputNumber := by
  unfold chooseNode
  split_ifs
  · trivial
  · exact Program.uses_bind (uses_selectByNumber _ fuel) fun _ ↦ trivial

/-! ### The operations -/

/-- `add_node`. -/
def addNode (edsFiles : List String) (fuel : ℕ) (nodes : Table) : Script Table := do
  let nodeId : ℤ ← ask .inputNodeId
  let eds ← chooseEds edsFiles fuel
  let node : Node ← ask (.remoteNode nodeId eds)
  ask (.networkAddNode node)
  pure (nodes.set nodeId node)

/-- `flash_firmware` of `co.py` past the confirmation. -/
def flashConfirmed (node : Node) (binPath : String) (fuel : ℕ) : Script Unit := do
  let flashNode : Node ← ask (.networkAddNew node.id)
  exceptException (updateProgram flashNode binPath fuel) fun error ↦ ask (.reportError error)
  ask .inputEnter

/-- `flash_firmware` of `co.py`. -/
def flashFirmware (nodes : Table) (fuel : ℕ) : Script Unit := do
  match ← chooseNode nodes fuel with
  | none => ask .inputEnter
  | some node => do
    let binPath : String ← ask .inputPath
    let found : Bool ← ask (.isfile binPath)
    if !found then ask .inputEnter
    else do
      let confirmed : Bool ← ask .inputYes
      if !confirmed then ask .inputEnter else flashConfirmed node binPath fuel

/-- The options of the main menu. -/
inductive MenuOption
  | addNode
  | flashFirmware
  | other
  deriving DecidableEq, Repr

/-- One pass of the main loop, with the table after it. -/
def runOption (edsFiles : List String) (fuel : ℕ) (nodes : Table) : MenuOption → Script Table
  | .addNode => addNode edsFiles fuel nodes
  | .flashFirmware => do
    flashFirmware nodes fuel
    pure nodes
  | .other => do
    ask .menuOther
    pure nodes

end CanopenTools.Interactive
