import CanopenTools.Cells.RefCell
import CanopenTools.Viewer.Gui
import Mathlib.Logic.Function.Basic

/-!
# The panels of the viewer

The widgets by which the user filters: `FilterDataPanel` has the text fields for one `DataFilter`,
`FilterPanel` the buttons and check boxes for the types of messages besides, and `PinnedFilters` one
panel for each pinned row. A panel does not own its filter, it holds an `Rc<RefCell<…>>`, which the
filter of the list holds as well; pinning makes a new cell. `Heap` has these cells, and each method
is an action on it.

What a user does in one frame is an input: which widgets were clicked and which texts were changed.
The crate `regex` and the parser of `NodeId` are the fields of `Parsers`.

Each method is proved to end without a panic while no guard is held, and said to do what a function
of the values does (`edited`, `buttons`, `toggled`).
-/

set_option autoImplicit false
set_option relaxedAutoImplicit false

namespace CanopenTools.Viewer

open Cells

/-! ### Cells -/

/-- `GlobalFilter` with the address of its data filter. -/
structure GlobalCell where
  ignoreType : Flags
  data : ℕ
  deriving DecidableEq, Repr

/-- The cell of the global filter, the cells of data filters, and the first address that is not in
use. -/
structure Heap where
  globalFilter : RefCell GlobalCell
  dataFilters : ℕ → RefCell DataFilter
  next : ℕ

namespace Heap

/-- The global filter. -/
def globalPlace : Place Heap GlobalCell where
  get := globalFilter
  set := fun heap cell ↦ { heap with globalFilter := cell }
  get_set := fun _ _ ↦ rfl
  set_get := fun _ ↦ rfl
  set_set := fun _ _ _ ↦ rfl

/-- A data filter. -/
def dataPlace (address : ℕ) : Place Heap DataFilter where
  get := fun heap ↦ heap.dataFilters address
  set := fun heap cell ↦ { heap with dataFilters := Function.update heap.dataFilters address cell }
  get_set := fun _ _ ↦ Function.update_self _ _ _
  set_get := fun heap ↦ congrArg (Heap.mk heap.globalFilter · heap.next)
    (Function.update_eq_self _ _)
  set_set := fun heap _ _ ↦
    congrArg (Heap.mk heap.globalFilter · heap.next) (Function.update_idem _ _ _)

/-- `Rc::new(RefCell::new(filter))`. -/
def alloc (filter : DataFilter) : Action Heap ℕ := do
  let heap ← get
  set { heap with
    dataFilters := Function.update heap.dataFilters heap.next (.new filter), next := heap.next + 1 }
  return heap.next

/-- The value of a data filter. -/
def value (heap : Heap) (address : ℕ) : DataFilter := (heap.dataFilters address).value

/-- The global filter with the value of its data filter. -/
def filter (heap : Heap) : GlobalFilter :=
  ⟨heap.globalFilter.value.ignoreType, heap.value heap.globalFilter.value.data⟩

/-- No guard is held. -/
structure Free (heap : Heap) : Prop where
  globalFilter : heap.globalFilter.flag = .reading 0
  dataFilters : ∀ address, (heap.dataFilters address).flag = .reading 0

/-- The heap with another value of a data filter. -/
def put (heap : Heap) (address : ℕ) (filter : DataFilter) : Heap :=
  (dataPlace address).set heap (.new filter)

/-- The heap with other flags in the global filter. -/
def putFlags (heap : Heap) (flags : Flags) : Heap :=
  { heap with globalFilter := .new ⟨flags, heap.globalFilter.value.data⟩ }

theorem value_put_self (heap : Heap) (address : ℕ) (filter : DataFilter) :
    (heap.put address filter).value address = filter := by
  show (Function.update heap.dataFilters address (RefCell.new filter) address).value = filter
  rw [Function.update_self]
  rfl

theorem value_put_of_ne (heap : Heap) {address other : ℕ} (hne : other ≠ address)
    (filter : DataFilter) : (heap.put address filter).value other = heap.value other := by
  show (Function.update heap.dataFilters address (RefCell.new filter) other).value = _
  rw [Function.update_of_ne hne]
  rfl

/-- The heap with a new data filter. -/
def grown (heap : Heap) (filter : DataFilter) : Heap :=
  { heap.put heap.next filter with next := heap.next + 1 }

theorem value_grown_self (heap : Heap) (filter : DataFilter) :
    (heap.grown filter).value heap.next = filter := value_put_self heap heap.next filter

theorem value_grown_of_ne (heap : Heap) {address : ℕ} (hne : address ≠ heap.next)
    (filter : DataFilter) :
    (heap.grown filter).value address = heap.value address := value_put_of_ne heap hne filter

variable {heap : Heap}

theorem Free.get_dataPlace (hfree : heap.Free) (address : ℕ) :
    (dataPlace address).get heap = .new (heap.value address) :=
  congrArg (RefCell.mk (heap.value address)) (hfree.dataFilters address)

theorem Free.get_globalPlace (hfree : heap.Free) :
    globalPlace.get heap = .new heap.globalFilter.value :=
  congrArg (RefCell.mk heap.globalFilter.value) hfree.globalFilter

theorem Free.put (hfree : heap.Free) (address : ℕ) (filter : DataFilter) :
    (heap.put address filter).Free := by
  refine ⟨hfree.globalFilter, fun other ↦ ?_⟩
  show (Function.update heap.dataFilters address (RefCell.new filter) other).flag = _
  by_cases hother : other = address
  · rw [hother, Function.update_self]
    rfl
  · rw [Function.update_of_ne hother]
    exact hfree.dataFilters other

theorem Free.putFlags (hfree : heap.Free) (flags : Flags) : (heap.putFlags flags).Free :=
  ⟨rfl, hfree.dataFilters⟩

theorem Free.grown (hfree : heap.Free) (filter : DataFilter) : (heap.grown filter).Free :=
  ⟨hfree.globalFilter, (hfree.put heap.next filter).dataFilters⟩

theorem yields_alloc (heap : Heap) (filter : DataFilter) :
    Yields (alloc filter) heap heap.next (heap.grown filter) := rfl

/-- The value of a data filter is read. -/
theorem Free.yields_look {α : Type} (hfree : heap.Free) (address : ℕ) (result : DataFilter → α) :
    Yields (withRef (dataPlace address) fun filter ↦ pure (result filter)) heap
      (result (heap.value address)) heap :=
  yields_withRef_pure result (hfree.get_dataPlace address)

/-- The flags of the global filter are set. -/
theorem Free.yields_putFlags (hfree : heap.Free) (flags : Flags → Flags) :
    Yields (withMut globalPlace fun filter ↦ pure (⟨flags filter.ignoreType, filter.data⟩, ()))
      heap () (heap.putFlags (flags heap.globalFilter.value.ignoreType)) := by
  have hset := yields_withMut_pure
    (fun filter : GlobalCell ↦ (GlobalCell.mk (flags filter.ignoreType) filter.data, ()))
      hfree.get_globalPlace
  exact hset

end Heap

/-! ### Text fields -/

/-- `Regex::new(…).ok()` and the parser of a `NodeId`. The empty regular expression matches
everything, and the empty text is not a node id. -/
structure Parsers where
  regexNew : String → Option Regex
  parseNodeId : String → Option ℕ
  regexNew_empty : ∀ regex, regexNew "" = some regex → ∀ text, regex.isMatch text = true
  parseNodeId_empty : parseNodeId "" = none

/-- The digits of `from_str` for an unsigned type below a bound, with what they stand for so far. -/
def parseDigits (bound : ℕ) : List Char → ℕ → Option ℕ
  | [], value => some value
  | digit :: digits, value =>
    if digit.isDigit then
      let value := value * 10 + (digit.toNat - '0'.toNat)
      if value < bound then parseDigits bound digits value else none
    else none

/-- `str::parse(…).ok()` for an unsigned type below a bound. -/
def parseUnsigned (bound : ℕ) (text : String) : Option ℕ :=
  match text.toList with
  | [] => none
  | ['+'] => none
  | '+' :: digits => parseDigits bound digits 0
  | digits => parseDigits bound digits 0

theorem parseUnsigned_empty (bound : ℕ) : parseUnsigned bound "" = none := rfl

/-- For instance, every text is a regular expression for the texts that start with it, and a node id
is a byte. -/
example : Parsers where
  regexNew := fun text ↦ some ⟨fun other ↦ text.toList.isPrefixOf other.toList⟩
  parseNodeId := parseUnsigned 0x100
  regexNew_empty := by
    rintro _ ⟨⟩ text
    simp
  parseNodeId_empty := parseUnsigned_empty _

/-- The new text of each field that was changed. -/
structure Edits where
  regexCob : Option String := none
  node : Option String := none
  regex : Option String := none

/-- A text field: a new text is kept and parsed. -/
def textField {α : Type} (parse : String → α) (change : Option String) (raw : String) (value : α) :
    String × α × Bool :=
  match change with
  | some text => (text, parse text, true)
  | none => (raw, value, false)

/-- `FilterDataPanel`, with the address of its filter. -/
structure FilterDataPanel where
  dataFilter : ℕ
  nodeRaw : String
  regexRaw : String
  regexCobRaw : String
  deriving DecidableEq, Repr

namespace FilterDataPanel

/-- `FilterDataPanel::new`. -/
def new (dataFilter : ℕ) : FilterDataPanel := ⟨dataFilter, "", "", ""⟩

/-- The texts after a frame. -/
def edited (panel : FilterDataPanel) (edits : Edits) : FilterDataPanel where
  dataFilter := panel.dataFilter
  nodeRaw := edits.node.getD panel.nodeRaw
  regexRaw := edits.regex.getD panel.regexRaw
  regexCobRaw := edits.regexCob.getD panel.regexCobRaw

/-- `FilterDataPanel::update`. -/
def update (parsers : Parsers) (panel : FilterDataPanel) (edits : Edits) :
    Action Heap (FilterDataPanel × Bool) :=
  withMut (Heap.dataPlace panel.dataFilter) fun dataFilter ↦ do
    let (regexCobRaw, regexCob, first) :=
      textField parsers.regexNew edits.regexCob panel.regexCobRaw dataFilter.regexCob
    let (nodeRaw, nodeId, second) :=
      textField parsers.parseNodeId edits.node panel.nodeRaw dataFilter.nodeId
    let (regexRaw, regex, third) :=
      textField parsers.regexNew edits.regex panel.regexRaw dataFilter.regex
    return (⟨regex, nodeId, regexCob⟩,
      ⟨panel.dataFilter, nodeRaw, regexRaw, regexCobRaw⟩, first || second || third)

end FilterDataPanel

/-- The filter after a frame. -/
def DataFilter.edited (parsers : Parsers) (filter : DataFilter) (edits : Edits) : DataFilter where
  regex := edits.regex.elim filter.regex parsers.regexNew
  nodeId := edits.node.elim filter.nodeId parsers.parseNodeId
  regexCob := edits.regexCob.elim filter.regexCob parsers.regexNew

theorem textField_eq {α : Type} (parse : String → α) (change : Option String) (raw : String)
    (value : α) :
    textField parse change raw value =
      (change.getD raw, change.elim value parse, change.isSome) := by
  cases change <;> rfl

/-- The texts and the filter of a panel are changed together, and no other filter. -/
theorem FilterDataPanel.yields_update {heap : Heap} (hfree : heap.Free) (parsers : Parsers)
    (panel : FilterDataPanel) (edits : Edits) :
    ∃ changed, Yields (panel.update parsers edits) heap (panel.edited edits, changed)
      (heap.put panel.dataFilter ((heap.value panel.dataFilter).edited parsers edits)) := by
  refine ⟨edits.regexCob.isSome || edits.node.isSome || edits.regex.isSome, ?_⟩
  unfold FilterDataPanel.update
  simp only [textField_eq]
  exact yields_withMut (hfree.get_dataPlace _) (yields_pure _ _)

/-! ### Types of messages -/

namespace Flags

def all : Flags := 0b11111111#8

/-- `insert`. -/
def insert (flags other : Flags) : Flags := flags ||| other

/-- `remove`. -/
def remove (flags other : Flags) : Flags := flags &&& ~~~other

/-- `Flags::all().iter_names()`: the flags with one bit, which cover `NONE` and `ALL`. -/
def iterNames : List (String × Flags) :=
  [("SYNC", sync), ("PDO", pdo), ("SDO", sdo), ("NMT", nmt), ("LSS", lss), ("EMCY", emcy),
    ("GUARD", guard), ("UNKNOWN", unknown)]

end Flags

/-- What happens to the filter panel in a frame: the buttons, the check boxes that were changed, the
texts, and the button that pins. -/
structure PanelInput where
  stop : Bool := false
  all : Bool := false
  none : Bool := false
  boxes : String → Bool := fun _ ↦ false
  edits : Edits := {}
  pin : Bool := false

/-- `FilterPanel`. -/
structure FilterPanel where
  dataPanel : FilterDataPanel
  stop : Bool
  deriving DecidableEq, Repr

namespace FilterPanel

/-- `FilterPanel::new`, with the data filter of the global filter. -/
def new (dataFilter : ℕ) : FilterPanel := ⟨.new dataFilter, false⟩

/-- One check box, which shows the flag as it was before all of them and is then inverted. -/
def checkbox (before : Flags) (changed : String → Bool) (box : String × Flags) : Action Heap Unit :=
  let flag := !(before &&& box.2 == box.2)
  if changed box.1 then
    let flag := !flag
    if flag then
      withMut Heap.globalPlace fun filter ↦ pure (⟨filter.ignoreType.remove box.2, filter.data⟩, ())
    else
      withMut Heap.globalPlace fun filter ↦ pure (⟨filter.ignoreType.insert box.2, filter.data⟩, ())
  else pure ()

/-- A button that sets all flags alike. -/
def button (clicked : Bool) (flags : Flags) : Action Heap Unit :=
  if clicked then withMut Heap.globalPlace fun filter ↦ pure (⟨flags, filter.data⟩, ()) else pure ()

/-- `FilterPanel::update`, which returns the panel to pin. -/
def update (parsers : Parsers) (panel : FilterPanel) (input : PanelInput) :
    Action Heap (FilterPanel × Option FilterDataPanel) := do
  let stop := if input.stop then !panel.stop else panel.stop
  button input.all .none
  button input.none .all
  let before ← withMut Heap.globalPlace fun filter ↦ pure (filter, filter.ignoreType)
  Flags.iterNames.forM (checkbox before input.boxes)
  let (dataPanel, _) ← panel.dataPanel.update parsers input.edits
  return (⟨dataPanel, stop⟩, if input.pin then some dataPanel else none)

/-- The flags after the two buttons. -/
def buttons (input : PanelInput) (flags : Flags) : Flags :=
  if input.none then .all else if input.all then .none else flags

/-- The flags after one check box. -/
def toggle (before : Flags) (changed : String → Bool) (current : Flags) (box : String × Flags) :
    Flags :=
  if changed box.1 then
    if before.contains box.2 then current.remove box.2 else current.insert box.2
  else current

/-- The flags after the check boxes. -/
def toggled (changed : String → Bool) (flags : Flags) : Flags :=
  Flags.iterNames.foldl (toggle flags changed) flags

/-- The flags after a frame. -/
def flagsAfter (input : PanelInput) (flags : Flags) : Flags :=
  toggled input.boxes (buttons input flags)

/-- The panel after a frame. -/
def edited (panel : FilterPanel) (input : PanelInput) : FilterPanel :=
  ⟨panel.dataPanel.edited input.edits, if input.stop then !panel.stop else panel.stop⟩

variable {heap : Heap}

theorem putFlags_ignoreType (hfree : heap.Free) :
    heap.putFlags heap.globalFilter.value.ignoreType = heap :=
  congrArg (Heap.mk · heap.dataFilters heap.next) hfree.get_globalPlace.symm

theorem yields_button (hfree : heap.Free) (clicked : Bool) (flags : Flags) :
    Yields (button clicked flags) heap ()
      (heap.putFlags (if clicked then flags else heap.globalFilter.value.ignoreType)) := by
  cases clicked with
  | true => exact hfree.yields_putFlags fun _ ↦ flags
  | false =>
    show Yields (pure ()) heap () (heap.putFlags heap.globalFilter.value.ignoreType)
    rw [putFlags_ignoreType hfree]
    exact yields_pure heap ()

theorem yields_checkbox (hfree : heap.Free) (before : Flags) (changed : String → Bool)
    (box : String × Flags) :
    Yields (checkbox before changed box) heap ()
      (heap.putFlags (toggle before changed heap.globalFilter.value.ignoreType box)) := by
  unfold checkbox toggle
  by_cases hchanged : changed box.1 = true
  · rw [if_pos hchanged, if_pos hchanged]
    by_cases hbefore : before.contains box.2 = true
    · have hset : (before &&& box.2 == box.2) = true := hbefore
      rw [if_pos hbefore, hset]
      exact hfree.yields_putFlags fun flags ↦ flags.remove box.2
    · have hset : (before &&& box.2 == box.2) = false := Bool.eq_false_iff.mpr hbefore
      rw [if_neg hbefore, hset]
      exact hfree.yields_putFlags fun flags ↦ flags.insert box.2
  · rw [if_neg hchanged, if_neg hchanged, putFlags_ignoreType hfree]
    exact yields_pure heap ()

theorem yields_checkboxes (before : Flags) (changed : String → Bool) (boxes : List (String × Flags))
    (hfree : heap.Free) :
    Yields (boxes.forM (checkbox before changed)) heap ()
      (heap.putFlags (boxes.foldl (toggle before changed) heap.globalFilter.value.ignoreType)) := by
  induction boxes generalizing heap with
  | nil =>
    show Yields (pure ()) heap () (heap.putFlags heap.globalFilter.value.ignoreType)
    rw [putFlags_ignoreType hfree]
    exact yields_pure heap ()
  | cons box rest ih =>
    exact (yields_checkbox hfree before changed box).bind (ih (hfree.putFlags _))

/-- The heap after a frame of the panel. -/
def heapAfter (parsers : Parsers) (panel : FilterPanel) (input : PanelInput) (heap : Heap) : Heap :=
  (heap.putFlags (flagsAfter input heap.globalFilter.value.ignoreType)).put
    panel.dataPanel.dataFilter ((heap.value panel.dataPanel.dataFilter).edited parsers input.edits)

/-- The buttons and check boxes set the flags, and the texts set the data filter. -/
theorem yields_update (hfree : heap.Free) (parsers : Parsers) (panel : FilterPanel)
    (input : PanelInput) :
    Yields (panel.update parsers input) heap
      (panel.edited input, if input.pin then some (panel.dataPanel.edited input.edits) else none)
      (panel.heapAfter parsers input heap) := by
  have hall := yields_button hfree input.all .none
  have hnone := yields_button (hfree.putFlags
    (if input.all then Flags.none else heap.globalFilter.value.ignoreType)) input.none .all
  have hlook := yields_withMut_pure (fun filter : GlobalCell ↦ (filter, filter.ignoreType))
    ((hfree.putFlags (buttons input heap.globalFilter.value.ignoreType)).get_globalPlace)
  have hboxes := yields_checkboxes (buttons input heap.globalFilter.value.ignoreType) input.boxes
    Flags.iterNames (hfree.putFlags (buttons input heap.globalFilter.value.ignoreType))
  obtain ⟨changed, hedit⟩ := FilterDataPanel.yields_update (hfree.putFlags
    (flagsAfter input heap.globalFilter.value.ignoreType)) parsers panel.dataPanel input.edits
  exact hall.bind (hnone.bind (hlook.bind (hboxes.bind (hedit.bind (yields_pure _ _)))))

end FilterPanel

end CanopenTools.Viewer
