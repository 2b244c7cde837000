import CanopenTools.Viewer.App
import CanopenTools.Viewer.Screen

/-!
# What a frame does

`Screen.update` on cells and panels against the frame of `App`, whose filters are plain values.
`Screen.gui` forgets the cells. The invariant `Screen.Valid` says that no guard is held between two
frames, that the filter panel and the filter of the list hold the same cell, that otherwise no two
panels share one, and that the filter in a cell is the one that the texts of its panel stand for
(`FilterDataPanel.Agrees`).

With it no frame panics, and what it does to the plain values is a frame of the GUI and changes by
the user (`Screen.yields_update`).
-/

set_option autoImplicit false
set_option relaxedAutoImplicit false

namespace CanopenTools.Viewer

open Cells

/-! ### Steps of the GUI -/

/-- Steps lead from one state of the GUI to another, whatever the driver is. -/
def Gui.EditedBy (canopen : Canopen) (steps : List Step) (gui after : Gui) : Prop :=
  ∀ driver, steps.foldl (App.step canopen) ⟨driver, gui⟩ = ⟨driver, after⟩

namespace Gui

variable {canopen : Canopen} {first second : List Step} {gui middle after : Gui}

theorem EditedBy.refl (canopen : Canopen) (gui : Gui) : EditedBy canopen [] gui gui := fun _ ↦ rfl

theorem EditedBy.append (hfirst : EditedBy canopen first gui middle)
    (hsecond : EditedBy canopen second middle after) :
    EditedBy canopen (first ++ second) gui after := by
  intro driver
  rw [List.foldl_append, hfirst, hsecond]

end Gui

/-! ### What the user does -/

/-- The row that is removed out of those from an index on: the last one whose button was clicked. -/
def RowInput.deleted (inputs : ℕ → RowInput) (index count : ℕ) : Option ℕ :=
  ((List.range' index count).filter fun index ↦ (inputs index).delete).getLast?

theorem RowInput.deleted_lt {inputs : ℕ → RowInput} {index count last : ℕ}
    (hlast : deleted inputs index count = some last) : last < index + count := by
  have hmem := List.mem_of_getLast? hlast
  exact (List.mem_range'_1.mp (List.mem_filter.mp hmem).1).2

/-- A click on the first of the rows counts when there is none below. -/
theorem RowInput.deleted_succ (inputs : ℕ → RowInput) (index count : ℕ) (before : Option ℕ) :
    (deleted inputs (index + 1) count).or (if (inputs index).delete then some index else before) =
      (deleted inputs index (count + 1)).or before := by
  unfold deleted
  rw [List.range'_succ, List.filter_cons]
  by_cases hdelete : (inputs index).delete = true
  · rw [if_pos hdelete, if_pos hdelete, List.getLast?_cons]
    generalize ((List.range' (index + 1) count).filter fun index ↦ (inputs index).delete) = rest
    cases rest.getLast? <;> rfl
  · rw [if_neg hdelete, if_neg hdelete]

section User

variable (parsers : Parsers)

/-- The edits of pinned rows from an index on, whose filters are known. -/
def editSteps (inputs : ℕ → RowInput) : ℕ → List DataFilter → List Step
  | _, [] => []
  | index, filter :: filters =>
    .editPinned index (filter.edited parsers (inputs index).edits) ::
      editSteps inputs (index + 1) filters

/-- What the user does in a frame, as steps: the filter panel sets the global filter, a new row may
be pinned with the data filter of the list, the texts of each row change its own filter, and at most
one row is removed. -/
def Gui.userSteps (gui : Gui) (input : FrameInput) : List Step :=
  let data := gui.globalFilter.data.edited parsers input.panel.edits
  let filters := gui.pinnedFilters.map PinnedRow.filter ++ if input.panel.pin then [data] else []
  [.setGlobalFilter ⟨FilterPanel.flagsAfter input.panel gui.globalFilter.ignoreType, data⟩] ++
    (if input.panel.pin then [.pin data input.now] else []) ++
    editSteps parsers input.rows 0 filters ++
    ((RowInput.deleted input.rows 0 filters.length).map Step.unpin).toList

/-- What the user does in a frame: nothing when the driver has ended, and the panels answer only
while the connection is there. -/
def Gui.frameSteps (gui : Gui) (exitSignal connected : Bool) (input : FrameInput) : List Step :=
  if exitSignal then [] else gui.userSteps parsers (Screen.enabled connected input)

end User

/-! ### Texts and filters -/

/-- A regular expression, if there is one, does not match. -/
def rejects (regex : Option Regex) (text : String) : Bool :=
  regex.any fun regex ↦ !regex.isMatch text

namespace FilterDataPanel

/-- The filter that the texts stand for. -/
def said (parsers : Parsers) (panel : FilterDataPanel) : DataFilter where
  regex := parsers.regexNew panel.regexRaw
  nodeId := parsers.parseNodeId panel.nodeRaw
  regexCob := parsers.regexNew panel.regexCobRaw

/-- A filter decides as the texts say. -/
structure Agrees (parsers : Parsers) (panel : FilterDataPanel) (filter : DataFilter) : Prop where
  regex : ∀ text, rejects filter.regex text = rejects (parsers.regexNew panel.regexRaw) text
  nodeId : filter.nodeId = parsers.parseNodeId panel.nodeRaw
  regexCob : ∀ text, rejects filter.regexCob text =
    rejects (parsers.regexNew panel.regexCobRaw) text

variable {parsers : Parsers} {panel : FilterDataPanel} {filter : DataFilter}

theorem Agrees.filter_eq (hagrees : panel.Agrees parsers filter) (message : MessageCached) :
    filter.filter message = (panel.said parsers).filter message := by
  have hcob : (filter.regexCob.any fun regex ↦ !regex.isMatch message.cobStr) =
      ((panel.said parsers).regexCob.any fun regex ↦ !regex.isMatch message.cobStr) :=
    hagrees.regexCob message.cobStr
  have hhex : (filter.regex.any fun regex ↦ !regex.isMatch message.hexStr) =
      ((panel.said parsers).regex.any fun regex ↦ !regex.isMatch message.hexStr) :=
    hagrees.regex message.hexStr
  have hnode : filter.nodeId = (panel.said parsers).nodeId := hagrees.nodeId
  unfold DataFilter.filter
  rw [hcob, hhex, hnode]

/-- A text that was parsed anew, or one that was left as it was. -/
theorem rejects_elim {parse : String → Option Regex} {old : Option Regex} {raw : String}
    (hold : ∀ text, rejects old text = rejects (parse raw) text) (change : Option String)
    (text : String) :
    rejects (change.elim old parse) text = rejects (parse (change.getD raw)) text := by
  cases change with
  | none => exact hold text
  | some _ => rfl

theorem Agrees.edited (hagrees : panel.Agrees parsers filter) (edits : Edits) :
    (panel.edited edits).Agrees parsers (filter.edited parsers edits) := by
  refine ⟨rejects_elim hagrees.regex edits.regex, ?_, rejects_elim hagrees.regexCob edits.regexCob⟩
  cases hnode : edits.node with
  | none => simpa [FilterDataPanel.edited, DataFilter.edited, hnode] using hagrees.nodeId
  | some text => simp [FilterDataPanel.edited, DataFilter.edited, hnode]

/-- The texts do not depend on the cell. -/
theorem Agrees.moved (hagrees : panel.Agrees parsers filter) (address : ℕ) :
    ({ panel with dataFilter := address } : FilterDataPanel).Agrees parsers filter :=
  ⟨hagrees.regex, hagrees.nodeId, hagrees.regexCob⟩

/-- Before anything was typed nothing is filtered out. -/
theorem agrees_new (parsers : Parsers) (address : ℕ) :
    (FilterDataPanel.new address).Agrees parsers ⟨none, none, none⟩ := by
  have hempty : ∀ text, rejects none text = rejects (parsers.regexNew "") text := by
    intro text
    cases hregex : parsers.regexNew "" with
    | none => rfl
    | some regex =>
      exact (Bool.not_eq_eq_eq_not.mpr (parsers.regexNew_empty regex hregex text)).symm
  exact ⟨hempty, parsers.parseNodeId_empty.symm, hempty⟩

end FilterDataPanel

/-! ### The panels -/

/-- The invariant of the cells and the panels: the filter panel and the pinned ones. -/
structure PanelsValid (parsers : Parsers) (heap : Heap) (panel : FilterPanel)
    (pinned : List FilterDataPanel) : Prop where
  free : heap.Free
  shared : heap.globalFilter.value.data = panel.dataPanel.dataFilter
  nodup : ((panel.dataPanel :: pinned).map FilterDataPanel.dataFilter).Nodup
  allocated : ∀ data ∈ panel.dataPanel :: pinned, data.dataFilter < heap.next
  agrees : ∀ data ∈ panel.dataPanel :: pinned, data.Agrees parsers (heap.value data.dataFilter)

namespace PanelsValid

variable {parsers : Parsers} {heap : Heap} {panel : FilterPanel} {pinned : List FilterDataPanel}

theorem ne_of_mem (hvalid : PanelsValid parsers heap panel pinned) {data : FilterDataPanel}
    (hdata : data ∈ pinned) : data.dataFilter ≠ panel.dataPanel.dataFilter := by
  have hnodup := hvalid.nodup
  rw [List.map_cons, List.nodup_cons] at hnodup
  exact fun hsame ↦ hnodup.1 (hsame ▸ List.mem_map_of_mem hdata)

/-- The filter panel edits its own cell. -/
theorem value_heapAfter_self (parsers : Parsers) (heap : Heap) (panel : FilterPanel)
    (input : PanelInput) :
    (panel.heapAfter parsers input heap).value panel.dataPanel.dataFilter =
      (heap.value panel.dataPanel.dataFilter).edited parsers input.edits :=
  Heap.value_put_self _ _ _

theorem value_heapAfter_of_ne (parsers : Parsers) (heap : Heap) (panel : FilterPanel)
    (input : PanelInput) {address : ℕ} (hne : address ≠ panel.dataPanel.dataFilter) :
    (panel.heapAfter parsers input heap).value address = heap.value address :=
  Heap.value_put_of_ne _ hne _

theorem filterPanel (hvalid : PanelsValid parsers heap panel pinned) (input : PanelInput) :
    PanelsValid parsers (panel.heapAfter parsers input heap) (panel.edited input) pinned where
  free := (hvalid.free.putFlags _).put _ _
  shared := hvalid.shared
  nodup := hvalid.nodup
  allocated := List.forall_mem_cons.mpr (List.forall_mem_cons.mp hvalid.allocated)
  agrees := by
    obtain ⟨hpanel, hpinned⟩ := List.forall_mem_cons.mp hvalid.agrees
    refine List.forall_mem_cons.mpr ⟨?_, fun data hdata ↦ ?_⟩
    · show FilterDataPanel.Agrees parsers _
        ((panel.heapAfter parsers input heap).value panel.dataPanel.dataFilter)
      rw [value_heapAfter_self]
      exact hpanel.edited input.edits
    · rw [value_heapAfter_of_ne parsers heap panel input (hvalid.ne_of_mem hdata)]
      exact hpinned data hdata

/-- A new panel gets a cell of its own. -/
theorem pin (hvalid : PanelsValid parsers heap panel pinned) :
    PanelsValid parsers (heap.grown (heap.value panel.dataPanel.dataFilter)) panel
      (pinned ++ [{ panel.dataPanel with dataFilter := heap.next }]) := by
  have hold : ∀ data ∈ panel.dataPanel :: pinned, data.dataFilter ≠ heap.next :=
    fun data hdata ↦ (hvalid.allocated data hdata).ne
  have hmem : ∀ data ∈ panel.dataPanel ::
        (pinned ++ [{ panel.dataPanel with dataFilter := heap.next }]),
      data ∈ panel.dataPanel :: pinned ∨
        data = { panel.dataPanel with dataFilter := heap.next } := by
    simp only [List.mem_cons, List.mem_append, List.not_mem_nil, or_false, or_assoc]
    exact fun _ hdata ↦ hdata
  refine ⟨hvalid.free.grown _, hvalid.shared, ?_, ?_, ?_⟩
  · rw [← List.cons_append, List.map_append, List.nodup_append]
    refine ⟨hvalid.nodup, List.nodup_singleton _, fun address haddress other hother ↦ ?_⟩
    obtain ⟨data, hdata, rfl⟩ := List.mem_map.mp haddress
    rw [List.mem_singleton.mp hother]
    exact hold data hdata
  · intro data hdata
    rcases hmem data hdata with hdata | rfl
    · exact (hvalid.allocated data hdata).trans (Nat.lt_succ_self _)
    · exact Nat.lt_succ_self _
  · intro data hdata
    rcases hmem data hdata with hdata | rfl
    · rw [Heap.value_grown_of_ne heap (hold data hdata)]
      exact hvalid.agrees data hdata
    · rw [Heap.value_grown_self]
      exact (hvalid.agrees _ List.mem_cons_self).moved heap.next

/-- One pinned panel edits its own cell. -/
theorem editPinned (before after : List FilterDataPanel) (data : FilterDataPanel)
    (hvalid : PanelsValid parsers heap panel (before ++ data :: after)) (edits : Edits) :
    PanelsValid parsers
      (heap.put data.dataFilter ((heap.value data.dataFilter).edited parsers edits)) panel
      (before ++ data.edited edits :: after) := by
  have hperm : (panel.dataPanel :: (before ++ data :: after)).Perm
      (data :: panel.dataPanel :: (before ++ after)) :=
    (List.perm_middle.cons _).trans (List.Perm.swap _ _ _)
  have hperm' : (panel.dataPanel :: (before ++ data.edited edits :: after)).Perm
      (data.edited edits :: panel.dataPanel :: (before ++ after)) :=
    (List.perm_middle.cons _).trans (List.Perm.swap _ _ _)
  have hnodup := (hperm.map FilterDataPanel.dataFilter).nodup_iff.mp hvalid.nodup
  rw [List.map_cons, List.nodup_cons] at hnodup
  have hne : ∀ other ∈ panel.dataPanel :: (before ++ after), other.dataFilter ≠ data.dataFilter :=
    fun other hother hsame ↦ hnodup.1 (hsame ▸ List.mem_map_of_mem hother)
  have hmem : ∀ other ∈ data :: panel.dataPanel :: (before ++ after),
      other ∈ panel.dataPanel :: (before ++ data :: after) :=
    fun _ hother ↦ hperm.symm.subset hother
  refine ⟨hvalid.free.put _ _, hvalid.shared, ?_, fun other hother ↦ ?_, fun other hother ↦ ?_⟩
  · refine (hperm'.map FilterDataPanel.dataFilter).nodup_iff.mpr ?_
    rw [List.map_cons, List.nodup_cons]
    exact hnodup
  · rcases List.mem_cons.mp (hperm'.subset hother) with rfl | hother
    · exact hvalid.allocated data (hmem data List.mem_cons_self)
    · exact hvalid.allocated other (hmem other (List.mem_cons_of_mem _ hother))
  · rcases List.mem_cons.mp (hperm'.subset hother) with rfl | hother
    · show FilterDataPanel.Agrees parsers _ ((heap.put data.dataFilter _).value data.dataFilter)
      rw [Heap.value_put_self]
      exact (hvalid.agrees data (hmem data List.mem_cons_self)).edited edits
    · rw [Heap.value_put_of_ne heap (hne other hother)]
      exact hvalid.agrees other (hmem other (List.mem_cons_of_mem _ hother))

/-- Fewer pinned panels. -/
theorem sublist (hvalid : PanelsValid parsers heap panel pinned) {fewer : List FilterDataPanel}
    (hfewer : fewer.Sublist pinned) : PanelsValid parsers heap panel fewer := by
  have hsublist : (panel.dataPanel :: fewer).Sublist (panel.dataPanel :: pinned) :=
    hfewer.cons_cons _
  exact ⟨hvalid.free, hvalid.shared, hvalid.nodup.sublist (hsublist.map _),
    fun data hdata ↦ hvalid.allocated data (hsublist.subset hdata),
    fun data hdata ↦ hvalid.agrees data (hsublist.subset hdata)⟩

end PanelsValid

/-! ### Pinned rows -/

/-- A row with the filter in its cell. -/
def PinnedPanel.row (heap : Heap) (row : PinnedPanel) : PinnedRow :=
  ⟨heap.value row.panel.dataFilter, row.time, row.message, row.delivered⟩

/-- A row after a message. -/
def PinnedPanel.pushed (heap : Heap) (message : MessageCached) (now : Instant) (row : PinnedPanel) :
    PinnedPanel :=
  if (heap.value row.panel.dataFilter).filter message then row
  else
    { row with
      time := row.message.elim now MessageCached.getTimestamp
      message := some message
      delivered := message :: row.delivered }

theorem PinnedPanel.panel_pushed (heap : Heap) (message : MessageCached) (now : Instant)
    (row : PinnedPanel) : (row.pushed heap message now).panel = row.panel := by
  unfold PinnedPanel.pushed
  split_ifs <;> rfl

theorem PinnedPanel.row_pushed (heap : Heap) (message : MessageCached) (now : Instant)
    (row : PinnedPanel) :
    (row.pushed heap message now).row heap = (row.row heap).push message now := by
  unfold PinnedPanel.pushed PinnedRow.push PinnedPanel.row
  split_ifs <;> rfl

namespace PinnedFilters

theorem yields_pushData {heap : Heap} (hfree : heap.Free) (rows : PinnedFilters)
    (message : MessageCached) (now : Instant) :
    Yields (rows.pushData message now) heap
      (rows.map fun row ↦ row.pushed heap message now) heap := by
  refine yields_mapM fun row _ ↦ ?_
  refine (hfree.yields_look row.panel.dataFilter fun filter ↦ filter.filter message).bind ?_
  unfold PinnedPanel.pushed
  split_ifs <;> exact yields_pure heap _

theorem yields_pinFilter {heap : Heap} (hfree : heap.Free) (rows : PinnedFilters)
    (filt : FilterDataPanel) (data : List MessageCached) (now : Instant) :
    Yields (rows.pinFilter filt data now) heap
      (rows ++ [⟨{ filt with dataFilter := heap.next }, now,
        data.find? fun message ↦ !(heap.value filt.dataFilter).filter message, []⟩])
      (heap.grown (heap.value filt.dataFilter)) :=
  (hfree.yields_look filt.dataFilter fun filter ↦ filter).bind
    ((Heap.yields_alloc heap _).bind (yields_pure _ _))

section Update

variable (parsers : Parsers) (formats : Formats) {format : Format} (inputs : ℕ → RowInput)

/-- The rows from an index on, after their texts were edited. -/
def editedRows : ℕ → PinnedFilters → PinnedFilters
  | _, [] => []
  | index, row :: rows =>
    { row with panel := row.panel.edited (inputs index).edits } :: editedRows (index + 1) rows

/-- The cells after that. -/
def editedHeap : ℕ → PinnedFilters → Heap → Heap
  | _, [], heap => heap
  | index, row :: rows, heap =>
    editedHeap (index + 1) rows (heap.put row.panel.dataFilter
      ((heap.value row.panel.dataFilter).edited parsers (inputs index).edits))

/-- The lines of the rows. -/
def lines (format : Format) (rows : PinnedFilters) : List (Option Line) :=
  rows.map fun row ↦ row.message.map fun message ↦ message.line formats format row.time

theorem length_editedRows (index : ℕ) (rows : PinnedFilters) :
    (editedRows inputs index rows).length = rows.length := by
  induction rows generalizing index with
  | nil => rfl
  | cons row rows ih => exact congrArg (· + 1) (ih (index + 1))

/-- The loop edits the rows one after the other, and looks which one is to be deleted. -/
theorem yields_updateRows (hformat : format ≠ .utf8) (rows : PinnedFilters) (index : ℕ)
    (toDelete : Option ℕ) {heap : Heap} (hfree : heap.Free) :
    Yields (updateRows parsers formats format inputs index rows toDelete) heap
      (editedRows inputs index rows, lines formats format rows,
        (RowInput.deleted inputs index rows.length).or toDelete)
      (editedHeap parsers inputs index rows heap) := by
  induction rows generalizing index toDelete heap with
  | nil => exact yields_pure _ _
  | cons row rows ih =>
    obtain ⟨changed, hpanel⟩ :=
      FilterDataPanel.yields_update hfree parsers row.panel (inputs index).edits
    have hrest := ih (index + 1) (if (inputs index).delete then some index else toDelete)
      (hfree.put row.panel.dataFilter
        ((heap.value row.panel.dataFilter).edited parsers (inputs index).edits))
    have hline : ∀ heap, Yields
        (row.message.mapM fun message ↦ messageCustomTimestamp formats format message row.time) heap
        (row.message.map fun message ↦ message.line formats format row.time) heap := by
      intro heap
      cases row.message with
      | none => exact yields_pure heap none
      | some message => exact (yields_line formats hformat message row.time heap).map some
    rw [RowInput.deleted_succ] at hrest
    exact hpanel.bind ((hline _).bind (hrest.bind (yields_pure _ _)))

/-- At most one row is deleted. -/
theorem yields_update (hformat : format ≠ .utf8) (rows : PinnedFilters) {heap : Heap}
    (hfree : heap.Free) :
    Yields (update parsers formats format inputs rows) heap
      ((RowInput.deleted inputs 0 rows.length).elim (editedRows inputs 0 rows)
        (editedRows inputs 0 rows).eraseIdx,
        lines formats format rows) (editedHeap parsers inputs 0 rows heap) := by
  have hrows := yields_updateRows parsers formats inputs hformat rows 0 none hfree
  rw [Option.or_none] at hrows
  refine hrows.bind ?_
  cases hdeleted : RowInput.deleted inputs 0 rows.length with
  | none => exact yields_pure _ _
  | some index =>
    have hindex : index < (editedRows inputs 0 rows).length := by
      rw [length_editedRows, ← Nat.zero_add rows.length]
      exact RowInput.deleted_lt hdeleted
    show Yields (if index < (editedRows inputs 0 rows).length then _ else _) _ _ _
    rw [if_pos hindex]
    exact yields_pure _ _

end Update

end PinnedFilters

/-! ### The list -/

/-- The data filter is read and then the types. -/
theorem yields_globalCell_filter {heap : Heap} {filter : GlobalCell}
    (hdata : (heap.dataFilters filter.data).flag = .reading 0) (message : MessageCached) :
    Yields (filter.filter message) heap
      ((GlobalFilter.mk filter.ignoreType (heap.value filter.data)).filter message) heap := by
  have hget : (Heap.dataPlace filter.data).get heap = ⟨heap.value filter.data, .reading 0⟩ :=
    congrArg (RefCell.mk (heap.value filter.data)) hdata
  exact (yields_withRef_pure (fun data : DataFilter ↦ data) hget).bind (yields_pure heap _)

/-- The global filter while it is looked at. -/
theorem Heap.Free.yields_globalFilter {heap : Heap} (hfree : heap.Free) (message : MessageCached) :
    Yields (heap.globalFilter.value.filter message)
      (Heap.globalPlace.set heap ⟨heap.globalFilter.value, .reading 1⟩) (heap.filter.filter message)
      (Heap.globalPlace.set heap ⟨heap.globalFilter.value, .reading 1⟩) :=
  @yields_globalCell_filter (Heap.globalPlace.set heap ⟨heap.globalFilter.value, .reading 1⟩)
    heap.globalFilter.value (hfree.dataFilters heap.globalFilter.value.data) message

theorem Heap.Free.yields_filtered {heap : Heap} (hfree : heap.Free) (message : MessageCached) :
    Yields (withRef Heap.globalPlace fun filter ↦ filter.filter message) heap
      (heap.filter.filter message) heap :=
  yields_withRef hfree.get_globalPlace (hfree.yields_globalFilter message) hfree.get_globalPlace

/-- The messages that the list shows. -/
def visible (heap : Heap) (data : List MessageCached) : List MessageCached :=
  data.filter fun message ↦ !heap.filter.filter message

/-- The rows of a range out of the header and the messages below it, and the header once more. -/
def shownLines (formats : Formats) (format : Format) (startTime : Instant)
    (messages : List MessageCached) (range : RowRange (messages.length + 1)) : List ListLine :=
  ((.header :: messages.map fun message ↦ .message (message.line formats format startTime)).take
    range.stop).drop range.start ++ [.header]

theorem yields_dataRange {total : ℕ} (range : RowRange total) (heap : Heap) :
    Yields (dataRange range.start range.stop) heap (range.start - 1, range.stop - 1) heap := by
  have hstop : Yields (sub range.stop 1) heap (range.stop - 1) heap := by
    unfold sub
    rw [if_pos (Nat.one_le_iff_ne_zero.mpr range.stop_pos.ne')]
    exact yields_pure heap _
  unfold dataRange
  by_cases hstart : range.start = 0
  · rw [if_pos hstart, hstart]
    exact hstop.bind (yields_pure heap _)
  · have hsub : Yields (sub range.start 1) heap (range.start - 1) heap := by
      unfold sub
      rw [if_pos (Nat.one_le_iff_ne_zero.mpr hstart)]
      exact yields_pure heap _
    rw [if_neg hstart]
    exact hsub.bind (hstop.bind (yields_pure heap _))

/-- The rows of a range, with the header as the first of all rows. -/
theorem take_drop_header {α : Type} (header : α) (lines : List α) {total : ℕ}
    (range : RowRange total) :
    ((header :: lines).take range.stop).drop range.start =
      if range.start = 0 then header :: lines.take (range.stop - 1)
      else (lines.take (range.stop - 1)).drop (range.start - 1) := by
  obtain ⟨start, stop, -, hpos, -⟩ := range
  obtain ⟨stop, rfl⟩ := Nat.exists_eq_succ_of_ne_zero hpos.ne'
  cases start <;> rfl

/-- The rows of the scroll area. -/
theorem yields_showMessages (formats : Formats) {format : Format} (hformat : format ≠ .utf8)
    (startTime : Instant) (messages : List MessageCached) (range : RowRange (messages.length + 1))
    (heap : Heap) :
    Yields (showMessages formats format startTime messages range) heap
      (shownLines formats format startTime messages range) heap := by
  have hle : range.start - 1 ≤ range.stop - 1 ∧ range.stop - 1 ≤ messages.length :=
    ⟨Nat.sub_le_sub_right range.start_le 1, Nat.sub_le_of_le_add range.stop_le⟩
  have hslice : Yields (slice messages (range.start - 1) (range.stop - 1)) heap
      ((messages.take (range.stop - 1)).drop (range.start - 1)) heap := by
    unfold slice
    rw [if_pos hle]
    exact yields_pure heap _
  have hlines :=
    @yields_mapM _ _ _ (fun message ↦ messageCustomTimestamp formats format message startTime)
      (fun message ↦ message.line formats format startTime) heap
      ((messages.take (range.stop - 1)).drop (range.start - 1))
      fun message _ ↦ yields_line formats hformat message startTime heap
  refine (yields_dataRange range heap).bind (hslice.bind (hlines.bind ?_))
  have hshown : shownLines formats format startTime messages range =
      if range.start = 0 then
        .header :: ((((messages.take (range.stop - 1)).drop (range.start - 1)).map
          fun message ↦ message.line formats format startTime).map .message ++ [.header])
      else (((messages.take (range.stop - 1)).drop (range.start - 1)).map
        fun message ↦ message.line formats format startTime).map .message ++ [.header] := by
    unfold shownLines
    rw [take_drop_header]
    split_ifs with hstart
    · rw [hstart, List.drop_zero, List.map_map, ← List.map_take]
      rfl
    · rw [List.map_map, ← List.map_take, ← List.map_drop]
      rfl
  rw [hshown]
  exact yields_pure heap _

/-- The list shows the rows that the scroll area asks for, out of the visible messages. -/
theorem yields_viewerUpdate {heap : Heap} (hfree : heap.Free) (formats : Formats) {format : Format}
    (hformat : format ≠ .utf8) (startTime : Instant)
    (showRows : ∀ total, 0 < total → RowRange total) (data : List MessageCached) :
    Yields (viewerUpdate formats format startTime showRows data) heap
      (shownLines formats format startTime (visible heap data)
        (showRows ((visible heap data).length + 1) (Nat.succ_pos _))) heap := by
  refine yields_withRef hfree.get_globalPlace ?_ hfree.get_globalPlace
  have hkeep : ∀ message, Yields (do return !(← heap.globalFilter.value.filter message))
      (Heap.globalPlace.set heap ⟨heap.globalFilter.value, .reading 1⟩)
      (!heap.filter.filter message)
      (Heap.globalPlace.set heap ⟨heap.globalFilter.value, .reading 1⟩) :=
    fun message ↦ (hfree.yields_globalFilter message).bind (yields_pure _ _)
  exact (yields_filter hkeep data).bind (yields_showMessages formats hformat startTime _ _ _)

end CanopenTools.Viewer
