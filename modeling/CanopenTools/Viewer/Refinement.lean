import CanopenTools.Viewer.Frames
import Mathlib.Data.List.InsertIdx

/-!
# Frames of the screen and frames of the GUI

`Screen.gui` forgets the cells: what is left of a screen is the GUI of `App`, whose filters are
plain values. Reading the driver is `Gui.getDataFromDriver` on it (`gui_read`). The filter panel
sets the global filter, pinning adds a row, and the pinned panels edit and remove rows; since no two
panels share a cell, none of them changes anything else (`editedBy_filterPanel`, `rowsEdited_pin`,
`rowsEdited_editedRows`).

`Screen.yields_update` is the whole frame.
-/

set_option autoImplicit false
set_option relaxedAutoImplicit false

namespace CanopenTools.Viewer

open Cells

/-- The GUI with plain filters. -/
def Screen.gui (heap : Heap) (screen : Screen) : Gui where
  data := screen.data
  pinnedFilters := screen.pinnedFilters.map fun row ↦ row.row heap
  globalFilter := heap.filter
  pushed := screen.pushed

/-- The panels of the pinned rows. -/
def Screen.pinnedPanels (screen : Screen) : List FilterDataPanel :=
  screen.pinnedFilters.map PinnedPanel.panel

/-! ### Reading the driver -/

namespace Screen

/-- The screen after one message. -/
def received (heap : Heap) (clock : MessageCached → Instant) (screen : Screen)
    (message : MessageCached) : Screen :=
  if Gui.Past screen.data message then
    { screen with
      pinnedFilters := screen.pinnedFilters.map fun row ↦ row.pushed heap message (clock message)
      data := if heap.filter.filter message then screen.data else message :: screen.data
      pushed := message :: screen.pushed }
  else screen

/-- The screen after the state of the driver was read. -/
def read (heap : Heap) (clock : MessageCached → Instant) (screen : Screen) (driver : DriverState) :
    Screen :=
  { driver.data.foldl (received heap clock) screen with
    data := (driver.data.foldl (received heap clock) screen).data.take messagesCount
    info := driver.info }

variable {heap : Heap}

theorem yields_receive (hfree : heap.Free) (clock : MessageCached → Instant) (screen : Screen)
    (message : MessageCached) :
    Yields (screen.receive clock message) heap (screen.received heap clock message) heap := by
  unfold receive received
  by_cases hpast : Gui.Past screen.data message = true
  · rw [if_pos hpast, if_pos hpast]
    exact (PinnedFilters.yields_pushData hfree _ message (clock message)).bind
      ((hfree.yields_filtered message).bind (yields_pure heap _))
  · rw [if_neg hpast, if_neg hpast]
    exact yields_pure heap screen

theorem gui_received (heap : Heap) (clock : MessageCached → Instant) (screen : Screen)
    (message : MessageCached) :
    (screen.received heap clock message).gui heap = (screen.gui heap).receive clock message := by
  have hrows : (screen.pinnedFilters.map fun row ↦ row.pushed heap message (clock message)).map
      (fun row ↦ row.row heap) =
        pushData (screen.pinnedFilters.map fun row ↦ row.row heap) message (clock message) := by
    rw [pushData, List.map_map, List.map_map]
    exact List.map_congr_left fun row _ ↦ row.row_pushed heap message (clock message)
  unfold received Gui.receive
  by_cases hpast : Gui.Past screen.data message = true
  · have hguiPast : Gui.Past (screen.gui heap).data message = true := hpast
    rw [if_pos hpast, if_pos hguiPast]
    show Gui.mk _ _ _ _ = Gui.mk _ _ _ _
    rw [hrows]
    rfl
  · have hguiPast : ¬ Gui.Past (screen.gui heap).data message = true := hpast
    rw [if_neg hpast, if_neg hguiPast]

/-- Reading the driver on the cells is reading it on the plain values. -/
theorem gui_read (heap : Heap) (clock : MessageCached → Instant) (screen : Screen)
    (driver : DriverState) :
    (screen.read heap clock driver).gui heap =
      (screen.gui heap).getDataFromDriver clock driver.data := by
  have hfold : ∀ (messages : List MessageCached) (screen : Screen),
      (messages.foldl (received heap clock) screen).gui heap =
        messages.foldl (Gui.receive clock) (screen.gui heap) := by
    intro messages
    induction messages with
    | nil => exact fun _ ↦ rfl
    | cons message messages ih =>
      intro screen
      rw [List.foldl_cons, List.foldl_cons, ih, gui_received]
  unfold Gui.getDataFromDriver
  rw [← hfold]
  rfl

/-- Nothing but messages and rows differs. -/
structure SameWidgets (screen after : Screen) : Prop where
  filterPanel : after.filterPanel = screen.filterPanel
  pinnedPanels : after.pinnedPanels = screen.pinnedPanels
  format : after.format = screen.format
  raw : after.canNameRaw = screen.canNameRaw ∧ after.bitrateRaw = screen.bitrateRaw
  connection : after.connection = screen.connection
  stopped : after.stopped = screen.stopped
  startTime : after.startTime = screen.startTime

theorem SameWidgets.trans {screen middle after : Screen} (hfirst : SameWidgets screen middle)
    (hsecond : SameWidgets middle after) : SameWidgets screen after where
  filterPanel := hsecond.filterPanel.trans hfirst.filterPanel
  pinnedPanels := hsecond.pinnedPanels.trans hfirst.pinnedPanels
  format := hsecond.format.trans hfirst.format
  raw := ⟨hsecond.raw.1.trans hfirst.raw.1, hsecond.raw.2.trans hfirst.raw.2⟩
  connection := hsecond.connection.trans hfirst.connection
  stopped := hsecond.stopped.trans hfirst.stopped
  startTime := hsecond.startTime.trans hfirst.startTime

theorem sameWidgets_received (heap : Heap) (clock : MessageCached → Instant) (screen : Screen)
    (message : MessageCached) : SameWidgets screen (screen.received heap clock message) := by
  unfold received
  by_cases hpast : Gui.Past screen.data message = true
  · rw [if_pos hpast]
    refine ⟨rfl, ?_, rfl, ⟨rfl, rfl⟩, rfl, rfl, rfl⟩
    show (List.map _ _).map PinnedPanel.panel = screen.pinnedFilters.map PinnedPanel.panel
    rw [List.map_map]
    exact List.map_congr_left fun row _ ↦ row.panel_pushed heap message (clock message)
  · rw [if_neg hpast]
    exact ⟨rfl, rfl, rfl, ⟨rfl, rfl⟩, rfl, rfl, rfl⟩

theorem sameWidgets_read (heap : Heap) (clock : MessageCached → Instant) (screen : Screen)
    (driver : DriverState) : SameWidgets screen (screen.read heap clock driver) := by
  have hfold : ∀ (messages : List MessageCached) (screen : Screen),
      SameWidgets screen (messages.foldl (received heap clock) screen) := by
    intro messages
    induction messages with
    | nil => exact fun _ ↦ ⟨rfl, rfl, rfl, ⟨rfl, rfl⟩, rfl, rfl, rfl⟩
    | cons message messages ih =>
      exact fun screen ↦ (sameWidgets_received heap clock screen message).trans (ih _)
  obtain ⟨hpanel, hpinned, hformat, hraw, hconnection, hstopped, hstart⟩ := hfold driver.data screen
  exact ⟨hpanel, hpinned, hformat, hraw, hconnection, hstopped, hstart⟩

theorem yields_getDataFromDriver (hfree : heap.Free) (clock : MessageCached → Instant)
    (screen : Screen) (driver : DriverState) :
    Yields (screen.getDataFromDriver clock driver) heap (screen.read heap clock driver) heap :=
  (yields_foldlM (fun screen message ↦ yields_receive hfree clock screen message) driver.data
    screen).bind (yields_pure heap _)

end Screen

/-! ### Changes by the panels -/

section Edits

variable {parsers : Parsers} {heap : Heap} {panel : FilterPanel} {screen : Screen}

/-- The filter panel sets the global filter. -/
theorem filter_heapAfter {pinned : List FilterDataPanel}
    (hvalid : PanelsValid parsers heap panel pinned) (input : PanelInput) :
    (panel.heapAfter parsers input heap).filter =
      ⟨FilterPanel.flagsAfter input heap.filter.ignoreType,
        heap.filter.data.edited parsers input.edits⟩ := by
  show GlobalFilter.mk _ ((panel.heapAfter parsers input heap).value
    heap.globalFilter.value.data) = _
  rw [hvalid.shared, PanelsValid.value_heapAfter_self, ← hvalid.shared]
  rfl

/-- It changes no row. -/
theorem rows_heapAfter (hvalid : PanelsValid parsers heap panel screen.pinnedPanels)
    (input : PanelInput) :
    (screen.pinnedFilters.map fun row ↦ row.row (panel.heapAfter parsers input heap)) =
      screen.pinnedFilters.map fun row ↦ row.row heap := by
  refine List.map_congr_left fun row hrow ↦ ?_
  show PinnedRow.mk _ _ _ _ = PinnedRow.mk _ _ _ _
  rw [PanelsValid.value_heapAfter_of_ne parsers heap panel input
    (hvalid.ne_of_mem (List.mem_map_of_mem hrow))]

theorem editedBy_filterPanel (canopen : Canopen)
    (hvalid : PanelsValid parsers heap panel screen.pinnedPanels) (input : PanelInput) :
    Gui.EditedBy canopen
      [.setGlobalFilter ⟨FilterPanel.flagsAfter input heap.filter.ignoreType,
        heap.filter.data.edited parsers input.edits⟩]
      (screen.gui heap) (screen.gui (panel.heapAfter parsers input heap)) := by
  intro driver
  rw [← filter_heapAfter hvalid input]
  show App.mk driver (Gui.mk _ _ _ _) = App.mk driver (Gui.mk _ _ _ _)
  rw [rows_heapAfter hvalid input]
  rfl

/-- What changes of the pinned rows lead to: the invariant still holds, the global filter is the
same, and the rows were edited in known steps. -/
structure RowsEdited (canopen : Canopen) (parsers : Parsers) (panel : FilterPanel)
    (data pushed : List MessageCached) (steps : List Step) (heap heap' : Heap)
    (rows rows' : PinnedFilters) : Prop where
  valid : PanelsValid parsers heap' panel (rows'.map PinnedPanel.panel)
  globalFilter : heap'.globalFilter = heap.globalFilter
  edited : Gui.EditedBy canopen steps
    ⟨data, rows.map fun row ↦ row.row heap, heap.filter, pushed⟩
    ⟨data, rows'.map fun row ↦ row.row heap', heap'.filter, pushed⟩

section Rows

variable {canopen : Canopen} {data pushed : List MessageCached} {heap' heap'' : Heap}
  {rows rows' rows'' : PinnedFilters} {first second : List Step}

theorem RowsEdited.refl (canopen : Canopen) (data pushed : List MessageCached)
    (hvalid : PanelsValid parsers heap panel (rows.map PinnedPanel.panel)) :
    RowsEdited canopen parsers panel data pushed [] heap heap rows rows :=
  ⟨hvalid, rfl, Gui.EditedBy.refl canopen _⟩

theorem RowsEdited.append
    (hfirst : RowsEdited canopen parsers panel data pushed first heap heap' rows rows')
    (hsecond : RowsEdited canopen parsers panel data pushed second heap' heap'' rows' rows'') :
    RowsEdited canopen parsers panel data pushed (first ++ second) heap heap'' rows rows'' :=
  ⟨hsecond.valid, hsecond.globalFilter.trans hfirst.globalFilter,
    hfirst.edited.append hsecond.edited⟩

/-- A new cell changes no row. -/
theorem row_grown (hvalid : PanelsValid parsers heap panel (rows.map PinnedPanel.panel))
    {row : PinnedPanel} (hrow : row ∈ rows) (filter : DataFilter) :
    row.row (heap.grown filter) = row.row heap := by
  have hold := hvalid.allocated row.panel (List.mem_cons_of_mem _ (List.mem_map_of_mem hrow))
  show PinnedRow.mk _ _ _ _ = PinnedRow.mk _ _ _ _
  rw [Heap.value_grown_of_ne heap hold.ne]

/-- Pinning adds a row with the filter of the panel. -/
theorem rowsEdited_pin (canopen : Canopen) (data pushed : List MessageCached)
    (hvalid : PanelsValid parsers heap panel (rows.map PinnedPanel.panel)) (now : Instant) :
    RowsEdited canopen parsers panel data pushed
      [.pin (heap.value panel.dataPanel.dataFilter) now] heap
      (heap.grown (heap.value panel.dataPanel.dataFilter)) rows
      (rows ++ [⟨{ panel.dataPanel with dataFilter := heap.next }, now,
        data.find? fun message ↦ !(heap.value panel.dataPanel.dataFilter).filter message, []⟩])
      := by
  refine ⟨?_, rfl, fun driver ↦ ?_⟩
  · rw [List.map_append]
    exact hvalid.pin
  · have hrows : (rows.map fun row ↦ row.row (heap.grown (heap.value panel.dataPanel.dataFilter))) =
        rows.map fun row ↦ row.row heap :=
      List.map_congr_left fun row hrow ↦ row_grown hvalid hrow _
    have hfilter : (heap.grown (heap.value panel.dataPanel.dataFilter)).filter = heap.filter := by
      have hold := hvalid.allocated _ List.mem_cons_self
      rw [← hvalid.shared] at hold
      show GlobalFilter.mk _ _ = GlobalFilter.mk _ _
      rw [← Heap.value_grown_of_ne heap hold.ne (heap.value panel.dataPanel.dataFilter)]
      rfl
    have hnew : (heap.grown (heap.value panel.dataPanel.dataFilter)).value heap.next =
        heap.value panel.dataPanel.dataFilter := Heap.value_grown_self heap _
    show App.mk driver (Gui.mk _ _ _ _) = App.mk driver (Gui.mk _ _ _ _)
    rw [List.map_append, hrows, hfilter, List.map_singleton, PinnedPanel.row, hnew]
    rfl

theorem modify_middle {α : Type} (before after : List α) (entry : α) (change : α → α) :
    (before ++ entry :: after).modify before.length change = before ++ change entry :: after := by
  rw [List.modify_eq_take_drop]
  simp

section Middle

variable {before after : PinnedFilters} {row : PinnedPanel}

/-- The cell of one row is not that of another. -/
theorem ne_of_mem_others
    (hvalid : PanelsValid parsers heap panel ((before ++ row :: after).map PinnedPanel.panel))
    {other : PinnedPanel} (hother : other ∈ before ++ after) :
    other.panel.dataFilter ≠ row.panel.dataFilter := by
  have hnodup := hvalid.nodup
  rw [List.map_cons, List.nodup_cons, List.map_append, List.map_cons, List.map_append,
    List.map_cons, List.nodup_middle, List.nodup_cons, ← List.map_append, ← List.map_append]
    at hnodup
  exact fun hsame ↦ hnodup.2.1 (hsame ▸ List.mem_map_of_mem (List.mem_map_of_mem hother))

/-- When the filter of one row is edited, the others are left as they are. -/
theorem rows_put
    (hvalid : PanelsValid parsers heap panel ((before ++ row :: after).map PinnedPanel.panel))
    {others : PinnedFilters} (hothers : others.Sublist (before ++ after)) (filter : DataFilter) :
    (others.map fun other ↦ other.row (heap.put row.panel.dataFilter filter)) =
      others.map fun other ↦ other.row heap := by
  refine List.map_congr_left fun other hother ↦ ?_
  show PinnedRow.mk _ _ _ _ = PinnedRow.mk _ _ _ _
  rw [Heap.value_put_of_ne heap (ne_of_mem_others hvalid (hothers.subset hother))]

/-- So is the global filter. -/
theorem filter_put
    (hvalid : PanelsValid parsers heap panel ((before ++ row :: after).map PinnedPanel.panel))
    (filter : DataFilter) : (heap.put row.panel.dataFilter filter).filter = heap.filter := by
  have hne : heap.globalFilter.value.data ≠ row.panel.dataFilter := by
    rw [hvalid.shared]
    exact (hvalid.ne_of_mem (List.mem_map_of_mem (by simp))).symm
  show GlobalFilter.mk heap.globalFilter.value.ignoreType
    ((heap.put row.panel.dataFilter filter).value heap.globalFilter.value.data) = _
  rw [Heap.value_put_of_ne heap hne]
  rfl

/-- One pinned panel edits its row. -/
theorem rowsEdited_editRow (canopen : Canopen) (data pushed : List MessageCached)
    (hvalid : PanelsValid parsers heap panel ((before ++ row :: after).map PinnedPanel.panel))
    (edits : Edits) :
    RowsEdited canopen parsers panel data pushed
      [.editPinned before.length ((heap.value row.panel.dataFilter).edited parsers edits)] heap
      (heap.put row.panel.dataFilter ((heap.value row.panel.dataFilter).edited parsers edits))
      (before ++ row :: after)
      (before ++ { row with panel := row.panel.edited edits } :: after) := by
  refine ⟨?_, rfl, fun driver ↦ ?_⟩
  · rw [List.map_append, List.map_cons] at hvalid ⊢
    exact hvalid.editPinned _ _ row.panel edits
  · have hbefore := rows_put hvalid (List.sublist_append_left before after)
      ((heap.value row.panel.dataFilter).edited parsers edits)
    have hafter := rows_put hvalid (List.sublist_append_right before after)
      ((heap.value row.panel.dataFilter).edited parsers edits)
    have hrow : ({ row with panel := row.panel.edited edits } : PinnedPanel).row
          (heap.put row.panel.dataFilter ((heap.value row.panel.dataFilter).edited parsers edits)) =
        { row.row heap with filter := (heap.value row.panel.dataFilter).edited parsers edits } :=
      congrArg (PinnedRow.mk · row.time row.message row.delivered) (Heap.value_put_self heap _ _)
    have hlength : before.length = (before.map fun row ↦ row.row heap).length :=
      (List.length_map _).symm
    rw [filter_put hvalid, List.map_append, List.map_cons, List.map_append, List.map_cons,
      hbefore, hafter, hrow, hlength, List.foldl_cons, List.foldl_nil, App.step]
    dsimp only
    rw [modify_middle]

end Middle

/-- The pinned panels edit their rows, one after the other. -/
theorem rowsEdited_editedRows (canopen : Canopen) (data pushed : List MessageCached)
    (inputs : ℕ → RowInput) (rows before : PinnedFilters) {heap : Heap}
    (hvalid : PanelsValid parsers heap panel ((before ++ rows).map PinnedPanel.panel)) :
    RowsEdited canopen parsers panel data pushed
      (editSteps parsers inputs before.length
        ((rows.map fun row ↦ row.row heap).map PinnedRow.filter)) heap
      (PinnedFilters.editedHeap parsers inputs before.length rows heap)
      (before ++ rows) (before ++ PinnedFilters.editedRows inputs before.length rows) := by
  induction rows generalizing before heap with
  | nil => exact RowsEdited.refl canopen data pushed hvalid
  | cons row rows ih =>
    have hstep := rowsEdited_editRow canopen data pushed hvalid (inputs before.length).edits
    have hsame := rows_put hvalid (List.sublist_append_right before rows)
      ((heap.value row.panel.dataFilter).edited parsers (inputs before.length).edits)
    have hmove : ∀ (row : PinnedPanel) (rows : PinnedFilters),
        before ++ row :: rows = before ++ [row] ++ rows := by simp
    have hrest :=
      ih (before ++ [{ row with panel := row.panel.edited (inputs before.length).edits }])
        (by rw [← hmove]; exact hstep.valid)
    rw [List.length_append, List.length_singleton, ← hmove, ← hmove, hsame] at hrest
    exact hstep.append hrest

/-- A row is removed, or none. -/
theorem RowsEdited.delete
    (hedited : RowsEdited canopen parsers panel data pushed first heap heap' rows rows')
    (toDelete : Option ℕ) :
    RowsEdited canopen parsers panel data pushed (first ++ (toDelete.map Step.unpin).toList)
      heap heap' rows (toDelete.elim rows' rows'.eraseIdx) := by
  cases toDelete with
  | none => exact hedited.append (RowsEdited.refl canopen data pushed hedited.valid)
  | some index =>
    refine hedited.append ⟨?_, rfl, fun driver ↦ ?_⟩
    · exact hedited.valid.sublist ((rows'.eraseIdx_sublist index).map _)
    · show App.mk driver (Gui.mk data ((rows'.map _).eraseIdx index) heap'.filter pushed) = _
      rw [List.eraseIdx_map]
      rfl

end Rows

end Edits

/-! ### One frame -/

namespace Screen

/-- The invariant of a screen between two frames. -/
structure Valid (parsers : Parsers) (heap : Heap) (screen : Screen) : Prop where
  panels : PanelsValid parsers heap screen.filterPanel screen.pinnedPanels
  format : screen.format ≠ .utf8
  stopped : screen.stopped = screen.filterPanel.stop

theorem Valid.of_sameWidgets {parsers : Parsers} {heap : Heap} {screen after : Screen}
    (hvalid : screen.Valid parsers heap) (hsame : SameWidgets screen after) :
    after.Valid parsers heap := by
  obtain ⟨hpanels, hformat, hstopped⟩ := hvalid
  refine ⟨?_, hsame.format ▸ hformat, ?_⟩
  · rw [hsame.filterPanel, hsame.pinnedPanels]
    exact hpanels
  · rw [hsame.stopped, hsame.filterPanel]
    exact hstopped

/-- What the panels below the top of the window lead to. -/
structure PanelsDone (canopen : Canopen) (parsers : Parsers) (formats : Formats)
    (input : FrameInput) (heap : Heap) (screen : Screen) (heap' : Heap) (screen' : Screen)
    (output : FrameOutput) : Prop where
  valid : screen'.Valid parsers heap'
  edited : Gui.EditedBy canopen ((screen.gui heap).userSteps parsers input) (screen.gui heap)
    (screen'.gui heap')
  filterPanel : screen'.filterPanel = screen.filterPanel.edited input.panel
  flags : heap'.globalFilter.value.ignoreType =
    FilterPanel.flagsAfter input.panel heap.globalFilter.value.ignoreType
  connection : screen'.connection = screen.connection
  controls : output.controls = if screen.stopped = screen'.stopped then [] else [screen'.control]
  closed : output.closed = false
  listLines : output.listLines = shownLines formats screen'.format screen'.startTime
    (visible heap' screen'.data) (input.showRows _ (Nat.succ_pos _))

/-- The panel is pinned or not. -/
theorem exists_pinned (canopen : Canopen) {parsers : Parsers} {heap : Heap} {panel : FilterPanel}
    (screen : Screen) (hvalid : PanelsValid parsers heap panel screen.pinnedPanels) (pin : Bool)
    (now : Instant) :
    ∃ rows heap',
      Yields
        (screen.pinnedFilters.pinPanel (if pin then some panel.dataPanel else none) screen.data now)
        heap rows heap' ∧
      RowsEdited canopen parsers panel screen.data screen.pushed
        (if pin then [.pin (heap.value panel.dataPanel.dataFilter) now] else []) heap heap'
        screen.pinnedFilters rows ∧
      (rows.map fun row ↦ row.row heap').map PinnedRow.filter =
        (screen.pinnedFilters.map fun row ↦ row.row heap).map PinnedRow.filter ++
          if pin then [heap.value panel.dataPanel.dataFilter] else [] := by
  cases pin with
  | false =>
    exact ⟨_, _, yields_pure heap _, RowsEdited.refl canopen _ _ hvalid, (List.append_nil _).symm⟩
  | true =>
    refine ⟨_, _, PinnedFilters.yields_pinFilter hvalid.free _ panel.dataPanel screen.data now,
      rowsEdited_pin canopen screen.data screen.pushed hvalid now, ?_⟩
    rw [List.map_append, List.map_append,
      List.map_congr_left fun row hrow ↦ row_grown hvalid hrow
        (heap.value panel.dataPanel.dataFilter)]
    exact congrArg (_ ++ [·]) (Heap.value_grown_self heap _)

theorem yields_centralPanel (canopen : Canopen) {parsers : Parsers} (formats : Formats)
    {heap : Heap} {screen : Screen} (hvalid : screen.Valid parsers heap) (input : FrameInput) :
    ∃ screen' output heap', Yields (screen.centralPanel parsers formats input) heap
      (screen', output) heap' ∧
      PanelsDone canopen parsers formats input heap screen heap' screen' output := by
  obtain ⟨hpanels, hformat, -⟩ := hvalid
  have hpanel := FilterPanel.yields_update hpanels.free parsers screen.filterPanel input.panel
  have hset := editedBy_filterPanel canopen hpanels input.panel
  have hvalid₁ := hpanels.filterPanel input.panel
  obtain ⟨rows, heap₂, hpin, hpinned, hfilters⟩ :=
    exists_pinned canopen screen hvalid₁ input.panel.pin input.now
  have hrows :=
    PinnedFilters.yields_update parsers formats input.rows hformat rows hpinned.valid.free
  have hedited :=
    rowsEdited_editedRows canopen screen.data screen.pushed input.rows rows [] hpinned.valid
  have hdone := (hpinned.append hedited).delete (RowInput.deleted input.rows 0 rows.length)
  have hlist :=
    yields_viewerUpdate hdone.valid.free formats hformat screen.startTime input.showRows screen.data
  refine ⟨_, _, _, hpanel.bind (hpin.bind (hrows.bind (hlist.bind (yields_pure _ _)))), ?_⟩
  refine ⟨⟨hdone.valid, hformat, rfl⟩, ?_, rfl,
    congrArg (fun cell ↦ cell.value.ignoreType) hdone.globalFilter, rfl, ?_, rfl, rfl⟩
  · have hdata : (screen.filterPanel.heapAfter parsers input.panel heap).value
        (screen.filterPanel.edited input.panel).dataPanel.dataFilter =
          heap.filter.data.edited parsers input.panel.edits := by
      show (screen.filterPanel.heapAfter parsers input.panel heap).value
        screen.filterPanel.dataPanel.dataFilter = _
      rw [PanelsValid.value_heapAfter_self, ← hpanels.shared]
      rfl
    rw [hdata] at hdone hfilters
    rw [rows_heapAfter hpanels input.panel] at hfilters
    have hgui : (rows.map fun row ↦ row.row heap₂).map PinnedRow.filter =
        (screen.gui heap).pinnedFilters.map PinnedRow.filter ++ if input.panel.pin then
          [(screen.gui heap).globalFilter.data.edited parsers input.panel.edits] else [] := hfilters
    have hsteps := hset.append hdone.edited
    rw [← List.append_assoc, ← List.append_assoc] at hsteps
    unfold Gui.userSteps
    dsimp only
    rw [← hgui, List.length_map, List.length_map]
    exact hsteps
  · by_cases hstop : screen.stopped = (screen.filterPanel.edited input.panel).stop
    · rw [if_pos hstop]
      exact if_neg (by rw [hstop, bne_self_eq_false]; exact Bool.false_ne_true)
    · rw [if_neg hstop]
      exact if_pos (bne_iff_ne.mpr hstop)

end Screen

/-- A connection that the user may ask for: it has a name, and a bitrate in the range of CAN or
none. -/
def Connection.Allowed (connection : Connection) : Prop :=
  connection.canName ≠ "" ∧ ∀ bitrate ∈ connection.bitrate, 0 < bitrate ∧ bitrate ≤ 1000000

namespace Screen

theorem allowed_of_buttonEnabled {canNameRaw bitrateRaw : String}
    (henabled : ButtonEnabled canNameRaw bitrateRaw) :
    Connection.Allowed ⟨canNameRaw, parseU32 bitrateRaw⟩ := by
  refine ⟨henabled.1, fun bitrate hbitrate ↦ ?_⟩
  have hparse : parseU32 bitrateRaw = some bitrate := hbitrate
  rcases henabled.2 with ⟨other, hother, hle, hpos⟩ | hempty
  · rw [hparse] at hother
    obtain rfl := Option.some.inj hother
    exact ⟨hpos, hle⟩
  · rw [hempty, parseU32, parseUnsigned_empty] at hparse
    cases hparse

/-- The widgets for the connection change nothing else, and send the control of a new connection. -/
structure Connects (screen after : Screen) (controls : List Control) : Prop where
  same : after = { screen with
    canNameRaw := after.canNameRaw, bitrateRaw := after.bitrateRaw, connection := after.connection }
  controls : (controls = [] ∧ after.connection = screen.connection) ∨
    (controls = [after.control] ∧ after.connection.Allowed)

theorem connects_showConnectUi (screen : Screen) (input : FrameInput) :
    Connects screen (screen.showConnectUi input).1 (screen.showConnectUi input).2 := by
  unfold showConnectUi
  by_cases hconnect : input.connect = true ∧
      ButtonEnabled (input.canName.getD screen.canNameRaw) (input.bitrate.getD screen.bitrateRaw)
  · dsimp only
    rw [if_pos hconnect]
    exact ⟨rfl, Or.inr ⟨rfl, allowed_of_buttonEnabled hconnect.2⟩⟩
  · dsimp only
    rw [if_neg hconnect]
    exact ⟨rfl, Or.inl ⟨rfl, rfl⟩⟩

theorem showFormatUi_ne {format : Format} (hformat : format ≠ .utf8) (input : FrameInput) :
    showFormatUi format input ≠ .utf8 := by
  unfold showFormatUi
  split_ifs <;> first | exact hformat | exact Format.noConfusion

/-- The filter panel's part of what the user does, which counts while there is a connection. -/
def panelInput (screen : Screen) (driver : DriverState) (input : FrameInput) : PanelInput :=
  if driver.exitSignal then {} else (enabled screen.connected input).panel

/-- What a frame leads to. -/
structure FrameDone (canopen : Canopen) (parsers : Parsers) (formats : Formats)
    (driver : DriverState) (input : FrameInput) (heap : Heap) (screen : Screen) (heap' : Heap)
    (screen' : Screen) (output : FrameOutput) : Prop where
  valid : screen'.Valid parsers heap'
  edited : Gui.EditedBy canopen
    (((screen.gui heap).getDataFromDriver input.clock driver.data).frameSteps parsers
      driver.exitSignal screen.connected input)
    ((screen.gui heap).getDataFromDriver input.clock driver.data) (screen'.gui heap')
  filterPanel : screen'.filterPanel = screen.filterPanel.edited (screen.panelInput driver input)
  flags : heap'.globalFilter.value.ignoreType =
    FilterPanel.flagsAfter (screen.panelInput driver input) heap.globalFilter.value.ignoreType
  connection : screen'.connection = screen.connection ∨ screen'.connection.Allowed
  control : output.controls.getLastD screen.control = screen'.control
  closed : output.closed = driver.exitSignal
  quiet : driver.exitSignal = true → output.controls = []
  listLines : driver.exitSignal = false →
    output.listLines = shownLines formats screen'.format screen'.startTime
      (visible heap' screen'.data) (input.showRows _ (Nat.succ_pos _))

theorem edited_empty (panel : FilterPanel) : panel.edited {} = panel := rfl

theorem flagsAfter_empty (flags : Flags) : FilterPanel.flagsAfter {} flags = flags := rfl

/-- The last control of a frame is what the GUI stands for, and without one it stands for what it
did. -/
theorem control_of_connects {screen middle after : Screen} {connects stops : List Control}
    (hconnects : (connects = [] ∧ middle.connection = screen.connection) ∨
      (connects = [middle.control] ∧ middle.connection.Allowed))
    (hmiddle : middle.stopped = screen.stopped) (hconnection : after.connection = middle.connection)
    (hstops : stops = if middle.stopped = after.stopped then [] else [after.control]) :
    (connects ++ stops).getLastD screen.control = after.control := by
  by_cases hstopped : middle.stopped = after.stopped
  · have hcontrol : middle.control = after.control := by
      unfold control
      rw [hconnection, hstopped]
    rw [hstops, if_pos hstopped, List.append_nil, ← hcontrol]
    rcases hconnects with ⟨rfl, hold⟩ | ⟨rfl, -⟩
    · show screen.control = middle.control
      unfold control
      rw [hmiddle, hold]
    · rfl
  · rw [hstops, if_neg hstopped, List.getLastD_concat]

/-- What the widgets above the panels lead to, behind the reading of the driver: the panels are as
they were, and the control of a new connection may have been sent. -/
structure TopDone (parsers : Parsers) (heap : Heap) (gui : Gui) (screen top : Screen)
    (controls : List Control) : Prop where
  valid : top.Valid parsers heap
  gui : top.gui heap = gui
  filterPanel : top.filterPanel = screen.filterPanel
  stopped : top.stopped = screen.stopped
  controls : (controls = [] ∧ top.connection = screen.connection) ∨
    (controls = [top.control] ∧ top.connection.Allowed)

section Frame

variable {parsers : Parsers} {heap heap' : Heap} {screen screen' top : Screen}
  {output : FrameOutput} {connects : List Control}

theorem topDone_read (hvalid : screen.Valid parsers heap) (driver : DriverState)
    (input : FrameInput) :
    let shown := (screen.read heap input.clock driver).showConnectUi input
    TopDone parsers heap ((screen.gui heap).getDataFromDriver input.clock driver.data) screen
      { shown.1 with format := showFormatUi shown.1.format input } shown.2 := by
  intro shown
  have hread := sameWidgets_read heap input.clock screen driver
  obtain ⟨hsame, hcontrols⟩ : Connects _ shown.1 shown.2 := connects_showConnectUi _ input
  have hformat : shown.1.format = screen.format :=
    (congrArg Screen.format hsame).trans hread.format
  have hpanel : shown.1.filterPanel = screen.filterPanel :=
    (congrArg Screen.filterPanel hsame).trans hread.filterPanel
  have hpinned : shown.1.pinnedPanels = screen.pinnedPanels :=
    (congrArg Screen.pinnedPanels hsame).trans hread.pinnedPanels
  have hstopped : shown.1.stopped = screen.stopped :=
    (congrArg Screen.stopped hsame).trans hread.stopped
  refine ⟨⟨?_, showFormatUi_ne (hformat ▸ hvalid.format) input, ?_⟩, ?_, hpanel, hstopped, ?_⟩
  · show PanelsValid parsers heap shown.1.filterPanel shown.1.pinnedPanels
    rw [hpanel, hpinned]
    exact hvalid.panels
  · show shown.1.stopped = shown.1.filterPanel.stop
    rw [hpanel, hstopped]
    exact hvalid.stopped
  · exact (congrArg (Screen.gui heap) hsame).trans (gui_read heap input.clock screen driver)
  · exact hcontrols.imp_left fun hold ↦ ⟨hold.1, hold.2.trans hread.connection⟩

/-- A frame of a driver that has ended: its state is read, and the window closes. -/
theorem frameDone_ended (canopen : Canopen) (formats : Formats)
    (hvalid : screen.Valid parsers heap) {driver : DriverState} (hexit : driver.exitSignal = true)
    (input : FrameInput) :
    FrameDone canopen parsers formats driver input heap screen heap
      (screen.read heap input.clock driver) { closed := true } := by
  have hread := sameWidgets_read heap input.clock screen driver
  have hinput : screen.panelInput driver input = {} := if_pos hexit
  have hsteps : ((screen.gui heap).getDataFromDriver input.clock driver.data).frameSteps parsers
      driver.exitSignal screen.connected input = [] := if_pos hexit
  refine ⟨hvalid.of_sameWidgets hread, ?_, ?_, ?_, Or.inl hread.connection, ?_, hexit.symm,
    fun _ ↦ rfl, fun hopen ↦ ?_⟩
  · rw [hsteps, gui_read heap input.clock screen driver]
    exact Gui.EditedBy.refl canopen _
  · rw [hinput, edited_empty, hread.filterPanel]
  · rw [hinput, flagsAfter_empty]
  · show screen.control = control _
    unfold control
    rw [hread.stopped, hread.connection]
  · rw [hexit] at hopen
    cases hopen

/-- A frame of a running driver: the widgets at the top, and then the panels. -/
theorem TopDone.frameDone {canopen : Canopen} {formats : Formats} {driver : DriverState}
    {input : FrameInput} (hexit : driver.exitSignal = false)
    (htop : TopDone parsers heap ((screen.gui heap).getDataFromDriver input.clock driver.data)
      screen top connects)
    (hdone : PanelsDone canopen parsers formats (enabled screen.connected input) heap top heap'
      screen' output) :
    FrameDone canopen parsers formats driver input heap screen heap' screen'
      { output with controls := connects ++ output.controls } := by
  have hrunning : ¬ driver.exitSignal = true := by rw [hexit]; exact Bool.false_ne_true
  have hinput : screen.panelInput driver input = (enabled screen.connected input).panel :=
    if_neg hrunning
  have hsteps : ((screen.gui heap).getDataFromDriver input.clock driver.data).frameSteps parsers
      driver.exitSignal screen.connected input =
        (top.gui heap).userSteps parsers (enabled screen.connected input) := by
    rw [htop.gui, Gui.frameSteps, if_neg hrunning]
  have hconnection : screen'.connection = screen.connection ∨ screen'.connection.Allowed := by
    rw [hdone.connection]
    exact htop.controls.imp And.right And.right
  refine ⟨hdone.valid, ?_, ?_, ?_, hconnection, ?_, hdone.closed.trans hexit.symm,
    fun hended ↦ absurd hended hrunning, fun _ ↦ ?_⟩
  · rw [hsteps, ← htop.gui]
    exact hdone.edited
  · rw [hinput, ← htop.filterPanel]
    exact hdone.filterPanel
  · rw [hinput]
    exact hdone.flags
  · exact control_of_connects htop.controls htop.stopped hdone.connection hdone.controls
  · have hrows : (enabled screen.connected input).showRows = input.showRows := by
      unfold enabled
      split_ifs <;> rfl
    exact hrows ▸ hdone.listLines

end Frame

/-- No frame panics. What it does to the plain values is a frame of the GUI, and then changes by the
user. -/
theorem yields_update (canopen : Canopen) {parsers : Parsers} (formats : Formats) {heap : Heap}
    {screen : Screen} (hvalid : screen.Valid parsers heap) (driver : DriverState)
    (input : FrameInput) :
    ∃ screen' output heap', Yields (screen.update parsers formats driver input) heap
      (screen', output) heap' ∧
      FrameDone canopen parsers formats driver input heap screen heap' screen' output := by
  have hread := yields_getDataFromDriver hvalid.panels.free input.clock screen driver
  by_cases hexit : driver.exitSignal = true
  · refine ⟨_, _, heap, hread.bind ?_, frameDone_ended canopen formats hvalid hexit input⟩
    rw [if_pos hexit]
    exact yields_pure heap _
  · have htop := topDone_read hvalid driver input
    obtain ⟨screen', output, heap', hcentral, hdone⟩ :=
      yields_centralPanel canopen formats htop.valid (enabled screen.connected input)
    refine ⟨screen', _, heap', hread.bind ?_,
      htop.frameDone (Bool.eq_false_iff.mpr hexit) hdone⟩
    rw [if_neg hexit]
    exact hcentral.bind (yields_pure _ _)

end Screen

end CanopenTools.Viewer
