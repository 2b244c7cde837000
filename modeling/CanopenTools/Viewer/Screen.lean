import CanopenTools.Viewer.Panels

/-!
# The screen of the viewer

`Gui::update` as a whole, on the cells of `Heap`: it reads the state of the driver, shows the
widgets for the connection and the format, the filter panel, the pinned rows and the list. `Screen`
has the fields of `Gui`, and `FrameInput` is what the user does in a frame and what the clock and
the scroll area say.

The list and the pinned rows show lines; a line has the cells of the table but for the last one,
which is about the contents of a message. Colours, sizes, the chart, the help text and the rate of
frames are left out, and so is the formatting of times.
-/

set_option autoImplicit false
set_option relaxedAutoImplicit false

namespace CanopenTools.Viewer

open Cells

/-! ### Lines -/

/-- `RxMessageToStringFormat`. -/
inductive Format
  | binary
  | hex
  | ascii
  | utf8
  deriving DecidableEq, Repr

/-- `RxMessage::data_to_string` for the formats in which no message is filtered. -/
structure Formats where
  dataToBinary : RxMessage → String
  dataToAscii : RxMessage → String

/-- `MessageCached::get_by_format`. -/
def MessageCached.getByFormat (formats : Formats) (message : MessageCached) (format : Format) :
    Action Heap String :=
  match format with
  | .utf8 => throw .assertion
  | .binary => pure (formats.dataToBinary message.msg)
  | .ascii => pure (formats.dataToAscii message.msg)
  | .hex => pure message.hexStr

/-- The text that a format other than UTF-8 shows. -/
def MessageCached.text (formats : Formats) (message : MessageCached) : Format → String
  | .binary => formats.dataToBinary message.msg
  | .ascii => formats.dataToAscii message.msg
  | _ => message.hexStr

/-- What is shown of a message: the time since another one, the COB id, the data, the type and the
node id. -/
structure Line where
  time : ℕ
  cob : String
  data : String
  desc : RxMessageType
  nodeId : Option ℕ
  deriving DecidableEq, Repr

/-- `MessageRow::message_custom_timestamp`. -/
def messageCustomTimestamp (formats : Formats) (format : Format) (message : MessageCached)
    (time : Instant) : Action Heap Line := do
  let data ← message.getByFormat formats format
  return ⟨message.getTimestamp - time, message.cobStr, data, message.parsedType,
    message.parsedNodeId⟩

/-- The line of a message. -/
def MessageCached.line (formats : Formats) (format : Format) (message : MessageCached)
    (time : Instant) : Line :=
  ⟨message.getTimestamp - time, message.cobStr, message.text formats format, message.parsedType,
    message.parsedNodeId⟩

theorem yields_line (formats : Formats) {format : Format} (hformat : format ≠ .utf8)
    (message : MessageCached) (time : Instant) (heap : Heap) :
    Yields (messageCustomTimestamp formats format message time) heap
      (message.line formats format time) heap := by
  cases format with
  | utf8 => exact absurd rfl hformat
  | _ => exact yields_pure heap _

/-! ### Pinned rows -/

/-- A row of `PinnedFilters`, with the record `delivered`. -/
structure PinnedPanel where
  panel : FilterDataPanel
  time : Instant
  message : Option MessageCached
  delivered : List MessageCached

/-- The body of the loop of `PinnedFilters::push_data`. -/
def PinnedPanel.push (row : PinnedPanel) (message : MessageCached) (now : Instant) :
    Action Heap PinnedPanel := do
  let filtered ← withRef (Heap.dataPlace row.panel.dataFilter) fun filter ↦
    pure (filter.filter message)
  if filtered then return row
  else
    return { row with
      time := row.message.elim now MessageCached.getTimestamp
      message := some message
      delivered := message :: row.delivered }

/-- What happens to a pinned row in a frame. -/
structure RowInput where
  delete : Bool := false
  edits : Edits := {}

/-- `PinnedFilters`. -/
abbrev PinnedFilters : Type := List PinnedPanel

namespace PinnedFilters

/-- `PinnedFilters::pin_filter`. -/
def pinFilter (rows : PinnedFilters) (filt : FilterDataPanel) (data : List MessageCached)
    (now : Instant) : Action Heap PinnedFilters := do
  let dataFilter ← withRef (Heap.dataPlace filt.dataFilter) fun filter ↦ pure filter
  let newData := data.find? fun message ↦ !dataFilter.filter message
  let address ← Heap.alloc dataFilter
  return rows ++ [⟨{ filt with dataFilter := address }, now, newData, []⟩]

/-- The panel that was asked to be pinned. -/
def pinPanel (rows : PinnedFilters) (toPin : Option FilterDataPanel) (data : List MessageCached)
    (now : Instant) : Action Heap PinnedFilters :=
  match toPin with
  | some toPin => rows.pinFilter toPin data now
  | none => pure rows

/-- `PinnedFilters::push_data`. -/
def pushData (rows : PinnedFilters) (message : MessageCached) (now : Instant) :
    Action Heap PinnedFilters :=
  rows.mapM fun row ↦ row.push message now

section Update

variable (parsers : Parsers) (formats : Formats) (format : Format) (inputs : ℕ → RowInput)

/-- The loop of `PinnedFilters::update` over the rows from an index on, with the index to delete. -/
def updateRows : ℕ → PinnedFilters → Option ℕ →
    Action Heap (PinnedFilters × List (Option Line) × Option ℕ)
  | _, [], toDelete => return ([], [], toDelete)
  | index, row :: rows, toDelete => do
    let toDelete := if (inputs index).delete then some index else toDelete
    let (panel, _) ← row.panel.update parsers (inputs index).edits
    let line ← row.message.mapM fun message ↦ messageCustomTimestamp formats format message row.time
    let (rows, lines, toDelete) ← updateRows (index + 1) rows toDelete
    return ({ row with panel } :: rows, line :: lines, toDelete)

/-- `PinnedFilters::update`, which deletes at most one row. -/
def update (rows : PinnedFilters) : Action Heap (PinnedFilters × List (Option Line)) := do
  let (rows, lines, toDelete) ← updateRows parsers formats format inputs 0 rows none
  match toDelete with
  | some index =>
    if index < rows.length then return (rows.eraseIdx index, lines) else throw .outOfRange
  | none => return (rows, lines)

end Update

end PinnedFilters

/-! ### The list -/

/-- The rows that a scroll area asks for, out of a positive number of them. -/
structure RowRange (total : ℕ) where
  start : ℕ
  stop : ℕ
  start_le : start ≤ stop
  stop_pos : 0 < stop
  stop_le : stop ≤ total

/-- What the list shows. -/
inductive ListLine
  | header
  | message (line : Line)
  deriving DecidableEq, Repr

/-- `GlobalFilter::filter` on the cells. -/
def GlobalCell.filter (filter : GlobalCell) (message : MessageCached) : Action Heap Bool := do
  let data ← withRef (Heap.dataPlace filter.data) fun data ↦ pure data
  return (GlobalFilter.mk filter.ignoreType data).filter message

/-- A difference of `usize`. -/
def sub (first second : ℕ) : Action Heap ℕ :=
  if second ≤ first then pure (first - second) else throw .underflow

/-- The range of messages for a range of rows, of which the first is the header. -/
def dataRange (start stop : ℕ) : Action Heap (ℕ × ℕ) := do
  if start = 0 then return (0, ← sub stop 1)
  else return (← sub start 1, ← sub stop 1)

/-- `VecDeque::range`. -/
def slice {α : Type} (data : List α) (start stop : ℕ) : Action Heap (List α) :=
  if start ≤ stop ∧ stop ≤ data.length then pure ((data.take stop).drop start)
  else throw .outOfRange

/-- What `Viewer::update` shows in the scroll area: the header stands in the first row, and below
all others. -/
def showMessages (formats : Formats) (format : Format) (startTime : Instant)
    (data : List MessageCached) (rowRange : RowRange (data.length + 1)) :
    Action Heap (List ListLine) := do
  let (start, stop) ← dataRange rowRange.start rowRange.stop
  let shown ← slice data start stop
  let lines ← shown.mapM fun message ↦ messageCustomTimestamp formats format message startTime
  let rows := lines.map .message ++ [.header]
  return if rowRange.start = 0 then .header :: rows else rows

/-- `Viewer::update`. -/
def viewerUpdate (formats : Formats) (format : Format) (startTime : Instant)
    (showRows : ∀ total, 0 < total → RowRange total) (data : List MessageCached) :
    Action Heap (List ListLine) :=
  withRef Heap.globalPlace fun filt ↦ do
    let data ← Cells.filter (fun message ↦ do return !(← filt.filter message)) data
    showMessages formats format startTime data (showRows (data.length + 1) data.length.succ_pos)

/-! ### The screen -/

/-- `CanOpenInfo`, as far as the GUI looks at it. -/
structure CanOpenInfo where
  receiverSocket : Bool
  transmitterSocket : Bool
  rxBits : ℕ
  deriving DecidableEq, Repr

/-- `Connection`. -/
structure Connection where
  canName : String
  bitrate : Option ℕ
  deriving DecidableEq, Repr

/-- `Control`. -/
structure Control where
  command : ControlCommand
  connection : Connection
  deriving DecidableEq, Repr

/-- `State`, as far as the GUI looks at it. -/
structure DriverState where
  data : List MessageCached
  info : CanOpenInfo
  exitSignal : Bool

/-- The state of the GUI, with the record `pushed`. -/
structure Screen where
  data : List MessageCached
  pinnedFilters : PinnedFilters
  filterPanel : FilterPanel
  format : Format
  canNameRaw : String
  bitrateRaw : String
  info : CanOpenInfo
  connection : Connection
  stopped : Bool
  startTime : Instant
  pushed : List MessageCached

/-- What the user, the clock and the scroll area do in a frame. -/
structure FrameInput where
  clock : MessageCached → Instant
  now : Instant
  canName : Option String := none
  bitrate : Option String := none
  connect : Bool := false
  hex : Bool := false
  binary : Bool := false
  ascii : Bool := false
  panel : PanelInput := {}
  rows : ℕ → RowInput := fun _ ↦ {}
  showRows : ∀ total, 0 < total → RowRange total

/-- What a frame leads to: the controls that are sent, the lines that are shown, or that the window
is closed. -/
structure FrameOutput where
  controls : List Control := []
  pinnedLines : List (Option Line) := []
  listLines : List ListLine := []
  closed : Bool := false

/-- `str::parse::<u32>(…).ok()`. -/
def parseU32 (text : String) : Option ℕ := parseUnsigned 0x100000000 text

namespace Screen

/-- The control that the GUI stands for. -/
def control (screen : Screen) : Control where
  command := if screen.stopped then .stop else .process
  connection := screen.connection

/-- One message of `Gui::get_data_from_driver`. -/
def receive (clock : MessageCached → Instant) (screen : Screen) (message : MessageCached) :
    Action Heap Screen := do
  if Gui.Past screen.data message then
    let pinnedFilters ← screen.pinnedFilters.pushData message (clock message)
    let filtered ← withRef Heap.globalPlace fun filter ↦ filter.filter message
    return { screen with
      pinnedFilters
      data := if filtered then screen.data else message :: screen.data
      pushed := message :: screen.pushed }
  else return screen

/-- `Gui::get_data_from_driver`. -/
def getDataFromDriver (clock : MessageCached → Instant) (screen : Screen) (driver : DriverState) :
    Action Heap Screen := do
  let screen ← driver.data.foldlM (receive clock) screen
  return { screen with data := screen.data.take messagesCount, info := driver.info }

/-- The button is enabled: the name is not empty, and the bitrate is a valid one or empty. -/
def ButtonEnabled (canNameRaw bitrateRaw : String) : Prop :=
  canNameRaw ≠ "" ∧
    ((∃ bitrate, parseU32 bitrateRaw = some bitrate ∧ bitrate ≤ 1000000 ∧ 0 < bitrate) ∨
      bitrateRaw = "")

instance (canNameRaw bitrateRaw : String) : Decidable (ButtonEnabled canNameRaw bitrateRaw) :=
  match hparse : parseU32 bitrateRaw with
  | none => decidable_of_iff (canNameRaw ≠ "" ∧ bitrateRaw = "") (by simp [ButtonEnabled, hparse])
  | some bitrate =>
    decidable_of_iff (canNameRaw ≠ "" ∧ ((bitrate ≤ 1000000 ∧ 0 < bitrate) ∨ bitrateRaw = ""))
      (by simp [ButtonEnabled, hparse])

/-- `Gui::show_connect_ui`, with the controls that are sent. -/
def showConnectUi (screen : Screen) (input : FrameInput) : Screen × List Control :=
  let canNameRaw := input.canName.getD screen.canNameRaw
  let bitrateRaw := input.bitrate.getD screen.bitrateRaw
  let screen := { screen with canNameRaw, bitrateRaw }
  if input.connect ∧ ButtonEnabled canNameRaw bitrateRaw then
    let screen := { screen with connection := ⟨canNameRaw, parseU32 bitrateRaw⟩ }
    (screen, [screen.control])
  else (screen, [])

/-- `Gui::show_format_ui`. -/
def showFormatUi (format : Format) (input : FrameInput) : Format :=
  let format := if input.hex then .hex else format
  let format := if input.binary then .binary else format
  if input.ascii then .ascii else format

/-- The widgets answer only while the connection is there. -/
def enabled (connected : Bool) (input : FrameInput) : FrameInput :=
  if connected then input else { input with panel := {}, rows := fun _ ↦ {} }

/-- The panels below the top of the window. -/
def centralPanel (parsers : Parsers) (formats : Formats) (screen : Screen) (input : FrameInput) :
    Action Heap (Screen × FrameOutput) := do
  let (filterPanel, toPin) ← screen.filterPanel.update parsers input.panel
  let changed := screen.stopped != filterPanel.stop
  let screen := { screen with filterPanel, stopped := filterPanel.stop }
  let controls := if changed then [screen.control] else []
  let pinnedFilters ← screen.pinnedFilters.pinPanel toPin screen.data input.now
  let (pinnedFilters, pinnedLines) ← pinnedFilters.update parsers formats screen.format input.rows
  let listLines ← viewerUpdate formats screen.format screen.startTime input.showRows screen.data
  return ({ screen with pinnedFilters }, { controls, pinnedLines, listLines })

/-- The CAN interface was there when the driver was read before. -/
def connected (screen : Screen) : Bool :=
  screen.info.receiverSocket || screen.info.transmitterSocket || 0 < screen.info.rxBits

/-- `Gui::update`. -/
def update (parsers : Parsers) (formats : Formats) (screen : Screen) (driver : DriverState)
    (input : FrameInput) : Action Heap (Screen × FrameOutput) := do
  let connected := screen.connected
  let screen ← screen.getDataFromDriver input.clock driver
  if driver.exitSignal then return (screen, { closed := true })
  else
    let (screen, connects) := screen.showConnectUi input
    let screen := { screen with format := showFormatUi screen.format input }
    let (screen, output) ← screen.centralPanel parsers formats (enabled connected input)
    return (screen, { output with controls := connects ++ output.controls })

/-- `Gui::new`. -/
def new (connection : Connection) (startTime : Instant) : Screen where
  data := []
  pinnedFilters := []
  filterPanel := .new 0
  format := .hex
  canNameRaw := connection.canName
  bitrateRaw := (connection.bitrate.map toString).getD ""
  info := ⟨false, false, 0⟩
  connection := connection
  stopped := false
  startTime := startTime
  pushed := []

end Screen

/-- The cells that `Gui::new` makes: the global filter and its data filter. -/
def Heap.start : Heap where
  globalFilter := .new ⟨.none, 0⟩
  dataFilters := fun _ ↦ .new ⟨none, none, none⟩
  next := 1

end CanopenTools.Viewer
