import CanopenTools.Viewer.Driver
import Mathlib.Data.List.Basic

/-!
# The GUI of the viewer

On each frame `Gui::get_data_from_driver` goes through the messages of the driver's state. It skips
the messages up to its cursor, the index at the front of its own list, gives the others to the
pinned filters and puts those that the global filter lets through at the front of the list. So the
cursor is the newest message that has passed the global filter. `getDataFromDriver_eq` says what a
frame does as a whole: the messages past the cursor that the frame starts with are taken, each once.

Two fields are a record of what has happened and are not in the program: `pushed`, the messages that
`push_data` was called with, and `delivered`, those of them that have matched a pinned row. Both
have the newest first.
-/

set_option autoImplicit false
set_option relaxedAutoImplicit false

namespace CanopenTools.Viewer

/-! ### Pinned filters -/

/-- A row of `PinnedFilters`: its filter, the stored time and the displayed message, with the record
`delivered`. -/
structure PinnedRow where
  filter : DataFilter
  time : Instant
  message : Option MessageCached
  delivered : List MessageCached

/-- `PinnedFilters::pin_filter`: a new row shows the newest message of the GUI that matches. -/
def pinFilter (rows : List PinnedRow) (filter : DataFilter) (data : List MessageCached)
    (now : Instant) : List PinnedRow :=
  rows ++ [⟨filter, now, data.find? fun message ↦ !filter.filter message, []⟩]

/-- The body of the loop of `PinnedFilters::push_data`. -/
def PinnedRow.push (row : PinnedRow) (message : MessageCached) (now : Instant) : PinnedRow :=
  if row.filter.filter message then row
  else
    { row with
      time := row.message.elim now MessageCached.getTimestamp
      message := some message
      delivered := message :: row.delivered }

/-- `PinnedFilters::push_data`. -/
def pushData (rows : List PinnedRow) (message : MessageCached) (now : Instant) : List PinnedRow :=
  rows.map fun row ↦ row.push message now

/-! ### The GUI -/

/-- The GUI: the messages that have passed the global filter, newest first, the pinned filters and
the global filter, with the record `pushed`. -/
structure Gui where
  data : List MessageCached
  pinnedFilters : List PinnedRow
  globalFilter : GlobalFilter
  pushed : List MessageCached

/-- `MESSAGES_COUNT`. -/
def messagesCount : ℕ := 4096

namespace Gui

/-- `Gui::new`. -/
def new : Gui := ⟨[], [], .default, []⟩

/-- A message is past the cursor, the index at the front of the list. -/
def Past (data : List MessageCached) (message : MessageCached) : Bool :=
  data.head?.all fun last ↦ !decide (message.index ≤ last.index)

/-- The body of the loop of `Gui::get_data_from_driver`, with the clock when the message is pushed.
-/
def receive (clock : MessageCached → Instant) (gui : Gui) (message : MessageCached) : Gui :=
  if Past gui.data message then
    { gui with
      pinnedFilters := pushData gui.pinnedFilters message (clock message)
      data := if gui.globalFilter.filter message then gui.data else message :: gui.data
      pushed := message :: gui.pushed }
  else gui

/-- `Gui::get_data_from_driver`, with the messages of the state that the driver has sent last. -/
def getDataFromDriver (clock : MessageCached → Instant) (gui : Gui) (data : List MessageCached) :
    Gui :=
  let gui := data.foldl (receive clock) gui
  { gui with data := gui.data.take messagesCount }

/-! ### One frame -/

theorem past_iff (data : List MessageCached) (message : MessageCached) :
    Past data message = true ↔ ∀ last, data.head? = some last → last.index < message.index := by
  unfold Past
  cases data.head? <;> simp

/-- A message does not move the cursor past a later one. -/
theorem past_receive (clock : MessageCached → Instant) (gui : Gui) {message later : MessageCached}
    (hlater : message.index < later.index) :
    Past (gui.receive clock message).data later = Past gui.data later := by
  unfold receive
  split_ifs with hpast hfilter
  · rfl
  · have hold : Past gui.data later = true :=
      (past_iff _ _).mpr fun last hlast ↦ ((past_iff _ _).mp hpast last hlast).trans hlater
    rw [hold, past_iff]
    rintro last ⟨⟩
    exact hlater
  · rfl

/-- The messages of the driver's state that a frame pushes. -/
def fresh (gui : Gui) (data : List MessageCached) : List MessageCached :=
  data.filter fun message ↦ Past gui.data message

/-- The messages that a frame has pushed and that the global filter lets through. -/
def accepted (gui : Gui) (data : List MessageCached) : List MessageCached :=
  (gui.fresh data).filter fun message ↦ !gui.globalFilter.filter message

/-- The loop of a frame pushes each message past the cursor once, in the order of the driver. -/
theorem foldl_receive (clock : MessageCached → Instant) (gui : Gui) {data : List MessageCached}
    (hsorted : data.Pairwise fun first second ↦ first.index < second.index) :
    data.foldl (receive clock) gui =
      { gui with
        data := (gui.accepted data).reverse ++ gui.data
        pinnedFilters := (gui.fresh data).foldl
          (fun rows message ↦ pushData rows message (clock message)) gui.pinnedFilters
        pushed := (gui.fresh data).reverse ++ gui.pushed } := by
  induction data generalizing gui with
  | nil => rfl
  | cons message data ih =>
    rw [List.pairwise_cons] at hsorted
    obtain ⟨hfirst, hsorted⟩ := hsorted
    have hrest : (gui.receive clock message).fresh data = gui.fresh data :=
      List.filter_congr fun later hlater ↦ past_receive clock gui (hfirst later hlater)
    rw [List.foldl_cons, ih _ hsorted, accepted, hrest]
    by_cases hpast : Past gui.data message = true
    · have hfresh : gui.fresh (message :: data) = message :: gui.fresh data :=
        List.filter_cons_of_pos hpast
      unfold accepted
      rw [hfresh, receive, if_pos hpast]
      by_cases hfilter : gui.globalFilter.filter message = true <;> simp [hfilter]
    · have hfresh : gui.fresh (message :: data) = gui.fresh data :=
        List.filter_cons_of_neg hpast
      rw [accepted, hfresh, receive, if_neg hpast]

/-- A frame as a whole. -/
theorem getDataFromDriver_eq (clock : MessageCached → Instant) (gui : Gui)
    {data : List MessageCached}
    (hsorted : data.Pairwise fun first second ↦ first.index < second.index) :
    gui.getDataFromDriver clock data =
      { gui with
        data := ((gui.accepted data).reverse ++ gui.data).take messagesCount
        pinnedFilters := (gui.fresh data).foldl
          (fun rows message ↦ pushData rows message (clock message)) gui.pinnedFilters
        pushed := (gui.fresh data).reverse ++ gui.pushed } := by
  rw [getDataFromDriver, foldl_receive clock gui hsorted]

theorem mem_fresh {gui : Gui} {data : List MessageCached} {message : MessageCached} :
    message ∈ gui.fresh data ↔ message ∈ data ∧ Past gui.data message = true := List.mem_filter

end Gui

end CanopenTools.Viewer
