import CanopenTools.Viewer.Refinement

/-!
# What the user sees of a filter

`Widgets` is the filter panel as the user sees it: a check box for each kind of messages, and three
texts. `Widgets.passes` says which messages the list is to show by that, and `Widgets.step` what the
user's clicks and edits make of it, without flags, cells and cached filters.

`Screen.widgets` reads the widgets off a screen. A frame of the screen is a step of the widgets
(`widgets_update`), and the messages that the list shows are those that the widgets let pass
(`visible_eq_passes`).
-/

set_option autoImplicit false
set_option relaxedAutoImplicit false

namespace CanopenTools.Viewer

/-! ### Kinds of messages -/

/-- The kinds of messages that have a check box. -/
inductive Kind
  | sync
  | pdo
  | sdo
  | nmt
  | lss
  | emcy
  | guard
  | unknown
  deriving DecidableEq, Repr

namespace Kind

/-- All kinds, in the order of the check boxes. -/
def all : List Kind := [sync, pdo, sdo, nmt, lss, emcy, guard, unknown]

/-- The label of the check box. -/
def name : Kind → String
  | sync => "SYNC"
  | pdo => "PDO"
  | sdo => "SDO"
  | nmt => "NMT"
  | lss => "LSS"
  | emcy => "EMCY"
  | guard => "GUARD"
  | unknown => "UNKNOWN"

/-- The bit of the flag. -/
def bit : Kind → ℕ
  | sync => 0
  | pdo => 1
  | sdo => 2
  | nmt => 3
  | lss => 4
  | emcy => 5
  | guard => 6
  | unknown => 7

/-- The flag. -/
def flag (kind : Kind) : Flags := BitVec.twoPow 8 kind.bit

/-- The kind of a type of messages. -/
def ofType : RxMessageType → Kind
  | .sdoTx | .sdoRx => sdo
  | .pdo => pdo
  | .sync => sync
  | .nmt => nmt
  | .lss => lss
  | .guarding => guard
  | .emcy => emcy
  | .unknown => unknown

theorem bit_lt (kind : Kind) : kind.bit < 8 := by
  cases kind <;> decide

theorem bit_injective {kind other : Kind} (hbit : kind.bit = other.bit) : kind = other := by
  cases kind <;> cases other <;> first | rfl | cases hbit

theorem mem_all (kind : Kind) : kind ∈ all := by
  cases kind <;> decide

/-- The named flags are those of the kinds. -/
theorem iterNames_eq : Flags.iterNames = all.map fun kind ↦ (kind.name, kind.flag) := rfl

end Kind

namespace Flags

/-- A flag is set when its bit is. -/
theorem contains_flag (flags : Flags) (kind : Kind) :
    flags.contains kind.flag = flags.getLsbD kind.bit := by
  have hzero : ∀ bit < 8, (0#8 == BitVec.twoPow 8 bit) = false := by decide
  unfold contains Kind.flag
  rw [BitVec.and_twoPow]
  cases flags.getLsbD kind.bit with
  | true => exact beq_self_eq_true _
  | false => exact hzero kind.bit kind.bit_lt

theorem getLsbD_flag (kind other : Kind) : kind.flag.getLsbD other.bit = decide (kind = other) := by
  unfold Kind.flag
  rw [BitVec.getLsbD_twoPow, decide_eq_true kind.bit_lt, Bool.true_and]
  exact decide_eq_decide.mpr ⟨Kind.bit_injective, congrArg Kind.bit⟩

theorem contains_insert (flags : Flags) (kind other : Kind) :
    (flags.insert kind.flag).contains other.flag =
      (flags.contains other.flag || decide (kind = other)) := by
  rw [contains_flag, contains_flag, insert, BitVec.getLsbD_or, getLsbD_flag]

theorem contains_remove (flags : Flags) (kind other : Kind) :
    (flags.remove kind.flag).contains other.flag =
      (flags.contains other.flag && !decide (kind = other)) := by
  rw [contains_flag, contains_flag, remove, BitVec.getLsbD_and, BitVec.getLsbD_not, getLsbD_flag,
    decide_eq_true other.bit_lt, Bool.true_and]

/-- A check box inverts its own flag, as it was before all check boxes. -/
theorem contains_toggle (before : Flags) (changed : String → Bool) (current : Flags)
    (kind other : Kind) :
    (FilterPanel.toggle before changed current (kind.name, kind.flag)).contains other.flag =
      if kind = other ∧ changed kind.name = true then !before.contains other.flag
      else current.contains other.flag := by
  unfold FilterPanel.toggle
  dsimp only
  by_cases hchanged : changed kind.name = true
  · rw [if_pos hchanged]
    by_cases hsame : kind = other
    · subst hsame
      have hboth : kind = kind ∧ changed kind.name = true := ⟨rfl, hchanged⟩
      rw [if_pos hboth]
      by_cases hbefore : before.contains kind.flag = true
      · rw [if_pos hbefore, contains_remove, hbefore, decide_eq_true rfl, Bool.not_true,
          Bool.and_false]
      · rw [if_neg hbefore, contains_insert, Bool.eq_false_iff.mpr hbefore, decide_eq_true rfl,
          Bool.or_true, Bool.not_false]
    · have hboth : ¬ (kind = other ∧ changed kind.name = true) := fun hboth ↦ hsame hboth.1
      rw [if_neg hboth]
      by_cases hbefore : before.contains kind.flag = true
      · rw [if_pos hbefore, contains_remove, decide_eq_false hsame, Bool.not_false, Bool.and_true]
      · rw [if_neg hbefore, contains_insert, decide_eq_false hsame, Bool.or_false]
  · have hboth : ¬ (kind = other ∧ changed kind.name = true) := fun hboth ↦ hchanged hboth.2
    rw [if_neg hchanged, if_neg hboth]

theorem contains_foldl_toggle (before : Flags) (changed : String → Bool) (kinds : List Kind)
    (hkinds : kinds.Nodup) (current : Flags) (kind : Kind) :
    ((kinds.map fun kind ↦ (kind.name, kind.flag)).foldl (FilterPanel.toggle before changed)
        current).contains kind.flag =
      if kind ∈ kinds ∧ changed kind.name = true then !before.contains kind.flag
      else current.contains kind.flag := by
  induction kinds generalizing current with
  | nil => simp
  | cons first kinds ih =>
    obtain ⟨hfirst, hrest⟩ := List.nodup_cons.mp hkinds
    rw [List.map_cons, List.foldl_cons, ih hrest, contains_toggle]
    by_cases hsame : first = kind
    · subst hsame
      simp [hfirst]
    · simp [hsame, Ne.symm hsame]

end Flags

/-! ### The widgets -/

/-- The check boxes, the texts and the label of the button that stops. -/
structure Widgets where
  boxes : Kind → Bool
  cob : String
  node : String
  regex : String
  stop : Bool

namespace Widgets

/-- What the user does to the widgets in a frame. -/
def step (widgets : Widgets) (input : PanelInput) : Widgets where
  boxes := fun kind ↦
    (if input.none then false else if input.all then true else widgets.boxes kind) ^^
      input.boxes kind.name
  cob := input.edits.regexCob.getD widgets.cob
  node := input.edits.node.getD widgets.node
  regex := input.edits.regex.getD widgets.regex
  stop := widgets.stop ^^ input.stop

/-- The data filter that the texts stand for. -/
def said (parsers : Parsers) (widgets : Widgets) : DataFilter where
  regex := parsers.regexNew widgets.regex
  nodeId := parsers.parseNodeId widgets.node
  regexCob := parsers.regexNew widgets.cob

/-- The list is to show a message. -/
def passes (parsers : Parsers) (widgets : Widgets) (message : MessageCached) : Bool :=
  widgets.boxes (.ofType message.parsedType) && !(widgets.said parsers).filter message

/-- The widgets of a new window. -/
def new : Widgets := ⟨fun _ ↦ true, "", "", "", false⟩

end Widgets

/-- The widgets of a screen. -/
def Screen.widgets (heap : Heap) (screen : Screen) : Widgets where
  boxes := fun kind ↦ !heap.globalFilter.value.ignoreType.contains kind.flag
  cob := screen.filterPanel.dataPanel.regexCobRaw
  node := screen.filterPanel.dataPanel.nodeRaw
  regex := screen.filterPanel.dataPanel.regexRaw
  stop := screen.filterPanel.stop

/-! ### What the screen shows -/

/-- The global filter, with one flag for each kind. -/
theorem globalFilter_eq (filter : GlobalFilter) (message : MessageCached) :
    filter.filter message =
      (filter.data.filter message ||
        filter.ignoreType.contains (Kind.ofType message.parsedType).flag) := by
  unfold GlobalFilter.filter
  cases filter.data.filter message with
  | true => rfl
  | false => cases message.parsedType <;> rfl

/-- The flags after a frame. -/
theorem contains_flagsAfter (input : PanelInput) (flags : Flags) (kind : Kind) :
    (!(FilterPanel.flagsAfter input flags).contains kind.flag) =
      ((if input.none then false else if input.all then true else !flags.contains kind.flag) ^^
        input.boxes kind.name) := by
  have hall : Flags.all.contains kind.flag = true := by
    cases kind <;> decide
  have hnone : Flags.none.contains kind.flag = false := by
    cases kind <;> decide
  have hbuttons : (!(FilterPanel.buttons input flags).contains kind.flag) =
      if input.none then false else if input.all then true else !flags.contains kind.flag := by
    unfold FilterPanel.buttons
    split_ifs
    · rw [hall, Bool.not_true]
    · rw [hnone, Bool.not_false]
    · rfl
  have htoggled := Flags.contains_foldl_toggle (FilterPanel.buttons input flags) input.boxes
    Kind.all (by decide) (FilterPanel.buttons input flags) kind
  rw [← hbuttons, FilterPanel.flagsAfter, FilterPanel.toggled, Kind.iterNames_eq, htoggled]
  cases input.boxes kind.name <;> simp [Kind.mem_all]

namespace Screen

variable {canopen : Canopen} {parsers : Parsers} {formats : Formats} {driver : DriverState}
  {input : FrameInput} {heap heap' : Heap} {screen screen' : Screen} {output : FrameOutput}

/-- A frame of the screen is a step of the widgets. -/
theorem FrameDone.widgets
    (hdone : FrameDone canopen parsers formats driver input heap screen heap' screen' output) :
    screen'.widgets heap' = (screen.widgets heap).step (screen.panelInput driver input) := by
  have hboxes : (fun kind : Kind ↦ !heap'.globalFilter.value.ignoreType.contains kind.flag) =
      ((screen.widgets heap).step (screen.panelInput driver input)).boxes := by
    ext kind
    rw [hdone.flags]
    exact contains_flagsAfter _ _ kind
  have hstop : screen'.filterPanel.stop =
      (screen.filterPanel.stop ^^ (screen.panelInput driver input).stop) := by
    rw [hdone.filterPanel]
    show (if (screen.panelInput driver input).stop then _ else _) = _
    cases (screen.panelInput driver input).stop <;> simp
  unfold Screen.widgets
  rw [hboxes, hstop, hdone.filterPanel]
  rfl

/-- The list shows what the widgets let pass. -/
theorem Valid.visible_eq (hvalid : screen.Valid parsers heap) (data : List MessageCached) :
    visible heap data = data.filter ((screen.widgets heap).passes parsers) := by
  have hagrees := hvalid.panels.agrees _ List.mem_cons_self
  refine List.filter_congr fun message _ ↦ ?_
  have hdata : heap.filter.data.filter message =
      (screen.filterPanel.dataPanel.said parsers).filter message := by
    rw [← hagrees.filter_eq, ← hvalid.panels.shared]
    rfl
  rw [globalFilter_eq, hdata, Bool.not_or, Bool.and_comm]
  rfl

end Screen

end CanopenTools.Viewer
