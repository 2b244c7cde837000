import CanopenTools.Viewer.App

/-!
# The list of the GUI under any states and filters

A run of the GUI alone: frames that read any states of the driver, whatever these contain, and
changes of the global filter and of the pinned rows between them. `Ordered` is the invariant of the
list, newest first and no longer than its bound. It needs nothing of the states that are read, since
a message is put in front only past the cursor. `Inserted` traces an entry back to the frame that
put it in the list. `listed_run` has both, and what a new pinned row shows because of the order.
-/

set_option autoImplicit false
set_option relaxedAutoImplicit false

namespace CanopenTools.Viewer

/-- The steps of the GUI: a frame with the messages of the state that it reads, and the changes that
the user makes between frames. -/
inductive GuiStep
  | frame (clock : MessageCached → Instant) (data : List MessageCached)
  | setGlobalFilter (filter : GlobalFilter)
  | setPinned (rows : List PinnedRow)

namespace Gui

/-- One step. -/
def step (gui : Gui) : GuiStep → Gui
  | .frame clock data => gui.getDataFromDriver clock data
  | .setGlobalFilter filter => { gui with globalFilter := filter }
  | .setPinned rows => { gui with pinnedFilters := rows }

/-- The GUI after some steps. -/
def run (steps : List GuiStep) : Gui := steps.foldl step new

theorem run_concat (steps : List GuiStep) (step : GuiStep) :
    run (steps ++ [step]) = (run steps).step step := by
  rw [run, List.foldl_append]
  rfl

/-! ### One message -/

/-- What the body of the loop does to the list: nothing, or it puts a message in front that is past
the cursor and that the global filter lets through. -/
theorem receive_cases (clock : MessageCached → Instant) (gui : Gui) (message : MessageCached) :
    (gui.receive clock message).data = gui.data ∨
      Past gui.data message = true ∧ gui.globalFilter.filter message = false ∧
        (gui.receive clock message).data = message :: gui.data := by
  unfold receive
  split_ifs with hpast hfilter
  · exact Or.inl rfl
  · exact Or.inr ⟨hpast, Bool.not_eq_true _ ▸ hfilter, rfl⟩
  · exact Or.inl rfl

@[simp] theorem globalFilter_receive (clock : MessageCached → Instant) (gui : Gui)
    (message : MessageCached) :
    (gui.receive clock message).globalFilter = gui.globalFilter := by
  unfold receive
  split_ifs <;> rfl

/-- Newest first. -/
abbrev Decreasing (data : List MessageCached) : Prop :=
  data.Pairwise fun newer older ↦ older.index < newer.index

/-- A message past the cursor is newer than the whole list. -/
theorem Decreasing.cons {data : List MessageCached} (hdata : Decreasing data)
    {message : MessageCached} (hpast : Past data message = true) :
    Decreasing (message :: data) := by
  rw [past_iff] at hpast
  refine List.pairwise_cons.mpr ⟨?_, hdata⟩
  cases data with
  | nil => simp
  | cons last older =>
    have hlast := hpast last rfl
    intro other hother
    rcases List.mem_cons.mp hother with rfl | htail
    · exact hlast
    · exact ((List.pairwise_cons.mp hdata).1 other htail).trans hlast

/-! ### One frame -/

theorem decreasing_foldl_receive (clock : MessageCached → Instant) (data : List MessageCached) :
    ∀ gui : Gui, Decreasing gui.data → Decreasing (data.foldl (receive clock) gui).data := by
  induction data with
  | nil => exact fun _ hgui ↦ hgui
  | cons message data ih =>
    intro gui hgui
    rw [List.foldl_cons]
    apply ih
    rcases receive_cases clock gui message with hsame | ⟨hpast, -, hcons⟩
    · rwa [hsame]
    · rw [hcons]
      exact hgui.cons hpast

/-- An entry after the loop of a frame was there before, or the frame has read it and the global
filter lets it through. -/
theorem mem_foldl_receive (clock : MessageCached → Instant) (data : List MessageCached)
    {entry : MessageCached} :
    ∀ gui : Gui, entry ∈ (data.foldl (receive clock) gui).data →
      entry ∈ gui.data ∨ entry ∈ data ∧ gui.globalFilter.filter entry = false := by
  induction data with
  | nil => exact fun _ hentry ↦ Or.inl hentry
  | cons message data ih =>
    intro gui hentry
    rw [List.foldl_cons] at hentry
    rcases ih _ hentry with hbefore | ⟨hread, hfilter⟩
    · rcases receive_cases clock gui message with hsame | ⟨-, hfilter, hcons⟩
      · exact Or.inl (hsame ▸ hbefore)
      · rw [hcons] at hbefore
        rcases List.mem_cons.mp hbefore with rfl | hold
        · exact Or.inr ⟨List.mem_cons_self, hfilter⟩
        · exact Or.inl hold
    · rw [globalFilter_receive] at hfilter
      exact Or.inr ⟨List.mem_cons_of_mem _ hread, hfilter⟩

/-! ### Runs -/

/-- The list is strictly decreasing in the index, so that no message occurs twice, and no longer
than its bound. -/
structure Ordered (gui : Gui) : Prop where
  decreasing : Decreasing gui.data
  length_le : gui.data.length ≤ messagesCount

/-- An entry was put in the list by an earlier frame, which read it while the global filter in force
let it through, and has been there since. -/
def Inserted (steps : List GuiStep) (entry : MessageCached) : Prop :=
  ∃ before clock data after, steps = before ++ .frame clock data :: after ∧
    entry ∉ (run before).data ∧ entry ∈ data ∧ (run before).globalFilter.filter entry = false ∧
    ∀ between, between <+: after →
      entry ∈ (run (before ++ .frame clock data :: between)).data

theorem Ordered.step {gui : Gui} (hgui : gui.Ordered) (step : GuiStep) :
    (gui.step step).Ordered := by
  cases step with
  | frame clock data =>
    constructor
    · exact (decreasing_foldl_receive clock data gui hgui.decreasing).sublist
        (List.take_sublist _ _)
    · exact List.length_take_le _ _
  | setGlobalFilter filter => exact ⟨hgui.decreasing, hgui.length_le⟩
  | setPinned rows => exact ⟨hgui.decreasing, hgui.length_le⟩

theorem ordered_run (steps : List GuiStep) : (run steps).Ordered := by
  induction steps using List.reverseRecOn with
  | nil => exact ⟨List.Pairwise.nil, Nat.zero_le _⟩
  | append_singleton steps step ih =>
    rw [run_concat]
    exact ih.step step

/-- A step that brings in a new entry is a frame that has read it. -/
theorem mem_step {gui : Gui} {step : GuiStep} {entry : MessageCached}
    (hentry : entry ∈ (gui.step step).data) (hnew : entry ∉ gui.data) :
    ∃ clock data, step = .frame clock data ∧ entry ∈ data ∧
      gui.globalFilter.filter entry = false := by
  cases step with
  | frame clock data =>
    rcases mem_foldl_receive clock data gui (List.mem_of_mem_take hentry) with hold | ⟨hread, hpass⟩
    · exact absurd hold hnew
    · exact ⟨clock, data, rfl, hread, hpass⟩
  | setGlobalFilter filter => exact absurd hentry hnew
  | setPinned rows => exact absurd hentry hnew

theorem inserted_run (steps : List GuiStep) :
    ∀ entry ∈ (run steps).data, Inserted steps entry := by
  induction steps using List.reverseRecOn with
  | nil => exact fun entry hentry ↦ absurd hentry List.not_mem_nil
  | append_singleton steps step ih =>
    intro entry hentry
    by_cases hold : entry ∈ (run steps).data
    · obtain ⟨before, clock, data, after, rfl, hnew, hread, hpass, hsince⟩ := ih entry hold
      refine ⟨before, clock, data, after ++ [step], by simp, hnew, hread, hpass, ?_⟩
      intro between hbetween
      rcases List.prefix_concat_iff.mp hbetween with rfl | hearlier
      · rwa [List.append_assoc] at hentry
      · exact hsince between hearlier
    · rw [run_concat] at hentry
      obtain ⟨clock, data, rfl, hread, hpass⟩ := mem_step hentry hold
      refine ⟨steps, clock, data, [], rfl, hold, hread, hpass, ?_⟩
      intro between hbetween
      rw [List.prefix_nil.mp hbetween, run_concat]
      exact hentry

/-! ### New pinned rows -/

/-- The message that a row shows: the matching one with the greatest index, or none if none
matches. -/
def NewestMatch (filter : DataFilter) (data : List MessageCached) : Option MessageCached → Prop
  | none => ∀ entry ∈ data, filter.filter entry = true
  | some newest => newest ∈ data ∧ filter.filter newest = false ∧
      ∀ entry ∈ data, filter.filter entry = false → entry.index ≤ newest.index

/-- The first match of a list that is newest first is the newest match. -/
theorem Decreasing.newestMatch {data : List MessageCached} (hdata : Decreasing data)
    (filter : DataFilter) :
    NewestMatch filter data (data.find? fun message ↦ !filter.filter message) := by
  cases hfind : data.find? fun message ↦ !filter.filter message with
  | none => simpa [NewestMatch] using hfind
  | some newest =>
    obtain ⟨hmatch, newer, older, rfl, hnewer⟩ := List.find?_eq_some_iff_append.mp hfind
    refine ⟨by simp, by simpa using hmatch, ?_⟩
    intro entry hentry hfilter
    rcases List.mem_append.mp hentry with hfront | hback
    · have hreject := hnewer entry hfront
      simp [hfilter] at hreject
    · rcases List.mem_cons.mp hback with rfl | holder
      · exact Nat.le_refl _
      · have hafter := (List.pairwise_append.mp hdata).2.1
        exact ((List.pairwise_cons.mp hafter).1 entry holder).le

/-- After every step of every run the list is newest first, without a message twice and within its
bound, each entry passed the global filter in force when it was put in, and a new pinned row shows
the newest match or nothing. -/
theorem listed_run (steps : List GuiStep) :
    (run steps).Ordered ∧ (∀ entry ∈ (run steps).data, Inserted steps entry) ∧
      ∀ rows filter now, ∃ row,
        pinFilter rows filter (run steps).data now = rows ++ [row] ∧ row.filter = filter ∧
          NewestMatch filter (run steps).data row.message := by
  refine ⟨ordered_run steps, inserted_run steps, ?_⟩
  intro rows filter now
  exact ⟨_, rfl, rfl, (ordered_run steps).decreasing.newestMatch filter⟩

end Gui

/-! ### The GUI beside the driver -/

/-- What the GUI of the viewer does is a run of the GUI alone, which reads the states of the
driver. -/
theorem App.exists_guiRun (canopen : Canopen) (steps : List Step) :
    ∃ guiSteps, (run canopen steps).gui = Gui.run guiSteps := by
  induction steps using List.reverseRecOn with
  | nil => exact ⟨[], rfl⟩
  | append_singleton steps step ih =>
    obtain ⟨guiSteps, hgui⟩ := ih
    have hconcat : ∀ guiStep : GuiStep,
        ((run canopen steps).step canopen step).gui = (run canopen steps).gui.step guiStep →
          ∃ guiSteps, (run canopen (steps ++ [step])).gui = Gui.run guiSteps := by
      intro guiStep hstep
      exact ⟨guiSteps ++ [guiStep], by rw [run_concat, hstep, hgui, Gui.run_concat]⟩
    cases step with
    | pass changed rcv => exact ⟨guiSteps, by rw [run_concat, ← hgui]; rfl⟩
    | frame clock => exact hconcat (.frame clock (run canopen steps).driver.data) rfl
    | setGlobalFilter filter => exact hconcat (.setGlobalFilter filter) rfl
    | pin filter now => exact hconcat (.setPinned _) rfl
    | editPinned row filter => exact hconcat (.setPinned _) rfl
    | unpin row => exact hconcat (.setPinned _) rfl

end CanopenTools.Viewer
