import CanopenTools.Viewer.App
import Mathlib.Data.List.Nodup

/-!
# What reaches the pinned filters

A frame whose newest message is new and filtered out leaves the cursor behind the messages that it
has pushed, and the next frame pushes them again, unless the driver has replaced all of them by
then. `Outrun` is the condition that this never happens. `pushed_once_iff` is the result: in a run
every message is pushed at most once, and the pinned rows store the right times, exactly when
`Outrun` holds.
-/

set_option autoImplicit false
set_option relaxedAutoImplicit false

namespace CanopenTools.Viewer

namespace App

/-! ### The property and the condition -/

/-- Every message, identified by its index, is passed to `push_data` at most once. -/
def PushedOnce (app : App) : Prop :=
  (app.gui.pushed.map MessageCached.index).Nodup

/-- A row that has been delivered two messages displays the last of them, and its time is the
timestamp of the one before, which is an earlier message. -/
def RowTimes (app : App) : Prop :=
  ∀ row ∈ app.gui.pinnedFilters, ∀ newest previous rest,
    row.delivered = newest :: previous :: rest →
      row.message = some newest ∧ row.time = previous.getTimestamp ∧ previous.index < newest.index

/-- No frame of a run comes after a message was stored. -/
def Unread (canopen : Canopen) (steps : List Step) (message : MessageCached) : Prop :=
  ∀ earlier clock later, steps = earlier ++ .frame clock :: later →
    (run canopen earlier).driver.index ≤ message.index

/-- Whenever a frame reads a state whose newest message no earlier frame has read, and the global
filter then filters this message out, the driver stores so many messages before the next frame that
its state holds none of the read ones any more. -/
def Outrun (canopen : Canopen) (steps : List Step) : Prop :=
  ∀ before clock between clock' after,
    steps = before ++ .frame clock :: (between ++ .frame clock' :: after) →
    (∀ step ∈ between, ¬ step.IsFrame) →
    ∀ newest ∈ (run canopen before).driver.data,
      newest.index + 1 = (run canopen before).driver.index →
      Unread canopen before newest →
      (run canopen before).gui.globalFilter.filter newest = true →
      (run canopen before).driver.index + (maxMessagesInState + 1) ≤
        (run canopen (before ++ .frame clock :: between)).driver.index

/-! ### Splitting runs -/

/-- Where an element of a list with one more element is. -/
theorem concat_eq_append_cons {α : Type} {list before after : List α} {last element : α}
    (hsplit : list ++ [last] = before ++ element :: after) :
    (list = before ∧ last = element ∧ after = []) ∨
      ∃ rest, after = rest ++ [last] ∧ list = before ++ element :: rest := by
  induction after using List.reverseRecOn with
  | nil =>
    obtain ⟨hlist, hlast⟩ := List.append_inj' hsplit rfl
    exact Or.inl ⟨hlist, List.singleton_inj.mp hlast, rfl⟩
  | append_singleton rest other _ =>
    rw [← List.cons_append, ← List.append_assoc] at hsplit
    obtain ⟨hlist, hlast⟩ := List.append_inj' hsplit rfl
    exact Or.inr ⟨rest, by rw [List.singleton_inj.mp hlast], hlist⟩

variable {canopen : Canopen}

theorem Outrun.of_append {steps more : List Step} (houtrun : Outrun canopen (steps ++ more)) :
    Outrun canopen steps := by
  rintro before clock between clock' after rfl
  exact houtrun before clock between clock' (after ++ more) (by simp)

/-- The messages of the GUI were pushed, in the same order. -/
theorem data_sublist_pushed (canopen : Canopen) (steps : List Step) :
    (run canopen steps).gui.data.Sublist (run canopen steps).gui.pushed := by
  induction steps using run_induction with
  | nil => exact List.Sublist.refl _
  | frame steps clock ih =>
    rw [gui_run_frame]
    exact (List.take_sublist _ _).trans (List.filter_sublist.reverse.append ih)
  | other steps step hstep ih =>
    obtain ⟨hdata, hpushed⟩ := run_of_not_isFrame canopen steps
      (List.forall_mem_singleton.mpr hstep)
    rwa [hdata, hpushed]

/-! ### What a run has read -/

/-- What the frames of a run have read up to a count of messages: the pushed messages are below the
count, in order, and the cursor is at the last of them, or the last frame has read a new message
that is filtered out. -/
structure Read (canopen : Canopen) (steps : List Step) (count : ℕ) : Prop where
  frames_le : ∀ earlier clock later, steps = earlier ++ .frame clock :: later →
    (run canopen earlier).driver.index ≤ count
  count_le : count ≤ (run canopen steps).driver.index
  pushed_lt : ∀ message ∈ (run canopen steps).gui.pushed, message.index < count
  pushed_sorted : (run canopen steps).gui.pushed.Pairwise fun newer older ↦
    older.index < newer.index
  cursor : (∀ index, count = index + 1 →
      ∃ last, (run canopen steps).gui.data.head? = some last ∧ last.index = index) ∨
    ∃ before clock between, steps = before ++ .frame clock :: between ∧
      (∀ step ∈ between, ¬ step.IsFrame) ∧ (run canopen before).driver.index = count ∧
      ∃ newest ∈ (run canopen before).driver.data, newest.index + 1 = count ∧
        Unread canopen before newest ∧ (run canopen before).gui.globalFilter.filter newest = true

theorem read_nil : Read canopen [] 0 where
  frames_le := fun _ _ _ hsplit ↦ absurd hsplit (by simp)
  count_le := le_rfl
  pushed_lt := fun _ hmessage ↦ absurd hmessage List.not_mem_nil
  pushed_sorted := List.Pairwise.nil
  cursor := Or.inl fun index hindex ↦ absurd hindex (Nat.succ_ne_zero index).symm

/-- A step that is not a frame reads nothing. -/
theorem Read.concat {steps : List Step} {count : ℕ} (hread : Read canopen steps count) {step : Step}
    (hstep : ¬ step.IsFrame) : Read canopen (steps ++ [step]) count := by
  obtain ⟨hdata, hpushed⟩ := run_of_not_isFrame canopen steps (List.forall_mem_singleton.mpr hstep)
  refine ⟨fun earlier clock later hsplit ↦ ?_, hread.count_le.trans (index_le_run canopen steps _),
    by rw [hpushed]; exact hread.pushed_lt, by rw [hpushed]; exact hread.pushed_sorted, ?_⟩
  · rcases concat_eq_append_cons hsplit with ⟨-, rfl, -⟩ | ⟨rest, -, hrest⟩
    · exact absurd trivial hstep
    · exact hread.frames_le earlier clock rest hrest
  · rw [hdata]
    refine hread.cursor.imp_right ?_
    rintro ⟨before, clock, between, rfl, hbetween, hnewest⟩
    refine ⟨before, clock, between ++ [step], by simp, ?_, hnewest⟩
    exact List.forall_mem_append.mpr ⟨hbetween, List.forall_mem_singleton.mpr hstep⟩

/-- When a run is outrun, a frame pushes only messages that no frame has read. -/
theorem Read.le_index_of_mem_fresh {steps : List Step} {count : ℕ}
    (hread : Read canopen steps count) {clock : MessageCached → Instant}
    (houtrun : Outrun canopen (steps ++ [.frame clock])) {message : MessageCached}
    (hmessage : message ∈ (run canopen steps).gui.fresh (run canopen steps).driver.data) :
    count ≤ message.index := by
  obtain ⟨hmem, hpast⟩ := Gui.mem_fresh.mp hmessage
  rcases hread.cursor with hcaught |
    ⟨before, clock', between, rfl, hbetween, hcount, newest, hnewest, hlast, hunread, hfilter⟩
  · cases count with
    | zero => exact Nat.zero_le _
    | succ index =>
      obtain ⟨last, hhead, rfl⟩ := hcaught index rfl
      exact (Gui.past_iff _ _).mp hpast last hhead
  · have hnext := houtrun before clock' between clock [] (by simp) hbetween newest hnewest
      (hlast.trans hcount.symm) hunread hfilter
    have hrecent := ((windowed_run canopen _).index_bounds hmem).2
    omega

/-- A frame of an outrun run pushes the new messages in order. -/
theorem Read.pushed_sorted_frame {steps : List Step} {count : ℕ}
    (hread : Read canopen steps count) {clock : MessageCached → Instant}
    (houtrun : Outrun canopen (steps ++ [.frame clock])) :
    (run canopen (steps ++ [.frame clock])).gui.pushed.Pairwise fun newer older ↦
      older.index < newer.index := by
  rw [gui_run_frame]
  refine List.pairwise_append.mpr ⟨?_, hread.pushed_sorted, ?_⟩
  · exact List.pairwise_reverse.mpr ((windowed_run canopen steps).sorted.filter _)
  · intro newer hnewer older holder
    have hfresh := hread.le_index_of_mem_fresh houtrun (List.mem_reverse.mp hnewer)
    exact (hread.pushed_lt older holder).trans_le hfresh

/-- A driver without new messages gives nothing to the next frame of an outrun run. -/
theorem Read.fresh_eq_nil {steps : List Step} {count : ℕ} (hread : Read canopen steps count)
    {clock : MessageCached → Instant} (houtrun : Outrun canopen (steps ++ [.frame clock]))
    (hsame : count = (run canopen steps).driver.index) :
    (run canopen steps).gui.fresh (run canopen steps).driver.data = [] := by
  refine List.eq_nil_iff_forall_not_mem.mpr fun message hmessage ↦ ?_
  have hold := hread.le_index_of_mem_fresh houtrun hmessage
  have hbound := ((windowed_run canopen steps).index_bounds (Gui.mem_fresh.mp hmessage).1).1
  omega

/-- A frame accepts a message of the driver that was not read and passes the filter. -/
theorem Read.mem_accepted {steps : List Step} {count : ℕ} (hread : Read canopen steps count)
    {message : MessageCached} (hmessage : message ∈ (run canopen steps).driver.data)
    (hnew : count ≤ message.index)
    (hfilter : (run canopen steps).gui.globalFilter.filter message = false) :
    message ∈ (run canopen steps).gui.accepted (run canopen steps).driver.data := by
  have hpast : Gui.Past (run canopen steps).gui.data message = true := by
    refine (Gui.past_iff _ _).mpr fun last hhead ↦ ?_
    have hpushed := hread.pushed_lt last
      ((data_sublist_pushed canopen steps).subset (List.mem_of_head? hhead))
    omega
  exact List.mem_filter.mpr ⟨Gui.mem_fresh.mpr ⟨hmessage, hpast⟩, by rw [hfilter]; rfl⟩

/-- A frame that lets the newest message through puts the cursor there. -/
theorem head_frame {steps : List Step} (clock : MessageCached → Instant) {newest : MessageCached}
    (hnewest : newest ∈ (run canopen steps).gui.accepted (run canopen steps).driver.data)
    (hlast : newest.index + 1 = (run canopen steps).driver.index) :
    (run canopen (steps ++ [.frame clock])).gui.data.head? = some newest := by
  have hsorted : ((run canopen steps).gui.accepted (run canopen steps).driver.data).Pairwise
      fun first second ↦ first.index < second.index :=
    ((windowed_run canopen steps).sorted.filter _).filter _
  have hbound : ∀ message ∈ (run canopen steps).gui.accepted (run canopen steps).driver.data,
      message.index ≤ newest.index := by
    intro message hmessage
    have hmem := List.mem_of_mem_filter (List.mem_of_mem_filter hmessage)
    have hindex := ((windowed_run canopen steps).index_bounds hmem).1
    omega
  rw [gui_run_frame, List.head?_take, if_neg (by decide)]
  generalize (run canopen steps).gui.accepted (run canopen steps).driver.data = accepted at *
  obtain ⟨older, newer, rfl⟩ := List.append_of_mem hnewest
  cases newer with
  | nil => rw [List.reverse_append, List.reverse_singleton]; rfl
  | cons message newer =>
    have hlater := (List.pairwise_cons.mp (List.pairwise_append.mp hsorted).2.1).1 message
      List.mem_cons_self
    have hnot := hbound message (by simp)
    omega

/-- A frame of an outrun run reads up to the count of the driver. -/
theorem Read.concat_frame {steps : List Step} {count : ℕ} (hread : Read canopen steps count)
    {clock : MessageCached → Instant} (houtrun : Outrun canopen (steps ++ [.frame clock])) :
    Read canopen (steps ++ [.frame clock]) (run canopen steps).driver.index := by
  refine ⟨fun earlier clock' later hsplit ↦ ?_, index_le_run canopen steps _,
    fun message hmessage ↦ ?_, hread.pushed_sorted_frame houtrun, ?_⟩
  · rcases concat_eq_append_cons hsplit with ⟨rfl, -, -⟩ | ⟨rest, -, hrest⟩
    · exact le_rfl
    · exact (hread.frames_le earlier clock' rest hrest).trans hread.count_le
  · rw [gui_run_frame, List.mem_append, List.mem_reverse] at hmessage
    rcases hmessage with hfresh | hold
    · exact ((windowed_run canopen steps).index_bounds (Gui.mem_fresh.mp hfresh).1).1
    · exact (hread.pushed_lt message hold).trans_le hread.count_le
  · rcases hread.count_le.eq_or_lt with hsame | hnew
    · -- No message is new, so the frame pushes nothing and leaves the cursor where it is.
      have hnone := hread.fresh_eq_nil houtrun hsame
      rcases hread.cursor with hcaught | ⟨before, clock', between, rfl, hbetween, hcount, newest,
        hnewest, hlast, hunread, hfilter⟩
      · left
        rw [← hsame, gui_run_frame, Gui.accepted, hnone, List.head?_take, if_neg (by decide)]
        exact hcaught
      · have hnext := houtrun before clock' between clock [] (by simp) hbetween newest hnewest
          (hlast.trans hcount.symm) hunread hfilter
        omega
    · obtain ⟨newest, hnewest, hlast⟩ := (windowed_run canopen steps).exists_newest (by omega)
      cases hfilter : (run canopen steps).gui.globalFilter.filter newest with
      | true =>
        refine Or.inr ⟨steps, clock, [], rfl, fun _ hstep ↦ absurd hstep List.not_mem_nil, rfl,
          newest, hnewest, hlast, fun earlier clock' later hsplit ↦ ?_, hfilter⟩
        have hearlier := hread.frames_le earlier clock' later hsplit
        omega
      | false =>
        left
        intro index hindex
        have haccepted := hread.mem_accepted hnewest (by omega) hfilter
        exact ⟨newest, head_frame clock haccepted hlast, by omega⟩

/-- Every outrun run has read up to some count. -/
theorem exists_read (steps : List Step) (houtrun : Outrun canopen steps) :
    ∃ count, Read canopen steps count := by
  induction steps using run_induction with
  | nil => exact ⟨0, read_nil⟩
  | frame steps clock ih =>
    obtain ⟨count, hread⟩ := ih houtrun.of_append
    exact ⟨_, hread.concat_frame houtrun⟩
  | other steps step hstep ih =>
    obtain ⟨count, hread⟩ := ih houtrun.of_append
    exact ⟨count, hread.concat hstep⟩

/-! ### Messages that are pushed twice -/

/-- Every message of the GUI was there when some frame came. -/
theorem exists_frame_of_mem_data (steps : List Step) :
    ∀ message ∈ (run canopen steps).gui.data, ∃ earlier clock later,
      steps = earlier ++ .frame clock :: later ∧
        message.index < (run canopen earlier).driver.index := by
  have hlater : ∀ (steps : List Step) (step : Step) (message : MessageCached),
      (∃ earlier clock later, steps = earlier ++ .frame clock :: later ∧
        message.index < (run canopen earlier).driver.index) →
      ∃ earlier clock later, steps ++ [step] = earlier ++ .frame clock :: later ∧
        message.index < (run canopen earlier).driver.index := by
    rintro steps step message ⟨earlier, clock, later, rfl, hindex⟩
    exact ⟨earlier, clock, later ++ [step], by simp, hindex⟩
  induction steps using run_induction with
  | nil => exact fun _ hmessage ↦ absurd hmessage List.not_mem_nil
  | frame steps clock ih =>
    intro message hmessage
    rw [gui_run_frame] at hmessage
    have hmem := List.mem_of_mem_take hmessage
    rw [List.mem_append, List.mem_reverse] at hmem
    rcases hmem with haccepted | hold
    · have hdriver := List.mem_of_mem_filter (List.mem_of_mem_filter haccepted)
      exact ⟨steps, clock, [], rfl, ((windowed_run canopen steps).index_bounds hdriver).1⟩
    · exact hlater steps (.frame clock) message (ih message hold)
  | other steps step hstep ih =>
    intro message hmessage
    rw [(run_of_not_isFrame canopen steps (List.forall_mem_singleton.mpr hstep)).1] at hmessage
    exact hlater steps step message (ih message hmessage)

/-- A frame that reads a new message pushes it. -/
theorem past_of_unread {steps : List Step} {message : MessageCached}
    (hunread : Unread canopen steps message) :
    Gui.Past (run canopen steps).gui.data message = true := by
  refine (Gui.past_iff _ _).mpr fun last hhead ↦ ?_
  obtain ⟨earlier, clock, later, hsplit, hindex⟩ :=
    exists_frame_of_mem_data steps last (List.mem_of_head? hhead)
  exact hindex.trans_le (hunread earlier clock later hsplit)

/-- After a frame whose newest message is new and filtered out, this message is still past the
cursor. -/
theorem past_of_filtered {steps : List Step} (clock : MessageCached → Instant)
    {newest : MessageCached} (hnewest : newest ∈ (run canopen steps).driver.data)
    (hlast : newest.index + 1 = (run canopen steps).driver.index)
    (hunread : Unread canopen steps newest)
    (hfilter : (run canopen steps).gui.globalFilter.filter newest = true) :
    Gui.Past (run canopen (steps ++ [.frame clock])).gui.data newest = true := by
  refine (Gui.past_iff _ _).mpr fun last hhead ↦ ?_
  rw [gui_run_frame] at hhead
  have hmem := List.mem_of_mem_take (List.mem_of_head? hhead)
  rw [List.mem_append, List.mem_reverse] at hmem
  rcases hmem with haccepted | hold
  · obtain ⟨hfresh, hpassed⟩ := List.mem_filter.mp haccepted
    have hdriver := List.mem_of_mem_filter hfresh
    have hbound := ((windowed_run canopen steps).index_bounds hdriver).1
    have hdistinct : last.index ≠ newest.index := by
      intro hindex
      obtain rfl := (windowed_run canopen steps).eq_of_index_eq hdriver hnewest hindex
      rw [hfilter] at hpassed
      exact Bool.false_ne_true hpassed
    omega
  · obtain ⟨earlier, clock', later, hsplit, hindex⟩ := exists_frame_of_mem_data steps last hold
    exact hindex.trans_le (hunread earlier clock' later hsplit)

/-- A run that pushes every message at most once is outrun. -/
theorem outrun_of_pushedOnce (steps : List Step) (honce : PushedOnce (run canopen steps)) :
    Outrun canopen steps := by
  rintro before clock between clock' after rfl hbetween newest hnewest hlast hunread hfilter
  by_contra hslow
  have hpushed : newest ∈ (run canopen (before ++ [.frame clock])).gui.pushed := by
    rw [gui_run_frame, List.mem_append, List.mem_reverse]
    exact Or.inl (Gui.mem_fresh.mpr ⟨hnewest, past_of_unread hunread⟩)
  have hframe := run_of_not_isFrame canopen (before ++ [.frame clock]) hbetween
  rw [List.append_assoc, List.singleton_append] at hframe
  have hfresh : newest ∈ (run canopen (before ++ .frame clock :: between)).gui.fresh
      (run canopen (before ++ .frame clock :: between)).driver.data := by
    refine Gui.mem_fresh.mpr ⟨mem_run_of_recent canopen hnewest (by omega), ?_⟩
    rw [hframe.1]
    exact past_of_filtered clock hnewest hlast hunread hfilter
  -- The second frame puts the message in front of a record that has it already.
  have hsuffix : (run canopen (before ++ .frame clock :: between ++ [.frame clock'])).gui.pushed <:+
      (run canopen (before ++ .frame clock :: (between ++ .frame clock' :: after))).gui.pushed := by
    have hmore := pushed_suffix_run canopen (before ++ .frame clock :: between ++ [.frame clock'])
      after
    simpa using hmore
  have hnodup := honce.sublist (hsuffix.sublist.map _)
  rw [gui_run_frame, hframe.2, List.map_append, List.nodup_append] at hnodup
  exact hnodup.2.2 newest.index (List.mem_map_of_mem (List.mem_reverse.mpr hfresh)) newest.index
    (List.mem_map_of_mem hpushed) rfl

/-! ### The pinned rows -/

/-- A row displays the last message that was delivered to it, and has the timestamp of the one
before. What was delivered to it was pushed, in the same order. -/
structure RowSound (row : PinnedRow) (pushed : List MessageCached) : Prop where
  sublist : row.delivered.Sublist pushed
  message_eq : ∀ newest rest, row.delivered = newest :: rest → row.message = some newest
  time_eq : ∀ newest previous rest, row.delivered = newest :: previous :: rest →
    row.time = previous.getTimestamp

theorem RowSound.push {row : PinnedRow} {pushed : List MessageCached}
    (hrow : RowSound row pushed) (message : MessageCached) (now : Instant) :
    RowSound (row.push message now) (message :: pushed) := by
  unfold PinnedRow.push
  split_ifs with hfilter
  · exact ⟨hrow.sublist.cons message, hrow.message_eq, hrow.time_eq⟩
  · refine ⟨hrow.sublist.cons_cons message, ?_, ?_⟩
    · rintro newest rest hdelivered
      exact congrArg some (List.cons.inj hdelivered).1
    · rintro newest previous rest hdelivered
      rw [hrow.message_eq previous rest (List.cons.inj hdelivered).2]
      rfl

theorem sound_foldl_pushData {rows : List PinnedRow} {pushed : List MessageCached}
    (clock : MessageCached → Instant) (messages : List MessageCached)
    (hrows : ∀ row ∈ rows, RowSound row pushed) :
    ∀ row ∈ messages.foldl (fun rows message ↦ pushData rows message (clock message)) rows,
      RowSound row (messages.reverse ++ pushed) := by
  induction messages generalizing rows pushed with
  | nil => exact hrows
  | cons message messages ih =>
    rw [List.foldl_cons, List.reverse_cons, List.append_assoc]
    refine ih fun row hrow ↦ ?_
    obtain ⟨old, hold, rfl⟩ := List.mem_map.mp hrow
    exact (hrows old hold).push message (clock message)

/-- The rows of a run are sound. -/
theorem sound_run (canopen : Canopen) (steps : List Step) :
    ∀ row ∈ (run canopen steps).gui.pinnedFilters,
      RowSound row (run canopen steps).gui.pushed := by
  induction steps using List.reverseRecOn with
  | nil => exact fun _ hrow ↦ absurd hrow List.not_mem_nil
  | append_singleton steps step ih =>
    cases step with
    | pass changed rcv =>
      rw [run_concat]
      exact ih
    | frame clock =>
      rw [gui_run_frame]
      exact sound_foldl_pushData clock _ ih
    | setGlobalFilter filter =>
      rw [run_concat]
      exact ih
    | pin filter now =>
      rw [run_concat]
      intro row hrow
      rcases List.mem_append.mp hrow with hold | hnew
      · exact ih row hold
      · obtain rfl := List.mem_singleton.mp hnew
        exact ⟨List.nil_sublist _, fun _ _ hnil ↦ absurd hnil (List.cons_ne_nil _ _).symm,
          fun _ _ _ hnil ↦ absurd hnil (List.cons_ne_nil _ _).symm⟩
    | editPinned position filter =>
      rw [run_concat]
      intro row hrow
      obtain ⟨index, hindex, rfl⟩ := List.mem_iff_getElem.mp hrow
      simp only [step, List.getElem_modify]
      have hlength : index < (run canopen steps).gui.pinnedFilters.length := by
        simpa [step] using hindex
      have hold := ih _ (List.getElem_mem hlength)
      split_ifs
      · exact ⟨hold.sublist, hold.message_eq, hold.time_eq⟩
      · exact hold
    | unpin position =>
      rw [run_concat]
      exact fun row hrow ↦ ih row (List.mem_of_mem_eraseIdx hrow)

/-! ### The result -/

theorem Read.pushedOnce {steps : List Step} {count : ℕ} (hread : Read canopen steps count) :
    PushedOnce (run canopen steps) :=
  (List.pairwise_map.mpr hread.pushed_sorted).imp fun hlt ↦ (ne_of_lt hlt).symm

theorem Read.rowTimes {steps : List Step} {count : ℕ} (hread : Read canopen steps count) :
    RowTimes (run canopen steps) := by
  intro row hrow newest previous rest hdelivered
  have hsound := sound_run canopen steps row hrow
  have hsorted := hread.pushed_sorted.sublist hsound.sublist
  rw [hdelivered, List.pairwise_cons] at hsorted
  exact ⟨hsound.message_eq newest _ hdelivered, hsound.time_eq newest previous rest hdelivered,
    hsorted.1 previous List.mem_cons_self⟩

/-- In every run of the viewer every message reaches the pinned filters at most once, and the time
of a pinned row is the timestamp of the matching message before the displayed one, exactly when the
driver outruns every frame whose newest message is new and filtered out. -/
theorem pushed_once_iff (canopen : Canopen) (steps : List Step) :
    (PushedOnce (run canopen steps) ∧ RowTimes (run canopen steps)) ↔ Outrun canopen steps := by
  constructor
  · exact fun hboth ↦ outrun_of_pushedOnce steps hboth.1
  · intro houtrun
    obtain ⟨count, hread⟩ := exists_read steps houtrun
    exact ⟨hread.pushedOnce, hread.rowTimes⟩

/-- With a global filter that filters PDOs out, a PDO is pushed by each of two frames. -/
theorem pushed_twice_of_filtered :
    ¬ PushedOnce (run ⟨fun _ ↦ some 3, fun _ ↦ .pdo, fun _ ↦ "183", fun _ ↦ "01"⟩
      [.setGlobalFilter ⟨.pdo, ⟨none, none, none⟩⟩, .pass none (.message ⟨10, 0x183, [1], 1⟩),
        .frame fun _ ↦ 20, .frame fun _ ↦ 30]) := by
  unfold PushedOnce
  decide

end App

end CanopenTools.Viewer
