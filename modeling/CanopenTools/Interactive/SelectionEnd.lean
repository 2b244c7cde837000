import CanopenTools.Interactive.Console

/-!
# When the selection loops end

The selection loops of `co.py` share their shape: they read lines until one is an integer in range,
and `except Exception` passes over everything else, the end of the input included. `Loop` lists them
with their candidates and with whether their caller turns an empty list away, and the operations of
the session go through them (`chooseNode_eq` and what follows it).

`Typing` is a user who types some lines and then ends the input. A loop does what it should when it
comes back with the candidate that the first line in range names, or leaves without one when no line
is in range. By `loop_ends_iff` it does so exactly when there is such a line or the caller has
turned the empty list away: otherwise it asks on for ever.
-/

set_option autoImplicit false
set_option relaxedAutoImplicit false

namespace CanopenTools.Interactive.Console

open Effects Tools

variable {α β : Type}

/-! ### Lines -/

/-- The candidate that a line names. -/
def choiceOf (items : List α) (line : String) : Option α :=
  (pyInt line).bind fun choice ↦ if 1 ≤ choice then items[(choice - 1).toNat]? else none

/-- A line that is an integer in range. -/
def InRange (items : List α) (line : String) : Prop :=
  ∃ choice, pyInt line = some choice ∧ 1 ≤ choice ∧ choice ≤ items.length

/-- The candidate that the first line in range names. -/
def firstChoice (items : List α) (lines : List String) :
    Option α := lines.findSome? (choiceOf items)

theorem isSome_choiceOf_iff (items : List α) (line : String) :
    (choiceOf items line).isSome ↔ InRange items line := by
  unfold choiceOf InRange
  cases pyInt line with
  | none => simp
  | some choice =>
    by_cases hpos : 1 ≤ choice
    · have hrange : items[(choice - 1).toNat]?.isSome ↔ choice ≤ items.length := by
        rw [isSome_getElem?]
        omega
      simpa [hpos] using hrange
    · simp [hpos]

theorem firstChoice_eq_none_iff (items : List α) (lines : List String) :
    firstChoice items lines = none ↔ ¬ ∃ line ∈ lines, InRange items line := by
  simp only [firstChoice, List.findSome?_eq_none_iff, ← isSome_choiceOf_iff, not_exists, not_and,
    Option.not_isSome_iff_eq_none]

/-- Of an empty list no line names a candidate. -/
@[simp] theorem firstChoice_nil (lines : List String) : firstChoice ([] : List α) lines = none := by
  rw [firstChoice_eq_none_iff]
  rintro ⟨line, -, choice, -, hpos, hle⟩
  have hzero : choice ≤ 0 := hle
  omega

/-! ### The loops -/

/-- A loop goes on until a pass has named a candidate. -/
theorem selectByNumber_succ (items : List α) (fuel : ℕ) :
    selectByNumber items (fuel + 1) =
      readChoice items >>= fun chosen ↦ chosen.elim (selectByNumber items fuel) pure := by
  refine congrArg (readChoice items >>= ·) (funext fun chosen ↦ ?_)
  cases chosen <;> rfl

/-- One pass of a selection loop. -/
theorem select_succ (items : List α) (fuel : ℕ) :
    select items (fuel + 1) = @Program.call console α (.input .number) fun
      | .ok line => (choiceOf items line).elim (select items fuel) .pure
      | .error (.exception _) => select items fuel
      | .error .keyboardInterrupt => .raise .keyboardInterrupt := by
  rw [select, selectByNumber_succ]
  refine congrArg (@Program.call console α (.input .number)) (funext fun answer ↦ ?_)
  match answer with
  | .ok line =>
    change (int line).attempt.bind _ = (choiceOf items line).elim (select items fuel) .pure
    unfold choiceOf int
    cases pyInt line with
    | none => rfl
    | some choice =>
      change typed.translate
          ((if 1 ≤ choice then items[(choice - 1).toNat]? else none).elim
            (selectByNumber items fuel) pure) =
        (if 1 ≤ choice then items[(choice - 1).toNat]? else none).elim (select items fuel) .pure
      cases (if 1 ≤ choice then items[(choice - 1).toNat]? else none) <;> rfl
  | .error (.exception message) => rfl
  | .error .keyboardInterrupt => rfl

/-- The selection loops of the source, with what they choose from. -/
inductive Loop : Type → Type
  | chooseEds (edsFiles : List String) : Loop String
  | chooseOdEntry (entries : List OdEntry) : Loop OdEntry
  | chooseNode (nodes : Table) : Loop Node
  | sendNmt : Loop ℕ
  | sendPdo (rpdoCount : ℕ) : Loop ℕ
  | subscribeTpdo (tpdoCount : ℕ) : Loop ℕ
  | unsubscribeTpdo (current : List (ℤ × ℕ)) : Loop (ℤ × ℕ)
  | unsubscribeHeartbeat (current : List ℤ) : Loop ℤ

namespace Loop

/-- The candidates. -/
def items : {α : Type} → Loop α → List α
  | _, chooseEds edsFiles => edsFiles
  | _, chooseOdEntry entries => entries
  | _, chooseNode nodes => nodes.map Prod.snd
  | _, sendNmt => nmtCmds
  | _, sendPdo rpdoCount => List.range' 1 rpdoCount
  | _, subscribeTpdo tpdoCount => List.range' 1 tpdoCount
  | _, unsubscribeTpdo current => current
  | _, unsubscribeHeartbeat current => current

/-- The caller turns an empty list away before the loop. -/
def guarded : {α : Type} → Loop α → Bool
  | _, chooseEds _ => false
  | _, chooseOdEntry _ => false
  | _, sendNmt => false
  | _, _ => true

/-- The loop behind its guard: the chosen candidate, or none for an empty list that is turned
away. -/
def choose (loop : Loop α) (fuel : ℕ) : Dialog (Option α) :=
  if loop.guarded = true ∧ loop.items = [] then pure none
  else do
    let item ← select loop.items fuel
    pure (some item)

/-- What follows a loop behind its guard. -/
theorem choose_bind (loop : Loop α) (fuel : ℕ) (without : Dialog β) (next : α → Dialog β) :
    (loop.choose fuel >>= fun chosen ↦ chosen.elim without next) =
      if loop.guarded = true ∧ loop.items = [] then without
      else select loop.items fuel >>= next := by
  unfold choose
  by_cases hempty : loop.guarded = true ∧ loop.items = []
  · rw [if_pos hempty, if_pos hempty]
    rfl
  · rw [if_neg hempty, if_neg hempty]
    exact Program.bind_assoc _ _ _

/-- A loop without a guard is entered whatever its candidates are. -/
theorem choose_of_not_guarded (loop : Loop α) (hguarded : loop.guarded = false) (fuel : ℕ) :
    loop.choose fuel = select loop.items fuel >>= fun item ↦ pure (some item) := by
  unfold choose
  rw [if_neg fun hempty ↦ Bool.false_ne_true (hguarded.symm.trans hempty.1)]

end Loop

/-! ### The operations go through the loops -/

theorem chooseEds_eq (edsFiles : List String) (fuel : ℕ) :
    (typedScript (chooseEds edsFiles fuel) >>= fun eds ↦ pure (some eds)) =
      (Loop.chooseEds edsFiles).choose fuel :=
  ((Loop.chooseEds edsFiles).choose_of_not_guarded rfl fuel).symm

theorem chooseOdEntry_eq (node : Node) (fuel : ℕ) :
    (chooseOdEntry node fuel >>= fun entry ↦ pure (some entry)) =
      listOdEntries node >>= fun entries ↦ (Loop.chooseOdEntry entries).choose fuel := by
  refine (Program.bind_assoc _ _ _).trans (congrArg _ (funext fun entries ↦ ?_))
  exact ((Loop.chooseOdEntry entries).choose_of_not_guarded rfl fuel).symm

theorem sendNmt_eq (node : Node) (fuel : ℕ) :
    sendNmt node fuel = Loop.sendNmt.choose fuel >>= fun chosen ↦
      chosen.elim (pure ()) fun code ↦ attempt (ask (.sendCommand node code)) := by
  rw [Loop.choose_bind, if_neg (by simp [Loop.guarded])]
  rfl

theorem chooseNode_eq (nodes : Table) (fuel : ℕ) :
    chooseNode nodes fuel = (Loop.chooseNode nodes).choose fuel := by
  unfold chooseNode Interactive.chooseNode Loop.choose
  by_cases hnodes : nodes = []
  · subst hnodes
    rfl
  · rw [if_neg hnodes, if_neg (by simp [Loop.items, hnodes]), typedScript, typed.translate_bind]
    rfl

theorem sendPdo_eq (node : Node) (fuel : ℕ) :
    sendPdo node fuel = attempt (do
      let rpdoCount : ℕ ← ask (.rpdoCount node)
      let chosen ← (Loop.sendPdo rpdoCount).choose fuel
      chosen.elim (pure ()) fun number ↦ do
        let varCount : ℕ ← ask (.rpdoMaps node number)
        if varCount = 0 then pure ()
        else do
          let line ← input .pdoValues
          if (splitValues line).length ≠ varCount then pure ()
          else ask (.rpdoTransmit node number (splitValues line))) := by
  refine congrArg attempt (congrArg _ (funext fun rpdoCount ↦ ?_))
  refine Eq.trans ?_ (Loop.choose_bind _ fuel _ _).symm
  exact if_congr (by simp [Loop.guarded, Loop.items]) rfl rfl

theorem subscribeTpdo_eq (node : Node) (fuel : ℕ) :
    subscribeTpdo node fuel = exceptException (do
      let tpdoCount : ℕ ← ask (.tpdoCount node)
      let chosen ← (Loop.subscribeTpdo tpdoCount).choose fuel
      chosen.elim (do
        let _ ← input .enterInTry
        pure ()) fun number ↦ do
        ask (.subscribePdo node number)
        let _ ← input .enterInTry
        pure ()) fun _ ↦ enter := by
  refine congrArg (exceptException · _) (congrArg _ (funext fun tpdoCount ↦ ?_))
  refine Eq.trans ?_ (Loop.choose_bind _ fuel _ _).symm
  exact if_congr (by simp [Loop.guarded, Loop.items]) rfl rfl

theorem unsubscribeTpdo_eq (nodes : Table) (fuel : ℕ) :
    unsubscribeTpdo nodes fuel = (do
      let current : List (ℤ × ℕ) ← ask .subscribedPdos
      let chosen ← (Loop.unsubscribeTpdo current).choose fuel
      chosen.elim (pure ()) fun chosen ↦
        match getNode nodes chosen.1 with
        | none => pure ()
        | some node => unsubscribePdo node chosen.2) := by
  refine congrArg _ (funext fun current ↦ ?_)
  refine Eq.trans ?_ (Loop.choose_bind _ fuel _ _).symm
  exact if_congr (by simp [Loop.guarded, Loop.items]) rfl rfl

theorem unsubscribeHeartbeat_eq (nodes : Table) (fuel : ℕ) :
    unsubscribeHeartbeat nodes fuel = (do
      let current : List ℤ ← ask .subscribedHbs
      let chosen ← (Loop.unsubscribeHeartbeat current).choose fuel
      chosen.elim (pure ()) fun nodeId ↦
        match getNode nodes nodeId with
        | none => pure ()
        | some node => attempt (ask (.removeHeartbeatCallback node))) := by
  refine congrArg _ (funext fun current ↦ ?_)
  refine Eq.trans ?_ (Loop.choose_bind _ fuel _ _).symm
  exact if_congr (by simp [Loop.guarded, Loop.items]) rfl rfl

/-! ### A user who ends the input -/

/-- What `input` raises at the end of the input. -/
def eofError : PyError := .exception "EOF when reading a line"

/-- The number of lines that have been asked for. -/
def linesAsked (history : List (Event console)) : ℕ :=
  history.countP fun event ↦
    match event.op with
    | .input _ => true
    | _ => false

/-- The answer to a question for a line, when some lines have been asked for before. -/
def lineAt (lines : List String) (asked : ℕ) : Except PyError String :=
  match lines[asked]? with
  | some line => .ok line
  | none => .error eofError

/-- Surroundings with a user who types some lines and ends the input after them. -/
structure Typing where
  lines : List String
  surroundings : Surroundings console
  answers : ∀ history prompt,
    surroundings history (.input prompt) = lineAt lines (linesAsked history)

namespace Typing

variable (typing : Typing)

/-- The lines that are still to be typed. -/
def rest (history : List (Event console)) : List String := typing.lines.drop (linesAsked history)

theorem rest_concat (history : List (Event console)) (prompt : Prompt)
    (answer : Except PyError String) :
    typing.rest (history ++ [⟨.input prompt, answer⟩]) = (typing.rest history).tail := by
  have hasked : linesAsked (history ++ [⟨.input prompt, answer⟩]) = linesAsked history + 1 := by
    rw [linesAsked, List.countP_append]
    rfl
  rw [rest, hasked, rest, List.tail_drop]

theorem lineAt_eq (history : List (Event console)) :
    lineAt typing.lines (linesAsked history) =
      match typing.rest history with
      | line :: _ => .ok line
      | [] => .error eofError := by
  rw [lineAt, rest, ← List.head?_drop]
  cases typing.lines.drop (linesAsked history) <;> rfl

/-- A pass of the loop, by the answer. -/
theorem run_select_succ (items : List α) (fuel : ℕ) (history : List (Event console))
    {answer : Except PyError String}
    (hanswer : typing.surroundings history (.input .number) = answer) :
    (select items (fuel + 1)).run typing.surroundings history =
      (match answer with
        | .ok line => (choiceOf items line).elim (select items fuel) .pure
        | .error (.exception _) => select items fuel
        | .error .keyboardInterrupt => .raise .keyboardInterrupt).run typing.surroundings
          (history ++ [(⟨.input .number, answer⟩ : Event console)]) := by
  subst hanswer
  rw [select_succ]
  rfl

/-- A pass on a line: the loop returns the candidate that it names, or goes on. -/
theorem run_select_line (items : List α) {history : List (Event console)} {line : String}
    {more : List String} (hrest : typing.rest history = line :: more) :
    ∃ after, typing.rest after = more ∧ ∀ fuel,
      (select items (fuel + 1)).run typing.surroundings history =
        (choiceOf items line).elim ((select items fuel).run typing.surroundings after)
          fun item ↦ (after, .returned item) := by
  have hanswer : typing.surroundings history (.input .number) = .ok line := by
    rw [typing.answers, lineAt_eq, hrest]
    rfl
  refine ⟨history ++ [⟨.input .number, .ok line⟩], ?_, ?_⟩
  · exact (typing.rest_concat history .number (.ok line)).trans (congrArg List.tail hrest)
  · intro fuel
    refine (typing.run_select_succ items fuel history hanswer).trans ?_
    change ((choiceOf items line).elim (select items fuel) .pure).run _ _ = _
    cases choiceOf items line <;> rfl

/-- A pass at the end of the input: the loop goes on. -/
theorem run_select_end (items : List α) {history : List (Event console)}
    (hrest : typing.rest history = []) :
    ∃ after, typing.rest after = [] ∧ ∀ fuel,
      (select items (fuel + 1)).run typing.surroundings history =
        (select items fuel).run typing.surroundings after := by
  have hanswer : typing.surroundings history (.input .number) = .error eofError := by
    rw [typing.answers, lineAt_eq, hrest]
    rfl
  refine ⟨history ++ [⟨.input .number, .error eofError⟩], ?_, ?_⟩
  · exact (typing.rest_concat history .number (.error eofError)).trans (congrArg List.tail hrest)
  · exact fun fuel ↦ typing.run_select_succ items fuel history hanswer

/-- With a line in range the loop returns the candidate that the first one names. -/
theorem exists_run_select_of_some (items : List α) {history : List (Event console)} {item : α}
    (hfirst : firstChoice items (typing.rest history) = some item) :
    ∃ fuel after, (select items fuel).run typing.surroundings history =
      (after, .returned item) := by
  induction hlines : typing.rest history generalizing history with
  | nil => simp [hlines, firstChoice] at hfirst
  | cons line more ih =>
    obtain ⟨between, hbetween, hpass⟩ := typing.run_select_line items hlines
    rw [hlines, firstChoice, List.findSome?_cons] at hfirst
    cases hchoice : choiceOf items line with
    | some chosen =>
      rw [hchoice] at hfirst hpass
      obtain rfl := Option.some.inj hfirst
      exact ⟨1, between, hpass 0⟩
    | none =>
      rw [hchoice] at hfirst hpass
      obtain ⟨fuel, after, hrun⟩ := ih (by rwa [hbetween]) hbetween
      exact ⟨fuel + 1, after, (hpass fuel).trans hrun⟩

/-- Without a line in range the loop asks on, whatever the fuel. -/
theorem run_select_of_none (items : List α) {history : List (Event console)}
    (hfirst : firstChoice items (typing.rest history) = none) (fuel : ℕ) :
    ((select items fuel).run typing.surroundings history).2 = .running := by
  induction fuel generalizing history with
  | zero => rfl
  | succ fuel ih =>
    cases hlines : typing.rest history with
    | nil =>
      obtain ⟨after, hafter, hpass⟩ := typing.run_select_end items hlines
      rw [hpass]
      exact ih (by rw [hafter]; rfl)
    | cons line more =>
      obtain ⟨after, hafter, hpass⟩ := typing.run_select_line items hlines
      rw [hlines, firstChoice, List.findSome?_eq_none_iff] at hfirst
      rw [hpass, hfirst line List.mem_cons_self]
      refine ih ?_
      rw [hafter, firstChoice, List.findSome?_eq_none_iff]
      exact fun other hother ↦ hfirst other (List.mem_cons_of_mem _ hother)

/-! ### Loops that end -/

/-- An outcome that is right when some candidate or none is named: the loop comes back with that
candidate, or leaves with an error when none is named. -/
def Leaves (named : Option α) : Outcome console (Option α) → Prop
  | .returned chosen => chosen = named
  | .raised _ => named = none
  | .running => False

/-- The loop ends, and as it should: with the candidate that the first line in range names, and
without one if no line is in range. -/
def Ends (history : List (Event console)) (loop : Loop α) : Prop :=
  ∃ fuel, Leaves (firstChoice loop.items (typing.rest history))
    ((loop.choose fuel).run typing.surroundings history).2

/-- A loop that is entered and has no line in range does not end. -/
theorem not_ends_of_none {history : List (Event console)} {loop : Loop α}
    (hentered : ¬ (loop.guarded = true ∧ loop.items = []))
    (hfirst : firstChoice loop.items (typing.rest history) = none) :
    ¬ typing.Ends history loop := by
  rintro ⟨fuel, hleaves⟩
  have hrunning := typing.run_select_of_none loop.items hfirst fuel
  rw [Loop.choose, if_neg hentered, Program.run_bind] at hleaves
  generalize (select loop.items fuel).run typing.surroundings history = result at *
  obtain ⟨after, outcome⟩ := result
  subst hrunning
  exact hleaves

/-- A loop that is entered and has a line in range ends. -/
theorem ends_of_some {history : List (Event console)} {loop : Loop α} {item : α}
    (hentered : ¬ (loop.guarded = true ∧ loop.items = []))
    (hfirst : firstChoice loop.items (typing.rest history) = some item) :
    typing.Ends history loop := by
  obtain ⟨fuel, after, hrun⟩ := typing.exists_run_select_of_some loop.items hfirst
  refine ⟨fuel, ?_⟩
  rw [hfirst, Loop.choose, if_neg hentered, Program.run_bind, hrun]
  exact rfl

/-- The loop ends as it should exactly when a line is in range or the caller has turned the empty
list away. -/
theorem loop_ends_iff (history : List (Event console)) (loop : Loop α) :
    typing.Ends history loop ↔
      (loop.guarded = true ∧ loop.items = []) ∨
        ∃ line ∈ typing.rest history, InRange loop.items line := by
  by_cases hempty : loop.guarded = true ∧ loop.items = []
  · refine iff_of_true ⟨0, ?_⟩ (Or.inl hempty)
    rw [hempty.2, firstChoice_nil, Loop.choose, if_pos hempty]
    exact rfl
  · rw [or_iff_right hempty]
    cases hfirst : firstChoice loop.items (typing.rest history) with
    | none =>
      exact iff_of_false (typing.not_ends_of_none hempty hfirst)
        ((firstChoice_eq_none_iff _ _).mp hfirst)
    | some item =>
      refine iff_of_true (typing.ends_of_some hempty hfirst) ?_
      by_contra hnone
      rw [(firstChoice_eq_none_iff _ _).mpr hnone] at hfirst
      cases hfirst

end Typing

/-- A user who types one line, at prompts of which only those for lines are answered. -/
def oneLine (line : String) : Typing where
  lines := [line]
  surroundings := fun history op ↦
    match op with
    | .input _ => lineAt [line] (linesAsked history)
    | _ => .error (.exception "not connected")
  answers := fun _ _ ↦ rfl

/-- Without EDS files the loop of `choose_eds` does not end, whatever is typed; here it is a one. -/
theorem chooseEds_not_ends : ¬ (oneLine "1").Ends [] (.chooseEds []) :=
  (oneLine "1").not_ends_of_none (by simp [Loop.guarded]) (firstChoice_nil _)

end CanopenTools.Interactive.Console
