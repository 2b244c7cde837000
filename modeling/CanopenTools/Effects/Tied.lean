import CanopenTools.Effects.Program

/-!
# Events that come together

`Tied first second program` says of two kinds of events that a run of the program has one of the
first kind exactly when it has one of the second, wherever the run stops. It is proved along the
program. Parts that ask only for operations of neither kind change nothing, in front (`tied_seq`),
behind (`tied_then`), as a handler (`tied_tryCatch`) or as a clean-up (`tied_ensuring`). The step
that ties the kinds is an operation whose success is of one kind and calls forth the other
(`tied_perform`).

`ReturnsBy kind program` ties the return of a program to one kind of events in the same way.
-/

set_option autoImplicit false
set_option relaxedAutoImplicit false

namespace CanopenTools.Effects

variable {I : Interface} {α β : Type}

/-! ### Events in a history -/

/-- An event of a kind has happened. -/
def Happened (kind : Event I → Prop) (history : List (Event I)) : Prop :=
  ∃ event ∈ history, kind event

/-- No event of an operation is of a kind. -/
def Never (kind : Event I → Prop) (op : I.Op) : Prop := ∀ answer, ¬ kind ⟨op, answer⟩

/-- What has happened stays in the history of a run. -/
theorem happened_run {kind : Event I → Prop} {history : List (Event I)}
    (hhappened : Happened kind history) (surroundings : Surroundings I) (program : Program I α) :
    Happened kind (program.run surroundings history).1 := by
  obtain ⟨event, hevent, hkind⟩ := hhappened
  exact ⟨event, (Program.prefix_run surroundings program history).subset hevent, hkind⟩

/-- What has happened in a body stays in the history when its errors are handled. -/
theorem happened_tryCatch {kind : Event I → Prop} {program : Program I α}
    {surroundings : Surroundings I} {history : List (Event I)}
    (hhappened : Happened kind (program.run surroundings history).1)
    (handler : I.Error → Program I α) :
    Happened kind ((program.tryCatch handler).run surroundings history).1 := by
  rw [Program.run_tryCatch]
  generalize program.run surroundings history = result at hhappened
  obtain ⟨after, value | error⟩ := result
  · exact hhappened
  · exact happened_run hhappened surroundings (handler error)
  · exact hhappened

theorem happened_concat {kind : Event I → Prop} (history : List (Event I)) {event : Event I}
    (hkind : kind event) : Happened kind (history ++ [event]) :=
  ⟨event, List.mem_append_right _ (List.mem_singleton_self event), hkind⟩

theorem not_happened_concat {kind : Event I → Prop} {history : List (Event I)} {event : Event I}
    (hhistory : ¬ Happened kind history) (hkind : ¬ kind event) :
    ¬ Happened kind (history ++ [event]) := by
  rintro ⟨other, hother, hyes⟩
  rcases List.mem_append.mp hother with hold | hnew
  · exact hhistory ⟨other, hold, hyes⟩
  · exact hkind (List.mem_singleton.mp hnew ▸ hyes)

/-- A program whose operations are never of a kind does not make it happen. -/
theorem happened_run_iff {kind : Event I → Prop} {program : Program I α}
    (huses : program.Uses (Never kind)) (surroundings : Surroundings I)
    (history : List (Event I)) :
    Happened kind (program.run surroundings history).1 ↔ Happened kind history := by
  refine ⟨?_, fun hhappened ↦ happened_run hhappened surroundings program⟩
  rintro ⟨event, hevent, hkind⟩
  rcases Program.mem_run_of_uses surroundings huses hevent with hold | hnew
  · exact ⟨event, hold, hkind⟩
  · exact absurd hkind (hnew event.answer)

/-! ### Tied kinds -/

section Tied

variable (first second : Event I → Prop)

/-- Events of both kinds have happened, or of neither. -/
def Together (history : List (Event I)) : Prop := Happened first history ↔ Happened second history

/-- No event of either kind has happened. -/
def Neither (history : List (Event I)) : Prop :=
  ¬ Happened first history ∧ ¬ Happened second history

/-- In every run from a history with neither kind of events, the two kinds come together. -/
def Tied (program : Program I α) : Prop :=
  ∀ (surroundings : Surroundings I) (history : List (Event I)), Neither first second history →
    Together first second (program.run surroundings history).1

/-- No event of an operation is of either kind. -/
def Harmless (op : I.Op) : Prop := Never first op ∧ Never second op

end Tied

variable {first second : Event I → Prop}

theorem Neither.together {history : List (Event I)} (hneither : Neither first second history) :
    Together first second history := iff_of_false hneither.1 hneither.2

theorem Neither.concat {history : List (Event I)} (hneither : Neither first second history)
    {event : Event I} (hfirst : ¬ first event) (hsecond : ¬ second event) :
    Neither first second (history ++ [event]) :=
  ⟨not_happened_concat hneither.1 hfirst, not_happened_concat hneither.2 hsecond⟩

/-- Harmless operations keep two kinds together. -/
theorem Together.run {program : Program I α} (huses : program.Uses (Harmless first second))
    (surroundings : Surroundings I) {history : List (Event I)}
    (htogether : Together first second history) :
    Together first second (program.run surroundings history).1 :=
  (happened_run_iff (huses.mono fun _ hop ↦ hop.1) surroundings history).trans
    (htogether.trans (happened_run_iff (huses.mono fun _ hop ↦ hop.2) surroundings history).symm)

/-- Harmless operations add neither kind. -/
theorem Neither.run {program : Program I α} (huses : program.Uses (Harmless first second))
    (surroundings : Surroundings I) {history : List (Event I)}
    (hneither : Neither first second history) :
    Neither first second (program.run surroundings history).1 :=
  ⟨(happened_run_iff (huses.mono fun _ hop ↦ hop.1) surroundings history).not.mpr hneither.1,
    (happened_run_iff (huses.mono fun _ hop ↦ hop.2) surroundings history).not.mpr hneither.2⟩

theorem tied_of_uses {program : Program I α} (huses : program.Uses (Harmless first second)) :
    Tied first second program :=
  fun surroundings _ hneither ↦ hneither.together.run huses surroundings

/-- A harmless part in front. -/
theorem tied_seq {program : Program I β} {next : β → Program I α}
    (hprogram : program.Uses (Harmless first second))
    (hnext : ∀ value, Tied first second (next value)) : Tied first second (program >>= next) := by
  intro surroundings history hneither
  have hafter := hneither.run hprogram surroundings
  rw [Program.run_bind]
  generalize program.run surroundings history = result at hafter
  obtain ⟨after, value | error⟩ := result
  · exact hnext value surroundings after hafter
  · exact hafter.together
  · exact hafter.together

/-- An operation that is of a kind with every answer makes it happen. -/
theorem happened_perform {kind : Event I → Prop} {op : I.Op}
    (hkind : ∀ answer, kind ⟨op, answer⟩) (next : I.Result op → Program I α)
    (surroundings : Surroundings I) (history : List (Event I)) :
    Happened kind ((Program.perform op >>= next).run surroundings history).1 := by
  rw [Program.run_perform_bind]
  rcases surroundings history op with error | result
  · exact happened_concat history (hkind _)
  · exact happened_run (happened_concat history (hkind _)) surroundings (next result)

/-- An operation that is of the second kind when it succeeds, with an event of the first kind in
everything that follows its success. -/
theorem tied_perform {op : I.Op} {next : I.Result op → Program I α}
    (herror : ∀ error, ¬ first ⟨op, .error error⟩ ∧ ¬ second ⟨op, .error error⟩)
    (hok : ∀ result, second ⟨op, .ok result⟩)
    (hnext : ∀ result surroundings history,
      Happened first ((next result).run surroundings history).1) :
    Tied first second (Program.perform op >>= next) := by
  intro surroundings history hneither
  rw [Program.run_perform_bind]
  rcases surroundings history op with error | result
  · exact (hneither.concat (herror error).1 (herror error).2).together
  · have hsecond := happened_concat history (hok result)
    exact iff_of_true (hnext result surroundings _) (happened_run hsecond surroundings _)

/-- A harmless part behind. -/
theorem tied_then {program : Program I β} {next : β → Program I α}
    (hprogram : Tied first second program)
    (hnext : ∀ value, (next value).Uses (Harmless first second)) :
    Tied first second (program >>= next) := by
  intro surroundings history hneither
  have hafter := hprogram surroundings history hneither
  rw [Program.run_bind]
  generalize program.run surroundings history = result at hafter
  obtain ⟨after, value | error⟩ := result
  · exact hafter.run (hnext value) surroundings
  · exact hafter
  · exact hafter

/-- A harmless handler. -/
theorem tied_tryCatch {program : Program I α} {handler : I.Error → Program I α}
    (hprogram : Tied first second program)
    (hhandler : ∀ error, (handler error).Uses (Harmless first second)) :
    Tied first second (program.tryCatch handler) := by
  intro surroundings history hneither
  have hafter := hprogram surroundings history hneither
  rw [Program.run_tryCatch]
  generalize program.run surroundings history = result at hafter
  obtain ⟨after, value | error⟩ := result
  · exact hafter
  · exact hafter.run (hhandler error) surroundings
  · exact hafter

/-- A harmless clean-up. -/
theorem tied_ensuring {program : Program I α} {cleanup : Program I Unit}
    (hprogram : Tied first second program) (hcleanup : cleanup.Uses (Harmless first second)) :
    Tied first second (program.ensuring cleanup) := by
  intro surroundings history hneither
  have hafter := hprogram surroundings history hneither
  rw [Program.run_ensuring]
  generalize program.run surroundings history = result at hafter
  obtain ⟨after, value | error⟩ := result
  · have huses : (cleanup >>= fun _ ↦ Program.pure value).Uses (Harmless first second) :=
      Program.uses_bind hcleanup fun _ ↦ trivial
    exact hafter.run huses surroundings
  · have huses : (cleanup >>= fun _ ↦ (Program.raise error : Program I α)).Uses
        (Harmless first second) :=
      Program.uses_bind hcleanup fun _ ↦ trivial
    exact hafter.run huses surroundings
  · exact hafter

/-! ### Returning -/

/-- In every run from a history without events of a kind, the program returns exactly when one has
happened. -/
def ReturnsBy (kind : Event I → Prop) (program : Program I α) : Prop :=
  ∀ (surroundings : Surroundings I) (history : List (Event I)), ¬ Happened kind history →
    (Happened kind (program.run surroundings history).1 ↔
      ∃ value, (program.run surroundings history).2 = .returned value)

/-- A part in front in which the kind never happens. -/
theorem returnsBy_seq {kind : Event I → Prop} {program : Program I β} {next : β → Program I α}
    (hprogram : program.Uses (Never kind)) (hnext : ∀ value, ReturnsBy kind (next value)) :
    ReturnsBy kind (program >>= next) := by
  intro surroundings history hhistory
  have hafter := (happened_run_iff hprogram surroundings history).not.mpr hhistory
  rw [Program.run_bind]
  generalize program.run surroundings history = result at hafter
  obtain ⟨after, value | error⟩ := result
  · exact hnext value surroundings after hafter
  · exact iff_of_false hafter nofun
  · exact iff_of_false hafter nofun

/-- The last operation, whose success is of the kind. -/
theorem returnsBy_perform {kind : Event I → Prop} {op : I.Op} {value : I.Result op → α}
    (herror : ∀ error, ¬ kind ⟨op, .error error⟩) (hok : ∀ result, kind ⟨op, .ok result⟩) :
    ReturnsBy kind (Program.perform op >>= fun result ↦ Program.pure (value result)) := by
  intro surroundings history hhistory
  rw [Program.run_perform_bind]
  rcases surroundings history op with error | result
  · exact iff_of_false (not_happened_concat hhistory (herror error)) nofun
  · exact iff_of_true (happened_concat history (hok result)) ⟨value result, rfl⟩

end CanopenTools.Effects
