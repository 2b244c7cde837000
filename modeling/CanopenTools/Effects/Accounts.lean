import CanopenTools.Effects.Tied

/-!
# Programs that account for their errors

Some errors escape every handler of a caller. A program accounts for them by fatal events when, in
every run, it ends with an escaping error exactly when a fatal event has happened (`Accounts`). It
is proved along the program. An operation outside every handler is fatal exactly with an escaping
error (`accounts_perform`), a part under a handler asks only for operations that are never fatal
(`accounts_tryCatch`), and a result on which the program gives up at once is fatal itself
(`accounts_perform_bind`).

A second kind of events, the leaving ones, does not happen in these programs. A caller that leaves
orderly has them for itself.
-/

set_option autoImplicit false
set_option relaxedAutoImplicit false

namespace CanopenTools.Effects

variable {I : Interface} {α β : Type}

/-- A run ends with an escaping error. -/
def Outcome.Escapes (escaping : I.Error → Prop) : Outcome I α → Prop
  | .raised error => escaping error
  | .returned _ | .running => False

section Accounts

variable (fatal leaving : Event I → Prop) (escaping : I.Error → Prop)

/-- A run without leaving events that ends with an escaping error exactly when a fatal event has
happened. -/
structure Accounted (history : List (Event I)) (outcome : Outcome I α) : Prop where
  stays : ¬ Happened leaving history
  fatal_iff : Happened fatal history ↔ outcome.Escapes escaping

/-- Every run of the program from a history without fatal and leaving events is accounted for. -/
def Accounts (program : Program I α) : Prop :=
  ∀ (surroundings : Surroundings I) (history : List (Event I)), Neither fatal leaving history →
    Accounted fatal leaving escaping (program.run surroundings history).1
      (program.run surroundings history).2

end Accounts

variable {fatal leaving : Event I → Prop} {escaping : I.Error → Prop}

/-- Without fatal events a run is accounted for when no escaping error ends it. -/
theorem Neither.accounted {history : List (Event I)} (hneither : Neither fatal leaving history)
    {outcome : Outcome I α} (houtcome : ¬ outcome.Escapes escaping) :
    Accounted fatal leaving escaping history outcome :=
  ⟨hneither.2, iff_of_false hneither.1 houtcome⟩

theorem accounts_pure (value : α) : Accounts fatal leaving escaping (.pure value : Program I α) :=
  fun _ _ hneither ↦ hneither.accounted not_false

theorem accounts_unfinished : Accounts fatal leaving escaping (.unfinished : Program I α) :=
  fun _ _ hneither ↦ hneither.accounted not_false

theorem accounts_raise {error : I.Error} (herror : ¬ escaping error) :
    Accounts fatal leaving escaping (.raise error : Program I α) :=
  fun _ _ hneither ↦ hneither.accounted herror

/-- A sequence accounts for its errors when its parts do. -/
theorem accounts_bind {program : Program I β} {next : β → Program I α}
    (hprogram : Accounts fatal leaving escaping program)
    (hnext : ∀ value, Accounts fatal leaving escaping (next value)) :
    Accounts fatal leaving escaping (program >>= next) := by
  intro surroundings history hneither
  have hfirst := hprogram surroundings history hneither
  rw [Program.run_bind]
  generalize program.run surroundings history = result at hfirst
  obtain ⟨after, value | error⟩ := result
  · exact hnext value surroundings after ⟨hfirst.fatal_iff.not.mpr not_false, hfirst.stays⟩
  · exact ⟨hfirst.stays, hfirst.fatal_iff⟩
  · exact ⟨hfirst.stays, hfirst.fatal_iff⟩

/-- An operation that ends with an error outside every handler. -/
theorem accounted_error {history : List (Event I)} (hneither : Neither fatal leaving history)
    {op : I.Op} {error : I.Error} (hstays : ¬ leaving ⟨op, .error error⟩)
    (herror : fatal ⟨op, .error error⟩ ↔ escaping error) :
    Accounted fatal leaving escaping (history ++ [⟨op, .error error⟩])
      (.raised error : Outcome I α) := by
  refine ⟨not_happened_concat hneither.2 hstays, ?_⟩
  by_cases hescapes : escaping error
  · exact iff_of_true (happened_concat history (herror.mpr hescapes)) hescapes
  · exact iff_of_false (not_happened_concat hneither.1 (herror.not.mpr hescapes)) hescapes

/-- An operation outside every handler, and what follows it. On a result that is fatal the program
gives up at once. -/
theorem accounts_perform_bind {op : I.Op} {next : I.Result op → Program I α}
    (hstays : ∀ answer, ¬ leaving ⟨op, answer⟩)
    (herror : ∀ error, fatal ⟨op, .error error⟩ ↔ escaping error)
    (hfatal : ∀ result, fatal ⟨op, .ok result⟩ →
      ∃ error, escaping error ∧ next result = .raise error)
    (hnext : ∀ result, ¬ fatal ⟨op, .ok result⟩ →
      Accounts fatal leaving escaping (next result)) :
    Accounts fatal leaving escaping (Program.perform op >>= next) := by
  intro surroundings history hneither
  rw [Program.run_perform_bind]
  rcases surroundings history op with error | result
  · exact accounted_error hneither (hstays _) (herror error)
  · have hstill : ¬ Happened leaving (history ++ [⟨op, .ok result⟩]) :=
      not_happened_concat hneither.2 (hstays _)
    by_cases hbad : fatal ⟨op, .ok result⟩
    · obtain ⟨error, hescapes, hraise⟩ := hfatal result hbad
      simp only [hraise]
      exact ⟨hstill, iff_of_true (happened_concat history hbad) hescapes⟩
    · exact hnext result hbad surroundings _ ⟨not_happened_concat hneither.1 hbad, hstill⟩

/-- An operation outside every handler. -/
theorem accounts_perform {op : I.Op} (hstays : ∀ answer, ¬ leaving ⟨op, answer⟩)
    (herror : ∀ error, fatal ⟨op, .error error⟩ ↔ escaping error)
    (hok : ∀ result, ¬ fatal ⟨op, .ok result⟩) :
    Accounts fatal leaving escaping (Program.perform op) := by
  intro surroundings history hneither
  rw [Program.run_perform]
  rcases surroundings history op with error | result
  · exact accounted_error hneither (hstays _) (herror error)
  · exact (hneither.concat (hok result) (hstays _)).accounted not_false

/-- A part under a handler: nothing in it is fatal, and the handler accounts for its own errors. -/
theorem accounts_tryCatch {program : Program I α} {handler : I.Error → Program I α}
    (hprogram : program.Uses (Harmless fatal leaving))
    (hhandler : ∀ error, Accounts fatal leaving escaping (handler error)) :
    Accounts fatal leaving escaping (program.tryCatch handler) := by
  intro surroundings history hneither
  have hafter := hneither.run hprogram surroundings
  rw [Program.run_tryCatch]
  generalize program.run surroundings history = result at hafter
  obtain ⟨after, value | error⟩ := result
  · exact hafter.accounted not_false
  · exact hhandler error surroundings after hafter
  · exact hafter.accounted not_false

theorem accounts_ite {condition : Prop} [Decidable condition] {yes no : Program I α}
    (hyes : Accounts fatal leaving escaping yes) (hno : Accounts fatal leaving escaping no) :
    Accounts fatal leaving escaping (if condition then yes else no) := by
  split_ifs
  · exact hyes
  · exact hno

/-- A loop over a list accounts for its errors when its body does. -/
theorem accounts_forM {ι : Type} {items : List ι} {body : ι → Program I PUnit}
    (hbody : ∀ item ∈ items, Accounts fatal leaving escaping (body item)) :
    Accounts fatal leaving escaping (items.forM body) := by
  induction items with
  | nil => exact accounts_pure PUnit.unit
  | cons item items ih =>
    exact accounts_bind (hbody item List.mem_cons_self) fun _ ↦
      ih fun other hother ↦ hbody other (List.mem_cons_of_mem _ hother)

end CanopenTools.Effects
