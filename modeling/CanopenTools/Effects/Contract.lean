import CanopenTools.Effects.Program

/-!
# Contracts of programs

A contract says what a program may rely on in the answers of its surroundings and what holds of the
history whenever it asks for an operation. `Program.wp` is the weakest precondition of a program
under a contract, for a postcondition on its value and one on its errors, and it is computed along
the program: `wp_bind`, `wp_tryCatch`, `wp_ensuring` and `wp_perform` are its rules. `wp_sound`
is what it is good for: in surroundings that keep what the program relies on, every operation of
a run is asked for in a history where its guard holds.

Assertions about histories that are never lost again are `Stable`. `After` says that an event of a
kind came after an assertion held, so that nested uses of it spell out an order of events.
-/

set_option autoImplicit false
set_option relaxedAutoImplicit false

namespace CanopenTools.Effects

variable {I : Interface} {α β : Type}

/-- What a program relies on in the answers it gets, and what it guards its operations with. -/
structure Contract (I : Interface) where
  rely : List (Event I) → Event I → Prop
  guard : List (Event I) → I.Op → Prop

/-- Surroundings whose answers a program can rely on. -/
def Surroundings.Keeps (surroundings : Surroundings I) (contract : Contract I) : Prop :=
  ∀ history op, contract.rely history ⟨op, surroundings history op⟩

/-- Every operation that a history adds to an earlier one was asked for under its guard. -/
def Guarded (contract : Contract I) (start history : List (Event I)) : Prop :=
  ∀ before event after, history = before ++ event :: after → start <+: before →
    contract.guard before event.op

namespace Program

/-! ### Weakest preconditions -/

/-- The weakest precondition of a program under a contract. -/
def wp (contract : Contract I) : Program I α → (α → List (Event I) → Prop) →
    (I.Error → List (Event I) → Prop) → List (Event I) → Prop
  | pure value, returns, _, history => returns value history
  | raise error, _, raises, history => raises error history
  | unfinished, _, _, _ => True
  | call op next, returns, raises, history =>
    contract.guard history op ∧ ∀ answer, contract.rely history ⟨op, answer⟩ →
      (next answer).wp contract returns raises (history ++ [⟨op, answer⟩])

variable {contract : Contract I} {returns : α → List (Event I) → Prop}
  {raises : I.Error → List (Event I) → Prop} {history : List (Event I)}

/-- A weakest precondition is monotone in its postconditions. -/
theorem wp_mono {program : Program I α} {returns' : α → List (Event I) → Prop}
    {raises' : I.Error → List (Event I) → Prop}
    (hreturns : ∀ value history, returns value history → returns' value history)
    (hraises : ∀ error history, raises error history → raises' error history)
    (hwp : program.wp contract returns raises history) :
    program.wp contract returns' raises' history := by
  induction program generalizing history with
  | pure value => exact hreturns value history hwp
  | raise error => exact hraises error history hwp
  | unfinished => trivial
  | call op next ih => exact ⟨hwp.1, fun answer hrely ↦ ih answer (hwp.2 answer hrely)⟩

theorem wp_bind (program : Program I β) (next : β → Program I α) :
    (program >>= next).wp contract returns raises history ↔
      program.wp contract (fun value ↦ (next value).wp contract returns raises) raises history := by
  change (program.bind next).wp contract returns raises history ↔ _
  induction program generalizing history with
  | pure value => rfl
  | raise error => rfl
  | unfinished => rfl
  | call op go ih => exact and_congr_right fun _ ↦ forall₂_congr fun answer _ ↦ ih answer

/-- Sequencing: what the first part establishes is what the rest needs. -/
theorem wp_seq {program : Program I β} {next : β → Program I α}
    {middle : β → List (Event I) → Prop}
    (hprogram : program.wp contract middle raises history)
    (hnext : ∀ value history, middle value history →
      (next value).wp contract returns raises history) :
    (program >>= next).wp contract returns raises history :=
  (wp_bind program next).mpr (wp_mono hnext (fun _ _ herror ↦ herror) hprogram)

theorem wp_tryCatch (program : Program I α) (handler : I.Error → Program I α) :
    (program.tryCatch handler).wp contract returns raises history ↔
      program.wp contract returns (fun error ↦ (handler error).wp contract returns raises)
        history := by
  induction program generalizing history with
  | pure value => rfl
  | raise error => rfl
  | unfinished => rfl
  | call op go ih => exact and_congr_right fun _ ↦ forall₂_congr fun answer _ ↦ ih answer

theorem wp_ensuring (program : Program I α) (cleanup : Program I Unit) :
    (program.ensuring cleanup).wp contract returns raises history ↔
      program.wp contract (fun value ↦ cleanup.wp contract (fun _ ↦ returns value) raises)
        (fun error ↦ cleanup.wp contract (fun _ ↦ raises error) raises) history := by
  induction program generalizing history with
  | pure value => exact wp_bind cleanup fun _ ↦ pure value
  | raise error => exact wp_bind cleanup fun _ ↦ raise error
  | unfinished => rfl
  | call op go ih => exact and_congr_right fun _ ↦ forall₂_congr fun answer _ ↦ ih answer

/-- One operation: its guard holds, and both kinds of answers lead on. -/
theorem wp_perform {op : I.Op} {returns : I.Result op → List (Event I) → Prop}
    (hguard : contract.guard history op)
    (hreturns : ∀ result, contract.rely history ⟨op, .ok result⟩ →
      returns result (history ++ [⟨op, .ok result⟩]))
    (hraises : ∀ error, contract.rely history ⟨op, .error error⟩ →
      raises error (history ++ [⟨op, .error error⟩])) :
    (perform op).wp contract returns raises history := by
  refine ⟨hguard, fun answer hrely ↦ ?_⟩
  cases answer with
  | ok result => exact hreturns result hrely
  | error error => exact hraises error hrely

/-- A program keeps an assertion that every operation it can ask for keeps, and under which each of
them may be asked for. -/
theorem wp_of_uses {allowed : I.Op → Prop} {assertion : List (Event I) → Prop}
    {program : Program I α} (huses : program.Uses allowed)
    (hguard : ∀ history op, allowed op → assertion history → contract.guard history op)
    (hkeeps : ∀ history event, allowed event.op → contract.rely history event →
      assertion history → assertion (history ++ [event]))
    (hhistory : assertion history) :
    program.wp contract (fun _ ↦ assertion) (fun _ ↦ assertion) history := by
  induction program generalizing history with
  | pure value => exact hhistory
  | raise error => exact hhistory
  | unfinished => trivial
  | call op next ih =>
    exact ⟨hguard history op huses.1 hhistory, fun answer hrely ↦
      ih answer (huses.2 answer) (hkeeps history _ huses.1 hrely hhistory)⟩

/-! ### Runs -/

/-- A history adds nothing to itself. -/
theorem guarded_self (contract : Contract I) (history : List (Event I)) :
    Guarded contract history history := by
  intro before event after hsplit hstart
  have hlength := hstart.length_le
  rw [hsplit, List.length_append, List.length_cons] at hlength
  omega

/-- The first operation that is added to a history, or a later one. -/
theorem guarded_of_concat {event : Event I} {final : List (Event I)}
    (hguard : contract.guard history event.op) (hfront : history ++ [event] <+: final)
    (hlater : Guarded contract (history ++ [event]) final) : Guarded contract history final := by
  intro before other after hsplit hstart
  have hbefore : before <+: final := hsplit ▸ List.prefix_append _ _
  by_cases hsame : before.length = history.length
  · obtain rfl : history = before := hstart.eq_of_length hsame.symm
    obtain ⟨rest, hrest⟩ := hfront
    rw [hsplit, List.append_assoc] at hrest
    have hfirst := List.append_cancel_left hrest
    rw [List.singleton_append, List.cons.injEq] at hfirst
    rwa [← hfirst.1]
  · refine hlater before other after hsplit (List.prefix_of_prefix_length_le hfront hbefore ?_)
    have hlength := hstart.length_le
    rw [List.length_append, List.length_singleton]
    omega

/-- Under its weakest precondition a program ends as its postconditions say and asks for every
operation under its guard. -/
theorem wp_sound {surroundings : Surroundings I} (hkeeps : surroundings.Keeps contract)
    {program : Program I α} (hwp : program.wp contract returns raises history) :
    Guarded contract history (program.run surroundings history).1 ∧
      match (program.run surroundings history).2 with
      | .returned value => returns value (program.run surroundings history).1
      | .raised error => raises error (program.run surroundings history).1
      | .running => True := by
  induction program generalizing history with
  | pure value => exact ⟨guarded_self contract history, hwp⟩
  | raise error => exact ⟨guarded_self contract history, hwp⟩
  | unfinished => exact ⟨guarded_self contract history, trivial⟩
  | call op next ih =>
    obtain ⟨hguarded, houtcome⟩ := ih _ (hwp.2 _ (hkeeps history op))
    exact ⟨guarded_of_concat hwp.1 (prefix_run surroundings _ _) hguarded, houtcome⟩

end Program

/-! ### Assertions that are never lost -/

/-- An assertion about histories that stays true when more happens. -/
def Stable (assertion : List (Event I) → Prop) : Prop :=
  ∀ history more, assertion history → assertion (history ++ more)

/-- An event of a kind happened after an assertion held. -/
def After (assertion : List (Event I) → Prop) (kind : Event I → Prop)
    (history : List (Event I)) : Prop :=
  ∃ before event after, history = before ++ event :: after ∧ assertion before ∧ kind event

theorem stable_after (assertion : List (Event I) → Prop) (kind : Event I → Prop) :
    Stable (After assertion kind) := by
  rintro history more ⟨before, event, after, rfl, hbefore, hevent⟩
  exact ⟨before, event, after ++ more, by simp, hbefore, hevent⟩

theorem stable_true : Stable fun _ : List (Event I) ↦ True := fun _ _ _ ↦ trivial

/-- An operation without a guard keeps an assertion that is never lost. -/
theorem Program.wp_perform_stable {contract : Contract I} {assertion : List (Event I) → Prop}
    (hstable : Stable assertion) {op : I.Op} {history : List (Event I)}
    (hguard : contract.guard history op) (hhistory : assertion history) :
    (Program.perform op).wp contract (fun _ ↦ assertion) (fun _ ↦ assertion) history :=
  wp_perform hguard (fun _ _ ↦ hstable _ _ hhistory) fun _ _ ↦ hstable _ _ hhistory

/-- The event that has just happened. -/
theorem after_concat {assertion : List (Event I) → Prop} {kind : Event I → Prop}
    {history : List (Event I)} {event : Event I} (hhistory : assertion history)
    (hevent : kind event) : After assertion kind (history ++ [event]) :=
  ⟨history, event, [], rfl, hhistory, hevent⟩

end CanopenTools.Effects
