import Mathlib.Logic.Basic
import Mathlib.Tactic.SplitIfs

/-!
# Programs over fallible operations

A program that asks its surroundings to perform operations, each of which returns a result or raises
an error. `Program` is the tree of its calls: after a call the program goes on with the answer,
whatever it is. Programs are a monad with errors, so that a script can be written down line by line;
`tryCatch` and `ensuring` are `try … except` and `try … finally`. A loop without a bound is written
with fuel and is `unfinished` when the fuel is used up.

`Surroundings` answers every operation from the history of the run, so it stands for every behaviour
of users, devices and clocks, adaptive or not. `run` gives the history and the outcome of a program
in its surroundings. `Uses` says which operations a program can ask for at all, and goes along with
the composition of programs.
-/

set_option autoImplicit false
set_option relaxedAutoImplicit false

namespace CanopenTools.Effects

/-- The operations that a program can ask for, the results they return and the errors they raise. -/
structure Interface where
  Op : Type
  Result : Op → Type
  Error : Type

variable {I : Interface} {α β : Type}

/-- A program over an interface. -/
inductive Program (I : Interface) (α : Type) : Type
  | pure (value : α)
  | raise (error : I.Error)
  | unfinished
  | call (op : I.Op) (next : Except I.Error (I.Result op) → Program I α)

namespace Program

/-! ### Composition -/

/-- Go on with the value of a program. -/
def bind : Program I α → (α → Program I β) → Program I β
  | pure value, next => next value
  | raise error, _ => raise error
  | unfinished, _ => unfinished
  | call op go, next => call op fun answer ↦ (go answer).bind next

instance : Monad (Program I) where
  pure := pure
  bind := bind

/-- Handle the errors of a program. -/
def tryCatch : Program I α → (I.Error → Program I α) → Program I α
  | pure value, _ => pure value
  | raise error, handler => handler error
  | unfinished, _ => unfinished
  | call op go, handler => call op fun answer ↦ (go answer).tryCatch handler

/-- Run a clean-up after a program, whether it returns or raises. An error of the clean-up takes the
place of what the program did. -/
def ensuring : Program I α → Program I Unit → Program I α
  | pure value, cleanup => cleanup.bind fun _ ↦ pure value
  | raise error, cleanup => cleanup.bind fun _ ↦ raise error
  | unfinished, _ => unfinished
  | call op go, cleanup => call op fun answer ↦ (go answer).ensuring cleanup

/-- Ask for one operation. -/
def perform (op : I.Op) : Program I (I.Result op) :=
  call op fun
    | .ok result => pure result
    | .error error => raise error

/-! ### The operations of a program -/

/-- Every operation that a program can ask for is allowed. -/
def Uses (allowed : I.Op → Prop) : Program I α → Prop
  | pure _ => True
  | raise _ => True
  | unfinished => True
  | call op next => allowed op ∧ ∀ answer, (next answer).Uses allowed

theorem Uses.mono {allowed allowed' : I.Op → Prop} {program : Program I α}
    (huses : program.Uses allowed) (hallowed : ∀ op, allowed op → allowed' op) :
    program.Uses allowed' := by
  induction program with
  | pure value => trivial
  | raise error => trivial
  | unfinished => trivial
  | call op go ih => exact ⟨hallowed op huses.1, fun answer ↦ ih answer (huses.2 answer)⟩

theorem uses_bind {allowed : I.Op → Prop} {program : Program I α} {next : α → Program I β}
    (hprogram : program.Uses allowed) (hnext : ∀ value, (next value).Uses allowed) :
    (program >>= next).Uses allowed := by
  change (program.bind next).Uses allowed
  induction program with
  | pure value => exact hnext value
  | raise error => trivial
  | unfinished => trivial
  | call op go ih => exact ⟨hprogram.1, fun answer ↦ ih answer (hprogram.2 answer)⟩

theorem uses_tryCatch {allowed : I.Op → Prop} {program : Program I α}
    {handler : I.Error → Program I α} (hprogram : program.Uses allowed)
    (hhandler : ∀ error, (handler error).Uses allowed) :
    (program.tryCatch handler).Uses allowed := by
  induction program with
  | pure value => trivial
  | raise error => exact hhandler error
  | unfinished => trivial
  | call op go ih => exact ⟨hprogram.1, fun answer ↦ ih answer (hprogram.2 answer)⟩

theorem uses_ensuring {allowed : I.Op → Prop} {program : Program I α} {cleanup : Program I Unit}
    (hprogram : program.Uses allowed) (hcleanup : cleanup.Uses allowed) :
    (program.ensuring cleanup).Uses allowed := by
  induction program with
  | pure value => exact uses_bind hcleanup fun _ ↦ trivial
  | raise error => exact uses_bind hcleanup fun _ ↦ trivial
  | unfinished => trivial
  | call op go ih => exact ⟨hprogram.1, fun answer ↦ ih answer (hprogram.2 answer)⟩

theorem uses_perform {allowed : I.Op → Prop} {op : I.Op} (hop : allowed op) :
    (perform op).Uses allowed := by
  refine ⟨hop, fun answer ↦ ?_⟩
  cases answer <;> trivial

theorem uses_ite {allowed : I.Op → Prop} {condition : Prop} [Decidable condition]
    {yes no : Program I α} (hyes : yes.Uses allowed) (hno : no.Uses allowed) :
    (if condition then yes else no).Uses allowed := by
  split_ifs
  · exact hyes
  · exact hno

theorem uses_forM {ι : Type} {allowed : I.Op → Prop} {items : List ι}
    {body : ι → Program I PUnit} (hbody : ∀ item ∈ items, (body item).Uses allowed) :
    (items.forM body).Uses allowed := by
  induction items with
  | nil => trivial
  | cons item items ih =>
    exact uses_bind (hbody item List.mem_cons_self) fun _ ↦
      ih fun other hother ↦ hbody other (List.mem_cons_of_mem _ hother)

end Program

/-! ### Runs -/

/-- An operation with its answer. -/
structure Event (I : Interface) where
  op : I.Op
  answer : Except I.Error (I.Result op)

/-- How a run ends; `running` stands for a loop that is not finished. -/
inductive Outcome (I : Interface) (α : Type)
  | returned (value : α)
  | raised (error : I.Error)
  | running

/-- What answers the operations of a program, with the history of the run in view. -/
def Surroundings (I : Interface) : Type :=
  List (Event I) → (op : I.Op) → Except I.Error (I.Result op)

namespace Program

/-- The history after a run that starts from a history, and the outcome. -/
def run (surroundings : Surroundings I) :
    Program I α → List (Event I) → List (Event I) × Outcome I α
  | pure value, history => (history, .returned value)
  | raise error, history => (history, .raised error)
  | unfinished, history => (history, .running)
  | call op next, history =>
    (next (surroundings history op)).run surroundings (history ++ [⟨op, surroundings history op⟩])

variable (surroundings : Surroundings I)

/-- A run only adds to its history. -/
theorem prefix_run (program : Program I α) (history : List (Event I)) :
    history <+: (program.run surroundings history).1 := by
  induction program generalizing history with
  | pure value => exact List.prefix_rfl
  | raise error => exact List.prefix_rfl
  | unfinished => exact List.prefix_rfl
  | call op go ih => exact (List.prefix_append _ _).trans (ih _ _)

/-- A run of one operation. -/
theorem run_perform (op : I.Op) (history : List (Event I)) :
    (perform op).run surroundings history =
      (history ++ [⟨op, surroundings history op⟩],
        match surroundings history op with
        | .ok result => .returned result
        | .error error => .raised error) := by
  rw [perform, run]
  cases surroundings history op <;> rfl

/-- A run of a sequence is a run of its first part, and of the rest when the first part returns. -/
theorem run_bind (program : Program I α) (next : α → Program I β) (history : List (Event I)) :
    (program >>= next).run surroundings history =
      match program.run surroundings history with
      | (after, .returned value) => (next value).run surroundings after
      | (after, .raised error) => (after, .raised error)
      | (after, .running) => (after, .running) := by
  change (program.bind next).run surroundings history = _
  induction program generalizing history with
  | pure value => rfl
  | raise error => rfl
  | unfinished => rfl
  | call op go ih => exact ih _ _

/-- A run of an operation and what follows it. -/
theorem run_perform_bind (op : I.Op) (next : I.Result op → Program I α)
    (history : List (Event I)) :
    (perform op >>= next).run surroundings history =
      match surroundings history op with
      | .ok result => (next result).run surroundings (history ++ [⟨op, .ok result⟩])
      | .error error => (history ++ [⟨op, .error error⟩], .raised error) := by
  rw [run_bind, run_perform]
  cases surroundings history op <;> rfl

/-- A run with a handler is a run of the body, and of the handler when the body raises. -/
theorem run_tryCatch (program : Program I α) (handler : I.Error → Program I α)
    (history : List (Event I)) :
    (program.tryCatch handler).run surroundings history =
      match program.run surroundings history with
      | (after, .returned value) => (after, .returned value)
      | (after, .raised error) => (handler error).run surroundings after
      | (after, .running) => (after, .running) := by
  induction program generalizing history with
  | pure value => rfl
  | raise error => rfl
  | unfinished => rfl
  | call op go ih => exact ih _ _

/-- A run with a clean-up is a run of the body, and of the clean-up when the body ends. -/
theorem run_ensuring (program : Program I α) (cleanup : Program I Unit)
    (history : List (Event I)) :
    (program.ensuring cleanup).run surroundings history =
      match program.run surroundings history with
      | (after, .returned value) => (cleanup >>= fun _ ↦ pure value).run surroundings after
      | (after, .raised error) => (cleanup >>= fun _ ↦ raise error).run surroundings after
      | (after, .running) => (after, .running) := by
  induction program generalizing history with
  | pure value => rfl
  | raise error => rfl
  | unfinished => rfl
  | call op go ih => exact ih _ _

/-- What holds of a run of a sequence, by the ways in which its first part ends. -/
theorem run_bind_cases {holds : List (Event I) × Outcome I β → Prop} {program : Program I α}
    {next : α → Program I β} {history : List (Event I)}
    (hreturned : ∀ after value, program.run surroundings history = (after, .returned value) →
      holds ((next value).run surroundings after))
    (hraised : ∀ after error, program.run surroundings history = (after, .raised error) →
      holds (after, .raised error))
    (hrunning : ∀ after, program.run surroundings history = (after, .running) →
      holds (after, .running)) :
    holds ((program >>= next).run surroundings history) := by
  rw [run_bind]
  rcases hrun : program.run surroundings history with ⟨after, value | error⟩
  · exact hreturned after value hrun
  · exact hraised after error hrun
  · exact hrunning after hrun

/-- What holds of a run with a handler, by the ways in which the body ends. -/
theorem run_tryCatch_cases {holds : List (Event I) × Outcome I α → Prop} {program : Program I α}
    {handler : I.Error → Program I α} {history : List (Event I)}
    (hreturned : ∀ after value, program.run surroundings history = (after, .returned value) →
      holds (after, .returned value))
    (hraised : ∀ after error, program.run surroundings history = (after, .raised error) →
      holds ((handler error).run surroundings after))
    (hrunning : ∀ after, program.run surroundings history = (after, .running) →
      holds (after, .running)) :
    holds ((program.tryCatch handler).run surroundings history) := by
  rw [run_tryCatch]
  rcases hrun : program.run surroundings history with ⟨after, value | error⟩
  · exact hreturned after value hrun
  · exact hraised after error hrun
  · exact hrunning after hrun

/-- What holds of a run of one operation, by the answer. -/
theorem run_perform_cases {op : I.Op} {holds : List (Event I) × Outcome I (I.Result op) → Prop}
    {history : List (Event I)}
    (herror : ∀ error, holds (history ++ [⟨op, .error error⟩], .raised error))
    (hok : ∀ result, holds (history ++ [⟨op, .ok result⟩], .returned result)) :
    holds ((perform op).run surroundings history) := by
  rw [run_perform]
  rcases surroundings history op with error | result
  · exact herror error
  · exact hok result

/-- What holds of a run of an operation and what follows it, by the answer. -/
theorem run_perform_bind_cases {holds : List (Event I) × Outcome I α → Prop} {op : I.Op}
    {next : I.Result op → Program I α} {history : List (Event I)}
    (herror : ∀ error, holds (history ++ [⟨op, .error error⟩], .raised error))
    (hok : ∀ result, holds ((next result).run surroundings (history ++ [⟨op, .ok result⟩]))) :
    holds ((perform op >>= next).run surroundings history) := by
  rw [run_perform_bind]
  rcases surroundings history op with error | result
  · exact herror error
  · exact hok result

/-- What holds of a run of a choice. -/
theorem run_ite_cases {holds : List (Event I) × Outcome I α → Prop} {condition : Prop}
    [Decidable condition] {yes no : Program I α} {history : List (Event I)}
    (hyes : condition → holds (yes.run surroundings history))
    (hno : ¬ condition → holds (no.run surroundings history)) :
    holds ((if condition then yes else no).run surroundings history) := by
  split_ifs with hcondition
  · exact hyes hcondition
  · exact hno hcondition

/-- What a run adds to its history are operations that the program can ask for. -/
theorem mem_run_of_uses {allowed : I.Op → Prop} {program : Program I α}
    (huses : program.Uses allowed) {history : List (Event I)} {event : Event I}
    (hevent : event ∈ (program.run surroundings history).1) :
    event ∈ history ∨ allowed event.op := by
  induction program generalizing history with
  | pure value => exact Or.inl hevent
  | raise error => exact Or.inl hevent
  | unfinished => exact Or.inl hevent
  | call op go ih =>
    rcases ih _ (huses.2 _) hevent with hbefore | hlater
    · rcases List.mem_append.mp hbefore with hhistory | hlast
      · exact Or.inl hhistory
      · obtain rfl := List.mem_singleton.mp hlast
        exact Or.inr huses.1
    · exact Or.inr hlater

end Program

end CanopenTools.Effects
