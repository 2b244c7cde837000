import CanopenTools.Effects.Program

/-!
# Carrying out one interface in another

A program over an interface is carried out over another one by a program for each of its operations.
`translate` replaces every operation by its program and goes on with what this returns or raises. It
goes along with the composition of programs (`translate_bind`, `translate_tryCatch`), and an
operation alone becomes its program (`translate_perform`). So what a script does in terms of its
operations can be read in terms of the operations beneath.
-/

set_option autoImplicit false
set_option relaxedAutoImplicit false

namespace CanopenTools.Effects

namespace Program

variable {I : Interface} {α β : Type}

theorem bind_assoc {γ : Type} (program : Program I α) (next : α → Program I β)
    (last : β → Program I γ) :
    (program.bind next).bind last = program.bind fun value ↦ (next value).bind last := by
  induction program with
  | pure value => rfl
  | raise error => rfl
  | unfinished => rfl
  | call op go ih => exact congrArg (call op) (funext ih)

/-- A program together with its errors: it returns how the program ends. -/
def attempt : Program I α → Program I (Except I.Error α)
  | pure value => pure (.ok value)
  | raise error => pure (.error error)
  | unfinished => unfinished
  | call op go => call op fun answer ↦ (go answer).attempt

/-- Going on with a value or an error as they are is nothing. -/
theorem attempt_bind_rethrow (program : Program I α) :
    (program.attempt.bind fun
      | .ok value => pure value
      | .error error => raise error) = program := by
  induction program with
  | pure value => rfl
  | raise error => rfl
  | unfinished => rfl
  | call op go ih => exact congrArg (call op) (funext ih)

/-- A program with its errors raises nothing, so that a handler is for what follows. -/
theorem tryCatch_attempt_bind (program : Program I α) (next : Except I.Error α → Program I β)
    (handler : I.Error → Program I β) :
    (program.attempt.bind next).tryCatch handler =
      program.attempt.bind fun answer ↦ (next answer).tryCatch handler := by
  induction program with
  | pure value => rfl
  | raise error => rfl
  | unfinished => rfl
  | call op go ih => exact congrArg (call op) (funext ih)

theorem uses_attempt {allowed : I.Op → Prop} {program : Program I α}
    (huses : program.Uses allowed) : program.attempt.Uses allowed := by
  induction program with
  | pure value => trivial
  | raise error => trivial
  | unfinished => trivial
  | call op go ih => exact ⟨huses.1, fun answer ↦ ih answer (huses.2 answer)⟩

end Program

/-- The programs that carry out the operations of an interface over another one with the same
errors. -/
structure Translation (I : Interface) where
  Op : Type
  Result : Op → Type
  carryOut : (op : I.Op) → Program ⟨Op, Result, I.Error⟩ (I.Result op)

namespace Translation

variable {I : Interface} {α β : Type} (translation : Translation I)

/-- The interface that the operations are carried out over. -/
abbrev target : Interface := ⟨translation.Op, translation.Result, I.Error⟩

/-- A program, carried out over the other interface. -/
def translate : Program I α → Program translation.target α
  | .pure value => .pure value
  | .raise error => .raise error
  | .unfinished => .unfinished
  | .call op next => (translation.carryOut op).attempt.bind fun answer ↦ translate (next answer)

theorem translate_perform (op : I.Op) :
    translation.translate (.perform op) = translation.carryOut op := by
  refine Eq.trans ?_ (translation.carryOut op).attempt_bind_rethrow
  refine congrArg (translation.carryOut op).attempt.bind (funext fun answer ↦ ?_)
  cases answer <;> rfl

theorem translate_bind (program : Program I α) (next : α → Program I β) :
    translation.translate (program >>= next) =
      translation.translate program >>= fun value ↦ translation.translate (next value) := by
  change translation.translate (program.bind next) = (translation.translate program).bind _
  induction program with
  | pure value => rfl
  | raise error => rfl
  | unfinished => rfl
  | call op go ih =>
    rw [Program.bind, translate, translate, Program.bind_assoc]
    exact congrArg (translation.carryOut op).attempt.bind (funext ih)

theorem translate_tryCatch (program : Program I α) (handler : I.Error → Program I α) :
    translation.translate (program.tryCatch handler) =
      (translation.translate program).tryCatch fun error ↦
        translation.translate (handler error) := by
  induction program with
  | pure value => rfl
  | raise error => rfl
  | unfinished => rfl
  | call op go ih =>
    rw [Program.tryCatch, translate, translate, Program.tryCatch_attempt_bind]
    exact congrArg (translation.carryOut op).attempt.bind (funext ih)

theorem uses_translate {allowed : I.Op → Prop} {allowed' : translation.Op → Prop}
    (hcarryOut : ∀ op, allowed op → (translation.carryOut op).Uses allowed')
    {program : Program I α} (huses : program.Uses allowed) :
    (translation.translate program).Uses allowed' := by
  induction program with
  | pure value => trivial
  | raise error => trivial
  | unfinished => trivial
  | call op go ih =>
    exact Program.uses_bind (Program.uses_attempt (hcarryOut op huses.1)) fun answer ↦
      ih answer (huses.2 answer)

end Translation

end CanopenTools.Effects
