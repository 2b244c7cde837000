import CanopenTools.Effects.Program

/-!
# What is left of a program

After some operations with their answers a program goes on with what is left of it (`Program.Goes`).
The answers determine what is left (`Goes.unique`), and the operation that a run asks for next is
the first one of what its history has left (`exists_goes_of_run`). So a program can be compared with
a machine place by place: at every place of the machine, what is left of the program is the code of
this place.
-/

set_option autoImplicit false
set_option relaxedAutoImplicit false

namespace CanopenTools.Effects

namespace Program

variable {I : Interface} {α : Type}

/-- After some operations with their answers, a program goes on with the rest. -/
inductive Goes : Program I α → List (Event I) → Program I α → Prop
  | refl (program : Program I α) : Goes program [] program
  | call {op : I.Op} {next : Except I.Error (I.Result op) → Program I α}
    (answer : Except I.Error (I.Result op)) {events : List (Event I)} {rest : Program I α}
    (hrest : Goes (next answer) events rest) :
    Goes (.call op next) (⟨op, answer⟩ :: events) rest

variable {program middle rest : Program I α} {events more : List (Event I)}

theorem Goes.trans (hfirst : Goes program events middle) (hsecond : Goes middle more rest) :
    Goes program (events ++ more) rest := by
  induction hfirst with
  | refl program => exact hsecond
  | call answer _ ih => exact .call answer (ih hsecond)

/-- The answers determine what is left. -/
theorem Goes.unique {other : Program I α} (hfirst : Goes program events rest)
    (hsecond : Goes program events other) : rest = other := by
  induction hfirst with
  | refl program =>
    cases hsecond
    rfl
  | call answer _ ih =>
    cases hsecond with
    | call _ hsecond => exact ih hsecond

/-- Between two points of a program there is the point after the first events. -/
theorem Goes.split (hgoes : Goes program (events ++ more) rest) :
    ∃ middle, Goes program events middle ∧ Goes middle more rest := by
  induction events generalizing program with
  | nil => exact ⟨program, .refl program, hgoes⟩
  | cons event events ih =>
    cases hgoes with
    | call answer hgoes =>
      obtain ⟨middle, hfirst, hsecond⟩ := ih hgoes
      exact ⟨middle, .call answer hfirst, hsecond⟩

/-- Where a program is out of fuel nothing follows. -/
theorem goes_unfinished (hgoes : Goes (.unfinished : Program I α) events rest) :
    rest = .unfinished := by
  cases hgoes
  rfl

/-! ### Runs -/

variable (surroundings : Surroundings I) {history before after : List (Event I)} {event : Event I}

/-- An event that a run adds to its history answers the first operation of what is left. -/
theorem exists_goes_of_run
    (hrun : (program.run surroundings history).1 = history ++ (before ++ event :: after)) :
    ∃ next, Goes program before (.call event.op next) := by
  induction program generalizing history before with
  | pure value => exact absurd hrun (by simp [run])
  | raise error => exact absurd hrun (by simp [run])
  | unfinished => exact absurd hrun (by simp [run])
  | call op next ih =>
    have hfront : history ++ [⟨op, surroundings history op⟩] <+:
        history ++ (before ++ event :: after) :=
      hrun ▸ prefix_run surroundings (next (surroundings history op)) _
    cases before with
    | nil =>
      obtain ⟨rest, hrest⟩ := (List.prefix_append_right_inj history).mp hfront
      obtain rfl : ⟨op, surroundings history op⟩ = event := (List.cons.inj hrest).1
      exact ⟨next, .refl _⟩
    | cons first before =>
      obtain ⟨rest, hrest⟩ := (List.prefix_append_right_inj history).mp hfront
      obtain rfl : ⟨op, surroundings history op⟩ = first := (List.cons.inj hrest).1
      obtain ⟨last, hgoes⟩ := ih (surroundings history op) (hrun.trans (List.append_cons _ _ _))
      exact ⟨last, .call _ hgoes⟩

/-- A run that returns has left nothing but the value. -/
theorem goes_of_returned {value : α}
    (hrun : program.run surroundings history = (history ++ events, .returned value)) :
    Goes program events (.pure value) := by
  induction program generalizing history events with
  | pure result =>
    obtain ⟨hsame, hvalue⟩ := Prod.mk.inj hrun
    obtain rfl : events = [] := List.self_eq_append_right.mp hsame
    obtain rfl := Outcome.returned.inj hvalue
    exact .refl _
  | raise error => exact absurd (Prod.mk.inj hrun).2 nofun
  | unfinished => exact absurd (Prod.mk.inj hrun).2 nofun
  | call op next ih =>
    have hfront : history ++ [⟨op, surroundings history op⟩] <+: history ++ events := by
      have hafter := prefix_run surroundings (next (surroundings history op))
        (history ++ [⟨op, surroundings history op⟩])
      rw [run] at hrun
      rwa [hrun] at hafter
    obtain ⟨rest, rfl⟩ := (List.prefix_append_right_inj history).mp hfront
    exact .call _ (ih (surroundings history op) (hrun.trans (by simp)))

end Program

end CanopenTools.Effects
