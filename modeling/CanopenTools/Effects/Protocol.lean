import CanopenTools.Effects.Contract

/-!
# The use of resources

A program opens what it later closes, and uses it only in between. A `Protocol` says this for an
interface: the state of use of the resources, which operations a state allows, and what an event
makes of the state. It may rely on facts about the answers, which may depend on the state.

`Program.Follows` is a triple: from a state of use, the program asks only for what is allowed and
ends in a state as its postconditions say. The rules are those of weakest preconditions, in terms of
the state of use alone. A part whose operations are allowed and change nothing leaves the state as
it is (`follows_of_uses`), and so it is not looked into. `follows_sound` is about runs: every
operation was allowed when it was asked for (`Obeyed`), wherever the run stops, and when it ends the
postcondition holds.
-/

set_option autoImplicit false
set_option relaxedAutoImplicit false

namespace CanopenTools.Effects

variable {I : Interface} {α β : Type}

/-- How a program may use its resources. -/
structure Protocol (I : Interface) where
  Usage : Type
  start : Usage
  allows : Usage → I.Op → Prop
  next : Usage → Event I → Usage
  relies : Usage → Event I → Prop

namespace Protocol

variable (protocol : Protocol I)

/-- The state of use after a history. -/
def usage (history : List (Event I)) : protocol.Usage := history.foldl protocol.next protocol.start

@[simp] theorem usage_nil : protocol.usage [] = protocol.start := rfl

@[simp] theorem usage_concat (history : List (Event I)) (event : Event I) :
    protocol.usage (history ++ [event]) = protocol.next (protocol.usage history) event := by
  rw [usage, List.foldl_append]
  rfl

/-- Every operation was allowed when it was asked for. -/
def Obeyed (history : List (Event I)) : Prop :=
  ∀ before event after, history = before ++ event :: after →
    protocol.allows (protocol.usage before) event.op

/-- The protocol as a contract about histories. -/
def contract : Contract I where
  rely := fun history ↦ protocol.relies (protocol.usage history)
  guard := fun history ↦ protocol.allows (protocol.usage history)

end Protocol

namespace Program

/-- From a state of use the program keeps to the protocol and ends as the postconditions say. -/
def Follows (protocol : Protocol I) (before : protocol.Usage) (program : Program I α)
    (returns : α → protocol.Usage → Prop) (raises : I.Error → protocol.Usage → Prop) : Prop :=
  ∀ history, protocol.usage history = before →
    program.wp protocol.contract (fun value after ↦ returns value (protocol.usage after))
      (fun error after ↦ raises error (protocol.usage after)) history

variable {protocol : Protocol I} {before : protocol.Usage} {returns : α → protocol.Usage → Prop}
  {raises : I.Error → protocol.Usage → Prop}

/-! ### Rules -/

theorem follows_pure {value : α} (hreturns : returns value before) :
    (pure value : Program I α).Follows protocol before returns raises := by
  rintro history rfl
  exact hreturns

theorem follows_raise {error : I.Error} (hraises : raises error before) :
    (raise error : Program I α).Follows protocol before returns raises := by
  rintro history rfl
  exact hraises

theorem follows_unfinished : (unfinished : Program I α).Follows protocol before returns raises :=
  fun _ _ ↦ trivial

theorem Follows.mono {program : Program I α} {returns' : α → protocol.Usage → Prop}
    {raises' : I.Error → protocol.Usage → Prop}
    (hfollows : program.Follows protocol before returns raises)
    (hreturns : ∀ value after, returns value after → returns' value after)
    (hraises : ∀ error after, raises error after → raises' error after) :
    program.Follows protocol before returns' raises' :=
  fun history husage ↦ wp_mono (fun value _ ↦ hreturns value _) (fun error _ ↦ hraises error _)
    (hfollows history husage)

/-- Sequencing: the rest goes on from every state in which the first part may return. -/
theorem follows_bind {program : Program I β} {next : β → Program I α}
    {middle : β → protocol.Usage → Prop}
    (hprogram : program.Follows protocol before middle raises)
    (hnext : ∀ value after, middle value after →
      (next value).Follows protocol after returns raises) :
    (program >>= next).Follows protocol before returns raises :=
  fun history husage ↦ wp_seq (hprogram history husage) fun value after hmiddle ↦
    hnext value (protocol.usage after) hmiddle after rfl

/-- A handler goes on from every state in which the body may raise. -/
theorem follows_tryCatch {program : Program I α} {handler : I.Error → Program I α}
    {fails : I.Error → protocol.Usage → Prop}
    (hprogram : program.Follows protocol before returns fails)
    (hhandler : ∀ error after, fails error after →
      (handler error).Follows protocol after returns raises) :
    (program.tryCatch handler).Follows protocol before returns raises :=
  fun history husage ↦ (wp_tryCatch program handler).mpr
    (wp_mono (fun _ _ hvalue ↦ hvalue) (fun error after hfails ↦
      hhandler error (protocol.usage after) hfails after rfl) (hprogram history husage))

/-- A clean-up runs in every state in which the body may end. -/
theorem follows_ensuring {program : Program I α} {cleanup : Program I Unit}
    {values : α → protocol.Usage → Prop} {errors : I.Error → protocol.Usage → Prop}
    (hprogram : program.Follows protocol before values errors)
    (hreturns : ∀ value after, values value after →
      cleanup.Follows protocol after (fun _ ↦ returns value) raises)
    (hraises : ∀ error after, errors error after →
      cleanup.Follows protocol after (fun _ ↦ raises error) raises) :
    (program.ensuring cleanup).Follows protocol before returns raises :=
  fun history husage ↦ (wp_ensuring program cleanup).mpr
    (wp_mono (fun value after hvalue ↦ hreturns value (protocol.usage after) hvalue after rfl)
      (fun error after herror ↦ hraises error (protocol.usage after) herror after rfl)
      (hprogram history husage))

/-- One operation: it is allowed, and both kinds of answers lead on. -/
theorem follows_perform {op : I.Op} {returns : I.Result op → protocol.Usage → Prop}
    (hallows : protocol.allows before op)
    (hreturns : ∀ result, protocol.relies before ⟨op, .ok result⟩ →
      returns result (protocol.next before ⟨op, .ok result⟩))
    (hraises : ∀ error, protocol.relies before ⟨op, .error error⟩ →
      raises error (protocol.next before ⟨op, .error error⟩)) :
    (perform op).Follows protocol before returns raises := by
  rintro history rfl
  refine wp_perform hallows (fun result hrely ↦ ?_) fun error hrely ↦ ?_
  · rw [protocol.usage_concat]
    exact hreturns result hrely
  · rw [protocol.usage_concat]
    exact hraises error hrely

theorem follows_ite {condition : Prop} [Decidable condition] {yes no : Program I α}
    (hyes : condition → yes.Follows protocol before returns raises)
    (hno : ¬ condition → no.Follows protocol before returns raises) :
    (if condition then yes else no).Follows protocol before returns raises := by
  split_ifs with hcondition
  · exact hyes hcondition
  · exact hno hcondition

/-- Operations that a state of use allows and that do not change it. -/
def Idle (protocol : Protocol I) (usage : protocol.Usage) (op : I.Op) : Prop :=
  protocol.allows usage op ∧ ∀ answer, protocol.next usage ⟨op, answer⟩ = usage

/-- A part that asks only for idle operations. -/
theorem follows_of_uses {program : Program I α} (huses : program.Uses (Idle protocol before)) :
    program.Follows protocol before (fun _ after ↦ after = before)
      (fun _ after ↦ after = before) := by
  intro history husage
  induction program generalizing history with
  | pure value => exact husage
  | raise error => exact husage
  | unfinished => trivial
  | call op next ih =>
    constructor
    · show protocol.allows (protocol.usage history) op
      rw [husage]
      exact huses.1.1
    · refine fun answer _ ↦ ih answer (huses.2 answer) _ ?_
      rw [protocol.usage_concat, husage, huses.1.2]

/-! ### Runs -/

/-- A run of a program that follows a protocol obeys it, and ends as the postconditions say. -/
theorem follows_sound {program : Program I α}
    (hfollows : program.Follows protocol protocol.start returns raises)
    (surroundings : Surroundings I)
    (hrelies : ∀ history op, protocol.relies (protocol.usage history)
      ⟨op, surroundings history op⟩) :
    protocol.Obeyed (program.run surroundings []).1 ∧
      match (program.run surroundings []).2 with
      | .returned value => returns value (protocol.usage (program.run surroundings []).1)
      | .raised error => raises error (protocol.usage (program.run surroundings []).1)
      | .running => True := by
  have hkeeps : surroundings.Keeps protocol.contract := hrelies
  obtain ⟨hguarded, houtcome⟩ := wp_sound hkeeps (hfollows [] protocol.usage_nil)
  exact ⟨fun before event after hsplit ↦ hguarded before event after hsplit List.nil_prefix,
    houtcome⟩

end Program

end CanopenTools.Effects
