import Mathlib.Data.Nat.Notation

/-!
# Cells that are borrowed at run time

A `RefCell` is a cell that several owners share. It counts its guards when the program runs: any
number of them may read, or one may write. A borrow that is against this panics, and the program
with it.

`Action` is a program with a state that may panic, and `Place` says where a cell is in the state.
`withRef` and `withMut` are the scopes of the two kinds of guards: the cell is marked, the body
runs, and the guard is dropped. `Yields` says that an action ends without a panic, with a result and
a state. Its rules follow the composition of actions; a scope whose body leaves its cell alone is as
if there were no marks (`yields_withRef`, `yields_withMut`).
-/

set_option autoImplicit false
set_option relaxedAutoImplicit false

namespace CanopenTools.Cells

/-- What makes a program panic. -/
inductive Panic
  | alreadyBorrowed
  | alreadyMutablyBorrowed
  | outOfRange
  | underflow
  | assertion
  deriving DecidableEq, Repr

/-- A program over a state. -/
abbrev Action (σ α : Type) : Type := StateT σ (Except Panic) α

variable {σ α β : Type}

/-- The action ends with a result and a state. -/
def Yields (action : Action σ α) (state : σ) (result : α) (after : σ) : Prop :=
  action.run state = .ok (result, after)

/-! ### Composition -/

theorem yields_pure (state : σ) (result : α) : Yields (pure result) state result state := rfl

theorem yields_get (state : σ) : Yields get state state state := rfl

theorem yields_set (state after : σ) : Yields (set after) state PUnit.unit after := rfl

theorem yields_modify (state : σ) (change : σ → σ) :
    Yields (modify change) state PUnit.unit (change state) := rfl

theorem Yields.bind {action : Action σ α} {next : α → Action σ β} {state middle after : σ}
    {value : α} {result : β} (haction : Yields action state value middle)
    (hnext : Yields (next value) middle result after) :
    Yields (action >>= next) state result after := by
  unfold Yields at haction hnext ⊢
  rw [StateT.run_bind, haction]
  exact hnext

theorem Yields.map {action : Action σ α} {state after : σ} {value : α}
    (haction : Yields action state value after) (function : α → β) :
    Yields (function <$> action) state (function value) after := by
  unfold Yields at haction ⊢
  rw [StateT.run_map, haction]
  rfl

/-- The entries for which a test holds, in their order. -/
def filter (keep : α → Action σ Bool) : List α → Action σ (List α)
  | [] => pure []
  | entry :: rest => do
    let kept ← keep entry
    let rest ← filter keep rest
    return if kept then entry :: rest else rest

/-- A test that leaves the state as it is. -/
theorem yields_filter {keep : α → Action σ Bool} {test : α → Bool} {state : σ}
    (hkeep : ∀ entry, Yields (keep entry) state (test entry) state) (list : List α) :
    Yields (filter keep list) state (list.filter test) state := by
  induction list with
  | nil => exact yields_pure state []
  | cons entry rest ih =>
    refine (hkeep entry).bind (ih.bind ?_)
    rw [List.filter_cons]
    exact yields_pure state _

/-- A function that leaves the state as it is, along a list. -/
theorem yields_mapM {function : α → Action σ β} {value : α → β} {state : σ} {list : List α}
    (hfunction : ∀ entry ∈ list, Yields (function entry) state (value entry) state) :
    Yields (list.mapM function) state (list.map value) state := by
  induction list with
  | nil => exact yields_pure state []
  | cons entry rest ih =>
    rw [List.mapM_cons]
    have hrest := ih fun other hother ↦ hfunction other (List.mem_cons_of_mem _ hother)
    exact (hfunction entry List.mem_cons_self).bind (hrest.bind (yields_pure state _))

/-- A function that leaves the state as it is, from one value to the next. -/
theorem yields_foldlM {function : β → α → Action σ β} {next : β → α → β} {state : σ}
    (hfunction : ∀ value entry, Yields (function value entry) state (next value entry) state)
    (list : List α) (value : β) :
    Yields (list.foldlM function value) state (list.foldl next value) state := by
  induction list generalizing value with
  | nil => exact yields_pure state value
  | cons entry rest ih => exact (hfunction value entry).bind (ih (next value entry))

/-! ### Cells -/

/-- The guards of a cell. -/
inductive Flag
  | reading (guards : ℕ)
  | writing
  deriving DecidableEq, Repr

/-- A cell with its guards. -/
structure RefCell (α : Type) where
  value : α
  flag : Flag

/-- `RefCell::new`. -/
def RefCell.new (value : α) : RefCell α := ⟨value, .reading 0⟩

/-- Where a cell is in a state. -/
structure Place (σ α : Type) where
  get : σ → RefCell α
  set : σ → RefCell α → σ
  get_set : ∀ state cell, get (set state cell) = cell
  set_get : ∀ state, set state (get state) = state
  set_set : ∀ state cell other, set (set state cell) other = set state other

/-- A reading guard is dropped. -/
def RefCell.release (cell : RefCell α) : RefCell α :=
  match cell.flag with
  | .reading guards => ⟨cell.value, .reading (guards - 1)⟩
  | .writing => cell

/-- The scope of `borrow`. -/
def withRef (place : Place σ α) (body : α → Action σ β) : Action σ β := do
  let state ← get
  match place.get state with
  | ⟨_, .writing⟩ => throw .alreadyMutablyBorrowed
  | ⟨value, .reading guards⟩ =>
    set (place.set state ⟨value, .reading (guards + 1)⟩)
    let result ← body value
    modify fun after ↦ place.set after (place.get after).release
    return result

/-- The scope of `borrow_mut`, whose body gives the new value. -/
def withMut (place : Place σ α) (body : α → Action σ (α × β)) : Action σ β := do
  let state ← get
  match place.get state with
  | ⟨_, .writing⟩ => throw .alreadyMutablyBorrowed
  | ⟨_, .reading (_ + 1)⟩ => throw .alreadyBorrowed
  | ⟨value, .reading 0⟩ =>
    set (place.set state ⟨value, .writing⟩)
    let (value, result) ← body value
    modify fun after ↦ place.set after ⟨value, .reading 0⟩
    return result

variable {place : Place σ α} {state after : σ} {value : α}

/-- A body that leaves its cell alone. -/
theorem yields_withRef {body : α → Action σ β} {guards : ℕ} {result : β}
    (hget : place.get state = ⟨value, .reading guards⟩)
    (hbody : Yields (body value) (place.set state ⟨value, .reading (guards + 1)⟩) result
      (place.set after ⟨value, .reading (guards + 1)⟩))
    (hafter : place.get after = ⟨value, .reading guards⟩) :
    Yields (withRef place body) state result after := by
  have hrelease : place.set (place.set after ⟨value, .reading (guards + 1)⟩)
      (place.get (place.set after ⟨value, .reading (guards + 1)⟩)).release = after := by
    rw [place.get_set, place.set_set, RefCell.release]
    show place.set after ⟨value, .reading guards⟩ = after
    rw [← hafter, place.set_get]
  unfold withRef
  refine Yields.bind (yields_get state) ?_
  rw [hget]
  refine (yields_set state _).bind (hbody.bind ((yields_modify _ _).bind ?_))
  rw [hrelease]
  exact yields_pure after result

/-- A body that only looks. -/
theorem yields_withRef_pure (result : α → β) {guards : ℕ}
    (hget : place.get state = ⟨value, .reading guards⟩) :
    Yields (withRef place fun value ↦ pure (result value)) state (result value) state :=
  yields_withRef hget (yields_pure _ _) hget

/-- A free cell is overwritten. -/
theorem yields_withMut {body : α → Action σ (α × β)} {new : α} {result : β}
    (hget : place.get state = .new value)
    (hbody : Yields (body value) (place.set state ⟨value, .writing⟩) (new, result)
      (place.set after ⟨value, .writing⟩)) :
    Yields (withMut place body) state result (place.set after (.new new)) := by
  unfold withMut
  refine Yields.bind (yields_get state) ?_
  rw [hget]
  refine (yields_set state _).bind (hbody.bind ((yields_modify _ _).bind ?_))
  rw [place.set_set]
  exact yields_pure _ result

/-- A free cell is overwritten with a function of its value. -/
theorem yields_withMut_pure (new : α → α × β) (hget : place.get state = .new value) :
    Yields (withMut place fun value ↦ pure (new value)) state (new value).2
      (place.set state (.new (new value).1)) :=
  yields_withMut hget (yields_pure _ _)

end CanopenTools.Cells
