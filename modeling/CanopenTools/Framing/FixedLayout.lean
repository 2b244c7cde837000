import Mathlib.Data.List.Basic

/-!
# Readers of fixed layouts

A reader of a fixed layout decodes the symbols at the front of its input, as many as the layout has,
and looks at no others. `FixedReader` says so with two laws: the front decides the result
(`read_take`), and the last symbol of the layout is part of a field (`last_read`).

Inputs of one length that agree on a front may be told apart by a reader or not.
`determined_iff` is the exact condition: a front decides what is read if and only if the layout is
no longer than the front.
-/

set_option autoImplicit false
set_option relaxedAutoImplicit false

namespace CanopenTools.Framing

/-- A reader of a fixed layout of `size` symbols. -/
structure FixedReader (β α : Type*) where
  size : ℕ
  /-- What the reader makes of its input, if the input is one of its values. -/
  read : List β → Option α
  read_take : ∀ symbols, read (symbols.take size) = read symbols
  last_read : ∀ before, before + 1 = size → ∃ first second : List β,
    first.length = size ∧ second.length = size ∧ first.take before = second.take before ∧
      read first ≠ read second

namespace FixedReader

variable {β α : Type*}

/-- Inputs that agree on the layout are read alike. -/
theorem read_congr (reader : FixedReader β α) {count : ℕ} (hsize : reader.size ≤ count)
    {first second : List β} (hfront : first.take count = second.take count) :
    reader.read first = reader.read second := by
  have hlayout : first.take reader.size = second.take reader.size := by
    rw [← Nat.min_eq_left hsize, ← List.take_take, ← List.take_take, hfront]
  rw [← reader.read_take first, hlayout, reader.read_take]

/-- What comes after the layout is not looked at. -/
theorem read_append (reader : FixedReader β α) {front : List β}
    (hfront : front.length = reader.size) (rest : List β) :
    reader.read (front ++ rest) = reader.read front := by
  refine reader.read_congr (Nat.le_refl _) ?_
  rw [List.take_left' hfront, List.take_of_length_le (Nat.le_of_eq hfront)]

/-- A front shorter than the layout leaves open what is read. -/
theorem exists_read_ne [Inhabited β] (reader : FixedReader β α) {length count : ℕ}
    (hlength : reader.size ≤ length) (hcount : count < reader.size) :
    ∃ first second : List β, first.length = length ∧ second.length = length ∧
      first.take count = second.take count ∧ reader.read first ≠ reader.read second := by
  obtain ⟨before, hbefore⟩ : ∃ before, before + 1 = reader.size := ⟨reader.size - 1, by omega⟩
  obtain ⟨first, second, hfirst, hsecond, hfront, hread⟩ := reader.last_read before hbefore
  let padding := List.replicate (length - reader.size) (default : β)
  have hpadded : ∀ layout : List β, layout.length = reader.size →
      (layout ++ padding).length = length ∧
        (layout ++ padding).take count = (layout.take before).take count := by
    intro layout hlayout
    constructor
    · rw [List.length_append, List.length_replicate, hlayout]
      omega
    · rw [List.take_take, Nat.min_eq_left (by omega), List.take_append_of_le_length (by omega)]
  refine ⟨first ++ padding, second ++ padding, (hpadded first hfirst).1, (hpadded second hsecond).1,
    ?_, ?_⟩
  · rw [(hpadded first hfirst).2, (hpadded second hsecond).2, hfront]
  · rwa [reader.read_append hfirst, reader.read_append hsecond]

/-- A front decides what is read of inputs of one length exactly when the layout is no longer than
the front. -/
theorem determined_iff [Inhabited β] (reader : FixedReader β α) {length : ℕ}
    (hlength : reader.size ≤ length) (count : ℕ) :
    (∀ first second : List β, first.length = length → second.length = length →
        first.take count = second.take count → reader.read first = reader.read second) ↔
      reader.size ≤ count := by
  constructor
  · intro hdetermined
    by_contra hshort
    obtain ⟨first, second, hfirst, hsecond, hfront, hread⟩ :=
      reader.exists_read_ne hlength (Nat.not_le.mp hshort)
    exact hread (hdetermined first second hfirst hsecond hfront)
  · intro hsize first second _ _ hfront
    exact reader.read_congr hsize hfront

end FixedReader

end CanopenTools.Framing
