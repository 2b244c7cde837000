import Mathlib.Data.List.Basic
import Mathlib.Data.List.Infix

/-!
# Numbered records in a stream

A stream whose symbols carry the number of the record they belong to. `Whole` says that a stream
consists of whole records with increasing numbers, and `Orderly` that it may end with a part of one
more. A stream that is written record by record is `Underway` with the part written so far; with its
last symbol it is whole again (`Underway.finish`), and where it is broken off it is orderly
(`Underway.orderly`).

The numbers are bounded, so that streams written in turn from one sequence of records have no number
in common.
-/

set_option autoImplicit false
set_option relaxedAutoImplicit false

namespace CanopenTools.Framing

variable {β : Type*}

/-- Symbols of the record with a number. -/
def tagged (number : ℕ) (symbols : List β) : List (ℕ × β) := symbols.map (Prod.mk number)

@[simp] theorem map_snd_tagged (number : ℕ) (symbols : List β) :
    (tagged number symbols).map Prod.snd = symbols := by
  rw [tagged, List.map_map]
  exact List.map_id symbols

theorem tagged_append (number : ℕ) (first second : List β) :
    tagged number (first ++ second) = tagged number first ++ tagged number second :=
  List.map_append

theorem fst_of_mem_tagged {number : ℕ} {symbols : List β} {symbol : ℕ × β}
    (hsymbol : symbol ∈ tagged number symbols) : symbol.1 = number := by
  obtain ⟨_, _, rfl⟩ := List.mem_map.mp hsymbol
  rfl

section Streams

variable (record : ℕ → List β)

/-- Whole records with increasing numbers below a bound. -/
def Whole (bound : ℕ) (stream : List (ℕ × β)) : Prop :=
  ∃ numbers : List ℕ, numbers.Pairwise (· < ·) ∧ (∀ number ∈ numbers, number < bound) ∧
    stream = numbers.flatMap fun number ↦ tagged number (record number)

/-- Whole records, and then the part of the record with the given number in front of `rest`. -/
def Underway (number : ℕ) (rest : List β) (stream : List (ℕ × β)) : Prop :=
  ∃ front part, Whole record number front ∧ part ++ rest = record number ∧
    stream = front ++ tagged number part

/-- Whole records with increasing numbers below a bound, and then possibly a part of one more. -/
def Orderly (bound : ℕ) (stream : List (ℕ × β)) : Prop :=
  Whole record bound stream ∨ ∃ number < bound, ∃ rest, Underway record number rest stream

end Streams

variable {record : ℕ → List β} {bound : ℕ} {stream : List (ℕ × β)}

theorem whole_nil (record : ℕ → List β) (bound : ℕ) : Whole record bound [] :=
  ⟨[], List.Pairwise.nil, fun _ hnumber ↦ absurd hnumber List.not_mem_nil, rfl⟩

theorem Whole.orderly (hwhole : Whole record bound stream) : Orderly record bound stream :=
  Or.inl hwhole

theorem Whole.mono (hwhole : Whole record bound stream) {larger : ℕ} (hbound : bound ≤ larger) :
    Whole record larger stream := by
  obtain ⟨numbers, hincreasing, hbelow, rfl⟩ := hwhole
  exact ⟨numbers, hincreasing, fun number hnumber ↦ (hbelow number hnumber).trans_le hbound, rfl⟩

theorem Orderly.mono (horderly : Orderly record bound stream) {larger : ℕ}
    (hbound : bound ≤ larger) : Orderly record larger stream := by
  rcases horderly with hwhole | ⟨number, hnumber, hunderway⟩
  · exact Or.inl (hwhole.mono hbound)
  · exact Or.inr ⟨number, hnumber.trans_le hbound, hunderway⟩

/-- Only the records below the bound matter. -/
theorem Whole.congr {other : ℕ → List β} (hwhole : Whole record bound stream)
    (hagree : ∀ number < bound, record number = other number) : Whole other bound stream := by
  obtain ⟨numbers, hincreasing, hbelow, rfl⟩ := hwhole
  refine ⟨numbers, hincreasing, hbelow, List.flatMap_congr fun number hnumber ↦ ?_⟩
  rw [hagree number (hbelow number hnumber)]

theorem Orderly.congr {other : ℕ → List β} (horderly : Orderly record bound stream)
    (hagree : ∀ number < bound, record number = other number) : Orderly other bound stream := by
  rcases horderly with hwhole | ⟨number, hnumber, rest, front, part, hfront, hpart, rfl⟩
  · exact Or.inl (hwhole.congr hagree)
  · refine Or.inr ⟨number, hnumber, rest, front, part, ?_, ?_, rfl⟩
    · exact hfront.congr fun smaller hsmaller ↦ hagree smaller (hsmaller.trans hnumber)
    · rw [hpart, hagree number hnumber]

/-- The numbers on a stream of whole records are below the bound. -/
theorem Whole.fst_lt (hwhole : Whole record bound stream) {symbol : ℕ × β}
    (hsymbol : symbol ∈ stream) : symbol.1 < bound := by
  obtain ⟨numbers, -, hbelow, rfl⟩ := hwhole
  obtain ⟨number, hnumber, hsymbol⟩ := List.mem_flatMap.mp hsymbol
  rw [fst_of_mem_tagged hsymbol]
  exact hbelow number hnumber

theorem Underway.fst_le {number : ℕ} {rest : List β}
    (hunderway : Underway record number rest stream) {symbol : ℕ × β} (hsymbol : symbol ∈ stream) :
    symbol.1 ≤ number := by
  obtain ⟨front, part, hfront, -, rfl⟩ := hunderway
  rcases List.mem_append.mp hsymbol with hold | hnew
  · exact (hfront.fst_lt hold).le
  · exact (fst_of_mem_tagged hnew).le

theorem Orderly.fst_lt (horderly : Orderly record bound stream) {symbol : ℕ × β}
    (hsymbol : symbol ∈ stream) : symbol.1 < bound := by
  rcases horderly with hwhole | ⟨number, hnumber, rest, hunderway⟩
  · exact hwhole.fst_lt hsymbol
  · exact (hunderway.fst_le hsymbol).trans_lt hnumber

/-! ### Writing a record -/

theorem Whole.start {number : ℕ} (hwhole : Whole record number stream) :
    Underway record number (record number) stream :=
  ⟨stream, [], hwhole, rfl, (List.append_nil stream).symm⟩

theorem Underway.write {number : ℕ} {rest : List β} (hunderway : Underway record number rest stream)
    (count : ℕ) :
    Underway record number (rest.drop count) (stream ++ tagged number (rest.take count)) := by
  obtain ⟨front, part, hfront, hpart, rfl⟩ := hunderway
  refine ⟨front, part ++ rest.take count, hfront, ?_, ?_⟩
  · rw [List.append_assoc, List.take_append_drop, hpart]
  · rw [tagged_append, List.append_assoc]

/-- With its last symbol the record is whole. -/
theorem Underway.finish {number : ℕ} (hunderway : Underway record number [] stream) :
    Whole record (number + 1) stream := by
  obtain ⟨front, part, ⟨numbers, hincreasing, hbelow, rfl⟩, hpart, rfl⟩ := hunderway
  rw [List.append_nil] at hpart
  refine ⟨numbers ++ [number], ?_, ?_, ?_⟩
  · refine List.pairwise_append.mpr ⟨hincreasing, List.pairwise_singleton _ _, ?_⟩
    intro smaller hsmaller last hlast
    rw [List.mem_singleton.mp hlast]
    exact hbelow smaller hsmaller
  · intro smaller hsmaller
    rcases List.mem_append.mp hsmaller with hold | hlast
    · exact (hbelow smaller hold).trans (Nat.lt_succ_self number)
    · rw [List.mem_singleton.mp hlast]
      exact Nat.lt_succ_self number
  · rw [List.flatMap_append, List.flatMap_singleton, hpart]

/-- A record that is broken off ends an orderly stream. -/
theorem Underway.orderly {number : ℕ} {rest : List β}
    (hunderway : Underway record number rest stream) : Orderly record (number + 1) stream :=
  Or.inr ⟨number, Nat.lt_succ_self number, rest, hunderway⟩

end CanopenTools.Framing
