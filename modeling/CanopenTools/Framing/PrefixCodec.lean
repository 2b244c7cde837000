import Mathlib.Data.List.Basic
import Mathlib.Data.List.Infix

/-!
# Prefix codecs and incremental decoding

A prefix codec writes records as strings of symbols and recognises a record at the front of a
buffer. Its two laws are the whole interface: a written record in front of anything is recognised
(`next_encode`), and what is recognised was written (`eq_encode_of_next`). Everything an
incremental reader relies on follows. Recognition is stable when more input arrives
(`next_append`), it consumes input (`length_lt_of_next`), and a proper prefix of a written record
is not recognised (`next_eq_none_of_prefix`).

`drain` takes records off a buffer until none is recognised. `drain_append` shows that draining a
concatenation is draining its first part and then the leftover with the rest, so that feeding an
input chunk by chunk and draining after every chunk (`feedAll`) gives the records and the leftover
of one drain of the whole input, however it was cut (`feedAll_eq_drain`). `drain_encode_append`
reads back written records, and `eq_flatMap_encode_drain` says that no symbol is lost.

`cutSizes` cuts a list in pieces of given sizes. It attaches to every record the sources of the
symbols it was read from.
-/

set_option autoImplicit false
set_option relaxedAutoImplicit false

namespace CanopenTools.Framing

variable {β ρ : Type*}

/-- A prefix codec: how a record is written, which records can be written, and how a record is
recognised at the front of a buffer. -/
structure PrefixCodec (β ρ : Type*) where
  /-- The symbols of a record. -/
  encode : ρ → List β
  /-- The records that can be written. -/
  Valid : ρ → Prop
  /-- The record at the front of a buffer and the rest of the buffer, if a whole one is there. -/
  next : List β → Option (ρ × List β)
  encode_ne_nil : ∀ record, encode record ≠ []
  next_encode : ∀ record rest, Valid record → next (encode record ++ rest) = some (record, rest)
  eq_encode_of_next : ∀ buf record rest, next buf = some (record, rest) →
    Valid record ∧ buf = encode record ++ rest

namespace PrefixCodec

/-! ### One record -/

/-- Recognising a record consumes input. -/
theorem length_lt_of_next (codec : PrefixCodec β ρ) {buf rest : List β} {record : ρ}
    (hnext : codec.next buf = some (record, rest)) : rest.length < buf.length := by
  obtain ⟨-, rfl⟩ := codec.eq_encode_of_next buf record rest hnext
  have hpos := List.length_pos_iff.mpr (codec.encode_ne_nil record)
  rw [List.length_append]
  omega

/-- A recognised record stays recognised when more input arrives. -/
theorem next_append (codec : PrefixCodec β ρ) {buf rest : List β} {record : ρ}
    (hnext : codec.next buf = some (record, rest)) (more : List β) :
    codec.next (buf ++ more) = some (record, rest ++ more) := by
  obtain ⟨hvalid, rfl⟩ := codec.eq_encode_of_next buf record rest hnext
  rw [List.append_assoc]
  exact codec.next_encode record (rest ++ more) hvalid

/-- An empty buffer holds no record. -/
@[simp] theorem next_nil (codec : PrefixCodec β ρ) : codec.next [] = none := by
  cases hnext : codec.next [] with
  | none => rfl
  | some pair => exact absurd (codec.length_lt_of_next hnext) (Nat.not_lt_zero _)

/-- A proper prefix of a written record holds no record. -/
theorem next_eq_none_of_prefix (codec : PrefixCodec β ρ) {record : ρ} (hvalid : codec.Valid record)
    {buf more : List β} (hmore : more ≠ []) (hsplit : buf ++ more = codec.encode record) :
    codec.next buf = none := by
  cases hnext : codec.next buf with
  | none => rfl
  | some pair =>
    have hwhole := codec.next_encode record [] hvalid
    rw [List.append_nil, ← hsplit, codec.next_append hnext more, Option.some.injEq,
      Prod.mk.injEq] at hwhole
    exact absurd (List.append_eq_nil_iff.mp hwhole.2).2 hmore

/-! ### Draining a buffer -/

/-- Take up to `fuel` records off a buffer. -/
def drainSteps (codec : PrefixCodec β ρ) : ℕ → List β → List ρ × List β
  | 0, buf => ([], buf)
  | fuel + 1, buf =>
    match codec.next buf with
    | none => ([], buf)
    | some (record, rest) =>
      (record :: (codec.drainSteps fuel rest).1, (codec.drainSteps fuel rest).2)

/-- Take records off a buffer until none is recognised. Every record consumes input, so the length
of the buffer is fuel enough (`drainSteps_eq_drain`). -/
def drain (codec : PrefixCodec β ρ) (buf : List β) : List ρ × List β :=
  codec.drainSteps buf.length buf

/-- A buffer without a record is left as it is. -/
theorem drainSteps_of_none (codec : PrefixCodec β ρ) {buf : List β} (hnext : codec.next buf = none)
    (fuel : ℕ) : codec.drainSteps fuel buf = ([], buf) := by
  cases fuel with
  | zero => rfl
  | succ fuel => simp only [drainSteps, hnext]

/-- Fuel beyond the length of the buffer changes nothing. -/
theorem drainSteps_eq_drain (codec : PrefixCodec β ρ) {fuel : ℕ} {buf : List β}
    (hfuel : buf.length ≤ fuel) : codec.drainSteps fuel buf = codec.drain buf := by
  induction fuel using Nat.strongRecOn generalizing buf with
  | _ fuel ih =>
    unfold drain
    cases hnext : codec.next buf with
    | none => rw [codec.drainSteps_of_none hnext, codec.drainSteps_of_none hnext]
    | some pair =>
      obtain ⟨record, rest⟩ := pair
      have hshorter := codec.length_lt_of_next hnext
      obtain ⟨less, rfl⟩ : ∃ less, fuel = less + 1 := ⟨fuel - 1, by omega⟩
      obtain ⟨size, hsize⟩ : ∃ size, buf.length = size + 1 := ⟨buf.length - 1, by omega⟩
      have hleft : codec.drainSteps less rest = codec.drain rest := ih less (by omega) (by omega)
      have hright : codec.drainSteps size rest = codec.drain rest := ih size (by omega) (by omega)
      rw [hsize]
      simp only [drainSteps, hnext, hleft, hright]

theorem drain_of_none (codec : PrefixCodec β ρ) {buf : List β} (hnext : codec.next buf = none) :
    codec.drain buf = ([], buf) :=
  codec.drainSteps_of_none hnext _

@[simp] theorem drain_nil (codec : PrefixCodec β ρ) : codec.drain [] = ([], []) :=
  codec.drain_of_none codec.next_nil

theorem drain_of_some (codec : PrefixCodec β ρ) {buf rest : List β} {record : ρ}
    (hnext : codec.next buf = some (record, rest)) :
    codec.drain buf = (record :: (codec.drain rest).1, (codec.drain rest).2) := by
  have hshorter := codec.length_lt_of_next hnext
  obtain ⟨size, hsize⟩ : ∃ size, buf.length = size + 1 := ⟨buf.length - 1, by omega⟩
  have hrest : codec.drainSteps size rest = codec.drain rest :=
    codec.drainSteps_eq_drain (by omega)
  rw [drain, hsize]
  simp only [drainSteps, hnext, hrest]

/-- Induction along the records of a buffer: a buffer without a record, and a buffer whose rest
after the first record is already covered. -/
theorem drain_induction (codec : PrefixCodec β ρ) {motive : List β → Prop}
    (hnone : ∀ buf, codec.next buf = none → motive buf)
    (hsome : ∀ buf record rest, codec.next buf = some (record, rest) → motive rest → motive buf)
    (buf : List β) : motive buf := by
  induction hlength : buf.length using Nat.strongRecOn generalizing buf with
  | _ length ih =>
    cases hnext : codec.next buf with
    | none => exact hnone buf hnext
    | some pair =>
      have hshorter := codec.length_lt_of_next hnext
      exact hsome buf pair.1 pair.2 hnext (ih _ (hlength ▸ hshorter) pair.2 rfl)

/-- Draining stops where no further record is recognised. -/
theorem next_drain_snd (codec : PrefixCodec β ρ) (buf : List β) :
    codec.next (codec.drain buf).2 = none := by
  induction buf using codec.drain_induction with
  | hnone buf hnext => rwa [codec.drain_of_none hnext]
  | hsome buf record rest hnext ih => rwa [codec.drain_of_some hnext]

/-- No symbol is lost: the records written again, followed by the leftover, are the buffer. -/
theorem eq_flatMap_encode_drain (codec : PrefixCodec β ρ) (buf : List β) :
    (codec.drain buf).1.flatMap codec.encode ++ (codec.drain buf).2 = buf := by
  induction buf using codec.drain_induction with
  | hnone buf hnext => simp [codec.drain_of_none hnext]
  | hsome buf record rest hnext ih =>
    rw [codec.drain_of_some hnext, List.flatMap_cons, List.append_assoc, ih]
    exact (codec.eq_encode_of_next _ _ _ hnext).2.symm

/-- Draining a concatenation is draining its first part and then the leftover with the rest. -/
theorem drain_append (codec : PrefixCodec β ρ) (first second : List β) :
    codec.drain (first ++ second) =
      ((codec.drain first).1 ++ (codec.drain ((codec.drain first).2 ++ second)).1,
        (codec.drain ((codec.drain first).2 ++ second)).2) := by
  induction first using codec.drain_induction with
  | hnone buf hnext => simp [codec.drain_of_none hnext]
  | hsome buf record rest hnext ih =>
    rw [codec.drain_of_some hnext, codec.drain_of_some (codec.next_append hnext second), ih]
    rfl

/-- Written records in front of a buffer are read back, and the buffer is drained after them. -/
theorem drain_encode_append (codec : PrefixCodec β ρ) {records : List ρ}
    (hvalid : ∀ record ∈ records, codec.Valid record) (rest : List β) :
    codec.drain (records.flatMap codec.encode ++ rest) =
      (records ++ (codec.drain rest).1, (codec.drain rest).2) := by
  induction records with
  | nil => rfl
  | cons record records ih =>
    have hnext := codec.next_encode record (records.flatMap codec.encode ++ rest)
      (hvalid record List.mem_cons_self)
    rw [List.flatMap_cons, List.append_assoc, codec.drain_of_some hnext,
      ih fun other hother ↦ hvalid other (List.mem_cons_of_mem _ hother)]
    rfl

/-- Written records alone are read back and leave nothing. -/
theorem drain_encode (codec : PrefixCodec β ρ) {records : List ρ}
    (hvalid : ∀ record ∈ records, codec.Valid record) :
    codec.drain (records.flatMap codec.encode) = (records, []) := by
  simpa using codec.drain_encode_append hvalid []

/-! ### Feeding chunks -/

/-- Feed the chunks of an input one after the other, draining after every chunk: the records read
so far and the leftover. -/
def feedAll (codec : PrefixCodec β ρ) : List (List β) → List ρ × List β → List ρ × List β
  | [], state => state
  | chunk :: chunks, state =>
    codec.feedAll chunks
      (state.1 ++ (codec.drain (state.2 ++ chunk)).1, (codec.drain (state.2 ++ chunk)).2)

/-- Feeding chunks from a drained buffer is one drain of the buffer and the whole input. -/
theorem feedAll_eq (codec : PrefixCodec β ρ) (chunks : List (List β)) (records : List ρ)
    (buf : List β) (hdrained : codec.next buf = none) :
    codec.feedAll chunks (records, buf) =
      (records ++ (codec.drain (buf ++ chunks.flatten)).1,
        (codec.drain (buf ++ chunks.flatten)).2) := by
  induction chunks generalizing records buf with
  | nil => simp [feedAll, codec.drain_of_none hdrained]
  | cons chunk chunks ih =>
    rw [feedAll, ih _ _ (codec.next_drain_snd _), List.flatten_cons, ← List.append_assoc buf,
      codec.drain_append (buf ++ chunk)]
    simp

/-- The records and the leftover do not depend on how the input was cut. -/
theorem feedAll_eq_drain (codec : PrefixCodec β ρ) (chunks : List (List β)) :
    codec.feedAll chunks ([], []) = codec.drain chunks.flatten := by
  simpa using codec.feedAll_eq chunks [] [] codec.next_nil

end PrefixCodec

/-- A way of cutting a stream in non-empty chunks. -/
structure Chunking (stream : List β) where
  chunks : List (List β)
  chunk_ne_nil : ∀ chunk ∈ chunks, chunk ≠ []
  flatten_eq : chunks.flatten = stream

/-! ### Cutting a list in pieces of given sizes -/

/-- The pieces of the given sizes at the front of a list. -/
def cutSizes {τ : Type*} : List ℕ → List τ → List (List τ)
  | [], _ => []
  | size :: sizes, items => items.take size :: cutSizes sizes (items.drop size)

end CanopenTools.Framing
