import CanopenTools.Framing.BigEndian
import CanopenTools.Framing.PrefixCodec

/-!
# The TCP framer is a prefix codec

`TCPFramer` buffers the bytes of a connection and `nextRecord` cuts the next length-prefixed record
off the front. `recordCodec` is the format it reads, as a `PrefixCodec`: a record is written as its
length in two big-endian bytes followed by its bytes. Its recogniser is `nextRecord` itself, so the
theory of draining and chunking applies to the framer.
-/

set_option autoImplicit false
set_option relaxedAutoImplicit false

namespace CanopenTools.Bridge

open Framing

/-- `TCPFramer`, the buffered bytes of one connection. -/
structure TCPFramer where
  buf : List UInt8 := []
  deriving DecidableEq, Repr

namespace TCPFramer

/-- `TCPFramer.feed`. -/
def feed (framer : TCPFramer) (chunk : List UInt8) : TCPFramer := ⟨framer.buf ++ chunk⟩

/-- `TCPFramer.next_record`: the next whole record, cut off the buffer, or `none`. -/
def nextRecord (framer : TCPFramer) : Option (List UInt8) × TCPFramer :=
  if framer.buf.length < 2 then (none, framer)
  else
    let length := beNat (framer.buf.take 2)
    let total := 2 + length
    if framer.buf.length < total then (none, framer)
    else (some ((framer.buf.take total).drop 2), ⟨framer.buf.drop total⟩)

end TCPFramer

/-- A record on the wire: its length in two big-endian bytes, then its bytes. -/
def encodeRecord (record : List UInt8) : List UInt8 := beBytes 2 record.length ++ record

@[simp] theorem length_encodeRecord (record : List UInt8) :
    (encodeRecord record).length = 2 + record.length := by
  simp [encodeRecord]

/-- A record that the length field can announce. -/
structure WireRecord where
  bytes : List UInt8
  length_lt : bytes.length < 65536

/-- The stream of records, each behind its length. -/
def recordStream (records : List WireRecord) : List UInt8 :=
  (records.map WireRecord.bytes).flatMap encodeRecord

/-- The framer cuts off a written record. -/
theorem nextRecord_encodeRecord (record rest : List UInt8) (hlength : record.length < 65536) :
    TCPFramer.nextRecord ⟨encodeRecord record ++ rest⟩ = (some record, ⟨rest⟩) := by
  have hlen : beNat ((encodeRecord record ++ rest).take 2) = record.length := by
    rw [encodeRecord, List.append_assoc, List.take_left' (length_beBytes 2 _),
      beNat_beBytes (by omega)]
  have hslice : ((encodeRecord record ++ rest).take (2 + record.length)).drop 2 = record := by
    rw [List.take_left' (length_encodeRecord record), encodeRecord,
      List.drop_left' (length_beBytes 2 _)]
  have htwo : ¬ (encodeRecord record ++ rest).length < 2 := by simp; omega
  have htotal : ¬ (encodeRecord record ++ rest).length < 2 + record.length := by simp
  simp only [TCPFramer.nextRecord, if_neg htwo, hlen, if_neg htotal, hslice,
    List.drop_left' (length_encodeRecord record)]

/-- What the framer cuts off was a written record. -/
theorem eq_encodeRecord_of_nextRecord {buf record rest : List UInt8}
    (hnext : TCPFramer.nextRecord ⟨buf⟩ = (some record, ⟨rest⟩)) :
    record.length < 65536 ∧ buf = encodeRecord record ++ rest := by
  unfold TCPFramer.nextRecord at hnext
  simp only at hnext
  split_ifs at hnext with htwo htotal
  · simp at hnext
  · simp at hnext
  simp only [Prod.mk.injEq, Option.some.injEq, TCPFramer.mk.injEq] at hnext
  obtain ⟨rfl, rfl⟩ := hnext
  have hfront : (buf.take 2).length = 2 := by
    rw [List.length_take]
    omega
  have hrange := beNat_lt (buf.take 2)
  have hlength : ((buf.take (2 + beNat (buf.take 2))).drop 2).length = beNat (buf.take 2) := by
    rw [List.length_drop, List.length_take]
    omega
  have hfield : beBytes 2 (beNat (buf.take 2)) = buf.take 2 := by
    have hback := beBytes_beNat (buf.take 2)
    rwa [hfront] at hback
  have hjoin : buf.take 2 ++ (buf.take (2 + beNat (buf.take 2))).drop 2 =
      buf.take (2 + beNat (buf.take 2)) := by
    have hsplit := List.take_append_drop 2 (buf.take (2 + beNat (buf.take 2)))
    rwa [List.take_take, min_eq_left (by omega)] at hsplit
  refine ⟨by rw [hlength]; rwa [hfront] at hrange, ?_⟩
  rw [encodeRecord, hlength, hfield, hjoin, List.take_append_drop]

/-- The format that `TCPFramer` reads. -/
def recordCodec : PrefixCodec UInt8 (List UInt8) where
  encode := encodeRecord
  Valid := fun record ↦ record.length < 65536
  next := fun buf ↦
    match TCPFramer.nextRecord ⟨buf⟩ with
    | (some record, framer) => some (record, framer.buf)
    | (none, _) => none
  encode_ne_nil := fun record hnil ↦ by
    have hlength := length_encodeRecord record
    rw [hnil, List.length_nil] at hlength
    omega
  next_encode := fun record rest hlength ↦ by
    simp only [nextRecord_encodeRecord record rest hlength]
  eq_encode_of_next := fun buf record rest hnext ↦ by
    split at hnext
    · rename_i other framer hcut
      obtain ⟨rfl, rfl⟩ := Prod.mk.inj (Option.some.inj hnext)
      exact eq_encodeRecord_of_nextRecord hcut
    · exact absurd hnext (by simp)

@[simp] theorem recordCodec_encode (record : List UInt8) :
    recordCodec.encode record = encodeRecord record :=
  rfl

@[simp] theorem recordCodec_valid (record : List UInt8) :
    recordCodec.Valid record ↔ record.length < 65536 :=
  Iff.rfl

/-- Draining a stream of records gives the records back. -/
theorem drain_recordStream (records : List WireRecord) :
    recordCodec.drain (recordStream records) = (records.map WireRecord.bytes, []) := by
  refine recordCodec.drain_encode fun record hrecord ↦ ?_
  obtain ⟨wire, -, rfl⟩ := List.mem_map.mp hrecord
  exact wire.length_lt

/-- The framer has no whole record exactly when the codec recognises none, and is then
unchanged. -/
theorem nextRecord_of_next_eq_none {framer : TCPFramer}
    (hnext : recordCodec.next framer.buf = none) : framer.nextRecord = (none, framer) := by
  have hcases : framer.nextRecord.1 = none := by
    change (match TCPFramer.nextRecord ⟨framer.buf⟩ with
      | (some record, rest) => some (record, rest.buf)
      | (none, _) => none) = none at hnext
    split at hnext
    · exact absurd hnext (by simp)
    · rename_i hcut
      exact congrArg Prod.fst hcut
  unfold TCPFramer.nextRecord at hcases ⊢
  simp only at hcases ⊢
  split_ifs at hcases ⊢ <;> rfl

/-- The framer cuts off the record that the codec recognises. -/
theorem nextRecord_of_next_eq_some {framer : TCPFramer} {record rest : List UInt8}
    (hnext : recordCodec.next framer.buf = some (record, rest)) :
    framer.nextRecord = (some record, ⟨rest⟩) := by
  obtain ⟨hlength, hbuf⟩ := recordCodec.eq_encode_of_next _ _ _ hnext
  have hcut := nextRecord_encodeRecord record rest hlength
  rw [show framer = ⟨framer.buf⟩ from rfl, hbuf]
  exact hcut

end CanopenTools.Bridge
