import CanopenTools.Bridge.TcpFramer

/-!
# Feeding the TCP framer

A reader feeds a `TCPFramer` chunk by chunk and calls `nextRecord` after each feed until it returns
`none`. `Drains` and `Feeds` are the finite runs of these two loops. Every drain comes to its end,
with one result (`drains_iff`), and a whole run is a drain of the stream (`feeds_iff`).

`Framed` says what a stream is cut into: records that the length field can announce, each written
behind its length, and a leftover that is not a whole record. `feeds_framed` is the result: every
stream is cut in one way, whatever the chunks were.
-/

set_option autoImplicit false
set_option relaxedAutoImplicit false

namespace CanopenTools.Bridge

open Framing

/-! ### Runs -/

/-- The calls of `nextRecord` on a framer until it returns `none`: the records it returns and the
framer in the end. -/
inductive Drains : TCPFramer → List (List UInt8) → TCPFramer → Prop
  | done {framer after : TCPFramer} (hnext : framer.nextRecord = (none, after)) :
      Drains framer [] after
  | record {framer next after : TCPFramer} {record : List UInt8} {records : List (List UInt8)}
      (hnext : framer.nextRecord = (some record, next)) (hrest : Drains next records after) :
      Drains framer (record :: records) after

/-- Feeding the chunks of a stream, with a drain after each: the records of all drains and the
framer in the end. -/
inductive Feeds : TCPFramer → List (List UInt8) → List (List UInt8) → TCPFramer → Prop
  | done {framer : TCPFramer} : Feeds framer [] [] framer
  | chunk {framer middle after : TCPFramer} {chunk : List UInt8} {chunks : List (List UInt8)}
      {first rest : List (List UInt8)} (hdrain : Drains (framer.feed chunk) first middle)
      (hrest : Feeds middle chunks rest after) :
      Feeds framer (chunk :: chunks) (first ++ rest) after

/-- A finite run of the drain loop exists for every framer: every record shortens the buffer. -/
theorem drains_drain (framer : TCPFramer) :
    Drains framer (recordCodec.drain framer.buf).1 ⟨(recordCodec.drain framer.buf).2⟩ := by
  obtain ⟨buf⟩ := framer
  induction buf using recordCodec.drain_induction with
  | hnone buf hnext =>
    rw [recordCodec.drain_of_none hnext]
    exact .done (nextRecord_of_next_eq_none hnext)
  | hsome buf record rest hnext ih =>
    rw [recordCodec.drain_of_some hnext]
    exact .record (nextRecord_of_next_eq_some hnext) ih

/-- The drain loop has one result. -/
theorem Drains.unique {framer first second : TCPFramer} {records others : List (List UInt8)}
    (hfirst : Drains framer records first) (hsecond : Drains framer others second) :
    records = others ∧ first = second := by
  induction hfirst generalizing others with
  | done hnext =>
    cases hsecond with
    | done hother => exact ⟨rfl, (Prod.mk.inj (hnext.symm.trans hother)).2⟩
    | record hother => simp [hnext] at hother
  | record hnext _ ih =>
    cases hsecond with
    | done hother => simp [hnext] at hother
    | record hother hrest =>
      obtain ⟨hrecord, rfl⟩ := Prod.mk.inj (hnext.symm.trans hother)
      obtain ⟨rfl, hafter⟩ := ih hrest
      exact ⟨by rw [Option.some.inj hrecord], hafter⟩

/-- The drain loop comes to its end with the drain of the buffer. -/
theorem drains_iff (framer after : TCPFramer) (records : List (List UInt8)) :
    Drains framer records after ↔
      records = (recordCodec.drain framer.buf).1 ∧ after = ⟨(recordCodec.drain framer.buf).2⟩ := by
  constructor
  · intro hdrains
    exact hdrains.unique (drains_drain framer)
  · rintro ⟨rfl, rfl⟩
    exact drains_drain framer

/-- A finite run of the feeds exists for every framer and all chunks: it is the run of the format.
-/
theorem feeds_feedAll (framer : TCPFramer) (chunks earlier : List (List UInt8)) :
    ∃ found, (recordCodec.feedAll chunks (earlier, framer.buf)).1 = earlier ++ found ∧
      Feeds framer chunks found ⟨(recordCodec.feedAll chunks (earlier, framer.buf)).2⟩ := by
  induction chunks generalizing framer earlier with
  | nil => exact ⟨[], (List.append_nil earlier).symm, .done⟩
  | cons chunk chunks ih =>
    let drained := recordCodec.drain (framer.buf ++ chunk)
    obtain ⟨found, hfound, hfeeds⟩ := ih ⟨drained.2⟩ (earlier ++ drained.1)
    refine ⟨drained.1 ++ found, ?_, .chunk (drains_drain (framer.feed chunk)) hfeeds⟩
    rw [← List.append_assoc]
    exact hfound

/-- The feeds have one result. -/
theorem Feeds.unique {framer first second : TCPFramer} {chunks found others : List (List UInt8)}
    (hfirst : Feeds framer chunks found first) (hsecond : Feeds framer chunks others second) :
    found = others ∧ first = second := by
  induction hfirst generalizing others with
  | done =>
    cases hsecond
    exact ⟨rfl, rfl⟩
  | chunk hdrain _ ih =>
    cases hsecond with
    | chunk hother hrest =>
      obtain ⟨rfl, rfl⟩ := hdrain.unique hother
      obtain ⟨rfl, hafter⟩ := ih hrest
      exact ⟨rfl, hafter⟩

/-- A run from a fresh framer is one drain of the whole stream. -/
theorem feeds_iff (chunks found : List (List UInt8)) (after : TCPFramer) :
    Feeds {} chunks found after ↔
      found = (recordCodec.drain chunks.flatten).1 ∧
        after = ⟨(recordCodec.drain chunks.flatten).2⟩ := by
  obtain ⟨whole, hwhole, hfeeds⟩ := feeds_feedAll {} chunks []
  change (recordCodec.feedAll chunks ([], [])).1 = whole at hwhole
  change Feeds {} chunks whole ⟨(recordCodec.feedAll chunks ([], [])).2⟩ at hfeeds
  rw [recordCodec.feedAll_eq_drain] at hwhole hfeeds
  subst hwhole
  constructor
  · intro hfound
    exact hfound.unique hfeeds
  · rintro ⟨rfl, rfl⟩
    exact hfeeds

/-! ### What a stream is cut into -/

/-- A stream cut into records and a leftover: the records written again, each behind its length,
and the leftover are the stream, and the leftover is shorter than the record it begins. -/
structure Framed (stream : List UInt8) (records : List (List UInt8)) (leftover : List UInt8) :
    Prop where
  stream_eq : records.flatMap encodeRecord ++ leftover = stream
  length_lt : ∀ record ∈ records, record.length < 65536
  incomplete : leftover.length < 2 ∨ leftover.length < 2 + beNat (leftover.take 2)

/-- A buffer without a whole record is shorter than its length field says. -/
theorem incomplete_of_next_eq_none {buf : List UInt8} (hnext : recordCodec.next buf = none) :
    buf.length < 2 ∨ buf.length < 2 + beNat (buf.take 2) := by
  by_contra hcomplete
  obtain ⟨htwo, htotal⟩ := not_or.mp hcomplete
  have hcut := nextRecord_of_next_eq_none hnext
  rw [TCPFramer.nextRecord, if_neg htwo] at hcut
  dsimp only at hcut
  rw [if_neg htotal] at hcut
  cases hcut

/-- A drain cuts its buffer into records and a leftover. -/
theorem framed_drain (stream : List UInt8) :
    Framed stream (recordCodec.drain stream).1 (recordCodec.drain stream).2 where
  stream_eq := recordCodec.eq_flatMap_encode_drain stream
  length_lt := by
    induction stream using recordCodec.drain_induction with
    | hnone buf hnext => simp [recordCodec.drain_of_none hnext]
    | hsome buf record rest hnext ih =>
      rw [recordCodec.drain_of_some hnext]
      intro other hother
      rcases List.mem_cons.mp hother with rfl | htail
      · exact (recordCodec.eq_encode_of_next _ _ _ hnext).1
      · exact ih other htail
  incomplete := incomplete_of_next_eq_none (recordCodec.next_drain_snd stream)

/-- Framing does not depend on the chunks and loses no byte: a stream is cut into records and a
leftover, and a fresh framer that is fed any chunks of the stream, with a drain after each feed,
comes to the end of every drain and has then returned these records and kept this leftover. -/
theorem feeds_framed (stream : List UInt8) :
    ∃ records leftover, Framed stream records leftover ∧
      ∀ chunks : List (List UInt8), chunks.flatten = stream →
        ∀ found after, Feeds {} chunks found after ↔ found = records ∧ after = ⟨leftover⟩ := by
  refine ⟨_, _, framed_drain stream, ?_⟩
  rintro chunks rfl found after
  exact feeds_iff chunks found after

end CanopenTools.Bridge
