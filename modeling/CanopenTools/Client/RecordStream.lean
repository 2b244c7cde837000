import CanopenTools.Bridge.TcpFramer
import CanopenTools.Client.MainLoop
import Mathlib.Data.List.Forall2

/-!
# The client stays on record boundaries

The server's `TCPFramer` and the main loop of the client read the same format in two different ways.
This module follows the client over a stream of length-prefixed records with arbitrary lengths and
contents. `receiveRecord_encodeRecord` is one pass: it takes exactly the record at the front of the
stream, through whichever of its three exits, and calls `can_send` if the record is well formed for
it (`clientAccepts`). `Received` is the invariant of a run, `received_clientStep` the step lemma,
and `run_receives` the result: the loop cuts the stream where the framer does and sends exactly the
frames of the well-formed records, once each and in order.
-/

set_option autoImplicit false
set_option relaxedAutoImplicit false

namespace CanopenTools.Client

open Framing Bridge

/-- The records that the client makes a frame of: the length fits a classic frame and the length
code in the header agrees with it. -/
def WellFormed (record : List UInt8) : Prop :=
  6 ≤ record.length ∧ record.length ≤ 14 ∧ (record.getD 5 0).toNat = record.length - 6

instance (record : List UInt8) : Decidable (WellFormed record) :=
  inferInstanceAs (Decidable (_ ∧ _ ∧ _))

/-- A frame is the one that a record describes. -/
structure FrameOfRecord (zephyr : ZephyrCan) (record : List UInt8) (frame : CanFrame) : Prop where
  id : frame.id = beNat (record.take 4) &&& 0x1FFFFFFF
  ide : testFlag frame.flags zephyr.canFrameIde = testFlag (record.getD 4 0) flagExt
  rtr : testFlag frame.flags zephyr.canFrameRtr = testFlag (record.getD 4 0) flagRtr
  dlc : frame.dlc = record.getD 5 0
  data : frame.data.take frame.dlc.toNat = record.drop 6

/-- The frame that the client makes of a record, if it makes one. -/
def clientAccepts (zephyr : ZephyrCan) (record : List UInt8) : Option CanFrame :=
  if WellFormed record then
    some
      { id := beNat (record.take 4) &&& 0x1FFFFFFF
        dlc := record.getD 5 0
        flags := frameFlags zephyr (testFlag (record.getD 4 0) flagExt)
          (testFlag (record.getD 4 0) flagRtr)
        data := record.drop 6 ++ List.replicate (14 - record.length) 0 }
  else none

/-! ### One pass -/

/-- A read over an open connection into a buffer that may be longer than the request. -/
theorem recvAll_front {sock : List RecvEvent} {n : ℕ} (buf : List UInt8) {bytes rest : List UInt8}
    (hopen : OpenSocket sock) (hpending : pending sock = bytes ++ rest) (hn : bytes.length = n)
    (hfits : n ≤ buf.length) :
    ∃ sock', recvAll n sock buf 0 = .filled (bytes ++ buf.drop n) sock' ∧
      pending sock' = rest ∧ OpenSocket sock' := by
  obtain ⟨sock', hrecv, hrest, hopen'⟩ :=
    recvAll_filled n sock buf bytes rest 0 hopen hpending (by omega) hfits
  exact ⟨sock', by simpa using hrecv, hrest, hopen'⟩

/-- A read over an open connection into a buffer of the size of the request. -/
theorem recvAll_whole {sock : List RecvEvent} {n : ℕ} {buf bytes rest : List UInt8}
    (hopen : OpenSocket sock) (hpending : pending sock = bytes ++ rest) (hn : bytes.length = n)
    (hsize : buf.length = n) :
    ∃ sock', recvAll n sock buf 0 = .filled bytes sock' ∧ pending sock' = rest ∧
      OpenSocket sock' := by
  obtain ⟨sock', hrecv, hrest, hopen'⟩ := recvAll_front buf hopen hpending hn (le_of_eq hsize.symm)
  rw [List.drop_of_length_le (le_of_eq hsize), List.append_nil] at hrecv
  exact ⟨sock', hrecv, hrest, hopen'⟩

/-- The dump loop takes exactly the announced bytes off the stream, in pieces of at most 32. -/
theorem dumpLoop_pending (fuel toDump : ℕ) (state : ClientState) (hfuel : toDump ≤ fuel)
    {bytes rest : List UInt8} (hopen : OpenSocket state.sock)
    (hpending : pending state.sock = bytes ++ rest) (hlength : bytes.length = toDump) :
    ∃ sock, dumpLoop fuel toDump state = { state with sock } ∧ pending sock = rest ∧
      OpenSocket sock := by
  induction fuel generalizing toDump state bytes with
  | zero =>
    have hempty : bytes = [] := List.eq_nil_of_length_eq_zero (by omega)
    exact ⟨state.sock, rfl, by simpa [hempty] using hpending, hopen⟩
  | succ fuel ih =>
    by_cases hzero : toDump = 0
    · have hempty : bytes = [] := List.eq_nil_of_length_eq_zero (by omega)
      rw [dumpLoop, if_pos hzero]
      exact ⟨state.sock, rfl, by simpa [hempty] using hpending, hopen⟩
    · have hsplit : pending state.sock =
          bytes.take (min toDump 32) ++ (bytes.drop (min toDump 32) ++ rest) := by
        rw [← List.append_assoc, List.take_append_drop, hpending]
      obtain ⟨sock, hrecv, hrest, hopen'⟩ := recvAll_front (List.replicate 32 0) hopen hsplit
        (n := min toDump 32) (by rw [List.length_take]; omega) (by simp)
      obtain ⟨sock', hdump, hrest', hopen''⟩ := ih (toDump - min toDump 32)
        { state with sock } (by omega) hopen' hrest (by rw [List.length_drop]; omega)
      refine ⟨sock', ?_, hrest', hopen''⟩
      simp only [dumpLoop, if_neg hzero, hrecv, ClientState.afterRecv]
      exact hdump

/-- `can_from_tcp_parts` on the buffers of a pass accepts exactly the well-formed records. -/
theorem canFromTcpParts_record (zephyr : ZephyrCan) {record databuf : List UInt8}
    (hlow : 6 ≤ record.length) (hhigh : record.length ≤ 14)
    (hdata : databuf.take (record.length - 6) = record.drop 6) :
    (canFromTcpParts zephyr (some (.ofBytes (record.take 6))) databuf (record.length - 6) {}
      ).toOption = clientAccepts zephyr record := by
  have hid : (record.take 6).take 4 = record.take 4 := by
    rw [List.take_take, min_eq_left (by omega)]
  have hflags : (record.take 6).getD 4 0 = record.getD 4 0 := by
    rw [List.getD_eq_getElem?_getD, List.getElem?_take_of_lt (by omega),
      ← List.getD_eq_getElem?_getD]
  have hdlc : (record.take 6).getD 5 0 = record.getD 5 0 := by
    rw [List.getD_eq_getElem?_getD, List.getElem?_take_of_lt (by omega),
      ← List.getD_eq_getElem?_getD]
  by_cases hagree : (record.getD 5 0).toNat = record.length - 6
  · have hbody : (if (record.getD 5 0).toNat ≠ 0 then
          databuf.take (record.getD 5 0).toNat ++
            (List.replicate 8 (0 : UInt8)).drop (record.getD 5 0).toNat
        else List.replicate 8 0) = record.drop 6 ++ List.replicate (14 - record.length) 0 := by
      rw [hagree, hdata, List.drop_replicate]
      split_ifs with hzero
      · congr 2
        omega
      · have hsix : record.length = 6 := by omega
        rw [List.drop_of_length_le (by omega), List.nil_append, hsix]
    have hflag : ∀ extended remote : Bool,
        (if remote = true then (if extended = true then 0 ||| zephyr.canFrameIde else 0) |||
            zephyr.canFrameRtr else if extended = true then 0 ||| zephyr.canFrameIde else 0) =
          frameFlags zephyr extended remote := by
      intro extended remote
      cases extended <;> cases remote <;> simp [frameFlags]
    have hsmall : ¬ (record.getD 5 0).toNat > 8 := by omega
    have hsame : ¬ record.length - 6 ≠ (record.getD 5 0).toNat := not_not.mpr hagree.symm
    simp only [canFromTcpParts, TcpHdr.ofBytes, hid, hflags, hdlc, if_neg hsmall, if_neg hsame,
      hbody, hflag, clientAccepts, if_pos (show WellFormed record from ⟨hlow, hhigh, hagree⟩)]
    rfl
  · have hnone : clientAccepts zephyr record = none := if_neg fun hall ↦ hagree hall.2.2
    simp only [canFromTcpParts, TcpHdr.ofBytes, hid, hflags, hdlc, hnone]
    by_cases hbig : (record.getD 5 0).toNat > 8
    · rw [if_pos hbig]
      rfl
    · rw [if_neg hbig, if_pos (Ne.symm hagree)]
      rfl

/-- The conversion sends the frame of the record once the header and the data are in the buffers. -/
theorem sendParts_record (zephyr : ZephyrCan) {record : List UInt8} {state : ClientState}
    (hlow : 6 ≤ record.length) (hhigh : record.length ≤ 14)
    (hhdrbuf : state.hdrbuf = record.take 6)
    (hdata : state.databuf.take (record.length - 6) = record.drop 6) :
    sendParts zephyr (record.length - 6) state =
      { state with canSends := state.canSends ++ (clientAccepts zephyr record).toList } := by
  have hconvert := canFromTcpParts_record zephyr hlow hhigh hdata
  rw [← hhdrbuf] at hconvert
  rw [← hconvert, sendParts]
  split
  · rename_i out hout
    rw [hout]
    rfl
  · rename_i errno herror
    rw [herror]
    simp [Except.toOption]

section Pass

variable (zephyr : ZephyrCan) (record : WireRecord) {state : ClientState} {rest : List UInt8}

/-- The length in front of a record is read first. -/
theorem recvAll_payLen (hsized : BuffersSized state) (hopen : OpenSocket state.sock)
    (hpending : pending state.sock = encodeRecord record.bytes ++ rest) :
    ∃ sock, recvAll 2 state.sock state.lenbuf 0 = .filled (beBytes 2 record.bytes.length) sock ∧
      pending sock = record.bytes ++ rest ∧ OpenSocket sock := by
  have hstream : pending state.sock =
      beBytes 2 record.bytes.length ++ (record.bytes ++ rest) := by
    rw [hpending, encodeRecord, List.append_assoc]
  exact recvAll_whole hopen hstream (length_beBytes 2 _) hsized.lenbuf

theorem beNat_payLen : beNat (beBytes 2 record.bytes.length) = record.bytes.length := by
  have hrange := record.length_lt
  exact beNat_beBytes (by omega)

/-- A record whose length is out of range is dumped. -/
theorem receiveRecord_dumped (hsized : BuffersSized state) (hopen : OpenSocket state.sock)
    (hpending : pending state.sock = encodeRecord record.bytes ++ rest)
    (hbad : record.bytes.length < sizeofTcpHdr ∨ record.bytes.length > sizeofTcpHdr + 8) :
    ∃ lenbuf sock, receiveRecord zephyr state = { state with lenbuf, sock } ∧
      pending sock = rest ∧ OpenSocket sock := by
  obtain ⟨sock₁, hlen, hrest₁, hopen₁⟩ := recvAll_payLen record hsized hopen hpending
  obtain ⟨sock₂, hdump, hrest₂, hopen₂⟩ := dumpLoop_pending _ _
    { state with lenbuf := beBytes 2 record.bytes.length, sock := sock₁ } le_rfl hopen₁ hrest₁ rfl
  refine ⟨beBytes 2 record.bytes.length, sock₂, ?_, hrest₂, hopen₂⟩
  simp only [receiveRecord, hlen, ClientState.afterRecv, beNat_payLen, if_pos hbad, hdump]

/-- Of any other record the header and the data are read, and the conversion sends its frame. -/
theorem receiveRecord_converted (hsized : BuffersSized state) (hopen : OpenSocket state.sock)
    (hpending : pending state.sock = encodeRecord record.bytes ++ rest)
    (hbad : ¬ (record.bytes.length < sizeofTcpHdr ∨ record.bytes.length > sizeofTcpHdr + 8)) :
    ∃ lenbuf hdrbuf databuf sock,
      receiveRecord zephyr state =
        { state with lenbuf, hdrbuf, databuf, sock
                     canSends := state.canSends ++ (clientAccepts zephyr record.bytes).toList } ∧
      pending sock = rest ∧ OpenSocket sock := by
  have hdatabuf := hsized.databuf
  have hpayLen := beNat_payLen record
  obtain ⟨sock₁, hlen, hrest₁, hopen₁⟩ := recvAll_payLen record hsized hopen hpending
  have hsplit : pending sock₁ = record.bytes.take 6 ++ (record.bytes.drop 6 ++ rest) := by
    rw [← List.append_assoc, List.take_append_drop, hrest₁]
  unfold sizeofTcpHdr at hbad
  obtain ⟨sock₂, hhdr, hrest₂, hopen₂⟩ := recvAll_whole (n := 6) hopen₁ hsplit
    (by rw [List.length_take]; omega) hsized.hdrbuf
  by_cases hdataLen : record.bytes.length - 6 ≠ 0
  · obtain ⟨sock₃, hdata, hrest₃, hopen₃⟩ := recvAll_front state.databuf hopen₂ hrest₂
      (n := record.bytes.length - 6) List.length_drop (by omega)
    refine ⟨beBytes 2 record.bytes.length, record.bytes.take 6,
      record.bytes.drop 6 ++ state.databuf.drop (record.bytes.length - 6), sock₃, ?_,
        hrest₃, hopen₃⟩
    simp only [receiveRecord, hlen, ClientState.afterRecv, hpayLen, sizeofTcpHdr, if_neg hbad]
    simp only [hhdr, if_pos hdataLen, hdata]
    exact sendParts_record zephyr (by omega) (by omega) rfl (List.take_left' List.length_drop)
  · have hempty : record.bytes.drop 6 = [] := List.drop_of_length_le (by omega)
    rw [hempty, List.nil_append] at hrest₂
    refine ⟨beBytes 2 record.bytes.length, record.bytes.take 6, state.databuf, sock₂, ?_, hrest₂,
      hopen₂⟩
    simp only [receiveRecord, hlen, ClientState.afterRecv, hpayLen, sizeofTcpHdr, if_neg hbad]
    simp only [hhdr, if_neg hdataLen]
    refine sendParts_record zephyr (by omega) (by omega) rfl ?_
    rw [hempty, List.take_eq_nil_iff]
    exact Or.inl (not_not.mp hdataLen)

end Pass

/-- One pass over the record at the front of the stream: it takes exactly the record off the stream,
calls `can_send` if the record is well formed, and leaves everything else but the buffers. -/
theorem receiveRecord_encodeRecord (zephyr : ZephyrCan) (record : WireRecord)
    {state : ClientState} (hsized : BuffersSized state) {rest : List UInt8}
    (hopen : OpenSocket state.sock)
    (hpending : pending state.sock = encodeRecord record.bytes ++ rest) :
    ∃ lenbuf hdrbuf databuf sock,
      receiveRecord zephyr state =
        { state with lenbuf, hdrbuf, databuf, sock
                     canSends := state.canSends ++ (clientAccepts zephyr record.bytes).toList } ∧
      pending sock = rest ∧ OpenSocket sock := by
  by_cases hbad : record.bytes.length < sizeofTcpHdr ∨ record.bytes.length > sizeofTcpHdr + 8
  · have hnone : clientAccepts zephyr record.bytes = none := by
      refine if_neg fun hformed ↦ ?_
      have hlow := hformed.1
      have hhigh := hformed.2.1
      unfold sizeofTcpHdr at hbad
      omega
    obtain ⟨lenbuf, sock, hdumped, hrest, hopen'⟩ :=
      receiveRecord_dumped zephyr record hsized hopen hpending hbad
    refine ⟨lenbuf, state.hdrbuf, state.databuf, sock, ?_, hrest, hopen'⟩
    rw [hdumped, hnone, Option.toList_none, List.append_nil]
  · exact receiveRecord_converted zephyr record hsized hopen hpending hbad

/-- The client makes a frame of exactly the well-formed records. -/
theorem clientAccepts_isSome_iff (zephyr : ZephyrCan) (record : List UInt8) :
    (clientAccepts zephyr record).isSome = true ↔ WellFormed record := by
  unfold clientAccepts
  split_ifs with hformed <;> simp [hformed]

/-- The frame that the client makes of a record is the one that the record describes. -/
theorem clientAccepts_frameOfRecord {zephyr : ZephyrCan} {record : List UInt8} {cf : CanFrame}
    (haccepts : clientAccepts zephyr record = some cf) : FrameOfRecord zephyr record cf := by
  unfold clientAccepts at haccepts
  split_ifs at haccepts with hformed
  obtain ⟨hlow, hhigh, hagree⟩ := hformed
  obtain rfl := Option.some.inj haccepts
  refine ⟨rfl, testFlag_frameFlags_ide .., testFlag_frameFlags_rtr .., rfl, ?_⟩
  rw [hagree]
  exact List.take_left' List.length_drop

/-- The same for a list of at most one well-formed record. -/
theorem clientAccepts_describes (zephyr : ZephyrCan) (record : List UInt8) :
    List.Forall₂ (FrameOfRecord zephyr) ([record].filter (WellFormed ·))
      (clientAccepts zephyr record).toList := by
  by_cases hformed : WellFormed record
  · obtain ⟨cf, haccepts⟩ :=
      Option.isSome_iff_exists.mp ((clientAccepts_isSome_iff zephyr record).mpr hformed)
    rw [List.filter_cons_of_pos (by simpa using hformed), haccepts]
    exact .cons (clientAccepts_frameOfRecord haccepts) .nil
  · rw [List.filter_cons_of_neg (by simpa using hformed), clientAccepts, if_neg hformed]
    exact .nil

/-- A read over a connection that has delivered everything waits. -/
theorem recvAll_waiting {n : ℕ} {sock : List RecvEvent} {buf : List UInt8} {got : ℕ}
    (hopen : OpenSocket sock) (hpending : pending sock = []) (hgot : got < n) :
    recvAll n sock buf got = .waiting := by
  induction sock with
  | nil => rw [recvAll, if_pos hgot]
  | cons event sock ih =>
    rcases hopen event List.mem_cons_self with rfl | ⟨first, more, rfl⟩
    · rw [recvAll, if_pos hgot]
      exact ih (fun other hother ↦ hopen other (List.mem_cons_of_mem _ hother)) hpending
    · exact absurd hpending (by simp [pending])

/-! ### A run -/

/-- A way in which a stream of bytes can come out of a connection: segments of any positive length,
with any number of `EAGAIN` in between. -/
structure Fragmentation (stream : List UInt8) where
  sock : List RecvEvent
  isOpen : OpenSocket sock
  pending_eq : pending sock = stream

/-- What holds of the client after it has taken the records `done` off the stream, with the records
`todo` behind them. -/
structure Received (zephyr : ZephyrCan) (done todo : List WireRecord) (state : ClientState) :
    Prop where
  consumed : state.consumed = done.map fun record ↦ 2 + record.bytes.length
  canSends : List.Forall₂ (FrameOfRecord zephyr)
    ((done.map WireRecord.bytes).filter (WellFormed ·)) state.canSends
  sized : BuffersSized state
  stream : state.status = .running → OpenSocket state.sock ∧ pending state.sock = recordStream todo
  waiting : state.status = .waiting → todo = []

/-- A step that touches neither the stream nor what was received. -/
theorem Received.frame {zephyr : ZephyrCan} {done todo : List WireRecord}
    {state after : ClientState} (hreceived : Received zephyr done todo state)
    (hconsumed : after.consumed = state.consumed) (hcanSends : after.canSends = state.canSends)
    (hsock : after.sock = state.sock) (hsized : BuffersSized after)
    (hrunning : after.status = .running → state.status = .running)
    (hwaiting : after.status = .waiting → state.status = .waiting) :
    Received zephyr done todo after where
  consumed := hconsumed.trans hreceived.consumed
  canSends := hcanSends ▸ hreceived.canSends
  sized := hsized
  stream := fun hstatus ↦ hsock ▸ hreceived.stream (hrunning hstatus)
  waiting := fun hstatus ↦ hreceived.waiting (hwaiting hstatus)

/-- A pass with a record in front takes this record. -/
theorem Received.receivePass_cons {zephyr : ZephyrCan} {done todo : List WireRecord}
    {record : WireRecord} {state : ClientState}
    (hreceived : Received zephyr done (record :: todo) state) (hrunning : state.status = .running) :
    Received zephyr (done ++ [record]) todo (receivePass zephyr state) ∧
      (receivePass zephyr state).status = .running := by
  obtain ⟨hopen, hpending⟩ := hreceived.stream hrunning
  have hstream : pending state.sock = encodeRecord record.bytes ++ recordStream todo := by
    rw [hpending, recordStream, List.map_cons, List.flatMap_cons, recordStream]
  obtain ⟨lenbuf, hdrbuf, databuf, sock, hpass, hrest, hopen'⟩ :=
    receiveRecord_encodeRecord zephyr record hreceived.sized hopen hstream
  have htaken : (pending state.sock).length - (pending sock).length = 2 + record.bytes.length := by
    rw [hstream, hrest, List.length_append, length_encodeRecord]
    omega
  have hsized := hreceived.sized.receivePass zephyr
  have hafter : receivePass zephyr state =
      { state with lenbuf, hdrbuf, databuf, sock
                   canSends := state.canSends ++ (clientAccepts zephyr record.bytes).toList
                   consumed := state.consumed ++ [2 + record.bytes.length] } := by
    simp only [receivePass, hpass, if_pos hrunning, htaken]
  rw [hafter] at hsized ⊢
  refine ⟨⟨?_, ?_, hsized, fun _ ↦ ⟨hopen', hrest⟩, fun hwaiting ↦ ?_⟩, hrunning⟩
  · simp only [hreceived.consumed, List.map_append, List.map_cons, List.map_nil]
  · rw [List.map_append, List.filter_append]
    exact List.rel_append hreceived.canSends (clientAccepts_describes zephyr record.bytes)
  · exact absurd (hrunning.symm.trans hwaiting) (by decide)

/-- A pass after the last record waits for more input. -/
theorem Received.receivePass_nil {zephyr : ZephyrCan} {done : List WireRecord}
    {state : ClientState} (hreceived : Received zephyr done [] state)
    (hrunning : state.status = .running) :
    Received zephyr done [] (receivePass zephyr state) ∧
      (receivePass zephyr state).status = .waiting := by
  obtain ⟨hopen, hpending⟩ := hreceived.stream hrunning
  have hwait : receiveRecord zephyr state = { state with status := .waiting } := by
    simp only [receiveRecord, recvAll_waiting hopen hpending Nat.zero_lt_two,
      ClientState.afterRecv]
  have hafter : receivePass zephyr state = { state with status := .waiting } := by
    simp only [receivePass, hwait, reduceCtorEq, if_false]
  have hsized := hreceived.sized.receivePass zephyr
  rw [hafter] at hsized ⊢
  exact ⟨⟨hreceived.consumed, hreceived.canSends, hsized, by simp, fun _ ↦ rfl⟩, rfl⟩

/-- An event is an error of `zsock_poll`. -/
def ClientEvent.IsPollError (event : ClientEvent) : Prop :=
  ∃ input, event = .main input ∧ input.poll = .error

/-- What one event can do to a client that has received `done` and has `todo` in front of it. -/
def Advances (zephyr : ZephyrCan) (done todo : List WireRecord) (state : ClientState)
    (event : ClientEvent) (after : ClientState) : Prop :=
  ∃ more rest, todo = more ++ rest ∧ Received zephyr (done ++ more) rest after ∧
    (after.status = .stopped → state.status = .stopped ∨ event.IsPollError)

/-- An event that leaves the stream and what was received as they are. -/
theorem Received.advances_of_frame {zephyr : ZephyrCan} {done todo : List WireRecord}
    {state after : ClientState} {event : ClientEvent} (hreceived : Received zephyr done todo state)
    (hafter : clientStep zephyr state event = after) (hconsumed : after.consumed = state.consumed)
    (hcanSends : after.canSends = state.canSends) (hsock : after.sock = state.sock)
    (hstatus : after.status = state.status ∨ (after.status = .stopped ∧ event.IsPollError)) :
    Advances zephyr done todo state event after := by
  have hsized := hreceived.sized.clientStep zephyr event
  rw [hafter] at hsized
  refine ⟨[], todo, rfl, ?_, fun hstopped ↦ ?_⟩
  · rw [List.append_nil]
    refine hreceived.frame hconsumed hcanSends hsock hsized ?_ ?_ <;>
      · intro hnew
        rcases hstatus with hsame | ⟨hstopped, -⟩
        · exact hsame.symm.trans hnew
        · exact absurd (hstopped.symm.trans hnew) (by decide)
  · rcases hstatus with hsame | ⟨-, herror⟩
    · exact Or.inl (hsame.symm.trans hstopped)
    · exact Or.inr herror

/-- One event keeps the invariant, with at most one record moved to the received ones, and stops the
loop only if it is an error of `zsock_poll`. -/
theorem received_clientStep {zephyr : ZephyrCan} {done todo : List WireRecord}
    {state : ClientState} (hreceived : Received zephyr done todo state) (event : ClientEvent) :
    Advances zephyr done todo state event (clientStep zephyr state event) := by
  cases event with
  | canRx frame =>
    refine hreceived.advances_of_frame rfl ?_ ?_ ?_ (Or.inl ?_) <;>
      · simp only [clientStep, canRxCb]
        split_ifs <;> rfl
  | main input =>
    rcases mainStep_cases zephyr state input with
      hstep | ⟨-, -, hstep⟩ | ⟨cf, canRxQ, -, -, hstep⟩ | ⟨hrunning, -, hstep⟩
    · have hafter : clientStep zephyr state (.main input) = state := hstep
      have hadvances := hreceived.advances_of_frame hafter rfl rfl rfl (Or.inl rfl)
      rwa [hafter]
    · have hafter : clientStep zephyr state (.main input) = _ := hstep
      exact hafter ▸ hreceived.advances_of_frame hafter rfl rfl rfl (Or.inl rfl)
    · have hafter : clientStep zephyr state (.main input) = _ := hstep
      exact hafter ▸ hreceived.advances_of_frame hafter rfl rfl rfl (Or.inl rfl)
    · have hentered : Received zephyr done todo { state with draining := true } :=
        hreceived.frame rfl rfl rfl ⟨hreceived.sized.lenbuf, hreceived.sized.hdrbuf,
          hreceived.sized.databuf, hreceived.sized.status⟩ id id
      cases hpoll : input.poll with
      | timeout =>
        have hafter : clientStep zephyr state (.main input) = { state with draining := true } := by
          simp only [clientStep, hstep, hpoll, pollAndReceive]
        exact hafter ▸ hreceived.advances_of_frame hafter rfl rfl rfl (Or.inl rfl)
      | error =>
        have hafter : clientStep zephyr state (.main input) =
            { state with draining := true, status := .stopped } := by
          simp only [clientStep, hstep, hpoll, pollAndReceive]
        exact hafter ▸ hreceived.advances_of_frame hafter rfl rfl rfl
          (Or.inr ⟨rfl, input, rfl, hpoll⟩)
      | ready pollin =>
        cases pollin with
        | false =>
          have hafter : clientStep zephyr state (.main input) =
              { state with draining := true } := by
            simp only [clientStep, hstep, hpoll, pollAndReceive]
          exact hafter ▸ hreceived.advances_of_frame hafter rfl rfl rfl (Or.inl rfl)
        | true =>
          have hafter : clientStep zephyr state (.main input) =
              receivePass zephyr { state with draining := true } := by
            simp only [clientStep, hstep, hpoll, pollAndReceive]
          rw [hafter]
          cases todo with
          | nil =>
            obtain ⟨hdone, hwaiting⟩ := hentered.receivePass_nil hrunning
            exact ⟨[], [], rfl, by rwa [List.append_nil], by simp [hwaiting]⟩
          | cons record todo =>
            obtain ⟨hdone, hstatus⟩ := hentered.receivePass_cons hrunning
            exact ⟨[record], todo, rfl, hdone, by simp [hstatus]⟩

/-- The main thread finds input whenever it polls. -/
def mainReady : ClientEvent := .main { poll := .ready true }

/-- A main thread past its drain loop takes the next record in one step. -/
theorem Received.next_of_polling {zephyr : ZephyrCan} {done todo : List WireRecord}
    {record : WireRecord} {state : ClientState}
    (hreceived : Received zephyr done (record :: todo) state) (hrunning : state.status = .running)
    (hpolling : state.draining = false) :
    Received zephyr (done ++ [record]) todo (clientStep zephyr state mainReady) ∧
      (clientStep zephyr state mainReady).status = .running := by
  have hentered : Received zephyr done (record :: todo) { state with draining := true } :=
    hreceived.frame rfl rfl rfl ⟨hreceived.sized.lenbuf, hreceived.sized.hdrbuf,
      hreceived.sized.databuf, hreceived.sized.status⟩ id id
  have hafter : clientStep zephyr state mainReady =
      receivePass zephyr { state with draining := true } := by
    simp only [clientStep, mainReady, mainStep, if_pos hrunning, hpolling, Bool.false_eq_true,
      if_false, pollAndReceive]
  rw [hafter]
  exact hentered.receivePass_cons hrunning

/-- The next record is received once the main thread has drained its queue and polls. -/
theorem Received.next {zephyr : ZephyrCan} {done todo : List WireRecord} {record : WireRecord}
    {state : ClientState} (hreceived : Received zephyr done (record :: todo) state)
    (hrunning : state.status = .running) :
    ∃ steps, Received zephyr (done ++ [record]) todo
        (runClient zephyr (List.replicate steps mainReady) state) ∧
      (runClient zephyr (List.replicate steps mainReady) state).status = .running := by
  cases hdraining : state.draining with
  | false => exact ⟨1, hreceived.next_of_polling hrunning hdraining⟩
  | true =>
    -- The queue gets shorter until the condition of the drain loop fails.
    induction hlength : state.canRxQ.length generalizing state with
    | zero =>
      have hempty : state.canRxQ = [] := List.eq_nil_of_length_eq_zero hlength
      have hafter : clientStep zephyr state mainReady = { state with draining := false } := by
        simp only [clientStep, mainReady, mainStep, if_pos hrunning, if_pos hdraining, hempty]
      have hpolling : Received zephyr done (record :: todo) { state with draining := false } :=
        hreceived.frame rfl rfl rfl ⟨hreceived.sized.lenbuf, hreceived.sized.hdrbuf,
          hreceived.sized.databuf, hreceived.sized.status⟩ id id
      refine ⟨2, ?_⟩
      change Received zephyr (done ++ [record]) todo
          (clientStep zephyr (clientStep zephyr state mainReady) mainReady) ∧
        (clientStep zephyr (clientStep zephyr state mainReady) mainReady).status = .running
      rw [hafter]
      exact hpolling.next_of_polling hrunning rfl
    | succ length ih =>
      obtain ⟨cf, canRxQ, hqueue⟩ := List.exists_cons_of_length_eq_add_one hlength
      have hafter : clientStep zephyr state mainReady =
          { state with canRxQ
                       sendCalls := state.sendCalls ++
                         [(cf, ⟨.accepted 2, .accepted 6, .accepted 8⟩)] } := by
        simp only [clientStep, mainReady, mainStep, if_pos hrunning, if_pos hdraining, hqueue]
      have hshorter : Received zephyr done (record :: todo)
          (clientStep zephyr state mainReady) := by
        rw [hafter]
        exact hreceived.frame rfl rfl rfl ⟨hreceived.sized.lenbuf, hreceived.sized.hdrbuf,
          hreceived.sized.databuf, hreceived.sized.status⟩ id id
      rw [hqueue, List.length_cons] at hlength
      obtain ⟨steps, hnext⟩ := ih hshorter (hafter ▸ hrunning) (hafter ▸ hdraining)
        (hafter ▸ Nat.succ.inj hlength)
      exact ⟨steps + 1, hnext⟩

/-- A running client receives everything that is still in front of it. -/
theorem Received.completes {zephyr : ZephyrCan} {done todo : List WireRecord}
    {state : ClientState} (hreceived : Received zephyr done todo state)
    (hrunning : state.status = .running) :
    ∃ steps, Received zephyr (done ++ todo) []
      (runClient zephyr (List.replicate steps mainReady) state) := by
  induction todo generalizing done state with
  | nil => exact ⟨0, by rwa [List.append_nil]⟩
  | cons record todo ih =>
    obtain ⟨steps, hnext, hstill⟩ := hreceived.next hrunning
    obtain ⟨others, hdone⟩ := ih hnext hstill
    refine ⟨steps + others, ?_⟩
    rw [List.append_assoc] at hdone
    rw [← List.replicate_append_replicate, runClient, List.foldl_append]
    exact hdone

/-- A run of the receive loop, from any state of the invariant. -/
theorem received_runClient {zephyr : ZephyrCan} {done todo : List WireRecord}
    {state : ClientState} (hreceived : Received zephyr done todo state)
    (events : List ClientEvent) :
    ∃ more rest, todo = more ++ rest ∧
      Received zephyr (done ++ more) rest (runClient zephyr events state) ∧
      ((runClient zephyr events state).status = .stopped →
        state.status = .stopped ∨ ∃ event ∈ events, event.IsPollError) := by
  induction events generalizing done todo state with
  | nil => exact ⟨[], todo, rfl, by rwa [List.append_nil], Or.inl⟩
  | cons event events ih =>
    obtain ⟨more, rest, rfl, hstep, hstop⟩ := received_clientStep hreceived event
    obtain ⟨others, rest, rfl, hrun, hstops⟩ := ih hstep
    refine ⟨more ++ others, rest, (List.append_assoc ..).symm, ?_, fun hstopped ↦ ?_⟩
    · rw [← List.append_assoc]
      exact hrun
    · rcases hstops hstopped with hbefore | ⟨other, hother, herror⟩
      · exact (hstop hbefore).imp id fun herror ↦ ⟨event, List.mem_cons_self, herror⟩
      · exact Or.inr ⟨other, List.mem_cons_of_mem _ hother, herror⟩

/-- The client over a fragmentation of a stream, before its first pass. -/
def startClient {stream : List UInt8} (fragmentation : Fragmentation stream) : ClientState :=
  { sock := fragmentation.sock }

theorem received_startClient (zephyr : ZephyrCan) {records : List WireRecord}
    (fragmentation : Fragmentation (recordStream records)) :
    Received zephyr [] records (startClient fragmentation) where
  consumed := rfl
  canSends := .nil
  sized := ⟨rfl, rfl, rfl, by simp [startClient]⟩
  stream := fun _ ↦ ⟨fragmentation.isOpen, fragmentation.pending_eq⟩
  waiting := fun hwaiting ↦ absurd hwaiting (by simp [startClient])

/-- Over every fragmentation of every stream of records and in every run, the client has at every
moment received a first part of the records that the framer cuts the stream in. It stops for an
error of `zsock_poll` only, waits only when it has received all of them, and while it runs it can
go on and receive all of them. -/
theorem run_receives (zephyr : ZephyrCan) (records : List WireRecord)
    (fragmentation : Fragmentation (recordStream records)) (events : List ClientEvent) :
    ∃ done todo, records = done ++ todo ∧
      (recordCodec.drain (recordStream records)).1 = (done ++ todo).map WireRecord.bytes ∧
      Received zephyr done todo (runClient zephyr events (startClient fragmentation)) ∧
      ((runClient zephyr events (startClient fragmentation)).status = .stopped →
        ∃ event ∈ events, event.IsPollError) ∧
      ((runClient zephyr events (startClient fragmentation)).status = .running →
        ∃ steps, Received zephyr records []
          (runClient zephyr (events ++ List.replicate steps mainReady)
            (startClient fragmentation))) := by
  obtain ⟨done, todo, hsplit, hreceived, hstopped⟩ :=
    received_runClient (received_startClient zephyr fragmentation) events
  rw [List.nil_append] at hreceived
  refine ⟨done, todo, hsplit, ?_, hreceived, fun hstatus ↦ ?_, fun hrunning ↦ ?_⟩
  · rw [drain_recordStream, hsplit]
  · exact (hstopped hstatus).resolve_left (by simp [startClient])
  · obtain ⟨steps, hdone⟩ := hreceived.completes hrunning
    refine ⟨steps, ?_⟩
    rw [← hsplit] at hdone
    rw [runClient, List.foldl_append]
    exact hdone

end CanopenTools.Client
