import Mathlib.Data.List.Basic
import Mathlib.Order.Lattice

/-!
# Blocking reads

`recv_all` of `main.c` fills a buffer from a socket with as many calls of `zsock_recv` as it takes.
The socket is what the connection will deliver: segments of bytes, reports of `EAGAIN`, the end of
the stream or an error. A call takes at most what it asks for and leaves the rest of a segment for
the next call, so a list of segments stands for every pattern of short reads.

A write past the end of the buffer is an outcome of its own, `overflow`. `recvAll_ne_overflow`
excludes it for every socket when the request fits the buffer, and `recvAll_filled` says that over
an open connection the buffer receives exactly the next bytes of the stream and the stream advances
by as many.
-/

set_option autoImplicit false
set_option relaxedAutoImplicit false

namespace CanopenTools.Client

/-- What a socket has next for `zsock_recv`. A segment has at least one byte. -/
inductive RecvEvent
  | segment (first : UInt8) (more : List UInt8)
  | again
  | closed
  | error (errno : ℕ)
  deriving DecidableEq, Repr

/-- A socket that delivers bytes and `EAGAIN` only. -/
def OpenSocket (sock : List RecvEvent) : Prop :=
  ∀ event ∈ sock, event = .again ∨ ∃ first more, event = .segment first more

/-- The bytes that a socket will deliver. -/
def pending : List RecvEvent → List UInt8
  | [] => []
  | .segment first more :: sock => first :: more ++ pending sock
  | _ :: sock => pending sock

/-- How `recv_all` ends: the request is met, it returns an error, it waits for input that does not
come, or it writes past the buffer. -/
inductive RecvAll
  | filled (buf : List UInt8) (sock : List RecvEvent)
  | failed (sock : List RecvEvent)
  | waiting
  | overflow
  deriving DecidableEq, Repr

/-- The write of received bytes at an offset of a buffer, if they fit. -/
def writeAt (buf : List UInt8) (offset : ℕ) (bytes : List UInt8) : Option (List UInt8) :=
  if offset + bytes.length ≤ buf.length then
    some (buf.take offset ++ bytes ++ buf.drop (offset + bytes.length))
  else none

/-- `recv_all(sock, buf, n)` after `got` bytes. Each pass of its loop is one call
`zsock_recv(sock, buf + got, n - got, 0)`; when the segment is longer than the request, the call
meets it. -/
def recvAll (n : ℕ) : List RecvEvent → List UInt8 → ℕ → RecvAll
  | [], buf, got => if got < n then .waiting else .filled buf []
  | event :: sock, buf, got =>
    if got < n then
      match event with
      | .again => recvAll n sock buf got
      | .closed => .failed sock
      | .error _ => .failed sock
      | .segment first more =>
        let r := min (n - got) (first :: more).length
        match writeAt buf got ((first :: more).take r) with
        | none => .overflow
        | some buf =>
          match (first :: more).drop r with
          | [] => recvAll n sock buf (got + r)
          | first :: more => .filled buf (.segment first more :: sock)
    else .filled buf (event :: sock)

theorem writeAt_of_le {buf : List UInt8} (bytes : List UInt8) {offset : ℕ}
    (hfits : offset + bytes.length ≤ buf.length) :
    writeAt buf offset bytes =
      some (buf.take offset ++ bytes ++ buf.drop (offset + bytes.length)) :=
  if_pos hfits

/-- A segment no longer than the request is taken whole, and the loop goes on. -/
theorem recvAll_segment_short {n got : ℕ} {first : UInt8} {more : List UInt8}
    {buf : List UInt8} (sock : List RecvEvent) (hgot : got < n)
    (hshort : got + (first :: more).length ≤ n) (hfits : n ≤ buf.length) :
    recvAll n (.segment first more :: sock) buf got =
      recvAll n sock (buf.take got ++ (first :: more) ++ buf.drop (got + (first :: more).length))
        (got + (first :: more).length) := by
  have hr : min (n - got) (first :: more).length = (first :: more).length :=
    min_eq_right (by omega)
  have hwrite := writeAt_of_le (first :: more) (le_trans hshort hfits)
  rw [recvAll, if_pos hgot]
  simp only [hr, List.take_of_length_le le_rfl, List.drop_of_length_le le_rfl, hwrite]

/-- A segment longer than the request meets it, and the rest of the segment stays. -/
theorem recvAll_segment_long {n got : ℕ} {first next : UInt8} {more bytes others : List UInt8}
    {buf : List UInt8} (sock : List RecvEvent) (hgot : got < n)
    (hsegment : first :: more = bytes ++ next :: others) (hrequest : got + bytes.length = n)
    (hfits : n ≤ buf.length) :
    recvAll n (.segment first more :: sock) buf got =
      .filled (buf.take got ++ bytes ++ buf.drop n) (.segment next others :: sock) := by
  have hr : min (n - got) (bytes ++ next :: others).length = bytes.length := by
    rw [List.length_append, List.length_cons]
    omega
  have hwrite := writeAt_of_le bytes (le_trans (le_of_eq hrequest) hfits)
  rw [recvAll, if_pos hgot]
  simp only [hsegment, hr, List.take_left' rfl, List.drop_left' rfl, hwrite, hrequest]

/-- Replacing a piece of a buffer keeps its size. -/
theorem length_replace {buf bytes : List UInt8} {offset : ℕ}
    (hfits : offset + bytes.length ≤ buf.length) :
    (buf.take offset ++ bytes ++ buf.drop (offset + bytes.length)).length = buf.length := by
  simp only [List.length_append, List.length_take, List.length_drop]
  omega

/-- A request that fits the buffer is never met beyond its end, whatever the socket does, and the
buffer keeps its size. -/
theorem recvAll_ne_overflow (n : ℕ) (sock : List RecvEvent) (buf : List UInt8) (got : ℕ)
    (hfits : n ≤ buf.length) :
    recvAll n sock buf got ≠ .overflow ∧
      ∀ filled rest, recvAll n sock buf got = .filled filled rest →
        filled.length = buf.length := by
  induction sock generalizing buf got with
  | nil =>
    unfold recvAll
    split_ifs <;> simp
  | cons event sock ih =>
    by_cases hgot : got < n
    · cases event with
      | again =>
        rw [recvAll, if_pos hgot]
        exact ih buf got hfits
      | closed => simp [recvAll, hgot]
      | error errno => simp [recvAll, hgot]
      | segment first more =>
        by_cases hshort : got + (first :: more).length ≤ n
        · have hlength := length_replace (le_trans hshort hfits)
          rw [recvAll_segment_short sock hgot hshort hfits, ← hlength]
          exact ih _ _ (by rw [hlength]; exact hfits)
        · have hlong : n - got < (first :: more).length := by omega
          have hsegment : first :: more = (first :: more).take (n - got) ++
              (first :: more)[n - got] :: (first :: more).drop (n - got + 1) := by
            rw [List.getElem_cons_drop, List.take_append_drop]
          have hrequest : got + ((first :: more).take (n - got)).length = n := by
            rw [List.length_take]
            omega
          have hlength := length_replace (le_trans (le_of_eq hrequest) hfits)
          rw [hrequest] at hlength
          rw [recvAll_segment_long sock hgot hsegment hrequest hfits]
          refine ⟨by simp, fun filled rest hfilled ↦ ?_⟩
          rw [← (RecvAll.filled.inj hfilled).1, hlength]
    · simp [recvAll, hgot]

/-- Replacing a first piece of a buffer and then a second one behind it replaces both. -/
theorem replace_twice (buf first second : List UInt8) {got n : ℕ}
    (hrequest : got + (first ++ second).length = n) (hfits : n ≤ buf.length) :
    (buf.take got ++ first ++ buf.drop (got + first.length)).take (got + first.length) ++ second ++
        (buf.take got ++ first ++ buf.drop (got + first.length)).drop n =
      buf.take got ++ (first ++ second) ++ buf.drop n := by
  rw [List.length_append] at hrequest
  have hlength : (buf.take got ++ first).length = got + first.length := by
    rw [List.length_append, List.length_take]
    omega
  rw [List.take_left' hlength, List.drop_append, hlength, List.drop_of_length_le (by omega),
    List.nil_append, List.drop_drop, Nat.add_sub_cancel' (by omega)]
  simp only [List.append_assoc]

/-- Over an open connection, `recv_all` fills the buffer with the next bytes of the stream and takes
exactly these off the stream, whatever the segments and however many calls report `EAGAIN`. -/
theorem recvAll_filled (n : ℕ) (sock : List RecvEvent) (buf bytes rest : List UInt8) (got : ℕ)
    (hopen : OpenSocket sock) (hpending : pending sock = bytes ++ rest)
    (hrequest : got + bytes.length = n) (hfits : n ≤ buf.length) :
    ∃ sock', recvAll n sock buf got =
        .filled (buf.take got ++ bytes ++ buf.drop n) sock' ∧
      pending sock' = rest ∧ OpenSocket sock' := by
  induction sock generalizing buf bytes got with
  | nil =>
    obtain ⟨rfl, rfl⟩ := List.append_eq_nil_iff.mp hpending.symm
    have hn : got = n := by simpa using hrequest
    subst hn
    refine ⟨[], ?_, rfl, hopen⟩
    simp [recvAll]
  | cons event sock ih =>
    have hrest : OpenSocket sock := fun other hother ↦ hopen other (List.mem_cons_of_mem _ hother)
    by_cases hgot : got < n
    · rcases hopen event List.mem_cons_self with rfl | ⟨first, more, rfl⟩
      · rw [recvAll, if_pos hgot]
        exact ih buf bytes got hrest hpending hrequest hfits
      · -- A segment that is taken whole: the loop goes on with the left bytes.
        have hwhole (left : List UInt8) (hbytes : bytes = (first :: more) ++ left)
            (hleft : pending sock = left ++ rest) :
            ∃ sock', recvAll n (.segment first more :: sock) buf got =
                .filled (buf.take got ++ bytes ++ buf.drop n) sock' ∧
              pending sock' = rest ∧ OpenSocket sock' := by
          subst hbytes
          have htotal : got + ((first :: more).length + left.length) = n := by
            rw [← List.length_append, hrequest]
          have hshort : got + (first :: more).length ≤ n := by omega
          have hlength := length_replace (hshort.trans hfits)
          obtain ⟨sock', hrecv, hpending', hopen'⟩ :=
            ih _ left (got + (first :: more).length) hrest hleft (by omega) (hlength ▸ hfits)
          refine ⟨sock', ?_, hpending', hopen'⟩
          rw [recvAll_segment_short sock hgot hshort hfits, hrecv,
            replace_twice buf _ _ hrequest hfits]
        rcases List.append_eq_append_iff.mp hpending with
          ⟨left, hbytes, hleft⟩ | ⟨left, hsegment, hleft⟩
        · exact hwhole left hbytes hleft
        · cases left with
          | nil =>
            rw [List.append_nil] at hsegment
            exact hwhole [] (by rw [hsegment, List.append_nil]) hleft.symm
          | cons next others =>
            refine ⟨_, recvAll_segment_long sock hgot hsegment hrequest hfits, hleft.symm, ?_⟩
            intro other hother
            rcases List.mem_cons.mp hother with rfl | hother
            · exact Or.inr ⟨next, others, rfl⟩
            · exact hrest other hother
    · have hempty : bytes = [] := List.eq_nil_of_length_eq_zero (by omega)
      have hn : got = n := by omega
      subst hempty hn
      exact ⟨event :: sock, by simp [recvAll], by simpa using hpending, hopen⟩

end CanopenTools.Client
