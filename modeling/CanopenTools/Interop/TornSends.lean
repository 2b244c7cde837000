import CanopenTools.Interop.DataFrames

/-!
# Torn sends

`tcp_send_can_frame` writes a record with three calls of `zsock_send`, and the main loop ignores its
result. When a call is short, the frames after it are appended to a torn record. This module says
exactly when that does harm.

`TearHarmless` is a condition on the frames taken from the queue and on what `zsock_send` accepted
of each: after the first record that was accepted in part, the connection accepts nothing more, or
too little to complete the length that the torn record has announced. `unmixed_iff_tearHarmless`
shows that it is exactly the condition under which no record that the server cuts off the stream has
bytes of two frames, and `readsFrames_of_tearHarmless` that the server then reads an in-order
subsequence of the frames. `run_readsSubsequence_iff` is the result for runs of the main loop.
-/

set_option autoImplicit false
set_option relaxedAutoImplicit false

namespace CanopenTools.Interop

open Framing Bridge Client

/-! ### What reaches the connection -/

/-- A call of `tcp_send_can_frame` for a classic frame, with the outcomes of its sends. -/
structure SendCall where
  frame : ClassicFrame
  sends : FrameSends

/-- The size of the record with its length. -/
def SendCall.size (call : SendCall) : ℕ := 8 + call.frame.dlc.toNat

/-- The number of bytes of the record that the connection accepts. -/
def SendCall.accepted (call : SendCall) : ℕ := call.sends.count call.frame.dlc.toNat

/-- The bytes that the connection accepts over a list of calls. -/
def acceptedBytes (zephyr : ZephyrCan) (calls : List SendCall) : List UInt8 :=
  calls.flatMap fun call ↦ (tcpSendCanFrame zephyr call.frame.toCanFrame call.sends).1

/-- The number of the call that every accepted byte comes from, counted from `index`. -/
def sources : ℕ → List SendCall → List ℕ
  | _, [] => []
  | index, call :: calls => List.replicate call.accepted index ++ sources (index + 1) calls

/-- The number of bytes that the connection accepts over a list of calls. -/
def totalAccepted : List SendCall → ℕ
  | [] => 0
  | call :: calls => call.accepted + totalAccepted calls

/-- After the first record that was accepted in part, the connection accepts nothing more, or too
little to complete the announced length. -/
def TearHarmless : List SendCall → Prop
  | [] => True
  | call :: calls =>
    if call.accepted = 0 ∨ call.accepted = call.size then TearHarmless calls
    else totalAccepted calls = 0 ∨
      (2 ≤ call.accepted ∧ call.accepted + totalAccepted calls < call.size)

/-! ### What the server reads -/

/-- The records that the server cuts off the bytes of a connection. -/
def serverRecords (bytes : List UInt8) : List (List UInt8) := (recordCodec.drain bytes).1

/-- No record that the server cuts off is made of bytes of two calls. -/
def Unmixed (index : ℕ) (calls : List SendCall) (bytes : List UInt8) : Prop :=
  ∀ span ∈ cutSizes ((serverRecords bytes).map fun record ↦ 2 + record.length)
    (sources index calls), ∃ source, ∀ other ∈ span, other = source

/-- The server decodes every record to a frame, and the frames are an in-order subsequence of the
frames of the calls. -/
def ReadsFrames (zephyr : ZephyrCan) (python : PythonCan) (calls : List SendCall)
    (bytes : List UInt8) : Prop :=
  ∃ kept : List SendCall, kept.Sublist calls ∧
    List.Forall₂ (fun call record ↦ ∃ msg, canFromFrame python record = .ok msg ∧
      Carries zephyr call.frame.toCanFrame msg) kept (serverRecords bytes)

/-- What the server reads of the bytes that reached the connection: an in-order subsequence of the
frames that the client tried to send, and no record with bytes of two of them. -/
structure ReadsSubsequence (zephyr : ZephyrCan) (python : PythonCan) (calls : List SendCall)
    (bytes : List UInt8) : Prop where
  frames : ReadsFrames zephyr python calls bytes
  unmixed : Unmixed 0 calls bytes

/-! ### One call -/

theorem SendCall.accepted_le (call : SendCall) : call.accepted ≤ call.size :=
  call.sends.count_le _

/-- What one call writes is the first part of the record of its frame. -/
theorem acceptedBytes_cons (zephyr : ZephyrCan) (call : SendCall) (calls : List SendCall) :
    acceptedBytes zephyr (call :: calls) =
      (encodeRecord (clientRecord zephyr call.frame.toCanFrame)).take call.accepted ++
        acceptedBytes zephyr calls := by
  rw [acceptedBytes, List.flatMap_cons, tcpSendCanFrame_bytes]
  rfl

theorem length_encode_clientRecord (zephyr : ZephyrCan) (call : SendCall) :
    (encodeRecord (clientRecord zephyr call.frame.toCanFrame)).length = call.size := by
  rw [length_encodeRecord, length_clientRecord, SendCall.size]
  omega

theorem length_take_accepted (zephyr : ZephyrCan) (call : SendCall) :
    ((encodeRecord (clientRecord zephyr call.frame.toCanFrame)).take call.accepted).length =
      call.accepted := by
  have hle := call.accepted_le
  rw [List.length_take, length_encode_clientRecord]
  omega

@[simp] theorem length_acceptedBytes (zephyr : ZephyrCan) (calls : List SendCall) :
    (acceptedBytes zephyr calls).length = totalAccepted calls := by
  induction calls with
  | nil => rfl
  | cons call calls ih =>
    rw [acceptedBytes_cons, List.length_append, length_take_accepted, ih, totalAccepted]

@[simp] theorem length_sources (index : ℕ) (calls : List SendCall) :
    (sources index calls).length = totalAccepted calls := by
  induction calls generalizing index with
  | nil => rfl
  | cons call calls ih =>
    rw [sources, List.length_append, List.length_replicate, ih, totalAccepted]

/-- The bytes of later calls have later sources. -/
theorem le_of_mem_sources (calls : List SendCall) {index source : ℕ}
    (hsource : source ∈ sources index calls) : index ≤ source := by
  induction calls generalizing index with
  | nil => exact absurd hsource List.not_mem_nil
  | cons call calls ih =>
    rcases List.mem_append.mp hsource with hhere | hlater
    · exact (List.eq_of_mem_replicate hhere).ge
    · exact (Nat.le_succ index).trans (ih hlater)

/-- The first byte that the connection accepts is the high byte of a length below 256. -/
theorem acceptedBytes_head (zephyr : ZephyrCan) (calls : List SendCall) {first : UInt8}
    {rest : List UInt8} (hbytes : acceptedBytes zephyr calls = first :: rest) : first = 0 := by
  induction calls with
  | nil => exact absurd hbytes (by simp [acceptedBytes])
  | cons call calls ih =>
    rw [acceptedBytes_cons] at hbytes
    cases haccepted : call.accepted with
    | zero =>
      rw [haccepted, List.take_zero, List.nil_append] at hbytes
      exact ih hbytes
    | succ count =>
      have hdlc := call.frame.dlc_le
      have hhigh : UInt8.ofNat ((6 + call.frame.dlc.toNat) / 256 ^ 1) = 0 := by
        rw [Nat.div_eq_of_lt (by omega)]
        rfl
      rw [haccepted, encodeRecord, length_clientRecord, beBytes, hhigh, List.cons_append,
        List.take_succ_cons, List.cons_append] at hbytes
      exact (List.cons.inj hbytes).1.symm

/-! ### The front of the buffer -/

/-- The framer waits until the announced length is there, and then cuts it off. -/
theorem next_announced {length : ℕ} (hlength : length < 65536) (tail : List UInt8) :
    recordCodec.next (beBytes 2 length ++ tail) =
      if tail.length < length then none else some (tail.take length, tail.drop length) := by
  split_ifs with hshort
  · have hpad : (tail ++ List.replicate (length - tail.length) (0 : UInt8)).length = length := by
      rw [List.length_append, List.length_replicate]
      omega
    have hvalid : recordCodec.Valid (tail ++ List.replicate (length - tail.length) 0) := by
      rw [recordCodec_valid, hpad]
      exact hlength
    have hmore : List.replicate (length - tail.length) (0 : UInt8) ≠ [] :=
      List.ne_nil_of_length_pos (by rw [List.length_replicate]; omega)
    refine recordCodec.next_eq_none_of_prefix hvalid hmore ?_
    rw [recordCodec_encode, encodeRecord, hpad, List.append_assoc]
  · have htake : (tail.take length).length = length := by
      rw [List.length_take]
      omega
    have hnext := recordCodec.next_encode (tail.take length) (tail.drop length)
      (by rw [recordCodec_valid, htake]; exact hlength)
    rwa [recordCodec_encode, encodeRecord, htake, List.append_assoc,
      List.take_append_drop] at hnext

/-- A call that wrote its whole record puts this record in front. -/
theorem next_of_whole (zephyr : ZephyrCan) {call : SendCall} (hwhole : call.accepted = call.size)
    (calls : List SendCall) :
    recordCodec.next (acceptedBytes zephyr (call :: calls)) =
      some (clientRecord zephyr call.frame.toCanFrame, acceptedBytes zephyr calls) := by
  have hdlc := call.frame.dlc_le
  rw [acceptedBytes_cons, hwhole, ← length_encode_clientRecord zephyr, List.take_length]
  refine recordCodec.next_encode _ _ ?_
  rw [recordCodec_valid, length_clientRecord]
  omega

/-- A call that wrote at least the length announces the length of its record. -/
theorem acceptedBytes_announced (zephyr : ZephyrCan) {call : SendCall}
    (hannounced : 2 ≤ call.accepted) (calls : List SendCall) :
    ∃ tail, acceptedBytes zephyr (call :: calls) = beBytes 2 (6 + call.frame.dlc.toNat) ++ tail ∧
      2 + tail.length = call.accepted + totalAccepted calls := by
  have hfront : (encodeRecord (clientRecord zephyr call.frame.toCanFrame)).take call.accepted =
      beBytes 2 (6 + call.frame.dlc.toNat) ++
        (clientRecord zephyr call.frame.toCanFrame).take (call.accepted - 2) := by
    rw [encodeRecord, length_clientRecord, List.take_append, length_beBytes,
      List.take_of_length_le (by rw [length_beBytes]; exact hannounced)]
  refine ⟨(clientRecord zephyr call.frame.toCanFrame).take (call.accepted - 2) ++
    acceptedBytes zephyr calls, ?_, ?_⟩
  · rw [acceptedBytes_cons, hfront, List.append_assoc]
  · have hle := call.accepted_le
    unfold SendCall.size at hle
    rw [List.length_append, length_acceptedBytes, List.length_take, length_clientRecord]
    omega

/-- After a harmless tear the server waits. -/
theorem next_of_harmless (zephyr : ZephyrCan) {call : SendCall}
    (htorn : call.accepted < call.size) {calls : List SendCall}
    (hharmless : totalAccepted calls = 0 ∨
      (2 ≤ call.accepted ∧ call.accepted + totalAccepted calls < call.size)) :
    recordCodec.next (acceptedBytes zephyr (call :: calls)) = none := by
  have hdlc := call.frame.dlc_le
  rcases hharmless with hnothing | ⟨hannounced, hshort⟩
  · have hempty : acceptedBytes zephyr calls = [] :=
      List.eq_nil_of_length_eq_zero (by rw [length_acceptedBytes, hnothing])
    have hvalid : recordCodec.Valid (clientRecord zephyr call.frame.toCanFrame) := by
      rw [recordCodec_valid, length_clientRecord]
      omega
    rw [acceptedBytes_cons, hempty, List.append_nil]
    refine recordCodec.next_eq_none_of_prefix hvalid (List.ne_nil_of_length_pos ?_)
      (List.take_append_drop call.accepted _)
    rw [List.length_drop, length_encode_clientRecord]
    omega
  · obtain ⟨tail, hbytes, hlength⟩ := acceptedBytes_announced zephyr hannounced calls
    rw [hbytes, next_announced (by omega), if_pos]
    unfold SendCall.size at hshort
    omega

/-- After a tear behind the first byte alone, the server reads a record without bytes, because the
next byte is again the high byte of a length. -/
theorem next_of_high_byte (zephyr : ZephyrCan) {call : SendCall} (hone : call.accepted = 1)
    {calls : List SendCall} (hsome : totalAccepted calls ≠ 0) :
    ∃ rest, recordCodec.next (acceptedBytes zephyr (call :: calls)) = some ([], rest) := by
  obtain ⟨first, rest, hcalls⟩ : ∃ first rest, acceptedBytes zephyr calls = first :: rest := by
    refine List.exists_cons_of_ne_nil fun hempty ↦ hsome ?_
    rw [← length_acceptedBytes zephyr, hempty, List.length_nil]
  obtain ⟨high, tail, hencode⟩ := List.exists_cons_of_ne_nil
    (recordCodec.encode_ne_nil (clientRecord zephyr call.frame.toCanFrame))
  have hbytes : acceptedBytes zephyr (call :: calls) = high :: acceptedBytes zephyr calls := by
    rw [recordCodec_encode] at hencode
    rw [acceptedBytes_cons, hone, hencode, List.take_succ_cons, List.take_zero]
    rfl
  rw [acceptedBytes_head zephyr _ hbytes, hcalls, acceptedBytes_head zephyr _ hcalls] at hbytes
  have hzero : recordCodec.encode [] = [0, 0] := rfl
  have hnext := recordCodec.next_encode [] rest (by rw [recordCodec_valid, List.length_nil]; omega)
  rw [hzero, List.cons_append, List.cons_append, List.nil_append, ← hbytes] at hnext
  exact ⟨rest, hnext⟩

/-- After a harmful tear the server cuts off a record that goes beyond the torn one. -/
theorem next_of_harmful (zephyr : ZephyrCan) {call : SendCall} (hpos : 0 < call.accepted)
    (htorn : call.accepted < call.size) {calls : List SendCall}
    (hharmful : ¬ (totalAccepted calls = 0 ∨
      (2 ≤ call.accepted ∧ call.accepted + totalAccepted calls < call.size))) :
    ∃ record rest, recordCodec.next (acceptedBytes zephyr (call :: calls)) = some (record, rest) ∧
      call.accepted < 2 + record.length ∧
      2 + record.length ≤ call.accepted + totalAccepted calls := by
  have hdlc := call.frame.dlc_le
  obtain ⟨hsome, hlong⟩ := not_or.mp hharmful
  unfold SendCall.size at htorn hlong
  by_cases hannounced : 2 ≤ call.accepted
  · obtain ⟨tail, hbytes, hlength⟩ := acceptedBytes_announced zephyr hannounced calls
    have hrecord : (tail.take (6 + call.frame.dlc.toNat)).length = 6 + call.frame.dlc.toNat := by
      rw [List.length_take]
      omega
    refine ⟨tail.take (6 + call.frame.dlc.toNat), tail.drop (6 + call.frame.dlc.toNat), ?_, ?_⟩
    · rw [hbytes, next_announced (by omega), if_neg (by omega)]
    · rw [hrecord]
      omega
  · have hone : call.accepted = 1 := by omega
    obtain ⟨rest, hnext⟩ := next_of_high_byte zephyr hone hsome
    exact ⟨[], rest, hnext, by rw [List.length_nil]; omega, by rw [List.length_nil]; omega⟩

/-! ### Mixed records -/

theorem serverRecords_of_none {bytes : List UInt8} (hnext : recordCodec.next bytes = none) :
    serverRecords bytes = [] := by
  rw [serverRecords, recordCodec.drain_of_none hnext]

theorem serverRecords_of_some {bytes rest record : List UInt8}
    (hnext : recordCodec.next bytes = some (record, rest)) :
    serverRecords bytes = record :: serverRecords rest := by
  rw [serverRecords, recordCodec.drain_of_some hnext]
  rfl

/-- A span that begins in a torn record and goes beyond it has bytes of two calls. -/
theorem span_mixed {call : SendCall} (hpos : 0 < call.accepted) {calls : List SendCall}
    {index size : ℕ} (hbeyond : call.accepted < size)
    (hfits : size ≤ call.accepted + totalAccepted calls) :
    ¬ ∃ source, ∀ other ∈ (sources index (call :: calls)).take size, other = source := by
  rintro ⟨source, hsame⟩
  obtain ⟨count, rfl⟩ : ∃ count, size = call.accepted + (count + 1) :=
    ⟨size - call.accepted - 1, by omega⟩
  obtain ⟨later, rest, hlater⟩ : ∃ later rest, sources (index + 1) calls = later :: rest := by
    refine List.exists_cons_of_ne_nil fun hempty ↦ ?_
    have hlength := length_sources (index + 1) calls
    rw [hempty, List.length_nil] at hlength
    omega
  have hspan : (sources index (call :: calls)).take (call.accepted + (count + 1)) =
      List.replicate call.accepted index ++ later :: rest.take count := by
    rw [sources, hlater, List.take_append, List.length_replicate, List.take_of_length_le (by simp),
      Nat.add_sub_cancel_left, List.take_succ_cons]
  rw [hspan] at hsame
  have hhere : index = source := hsame index
    (List.mem_append_left _ (List.mem_replicate.mpr ⟨by omega, rfl⟩))
  have hbehind : later = source := hsame later (List.mem_append_right _ List.mem_cons_self)
  have hle : index + 1 ≤ later := le_of_mem_sources calls (by rw [hlater]; exact List.mem_cons_self)
  omega

/-- No record that the server cuts off has bytes of two calls exactly when the first tear is
harmless. -/
theorem unmixed_iff_tearHarmless (zephyr : ZephyrCan) (index : ℕ) (calls : List SendCall) :
    Unmixed index calls (acceptedBytes zephyr calls) ↔ TearHarmless calls := by
  induction calls generalizing index with
  | nil => simp [Unmixed, TearHarmless, acceptedBytes, serverRecords, cutSizes]
  | cons call calls ih =>
    have hle := call.accepted_le
    rw [TearHarmless]
    by_cases hnone : call.accepted = 0
    · have hbytes : acceptedBytes zephyr (call :: calls) = acceptedBytes zephyr calls := by
        rw [acceptedBytes_cons, hnone, List.take_zero, List.nil_append]
      have hsources : sources index (call :: calls) = sources (index + 1) calls := by
        rw [sources, hnone, List.replicate_zero, List.nil_append]
      rw [if_pos (Or.inl hnone), ← ih (index + 1), Unmixed, Unmixed, hbytes, hsources]
    by_cases hwhole : call.accepted = call.size
    · have hsize : 2 + (clientRecord zephyr call.frame.toCanFrame).length = call.accepted := by
        rw [← length_encodeRecord, length_encode_clientRecord, hwhole]
      rw [if_pos (Or.inr hwhole), ← ih (index + 1), Unmixed, Unmixed,
        serverRecords_of_some (next_of_whole zephyr hwhole calls), List.map_cons, cutSizes, sources,
        hsize, List.take_left' List.length_replicate, List.drop_left' List.length_replicate,
        List.forall_mem_cons]
      exact and_iff_right ⟨index, fun other hother ↦ List.eq_of_mem_replicate hother⟩
    rw [if_neg (not_or.mpr ⟨hnone, hwhole⟩)]
    have hpos : 0 < call.accepted := by omega
    have htorn : call.accepted < call.size := by omega
    by_cases hharmless : totalAccepted calls = 0 ∨
        (2 ≤ call.accepted ∧ call.accepted + totalAccepted calls < call.size)
    · refine iff_of_true ?_ hharmless
      rw [Unmixed, serverRecords_of_none (next_of_harmless zephyr htorn hharmless)]
      exact fun span hspan ↦ absurd hspan List.not_mem_nil
    · refine iff_of_false (fun hunmixed ↦ ?_) hharmless
      obtain ⟨record, rest, hnext, hbeyond, hfits⟩ :=
        next_of_harmful zephyr hpos htorn hharmless
      rw [Unmixed, serverRecords_of_some hnext, List.map_cons, cutSizes,
        List.forall_mem_cons] at hunmixed
      exact span_mixed hpos hbeyond hfits hunmixed.1

/-- After a harmless tear, or without one, the server reads an in-order subsequence of the
frames. -/
theorem readsFrames_of_tearHarmless (zephyr : ZephyrCan) (python : PythonCan)
    (calls : List SendCall) (hharmless : TearHarmless calls) :
    ReadsFrames zephyr python calls (acceptedBytes zephyr calls) := by
  induction calls with
  | nil => exact ⟨[], .slnil, by simp [acceptedBytes, serverRecords]⟩
  | cons call calls ih =>
    have hle := call.accepted_le
    rw [TearHarmless] at hharmless
    by_cases hnone : call.accepted = 0
    · rw [if_pos (Or.inl hnone)] at hharmless
      obtain ⟨kept, hkept, hreads⟩ := ih hharmless
      refine ⟨kept, hkept.cons call, ?_⟩
      rwa [acceptedBytes_cons, hnone, List.take_zero, List.nil_append]
    by_cases hwhole : call.accepted = call.size
    · rw [if_pos (Or.inr hwhole)] at hharmless
      obtain ⟨kept, hkept, hreads⟩ := ih hharmless
      refine ⟨call :: kept, hkept.cons_cons call, ?_⟩
      rw [serverRecords_of_some (next_of_whole zephyr hwhole calls)]
      exact .cons (canFromFrame_clientRecord zephyr python call.frame) hreads
    rw [if_neg (not_or.mpr ⟨hnone, hwhole⟩)] at hharmless
    refine ⟨[], List.nil_sublist _, ?_⟩
    rw [serverRecords_of_none (next_of_harmless zephyr (by omega) hharmless)]
    exact .nil

/-! ### Runs of the main loop -/

/-- What the main loop records of a call. -/
def SendCall.logged (call : SendCall) : CanFrame × FrameSends :=
  (call.frame.toCanFrame, call.sends)

/-- A run of the client in which every frame that arrives from the bus is a classic frame. -/
structure ClassicRun where
  sock : List RecvEvent
  events : List ClientEvent
  classic : ∀ cf, .canRx cf ∈ events → ∃ frame : ClassicFrame, frame.toCanFrame = cf

/-- The state at the end of a run. -/
def ClassicRun.final (zephyr : ZephyrCan) (run : ClassicRun) : ClientState :=
  runClient zephyr run.events { sock := run.sock }

/-- The frames in the queue and the frames of the calls are classic frames. -/
structure OnlyClassic (state : ClientState) : Prop where
  queue : ∀ cf ∈ state.canRxQ, ∃ frame : ClassicFrame, frame.toCanFrame = cf
  calls : ∃ calls : List SendCall, state.sendCalls = calls.map SendCall.logged

theorem OnlyClassic.clientStep (zephyr : ZephyrCan) {state : ClientState}
    (honly : OnlyClassic state) (event : ClientEvent)
    (hevent : ∀ cf, event = .canRx cf → ∃ frame : ClassicFrame, frame.toCanFrame = cf) :
    OnlyClassic (clientStep zephyr state event) := by
  obtain ⟨hqueue, calls, hcalls⟩ := honly
  cases event with
  | canRx cf =>
    change OnlyClassic (canRxCb state cf)
    unfold canRxCb
    split_ifs
    · refine ⟨fun other hother ↦ ?_, calls, hcalls⟩
      rcases List.mem_append.mp hother with hold | hnew
      · exact hqueue other hold
      · rw [List.mem_singleton.mp hnew]
        exact hevent cf rfl
    · exact ⟨hqueue, calls, hcalls⟩
  | main input =>
    change OnlyClassic (mainStep zephyr state input)
    rcases mainStep_cases zephyr state input with
      hstep | ⟨-, -, hstep⟩ | ⟨cf, canRxQ, -, hcons, hstep⟩ | ⟨-, -, hstep⟩
    · rw [hstep]
      exact ⟨hqueue, calls, hcalls⟩
    · rw [hstep]
      exact ⟨hqueue, calls, hcalls⟩
    · rw [hcons] at hqueue
      obtain ⟨frame, hframe⟩ := hqueue cf List.mem_cons_self
      rw [hstep]
      refine ⟨fun other hother ↦ hqueue other (List.mem_cons_of_mem _ hother),
        calls ++ [⟨frame, input.sends⟩], ?_⟩
      rw [hcalls, List.map_append, List.map_cons, List.map_nil, SendCall.logged, hframe]
    · have hside := sendSide_pollAndReceive zephyr { state with draining := true } input.poll
      obtain ⟨hsameQueue, hsameCalls⟩ := Prod.mk.inj hside
      rw [hstep]
      refine ⟨fun other hother ↦ hqueue other ?_, calls, hsameCalls.trans hcalls⟩
      rwa [show _ = state.canRxQ from hsameQueue] at hother

theorem onlyClassic_runClient (zephyr : ZephyrCan) (events : List ClientEvent)
    (hevents : ∀ cf, .canRx cf ∈ events → ∃ frame : ClassicFrame, frame.toCanFrame = cf)
    {state : ClientState} (honly : OnlyClassic state) :
    OnlyClassic (runClient zephyr events state) := by
  induction events generalizing state with
  | nil => exact honly
  | cons event events ih =>
    refine ih (fun cf hcf ↦ hevents cf (List.mem_cons_of_mem _ hcf))
      (honly.clientStep zephyr event fun cf hcf ↦ hevents cf ?_)
    rw [hcf]
    exact List.mem_cons_self

/-- The run in which the frames of a list of calls arrive one by one and each is sent before the
next one arrives. -/
def runOfCalls (calls : List SendCall) : ClassicRun where
  sock := []
  events := calls.flatMap fun call ↦
    [.canRx call.frame.toCanFrame, .main { sends := call.sends, poll := .timeout }]
  classic := fun cf hcf ↦ by
    obtain ⟨call, -, hcall⟩ := List.mem_flatMap.mp hcf
    refine ⟨call.frame, ?_⟩
    simpa [eq_comm] using hcall

/-- Every list of calls is the list of calls of a run. -/
theorem sendCalls_runOfCalls (zephyr : ZephyrCan) (calls : List SendCall) :
    ((runOfCalls calls).final zephyr).sendCalls = calls.map SendCall.logged := by
  have hrun : ∀ done : List SendCall,
      (runClient zephyr (runOfCalls calls).events
        { sock := [], sendCalls := done.map SendCall.logged }).sendCalls =
        (done ++ calls).map SendCall.logged := by
    induction calls with
    | nil => exact fun done ↦ by rw [List.append_nil]; rfl
    | cons call calls ih =>
      intro done
      have hnext := ih (done ++ [call])
      rw [List.append_assoc, List.singleton_append] at hnext
      rw [← hnext, List.map_append]
      rfl
  exact hrun []

/-- In every run of the main loop, the server reads an in-order subsequence of the frames that the
client tried to send, with no record made of bytes of two frames, exactly when the first tear is
harmless; and every list of calls, with every outcome of its sends, occurs in a run. -/
theorem run_readsSubsequence_iff (zephyr : ZephyrCan) (python : PythonCan) :
    (∀ run : ClassicRun, ∃ calls : List SendCall,
      (run.final zephyr).sendCalls = calls.map SendCall.logged ∧
        (ReadsSubsequence zephyr python calls ((run.final zephyr).wire zephyr) ↔
          TearHarmless calls)) ∧
    ∀ calls : List SendCall, ∃ run : ClassicRun,
      (run.final zephyr).sendCalls = calls.map SendCall.logged := by
  refine ⟨fun run ↦ ?_, fun calls ↦ ⟨runOfCalls calls, sendCalls_runOfCalls zephyr calls⟩⟩
  have hstart : OnlyClassic { sock := run.sock } := ⟨by simp, [], rfl⟩
  obtain ⟨calls, hcalls⟩ := (onlyClassic_runClient zephyr run.events run.classic hstart).calls
  have hwire : (run.final zephyr).wire zephyr = acceptedBytes zephyr calls := by
    rw [ClientState.wire, ClassicRun.final, hcalls, List.flatMap_map]
    rfl
  refine ⟨calls, hcalls, ?_⟩
  rw [hwire, ← unmixed_iff_tearHarmless zephyr 0 calls]
  constructor
  · exact fun hreads ↦ hreads.unmixed
  · intro hunmixed
    have hharmless := (unmixed_iff_tearHarmless zephyr 0 calls).mp hunmixed
    exact ⟨readsFrames_of_tearHarmless zephyr python calls hharmless, hunmixed⟩

/-- A data frame with eight data bytes. -/
def fullFrame : ClassicFrame where
  id := 0x123
  dlc := 8
  flags := 0
  data := [1, 2, 3, 4, 5, 6, 7, 8]
  id_lt := by decide
  dlc_le := by decide
  data_length := by decide

/-- A data frame without data bytes. -/
def emptyFrame : ClassicFrame where
  id := 0x456
  dlc := 0
  flags := 0
  data := List.replicate 8 0
  id_lt := by decide
  dlc_le := by decide
  data_length := by decide

/-- The send of the data of the first frame fails, and the second frame is sent whole. -/
def tornCalls : List SendCall :=
  [⟨fullFrame, ⟨.accepted 2, .accepted 6, .error⟩⟩, ⟨emptyFrame, allAccepted⟩]

/-- The record of the second frame becomes the data of the first one. -/
theorem tornCalls_not_readsSubsequence :
    ¬ ReadsSubsequence documentedZephyrCan documentedPythonCan tornCalls
        (((runOfCalls tornCalls).final documentedZephyrCan).wire documentedZephyrCan) ∧
      (serverRecords (((runOfCalls tornCalls).final documentedZephyrCan).wire
        documentedZephyrCan)).map (canFromFrame documentedPythonCan) =
          [.ok (documentedPythonCan.message 0x123 false false [0, 6, 0, 0, 4, 0x56, 0, 0] false
            false)] := by
  have hwire : ((runOfCalls tornCalls).final documentedZephyrCan).wire documentedZephyrCan =
      [0, 14, 0, 0, 1, 0x23, 0, 8, 0, 6, 0, 0, 4, 0x56, 0, 0] := by decide
  have hrecords : serverRecords [0, 14, 0, 0, 1, 0x23, 0, 8, 0, 6, 0, 0, 4, 0x56, 0, 0] =
      [[0, 0, 1, 0x23, 0, 8, 0, 6, 0, 0, 4, 0x56, 0, 0]] := by decide
  rw [hwire, hrecords]
  refine ⟨fun hreads ↦ ?_, rfl⟩
  have hunmixed := hreads.unmixed
  rw [Unmixed, hrecords] at hunmixed
  obtain ⟨source, hsame⟩ := hunmixed [0, 0, 0, 0, 0, 0, 0, 0, 1, 1, 1, 1, 1, 1, 1, 1] (by decide)
  exact absurd ((hsame 0 (by decide)).trans (hsame 1 (by decide)).symm) (by decide)

end CanopenTools.Interop
