import CanopenTools.Bridge.CanRecord

/-!
# Which records become CAN frames

`canFromFrame` checks the length of its input and nothing else. `canFromFrame_eq_ok_iff` says which
byte strings it accepts and what message comes out: the fields of the header pass into the message
as they are. `BusWellFormed` says what a frame on a CAN bus satisfies, `FieldsWellFormed` what the
header of a record has to satisfy for that, and `canFromFrame_wellFormed_iff` that the decoder makes
a frame of the bus of a whole record exactly when its header does.
-/

set_option autoImplicit false
set_option relaxedAutoImplicit false

namespace CanopenTools.Bridge

/-! ### Frames of the bus -/

/-- The data lengths of an FD frame. -/
def fdLengths : List ℕ := [0, 1, 2, 3, 4, 5, 6, 7, 8, 12, 16, 20, 24, 32, 48, 64]

/-- What a frame on a CAN bus satisfies. -/
structure BusWellFormed (msg : Message) : Prop where
  standard_le : msg.isExtendedId = false → msg.arbitrationId ≤ 0x7FF
  extended_lt : msg.isExtendedId = true → msg.arbitrationId < 2 ^ 29
  not_remote_fd : ¬ (msg.isRemoteFrame = true ∧ msg.isFd = true)
  fd_of_bitrateSwitch : msg.bitrateSwitch = true → msg.isFd = true
  classic_le : msg.isFd = false → msg.payload.length ≤ 8
  fd_length : msg.isFd = true → msg.payload.length ∈ fdLengths

/-! ### Accepted records -/

/-- A record that is as long as its header says, and whose header announces at most 64 bytes. -/
structure WholeRecord (buf : List UInt8) : Prop where
  header : hdrNoLenSize ≤ buf.length
  announced_le : (hdrNoLenUnpack buf).2.2 ≤ 64
  body : hdrNoLenSize + (hdrNoLenUnpack buf).2.2 ≤ buf.length

/-- The bytes behind the header that the header announces. -/
def recordData (buf : List UInt8) : List UInt8 :=
  (buf.take (hdrNoLenSize + (hdrNoLenUnpack buf).2.2)).drop hdrNoLenSize

/-- The message that the header and the data of a record make. -/
def recordMessage (python : PythonCan) (buf : List UInt8) : Message :=
  let flags := (hdrNoLenUnpack buf).2.1
  python.message (hdrNoLenUnpack buf).1 (hasFlag flags flagExt) (hasFlag flags flagRtr)
    (recordData buf) (hasFlag flags flagFd) (hasFlag flags flagBrs)

theorem length_recordData {buf : List UInt8} (hwhole : WholeRecord buf) :
    (recordData buf).length = (hdrNoLenUnpack buf).2.2 := by
  have hbody := hwhole.body
  rw [recordData, List.length_drop, List.length_take]
  omega

/-- The decoder accepts exactly the whole records, and checks nothing of the fields. -/
theorem canFromFrame_eq_ok_iff (python : PythonCan) (buf : List UInt8) (msg : Message) :
    canFromFrame python buf = .ok msg ↔ WholeRecord buf ∧ msg = recordMessage python buf := by
  constructor
  · intro hok
    unfold canFromFrame at hok
    simp only at hok
    split_ifs at hok with hheader hannounced hbody
    refine ⟨⟨not_lt.mp hheader, not_lt.mp hannounced, not_lt.mp hbody⟩, ?_⟩
    exact (Except.ok.inj hok).symm
  · rintro ⟨hwhole, rfl⟩
    unfold canFromFrame
    simp only [if_neg (not_lt.mpr hwhole.header), gt_iff_lt,
      if_neg (not_lt.mpr hwhole.announced_le), if_neg (not_lt.mpr hwhole.body)]
    rfl

/-! ### Records of frames of the bus -/

/-- A header whose fields are those of a frame of the bus: the identifier has the bits of its
format and no other, the remote flag excludes the FD flag, the bit-rate switch needs it, and the
length byte of a record that carries data is a length of its kind of frame. -/
structure FieldsWellFormed (canId : ℕ) (flags : UInt8) (n : ℕ) : Prop where
  canId_lt : canId < if hasFlag flags flagExt then 2 ^ 29 else 2 ^ 11
  kind : ¬ (hasFlag flags flagRtr = true ∧ hasFlag flags flagFd = true)
  brs : hasFlag flags flagBrs = true → hasFlag flags flagFd = true
  length_mem : hasFlag flags flagRtr = false →
    n ∈ if hasFlag flags flagFd then fdLengths else List.range 9

/-- `FieldsWellFormed` of the header in front of a record. -/
def HeaderWellFormed (buf : List UInt8) : Prop :=
  FieldsWellFormed (hdrNoLenUnpack buf).1 (hdrNoLenUnpack buf).2.1 (hdrNoLenUnpack buf).2.2

/-- The message of given fields is a frame of the bus exactly when the fields are those of one.
Of a remote message the constructor drops the data, so its length byte does not matter. -/
theorem message_wellFormed_iff (python : PythonCan) (canId : ℕ) (flags : UInt8)
    (data : List UInt8) :
    BusWellFormed (python.message canId (hasFlag flags flagExt) (hasFlag flags flagRtr) data
      (hasFlag flags flagFd) (hasFlag flags flagBrs)) ↔
      FieldsWellFormed canId flags data.length := by
  rw [python.message_eq]
  constructor
  · rintro ⟨hstandard, hextended, hkind, hbrs, hclassic, hfd⟩
    refine ⟨?_, hkind, hbrs, ?_⟩
    · split_ifs with hext
      · exact hextended hext
      · exact Nat.lt_succ_of_le (hstandard (Bool.not_eq_true _ ▸ hext))
    · intro hrtr
      simp only [Message.payload, hrtr, Bool.false_eq_true, if_false, Option.getD_some]
        at hclassic hfd
      split_ifs with hisFd
      · exact hfd hisFd
      · exact List.mem_range.mpr (Nat.lt_succ_of_le (hclassic (Bool.not_eq_true _ ▸ hisFd)))
  · rintro ⟨hid, hkind, hbrs, hlength⟩
    refine ⟨?_, ?_, hkind, hbrs, ?_, ?_⟩
    · intro hext
      rw [show hasFlag flags flagExt = false from hext] at hid
      exact Nat.le_of_lt_succ hid
    · intro hext
      rwa [if_pos (show hasFlag flags flagExt = true from hext)] at hid
    · intro hisFd
      by_cases hrtr : hasFlag flags flagRtr = true
      · simp [Message.payload, hrtr]
      · have hmem := hlength (Bool.not_eq_true _ ▸ hrtr)
        rw [show hasFlag flags flagFd = false from hisFd] at hmem
        simp only [Message.payload, hrtr, Option.getD_some]
        exact Nat.le_of_lt_succ (List.mem_range.mp hmem)
    · intro hisFd
      have hrtr : hasFlag flags flagRtr = false := by
        by_contra hremote
        exact hkind ⟨Bool.not_eq_false _ ▸ hremote, hisFd⟩
      have hmem := hlength hrtr
      rw [if_pos (show hasFlag flags flagFd = true from hisFd)] at hmem
      simpa only [Message.payload, hrtr, Bool.false_eq_true, if_false, Option.getD_some] using hmem

/-- The decoder makes frames of the bus only, exactly of the records that are not whole or have a
well-formed header. -/
theorem canFromFrame_wellFormed_iff (python : PythonCan) (buf : List UInt8) :
    (∀ msg, canFromFrame python buf = .ok msg → BusWellFormed msg) ↔
      (WholeRecord buf → HeaderWellFormed buf) := by
  have hmessage : WholeRecord buf →
      (BusWellFormed (recordMessage python buf) ↔ HeaderWellFormed buf) := by
    intro hwhole
    rw [recordMessage, message_wellFormed_iff, length_recordData hwhole, HeaderWellFormed]
  constructor
  · intro hall hwhole
    refine (hmessage hwhole).mp (hall _ ?_)
    exact (canFromFrame_eq_ok_iff python buf _).mpr ⟨hwhole, rfl⟩
  · intro hheader msg hok
    obtain ⟨hwhole, rfl⟩ := (canFromFrame_eq_ok_iff python buf msg).mp hok
    exact (hmessage hwhole).mpr (hheader hwhole)

/-- A record with all 32 identifier bits set is accepted, with an identifier that no CAN frame
has. -/
theorem canFromFrame_not_wellFormed_wideId :
    ∃ msg, canFromFrame documentedPythonCan [0xFF, 0xFF, 0xFF, 0xFF, 0x01, 0x00] = .ok msg ∧
      msg.arbitrationId = 2 ^ 32 - 1 ∧ ¬ BusWellFormed msg := by
  refine ⟨_, rfl, rfl, fun hwell ↦ ?_⟩
  have hlt := hwell.extended_lt rfl
  exact absurd hlt (by decide)

end CanopenTools.Bridge
