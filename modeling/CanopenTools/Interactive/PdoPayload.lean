import CanopenTools.Framing.BigEndian
import CanopenTools.Tools.Decimal

/-!
# What `send_pdo` puts on the bus

`send_pdo` reads a line of values, converts each of them and hands the list of numbers to
python-canopen as the data of the RPDO, whose elements are sent as bytes (`sendValues`). The CANopen
packing has a field for each mapped variable, as wide as the variable and little-endian
(`IsPacking`, `isPacking_packing`). A number stands for one byte whatever its variable is, so the
payload is the packing exactly for mappings of single bytes (`sendValues_packs_iff`).

python-canopen is not part of the repository: what is used of `transmit` is `PdoTransmit`.
-/

set_option autoImplicit false
set_option relaxedAutoImplicit false

namespace CanopenTools.Interactive

open Framing Tools

/-! ### Sending -/

/-- A variable that is mapped to an RPDO: its name, its length in bits and the conversion that is
chosen for its data type. -/
structure PdoVariable where
  name : String
  length : ℕ
  dtype : String → Option ℤ

/-- A byte as a number. -/
def ofByte (byte : UInt8) : ℤ := byte.toNat

/-- `rpdo.data = values; rpdo.transmit()`: the payload on the bus, or none if it raises. The
elements of the data are sent as the bytes of the payload, so a number that is no byte is not sent.
-/
structure PdoTransmit where
  transmit : List ℤ → Option (List UInt8)
  data_eq : ∀ data payload, transmit data = some payload → data = payload.map ofByte
  transmit_bytes : ∀ payload : List UInt8, payload.length ≤ 8 →
    transmit (payload.map ofByte) = some payload

/-- `send_pdo` from the prompt for the values on: the payload on the bus, or none if nothing is
transmitted. -/
def sendValues (canopen : PdoTransmit) (maps : List PdoVariable) (valsInput : String) :
    Option (List UInt8) :=
  if maps.length = 0 then none
  else
    let valList := splitValues valsInput
    if valList.length ≠ maps.length then none
    else do
      let values ← (valList.zip maps).mapM fun pair ↦ pair.2.dtype pair.1
      canopen.transmit values

/-! ### Packing -/

/-- The low `width` bytes of a number, least significant byte first. -/
def leBytes (width value : ℕ) : List UInt8 := (beBytes width value).reverse

@[simp] theorem length_leBytes (width value : ℕ) : (leBytes width value).length = width := by
  rw [leBytes, List.length_reverse, length_beBytes]

/-- The number of bits of some variables. -/
def bits (maps : List PdoVariable) : ℕ := (maps.map PdoVariable.length).sum

/-- The CANopen packing of values: as many bytes as the variables have, and each value little-endian
at the offset of its variable. -/
structure IsPacking (maps : List PdoVariable) (values : List ℕ) (payload : List UInt8) :
    Prop where
  length_eq : payload.length = bits maps / 8
  field : ∀ (index : ℕ) (mapped : PdoVariable) (value : ℕ), maps[index]? = some mapped →
    values[index]? = some value →
      (payload.drop (bits (maps.take index) / 8)).take (mapped.length / 8) =
        leBytes (mapped.length / 8) value

/-- The fields one after the other. -/
def packing (maps : List PdoVariable) (values : List ℕ) : List UInt8 :=
  (List.zipWith (fun mapped value ↦ leBytes (mapped.length / 8) value) maps values).flatten

/-- Variables whose lengths are whole bytes. -/
def WholeBytes (maps : List PdoVariable) : Prop :=
  ∀ mapped ∈ maps, 0 < mapped.length ∧ 8 ∣ mapped.length

theorem bits_cons (mapped : PdoVariable) (maps : List PdoVariable) :
    bits (mapped :: maps) = mapped.length + bits maps := by
  rw [bits, List.map_cons, List.sum_cons, bits]

theorem length_le_bits {maps : List PdoVariable} {mapped : PdoVariable} (hmapped : mapped ∈ maps) :
    mapped.length ≤ bits maps := by
  induction maps with
  | nil => exact absurd hmapped List.not_mem_nil
  | cons first maps ih =>
    rw [bits_cons]
    rcases List.mem_cons.mp hmapped with rfl | hrest
    · exact Nat.le_add_right _ _
    · exact (ih hrest).trans (Nat.le_add_left _ _)

theorem WholeBytes.dvd_bits {maps : List PdoVariable} (hwhole : WholeBytes maps) :
    8 ∣ bits maps := by
  induction maps with
  | nil => exact Nat.dvd_zero 8
  | cons mapped maps ih =>
    rw [bits_cons]
    exact Nat.dvd_add (hwhole _ List.mem_cons_self).2
      (ih fun other hother ↦ hwhole other (List.mem_cons_of_mem _ hother))

/-- The packing exists for variables of whole bytes. -/
theorem isPacking_packing {maps : List PdoVariable} (hwhole : WholeBytes maps)
    {values : List ℕ} (hlength : values.length = maps.length) :
    IsPacking maps values (packing maps values) := by
  induction maps generalizing values with
  | nil => exact ⟨by simp [packing, bits], by simp⟩
  | cons first maps ih =>
    obtain ⟨value, values, rfl⟩ := List.exists_cons_of_length_eq_add_one hlength
    have hrest : WholeBytes maps :=
      fun other hother ↦ hwhole other (List.mem_cons_of_mem _ hother)
    obtain ⟨hsize, hfield⟩ := ih hrest (Nat.succ.inj hlength)
    obtain ⟨hpos, width, hwidth⟩ := hwhole first List.mem_cons_self
    have hpacking : packing (first :: maps) (value :: values) =
        leBytes (first.length / 8) value ++ packing maps values := by
      rw [packing, List.zipWith_cons_cons, List.flatten_cons, packing]
    have hdiv : ∀ rest, (first.length + rest) / 8 = first.length / 8 + rest / 8 := by
      intro rest
      omega
    constructor
    · rw [hpacking, List.length_append, length_leBytes, hsize, bits_cons, hdiv]
    · intro index mapped other hvariable hvalue
      cases index with
      | zero =>
        obtain rfl := Option.some.inj hvariable
        obtain rfl := Option.some.inj hvalue
        have hzero : bits ((first :: maps).take 0) / 8 = 0 := by simp [bits]
        rw [hpacking, hzero, List.drop_zero, List.take_left' (length_leBytes _ _)]
      | succ index =>
        rw [List.take_succ_cons, bits_cons, hdiv, hpacking, ← List.drop_drop,
          List.drop_left' (length_leBytes _ _)]
        exact hfield index mapped other hvariable hvalue

/-- Variables of whole bytes have at least one byte each, and no more only if each is a single byte.
-/
theorem WholeBytes.length_le_bits {maps : List PdoVariable} (hwhole : WholeBytes maps) :
    8 * maps.length ≤ bits maps ∧
      (bits maps = 8 * maps.length → ∀ mapped ∈ maps, mapped.length = 8) := by
  induction maps with
  | nil => exact ⟨Nat.le_refl 0, by simp⟩
  | cons first maps ih =>
    obtain ⟨hle, hall⟩ := ih fun other hother ↦ hwhole other (List.mem_cons_of_mem _ hother)
    obtain ⟨hpos, width, hwidth⟩ := hwhole first List.mem_cons_self
    rw [bits_cons, List.length_cons]
    refine ⟨by omega, fun htotal ↦ ?_⟩
    intro mapped hmapped
    rcases List.mem_cons.mp hmapped with rfl | hrest
    · omega
    · exact hall (by omega) mapped hrest

/-- The offsets of single bytes. -/
theorem bits_of_bytes {maps : List PdoVariable} (hbytes : ∀ mapped ∈ maps, mapped.length = 8) :
    bits maps = 8 * maps.length := by
  induction maps with
  | nil => rfl
  | cons first maps ih =>
    rw [bits_cons, hbytes first List.mem_cons_self, List.length_cons,
      ih fun other hother ↦ hbytes other (List.mem_cons_of_mem _ hother)]
    omega

/-- The packing of single bytes: one byte for each value. -/
theorem packing_of_bytes {maps : List PdoVariable} (hbytes : ∀ mapped ∈ maps, mapped.length = 8)
    {values : List ℕ} (hlength : values.length = maps.length) :
    packing maps values = values.map UInt8.ofNat := by
  induction maps generalizing values with
  | nil =>
    obtain rfl := List.eq_nil_of_length_eq_zero hlength
    rfl
  | cons first maps ih =>
    obtain ⟨value, values, rfl⟩ := List.exists_cons_of_length_eq_add_one hlength
    have hrest := ih (fun other hother ↦ hbytes other (List.mem_cons_of_mem _ hother))
      (Nat.succ.inj hlength)
    have hfirst : leBytes (first.length / 8) value = [UInt8.ofNat value] := by
      rw [hbytes first List.mem_cons_self]
      simp [leBytes, beBytes]
    rw [packing, List.zipWith_cons_cons, List.flatten_cons, hfirst, List.map_cons, ← hrest]
    rfl

/-! ### What is transmitted -/

/-- An RPDO of integer variables of whole bytes, at most eight together, and a line that reads as
one value for each variable, in its range. -/
structure TypedPdo where
  maps : List PdoVariable
  values : List ℕ
  line : String
  maps_ne_nil : maps ≠ []
  integer : ∀ mapped ∈ maps, mapped.dtype = pyInt
  whole : WholeBytes maps
  bits_le : bits maps ≤ 64
  length_eq : values.length = maps.length
  value_lt : ∀ (index : ℕ) (mapped : PdoVariable) (value : ℕ), maps[index]? = some mapped →
    values[index]? = some value → value < 2 ^ mapped.length
  typed : (splitValues line).map pyInt = values.map fun value ↦ some (Int.ofNat value)

/-- Values in the range of their variables, typed with spaces or with commas between them. -/
def TypedPdo.ofJoined {maps : List PdoVariable} {values : List ℕ} {separator : Char}
    (hmaps : maps ≠ []) (hinteger : ∀ mapped ∈ maps, mapped.dtype = pyInt)
    (hwhole : WholeBytes maps) (hbits : bits maps ≤ 64) (hlength : values.length = maps.length)
    (hrange : ∀ (index : ℕ) (mapped : PdoVariable) (value : ℕ), maps[index]? = some mapped →
      values[index]? = some value → value < 2 ^ mapped.length)
    (hseparator : separator = ' ' ∨ separator = ',') : TypedPdo where
  maps := maps
  values := values
  line := joined separator values
  maps_ne_nil := hmaps
  integer := hinteger
  whole := hwhole
  bits_le := hbits
  length_eq := hlength
  value_lt := hrange
  typed := by
    have hne : values ≠ [] := by
      rintro rfl
      exact hmaps (List.eq_nil_of_length_eq_zero hlength.symm)
    rw [splitValues_joined hseparator hne, List.map_map]
    refine List.map_congr_left fun value hvalue ↦ pyInt_repr ?_
    obtain ⟨index, hindex, rfl⟩ := List.mem_iff_getElem.mp hvalue
    have hmapped := List.getElem?_eq_getElem (hlength ▸ hindex)
    have hlt := hrange index _ _ hmapped (List.getElem?_eq_getElem hindex)
    have hwidth := (length_le_bits (List.getElem_mem (hlength ▸ hindex))).trans hbits
    have hdecimal : 2 ^ 64 ≤ 10 ^ 20 := by decide
    exact hlt.trans_le ((Nat.pow_le_pow_right Nat.two_pos hwidth).trans
      (hdecimal.trans (Nat.pow_le_pow_right (by decide) (by decide))))

/-- The conversion of the values on a line. -/
theorem mapM_dtype {texts : List String} {maps : List PdoVariable} {values : List ℕ}
    (hlength : values.length = maps.length) (hinteger : ∀ mapped ∈ maps, mapped.dtype = pyInt)
    (htyped : texts.map pyInt = values.map fun value ↦ some (Int.ofNat value)) :
    ((texts.zip maps).mapM fun pair ↦ pair.2.dtype pair.1) =
      some (values.map Int.ofNat) := by
  induction values generalizing texts maps with
  | nil =>
    obtain rfl : texts = [] := by simpa using htyped
    rfl
  | cons value values ih =>
    obtain ⟨text, texts, rfl⟩ : ∃ text rest, texts = text :: rest := by
      cases texts with
      | nil => simp at htyped
      | cons text rest => exact ⟨text, rest, rfl⟩
    obtain ⟨first, maps, rfl⟩ := List.exists_cons_of_length_eq_add_one hlength.symm
    rw [List.map_cons, List.map_cons, List.cons.injEq] at htyped
    have hfirst : first.dtype text = some (Int.ofNat value) := by
      rw [hinteger first List.mem_cons_self, htyped.1]
    have hrest := ih (Nat.succ.inj hlength)
      (fun other hother ↦ hinteger other (List.mem_cons_of_mem _ hother)) htyped.2
    rw [List.zip_cons_cons, List.mapM_cons, hfirst, hrest]
    rfl

/-- What is transmitted for a typed line: the numbers, as the elements of the data. -/
theorem sendValues_eq (canopen : PdoTransmit) (pdo : TypedPdo) :
    sendValues canopen pdo.maps pdo.line =
      canopen.transmit (pdo.values.map Int.ofNat) := by
  have hmaps : ¬ pdo.maps.length = 0 := by simpa using pdo.maps_ne_nil
  have hcount : (splitValues pdo.line).length = pdo.maps.length := by
    have hlength := congrArg List.length pdo.typed
    rwa [List.length_map, List.length_map, pdo.length_eq] at hlength
  unfold sendValues
  rw [if_neg hmaps]
  dsimp only
  rw [if_neg (by simpa using hcount), mapM_dtype pdo.length_eq pdo.integer pdo.typed]
  rfl

/-- `send_pdo` transmits the packing of the values exactly when each variable is a single byte. -/
theorem sendValues_packs_iff (canopen : PdoTransmit) (pdo : TypedPdo) :
    (∃ payload, sendValues canopen pdo.maps pdo.line = some payload ∧
        IsPacking pdo.maps pdo.values payload) ↔
      ∀ mapped ∈ pdo.maps, mapped.length = 8 := by
  rw [sendValues_eq]
  constructor
  · rintro ⟨payload, hpayload, hpacking⟩
    have hcount : pdo.maps.length = payload.length := by
      have hlength := congrArg List.length (canopen.data_eq _ _ hpayload)
      rw [List.length_map, List.length_map] at hlength
      rw [← pdo.length_eq, hlength]
    refine pdo.whole.length_le_bits.2 ?_
    have hsize := hpacking.length_eq
    have hdvd := pdo.whole.dvd_bits
    omega
  · intro hbytes
    have hbyte : ∀ value ∈ pdo.values, value < 256 := by
      intro value hvalue
      obtain ⟨index, hindex, rfl⟩ := List.mem_iff_getElem.mp hvalue
      have hmapped := List.getElem?_eq_getElem (pdo.length_eq ▸ hindex)
      have hlt := pdo.value_lt index _ _ hmapped (List.getElem?_eq_getElem hindex)
      rwa [hbytes _ (List.getElem_mem _)] at hlt
    have hdata : pdo.values.map Int.ofNat = (pdo.values.map UInt8.ofNat).map ofByte := by
      rw [List.map_map]
      refine List.map_congr_left fun value hvalue ↦ ?_
      rw [Function.comp_apply, ofByte, UInt8.toNat_ofNat', Nat.mod_eq_of_lt (hbyte value hvalue)]
      rfl
    refine ⟨pdo.values.map UInt8.ofNat, ?_, ?_⟩
    · rw [hdata]
      refine canopen.transmit_bytes _ ?_
      have hbits := pdo.bits_le
      rw [bits_of_bytes hbytes] at hbits
      rw [List.length_map, pdo.length_eq]
      omega
    · rw [← packing_of_bytes hbytes pdo.length_eq]
      exact isPacking_packing pdo.whole pdo.length_eq

/-! ### A number in a wider field -/

/-- A number as a byte, if it is one. -/
def toByte (number : ℤ) : Option UInt8 :=
  if 0 ≤ number ∧ number < 256 then some (UInt8.ofNat number.toNat) else none

theorem toByte_eq_some {number : ℤ} {byte : UInt8} (hbyte : toByte number = some byte) :
    number = ofByte byte := by
  unfold toByte at hbyte
  split_ifs at hbyte with hrange
  obtain rfl := Option.some.inj hbyte
  rw [ofByte, UInt8.toNat_ofNat', Nat.mod_eq_of_lt (by omega)]
  omega

theorem toByte_ofByte (byte : UInt8) : toByte (ofByte byte) = some byte := by
  have hlt := byte.toNat_lt
  rw [toByte, ofByte, if_pos (by omega), Int.toNat_natCast, UInt8.ofNat_toNat]

/-- A `transmit` that behaves as documented. -/
def documentedTransmit : PdoTransmit where
  transmit := fun data ↦ data.mapM toByte
  data_eq := by
    intro data
    induction data with
    | nil =>
      rintro payload hpayload
      obtain rfl := Option.some.inj hpayload
      rfl
    | cons number data ih =>
      intro payload hpayload
      rw [List.mapM_cons, Option.bind_eq_bind, Option.bind_eq_some_iff] at hpayload
      obtain ⟨byte, hbyte, hrest⟩ := hpayload
      obtain ⟨bytes, hbytes, hcons⟩ := Option.bind_eq_some_iff.mp hrest
      obtain rfl := Option.some.inj hcons
      rw [List.map_cons, ← toByte_eq_some hbyte, ← ih bytes hbytes]
  transmit_bytes := by
    intro payload _
    induction payload with
    | nil => rfl
    | cons byte payload ih =>
      rw [List.map_cons, List.mapM_cons, toByte_ofByte, ih (Nat.le_of_succ_le ‹_›)]
      rfl

/-- A five for a variable of 16 bits is transmitted as one byte. -/
theorem sendValues_wideVariable :
    sendValues documentedTransmit [⟨"target", 16, pyInt⟩] "5" = some [5] ∧
      ¬ IsPacking [⟨"target", 16, pyInt⟩] [5] [5] ∧
      packing [⟨"target", 16, pyInt⟩] [5] = [5, 0] := by
  refine ⟨by decide, fun hpacking ↦ ?_, by decide⟩
  have hsize := hpacking.length_eq
  exact absurd hsize (by decide)

end CanopenTools.Interactive
