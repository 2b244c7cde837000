import Mathlib.Data.List.Basic
import Mathlib.Tactic.Ring

/-!
# Big-endian fields

Fixed-width big-endian numbers over bytes. `beBytes width value` writes the low `width` bytes of a
number, most significant byte first, and `beNat` reads a byte string back. `beNat_beBytes` is the
round trip of a number that fits the field, `beBytes_beNat` the round trip of a byte string, and
`beNat_lt` the range of a field. Nothing here names a wire format: the widths are parameters.
-/

set_option autoImplicit false
set_option relaxedAutoImplicit false

namespace CanopenTools.Framing

/-- The low `width` bytes of a number, most significant byte first. -/
def beBytes : ℕ → ℕ → List UInt8
  | 0, _ => []
  | width + 1, value => UInt8.ofNat (value / 256 ^ width) :: beBytes width value

/-- The number whose big-endian digits are the bytes of a string. -/
def beNat : List UInt8 → ℕ
  | [] => 0
  | byte :: rest => byte.toNat * 256 ^ rest.length + beNat rest

@[simp] theorem length_beBytes (width value : ℕ) : (beBytes width value).length = width := by
  induction width with
  | zero => rfl
  | succ width ih => simp [beBytes, ih]

/-- A field of `n` bytes holds a number below `256 ^ n`. -/
theorem beNat_lt (bytes : List UInt8) : beNat bytes < 256 ^ bytes.length := by
  induction bytes with
  | nil => simp [beNat]
  | cons byte rest ih =>
    have hbyte : byte.toNat + 1 ≤ 256 := byte.toNat_lt
    have hscaled : (byte.toNat + 1) * 256 ^ rest.length ≤ 256 * 256 ^ rest.length :=
      Nat.mul_le_mul_right _ hbyte
    have hsplit : (byte.toNat + 1) * 256 ^ rest.length =
        byte.toNat * 256 ^ rest.length + 256 ^ rest.length := by ring
    rw [beNat, List.length_cons, pow_succ']
    omega

/-- Writing keeps a number modulo the range of the field. -/
theorem beNat_beBytes_mod (width value : ℕ) :
    beNat (beBytes width value) = value % 256 ^ width := by
  induction width with
  | zero => simp [beBytes, beNat, Nat.mod_one]
  | succ width ih =>
    have hdigit : (UInt8.ofNat (value / 256 ^ width)).toNat = value / 256 ^ width % 256 := by
      simp
    rw [beBytes, beNat, length_beBytes, ih, hdigit, pow_succ, Nat.mod_mul]
    ring

/-- A number that fits the field is read back. -/
theorem beNat_beBytes {width value : ℕ} (hfits : value < 256 ^ width) :
    beNat (beBytes width value) = value := by
  rw [beNat_beBytes_mod, Nat.mod_eq_of_lt hfits]

/-- A digit that does not fit the field is not written: only the value modulo the range matters. -/
theorem beBytes_add_mul (width value factor : ℕ) :
    beBytes width (value + factor * 256 ^ width) = beBytes width value := by
  induction width generalizing factor with
  | zero => rfl
  | succ width ih =>
    have hpos : 0 < 256 ^ width := Nat.pow_pos (by decide)
    have hshift : value + factor * 256 ^ (width + 1) =
        value + (factor * 256) * 256 ^ width := by ring
    have hdigit : UInt8.ofNat ((value + (factor * 256) * 256 ^ width) / 256 ^ width) =
        UInt8.ofNat (value / 256 ^ width) := by
      rw [Nat.add_mul_div_right _ _ hpos]
      apply UInt8.toNat_inj.mp
      simp
    rw [hshift, beBytes, beBytes, hdigit, ih]

/-- A byte string is written back by a field of its own length. -/
theorem beBytes_beNat (bytes : List UInt8) : beBytes bytes.length (beNat bytes) = bytes := by
  induction bytes with
  | nil => rfl
  | cons byte rest ih =>
    have hpos : 0 < 256 ^ rest.length := Nat.pow_pos (by decide)
    have hdigit : (byte.toNat * 256 ^ rest.length + beNat rest) / 256 ^ rest.length =
        byte.toNat := by
      rw [add_comm, Nat.add_mul_div_right _ _ hpos, Nat.div_eq_of_lt (beNat_lt rest), zero_add]
    rw [List.length_cons, beBytes, beNat, hdigit, UInt8.ofNat_toNat, add_comm,
      beBytes_add_mul, ih]

end CanopenTools.Framing
