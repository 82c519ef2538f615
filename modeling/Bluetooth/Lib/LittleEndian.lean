import Mathlib

set_option linter.all false

/-!
# Little-endian octets of a number

A fixed-width unsigned number held in memory on a little-endian machine is the list of its
octets, least significant first.  `encode width value` is that list and `decode` reads it back;
on every value below `256 ^ width` they are inverse.
-/

namespace LittleEndian

/-- The `width` octets of `value`, least significant first. -/
def encode : Nat → Nat → List UInt8
  | 0, _ => []
  | width + 1, value => UInt8.ofNat (value % 256) :: encode width (value / 256)

/-- The number octets stand for, least significant first. -/
def decode : List UInt8 → Nat
  | [] => 0
  | octet :: rest => octet.toNat + 256 * decode rest

@[simp] theorem length_encode (width value : Nat) : (encode width value).length = width := by
  induction width generalizing value with
  | zero => rfl
  | succ width induction => simp [encode, induction]

theorem decode_lt (octets : List UInt8) : decode octets < 256 ^ octets.length := by
  induction octets with
  | nil => simp [decode]
  | cons octet rest induction =>
    have small := octet.toNat_lt
    simp only [decode, List.length_cons, Nat.pow_succ]
    omega

/-- Reading back the octets of a value that fits gives the value. -/
theorem decode_encode {width value : Nat} (fits : value < 256 ^ width) :
    decode (encode width value) = value := by
  induction width generalizing value with
  | zero => simp_all [encode, decode]
  | succ width induction =>
    have quotient : value / 256 < 256 ^ width := by
      rw [Nat.pow_succ] at fits
      omega
    have low : (UInt8.ofNat (value % 256)).toNat = value % 256 := by
      rw [UInt8.toNat_ofNat']
      omega
    simp only [encode, decode, low, induction quotient]
    omega

end LittleEndian
