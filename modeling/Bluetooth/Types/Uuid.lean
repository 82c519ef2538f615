import Mathlib

set_option linter.all false

/-!
# `bluetooth::Uuid`

A UUID is sixteen octets, most significant first.  A UUID that agrees with the Bluetooth base
UUID outside its first four octets has a 32-bit short form, and a 16-bit one when its first two
octets are zero as well.  The all-zero UUID `kEmpty` has no short form.
-/

namespace Bluetooth

/-- `bluetooth::Uuid`: `uu` is the 128-bit value, most significant octet first. -/
structure Uuid where
  uu : Vector UInt8 16
deriving DecidableEq, Repr

namespace Uuid

/-- `kNumBytes16`. -/
def kNumBytes16 : Nat := 2

/-- `kNumBytes32`. -/
def kNumBytes32 : Nat := 4

/-- `kNumBytes128`. -/
def kNumBytes128 : Nat := 16

/-- `kEmpty`, the all-zero UUID. -/
def kEmpty : Uuid := ⟨.replicate 16 0⟩

/-- The Bluetooth base UUID `00000000-0000-1000-8000-00805F9B34FB`. -/
def kBase : Uuid :=
  ⟨#v[0x00, 0x00, 0x00, 0x00, 0x00, 0x00, 0x10, 0x00, 0x80, 0x00, 0x00, 0x80, 0x5f, 0x9b, 0x34,
    0xfb]⟩

/-- `GetShortestRepresentationSize`. -/
def getShortestRepresentationSize (uuid : Uuid) : Nat :=
  if uuid.uu.toList.drop kNumBytes32 ≠ kBase.uu.toList.drop kNumBytes32 then kNumBytes128
  else if uuid.uu[0] = 0 ∧ uuid.uu[1] = 0 then kNumBytes16
  else kNumBytes32

/-- `As16Bit`: octets 2 and 3. -/
def as16Bit (uuid : Uuid) : UInt16 :=
  (uuid.uu[2].toUInt16 <<< 8) + uuid.uu[3].toUInt16

/-- `From16Bit`. -/
def from16Bit (uuid16 : UInt16) : Uuid :=
  ⟨(kBase.uu.set 2 ((uuid16 &&& 0xFF00) >>> 8).toUInt8).set 3 (uuid16 &&& 0x00FF).toUInt8⟩

/-- `From128BitLE`: the sixteen octets at a pointer, least significant first. -/
def from128BitLE (bytes : List UInt8) : Uuid :=
  ⟨(Vector.ofFn fun i : Fin 16 => bytes.getD i.val 0).reverse⟩

/-- `To128BitLE`: the octets, least significant first. -/
def to128BitLE (uuid : Uuid) : Vector UInt8 16 := uuid.uu.reverse

/-- `IsEmpty`. -/
def isEmpty (uuid : Uuid) : Bool := uuid = kEmpty

theorem getShortestRepresentationSize_cases (uuid : Uuid) :
    uuid.getShortestRepresentationSize = kNumBytes16 ∨
      uuid.getShortestRepresentationSize = kNumBytes32 ∨
      uuid.getShortestRepresentationSize = kNumBytes128 := by
  unfold getShortestRepresentationSize
  split
  · exact .inr (.inr rfl)
  · split
    · exact .inl rfl
    · exact .inr (.inl rfl)

@[simp] theorem getShortestRepresentationSize_kEmpty :
    kEmpty.getShortestRepresentationSize = kNumBytes128 := by
  decide

end Uuid

end Bluetooth
