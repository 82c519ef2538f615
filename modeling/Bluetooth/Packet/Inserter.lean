import Bluetooth.Lib.LittleEndian

set_option linter.all false

/-!
# Bit and endian inserters

A packet builder writes through an `EndianInserter`, whose `insert(value, it)` hands the octets
of `value` one at a time to a `BitInserter`.  The value's octets are read from memory, least
significant first on the little-endian hosts the stack runs on (`LittleEndian.encode`), and a
big-endian inserter walks them from the other end.  The `BitInserter` keeps the bits of a
partial octet; with none saved, as after every whole-octet insert, `insert_byte` appends its
octet to the vector and saves nothing (`insertByte_aligned`).  So a run of `insert` calls
appends each value's octets in order (`insertFields_aligned`).
-/

namespace Bluetooth.Packet

/-- The index the loops of `insert` and `extract` use for octet `i` of a `width`-octet value:
`i` itself when little-endian, `width - i - 1` when big-endian. -/
def slot (littleEndian : Bool) (width i : Nat) : Nat :=
  if littleEndian then i else width - i - 1

/-- The octets `octets[slot i]`, for `i` from `0`: the order those loops visit them in. -/
def orient (littleEndian : Bool) (octets : List UInt8) : List UInt8 :=
  (List.range octets.length).map fun i => octets.getD (slot littleEndian octets.length i) 0

section Orient

variable (octets : List UInt8)

@[simp] theorem length_orient (littleEndian : Bool) :
    (orient littleEndian octets).length = octets.length := by
  simp [orient]

theorem orient_true : orient true octets = octets := by
  apply List.ext_getElem (by simp)
  intro i _ inside
  simp [orient, slot, List.getD_eq_getElem?_getD, List.getElem?_eq_getElem inside]

theorem orient_false : orient false octets = octets.reverse := by
  apply List.ext_getElem (by simp)
  intro i _ inside
  rw [List.length_reverse] at inside
  have mirrored : octets.length - i - 1 < octets.length := by omega
  simp [orient, slot, List.getD_eq_getElem?_getD, List.getElem?_eq_getElem mirrored,
    List.getElem_reverse]
  congr 1
  omega

/-- Visiting the octets in loop order twice gives them back. -/
@[simp] theorem orient_orient (littleEndian : Bool) :
    orient littleEndian (orient littleEndian octets) = octets := by
  cases littleEndian
  · rw [orient_false, orient_false, List.reverse_reverse]
  · rw [orient_true, orient_true]

end Orient

/-- `packet::BitInserter`: the vector written so far, and the bits of a partial octet. -/
structure BitInserter where
  output : List UInt8
  numSavedBits : Nat
  savedBits : UInt8
  deriving DecidableEq, Repr

namespace BitInserter

/-- `BitInserter(vector)`: no bits saved. -/
def ofVector (vector : List UInt8) : BitInserter := ⟨vector, 0, 0⟩

/-- `insert_bits(byte, num_bits)`, with C++'s promotions: `new_value` is a `uint16_t` and the
mask is `0xff` shifted as an `int`.  A full octet goes to `ByteInserter::insert_byte`, whose
observers are not modelled. -/
def insertBits (it : BitInserter) (byte : UInt8) (numBits : Nat) : BitInserter :=
  let totalBits := numBits + it.numSavedBits
  let newValue := (it.savedBits.toNat ||| byte.toNat <<< it.numSavedBits) % 2 ^ 16
  let (output, totalBits, newValue) :=
    if totalBits ≥ 8 then (it.output ++ [UInt8.ofNat newValue], totalBits - 8, newValue >>> 8)
    else (it.output, totalBits, newValue)
  let mask := UInt8.ofNat (0xff >>> (8 - totalBits))
  ⟨output, totalBits, UInt8.ofNat newValue &&& mask⟩

/-- `insert_byte(byte)`. -/
def insertByte (it : BitInserter) (byte : UInt8) : BitInserter := it.insertBits byte 8

/-- With no bits saved, `insert_byte` appends its octet and still saves none. -/
theorem insertByte_aligned (output : List UInt8) (byte : UInt8) :
    insertByte ⟨output, 0, 0⟩ byte = ⟨output ++ [byte], 0, 0⟩ := by
  have small : byte.toNat % 2 ^ 16 = byte.toNat :=
    Nat.mod_eq_of_lt (Nat.lt_of_lt_of_le byte.toNat_lt (by decide))
  have shifted : byte.toNat >>> 8 = 0 := by
    rw [Nat.shiftRight_eq_div_pow]
    exact Nat.div_eq_of_lt byte.toNat_lt
  simp [insertByte, insertBits, small, shifted]

theorem foldl_insertByte_aligned (bytes output : List UInt8) :
    bytes.foldl insertByte ⟨output, 0, 0⟩ = ⟨output ++ bytes, 0, 0⟩ := by
  induction bytes generalizing output with
  | nil => simp
  | cons byte rest induction =>
    rw [List.foldl_cons, insertByte_aligned, induction, List.append_assoc, List.singleton_append]

end BitInserter

namespace EndianInserter

/-- `EndianInserter<little_endian>::insert(value, it)` for a `width`-octet unsigned `value`:
`raw_bytes[slot i]` for `i` from `0`, each through `insert_byte`. -/
def insert (littleEndian : Bool) (width value : Nat) (it : BitInserter) : BitInserter :=
  (orient littleEndian (LittleEndian.encode width value)).foldl BitInserter.insertByte it

end EndianInserter

/-- A value of an unsigned type of `width` octets, with the endianness it is written in. -/
structure Field where
  littleEndian : Bool
  width : Nat
  value : Nat
  fits : value < 256 ^ width

namespace Field

/-- The octets `insert` writes for the field. -/
def octets (field : Field) : List UInt8 :=
  orient field.littleEndian (LittleEndian.encode field.width field.value)

@[simp] theorem length_octets (field : Field) : field.octets.length = field.width := by
  simp [octets]

end Field

/-- A builder's run of `insert` calls, one per field in order. -/
def insertFields (fields : List Field) (it : BitInserter) : BitInserter :=
  fields.foldl (fun it field =>
    EndianInserter.insert field.littleEndian field.width field.value it) it

/-- From a fresh inserter, a run of `insert` calls appends every field's octets in order and
leaves no bits saved, as `~BitInserter` asserts. -/
theorem insertFields_aligned (fields : List Field) (output : List UInt8) :
    insertFields fields ⟨output, 0, 0⟩ = ⟨output ++ fields.flatMap Field.octets, 0, 0⟩ := by
  induction fields generalizing output with
  | nil => simp [insertFields]
  | cons field rest induction =>
    have first : EndianInserter.insert field.littleEndian field.width field.value ⟨output, 0, 0⟩ =
        ⟨output ++ field.octets, 0, 0⟩ := BitInserter.foldl_insertByte_aligned _ _
    rw [insertFields, List.foldl_cons, first, ← insertFields, induction, List.flatMap_cons,
      List.append_assoc]

end Bluetooth.Packet
