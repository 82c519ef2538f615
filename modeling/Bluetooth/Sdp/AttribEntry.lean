import Bluetooth.Sdp.Server
import Bluetooth.Sdp.Discovery

set_option linter.all false

/-!
# Attribute entries against their length and their header's reading

`sdpu_build_attrib_entry` writes an attribute of the server's database as the attribute id, a
two-octet unsigned integer, followed by its value: a descriptor octet, holding the type in its
high five bits and a size index in its low three, a length field where the size index asks for
one, and the value's octets.  `sdpu_get_attrib_entry_len` counts those octets from the same
case analysis, and on every length up to `SDP_MAX_ATTR_LEN` it counts them right.

A peer reads the descriptor back with `type >> 3` and `sdpu_get_len_from_type`.  The types with
a length field get one octet up to 255 and two beyond, and are read back whole.  A scalar type
whose length is not one of the five sizes an index names gets a one-octet length field whatever
its length, so that above 255 the length is read back modulo 256; and only the low five bits of
the type survive the descriptor (`attrib_entry_len_agrees_but_scalar_length_wraps`).
-/

namespace Bluetooth.Sdp

section Descriptor

variable (type size : UInt8)

/-- The size index of a descriptor is its low three bits. -/
theorem descriptor_and_seven (small : size < 8) : ((type <<< 3) ||| size) &&& 7 = size := by
  apply UInt8.toNat_inj.mp
  have lowBits : size.toNat < 8 := small
  rw [UInt8.toNat_and, UInt8.toNat_or, UInt8.toNat_shiftLeft,
    show (3 : UInt8).toNat % 8 = 3 from rfl, show (7 : UInt8).toNat = 2 ^ 3 - 1 from rfl,
    Nat.and_two_pow_sub_one_eq_mod, Nat.or_mod_two_pow, Nat.shiftLeft_eq]
  have aligned : type.toNat * 2 ^ 3 % 2 ^ 8 % 2 ^ 3 = 0 := by
    simp only [Nat.reducePow]
    omega
  rw [aligned, Nat.zero_or, Nat.mod_eq_of_lt lowBits]

/-- `type >> 3` reads the type back modulo 32. -/
theorem descriptor_shiftRight (small : size < 8) :
    ((type <<< 3) ||| size) >>> 3 = type % 32 := by
  apply UInt8.toNat_inj.mp
  have lowBits : size.toNat < 8 := small
  rw [UInt8.toNat_shiftRight, UInt8.toNat_or, UInt8.toNat_shiftLeft, UInt8.toNat_mod,
    show (3 : UInt8).toNat % 8 = 3 from rfl, Nat.shiftRight_eq_div_pow, Nat.or_div_two_pow,
    Nat.shiftLeft_eq, Nat.div_eq_of_lt (show size.toNat < 2 ^ 3 from lowBits), Nat.or_zero]
  have high := type.toNat_lt
  simp only [Nat.reducePow] at *
  show type.toNat * 8 % 256 / 8 = type.toNat % 32
  omega

/-- `sdpu_get_len_from_type` looks at the size index only. -/
theorem getLenFromType_descriptor (mem : Nat → UInt8) (p pEnd : Nat) (small : size < 8) :
    getLenFromType mem p pEnd ((type <<< 3) ||| size) = getLenFromType mem p pEnd size := by
  have own : size &&& 7 = size := by
    apply UInt8.toNat_inj.mp
    rw [UInt8.toNat_and, show (7 : UInt8).toNat = 2 ^ 3 - 1 from rfl,
      Nat.and_two_pow_sub_one_eq_mod, Nat.mod_eq_of_lt (show size.toNat < 2 ^ 3 from small)]
  unfold getLenFromType
  rw [descriptor_and_seven type size small, own]

end Descriptor

/-- Where a header was written after `front`, what follows it is read as the header's octets. -/
theorem message_append_of_lt (front header back : List UInt8) {i : Nat} (inside : i < header.length) :
    message (front ++ header ++ back) (front.length + i) = header.getD i 0 := by
  simp only [message, List.getD_eq_getElem?_getD, List.append_assoc,
    List.getElem?_append_right (Nat.le_add_right _ _), Nat.add_sub_cancel_left,
    List.getElem?_append_left inside]

/-- The two octets of a length up to `0xFFFF`, read back by `BE_STREAM_TO_UINT16`. -/
theorem toNat_be16_octets (len : Nat) (mem : Nat → UInt8) (p : Nat)
    (high : mem p = (len / 256).toUInt8) (low : mem (p + 1) = len.toUInt8) (fits : len < 0x10000) :
    (be16 mem p).toNat = len := by
  rw [be16, high, low, UInt16.toNat_or, UInt16.toNat_shiftLeft, UInt8.toNat_toUInt16,
    UInt8.toNat_toUInt16, Nat.toUInt8_eq, Nat.toUInt8_eq, UInt8.toNat_ofNat', UInt8.toNat_ofNat',
    show (8 : UInt16).toNat % 16 = 8 from rfl]
  have highPart : (len / 256 % 2 ^ 8) <<< 8 < 2 ^ 16 := by
    rw [Nat.shiftLeft_eq]
    simp only [Nat.reducePow]
    omega
  rw [Nat.mod_eq_of_lt highPart, ← Nat.shiftLeft_add_eq_or_of_lt (Nat.mod_lt _ (by decide)),
    Nat.shiftLeft_eq]
  simp only [Nat.reducePow]
  omega

section SizeIndex

variable (mem : Nat → UInt8) (p pEnd : Nat)

theorem getLenFromType_nextByte (enough : p + 1 ≤ pEnd) :
    (getLenFromType mem p pEnd sizeInNextByte).1 = some (p + 1, (mem p).toNat) := by
  simp only [getLenFromType, show (sizeInNextByte &&& 7).toNat = 5 from rfl]
  rw [if_neg (by omega)]

theorem getLenFromType_nextWord (enough : p + 2 ≤ pEnd) :
    (getLenFromType mem p pEnd sizeInNextWord).1 = some (p + 2, (be16 mem p).toNat) := by
  simp only [getLenFromType, show (sizeInNextWord &&& 7).toNat = 6 from rfl]
  rw [if_neg (by omega)]

/-- The five size indices below `SIZE_IN_NEXT_BYTE` name a length of their own. -/
theorem getLenFromType_fixed (size : UInt8) (small : size < 5) :
    (getLenFromType mem p pEnd size).1 = some (p, 2 ^ size.toNat) := by
  have own : (size &&& 7).toNat = size.toNat := by
    rw [UInt8.toNat_and, show (7 : UInt8).toNat = 2 ^ 3 - 1 from rfl,
      Nat.and_two_pow_sub_one_eq_mod, Nat.mod_eq_of_lt (show size.toNat < 2 ^ 3 by
        have : size.toNat < 5 := small
        omega)]
  have index : size.toNat < 5 := small
  unfold getLenFromType
  rw [own]
  obtain named | named | named | named | named :
      size.toNat = 0 ∨ size.toNat = 1 ∨ size.toNat = 2 ∨ size.toNat = 3 ∨ size.toNat = 4 := by
    omega
  all_goals rw [named]; rfl

end SizeIndex

/-- The header of every value up to `0xFFFF` octets, written anywhere, is read by
`sdpu_get_len_from_type` as ending where it ends, with the value's length for the types with a
length field, and that length modulo 256 for the others. -/
theorem getLenFromType_valueHeader (front back : List UInt8) (attr : SdpAttribute)
    (fits : attr.len < 0x10000) :
    (getLenFromType (message (front ++ valueHeader attr ++ back)) (front.length + 1)
      (front.length + (valueHeader attr).length + back.length)
      ((valueHeader attr).headD 0)).1 =
      some (front.length + (valueHeader attr).length,
        if hasLengthField attr.type then attr.len else attr.len % 256) := by
  -- the header with a one-octet length field, which both kinds of type may get
  have byteHeader : (getLenFromType
      (message (front ++ [(attr.type <<< 3) ||| sizeInNextByte, attr.len.toUInt8] ++ back))
      (front.length + 1) (front.length + 2 + back.length)
      ((attr.type <<< 3) ||| sizeInNextByte)).1 = some (front.length + 2, attr.len % 256) := by
    have low : message (front ++ [(attr.type <<< 3) ||| sizeInNextByte, attr.len.toUInt8] ++ back)
        (front.length + 1) = attr.len.toUInt8 :=
      message_append_of_lt front _ back (show 1 < 2 by decide)
    rw [getLenFromType_descriptor _ _ _ _ _ (by decide), getLenFromType_nextByte _ _ _ (by omega),
      low, Nat.toUInt8_eq, UInt8.toNat_ofNat']
  have fixedHeader : ∀ size : UInt8, size < 5 →
      (getLenFromType (message (front ++ [(attr.type <<< 3) ||| size] ++ back)) (front.length + 1)
        (front.length + 1 + back.length) ((attr.type <<< 3) ||| size)).1 =
        some (front.length + 1, 2 ^ size.toNat) := by
    intro size small
    rw [getLenFromType_descriptor _ _ _ _ _ (UInt8.lt_trans small (by decide)),
      getLenFromType_fixed _ _ _ _ small]
  unfold valueHeader
  by_cases typed : hasLengthField attr.type
  · simp only [if_pos typed]
    by_cases long : attr.len > 0xFF
    · have high : message (front ++ [(attr.type <<< 3) ||| sizeInNextWord, (attr.len / 256).toUInt8,
          attr.len.toUInt8] ++ back) (front.length + 1) = (attr.len / 256).toUInt8 :=
        message_append_of_lt front _ back (show 1 < 3 by decide)
      have low : message (front ++ [(attr.type <<< 3) ||| sizeInNextWord, (attr.len / 256).toUInt8,
          attr.len.toUInt8] ++ back) (front.length + 2) = attr.len.toUInt8 :=
        message_append_of_lt front _ back (show 2 < 3 by decide)
      simp only [if_pos long, List.headD_cons, List.length_cons, List.length_nil]
      rw [getLenFromType_descriptor _ _ _ _ _ (by decide), getLenFromType_nextWord _ _ _ (by omega),
        toNat_be16_octets attr.len _ _ high low fits]
    · simp only [if_neg long, List.headD_cons, List.length_cons, List.length_nil]
      rw [byteHeader, Nat.mod_eq_of_lt (show attr.len < 256 by omega)]
  · simp only [if_neg typed]
    -- the five lengths with a size index of their own, then the one-octet length field
    split_ifs with one two four eight sixteen <;>
      simp only [List.headD_cons, List.length_cons, List.length_nil, Nat.zero_add]
    · rw [fixedHeader sizeOneByte (by decide), one]
      rfl
    · rw [fixedHeader sizeTwoBytes (by decide), two]
      rfl
    · rw [fixedHeader sizeFourBytes (by decide), four]
      rfl
    · rw [fixedHeader sizeEightBytes (by decide), eight]
      rfl
    · rw [fixedHeader sizeSixteenBytes (by decide), sixteen]
      rfl
    · exact byteHeader

/-- Every header starts with the descriptor of the attribute's type and a size index. -/
theorem valueHeader_head (attr : SdpAttribute) :
    ∃ size < 8, ∃ rest, valueHeader attr = ((attr.type <<< 3) ||| size) :: rest := by
  unfold valueHeader
  split_ifs
  all_goals exact ⟨_, by decide, _, rfl⟩

/-- For every attribute of the server's database up to `SDP_MAX_ATTR_LEN` octets,
`sdpu_get_attrib_entry_len` counts the octets `sdpu_build_attrib_entry` writes; read back from the
entry, the descriptor gives the type modulo 32, and `sdpu_get_len_from_type` the length of a type
with a length field, but only the length modulo 256 of a scalar type. -/
theorem attrib_entry_len_agrees_but_scalar_length_wraps (rec : SdpRecord) (attr : SdpAttribute)
    (bounded : attr.len ≤ sdpMaxAttrLen) :
    sdpuGetAttribEntryLen attr = (sdpuBuildAttribEntry rec attr).length ∧
    message (sdpuBuildAttribEntry rec attr) 3 >>> 3 = attr.type % 32 ∧
    (getLenFromType (message (sdpuBuildAttribEntry rec attr)) 4 (sdpuBuildAttribEntry rec attr).length
      (message (sdpuBuildAttribEntry rec attr) 3)).1 =
      some (3 + (valueHeader attr).length,
        if hasLengthField attr.type then attr.len else attr.len % 256) := by
  have fits : attr.len < 0x10000 := by
    unfold sdpMaxAttrLen at bounded
    omega
  obtain ⟨size, small, rest, header⟩ := valueHeader_head attr
  have written : sdpuBuildAttribEntry rec attr =
      [(uintDescType <<< 3) ||| sizeTwoBytes, (attr.id >>> 8).toUInt8, attr.id.toUInt8] ++
        valueHeader attr ++ rec.value attr := rfl
  have descriptor : message (sdpuBuildAttribEntry rec attr) 3 = (valueHeader attr).headD 0 := by
    rw [written, header]
    rfl
  refine ⟨sdpuGetAttribEntryLen_eq rec (by unfold sdpMaxAttrLen sdpMaxPadLen at *; omega),
    ?_, ?_⟩
  · rw [descriptor, header, List.headD_cons, descriptor_shiftRight _ _ small]
  · have decoded := getLenFromType_valueHeader
      [(uintDescType <<< 3) ||| sizeTwoBytes, (attr.id >>> 8).toUInt8, attr.id.toUInt8]
      (rec.value attr) attr fits
    rw [descriptor, written, List.length_append, List.length_append]
    exact decoded

/-- An unsigned integer of 300 octets, with attribute id `0x0100`. -/
def longUint : SdpAttribute := ⟨300, 0, 0x0100, uintDescType⟩

/-- A record holding `longUint` with a zeroed pad. -/
def longUintRecord : SdpRecord := ⟨0, 300, 1, fun _ => longUint, fun _ => 0⟩

theorem attrib_entry_len_agrees_but_scalar_length_wraps_at_long_uint :
    longUint.len ≤ sdpMaxAttrLen ∧
    (getLenFromType (message (sdpuBuildAttribEntry longUintRecord longUint)) 4
      (sdpuBuildAttribEntry longUintRecord longUint).length
      (message (sdpuBuildAttribEntry longUintRecord longUint) 3)).1 = some (5, 44) :=
  ⟨by decide, by
    rw [(attrib_entry_len_agrees_but_scalar_length_wraps longUintRecord longUint (by decide)).2.2]
    rfl⟩

end Bluetooth.Sdp
