import Bluetooth.Sdp.Server

set_option linter.all false

/-!
# Attribute id sequences

`sdpu_build_attrib_seq` (stack/sdp/sdp_utils.cc) writes the attribute list of a request as a
data element sequence: a header whose length field takes one octet up to 255 octets of content
and two beyond, then each id as a two-octet unsigned integer, or, for a null list, the range
`0x0000-0xFFFF` as one four-octet unsigned integer.  `sdpu_extract_attr_seq` reads such a
sequence back into a `tSDP_ATTR_SEQ`.

Wherever the sequence stands in the buffer, a list of fewer than `MAX_ATTR_PER_SEQ` ids is read
back as ranges of one id each, and the null list as the whole range
(`sdpuExtractAttrSeq_sdpuBuildAttribSeq`, `sdpuExtractAttrSeq_wildcard`).  On every input,
`sdpu_extract_attr_seq` reads nothing past `p + param_len` (`sdpuExtractAttrSeq_within`).
-/

namespace Bluetooth.Sdp

open ByteStream

/-- One attribute id as `sdpu_build_attrib_seq` writes it. -/
def attribIdOctets (attr : UInt16) : List UInt8 :=
  [(uintDescType <<< 3) ||| sizeTwoBytes, (attr >>> 8).toUInt8, attr.toUInt8]

/-- The descriptor of a two-octet unsigned integer is `0x09`. -/
theorem attribIdOctets_eq (attr : UInt16) :
    attribIdOctets attr = [(0x09 : UInt8), (attr >>> 8).toUInt8, attr.toUInt8] := rfl

/-- `sdpu_build_attrib_seq(p_out, p_attr, num_attrs)`, with `p_attr` null (`none`) or pointing at
`num_attrs` ids: the octets it writes.  The length `xx` is a `uint16_t`. -/
def sdpuBuildAttribSeq (pAttr : Option (List UInt16)) : List UInt8 :=
  let xx := match pAttr with
    | none => 5
    | some attrs => attrs.length * 3 % 65536
  let header :=
    if xx > 255 then
      [(dataEleSeqDescType <<< 3) ||| sizeInNextWord, (xx / 256).toUInt8, xx.toUInt8]
    else [(dataEleSeqDescType <<< 3) ||| sizeInNextByte, xx.toUInt8]
  header ++ match pAttr with
    -- "If no attributes, assume a 4-byte wildcard"
    | none => [(uintDescType <<< 3) ||| sizeFourBytes, 0, 0, 0xFF, 0xFF]
    | some attrs => attrs.flatMap attribIdOctets

/-- The equation of the loop of `sdpu_extract_attr_seq` that Lean does not derive from its
definition: the recursion is on the room left, which its last `match` reads with the entry. -/
theorem extractAttrEntries_eq (bytes : List UInt8) (listEnd room p : Nat) (entries : List AttrEntry) :
    extractAttrEntries bytes listEnd room p entries =
      (if listEnd ≤ p then pure (some (p, entries))
      else do
        let descr ← u8 bytes p
        if descr >>> 3 ≠ uintDescType then pure none
        else
          match ← attrLenOfSize bytes listEnd (p + 1) (descr &&& 7) with
          | none => pure none
          | some (p, attrLen) =>
            if p + attrLen > listEnd then pure none
            else do
              let entry ← if attrLen = 2 then do
                  let start ← ByteStream.be16 bytes p
                  pure (some (AttrEntry.mk start start))
                else if attrLen = 4 then do
                  let start ← ByteStream.be16 bytes p
                  let stop ← ByteStream.be16 bytes (p + 2)
                  pure (some (AttrEntry.mk start stop))
                else pure none
              match entry, room with
              | none, _ => pure none
              | some _, 0 => pure none
              | some entry, room + 1 =>
                extractAttrEntries bytes listEnd room (p + attrLen) (entries ++ [entry])) := by
  cases room <;> (delta extractAttrEntries; rfl)

/-! ## Reading a built sequence back -/

section RoundTrip

variable (back : List UInt8)

theorem attrLenOfSize_sizeTwoBytes (bytes : List UInt8) (listEnd p : Nat) :
    attrLenOfSize bytes listEnd p sizeTwoBytes = .ok (some (p, 2)) := rfl

theorem attrLenOfSize_sizeFourBytes (bytes : List UInt8) (listEnd p : Nat) :
    attrLenOfSize bytes listEnd p sizeFourBytes = .ok (some (p, 4)) := rfl

/-- The loop of `sdpu_extract_attr_seq` over ids written by `sdpu_build_attrib_seq`, after any
`front`: one range per id, and it stops at the end of the list. -/
theorem extractAttrEntries_attribIdOctets (ids : List UInt16) :
    ∀ (front : List UInt8) (room : Nat), ids.length ≤ room → ∀ entries : List AttrEntry,
      extractAttrEntries (front ++ ids.flatMap attribIdOctets ++ back)
          (front.length + 3 * ids.length) room front.length entries =
        .ok (some (front.length + 3 * ids.length, entries ++ ids.map fun id => ⟨id, id⟩)) := by
  induction ids with
  | nil =>
    intro front room _ entries
    rw [extractAttrEntries_eq, if_pos (by simp)]
    simp [pure, Except.pure]
  | cons id ids induction =>
    intro front room fits entries
    obtain ⟨room, rfl⟩ : ∃ rest, room = rest + 1 := ⟨room - 1, by simp at fits; omega⟩
    -- the entry's three octets, then the ids after it
    have spelled : front ++ (id :: ids).flatMap attribIdOctets ++ back =
        front ++ (0x09 : UInt8) :: (id >>> 8).toUInt8 :: id.toUInt8 :: (ids.flatMap attribIdOctets ++ back) := by
      simp [attribIdOctets_eq]
    have after : (front ++ attribIdOctets id).length = front.length + 3 := by simp [attribIdOctets_eq]
    have rest := induction (front ++ attribIdOctets id) room (by simp at fits; omega)
      (entries ++ [⟨id, id⟩])
    rw [after, List.append_assoc] at rest
    have idRead : ByteStream.be16 (front ++ (0x09 : UInt8) :: (id >>> 8).toUInt8 :: id.toUInt8 ::
        (ids.flatMap attribIdOctets ++ back)) (front.length + 1) = .ok id := by
      have moved := be16_append (front ++ [(0x09 : UInt8)]) id (ids.flatMap attribIdOctets ++ back)
      simpa using moved
    rw [extractAttrEntries_eq, if_neg (by simp), spelled, u8_append, ok_bind,
      if_neg (by decide), show (0x09 : UInt8) &&& 7 = sizeTwoBytes by decide,
      attrLenOfSize_sizeTwoBytes, ok_bind]
    simp only [List.length_cons] at rest ⊢
    rw [if_neg (by omega), if_pos trivial, idRead]
    simp only [attribIdOctets_eq, List.cons_append, List.nil_append, List.append_assoc] at rest
    simp only [ok_bind, pure, Except.pure]
    rw [show front.length + 1 + 2 = front.length + 3 by omega,
      show front.length + 3 * (ids.length + 1) = front.length + 3 + 3 * ids.length by omega]
    rw [rest]
    simp

theorem length_flatMap_attribIdOctets (ids : List UInt16) :
    (ids.flatMap attribIdOctets).length = 3 * ids.length := by
  induction ids with
  | nil => rfl
  | cons id ids induction =>
    rw [List.flatMap_cons, List.length_append, induction, attribIdOctets_eq, List.length_cons]
    simp only [List.length_cons, List.length_nil]
    omega

/-- Fewer than `MAX_ATTR_PER_SEQ` ids take a one-octet length field. -/
theorem sdpuBuildAttribSeq_some {ids : List UInt16} (few : ids.length < maxAttrPerSeq) :
    sdpuBuildAttribSeq (some ids) =
      (0x35 : UInt8) :: (3 * ids.length).toUInt8 :: ids.flatMap attribIdOctets := by
  have short : ids.length * 3 % 65536 = 3 * ids.length := by
    simp only [maxAttrPerSeq] at few
    omega
  have header : ¬3 * ids.length > 255 := by
    simp only [maxAttrPerSeq] at few
    omega
  simp only [sdpuBuildAttribSeq, short, if_neg header]
  rfl

/-- A sequence header with a one-octet length field, with `param_len` covering the list: the
loop reads the list that follows it, with room for `MAX_ATTR_PER_SEQ - 1` entries. -/
theorem sdpuExtractAttrSeq_byteHeader (front : List UInt8) (len : UInt8) (rest : List UInt8)
    {paramLen : Nat} (enough : 2 + len.toNat ≤ paramLen) :
    sdpuExtractAttrSeq (front ++ (0x35 : UInt8) :: len :: rest) front.length paramLen =
      extractAttrEntries (front ++ (0x35 : UInt8) :: len :: rest) (front.length + 2 + len.toNat)
        (maxAttrPerSeq - 1) (front.length + 2) [] := by
  have lengthRead : u8 (front ++ (0x35 : UInt8) :: len :: rest) (front.length + 1) = .ok len := by
    simpa using u8_append (front ++ [(0x35 : UInt8)]) len rest
  unfold sdpuExtractAttrSeq
  rw [if_neg (by omega), u8_append, ok_bind, if_neg (by decide),
    show (0x35 : UInt8) &&& 7 = sizeInNextByte by decide]
  dsimp only
  rw [if_pos rfl, if_neg (by omega), lengthRead]
  simp only [ok_bind, pure_eq_ok]
  rw [if_neg (by omega)]

/-- A list of fewer than `MAX_ATTR_PER_SEQ` ids written by `sdpu_build_attrib_seq` anywhere in a
buffer is read back by `sdpu_extract_attr_seq` with any `param_len` that covers it: one range per
id, and a pointer just past the sequence. -/
theorem sdpuExtractAttrSeq_sdpuBuildAttribSeq (front : List UInt8) {ids : List UInt16}
    (few : ids.length < maxAttrPerSeq) {paramLen : Nat}
    (enough : (sdpuBuildAttribSeq (some ids)).length ≤ paramLen) :
    sdpuExtractAttrSeq (front ++ sdpuBuildAttribSeq (some ids) ++ back) front.length paramLen =
      .ok (some (front.length + (sdpuBuildAttribSeq (some ids)).length, ids.map fun id => ⟨id, id⟩)) := by
  have fits : 3 * ids.length < 256 := by
    simp only [maxAttrPerSeq] at few
    omega
  have counted : (3 * ids.length).toUInt8.toNat = 3 * ids.length := by
    rw [Nat.toUInt8, UInt8.toNat_ofNat', Nat.mod_eq_of_lt fits]
  rw [sdpuBuildAttribSeq_some few] at enough ⊢
  simp only [List.length_cons, length_flatMap_attribIdOctets] at enough ⊢
  -- the list after the descriptor and its length field
  have entries := extractAttrEntries_attribIdOctets back ids
    (front ++ [(0x35 : UInt8), (3 * ids.length).toUInt8]) (maxAttrPerSeq - 1)
    (by simp only [maxAttrPerSeq] at few ⊢; omega) []
  simp only [List.length_append, List.length_cons, List.length_nil, List.append_assoc,
    List.cons_append, List.nil_append, Nat.zero_add] at entries
  simp only [List.cons_append, List.append_assoc]
  rw [sdpuExtractAttrSeq_byteHeader _ _ _ (by omega), counted,
    show front.length + (3 * ids.length + 1 + 1) = front.length + 2 + 3 * ids.length by omega]
  exact entries

/-- The entry of the null list: one four-octet unsigned integer holding the range
`0x0000-0xFFFF`. -/
theorem extractAttrEntries_wildcard (front : List UInt8) (room : Nat) :
    extractAttrEntries (front ++ ([0x35, 0x05, 0x0A, 0x00, 0x00, 0xFF, 0xFF] ++ back))
        (front.length + 7) (room + 1) (front.length + 2) [] =
      .ok (some (front.length + 7, [⟨0, 0xFFFF⟩])) := by
  rw [extractAttrEntries_eq, if_neg (by omega), u8_append_add _ _ (by simp)]
  simp only [List.cons_append, List.getElem_cons_succ, List.getElem_cons_zero, ok_bind]
  rw [if_neg (by decide), show (0x0A : UInt8) &&& 7 = sizeFourBytes by decide,
    attrLenOfSize_sizeFourBytes, ok_bind]
  simp only [List.nil_append]
  rw [if_neg (by omega), if_neg (by decide), if_pos trivial, show front.length + 2 + 1 = front.length + 3 by omega,
    be16_append_add _ _ (by simp), show front.length + 3 + 2 = front.length + 5 by omega,
    be16_append_add _ _ (by simp)]
  simp only [List.getElem_cons_succ, List.getElem_cons_zero, ok_bind, pure_eq_ok]
  rw [extractAttrEntries_eq, if_pos (by omega)]
  rfl

/-- The null list is written as the range `0x0000-0xFFFF`, and read back as it. -/
theorem sdpuExtractAttrSeq_wildcard (front : List UInt8) {paramLen : Nat}
    (enough : (sdpuBuildAttribSeq none).length ≤ paramLen) :
    sdpuExtractAttrSeq (front ++ sdpuBuildAttribSeq none ++ back) front.length paramLen =
      .ok (some (front.length + (sdpuBuildAttribSeq none).length, [⟨0, 0xFFFF⟩])) := by
  have built : sdpuBuildAttribSeq none = [0x35, 0x05, 0x0A, 0x00, 0x00, 0xFF, 0xFF] := rfl
  rw [built] at enough ⊢
  simp only [List.length_cons, List.length_nil] at enough
  rw [List.append_assoc, List.cons_append, List.cons_append,
    sdpuExtractAttrSeq_byteHeader _ _ _ (by simp; omega)]
  exact extractAttrEntries_wildcard back front (maxAttrPerSeq - 2)

end RoundTrip

/-! ## Reading nothing past `param_len` -/

section Bounds

/-- The length field of an entry is read only when it ends inside the list. -/
theorem attrLenOfSize_ok {bytes : List UInt8} {listEnd : Nat} (bounded : listEnd ≤ bytes.length)
    (p : Nat) (size : UInt8) : ∃ result, attrLenOfSize bytes listEnd p size = .ok result := by
  unfold attrLenOfSize
  refine exists_ok_ite (fun _ => ⟨_, rfl⟩) fun _ => exists_ok_ite (fun _ => ⟨_, rfl⟩) fun _ => ?_
  refine exists_ok_ite (fun _ => exists_ok_ite (fun _ => ⟨_, rfl⟩) fun inside => ?_) fun _ => ?_
  · exact exists_ok_bind ⟨_, u8_of_lt (by omega)⟩ fun _ => ⟨_, rfl⟩
  refine exists_ok_ite (fun _ => exists_ok_ite (fun _ => ⟨_, rfl⟩) fun inside => ?_) fun _ => ?_
  · exact exists_ok_bind ⟨_, be16_of_le (by omega)⟩ fun _ => ⟨_, rfl⟩
  refine exists_ok_ite (fun _ => exists_ok_ite (fun _ => ⟨_, rfl⟩) fun inside => ?_) fun _ => ⟨_, rfl⟩
  exact exists_ok_bind ⟨_, be32_of_le (by omega)⟩ fun _ => ⟨_, rfl⟩

/-- Every turn of the loop reads inside the list, so the loop succeeds on a list that lies in the
buffer. -/
theorem extractAttrEntries_ok {bytes : List UInt8} {listEnd : Nat} (bounded : listEnd ≤ bytes.length)
    (room : Nat) : ∀ p entries, ∃ result, extractAttrEntries bytes listEnd room p entries = .ok result := by
  induction room using Nat.strongRecOn with
  | ind room induction =>
  intro p entries
  rw [extractAttrEntries_eq]
  refine exists_ok_ite (fun _ => ⟨_, rfl⟩) fun inside => ?_
  refine exists_ok_bind ⟨_, u8_of_lt (by omega)⟩ fun descr => ?_
  refine exists_ok_ite (fun _ => ⟨_, rfl⟩) fun _ => ?_
  refine exists_ok_bind (attrLenOfSize_ok bounded _ _) fun
    | none => ⟨_, rfl⟩
    | some (q, attrLen) => ?_
  refine exists_ok_ite (fun _ => ⟨_, rfl⟩) fun fits => ?_
  dsimp only
  -- an entry read goes on to the next turn, unless it takes the last room there is
  have next : ∀ entry : AttrEntry, ∃ result, (match (some entry : Option AttrEntry), room with
      | none, _ => pure none
      | some _, 0 => pure none
      | some entry, room + 1 =>
        extractAttrEntries bytes listEnd room (q + attrLen) (entries ++ [entry])) = Except.ok result := by
    intro entry
    cases room with
    | zero => exact ⟨_, rfl⟩
    | succ room => exact induction room (by omega) _ _
  split_ifs with two four
  · exact exists_ok_bind ⟨_, be16_of_le (by omega)⟩ fun start => next _
  · refine exists_ok_bind ⟨_, be16_of_le (by omega)⟩ fun start => ?_
    exact exists_ok_bind ⟨_, be16_of_le (by omega)⟩ fun stop => next _
  · exact ⟨_, rfl⟩

/-- On a buffer that ends at `p + param_len`, whatever it holds, `sdpu_extract_attr_seq` reads
nothing outside it. -/
theorem sdpuExtractAttrSeq_within (bytes : List UInt8) (p paramLen : Nat)
    (ends : bytes.length = p + paramLen) :
    ∃ result, sdpuExtractAttrSeq bytes p paramLen = .ok result := by
  unfold sdpuExtractAttrSeq
  refine exists_ok_ite (fun _ => ⟨_, rfl⟩) fun nonempty => ?_
  refine exists_ok_bind ⟨_, u8_of_lt (by omega)⟩ fun descr => ?_
  refine exists_ok_ite (fun _ => ⟨_, rfl⟩) fun _ => ?_
  dsimp only
  -- a length field that ends inside `param_len` leaves the whole list inside the buffer
  have rest : ∀ q listLen, p + 1 ≤ q → q - (p + 1) ≤ paramLen - 1 → ∃ result,
      (if listLen > paramLen - 1 - (q - (p + 1)) then pure none
        else extractAttrEntries bytes (q + listLen) (maxAttrPerSeq - 1) q []) = Except.ok result :=
    fun q listLen after within =>
      exists_ok_ite (fun _ => ⟨_, rfl⟩) fun fits => extractAttrEntries_ok (by omega) _ _ _
  split_ifs with byte short word short long short
  · exact ⟨_, rfl⟩
  · rw [u8_of_lt (by omega)]
    exact rest (p + 2) _ (by omega) (by omega)
  · exact ⟨_, rfl⟩
  · rw [be16_of_le (by omega)]
    exact rest (p + 3) _ (by omega) (by omega)
  · exact ⟨_, rfl⟩
  · rw [be32_of_le (by omega)]
    exact rest (p + 5) _ (by omega) (by omega)
  · exact ⟨_, rfl⟩

end Bounds

/-- `sdpu_extract_attr_seq` undoes `sdpu_build_attrib_seq` on every list of fewer than
`MAX_ATTR_PER_SEQ` ids and on the null list, wherever the sequence stands and whatever follows
it, and on any input reads nothing past `p + param_len`. -/
theorem sdpu_attrib_seq_round_trip :
    (∀ (front back : List UInt8) (ids : List UInt16) (paramLen : Nat), ids.length < maxAttrPerSeq →
      (sdpuBuildAttribSeq (some ids)).length ≤ paramLen →
      sdpuExtractAttrSeq (front ++ sdpuBuildAttribSeq (some ids) ++ back) front.length paramLen =
        .ok (some (front.length + (sdpuBuildAttribSeq (some ids)).length,
          ids.map fun id => ⟨id, id⟩))) ∧
    (∀ (front back : List UInt8) (paramLen : Nat), (sdpuBuildAttribSeq none).length ≤ paramLen →
      sdpuExtractAttrSeq (front ++ sdpuBuildAttribSeq none ++ back) front.length paramLen =
        .ok (some (front.length + (sdpuBuildAttribSeq none).length, [⟨0, 0xFFFF⟩]))) ∧
    (∀ (bytes : List UInt8) (p paramLen : Nat), bytes.length = p + paramLen →
      ∃ result, sdpuExtractAttrSeq bytes p paramLen = .ok result) :=
  ⟨fun front back _ _ few enough => sdpuExtractAttrSeq_sdpuBuildAttribSeq back front few enough,
    fun front back _ enough => sdpuExtractAttrSeq_wildcard back front enough,
    sdpuExtractAttrSeq_within⟩

/-- Two ids, the null list, and a buffer holding only a sequence header. -/
theorem sdpu_attrib_seq_round_trip_at_two :
    ([1, 0x100] : List UInt16).length < maxAttrPerSeq ∧
      (sdpuBuildAttribSeq (some [1, 0x100])).length ≤ 8 ∧
      sdpuExtractAttrSeq ([] ++ sdpuBuildAttribSeq (some [1, 0x100]) ++ []) ([] : List UInt8).length 8 =
        .ok (some (([] : List UInt8).length + (sdpuBuildAttribSeq (some [1, 0x100])).length,
          ([1, 0x100] : List UInt16).map fun id => ⟨id, id⟩)) ∧
    (sdpuBuildAttribSeq none).length ≤ 7 ∧
      sdpuExtractAttrSeq ([] ++ sdpuBuildAttribSeq none ++ []) ([] : List UInt8).length 7 =
        .ok (some (([] : List UInt8).length + (sdpuBuildAttribSeq none).length, [⟨0, 0xFFFF⟩])) ∧
    ([0x35, 0x05] : List UInt8).length = 0 + 2 ∧
      ∃ result, sdpuExtractAttrSeq [0x35, 0x05] 0 2 = .ok result :=
  ⟨by decide, by decide, sdpu_attrib_seq_round_trip.1 [] [] [1, 0x100] 8 (by decide) (by decide),
    by decide, sdpu_attrib_seq_round_trip.2.1 [] [] 7 (by decide),
    rfl, sdpu_attrib_seq_round_trip.2.2 [0x35, 0x05] 0 2 rfl⟩

end Bluetooth.Sdp
