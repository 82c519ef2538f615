import Mathlib

set_option linter.all false

/-!
# The attribute table of an SDP server record

A record of the SDP server database keeps its attributes sorted by id in a table of
`SDP_MAX_REC_ATTR` slots, of which the first `num_attributes` are in use, and their values in its
`attr_pad`.  `SDP_AddAttribute` appends a value at `free_pad_ptr`; `SDP_DeleteAttribute` moves
the bytes behind a deleted value down over it and rebases every value pointer behind the hole.

`SDP_AddAttribute` looks for the slot of the new id, deletes an attribute of the same id, and
shifts the table up to open the slot, all before it knows whether the value fits in the pad.  A
value that does not fit (and is not a text string, which is truncated instead) is refused after
that: the call clears the slot and returns `false` with `num_attributes` as it was.  The slot that
was cleared stays in the table with id 0, and the attribute that was last in the table is moved
out of its range (`addAttribute_refusal_shifts_table`).
-/

namespace Bluetooth.Sdp

/-- `SDP_MAX_REC_ATTR` of `bt_target.h`. -/
def sdpMaxRecAttr : Nat := 25

/-- `SDP_MAX_PAD_LEN` of `bt_target.h`. -/
def sdpMaxPadLen : Nat := 600

/-- `UINT_DESC_TYPE`. -/
def uintDescType : UInt8 := 1

/-- `DATA_ELE_SEQ_DESC_TYPE`. -/
def dataEleSeqDescType : UInt8 := 6

/-- `TEXT_STR_DESC_TYPE`, the one type whose value is truncated to fit the pad. -/
def textStrDescType : UInt8 := 4

/-- The `uint32_t` the code keeps of an integer. -/
def wrap32 (value : Int) : Nat := (value % 2 ^ 32).toNat

theorem wrap32_of_lt {value : Nat} (small : value < 2 ^ 32) : wrap32 value = value := by
  unfold wrap32
  omega

/-- `tSDP_ATTRIBUTE`.  `valuePtr` is the offset of the value in the record's `attr_pad`; the null
pointer of a slot that never held a value is offset 0, which none of the code's comparisons tells
apart from it. -/
structure SdpAttribute where
  len : Nat
  valuePtr : Nat
  id : UInt16
  type : UInt8
deriving DecidableEq, Repr

/-- `tSDP_RECORD`.  `attributes` is its array `attribute`, with a slot for every index; the code
uses the first `SDP_MAX_REC_ATTR`. -/
structure SdpRecord where
  recordHandle : UInt32
  freePadPtr : Nat
  numAttributes : Nat
  attributes : Nat → SdpAttribute
  attrPad : Nat → UInt8

namespace SdpRecord

/-- The record `SDP_CreateRecord` clears with `memset` before it adds the handle attribute. -/
def cleared (handle : UInt32) : SdpRecord :=
  ⟨handle, 0, 0, fun _ => ⟨0, 0, 0, 0⟩, fun _ => 0⟩

/-- The octets of an attribute's value: `len` octets of the pad from `value_ptr`. -/
def value (rec : SdpRecord) (attr : SdpAttribute) : List UInt8 :=
  (List.range attr.len).map fun i => rec.attrPad (attr.valuePtr + i)

/-- The slot the search loop of `SDP_AddAttribute` stops at: the first attribute whose id is
`attr_id` or above it, or `num_attributes` when there is none. -/
def slotOf (rec : SdpRecord) (attrId : UInt16) : Nat :=
  ((List.range rec.numAttributes).find? fun xx =>
    (rec.attributes xx).id == attrId || attrId < (rec.attributes xx).id).getD rec.numAttributes

/-- The index at which `SDP_DeleteAttribute` finds `attr_id`. -/
def indexOf? (rec : SdpRecord) (attrId : UInt16) : Option Nat :=
  (List.range rec.numAttributes).find? fun i => (rec.attributes i).id == attrId

/-- The body of `SDP_DeleteAttribute` once it has found the attribute at `index`.  Each of its
three loops copies from slots or octets it has not written yet, so each is the map it computes. -/
def deleteAt (rec : SdpRecord) (index : Nat) : SdpRecord :=
  let padPtr := (rec.attributes index).valuePtr
  let len := (rec.attributes index).len
  let rebased : Nat → SdpAttribute := fun zz =>
    if len ≠ 0 ∧ zz < rec.numAttributes ∧ padPtr < (rec.attributes zz).valuePtr then
      { rec.attributes zz with valuePtr := (rec.attributes zz).valuePtr - len }
    else rec.attributes zz
  let num := rec.numAttributes - 1
  -- `last_attribute_to_adjust` is a `uint16_t`
  let lastToAdjust := (((rec.freePadPtr : Int) - (padPtr + len)) % 65536).toNat
  { rec with
    numAttributes := num
    attributes := fun zz => if index ≤ zz ∧ zz < num then rebased (zz + 1) else rebased zz
    attrPad := fun i =>
      if len ≠ 0 ∧ padPtr ≤ i ∧ i < padPtr + lastToAdjust then rec.attrPad (i + len)
      else rec.attrPad i
    freePadPtr := if len ≠ 0 then wrap32 ((rec.freePadPtr : Int) - len) else rec.freePadPtr }

/-- `SDP_DeleteAttribute` on the record of the handle: `none` when the id is not there. -/
def deleteAttribute (rec : SdpRecord) (attrId : UInt16) : Option SdpRecord :=
  (rec.indexOf? attrId).map rec.deleteAt

/-- The loop `for (yy = num_attributes; yy > xx; yy--)` of `SDP_AddAttribute`, which moves the
slots from `xx` up by one, reading each slot before it is written. -/
def shiftUp (table : Nat → SdpAttribute) (xx num : Nat) : Nat → SdpAttribute :=
  fun yy => if xx < yy ∧ yy ≤ num then table (yy - 1) else table yy

/-- `memcpy(&attr_pad[start], p_val, len)`. -/
def copyValue (pad : Nat → UInt8) (start len : Nat) (val : List UInt8) : Nat → UInt8 :=
  fun i => if start ≤ i ∧ i < start + len then val.getD (i - start) 0 else pad i

/-- The body of `SDP_AddAttribute` on the record of the handle; `pVal` is `none` for a null
`p_val`.  The second component is the result of the call. -/
def addAttribute (rec : SdpRecord) (attrId : UInt16) (attrType : UInt8) (attrLen : Nat)
    (pVal : Option (List UInt8)) : SdpRecord × Bool :=
  match pVal with
  | none => (rec, false)
  | some val =>
    if sdpMaxPadLen ≤ rec.freePadPtr then (rec, false) else
    let xx := rec.slotOf attrId
    let kept :=
      if xx < rec.numAttributes ∧ (rec.attributes xx).id = attrId then rec.deleteAt xx else rec
    if kept.numAttributes = sdpMaxRecAttr then (kept, false) else
    let table :=
      if xx = kept.numAttributes then kept.attributes
      else shiftUp kept.attributes xx kept.numAttributes
    let entry : SdpAttribute := { table xx with len := attrLen, id := attrId, type := attrType }
    let fits := wrap32 (kept.freePadPtr + attrLen) < sdpMaxPadLen
    let stored :=
      if fits then attrLen
      else if attrType = textStrDescType then sdpMaxPadLen - kept.freePadPtr else 0
    -- the truncation writes the terminating zero into the caller's buffer
    let val :=
      if ¬fits ∧ attrType = textStrDescType then val.set (sdpMaxPadLen - kept.freePadPtr - 1) 0
      else val
    if stored ≠ 0 then
      ({ kept with
        attributes :=
          Function.update table xx { entry with len := stored, valuePtr := kept.freePadPtr }
        attrPad := copyValue kept.attrPad kept.freePadPtr stored val
        freePadPtr := wrap32 (kept.freePadPtr + stored)
        numAttributes := kept.numAttributes + 1 }, true)
    else if entry.len ≠ 0 then
      ({ kept with
        attributes := Function.update table xx { entry with len := 0, id := 0, type := 0 } }, false)
    else
      ({ kept with
        attributes := Function.update table xx entry
        numAttributes := kept.numAttributes + 1 }, true)

/-- The record `SDP_CreateRecord` returns: the cleared record with the handle attribute, whose
value is the handle in big-endian order. -/
def created (handle : UInt32) : SdpRecord :=
  ((cleared handle).addAttribute 0 uintDescType 4
    (some [(handle >>> 24).toUInt8, (handle >>> 16).toUInt8, (handle >>> 8).toUInt8,
      handle.toUInt8])).1

/-- The record invariant: at most `SDP_MAX_REC_ATTR` attributes with strictly increasing ids,
whose values of non-zero length are disjoint ranges of `attr_pad[0, free_pad_ptr)` with lengths
adding up to `free_pad_ptr`. -/
def WellFormed (rec : SdpRecord) : Prop :=
  rec.numAttributes ≤ sdpMaxRecAttr ∧ rec.freePadPtr ≤ sdpMaxPadLen ∧
  (∀ j < rec.numAttributes, ∀ i < j, (rec.attributes i).id < (rec.attributes j).id) ∧
  (∀ i < rec.numAttributes, (rec.attributes i).len ≠ 0 →
    (rec.attributes i).valuePtr + (rec.attributes i).len ≤ rec.freePadPtr) ∧
  (∀ j < rec.numAttributes, ∀ i < j, (rec.attributes i).len ≠ 0 → (rec.attributes j).len ≠ 0 →
    (rec.attributes i).valuePtr + (rec.attributes i).len ≤ (rec.attributes j).valuePtr ∨
      (rec.attributes j).valuePtr + (rec.attributes j).len ≤ (rec.attributes i).valuePtr) ∧
  ((List.range rec.numAttributes).map fun i => (rec.attributes i).len).sum = rec.freePadPtr

instance (rec : SdpRecord) : Decidable rec.WellFormed := by
  unfold WellFormed
  infer_instance

theorem slotOf_eq {rec : SdpRecord} {attrId : UInt16} {k : Nat} (hk : k < rec.numAttributes)
    (before : ∀ i < k, (rec.attributes i).id < attrId) (after : attrId < (rec.attributes k).id) :
    rec.slotOf attrId = k := by
  have found : (List.range rec.numAttributes).find? (fun xx =>
      (rec.attributes xx).id == attrId || attrId < (rec.attributes xx).id) = some k := by
    rw [List.find?_range_eq_some]
    refine ⟨by simp [after], List.mem_range.2 hk, fun j hj => ?_⟩
    have below := before j hj
    simp only [Bool.not_or, Bool.and_eq_true, Bool.not_eq_true', beq_eq_false_iff_ne,
      decide_eq_false_iff_not]
    exact ⟨UInt16.ne_of_lt below, UInt16.lt_asymm below⟩
  simp [slotOf, found]

@[simp] theorem shiftUp_self (table : Nat → SdpAttribute) (xx num : Nat) :
    shiftUp table xx num xx = table xx := by
  simp [shiftUp]

/-- A value that does not fit and is not text is refused after its slot has been opened. -/
theorem addAttribute_of_overflow (rec : SdpRecord) (attrId : UInt16) (attrType : UInt8)
    (attrLen : Nat) (val : List UInt8) (k : Nat) (hk : k < rec.numAttributes)
    (before : ∀ i < k, (rec.attributes i).id < attrId) (after : attrId < (rec.attributes k).id)
    (room : rec.numAttributes ≠ sdpMaxRecAttr) (hasRoom : rec.freePadPtr < sdpMaxPadLen)
    (tooLong : sdpMaxPadLen ≤ rec.freePadPtr + attrLen) (word : rec.freePadPtr + attrLen < 2 ^ 32)
    (notText : attrType ≠ textStrDescType) :
    rec.addAttribute attrId attrType attrLen (some val) =
      ({ rec with
        attributes := Function.update (shiftUp rec.attributes k rec.numAttributes) k
          { rec.attributes k with len := 0, id := 0, type := 0 } }, false) := by
  have slot : rec.slotOf attrId = k := slotOf_eq hk before after
  have refused : ¬ wrap32 (rec.freePadPtr + attrLen) < sdpMaxPadLen := by
    unfold wrap32
    omega
  have positive : attrLen ≠ 0 := by
    unfold sdpMaxPadLen at hasRoom tooLong
    omega
  have other : (rec.attributes k).id ≠ attrId := (UInt16.ne_of_lt after).symm
  simp [addAttribute, slot, other, Nat.ne_of_lt hk, Nat.not_le.2 hasRoom, room, refused, notText,
    positive]

end SdpRecord

/-- A refused value leaves the record changed: its slot holds id 0, and the attributes from it on
are moved up one slot, the last one out of the `num_attributes` the call leaves as they were. -/
theorem addAttribute_refusal_shifts_table (rec : SdpRecord) (attrId : UInt16) (attrType : UInt8)
    (attrLen : Nat) (val : List UInt8) (k : Nat) (hk : k < rec.numAttributes)
    (before : ∀ i < k, (rec.attributes i).id < attrId) (after : attrId < (rec.attributes k).id)
    (room : rec.numAttributes < sdpMaxRecAttr) (hasRoom : rec.freePadPtr < sdpMaxPadLen)
    (tooLong : sdpMaxPadLen ≤ rec.freePadPtr + attrLen) (word : rec.freePadPtr + attrLen < 2 ^ 32)
    (notText : attrType ≠ textStrDescType) :
    (rec.addAttribute attrId attrType attrLen (some val)).2 = false ∧
    (rec.addAttribute attrId attrType attrLen (some val)).1 ≠ rec ∧
    (rec.addAttribute attrId attrType attrLen (some val)).1.numAttributes = rec.numAttributes ∧
    ((rec.addAttribute attrId attrType attrLen (some val)).1.attributes k).id = 0 ∧
    ∀ i, k < i → i ≤ rec.numAttributes →
      (rec.addAttribute attrId attrType attrLen (some val)).1.attributes i =
        rec.attributes (i - 1) := by
  rw [SdpRecord.addAttribute_of_overflow rec attrId attrType attrLen val k hk before after
    (Nat.ne_of_lt room) hasRoom tooLong word notText]
  refine ⟨rfl, fun same => ?_, rfl, by simp, fun i later within => ?_⟩
  · have cleared := congrArg (fun changed : SdpRecord => (changed.attributes k).id) same
    simp only [Function.update_self] at cleared
    rw [← cleared] at after
    exact UInt16.not_lt_zero after
  · simp [SdpRecord.shiftUp, Nat.ne_of_gt later, later, within]

/-- A serial port record: the handle, the service class list and the protocol descriptor list. -/
def serialPortRecord : SdpRecord :=
  (((SdpRecord.created 0x10000).addAttribute 0x0001 dataEleSeqDescType 5
      (some [0x35, 0x03, 0x19, 0x11, 0x01])).1.addAttribute 0x0004 dataEleSeqDescType 14
      (some [0x35, 0x0C, 0x35, 0x03, 0x19, 0x01, 0x00, 0x35, 0x05, 0x19, 0x00, 0x03, 0x08,
        0x01])).1

theorem addAttribute_refusal_shifts_table_serialPort :
    (serialPortRecord.addAttribute 0x0002 uintDescType 600 (some (List.replicate 600 0))).2 =
        false ∧
    (serialPortRecord.addAttribute 0x0002 uintDescType 600 (some (List.replicate 600 0))).1 ≠
        serialPortRecord ∧
    (serialPortRecord.addAttribute 0x0002 uintDescType 600
        (some (List.replicate 600 0))).1.numAttributes = serialPortRecord.numAttributes ∧
    ((serialPortRecord.addAttribute 0x0002 uintDescType 600
        (some (List.replicate 600 0))).1.attributes 2).id = 0 ∧
    ∀ i, 2 < i → i ≤ serialPortRecord.numAttributes →
      (serialPortRecord.addAttribute 0x0002 uintDescType 600
          (some (List.replicate 600 0))).1.attributes i = serialPortRecord.attributes (i - 1) :=
  addAttribute_refusal_shifts_table serialPortRecord 0x0002 uintDescType 600
    (List.replicate 600 0) 2 (by decide) (by decide) (by decide) (by decide) (by decide)
    (by decide) (by decide) (by decide)

/-- `SDP_AddAttribute`: the records of the database are searched for the handle. -/
def sdpAddAttribute (records : List SdpRecord) (handle : UInt32) (attrId : UInt16)
    (attrType : UInt8) (attrLen : Nat) (pVal : Option (List UInt8)) : List SdpRecord × Bool :=
  match records with
  | [] => ([], false)
  | rec :: rest =>
    if rec.recordHandle = handle then
      ((rec.addAttribute attrId attrType attrLen pVal).1 :: rest,
        (rec.addAttribute attrId attrType attrLen pVal).2)
    else
      (rec :: (sdpAddAttribute rest handle attrId attrType attrLen pVal).1,
        (sdpAddAttribute rest handle attrId attrType attrLen pVal).2)

/-- `SDP_DeleteAttribute`: a record of the handle that lacks the id does not end the search. -/
def sdpDeleteAttribute (records : List SdpRecord) (handle : UInt32) (attrId : UInt16) :
    List SdpRecord × Bool :=
  match records with
  | [] => ([], false)
  | rec :: rest =>
    match (if rec.recordHandle = handle then rec.deleteAttribute attrId else none) with
    | some deleted => (deleted :: rest, true)
    | none =>
      (rec :: (sdpDeleteAttribute rest handle attrId).1, (sdpDeleteAttribute rest handle attrId).2)

end Bluetooth.Sdp
