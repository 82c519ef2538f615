import Bluetooth.Lib.ByteStream
import Bluetooth.Lib.Loop
import Bluetooth.Sdp.Database

set_option linter.all false

/-!
# The SDP server's Service Attribute request

`process_service_attr_req` answers a request for the attributes of one record whose ids fall in
a list of ids and ranges.  It writes the attribute entries into `rsp_list`, a buffer of
`max_list_len` octets, and sends as much as fits.  A client that echoes the continuation state
gets the rest in later responses.  The first response starts with a data element sequence
header.  That header announces the length that `sdpu_get_attrib_seq_len` computes from the
request.

Both loops walk a range by finding its first attribute, then setting the range's start to the
attribute's id plus one and trying the range again.  The start is a `uint16_t`.  When an
attribute of id `0xFFFF` lies in a range that ends at `0xFFFF`, the start wraps to 0, and the
range is walked again from its first attribute.  `sdpu_get_attrib_seq_len` then never returns
(`processServiceAttrReq_diverges_on_last_id`).

Each loop is given as its body, run by `Loop.run` for a number of iterations.  The fields of
`tCONN_CB` that carry a request's state to the next are in `ConnCb`.  A response is given by
its attribute list and continuation state, not its PDU octets.  The AVRCP version that
`sdpu_set_avrc_target_version` writes into an A/V Remote Control Target's profile list is left
out.
-/

namespace Bluetooth.Sdp

open ByteStream (wrapInt16)

/-- `SDP_MAX_ATTR_LEN` of `bt_target.h`. -/
def sdpMaxAttrLen : Nat := 400

/-- `SDP_MAX_ATTR_RSPHDR_LEN`. -/
def sdpMaxAttrRsphdrLen : Nat := 10

/-- `SDP_CONTINUATION_LEN`. -/
def sdpContinuationLen : UInt8 := 2

/-- `MAX_ATTR_PER_SEQ`. -/
def maxAttrPerSeq : Nat := 16

/-- `DATA_ELE_ALT_DESC_TYPE`. -/
def dataEleAltDescType : UInt8 := 7

/-- `URL_DESC_TYPE`. -/
def urlDescType : UInt8 := 8

/-- `SIZE_ONE_BYTE`. -/
def sizeOneByte : UInt8 := 0
/-- `SIZE_TWO_BYTES`. -/
def sizeTwoBytes : UInt8 := 1
/-- `SIZE_FOUR_BYTES`. -/
def sizeFourBytes : UInt8 := 2
/-- `SIZE_EIGHT_BYTES`. -/
def sizeEightBytes : UInt8 := 3
/-- `SIZE_SIXTEEN_BYTES`. -/
def sizeSixteenBytes : UInt8 := 4
/-- `SIZE_IN_NEXT_BYTE`. -/
def sizeInNextByte : UInt8 := 5
/-- `SIZE_IN_NEXT_WORD`. -/
def sizeInNextWord : UInt8 := 6
/-- `SIZE_IN_NEXT_LONG`. -/
def sizeInNextLong : UInt8 := 7

/-- `SDP_INVALID_SERV_REC_HDL`. -/
def sdpInvalidServRecHdl : UInt16 := 0x0002
/-- `SDP_INVALID_REQ_SYNTAX`. -/
def sdpInvalidReqSyntax : UInt16 := 0x0003
/-- `SDP_INVALID_CONT_STATE`. -/
def sdpInvalidContState : UInt16 := 0x0005
/-- `SDP_NO_RESOURCES`. -/
def sdpNoResources : UInt16 := 0x0006
/-- `SDP_ILLEGAL_PARAMETER`. -/
def sdpIllegalParameter : UInt16 := 0x000B

/-- An entry of `tSDP_ATTR_SEQ`: the ids from `start` to `stop` (the source's `end`). -/
structure AttrEntry where
  start : UInt16
  stop : UInt16
deriving DecidableEq, Repr

/-! ### The attribute entries of a record -/

namespace SdpRecord

/-- `sdp_db_find_attr_in_rec`: the first attribute of the table whose id lies in the range. -/
def sdpDbFindAttrInRec (rec : SdpRecord) (startAttr endAttr : UInt16) : Option SdpAttribute :=
  ((List.range rec.numAttributes).map rec.attributes).find? fun attr =>
    startAttr ≤ attr.id && attr.id ≤ endAttr

section Find

variable {rec : SdpRecord} {startAttr endAttr : UInt16} {attr : SdpAttribute}

/-- What `sdp_db_find_attr_in_rec` finds is an attribute of the table, inside the range. -/
theorem sdpDbFindAttrInRec_spec (found : rec.sdpDbFindAttrInRec startAttr endAttr = some attr) :
    (∃ k < rec.numAttributes, rec.attributes k = attr) ∧ startAttr ≤ attr.id ∧
      attr.id ≤ endAttr := by
  unfold sdpDbFindAttrInRec at found
  have member := List.mem_of_find?_eq_some found
  have holds := List.find?_some found
  rw [List.mem_map] at member
  obtain ⟨k, below, rfl⟩ := member
  simp only [Bool.and_eq_true, decide_eq_true_eq] at holds
  exact ⟨⟨k, List.mem_range.1 below, rfl⟩, holds⟩

/-- `sdp_db_find_attr_in_rec` finds something when an attribute of the table is in the range. -/
theorem sdpDbFindAttrInRec_isSome {k : Nat} (within : k < rec.numAttributes)
    (after : startAttr ≤ (rec.attributes k).id) (before : (rec.attributes k).id ≤ endAttr) :
    (rec.sdpDbFindAttrInRec startAttr endAttr).isSome := by
  unfold sdpDbFindAttrInRec
  rw [List.find?_isSome]
  exact ⟨rec.attributes k, List.mem_map.2 ⟨k, List.mem_range.2 within, rfl⟩, by simp [after, before]⟩

end Find

/-- The number of attributes of the table whose id is `start` or above. -/
def countFrom (rec : SdpRecord) (start : UInt16) : Nat :=
  ((List.range rec.numAttributes).filter fun k => start ≤ (rec.attributes k).id).length

theorem countFrom_le (rec : SdpRecord) (start : UInt16) : rec.countFrom start ≤ rec.numAttributes := by
  unfold countFrom
  simpa using List.length_filter_le _ (List.range rec.numAttributes)

end SdpRecord

theorem le_last (id : UInt16) : id ≤ 0xFFFF := by
  rw [UInt16.le_iff_toNat_le]
  have bounded := id.toNat_lt
  simp only [UInt16.reduceToNat]
  omega

theorem toNat_succ_of_ne_last {id : UInt16} (notLast : id ≠ 0xFFFF) :
    (id + 1).toNat = id.toNat + 1 := by
  have bounded := id.toNat_lt
  have below : id.toNat ≠ 0xFFFF := fun last => notLast (UInt16.toNat_inj.1 last)
  rw [UInt16.toNat_add, UInt16.toNat_one]
  omega

theorem succ_ne_last {id : UInt16} (notBefore : id ≠ 0xFFFE) : id + 1 ≠ 0xFFFF := by
  intro last
  apply notBefore
  have wrapped := congrArg UInt16.toNat last
  have bounded := id.toNat_lt
  rw [UInt16.toNat_add] at wrapped
  apply UInt16.toNat_inj.1
  simp only [UInt16.toNat_one, UInt16.reduceToNat] at wrapped ⊢
  omega

/-- An attribute of the table found from `start`, with an id below `0xFFFF`, is counted from
`start` and not from its id plus one. -/
theorem SdpRecord.countFrom_succ_lt {rec : SdpRecord} {start : UInt16} {j : Nat}
    (within : j < rec.numAttributes) (after : start ≤ (rec.attributes j).id)
    (notLast : (rec.attributes j).id ≠ 0xFFFF) :
    rec.countFrom ((rec.attributes j).id + 1) < rec.countFrom start := by
  have succ := toNat_succ_of_ne_last notLast
  have narrower : (List.range rec.numAttributes).filter
      (fun k => (rec.attributes j).id + 1 ≤ (rec.attributes k).id) =
      ((List.range rec.numAttributes).filter fun k => start ≤ (rec.attributes k).id).filter
        fun k => (rec.attributes j).id + 1 ≤ (rec.attributes k).id := by
    rw [List.filter_filter]
    apply List.filter_congr
    intro k _
    by_cases higher : (rec.attributes j).id + 1 ≤ (rec.attributes k).id
    · have : start ≤ (rec.attributes k).id := by
        rw [UInt16.le_iff_toNat_le] at after higher ⊢
        omega
      simp [higher, this]
    · simp [higher]
  unfold SdpRecord.countFrom
  rw [narrower, List.length_filter_lt_length_iff_exists]
  refine ⟨j, List.mem_filter.2 ⟨List.mem_range.2 within, by simpa using after⟩, ?_⟩
  rw [decide_eq_true_iff, UInt16.le_iff_toNat_le, succ]
  omega

/-- The types whose value `sdpu_build_attrib_entry` writes after a length field. -/
def hasLengthField (type : UInt8) : Bool :=
  type = textStrDescType || type = dataEleSeqDescType || type = dataEleAltDescType ||
    type = urlDescType

/-- The octets of the type and size of an attribute's value, with its length field. -/
def valueHeader (attr : SdpAttribute) : List UInt8 :=
  if hasLengthField attr.type then
    if attr.len > 0xFF then
      [(attr.type <<< 3) ||| sizeInNextWord, (attr.len / 256).toUInt8, attr.len.toUInt8]
    else [(attr.type <<< 3) ||| sizeInNextByte, attr.len.toUInt8]
  else if attr.len = 1 then [(attr.type <<< 3) ||| sizeOneByte]
  else if attr.len = 2 then [(attr.type <<< 3) ||| sizeTwoBytes]
  else if attr.len = 4 then [(attr.type <<< 3) ||| sizeFourBytes]
  else if attr.len = 8 then [(attr.type <<< 3) ||| sizeEightBytes]
  else if attr.len = 16 then [(attr.type <<< 3) ||| sizeSixteenBytes]
  else [(attr.type <<< 3) ||| sizeInNextByte, attr.len.toUInt8]

/-- `sdpu_build_attrib_entry`: the attribute id as an unsigned integer, then the value.  A null
`value_ptr` is that of a slot of length 0, whose value is no octets either way. -/
def sdpuBuildAttribEntry (rec : SdpRecord) (attr : SdpAttribute) : List UInt8 :=
  [(uintDescType <<< 3) ||| sizeTwoBytes, (attr.id >>> 8).toUInt8, attr.id.toUInt8] ++
    valueHeader attr ++ rec.value attr

/-- `sdpu_get_attrib_entry_len`, a `uint16_t`. -/
def sdpuGetAttribEntryLen (attr : SdpAttribute) : Nat :=
  (3 + (valueHeader attr).length + attr.len) % 65536

/-- `sdpu_build_partial_attrib_entry` with `len` octets of room from `offset` into the entry: the
octets it writes, and the offset it leaves. -/
def sdpuBuildPartialAttribEntry (rec : SdpRecord) (attr : SdpAttribute) (len offset : Nat) :
    List UInt8 × Nat :=
  let attrLen := sdpuGetAttribEntryLen attr
  let len := if len > sdpMaxAttrLen then sdpMaxAttrLen else len
  let lenToCopy := if attrLen - offset < len then attrLen - offset else len
  (((sdpuBuildAttribEntry rec attr).drop offset).take lenToCopy, (offset + lenToCopy) % 65536)

/-! ### The attribute list of a request -/

/-- The attribute length of an entry of `sdpu_extract_attr_seq` from its size index at `p`: the
position after the length field and the length, or `none` for `NULL`. -/
def attrLenOfSize (bytes : List UInt8) (listEnd p : Nat) (size : UInt8) :
    Except Nat (Option (Nat × Nat)) :=
  if size = sizeTwoBytes then pure (some (p, 2))
  else if size = sizeFourBytes then pure (some (p, 4))
  else if size = sizeInNextByte then
    if p + 1 > listEnd then pure none
    else do
      let attrLen ← ByteStream.u8 bytes p
      pure (some (p + 1, attrLen.toNat))
  else if size = sizeInNextWord then
    if p + 2 > listEnd then pure none
    else do
      let attrLen ← ByteStream.be16 bytes p
      pure (some (p + 2, attrLen.toNat))
  else if size = sizeInNextLong then
    if p + 4 > listEnd then pure none
    else do
      let attrLen ← ByteStream.be32 bytes p
      pure (some (p + 4, attrLen.toNat))
  else pure none

/-- The loop of `sdpu_extract_attr_seq` from `p` to `listEnd`, with room for `room` more entries
than it has read: where it ends and the entries, or `none` for `NULL`. -/
def extractAttrEntries (bytes : List UInt8) (listEnd : Nat) :
    Nat → Nat → List AttrEntry → Except Nat (Option (Nat × List AttrEntry))
  | room, p, entries =>
    if listEnd ≤ p then pure (some (p, entries))
    else do
      let descr ← ByteStream.u8 bytes p
      if descr >>> 3 ≠ uintDescType then pure none
      else
        match ← attrLenOfSize bytes listEnd (p + 1) (descr &&& 7) with
        | none => pure none
        | some (p, attrLen) =>
          if p + attrLen > listEnd then pure none
          else do
            let entry ← if attrLen = 2 then do
                let start ← ByteStream.be16 bytes p
                pure (some (AttrEntry.mk start start))
              else if attrLen = 4 then do
                let start ← ByteStream.be16 bytes p
                let stop ← ByteStream.be16 bytes (p + 2)
                pure (some (AttrEntry.mk start stop))
              else pure none
            match entry, room with
            | none, _ => pure none
            -- `++p_seq->num_attr >= MAX_ATTR_PER_SEQ`
            | some _, 0 => pure none
            | some entry, room + 1 =>
              extractAttrEntries bytes listEnd room (p + attrLen) (entries ++ [entry])

/-- `sdpu_extract_attr_seq(p, param_len, &attr_seq)`: where the list ends and its entries, or
`none` for `NULL`. -/
def sdpuExtractAttrSeq (bytes : List UInt8) (p paramLen : Nat) :
    Except Nat (Option (Nat × List AttrEntry)) :=
  if paramLen < 1 then pure none
  else do
    let descr ← ByteStream.u8 bytes p
    let paramLen := paramLen - 1
    if descr >>> 3 ≠ dataEleSeqDescType then pure none
    else
      let size := descr &&& 7
      let header : Except Nat (Option (Nat × Nat)) :=
        if size = sizeInNextByte then
          if paramLen < 1 then pure none
          else do
            let listLen ← ByteStream.u8 bytes (p + 1)
            pure (some (p + 2, listLen.toNat))
        else if size = sizeInNextWord then
          if paramLen < 2 then pure none
          else do
            let listLen ← ByteStream.be16 bytes (p + 1)
            pure (some (p + 3, listLen.toNat))
        else if size = sizeInNextLong then
          if paramLen < 4 then pure none
          else do
            let listLen ← ByteStream.be32 bytes (p + 1)
            pure (some (p + 5, listLen.toNat))
        else pure none
      match ← header with
      | none => pure none
      | some (q, listLen) =>
        if listLen > paramLen - (q - (p + 1)) then pure none
        else extractAttrEntries bytes (q + listLen) (maxAttrPerSeq - 1) q []

/-! ### The length announced in the sequence header -/

/-- The state of the loop of `sdpu_get_attrib_seq_len`. -/
structure SeqLenState where
  xx : Nat
  isRange : Bool
  startId : UInt16
  endId : UInt16
  len1 : Nat
deriving DecidableEq, Repr

/-- The range an iteration of `sdpu_get_attrib_seq_len` searches: the one it is walking, or else
that of the entry at `xx`. -/
def SeqLenState.range (attrSeq : List AttrEntry) (s : SeqLenState) : AttrEntry :=
  if s.isRange then ⟨s.startId, s.endId⟩ else attrSeq.getD s.xx ⟨0, 0⟩

/-- One iteration of the loop of `sdpu_get_attrib_seq_len`.  A range that finds an attribute is
tried again from the attribute's id plus one, without moving on. -/
def getAttribSeqLenBody (rec : SdpRecord) (attrSeq : List AttrEntry) (s : SeqLenState) :
    SeqLenState ⊕ Nat :=
  if attrSeq.length ≤ s.xx then .inr s.len1
  else
    let range := s.range attrSeq
    match rec.sdpDbFindAttrInRec range.start range.stop with
    | some attr =>
      let len1 := (s.len1 + sdpuGetAttribEntryLen attr) % 65536
      if range.start ≠ range.stop then .inl ⟨s.xx, true, attr.id + 1, range.stop, len1⟩
      else .inl ⟨s.xx + 1, false, range.start, range.stop, len1⟩
    | none => .inl ⟨s.xx + 1, false, range.start, range.stop, s.len1⟩

/-- `sdpu_get_attrib_seq_len`, for at most `fuel` iterations. -/
def sdpuGetAttribSeqLen (fuel : Nat) (rec : SdpRecord) (attrSeq : List AttrEntry) :
    Option Nat :=
  Loop.run (getAttribSeqLenBody rec attrSeq) fuel ⟨0, false, 0, 0, 0⟩

section SeqLen

variable {rec : SdpRecord} {attrSeq : List AttrEntry} {s : SeqLenState} {attr : SdpAttribute}

theorem getAttribSeqLenBody_of_le (past : attrSeq.length ≤ s.xx) :
    getAttribSeqLenBody rec attrSeq s = .inr s.len1 := by
  simp [getAttribSeqLenBody, past]

theorem getAttribSeqLenBody_of_ranging (inside : s.xx < attrSeq.length)
    (found : rec.sdpDbFindAttrInRec (s.range attrSeq).start (s.range attrSeq).stop = some attr)
    (ranging : (s.range attrSeq).start ≠ (s.range attrSeq).stop) :
    getAttribSeqLenBody rec attrSeq s = .inl ⟨s.xx, true, attr.id + 1, (s.range attrSeq).stop,
      (s.len1 + sdpuGetAttribEntryLen attr) % 65536⟩ := by
  simp [getAttribSeqLenBody, Nat.not_le.2 inside, found, ranging]

/-- Every iteration that does not walk on in a range moves to the next entry. -/
theorem getAttribSeqLenBody_moves_on {next : SeqLenState} (inside : s.xx < attrSeq.length)
    (continues : getAttribSeqLenBody rec attrSeq s = .inl next) :
    (∃ attr, rec.sdpDbFindAttrInRec (s.range attrSeq).start (s.range attrSeq).stop = some attr ∧
      (s.range attrSeq).start ≠ (s.range attrSeq).stop ∧ next.xx = s.xx ∧ next.isRange = true ∧
      next.startId = attr.id + 1) ∨
    (next.xx = s.xx + 1 ∧ next.isRange = false) := by
  unfold getAttribSeqLenBody at continues
  rw [if_neg (Nat.not_le.2 inside)] at continues
  dsimp only at continues
  split at continues
  · rename_i attr found
    split at continues
    · rename_i ranging
      cases continues
      exact .inl ⟨attr, found, ranging, rfl, rfl, rfl⟩
    · cases continues
      exact .inr ⟨rfl, rfl⟩
  · cases continues
    exact .inr ⟨rfl, rfl⟩

/-- The measure of the loop of `sdpu_get_attrib_seq_len`: the entries left, each worth more
than a walk of its range, and the attributes left above the start of the range walked. -/
def seqLenMeasure (rec : SdpRecord) (attrSeq : List AttrEntry) (s : SeqLenState) : Nat :=
  (attrSeq.length - s.xx) * (rec.numAttributes + 2) +
    if s.isRange then rec.countFrom s.startId else rec.numAttributes + 1

/-- In a record with no attribute of id `0xFFFF`, each walk of a range finds attributes of rising
ids, so `sdpu_get_attrib_seq_len` returns within one iteration more than its measure. -/
theorem sdpuGetAttribSeqLen_isSome
    (noLast : ∀ k < rec.numAttributes, (rec.attributes k).id ≠ 0xFFFF) {fuel : Nat}
    (enough : attrSeq.length * (rec.numAttributes + 2) + rec.numAttributes + 1 < fuel) :
    (sdpuGetAttribSeqLen fuel rec attrSeq).isSome := by
  have initial : seqLenMeasure rec attrSeq ⟨0, false, 0, 0, 0⟩ < fuel := by
    unfold seqLenMeasure
    rw [if_neg Bool.false_ne_true, Nat.sub_zero]
    omega
  refine Loop.isSome_run_of_measure (fun _ => True) (seqLenMeasure rec attrSeq)
    (fun _ _ _ _ => trivial) ?_ fuel _ trivial initial
  intro s next _ continues
  have inside : s.xx < attrSeq.length := by
    by_contra past
    rw [getAttribSeqLenBody_of_le (Nat.not_lt.1 past)] at continues
    cases continues
  have counted := rec.countFrom_le
  rcases getAttribSeqLenBody_moves_on inside continues with
    ⟨attr, found, -, walked, ranging, started⟩ | ⟨moved, single⟩
  · -- the range is walked from the found attribute's id plus one
    obtain ⟨⟨j, within, rfl⟩, after, -⟩ := SdpRecord.sdpDbFindAttrInRec_spec found
    have fewer := rec.countFrom_succ_lt within after (noLast j within)
    have current : rec.countFrom (s.range attrSeq).start ≤
        if s.isRange then rec.countFrom s.startId else rec.numAttributes + 1 := by
      unfold SeqLenState.range
      split
      · exact Nat.le_refl _
      · exact Nat.le_succ_of_le (counted _)
    unfold seqLenMeasure
    rw [walked, ranging, started, if_pos rfl]
    omega
  · -- the next entry: one entry fewer outweighs any walk of a range
    unfold seqLenMeasure
    rw [moved, single, if_neg Bool.false_ne_true]
    have left : attrSeq.length - s.xx = attrSeq.length - (s.xx + 1) + 1 := by omega
    rw [left, Nat.succ_mul]
    omega

/-- The states of the loop of `sdpu_get_attrib_seq_len` at entry `xx` whose range, once the loop
walks it, ends at `0xFFFF` and starts below. -/
def InLastRange (xx : Nat) (s : SeqLenState) : Prop :=
  s.xx = xx ∧ (s.isRange = true → s.endId = 0xFFFF ∧ s.startId ≠ 0xFFFF)

/-- A range that ends at `0xFFFF` and starts below it, of a record that holds the id `0xFFFF` and
not `0xFFFE`, is walked for ever: each attribute it finds sets the start to its id plus one,
which is not `0xFFFF`, and the attribute `0xFFFF` is always found again. -/
theorem getAttribSeqLen_diverges_of_last_id
    (hasLast : ∃ k < rec.numAttributes, (rec.attributes k).id = 0xFFFF)
    (noneBefore : ∀ k < rec.numAttributes, (rec.attributes k).id ≠ 0xFFFE) {xx : Nat}
    {start : UInt16} (inside : xx < attrSeq.length)
    (entry : attrSeq.getD xx ⟨0, 0⟩ = ⟨start, 0xFFFF⟩) (belowLast : start ≠ 0xFFFF) :
    ∀ fuel s, InLastRange xx s → Loop.run (getAttribSeqLenBody rec attrSeq) fuel s = none := by
  apply Loop.run_eq_none_of_closed
  rintro s ⟨rfl, ranging⟩
  obtain ⟨k, within, last⟩ := hasLast
  have searched : (s.range attrSeq).stop = 0xFFFF ∧ (s.range attrSeq).start ≠ 0xFFFF := by
    unfold SeqLenState.range
    split
    · exact ranging ‹_›
    · rw [entry]
      exact ⟨rfl, belowLast⟩
  have lastFound : (rec.sdpDbFindAttrInRec (s.range attrSeq).start
      (s.range attrSeq).stop).isSome := by
    refine rec.sdpDbFindAttrInRec_isSome within ?_ ?_
    · rw [last]
      exact le_last _
    · rw [searched.1]
      exact le_last _
  obtain ⟨attr, found⟩ := Option.isSome_iff_exists.1 lastFound
  obtain ⟨⟨j, tabled, rfl⟩, -, -⟩ := SdpRecord.sdpDbFindAttrInRec_spec found
  refine ⟨_, getAttribSeqLenBody_of_ranging inside found (searched.1 ▸ searched.2), rfl,
    fun _ => ⟨searched.1, succ_ne_last (noneBefore j tabled)⟩⟩

end SeqLen

/-! ### The attribute loop of the server -/

/-- `tCONT_INFO`, with the fields the attribute request uses. -/
structure ContInfo where
  nextAttrIndex : Nat
  nextAttrStartId : UInt16
  attrOffset : Nat
deriving DecidableEq, Repr

/-- The fields of `tCONN_CB` that the attribute request reads and writes. -/
structure ConnCb where
  remMtuSize : Nat
  contOffset : Nat
  listLen : Nat
  contInfo : ContInfo
deriving DecidableEq, Repr

/-- The state of the attribute loop of `process_service_attr_req`: the loop index, the entries
with their starts as the loop moves them, the octets of `rsp_list` up to `p_rsp`, and the
continuation information. -/
structure AttrLoopState where
  xx : Nat
  attrSeq : List AttrEntry
  rsp : List UInt8
  contInfo : ContInfo
deriving DecidableEq, Repr

/-- After an attribute has gone into the response: a range is tried again from the attribute's id
plus one, and a single id moves the loop on. -/
def AttrLoopState.advance (s : AttrLoopState) (entry : AttrEntry) (attr : SdpAttribute) :
    AttrLoopState :=
  if entry.start ≠ entry.stop then
    { s with attrSeq := s.attrSeq.set s.xx { entry with start := attr.id + 1 } }
  else { s with xx := s.xx + 1 }

/-- The iteration of the attribute loop of `process_service_attr_req` once it has found `attr`
for `entry`, with room for `maxListLen` octets: a partial attribute is finished, an attribute that
does not fit is begun, or the whole attribute is written. -/
def AttrLoopState.putAttr (rec : SdpRecord) (maxListLen : Nat) (s : AttrLoopState)
    (entry : AttrEntry) (attr : SdpAttribute) : AttrLoopState ⊕ (AttrLoopState × Option UInt16) :=
  let remLen := wrapInt16 ((maxListLen : Int) - wrapInt16 s.rsp.length)
  let attrLen := sdpuGetAttribEntryLen attr
  if remLen ≤ 0 then
    .inr ({ s with
      contInfo := { s.contInfo with nextAttrIndex := s.xx, nextAttrStartId := attr.id } }, none)
  else if s.contInfo.attrOffset ≠ 0 then
    if attrLen < s.contInfo.attrOffset then .inr (s, some sdpInvalidContState)
    else
      let written := sdpuBuildPartialAttribEntry rec attr remLen.toNat s.contInfo.attrOffset
      let s := { s with
        rsp := s.rsp ++ written.1, contInfo := { s.contInfo with attrOffset := written.2 } }
      if written.2 ≠ attrLen then .inr (s, none)
      else .inl ({ s with contInfo := { s.contInfo with attrOffset := 0 } }.advance entry attr)
  else if remLen < attrLen then
    if sdpMaxAttrLen ≤ attrLen then .inr (s, some sdpNoResources)
    else
      let written := sdpuBuildPartialAttribEntry rec attr remLen.toNat 0
      .inr ({ s with rsp := s.rsp ++ written.1, contInfo := ⟨s.xx, attr.id, written.2⟩ }, none)
  else .inl ({ s with rsp := s.rsp ++ sdpuBuildAttribEntry rec attr }.advance entry attr)

/-- One iteration of the attribute loop of `process_service_attr_req`, with room for
`maxListLen` octets.  It leaves the loop at a `break`, when the entries run out, and with the
code of an error response, giving the state it leaves in each case. -/
def attrLoopBody (rec : SdpRecord) (maxListLen : Nat) (s : AttrLoopState) :
    AttrLoopState ⊕ (AttrLoopState × Option UInt16) :=
  if s.attrSeq.length ≤ s.xx then .inr (s, none)
  else
    let entry := s.attrSeq.getD s.xx ⟨0, 0⟩
    match rec.sdpDbFindAttrInRec entry.start entry.stop with
    | none => .inl { s with xx := s.xx + 1 }
    | some attr => s.putAttr rec maxListLen entry attr

section Entries

variable (rec : SdpRecord) (attr : SdpAttribute)

theorem length_valueHeader_le : (valueHeader attr).length ≤ 3 := by
  unfold valueHeader
  split_ifs <;> simp

theorem length_sdpuBuildAttribEntry :
    (sdpuBuildAttribEntry rec attr).length = 3 + (valueHeader attr).length + attr.len := by
  simp [sdpuBuildAttribEntry, SdpRecord.value]
  omega

/-- For a value that fits the pad, `sdpu_get_attrib_entry_len` is the length of the entry that
`sdpu_build_attrib_entry` writes. -/
theorem sdpuGetAttribEntryLen_eq {attr : SdpAttribute} (short : attr.len ≤ sdpMaxPadLen) :
    sdpuGetAttribEntryLen attr = (sdpuBuildAttribEntry rec attr).length := by
  have header := length_valueHeader_le attr
  unfold sdpuGetAttribEntryLen sdpMaxPadLen at *
  rw [length_sdpuBuildAttribEntry]
  omega

/-- `sdpu_build_partial_attrib_entry` writes no more than the room it is given. -/
theorem length_sdpuBuildPartialAttribEntry_le (len offset : Nat) :
    (sdpuBuildPartialAttribEntry rec attr len offset).1.length ≤ len := by
  unfold sdpuBuildPartialAttribEntry
  dsimp only
  rw [List.length_take]
  split_ifs <;> omega

end Entries

section AttrLoop

variable {rec : SdpRecord} {maxListLen : Nat} {s : AttrLoopState}

section Advance

variable (s : AttrLoopState) (entry : AttrEntry) (attr : SdpAttribute)

@[simp] theorem AttrLoopState.rsp_advance : (s.advance entry attr).rsp = s.rsp := by
  unfold AttrLoopState.advance
  split <;> rfl

@[simp] theorem AttrLoopState.contInfo_advance : (s.advance entry attr).contInfo = s.contInfo := by
  unfold AttrLoopState.advance
  split <;> rfl

@[simp] theorem AttrLoopState.length_attrSeq_advance :
    (s.advance entry attr).attrSeq.length = s.attrSeq.length := by
  unfold AttrLoopState.advance
  split <;> simp

theorem AttrLoopState.le_xx_advance {xx : Nat} (at_ : s.xx = xx) :
    xx ≤ (s.advance entry attr).xx := by
  unfold AttrLoopState.advance
  split <;> simp [at_]

end Advance

/-- While the octets written fit, the room that `rem_len` holds, once it is positive, is the
room left in `rsp_list`. -/
theorem wrapInt16_room {used : Nat} (fits : used ≤ maxListLen) (small : maxListLen < 65536)
    (positive : 0 < wrapInt16 ((maxListLen : Int) - wrapInt16 used)) :
    wrapInt16 ((maxListLen : Int) - wrapInt16 used) = ((maxListLen - used : Nat) : Int) := by
  unfold wrapInt16 at *
  omega

/-- An iteration that found `attr` and goes on has written octets that fit, and either finished
a partial attribute or written the whole of it. -/
theorem putAttr_of_inl {entry : AttrEntry} {attr : SdpAttribute} {next : AttrLoopState}
    (fits : s.rsp.length ≤ maxListLen) (small : maxListLen < 65536)
    (short : attr.len ≤ sdpMaxPadLen) (put : s.putAttr rec maxListLen entry attr = .inl next) :
    next.attrSeq.length = s.attrSeq.length ∧ s.xx ≤ next.xx ∧ next.contInfo.attrOffset = 0 ∧
      ∃ octets, next.rsp = s.rsp ++ octets ∧ s.rsp.length + octets.length ≤ maxListLen ∧
        (s.contInfo.attrOffset ≠ 0 ∨ octets ≠ []) := by
  simp only [AttrLoopState.putAttr] at put
  split at put
  · cases put
  · rename_i room
    simp only [wrapInt16_room fits small (Int.lt_of_not_ge room), Int.toNat_natCast] at put
    split at put
    · -- a partial attribute is finished
      rename_i pending
      split at put
      · cases put
      · split at put
        · cases put
        · cases put
          have written := length_sdpuBuildPartialAttribEntry_le rec attr
            (maxListLen - s.rsp.length) s.contInfo.attrOffset
          refine ⟨by simp, AttrLoopState.le_xx_advance _ _ _ rfl, by simp,
            (sdpuBuildPartialAttribEntry rec attr (maxListLen - s.rsp.length)
              s.contInfo.attrOffset).1, by simp, by omega, .inl pending⟩
    · split at put
      · split at put <;> cases put
      · -- the whole attribute fits
        rename_i fresh fitsWhole
        cases put
        rw [sdpuGetAttribEntryLen_eq rec short] at fitsWhole
        refine ⟨by simp, AttrLoopState.le_xx_advance _ _ _ rfl, by simpa using fresh,
          sdpuBuildAttribEntry rec attr, by simp, by omega, .inr (by simp [sdpuBuildAttribEntry])⟩

/-- An iteration that found `attr` and leaves the loop has written octets that fit. -/
theorem putAttr_of_inr {entry : AttrEntry} {attr : SdpAttribute}
    {final : AttrLoopState × Option UInt16} (fits : s.rsp.length ≤ maxListLen)
    (small : maxListLen < 65536) (put : s.putAttr rec maxListLen entry attr = .inr final) :
    ∃ octets, final.1.rsp = s.rsp ++ octets ∧ s.rsp.length + octets.length ≤ maxListLen := by
  have nothing : s.rsp = s.rsp ++ [] ∧ s.rsp.length + ([] : List UInt8).length ≤ maxListLen :=
    ⟨by simp, fits⟩
  simp only [AttrLoopState.putAttr] at put
  split at put
  · cases put
    exact ⟨[], nothing⟩
  · rename_i room
    simp only [wrapInt16_room fits small (Int.lt_of_not_ge room), Int.toNat_natCast] at put
    split at put
    · split at put
      · cases put
        exact ⟨[], nothing⟩
      · split at put
        · cases put
          have written := length_sdpuBuildPartialAttribEntry_le rec attr
            (maxListLen - s.rsp.length) s.contInfo.attrOffset
          exact ⟨_, rfl, by omega⟩
        · cases put
    · split at put
      · split at put
        · cases put
          exact ⟨[], nothing⟩
        · cases put
          have written := length_sdpuBuildPartialAttribEntry_le rec attr
            (maxListLen - s.rsp.length) 0
          exact ⟨_, rfl, by omega⟩
      · cases put

/-- What an iteration of the attribute loop does: leave when the entries run out, move on when
the entry finds nothing, or put an attribute of the table that it found. -/
theorem attrLoopBody_cases {r : AttrLoopState ⊕ (AttrLoopState × Option UInt16)}
    (stepped : attrLoopBody rec maxListLen s = r) :
    r = .inr (s, none) ∨ r = .inl { s with xx := s.xx + 1 } ∨
      ∃ attr, (∃ k < rec.numAttributes, rec.attributes k = attr) ∧
        r = s.putAttr rec maxListLen (s.attrSeq.getD s.xx ⟨0, 0⟩) attr := by
  unfold attrLoopBody at stepped
  split at stepped
  · exact .inl stepped.symm
  · dsimp only at stepped
    split at stepped
    · exact .inr (.inl stepped.symm)
    · rename_i attr found
      exact .inr (.inr ⟨attr, (SdpRecord.sdpDbFindAttrInRec_spec found).1, stepped.symm⟩)

/-- However many iterations it runs, the attribute loop writes no more than `max_list_len`
octets into `rsp_list`, the buffer `osi_malloc(max_list_len)` gave it, when the record's values
fit its pad. -/
theorem attrLoop_fits (small : maxListLen < 65536)
    (short : ∀ k < rec.numAttributes, (rec.attributes k).len ≤ sdpMaxPadLen) {fuel : Nat}
    {start : AttrLoopState} {final : AttrLoopState × Option UInt16}
    (fits : start.rsp.length ≤ maxListLen)
    (ran : Loop.run (attrLoopBody rec maxListLen) fuel start = some final) :
    final.1.rsp.length ≤ maxListLen := by
  refine Loop.run_invariant (fun s => s.rsp.length ≤ maxListLen)
    (fun final => final.1.rsp.length ≤ maxListLen) ?_ ?_ fuel start final fits ran
  · intro s next holds continues
    rcases attrLoopBody_cases continues with left | moved | ⟨attr, ⟨k, within, rfl⟩, put⟩
    · cases left
    · cases moved
      exact holds
    · obtain ⟨-, -, -, octets, written, room, -⟩ :=
        putAttr_of_inl holds small (short k within) put.symm
      rw [written, List.length_append]
      exact room
  · intro s final holds leaves
    rcases attrLoopBody_cases leaves with left | moved | ⟨attr, -, put⟩
    · cases left
      exact holds
    · cases moved
    · obtain ⟨octets, written, room⟩ := putAttr_of_inr holds small put.symm
      rw [written, List.length_append]
      exact room

end AttrLoop

/-! ### The request -/

/-- What the server sends back: an error response with its code, or a Service Attribute
response with its attribute list and, when more is to come, the continuation offset. -/
inductive SdpReply where
  | error (code : UInt16)
  | serviceAttrRsp (attributeList : List UInt8) (continuation : Option Nat)
deriving DecidableEq, Repr

/-- `sdp_db_find_record`. -/
def sdpDbFindRecord (db : List SdpRecord) (handle : UInt32) : Option SdpRecord :=
  db.find? fun rec => rec.recordHandle = handle

/-- The end of `process_service_attr_req` once the loop has left with `s`: the sequence header on
a first response, then the response and the continuation state. -/
def finishAttrRsp (fuel : Nat) (rec : SdpRecord) (attrSeqSav : List AttrEntry) (ccb : ConnCb)
    (isCont : Bool) (s : AttrLoopState) : Option (ConnCb × SdpReply) := do
  let contInfo :=
    if s.xx = s.attrSeq.length then { s.contInfo with nextAttrIndex := 0 } else s.contInfo
  let header : Nat × Nat × List UInt8 × Nat ←
    if isCont then pure (ccb.listLen, s.rsp.length, s.rsp, 0)
    else do
      let seqLen ← sdpuGetAttribSeqLen fuel rec attrSeqSav
      let listLen := (seqLen + 3) % 65536
      if listLen > 255 then
        pure (listLen, s.rsp.length,
          [(dataEleSeqDescType <<< 3) ||| sizeInNextWord, ((listLen - 3) / 256).toUInt8,
            (listLen - 3).toUInt8] ++ s.rsp.drop 3, 0)
      else
        pure (listLen - 1, s.rsp.length - 1,
          s.rsp.take 1 ++ [(dataEleSeqDescType <<< 3) ||| sizeInNextByte, (listLen - 3).toUInt8] ++
            s.rsp.drop 3, 1)
  let (listLen, lenToSend, rspList, contOffset) := header
  let sent := (ccb.contOffset + lenToSend) % 65536
  pure ({ ccb with listLen := listLen, contOffset := sent, contInfo := contInfo },
    .serviceAttrRsp ((rspList.drop contOffset).take lenToSend)
      (if sent < listLen then some sent else none))

/-- A first response waits for the length of the sequence header. -/
theorem finishAttrRsp_of_seqLen_none {fuel : Nat} {rec : SdpRecord} {attrSeqSav : List AttrEntry}
    (diverges : sdpuGetAttribSeqLen fuel rec attrSeqSav = none) (ccb : ConnCb)
    (s : AttrLoopState) : finishAttrRsp fuel rec attrSeqSav ccb false s = none := by
  simp [finishAttrRsp, diverges]

/-- `process_service_attr_req` on the parameters `params` of a request, for at most `fuel`
iterations of each loop: the connection's state and the reply, or `none` when a loop has not
ended. -/
def processServiceAttrReq (fuel : Nat) (db : List SdpRecord) (ccb : ConnCb)
    (params : List UInt8) : Except Nat (Option (ConnCb × SdpReply)) := do
  if params.length < 6 then return some (ccb, .error sdpInvalidServRecHdl)
  let recHandle ← ByteStream.be32 params 0
  let maxListLen ← ByteStream.be16 params 4
  let maxListLen : Nat :=
    if (maxListLen.toNat : Int) > (ccb.remMtuSize : Int) - sdpMaxAttrRsphdrLen then
      (((ccb.remMtuSize : Int) - sdpMaxAttrRsphdrLen) % 65536).toNat
    else maxListLen.toNat
  let some (p, attrSeq) ← sdpuExtractAttrSeq params 6 (params.length - 6)
    | return some (ccb, .error sdpInvalidReqSyntax)
  if attrSeq.length = 0 ∨ p + 1 > params.length then
    return some (ccb, .error sdpInvalidReqSyntax)
  let some rec := sdpDbFindRecord db recHandle
    | return some (ccb, .error sdpInvalidServRecHdl)
  if maxListLen < 4 then return some (ccb, .error sdpIllegalParameter)
  let contState ← ByteStream.u8 params p
  let start : Option (ConnCb × AttrLoopState × Bool) ←
    if contState ≠ 0 then
      if contState ≠ sdpContinuationLen ∨ p + 1 + 2 > params.length then pure none
      else do
        let contOffset ← ByteStream.be16 params (p + 1)
        if contOffset.toNat ≠ ccb.contOffset then pure none
        else
          pure (some (ccb, ⟨ccb.contInfo.nextAttrIndex,
            attrSeq.set ccb.contInfo.nextAttrIndex
              { attrSeq.getD ccb.contInfo.nextAttrIndex ⟨0, 0⟩ with
                start := ccb.contInfo.nextAttrStartId },
            [], ccb.contInfo⟩, true))
    else
      let contInfo := { ccb.contInfo with nextAttrIndex := 0, attrOffset := 0 }
      pure (some ({ ccb with contOffset := 0, contInfo := contInfo },
        ⟨0, attrSeq, [0, 0, 0], contInfo⟩, false))
  let some (ccb, loopStart, isCont) := start
    | return some (ccb, .error sdpInvalidContState)
  return (Loop.run (attrLoopBody rec maxListLen) fuel loopStart).bind fun
    | (s, some code) => some ({ ccb with contInfo := s.contInfo }, .error code)
    | (s, none) => finishAttrRsp fuel rec attrSeq { ccb with contInfo := s.contInfo } isCont s

/-- A record of handle `0x10000` holding its handle attribute and a one-octet unsigned integer of
id `0xFFFF`, as `SDP_CreateRecord` and `SDP_AddAttribute` leave it. -/
def lastIdRecord : SdpRecord :=
  ((SdpRecord.created 0x10000).addAttribute 0xFFFF uintDescType 1 (some [0x01])).1

/-- The parameters of a Service Attribute request for every attribute of record `0x10000`, with
room for 256 octets and no continuation state. -/
def allAttributesRequest : List UInt8 :=
  [0x00, 0x01, 0x00, 0x00, 0x01, 0x00, 0x35, 0x05, 0x0A, 0x00, 0x00, 0xFF, 0xFF, 0x00]

/-- A connection whose peer has the default L2CAP MTU. -/
def defaultConnCb : ConnCb := ⟨672, 0, 0, ⟨0, 0, 0⟩⟩

/-- The request is accepted and its attribute loop ends, but `sdpu_get_attrib_seq_len` walks the
range `0x0000-0xFFFF` for ever: no number of iterations gives a response. -/
theorem processServiceAttrReq_diverges_on_last_id (fuel : Nat) :
    processServiceAttrReq fuel [lastIdRecord] defaultConnCb allAttributesRequest = .ok none := by
  have handle : ByteStream.be32 allAttributesRequest 0 = .ok 0x10000 := by decide
  have listLimit : ByteStream.be16 allAttributesRequest 4 = .ok 0x100 := by decide
  have extracted :
      sdpuExtractAttrSeq allAttributesRequest 6 8 = .ok (some (13, [⟨0, 0xFFFF⟩])) := by
    decide +kernel
  have noContinuation : ByteStream.u8 allAttributesRequest 13 = .ok 0 := by decide
  have recordFound : sdpDbFindRecord [lastIdRecord] 0x10000 = some lastIdRecord := by
    have handled : lastIdRecord.recordHandle = 0x10000 := by decide
    simp [sdpDbFindRecord, handled]
  have sent : (Loop.run (attrLoopBody lastIdRecord 256) 60
      ⟨0, [⟨0, 0xFFFF⟩], [0, 0, 0], ⟨0, 0, 0⟩⟩).map Prod.snd = some none := by
    decide +kernel
  have sized : allAttributesRequest.length = 14 := rfl
  simp [processServiceAttrReq, sized, handle, listLimit, extracted, noContinuation, recordFound,
    defaultConnCb, sdpMaxAttrRsphdrLen]
  -- whenever the attribute loop ends, it ends as it does within 60 iterations
  intro s code ran
  obtain ⟨⟨final, last⟩, ranLong, ended⟩ := Option.map_eq_some_iff.1 sent
  obtain ⟨rfl, rfl⟩ := Prod.mk.inj (Loop.run_determ ran ranLong)
  cases ended
  exact finishAttrRsp_of_seqLen_none
    (getAttribSeqLen_diverges_of_last_id ⟨1, by decide, by decide⟩ (by decide) (by decide) rfl
      (by decide) fuel _ ⟨rfl, nofun⟩) _ _

end Bluetooth.Sdp
