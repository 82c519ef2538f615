import Mathlib

set_option linter.all false

/-!
# The SDP client's parser of attribute lists

`save_attr_seq` reads the attribute list of one record from a response: a data element
sequence of attribute ids, each followed by its value, which `add_attr` parses into the
discovery database, recursing into sequences and alternatives.  The input is the response
of a remote device.  Memory is a function from positions to octets, so that a read past the
end of the message is a read like any other, and the parse keeps the position of every
octet it reads.

`add_attr` checks an element against the end it is given, and a sequence hands its own
children the end it was given rather than its own end: a child may run past the end of
its parent, and the parent then returns a pointer past its own end.  `save_attr_seq` calls
`add_attr` after an attribute id without checking that an octet is left for the value's
type, which is then read past the end of the message
(`saveAttrSeq_overruns_parent_and_message`).

Every call returns a pointer past the one it was given, a fact the result type carries;
that is what makes the recursion terminate.
-/

namespace Bluetooth.Sdp

/-- The octets a parse has read, and the free space of the discovery database. -/
structure ParseState where
  memFree : Nat
  reads : List Nat
deriving DecidableEq, Repr

/-- The state after reading the octets at `positions`. -/
def ParseState.read (st : ParseState) (positions : List Nat) : ParseState :=
  { st with reads := st.reads ++ positions }

/-- `BE_STREAM_TO_UINT16` at `p`. -/
def be16 (mem : Nat → UInt8) (p : Nat) : UInt16 :=
  (mem p).toUInt16 <<< 8 ||| (mem (p + 1)).toUInt16

/-- `BE_STREAM_TO_UINT32` at `p`. -/
def be32 (mem : Nat → UInt8) (p : Nat) : UInt32 :=
  (mem p).toUInt32 <<< 24 ||| (mem (p + 1)).toUInt32 <<< 16 ||| (mem (p + 2)).toUInt32 <<< 8 |||
    (mem (p + 3)).toUInt32

/-- `BE_STREAM_TO_ARRAY` of `len` octets at `p`. -/
def octetsAt (mem : Nat → UInt8) (p len : Nat) : List UInt8 :=
  (List.range len).map fun i => mem (p + i)

/-- The positions `p, p + 1, ..., p + len - 1`. -/
def span (p len : Nat) : List Nat :=
  (List.range len).map (p + ·)

/-- `sdpu_get_len_from_type`: the position after the length field and the length, or `none`
for `NULL`, with the positions it read.  A 32-bit length is kept as its low 16 bits. -/
def getLenFromType (mem : Nat → UInt8) (p pEnd : Nat) (type : UInt8) :
    Option (Nat × Nat) × List Nat :=
  match (type &&& 7).toNat with
  | 0 => (some (p, 1), [])
  | 1 => (some (p, 2), [])
  | 2 => (some (p, 4), [])
  | 3 => (some (p, 8), [])
  | 4 => (some (p, 16), [])
  | 5 => if pEnd < p + 1 then (none, []) else (some (p + 1, (mem p).toNat), [p])
  | 6 => if pEnd < p + 2 then (none, []) else (some (p + 2, (be16 mem p).toNat), span p 2)
  | _ => if pEnd < p + 4 then (none, []) else (some (p + 4, (be16 mem (p + 2)).toNat), span p 4)

theorem le_of_getLenFromType {mem : Nat → UInt8} {p pEnd : Nat} {type : UInt8} {next len : Nat}
    (found : (getLenFromType mem p pEnd type).1 = some (next, len)) : p ≤ next := by
  unfold getLenFromType at found
  split at found <;> (try split at found) <;> simp at found <;> omega

/-- `sdp_base_uuid`. -/
def sdpBaseUuid : List UInt8 :=
  [0x00, 0x00, 0x00, 0x00, 0x00, 0x00, 0x10, 0x00, 0x80, 0x00, 0x00, 0x80, 0x5F, 0x9B, 0x34, 0xFB]

/-- The loop of `sdpu_is_base_uuid` from octet `xx` on, which stops at the first octet that
differs from the base UUID; with the positions it read. -/
def isBaseUuidFrom (mem : Nat → UInt8) (p : Nat) : List Nat → Bool × List Nat
  | [] => (true, [])
  | xx :: rest =>
    if mem (p + xx) ≠ sdpBaseUuid.getD xx 0 then (false, [p + xx])
    else ((isBaseUuidFrom mem p rest).1, (p + xx) :: (isBaseUuidFrom mem p rest).2)

/-- `sdpu_is_base_uuid`: only the last 12 octets are compared. -/
def isBaseUuid (mem : Nat → UInt8) (p : Nat) : Bool × List Nat :=
  isBaseUuidFrom mem p (List.range' 4 12)

mutual
/-- `tSDP_DISC_ATTR` as `add_attr` fills it. -/
inductive DiscAttr where
  | mk (attrId : UInt16) (attrLenType : UInt16) (value : DiscValue)

/-- `tSDP_DISC_ATVAL`; `sub` is the chain from `p_sub_attr`, and `unset` a value the code
leaves as the zeroed database memory had it. -/
inductive DiscValue where
  | unset
  | u8 (value : UInt8)
  | u16 (value : UInt16)
  | u32 (value : UInt32)
  | array (octets : List UInt8)
  | sub (attrs : List DiscAttr)
end

/-- The sizes of the discovery database's records and attributes on the target. -/
structure DiscLayout where
  attrSize : Nat
  recSize : Nat

/-- What a call of `add_attr` leaves: the pointer it returns, `none` for `NULL` and otherwise
past the one it was given, the attribute it linked into its parent's chain, and the state. -/
structure AddAttrResult (p : Nat) where
  next : Option {q : Nat // p < q}
  linked : Option DiscAttr
  state : ParseState

/-- `(total_len + 3) & ~3`. -/
def roundUp4 (totalLen : Nat) : Nat := (totalLen + 3) / 4 * 4

/-- The value `add_attr` stores for an integer of `attr_len` octets at `p`, and the position
after it (the `TWO_COMP_INT_DESC_TYPE` case, which `UINT_DESC_TYPE` falls through to). -/
def intValue (mem : Nat → UInt8) (p attrLen : Nat) : DiscValue × Nat :=
  match attrLen with
  | 1 => (.u8 (mem p), p + 1)
  | 2 => (.u16 (be16 mem p), p + 2)
  | 4 => (.u32 (be32 mem p), p + 4)
  | _ => (.array (octetsAt mem p attrLen), p + attrLen)

theorem intValue_next (mem : Nat → UInt8) (p attrLen : Nat) :
    (intValue mem p attrLen).2 = p + attrLen := by
  unfold intValue
  split <;> rfl

variable (layout : DiscLayout) (mem : Nat → UInt8)

mutual
/-- `add_attr(p, p_end, p_db, p_rec, attr_id, p_parent_attr, nest_level)`. -/
def addAttr (pEnd : Nat) (attrId : UInt16) (nestLevel : UInt8) (p : Nat) (st : ParseState) :
    AddAttrResult p :=
  let isAdditionalList := nestLevel &&& 0x80
  let nestLevel := nestLevel &&& 0x7F
  let type := mem p
  let st := st.read [p]
  match found : (getLenFromType mem (p + 1) pEnd type).1 with
  | none => ⟨none, none, st.read (getLenFromType mem (p + 1) pEnd type).2⟩
  | some (q, attrLen) =>
    let st := st.read (getLenFromType mem (p + 1) pEnd type).2
    have after : p < q := Nat.lt_of_lt_of_le (Nat.lt_succ_self p) (le_of_getLenFromType found)
    if long : pEnd < q + attrLen then ⟨none, none, st⟩ else
    let attrLen := attrLen &&& 0x0FFF
    let attrType := (type >>> 3) &&& 0x0F
    let totalLen := if attrLen > 4 then attrLen - 4 + layout.attrSize else layout.attrSize
    let pAttrEnd := q + attrLen
    if beyond : pEnd < pAttrEnd then ⟨none, none, st⟩ else
    let totalLen := roundUp4 totalLen
    if st.memFree < totalLen then ⟨none, none, st⟩ else
    let lenType : UInt16 := attrLen.toUInt16 ||| attrType.toUInt16 <<< 12
    -- the attribute is linked into its parent's chain and `p` returned
    let done (value : DiscValue) (r : Nat) (later : p < r) (lenType : UInt16) (st : ParseState) :
        AddAttrResult p :=
      ⟨some ⟨r, later⟩, some (.mk attrId lenType value),
        { st with memFree := st.memFree - totalLen }⟩
    -- `return p_attr_end` before the attribute is linked
    let bail (st : ParseState) : AddAttrResult p :=
      ⟨some ⟨pAttrEnd, by omega⟩, none, st⟩
    let integer (st : ParseState) : AddAttrResult p :=
      done (intValue mem q attrLen).1 (intValue mem q attrLen).2
        (by rw [intValue_next]; omega) lenType (st.read (span q attrLen))
    match attrType.toNat with
    | 1 =>
      if isAdditionalList ≠ 0 ∧ attrLen = 2 then
        if be16 mem q ≠ 0x0004 then integer (st.read (span q 2)) else
        let st := { st.read (span q 2) with memFree := st.memFree - layout.attrSize }
        if nestLevel ≥ 5 then bail st else
        let nested := addAttr pEnd 0x0004 (nestLevel + 1) (q + 2) st
        ⟨nested.next.map fun r => ⟨r.1, by omega⟩, some (.mk attrId lenType (.sub nested.linked.toList)),
          nested.state⟩
      else integer st
    | 2 => integer st
    | 3 =>
      match attrLen with
      | 2 => done (.u16 (be16 mem q)) (q + 2) (by omega) lenType (st.read (span q 2))
      | 4 =>
        if be32 mem q < 0x10000 then
          done (.u16 (be32 mem q).toUInt16) (q + 4) (by omega) ((2 : UInt16) ||| attrType.toUInt16 <<< 12)
            (st.read (span q 4))
        else done (.u32 (be32 mem q)) (q + 4) (by omega) lenType (st.read (span q 4))
      | 16 =>
        let st := st.read (isBaseUuid mem q).2
        if (isBaseUuid mem q).1 then
          if mem q = 0 ∧ mem (q + 1) = 0 then
            done (.u16 (be16 mem (q + 2))) (q + 16) (by omega) (lenType &&& ~~~0x0FFF ||| 2)
              (st.read (q :: (q + 1) :: span (q + 2) 2))
          else
            done (.u32 (be32 mem q)) (q + 16) (by omega) (lenType &&& ~~~0x0FFF ||| 4)
              (st.read ((if mem q = 0 then [q, q + 1] else [q]) ++ span q 4))
        else done (.array (octetsAt mem q 16)) (q + 16) (by omega) lenType (st.read (span q 16))
      | _ => bail st
    | 6 | 7 =>
      let st := { st with memFree := st.memFree - layout.attrSize }
      if nestLevel ≥ 5 then bail st else
      let nestLevel := if isAdditionalList ≠ 0 ∨ attrId = 0x000D then nestLevel ||| 0x80 else nestLevel
      match addEntries pEnd pAttrEnd (by omega) nestLevel q st [] with
      | (none, _, st) => ⟨none, none, st⟩
      | (some r, children, st) =>
        ⟨some ⟨r.1, by have := r.2; omega⟩, some (.mk attrId lenType (.sub children)), st⟩
    | 4 | 8 => done (.array (octetsAt mem q attrLen)) (q + attrLen) (by omega) lenType
        (st.read (span q attrLen))
    | 5 =>
      if attrLen = 1 then done (.u8 (mem q)) (q + 1) (by omega) lenType (st.read [q])
      else bail st
    | _ => done .unset q after lenType st
termination_by 2 * (pEnd - p) + 1
decreasing_by all_goals omega

/-- The loop `while (p < p_attr_end)` of `add_attr` over the entries of a sequence: the
pointer after the last entry (`none` for `NULL`), the entries linked, and the state. -/
def addEntries (pEnd pAttrEnd : Nat) (bound : pAttrEnd ≤ pEnd) (nestLevel : UInt8) (p : Nat)
    (st : ParseState) (children : List DiscAttr) :
    Option {q : Nat // p ≤ q} × List DiscAttr × ParseState :=
  if inside : p < pAttrEnd then
    let entry := addAttr pEnd 0 (nestLevel + 1) p st
    match entry.next with
    | none => (none, children ++ entry.linked.toList, entry.state)
    | some ⟨q, later⟩ =>
      match addEntries pEnd pAttrEnd bound nestLevel q entry.state
          (children ++ entry.linked.toList) with
      | (r, children, st) => (r.map fun r => ⟨r.1, by have := r.2; omega⟩, children, st)
  else (some ⟨p, Nat.le_refl p⟩, children, st)
termination_by 2 * (pEnd - p) + 2
decreasing_by all_goals omega
end

/-- What `save_attr_seq` leaves: the pointer it returns (`none` for `NULL`), the attribute chain
of the record `add_record` made (`none` when the database had no room for it), and the state. -/
structure SaveResult where
  next : Option Nat
  record : Option (List DiscAttr)
  state : ParseState

/-- The loop `while (p < p_seq_end)` of `save_attr_seq`: each attribute id, checked to be a
2-octet unsigned integer inside the sequence, then its value by `add_attr`, which is given
the end of the sequence. -/
def saveAttrs (pMsgEnd pSeqEnd : Nat) (p : Nat) (st : ParseState) (attrs : List DiscAttr) :
    SaveResult :=
  if _inside : p < pSeqEnd then
    let type := mem p
    let st := st.read [p]
    match found : (getLenFromType mem (p + 1) pMsgEnd type).1 with
    | none => ⟨none, some attrs, st.read (getLenFromType mem (p + 1) pMsgEnd type).2⟩
    | some (q, attrLen) =>
      let st := st.read (getLenFromType mem (p + 1) pMsgEnd type).2
      if pSeqEnd < q + attrLen then ⟨none, some attrs, st⟩ else
      if type >>> 3 ≠ 1 ∨ attrLen ≠ 2 then ⟨none, some attrs, st⟩ else
      let value := addAttr layout mem pSeqEnd (be16 mem q) 0 (q + 2) (st.read (span q 2))
      match value.next with
      | none => ⟨none, some (attrs ++ value.linked.toList), value.state⟩
      | some ⟨r, _⟩ => saveAttrs pMsgEnd pSeqEnd r value.state (attrs ++ value.linked.toList)
  else ⟨some p, some attrs, st⟩
termination_by pSeqEnd - p
decreasing_by
  have := le_of_getLenFromType found
  omega

/-- `save_attr_seq(p_ccb, p, p_msg_end)`. -/
def saveAttrSeq (p pMsgEnd : Nat) (st : ParseState) : SaveResult :=
  let type := mem p
  let st := st.read [p]
  if type >>> 3 ≠ 6 then ⟨none, none, st⟩ else
  match (getLenFromType mem (p + 1) pMsgEnd type).1 with
  | none => ⟨none, none, st.read (getLenFromType mem (p + 1) pMsgEnd type).2⟩
  | some (q, seqLen) =>
    let st := st.read (getLenFromType mem (p + 1) pMsgEnd type).2
    if pMsgEnd < q + seqLen then ⟨none, none, st⟩ else
    if st.memFree < layout.recSize then ⟨none, none, st⟩ else
    saveAttrs layout mem pMsgEnd (q + seqLen) q { st with memFree := st.memFree - layout.recSize } []

/-- `tSDP_DISC_REC` and `tSDP_DISC_ATTR` on a 64-bit target. -/
def lp64 : DiscLayout := ⟨24, 32⟩

/-- A response in memory, followed by zeroed memory. -/
def message (octets : List UInt8) : Nat → UInt8 := fun i => octets.getD i 0

/-- The attribute list of a record whose attribute 0x0001 is a sequence of declared length 1
holding a UUID of 3 octets. -/
def overrunningList : List UInt8 := [0x35, 0x08, 0x09, 0x00, 0x01, 0x35, 0x01, 0x19, 0x11, 0x01]

/-- The attribute list of a record that ends with the id of an attribute without a value. -/
def valuelessList : List UInt8 := [0x35, 0x03, 0x09, 0x00, 0x01]

/-- The sequence at octet 5 declares one octet, ending at 8; its UUID is read up to octet 9,
and its `add_attr` returns 10, which `save_attr_seq` accepts.  After a valueless last attribute
id, the octet at the end of the message is read. -/
theorem saveAttrSeq_overruns_parent_and_message :
    (addAttr lp64 (message overrunningList) 10 0x0001 0 5 ⟨4096, []⟩).next.map Subtype.val =
        some 10 ∧
    (saveAttrSeq lp64 (message overrunningList) 0 10 ⟨4096, []⟩).next = some 10 ∧
    (saveAttrSeq lp64 (message overrunningList) 0 10 ⟨4096, []⟩).state.reads =
        [0, 1, 2, 3, 4, 5, 6, 7, 8, 9] ∧
    5 ∈ (saveAttrSeq lp64 (message valuelessList) 0 5 ⟨4096, []⟩).state.reads := by
  decide +kernel

end Bluetooth.Sdp
