import Bluetooth.Lib.ByteStream
import Bluetooth.Lib.Loop
import Bluetooth.Gatt.Database

set_option linter.all false

/-!
# The GATT client's handlers of notifications and Read By Type responses

`gatt_process_notification` hands a Handle Value Notification or Indication to every registered
client.  A Multiple Handle Value Notification carries a list of (handle, length, value) tuples.
The handler checks the first tuple and hands it over, then walks the rest while more than four
octets remain, clamping each length to the octets left.  A last tuple with an empty value leaves
exactly four octets, so it is never handed over (`gattProcessNotification_multi`), and the
handles after the first are never checked.

`gatt_process_read_by_type_rsp` walks the attribute-data elements of a Read By Type or Read By
Group Type response for the discovery of services, included services and characteristics, and
for a read of a characteristic value by UUID.

Both walk a remote PDU with a pointer.  The model keeps the pointer as an offset into the PDU and
reads through `ByteStream`, so a handler that returns `.ok` read only inside the PDU.
-/

namespace Bluetooth.Gatt

open ByteStream

/-- `GATT_NOTIFICATION_MIN_LEN`. -/
def gattNotificationMinLen : Nat := 2

/-- `GATT_MAX_ATTR_LEN`. -/
def gattMaxAttrLen : Nat := 512

/-- `GATT_HANDLE_VALUE_IND`. -/
def gattHandleValueInd : UInt8 := 0x1D

/-- `GATT_HANDLE_MULTI_VALUE_NOTIF`. -/
def gattHandleMultiValueNotif : UInt8 := 0x23

/-- `GATT_HANDLE_IS_VALID`. -/
def gattHandleIsValid (handle : UInt16) : Bool := handle != 0

/-- `tGATTC_OPTYPE`. -/
inductive GattcOptype where
  | none
  | discovery
  | read
  | write
  | exeWrite
  | config
  | notification
  | indication
  deriving DecidableEq, Repr

/-- `tGATT_VALUE` as a callback reads it: the handle and the `len` octets of the value. -/
structure GattValue where
  handle : UInt16
  value : List UInt8
  deriving DecidableEq, Repr

/-- `tGATT_DISC_VALUE`, by the member that the discovery fills in; `zero` is the record as the
`memset` leaves it. -/
inductive DiscValue where
  | zero
  | groupValue (eHandle : UInt16) (serviceType : Uuid)
  | inclService (serviceType : Uuid) (sHandle eHandle : UInt16)
  | dclrValue (charProp : UInt8) (valHandle : UInt16) (charUuid : Uuid)
  deriving DecidableEq, Repr

/-- `tGATT_DISC_RES`. -/
structure DiscRes where
  type : Uuid
  handle : UInt16
  value : DiscValue
  deriving DecidableEq, Repr

/-- What the client's response handlers call, in order. -/
inductive Action where
  /-- `attp_send_cl_confirmation_msg`. -/
  | sendConfirmation
  /-- `gatt_start_ind_ack_timer`. -/
  | startIndAckTimer
  /-- A registration's `p_cmpl_cb`, with the connection id, the event and the value. -/
  | complete (connId : UInt16) (event : GattcOptype) (value : GattValue)
  /-- `gatt_end_operation`, with a status and the offset in the PDU of its data, if any. -/
  | endOperation (status : UInt8) (data : Option Nat)
  /-- `gatt_act_read` from an offset. -/
  | actRead (offset : Nat)
  /-- `gatt_act_discovery`. -/
  | actDiscovery
  /-- The registration's `p_disc_res_cb`, with the discovery type and the result. -/
  | discRes (discType : UInt8) (result : DiscRes)
  deriving DecidableEq, Repr

/-! ## Notifications -/

/-- An entry of `gatt_cb.cl_rcb`: in use, with a completion callback `p_cmpl_cb`, for the
interface `gatt_if`. -/
structure Reg where
  inUse : Bool
  cmplCb : Bool
  gattIf : UInt8
  deriving DecidableEq, Repr

/-- The fields of `tGATT_TCB` that a notification reads or sets. -/
structure Tcb where
  tcbIdx : UInt8
  indCount : UInt8
  deriving DecidableEq, Repr

/-- `GATT_CREATE_CONN_ID`. -/
def gattCreateConnId (tcbIdx gattIf : UInt8) : UInt16 :=
  (tcbIdx.toUInt16 <<< 8) ||| gattIf.toUInt16

/-- The registrations whose completion callback is called: `in_use && app_cb.p_cmpl_cb`. -/
def Reg.called (reg : Reg) : Bool := reg.inUse && reg.cmplCb

/-- The loop over `gatt_cb.cl_rcb` that hands one value to every called registration. -/
def deliver (clRcb : List Reg) (tcbIdx : UInt8) (event : GattcOptype) (value : GattValue) :
    List Action :=
  (clRcb.filter Reg.called).map fun reg =>
    .complete (gattCreateConnId tcbIdx reg.gattIf) event value

/-- An indication sets `ind_count` to the number of called registrations and starts the
confirmation timer, or confirms at once when no registration is called. -/
def indicate (clRcb : List Reg) (tcb : Tcb) : Tcb × List Action :=
  let indCount : UInt8 := UInt8.ofNat (clRcb.filter Reg.called).length
  ({ tcb with indCount }, if indCount > 0 then [.startIndAckTimer] else [.sendConfirmation])

/-- The pointer `p`, as an offset into the PDU, and the `int16_t` `rem_len` of the loop over the
tuples after the first, with the calls made so far. -/
structure MultiValueLoop where
  pos : Nat
  remLen : Int
  actions : List Action
  inRange : -32768 ≤ remLen ∧ remLen < 32768

/-- One iteration of the loop over the tuples after the first: while more than four octets
remain, read a handle and a length, clamp the length to the octets left, and hand the value
over. -/
def multiValueStep (report : GattValue → List Action) (pData : List UInt8)
    (loop : MultiValueLoop) : Except Nat (MultiValueLoop ⊕ List Action) :=
  if 4 < loop.remLen then do
    let handle ← u16 pData loop.pos
    let len ← u16 pData (loop.pos + 2)
    let remLen := wrapInt16 (loop.remLen - 4)
    -- `std::min((uint16_t)rem_len, value.len)`
    let valueLen := min (remLen % 65536).toNat len.toNat
    let value ← octets pData (loop.pos + 4) valueLen
    return .inl ⟨loop.pos + 4 + valueLen, wrapInt16 (remLen - valueLen),
      loop.actions ++ report ⟨handle, value⟩, wrapInt16_mem _⟩
  else return .inr loop.actions

/-- What an iteration that goes on does: it read a handle, a length and a value of at most the
octets left, and `rem_len` dropped by the octets read. -/
theorem multiValueStep_eq_inl {report : GattValue → List Action} {pData : List UInt8}
    {loop next : MultiValueLoop} (continues : multiValueStep report pData loop = .ok (.inl next)) :
    ∃ handle len value, 4 < loop.remLen ∧ u16 pData loop.pos = .ok handle ∧
      u16 pData (loop.pos + 2) = .ok len ∧
      octets pData (loop.pos + 4) (min (loop.remLen - 4).toNat len.toNat) = .ok value ∧
      next.pos = loop.pos + 4 + min (loop.remLen - 4).toNat len.toNat ∧
      next.remLen = loop.remLen - 4 - min (loop.remLen - 4).toNat len.toNat ∧
      next.actions = loop.actions ++ report ⟨handle, value⟩ := by
  unfold multiValueStep at continues
  split at continues
  · rename_i more
    have inRange := loop.inRange
    have unwrapped : wrapInt16 (loop.remLen - 4) = loop.remLen - 4 :=
      wrapInt16_of_le (by omega) (by omega)
    have unsigned : ((loop.remLen - 4) % 65536).toNat = (loop.remLen - 4).toNat := by omega
    obtain ⟨handle, readHandle, continues⟩ := bind_eq_ok.mp continues
    obtain ⟨len, readLen, continues⟩ := bind_eq_ok.mp continues
    obtain ⟨value, readValue, continues⟩ := bind_eq_ok.mp continues
    simp only [unwrapped, unsigned, pure_eq_ok, Except.ok.injEq, Sum.inl.injEq]
      at readValue continues
    subst continues
    refine ⟨handle, len, value, more, readHandle, readLen, readValue, rfl, ?_, rfl⟩
    exact wrapInt16_of_le (by omega) (by omega)
  · simp at continues

theorem remLen_multiValueStep_lt (report : GattValue → List Action) (pData : List UInt8) :
    ∀ loop next, multiValueStep report pData loop = .ok (.inl next) →
      next.remLen.toNat < loop.remLen.toNat := by
  intro loop next continues
  obtain ⟨_, _, _, more, -, -, -, -, remLen, -⟩ := multiValueStep_eq_inl continues
  omega

/-- The loop of `gatt_process_notification` over the tuples after the first. -/
def multiValueLoop (report : GattValue → List Action) (pData : List UInt8) :
    MultiValueLoop → Except Nat (List Action) :=
  Loop.runMeasured (multiValueStep report pData) (fun loop => loop.remLen.toNat)
    (remLen_multiValueStep_lt report pData)

/-- The length of the first value, or `none` when the PDU is discarded: a multiple handle value
notification gives it in a field that must fit in the PDU, and the others take the rest of the
PDU. -/
def firstValueLen (opCode : UInt8) (len : Nat) (pData : List UInt8) : Except Nat (Option Nat) :=
  if opCode = gattHandleMultiValueNotif then
    if len < gattNotificationMinLen + 2 then .ok none
    else do
      let valueLen ← u16 pData 2
      return if valueLen.toNat > len - 4 then none else some valueLen.toNat
  else .ok (some (len - 2))

/-- The offset of the first value: after its handle, and after its length field in a multiple
handle value notification. -/
def firstValueOffset (opCode : UInt8) : Nat := if opCode = gattHandleMultiValueNotif then 4 else 2

/-- The event that a notification PDU is handed over as. -/
def notificationEvent (opCode : UInt8) : GattcOptype :=
  if opCode = gattHandleValueInd then .indication else .notification

/-- What precedes the callbacks: an indication's bookkeeping, nothing for a notification. -/
def acknowledge (clRcb : List Reg) (tcb : Tcb) (opCode : UInt8) : Tcb × List Action :=
  if notificationEvent opCode = .indication then indicate clRcb tcb else (tcb, [])

/-- A first value that passed the checks: the acknowledgement, the value handed over, and for a
multiple handle value notification the loop over the tuples after it, with `rem_len` the
`int16_t` of `len` less the first tuple. -/
def handOver (clRcb : List Reg) (tcb : Tcb) (opCode : UInt8) (len : UInt16) (pData : List UInt8)
    (handle : UInt16) (valueLen : Nat) : Except Nat (Tcb × List Action) := do
  let report := deliver clRcb tcb.tcbIdx (notificationEvent opCode)
  let value ← octets pData (firstValueOffset opCode) valueLen
  let rest ← (if opCode = gattHandleMultiValueNotif then
      multiValueLoop report pData ⟨firstValueOffset opCode + valueLen,
        wrapInt16 (wrapInt16 len.toNat - (4 + valueLen)), [], wrapInt16_mem _⟩
    else .ok [])
  return ((acknowledge clRcb tcb opCode).1,
    (acknowledge clRcb tcb opCode).2 ++ report ⟨handle, value⟩ ++ rest)

/-- `gatt_process_notification` on a PDU `pData` of `len` octets after the opcode: the new
indication count and the calls made, or the offset of a read outside the PDU. -/
def gattProcessNotification (clRcb : List Reg) (tcb : Tcb) (opCode : UInt8) (len : UInt16)
    (pData : List UInt8) : Except Nat (Tcb × List Action) :=
  if len.toNat < gattNotificationMinLen then .ok (tcb, [])
  else do
    let handle ← u16 pData 0
    if gattHandleIsValid handle then do
      let valueLen ← firstValueLen opCode len.toNat pData
      match valueLen with
      | none => return (tcb, [])
      | some valueLen =>
        if valueLen > gattMaxAttrLen then return (tcb, [])
        else handOver clRcb tcb opCode len pData handle valueLen
    else return (tcb, if opCode = gattHandleValueInd then [.sendConfirmation] else [])

section MultiValueLoop

variable {report : GattValue → List Action} {pData : List UInt8}

/-- With no more octets in `rem_len` than the PDU has from the pointer on, an iteration reads
only inside the PDU. -/
theorem multiValueStep_ok {loop : MultiValueLoop}
    (inside : (loop.pos : Int) + loop.remLen ≤ pData.length) :
    ∃ outcome, multiValueStep report pData loop = .ok outcome := by
  unfold multiValueStep
  split
  · rename_i more
    have inRange := loop.inRange
    apply exists_ok_bind ⟨_, u16_of_le (by omega)⟩
    intro handle
    apply exists_ok_bind ⟨_, u16_of_le (by omega)⟩
    intro len
    apply exists_ok_bind ⟨_, octets_of_le ?_⟩
    · intro value
      exact ⟨_, rfl⟩
    · unfold wrapInt16
      omega
  · exact ⟨_, rfl⟩

/-- An iteration moves the pointer by the octets it takes off `rem_len`. -/
theorem multiValueStep_keeps {loop next : MultiValueLoop}
    (continues : multiValueStep report pData loop = .ok (.inl next)) :
    (next.pos : Int) + next.remLen = loop.pos + loop.remLen := by
  obtain ⟨_, _, _, _, -, -, -, pos, remLen, -⟩ := multiValueStep_eq_inl continues
  omega

/-- The loop over the tuples after the first reads only inside the PDU. -/
theorem multiValueLoop_ok {loop : MultiValueLoop}
    (inside : (loop.pos : Int) + loop.remLen ≤ pData.length) :
    ∃ actions, multiValueLoop report pData loop = .ok actions := by
  apply Loop.runMeasured_ok
    (fun loop : MultiValueLoop => (loop.pos : Int) + loop.remLen ≤ pData.length)
  · intro loop next inside continues
    rw [← multiValueStep_keeps continues] at inside
    exact inside
  · intro loop inside
    exact multiValueStep_ok inside
  · exact inside

end MultiValueLoop

/-! ## Well-formed Multiple Handle Value Notifications -/

/-- A well-formed (handle, length, value) tuple of a Multiple Handle Value Notification: a valid
handle, and a value whose length fits the two-octet length field. -/
structure HandleValue where
  handle : UInt16
  value : List UInt8
  valid : handle ≠ 0
  fits : value.length < 2 ^ 16

/-- The tuple's octets: handle, length, value. -/
def HandleValue.encode (tuple : HandleValue) : List UInt8 :=
  le16 tuple.handle ++ le16 (UInt16.ofNat tuple.value.length) ++ tuple.value

/-- What a callback is handed of the tuple. -/
def HandleValue.toGattValue (tuple : HandleValue) : GattValue := ⟨tuple.handle, tuple.value⟩

/-- The octets after the opcode of a Multiple Handle Value Notification of the tuples. -/
def multiValuePdu (tuples : List HandleValue) : List UInt8 := tuples.flatMap HandleValue.encode

/-- The tuples after the first that `gatt_process_notification` hands over: all of them but a
last one with an empty value. -/
def handedOver : List HandleValue → List HandleValue
  | [] => []
  | [last] => if last.value = [] then [] else [last]
  | tuple :: next :: rest => tuple :: handedOver (next :: rest)

theorem handedOver_cons {tuple : HandleValue} {rest : List HandleValue} (following : rest ≠ []) :
    handedOver (tuple :: rest) = tuple :: handedOver rest := by
  obtain ⟨next, rest, rfl⟩ := List.exists_cons_of_ne_nil following
  rfl

/-- A last tuple with an empty value is not handed over. -/
theorem handedOver_append_empty (middle : List HandleValue) {last : HandleValue}
    (empty : last.value = []) : handedOver (middle ++ [last]) = middle := by
  induction middle with
  | nil => simp [handedOver, empty]
  | cons tuple middle induction =>
    rw [List.cons_append, handedOver_cons (by simp), induction]

/-- When the last tuple has a value, every tuple is handed over. -/
theorem handedOver_append_nonempty (middle : List HandleValue) {last : HandleValue}
    (nonempty : last.value ≠ []) : handedOver (middle ++ [last]) = middle ++ [last] := by
  induction middle with
  | nil => simp [handedOver, nonempty]
  | cons tuple middle induction =>
    rw [List.cons_append, handedOver_cons (by simp), induction]

@[simp] theorem length_encode (tuple : HandleValue) :
    tuple.encode.length = 4 + tuple.value.length := by
  simp [HandleValue.encode]
  omega

@[simp] theorem multiValuePdu_nil : multiValuePdu [] = [] := rfl

@[simp] theorem multiValuePdu_cons (tuple : HandleValue) (rest : List HandleValue) :
    multiValuePdu (tuple :: rest) = tuple.encode ++ multiValuePdu rest := rfl

section Encode

variable (tuple : HandleValue) (front back : List UInt8)

theorem u16_encode_handle :
    u16 (front ++ tuple.encode ++ back) front.length = .ok tuple.handle := by
  simpa [HandleValue.encode, List.append_assoc] using
    u16_le16 front tuple.handle (le16 (UInt16.ofNat tuple.value.length) ++ tuple.value ++ back)

theorem u16_encode_length :
    u16 (front ++ tuple.encode ++ back) (front.length + 2) =
      .ok (UInt16.ofNat tuple.value.length) := by
  simpa [HandleValue.encode, List.append_assoc] using
    u16_le16 (front ++ le16 tuple.handle) (UInt16.ofNat tuple.value.length) (tuple.value ++ back)

theorem octets_encode_value :
    octets (front ++ tuple.encode ++ back) (front.length + 4) tuple.value.length =
      .ok tuple.value := by
  simpa [HandleValue.encode, List.append_assoc, Nat.add_assoc] using
    octets_append (front ++ le16 tuple.handle ++ le16 (UInt16.ofNat tuple.value.length))
      tuple.value back

theorem toNat_length_field : (UInt16.ofNat tuple.value.length).toNat = tuple.value.length :=
  Nat.mod_eq_of_lt tuple.fits

end Encode

/-- An iteration at a handle and a length field, with `rem_len` the octets from the handle to
the end of the PDU, hands over that handle, whatever it is, with at most `len` of the octets
that follow, and moves past them. -/
theorem multiValueStep_le16 {report : GattValue → List Action} (handle len : UInt16)
    (front rest : List UInt8) {loop : MultiValueLoop} (pos : loop.pos = front.length)
    (remLen : loop.remLen = ((4 + rest.length : Nat) : Int)) (more : 4 < loop.remLen) :
    ∃ next, multiValueStep report (front ++ le16 handle ++ le16 len ++ rest) loop =
        .ok (.inl next) ∧
      next.pos = front.length + 4 + min rest.length len.toNat ∧
      next.remLen = ((rest.length - min rest.length len.toNat : Nat) : Int) ∧
      next.actions = loop.actions ++ report ⟨handle, rest.take len.toNat⟩ := by
  have inRange := loop.inRange
  have unwrapped : wrapInt16 (loop.remLen - 4) = loop.remLen - 4 :=
    wrapInt16_of_le (by omega) (by omega)
  have clamp : min ((wrapInt16 (loop.remLen - 4)) % 65536).toNat len.toNat =
      min rest.length len.toNat := by
    rw [unwrapped]
    omega
  have after : wrapInt16 (wrapInt16 (loop.remLen - 4) - (min rest.length len.toNat : Nat)) =
      ((rest.length - min rest.length len.toNat : Nat) : Int) := by
    rw [unwrapped, wrapInt16_of_le (by omega) (by omega)]
    omega
  have readHandle : u16 (front ++ le16 handle ++ le16 len ++ rest) front.length = .ok handle := by
    simpa [List.append_assoc] using u16_le16 front handle (le16 len ++ rest)
  have readLen : u16 (front ++ le16 handle ++ le16 len ++ rest) (front.length + 2) = .ok len := by
    simpa using u16_le16 (front ++ le16 handle) len rest
  have readValue : octets (front ++ le16 handle ++ le16 len ++ rest) (front.length + 4)
      (min rest.length len.toNat) = .ok (rest.take len.toNat) := by
    have dropped : (front ++ le16 handle ++ le16 len ++ rest).drop (front.length + 4) = rest := by
      simp [le16, List.append_assoc]
    rw [octets_of_le (by simp; omega), slice, dropped, Nat.add_sub_cancel_left, Nat.min_comm,
      ← List.take_take, List.take_length]
  simp only [multiValueStep, if_pos more, pos, readHandle, readLen, ok_bind, clamp, readValue,
    after]
  exact ⟨_, rfl, rfl, rfl, rfl⟩

/-- An iteration at a tuple, with `rem_len` the octets of the tuple and of what follows it,
hands the tuple over and moves past it. -/
theorem multiValueStep_encode {report : GattValue → List Action} (tuple : HandleValue)
    (front back : List UInt8) {loop : MultiValueLoop} (pos : loop.pos = front.length)
    (remLen : loop.remLen = ((4 + tuple.value.length + back.length : Nat) : Int))
    (more : 4 < loop.remLen) :
    ∃ next, multiValueStep report (front ++ tuple.encode ++ back) loop = .ok (.inl next) ∧
      next.pos = front.length + tuple.encode.length ∧ next.remLen = back.length ∧
      next.actions = loop.actions ++ report tuple.toGattValue := by
  obtain ⟨next, stepped, nextPos, nextRemLen, actions⟩ :=
    @multiValueStep_le16 report tuple.handle (UInt16.ofNat tuple.value.length) front
      (tuple.value ++ back) loop pos (by simp [remLen]; omega) more
  rw [toNat_length_field] at nextPos nextRemLen actions
  refine ⟨next, by simpa [HandleValue.encode, List.append_assoc] using stepped, ?_, ?_, ?_⟩
  · simp only [nextPos, length_encode, List.length_append]
    omega
  · simp only [nextRemLen, List.length_append]
    omega
  · simp [actions, HandleValue.toGattValue]

/-- The loop over well-formed tuples, with `rem_len` their octets, hands over the tuples of
`handedOver`. -/
theorem multiValueLoop_multiValuePdu (report : GattValue → List Action)
    (tuples : List HandleValue) :
    ∀ (front : List UInt8) (loop : MultiValueLoop), loop.pos = front.length →
      loop.remLen = ((multiValuePdu tuples).length : Int) →
      multiValueLoop report (front ++ multiValuePdu tuples) loop =
        .ok (loop.actions ++
          (handedOver tuples).flatMap fun tuple => report tuple.toGattValue) := by
  induction tuples using handedOver.induct with
  | case1 =>
    intro front loop _ remLen
    rw [multiValueLoop, Loop.runMeasured_of_inr]
    simp [multiValueStep, remLen, handedOver]
  | case2 last empty =>
    intro front loop _ remLen
    rw [multiValueLoop, Loop.runMeasured_of_inr]
    simp [multiValueStep, remLen, empty, handedOver]
  | case3 last nonempty =>
    intro front loop pos remLen
    simp only [multiValuePdu_cons, multiValuePdu_nil, List.append_nil, length_encode] at remLen ⊢
    have more : 4 < loop.remLen := by
      have := List.length_pos_of_ne_nil nonempty
      omega
    obtain ⟨next, stepped, -, nextRemLen, actions⟩ :=
      @multiValueStep_encode report last front [] loop pos (by simpa using remLen) more
    rw [List.append_nil] at stepped
    rw [multiValueLoop, Loop.runMeasured_of_inl stepped, Loop.runMeasured_of_inr]
    simp [multiValueStep, nextRemLen, actions, handedOver, nonempty]
  | case4 tuple next rest induction =>
    intro front loop pos remLen
    have following : 4 ≤ (multiValuePdu (next :: rest)).length := by
      simp only [multiValuePdu_cons, List.length_append, length_encode]
      omega
    rw [multiValuePdu_cons tuple, List.length_append, length_encode] at remLen
    obtain ⟨after, stepped, afterPos, afterRemLen, actions⟩ :=
      @multiValueStep_encode report tuple front (multiValuePdu (next :: rest)) loop pos
        (by simpa using remLen) (by omega)
    rw [multiValuePdu_cons tuple, ← List.append_assoc, multiValueLoop,
      Loop.runMeasured_of_inl stepped, ← multiValueLoop,
      induction (front ++ tuple.encode) after (by simpa using afterPos) afterRemLen, actions]
    simp [handedOver]

section Notification

variable {clRcb : List Reg} {tcb : Tcb} {opCode : UInt8} {pData : List UInt8}

theorem firstValueLen_ok {len : Nat} (inside : len ≤ pData.length) :
    ∃ valueLen, firstValueLen opCode len pData = .ok valueLen := by
  unfold firstValueLen
  split
  · split
    · exact ⟨_, rfl⟩
    · apply exists_ok_bind ⟨_, u16_of_le (by unfold gattNotificationMinLen at *; omega)⟩
      intro field
      exact ⟨_, rfl⟩
  · exact ⟨_, rfl⟩

/-- The first value that is not discarded lies inside the PDU, after its offset. -/
theorem firstValueLen_fits {len valueLen : Nat} (long : gattNotificationMinLen ≤ len)
    (first : firstValueLen opCode len pData = .ok (some valueLen)) :
    firstValueOffset opCode + valueLen ≤ len := by
  unfold firstValueLen at first
  unfold firstValueOffset
  split at first
  · rename_i multi
    rw [if_pos multi]
    split at first
    · cases first
    · obtain ⟨field, -, first⟩ := bind_eq_ok.mp first
      simp only [pure_eq_ok, Except.ok.injEq] at first
      split at first
      · cases first
      · cases first
        simp only [gattNotificationMinLen] at *
        omega
  · rename_i single
    rw [if_neg single]
    cases first
    unfold gattNotificationMinLen at long
    omega

/-- `rem_len` starts at no more than the octets after the first tuple. -/
theorem remLen_le {len first : Nat} (short : len < 65536) (fits : 4 + first ≤ len) :
    wrapInt16 (wrapInt16 len - (4 + (first : Int))) ≤ ((len - (4 + first) : Nat) : Int) := by
  unfold wrapInt16
  omega

/-- Handing over a first value that lies inside the PDU reads only inside the PDU. -/
theorem handOver_ok {len : UInt16} {handle : UInt16} {valueLen : Nat}
    (exact : pData.length = len.toNat) (fits : firstValueOffset opCode + valueLen ≤ len.toNat) :
    ∃ result, handOver clRcb tcb opCode len pData handle valueLen = .ok result := by
  apply exists_ok_bind ⟨_, octets_of_le (by omega)⟩
  intro value
  apply exists_ok_bind
  · split
    · rename_i multi
      have offset : firstValueOffset opCode = 4 := if_pos multi
      rw [offset] at fits ⊢
      apply multiValueLoop_ok
      have start := remLen_le len.toNat_lt fits
      dsimp only
      omega
    · exact ⟨_, rfl⟩
  · intro rest
    exact ⟨_, rfl⟩

/-- `gatt_process_notification` reads only inside the PDU, whatever the PDU holds. -/
theorem gattProcessNotification_ok {len : UInt16} (exact : pData.length = len.toNat) :
    ∃ result, gattProcessNotification clRcb tcb opCode len pData = .ok result := by
  unfold gattProcessNotification
  split
  · exact ⟨_, rfl⟩
  · rename_i long
    apply exists_ok_bind ⟨_, u16_of_le (by unfold gattNotificationMinLen at long; omega)⟩
    intro handle
    split
    · obtain ⟨valueLen, first⟩ := @firstValueLen_ok opCode pData len.toNat (by omega)
      rw [first, ok_bind]
      cases valueLen with
      | none => exact ⟨_, rfl⟩
      | some valueLen =>
        simp only
        split
        · exact ⟨_, rfl⟩
        · exact handOver_ok exact (firstValueLen_fits (Nat.not_lt.mp long) first)
    · exact ⟨_, rfl⟩

end Notification

/-! ### Multiple handle value notifications of well-formed tuples -/

section Multi

variable {clRcb : List Reg} {tcb : Tcb} (first : HandleValue) (tail : List UInt8)

theorem notificationEvent_multi : notificationEvent gattHandleMultiValueNotif = .notification := rfl

theorem acknowledge_multi : acknowledge clRcb tcb gattHandleMultiValueNotif = (tcb, []) := rfl

theorem firstValueLen_encode :
    firstValueLen gattHandleMultiValueNotif (first.encode ++ tail).length (first.encode ++ tail) =
      .ok (some first.value.length) := by
  have readLength := u16_encode_length first [] tail
  simp only [List.nil_append, List.length_nil, Nat.zero_add] at readLength
  have length : (first.encode ++ tail).length = 4 + first.value.length + tail.length := by simp
  rw [firstValueLen, if_pos rfl, if_neg (by unfold gattNotificationMinLen; omega), readLength,
    ok_bind, toNat_length_field, if_neg (by omega)]
  rfl

/-- A multiple handle value notification that starts with a well-formed tuple, with a first value
of at most `GATT_MAX_ATTR_LEN` octets and a length that an `int16_t` holds, hands the first tuple
over and then whatever the loop hands over from the octets after it. -/
theorem gattProcessNotification_encode {rest : List Action}
    (small : first.value.length ≤ gattMaxAttrLen) (short : (first.encode ++ tail).length < 32768)
    (ran : ∀ loop : MultiValueLoop, loop.pos = first.encode.length →
      loop.remLen = tail.length → loop.actions = [] →
      multiValueLoop (deliver clRcb tcb.tcbIdx .notification) (first.encode ++ tail) loop =
        .ok rest) :
    gattProcessNotification clRcb tcb gattHandleMultiValueNotif
        (UInt16.ofNat (first.encode ++ tail).length) (first.encode ++ tail) =
      .ok (tcb, deliver clRcb tcb.tcbIdx .notification first.toGattValue ++ rest) := by
  have exact : (UInt16.ofNat (first.encode ++ tail).length).toNat = (first.encode ++ tail).length :=
    Nat.mod_eq_of_lt (by omega)
  have length : (first.encode ++ tail).length = 4 + first.value.length + tail.length := by simp
  have readHandle := u16_encode_handle first [] tail
  have readValue := octets_encode_value first [] tail
  simp only [List.nil_append, List.length_nil, Nat.zero_add] at readHandle readValue
  have valid : gattHandleIsValid first.handle = true := by
    simpa [gattHandleIsValid] using first.valid
  have remLen : wrapInt16 (wrapInt16 ((first.encode ++ tail).length : Int) -
      (4 + (first.value.length : Int))) = tail.length := by
    rw [@wrapInt16_of_le ((first.encode ++ tail).length : Int) (by omega) (by omega),
      wrapInt16_of_le (by omega) (by omega)]
    omega
  have offset : firstValueOffset gattHandleMultiValueNotif = 4 := rfl
  have long : ¬(first.encode ++ tail).length < gattNotificationMinLen := by
    unfold gattNotificationMinLen
    omega
  rw [gattProcessNotification, exact, if_neg long, readHandle, ok_bind, if_pos valid,
    firstValueLen_encode, ok_bind]
  simp only
  rw [if_neg (Nat.not_lt.mpr small), handOver, notificationEvent_multi, acknowledge_multi, offset,
    readValue, ok_bind, if_pos rfl, ran _ ?pos ?remLen rfl]
  case pos => simp
  case remLen =>
    dsimp only
    rw [exact, remLen]
  simp [HandleValue.toGattValue]

/-- A multiple handle value notification of well-formed tuples, with a first value of at most
`GATT_MAX_ATTR_LEN` octets and a length that an `int16_t` holds, hands every called registration
the tuples in order, except a last tuple with an empty value. -/
theorem gattProcessNotification_multi (rest : List HandleValue)
    (small : first.value.length ≤ gattMaxAttrLen)
    (short : (multiValuePdu (first :: rest)).length < 32768) :
    gattProcessNotification clRcb tcb gattHandleMultiValueNotif
        (UInt16.ofNat (multiValuePdu (first :: rest)).length) (multiValuePdu (first :: rest)) =
      .ok (tcb, (first :: handedOver rest).flatMap fun tuple =>
        deliver clRcb tcb.tcbIdx .notification tuple.toGattValue) := by
  rw [multiValuePdu_cons] at short ⊢
  rw [@gattProcessNotification_encode clRcb tcb first (multiValuePdu rest)
    ((handedOver rest).flatMap fun tuple =>
      deliver clRcb tcb.tcbIdx .notification tuple.toGattValue)
    small short]
  · simp
  · intro loop pos remLen actions
    rw [multiValueLoop_multiValuePdu _ rest first.encode loop pos remLen, actions, List.nil_append]

/-- After a well-formed first tuple, a handle and a length field are handed over with the octets
that follow them, when the length runs past the end of the PDU: the handle is never checked. -/
theorem gattProcessNotification_past_end (handle len : UInt16) (value : List UInt8)
    (small : first.value.length ≤ gattMaxAttrLen)
    (short : (first.encode ++ (le16 handle ++ le16 len ++ value)).length < 32768)
    (nonempty : value ≠ []) (past : value.length ≤ len.toNat) :
    gattProcessNotification clRcb tcb gattHandleMultiValueNotif
        (UInt16.ofNat (first.encode ++ (le16 handle ++ le16 len ++ value)).length)
        (first.encode ++ (le16 handle ++ le16 len ++ value)) =
      .ok (tcb, deliver clRcb tcb.tcbIdx .notification first.toGattValue ++
        deliver clRcb tcb.tcbIdx .notification ⟨handle, value⟩) := by
  apply gattProcessNotification_encode first _ small short
  intro loop pos remLen actions
  have some := List.length_pos_of_ne_nil nonempty
  obtain ⟨next, stepped, -, nextRemLen, nextActions⟩ :=
    @multiValueStep_le16 (deliver clRcb tcb.tcbIdx .notification) handle len first.encode value
      loop pos (by simp [remLen]; omega) (by simp [remLen]; omega)
  simp only [List.append_assoc] at stepped ⊢
  rw [multiValueLoop, Loop.runMeasured_of_inl stepped, Loop.runMeasured_of_inr]
  simp [multiValueStep, nextRemLen, nextActions, actions, Nat.min_eq_left past,
    List.take_of_length_le past]

end Multi

/-! ## Read By Type and Read By Group Type responses -/

/-- `GATT_READ_BY_TYPE_RSP_MIN_LEN`. -/
def gattReadByTypeRspMinLen : Nat := 1

/-- `GATT_RSP_READ_BY_TYPE`. -/
def gattRspReadByType : UInt8 := 0x09

/-- `GATT_RSP_READ_BY_GRP_TYPE`. -/
def gattRspReadByGrpType : UInt8 := 0x11

/-- `GATT_DISC_SRVC_ALL`. -/
def gattDiscSrvcAll : UInt8 := 1

/-- `GATT_DISC_INC_SRVC`. -/
def gattDiscIncSrvc : UInt8 := 3

/-- `GATT_READ_BY_TYPE`. -/
def gattReadByType : UInt8 := 1

/-- `GATT_READ_BY_HANDLE`. -/
def gattReadByHandle : UInt8 := 2

/-- `GATT_SUCCESS`. -/
def gattSuccess : UInt8 := 0x00

/-- `GATT_INVALID_HANDLE`. -/
def gattInvalidHandle : UInt8 := 0x01

/-- `GATT_INVALID_PDU`. -/
def gattInvalidPdu : UInt8 := 0x04

/-- `GATT_INTERNAL_ERROR`. -/
def gattInternalError : UInt8 := 0x81

/-- `GATT_ERROR`. -/
def gattError : UInt8 := 0x85

/-- `disc_type_to_uuid`: the attribute type that each discovery reads by. -/
def discTypeToUuid : List UInt16 :=
  [0, gattUuidPriService, gattUuidPriService, gattUuidIncludeService, gattUuidCharDeclare, 0]

/-- `read_uuid128` of `tGATT_CLCB`: an included service whose 128-bit UUID is read next. -/
structure ReadUuid128 where
  waitForReadRsp : Bool
  nextDiscStartHdl : UInt16
  result : DiscRes
  deriving DecidableEq, Repr

/-- The fields of `tGATT_CLCB` that a Read By Type response reads or sets.  `discResCb` is
`p_reg != NULL && p_reg->app_cb.p_disc_res_cb != NULL`, and `attrBuf` the octets written to
`p_attr_buf` once it is allocated. -/
structure Clcb where
  operation : GattcOptype
  opSubtype : UInt8
  sHandle : UInt16
  counter : Nat
  uuid : Uuid
  discResCb : Bool
  readUuid128 : ReadUuid128
  attrBuf : Option (List UInt8)
  deriving DecidableEq, Repr

/-- `gatt_parse_uuid_from_cmd`: the UUID of `uuid_size` octets at `pos` and the pointer after it;
a size of 0 leaves the UUID and the pointer, and any other size fails with `none`. -/
def gattParseUuidFromCmd (uuidRec : Uuid) (uuidSize : Nat) (pData : List UInt8) (pos : Nat) :
    Except Nat (Option (Uuid × Nat)) :=
  if uuidSize = Uuid.kNumBytes16 then do
    let val ← u16 pData pos
    return some (Uuid.from16Bit val, pos + Uuid.kNumBytes16)
  else if uuidSize = Uuid.kNumBytes128 then do
    let bytes ← octets pData pos Uuid.kNumBytes128
    return some (Uuid.from128BitLE bytes, pos + Uuid.kNumBytes128)
  else if uuidSize = 0 then .ok (some (uuidRec, pos))
  else .ok none

/-- `handle_len`: a handle pair in a Read By Group Type response, one handle otherwise. -/
def handleLen (opCode : UInt8) : Nat := if opCode = gattRspReadByGrpType then 4 else 2

/-- The pointer `p` as an offset into the PDU, `len`, the variable `handle`, the control block and
the calls made, as the loop of `gatt_process_read_by_type_rsp` goes. -/
structure ReadByTypeLoop where
  pos : Nat
  len : Nat
  handle : UInt16
  clcb : Clcb
  actions : List Action

/-- How an element leaves the branches on the procedure: with a record for the common tail of
the loop body, past a characteristic of another UUID (`continue`), out of the loop (`break`), or
out of the handler (`return`) after one call.  A record and a `break` carry the variable `handle`,
which discovering all services sets to the group's end handle, and the pointer. -/
inductive Taken where
  | record (handle : UInt16) (value : DiscValue) (pos : Nat)
  | skip (pos : Nat)
  | broke (handle : UInt16) (pos : Nat)
  | returned (clcb : Clcb) (call : Action)

/-- How the loop is left: by `return`, or to the code after the loop. -/
inductive Leave where
  | returned (clcb : Clcb) (actions : List Action)
  | exited (loop : ReadByTypeLoop)

/-- Discover all services: the group's end handle and its service UUID. -/
def takeService (valueLen : Nat) (pData : List UInt8) (pos : Nat) (clcb : Clcb) :
    Except Nat Taken := do
  let eHandle ← u16 pData pos
  if gattHandleIsValid eHandle then do
    let parsed ← gattParseUuidFromCmd Uuid.kEmpty valueLen pData (pos + 2)
    return match parsed with
      | some (serviceType, pos) => .record eHandle (.groupValue eHandle serviceType) pos
      | none => .broke eHandle (pos + 2)
  else return .returned clcb (.endOperation gattInvalidHandle none)

/-- Discover included services: the included service's handle range, with its 16-bit UUID, or
with none, in which case its 128-bit UUID is read next. -/
def takeIncluded (valueLen : Nat) (pData : List UInt8) (pos : Nat) (handle : UInt16) (type : Uuid)
    (clcb : Clcb) : Except Nat Taken :=
  if valueLen < 4 then .ok (.returned clcb (.endOperation gattInvalidPdu none))
  else do
    let sHandle ← u16 pData pos
    let eHandle ← u16 pData (pos + 2)
    if !gattHandleIsValid sHandle || !gattHandleIsValid eHandle then
      return .returned clcb (.endOperation gattInvalidHandle none)
    else if valueLen = 6 then do
      let tmp ← u16 pData (pos + 4)
      return .record handle (.inclService (Uuid.from16Bit tmp) sHandle eHandle) (pos + 6)
    else if valueLen = 4 then
      return .returned
        { clcb with
          sHandle
          readUuid128 :=
            ⟨true, handle + 1, ⟨type, handle, .inclService Uuid.kEmpty sHandle eHandle⟩⟩
          opSubtype := clcb.opSubtype ||| 0x90 }
        (.actRead 0)
    else return .returned clcb (.endOperation gattInvalidPdu (some (pos + 4)))

/-- Read by type: `counter` becomes all the octets after the handle, which a read by handle takes
on with when they fill the MTU, and which `gatt_end_operation` hands over otherwise. -/
def takeReadByType (payloadSize len : Nat) (pData : List UInt8) (pos : Nat) (handle : UInt16)
    (clcb : Clcb) : Except Nat Taken :=
  let clcb := { clcb with counter := len - 2, sHandle := handle }
  if (clcb.counter : Int) = (payloadSize : Int) - 4 then
    let clcb := { clcb with opSubtype := gattReadByHandle, attrBuf := some (clcb.attrBuf.getD []) }
    if clcb.counter ≤ gattMaxAttrLen then do
      let bytes ← octets pData pos clcb.counter
      return .returned { clcb with attrBuf := some bytes } (.actRead clcb.counter)
    else .ok (.returned clcb (.endOperation gattInternalError (some pos)))
  else .ok (.returned clcb (.endOperation gattSuccess (some pos)))

/-- Discover characteristics, or read a characteristic value by UUID: the declaration's
properties, value handle and UUID; a characteristic of another UUID is skipped, and a read reads
the first one that matches. -/
def takeCharacteristic (valueLen : Nat) (pData : List UInt8) (pos : Nat) (handle : UInt16)
    (clcb : Clcb) : Except Nat Taken :=
  if valueLen < 3 then .ok (.returned clcb (.endOperation gattInvalidPdu none))
  else do
    let charProp ← u8 pData pos
    let valHandle ← u16 pData (pos + 1)
    if gattHandleIsValid valHandle then do
      let parsed ← gattParseUuidFromCmd Uuid.kEmpty (valueLen - 3) pData (pos + 3)
      return match parsed with
        | none => .returned clcb (.endOperation gattSuccess none)
        | some (charUuid, pos) =>
          if !clcb.uuid.isEmpty && !charUuid.isEmpty && charUuid != clcb.uuid then .skip pos
          else if clcb.operation = .read then
            .returned { clcb with sHandle := valHandle, opSubtype := clcb.opSubtype ||| 0x80 }
              (.actRead 0)
          else .record handle (.dclrValue charProp valHandle charUuid) pos
    else return .returned clcb (.endOperation gattInvalidHandle none)

/-- The branches of the loop body on the procedure, for the element whose handle is `handle`
and whose value starts at `pos`. -/
def takeElement (payloadSize : Nat) (opCode : UInt8) (valueLen : Nat) (pData : List UInt8)
    (pos len : Nat) (handle : UInt16) (type : Uuid) (clcb : Clcb) : Except Nat Taken :=
  if clcb.operation = .discovery ∧ clcb.opSubtype = gattDiscSrvcAll ∧
      opCode = gattRspReadByGrpType then
    takeService valueLen pData pos clcb
  else if clcb.operation = .discovery ∧ clcb.opSubtype = gattDiscIncSrvc then
    takeIncluded valueLen pData pos handle type clcb
  else if clcb.operation = .read ∧ clcb.opSubtype = gattReadByType then
    takeReadByType payloadSize len pData pos handle clcb
  else takeCharacteristic valueLen pData pos handle clcb

/-- The rest of the loop body once the element is taken: for a record, `len` drops by the element
and a discovery hands the result to the registration's callback. -/
def ReadByTypeLoop.next (loop : ReadByTypeLoop) (opCode : UInt8) (valueLen : Nat)
    (attrHandle : UInt16) (type : Uuid) : Taken → ReadByTypeLoop ⊕ Leave
  | .record handle value pos =>
    .inl
      { loop with
        pos
        len := loop.len - (valueLen + handleLen opCode)
        handle
        actions := loop.actions ++
          if loop.clcb.operation = .discovery ∧ loop.clcb.discResCb then
            [.discRes loop.clcb.opSubtype ⟨type, attrHandle, value⟩]
          else [] }
  | .skip pos => .inl { loop with pos, len := loop.len - (valueLen + 2), handle := attrHandle }
  | .broke handle pos => .inr (.exited { loop with pos, handle })
  | .returned clcb call => .inr (.returned clcb (loop.actions ++ [call]))

/-- One iteration of the loop of `gatt_process_read_by_type_rsp`: while `len` holds a whole
element, read its handle and take it by the procedure. -/
def readByTypeStep (payloadSize : Nat) (opCode : UInt8) (valueLen : Nat) (pData : List UInt8)
    (loop : ReadByTypeLoop) : Except Nat (ReadByTypeLoop ⊕ Leave) :=
  if loop.len < handleLen opCode + valueLen then .ok (.inr (.exited loop))
  else do
    let handle ← u16 pData loop.pos
    if gattHandleIsValid handle then do
      let type := Uuid.from16Bit (discTypeToUuid.getD loop.clcb.opSubtype.toNat 0)
      let taken ← takeElement payloadSize opCode valueLen pData (loop.pos + 2) loop.len handle type
        loop.clcb
      return loop.next opCode valueLen handle type taken
    else return .inr (.returned loop.clcb (loop.actions ++ [.endOperation gattInvalidHandle none]))

theorem two_le_handleLen (opCode : UInt8) : 2 ≤ handleLen opCode := by
  unfold handleLen
  split <;> omega

/-- What an iteration that goes on does: the element's handle is valid, and the procedure took a
record or skipped the element. -/
theorem readByTypeStep_eq_inl {payloadSize : Nat} {opCode : UInt8} {valueLen : Nat}
    {pData : List UInt8} {loop next : ReadByTypeLoop}
    (continues : readByTypeStep payloadSize opCode valueLen pData loop = .ok (.inl next)) :
    handleLen opCode + valueLen ≤ loop.len ∧ ∃ handle taken,
      u16 pData loop.pos = .ok handle ∧ gattHandleIsValid handle = true ∧
      takeElement payloadSize opCode valueLen pData (loop.pos + 2) loop.len handle
        (Uuid.from16Bit (discTypeToUuid.getD loop.clcb.opSubtype.toNat 0)) loop.clcb = .ok taken ∧
      loop.next opCode valueLen handle
        (Uuid.from16Bit (discTypeToUuid.getD loop.clcb.opSubtype.toNat 0)) taken = .inl next := by
  unfold readByTypeStep at continues
  split at continues
  · cases continues
  · rename_i long
    obtain ⟨handle, readHandle, continues⟩ := bind_eq_ok.mp continues
    split at continues
    · rename_i valid
      obtain ⟨taken, took, continues⟩ := bind_eq_ok.mp continues
      simp only [pure_eq_ok, Except.ok.injEq] at continues
      exact ⟨by omega, handle, taken, readHandle, valid, took, continues⟩
    · simp at continues

/-- The rest of the loop body goes on only past a record or a skipped element, with `len` down by
the element. -/
theorem len_next {loop next : ReadByTypeLoop} {opCode : UInt8} {valueLen : Nat}
    {attrHandle : UInt16} {type : Uuid} {taken : Taken}
    (continues : loop.next opCode valueLen attrHandle type taken = .inl next) :
    (∃ handle value, taken = .record handle value next.pos ∧
      next.len = loop.len - (valueLen + handleLen opCode)) ∨
    (taken = .skip next.pos ∧ next.len = loop.len - (valueLen + 2)) := by
  cases taken with
  | record handle value pos =>
    simp only [ReadByTypeLoop.next, Sum.inl.injEq] at continues
    subst continues
    exact .inl ⟨handle, value, rfl, rfl⟩
  | skip pos =>
    simp only [ReadByTypeLoop.next, Sum.inl.injEq] at continues
    subst continues
    exact .inr ⟨rfl, rfl⟩
  | broke handle pos => simp [ReadByTypeLoop.next] at continues
  | returned clcb call => simp [ReadByTypeLoop.next] at continues

theorem len_readByTypeStep_lt (payloadSize : Nat) (opCode : UInt8) (valueLen : Nat)
    (pData : List UInt8) :
    ∀ loop next, readByTypeStep payloadSize opCode valueLen pData loop = .ok (.inl next) →
      next.len < loop.len := by
  intro loop next continues
  obtain ⟨long, _, _, -, -, -, went⟩ := readByTypeStep_eq_inl continues
  have two := two_le_handleLen opCode
  rcases len_next went with ⟨_, _, -, len⟩ | ⟨-, len⟩ <;> omega

/-- The code after the loop: `s_handle` past the last `handle`, and the next request of the
discovery or of the read. -/
def readByTypeEnd : Leave → Clcb × List Action
  | .returned clcb actions => (clcb, actions)
  | .exited loop =>
    ({ loop.clcb with sHandle := if loop.handle = 0 then 0 else loop.handle + 1 },
      loop.actions ++ [if loop.clcb.operation = .discovery then .actDiscovery else .actRead 0])

/-- `gatt_process_read_by_type_rsp` on a response `pData` of `len` octets after the opcode, with
`payloadSize` the link's receive MTU: the control block and the calls made, or the offset of a
read outside the PDU. -/
def gattProcessReadByTypeRsp (payloadSize : Nat) (clcb : Clcb) (opCode : UInt8) (len : UInt16)
    (pData : List UInt8) : Except Nat (Clcb × List Action) :=
  if !clcb.discResCb && clcb.operation = .discovery then .ok (clcb, [])
  else if len.toNat < gattReadByTypeRspMinLen then
    .ok (clcb, [.endOperation gattInvalidPdu none])
  else do
    let valueLen ← u8 pData 0
    if (valueLen.toNat : Int) > (payloadSize : Int) - 2 ∨ valueLen.toNat > len.toNat - 1 then
      return (clcb, [.endOperation gattError none])
    else do
      -- `value_len -= handle_len` in `uint8_t`
      let valueLen := (valueLen - UInt8.ofNat (handleLen opCode)).toNat
      let leave ← Loop.runMeasured (readByTypeStep payloadSize opCode valueLen pData)
        ReadByTypeLoop.len (len_readByTypeStep_lt payloadSize opCode valueLen pData)
        ⟨1, len.toNat - 1, 0, clcb, []⟩
      return readByTypeEnd leave

/-- The value that `gatt_end_operation` hands to the completion callback of a read: the handle
`s_handle`, and `counter` octets of its data, at most `GATT_MAX_ATTR_LEN`. -/
def gattEndOperationReadValue (clcb : Clcb) (pData : List UInt8) (data : Option Nat) :
    Except Nat GattValue :=
  let len := min clcb.counter gattMaxAttrLen
  match data with
  | some pos =>
    if clcb.counter ≠ 0 then do
      let value ← octets pData pos len
      return ⟨clcb.sHandle, value⟩
    else .ok ⟨clcb.sHandle, List.replicate len 0⟩
  | none => .ok ⟨clcb.sHandle, List.replicate len 0⟩

/-! ### Reading a characteristic value by type -/

section ReadByType

variable {payloadSize : Nat} {clcb : Clcb} {length : UInt8} {handle : UInt16} {rest : List UInt8}

/-- The first element of a read by type ends the read: `counter` becomes all the octets after the
first handle, and `gatt_end_operation` gets them, unless they fill the MTU. -/
theorem takeElement_readByType (read : clcb.operation = .read)
    (byType : clcb.opSubtype = gattReadByType) (unfilled : (rest.length : Int) ≠ payloadSize - 4)
    (valueLen : Nat) (type : Uuid) :
    takeElement payloadSize gattRspReadByType valueLen (length :: (le16 handle ++ rest)) 3
        (2 + rest.length) handle type clcb =
      .ok (.returned { clcb with counter := rest.length, sHandle := handle }
        (.endOperation gattSuccess (some 3))) := by
  have counter : 2 + rest.length - 2 = rest.length := by omega
  simp [takeElement, read, byType, takeReadByType, counter, unfilled]

/-- A read by type hands `gatt_end_operation` all the octets after the first handle, however many
handle-value pairs they hold, when they do not fill the MTU. -/
theorem gattProcessReadByTypeRsp_readByType (read : clcb.operation = .read)
    (byType : clcb.opSubtype = gattReadByType) (valid : handle ≠ 0) (pair : 2 ≤ length.toNat)
    (inMtu : length.toNat + 2 ≤ payloadSize) (whole : length.toNat ≤ 2 + rest.length)
    (unfilled : (rest.length : Int) ≠ payloadSize - 4) (short : 3 + rest.length < 65536) :
    gattProcessReadByTypeRsp payloadSize clcb gattRspReadByType (UInt16.ofNat (3 + rest.length))
        (length :: (le16 handle ++ rest)) =
      .ok ({ clcb with counter := rest.length, sHandle := handle },
        [.endOperation gattSuccess (some 3)]) := by
  have lenEq : (UInt16.ofNat (3 + rest.length)).toNat = 3 + rest.length := Nat.mod_eq_of_lt short
  have readLength : u8 (length :: (le16 handle ++ rest)) 0 = .ok length := u8_of_lt (by simp)
  have readHandle : u16 (length :: (le16 handle ++ rest)) 1 = .ok handle := by
    simpa using u16_le16 [length] handle rest
  have valueLen :
      (length - UInt8.ofNat (handleLen gattRspReadByType)).toNat = length.toNat - 2 := by
    have two : (UInt8.ofNat (handleLen gattRspReadByType)) = 2 := rfl
    rw [two, UInt8.toNat_sub_of_le _ _ (by simpa [UInt8.le_iff_toNat_le] using pair)]
    rfl
  have stepped : readByTypeStep payloadSize gattRspReadByType (length.toNat - 2)
      (length :: (le16 handle ++ rest)) ⟨1, 2 + rest.length, 0, clcb, []⟩ =
      .ok (.inr (.returned { clcb with counter := rest.length, sHandle := handle }
        [.endOperation gattSuccess (some 3)])) := by
    have enough : ¬2 + rest.length < handleLen gattRspReadByType + (length.toNat - 2) := by
      have two : handleLen gattRspReadByType = 2 := rfl
      omega
    rw [readByTypeStep, if_neg enough, readHandle, ok_bind,
      if_pos (by simpa [gattHandleIsValid] using valid)]
    simp only
    rw [takeElement_readByType read byType unfilled]
    rfl
  have checks : ¬((length.toNat : Int) > (payloadSize : Int) - 2 ∨
      length.toNat > (UInt16.ofNat (3 + rest.length)).toNat - 1) := by
    rw [lenEq]
    omega
  rw [gattProcessReadByTypeRsp, if_neg (by simp [read]),
    if_neg (by rw [lenEq]; unfold gattReadByTypeRspMinLen; omega), readLength, ok_bind,
    if_neg checks]
  simp only [valueLen, lenEq]
  rw [Loop.runMeasured_of_inr (by simpa using stepped)]
  rfl

/-- What `gatt_end_operation` then hands the read's callback: the first handle, with every octet
after it up to `GATT_MAX_ATTR_LEN`. -/
theorem gattEndOperationReadValue_readByType (nonempty : rest ≠ []) :
    gattEndOperationReadValue { clcb with counter := rest.length, sHandle := handle }
        (length :: (le16 handle ++ rest)) (some 3) = .ok ⟨handle, rest.take gattMaxAttrLen⟩ := by
  have some := List.length_pos_of_ne_nil nonempty
  have readRest : octets (length :: (le16 handle ++ rest)) 3 (min rest.length gattMaxAttrLen) =
      .ok (rest.take gattMaxAttrLen) := by
    rw [octets_of_le (by simp; omega)]
    simp [slice, le16, Nat.min_comm, ← List.take_take]
  simp [gattEndOperationReadValue, Nat.pos_iff_ne_zero.mp some, readRest]

end ReadByType

/-! ### A Read By Type response is read only inside the PDU -/

/-- A record leaves the pointer at most at `recordEnd`, and a skip at most at `skipEnd`. -/
def Taken.Within (recordEnd skipEnd : Nat) : Taken → Prop
  | .record _ _ pos => pos ≤ recordEnd
  | .skip pos => pos ≤ skipEnd
  | _ => True

theorem Taken.Within.mono {taken : Taken} {recordEnd skipEnd recordEnd' skipEnd' : Nat}
    (within : taken.Within recordEnd skipEnd) (records : recordEnd ≤ recordEnd')
    (skips : skipEnd ≤ skipEnd') : taken.Within recordEnd' skipEnd' := by
  cases taken <;> simp only [Taken.Within] at within ⊢ <;> omega

section Inside

variable {pData : List UInt8} {pos valueLen : Nat} {clcb : Clcb}

theorem gattParseUuidFromCmd_ok {uuidRec : Uuid} {uuidSize : Nat}
    (inside : pos + uuidSize ≤ pData.length) :
    ∃ parsed, gattParseUuidFromCmd uuidRec uuidSize pData pos = .ok parsed ∧
      ∀ uuid after, parsed = some (uuid, after) → after ≤ pos + uuidSize := by
  unfold gattParseUuidFromCmd
  split
  · rename_i two
    obtain ⟨val, read⟩ : ∃ val, u16 pData pos = .ok val :=
      ⟨_, u16_of_le (by simp only [Uuid.kNumBytes16] at two; omega)⟩
    rw [read, ok_bind]
    refine ⟨_, rfl, ?_⟩
    simp only [Option.some.injEq, Prod.mk.injEq, and_imp]
    intro _ _ _ after
    simp only [Uuid.kNumBytes16] at two after
    omega
  · split
    · rename_i sixteen
      rw [octets_of_le (by simp only [Uuid.kNumBytes128] at sixteen ⊢; omega), ok_bind]
      refine ⟨_, rfl, ?_⟩
      simp only [Option.some.injEq, Prod.mk.injEq, and_imp]
      intro _ _ _ after
      simp only [Uuid.kNumBytes128] at sixteen after
      omega
    · split
      · refine ⟨_, rfl, ?_⟩
        simp only [Option.some.injEq, Prod.mk.injEq, and_imp]
        intro _ _ _ after
        omega
      · exact ⟨_, rfl, by simp⟩

theorem takeService_ok (inside : pos + 2 + valueLen ≤ pData.length) :
    ∃ taken, takeService valueLen pData pos clcb = .ok taken ∧
      taken.Within (pos + 2 + valueLen) 0 := by
  rw [takeService, u16_of_le (by omega), ok_bind]
  split
  · obtain ⟨parsed, parse, bound⟩ :=
      @gattParseUuidFromCmd_ok pData (pos + 2) Uuid.kEmpty valueLen inside
    rw [parse, ok_bind]
    refine ⟨_, rfl, ?_⟩
    match parsed with
    | some (uuid, after) => exact bound uuid after rfl
    | none => trivial
  · exact ⟨_, rfl, trivial⟩

theorem takeIncluded_ok {handle : UInt16} {type : Uuid} (inside : pos + valueLen ≤ pData.length) :
    ∃ taken, takeIncluded valueLen pData pos handle type clcb = .ok taken ∧
      taken.Within (pos + valueLen) 0 := by
  unfold takeIncluded
  split
  · exact ⟨_, rfl, trivial⟩
  · rw [u16_of_le (by omega), ok_bind, u16_of_le (by omega), ok_bind]
    split
    · exact ⟨_, rfl, trivial⟩
    · split
      · rename_i six
        rw [u16_of_le (by omega), ok_bind]
        exact ⟨_, rfl, show pos + 6 ≤ pos + valueLen by omega⟩
      · split <;> exact ⟨_, rfl, trivial⟩

theorem takeReadByType_ok {payloadSize len : Nat} {handle : UInt16}
    (inside : pos + (len - 2) ≤ pData.length) :
    ∃ taken, takeReadByType payloadSize len pData pos handle clcb = .ok taken ∧
      taken.Within 0 0 := by
  unfold takeReadByType
  dsimp only
  split
  · split
    · rw [octets_of_le inside, ok_bind]
      exact ⟨_, rfl, trivial⟩
    · exact ⟨_, rfl, trivial⟩
  · exact ⟨_, rfl, trivial⟩

theorem takeCharacteristic_ok {handle : UInt16} (inside : pos + valueLen ≤ pData.length) :
    ∃ taken, takeCharacteristic valueLen pData pos handle clcb = .ok taken ∧
      taken.Within (pos + valueLen) (pos + valueLen) := by
  unfold takeCharacteristic
  split
  · exact ⟨_, rfl, trivial⟩
  · rename_i long
    rw [u8_of_lt (by omega), ok_bind, u16_of_le (by omega), ok_bind]
    split
    · obtain ⟨parsed, parse, bound⟩ :=
        @gattParseUuidFromCmd_ok pData (pos + 3) Uuid.kEmpty (valueLen - 3) (by omega)
      rw [parse, ok_bind]
      refine ⟨_, rfl, ?_⟩
      match parsed with
      | some (uuid, after) =>
        have before := bound uuid after rfl
        simp only
        split
        · exact show after ≤ pos + valueLen by omega
        · split
          · trivial
          · exact show after ≤ pos + valueLen by omega
      | none => trivial
    · exact ⟨_, rfl, trivial⟩

/-- Every branch reads only inside an element that `len` holds, and leaves the pointer inside
it, or inside the characteristic declaration it skips. -/
theorem takeElement_ok {payloadSize : Nat} {opCode : UInt8} {handle : UInt16} {type : Uuid}
    {loop : ReadByTypeLoop} (inside : loop.pos + loop.len ≤ pData.length)
    (long : handleLen opCode + valueLen ≤ loop.len) :
    ∃ taken, takeElement payloadSize opCode valueLen pData (loop.pos + 2) loop.len handle type
        loop.clcb = .ok taken ∧
      taken.Within (loop.pos + handleLen opCode + valueLen) (loop.pos + 2 + valueLen) := by
  have two := two_le_handleLen opCode
  unfold takeElement
  split
  · rename_i service
    have four : handleLen opCode = 4 := if_pos service.2.2
    obtain ⟨taken, took, within⟩ :=
      @takeService_ok pData (loop.pos + 2) valueLen loop.clcb (by omega)
    exact ⟨taken, took, within.mono (by omega) (by omega)⟩
  · split
    · obtain ⟨taken, took, within⟩ :=
        @takeIncluded_ok pData (loop.pos + 2) valueLen loop.clcb handle type (by omega)
      exact ⟨taken, took, within.mono (by omega) (by omega)⟩
    · split
      · obtain ⟨taken, took, within⟩ :=
          @takeReadByType_ok pData (loop.pos + 2) loop.clcb payloadSize loop.len handle (by omega)
        exact ⟨taken, took, within.mono (by omega) (by omega)⟩
      · obtain ⟨taken, took, within⟩ :=
          @takeCharacteristic_ok pData (loop.pos + 2) valueLen loop.clcb handle (by omega)
        exact ⟨taken, took, within.mono (by omega) (by omega)⟩

/-- With `len` no more than the octets from the pointer on, an iteration reads only inside the
PDU. -/
theorem readByTypeStep_ok {payloadSize : Nat} {opCode : UInt8} {loop : ReadByTypeLoop}
    (inside : loop.pos + loop.len ≤ pData.length) :
    ∃ outcome, readByTypeStep payloadSize opCode valueLen pData loop = .ok outcome := by
  unfold readByTypeStep
  split
  · exact ⟨_, rfl⟩
  · rename_i long
    have two := two_le_handleLen opCode
    rw [u16_of_le (by omega), ok_bind]
    split
    · refine exists_ok_bind ?_ (fun _ => ⟨_, rfl⟩)
      exact Exists.imp (fun _ took => took.1) (takeElement_ok inside (by omega))
    · exact ⟨_, rfl⟩

/-- An iteration moves the pointer no further than it takes off `len`. -/
theorem readByTypeStep_keeps {payloadSize : Nat} {opCode : UInt8} {loop next : ReadByTypeLoop}
    (inside : loop.pos + loop.len ≤ pData.length)
    (continues : readByTypeStep payloadSize opCode valueLen pData loop = .ok (.inl next)) :
    next.pos + next.len ≤ pData.length := by
  obtain ⟨long, handle, taken, -, -, took, went⟩ := readByTypeStep_eq_inl continues
  obtain ⟨taken', took', within⟩ := @takeElement_ok pData valueLen payloadSize opCode handle
    (Uuid.from16Bit (discTypeToUuid.getD loop.clcb.opSubtype.toNat 0)) loop inside long
  rw [took, Except.ok.injEq] at took'
  subst took'
  have two := two_le_handleLen opCode
  rcases len_next went with ⟨_, _, record, len⟩ | ⟨skip, len⟩
  · rw [record] at within
    simp only [Taken.Within] at within
    omega
  · rw [skip] at within
    simp only [Taken.Within] at within
    omega

end Inside

/-- `gatt_process_read_by_type_rsp` reads only inside the PDU, whatever the PDU holds. -/
theorem gattProcessReadByTypeRsp_ok {payloadSize : Nat} {clcb : Clcb} {opCode : UInt8}
    {len : UInt16} {pData : List UInt8} (exact : pData.length = len.toNat) :
    ∃ result, gattProcessReadByTypeRsp payloadSize clcb opCode len pData = .ok result := by
  unfold gattProcessReadByTypeRsp
  split
  · exact ⟨_, rfl⟩
  · split
    · exact ⟨_, rfl⟩
    · rename_i long
      unfold gattReadByTypeRspMinLen at long
      rw [u8_of_lt (by omega), ok_bind]
      split
      · exact ⟨_, rfl⟩
      · refine exists_ok_bind ?_ (fun _ => ⟨_, rfl⟩)
        apply Loop.runMeasured_ok (fun loop : ReadByTypeLoop => loop.pos + loop.len ≤ pData.length)
        · intro loop next inside continues
          exact readByTypeStep_keeps inside continues
        · intro loop inside
          exact readByTypeStep_ok inside
        · dsimp only
          omega

/-! ### Discovering all services -/

/-- A service UUID as a Read By Group Type response carries it: in two octets or in sixteen. -/
inductive ServiceUuid where
  | uuid16 (value : UInt16)
  | uuid128 (bytes : List UInt8) (sixteen : bytes.length = 16)

/-- The octets of the UUID. -/
def ServiceUuid.encode : ServiceUuid → List UInt8
  | .uuid16 value => le16 value
  | .uuid128 bytes _ => bytes

/-- The UUID itself. -/
def ServiceUuid.toUuid : ServiceUuid → Uuid
  | .uuid16 value => Uuid.from16Bit value
  | .uuid128 bytes _ => Uuid.from128BitLE bytes

/-- An attribute-data element of a Read By Group Type response to the discovery of all services:
a service's valid handle range and its UUID. -/
structure ServiceElement where
  handle : UInt16
  eHandle : UInt16
  uuid : ServiceUuid
  valid : handle ≠ 0
  validEnd : eHandle ≠ 0

/-- The element's octets. -/
def ServiceElement.encode (element : ServiceElement) : List UInt8 :=
  le16 element.handle ++ le16 element.eHandle ++ element.uuid.encode

/-- The discovery result that the element stands for. -/
def ServiceElement.discRes (element : ServiceElement) : DiscRes :=
  ⟨Uuid.from16Bit gattUuidPriService, element.handle,
    .groupValue element.eHandle element.uuid.toUuid⟩

@[simp] theorem length_serviceElement_encode (element : ServiceElement) :
    element.encode.length = 4 + element.uuid.encode.length := by
  simp [ServiceElement.encode]
  omega

theorem gattParseUuidFromCmd_encode (uuidRec : Uuid) (uuid : ServiceUuid)
    (front back : List UInt8) :
    gattParseUuidFromCmd uuidRec uuid.encode.length (front ++ uuid.encode ++ back) front.length =
      .ok (some (uuid.toUuid, front.length + uuid.encode.length)) := by
  cases uuid with
  | uuid16 value =>
    have read := u16_le16 front value back
    simp only [List.append_assoc] at read
    simp [gattParseUuidFromCmd, ServiceUuid.encode, ServiceUuid.toUuid, Uuid.kNumBytes16, read]
  | uuid128 bytes sixteen =>
    have read := octets_append front bytes back
    simp only [List.append_assoc, sixteen] at read
    simp [gattParseUuidFromCmd, ServiceUuid.encode, ServiceUuid.toUuid, Uuid.kNumBytes16,
      Uuid.kNumBytes128, sixteen, read]

section Services

variable {payloadSize : Nat}

theorem takeService_element (element : ServiceElement) (front back : List UInt8) (clcb : Clcb) :
    takeService element.uuid.encode.length (front ++ element.encode ++ back) (front.length + 2)
        clcb =
      .ok (.record element.eHandle (.groupValue element.eHandle element.uuid.toUuid)
        (front.length + element.encode.length)) := by
  have readEnd :
      u16 (front ++ element.encode ++ back) (front.length + 2) = .ok element.eHandle := by
    simpa [ServiceElement.encode, List.append_assoc] using
      u16_le16 (front ++ le16 element.handle) element.eHandle (element.uuid.encode ++ back)
  have parse := gattParseUuidFromCmd_encode Uuid.kEmpty element.uuid
    (front ++ le16 element.handle ++ le16 element.eHandle) back
  simp only [List.length_append, length_le16, List.append_assoc] at parse
  have validEnd : gattHandleIsValid element.eHandle = true := by
    simpa [gattHandleIsValid] using element.validEnd
  rw [takeService, readEnd, ok_bind, if_pos validEnd]
  simp only [ServiceElement.encode, List.append_assoc] at parse ⊢
  rw [show front.length + 2 + 2 = front.length + 2 + 2 from rfl, parse, ok_bind]
  simp only [pure_eq_ok, List.length_append, length_le16]
  congr 2
  omega

/-- An iteration at a service element reports it and moves past it, with `handle` its end
handle. -/
theorem readByTypeStep_service (element : ServiceElement) (front back : List UInt8)
    {loop : ReadByTypeLoop} (discovery : loop.clcb.operation = .discovery)
    (all : loop.clcb.opSubtype = gattDiscSrvcAll) (callback : loop.clcb.discResCb = true)
    (pos : loop.pos = front.length) (len : loop.len = element.encode.length + back.length) :
    readByTypeStep payloadSize gattRspReadByGrpType element.uuid.encode.length
        (front ++ element.encode ++ back) loop =
      .ok (.inl { loop with
        pos := front.length + element.encode.length
        len := back.length
        handle := element.eHandle
        actions := loop.actions ++ [.discRes gattDiscSrvcAll element.discRes] }) := by
  have enough : ¬loop.len < handleLen gattRspReadByGrpType + element.uuid.encode.length := by
    have four : handleLen gattRspReadByGrpType = 4 := rfl
    simp only [length_serviceElement_encode] at len
    omega
  have readHandle : u16 (front ++ element.encode ++ back) front.length = .ok element.handle := by
    simpa [ServiceElement.encode, List.append_assoc] using
      u16_le16 front element.handle (le16 element.eHandle ++ element.uuid.encode ++ back)
  have valid : gattHandleIsValid element.handle = true := by
    simpa [gattHandleIsValid] using element.valid
  have service : loop.clcb.operation = .discovery ∧ loop.clcb.opSubtype = gattDiscSrvcAll ∧
      gattRspReadByGrpType = gattRspReadByGrpType := ⟨discovery, all, rfl⟩
  rw [readByTypeStep, if_neg enough, pos, readHandle, ok_bind, if_pos valid]
  simp only
  rw [takeElement, if_pos service, takeService_element, ok_bind, all]
  simp [ReadByTypeLoop.next, discovery, callback, ServiceElement.discRes, len, discTypeToUuid,
    gattDiscSrvcAll, handleLen]
  exact ⟨by omega, all⟩

/-- The loop over service elements of one UUID size reports each of them, in order, and leaves
`handle` at the last end handle. -/
theorem runMeasured_services (elements : List ServiceElement) (size : Nat)
    (sizes : ∀ element ∈ elements, element.uuid.encode.length = size) :
    ∀ (front : List UInt8) (loop : ReadByTypeLoop), loop.clcb.operation = .discovery →
      loop.clcb.opSubtype = gattDiscSrvcAll → loop.clcb.discResCb = true →
      loop.pos = front.length → loop.len = (elements.flatMap ServiceElement.encode).length →
      Loop.runMeasured
          (readByTypeStep payloadSize gattRspReadByGrpType size
            (front ++ elements.flatMap ServiceElement.encode))
          ReadByTypeLoop.len
          (len_readByTypeStep_lt payloadSize gattRspReadByGrpType size
            (front ++ elements.flatMap ServiceElement.encode)) loop =
        .ok (.exited { loop with
          pos := front.length + (elements.flatMap ServiceElement.encode).length
          len := 0
          handle := (elements.getLast?.map ServiceElement.eHandle).getD loop.handle
          actions := loop.actions ++
            elements.map fun element => .discRes gattDiscSrvcAll element.discRes }) := by
  induction elements with
  | nil =>
    intro front loop _ _ _ pos len
    have empty : loop.len < handleLen gattRspReadByGrpType + size := by
      have four : handleLen gattRspReadByGrpType = 4 := rfl
      simp only [List.flatMap_nil, List.length_nil] at len
      omega
    have stops : readByTypeStep payloadSize gattRspReadByGrpType size
        (front ++ List.flatMap ServiceElement.encode []) loop = .ok (.inr (.exited loop)) := by
      rw [readByTypeStep, if_pos empty]
    rw [Loop.runMeasured_of_inr stops]
    cases loop
    simp_all
  | cons element elements induction =>
    intro front loop discovery all callback pos len
    obtain rfl := sizes element List.mem_cons_self
    have stepped := @readByTypeStep_service payloadSize element front
      (elements.flatMap ServiceElement.encode) loop discovery all callback pos
      (by simpa using len)
    rw [List.flatMap_cons, ← List.append_assoc, Loop.runMeasured_of_inl stepped,
      induction (fun other mem => sizes other (List.mem_cons_of_mem element mem))
        (front ++ element.encode)
        { loop with
          pos := front.length + element.encode.length
          len := (elements.flatMap ServiceElement.encode).length
          handle := element.eHandle
          actions := loop.actions ++ [.discRes gattDiscSrvcAll element.discRes] }
        discovery all callback (by simp) rfl]
    cases elements with
    | nil => simp
    | cons next elements =>
      simp [List.getLast?_cons]
      omega

theorem ServiceUuid.length_encode_le (uuid : ServiceUuid) : uuid.encode.length ≤ 16 := by
  cases uuid with
  | uuid16 value => simp [ServiceUuid.encode]
  | uuid128 bytes sixteen => simp [ServiceUuid.encode, sixteen]

/-- A Read By Group Type response to the discovery of all services, made of service elements of
one UUID size, reports every element once, in order, as the discovery result it stands for, and
goes on with the discovery after the last service. -/
theorem gattProcessReadByTypeRsp_services (clcb : Clcb) (discovery : clcb.operation = .discovery)
    (all : clcb.opSubtype = gattDiscSrvcAll) (callback : clcb.discResCb = true)
    (first : ServiceElement) (rest : List ServiceElement)
    (sizes : ∀ element ∈ rest, element.uuid.encode.length = first.uuid.encode.length)
    (inMtu : first.encode.length + 2 ≤ payloadSize)
    (short : 1 + ((first :: rest).flatMap ServiceElement.encode).length < 65536) :
    gattProcessReadByTypeRsp payloadSize clcb gattRspReadByGrpType
        (UInt16.ofNat (1 + ((first :: rest).flatMap ServiceElement.encode).length))
        (UInt8.ofNat first.encode.length :: (first :: rest).flatMap ServiceElement.encode) =
      .ok ({ clcb with sHandle := ((first :: rest).getLast (by simp)).eHandle + 1 },
        (first :: rest).map (fun element => .discRes gattDiscSrvcAll element.discRes) ++
          [.actDiscovery]) := by
  have small := first.uuid.length_encode_le
  have total : ((first :: rest).flatMap ServiceElement.encode).length =
      first.encode.length + (rest.flatMap ServiceElement.encode).length := by
    simp
  have lenEq : (UInt16.ofNat (1 + ((first :: rest).flatMap ServiceElement.encode).length)).toNat =
      1 + ((first :: rest).flatMap ServiceElement.encode).length := Nat.mod_eq_of_lt short
  have octet : (UInt8.ofNat first.encode.length).toNat = first.encode.length :=
    Nat.mod_eq_of_lt (by simp; omega)
  have valueLen :
      (UInt8.ofNat first.encode.length - UInt8.ofNat (handleLen gattRspReadByGrpType)).toNat =
      first.uuid.encode.length := by
    have four : UInt8.ofNat (handleLen gattRspReadByGrpType) = 4 := rfl
    have le : (4 : UInt8) ≤ UInt8.ofNat first.encode.length := by
      rw [UInt8.le_iff_toNat_le, octet]
      simp
    rw [four, UInt8.toNat_sub_of_le _ _ le, octet]
    simp
  have checks : ¬(((UInt8.ofNat first.encode.length).toNat : Int) > (payloadSize : Int) - 2 ∨
      (UInt8.ofNat first.encode.length).toNat >
        (UInt16.ofNat (1 + ((first :: rest).flatMap ServiceElement.encode).length)).toNat - 1) := by
    rw [octet, lenEq, total]
    omega
  have ran := @runMeasured_services payloadSize (first :: rest)
    first.uuid.encode.length
    (fun element mem => by
      rcases List.mem_cons.mp mem with rfl | mem
      · rfl
      · exact sizes element mem)
    [UInt8.ofNat first.encode.length] ⟨1, ((first :: rest).flatMap ServiceElement.encode).length,
      0, clcb, []⟩ discovery all callback rfl rfl
  simp only [List.singleton_append, List.length_singleton] at ran
  rw [gattProcessReadByTypeRsp, if_neg (by simp [discovery, callback]),
    if_neg (by rw [lenEq]; unfold gattReadByTypeRspMinLen; omega), u8_of_lt (by simp), ok_bind]
  simp only [List.getElem_cons_zero]
  rw [if_neg checks]
  simp only [valueLen, lenEq, Nat.add_sub_cancel_left]
  rw [ran, ok_bind, pure_eq_ok, List.getLast?_eq_some_getLast (by simp), Option.map_some,
    Option.getD_some]
  simp only [readByTypeEnd, if_neg ((first :: rest).getLast (by simp)).validEnd, discovery,
    if_true, List.nil_append]

end Services

/-! ## Where the parsers miss the PDU's elements -/

/-- Two ways in which the client's multi-element parsers do not hand over exactly the PDU's
elements.  A multiple handle value notification whose last tuple has an empty value is handed
over without that tuple.  A read by type hands `gatt_end_operation` every octet after the first
handle, the later handle-value pairs included, and not the first value alone. -/
theorem gattClientParsers_miss_elements :
    (∀ (clRcb : List Reg) (tcb : Tcb) (first : HandleValue) (middle : List HandleValue)
        (last : HandleValue),
      last.value = [] → first.value.length ≤ gattMaxAttrLen →
      (multiValuePdu (first :: (middle ++ [last]))).length < 32768 →
      gattProcessNotification clRcb tcb gattHandleMultiValueNotif
          (UInt16.ofNat (multiValuePdu (first :: (middle ++ [last]))).length)
          (multiValuePdu (first :: (middle ++ [last]))) =
        .ok (tcb, (first :: middle).flatMap fun tuple =>
          deliver clRcb tcb.tcbIdx .notification tuple.toGattValue)) ∧
    (∀ (payloadSize : Nat) (clcb : Clcb) (length : UInt8) (handle : UInt16)
        (value later : List UInt8),
      clcb.operation = .read → clcb.opSubtype = gattReadByType → handle ≠ 0 →
      length.toNat = value.length + 2 → length.toNat + 2 ≤ payloadSize → later ≠ [] →
      ((value ++ later).length : Int) ≠ payloadSize - 4 → 3 + (value ++ later).length < 65536 →
      ∃ clcb', gattProcessReadByTypeRsp payloadSize clcb gattRspReadByType
          (UInt16.ofNat (3 + (value ++ later).length))
          (length :: (le16 handle ++ (value ++ later))) =
          .ok (clcb', [.endOperation gattSuccess (some 3)]) ∧
        gattEndOperationReadValue clcb' (length :: (le16 handle ++ (value ++ later))) (some 3) =
          .ok ⟨handle, (value ++ later).take gattMaxAttrLen⟩) := by
  constructor
  · intro clRcb tcb first middle last empty small short
    rw [gattProcessNotification_multi first (middle ++ [last]) small short,
      handedOver_append_empty middle empty]
  · intro payloadSize clcb length handle value later read byType valid pair inMtu following
      unfilled short
    refine ⟨_, gattProcessReadByTypeRsp_readByType read byType valid (by omega) inMtu
      (by simp; omega) unfilled short, gattEndOperationReadValue_readByType (by simp [following])⟩

/-- The tuples (1, [0xAA]) and (2, []) are handed over as the first alone, and a read by type
answered with the pairs (1, [0x11, 0x22]) and (2, [0x33, 0x44]) hands over the six octets after
the first handle. -/
theorem gattClientParsers_miss_elements_at_two_elements :
    gattProcessNotification [⟨true, true, 5⟩] ⟨0, 0⟩ gattHandleMultiValueNotif
        (UInt16.ofNat (multiValuePdu [⟨1, [0xAA], by decide, by decide⟩,
          ⟨2, [], by decide, by decide⟩]).length)
        (multiValuePdu [⟨1, [0xAA], by decide, by decide⟩, ⟨2, [], by decide, by decide⟩]) =
      .ok (⟨0, 0⟩, deliver [⟨true, true, 5⟩] 0 .notification ⟨1, [0xAA]⟩ ++ []) ∧
    ∃ clcb', gattProcessReadByTypeRsp 23
          ⟨.read, gattReadByType, 0, 0, Uuid.kEmpty, false, ⟨false, 0, ⟨Uuid.kEmpty, 0, .zero⟩⟩,
            none⟩
          gattRspReadByType (UInt16.ofNat (3 + ([0x11, 0x22] ++ [0x02, 0x00, 0x33, 0x44]).length))
          (4 :: (le16 1 ++ ([0x11, 0x22] ++ [0x02, 0x00, 0x33, 0x44]))) =
        .ok (clcb', [.endOperation gattSuccess (some 3)]) ∧
      gattEndOperationReadValue clcb'
          (4 :: (le16 1 ++ ([0x11, 0x22] ++ [0x02, 0x00, 0x33, 0x44]))) (some 3) =
        .ok ⟨1, ([0x11, 0x22] ++ [0x02, 0x00, 0x33, 0x44] : List UInt8).take gattMaxAttrLen⟩ := by
  constructor
  · exact gattClientParsers_miss_elements.1 [⟨true, true, 5⟩] ⟨0, 0⟩
      ⟨1, [0xAA], by decide, by decide⟩ [] ⟨2, [], by decide, by decide⟩ rfl (by decide)
      (by decide)
  · exact gattClientParsers_miss_elements.2 23
      ⟨.read, gattReadByType, 0, 0, Uuid.kEmpty, false, ⟨false, 0, ⟨Uuid.kEmpty, 0, .zero⟩⟩,
        none⟩ 4 1 [0x11, 0x22] [0x02, 0x00, 0x33, 0x44] rfl rfl (by decide) (by decide)
      (by decide) (by decide) (by decide) (by decide)

end Bluetooth.Gatt
