import Bluetooth.Gatt.Client

set_option linter.all false

/-!
# The GATT server's Read Multiple responses

`gatt_process_read_multi_req` reads the requested handles in order.  The stack answers
declarations itself, at once; a characteristic value or descriptor is read by its server
application, which answers later.  Every answer goes through `gatt_sr_process_app_rsp`, and
`process_read_multi_rsp` appends it to `multi_rsp_q`, in the order the answers come.  Once the
queue holds one answer per handle, `build_read_multi_rsp` walks the handles and the queue side by
side: the `i`-th answer must be that of the `i`-th handle, or the command fails with
`GATT_NOT_FOUND`.

So the response depends on the order of the answers.  In request order the values are copied
until the `mtu` (`processAppRsps_in_order`), but a value of length zero ends the response and the
values after it are left out.  When another handle answers first, the client gets an Error
Response, whose reason is the `GATT_SUCCESS` of the last answer.
-/

namespace Bluetooth.Gatt

open ByteStream

/-- `GATT_NOT_FOUND`. -/
def gattNotFound : UInt8 := 0x0A

/-- `GATT_RSP_READ_MULTI`. -/
def gattRspReadMulti : UInt8 := 0x0F

/-- `GATT_RSP_READ_MULTI_VAR`. -/
def gattRspReadMultiVar : UInt8 := 0x21

/-- `tGATT_READ_MULTI`: the handles of the request, and whether it is a Read Multiple Variable
Length Request. -/
structure ReadMulti where
  handles : List UInt16
  variableLen : Bool
  deriving DecidableEq, Repr

/-- The `attr_value` of a `tGATTS_RSP`: the handle read and its value. -/
structure GattsRsp where
  handle : UInt16
  value : List UInt8
  deriving DecidableEq, Repr

/-- `tGATT_SR_CMD` of a Read Multiple: the request, `multi_rsp_q`, `status`, the octets of
`p_rsp_msg`, `op_code` and `handle`. -/
structure SrCmd where
  multiReq : ReadMulti
  multiRspQ : List GattsRsp
  status : UInt8
  pRspMsg : Option (List UInt8)
  opCode : UInt8
  handle : UInt16
  deriving DecidableEq, Repr

/-- The command `gatt_sr_enqueue_cmd` starts for a request, on a command that
`gatt_dequeue_sr_cmd` cleared. -/
def SrCmd.start (opCode : UInt8) (request : ReadMulti) : SrCmd :=
  ⟨request, [], gattSuccess, none, opCode, request.handles.headD 0⟩

/-- The loop of `build_read_multi_rsp` from a requested handle and a queued answer on: the octets
of the response so far (`p_buf->len` of them) and whether `p_cmd->status` became
`GATT_NOT_FOUND`. -/
def buildReadMultiLoop (variableLen : Bool) (mtu : Nat) :
    List UInt8 → List UInt16 → List GattsRsp → List UInt8 × Bool
  | written, [], _ => (written, false)
  | written, _ :: _, [] => (written, true)
  | written, handle :: handles, rsp :: rsps =>
    let totalLen := written.length + if variableLen then 2 else 0
    if totalLen > mtu then (written, false)
    else
      let len := min rsp.value.length (mtu - totalLen)
      if len = 0 then (written, false)
      else
        -- the length goes out before the handle is compared
        let written := if variableLen then written ++ le16 (UInt16.ofNat len) else written
        if rsp.handle = handle then
          let written := written ++ rsp.value.take len
          if len < rsp.value.length then (written, false)
          else buildReadMultiLoop variableLen mtu written handles rsps
        else (written, true)

/-- `build_read_multi_rsp`: the response is kept as `p_rsp_msg` unless one is there already. -/
def buildReadMultiRsp (cmd : SrCmd) (mtu : Nat) : SrCmd :=
  let opcode := if cmd.multiReq.variableLen then gattRspReadMultiVar else gattRspReadMulti
  let (buf, notFound) := buildReadMultiLoop cmd.multiReq.variableLen mtu [opcode]
    cmd.multiReq.handles cmd.multiRspQ
  let cmd := if notFound then { cmd with status := gattNotFound } else cmd
  if buf.length = 0 then { cmd with status := gattNotFound }
  else
    match cmd.pRspMsg with
    | some _ => cmd
    | none => { cmd with pRspMsg := some buf }

/-- `process_read_multi_rsp`: the answer is queued; the response is built once every handle is
answered.  The flag says whether the command is done. -/
def processReadMultiRsp (cmd : SrCmd) (status : UInt8) (msg : GattsRsp) (mtu : Nat) :
    SrCmd × Bool :=
  let cmd := { cmd with multiRspQ := cmd.multiRspQ ++ [msg], status := status }
  if status = gattSuccess then
    if cmd.multiRspQ.length = cmd.multiReq.handles.length then (buildReadMultiRsp cmd mtu, true)
    else (cmd, false)
  else (cmd, true)

/-- A PDU the server sends in reply. -/
inductive SrSent where
  | response (pdu : List UInt8)
  /-- `gatt_send_error_rsp` with the reason, the request's opcode and the handle. -/
  | errorRsp (reason opCode : UInt8) (handle : UInt16)
  deriving DecidableEq, Repr

/-- The reply `gatt_sr_process_app_rsp` sends for a done command: the response it holds, or an
Error Response with the status of the last answer. -/
def srReply (cmd : SrCmd) (status : UInt8) : SrSent :=
  if cmd.status = gattSuccess then
    match cmd.pRspMsg with
    | some pdu => .response pdu
    | none => .errorRsp status cmd.opCode cmd.handle
  else .errorRsp status cmd.opCode cmd.handle

/-- `gatt_sr_process_app_rsp` for a Read Multiple.  Its reads pass a transaction id, so they never
raise the application callback count, which stays zero: a done command is answered and
dequeued at once. -/
def gattSrProcessAppRsp (cmd : SrCmd) (status : UInt8) (msg : GattsRsp) (mtu : Nat) :
    SrCmd ⊕ SrSent :=
  let (cmd, done) := processReadMultiRsp cmd status msg mtu
  if !done then .inl cmd else .inr (srReply cmd status)

/-- Successful reads answered one after another: the PDU sent once the command is done. -/
def processAppRsps (mtu : Nat) : SrCmd → List GattsRsp → Option SrSent
  | _, [] => none
  | cmd, msg :: msgs =>
    match gattSrProcessAppRsp cmd gattSuccess msg mtu with
    | .inl cmd => processAppRsps mtu cmd msgs
    | .inr sent => some sent

section Loop

variable (variableLen : Bool) (mtu : Nat)

theorem length_header (written : List UInt8) (len : Nat) :
    (if variableLen then written ++ le16 (UInt16.ofNat len) else written).length =
      written.length + if variableLen then 2 else 0 := by
  cases variableLen <;> simp

/-- The response never grows past the `mtu`. -/
theorem length_buildReadMultiLoop (written : List UInt8) (handles : List UInt16)
    (rsps : List GattsRsp) (fits : written.length ≤ mtu) :
    (buildReadMultiLoop variableLen mtu written handles rsps).1.length ≤ mtu := by
  fun_induction buildReadMultiLoop variableLen mtu written handles rsps with
  | case1 | case2 | case3 | case4 => exact fits
  | case5 written handles rsp rsps totalLen room len nonzero header copied truncated =>
    simp only [copied, header, len, totalLen, List.length_append, length_header, List.length_take]
    omega
  | case6 written handles rsp rsps totalLen room len nonzero header copied whole induction =>
    apply induction
    simp only [copied, header, len, totalLen, List.length_append, length_header, List.length_take]
    omega
  | case7 written handle handles rsp rsps totalLen room len nonzero header mismatch =>
    simp only [header, len, totalLen, length_header]
    omega

/-- One answer of the fixed form, for the handle it is for. -/
theorem buildReadMultiLoop_fixed_cons (written : List UInt8) (answer : GattsRsp)
    (handles : List UInt16) (rsps : List GattsRsp) (fits : written.length ≤ mtu) :
    buildReadMultiLoop false mtu written (answer.handle :: handles) (answer :: rsps) =
      if answer.value = [] ∨ written.length = mtu then (written, false)
      else if mtu - written.length < answer.value.length then
        (written ++ answer.value.take (mtu - written.length), false)
      else buildReadMultiLoop false mtu (written ++ answer.value) handles rsps := by
  have room : ¬ written.length + (if false = true then 2 else 0) > mtu := by simp; omega
  rw [buildReadMultiLoop, if_neg room]
  simp only [Bool.false_eq_true, if_false, Nat.add_zero, if_true]
  by_cases nothing : answer.value = [] ∨ written.length = mtu
  · have zero : min answer.value.length (mtu - written.length) = 0 := by
      rcases nothing with empty | full
      · simp [empty]
      · omega
    rw [if_pos zero, if_pos nothing]
  · have positive : min answer.value.length (mtu - written.length) ≠ 0 := by
      have : answer.value.length ≠ 0 := by simpa using not_or.1 nothing |>.1
      omega
    rw [if_neg positive, if_neg nothing]
    by_cases truncated : mtu - written.length < answer.value.length
    · rw [if_pos (by omega), if_pos truncated, Nat.min_eq_right (Nat.le_of_lt truncated)]
    · rw [if_neg (by omega), if_neg truncated, Nat.min_eq_left (by omega), List.take_length]

/-- In request order, the fixed form copies the values up to the first empty one, until the
response is `mtu` octets long. -/
theorem buildReadMultiLoop_in_order (written : List UInt8) (answers : List GattsRsp)
    (fits : written.length ≤ mtu) :
    buildReadMultiLoop false mtu written (answers.map GattsRsp.handle) answers =
      (written ++ ((answers.takeWhile fun answer => answer.value ≠ []).map
        GattsRsp.value).flatten.take (mtu - written.length), false) := by
  induction answers generalizing written with
  | nil => simp [buildReadMultiLoop]
  | cons answer answers induction =>
    rw [List.map_cons, buildReadMultiLoop_fixed_cons mtu written answer _ _ fits]
    by_cases empty : answer.value = []
    · simp [empty]
    · rw [List.takeWhile_cons_of_pos (by simpa using empty), List.map_cons, List.flatten_cons]
      by_cases full : written.length = mtu
      · simp [full]
      · rw [if_neg (by tauto)]
        by_cases truncated : mtu - written.length < answer.value.length
        · rw [if_pos truncated, List.take_append_of_le_length (Nat.le_of_lt truncated)]
        · rw [if_neg truncated, induction _ (by simp; omega), List.take_append,
            List.take_of_length_le (show answer.value.length ≤ mtu - written.length by omega),
            List.length_append, List.append_assoc, Nat.sub_sub]

/-- An answer for another handle ends the loop with `GATT_NOT_FOUND`, once one octet of it
fits. -/
theorem buildReadMultiLoop_of_ne (written : List UInt8) (handle : UInt16)
    (handles : List UInt16) (rsp : GattsRsp) (rsps : List GattsRsp) (other : rsp.handle ≠ handle)
    (nonempty : rsp.value ≠ []) (room : written.length + (if variableLen then 2 else 0) < mtu) :
    (buildReadMultiLoop variableLen mtu written (handle :: handles) (rsp :: rsps)).2 = true := by
  have positive :
      min rsp.value.length (mtu - (written.length + if variableLen then 2 else 0)) ≠ 0 := by
    have : rsp.value.length ≠ 0 := by simpa using nonempty
    omega
  rw [buildReadMultiLoop, if_neg (by omega)]
  dsimp only
  rw [if_neg positive, if_neg other]

end Loop

section Command

variable (mtu : Nat)

/-- An answer that leaves the queue short of one per handle is queued. -/
theorem gattSrProcessAppRsp_of_short (cmd : SrCmd) (msg : GattsRsp)
    (short : cmd.multiRspQ.length + 1 ≠ cmd.multiReq.handles.length) :
    gattSrProcessAppRsp cmd gattSuccess msg mtu =
      .inl { cmd with multiRspQ := cmd.multiRspQ ++ [msg], status := gattSuccess } := by
  simp [gattSrProcessAppRsp, processReadMultiRsp, short]

/-- The answer that completes the queue builds the response, which is sent. -/
theorem gattSrProcessAppRsp_of_last (cmd : SrCmd) (msg : GattsRsp)
    (last : cmd.multiRspQ.length + 1 = cmd.multiReq.handles.length) :
    gattSrProcessAppRsp cmd gattSuccess msg mtu =
      .inr (srReply (buildReadMultiRsp
        { cmd with multiRspQ := cmd.multiRspQ ++ [msg], status := gattSuccess } mtu) gattSuccess) := by
  simp [gattSrProcessAppRsp, processReadMultiRsp, last]

/-- Successful answers are queued until there is one per handle; then the response is built from
the queue and sent. -/
theorem processAppRsps_of_waiting (cmd : SrCmd) (msgs : List GattsRsp)
    (nonempty : msgs ≠ [])
    (count : cmd.multiRspQ.length + msgs.length = cmd.multiReq.handles.length) :
    processAppRsps mtu cmd msgs =
      some (srReply (buildReadMultiRsp
        { cmd with multiRspQ := cmd.multiRspQ ++ msgs, status := gattSuccess } mtu) gattSuccess) := by
  induction msgs generalizing cmd with
  | nil => contradiction
  | cons msg msgs induction =>
    cases msgs with
    | nil =>
      rw [processAppRsps, gattSrProcessAppRsp_of_last mtu cmd msg (by simpa using count)]
    | cons next rest =>
      have short : cmd.multiRspQ.length + 1 ≠ cmd.multiReq.handles.length := by
        simp only [List.length_cons] at count
        omega
      rw [processAppRsps, gattSrProcessAppRsp_of_short mtu cmd msg short]
      dsimp only
      rw [induction _ (List.cons_ne_nil _ _)
        (by simp only [List.length_append, List.length_cons, List.length_nil] at count ⊢; omega)]
      simp

/-- A loop that ends with `GATT_NOT_FOUND` makes the reply an Error Response. -/
theorem srReply_buildReadMultiRsp_of_notFound (cmd : SrCmd) (status : UInt8)
    (notFound : (buildReadMultiLoop cmd.multiReq.variableLen mtu
      [if cmd.multiReq.variableLen then gattRspReadMultiVar else gattRspReadMulti]
      cmd.multiReq.handles cmd.multiRspQ).2 = true) :
    srReply (buildReadMultiRsp cmd mtu) status = .errorRsp status cmd.opCode cmd.handle := by
  unfold buildReadMultiRsp
  rcases built : buildReadMultiLoop cmd.multiReq.variableLen mtu
    [if cmd.multiReq.variableLen then gattRspReadMultiVar else gattRspReadMulti]
    cmd.multiReq.handles cmd.multiRspQ with ⟨buf, flag⟩
  rw [built] at notFound
  cases notFound
  have failed : gattNotFound ≠ gattSuccess := by decide
  simp only [built, if_true]
  split
  · simp [srReply, failed]
  · split <;> simp [srReply, failed]

/-- In request order the fixed form sends the values, up to the first empty one and cut at the
`mtu`. -/
theorem processAppRsps_in_order (opCode : UInt8) (answers : List GattsRsp)
    (nonempty : answers ≠ []) (positive : 1 ≤ mtu) :
    processAppRsps mtu (SrCmd.start opCode ⟨answers.map GattsRsp.handle, false⟩) answers =
      some (.response (gattRspReadMulti :: ((answers.takeWhile fun answer => answer.value ≠ []).map
        GattsRsp.value).flatten.take (mtu - 1))) := by
  rw [processAppRsps_of_waiting mtu _ answers nonempty (by simp [SrCmd.start])]
  have built := buildReadMultiLoop_in_order mtu [gattRspReadMulti] answers (by simpa using positive)
  simp [buildReadMultiRsp, SrCmd.start, built, srReply]

example : processAppRsps 23 (SrCmd.start 0x0E ⟨[1, 2], false⟩) [⟨1, [0xAA]⟩, ⟨2, [0xBB]⟩] =
    some (.response [0x0F, 0xAA, 0xBB]) := by
  decide

theorem processAppRsps_read_multi_out_of_order (opCode : UInt8) (request : ReadMulti)
    (answers order : List GattsRsp) (answered : answers.map GattsRsp.handle = request.handles)
    (nonempty : ∀ answer ∈ answers, answer.value ≠ []) (delivered : order.Perm answers)
    (first : order.head?.map GattsRsp.handle ≠ request.handles.head?)
    (room : (if request.variableLen then 3 else 1) < mtu) :
    processAppRsps mtu (SrCmd.start opCode request) order =
      some (.errorRsp gattSuccess opCode (request.handles.headD 0)) := by
  -- the first answer is for another handle than the first requested
  obtain ⟨rsp, rest, rfl⟩ : ∃ rsp rest, order = rsp :: rest := by
    cases order with
    | nil =>
      have none : answers = [] := List.Perm.nil_eq delivered |>.symm
      simp [← answered, none] at first
    | cons rsp rest => exact ⟨rsp, rest, rfl⟩
  have member : rsp ∈ answers := delivered.subset List.mem_cons_self
  obtain ⟨answer, others, rfl⟩ : ∃ answer others, answers = answer :: others :=
    List.exists_cons_of_ne_nil (List.ne_nil_of_mem member)
  have other : rsp.handle ≠ answer.handle := by
    simpa [← answered] using first
  have count : ([] : List GattsRsp).length + (rsp :: rest).length = request.handles.length := by
    rw [← answered, List.length_map, delivered.length_eq, List.length_nil, Nat.zero_add]
  rw [processAppRsps_of_waiting mtu _ _ (List.cons_ne_nil _ _) count,
    srReply_buildReadMultiRsp_of_notFound]
  · rfl
  · simp only [SrCmd.start, List.nil_append, ← answered, List.map_cons]
    apply buildReadMultiLoop_of_ne _ _ _ _ _ _ _ other (nonempty rsp member)
    cases form : request.variableLen <;> simpa [form] using room

/-- Handles 1 and 2, one octet each, where handle 2 answers first: a declaration, which the
stack reads at once, while the value of handle 1 waits for its application. -/
theorem processAppRsps_read_multi_out_of_order_at_swap :
    [(⟨1, [0xAA]⟩ : GattsRsp), ⟨2, [0xBB]⟩].map GattsRsp.handle = [1, 2] ∧
      (∀ answer ∈ [(⟨1, [0xAA]⟩ : GattsRsp), ⟨2, [0xBB]⟩], answer.value ≠ []) ∧
      [(⟨2, [0xBB]⟩ : GattsRsp), ⟨1, [0xAA]⟩].Perm [⟨1, [0xAA]⟩, ⟨2, [0xBB]⟩] ∧
      [(⟨2, [0xBB]⟩ : GattsRsp), ⟨1, [0xAA]⟩].head?.map GattsRsp.handle ≠
        [(1 : UInt16), 2].head? ∧
      (if false then 3 else 1) < 23 ∧
      processAppRsps 23 (SrCmd.start 0x0E ⟨[1, 2], false⟩) [⟨2, [0xBB]⟩, ⟨1, [0xAA]⟩] =
        some (.errorRsp gattSuccess 0x0E 1) :=
  ⟨rfl, by decide, by decide, by decide, by decide,
    processAppRsps_read_multi_out_of_order 23 0x0E ⟨[1, 2], false⟩ [⟨1, [0xAA]⟩, ⟨2, [0xBB]⟩]
      [⟨2, [0xBB]⟩, ⟨1, [0xAA]⟩] rfl (by decide) (by decide) (by decide) (by decide)⟩

end Command

end Bluetooth.Gatt
