import Mathlib
import Bluetooth.L2cap.Signalling

set_option linter.all false

/-!
# The configuration reject lists exactly the unknown options

A Configure Request is parsed twice.  The option loop of `process_l2cap_cmd`
(`configReqOptions`) decides whether to reject and sums `cfg_rej_len`, the length of the
options it does not know that are not hints; `l2cu_send_peer_config_rej`
(`configRejOptions`) walks the same octets again and copies those options into a buffer of
`cfg_rej_len` octets.  The two loops test an option's length against different bounds,
`cmd_len` and `cmd_len - 4`.

`requestOptions` is what the request holds: its options, each with its type and length octets,
up to the first whose value does not fit in the octets left.  Whenever the first loop accepts a
request, the second copies exactly the options of `requestOptions` that the stack does not
know and that are not hints, and `cfg_rej_len` is their length
(`configRejOptions_of_configReqOptions`).  The proof goes along the first loop, one option at
a time, with what one round of each loop does (`configReqOptions_step`,
`configRejOptions_step`).
-/

namespace Bluetooth.L2cap

open ByteStream

/-- The options of a configuration request: type, length and value, up to the first whose
value does not fit in what is left. -/
def requestOptions : List UInt8 → List (List UInt8)
  | code :: len :: rest =>
      if len.toNat ≤ rest.length then
        (code :: len :: rest.take len.toNat) :: requestOptions (rest.drop len.toNat)
      else []
  | _ => []
termination_by bytes => bytes.length
decreasing_by simp only [List.length_drop, List.length_cons]; omega

/-- An option a reject lists: of a type the stack does not know, and not a hint. -/
def rejectedOption : List UInt8 → Bool
  | code :: _ => !knownOption code && code &&& 0x80 == 0
  | [] => false

/-- The octets of the options a reject of `request` lists, in the request's order. -/
def rejectedOptions (request : List UInt8) : List UInt8 :=
  ((requestOptions request).filter rejectedOption).flatten

theorem requestOptions_of_fits {code len : UInt8} {rest : List UInt8}
    (fits : len.toNat ≤ rest.length) :
    requestOptions (code :: len :: rest) =
      (code :: len :: rest.take len.toNat) :: requestOptions (rest.drop len.toNat) := by
  rw [requestOptions, if_pos fits]

theorem requestOptions_of_lt {code len : UInt8} {rest : List UInt8}
    (overruns : rest.length < len.toNat) : requestOptions (code :: len :: rest) = [] := by
  rw [requestOptions, if_neg (Nat.not_le.mpr overruns)]

theorem rejectedOptions_of_fits {code len : UInt8} {rest : List UInt8}
    (fits : len.toNat ≤ rest.length) :
    rejectedOptions (code :: len :: rest) =
      (if rejectedOption (code :: len :: rest.take len.toNat) then
        code :: len :: rest.take len.toNat else []) ++ rejectedOptions (rest.drop len.toNat) := by
  rw [rejectedOptions, requestOptions_of_fits fits, List.filter_cons]
  split <;> simp [rejectedOptions]

theorem rejectedOptions_of_lt {code len : UInt8} {rest : List UInt8}
    (overruns : rest.length < len.toNat) : rejectedOptions (code :: len :: rest) = [] := by
  rw [rejectedOptions, requestOptions_of_lt overruns]
  rfl

@[simp] theorem rejectedOptions_nil : rejectedOptions [] = [] := by
  simp [rejectedOptions, requestOptions]

/-- The options of a request, one after the other, begin the request. -/
theorem flatten_requestOptions_begins_request (request : List UInt8) :
    (requestOptions request).flatten <+: request := by
  fun_induction requestOptions request with
  | case1 code len rest fits induction =>
      have whole := (List.prefix_append_right_inj (rest.take len.toNat)).mpr induction
      rw [List.take_append_drop] at whole
      rw [List.flatten_cons, List.cons_append, List.cons_append]
      exact List.cons_prefix_cons.mpr ⟨rfl, List.cons_prefix_cons.mpr ⟨rfl, whole⟩⟩
  | case2 => exact List.nil_prefix
  | case3 => exact List.nil_prefix

/-- A reject copies octets of the request, in the request's order. -/
theorem rejectedOptions_sublist (request : List UInt8) :
    (rejectedOptions request).Sublist request :=
  List.filter_sublist.flatten.trans (flatten_requestOptions_begins_request request).sublist

/-- A Configure Response built to reject the options of `request` holds, after its eighteen
octets of headers, exactly the options of the request that a reject lists; its code is
`L2CAP_CMD_CONFIG_RSP` and its result `L2CAP_CFG_UNKNOWN_OPTIONS`; and its command length is
six octets more than the options it holds, the L2CAP length four more than the command length,
and the HCI length four more than the L2CAP length. -/
def ConfigRejExact (request reply : List UInt8) : Prop :=
  reply.drop 18 = rejectedOptions request ∧ reply.getD 8 0 = 0x05 ∧ field16 reply 16 = 3 ∧
    field16 reply 10 = 6 + (rejectedOptions request).length ∧
    field16 reply 4 = field16 reply 10 + 4 ∧ field16 reply 2 = field16 reply 4 + 4

section Loops

variable {packet : List UInt8} {cmdLen pEnd p : Nat}

/-- The first loop accepts a request only if every option it starts has its two header octets
inside the command. -/
theorem header_of_configReqOptions {info : CfgInfo} {rej : Bool} {rejLen : UInt16}
    {result : CfgInfo × Bool × UInt16} (inside : p < pEnd)
    (accepted : configReqOptions packet cmdLen pEnd p info rej rejLen = .ok (some result)) :
    p + 2 ≤ pEnd := by
  rw [configReqOptions, dif_pos inside] at accepted
  by_contra short
  simp [Nat.not_le.mp short] at accepted

theorem configReqOptions_step {info : CfgInfo} {rej : Bool} {rejLen : UInt16}
    {result : CfgInfo × Bool × UInt16} (within : pEnd ≤ packet.length) (header : p + 2 ≤ pEnd)
    (accepted : configReqOptions packet cmdLen pEnd p info rej rejLen = .ok (some result)) :
    if knownOption packet[p] then
      p + 2 + packet[p + 1].toNat ≤ pEnd ∧
        ∃ info', configReqOptions packet cmdLen pEnd (p + 2 + packet[p + 1].toNat) info' rej
          rejLen = .ok (some result)
    else if packet[p + 1].toNat + 2 ≤ cmdLen then
      p + 2 + packet[p + 1].toNat ≤ pEnd ∧
        configReqOptions packet cmdLen pEnd (p + 2 + packet[p + 1].toNat) info
          (if packet[p] &&& 0x80 = 0 then true else rej)
          (if packet[p] &&& 0x80 = 0 then rejLen + packet[p + 1].toUInt16 + 2 else rejLen) =
          .ok (some result)
    else result = (info, true, rejLen) := by
  have inside : p < pEnd := by omega
  rw [configReqOptions, dif_pos inside, if_neg (by omega), u8_of_lt (by omega),
    u8_of_lt (by omega)] at accepted
  simp only [ok_bind] at accepted
  split at accepted
  case h_7 =>
    rename_i not1 not2 not3 not4 not5 not6
    have unknown : knownOption packet[p] = false := by
      simp only [knownOption, Bool.or_eq_false_iff, beq_eq_false_iff_ne, ne_eq]
      exact ⟨⟨⟨⟨⟨not1, not2⟩, not3⟩, not4⟩, not5⟩, not6⟩
    rw [if_neg (by simp [unknown])]
    split_ifs at accepted with fits overruns hint
    · simp at accepted
    · rw [if_pos fits]
      exact ⟨by omega, by simpa [hint] using accepted⟩
    · rw [if_pos fits]
      exact ⟨by omega, by simpa [hint] using accepted⟩
    · rw [if_neg fits]
      simpa using accepted.symm
  all_goals
    rename_i kind
    have known : knownOption packet[p] = true := by simp [knownOption, kind]
    rw [if_pos known]
    split_ifs at accepted with wrongLength overruns
    · simp at accepted
    · simp at accepted
    · obtain ⟨value, -, next⟩ := bind_eq_ok.mp accepted
      rw [not_not.mp wrongLength] at overruns ⊢
      simp only [UInt8.reduceToNat, gt_iff_lt] at overruns ⊢
      exact ⟨Nat.not_lt.mp overruns, _, next⟩

theorem toNat_add_option {rejLen : UInt16} {len : UInt8}
    (noWrap : rejLen.toNat + (len.toNat + 2) < 2 ^ 16) :
    (rejLen + len.toUInt16 + 2).toNat = rejLen.toNat + (len.toNat + 2) := by
  simp only [UInt16.toNat_add, UInt8.toNat_toUInt16, UInt16.reduceToNat]
  omega

theorem configRejOptions_of_configReqOptions {p dataLen : Nat} {info : CfgInfo} {rej : Bool}
    {rejLen : UInt16} {result : CfgInfo × Bool × UInt16}
    (within : pEnd ≤ packet.length) (room : pEnd - p ≤ dataLen) (bound : dataLen ≤ cmdLen)
    (noWrap : rejLen.toNat + (pEnd - p) < 2 ^ 16)
    (accepted : configReqOptions packet cmdLen pEnd p info rej rejLen = .ok (some result)) :
    result.2.2.toNat = rejLen.toNat + (rejectedOptions (slice packet p pEnd)).length ∧
      ∀ bufSpace written, (rejectedOptions (slice packet p pEnd)).length ≤ bufSpace.toNat →
        configRejOptions packet dataLen pEnd p bufSpace written =
          .ok (written ++ rejectedOptions (slice packet p pEnd)) := by
  by_cases inside : p < pEnd
  case neg =>
    rw [configReqOptions, dif_neg inside] at accepted
    simp only [pure_eq_ok, Except.ok.injEq, Option.some.injEq] at accepted
    subst accepted
    rw [slice_of_le (by omega), rejectedOptions_nil]
    refine ⟨rfl, fun bufSpace written _ => ?_⟩
    rw [configRejOptions, if_neg inside]
    simp
  have header := header_of_configReqOptions inside accepted
  have step := configReqOptions_step within header accepted
  have sliced : slice packet p pEnd = packet[p] :: packet[p + 1] :: slice packet (p + 2) pEnd := by
    rw [slice_eq_cons inside within, slice_eq_cons (by omega) within]
  have restLength : (slice packet (p + 2) pEnd).length = pEnd - (p + 2) := length_slice within
  have second : ∀ bufSpace written, configRejOptions packet dataLen pEnd p bufSpace written =
      if knownOption packet[p] then
        configRejOptions packet dataLen pEnd (p + (packet[p + 1].toNat + 2)) bufSpace written
      else if packet[p + 1].toNat + 2 ≤ dataLen then
        if packet[p] &&& 0x80 = 0 then
          if bufSpace.toNat ≥ packet[p + 1].toNat + 2 then do
            let option ← octets packet p (packet[p + 1].toNat + 2)
            configRejOptions packet dataLen pEnd (p + (packet[p + 1].toNat + 2))
              (bufSpace - UInt16.ofNat (packet[p + 1].toNat + 2)) (written ++ option)
          else .ok written
        else configRejOptions packet dataLen pEnd (p + (packet[p + 1].toNat + 2)) bufSpace written
      else .ok written := by
    intro bufSpace written
    rw [configRejOptions, if_pos inside, u8_of_lt (by omega), u8_of_lt (by omega)]
    rfl
  split_ifs at step with known fits hint
  · obtain ⟨fitsEnd, info', next⟩ := step
    have ih := configRejOptions_of_configReqOptions within (by omega) bound (by omega) next
    rw [sliced, rejectedOptions_of_fits (by omega), if_neg (by simp [rejectedOption, known]),
      List.nil_append, drop_slice]
    refine ⟨ih.1, fun bufSpace written enough => ?_⟩
    rw [second, if_pos known, show p + (packet[p + 1].toNat + 2) = p + 2 + packet[p + 1].toNat by
      omega]
    exact ih.2 bufSpace written enough
  · -- an option the reject lists: counted by the first loop, copied by the second
    obtain ⟨fitsEnd, next⟩ := step
    have grown : (rejLen + packet[p + 1].toUInt16 + 2).toNat =
        rejLen.toNat + (packet[p + 1].toNat + 2) := toNat_add_option (by omega)
    have ih := configRejOptions_of_configReqOptions within (by omega) bound
      (by rw [grown]; omega) next
    rw [grown] at ih
    have valueLength : ((slice packet (p + 2) pEnd).take packet[p + 1].toNat).length =
        packet[p + 1].toNat := List.length_take_of_le (by omega)
    have option : slice packet p (p + (packet[p + 1].toNat + 2)) =
        packet[p] :: packet[p + 1] :: (slice packet (p + 2) pEnd).take packet[p + 1].toNat := by
      rw [← take_slice (show p + (packet[p + 1].toNat + 2) ≤ pEnd by omega), sliced]
      rfl
    rw [sliced, rejectedOptions_of_fits (by omega),
      if_pos (by simp [rejectedOption, known, hint]), drop_slice]
    refine ⟨by simp only [List.length_append, List.length_cons, valueLength]; omega,
      fun bufSpace written enough => ?_⟩
    simp only [List.length_append, List.length_cons, valueLength] at enough
    have left : (rejectedOptions (slice packet (p + 2 + packet[p + 1].toNat) pEnd)).length ≤
        (bufSpace - UInt16.ofNat (packet[p + 1].toNat + 2)).toNat := by
      have small : (UInt16.ofNat (packet[p + 1].toNat + 2)).toNat = packet[p + 1].toNat + 2 :=
        UInt16.toNat_ofNat_of_lt' (by rw [show UInt16.size = 65536 from rfl]; omega)
      rw [UInt16.toNat_sub_of_le _ _ (by rw [UInt16.le_iff_toNat_le, small]; omega), small]
      omega
    rw [second, if_neg known, if_pos (by omega), if_pos hint, if_pos (by omega),
      octets_of_le (by omega), ok_bind, option,
      show p + (packet[p + 1].toNat + 2) = p + 2 + packet[p + 1].toNat by omega, ih.2 _ _ left]
    simp
  · obtain ⟨fitsEnd, next⟩ := step
    have ih := configRejOptions_of_configReqOptions within (by omega) bound (by omega) next
    rw [sliced, rejectedOptions_of_fits (by omega),
      if_neg (by simp [rejectedOption, hint]), List.nil_append, drop_slice]
    refine ⟨ih.1, fun bufSpace written enough => ?_⟩
    rw [second, if_neg known, if_pos (by omega), if_neg hint,
      show p + (packet[p + 1].toNat + 2) = p + 2 + packet[p + 1].toNat by omega]
    exact ih.2 bufSpace written enough
  · -- a bad length ends both loops
    subst step
    rw [sliced, rejectedOptions_of_lt (by omega)]
    refine ⟨by simp, fun bufSpace written _ => ?_⟩
    rw [second, if_neg known, if_neg (by omega)]
    simp
termination_by pEnd - p

theorem l2cuSendPeerConfigRej_of_configReqOptions (view : LinkView) (remoteId : UInt8)
    (remoteCid : UInt16) {pCfgStart dataLen pEnd : Nat} {info : CfgInfo}
    {result : CfgInfo × Bool × UInt16} (ends : pCfgStart + dataLen = pEnd)
    (within : pEnd ≤ packet.length) (bound : dataLen ≤ cmdLen) (small : dataLen + 26 ≤ 0xFFFF)
    (accepted : configReqOptions packet cmdLen pEnd pCfgStart info false 0 = .ok (some result)) :
    ∃ reply, l2cuSendPeerConfigRej view remoteId remoteCid packet pCfgStart
        (UInt16.ofNat dataLen) result.2.2 = .ok (some reply) ∧
      ConfigRejExact (slice packet pCfgStart pEnd) reply := by
  subst ends
  have loops := configRejOptions_of_configReqOptions within (by omega) bound
    (by simp; omega) accepted
  have counted : result.2.2.toNat =
      (rejectedOptions (slice packet pCfgStart (pCfgStart + dataLen))).length := by
    simpa using loops.1
  have short : (rejectedOptions (slice packet pCfgStart (pCfgStart + dataLen))).length ≤ dataLen :=
    Nat.le_trans (rejectedOptions_sublist _).length_le (by rw [length_slice within]; omega)
  have dataLenFits : (UInt16.ofNat dataLen).toNat = dataLen :=
    UInt16.toNat_ofNat_of_lt' (by rw [show UInt16.size = 65536 from rfl]; omega)
  rw [l2cuSendPeerConfigRej]
  dsimp only
  rw [if_neg (by rw [gt_iff_lt, UInt16.lt_iff_toNat_lt]; simp; omega), dataLenFits,
    loops.2 _ _ (Nat.le_of_eq counted.symm)]
  refine ⟨_, rfl, ?_⟩
  simp only [le16, List.cons_append, List.nil_append]
  refine ⟨rfl, rfl, ?_, ?_, ?_, ?_⟩
  all_goals simp only [field16, List.getD_cons_succ, List.getD_cons_zero, toNat_le16]
  · rfl
  all_goals simp [UInt16.toNat_add]
  all_goals omega

end Loops
end Bluetooth.L2cap
