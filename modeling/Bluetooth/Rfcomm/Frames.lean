import Mathlib

set_option linter.all false

/-!
# RFCOMM frames: UIH framing and `rfc_parse_data`

`rfc_send_buf_uih` puts a UIH frame around a payload: the address octet (EA, C/R and the
DLCI), the control octet (UIH, with P/F set when a credit octet follows), a length of one octet
up to 127 and of two above, the credit octet, the payload, and the FCS over the first two
octets.  `rfc_parse_data` reads any frame back: it checks the EA bits, that the length accounts
for the rest of the buffer, and the FCS, and then picks the event from the frame type.

Between two ends of a multiplexer, with the same flow control, the parser gives back the DLCI,
a command C/R bit, the credit and exactly the payload (`rfcParseData_rfcSendBufUih`).  The
parser reads nothing outside its buffer (`rfcParseData_congr`), and it reports a UIH frame only
when the length octets and the FCS account for every octet (`rfcParseData_of_uih`).
-/

namespace Bluetooth.Rfcomm

/-- `RFCOMM_CTRL_FRAME_LEN`. -/
def rfcommCtrlFrameLen : Nat := 3

/-- `RFCOMM_EA`, the extension bit of the address and length octets. -/
def rfcommEa : UInt8 := 1

/-- `RFCOMM_CR_MASK`. -/
def rfcommCrMask : UInt8 := 0x02

/-- `RFCOMM_PF` and `RFCOMM_PF_MASK`. -/
def rfcommPf : UInt8 := 0x10

/-- `RFCOMM_SABME`. -/
def rfcommSabme : UInt8 := 0x2F

/-- `RFCOMM_UA`. -/
def rfcommUa : UInt8 := 0x63

/-- `RFCOMM_DM`. -/
def rfcommDm : UInt8 := 0x0F

/-- `RFCOMM_DISC`. -/
def rfcommDisc : UInt8 := 0x43

/-- `RFCOMM_UIH`. -/
def rfcommUih : UInt8 := 0xEF

/-- `RFCOMM_MX_DLCI`, the multiplexer control channel. -/
def rfcommMxDlci : UInt8 := 0

/-- `PORT_FC_CREDIT`, credit-based flow control. -/
def portFcCredit : UInt8 := 2

/-- `RFCOMM_VALID_DLCI`: the control channel, or a DLCI from 2 to `RFCOMM_MAX_DLCI`. -/
def rfcommValidDlci (dlci : UInt8) : Bool := dlci == 0 || (2 ≤ dlci && dlci ≤ 61)

/-- `RFCOMM_CR(initiator, is_command)`. -/
def rfcommCr (initiator isCommand : Bool) : UInt8 :=
  if (initiator && isCommand) || (!initiator && !isCommand) then 2 else 0

/-- `RFCOMM_FRAME_IS_CMD(initiator, cr)`. -/
def rfcommFrameIsCmd (initiator : Bool) (cr : UInt8) : Bool :=
  (initiator && cr == 0) || (!initiator && cr != 0)

/-- `RFCOMM_FRAME_IS_RSP(initiator, cr)`. -/
def rfcommFrameIsRsp (initiator : Bool) (cr : UInt8) : Bool :=
  (initiator && cr != 0) || (!initiator && cr == 0)

/-- `rfc_crctable`: the reversed CRC table, 8 bits, polynomial `0x07`. -/
def rfcCrctable : List UInt8 := [
  0x00, 0x91, 0xE3, 0x72, 0x07, 0x96, 0xE4, 0x75, 0x0E, 0x9F, 0xED, 0x7C,
  0x09, 0x98, 0xEA, 0x7B, 0x1C, 0x8D, 0xFF, 0x6E, 0x1B, 0x8A, 0xF8, 0x69,
  0x12, 0x83, 0xF1, 0x60, 0x15, 0x84, 0xF6, 0x67, 0x38, 0xA9, 0xDB, 0x4A,
  0x3F, 0xAE, 0xDC, 0x4D, 0x36, 0xA7, 0xD5, 0x44, 0x31, 0xA0, 0xD2, 0x43,
  0x24, 0xB5, 0xC7, 0x56, 0x23, 0xB2, 0xC0, 0x51, 0x2A, 0xBB, 0xC9, 0x58,
  0x2D, 0xBC, 0xCE, 0x5F, 0x70, 0xE1, 0x93, 0x02, 0x77, 0xE6, 0x94, 0x05,
  0x7E, 0xEF, 0x9D, 0x0C, 0x79, 0xE8, 0x9A, 0x0B, 0x6C, 0xFD, 0x8F, 0x1E,
  0x6B, 0xFA, 0x88, 0x19, 0x62, 0xF3, 0x81, 0x10, 0x65, 0xF4, 0x86, 0x17,
  0x48, 0xD9, 0xAB, 0x3A, 0x4F, 0xDE, 0xAC, 0x3D, 0x46, 0xD7, 0xA5, 0x34,
  0x41, 0xD0, 0xA2, 0x33, 0x54, 0xC5, 0xB7, 0x26, 0x53, 0xC2, 0xB0, 0x21,
  0x5A, 0xCB, 0xB9, 0x28, 0x5D, 0xCC, 0xBE, 0x2F, 0xE0, 0x71, 0x03, 0x92,
  0xE7, 0x76, 0x04, 0x95, 0xEE, 0x7F, 0x0D, 0x9C, 0xE9, 0x78, 0x0A, 0x9B,
  0xFC, 0x6D, 0x1F, 0x8E, 0xFB, 0x6A, 0x18, 0x89, 0xF2, 0x63, 0x11, 0x80,
  0xF5, 0x64, 0x16, 0x87, 0xD8, 0x49, 0x3B, 0xAA, 0xDF, 0x4E, 0x3C, 0xAD,
  0xD6, 0x47, 0x35, 0xA4, 0xD1, 0x40, 0x32, 0xA3, 0xC4, 0x55, 0x27, 0xB6,
  0xC3, 0x52, 0x20, 0xB1, 0xCA, 0x5B, 0x29, 0xB8, 0xCD, 0x5C, 0x2E, 0xBF,
  0x90, 0x01, 0x73, 0xE2, 0x97, 0x06, 0x74, 0xE5, 0x9E, 0x0F, 0x7D, 0xEC,
  0x99, 0x08, 0x7A, 0xEB, 0x8C, 0x1D, 0x6F, 0xFE, 0x8B, 0x1A, 0x68, 0xF9,
  0x82, 0x13, 0x61, 0xF0, 0x85, 0x14, 0x66, 0xF7, 0xA8, 0x39, 0x4B, 0xDA,
  0xAF, 0x3E, 0x4C, 0xDD, 0xA6, 0x37, 0x45, 0xD4, 0xA1, 0x30, 0x42, 0xD3,
  0xB4, 0x25, 0x57, 0xC6, 0xB3, 0x22, 0x50, 0xC1, 0xBA, 0x2B, 0x59, 0xC8,
  0xBD, 0x2C, 0x5E, 0xCF]

/-- The CRC register after the octets, from `0xFF`. -/
def crcOf (octets : List UInt8) : UInt8 :=
  octets.foldl (fun fcs octet => rfcCrctable.getD (fcs ^^^ octet).toNat 0) 0xFF

/-- `rfc_calc_fcs`: the ones' complement of the CRC register. -/
def rfcCalcFcs (octets : List UInt8) : UInt8 := 0xFF - crcOf octets

/-- `rfc_check_fcs`: the CRC register after the octets and the received FCS is `0xCF`. -/
def rfcCheckFcs (octets : List UInt8) (receivedFcs : UInt8) : Bool :=
  rfcCrctable.getD (crcOf octets ^^^ receivedFcs).toNat 0 == 0xCF

/-- The fields of `tRFC_MCB` the framing reads. -/
structure RfcMcb where
  /-- `is_initiator`. -/
  isInitiator : Bool
  /-- `flow`. -/
  flow : UInt8
  deriving DecidableEq, Repr

/-- The fields of `MX_FRAME` that `rfc_parse_data` writes. -/
structure MxFrame where
  /-- `dlci`. -/
  dlci : UInt8
  /-- `type`. -/
  type : UInt8
  /-- `cr`. -/
  cr : UInt8
  /-- `pf`. -/
  pf : UInt8
  /-- `credit`. -/
  credit : UInt8
  deriving DecidableEq, Repr

/-- `tRFC_EVENT`, as `rfc_parse_data` returns it. -/
inductive RfcEvent where
  | sabme
  | ua
  | dm
  | disc
  | uih
  | badFrame
  deriving DecidableEq, Repr

/-- The address octet `rfc_send_buf_uih` writes: EA, the C/R bit of a command, and the DLCI. -/
def uihAddress (mcb : RfcMcb) (dlci : UInt8) : UInt8 :=
  rfcommEa ||| rfcommCr mcb.isInitiator true ||| (dlci <<< 2)

/-- The control octet: UIH, with P/F set when a credit octet follows. -/
def uihControl (credits : UInt8) : UInt8 := rfcommUih ||| if credits ≠ 0 then rfcommPf else 0

/-- The length octets: one with EA set up to 127, two above, the low seven bits first. -/
def uihLengthOctets (len : Nat) : List UInt8 :=
  if len ≤ 127 then [UInt8.ofNat (1 ||| (len <<< 1))]
  else [UInt8.ofNat ((len &&& 0x7f) <<< 1), UInt8.ofNat (len >>> 7)]

/-- `credits`: `(uint8_t)p_buf->layer_specific` on a data channel, none on the control
channel. -/
def uihCredits (dlci : UInt8) (layerSpecific : UInt16) : UInt8 :=
  if dlci ≠ 0 then layerSpecific.toUInt8 else 0

/-- `rfc_send_buf_uih`: the octets of the frame from the new `p_buf->offset` on, for a payload of
`p_buf->len` octets and `p_buf->layer_specific`. -/
def rfcSendBufUih (mcb : RfcMcb) (dlci : UInt8) (payload : List UInt8) (layerSpecific : UInt16) :
    List UInt8 :=
  [uihAddress mcb dlci, uihControl (uihCredits dlci layerSpecific)] ++
    uihLengthOctets payload.length ++
    (if uihCredits dlci layerSpecific ≠ 0 then [uihCredits dlci layerSpecific] else []) ++
    payload ++ [rfcCalcFcs [uihAddress mcb dlci, uihControl (uihCredits dlci layerSpecific)]]

/-- The `switch` on the frame type that ends `rfc_parse_data`, with the first three octets of
the frame and the FCS octet. -/
def frameEvent (mcb : RfcMcb) (frame : MxFrame) (length : Nat) (start : List UInt8)
    (fcs : UInt8) : RfcEvent :=
  if frame.type = rfcommSabme then
    if rfcommFrameIsRsp mcb.isInitiator frame.cr || frame.pf == 0 || length != 0 ||
        !rfcommValidDlci frame.dlci || !rfcCheckFcs (start.take 3) fcs then .badFrame
    else .sabme
  else if frame.type = rfcommUa then
    if rfcommFrameIsCmd mcb.isInitiator frame.cr || frame.pf == 0 || length != 0 ||
        !rfcommValidDlci frame.dlci || !rfcCheckFcs (start.take 3) fcs then .badFrame
    else .ua
  else if frame.type = rfcommDm then
    if rfcommFrameIsCmd mcb.isInitiator frame.cr || length != 0 ||
        !rfcommValidDlci frame.dlci || !rfcCheckFcs (start.take 3) fcs then .badFrame
    else .dm
  else if frame.type = rfcommDisc then
    if rfcommFrameIsRsp mcb.isInitiator frame.cr || frame.pf == 0 || length != 0 ||
        !rfcommValidDlci frame.dlci || !rfcCheckFcs (start.take 3) fcs then .badFrame
    else .disc
  else if frame.type = rfcommUih then
    -- a UIH frame with a response C/R bit is let through
    if !rfcommValidDlci frame.dlci then .badFrame
    else if !rfcCheckFcs (start.take 2) fcs then .badFrame
    else .uih
  else .badFrame

/-- The end of `rfc_parse_data`, with `p_data` at `pos` octets into the frame and `remaining`
left in `p_buf->len`: the length must account for them, and the FCS octet follows. -/
def finishParse (mcb : RfcMcb) (frame : MxFrame) (offset : Nat) (byte : Nat → UInt8)
    (pos remaining length : Nat) : RfcEvent × MxFrame × Nat × Nat :=
  if remaining ≠ length then (.badFrame, frame, offset + pos, remaining)
  else (frameEvent mcb frame length [byte 0, byte 1, byte 2] (byte (pos + length)), frame,
    offset + pos, remaining)

/-- `rfc_parse_data` on the `len` octets from `p_buf->offset`, which `byte` reads: the event, the
frame, and `p_buf->offset` and `p_buf->len` after it. -/
def rfcParseData (mcb : RfcMcb) (frame : MxFrame) (offset len : Nat) (byte : Nat → UInt8) :
    RfcEvent × MxFrame × Nat × Nat :=
  if len < rfcommCtrlFrameLen then (.badFrame, frame, offset, len)
  else if byte 0 &&& rfcommEa = 0 then
    -- `RFCOMM_PARSE_CTRL_FIELD` has already read a second DLCI octet
    (.badFrame, { frame with
      cr := (byte 0 &&& rfcommCrMask) >>> 1, dlci := (byte 0 >>> 2) + (byte 1 <<< 6) },
      offset, len)
  else
    let parsed := { frame with
      cr := (byte 0 &&& rfcommCrMask) >>> 1, dlci := byte 0 >>> 2,
      type := byte 1 &&& ~~~rfcommPf, pf := (byte 1 &&& rfcommPf) >>> 4 }
    let eal := byte 2 &&& rfcommEa
    if eal = 0 ∧ len ≤ rfcommCtrlFrameLen then (.badFrame, parsed, offset, len)
    else
      let length := (byte 2 >>> 1).toNat + if eal = 0 then (byte 3).toNat <<< 7 else 0
      let header := 3 + if eal = 0 then 1 else 0
      if len < header + 1 then (.badFrame, parsed, offset, len)
      else if mcb.flow = portFcCredit ∧ parsed.type = rfcommUih ∧
          parsed.dlci ≠ rfcommMxDlci ∧ parsed.pf = 1 then
        if len - (header + 1) < 1 then (.badFrame, parsed, offset + header, len - (header + 1))
        else finishParse mcb { parsed with credit := byte header } offset byte (header + 1)
          (len - (header + 1) - 1) length
      else finishParse mcb { parsed with credit := 0 } offset byte header (len - (header + 1))
        length

/-! ## The FCS -/

/-- `0xFF - c` is the bitwise complement of an octet. -/
theorem xor_ff (c : UInt8) : c ^^^ 0xFF = 0xFF - c := by
  have octets : ∀ n < 256, UInt8.ofNat n ^^^ 0xFF = 0xFF - UInt8.ofNat n := by decide +kernel
  simpa using octets c.toNat c.toNat_lt

/-- `0xCF` stands in `rfc_crctable` at `0xFF` only. -/
theorem rfcCrctable_eq_cf_iff (y : UInt8) : rfcCrctable.getD y.toNat 0 = 0xCF ↔ y = 0xFF := by
  have table : ∀ n < 256, (rfcCrctable.getD n 0 = 0xCF ↔ n = 255) := by decide +kernel
  rw [table y.toNat y.toNat_lt, ← UInt8.toNat_inj]
  rfl

/-- `rfc_check_fcs` accepts exactly the FCS that `rfc_calc_fcs` computes. -/
theorem rfcCheckFcs_iff (octets : List UInt8) (fcs : UInt8) :
    rfcCheckFcs octets fcs = true ↔ fcs = rfcCalcFcs octets := by
  unfold rfcCheckFcs rfcCalcFcs
  rw [beq_iff_eq, rfcCrctable_eq_cf_iff, ← xor_ff]
  constructor
  · intro complement
    rw [← complement, xor_cancel_left]
  · rintro rfl
    rw [xor_cancel_left]

/-! ## What the parser accepts as a UIH frame -/

/-- The number of length octets, as the EA bit of octet 2 says. -/
def lengthOctets (byte : Nat → UInt8) : Nat := if byte 2 &&& rfcommEa = 0 then 2 else 1

/-- The length that the length octets encode. -/
def encodedLength (byte : Nat → UInt8) : Nat :=
  (byte 2 >>> 1).toNat + if byte 2 &&& rfcommEa = 0 then (byte 3).toNat <<< 7 else 0

/-- Whether a credit octet follows the length: credit-based flow control, and a UIH frame with
P/F set on a data channel. -/
def carriesCredit (mcb : RfcMcb) (byte : Nat → UInt8) : Prop :=
  mcb.flow = portFcCredit ∧ byte 1 &&& ~~~rfcommPf = rfcommUih ∧ byte 0 >>> 2 ≠ rfcommMxDlci ∧
    (byte 1 &&& rfcommPf) >>> 4 = 1

instance (mcb : RfcMcb) (byte : Nat → UInt8) : Decidable (carriesCredit mcb byte) :=
  inferInstanceAs (Decidable (_ ∧ _))

/-- A UIH frame as `rfc_parse_data` takes it: EA set in the address, a UIH control octet, a
valid DLCI, the header, credit octet, encoded length and FCS octet making up the whole buffer,
and the last octet the FCS of the first two. -/
structure IsUihFrame (mcb : RfcMcb) (len : Nat) (byte : Nat → UInt8) : Prop where
  ea : byte 0 &&& rfcommEa ≠ 0
  uih : byte 1 &&& ~~~rfcommPf = rfcommUih
  valid : rfcommValidDlci (byte 0 >>> 2) = true
  whole : len = 2 + lengthOctets byte + (if carriesCredit mcb byte then 1 else 0) +
    encodedLength byte + 1
  fcs : byte (len - 1) = rfcCalcFcs [byte 0, byte 1]

/-! ## The parser -/

section Parser

variable {mcb : RfcMcb} {frame : MxFrame} {offset len : Nat} {byte : Nat → UInt8}

theorem frameEvent_uih {frame : MxFrame} (isUih : frame.type = rfcommUih)
    (valid : rfcommValidDlci frame.dlci = true) {start : List UInt8} {fcs : UInt8} (length : Nat)
    (checked : fcs = rfcCalcFcs (start.take 2)) :
    frameEvent mcb frame length start fcs = .uih := by
  have checks : rfcCheckFcs (start.take 2) fcs = true := (rfcCheckFcs_iff _ _).2 checked
  simp [frameEvent, isUih, valid, checks, rfcommUih, rfcommSabme, rfcommUa, rfcommDm, rfcommDisc]

/-- The parser on a UIH frame: the event, the fields of the address and control octets, the
credit octet if there is one, and the buffer narrowed to the information field. -/
theorem rfcParseData_of_isUihFrame (uih : IsUihFrame mcb len byte) :
    rfcParseData mcb frame offset len byte =
      (.uih, { frame with
          cr := (byte 0 &&& rfcommCrMask) >>> 1, dlci := byte 0 >>> 2,
          type := byte 1 &&& ~~~rfcommPf, pf := (byte 1 &&& rfcommPf) >>> 4,
          credit := if carriesCredit mcb byte then byte (2 + lengthOctets byte) else 0 },
        offset + 2 + lengthOctets byte + (if carriesCredit mcb byte then 1 else 0),
        encodedLength byte) := by
  obtain ⟨ea, isUih, valid, whole, fcs⟩ := uih
  have header : 3 + (if byte 2 &&& rfcommEa = 0 then 1 else 0) = 2 + lengthOctets byte := by
    unfold lengthOctets
    split <;> rfl
  have octets : 1 ≤ lengthOctets byte := by
    unfold lengthOctets
    split <;> omega
  have eal_long : ¬ (byte 2 &&& rfcommEa = 0 ∧ len ≤ rfcommCtrlFrameLen) := by
    unfold rfcommCtrlFrameLen lengthOctets at *
    split at whole <;> omega
  dsimp only [rfcParseData]
  rw [show (byte 2 >>> 1).toNat + (if byte 2 &&& rfcommEa = 0 then (byte 3).toNat <<< 7 else 0) =
    encodedLength byte from rfl]
  rw [if_neg (by unfold rfcommCtrlFrameLen; omega), if_neg ea, if_neg eal_long, header,
    if_neg (by omega)]
  by_cases credit : carriesCredit mcb byte
  · have credit' : mcb.flow = portFcCredit ∧ byte 1 &&& ~~~rfcommPf = rfcommUih ∧
        byte 0 >>> 2 ≠ rfcommMxDlci ∧ (byte 1 &&& rfcommPf) >>> 4 = 1 := credit
    rw [if_pos credit] at whole
    have at_fcs : 2 + lengthOctets byte + 1 + encodedLength byte = len - 1 := by omega
    rw [if_pos credit', if_neg (by omega), finishParse, if_neg (by omega),
      frameEvent_uih isUih valid _ (by rw [at_fcs, fcs]; rfl)]
    simp only [if_pos credit, Prod.mk.injEq, true_and]
    exact ⟨by omega, by omega⟩
  · have credit' : ¬ (mcb.flow = portFcCredit ∧ byte 1 &&& ~~~rfcommPf = rfcommUih ∧
        byte 0 >>> 2 ≠ rfcommMxDlci ∧ (byte 1 &&& rfcommPf) >>> 4 = 1) := credit
    rw [if_neg credit] at whole
    have at_fcs : 2 + lengthOctets byte + encodedLength byte = len - 1 := by omega
    rw [if_neg credit', finishParse, if_neg (by omega),
      frameEvent_uih isUih valid _ (by rw [at_fcs, fcs]; rfl)]
    simp only [if_neg credit, Prod.mk.injEq, true_and]
    exact ⟨by omega, by omega⟩

theorem frameEvent_eq_uih {frame : MxFrame} {length : Nat} {start : List UInt8} {fcs : UInt8}
    (event : frameEvent mcb frame length start fcs = .uih) :
    frame.type = rfcommUih ∧ rfcommValidDlci frame.dlci = true ∧
      fcs = rfcCalcFcs (start.take 2) := by
  unfold frameEvent at event
  -- the SABME, UA, DM and DISC branches give other events; `split_ifs` drops them
  split_ifs at event
  rename_i uih valid checked
  exact ⟨uih, by simpa using valid, (rfcCheckFcs_iff _ _).1 (by simpa using checked)⟩

theorem finishParse_eq_uih {frame : MxFrame} {pos remaining length : Nat}
    (parsed : (finishParse mcb frame offset byte pos remaining length).1 = .uih) :
    remaining = length ∧ frame.type = rfcommUih ∧ rfcommValidDlci frame.dlci = true ∧
      byte (pos + length) = rfcCalcFcs [byte 0, byte 1] := by
  unfold finishParse at parsed
  split_ifs at parsed with mismatch
  obtain ⟨isUih, valid, fcs⟩ := frameEvent_eq_uih parsed
  exact ⟨by simpa using mismatch, isUih, valid, fcs⟩

/-- The parser reports a UIH frame only on a frame of that shape. -/
theorem isUihFrame_of_rfcParseData (parsed : (rfcParseData mcb frame offset len byte).1 = .uih) :
    IsUihFrame mcb len byte := by
  have header : 3 + (if byte 2 &&& rfcommEa = 0 then 1 else 0) = 2 + lengthOctets byte := by
    unfold lengthOctets
    split <;> rfl
  dsimp only [rfcParseData] at parsed
  rw [show (byte 2 >>> 1).toNat + (if byte 2 &&& rfcommEa = 0 then (byte 3).toNat <<< 7 else 0) =
    encodedLength byte from rfl, header] at parsed
  split_ifs at parsed with short ea eal_short room credit credit_short
  · obtain ⟨remaining, isUih, valid, fcs⟩ := finishParse_eq_uih parsed
    refine ⟨ea, isUih, valid, by rw [if_pos (show carriesCredit mcb byte from credit)]; omega, ?_⟩
    rw [show len - 1 = 2 + lengthOctets byte + 1 + encodedLength byte by omega]
    exact fcs
  · obtain ⟨remaining, isUih, valid, fcs⟩ := finishParse_eq_uih parsed
    refine ⟨ea, isUih, valid, by rw [if_neg (show ¬ carriesCredit mcb byte from credit)]; omega, ?_⟩
    rw [show len - 1 = 2 + lengthOctets byte + encodedLength byte by omega]
    exact fcs

theorem finishParse_congr {byte' : Nat → UInt8} {frame : MxFrame} {pos remaining length : Nat}
    (header : 3 ≤ pos) (same : ∀ i < pos + remaining + 1, byte i = byte' i) :
    finishParse mcb frame offset byte pos remaining length =
      finishParse mcb frame offset byte' pos remaining length := by
  unfold finishParse
  split_ifs with mismatch
  · rfl
  · rw [same 0 (by omega), same 1 (by omega), same 2 (by omega), same (pos + length) (by omega)]

/-- The parser reads nothing outside its buffer: two memories that agree on the `len` octets
from `p_buf->offset` give the same event, frame and buffer. -/
theorem rfcParseData_congr {byte' : Nat → UInt8} (same : ∀ i < len, byte i = byte' i) :
    rfcParseData mcb frame offset len byte = rfcParseData mcb frame offset len byte' := by
  unfold rfcParseData rfcommCtrlFrameLen
  by_cases short : len < 3
  · simp only [if_pos short]
  rw [same 0 (by omega), same 1 (by omega), same 2 (by omega)]
  by_cases eal_short : byte' 2 &&& rfcommEa = 0 ∧ len ≤ 3
  · simp only [if_pos eal_short]
  -- the second length octet is read only when the buffer holds it
  have length_same : (if byte' 2 &&& rfcommEa = 0 then (byte 3).toNat <<< 7 else 0) =
      (if byte' 2 &&& rfcommEa = 0 then (byte' 3).toNat <<< 7 else 0) := by
    split
    · rename_i eal
      have long : 3 < len := by
        by_contra three
        exact eal_short ⟨eal, by omega⟩
      rw [same 3 long]
    · rfl
  obtain ⟨header, header_eq, header_ge⟩ :
      ∃ header, 3 + (if byte' 2 &&& rfcommEa = 0 then 1 else 0) = header ∧ 3 ≤ header :=
    ⟨_, rfl, by omega⟩
  obtain ⟨length, length_eq⟩ : ∃ length, (byte' 2 >>> 1).toNat +
      (if byte' 2 &&& rfcommEa = 0 then (byte' 3).toNat <<< 7 else 0) = length := ⟨_, rfl⟩
  simp only [length_same, header_eq, length_eq]
  split_ifs with ea room credit credit_short
  · rfl
  · rfl
  · rfl
  · rw [same header (by omega)]
    exact finishParse_congr (by omega) fun i below => same i (by omega)
  · exact finishParse_congr header_ge fun i below => same i (by omega)

end Parser

/-! ## The frames `rfc_send_buf_uih` writes -/

/-- The fields `rfc_parse_data` reads back from the address octet of a command. -/
theorem uihAddress_fields (mcb : RfcMcb) {dlci : UInt8} (small : dlci.toNat < 64) :
    uihAddress mcb dlci &&& rfcommEa ≠ 0 ∧ uihAddress mcb dlci >>> 2 = dlci ∧
      (uihAddress mcb dlci &&& rfcommCrMask) >>> 1 = if mcb.isInitiator then 1 else 0 := by
  have octets : ∀ d < 64, ∀ initiator : Bool,
      uihAddress ⟨initiator, 0⟩ (UInt8.ofNat d) &&& rfcommEa ≠ 0 ∧
        uihAddress ⟨initiator, 0⟩ (UInt8.ofNat d) >>> 2 = UInt8.ofNat d ∧
        (uihAddress ⟨initiator, 0⟩ (UInt8.ofNat d) &&& rfcommCrMask) >>> 1 =
          if initiator then 1 else 0 := by
    decide +kernel
  have address : uihAddress mcb dlci = uihAddress ⟨mcb.isInitiator, 0⟩ (UInt8.ofNat dlci.toNat) := by
    rw [UInt8.ofNat_toNat]
    rfl
  have fields := octets dlci.toNat small mcb.isInitiator
  rw [← address, UInt8.ofNat_toNat] at fields
  exact fields

theorem uihControl_fields (credits : UInt8) :
    uihControl credits &&& ~~~rfcommPf = rfcommUih ∧
      (uihControl credits &&& rfcommPf) >>> 4 = if credits ≠ 0 then 1 else 0 := by
  unfold uihControl
  split <;> decide

/-- The length octets read back: how many there are, and the length they encode. -/
theorem uihLengthOctets_read {n : Nat} (fits : n ≤ 32767) (address control : UInt8)
    (rest : List UInt8) :
    lengthOctets (fun i => (address :: control :: (uihLengthOctets n ++ rest)).getD i 0) =
        (uihLengthOctets n).length ∧
      encodedLength (fun i => (address :: control :: (uihLengthOctets n ++ rest)).getD i 0) =
        n := by
  unfold uihLengthOctets lengthOctets encodedLength
  split
  · rename_i short
    have octet : ∀ m < 128, UInt8.ofNat (1 ||| (m <<< 1)) &&& rfcommEa ≠ 0 ∧
        (UInt8.ofNat (1 ||| (m <<< 1)) >>> 1).toNat = m := by
      decide +kernel
    obtain ⟨ea, value⟩ := octet n (by omega)
    have octet2 : (address :: control :: ([UInt8.ofNat (1 ||| (n <<< 1))] ++ rest)).getD 2 0 =
        UInt8.ofNat (1 ||| (n <<< 1)) := rfl
    simp only [octet2, if_neg ea, value, List.length_singleton, Nat.add_zero, and_self]
  · have low : (UInt8.ofNat ((n &&& 0x7f) <<< 1)).toNat = n % 128 * 2 := by
      rw [show (0x7f : Nat) = 2 ^ 7 - 1 from rfl, Nat.and_two_pow_sub_one_eq_mod,
        Nat.shiftLeft_eq, UInt8.toNat_ofNat']
      omega
    have high : (UInt8.ofNat (n >>> 7)).toNat = n / 128 := by
      rw [Nat.shiftRight_eq_div_pow, UInt8.toNat_ofNat']
      omega
    have ea : UInt8.ofNat ((n &&& 0x7f) <<< 1) &&& rfcommEa = 0 := by
      apply UInt8.toNat_inj.mp
      rw [UInt8.toNat_and, low, show rfcommEa.toNat = 1 from rfl, Nat.and_one_is_mod]
      simp
    have shifted : (UInt8.ofNat ((n &&& 0x7f) <<< 1) >>> 1).toNat = n % 128 := by
      rw [UInt8.toNat_shiftRight, low]
      simp [Nat.shiftRight_eq_div_pow]
    have octet2 : (address :: control :: ([UInt8.ofNat ((n &&& 0x7f) <<< 1),
        UInt8.ofNat (n >>> 7)] ++ rest)).getD 2 0 = UInt8.ofNat ((n &&& 0x7f) <<< 1) := rfl
    have octet3 : (address :: control :: ([UInt8.ofNat ((n &&& 0x7f) <<< 1),
        UInt8.ofNat (n >>> 7)] ++ rest)).getD 3 0 = UInt8.ofNat (n >>> 7) := rfl
    simp only [octet2, octet3, if_pos ea, shifted, high, List.length_cons, List.length_nil,
      true_and]
    rw [Nat.shiftLeft_eq]
    omega

/-- The frame as its address and control octets, the length octets, the credit octet if any, the
payload and the FCS octet. -/
theorem rfcSendBufUih_eq (mcb : RfcMcb) (dlci : UInt8) (payload : List UInt8)
    (layerSpecific : UInt16) :
    rfcSendBufUih mcb dlci payload layerSpecific =
      uihAddress mcb dlci :: uihControl (uihCredits dlci layerSpecific) ::
        (uihLengthOctets payload.length ++
          ((if uihCredits dlci layerSpecific ≠ 0 then [uihCredits dlci layerSpecific] else []) ++
            payload ++ [rfcCalcFcs [uihAddress mcb dlci, uihControl (uihCredits dlci layerSpecific)]])) := by
  simp [rfcSendBufUih, List.append_assoc]

/-- The C/R bit of a command from one end reads as a command at the other. -/
theorem rfcommFrameIsCmd_of_peer (initiator : Bool) :
    rfcommFrameIsCmd (!initiator) (if initiator then 1 else 0) = true := by
  cases initiator <;> rfl

/-- What the peer's `rfc_parse_data` makes of a frame `rfc_send_buf_uih` wrote: a UIH event with
the sender's DLCI, a command C/R bit, P/F and the credit octet as sent, and the offset and length
of the payload. -/
theorem rfcParseData_rfcSendBufUih (initiator : Bool) (flow dlci : UInt8)
    (valid : rfcommValidDlci dlci = true) (payload : List UInt8) (fits : payload.length ≤ 32767)
    (layerSpecific : UInt16)
    (meaningful : layerSpecific.toUInt8 ≠ 0 → dlci ≠ 0 ∧ flow = portFcCredit)
    (frame : MxFrame) (offset : Nat) :
    ∃ header,
      rfcParseData ⟨!initiator, flow⟩ frame offset
          (rfcSendBufUih ⟨initiator, flow⟩ dlci payload layerSpecific).length
          (fun i => (rfcSendBufUih ⟨initiator, flow⟩ dlci payload layerSpecific).getD i 0) =
        (.uih, { frame with
            dlci := dlci, type := rfcommUih, cr := if initiator then 1 else 0,
            pf := if layerSpecific.toUInt8 ≠ 0 then 1 else 0, credit := layerSpecific.toUInt8 },
          offset + header, payload.length) ∧
      ((rfcSendBufUih ⟨initiator, flow⟩ dlci payload layerSpecific).drop header).take
        payload.length = payload := by
  have small : dlci.toNat < 64 := by
    simp only [rfcommValidDlci, Bool.or_eq_true, beq_iff_eq, Bool.and_eq_true,
      decide_eq_true_eq, UInt8.le_iff_toNat_le] at valid
    rcases valid with rfl | ⟨-, within⟩
    · decide
    · simpa using Nat.lt_of_le_of_lt within (by decide : 61 < 64)
  have credits : uihCredits dlci layerSpecific = layerSpecific.toUInt8 := by
    unfold uihCredits
    split
    · rfl
    · rename_i control
      by_contra meaningless
      exact (meaningful (Ne.symm meaningless)).1 (by simpa using control)
  rw [rfcSendBufUih_eq, credits]
  generalize layerSpecific.toUInt8 = c at meaningful ⊢
  obtain ⟨ea, dlci_back, cr_back⟩ := uihAddress_fields ⟨initiator, flow⟩ small
  obtain ⟨uih, pf_back⟩ := uihControl_fields c
  generalize uihAddress ⟨initiator, flow⟩ dlci = address at ea dlci_back cr_back ⊢
  generalize uihControl c = control at uih pf_back ⊢
  generalize creditEq : (if c ≠ 0 then [c] else []) = creditField
  obtain ⟨octets, encoded⟩ := uihLengthOctets_read fits address control
    (creditField ++ payload ++ [rfcCalcFcs [address, control]])
  generalize uihLengthOctets payload.length = lengthField at octets encoded ⊢
  have carries_iff : carriesCredit ⟨!initiator, flow⟩ (fun i => (address :: control ::
      (lengthField ++ (creditField ++ payload ++ [rfcCalcFcs [address, control]]))).getD i 0) ↔
      c ≠ 0 := by
    show flow = portFcCredit ∧ control &&& ~~~rfcommPf = rfcommUih ∧
      address >>> 2 ≠ rfcommMxDlci ∧ (control &&& rfcommPf) >>> 4 = 1 ↔ c ≠ 0
    rw [pf_back, dlci_back]
    constructor
    · rintro ⟨-, -, -, set⟩ unset
      simp [unset] at set
    · intro credit
      obtain ⟨data, credited⟩ := meaningful credit
      exact ⟨credited, uih, data, if_pos credit⟩
  have credit_fields :
      (if carriesCredit ⟨!initiator, flow⟩ (fun i => (address :: control ::
        (lengthField ++ (creditField ++ payload ++ [rfcCalcFcs [address, control]]))).getD i 0)
        then 1 else 0) = creditField.length ∧
      (if carriesCredit ⟨!initiator, flow⟩ (fun i => (address :: control ::
        (lengthField ++ (creditField ++ payload ++ [rfcCalcFcs [address, control]]))).getD i 0)
        then (address :: control :: (lengthField ++ (creditField ++ payload ++
          [rfcCalcFcs [address, control]]))).getD (2 + lengthField.length) 0 else 0) = c := by
    by_cases credit : c = 0
    · have quiet := mt carries_iff.mp (not_not.mpr credit)
      simp only [if_neg quiet]
      subst creditEq
      simp [credit]
    · have loud := carries_iff.mpr credit
      simp only [if_pos loud]
      subst creditEq
      simp [credit, List.getD_eq_getElem?_getD, Nat.add_comm 2]
  have isFrame : IsUihFrame ⟨!initiator, flow⟩ (address :: control ::
      (lengthField ++ (creditField ++ payload ++ [rfcCalcFcs [address, control]]))).length
      (fun i => (address :: control ::
        (lengthField ++ (creditField ++ payload ++ [rfcCalcFcs [address, control]]))).getD i 0) := by
    refine ⟨ea, uih, by rw [← dlci_back] at valid; exact valid, ?_, ?_⟩
    · rw [credit_fields.1, octets, encoded]
      simp
      omega
    · have shape : address :: control :: (lengthField ++ (creditField ++ payload ++
          [rfcCalcFcs [address, control]])) = (address :: control :: (lengthField ++
          (creditField ++ payload))) ++ [rfcCalcFcs [address, control]] := by
        simp
      show (address :: control :: (lengthField ++ (creditField ++ payload ++
        [rfcCalcFcs [address, control]]))).getD (_ - 1) 0 = rfcCalcFcs [address, control]
      rw [shape, List.length_append, List.length_singleton, Nat.add_sub_cancel,
        List.getD_eq_getElem?_getD, List.getElem?_concat_length, Option.getD_some]
  refine ⟨2 + lengthField.length + creditField.length, ?_, ?_⟩
  · rw [rfcParseData_of_isUihFrame isFrame, octets, encoded]
    simp only [credit_fields.1, credit_fields.2, List.getD_cons_zero, List.getD_cons_succ,
      dlci_back, uih, cr_back, pf_back, Nat.add_assoc]
  · have shape : address :: control :: (lengthField ++ (creditField ++ payload ++
        [rfcCalcFcs [address, control]])) = (address :: control :: (lengthField ++
        creditField)) ++ (payload ++ [rfcCalcFcs [address, control]]) := by
      simp
    rw [shape, List.drop_left' (by simp; omega), List.take_left' rfl]

/-- The UIH framing of RFCOMM: the peer parses what one end sends back to its DLCI, a command,
the credit octet and exactly the payload; and on any bytes at all, the parser reads nothing
outside its buffer (byte `i` is the octet at `offset + i`) and reports a UIH frame only for a
frame of the shape `IsUihFrame`, whose last octet is the FCS and whose length octets account
for the rest. -/
theorem rfcUihFraming_round_trip :
    (∀ (initiator : Bool) (flow dlci : UInt8) (payload : List UInt8) (layerSpecific : UInt16)
        (frame : MxFrame) (offset : Nat), rfcommValidDlci dlci = true →
        payload.length ≤ 32767 → (layerSpecific.toUInt8 ≠ 0 → dlci ≠ 0 ∧ flow = portFcCredit) →
      ∃ header parsed,
        rfcParseData ⟨!initiator, flow⟩ frame offset
            (rfcSendBufUih ⟨initiator, flow⟩ dlci payload layerSpecific).length
            (fun i => (rfcSendBufUih ⟨initiator, flow⟩ dlci payload layerSpecific).getD i 0) =
          (.uih, parsed, offset + header, payload.length) ∧
        parsed.dlci = dlci ∧ parsed.type = rfcommUih ∧
        rfcommFrameIsCmd (!initiator) parsed.cr = true ∧ parsed.credit = layerSpecific.toUInt8 ∧
        ((rfcSendBufUih ⟨initiator, flow⟩ dlci payload layerSpecific).drop header).take
          payload.length = payload) ∧
    (∀ (mcb : RfcMcb) (frame : MxFrame) (offset len : Nat) (byte byte' : Nat → UInt8),
      (∀ i < len, byte i = byte' i) →
        rfcParseData mcb frame offset len byte = rfcParseData mcb frame offset len byte') ∧
    (∀ (mcb : RfcMcb) (frame : MxFrame) (offset len : Nat) (byte : Nat → UInt8),
      (rfcParseData mcb frame offset len byte).1 = .uih → IsUihFrame mcb len byte) := by
  refine ⟨?_, fun _ _ _ _ _ _ same => rfcParseData_congr same,
    fun _ _ _ _ _ parsed => isUihFrame_of_rfcParseData parsed⟩
  intro initiator flow dlci payload layerSpecific frame offset valid fits meaningful
  obtain ⟨header, parsed, payload_back⟩ := rfcParseData_rfcSendBufUih initiator flow dlci valid
    payload fits layerSpecific meaningful frame offset
  exact ⟨header, _, parsed, rfl, rfl, rfcommFrameIsCmd_of_peer initiator, rfl, payload_back⟩

theorem rfcUihFraming_round_trip_at_dlci_2 :
    ∃ header parsed,
      rfcParseData ⟨false, portFcCredit⟩ ⟨0, 0, 0, 0, 0⟩ 0
          (rfcSendBufUih ⟨true, portFcCredit⟩ 2 [1, 2, 3] 5).length
          (fun i => (rfcSendBufUih ⟨true, portFcCredit⟩ 2 [1, 2, 3] 5).getD i 0) =
        (.uih, parsed, 0 + header, 3) ∧
      parsed.dlci = 2 ∧ parsed.type = rfcommUih ∧ rfcommFrameIsCmd false parsed.cr = true ∧
      parsed.credit = 5 ∧
      ((rfcSendBufUih ⟨true, portFcCredit⟩ 2 [1, 2, 3] 5).drop header).take 3 = [1, 2, 3] :=
  rfcUihFraming_round_trip.1 true portFcCredit 2 [1, 2, 3] 5 ⟨0, 0, 0, 0, 0⟩ 0 (by decide)
    (by decide) (by decide)

end Bluetooth.Rfcomm
