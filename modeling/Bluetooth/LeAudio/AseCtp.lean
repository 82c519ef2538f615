import Bluetooth.LeAudio.Ltv

set_option linter.all false

/-!
# ASE Control Point encoders

`PrepareAseCtpCodecConfig`, `PrepareAseCtpEnable` and `PrepareAseCtpUpdateMetadata`
(bta/le_audio/client_parser.cc) write the PDU of an ASE Control Point operation into `value`: the
opcode, the number of ASEs, and one record per configuration.  Each first works out `msg_len`,
resizes `value` to it, and then writes the records from `value.data()`.

The records are well formed: `msg_len` is the number of octets written, every length octet counts
the field after it, and a codec configuration is read back by `LeAudioLtvMap::Parse`
(`codecConfOctets_spec`).  The size is another matter.  `PrepareAseCtpCodecConfig` checks none,
and counts the ASEs in one octet; the two metadata encoders compare `msg_len` with
`GATT_MAX_ATTR_LEN` before they add each configuration's metadata, so the last metadata is never
checked (`accumulateMetadataLen_append_singleton`).
-/

namespace Bluetooth.LeAudio

open ByteStream

/-- `UINT32_TO_VEC_UINT8`: the octets of a `uint32_t` in memory, least significant first. -/
def uint32ToVecUint8 (value : UInt32) : List UInt8 :=
  [value.toUInt8, (value >>> 8).toUInt8, (value >>> 16).toUInt8, (value >>> 24).toUInt8]

/-- `struct LeAudioLc3Config`, the fields `GetAsLtvMap` writes. -/
structure LeAudioLc3Config where
  samplingFrequency : Option UInt8
  frameDuration : Option UInt8
  audioChannelAllocation : Option UInt32
  octetsPerCodecFrame : Option UInt16
  codecFramesBlocksPerSdu : Option UInt8

def kLeAudioCodecLC3TypeSamplingFreq : Fin 256 := 0x01
def kLeAudioCodecLC3TypeFrameDuration : Fin 256 := 0x02
def kLeAudioCodecLC3TypeAudioChannelAllocation : Fin 256 := 0x03
def kLeAudioCodecLC3TypeOctetPerFrame : Fin 256 := 0x04
def kLeAudioCodecLC3TypeCodecFrameBlocksPerSdu : Fin 256 := 0x05

/-- `values[type] = bytes(field)` when the field is set.  The five types of `GetAsLtvMap` are
distinct, so `SortedMap.insert` puts each where the assignment of `std::map` would. -/
def putField {α : Type} (map : LeAudioLtvMap) (type : Fin 256) (field : Option α)
    (bytes : α → List UInt8) : LeAudioLtvMap :=
  match field with
  | some value => map.insert type (bytes value)
  | none => map

/-- `LeAudioLc3Config::GetAsLtvMap`. -/
def LeAudioLc3Config.getAsLtvMap (config : LeAudioLc3Config) : LeAudioLtvMap :=
  let values := putField SortedMap.empty kLeAudioCodecLC3TypeSamplingFreq config.samplingFrequency
    fun value => [value]
  let values := putField values kLeAudioCodecLC3TypeFrameDuration config.frameDuration
    fun value => [value]
  let values := putField values kLeAudioCodecLC3TypeAudioChannelAllocation
    config.audioChannelAllocation uint32ToVecUint8
  let values := putField values kLeAudioCodecLC3TypeOctetPerFrame config.octetsPerCodecFrame le16
  putField values kLeAudioCodecLC3TypeCodecFrameBlocksPerSdu config.codecFramesBlocksPerSdu
    fun value => [value]

/-- `struct LeAudioCodecId`. -/
structure LeAudioCodecId where
  codingFormat : UInt8
  vendorCompanyId : UInt16
  vendorCodecId : UInt16

/-- `struct ctp_codec_conf`. -/
structure CtpCodecConf where
  aseId : UInt8
  targetLatency : UInt8
  targetPhy : UInt8
  codecId : LeAudioCodecId
  codecConfig : LeAudioLc3Config

/-- `struct ctp_enable` and `struct ctp_update_metadata`, which have the same fields. -/
structure CtpMetadataConf where
  aseId : UInt8
  metadata : List UInt8

def kCtpOpcodeCodecConfiguration : UInt8 := 0x01
def kCtpOpcodeEnable : UInt8 := 0x03
def kCtpOpcodeUpdateMetadata : UInt8 := 0x07
def kCtpOpSize : Nat := 1
def kAseNumSize : Nat := 1
def kCtpCodecConfMinLen : Nat := 9
def kCtpEnableMinLen : Nat := 2
def kCtpUpdateMetadataMinLen : Nat := 2

/-- `GATT_MAX_ATTR_LEN`. -/
def gattMaxAttrLen : Nat := 512

/-- `value.resize(msg_len)`, then `written` over its front from `value.data()`.  Octets past
`msg_len` would overrun the buffer; the model keeps the `msg_len` octets of `value`. -/
def writeValue (value : List UInt8) (msgLen : Nat) (written : List UInt8) : List UInt8 :=
  (written ++ (value.take msgLen ++ List.replicate (msgLen - value.length) 0).drop written.length).take
    msgLen

/-- What the loop of `PrepareAseCtpCodecConfig` writes for one configuration. -/
def codecConfOctets (conf : CtpCodecConf) : List UInt8 :=
  let ltvMap := conf.codecConfig.getAsLtvMap
  [conf.aseId, conf.targetLatency, conf.targetPhy, conf.codecId.codingFormat] ++
    le16 conf.codecId.vendorCompanyId ++ le16 conf.codecId.vendorCodecId ++
    UInt8.ofNat (rawPacketSize ltvMap) :: rawPacket ltvMap

/-- `PrepareAseCtpCodecConfig`: `none` is a return of `false`, which leaves `value` as it was.
`msg_len` is a `size_t`. -/
def prepareAseCtpCodecConfig (confs : List CtpCodecConf) (value : List UInt8) :
    Option (List UInt8) :=
  if confs.length = 0 then none
  else
    let msgLen := confs.foldl (fun curLen conf => curLen + rawPacketSize conf.codecConfig.getAsLtvMap)
      (confs.length * kCtpCodecConfMinLen + kAseNumSize + kCtpOpSize)
    some (writeValue value msgLen
      (kCtpOpcodeCodecConfiguration :: UInt8.ofNat confs.length :: confs.flatMap codecConfOctets))

/-- The length loop of `PrepareAseCtpEnable` and `PrepareAseCtpUpdateMetadata`: the `uint16_t`
`msg_len` is compared with `GATT_MAX_ATTR_LEN` before a configuration's metadata is added. -/
def accumulateMetadataLen (msgLen : UInt16) : List CtpMetadataConf → Option UInt16
  | [] => some msgLen
  | conf :: confs =>
    if msgLen.toNat > gattMaxAttrLen then none
    else if conf.metadata.length > 255 then none
    else accumulateMetadataLen (msgLen + UInt16.ofNat conf.metadata.length) confs

/-- What the loop of the metadata encoders writes for one configuration. -/
def metadataConfOctets (conf : CtpMetadataConf) : List UInt8 :=
  conf.aseId :: UInt8.ofNat conf.metadata.length :: conf.metadata

/-- `PrepareAseCtpEnable` and `PrepareAseCtpUpdateMetadata`, which differ in their opcode and the
name of their fixed record length. -/
def prepareAseCtpMetadata (opcode : UInt8) (minLen : Nat) (confs : List CtpMetadataConf)
    (value : List UInt8) : Option (List UInt8) :=
  if confs.length = 0 then none
  else if confs.length > 255 then none
  else do
    let msgLen ← accumulateMetadataLen
      (UInt16.ofNat (confs.length * minLen + kAseNumSize + kCtpOpSize)) confs
    some (writeValue value msgLen.toNat
      (opcode :: UInt8.ofNat confs.length :: confs.flatMap metadataConfOctets))

/-- `PrepareAseCtpEnable`. -/
def prepareAseCtpEnable (confs : List CtpMetadataConf) (value : List UInt8) : Option (List UInt8) :=
  prepareAseCtpMetadata kCtpOpcodeEnable kCtpEnableMinLen confs value

/-- `PrepareAseCtpUpdateMetadata`. -/
def prepareAseCtpUpdateMetadata (confs : List CtpMetadataConf) (value : List UInt8) :
    Option (List UInt8) :=
  prepareAseCtpMetadata kCtpOpcodeUpdateMetadata kCtpUpdateMetadataMinLen confs value

/-! ## The buffer -/

theorem length_writeValue (value : List UInt8) (msgLen : Nat) (written : List UInt8) :
    (writeValue value msgLen written).length = msgLen := by
  have resized : (value.take msgLen ++ List.replicate (msgLen - value.length) 0).length = msgLen := by
    simp only [List.length_append, List.length_take, List.length_replicate]
    omega
  simp only [writeValue, List.length_take, List.length_append, List.length_drop, resized]
  omega

/-- When `msg_len` is the number of octets written, `value` is what was written. -/
theorem writeValue_of_length (value : List UInt8) {msgLen : Nat} {written : List UInt8}
    (counted : written.length = msgLen) : writeValue value msgLen written = written := by
  rw [writeValue, ← counted, List.take_left]

/-! ## The codec configuration -/

theorem entries_putField {α : Type} {map : LeAudioLtvMap} {type : Fin 256}
    (above : ∀ entry ∈ map.entries, entry.1 < type) (field : Option α) (bytes : α → List UInt8) :
    (putField map type field bytes).entries =
      map.entries ++ field.toList.map fun value => (type, bytes value) := by
  cases field with
  | none => simp [putField]
  | some value => simp [putField, SortedMap.insert, SortedMap.insertEntry_of_lt _ above]

/-- `GetAsLtvMap` writes the fields that are set, in increasing order of type. -/
theorem entries_getAsLtvMap (config : LeAudioLc3Config) :
    config.getAsLtvMap.entries =
      (config.samplingFrequency.toList.map fun value => (kLeAudioCodecLC3TypeSamplingFreq, [value])) ++
      (config.frameDuration.toList.map fun value => (kLeAudioCodecLC3TypeFrameDuration, [value])) ++
      (config.audioChannelAllocation.toList.map fun value =>
        (kLeAudioCodecLC3TypeAudioChannelAllocation, uint32ToVecUint8 value)) ++
      (config.octetsPerCodecFrame.toList.map fun value => (kLeAudioCodecLC3TypeOctetPerFrame, le16 value)) ++
      (config.codecFramesBlocksPerSdu.toList.map fun value =>
        (kLeAudioCodecLC3TypeCodecFrameBlocksPerSdu, [value])) := by
  -- one case for each choice of the fields that are set
  obtain ⟨frequency, duration, allocation, octets, blocks⟩ := config
  cases frequency <;> cases duration <;> cases allocation <;> cases octets <;> cases blocks <;> rfl

/-- The encoding of one optional field of `width` octets takes at most `2 + width` octets. -/
theorem size_toList_le {α : Type} (field : Option α) (type : Fin 256) (bytes : α → List UInt8)
    {width : Nat} (sized : ∀ value, (bytes value).length = width) :
    ((field.toList.map fun value => (type, bytes value)).map fun entry => 2 + entry.2.length).sum ≤
      2 + width := by
  cases field <;> simp [sized]

/-- A codec configuration's encoding has at most nineteen octets. -/
theorem rawPacketSize_getAsLtvMap_le (config : LeAudioLc3Config) :
    rawPacketSize config.getAsLtvMap ≤ 19 := by
  have frequency := size_toList_le config.samplingFrequency kLeAudioCodecLC3TypeSamplingFreq
    (fun value => [value]) (fun value => show [value].length = 1 from rfl)
  have duration := size_toList_le config.frameDuration kLeAudioCodecLC3TypeFrameDuration
    (fun value => [value]) (fun value => show [value].length = 1 from rfl)
  have allocation := size_toList_le config.audioChannelAllocation
    kLeAudioCodecLC3TypeAudioChannelAllocation uint32ToVecUint8
    (fun value => show (uint32ToVecUint8 value).length = 4 from rfl)
  have octets := size_toList_le config.octetsPerCodecFrame kLeAudioCodecLC3TypeOctetPerFrame le16
    (fun value => show (le16 value).length = 2 from rfl)
  have blocks := size_toList_le config.codecFramesBlocksPerSdu
    kLeAudioCodecLC3TypeCodecFrameBlocksPerSdu (fun value => [value])
    (fun value => show [value].length = 1 from rfl)
  rw [rawPacketSize, entries_getAsLtvMap]
  simp only [List.map_append, List.sum_append]
  omega

/-- No value of a codec configuration is longer than four octets. -/
theorem length_value_getAsLtvMap_le {config : LeAudioLc3Config} {entry : Fin 256 × List UInt8}
    (mem : entry ∈ config.getAsLtvMap.entries) : entry.2.length ≤ 4 := by
  rw [entries_getAsLtvMap] at mem
  simp only [List.mem_append, List.mem_map, Option.mem_toList] at mem
  rcases mem with ((((⟨_, _, rfl⟩ | ⟨_, _, rfl⟩) | ⟨_, _, rfl⟩) | ⟨_, _, rfl⟩) | ⟨_, _, rfl⟩) <;>
    simp [uint32ToVecUint8]

theorem length_codecConfOctets (conf : CtpCodecConf) :
    (codecConfOctets conf).length = kCtpCodecConfMinLen + rawPacketSize conf.codecConfig.getAsLtvMap := by
  simp [codecConfOctets, length_rawPacket, kCtpCodecConfMinLen]
  omega

/-- A configuration's record: its fixed fields, then a length octet that counts the codec
configuration after it, which `LeAudioLtvMap::Parse` reads back. -/
theorem codecConfOctets_spec (conf : CtpCodecConf) :
    ∃ len : UInt8, codecConfOctets conf =
        [conf.aseId, conf.targetLatency, conf.targetPhy, conf.codecId.codingFormat] ++
          le16 conf.codecId.vendorCompanyId ++ le16 conf.codecId.vendorCodecId ++
          len :: rawPacket conf.codecConfig.getAsLtvMap ∧
      len.toNat = (rawPacket conf.codecConfig.getAsLtvMap).length ∧
      parse (rawPacket conf.codecConfig.getAsLtvMap) len = .ok (true, conf.codecConfig.getAsLtvMap) := by
  have small := rawPacketSize_getAsLtvMap_le conf.codecConfig
  refine ⟨UInt8.ofNat (rawPacketSize conf.codecConfig.getAsLtvMap), rfl, ?_, ?_⟩
  · rw [length_rawPacket, toNat_ofNat_of_lt (by omega)]
  · exact parse_rawPacket _ (fun entry mem => (length_value_getAsLtvMap_le mem).trans (by decide))
      (by omega)

theorem length_codecConfigOctets (confs : List CtpCodecConf) :
    (confs.flatMap codecConfOctets).length =
      kCtpCodecConfMinLen * confs.length +
        (confs.map fun conf => rawPacketSize conf.codecConfig.getAsLtvMap).sum := by
  induction confs with
  | nil => rfl
  | cons conf confs induction =>
    rw [List.flatMap_cons, List.length_append, induction, length_codecConfOctets, List.map_cons,
      List.sum_cons, List.length_cons]
    simp only [kCtpCodecConfMinLen]
    omega

theorem foldl_add_rawPacketSize (confs : List CtpCodecConf) (start : Nat) :
    confs.foldl (fun curLen conf => curLen + rawPacketSize conf.codecConfig.getAsLtvMap) start =
      start + (confs.map fun conf => rawPacketSize conf.codecConfig.getAsLtvMap).sum := by
  induction confs generalizing start with
  | nil => simp
  | cons conf confs induction =>
    rw [List.foldl_cons, induction, List.map_cons, List.sum_cons]
    omega

/-- `PrepareAseCtpCodecConfig` accepts every non-empty vector, and `msg_len` is the number of
octets it writes. -/
theorem prepareAseCtpCodecConfig_of_ne_nil {confs : List CtpCodecConf} (nonempty : confs ≠ [])
    (value : List UInt8) :
    prepareAseCtpCodecConfig confs value =
      some (kCtpOpcodeCodecConfiguration :: UInt8.ofNat confs.length :: confs.flatMap codecConfOctets) := by
  have positive : confs.length ≠ 0 := fun zero => nonempty (List.length_eq_zero_iff.1 zero)
  have counted : (kCtpOpcodeCodecConfiguration :: UInt8.ofNat confs.length ::
      confs.flatMap codecConfOctets).length =
      confs.foldl (fun curLen conf => curLen + rawPacketSize conf.codecConfig.getAsLtvMap)
        (confs.length * kCtpCodecConfMinLen + kAseNumSize + kCtpOpSize) := by
    rw [foldl_add_rawPacketSize, List.length_cons, List.length_cons, length_codecConfigOctets]
    simp only [kCtpCodecConfMinLen, kAseNumSize, kCtpOpSize]
    omega
  rw [prepareAseCtpCodecConfig, if_neg positive]
  dsimp only
  rw [writeValue_of_length value counted]

/-! ## The metadata encoders -/

/-- Adding a metadata length to a `msg_len` that passed its check does not wrap. -/
theorem toNat_add_metadata {msgLen : UInt16} {length : Nat} (checked : msgLen.toNat ≤ gattMaxAttrLen)
    (short : length ≤ 255) : (msgLen + UInt16.ofNat length).toNat = msgLen.toNat + length := by
  have small : msgLen.toNat + length < 2 ^ 16 := by
    simp only [gattMaxAttrLen] at checked
    omega
  rw [UInt16.toNat_add, UInt16.toNat_ofNat', Nat.mod_eq_of_lt (show length < 2 ^ 16 by omega),
    Nat.mod_eq_of_lt small]

/-- What `msg_len` ends at: the metadata all fit their length octet, and their lengths add up. -/
theorem accumulateMetadataLen_spec {msgLen result : UInt16} {confs : List CtpMetadataConf}
    (accepted : accumulateMetadataLen msgLen confs = some result) :
    (∀ conf ∈ confs, conf.metadata.length ≤ 255) ∧
      result.toNat = msgLen.toNat + (confs.map fun conf => conf.metadata.length).sum := by
  induction confs generalizing msgLen with
  | nil =>
    rw [accumulateMetadataLen, Option.some.injEq] at accepted
    simp [accepted]
  | cons conf confs induction =>
    rw [accumulateMetadataLen] at accepted
    split_ifs at accepted with above long
    -- the checks passed, so the sum stays below `GATT_MAX_ATTR_LEN + 255`
    have added := toNat_add_metadata (Nat.not_lt.1 above) (Nat.not_lt.1 long)
    obtain ⟨fit, sum⟩ := induction accepted
    refine ⟨?_, ?_⟩
    · intro other mem
      rcases List.mem_cons.1 mem with rfl | later
      · omega
      · exact fit other later
    · rw [sum, added, List.map_cons, List.sum_cons]
      omega

/-- The last metadata is never compared with `GATT_MAX_ATTR_LEN`: once the length before it
passes, it is added whatever its size. -/
theorem accumulateMetadataLen_append_singleton {msgLen : UInt16} {front : List CtpMetadataConf}
    {last : CtpMetadataConf} (fit : ∀ conf ∈ front ++ [last], conf.metadata.length ≤ 255)
    (within : msgLen.toNat + (front.map fun conf => conf.metadata.length).sum ≤ gattMaxAttrLen) :
    ∃ result, accumulateMetadataLen msgLen (front ++ [last]) = some result := by
  induction front generalizing msgLen with
  | nil =>
    have short := fit last (by simp)
    simp only [List.map_nil, List.sum_nil, Nat.add_zero] at within
    simp [accumulateMetadataLen, short, Nat.not_lt.2 within]
  | cons conf front induction =>
    have short := fit conf (by simp)
    simp only [List.map_cons, List.sum_cons] at within
    have added : (msgLen + UInt16.ofNat conf.metadata.length).toNat =
        msgLen.toNat + conf.metadata.length := toNat_add_metadata (by omega) short
    have rest := @induction (msgLen + UInt16.ofNat conf.metadata.length)
      (fun other mem => fit other (List.mem_cons_of_mem _ mem)) (by rw [added]; omega)
    rw [List.cons_append, accumulateMetadataLen, if_neg (by omega), if_neg (by omega)]
    exact rest

theorem length_metadataOctets (confs : List CtpMetadataConf) :
    (confs.flatMap metadataConfOctets).length =
      2 * confs.length + (confs.map fun conf => conf.metadata.length).sum := by
  induction confs with
  | nil => rfl
  | cons conf confs induction =>
    rw [List.flatMap_cons, List.length_append, induction]
    simp [metadataConfOctets]
    omega

/-- What the metadata encoders return: they accept between one and 255 configurations whose
metadata fit their length octet, and `msg_len` is then the number of octets written. -/
theorem prepareAseCtpMetadata_spec {opcode : UInt8} {minLen : Nat} (fixed : minLen = 2)
    {confs : List CtpMetadataConf} {value pdu : List UInt8}
    (accepted : prepareAseCtpMetadata opcode minLen confs value = some pdu) :
    0 < confs.length ∧ confs.length ≤ 255 ∧ (∀ conf ∈ confs, conf.metadata.length ≤ 255) ∧
      pdu = opcode :: UInt8.ofNat confs.length :: confs.flatMap metadataConfOctets := by
  unfold prepareAseCtpMetadata at accepted
  split_ifs at accepted with empty many
  obtain ⟨msgLen, summed, written⟩ := Option.bind_eq_some_iff.1 accepted
  obtain ⟨fit, sum⟩ := accumulateMetadataLen_spec summed
  have start : (UInt16.ofNat (confs.length * minLen + kAseNumSize + kCtpOpSize)).toNat =
      2 * confs.length + 2 := by
    rw [UInt16.toNat_ofNat', fixed, Nat.mod_eq_of_lt (by simp only [kAseNumSize, kCtpOpSize]; omega)]
    simp only [kAseNumSize, kCtpOpSize]
    omega
  have counted : (opcode :: UInt8.ofNat confs.length :: confs.flatMap metadataConfOctets).length =
      msgLen.toNat := by
    rw [sum, start, List.length_cons, List.length_cons, length_metadataOctets]
    omega
  rw [Option.some.injEq, writeValue_of_length value counted] at written
  exact ⟨by omega, by omega, fit, written.symm⟩

/-- The metadata encoders accept a list whose octets before its last metadata fit
`GATT_MAX_ATTR_LEN`, and write all of it. -/
theorem prepareAseCtpMetadata_append_singleton (opcode : UInt8) {minLen : Nat} (fixed : minLen = 2)
    {front : List CtpMetadataConf} {last : CtpMetadataConf} (value : List UInt8)
    (fit : ∀ conf ∈ front ++ [last], conf.metadata.length ≤ 255) (few : front.length < 255)
    (within : 2 * (front.length + 1) + 2 + (front.map fun conf => conf.metadata.length).sum ≤
      gattMaxAttrLen) :
    prepareAseCtpMetadata opcode minLen (front ++ [last]) value =
      some (opcode :: UInt8.ofNat (front.length + 1) :: (front ++ [last]).flatMap metadataConfOctets) := by
  have start : (UInt16.ofNat ((front ++ [last]).length * minLen + kAseNumSize + kCtpOpSize)).toNat =
      2 * (front.length + 1) + 2 := by
    rw [UInt16.toNat_ofNat', fixed, List.length_append, List.length_singleton,
      Nat.mod_eq_of_lt (by simp only [kAseNumSize, kCtpOpSize]; omega)]
    simp only [kAseNumSize, kCtpOpSize]
    omega
  obtain ⟨result, summed⟩ := accumulateMetadataLen_append_singleton fit (by rw [start]; exact within)
  have accepted : prepareAseCtpMetadata opcode minLen (front ++ [last]) value =
      some (writeValue value result.toNat (opcode :: UInt8.ofNat (front ++ [last]).length ::
        (front ++ [last]).flatMap metadataConfOctets)) := by
    rw [prepareAseCtpMetadata, if_neg (by simp), if_neg (by simp; omega), summed]
    rfl
  rw [accepted, (prepareAseCtpMetadata_spec fixed accepted).2.2.2, List.length_append,
    List.length_singleton]

/-- `PrepareAseCtpCodecConfig` writes every vector of 57 configurations or more past
`GATT_MAX_ATTR_LEN`, and from 256 on its "Number of ASEs" octet is not their number.  The metadata
encoders accept a list whose last metadata takes the PDU past `GATT_MAX_ATTR_LEN` once the octets
before it fit. -/
theorem ase_ctp_pdus_exceed_gatt_max_attr_len :
    (∀ (confs : List CtpCodecConf) (value : List UInt8), 57 ≤ confs.length →
      ∃ pdu, prepareAseCtpCodecConfig confs value = some pdu ∧ gattMaxAttrLen < pdu.length ∧
        (256 ≤ confs.length → pdu[1]?.map UInt8.toNat ≠ some confs.length)) ∧
    (∀ (front : List CtpMetadataConf) (last : CtpMetadataConf) (value : List UInt8),
      (∀ conf ∈ front ++ [last], conf.metadata.length ≤ 255) → front.length < 255 →
      2 * (front.length + 1) + 2 + (front.map fun conf => conf.metadata.length).sum ≤ gattMaxAttrLen →
      gattMaxAttrLen <
        2 * (front.length + 1) + 2 + ((front ++ [last]).map fun conf => conf.metadata.length).sum →
      (∃ pdu, prepareAseCtpEnable (front ++ [last]) value = some pdu ∧ gattMaxAttrLen < pdu.length) ∧
      (∃ pdu, prepareAseCtpUpdateMetadata (front ++ [last]) value = some pdu ∧
        gattMaxAttrLen < pdu.length)) := by
  refine ⟨fun confs value many => ?_, fun front last value fit few within beyond => ?_⟩
  · have nonempty : confs ≠ [] := fun empty => by simp [empty] at many
    refine ⟨_, prepareAseCtpCodecConfig_of_ne_nil nonempty value, ?_, fun wraps => ?_⟩
    · rw [List.length_cons, List.length_cons, length_codecConfigOctets]
      simp only [gattMaxAttrLen, kCtpCodecConfMinLen]
      omega
    · -- the count is written as `confs.size() % 256`
      have counted : (UInt8.ofNat confs.length).toNat = confs.length % 256 := UInt8.toNat_ofNat'
      have second : (kCtpOpcodeCodecConfiguration :: UInt8.ofNat confs.length ::
          confs.flatMap codecConfOctets)[1]? = some (UInt8.ofNat confs.length) := rfl
      rw [second, Option.map_some, counted, Ne, Option.some.injEq]
      omega
  · have long : gattMaxAttrLen < (kCtpOpcodeEnable :: UInt8.ofNat (front.length + 1) ::
        (front ++ [last]).flatMap metadataConfOctets).length := by
      rw [List.length_cons, List.length_cons, length_metadataOctets, List.length_append,
        List.length_singleton]
      omega
    refine ⟨⟨_, prepareAseCtpMetadata_append_singleton _ rfl value fit few within, long⟩,
      ⟨_, prepareAseCtpMetadata_append_singleton _ rfl value fit few within, ?_⟩⟩
    simpa using long

/-- Two configurations with 255 octets of metadata each: the metadata encoders write 516 octets;
and 256 configurations with no codec-specific field set. -/
theorem ase_ctp_pdus_exceed_gatt_max_attr_len_at_two :
    (57 ≤ (List.replicate 256 (⟨1, 2, 2, ⟨6, 0, 0⟩, ⟨none, none, none, none, none⟩⟩ : CtpCodecConf)).length ∧
      ∃ pdu, prepareAseCtpCodecConfig
          (List.replicate 256 ⟨1, 2, 2, ⟨6, 0, 0⟩, ⟨none, none, none, none, none⟩⟩) [] = some pdu ∧
        gattMaxAttrLen < pdu.length ∧
        (256 ≤ (List.replicate 256 (⟨1, 2, 2, ⟨6, 0, 0⟩, ⟨none, none, none, none, none⟩⟩ :
          CtpCodecConf)).length →
          pdu[1]?.map UInt8.toNat ≠ some (List.replicate 256 (⟨1, 2, 2, ⟨6, 0, 0⟩,
            ⟨none, none, none, none, none⟩⟩ : CtpCodecConf)).length)) ∧
    ((∃ pdu, prepareAseCtpEnable ([⟨1, List.replicate 255 0⟩] ++ [⟨2, List.replicate 255 0⟩]) [] =
        some pdu ∧ gattMaxAttrLen < pdu.length) ∧
      (∃ pdu, prepareAseCtpUpdateMetadata ([⟨1, List.replicate 255 0⟩] ++ [⟨2, List.replicate 255 0⟩])
        [] = some pdu ∧ gattMaxAttrLen < pdu.length)) := by
  have many : 57 ≤ (List.replicate 256 (⟨1, 2, 2, ⟨6, 0, 0⟩, ⟨none, none, none, none, none⟩⟩ :
      CtpCodecConf)).length := by
    rw [List.length_replicate]
    decide
  have fit : ∀ conf ∈ ([⟨1, List.replicate 255 0⟩] ++ [⟨2, List.replicate 255 0⟩] :
      List CtpMetadataConf), conf.metadata.length ≤ 255 := by
    intro conf mem
    simp only [List.singleton_append, List.mem_cons, List.not_mem_nil, or_false] at mem
    rcases mem with rfl | rfl <;> exact Nat.le_of_eq List.length_replicate
  refine ⟨⟨many, ase_ctp_pdus_exceed_gatt_max_attr_len.1 _ [] many⟩,
    ase_ctp_pdus_exceed_gatt_max_attr_len.2 [⟨1, List.replicate 255 0⟩] ⟨2, List.replicate 255 0⟩ []
      fit (by decide) ?_ ?_⟩
  -- the lengths the checks see, without unfolding the metadata
  all_goals
    simp only [List.singleton_append, List.length_cons, List.length_nil, List.map_cons, List.map_nil,
      List.sum_cons, List.sum_nil, List.length_replicate, gattMaxAttrLen]
    decide

end Bluetooth.LeAudio
