import Mathlib
import Bluetooth.Lib.ByteStream

set_option linter.all false

/-!
# SBC codec negotiation

`A2dpCodecConfigSbcBase::setCodecConfig` chooses an SBC configuration from the local
capabilities (those of a source or of a sink) and the peer's codec information, records it in
the codec state, and writes it as a Media Codec Capabilities element.  Each field is chosen in
turn: a user preference, the audio configuration, the default configuration, then the best
match.  A field with no choice jumps to `fail`, which restores the saved state.

The peer's information is a capability or a configuration.  With a capability, a valid peer
configuration stored by an earlier call takes its place, and the capability passed in is only
parsed.
-/

namespace Bluetooth.A2dp

open ByteStream

/-- `AVDT_CODEC_SIZE`: the octets of a codec information buffer. -/
def avdtCodecSize : Nat := 20

/-- `AVDT_MEDIA_TYPE_AUDIO`. -/
def avdtMediaTypeAudio : UInt8 := 0

/-- `A2DP_MEDIA_CT_SBC`. -/
def a2dpMediaCtSbc : UInt8 := 0x00

/-- `A2DP_SBC_INFO_LEN`. -/
def a2dpSbcInfoLen : UInt8 := 6

/-- `A2DP_SBC_IE_SAMP_FREQ_MSK`. -/
def a2dpSbcIeSampFreqMsk : UInt8 := 0xF0

/-- `A2DP_SBC_IE_SAMP_FREQ_16`. -/
def a2dpSbcIeSampFreq16 : UInt8 := 0x80

/-- `A2DP_SBC_IE_SAMP_FREQ_32`. -/
def a2dpSbcIeSampFreq32 : UInt8 := 0x40

/-- `A2DP_SBC_IE_SAMP_FREQ_44`. -/
def a2dpSbcIeSampFreq44 : UInt8 := 0x20

/-- `A2DP_SBC_IE_SAMP_FREQ_48`. -/
def a2dpSbcIeSampFreq48 : UInt8 := 0x10

/-- `A2DP_SBC_IE_CH_MD_MSK`. -/
def a2dpSbcIeChMdMsk : UInt8 := 0x0F

/-- `A2DP_SBC_IE_CH_MD_MONO`. -/
def a2dpSbcIeChMdMono : UInt8 := 0x08

/-- `A2DP_SBC_IE_CH_MD_DUAL`. -/
def a2dpSbcIeChMdDual : UInt8 := 0x04

/-- `A2DP_SBC_IE_CH_MD_STEREO`. -/
def a2dpSbcIeChMdStereo : UInt8 := 0x02

/-- `A2DP_SBC_IE_CH_MD_JOINT`. -/
def a2dpSbcIeChMdJoint : UInt8 := 0x01

/-- `A2DP_SBC_IE_BLOCKS_MSK`. -/
def a2dpSbcIeBlocksMsk : UInt8 := 0xF0

/-- `A2DP_SBC_IE_BLOCKS_4`. -/
def a2dpSbcIeBlocks4 : UInt8 := 0x80

/-- `A2DP_SBC_IE_BLOCKS_8`. -/
def a2dpSbcIeBlocks8 : UInt8 := 0x40

/-- `A2DP_SBC_IE_BLOCKS_12`. -/
def a2dpSbcIeBlocks12 : UInt8 := 0x20

/-- `A2DP_SBC_IE_BLOCKS_16`. -/
def a2dpSbcIeBlocks16 : UInt8 := 0x10

/-- `A2DP_SBC_IE_SUBBAND_MSK`. -/
def a2dpSbcIeSubbandMsk : UInt8 := 0x0C

/-- `A2DP_SBC_IE_SUBBAND_4`. -/
def a2dpSbcIeSubband4 : UInt8 := 0x08

/-- `A2DP_SBC_IE_SUBBAND_8`. -/
def a2dpSbcIeSubband8 : UInt8 := 0x04

/-- `A2DP_SBC_IE_ALLOC_MD_MSK`. -/
def a2dpSbcIeAllocMdMsk : UInt8 := 0x03

/-- `A2DP_SBC_IE_ALLOC_MD_S`. -/
def a2dpSbcIeAllocMdS : UInt8 := 0x02

/-- `A2DP_SBC_IE_ALLOC_MD_L`. -/
def a2dpSbcIeAllocMdL : UInt8 := 0x01

/-- `A2DP_SBC_IE_MIN_BITPOOL`. -/
def a2dpSbcIeMinBitpool : UInt8 := 2

/-- `A2DP_SBC_IE_MAX_BITPOOL`. -/
def a2dpSbcIeMaxBitpool : UInt8 := 250

/-- `A2DP_SBC_MAX_BITPOOL`. -/
def a2dpSbcMaxBitpool : UInt8 := 53

/-- `A2DP_INVALID_PARAMS`. -/
def a2dpInvalidParams : UInt8 := 0x0C

/-- `A2DP_WRONG_CODEC`. -/
def a2dpWrongCodec : UInt8 := 0x0D

/-- `A2DP_BAD_SAMP_FREQ`. -/
def a2dpBadSampFreq : UInt8 := 0xC3

/-- `A2DP_BAD_CH_MODE`. -/
def a2dpBadChMode : UInt8 := 0xC5

/-- `A2DP_BAD_SUBBANDS`. -/
def a2dpBadSubbands : UInt8 := 0xC7

/-- `A2DP_BAD_ALLOC_METHOD`. -/
def a2dpBadAllocMethod : UInt8 := 0xC9

/-- `A2DP_BAD_MIN_BITPOOL`. -/
def a2dpBadMinBitpool : UInt8 := 0xCB

/-- `A2DP_BAD_MAX_BITPOOL`. -/
def a2dpBadMaxBitpool : UInt8 := 0xCD

/-- `A2DP_BAD_BLOCK_LEN`. -/
def a2dpBadBlockLen : UInt8 := 0xDD

/-- `A2DP_SET_ZERO_BIT`. -/
def a2dpSetZeroBit : UInt8 := 0

/-- `A2DP_SET_ONE_BIT`. -/
def a2dpSetOneBit : UInt8 := 1

/-- `A2DP_SET_MULTL_BIT`. -/
def a2dpSetMultlBit : UInt8 := 2

/-- `BTAV_A2DP_CODEC_SAMPLE_RATE_NONE`. -/
def btavA2dpCodecSampleRateNone : UInt32 := 0x0

/-- `BTAV_A2DP_CODEC_SAMPLE_RATE_44100`. -/
def btavA2dpCodecSampleRate44100 : UInt32 := 0x1

/-- `BTAV_A2DP_CODEC_SAMPLE_RATE_48000`. -/
def btavA2dpCodecSampleRate48000 : UInt32 := 0x2

/-- The other sample rates of `btav_a2dp_codec_sample_rate_t`, from `88200` to `24000`, and
`NONE`: the cases of the switches on a sample rate that SBC does not support. -/
def btavA2dpCodecSampleRatesUnsupported : List UInt32 := [0x4, 0x8, 0x10, 0x20, 0x40, 0x80, 0x0]

/-- `BTAV_A2DP_CODEC_BITS_PER_SAMPLE_NONE`. -/
def btavA2dpCodecBitsPerSampleNone : UInt32 := 0x0

/-- `BTAV_A2DP_CODEC_BITS_PER_SAMPLE_16`. -/
def btavA2dpCodecBitsPerSample16 : UInt32 := 0x1

/-- `BTAV_A2DP_CODEC_BITS_PER_SAMPLE_24`, `_32` and `_NONE`. -/
def btavA2dpCodecBitsPerSampleUnsupported : List UInt32 := [0x2, 0x4, 0x0]

/-- `BTAV_A2DP_CODEC_CHANNEL_MODE_NONE`. -/
def btavA2dpCodecChannelModeNone : UInt32 := 0x0

/-- `BTAV_A2DP_CODEC_CHANNEL_MODE_MONO`. -/
def btavA2dpCodecChannelModeMono : UInt32 := 0x1

/-- `BTAV_A2DP_CODEC_CHANNEL_MODE_STEREO`. -/
def btavA2dpCodecChannelModeStereo : UInt32 := 0x2

/-- The sampling frequencies of SBC, one bit each. -/
def sampFreqBits : List UInt8 :=
  [a2dpSbcIeSampFreq16, a2dpSbcIeSampFreq32, a2dpSbcIeSampFreq44, a2dpSbcIeSampFreq48]

/-- The channel modes of SBC, one bit each. -/
def chModeBits : List UInt8 :=
  [a2dpSbcIeChMdMono, a2dpSbcIeChMdDual, a2dpSbcIeChMdStereo, a2dpSbcIeChMdJoint]

/-- The block lengths of SBC, one bit each, longest first. -/
def blockLenBits : List UInt8 :=
  [a2dpSbcIeBlocks16, a2dpSbcIeBlocks12, a2dpSbcIeBlocks8, a2dpSbcIeBlocks4]

/-- The numbers of subbands of SBC, one bit each, eight first. -/
def numSubbandsBits : List UInt8 := [a2dpSbcIeSubband8, a2dpSbcIeSubband4]

/-- The allocation methods of SBC, one bit each, loudness first. -/
def allocMethodBits : List UInt8 := [a2dpSbcIeAllocMdL, a2dpSbcIeAllocMdS]

/-- `tA2DP_SBC_CIE`, without `bits_per_sample`: the parser never sets it, and of the local
capabilities only their common value `a2dpSbcCapsBitsPerSample` is read. -/
structure SbcCie where
  sampFreq : UInt8
  chMode : UInt8
  blockLen : UInt8
  numSubbands : UInt8
  allocMethod : UInt8
  minBitpool : UInt8
  maxBitpool : UInt8
  deriving DecidableEq, Repr

/-- `a2dp_sbc_source_caps`. -/
def a2dpSbcSourceCaps : SbcCie :=
  ⟨a2dpSbcIeSampFreq44, a2dpSbcIeChMdMono ||| a2dpSbcIeChMdJoint,
    a2dpSbcIeBlocks16 ||| a2dpSbcIeBlocks12 ||| a2dpSbcIeBlocks8 ||| a2dpSbcIeBlocks4,
    a2dpSbcIeSubband8, a2dpSbcIeAllocMdL, a2dpSbcIeMinBitpool, a2dpSbcMaxBitpool⟩

/-- `a2dp_sbc_sink_caps`. -/
def a2dpSbcSinkCaps : SbcCie :=
  ⟨a2dpSbcIeSampFreq48 ||| a2dpSbcIeSampFreq44,
    a2dpSbcIeChMdMono ||| a2dpSbcIeChMdStereo ||| a2dpSbcIeChMdJoint ||| a2dpSbcIeChMdDual,
    a2dpSbcIeBlocks16 ||| a2dpSbcIeBlocks12 ||| a2dpSbcIeBlocks8 ||| a2dpSbcIeBlocks4,
    a2dpSbcIeSubband4 ||| a2dpSbcIeSubband8, a2dpSbcIeAllocMdL ||| a2dpSbcIeAllocMdS,
    a2dpSbcIeMinBitpool, a2dpSbcMaxBitpool⟩

/-- `p_a2dp_sbc_caps`: the local capabilities of a source or of a sink. -/
def a2dpSbcCaps (isSource : Bool) : SbcCie :=
  if isSource then a2dpSbcSourceCaps else a2dpSbcSinkCaps

/-- `bits_per_sample` of both `a2dp_sbc_source_caps` and `a2dp_sbc_sink_caps`. -/
def a2dpSbcCapsBitsPerSample : UInt32 := btavA2dpCodecBitsPerSample16

/-- `a2dp_sbc_default_config`. -/
def a2dpSbcDefaultConfig : SbcCie :=
  ⟨a2dpSbcIeSampFreq44, a2dpSbcIeChMdJoint, a2dpSbcIeBlocks16, a2dpSbcIeSubband8,
    a2dpSbcIeAllocMdL, a2dpSbcIeMinBitpool, a2dpSbcMaxBitpool⟩

/-- `A2DP_BitsSet`: whether no bit, one bit or several bits are set. -/
def a2dpBitsSet (num : UInt64) : UInt8 :=
  if num = 0 then a2dpSetZeroBit
  else if num &&& (num - 1) = 0 then a2dpSetOneBit
  else a2dpSetMultlBit

/-- The checks of `A2DP_ParseInfoSbc` on the bits of each field: the status of the first that
fails.  A capability needs some bit in each field, a configuration exactly one. -/
def a2dpParseInfoSbcBits (ie : SbcCie) (isCapability : Bool) : Option UInt8 :=
  if isCapability then
    if a2dpBitsSet ie.sampFreq.toUInt64 = a2dpSetZeroBit then some a2dpBadSampFreq
    else if a2dpBitsSet ie.chMode.toUInt64 = a2dpSetZeroBit then some a2dpBadChMode
    else if a2dpBitsSet ie.blockLen.toUInt64 = a2dpSetZeroBit then some a2dpBadBlockLen
    else if a2dpBitsSet ie.numSubbands.toUInt64 = a2dpSetZeroBit then some a2dpBadSubbands
    else if a2dpBitsSet ie.allocMethod.toUInt64 = a2dpSetZeroBit then some a2dpBadAllocMethod
    else none
  else if a2dpBitsSet ie.sampFreq.toUInt64 ≠ a2dpSetOneBit then some a2dpBadSampFreq
  else if a2dpBitsSet ie.chMode.toUInt64 ≠ a2dpSetOneBit then some a2dpBadChMode
  else if a2dpBitsSet ie.blockLen.toUInt64 ≠ a2dpSetOneBit then some a2dpBadBlockLen
  else if a2dpBitsSet ie.numSubbands.toUInt64 ≠ a2dpSetOneBit then some a2dpBadSubbands
  else if a2dpBitsSet ie.allocMethod.toUInt64 ≠ a2dpSetOneBit then some a2dpBadAllocMethod
  else none

/-- `A2DP_ParseInfoSbc`: the element from its LOSC octet on. -/
def a2dpParseInfoSbc (codecInfo : Vector UInt8 avdtCodecSize) (isCapability : Bool) :
    Except UInt8 SbcCie :=
  if codecInfo[0] ≠ a2dpSbcInfoLen then .error a2dpWrongCodec
  else if codecInfo[1] >>> 4 ≠ avdtMediaTypeAudio ∨ codecInfo[2] ≠ a2dpMediaCtSbc then
    .error a2dpWrongCodec
  else
    let ie : SbcCie :=
      { sampFreq := codecInfo[3] &&& a2dpSbcIeSampFreqMsk
        chMode := codecInfo[3] &&& a2dpSbcIeChMdMsk
        blockLen := codecInfo[4] &&& a2dpSbcIeBlocksMsk
        numSubbands := codecInfo[4] &&& a2dpSbcIeSubbandMsk
        allocMethod := codecInfo[4] &&& a2dpSbcIeAllocMdMsk
        minBitpool := codecInfo[5]
        maxBitpool := codecInfo[6] }
    if ie.minBitpool < a2dpSbcIeMinBitpool ∨ ie.minBitpool > a2dpSbcIeMaxBitpool then
      .error a2dpBadMinBitpool
    else if ie.maxBitpool < a2dpSbcIeMinBitpool ∨ ie.maxBitpool > a2dpSbcIeMaxBitpool ∨
        ie.maxBitpool < ie.minBitpool then
      .error a2dpBadMaxBitpool
    else
      match a2dpParseInfoSbcBits ie isCapability with
      | some status => .error status
      | none => .ok ie

/-- The buffer with its first octets replaced. -/
def writeOctets {n : Nat} (buffer : Vector UInt8 n) (octets : List UInt8) : Vector UInt8 n :=
  Vector.ofFn fun i => octets.getD i.val buffer[i]

/-- `A2DP_BuildInfoSbc`: the element is written from its LOSC octet on, unless a field has a bit
outside its mask or a bitpool is out of range. -/
def a2dpBuildInfoSbc (mediaType : UInt8) (ie : SbcCie) (result : Vector UInt8 avdtCodecSize) :
    Except UInt8 (Vector UInt8 avdtCodecSize) :=
  if ie.sampFreq &&& ~~~a2dpSbcIeSampFreqMsk ≠ 0 ∨ ie.chMode &&& ~~~a2dpSbcIeChMdMsk ≠ 0 ∨
      ie.blockLen &&& ~~~a2dpSbcIeBlocksMsk ≠ 0 ∨ ie.numSubbands &&& ~~~a2dpSbcIeSubbandMsk ≠ 0 ∨
      ie.allocMethod &&& ~~~a2dpSbcIeAllocMdMsk ≠ 0 ∨ ie.minBitpool > ie.maxBitpool ∨
      ie.minBitpool < a2dpSbcIeMinBitpool ∨ ie.minBitpool > a2dpSbcIeMaxBitpool ∨
      ie.maxBitpool < a2dpSbcIeMinBitpool ∨ ie.maxBitpool > a2dpSbcIeMaxBitpool then
    .error a2dpInvalidParams
  else
    .ok (writeOctets result [a2dpSbcInfoLen, mediaType <<< 4, a2dpMediaCtSbc,
      ie.sampFreq ||| ie.chMode, ie.blockLen ||| ie.numSubbands ||| ie.allocMethod,
      ie.minBitpool, ie.maxBitpool])

/-- The liberal check shared by `A2DP_IsPeerSinkCodecValidSbc` and
`A2DP_IsPeerSourceCodecValidSbc`: the element parses as a configuration or as a capability. -/
def a2dpParsesLiberally (codecInfo : Vector UInt8 avdtCodecSize) : Bool :=
  (a2dpParseInfoSbc codecInfo false).toBool || (a2dpParseInfoSbc codecInfo true).toBool

/-- `A2DP_IsPeerSinkCodecValidSbc`. -/
def a2dpIsPeerSinkCodecValidSbc (codecInfo : Vector UInt8 avdtCodecSize) : Bool :=
  a2dpParsesLiberally codecInfo

/-- `A2DP_IsPeerSourceCodecValidSbc`. -/
def a2dpIsPeerSourceCodecValidSbc (codecInfo : Vector UInt8 avdtCodecSize) : Bool :=
  a2dpParsesLiberally codecInfo

/-- `btav_a2dp_codec_config_t`, without the codec type and priority, which `setCodecConfig`
neither reads nor writes. -/
structure CodecConfig where
  sampleRate : UInt32
  bitsPerSample : UInt32
  channelMode : UInt32
  codecSpecific1 : Int
  codecSpecific2 : Int
  codecSpecific3 : Int
  codecSpecific4 : Int
  deriving DecidableEq, Repr

/-- The state of an `A2dpCodecConfigSbcBase` that `setCodecConfig` reads or writes. -/
structure SbcCodec where
  /-- `is_source_`, which selects the local capabilities. -/
  isSource : Bool
  codecConfig : CodecConfig
  codecCapability : CodecConfig
  codecSelectableCapability : CodecConfig
  codecUserConfig : CodecConfig
  codecAudioConfig : CodecConfig
  otaCodecConfig : Vector UInt8 avdtCodecSize
  otaCodecPeerCapability : Vector UInt8 avdtCodecSize
  otaCodecPeerConfig : Vector UInt8 avdtCodecSize
  deriving DecidableEq, Repr

/-- Where `setCodecConfig` leaves its straight line. -/
inductive Jump where
  /-- `goto fail`. -/
  | fail
  /-- A `CHECK` that does not hold, which aborts the process. -/
  | abort
  deriving DecidableEq, Repr

/-- `sample_rate |= rate` where `cond` holds. -/
def CodecConfig.orSampleRate (config : CodecConfig) (cond : Prop) [Decidable cond]
    (rate : UInt32) : CodecConfig :=
  if cond then { config with sampleRate := config.sampleRate ||| rate } else config

/-- `channel_mode |= mode` where `cond` holds. -/
def CodecConfig.orChannelMode (config : CodecConfig) (cond : Prop) [Decidable cond]
    (mode : UInt32) : CodecConfig :=
  if cond then { config with channelMode := config.channelMode ||| mode } else config

/-- `select_best_sample_rate`: the bit of `result_config_cie` and the sample rate of
`codec_config_` it selects, if any. -/
def selectBestSampleRate (sampFreq : UInt8) : Option (UInt8 × UInt32) :=
  if sampFreq &&& a2dpSbcIeSampFreq48 ≠ 0 then
    some (a2dpSbcIeSampFreq48, btavA2dpCodecSampleRate48000)
  else if sampFreq &&& a2dpSbcIeSampFreq44 ≠ 0 then
    some (a2dpSbcIeSampFreq44, btavA2dpCodecSampleRate44100)
  else none

/-- `select_audio_sample_rate`. -/
def selectAudioSampleRate (codecAudioConfig : CodecConfig) (sampFreq : UInt8) :
    Option (UInt8 × UInt32) :=
  if codecAudioConfig.sampleRate = btavA2dpCodecSampleRate44100 then
    if sampFreq &&& a2dpSbcIeSampFreq44 ≠ 0 then
      some (a2dpSbcIeSampFreq44, btavA2dpCodecSampleRate44100)
    else none
  else if codecAudioConfig.sampleRate = btavA2dpCodecSampleRate48000 then
    if sampFreq &&& a2dpSbcIeSampFreq48 ≠ 0 then
      some (a2dpSbcIeSampFreq48, btavA2dpCodecSampleRate48000)
    else none
  else none

/-- `select_best_bits_per_sample`. -/
def selectBestBitsPerSample : Option UInt32 := some btavA2dpCodecBitsPerSample16

/-- `select_audio_bits_per_sample`. -/
def selectAudioBitsPerSample (codecAudioConfig : CodecConfig) : Option UInt32 :=
  if codecAudioConfig.bitsPerSample = btavA2dpCodecBitsPerSample16 then
    some btavA2dpCodecBitsPerSample16
  else none

/-- `select_best_channel_mode`. -/
def selectBestChannelMode (chMode : UInt8) : Option (UInt8 × UInt32) :=
  if chMode &&& a2dpSbcIeChMdJoint ≠ 0 then
    some (a2dpSbcIeChMdJoint, btavA2dpCodecChannelModeStereo)
  else if chMode &&& a2dpSbcIeChMdStereo ≠ 0 then
    some (a2dpSbcIeChMdStereo, btavA2dpCodecChannelModeStereo)
  else if chMode &&& a2dpSbcIeChMdDual ≠ 0 then
    some (a2dpSbcIeChMdDual, btavA2dpCodecChannelModeStereo)
  else if chMode &&& a2dpSbcIeChMdMono ≠ 0 then
    some (a2dpSbcIeChMdMono, btavA2dpCodecChannelModeMono)
  else none

/-- `select_audio_channel_mode`. -/
def selectAudioChannelMode (codecAudioConfig : CodecConfig) (chMode : UInt8) :
    Option (UInt8 × UInt32) :=
  if codecAudioConfig.channelMode = btavA2dpCodecChannelModeMono then
    if chMode &&& a2dpSbcIeChMdMono ≠ 0 then
      some (a2dpSbcIeChMdMono, btavA2dpCodecChannelModeMono)
    else none
  else if codecAudioConfig.channelMode = btavA2dpCodecChannelModeStereo then
    if chMode &&& a2dpSbcIeChMdJoint ≠ 0 then
      some (a2dpSbcIeChMdJoint, btavA2dpCodecChannelModeStereo)
    else if chMode &&& a2dpSbcIeChMdStereo ≠ 0 then
      some (a2dpSbcIeChMdStereo, btavA2dpCodecChannelModeStereo)
    else if chMode &&& a2dpSbcIeChMdDual ≠ 0 then
      some (a2dpSbcIeChMdDual, btavA2dpCodecChannelModeStereo)
    else none
  else none

/-- The peer information `setCodecConfig` negotiates with.  With a capability, the stored peer
configuration is parsed in its place when it is valid, and the capability again when that
parse fails. -/
def setCodecConfigPeer (codec : SbcCodec) (peerCodecInfo : Vector UInt8 avdtCodecSize)
    (isCapability : Bool) : Except Jump SbcCie :=
  match a2dpParseInfoSbc peerCodecInfo isCapability with
  | .error _ => .error .fail
  | .ok peerInfoCie =>
    if isCapability then
      let valid := if codec.isSource then a2dpIsPeerSinkCodecValidSbc codec.otaCodecPeerConfig
        else a2dpIsPeerSourceCodecValidSbc codec.otaCodecPeerConfig
      -- `status` and `peer_info_cie` together
      let status := if valid then a2dpParseInfoSbc codec.otaCodecPeerConfig false
        else .ok peerInfoCie
      match status with
      | .ok peerInfoCie => .ok peerInfoCie
      | .error _ =>
        match a2dpParseInfoSbc peerCodecInfo isCapability with
        | .ok peerInfoCie => .ok peerInfoCie
        | .error _ => .error .abort
    else .ok peerInfoCie

/-- The `switch` on the user's sample rate: the state and the `samp_freq` of
`result_config_cie`. -/
def sampleRateUserPreference (sampFreq : UInt8) (codec : SbcCodec) (chosen : UInt8) :
    SbcCodec × UInt8 :=
  let user := codec.codecUserConfig.sampleRate
  if user = btavA2dpCodecSampleRate44100 then
    if sampFreq &&& a2dpSbcIeSampFreq44 ≠ 0 then
      ({ codec with codecCapability.sampleRate := user, codecConfig.sampleRate := user },
        a2dpSbcIeSampFreq44)
    else (codec, chosen)
  else if user = btavA2dpCodecSampleRate48000 then
    if sampFreq &&& a2dpSbcIeSampFreq48 ≠ 0 then
      ({ codec with codecCapability.sampleRate := user, codecConfig.sampleRate := user },
        a2dpSbcIeSampFreq48)
    else (codec, chosen)
  else if user ∈ btavA2dpCodecSampleRatesUnsupported then
    ({ codec with codecCapability.sampleRate := btavA2dpCodecSampleRateNone,
                  codecConfig.sampleRate := btavA2dpCodecSampleRateNone }, chosen)
  else (codec, chosen)

/-- The `do { } while (false)` on the sample rate: the selectable capability, then, with no user
preference, the common capability and the audio, default and best choices. -/
def sampleRateNoPreference (sampFreq defaultSampFreq : UInt8) (codec : SbcCodec)
    (chosen : UInt8) : SbcCodec × UInt8 :=
  let selectable := (codec.codecSelectableCapability.orSampleRate
    (sampFreq &&& a2dpSbcIeSampFreq44 ≠ 0) btavA2dpCodecSampleRate44100).orSampleRate
    (sampFreq &&& a2dpSbcIeSampFreq48 ≠ 0) btavA2dpCodecSampleRate48000
  let codec := { codec with codecSelectableCapability := selectable }
  if codec.codecConfig.sampleRate ≠ btavA2dpCodecSampleRateNone then (codec, chosen)
  else
    let capability := (codec.codecCapability.orSampleRate
      (sampFreq &&& a2dpSbcIeSampFreq44 ≠ 0) btavA2dpCodecSampleRate44100).orSampleRate
      (sampFreq &&& a2dpSbcIeSampFreq48 ≠ 0) btavA2dpCodecSampleRate48000
    let codec := { codec with codecCapability := capability }
    match selectAudioSampleRate codec.codecAudioConfig sampFreq with
    | some (bit, rate) => ({ codec with codecConfig.sampleRate := rate }, bit)
    | none =>
      match selectBestSampleRate defaultSampFreq with
      | some (bit, rate) => ({ codec with codecConfig.sampleRate := rate }, bit)
      | none =>
        match selectBestSampleRate sampFreq with
        | some (bit, rate) => ({ codec with codecConfig.sampleRate := rate }, bit)
        | none => (codec, chosen)

/-- The sample frequency section of `setCodecConfig`. -/
def setCodecConfigSampleRate (caps peer : SbcCie) (codec : SbcCodec) :
    Except Jump (SbcCodec × UInt8) :=
  let sampFreq := caps.sampFreq &&& peer.sampFreq
  let codec := { codec with codecConfig.sampleRate := btavA2dpCodecSampleRateNone }
  -- `result_config_cie.samp_freq` starts as the zero of its `memset`
  let preferred := sampleRateUserPreference sampFreq codec 0
  let selected := sampleRateNoPreference sampFreq
    (a2dpSbcDefaultConfig.sampFreq &&& peer.sampFreq) preferred.1 preferred.2
  if selected.1.codecConfig.sampleRate = btavA2dpCodecSampleRateNone then .error .fail
  else .ok selected

/-- The bits per sample section of `setCodecConfig`, which is not sent over the air. -/
def setCodecConfigBitsPerSample (codec : SbcCodec) : Except Jump SbcCodec :=
  let codec := { codec with codecConfig.bitsPerSample := btavA2dpCodecBitsPerSampleNone }
  let user := codec.codecUserConfig.bitsPerSample
  let codec :=
    if user = btavA2dpCodecBitsPerSample16 then
      { codec with codecCapability.bitsPerSample := user, codecConfig.bitsPerSample := user }
    else if user ∈ btavA2dpCodecBitsPerSampleUnsupported then
      { codec with codecCapability.bitsPerSample := btavA2dpCodecBitsPerSampleNone,
                   codecConfig.bitsPerSample := btavA2dpCodecBitsPerSampleNone }
    else codec
  let codec := { codec with codecSelectableCapability.bitsPerSample := a2dpSbcCapsBitsPerSample }
  let codec :=
    if codec.codecConfig.bitsPerSample ≠ btavA2dpCodecBitsPerSampleNone then codec
    else
      let codec := { codec with codecCapability.bitsPerSample := btavA2dpCodecBitsPerSample16 }
      match selectAudioBitsPerSample codec.codecAudioConfig with
      | some bits => { codec with codecConfig.bitsPerSample := bits }
      | none =>
        match selectBestBitsPerSample with
        | some bits => { codec with codecConfig.bitsPerSample := bits }
        | none =>
          match selectBestBitsPerSample with
          | some bits => { codec with codecConfig.bitsPerSample := bits }
          | none => codec
  if codec.codecConfig.bitsPerSample = btavA2dpCodecBitsPerSampleNone then .error .fail
  else .ok codec

/-- The `switch` on the user's channel mode. -/
def channelModeUserPreference (chMode : UInt8) (codec : SbcCodec) (chosen : UInt8) :
    SbcCodec × UInt8 :=
  let user := codec.codecUserConfig.channelMode
  let prefer (bit : UInt8) : SbcCodec × UInt8 :=
    ({ codec with codecCapability.channelMode := user, codecConfig.channelMode := user }, bit)
  if user = btavA2dpCodecChannelModeMono then
    if chMode &&& a2dpSbcIeChMdMono ≠ 0 then prefer a2dpSbcIeChMdMono else (codec, chosen)
  else if user = btavA2dpCodecChannelModeStereo then
    if chMode &&& a2dpSbcIeChMdJoint ≠ 0 then prefer a2dpSbcIeChMdJoint
    else if chMode &&& a2dpSbcIeChMdStereo ≠ 0 then prefer a2dpSbcIeChMdStereo
    else if chMode &&& a2dpSbcIeChMdDual ≠ 0 then prefer a2dpSbcIeChMdDual
    else (codec, chosen)
  else if user = btavA2dpCodecChannelModeNone then
    ({ codec with codecCapability.channelMode := btavA2dpCodecChannelModeNone,
                  codecConfig.channelMode := btavA2dpCodecChannelModeNone }, chosen)
  else (codec, chosen)

/-- The `do { } while (false)` on the channel mode. -/
def channelModeNoPreference (chMode defaultChMode : UInt8) (codec : SbcCodec)
    (chosen : UInt8) : SbcCodec × UInt8 :=
  let selectable := (((codec.codecSelectableCapability.orChannelMode
    (chMode &&& a2dpSbcIeChMdMono ≠ 0) btavA2dpCodecChannelModeMono).orChannelMode
    (chMode &&& a2dpSbcIeChMdJoint ≠ 0) btavA2dpCodecChannelModeStereo).orChannelMode
    (chMode &&& a2dpSbcIeChMdStereo ≠ 0) btavA2dpCodecChannelModeStereo).orChannelMode
    (chMode &&& a2dpSbcIeChMdDual ≠ 0) btavA2dpCodecChannelModeStereo
  let codec := { codec with codecSelectableCapability := selectable }
  if codec.codecConfig.channelMode ≠ btavA2dpCodecChannelModeNone then (codec, chosen)
  else
    let capability := (codec.codecCapability.orChannelMode
      (chMode &&& a2dpSbcIeChMdMono ≠ 0) btavA2dpCodecChannelModeMono).orChannelMode
      (chMode &&& (a2dpSbcIeChMdJoint ||| a2dpSbcIeChMdStereo ||| a2dpSbcIeChMdDual) ≠ 0)
      btavA2dpCodecChannelModeStereo
    let codec := { codec with codecCapability := capability }
    match selectAudioChannelMode codec.codecAudioConfig chMode with
    | some (bit, mode) => ({ codec with codecConfig.channelMode := mode }, bit)
    | none =>
      match selectBestChannelMode defaultChMode with
      | some (bit, mode) => ({ codec with codecConfig.channelMode := mode }, bit)
      | none =>
        match selectBestChannelMode chMode with
        | some (bit, mode) => ({ codec with codecConfig.channelMode := mode }, bit)
        | none => (codec, chosen)

/-- The channel mode section of `setCodecConfig`. -/
def setCodecConfigChannelMode (caps peer : SbcCie) (codec : SbcCodec) :
    Except Jump (SbcCodec × UInt8) :=
  let chMode := caps.chMode &&& peer.chMode
  let codec := { codec with codecConfig.channelMode := btavA2dpCodecChannelModeNone }
  let preferred := channelModeUserPreference chMode codec 0
  let selected := channelModeNoPreference chMode
    (a2dpSbcDefaultConfig.chMode &&& peer.chMode) preferred.1 preferred.2
  if selected.1.codecConfig.channelMode = btavA2dpCodecChannelModeNone then .error .fail
  else .ok selected

/-- The first of `bits`, in order of preference, that is set in `field`: the block length, the
number of subbands and the allocation method are chosen so. -/
def selectFirstBit (bits : List UInt8) (field : UInt8) : Except Jump UInt8 :=
  match bits.find? fun bit => field &&& bit ≠ 0 with
  | some bit => .ok bit
  | none => .error .fail

/-- The bitpool section of `setCodecConfig`: the overlap of the two ranges. -/
def setCodecConfigBitpool (caps peer : SbcCie) : Except Jump (UInt8 × UInt8) :=
  let minBitpool := if caps.minBitpool < peer.minBitpool then peer.minBitpool else caps.minBitpool
  let maxBitpool := if caps.maxBitpool > peer.maxBitpool then peer.maxBitpool else caps.maxBitpool
  if minBitpool > maxBitpool then .error .fail else .ok (minBitpool, maxBitpool)

/-- The codec-specific fields of the user's configuration that are not zero. -/
def copyCodecSpecific (codec : SbcCodec) : SbcCodec :=
  let user := codec.codecUserConfig
  let codec := if user.codecSpecific1 ≠ 0 then
    { codec with codecConfig.codecSpecific1 := user.codecSpecific1 } else codec
  let codec := if user.codecSpecific2 ≠ 0 then
    { codec with codecConfig.codecSpecific2 := user.codecSpecific2 } else codec
  let codec := if user.codecSpecific3 ≠ 0 then
    { codec with codecConfig.codecSpecific3 := user.codecSpecific3 } else codec
  if user.codecSpecific4 ≠ 0 then
    { codec with codecConfig.codecSpecific4 := user.codecSpecific4 } else codec

/-- `A2DP_BuildInfoSbc` of a field of the state, under a `CHECK`. -/
def buildChecked (ie : SbcCie) (buffer : Vector UInt8 avdtCodecSize) :
    Except Jump (Vector UInt8 avdtCodecSize) :=
  match a2dpBuildInfoSbc avdtMediaTypeAudio ie buffer with
  | .ok written => .ok written
  | .error _ => .error .abort

/-- `setCodecConfig` up to `return true`: the state and `p_result_codec_config` it leaves.
`p_result_codec_config` is written after the last jump to `fail`. -/
def setCodecConfigBody (codec : SbcCodec) (peerCodecInfo : Vector UInt8 avdtCodecSize)
    (isCapability : Bool) (resultCodecConfig : Vector UInt8 avdtCodecSize) :
    Except Jump (SbcCodec × Vector UInt8 avdtCodecSize) := do
  let caps := a2dpSbcCaps codec.isSource
  let peer ← setCodecConfigPeer codec peerCodecInfo isCapability
  let (codec, sampFreq) ← setCodecConfigSampleRate caps peer codec
  let codec ← setCodecConfigBitsPerSample codec
  let (codec, chMode) ← setCodecConfigChannelMode caps peer codec
  let blockLen ← selectFirstBit blockLenBits (caps.blockLen &&& peer.blockLen)
  let numSubbands ← selectFirstBit numSubbandsBits (caps.numSubbands &&& peer.numSubbands)
  let allocMethod ← selectFirstBit allocMethodBits (caps.allocMethod &&& peer.allocMethod)
  let (minBitpool, maxBitpool) ← setCodecConfigBitpool caps peer
  let result : SbcCie := ⟨sampFreq, chMode, blockLen, numSubbands, allocMethod, minBitpool, maxBitpool⟩
  let resultCodecConfig ← match a2dpBuildInfoSbc avdtMediaTypeAudio result resultCodecConfig with
    | .ok written => .ok written
    | .error _ => .error Jump.fail
  let codec := copyCodecSpecific codec
  -- local copies of the peer's information and of the result
  let codec ← if isCapability then do
      let written ← buildChecked peer codec.otaCodecPeerCapability
      pure { codec with otaCodecPeerCapability := written }
    else do
      let written ← buildChecked peer codec.otaCodecPeerConfig
      pure { codec with otaCodecPeerConfig := written }
  let written ← buildChecked result codec.otaCodecConfig
  return ({ codec with otaCodecConfig := written }, resultCodecConfig)

/-- `A2dpCodecConfigSbcBase::setCodecConfig`: whether it returns true, the state, and
`p_result_codec_config`; none where a `CHECK` aborts.  On `fail` the saved state is restored. -/
def setCodecConfig (codec : SbcCodec) (peerCodecInfo : Vector UInt8 avdtCodecSize)
    (isCapability : Bool) (resultCodecConfig : Vector UInt8 avdtCodecSize) :
    Option (Bool × SbcCodec × Vector UInt8 avdtCodecSize) :=
  match setCodecConfigBody codec peerCodecInfo isCapability resultCodecConfig with
  | .ok (codec, written) => some (true, codec, written)
  | .error .fail => some (false, codec, resultCodecConfig)
  | .error .abort => none

section Bits

/-- A bit set in `x &&& y` is set in both. -/
theorem and_ne_zero_of_and_and {x y bit : UInt8} (both : (x &&& y) &&& bit ≠ 0) :
    bit &&& x ≠ 0 ∧ bit &&& y ≠ 0 := by
  constructor
  · intro missing
    apply both
    calc (x &&& y) &&& bit = (bit &&& x) &&& y := by ac_rfl
      _ = 0 := by rw [missing, UInt8.zero_and]
  · intro missing
    apply both
    calc (x &&& y) &&& bit = (bit &&& y) &&& x := by ac_rfl
      _ = 0 := by rw [missing, UInt8.zero_and]

/-- A bit set in `small`, all of whose bits are set in `large`, is set in `large`. -/
theorem and_ne_zero_of_covers {bit small large : UInt8} (hit : bit &&& small ≠ 0)
    (covers : small &&& large = small) : bit &&& large ≠ 0 := by
  intro missing
  apply hit
  calc bit &&& small = (bit &&& large) &&& small := by
        conv_lhs => rw [← covers]
        ac_rfl
    _ = 0 := by rw [missing, UInt8.zero_and]

end Bits

/-- A bit of one field that the local capabilities and the peer both have. -/
def Common (caps peer bit : UInt8) : Prop := bit &&& caps ≠ 0 ∧ bit &&& peer ≠ 0

theorem common_of_and_ne_zero {caps peer bit : UInt8} (hit : (caps &&& peer) &&& bit ≠ 0) :
    Common caps peer bit :=
  and_ne_zero_of_and_and hit

section SampleRate

theorem selectBestSampleRate_some {sampFreq bit : UInt8} {rate : UInt32}
    (selected : selectBestSampleRate sampFreq = some (bit, rate)) :
    bit ∈ [a2dpSbcIeSampFreq44, a2dpSbcIeSampFreq48] ∧ sampFreq &&& bit ≠ 0 ∧
      rate ≠ btavA2dpCodecSampleRateNone := by
  unfold selectBestSampleRate at selected
  split_ifs at selected with has48 has44 <;> cases selected
  · exact ⟨by simp, has48, by decide⟩
  · exact ⟨by simp, has44, by decide⟩

theorem selectAudioSampleRate_some {codecAudioConfig : CodecConfig} {sampFreq bit : UInt8}
    {rate : UInt32} (selected : selectAudioSampleRate codecAudioConfig sampFreq = some (bit, rate)) :
    bit ∈ [a2dpSbcIeSampFreq44, a2dpSbcIeSampFreq48] ∧ sampFreq &&& bit ≠ 0 ∧
      rate ≠ btavA2dpCodecSampleRateNone := by
  unfold selectAudioSampleRate at selected
  split_ifs at selected with is44 has44 is48 has48 <;> cases selected
  · exact ⟨by simp, has44, by decide⟩
  · exact ⟨by simp, has48, by decide⟩

/-- Once `codec_config_` has a sample rate, the `samp_freq` chosen is a bit both sides have. -/
def SampleRateChosen (caps peer : SbcCie) (state : SbcCodec × UInt8) : Prop :=
  state.1.codecConfig.sampleRate ≠ btavA2dpCodecSampleRateNone →
    state.2 ∈ [a2dpSbcIeSampFreq44, a2dpSbcIeSampFreq48] ∧
      Common caps.sampFreq peer.sampFreq state.2

variable {caps peer : SbcCie} {codec : SbcCodec} {chosen : UInt8}

theorem sampleRateUserPreference_chosen (before : SampleRateChosen caps peer (codec, chosen)) :
    SampleRateChosen caps peer
      (sampleRateUserPreference (caps.sampFreq &&& peer.sampFreq) codec chosen) := by
  unfold sampleRateUserPreference
  dsimp only
  split_ifs with is44 has44 is48 has48 unsupported
  · exact fun _ => ⟨by simp, common_of_and_ne_zero has44⟩
  · exact before
  · exact fun _ => ⟨by simp, common_of_and_ne_zero has48⟩
  · exact before
  · exact fun named => absurd rfl named
  · exact before

theorem sampleRateNoPreference_chosen
    (covers : a2dpSbcDefaultConfig.sampFreq &&& caps.sampFreq = a2dpSbcDefaultConfig.sampFreq)
    (before : SampleRateChosen caps peer (codec, chosen)) :
    SampleRateChosen caps peer (sampleRateNoPreference (caps.sampFreq &&& peer.sampFreq)
      (a2dpSbcDefaultConfig.sampFreq &&& peer.sampFreq) codec chosen) := by
  unfold sampleRateNoPreference
  dsimp only
  split
  · exact before
  · next unnamed =>
    -- the audio configuration, the default configuration, then the best match
    split
    · next bit rate audio =>
      obtain ⟨member, hit, -⟩ := selectAudioSampleRate_some audio
      exact fun _ => ⟨member, common_of_and_ne_zero hit⟩
    · split
      · next bit rate default =>
        obtain ⟨member, hit, -⟩ := selectBestSampleRate_some default
        obtain ⟨inDefault, inPeer⟩ := and_ne_zero_of_and_and hit
        exact fun _ => ⟨member, and_ne_zero_of_covers inDefault covers, inPeer⟩
      · split
        · next bit rate best =>
          obtain ⟨member, hit, -⟩ := selectBestSampleRate_some best
          exact fun _ => ⟨member, common_of_and_ne_zero hit⟩
        · exact fun named => absurd (not_not.1 unnamed) named

/-- The sample frequency chosen is `44.1` or `48` kHz, and both sides support it. -/
theorem setCodecConfigSampleRate_ok {codec' : SbcCodec} {bit : UInt8}
    (covers : a2dpSbcDefaultConfig.sampFreq &&& caps.sampFreq = a2dpSbcDefaultConfig.sampFreq)
    (chose : setCodecConfigSampleRate caps peer codec = .ok (codec', bit)) :
    bit ∈ [a2dpSbcIeSampFreq44, a2dpSbcIeSampFreq48] ∧ Common caps.sampFreq peer.sampFreq bit := by
  have decided : ∀ state : SbcCodec × UInt8, SampleRateChosen caps peer state →
      (if state.1.codecConfig.sampleRate = btavA2dpCodecSampleRateNone then .error .fail
        else .ok state) = (Except.ok (codec', bit) : Except Jump (SbcCodec × UInt8)) →
      bit ∈ [a2dpSbcIeSampFreq44, a2dpSbcIeSampFreq48] ∧
        Common caps.sampFreq peer.sampFreq bit := by
    rintro ⟨codec, chosen⟩ holds ran
    split at ran
    · cases ran
    · next named =>
      cases ran
      exact holds named
  have initial : SampleRateChosen caps peer
      ({ codec with codecConfig.sampleRate := btavA2dpCodecSampleRateNone }, 0) :=
    fun named => absurd rfl named
  exact decided _
    (sampleRateNoPreference_chosen covers (sampleRateUserPreference_chosen initial)) chose

end SampleRate

section ChannelMode

theorem selectBestChannelMode_some {chMode bit : UInt8} {mode : UInt32}
    (selected : selectBestChannelMode chMode = some (bit, mode)) :
    bit ∈ chModeBits ∧ chMode &&& bit ≠ 0 ∧ mode ≠ btavA2dpCodecChannelModeNone := by
  unfold selectBestChannelMode at selected
  split_ifs at selected with joint stereo dual mono <;> cases selected
  · exact ⟨by simp [chModeBits], joint, by decide⟩
  · exact ⟨by simp [chModeBits], stereo, by decide⟩
  · exact ⟨by simp [chModeBits], dual, by decide⟩
  · exact ⟨by simp [chModeBits], mono, by decide⟩

theorem selectAudioChannelMode_some {codecAudioConfig : CodecConfig} {chMode bit : UInt8}
    {mode : UInt32} (selected : selectAudioChannelMode codecAudioConfig chMode = some (bit, mode)) :
    bit ∈ chModeBits ∧ chMode &&& bit ≠ 0 ∧ mode ≠ btavA2dpCodecChannelModeNone := by
  unfold selectAudioChannelMode at selected
  split_ifs at selected with isMono mono isStereo joint stereo dual <;> cases selected
  · exact ⟨by simp [chModeBits], mono, by decide⟩
  · exact ⟨by simp [chModeBits], joint, by decide⟩
  · exact ⟨by simp [chModeBits], stereo, by decide⟩
  · exact ⟨by simp [chModeBits], dual, by decide⟩

/-- Once `codec_config_` has a channel mode, the `ch_mode` chosen is a bit both sides have. -/
def ChannelModeChosen (caps peer : SbcCie) (state : SbcCodec × UInt8) : Prop :=
  state.1.codecConfig.channelMode ≠ btavA2dpCodecChannelModeNone →
    state.2 ∈ chModeBits ∧ Common caps.chMode peer.chMode state.2

variable {caps peer : SbcCie} {codec : SbcCodec} {chosen : UInt8}

theorem channelModeUserPreference_chosen (before : ChannelModeChosen caps peer (codec, chosen)) :
    ChannelModeChosen caps peer
      (channelModeUserPreference (caps.chMode &&& peer.chMode) codec chosen) := by
  unfold channelModeUserPreference
  dsimp only
  split_ifs with isMono mono isStereo joint stereo dual isNone
  · exact fun _ => ⟨by simp [chModeBits], common_of_and_ne_zero mono⟩
  · exact before
  · exact fun _ => ⟨by simp [chModeBits], common_of_and_ne_zero joint⟩
  · exact fun _ => ⟨by simp [chModeBits], common_of_and_ne_zero stereo⟩
  · exact fun _ => ⟨by simp [chModeBits], common_of_and_ne_zero dual⟩
  · exact before
  · exact fun named => absurd rfl named
  · exact before

theorem channelModeNoPreference_chosen
    (covers : a2dpSbcDefaultConfig.chMode &&& caps.chMode = a2dpSbcDefaultConfig.chMode)
    (before : ChannelModeChosen caps peer (codec, chosen)) :
    ChannelModeChosen caps peer (channelModeNoPreference (caps.chMode &&& peer.chMode)
      (a2dpSbcDefaultConfig.chMode &&& peer.chMode) codec chosen) := by
  unfold channelModeNoPreference
  dsimp only
  split
  · exact before
  · next unnamed =>
    -- the audio configuration, the default configuration, then the best match
    split
    · next bit mode audio =>
      obtain ⟨member, hit, -⟩ := selectAudioChannelMode_some audio
      exact fun _ => ⟨member, common_of_and_ne_zero hit⟩
    · split
      · next bit mode default =>
        obtain ⟨member, hit, -⟩ := selectBestChannelMode_some default
        obtain ⟨inDefault, inPeer⟩ := and_ne_zero_of_and_and hit
        exact fun _ => ⟨member, and_ne_zero_of_covers inDefault covers, inPeer⟩
      · split
        · next bit mode best =>
          obtain ⟨member, hit, -⟩ := selectBestChannelMode_some best
          exact fun _ => ⟨member, common_of_and_ne_zero hit⟩
        · exact fun named => absurd (not_not.1 unnamed) named

/-- The channel mode chosen is one bit, and both sides support it. -/
theorem setCodecConfigChannelMode_ok {codec' : SbcCodec} {bit : UInt8}
    (covers : a2dpSbcDefaultConfig.chMode &&& caps.chMode = a2dpSbcDefaultConfig.chMode)
    (chose : setCodecConfigChannelMode caps peer codec = .ok (codec', bit)) :
    bit ∈ chModeBits ∧ Common caps.chMode peer.chMode bit := by
  have decided : ∀ state : SbcCodec × UInt8, ChannelModeChosen caps peer state →
      (if state.1.codecConfig.channelMode = btavA2dpCodecChannelModeNone then .error .fail
        else .ok state) = (Except.ok (codec', bit) : Except Jump (SbcCodec × UInt8)) →
      bit ∈ chModeBits ∧ Common caps.chMode peer.chMode bit := by
    rintro ⟨codec, chosen⟩ holds ran
    split at ran
    · cases ran
    · next named =>
      cases ran
      exact holds named
  have initial : ChannelModeChosen caps peer
      ({ codec with codecConfig.channelMode := btavA2dpCodecChannelModeNone }, 0) :=
    fun named => absurd rfl named
  exact decided _
    (channelModeNoPreference_chosen covers (channelModeUserPreference_chosen initial)) chose

end ChannelMode

/-- The first bit of the list set in the field is chosen. -/
theorem selectFirstBit_ok {bits : List UInt8} {field bit : UInt8}
    (chose : selectFirstBit bits field = .ok bit) : bit ∈ bits ∧ field &&& bit ≠ 0 := by
  unfold selectFirstBit at chose
  split at chose
  · next found =>
    cases chose
    exact ⟨List.mem_of_find?_eq_some found, by simpa using List.find?_some found⟩
  · cases chose

section Element

/-- What `A2DP_ParseInfoSbc` guarantees of an element it accepts, and what `A2DP_BuildInfoSbc`
asks: each field inside its mask, and a bitpool range within the limits. -/
structure SbcCie.WellFormed (ie : SbcCie) : Prop where
  sampFreq : ie.sampFreq &&& ~~~a2dpSbcIeSampFreqMsk = 0
  chMode : ie.chMode &&& ~~~a2dpSbcIeChMdMsk = 0
  blockLen : ie.blockLen &&& ~~~a2dpSbcIeBlocksMsk = 0
  numSubbands : ie.numSubbands &&& ~~~a2dpSbcIeSubbandMsk = 0
  allocMethod : ie.allocMethod &&& ~~~a2dpSbcIeAllocMdMsk = 0
  minBitpool : a2dpSbcIeMinBitpool ≤ ie.minBitpool
  ordered : ie.minBitpool ≤ ie.maxBitpool
  maxBitpool : ie.maxBitpool ≤ a2dpSbcIeMaxBitpool

/-- A configuration: one bit in each field, and a bitpool range the parser accepts. -/
structure SbcCie.Configuration (ie : SbcCie) : Prop where
  sampFreq : ie.sampFreq ∈ sampFreqBits
  chMode : ie.chMode ∈ chModeBits
  blockLen : ie.blockLen ∈ blockLenBits
  numSubbands : ie.numSubbands ∈ numSubbandsBits
  allocMethod : ie.allocMethod ∈ allocMethodBits
  minBitpool : a2dpSbcIeMinBitpool ≤ ie.minBitpool
  ordered : ie.minBitpool ≤ ie.maxBitpool
  maxBitpool : ie.maxBitpool ≤ a2dpSbcIeMaxBitpool

@[simp] theorem getElem_writeOctets {n : Nat} (buffer : Vector UInt8 n) (octets : List UInt8)
    (i : Nat) (inside : i < n) :
    (writeOctets buffer octets)[i] = octets.getD i buffer[i] := by
  simp [writeOctets]

theorem and_mask_outside (value mask : UInt8) : (value &&& mask) &&& ~~~mask = 0 := by
  rw [UInt8.and_assoc, UInt8.and_not_self, UInt8.and_zero]

/-- An element the parser accepts is well formed. -/
theorem a2dpParseInfoSbc_wellFormed {codecInfo : Vector UInt8 avdtCodecSize}
    {isCapability : Bool} {ie : SbcCie} (parsed : a2dpParseInfoSbc codecInfo isCapability = .ok ie) :
    ie.WellFormed := by
  unfold a2dpParseInfoSbc at parsed
  split at parsed
  · cases parsed
  split at parsed
  · cases parsed
  dsimp only at parsed
  split at parsed
  · cases parsed
  next minRange =>
  split at parsed
  · cases parsed
  next maxRange =>
  split at parsed
  · cases parsed
  cases parsed
  simp only [not_or, gt_iff_lt, UInt8.not_lt] at minRange maxRange
  exact ⟨and_mask_outside _ _, and_mask_outside _ _, and_mask_outside _ _,
    and_mask_outside _ _, and_mask_outside _ _, minRange.1, maxRange.2.2, maxRange.2.1⟩

/-- A well-formed element is written from its LOSC octet on. -/
theorem a2dpBuildInfoSbc_ok {ie : SbcCie} (wellFormed : ie.WellFormed) (mediaType : UInt8)
    (buffer : Vector UInt8 avdtCodecSize) :
    a2dpBuildInfoSbc mediaType ie buffer =
      .ok (writeOctets buffer [a2dpSbcInfoLen, mediaType <<< 4, a2dpMediaCtSbc,
        ie.sampFreq ||| ie.chMode, ie.blockLen ||| ie.numSubbands ||| ie.allocMethod,
        ie.minBitpool, ie.maxBitpool]) := by
  have low := wellFormed.minBitpool
  have ordered := wellFormed.ordered
  have high := wellFormed.maxBitpool
  unfold a2dpBuildInfoSbc
  rw [if_neg]
  simp only [wellFormed.sampFreq, wellFormed.chMode, wellFormed.blockLen, wellFormed.numSubbands,
    wellFormed.allocMethod, ne_eq, not_true_eq_false, false_or, not_or, gt_iff_lt, UInt8.not_lt]
  exact ⟨ordered, low, UInt8.le_trans ordered high, UInt8.le_trans low ordered, high⟩

theorem octet3_fields : ∀ sampFreq ∈ sampFreqBits, ∀ chMode ∈ chModeBits,
    (sampFreq ||| chMode) &&& a2dpSbcIeSampFreqMsk = sampFreq ∧
      (sampFreq ||| chMode) &&& a2dpSbcIeChMdMsk = chMode := by
  decide +kernel

theorem octet4_fields : ∀ blockLen ∈ blockLenBits, ∀ numSubbands ∈ numSubbandsBits,
    ∀ allocMethod ∈ allocMethodBits,
      (blockLen ||| numSubbands ||| allocMethod) &&& a2dpSbcIeBlocksMsk = blockLen ∧
      (blockLen ||| numSubbands ||| allocMethod) &&& a2dpSbcIeSubbandMsk = numSubbands ∧
      (blockLen ||| numSubbands ||| allocMethod) &&& a2dpSbcIeAllocMdMsk = allocMethod := by
  decide +kernel

/-- Every bit of the lists of single bits is one bit for `A2DP_BitsSet`. -/
theorem a2dpBitsSet_of_mem {bit : UInt8}
    (member : bit ∈ sampFreqBits ∨ bit ∈ chModeBits ∨ bit ∈ blockLenBits ∨
      bit ∈ numSubbandsBits ∨ bit ∈ allocMethodBits) :
    a2dpBitsSet bit.toUInt64 = a2dpSetOneBit := by
  have single : ∀ bit ∈ sampFreqBits ++ chModeBits ++ blockLenBits ++ numSubbandsBits ++
      allocMethodBits, a2dpBitsSet bit.toUInt64 = a2dpSetOneBit := by decide +kernel
  apply single
  simpa only [List.mem_append, or_assoc] using member

/-- A configuration written by `A2DP_BuildInfoSbc` parses back as that configuration. -/
theorem a2dpParseInfoSbc_build {ie : SbcCie} (configuration : ie.Configuration)
    (buffer : Vector UInt8 avdtCodecSize) :
    a2dpParseInfoSbc (writeOctets buffer [a2dpSbcInfoLen, avdtMediaTypeAudio <<< 4,
      a2dpMediaCtSbc, ie.sampFreq ||| ie.chMode, ie.blockLen ||| ie.numSubbands ||| ie.allocMethod,
      ie.minBitpool, ie.maxBitpool]) false = .ok ie := by
  obtain ⟨samp, ch, block, sub, alloc, low, ordered, high⟩ := configuration
  obtain ⟨sampField, chField⟩ := octet3_fields _ samp _ ch
  obtain ⟨blockField, subField, allocField⟩ := octet4_fields _ block _ sub _ alloc
  have single : a2dpParseInfoSbcBits ie false = none := by
    simp [a2dpParseInfoSbcBits, a2dpBitsSet_of_mem (.inl samp),
      a2dpBitsSet_of_mem (.inr (.inl ch)), a2dpBitsSet_of_mem (.inr (.inr (.inl block))),
      a2dpBitsSet_of_mem (.inr (.inr (.inr (.inl sub)))),
      a2dpBitsSet_of_mem (.inr (.inr (.inr (.inr alloc))))]
  unfold a2dpParseInfoSbc
  simp only [getElem_writeOctets, List.getD_cons_zero, List.getD_cons_succ, sampField, chField,
    blockField, subField, allocField]
  rw [if_neg (by decide), if_neg (by decide), if_neg, if_neg, single]
  · simp only [not_or, gt_iff_lt, UInt8.not_lt]
    exact ⟨UInt8.le_trans low ordered, high, ordered⟩
  · simp only [not_or, gt_iff_lt, UInt8.not_lt]
    exact ⟨low, UInt8.le_trans ordered high⟩

/-- The bit checks that a configuration passes: one bit in each field. -/
theorem a2dpParseInfoSbcBits_config {ie : SbcCie} (single : a2dpParseInfoSbcBits ie false = none) :
    a2dpBitsSet ie.sampFreq.toUInt64 = a2dpSetOneBit ∧
      a2dpBitsSet ie.chMode.toUInt64 = a2dpSetOneBit ∧
      a2dpBitsSet ie.blockLen.toUInt64 = a2dpSetOneBit ∧
      a2dpBitsSet ie.numSubbands.toUInt64 = a2dpSetOneBit ∧
      a2dpBitsSet ie.allocMethod.toUInt64 = a2dpSetOneBit := by
  unfold a2dpParseInfoSbcBits at single
  simp only [Bool.false_eq_true, if_false] at single
  split_ifs at single with samp ch block sub alloc
  simp only [not_not] at samp ch block sub alloc
  exact ⟨samp, ch, block, sub, alloc⟩

/-- The bit checks that a configuration passes, a capability passes too. -/
theorem a2dpParseInfoSbcBits_capability {ie : SbcCie}
    (single : a2dpParseInfoSbcBits ie false = none) : a2dpParseInfoSbcBits ie true = none := by
  have one_ne_zero : a2dpSetOneBit ≠ a2dpSetZeroBit := by decide
  obtain ⟨samp, ch, block, sub, alloc⟩ := a2dpParseInfoSbcBits_config single
  simp [a2dpParseInfoSbcBits, samp, ch, block, sub, alloc, one_ne_zero]

/-- A masked octet that `A2DP_BitsSet` counts as one bit is one of the field's single bits, where
this holds for each of the 256 octets. -/
theorem mem_of_a2dpBitsSet {mask : UInt8} {bits : List UInt8}
    (decided : ∀ n < 256, a2dpBitsSet (n.toUInt8 &&& mask).toUInt64 = a2dpSetOneBit →
      n.toUInt8 &&& mask ∈ bits)
    (octet : UInt8) (one : a2dpBitsSet (octet &&& mask).toUInt64 = a2dpSetOneBit) :
    octet &&& mask ∈ bits := by
  rw [← UInt8.ofNat_toNat (x := octet)] at one ⊢
  exact decided _ octet.toNat_lt one

/-- A configuration that parses has exactly one bit in each field. -/
theorem a2dpParseInfoSbc_configuration {codecInfo : Vector UInt8 avdtCodecSize} {ie : SbcCie}
    (parsed : a2dpParseInfoSbc codecInfo false = .ok ie) : ie.Configuration := by
  have wellFormed := a2dpParseInfoSbc_wellFormed parsed
  unfold a2dpParseInfoSbc at parsed
  split at parsed
  · cases parsed
  split at parsed
  · cases parsed
  dsimp only at parsed
  split at parsed
  · cases parsed
  split at parsed
  · cases parsed
  split at parsed
  · cases parsed
  next single =>
  cases parsed
  obtain ⟨samp, ch, block, sub, alloc⟩ := a2dpParseInfoSbcBits_config single
  exact ⟨mem_of_a2dpBitsSet (by decide +kernel) _ samp, mem_of_a2dpBitsSet (by decide +kernel) _ ch,
    mem_of_a2dpBitsSet (by decide +kernel) _ block, mem_of_a2dpBitsSet (by decide +kernel) _ sub,
    mem_of_a2dpBitsSet (by decide +kernel) _ alloc, wellFormed.minBitpool, wellFormed.ordered,
    wellFormed.maxBitpool⟩

/-- Where a configuration parses, it parses as a capability too. -/
theorem a2dpParseInfoSbc_capability_of_config {codecInfo : Vector UInt8 avdtCodecSize}
    {ie : SbcCie} (parsed : a2dpParseInfoSbc codecInfo false = .ok ie) :
    a2dpParseInfoSbc codecInfo true = .ok ie := by
  unfold a2dpParseInfoSbc at parsed ⊢
  split at parsed
  · cases parsed
  next header =>
  rw [if_neg header]
  split at parsed
  · cases parsed
  next codecType =>
  rw [if_neg codecType]
  dsimp only at parsed ⊢
  split at parsed
  · cases parsed
  next minRange =>
  rw [if_neg minRange]
  split at parsed
  · cases parsed
  next maxRange =>
  rw [if_neg maxRange]
  split at parsed
  · cases parsed
  next single =>
  rw [a2dpParseInfoSbcBits_capability single]
  exact parsed

end Element

section Peer

variable {codec : SbcCodec} {peerCodecInfo : Vector UInt8 avdtCodecSize}

/-- The information negotiated with is the one passed in, or the stored peer configuration. -/
theorem setCodecConfigPeer_ok {isCapability : Bool} {peer : SbcCie}
    (chose : setCodecConfigPeer codec peerCodecInfo isCapability = .ok peer) :
    a2dpParseInfoSbc peerCodecInfo isCapability = .ok peer ∨
      isCapability = true ∧ a2dpParseInfoSbc codec.otaCodecPeerConfig false = .ok peer := by
  unfold setCodecConfigPeer at chose
  split at chose
  · cases chose
  next peerInfoCie parsed =>
  split at chose
  next capability =>
    dsimp only at chose
    split at chose
    · next found status =>
      rw [← Except.ok.inj chose]
      -- the check of the stored configuration, for a source or for a sink
      split at status
      all_goals
        split at status
        · exact .inr ⟨capability, status⟩
        · exact .inl (parsed.trans status)
    · split at chose
      · next reparsed =>
        rw [← Except.ok.inj chose]
        exact .inl reparsed
      · cases chose
  next =>
    rw [← Except.ok.inj chose]
    exact .inl parsed

/-- A configuration passed in is the one negotiated with. -/
theorem setCodecConfigPeer_of_config {peer : SbcCie}
    (parsed : a2dpParseInfoSbc peerCodecInfo false = .ok peer) :
    setCodecConfigPeer codec peerCodecInfo false = .ok peer := by
  simp [setCodecConfigPeer, parsed]

/-- With a capability passed in, a stored peer configuration that parses takes its place. -/
theorem setCodecConfigPeer_of_stored {capability stored : SbcCie}
    (parsed : a2dpParseInfoSbc peerCodecInfo true = .ok capability)
    (storedConfig : a2dpParseInfoSbc codec.otaCodecPeerConfig false = .ok stored) :
    setCodecConfigPeer codec peerCodecInfo true = .ok stored := by
  simp [setCodecConfigPeer, parsed, storedConfig, a2dpIsPeerSinkCodecValidSbc,
    a2dpIsPeerSourceCodecValidSbc, a2dpParsesLiberally, Except.toBool]

end Peer

/-- The bitpool range chosen is the overlap of the two ranges. -/
theorem setCodecConfigBitpool_ok {caps peer : SbcCie} {minBitpool maxBitpool : UInt8}
    (chose : setCodecConfigBitpool caps peer = .ok (minBitpool, maxBitpool)) :
    caps.minBitpool ≤ minBitpool ∧ peer.minBitpool ≤ minBitpool ∧ minBitpool ≤ maxBitpool ∧
      maxBitpool ≤ caps.maxBitpool ∧ maxBitpool ≤ peer.maxBitpool := by
  unfold setCodecConfigBitpool at chose
  dsimp only at chose
  generalize low : (if caps.minBitpool < peer.minBitpool then peer.minBitpool
    else caps.minBitpool) = chosenMin at chose
  generalize high : (if caps.maxBitpool > peer.maxBitpool then peer.maxBitpool
    else caps.maxBitpool) = chosenMax at chose
  split at chose
  · cases chose
  next overlap =>
  cases chose
  split_ifs at low high <;> subst low high <;>
    simp only [UInt8.le_iff_toNat_le, UInt8.lt_iff_toNat_lt, gt_iff_lt, not_lt] at * <;> omega

/-- Every bit of `ie` is set in `bound`, and the bitpool range of `ie` lies in that of `bound`. -/
structure SbcCie.Within (ie bound : SbcCie) : Prop where
  sampFreq : ie.sampFreq &&& bound.sampFreq ≠ 0
  chMode : ie.chMode &&& bound.chMode ≠ 0
  blockLen : ie.blockLen &&& bound.blockLen ≠ 0
  numSubbands : ie.numSubbands &&& bound.numSubbands ≠ 0
  allocMethod : ie.allocMethod &&& bound.allocMethod ≠ 0
  minBitpool : bound.minBitpool ≤ ie.minBitpool
  maxBitpool : ie.maxBitpool ≤ bound.maxBitpool

/-- The default configuration's sampling frequency and channel mode are local capabilities, and
the local bitpool range lies within the limits. -/
theorem a2dpSbcCaps_facts (isSource : Bool) :
    a2dpSbcDefaultConfig.sampFreq &&& (a2dpSbcCaps isSource).sampFreq =
        a2dpSbcDefaultConfig.sampFreq ∧
      a2dpSbcDefaultConfig.chMode &&& (a2dpSbcCaps isSource).chMode =
        a2dpSbcDefaultConfig.chMode ∧
      (a2dpSbcCaps isSource).minBitpool = a2dpSbcIeMinBitpool ∧
      (a2dpSbcCaps isSource).maxBitpool ≤ a2dpSbcIeMaxBitpool := by
  cases isSource <;> decide

/-- A configuration is well formed. -/
theorem SbcCie.Configuration.wellFormed {ie : SbcCie} (configuration : ie.Configuration) :
    ie.WellFormed := by
  have outside : ∀ bit ∈ sampFreqBits, bit &&& ~~~a2dpSbcIeSampFreqMsk = 0 := by decide +kernel
  have outsideCh : ∀ bit ∈ chModeBits, bit &&& ~~~a2dpSbcIeChMdMsk = 0 := by decide +kernel
  have outsideBlock : ∀ bit ∈ blockLenBits, bit &&& ~~~a2dpSbcIeBlocksMsk = 0 := by decide +kernel
  have outsideSub : ∀ bit ∈ numSubbandsBits, bit &&& ~~~a2dpSbcIeSubbandMsk = 0 := by decide +kernel
  have outsideAlloc : ∀ bit ∈ allocMethodBits, bit &&& ~~~a2dpSbcIeAllocMdMsk = 0 := by decide +kernel
  exact ⟨outside _ configuration.sampFreq, outsideCh _ configuration.chMode,
    outsideBlock _ configuration.blockLen, outsideSub _ configuration.numSubbands,
    outsideAlloc _ configuration.allocMethod, configuration.minBitpool, configuration.ordered,
    configuration.maxBitpool⟩

/-- What a run of `setCodecConfig` up to `return true` chose: a configuration within the local
capabilities and within the information negotiated with, written to `p_result_codec_config`. -/
theorem setCodecConfigBody_result {codec codec' : SbcCodec}
    {peerCodecInfo resultCodecConfig written : Vector UInt8 avdtCodecSize} {isCapability : Bool}
    (ran : setCodecConfigBody codec peerCodecInfo isCapability resultCodecConfig =
      .ok (codec', written)) :
    ∃ (peer result : SbcCie), setCodecConfigPeer codec peerCodecInfo isCapability = .ok peer ∧
      result.Configuration ∧ result.Within (a2dpSbcCaps codec.isSource) ∧ result.Within peer ∧
      written = writeOctets resultCodecConfig [a2dpSbcInfoLen, avdtMediaTypeAudio <<< 4,
        a2dpMediaCtSbc, result.sampFreq ||| result.chMode,
        result.blockLen ||| result.numSubbands ||| result.allocMethod, result.minBitpool,
        result.maxBitpool] := by
  obtain ⟨sampCovers, chCovers, capsMin, capsMax⟩ := a2dpSbcCaps_facts codec.isSource
  unfold setCodecConfigBody at ran
  dsimp only at ran
  obtain ⟨peer, peerOk, ran⟩ := bind_eq_ok.1 ran
  obtain ⟨⟨codec1, sampFreq⟩, sampleOk, ran⟩ := bind_eq_ok.1 ran
  obtain ⟨codec2, -, ran⟩ := bind_eq_ok.1 ran
  obtain ⟨⟨codec3, chMode⟩, channelOk, ran⟩ := bind_eq_ok.1 ran
  obtain ⟨blockLen, blockOk, ran⟩ := bind_eq_ok.1 ran
  obtain ⟨numSubbands, subOk, ran⟩ := bind_eq_ok.1 ran
  obtain ⟨allocMethod, allocOk, ran⟩ := bind_eq_ok.1 ran
  obtain ⟨⟨minBitpool, maxBitpool⟩, bitpoolOk, ran⟩ := bind_eq_ok.1 ran
  obtain ⟨sampBit, sampCaps, sampPeer⟩ := setCodecConfigSampleRate_ok sampCovers sampleOk
  obtain ⟨chBit, chCaps, chPeer⟩ := setCodecConfigChannelMode_ok chCovers channelOk
  obtain ⟨blockBit, blockHit⟩ := selectFirstBit_ok blockOk
  obtain ⟨subBit, subHit⟩ := selectFirstBit_ok subOk
  obtain ⟨allocBit, allocHit⟩ := selectFirstBit_ok allocOk
  obtain ⟨capsLow, peerLow, ordered, capsHigh, peerHigh⟩ := setCodecConfigBitpool_ok bitpoolOk
  have configuration : SbcCie.Configuration
      ⟨sampFreq, chMode, blockLen, numSubbands, allocMethod, minBitpool, maxBitpool⟩ := by
    refine ⟨?_, chBit, blockBit, subBit, allocBit, capsMin ▸ capsLow, ordered,
      UInt8.le_trans capsHigh capsMax⟩
    simp only [List.mem_cons, List.not_mem_nil, or_false] at sampBit
    rcases sampBit with rfl | rfl <;> simp [sampFreqBits]
  have blockCommon := and_ne_zero_of_and_and blockHit
  have subCommon := and_ne_zero_of_and_and subHit
  have allocCommon := and_ne_zero_of_and_and allocHit
  refine ⟨peer, _, peerOk, configuration,
    ⟨sampCaps, chCaps, blockCommon.1, subCommon.1, allocCommon.1, capsLow, capsHigh⟩,
    ⟨sampPeer, chPeer, blockCommon.2, subCommon.2, allocCommon.2, peerLow, peerHigh⟩, ?_⟩
  rw [a2dpBuildInfoSbc_ok configuration.wellFormed] at ran
  dsimp only at ran
  obtain ⟨built, builtOk, ran⟩ := bind_eq_ok.1 ran
  obtain rfl := Except.ok.inj builtOk
  -- either branch copies the peer's information and the result to the local state only
  split at ran
  all_goals
    obtain ⟨peerCopy, -, ran⟩ := bind_eq_ok.1 ran
    obtain ⟨codec4, -, ran⟩ := bind_eq_ok.1 ran
    obtain ⟨resultCopy, -, ran⟩ := bind_eq_ok.1 ran
    obtain ⟨-, rfl⟩ := Prod.mk.inj (Except.ok.inj ran)
    rfl

/-- When `setCodecConfig` returns true, `p_result_codec_config` parses as a configuration within
the local capabilities and within the peer information negotiated with, which is the information
passed in or the stored peer configuration. -/
theorem setCodecConfig_sound {codec codec' : SbcCodec}
    {peerCodecInfo resultCodecConfig written : Vector UInt8 avdtCodecSize} {isCapability : Bool}
    (returned : setCodecConfig codec peerCodecInfo isCapability resultCodecConfig =
      some (true, codec', written)) :
    ∃ (peer result : SbcCie), setCodecConfigPeer codec peerCodecInfo isCapability = .ok peer ∧
      a2dpParseInfoSbc written false = .ok result ∧ result.Within (a2dpSbcCaps codec.isSource) ∧
      result.Within peer := by
  unfold setCodecConfig at returned
  split at returned
  next ran =>
    obtain ⟨-, -, rfl⟩ := Prod.mk.inj (Option.some.inj returned)
    obtain ⟨peer, result, peerOk, configuration, withinCaps, withinPeer, rfl⟩ :=
      setCodecConfigBody_result ran
    exact ⟨peer, result, peerOk, a2dpParseInfoSbc_build configuration _, withinCaps, withinPeer⟩
  all_goals cases returned

/-- When `setCodecConfig` returns false, the state and `p_result_codec_config` are as before. -/
theorem setCodecConfig_restores {codec codec' : SbcCodec}
    {peerCodecInfo resultCodecConfig written : Vector UInt8 avdtCodecSize} {isCapability : Bool}
    (returned : setCodecConfig codec peerCodecInfo isCapability resultCodecConfig =
      some (false, codec', written)) :
    codec' = codec ∧ written = resultCodecConfig := by
  unfold setCodecConfig at returned
  split at returned <;> cases returned
  exact ⟨rfl, rfl⟩

/-- With a capability passed in, a stored peer configuration that parses decides the outcome:
the call is the one made with that configuration in place of the capability. -/
theorem setCodecConfig_capability_replaced_by_stored (codec : SbcCodec)
    (peerCodecInfo resultCodecConfig : Vector UInt8 avdtCodecSize) (capability stored : SbcCie)
    (parsed : a2dpParseInfoSbc peerCodecInfo true = .ok capability)
    (storedConfig : a2dpParseInfoSbc codec.otaCodecPeerConfig false = .ok stored) :
    setCodecConfig codec peerCodecInfo true resultCodecConfig =
      setCodecConfig codec codec.otaCodecPeerConfig true resultCodecConfig := by
  unfold setCodecConfig setCodecConfigBody
  rw [setCodecConfigPeer_of_stored parsed storedConfig,
    setCodecConfigPeer_of_stored (a2dpParseInfoSbc_capability_of_config storedConfig) storedConfig]

/-- `setCodecConfig` negotiates soundly and atomically.  Returning true, `p_result_codec_config`
parses as a configuration within the local capabilities and within the peer information it
settled on: the information passed in or, with a capability, the stored peer configuration.
Returning false, the state and `p_result_codec_config` are as before. -/
theorem setCodecConfig_sound_and_atomic (codec : SbcCodec)
    (peerCodecInfo resultCodecConfig : Vector UInt8 avdtCodecSize) (isCapability : Bool) :
    (∀ codec' written,
      setCodecConfig codec peerCodecInfo isCapability resultCodecConfig =
        some (true, codec', written) →
      ∃ (peer result : SbcCie),
        (a2dpParseInfoSbc peerCodecInfo isCapability = .ok peer ∨
          isCapability = true ∧ a2dpParseInfoSbc codec.otaCodecPeerConfig false = .ok peer) ∧
        a2dpParseInfoSbc written false = .ok result ∧ result.Configuration ∧
        result.Within (a2dpSbcCaps codec.isSource) ∧ result.Within peer) ∧
    (∀ codec' written,
      setCodecConfig codec peerCodecInfo isCapability resultCodecConfig =
        some (false, codec', written) →
      codec' = codec ∧ written = resultCodecConfig) := by
  refine ⟨fun codec' written returned => ?_, fun codec' written => setCodecConfig_restores⟩
  obtain ⟨peer, result, peerOk, parsed, withinCaps, withinPeer⟩ := setCodecConfig_sound returned
  exact ⟨peer, result, setCodecConfigPeer_ok peerOk, parsed,
    a2dpParseInfoSbc_configuration parsed, withinCaps, withinPeer⟩

/-- A source holding a stored configuration of 44.1 kHz joint stereo, offered a capability of
48 kHz mono only, returns true with 44.1 kHz joint stereo: bits the capability lacks. -/
theorem setCodecConfig_outside_capability_at_mono :
    a2dpParseInfoSbc (writeOctets (Vector.replicate avdtCodecSize 0) [6, 0, 0, 0x18, 0x15, 2, 53])
        true = .ok ⟨0x10, 0x08, 0x10, 0x04, 0x01, 2, 53⟩ ∧
      (setCodecConfig ⟨true, ⟨0, 0, 0, 0, 0, 0, 0⟩, ⟨0, 0, 0, 0, 0, 0, 0⟩,
          ⟨0, 0, 0, 0, 0, 0, 0⟩, ⟨0, 0, 0, 0, 0, 0, 0⟩, ⟨0, 0, 0, 0, 0, 0, 0⟩,
          Vector.replicate avdtCodecSize 0, Vector.replicate avdtCodecSize 0,
          writeOctets (Vector.replicate avdtCodecSize 0) [6, 0, 0, 0x21, 0x15, 2, 53]⟩
          (writeOctets (Vector.replicate avdtCodecSize 0) [6, 0, 0, 0x18, 0x15, 2, 53]) true
          (Vector.replicate avdtCodecSize 0)).map
          (fun returned => (returned.1, a2dpParseInfoSbc returned.2.2 false)) =
        some (true, .ok ⟨0x20, 0x01, 0x10, 0x04, 0x01, 2, 53⟩) := by
  decide

end Bluetooth.A2dp
