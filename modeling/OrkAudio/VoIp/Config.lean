import OrkAudio.StdString

/-! Addresses and the configuration that the VoIP sessions read.

A configuration is fixed for a run. Its default values are those of `VoIpConfig::Reset`,
`AcpConfig::Reset` and the recorder's own configuration. -/

namespace OrkAudio.VoIp

/-! ### Addresses -/

def matchesStringList (string : String) (stringList : List String) : Bool :=
  string != "" && stringList.any fun element => equalsNoCase element string

def hexDigit (n : Nat) : String := String.singleton (Nat.digitChar n)

/-- `MemMacToHumanReadable`, which appends to what `output` holds. -/
def memMacToHumanReadable (macAddress : List UInt8) (output : String) : String :=
  macAddress.foldl
    (fun out byte =>
      (if out = "" then out else out ++ ":") ++
        hexDigit (byte.toNat / 16) ++ hexDigit (byte.toNat % 16)) output


/-- `in_addr.s_addr`: the first byte of the address is the low one. -/
abbrev InAddr := UInt32

/-- `inet_ntopV4`. -/
def inetNtopV4 (ip : InAddr) : String :=
  let octet (shift : Nat) := toString (ip.toNat / 2 ^ shift % 256)
  octet 0 ++ "." ++ octet 8 ++ "." ++ octet 16 ++ "." ++ octet 24

def ntohl (ip : InAddr) : Nat :=
  let octet (shift : Nat) := ip.toNat / 2 ^ shift % 256
  octet 0 * 2 ^ 24 + octet 8 * 2 ^ 16 + octet 16 * 2 ^ 8 + octet 24

/-- One range of `IpRanges`: the upper bits of its addresses and how many bits are free. -/
structure IpRange where
  ipRangePrefix : Nat
  ipRangeBitWidth : Nat
  deriving DecidableEq, Repr

/-- `IpRanges` after `Compute`, which makes one range of each text in `m_asciiIpRanges`. -/
structure IpRanges where
  ipRanges : List IpRange := []
  deriving DecidableEq, Repr

namespace IpRanges

/-- `IpRanges::Matches`. -/
def isMatch (ranges : IpRanges) (ip : InAddr) : Bool :=
  ranges.ipRanges.any fun range => ntohl ip / 2 ^ range.ipRangeBitWidth = range.ipRangePrefix

/-- `IpRanges::Empty`. -/
def isEmpty (ranges : IpRanges) : Bool := ranges.ipRanges.isEmpty

end IpRanges

/-! ### Configuration -/

structure Config where
  -- `CONFIG`
  lookBackRecording : Bool := true
  discardUnidirectionalCalls : Bool := false
  holdResumeReportDuration : Bool := false
  holdResumeReportEvents : Bool := false
  dtmfReportingDetailed : Bool := false
  speexPayloadTypes : List String := []
  -- `AcpConfig`
  onDemandViaDtmfDigitsString : String := ""
  onDemandPauseViaDtmfDigitsString : String := ""
  rtpReportDtmf : Bool := false
  dtmfReportFullStringAsTag : Bool := false
  rtpEventPayloadTypeDefaultValue : Int := 0
  rtpS1S2MappingDeterministic : Bool := false
  rtpS1S2MappingDeterministicS1IsLocal : Bool := true
  mediaGateways : IpRanges := {}
  sessionStartsOnS2ActivityDb : Int := 0
  sipRemotePartyFrom200OKEnable : Bool := false
  -- `VoIpConfig`: addresses
  lanMasks : List UInt32 := [0xFFFFA8C0, 0xFFFFFF0A, 0xFFFF1FAC]
  rtpTrackUsingIpAddresses : List UInt32 := []
  sipIgnoredMediaAddresses : IpRanges := {}
  sipDirectionReferenceIpAddresses : IpRanges := {}
  lanIpRanges : IpRanges := ⟨[⟨10, 24⟩, ⟨0xC0A8, 16⟩, ⟨0xAC100, 12⟩]⟩
  mediaAddressBlockedIpRanges : IpRanges := {}
  mediaAddressAllowedIpRanges : IpRanges := {}
  mediaAddressUseSecondRtpAddress : Bool := false
  -- `VoIpConfig`: RTP
  rtpSessionTimeoutSec : Int := 10
  rtpSessionWithSignallingTimeoutSec : Int := 10
  rtpSessionWithSignallingInitialTimeoutSec : Int := 300
  rtpSessionOnHoldTimeOutSec : Int := 1800
  rtpDiscontinuityDetect : Bool := false
  rtpDiscontinuityMinSeqDelta : Int := 1000
  rtpTrackByUdpPortOnly : Bool := false
  rtpAllowMultipleMappings : Bool := true
  rtpSeqGapThreshold : Int := 500
  rtpMinAmountOfPacketsBeforeStart : Int := 50
  rtpBreakupOnStreamPause : Bool := false
  rtpDtmfOnlyLocal : Bool := false
  trackRawRtpSessionInNonLookBackMode : Bool := false
  inInMode : Bool := false
  sangomaEnable : Bool := false
  sangomaTcpPortDelta : Int := 0
  sangomaTxTcpPortStart : Int := 0
  -- `VoIpConfig`: parties
  useMacIfNoLocalParty : Bool := false
  localPartyForceLocalIp : Bool := false
  localPartyForceLocalMac : Bool := false
  localPartyUseName : Bool := false
  partiesUseName : Bool := false
  localPartyAddLocalIp : Bool := false
  localPartyNameMapEnable : Bool := false
  dahdiIntercept : Bool := false
  holdReportStats : Bool := false
  urlExtractorEnable : Bool := false
  remotePartyUseExtractedKey : String := ""
  -- `VoIpConfig`: SIP
  sipUse200OkMediaAddress : Bool := true
  sipDynamicMediaAddress : Bool := true
  sipNotifySupport : Bool := false
  sipReportNamesAsTags : Bool := false
  sipRequestUriAsLocalParty : Bool := true
  sipInviteCanPutOffHold : Bool := false
  sipCallPickUpSupport : Bool := false
  sipOnDemandFieldName : String := "X-record"
  sipOnDemandFieldValue : String := ""
  sipOnDemandFieldValueOff : String := ""
  sipTrackMediaAddressOnSender : Bool := false
  sipAllowMetadataUpdateOnRtpChange : Bool := false
  sipAllowMediaAddressTransfer : Bool := false
  sipDomains : List String := []
  sipDirectionReferenceUserAgents : List String := []
  sipInfoDtmfRfc2976Detect : Bool := false
  sipMetadataUseLastInvite : Bool := false
  necVoipGatewayNames : List String := ["sipphd", "trk001", "trk002"]
  transferTimeOutInSec : Int := 7200
  -- `VoIpConfig`: Skinny
  skinnyIgnoreStopMediaTransmission : Bool := true
  skinnyIgnoreOpenReceiveChannelAck : Bool := false
  skinnyDynamicMediaAddress : Bool := true
  skinnyAllowCallInfoUpdate : Bool := true
  skinnyAllowLateCallInfo : Bool := false
  skinnyNameAsLocalParty : Bool := false
  skinnyCallInfoStopsPrevious : Bool := false
  skinnyCallInfoStopsPreviousToleranceSec : Int := 3
  skinnyReportTags : List String := []
  skinnyAllowMediaAddressTransfer : Bool := true
  skinnyRtpSearchesForCallInfo : Bool := false
  skinnyTrackConferencesTransfers : Bool := false
  skinnyBehindNat : Bool := false
  skinnyIgnoreHold : Bool := false

namespace Config

variable (cfg : Config)

/-- `AcpConfig::IsMediaGateway`. -/
def isMediaGateway (addr : InAddr) : Bool :=
  !cfg.mediaGateways.isEmpty && cfg.mediaGateways.isMatch addr

def isPartOfLan (addr : InAddr) : Bool := cfg.lanMasks.any fun mask => addr &&& mask = addr

def isRtpTrackingIpAddress (addr : InAddr) : Bool := cfg.rtpTrackUsingIpAddresses.contains addr

end Config

end OrkAudio.VoIp
