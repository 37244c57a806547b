import OrkAudio.VoIp.Messages

/-! One VoIP session: its data, how it starts, reports events and stops.

The functions of a session run on its data together with what all sessions share, the
endpoints and the party maps. They read the keys of the session and do not change them: the
store alone registers and stops a session. What they hand to the two callbacks is never an
`EtStop`. -/

namespace OrkAudio.VoIp

open Lib

inductive Protocol
  | protRawRtp | protSip | protSkinny | protUnkn
  deriving DecidableEq, Repr

structure UrlExtractionValue where
  value : String
  timestamp : Int
  deriving DecidableEq, Repr

structure VoIpEndpointInfo where
  extension : String := ""
  latestCallId : String := ""
  ip : InAddr
  skinnyPort : UInt16
  lastConferencePressed : Int := 0
  lastConnectedWithConference : Int := 0
  origOrkUid : String := ""
  urlExtractionMap : OrderedMap String UrlExtractionValue := .empty
  preInviteNotifyRef : Option SipNotifyInfo := none

/-- What every session reads: the endpoints by `Craft64bitMediaAddress`, the party map of
the sessions and the party names that `ReportMetadata` keeps in a static map. -/
structure Shared where
  endpoints : OrderedMap Nat VoIpEndpointInfo := .empty
  localPartyMap : OrderedMap String String := .empty
  localPartyNameMap : OrderedMap String String := .empty

/-- The fields of a session that its own functions only read. -/
structure SessionKeys where
  trackingId : String
  callId : String := ""
  ipAndPort : Nat := 0
  mediaAddresses : List Nat := []

/-- The fields of a session that its own functions write. -/
structure SessionData where
  -- `OrkSession`
  started : Bool
  capturePort : String
  beginDate : Int
  dtmfDigitString : String
  currentRtpEventTs : UInt32
  telephoneEventPayloadType : Int
  keepRtp : Bool
  onDemand : Bool
  startWhenReceiveS2 : Bool
  nonLookBackSessionStarted : Bool
  lastRtpPacketSide1 : Option RtpPacketInfo
  lastRtpPacketSide2 : Option RtpPacketInfo
  localIp : InAddr
  mappedS1S2 : Bool
  orekaRtpPayloadTypeMap : List UInt8
  -- `VoIpSession`
  rtpIp : InAddr
  invite : Option SipInviteInfo
  creationDate : Int
  lastUpdated : Int
  lastKeepAlive : Int
  protocol : Protocol
  remotePartyNecSip : String
  localParty : String
  remoteParty : String
  localEntryPoint : String
  localPartyName : String
  remotePartyName : String
  localPartyReported : Bool
  remotePartyReported : Bool
  rtcpLocalParty : Bool
  rtcpRemoteParty : Bool
  direction : Direction
  localSide : LocalSide
  numRtpPackets : Nat
  numIgnoredRtpPackets : Nat
  metadataProcessed : Bool
  highestRtpSeqNumDelta : Int
  minRtpSeqDelta : Int
  minRtpTimestampDelta : Int
  rtpNumMissingPkts : Int
  rtpNumSeqGaps : Int
  endPointIp : InAddr
  endPointSignallingPort : UInt16
  skinnyPassThruPartyId : Int
  sipLastInvite : Int
  skinnyLastCallInfoTime : Int
  skinnyLineInstance : Int
  onHold : Bool
  lastRtpStreamStart : Int
  holdDuration : Int
  holdBegin : Int
  sipDialedNumber : String
  sipRemoteParty : String
  isCallPickUp : Bool
  numAlienRtpPacketsS1 : Nat
  numAlienRtpPacketsS2 : Nat
  ssrcCandidate : UInt32
  hasReceivedCallInfo : Bool
  lastRtpPacket : Option RtpPacketInfo
  remoteIp : InAddr
  localMac : List UInt8
  remoteMac : List UInt8
  orkUid : String
  rtpAddressList : List (InAddr × UInt16)
  invites : List SipInviteInfo
  tags : OrderedMap String String
  ssrcCandidateTimestamp : Int
  lastSipInfo : Option SipInfo

/-- `output` holds the calls of the two callbacks, the first one first. -/
structure VoIpSession extends SessionKeys, SessionData where
  stopped : Bool := false
  output : List Output := []

/-- The fields that the constructors of a session leave as the memory was. -/
structure SessionMemory where
  localIp : InAddr := 0
  remoteIp : InAddr := 0
  endPointIp : InAddr := 0
  endPointSignallingPort : UInt16 := 0
  holdBegin : Int := 0
  ssrcCandidateTimestamp : Int := 0

/-- What an operation reads besides the store: the clock in microseconds, a text for a
time of day, whether the decoders find a packet of side 2 louder than the configured
level, and the memory that new objects are made of. -/
structure Env where
  usec : Int
  localTime : Int → String := fun sec => toString sec
  s2Active : RtpPacketInfo → Bool := fun _ => false
  sessionMemory : SessionMemory := {}
  endpointIp : InAddr := 0
  endpointSkinnyPort : UInt16 := 0

/-- `time(NULL)`. -/
def Env.time (env : Env) : Int := env.usec / 1000000

/-- `m_ssrcCandidate = -1`. -/
def noSsrcCandidate : UInt32 := 0xFFFFFFFF

/-- `VoIpSession::VoIpSession`. -/
def VoIpSession.new (cfg : Config) (env : Env) (trackingId : String) : VoIpSession where
  trackingId := trackingId
  started := false
  capturePort := ""
  beginDate := 0
  dtmfDigitString := ""
  currentRtpEventTs := 0
  telephoneEventPayloadType := cfg.rtpEventPayloadTypeDefaultValue
  keepRtp := cfg.lookBackRecording
  onDemand := false
  startWhenReceiveS2 := false
  nonLookBackSessionStarted := false
  lastRtpPacketSide1 := none
  lastRtpPacketSide2 := none
  localIp := env.sessionMemory.localIp
  mappedS1S2 := false
  orekaRtpPayloadTypeMap := (List.range 32).map fun i => UInt8.ofNat (i + 96)
  rtpIp := 0
  invite := none
  creationDate := env.usec
  lastUpdated := env.time
  lastKeepAlive := env.time
  protocol := .protUnkn
  remotePartyNecSip := ""
  localParty := ""
  remoteParty := ""
  localEntryPoint := ""
  localPartyName := ""
  remotePartyName := ""
  localPartyReported := false
  remotePartyReported := false
  rtcpLocalParty := false
  rtcpRemoteParty := false
  direction := .dirUnkn
  localSide := .localSideUnkn
  numRtpPackets := 0
  numIgnoredRtpPackets := 0
  metadataProcessed := false
  highestRtpSeqNumDelta := 0
  minRtpSeqDelta := cfg.rtpDiscontinuityMinSeqDelta
  minRtpTimestampDelta := cfg.rtpDiscontinuityMinSeqDelta * 160
  rtpNumMissingPkts := 0
  rtpNumSeqGaps := 0
  endPointIp := env.sessionMemory.endPointIp
  endPointSignallingPort := env.sessionMemory.endPointSignallingPort
  skinnyPassThruPartyId := 0
  sipLastInvite := env.usec
  skinnyLastCallInfoTime := env.usec
  skinnyLineInstance := 0
  onHold := false
  lastRtpStreamStart := 0
  holdDuration := 0
  holdBegin := env.sessionMemory.holdBegin
  sipDialedNumber := ""
  sipRemoteParty := ""
  isCallPickUp := false
  numAlienRtpPacketsS1 := 0
  numAlienRtpPacketsS2 := 0
  ssrcCandidate := noSsrcCandidate
  hasReceivedCallInfo := false
  lastRtpPacket := none
  remoteIp := env.sessionMemory.remoteIp
  localMac := List.replicate 6 0
  remoteMac := List.replicate 6 0
  orkUid := ""
  rtpAddressList := []
  invites := []
  tags := .empty
  ssrcCandidateTimestamp := env.sessionMemory.ssrcCandidateTimestamp
  lastSipInfo := none

/-! ### What the sessions share -/

/-- `VoIpSessions::Craft64bitMediaAddress`. -/
def craft64bitMediaAddress (cfg : Config) (ipAddress : InAddr) (udpPort : UInt16) : Nat :=
  if cfg.rtpTrackByUdpPortOnly then udpPort.toNat else ipAddress.toNat * 2 ^ 16 + udpPort.toNat

namespace Shared

/-- `VoIpSessions::GetLocalPartyMap`. -/
def getLocalPartyMap (shared : Shared) (oldlocalparty : String) : String :=
  (shared.localPartyMap.find? oldlocalparty).getD oldlocalparty

/-- `VoIpSessions::GetVoIpEndpointInfo`. -/
def getVoIpEndpointInfo (cfg : Config) (shared : Shared) (endpointIp : InAddr)
    (skinnyPort : UInt16) : Option VoIpEndpointInfo :=
  shared.endpoints.find? (craft64bitMediaAddress cfg endpointIp skinnyPort)

/-- `VoIpSessions::GetVoIpEndpointInfoByIp`. -/
def getVoIpEndpointInfoByIp (shared : Shared) (ip : InAddr) : Option VoIpEndpointInfo :=
  (shared.endpoints.entries.find? fun entry => entry.2.ip = ip).map Prod.snd

/-- Write to an endpoint, when there is one under this address. -/
def updateEndpoint (cfg : Config) (shared : Shared) (endpointIp : InAddr) (skinnyPort : UInt16)
    (f : VoIpEndpointInfo → VoIpEndpointInfo) : Shared :=
  let key := craft64bitMediaAddress cfg endpointIp skinnyPort
  match shared.endpoints.find? key with
  | some endpoint => { shared with endpoints := shared.endpoints.set key (f endpoint) }
  | none => shared

end Shared

/-! ### Running on a session -/

/-- What a function of a session hands out. -/
structure Notice where
  output : Output
  notStop : output.isStop = false

structure Context where
  shared : Shared
  session : SessionData
  notices : List Notice := []

abbrev SessionM := ReaderT SessionKeys (StateM Context)

def keys : SessionM SessionKeys := read

def session : SessionM SessionData := return (← get).session

def shared : SessionM Shared := return (← get).shared

def update (f : SessionData → SessionData) : SessionM Unit :=
  modify fun c => { c with session := f c.session }

/-- `g_captureEventCallBack(event, m_capturePort)`. -/
def emit (event : CaptureEvent)
    (notStop : decide (event.type = .etStop) = false := by exact Eq.refl false) : SessionM Unit :=
  modify fun c => { c with
    notices := c.notices ++ [⟨.captureEvent event c.session.capturePort, notStop⟩] }

/-- `g_audioChunkCallBack(chunk, m_capturePort)`. -/
def emitChunk (details : AudioChunkDetails) (payload : List UInt8) : SessionM Unit :=
  modify fun c => { c with
    notices := c.notices ++ [⟨.audioChunk details payload c.session.capturePort, rfl⟩] }

def emitKeyValue (key value : String) : SessionM Unit :=
  emit { type := .etKeyValue, key := key, value := value }

/-- `text.Format("%s@%s", text, szLocalIp)`, when it is configured. -/
def addLocalIp (cfg : Config) (s : SessionData) (text : String) : String :=
  if cfg.localPartyAddLocalIp then text ++ "@" ++ inetNtopV4 s.localIp else text

def matchesReferenceAddresses (cfg : Config) (inAddr : InAddr) : Bool :=
  cfg.sipDirectionReferenceIpAddresses.isMatch inAddr

/-! ### Stop -/

/-- A side is local when its address is no reference address or belongs to an endpoint. -/
def isLocalSource (cfg : Config) (shared : Shared) (packet : RtpPacketInfo) : Bool :=
  !matchesReferenceAddresses cfg packet.sourceIp ||
    (shared.getVoIpEndpointInfoByIp packet.sourceIp).isSome

def reportedLocalSide (cfg : Config) (shared : Shared) (s : SessionData) : LocalSide :=
  let afterSide1 :=
    if (s.lastRtpPacketSide1.map (isLocalSource cfg shared)).getD false then .localSideSide1
    else s.localSide
  if (s.lastRtpPacketSide2.map (isLocalSource cfg shared)).getD false then
    if afterSide1 = .localSideSide1 then .localSideBoth else .localSideSide2
  else afterSide1

/-- The remote party that was extracted from a URL during the session. -/
def extractedRemoteParty (cfg : Config) (shared : Shared) (s : SessionData) : Option String :=
  let endpoint := (shared.getVoIpEndpointInfo cfg s.localIp 0).or
    (shared.getVoIpEndpointInfo cfg s.remoteIp 0)
  match endpoint.bind fun e => e.urlExtractionMap.find? cfg.remotePartyUseExtractedKey with
  | some extracted =>
      if s.creationDate / 1000000 ≤ extracted.timestamp ∧ extracted.timestamp ≤ s.lastUpdated then
        some extracted.value
      else none
  | none => none

namespace VoIpSession

/-- `VoIpSession::Stop`. -/
def stop (cfg : Config) (shared : Shared) (s : VoIpSession) : VoIpSession :=
  if s.started && !s.stopped then
    let localSide := reportedLocalSide cfg shared s.toSessionData
    let party := if cfg.urlExtractorEnable then extractedRemoteParty cfg shared s.toSessionData
      else none
    let events : List CaptureEvent :=
      (party.map fun p => { type := .etRemoteParty, value := p }).toList ++
        [{ type := .etLocalSide, value := localSideToString localSide },
          { type := .etStop, timestamp := s.lastUpdated }]
    { s with
      localSide := localSide
      remoteParty := party.getD s.remoteParty
      stopped := true
      output := s.output ++ events.map fun event => .captureEvent event s.capturePort }
  else s

/-- Run a function of the session on it. -/
def run {α : Type} (m : SessionM α) (shared : Shared) (s : VoIpSession) :
    α × Shared × VoIpSession :=
  let result := m s.toSessionKeys { shared := shared, session := s.toSessionData }
  (result.1, result.2.shared,
    { s with
      toSessionData := result.2.session
      output := s.output ++ result.2.notices.map Notice.output })

end VoIpSession

section

variable (cfg : Config) (env : Env)

/-! ### Start -/

/-- The key under which a call is tagged with the recording that it was transferred from. -/
def conferenceTransferTrackingTagKey : String := "orig-orkuid"

def generateOrkUid : SessionM Unit := do
  let trackingId := (← keys).trackingId
  update fun s => { s with orkUid := env.localTime s.beginDate ++ "_" ++ trackingId }

def skinnyTrackConferencesTransfers : SessionM Unit := do
  let s ← session
  match (← shared).getVoIpEndpointInfo cfg s.endPointIp s.endPointSignallingPort with
  | none => pure ()
  | some endpoint =>
      if env.time - endpoint.lastConferencePressed > 3 ∧
          env.time - endpoint.lastConnectedWithConference > 3 then
        modify fun c => { c with
          shared := c.shared.updateEndpoint cfg s.endPointIp s.endPointSignallingPort
            fun endpoint => { endpoint with origOrkUid := "" } }
      else if endpoint.origOrkUid ≠ "" then
        emitKeyValue conferenceTransferTrackingTagKey endpoint.origOrkUid

def start : SessionM Unit := do
  update fun s => { s with beginDate := env.time }
  if !(← session).started then
    generateOrkUid env
  update fun s => { s with started := true }
  let s ← session
  emit { type := .etStart, timestamp := s.beginDate, value := (← keys).trackingId }
  if cfg.skinnyTrackConferencesTransfers then
    skinnyTrackConferencesTransfers cfg env

/-! ### Hold -/

def goOnHold (onHoldTime : Int) : SessionM Unit := do
  if (← session).started then
    update fun s => { s with onHold := true, holdBegin := onHoldTime }
    if cfg.holdResumeReportDuration || cfg.holdResumeReportEvents then
      emit { type := .etHold, value := (← keys).trackingId }

def goOffHold (offHoldTime : Int) : SessionM Unit := do
  update fun s => { s with
    lastUpdated := offHoldTime
    onHold := false
    holdDuration := s.holdDuration + (offHoldTime - s.holdBegin) }
  if cfg.holdReportStats then
    emitKeyValue "holdtime" (toString (← session).holdDuration)
  if cfg.holdResumeReportDuration || cfg.holdResumeReportEvents then
    emit { type := .etResume, value := (← keys).trackingId }

/-! ### On demand -/

def markAsOnDemand (side : String) : SessionM Unit := do
  update fun s => { s with onDemand := true }
  if (← session).started then
    emitKeyValue "ondemand" "true"
    emit { type := .etAudioKeepDirection, value := side }
    emit { type := .etUpdate }

def markAsOnDemandOff : SessionM Unit := do
  update fun s => { s with onDemand := false }
  if (← session).started then
    emitKeyValue "ondemand" "false"
    emit { type := .etUpdate }

def triggerOnDemandViaDtmf : SessionM Unit := do
  update fun s => { s with keepRtp := true }
  markAsOnDemand "both"

end

/-! ### Matching -/

namespace VoIpSession

variable (s : VoIpSession)

def orkUidMatches (oUid : String) : Bool := equalsNoCase s.orkUid oUid

def partyMatches (party : String) : Bool :=
  party != "" && (equalsNoCase s.localParty party || equalsNoCase s.remoteParty party)

def nativeCallIdMatches (callid : String) : Bool := callid != "" && equalsNoCase s.callId callid

def isMatchedLocalOrRemoteIp (ip : InAddr) : Bool := ip = s.localIp || ip = s.remoteIp

end VoIpSession

end OrkAudio.VoIp
