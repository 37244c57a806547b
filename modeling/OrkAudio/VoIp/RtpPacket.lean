import OrkAudio.VoIp.Dtmf

/-! An RTP packet in a session: which side it belongs to and what becomes of it. -/

namespace OrkAudio.VoIp

open Lib

section

variable (cfg : Config) (env : Env)

/-! ### Channels -/

def isSameStream (last rtpPacket : RtpPacketInfo) : Bool :=
  rtpPacket.ssrc = last.ssrc && last.destIp = rtpPacket.destIp

def startAndReport : SessionM Unit := do
  start cfg env
  reportMetadata cfg

def startOnSide2 : SessionM Unit := do
  startAndReport cfg env
  if !cfg.lookBackRecording then
    update fun s => { s with nonLookBackSessionStarted := true }

/-- The channel of a packet, 0 when it belongs to neither side, and whether it is the first
one there. -/
def detectChannel (rtpPacket : RtpPacketInfo) : SessionM (Nat × Bool) := do
  let s ← session
  match s.lastRtpPacketSide1, s.lastRtpPacketSide2 with
  | none, _ =>
      update fun s => { s with lastRtpPacketSide1 := some rtpPacket }
      pure (1, true)
  | some side1, none =>
      if isSameStream side1 rtpPacket then pure (1, false)
      else
        update fun s => { s with lastRtpPacketSide2 := some rtpPacket }
        if cfg.sessionStartsOnS2ActivityDb = 0 ∧ cfg.discardUnidirectionalCalls ∧
            s.startWhenReceiveS2 then
          startOnSide2 cfg env
        pure (2, true)
  | some side1, some side2 =>
      if isSameStream side1 rtpPacket then pure (1, false)
      else if isSameStream side2 rtpPacket then
        if !s.started ∧ cfg.sessionStartsOnS2ActivityDb ≠ 0 ∧ env.s2Active rtpPacket then
          startOnSide2 cfg env
        pure (2, false)
      else pure (0, false)

def shouldSwapChannels (s : SessionData) (side1 side2 : RtpPacketInfo) : Bool :=
  let s1ShouldBeLocal := cfg.rtpS1S2MappingDeterministicS1IsLocal
  if !cfg.mediaGateways.isEmpty then
    (cfg.isMediaGateway side1.sourceIp && s1ShouldBeLocal) ||
      (cfg.isMediaGateway side2.sourceIp && !s1ShouldBeLocal)
  else
    (side2.sourceIp = s.localIp && s1ShouldBeLocal) ||
      (side1.sourceIp = s.localIp && !s1ShouldBeLocal)

/-! ### Following a stream -/

def seqNumDelta (last rtpPacket : RtpPacketInfo) : Int :=
  (rtpPacket.seqNum.toNat : Int) - last.seqNum.toNat

/-- The difference when a smaller sequence number is taken for a reset. -/
def resetSeqNumDelta (last rtpPacket : RtpPacketInfo) : Int :=
  if rtpPacket.seqNum < last.seqNum then
    65536 - last.seqNum.toNat + rtpPacket.seqNum.toNat
  else seqNumDelta last rtpPacket

/-- `int deltaTimestamp`. -/
def deltaTimestamp (last rtpPacket : RtpPacketInfo) : Int :=
  toInt32 (rtpPacket.timestamp - last.timestamp).toNat

def isDiscontinuity (s : SessionData) (last rtpPacket : RtpPacketInfo) : Bool :=
  let timestampDelta : Int := (rtpPacket.timestamp.toNat : Int) - last.timestamp.toNat
  cfg.rtpDiscontinuityDetect && decide (|seqNumDelta last rtpPacket| > s.minRtpSeqDelta) &&
    decide (|timestampDelta| > s.minRtpTimestampDelta)

/-- The difference in sequence numbers that a packet is counted with, none when the stream
breaks before it. -/
def followStream (s : SessionData) (last rtpPacket : RtpPacketInfo) (checksPause : Bool) :
    Option Int :=
  if isDiscontinuity cfg s last rtpPacket then none
  else if checksPause then
    if resetSeqNumDelta last rtpPacket * 160 < deltaTimestamp last rtpPacket then none
    else some (resetSeqNumDelta last rtpPacket)
  else some (seqNumDelta last rtpPacket)

/-- What becomes of a packet: nothing, the end of the session, or audio on a channel. -/
inductive Verdict
  | dismissed
  | brokenUp
  | accepted (channel : Nat)
  deriving DecidableEq, Repr

/-- A subsequent packet of side 1. -/
def followSide1 (last rtpPacket : RtpPacketInfo) : SessionM Verdict := do
  let s ← session
  if rtpPacket.timestamp = last.timestamp then pure .dismissed
  else
    let checksPause := cfg.rtpBreakupOnStreamPause &&
      decide (|seqNumDelta last rtpPacket| * 160 < deltaTimestamp last rtpPacket)
    match followStream cfg s last rtpPacket checksPause with
    | none => pure .brokenUp
    | some delta =>
        update fun s => { s with
          highestRtpSeqNumDelta :=
            if delta > s.highestRtpSeqNumDelta then delta else s.highestRtpSeqNumDelta }
        if 1 < delta ∧ delta ≤ cfg.rtpSeqGapThreshold then
          update fun s => { s with
            rtpNumSeqGaps := s.rtpNumSeqGaps + 1
            rtpNumMissingPkts := s.rtpNumMissingPkts + (delta - 1) }
        update fun s => { s with lastRtpPacketSide1 := some rtpPacket, numAlienRtpPacketsS1 := 0 }
        pure (.accepted 1)

/-- A subsequent packet of side 2. Missing packets are not counted here, and the pause of the
stream is looked for without the first comparison. -/
def followSide2 (last rtpPacket : RtpPacketInfo) : SessionM Verdict := do
  let s ← session
  if rtpPacket.timestamp = last.timestamp then pure .dismissed
  else
    match followStream cfg s last rtpPacket cfg.rtpBreakupOnStreamPause with
    | none => pure .brokenUp
    | some delta =>
        update fun s => { s with
          highestRtpSeqNumDelta :=
            if delta > s.highestRtpSeqNumDelta then delta else s.highestRtpSeqNumDelta }
        update fun s => { s with lastRtpPacketSide2 := some rtpPacket, numAlienRtpPacketsS2 := 0 }
        pure (.accepted 2)

/-- Count a packet of neither side, by the stream that is the candidate for one. -/
def countAlien (rtpPacket : RtpPacketInfo) (s : SessionData) : SessionData :=
  if s.ssrcCandidate = noSsrcCandidate then
    { s with
      ssrcCandidate := rtpPacket.ssrc
      ssrcCandidateTimestamp := rtpPacket.arrivalTimestamp % 4294967296 }
  else if rtpPacket.ssrc = s.ssrcCandidate then
    { s with
      ssrcCandidateTimestamp := rtpPacket.arrivalTimestamp % 4294967296
      numAlienRtpPacketsS1 := s.numAlienRtpPacketsS1 + 1
      numAlienRtpPacketsS2 := s.numAlienRtpPacketsS2 + 1 }
  else if env.time - s.ssrcCandidateTimestamp > 2 then
    { s with ssrcCandidate := noSsrcCandidate, numAlienRtpPacketsS1 := 0, numAlienRtpPacketsS2 := 0 }
  else s

/-- A packet of neither side takes a side over after ten others of its stream. -/
def followAlien (rtpPacket : RtpPacketInfo) : SessionM Verdict := do
  update (countAlien env rtpPacket)
  let s ← session
  if s.numAlienRtpPacketsS1 > 10 then
    update fun s => { s with
      numAlienRtpPacketsS1 := 0
      ssrcCandidate := noSsrcCandidate
      lastRtpPacketSide1 := some rtpPacket
      mappedS1S2 := false
      lastRtpStreamStart := env.time }
    pure (.accepted 1)
  else if s.numAlienRtpPacketsS2 > 10 then
    update fun s => { s with
      numAlienRtpPacketsS2 := 0
      ssrcCandidate := noSsrcCandidate
      lastRtpPacketSide2 := some rtpPacket
      mappedS1S2 := false
      lastRtpStreamStart := env.time }
    pure (.accepted 2)
  else pure .dismissed

def follow (rtpPacket : RtpPacketInfo) : Nat × Bool → SessionM Verdict
  | (channel, true) => pure (.accepted channel)
  | (channel, false) => do
      let s ← session
      match channel, s.lastRtpPacketSide1, s.lastRtpPacketSide2 with
      | 1, some last, _ => followSide1 cfg last rtpPacket
      | 2, _, some last => followSide2 cfg last rtpPacket
      | _, _, _ => followAlien env rtpPacket

/-! ### Taking a packet in -/

/-- Exchange the sides once when they are to be mapped deterministically. -/
def mapChannels (channel : Nat) : SessionM Nat := do
  let s ← session
  match s.lastRtpPacketSide1, s.lastRtpPacketSide2 with
  | some side1, some side2 =>
      if cfg.rtpS1S2MappingDeterministic && !s.mappedS1S2 then
        update fun s => { s with mappedS1S2 := true }
        if (s.protocol = .protSip ∨ s.protocol = .protSkinny) ∧ shouldSwapChannels cfg s side1 side2
        then
          update fun s => { s with
            lastRtpPacketSide1 := some side2
            lastRtpPacketSide2 := some side1 }
          pure (channel % 2 + 1)
        else pure channel
      else pure channel
  | _, _ => pure channel

/-- `TcpAddressList::HasAddressOrAdd`. -/
def hasAddressOrAdd (address : InAddr × UInt16) (addresses : List (InAddr × UInt16)) :
    Bool × List (InAddr × UInt16) :=
  if addresses.contains address then (true, addresses) else (false, addresses ++ [address])

def noteAddresses (rtpPacket : RtpPacketInfo) : SessionM Unit := do
  let s ← session
  let source := hasAddressOrAdd (rtpPacket.sourceIp, rtpPacket.sourcePort) s.rtpAddressList
  let dest := hasAddressOrAdd (rtpPacket.destIp, rtpPacket.destPort) source.2
  update fun s => { s with rtpAddressList := dest.2 }
  if !(source.1 && dest.1) && s.protocol = .protSip && s.started &&
      cfg.sipAllowMetadataUpdateOnRtpChange then
    updateMetadataSipOnRtpChange cfg rtpPacket dest.1

/-- Whether the session has got enough packets to start. -/
def isStartPacket (s : SessionData) : Bool :=
  match s.protocol with
  | .protRawRtp => decide ((s.numRtpPackets : Int) = cfg.rtpMinAmountOfPacketsBeforeStart)
  | .protSkinny => decide (s.numRtpPackets = 2)
  | .protSip => decide (s.numRtpPackets = if cfg.discardUnidirectionalCalls then 1 else 2)
  | .protUnkn => false

/-- Start the session, or have it wait for side 2. -/
def startUnlessUnidirectional : SessionM Unit :=
  if cfg.discardUnidirectionalCalls then update fun s => { s with startWhenReceiveS2 := true }
  else startAndReport cfg env

/-- `pt_SPEEX`. -/
def ptSpeex : UInt16 := 66

def asSpeex (rtpPacket : RtpPacketInfo) : RtpPacketInfo :=
  if cfg.speexPayloadTypes.contains (toString rtpPacket.payloadType) then
    { rtpPacket with payloadType := ptSpeex }
  else rtpPacket

def chunkDetails (s : SessionData) (channel : Nat) (rtpPacket : RtpPacketInfo) :
    AudioChunkDetails where
  arrivalTimestamp := UInt32.ofNat (rtpPacket.arrivalTimestamp % 4294967296).toNat
  numBytes := UInt32.ofNat rtpPacket.payload.length
  timestamp := rtpPacket.timestamp
  sequenceNumber := rtpPacket.seqNum.toUInt32
  channel := UInt8.ofNat channel
  encoding := .alawAudio
  rtpPayloadType :=
    let payloadType := rtpPacket.payloadType.toNat
    if 96 ≤ payloadType then (s.orekaRtpPayloadTypeMap.getD (payloadType - 96) 0).toNat
    else payloadType

/-- Count a packet of this channel and hand out its audio. -/
def acceptRtpPacket (channel : Nat) (rtpPacket : RtpPacketInfo) : SessionM RtpPacketInfo := do
  let channel ← mapChannels cfg channel
  update fun s => { s with
    numRtpPackets := s.numRtpPackets + 1
    lastUpdated := rtpPacket.arrivalTimestamp }
  noteAddresses cfg rtpPacket
  if isStartPacket cfg (← session) && cfg.lookBackRecording then
    startUnlessUnidirectional cfg env
  let s ← session
  if s.started then
    let rtpPacket := asSpeex cfg rtpPacket
    emitChunk (chunkDetails s channel rtpPacket) rtpPacket.payload
    pure rtpPacket
  else pure rtpPacket

/-! ### `VoIpSession::AddRtpPacket` -/

def processMetadata (rtpPacket : RtpPacketInfo) : SessionM Unit := do
  if !(← session).metadataProcessed then
    update fun s => { s with metadataProcessed := true }
    match (← session).protocol with
    | .protRawRtp => processMetadataRawRtp cfg rtpPacket
    | .protSip => processMetadataSip cfg
    | .protSkinny => processMetadataSkinny rtpPacket
    | .protUnkn => pure ()

/-- Without look-back a signalled session starts with its first packet. -/
def startNonLookBack : SessionM Unit := do
  let s ← session
  if !cfg.lookBackRecording && !s.nonLookBackSessionStarted &&
      (decide (s.protocol ≠ .protRawRtp) ||
        (cfg.trackRawRtpSessionInNonLookBackMode &&
          decide ((s.numIgnoredRtpPackets : Int) = cfg.rtpMinAmountOfPacketsBeforeStart))) then
    startUnlessUnidirectional cfg env
    if !cfg.discardUnidirectionalCalls then
      update fun s => { s with nonLookBackSessionStarted := true }

def isTelephoneEvent (s : SessionData) (rtpPacket : RtpPacketInfo) : Bool :=
  s.protocol = .protSip && cfg.rtpReportDtmf && s.telephoneEventPayloadType != 0 &&
    (rtpPacket.payloadType.toNat : Int) = s.telephoneEventPayloadType

/-- A packet of a session that does not keep its RTP. -/
def ignoreRtpPacket (rtpPacket : RtpPacketInfo) : SessionM Unit := do
  let s ← session
  if s.nonLookBackSessionStarted then
    if env.time - s.lastKeepAlive > 1 then
      update fun s => { s with lastKeepAlive := env.time }
      emit { type := .etUnknown }
  else
    let _ ← detectChannel cfg env rtpPacket
  update fun s => { s with
    lastUpdated := rtpPacket.arrivalTimestamp
    numIgnoredRtpPackets := s.numIgnoredRtpPackets + 1 }

def startFirstKept : SessionM Unit := do
  let s ← session
  if !cfg.lookBackRecording && s.numRtpPackets == 0 && !s.nonLookBackSessionStarted then
    startUnlessUnidirectional cfg env

/-- A packet that has nothing to do with the endpoint of a Skinny session, or that a session
on hold ignores. -/
def isDismissed (s : SessionData) (rtpPacket : RtpPacketInfo) : Bool :=
  (s.protocol = .protSkinny && rtpPacket.sourceIp != s.endPointIp &&
      rtpPacket.destIp != s.endPointIp) ||
    (s.onHold && s.lastRtpPacket.isSome && 18 < rtpPacket.payloadType.toNat)

/-- RTP after an interruption takes a session off hold. -/
def goOffHoldOnRtp (rtpPacket : RtpPacketInfo) : SessionM Unit := do
  let s ← session
  match s.lastRtpPacket with
  | some last =>
      if s.onHold ∧ rtpPacket.arrivalTimestamp - last.arrivalTimestamp > 1 then
        goOffHold cfg rtpPacket.arrivalTimestamp
  | none => pure ()

/-- `VoIpSession::AddRtpPacket`: false when the packet does not belong to the session, and
the packet as it is left. -/
def addRtpPacket (rtpPacket : RtpPacketInfo) : SessionM (Bool × RtpPacketInfo) := do
  processMetadata cfg rtpPacket
  startNonLookBack cfg env
  let s ← session
  if isTelephoneEvent cfg s rtpPacket then
    if !(cfg.rtpDtmfOnlyLocal && rtpPacket.sourceIp != s.localIp) then
      handleRtpEvent cfg env 0 rtpPacket
    pure (true, rtpPacket)
  else if !s.keepRtp then
    ignoreRtpPacket cfg env rtpPacket
    pure (true, rtpPacket)
  else
    startFirstKept cfg env
    if isDismissed (← session) rtpPacket then pure (true, rtpPacket)
    else
      goOffHoldOnRtp cfg rtpPacket
      update fun s => { s with lastRtpPacket := some rtpPacket }
      let channel ← detectChannel cfg env rtpPacket
      match ← follow cfg env rtpPacket channel with
      | .dismissed => pure (true, rtpPacket)
      | .brokenUp => pure (false, rtpPacket)
      | .accepted channel => return (true, ← acceptRtpPacket cfg env channel rtpPacket)

end

end OrkAudio.VoIp
