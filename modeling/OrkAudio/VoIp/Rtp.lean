import OrkAudio.VoIp.Sessions

/-! RTP and RTCP packets in the store of the sessions. -/

namespace OrkAudio.VoIp

open Lib

namespace VoIpSessions

section

variable (cfg : Config) (env : Env)

/-- `VoIpSessions::ReportRtcpSrcDescription`. RTCP goes by the port above that of the RTP. -/
def reportRtcpSrcDescription (st : VoIpSessions) (rtcpInfo : RtcpSrcDescriptionPacketInfo) :
    VoIpSessions :=
  match (st.findByMediaAddress cfg rtcpInfo.sourceIp (rtcpInfo.sourcePort - 1)).or
      (st.findByMediaAddress cfg rtcpInfo.destIp (rtcpInfo.destPort - 1)) with
  | some r => st.perform r (VoIp.reportRtcpSrcDescription cfg rtcpInfo)
  | none => st

/-- What a Sangoma card reports with equal ports is made to look bidirectional. -/
def sangomaPacket (rtpPacket : RtpPacketInfo) : RtpPacketInfo :=
  if cfg.sangomaEnable ∧ rtpPacket.sourcePort = rtpPacket.destPort then
    let rtpPacket :=
      if rtpPacket.sourceIp = rtpPacket.destIp then
        { rtpPacket with destIp := rtpPacket.destIp ^^^ 1 }
      else rtpPacket
    let port : Int := rtpPacket.sourcePort.toNat
    if port > cfg.sangomaTxTcpPortStart then
      { rtpPacket with
        sourcePort := UInt16.ofNat ((port - cfg.sangomaTcpPortDelta) % 65536).toNat
        sourceIp := rtpPacket.destIp
        destIp := rtpPacket.sourceIp }
    else
      { rtpPacket with
        sourcePort := UInt16.ofNat ((port + cfg.sangomaTcpPortDelta) % 65536).toNat }
  else rtpPacket

/-! ### Handing a packet to the sessions of its addresses -/

/-- Hand a packet to a session: whether it took the packet, and the packet as it is left. -/
def handRtpPacket (st : VoIpSessions) (r : Nat) (rtpPacket : RtpPacketInfo) :
    (Bool × RtpPacketInfo) × VoIpSessions :=
  let result := st.act r (addRtpPacket cfg env rtpPacket)
  (result.1, { result.2 with history := result.2.history ++ [.handed r result.1.1] })

/-- Hand a packet to the session of one of its addresses; a session that it does not belong
to is stopped. -/
def offerRtpPacket (st : VoIpSessions) (found : Option Nat) (rtpPacket : RtpPacketInfo) :
    (Bool × RtpPacketInfo) × VoIpSessions :=
  match found with
  | none => ((false, rtpPacket), st)
  | some r =>
      let result := st.handRtpPacket cfg env r rtpPacket
      (result.1, if result.1.1 then result.2 else result.2.stop cfg env r)

/-! ### Two sessions -/

/-- Take an address out of the index, whoever has it. -/
def eraseMediaAddress (st : VoIpSessions) (mediaAddress : Nat) : VoIpSessions :=
  { st with byIpAndPort := st.byIpAndPort.erase mediaAddress }

/-- Whether the session of the source is merged into that of the destination. -/
def mergesFirst (s1 s2 : VoIpSession) (rtpPacket : RtpPacketInfo) : Bool :=
  if cfg.isRtpTrackingIpAddress rtpPacket.sourceIp then false
  else if cfg.isRtpTrackingIpAddress rtpPacket.destIp then true
  else if s1.protocol = .protRawRtp then true
  else if s2.protocol = .protRawRtp then false
  else if s1.numRtpPackets < s2.numRtpPackets ∧ s1.numRtpPackets < 5 then true
  else if s2.numRtpPackets < s1.numRtpPackets ∧ s2.numRtpPackets < 5 then false
  else decide (s1.direction ≠ .dirOut)

/-- Both sessions took the packet: one of them takes an address over, or is stopped. -/
def mergeSessions (st : VoIpSessions) (r1 r2 : Nat) (rtpPacket : RtpPacketInfo) : VoIpSessions :=
  let s1 := st.session r1
  let s2 := st.session r2
  if cfg.rtpAllowMultipleMappings ∧ s1.protocol = .protSip ∧ s2.protocol = .protSip then
    if s1.sipLastInvite > s2.sipLastInvite then
      if s2.numRtpPackets ≠ 1 then
        st.eraseMediaAddress
          (craft64bitMediaAddress cfg rtpPacket.destIp rtpPacket.destPort)
      else st
    else if s1.numRtpPackets ≠ 1 then
      st.eraseMediaAddress
        (craft64bitMediaAddress cfg rtpPacket.sourceIp rtpPacket.sourcePort)
    else st
  else st.stop cfg env (if mergesFirst cfg s1 s2 rtpPacket then r1 else r2)

/-! ### One session -/

/-- `SetMediaAddress` for the session of a packet. -/
def trackMediaAddress (st : VoIpSessions) (r : Nat) (mediaIp : InAddr) (mediaPort : UInt16) :
    VoIpSessions :=
  { st.setMediaAddress cfg env r mediaIp mediaPort with
    history := (st.setMediaAddress cfg env r mediaIp mediaPort).history ++ [.tracked r] }

/-- With `m_mediaAddressUseSecondRtpAddress` the session gets the other address, too. -/
def trackSecondAddress (st : VoIpSessions) (r : Nat) (sourceAddressIsTracked : Bool)
    (rtpPacket : RtpPacketInfo) : VoIpSessions :=
  if cfg.mediaAddressUseSecondRtpAddress then
    if sourceAddressIsTracked then
      st.trackMediaAddress cfg env r rtpPacket.destIp rtpPacket.destPort
    else st.trackMediaAddress cfg env r rtpPacket.sourceIp rtpPacket.sourcePort
  else st

/-- The first packet of a session tells whether it is tracked on the right address. -/
def trackFirstPacket (st : VoIpSessions) (r : Nat) (rtpPacket : RtpPacketInfo) : VoIpSessions :=
  let s := st.session r
  if s.numRtpPackets = 1 ∧ s.protocol = .protSip then
    if cfg.isRtpTrackingIpAddress rtpPacket.destIp then
      st.trackMediaAddress cfg env r rtpPacket.destIp rtpPacket.destPort
    else if cfg.isRtpTrackingIpAddress rtpPacket.sourceIp then
      st.trackMediaAddress cfg env r rtpPacket.sourceIp rtpPacket.sourcePort
    else st
  else st

/-- One session took the packet. `r` is the session that was looked up last, which need not
be the one that took it. -/
def trackSession (st : VoIpSessions) (r : Nat) (sourceAddressIsTracked : Bool)
    (rtpPacket : RtpPacketInfo) : VoIpSessions :=
  (st.trackSecondAddress cfg env r sourceAddressIsTracked rtpPacket).trackFirstPacket cfg env r
    rtpPacket

/-! ### No session -/

/-- The endpoint of a packet, and whether it is the source. -/
def findSkinnyEndpoint (st : VoIpSessions) (rtpPacket : RtpPacketInfo) :
    Option (VoIpEndpointInfo × Bool) :=
  ((st.shared.getVoIpEndpointInfoByIp rtpPacket.sourceIp).map fun endpoint => (endpoint, true)).or
    ((st.shared.getVoIpEndpointInfoByIp rtpPacket.destIp).map fun endpoint => (endpoint, false))

/-- The latest call of an endpoint, when its session is not stopped. -/
def findLatestCall (st : VoIpSessions) (endpoint : VoIpEndpointInfo) : Option Nat :=
  match st.byCallId.find? endpoint.latestCallId with
  | some r => if endpoint.latestCallId ≠ "" ∧ !(st.session r).stopped then some r else none
  | none => none

/-- `VoIpSessions::SkinnyFindMostLikelySessionForRtp`: the store with the address set, none
when there is no such session. -/
def skinnyFindMostLikelySessionForRtp (st : VoIpSessions) (rtpPacket : RtpPacketInfo) :
    Option VoIpSessions :=
  match st.findSkinnyEndpoint rtpPacket with
  | none => none
  | some (endpoint, srcmatch) =>
      (st.findLatestCall endpoint).map fun r =>
        let st := st.perform r
          (update fun s => { s with endPointSignallingPort := endpoint.skinnyPort })
        if srcmatch then
          st.setMediaAddress cfg env r rtpPacket.sourceIp rtpPacket.sourcePort
        else st.setMediaAddress cfg env r rtpPacket.destIp rtpPacket.destPort

/-- The session without address at the endpoint whose CallInfo is the newest. The search
starts from the time of the packet. -/
def findMostRecent (st : VoIpSessions) (rtpPacket : RtpPacketInfo) : Int × Option Nat :=
  (st.sessionsByCallId.filter fun r =>
      (st.session r).endPointIp = rtpPacket.sourceIp ||
        (st.session r).endPointIp = rtpPacket.destIp).foldl
    (fun found r =>
      let s := st.session r
      if s.skinnyLastCallInfoTime ≥ found.1 ∧ s.ipAndPort = 0 then
        (s.skinnyLastCallInfoTime, some r)
      else found) (env.usec, none)

/-- `VoIpSessions::SkinnyFindMostLikelySessionForRtpBehindNat`. -/
def skinnyFindMostLikelySessionForRtpBehindNat (st : VoIpSessions) (rtpPacket : RtpPacketInfo) :
    Option VoIpSessions :=
  let found := st.findMostRecent env rtpPacket
  match found.2 with
  | none => none
  | some r =>
      if env.time - found.1 / 1000000 > 30 ∨ (st.session r).stopped then none
      else if (st.session r).endPointIp = rtpPacket.sourceIp then
        some (st.setMediaAddress cfg env r rtpPacket.destIp rtpPacket.destPort)
      else some (st.setMediaAddress cfg env r rtpPacket.sourceIp rtpPacket.sourcePort)

/-- The parties of a raw RTP session at a Skinny endpoint. -/
def nameRawSession (st : VoIpSessions) (r : Nat) (endpoint : VoIpEndpointInfo)
    (rtpPacket : RtpPacketInfo) : VoIpSessions :=
  st.perform r <| update fun s => { s with
    localParty := endpoint.extension
    remoteParty :=
      if endpoint.ip = rtpPacket.sourceIp then inetNtopV4 rtpPacket.destIp
      else inetNtopV4 rtpPacket.sourceIp }

/-- A new raw RTP session, tracked at one address of its first packet. -/
def newRawSession (st : VoIpSessions) (endpoint : Option VoIpEndpointInfo)
    (rtpPacket : RtpPacketInfo) : VoIpSessions :=
  let r := st.next
  let fromSource := cfg.isRtpTrackingIpAddress rtpPacket.sourceIp || cfg.sangomaEnable
  let rtpIp := if fromSource then rtpPacket.sourceIp else rtpPacket.destIp
  let rtpPort := if fromSource then rtpPacket.sourcePort else rtpPacket.destPort
  let st := st.create cfg env fun s => { s with protocol := .protRawRtp, endPointIp := rtpIp }
  let st := st.setMediaAddress cfg env r rtpIp rtpPort
  let result := st.handRtpPacket cfg env r rtpPacket
  match endpoint with
  | some endpoint => result.2.nameRawSession r endpoint result.1.2
  | none => result.2

/-- No session took the packet: a Skinny session at the endpoint, or a new raw RTP session. -/
def adoptRtpPacket (st : VoIpSessions) (rtpPacket : RtpPacketInfo) : VoIpSessions :=
  if cfg.lookBackRecording ∨ cfg.trackRawRtpSessionInNonLookBackMode then
    if cfg.skinnyRtpSearchesForCallInfo ∧ !cfg.skinnyBehindNat then
      (st.skinnyFindMostLikelySessionForRtp cfg env rtpPacket).getD
        (st.newRawSession cfg env ((st.findSkinnyEndpoint rtpPacket).map Prod.fst) rtpPacket)
    else if cfg.skinnyRtpSearchesForCallInfo then
      (st.skinnyFindMostLikelySessionForRtpBehindNat cfg env rtpPacket).getD
        (st.newRawSession cfg env none rtpPacket)
    else st.newRawSession cfg env none rtpPacket
  else st

/-! ### `VoIpSessions::ReportRtpPacket` -/

/-- What follows the two lookups: `found1` and `found2` are the sessions of the source and of
the destination, `accepted1` and `accepted2` whether they took the packet. -/
def settleRtpPacket (st : VoIpSessions) (found1 found2 : Option Nat) (accepted1 accepted2 : Bool)
    (rtpPacket : RtpPacketInfo) : VoIpSessions :=
  match accepted1, accepted2 with
  | false, false => st.adoptRtpPacket cfg env rtpPacket
  | true, true =>
      match found1, found2 with
      | some r1, some r2 => if r1 ≠ r2 then st.mergeSessions cfg env r1 r2 rtpPacket else st
      | _, _ => st
  | _, _ =>
      -- The variable `session` of the source.
      match found2.or found1 with
      | some r => st.trackSession cfg env r found1.isSome rtpPacket
      | none => st

def reportRtpPacket (st : VoIpSessions) (rtpPacket : RtpPacketInfo) : VoIpSessions :=
  let rtpPacket := sangomaPacket cfg rtpPacket
  let found1 := st.findByMediaAddress cfg rtpPacket.sourceIp rtpPacket.sourcePort
  let first := st.offerRtpPacket cfg env found1 rtpPacket
  let found2 := first.2.findByMediaAddress cfg rtpPacket.destIp rtpPacket.destPort
  let second := first.2.offerRtpPacket cfg env found2 first.1.2
  second.2.settleRtpPacket cfg env found1 found2 first.1.1 second.1.1 second.1.2

end

end VoIpSessions

end OrkAudio.VoIp
