import OrkAudio.VoIp.Session

/-! What a session knows of its parties, and how it reports it. -/

namespace OrkAudio.VoIp

open Lib

section

variable (cfg : Config)

/-! ### RTCP -/

/-- The name in a source description; the realm is the domain up to its first dot. -/
def rtcpParty (rtcpInfo : RtcpSrcDescriptionPacketInfo) : String :=
  if cfg.inInMode then
    let realm := (rtcpInfo.cnameDomain.toList.take 255).takeWhile fun c => c ≠ '.'
    rtcpInfo.cnameUsername ++ "@" ++ String.ofList realm
  else rtcpInfo.cnameUsername

/-- `VoIpSession::ReportRtcpSrcDescription`. -/
def reportRtcpSrcDescription (rtcpInfo : RtcpSrcDescriptionPacketInfo) : SessionM Unit := do
  let sh ← shared
  let s ← session
  let party := rtcpParty cfg rtcpInfo
  if !s.rtcpLocalParty then
    update fun s => { s with rtcpLocalParty := true, localParty := sh.getLocalPartyMap party }
    if s.localPartyReported then
      update fun s => { s with localParty := addLocalIp cfg s s.localParty }
      emit { type := .etLocalParty, value := (← session).localParty }
  else if !s.rtcpRemoteParty then
    if !equalsNoCase party s.localParty then
      update fun s => { s with rtcpRemoteParty := true, remoteParty := sh.getLocalPartyMap party }
      if s.remotePartyReported then
        emit { type := .etRemoteParty, value := (← session).remoteParty }

/-! ### Raw RTP -/

def rawSourceIsLocal (rtpPacket : RtpPacketInfo) : Bool :=
  if cfg.isMediaGateway rtpPacket.sourceIp then
    !cfg.isMediaGateway rtpPacket.destIp && !cfg.isPartOfLan rtpPacket.destIp
  else cfg.isPartOfLan rtpPacket.sourceIp

/-- The local and the remote address of a packet, with their hardware addresses. -/
def packetSides (sourceIsLocal : Bool) (rtpPacket : RtpPacketInfo) :
    (InAddr × List UInt8) × (InAddr × List UInt8) :=
  let source := (rtpPacket.sourceIp, rtpPacket.sourceMac)
  let dest := (rtpPacket.destIp, rtpPacket.destMac)
  if sourceIsLocal then (source, dest) else (dest, source)

def SessionData.setSides (s : SessionData)
    (sides : (InAddr × List UInt8) × (InAddr × List UInt8)) : SessionData :=
  { s with
    localIp := sides.1.1
    localMac := sides.1.2
    remoteIp := sides.2.1
    remoteMac := sides.2.2 }

def processMetadataRawRtp (rtpPacket : RtpPacketInfo) : SessionM Unit := do
  let sh ← shared
  let trackingId := (← keys).trackingId
  let sides := packetSides (rawSourceIsLocal cfg rtpPacket) rtpPacket
  update fun s => { s with
    capturePort :=
      if cfg.sangomaEnable then toString (rtpPacket.sourcePort.toNat % 1000) else trackingId }
  if !(← session).rtcpLocalParty then
    update fun s => { s with
      localParty :=
        -- The hardware address is appended to what the session has.
        if cfg.useMacIfNoLocalParty then memMacToHumanReadable sides.1.2 s.localParty
        else sh.getLocalPartyMap (inetNtopV4 sides.1.1) }
  if !(← session).rtcpRemoteParty then
    update fun s => { s with remoteParty := sh.getLocalPartyMap (inetNtopV4 sides.2.1) }
  update fun s => s.setSides sides

/-! ### SIP -/

def matchesSipDomain (domain : String) : Bool :=
  cfg.sipDomains.any fun element => equalsNoCase element domain

/-- The parties of an INVITE whose request URI names the local party. -/
def setPartiesByRequestUri (sh : Shared) (invite : SipInviteInfo) (s : SessionData) :
    SessionData :=
  { s with
    localParty := sh.getLocalPartyMap invite.requestUri
    remoteParty := sh.getLocalPartyMap invite.fromUser
    direction := .dirIn
    localEntryPoint := invite.toUser }

/-- Names of the parties; a party without a name goes by its number. -/
def SessionData.setPartyNames (s : SessionData) (localName remoteName : String) : SessionData :=
  { s with
    remotePartyName := if remoteName = "" then s.remoteParty else remoteName
    localPartyName := if localName = "" then s.localParty else localName }

def byRequestUri (invite : SipInviteInfo) : Bool :=
  cfg.sipRequestUriAsLocalParty && !equalsNoCase invite.requestUri invite.toUser &&
    invite.requestUri != ""

def processMetadataSipIncoming (invite : SipInviteInfo) : SessionM Unit := do
  let sh ← shared
  let trackingId := (← keys).trackingId
  if byRequestUri cfg invite then
    update (setPartiesByRequestUri sh invite)
  else
    update fun s => { s with
      remoteParty := sh.getLocalPartyMap invite.fromUser
      localParty := sh.getLocalPartyMap invite.toUser
      direction := .dirIn }
  update fun s => s.setPartyNames invite.toName invite.fromName
  update fun s =>
    { s.setSides ((invite.receiverIp, invite.receiverMac), (invite.senderIp, invite.senderMac)) with
      capturePort := trackingId }

def processMetadataSipOutgoing (invite : SipInviteInfo) : SessionM Unit := do
  let sh ← shared
  let trackingId := (← keys).trackingId
  if byRequestUri cfg invite then
    update (setPartiesByRequestUri sh invite)
  else
    update fun s => { s with
      remoteParty := sh.getLocalPartyMap invite.toUser
      localParty := sh.getLocalPartyMap invite.fromUser
      direction := .dirOut }
  update fun s => s.setPartyNames invite.fromName invite.toName
  update fun s =>
    { s.setSides ((invite.senderIp, invite.senderMac), (invite.receiverIp, invite.receiverMac)) with
      capturePort := trackingId }

/-- Whether a call goes out, as `ProcessMetadataSip` works it out. -/
def sipIsOutgoing (invite : SipInviteInfo) : Bool :=
  if !cfg.sipDirectionReferenceIpAddresses.isEmpty then
    !matchesReferenceAddresses cfg invite.senderIp
  else if matchesSipDomain cfg invite.fromDomain then true
  else if matchesSipDomain cfg invite.toDomain then false
  else !matchesStringList invite.userAgent cfg.sipDirectionReferenceUserAgents

/-- A SIP session has an INVITE. -/
def processMetadataSip : SessionM Unit := do
  let s ← session
  match s.invite with
  | none => pure ()
  | some invite =>
      if s.sipDialedNumber ≠ "" then
        processMetadataSipOutgoing cfg invite
        update fun s => { s with
          remoteParty := invite.sipDialedNumber
          localParty := invite.toUser
          direction := .dirOut }
      else
        if sipIsOutgoing cfg invite then processMetadataSipOutgoing cfg invite
        else processMetadataSipIncoming cfg invite
        if invite.sipGroupPickUpPatternDetected then
          update fun s => { s with direction := .dirIn }
        if s.sipRemoteParty ≠ "" then
          update fun s => { s with remoteParty := s.sipRemoteParty }

/-! ### Skinny -/

def processMetadataSkinny (rtpPacket : RtpPacketInfo) : SessionM Unit := do
  let trackingId := (← keys).trackingId
  update fun s =>
    { s.setSides (packetSides (s.endPointIp != rtpPacket.destIp) rtpPacket) with
      capturePort := trackingId }

/-! ### Reports -/

def reportNamesAsTags : SessionM Unit := do
  if cfg.sipReportNamesAsTags then
    emitKeyValue "localname" (← session).localPartyName
    emitKeyValue "remotename" (← session).remotePartyName

/-- Report the name of the local party, or its number. -/
def reportLocalParty (useName : Bool) : SessionM Unit := do
  if useName && (← session).localPartyName != "" then
    update fun s => { s with localPartyName := addLocalIp cfg s s.localPartyName }
    emit { type := .etLocalParty, value := (← session).localPartyName }
  else
    update fun s => { s with localParty := addLocalIp cfg s s.localParty }
    emit { type := .etLocalParty, value := (← session).localParty }

/-- Report the remote party and the local entry point. -/
def reportRemoteParty : SessionM Unit := do
  let s ← session
  let value :=
    if cfg.partiesUseName && s.remotePartyName != "" then s.remotePartyName else s.remoteParty
  emit { type := .etRemoteParty, value := value }
  update fun s => { s with remotePartyReported := true }
  if s.localEntryPoint ≠ "" then
    emit { type := .etLocalEntryPoint, value := s.localEntryPoint }

def updateMetadataSkinny : SessionM Unit := do
  reportLocalParty cfg cfg.skinnyNameAsLocalParty
  emit { type := .etRemoteParty, value := (← session).remoteParty }
  emit { type := .etUpdate }

def reportMetadataUpdateSkinny : SessionM Unit := do
  reportRemoteParty cfg
  reportNamesAsTags cfg
  if (← session).started then
    emit { type := .etUpdate, value := (← session).remoteParty }

/-- The last of the INVITEs up to the first validated one that came to this address. -/
def inviteTo (ip : InAddr) (invites : List SipInviteInfo) : Option (SipInviteInfo × Nat) :=
  ((invites.takeWhile fun invite => !invite.validated).zipIdx.filter
    fun entry => entry.1.receiverIp = ip).getLast?

def updateMetadataSipOnRtpChange (rtpPacket : RtpPacketInfo) (sourceRtpAddressIsNew : Bool) :
    SessionM Unit := do
  let sh ← shared
  let s ← session
  let ip := if sourceRtpAddressIsNew then rtpPacket.sourceIp else rtpPacket.destIp
  match inviteTo ip s.invites, s.invite with
  | some (invite, index), some first =>
      update fun s => { s with
        invites := s.invites.modify index fun invite => { invite with validated := true } }
      if cfg.sipRequestUriAsLocalParty && !equalsNoCase first.requestUri first.toUser then
        update (setPartiesByRequestUri sh first)
      else
        update fun s => { s with
          remoteParty := sh.getLocalPartyMap invite.fromUser
          localParty := sh.getLocalPartyMap invite.toUser }
      update fun s => s.setPartyNames first.toName first.fromName
      update fun s => { s with localIp := invite.receiverIp, localMac := invite.receiverMac }
      update fun s => { s with localParty := addLocalIp cfg s s.localParty }
      let s ← session
      emit { type := .etLocalParty, value := s.localParty }
      emit { type := .etRemoteParty, value := s.remoteParty }
      reportNamesAsTags cfg
      emit { type := .etLocalIp, value := inetNtopV4 s.localIp }
      emit { type := .etUpdate }
  | _, _ => pure ()

/-- The local party that `ReportMetadata` settles on before it reports. -/
def settleLocalParty (sh : Shared) (s : SessionData) : String :=
  let byIp := sh.getLocalPartyMap (inetNtopV4 s.localIp)
  let party :=
    if cfg.localPartyForceLocalIp then byIp
    else if s.localParty = "" ∧ s.protocol = .protSkinny then
      match sh.getVoIpEndpointInfo cfg s.endPointIp s.endPointSignallingPort with
      | some endpoint => sh.getLocalPartyMap endpoint.extension
      | none => s.localParty
    else s.localParty
  let party :=
    if party ≠ "" then party
    else if cfg.useMacIfNoLocalParty then memMacToHumanReadable s.localMac party
    else byIp
  if cfg.localPartyForceLocalMac then sh.getLocalPartyMap (memMacToHumanReadable s.localMac "")
  else party

/-- Keep the local name for the local address, or take the kept one. -/
def mapLocalPartyName : SessionM Unit := do
  let s ← session
  let localIp := inetNtopV4 s.localIp
  let mapped := ((← shared).localPartyNameMap.find? localIp).getD ""
  if s.localPartyName ≠ s.localParty ∧ s.localPartyName ≠ "" ∧ s.localPartyName ≠ mapped then
    modify fun c => { c with
      shared := { c.shared with
        localPartyNameMap := c.shared.localPartyNameMap.set localIp s.localPartyName } }
  else if mapped ≠ "" ∧ s.localPartyName ≠ mapped then
    update fun s => { s with localPartyName := mapped }

def reportTags : List (String × String) → SessionM Unit
  | [] => pure ()
  | (key, value) :: tags => do
      emitKeyValue key value
      reportTags tags

/-- `VoIpSession::ReportMetadata`. -/
def reportMetadata : SessionM Unit := do
  let sh ← shared
  let callId := (← keys).callId
  update fun s => { s with localParty := settleLocalParty cfg sh s }
  if (← session).isCallPickUp then
    update fun s => { s with direction := if s.direction = .dirIn then .dirOut else .dirIn }
  if cfg.localPartyNameMapEnable then
    mapLocalPartyName
  reportLocalParty cfg
    ((decide ((← session).protocol = .protSkinny) && cfg.skinnyNameAsLocalParty) ||
      cfg.partiesUseName || cfg.localPartyUseName)
  update fun s => { s with localPartyReported := true }
  reportRemoteParty cfg
  reportNamesAsTags cfg
  let s ← session
  emit { type := .etDirection, value := directionToString s.direction }
  emit { type := .etLocalIp, value := inetNtopV4 s.localIp }
  emit { type := .etRemoteIp, value := inetNtopV4 s.remoteIp }
  emit { type := .etOrkUid, value := s.orkUid }
  emit { type := .etCallId, value := callId }
  if s.onDemand then
    emitKeyValue "ondemand" "true"
  reportTags s.tags.entries
  emit { type := .etEndMetadata }

end

end OrkAudio.VoIp
