import OrkAudio.VoIp.RtpPacket

/-! What a session takes from the SIP and Skinny messages that belong to it. -/

namespace OrkAudio.VoIp

open Lib

section

variable (cfg : Config) (env : Env)

/-! ### SIP -/

/-- With interception, a party that is set to "s" takes its number from the BYE. -/
def reportSipBye (bye : SipByeInfo) : SessionM Unit := do
  if cfg.dahdiIntercept then
    let sh ← shared
    let s ← session
    if equalsNoCase s.localParty "s" then
      let party := if !equalsNoCase s.remoteParty bye.toUser then bye.toUser else bye.fromUser
      update fun s => { s with localParty := sh.getLocalPartyMap party }
      emit { type := .etLocalParty, value := (← session).localParty }
    else if equalsNoCase s.remoteParty "s" then
      let party :=
        if !equalsNoCase s.localParty (sh.getLocalPartyMap bye.toUser) then bye.toUser
        else bye.fromUser
      update fun s => { s with remoteParty := sh.getLocalPartyMap party }
      emit { type := .etRemoteParty, value := (← session).remoteParty }

def isNecExternal (invite : SipInviteInfo) : Bool :=
  let fromOrTo :=
    if cfg.sipDirectionReferenceIpAddresses.isMatch invite.senderIp then invite.fromUser
    else invite.toUser
  matchesStringList fromOrTo cfg.necVoipGatewayNames

/-- `dsp` is the display text that the store has settled on. -/
def reportSipNotify (dsp : String) : SessionM Unit := do
  let s ← session
  if (s.invite.map (isNecExternal cfg)).getD false then
    if s.started then
      update fun s => { s with remotePartyNecSip := dsp, sipRemoteParty := dsp }
      emit { type := .etRemoteParty, value := dsp }
    else
      update fun s => { s with
        invite := s.invite.map fun invite => { invite with sipRemoteParty := dsp }
        sipRemoteParty := dsp
        remotePartyNecSip := dsp }

/-- `OrkSession::UpdateRtpPayloadMap`. -/
def updateRtpPayloadMap (map : List UInt8) (s : SessionData) : SessionData :=
  { s with
    orekaRtpPayloadTypeMap :=
      s.orekaRtpPayloadTypeMap.zipWith (fun old new => if new ≠ 0 then new else old) map }

/-- The remote party that the INVITE names; another one before it was the entry point. -/
def setSipRemoteParty (invite : SipInviteInfo) (s : SessionData) : SessionData :=
  if (invite.sipMethod = "INVITE" ∨ cfg.sipRemotePartyFrom200OKEnable) ∧ invite.sipRemoteParty ≠ ""
  then
    if s.sipRemoteParty = "" then { s with sipRemoteParty := invite.sipRemoteParty }
    else if !equalsNoCase s.sipRemoteParty invite.sipRemoteParty then
      { s with localEntryPoint := s.sipRemoteParty, sipRemoteParty := invite.sipRemoteParty }
    else s
  else s

/-- Tags that a session has are kept. -/
def addTags (fields : List (String × String)) (s : SessionData) : SessionData :=
  { s with tags := fields.foldl (fun tags field => tags.insertNew field.1 field.2) s.tags }

def triggerOnDemandViaTag (s : SessionData) : SessionData :=
  match s.tags.find? cfg.sipOnDemandFieldName with
  | some value =>
      if cfg.sipOnDemandFieldName ≠ "" ∧ containsText value cfg.sipOnDemandFieldValue then
        { s with keepRtp := true, onDemand := true }
      else s
  | none => s

/-- `VoIpSession::ReportSipInvite`. -/
def reportSipInvite (invite : SipInviteInfo) : SessionM Unit := do
  let sh ← shared
  if cfg.sipMetadataUseLastInvite || (← session).invite.isNone then
    update fun s => { s with invite := some invite }
  if equalsNoCase invite.fromUser invite.toUser ∧ invite.contact ≠ "" then
    update fun s => { s with
      remoteParty := sh.getLocalPartyMap invite.contact
      direction := .dirOut }
    emit { type := .etRemoteParty, value := (← session).remoteParty }
    emit { type := .etDirection, value := directionToString .dirOut }
  update fun s => { s with invites := invite :: s.invites }
  if invite.telephoneEventPayloadType ≠ 0 then
    update fun s => { s with telephoneEventPayloadType := invite.telephoneEventPayloadType }
  update (setSipRemoteParty cfg invite)
  update (updateRtpPayloadMap invite.orekaRtpPayloadTypeMap)
  if (← session).started then
    reportTags invite.extractedFields.entries
  else
    update (addTags invite.extractedFields.entries)
  update (triggerOnDemandViaTag cfg)

def reportSipInfo (info : SipInfo) : SessionM Unit := do
  let s ← session
  if !(s.lastSipInfo.map fun last => equalsNoCase last.cSeq info.cSeq).getD false then
    update fun s => { s with lastSipInfo := some info }
    if info.dtmfDigit ≠ "" ∧ cfg.sipInfoDtmfRfc2976Detect then
      reportDtmfDigit cfg env { digitValue := info.dtmfDigit }
    if cfg.sipOnDemandFieldValue ≠ "" ∧ info.onDemand then
      markAsOnDemand "both"
    if cfg.sipOnDemandFieldValueOff ≠ "" ∧ info.onDemandOff then
      markAsOnDemandOff

/-- The REFER with the recording that the call was transferred from. -/
def reportSipRefer (info : SipRefer) : SessionM SipRefer := do
  let orkUid := (← session).orkUid
  emitKeyValue conferenceTransferTrackingTagKey orkUid
  return { info with origOrkUid := orkUid }

def reportSipErrorPacket : SessionM Unit := emitKeyValue "failed" "true"

/-! ### Skinny -/

def isInSkinnyReportingList (item : String) : Bool :=
  cfg.skinnyReportTags.any fun element => equalsNoCase element item

/-- `VoIpSession::ReportSkinnyCallInfo`. -/
def reportSkinnyCallInfoTags (callInfo : SkCallInfo) (headers : SkinnyHeaders) :
    SessionM Unit := do
  if isInSkinnyReportingList cfg "localpartyname" then
    update (addTags [("localpartyname", callInfo.callingPartyName)])
  if isInSkinnyReportingList cfg "callmanager" then
    update (addTags [("callmanager", inetNtopV4 headers.ipSrc)])

/-- Call state 8 is hold. -/
def reportSkinnyCallState (message : SkCallStateMessage) : SessionM Unit := do
  if message.callState = 8 ∧ !cfg.skinnyIgnoreHold then
    goOnHold cfg env.time

/-- The parties of a CallInfo, but for the direction. -/
def setCallInfoParties (isGlobalNumber : String → Bool) (sh : Shared)
    (party partyName remoteParty : String) (s : SessionData) : SessionData :=
  { s with
    localParty := if isGlobalNumber party then s.localParty else sh.getLocalPartyMap party
    localPartyName := sh.getLocalPartyMap partyName
    remoteParty := if remoteParty = "" then s.remoteParty else sh.getLocalPartyMap remoteParty }

/-- On a forwarded call the called party is the entry point and the party is that of the
endpoint, when that is known. -/
def setForwardParties (isGlobalNumber : String → Bool) (sh : Shared) (callInfo : SkCallInfo)
    (s : SessionData) : SessionData :=
  let extension :=
    ((sh.getVoIpEndpointInfo cfg s.endPointIp s.endPointSignallingPort).map
      VoIpEndpointInfo.extension).getD ""
  { s with
    localParty :=
      if extension ≠ "" ∧ !isGlobalNumber callInfo.calledParty then sh.getLocalPartyMap extension
      else s.localParty
    localEntryPoint := if extension ≠ "" then callInfo.calledParty else s.localEntryPoint
    localPartyName := sh.getLocalPartyMap callInfo.calledPartyName
    remoteParty :=
      if callInfo.callingParty = "" then s.remoteParty
      else sh.getLocalPartyMap callInfo.callingParty
    direction := .dirIn }

/-- `VoIpSessions::UpdateSessionWithCallInfo`. -/
def updateSessionWithCallInfo (isGlobalNumber : String → Bool) (callInfo : SkCallInfo) :
    SessionM Unit := do
  let sh ← shared
  update fun s => { s with skinnyLineInstance := callInfo.lineInstance }
  if !((← session).hasReceivedCallInfo && callInfo.calledParty = callInfo.callingParty) then
    update fun s => { s with hasReceivedCallInfo := true }
    if callInfo.callType = skinnyCallTypeForward then
      update (setForwardParties cfg isGlobalNumber sh callInfo)
    else if callInfo.callType = skinnyCallTypeOutbound then
      update fun s =>
        { setCallInfoParties isGlobalNumber sh callInfo.callingParty callInfo.callingPartyName
            callInfo.calledParty s with direction := .dirOut }
    else
      update fun s =>
        let s := setCallInfoParties isGlobalNumber sh callInfo.calledParty
          callInfo.calledPartyName callInfo.callingParty s
        if callInfo.callType = skinnyCallTypeInbound then { s with direction := .dirIn } else s

end

end OrkAudio.VoIp
