import OrkAudio.VoIp.Sessions

/-! SIP messages in the store of the sessions. -/

namespace OrkAudio.VoIp

open Lib

/-! ### The port of an INVITE -/

/-- `rtpPortAsInt`: 0 unless the whole text is a number. -/
def rtpPortAsInt (invite : SipInviteInfo) : Int :=
  let port := strtol invite.fromRtpPort
  if port.2 then longToInt port.1 else 0

/-- An `int` passed as an `unsigned short`. -/
def toPort (n : Int) : UInt16 := UInt16.ofNat (n % 65536).toNat

/-- `rtpPort`: the port when it is in range, else 0. -/
def rtpPort (invite : SipInviteInfo) : UInt16 :=
  if 0 < rtpPortAsInt invite ∧ rtpPortAsInt invite < 65535 then toPort (rtpPortAsInt invite) else 0

namespace VoIpSessions

section

variable (cfg : Config) (env : Env)

/-! ### INVITE -/

/-- A subscription to the call that an INVITE replaces makes it a call pick-up. -/
def trySessionCallPickUp (st : VoIpSessions) (r : Nat) (replacesCallId : String) : VoIpSessions :=
  if cfg.sipCallPickUpSupport ∧ replacesCallId ∈ st.sipSubscribeMap then
    { st.perform r (update fun s => { s with isCallPickUp := true }) with
      sipSubscribeMap := st.sipSubscribeMap.erase replacesCallId }
  else st

/-- `SetMediaAddress` with the address in the INVITE and with that of its sender. -/
def setInviteAddresses (st : VoIpSessions) (r : Nat) (invite : SipInviteInfo) : VoIpSessions :=
  let st := st.setMediaAddress cfg env r invite.fromRtpIp (rtpPort invite)
  if cfg.sipTrackMediaAddressOnSender then
    st.setMediaAddress cfg env r invite.originalSenderIp (rtpPort invite)
  else st

/-- An INVITE for a session there is: hold, resume, or new data for the call. -/
def inviteExisting (st : VoIpSessions) (r : Nat) (invite : SipInviteInfo) (remaps : Bool) :
    VoIpSessions :=
  if invite.attrSendonly then st.perform r (goOnHold cfg invite.recvTime)
  else if (st.session r).onHold && cfg.sipInviteCanPutOffHold then
    let st := st.perform r do
      goOffHold cfg invite.recvTime
      update fun s => { s with lastUpdated := env.time }
    st.setMediaAddress cfg env r invite.fromRtpIp (rtpPort invite)
  else
    let st := if remaps then st.setInviteAddresses cfg env r invite else st
    (st.trySessionCallPickUp cfg r invite.replacesId).perform r (reportSipInvite cfg invite)

/-- A NOTIFY that came before its INVITE names the remote party, once. -/
def takePreInviteNotify (st : VoIpSessions) (invite : SipInviteInfo) :
    SipInviteInfo × VoIpSessions :=
  let endpointIp :=
    if cfg.sipDirectionReferenceIpAddresses.isMatch invite.senderIp then invite.receiverIp
    else invite.senderIp
  match (st.shared.getVoIpEndpointInfo cfg endpointIp 0).bind VoIpEndpointInfo.preInviteNotifyRef with
  | some notify =>
      if cfg.sipNotifySupport ∧ isNecExternal cfg invite then
        ({ invite with sipRemoteParty := notify.dsp },
          { st with
            shared := st.shared.updateEndpoint cfg endpointIp 0 fun endpoint =>
              { endpoint with preInviteNotifyRef := none } })
      else (invite, st)
  | none => (invite, st)

def inviteNew (st : VoIpSessions) (invite : SipInviteInfo) : VoIpSessions :=
  let r := st.next
  let st := st.create cfg env fun s => { s with
    callId := invite.callId
    protocol := .protSip
    sipDialedNumber := invite.sipDialedNumber }
  let st := st.trySessionCallPickUp cfg r invite.replacesId
  let taken := st.takePreInviteNotify cfg invite
  let st := taken.2.perform r do
    reportSipInvite cfg taken.1
    update fun s => { s with sipLastInvite := env.usec }
  (st.setInviteAddresses cfg env r taken.1).insertByCallId r

/-- The session that the call-id of an INVITE designates, or a new one. -/
def inviteByCallId (st : VoIpSessions) (invite : SipInviteInfo) (ipAndPort : Nat) :
    VoIpSessions :=
  match st.byCallId.find? invite.callId with
  | some r =>
      st.inviteExisting cfg env r invite
        ((st.session r).ipAndPort != ipAndPort && cfg.sipDynamicMediaAddress)
  | none => st.inviteNew cfg env invite

/-- `VoIpSessions::ReportSipInvite`. The lookup goes by the number as it is, also when it is
out of range. -/
def reportSipInvite (st : VoIpSessions) (invite : SipInviteInfo) : VoIpSessions :=
  if cfg.sipIgnoredMediaAddresses.isMatch invite.fromRtpIp then st
  else
    let port := toPort (rtpPortAsInt invite)
    match st.findByMediaAddress cfg invite.fromRtpIp port with
    | none =>
        let ip := if cfg.sipTrackMediaAddressOnSender then invite.originalSenderIp
          else invite.fromRtpIp
        st.inviteByCallId cfg env invite (craft64bitMediaAddress cfg ip port)
    | some r =>
        let s := st.session r
        let ipAndPort := craft64bitMediaAddress cfg invite.fromRtpIp port
        if s.protocol = .protRawRtp ∨ (s.protocol = .protSip ∧ cfg.rtpAllowMultipleMappings) then
          st.inviteByCallId cfg env invite ipAndPort
        else if !cfg.rtpAllowMultipleMappings ∧ !equalsNoCase invite.callId s.callId then
          -- Taken for raw RTP, so that `SetMediaAddress` replaces it.
          (st.perform r (update fun s => { s with protocol := .protRawRtp })).inviteByCallId cfg env
            invite ipAndPort
        else st.inviteExisting cfg env r invite false

/-! ### The other messages -/

def reportSipSubscribe (st : VoIpSessions) (subscribe : SipSubscribeInfo) : VoIpSessions :=
  let kept :=
    if st.sipSubscribeMap.length > 200 then st.sipSubscribeMap.tail else st.sipSubscribeMap
  { st with
    sipSubscribeMap :=
      if subscribe.callId ∈ kept then kept else kept ++ [subscribe.callId] }

def reportSipErrorPacket (st : VoIpSessions) (info : SipFailureMessageInfo) : VoIpSessions :=
  match st.byCallId.find? info.callId with
  | some r =>
      -- 407 asks for authentication.
      if info.errorCode = "407" then st
      else (st.perform r VoIp.reportSipErrorPacket).stop cfg env r
  | none => st

def reportSipSessionProgress (st : VoIpSessions) (info : SipSessionProgressInfo) : VoIpSessions :=
  match st.byCallId.find? info.callId with
  | some r =>
      let mediaPort := toPort (atoi info.mediaPort)
      let st := st.setMediaAddress cfg env r info.mediaIp mediaPort
      if cfg.sipTrackMediaAddressOnSender then
        st.setMediaAddress cfg env r info.senderIp mediaPort
      else st
  | none => st

def saveLocalPartyMap (st : VoIpSessions) (oldparty newparty : String) : VoIpSessions :=
  { st with
    shared := { st.shared with
      localPartyMap := st.shared.localPartyMap.insertNew oldparty newparty } }

def reportSip302MovedTemporarily (st : VoIpSessions) (info : Sip302MovedTemporarilyInfo) :
    VoIpSessions :=
  st.saveLocalPartyMap info.contact info.toUser

/-- Whether a 200 OK moves the session to its media address. -/
def takes200OkAddress (s : VoIpSession) (info : Sip200OkInfo) : Bool :=
  info.hasSdp && cfg.sipUse200OkMediaAddress &&
    (cfg.sipDynamicMediaAddress ||
      s.numRtpPackets == 0 &&
        (s.rtpIp == 0 || cfg.rtpAllowMultipleMappings || cfg.lanIpRanges.isMatch s.rtpIp ||
          !cfg.lanIpRanges.isMatch info.mediaIp))

def reportSip200Ok (st : VoIpSessions) (info : Sip200OkInfo) : VoIpSessions :=
  match st.byCallId.find? info.callId with
  | some r =>
      if takes200OkAddress cfg (st.session r) info then
        st.setMediaAddress cfg env r info.mediaIp (toPort (atoi info.mediaPort))
      else st
  | none => st

def reportSipBye (st : VoIpSessions) (bye : SipByeInfo) : VoIpSessions :=
  match st.byCallId.find? bye.callId with
  | some r => (st.perform r (VoIp.reportSipBye cfg bye)).stop cfg env r
  | none => st

/-- The newest session whose phone a NOTIFY goes to. -/
def findNotified (st : VoIpSessions) (notify : SipNotifyInfo) : Option Nat :=
  st.findNewest st.sessionsByCallId
    (fun s =>
      (s.invite.map fun invite =>
        decide ((if cfg.sipDirectionReferenceIpAddresses.isMatch invite.senderIp
          then invite.receiverIp else invite.senderIp) = notify.receiverIp)).getD false)
    fun s => s.sipLastInvite

/-- Keep a NOTIFY that no session takes for the INVITE to come. -/
def keepNotify (st : VoIpSessions) (notify : SipNotifyInfo) : VoIpSessions :=
  let receiverIp := craft64bitMediaAddress cfg notify.receiverIp 0
  let endpoint := (st.shared.endpoints.find? receiverIp).getD
    { ip := env.endpointIp, skinnyPort := env.endpointSkinnyPort }
  { st with
    shared := { st.shared with
      endpoints := st.shared.endpoints.set receiverIp
        { endpoint with preInviteNotifyRef := some notify } } }

/-- The display text: only letters and digits, and off hold what it was on hold. -/
def notifiedDsp (st : VoIpSessions) (notify : SipNotifyInfo) : String :=
  let dsp := if notify.dsp.toList.all Char.isAlphanum then notify.dsp else ""
  if notify.offHoldMarker ∧ dsp = "" then (st.lastHoldRemoteParty.find? notify.pkey).getD ""
  else dsp

def reportSipNotify (st : VoIpSessions) (notify : SipNotifyInfo) : VoIpSessions :=
  let dsp := st.notifiedDsp notify
  match st.findNotified cfg notify with
  | some r =>
      if notify.onHoldMarker then
        { st with
          lastHoldRemoteParty :=
            st.lastHoldRemoteParty.set notify.pkey (st.session r).sipRemoteParty }
      else if dsp.utf8ByteSize < 4 then st
      else st.perform r (VoIp.reportSipNotify cfg dsp)
  | none =>
      if dsp.utf8ByteSize < 4 then st else st.keepNotify cfg env { notify with dsp := dsp }

def reportSipInfo (st : VoIpSessions) (info : SipInfo) : VoIpSessions :=
  match st.byCallId.find? info.callId with
  | some r => st.perform r (VoIp.reportSipInfo cfg env info)
  | none => st

def reportSipRefer (st : VoIpSessions) (info : SipRefer) : VoIpSessions :=
  match st.byCallId.find? info.callId with
  | some r =>
      let result := st.act r <| VoIp.reportSipRefer { info with
        referToParty := st.shared.getLocalPartyMap info.referToParty
        referredByParty := st.shared.getLocalPartyMap info.referredByParty }
      { result.2 with sipReferList := st.sipReferList ++ [result.1] }
  | none => st

end

end VoIpSessions

end OrkAudio.VoIp
