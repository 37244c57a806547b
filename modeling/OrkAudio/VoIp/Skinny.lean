import OrkAudio.VoIp.Sessions

/-! Skinny messages in the store of the sessions. -/

namespace OrkAudio.VoIp

open Lib

/-- `VoIpSessions::GenerateSkinnyCallId`. -/
def generateSkinnyCallId (cfg : Config) (endpointIp : InAddr) (endpointSkinnyPort : UInt16)
    (callId : UInt32) : String :=
  let skinnyCallId := toString callId ++ "@" ++ inetNtopV4 endpointIp
  if cfg.skinnyBehindNat then skinnyCallId ++ "," ++ toString endpointSkinnyPort else skinnyCallId

/-- `VoIpSessions::SetEndpointExtension`. -/
def setEndpointExtension (cfg : Config) (extension : String) (endpointIp : InAddr)
    (callId : String) (skinnyPort : UInt16) (sh : Shared) : Shared :=
  let ipAndPort := craft64bitMediaAddress cfg endpointIp skinnyPort
  let endpoint := (sh.endpoints.find? ipAndPort).getD { ip := endpointIp, skinnyPort := skinnyPort }
  { sh with
    endpoints := sh.endpoints.set ipAndPort
      { endpoint with
        extension := extension
        latestCallId := if callId = "" then endpoint.latestCallId else callId } }

namespace VoIpSessions

section

variable (cfg : Config) (env : Env)

def isGlobalNumber (st : VoIpSessions) (number : String) : Bool :=
  st.skinnyGlobalNumbersList.contains number

/-! ### CallInfo -/

def updateEndpointWithCallInfo (st : VoIpSessions) (callInfo : SkCallInfo)
    (headers : SkinnyHeaders) : VoIpSessions :=
  let callId := generateSkinnyCallId cfg headers.ipDest headers.tcpDest callInfo.callId
  let party :=
    if callInfo.callType = skinnyCallTypeInbound ∨ callInfo.callType = skinnyCallTypeForward then
      some callInfo.calledParty
    else if callInfo.callType = skinnyCallTypeOutbound then some callInfo.callingParty
    else none
  match party with
  | some extension =>
      if st.isGlobalNumber extension then st
      else
        { st with
          shared :=
            setEndpointExtension cfg extension headers.ipDest callId headers.tcpDest st.shared }
  | none => st

/-- A CallInfo for a session there is: its time, and its data when it may be updated. -/
def updateWithCallInfo (st : VoIpSessions) (r : Nat) (callInfo : SkCallInfo)
    (headers : SkinnyHeaders) : VoIpSessions :=
  st.perform r do
    update fun s => { s with skinnyLastCallInfoTime := env.usec }
    let oldParty := (← VoIp.session).remoteParty
    if cfg.skinnyAllowCallInfoUpdate then
      updateSessionWithCallInfo cfg st.isGlobalNumber callInfo
    reportSkinnyCallInfoTags cfg callInfo headers
    let remoteParty := (← VoIp.session).remoteParty
    if remoteParty ≠ "" ∧ oldParty ≠ remoteParty then
      reportMetadataUpdateSkinny cfg

/-- A CallInfo that comes after the media address of its session. -/
def lateCallInfo (st : VoIpSessions) (r : Nat) (callId : String) (callInfo : SkCallInfo)
    (headers : SkinnyHeaders) : VoIpSessions :=
  let st := st.setSession r { st.session r with callId := callId }
  let st := st.perform r do
    update fun s => { s with skinnyLastCallInfoTime := env.usec }
    updateSessionWithCallInfo cfg st.isGlobalNumber callInfo
    updateMetadataSkinny cfg
    reportSkinnyCallInfoTags cfg callInfo headers
  st.insertByCallId r

/-- With `m_skinnyCallInfoStopsPrevious`, stop the session of the endpoint whose RTP is
newest, if its stream has just started. -/
def stopPrevious (st : VoIpSessions) (endpointIp : InAddr) : VoIpSessions :=
  match st.findNewestRtpByEndpointIp endpointIp with
  | some previous =>
      let tolerance := cfg.skinnyCallInfoStopsPreviousToleranceSec
      if cfg.skinnyCallInfoStopsPrevious ∧
          (tolerance = 0 ∨ env.time - (st.session previous).lastRtpStreamStart ≤ tolerance) then
        st.stop cfg env previous
      else st
  | none => st

def newCallInfo (st : VoIpSessions) (callId : String) (callInfo : SkCallInfo)
    (headers : SkinnyHeaders) : VoIpSessions :=
  let r := st.next
  let st := st.create cfg env fun s => { s with
    callId := callId
    endPointIp := headers.ipDest
    endPointSignallingPort := headers.tcpDest
    protocol := .protSkinny
    skinnyLastCallInfoTime := env.usec }
  let st := st.perform r do
    updateSessionWithCallInfo cfg st.isGlobalNumber callInfo
    reportSkinnyCallInfoTags cfg callInfo headers
  (st.stopPrevious cfg env headers.ipDest).insertByCallId r

/-- The session at the endpoint that a late CallInfo is for. -/
def findLate (st : VoIpSessions) (endpointIp : InAddr) : Option Nat :=
  match st.findByEndpointIpUsingIpAndPort endpointIp with
  | some r => if cfg.skinnyAllowLateCallInfo ∧ (st.session r).callId = "" then some r else none
  | none => none

/-- `VoIpSessions::ReportSkinnyCallInfo`. -/
def reportSkinnyCallInfo (st : VoIpSessions) (callInfo : SkCallInfo) (headers : SkinnyHeaders) :
    VoIpSessions :=
  let callId := generateSkinnyCallId cfg headers.ipDest headers.tcpDest callInfo.callId
  let st := st.updateEndpointWithCallInfo cfg callInfo headers
  match st.byCallId.find? callId with
  | some r => st.updateWithCallInfo cfg env r callInfo headers
  | none =>
      match st.findLate cfg headers.ipDest with
      | some r => st.lateCallInfo cfg env r callId callInfo headers
      | none => st.newCallInfo cfg env callId callInfo headers

def reportSkinnyCallStateMessage (st : VoIpSessions) (message : SkCallStateMessage)
    (headers : SkinnyHeaders) : VoIpSessions :=
  match st.byCallId.find?
      (generateSkinnyCallId cfg headers.ipDest headers.tcpDest message.callId) with
  | some r => st.perform r (reportSkinnyCallState cfg env message)
  | none => st

/-! ### Media -/

/-- The media address of a session that has had its CallInfo, or of a new session that may
have it later. `signallingPort` is the port of the endpoint, `lookupPort` the one under which
its extension is looked up. -/
def setSkinnyMediaAddress (st : VoIpSessions) (endpointIp : InAddr)
    (signallingPort lookupPort : UInt16) (passThruPartyId : Int) (mediaIp : InAddr)
    (mediaPort : UInt16) : VoIpSessions :=
  match st.findNewestByEndpoint cfg endpointIp signallingPort with
  | some r =>
      if (st.session r).ipAndPort = 0 ∨ cfg.skinnyDynamicMediaAddress then
        let st := st.perform r
          (update fun s => { s with skinnyPassThruPartyId := passThruPartyId })
        st.setMediaAddress cfg env r mediaIp mediaPort
      else st
  | none =>
      if cfg.skinnyAllowLateCallInfo ∧ (st.findByEndpointIp endpointIp 0).isNone then
        let r := st.next
        let party :=
          ((st.shared.getVoIpEndpointInfo cfg endpointIp lookupPort).map
            VoIpEndpointInfo.extension).getD (inetNtopV4 endpointIp)
        let st := st.create cfg env fun s => { s with
          endPointIp := endpointIp
          endPointSignallingPort := signallingPort
          protocol := .protSkinny
          skinnyPassThruPartyId := passThruPartyId
          localParty := st.shared.getLocalPartyMap party }
        st.setMediaAddress cfg env r mediaIp mediaPort
      else st

def reportSkinnyOpenReceiveChannelAck (st : VoIpSessions) (openReceive : SkOpenReceiveChannelAck)
    (headers : SkinnyHeaders) : VoIpSessions :=
  if cfg.skinnyIgnoreOpenReceiveChannelAck then st
  else
    st.setSkinnyMediaAddress cfg env openReceive.endpointIpAddr headers.tcpSource headers.tcpSource
      openReceive.passThruPartyId openReceive.endpointIpAddr openReceive.endpointTcpPort.toUInt16

def reportSkinnyStartMediaTransmission (st : VoIpSessions) (startMedia : SkStartMediaTransmission)
    (headers : SkinnyHeaders) : VoIpSessions :=
  st.setSkinnyMediaAddress cfg env headers.ipDest headers.tcpDest headers.tcpSource
    startMedia.passThruPartyId startMedia.remoteIpAddr startMedia.remoteTcpPort.toUInt16

/-- The session of a StopMedia: by its conference, else by endpoint and pass-through party. -/
def findStopped (st : VoIpSessions) (stopMedia : SkStopMediaTransmission)
    (headers : SkinnyHeaders) : Option Nat :=
  (if stopMedia.conferenceId ≠ 0 then
    st.byCallId.find?
      (generateSkinnyCallId cfg headers.ipDest headers.tcpDest stopMedia.conferenceId)
  else none).or
  (if stopMedia.passThruPartyId ≠ 0 then
    st.findByEndpointIp headers.ipDest stopMedia.passThruPartyId
  else none)

def reportSkinnyStopMediaTransmission (st : VoIpSessions) (stopMedia : SkStopMediaTransmission)
    (headers : SkinnyHeaders) : VoIpSessions :=
  if cfg.skinnyIgnoreStopMediaTransmission then st
  else
    match st.findStopped cfg stopMedia headers with
    | some r => if (st.session r).onHold then st else st.stop cfg env r
    | none => st

def reportSkinnyLineStat (st : VoIpSessions) (lineStat : SkLineStat) (headers : SkinnyHeaders) :
    VoIpSessions :=
  if lineStat.lineDirNumber.utf8ByteSize > 1 then
    { st with
      shared := setEndpointExtension cfg lineStat.lineDirNumber headers.ipDest "" headers.tcpDest
        st.shared }
  else st

/-! ### Soft keys -/

def reportSkinnySoftKeyHold (st : VoIpSessions) (skEvent : SkSoftKey) (headers : SkinnyHeaders) :
    VoIpSessions :=
  match st.byCallId.find?
      (generateSkinnyCallId cfg headers.ipSrc headers.tcpSource skEvent.callIdentifier) with
  | some r => if cfg.skinnyIgnoreHold then st else st.perform r (goOnHold cfg env.time)
  | none => st

def reportSkinnySoftKeyResume (st : VoIpSessions) (skEvent : SkSoftKey)
    (headers : SkinnyHeaders) : VoIpSessions :=
  match st.byCallId.find?
      (generateSkinnyCallId cfg headers.ipSrc headers.tcpSource skEvent.callIdentifier) with
  | some r => st.perform r do
      goOffHold cfg env.time
      update fun s => { s with lastUpdated := env.time }
  | none => st

/-- Tag the call of a new conference. -/
def tagConference (endpointIp : InAddr) (skinnyPort : UInt16) : SessionM Unit := do
  let orkUid := (← VoIp.session).orkUid
  emitKeyValue conferenceTransferTrackingTagKey orkUid
  modify fun c => { c with
    shared := c.shared.updateEndpoint cfg endpointIp skinnyPort fun endpoint =>
      { endpoint with origOrkUid := orkUid } }

def reportSkinnySoftKeyConfPressed (st : VoIpSessions) (endpointIp : InAddr)
    (skinnyPort : UInt16) : VoIpSessions :=
  match st.shared.getVoIpEndpointInfo cfg endpointIp skinnyPort with
  | none => st
  | some endpoint =>
      match st.byCallId.find? endpoint.latestCallId with
      | none => st
      | some r =>
          st.perform r do
            if endpoint.lastConnectedWithConference < endpoint.lastConferencePressed ∨
                endpoint.lastConferencePressed = 0 then
              tagConference cfg endpointIp skinnyPort
            modify fun c => { c with
              shared := c.shared.updateEndpoint cfg endpointIp skinnyPort fun endpoint =>
                { endpoint with lastConferencePressed := env.time } }

def reportSkinnySoftKeySetConfConnected (st : VoIpSessions) (endpointIp : InAddr)
    (skinnyPort : UInt16) : VoIpSessions :=
  { st with
    shared := st.shared.updateEndpoint cfg endpointIp skinnyPort fun endpoint =>
      { endpoint with lastConnectedWithConference := env.time } }

def reportSkinnySoftKeySetTransfConnected (st : VoIpSessions) (skEvent : SkSoftKey)
    (headers : SkinnyHeaders) : VoIpSessions :=
  match st.byCallId.find?
      (generateSkinnyCallId cfg headers.ipDest headers.tcpDest skEvent.callIdentifier) with
  | some r => st.stop cfg env r
  | none => st

end

end VoIpSessions

end OrkAudio.VoIp
