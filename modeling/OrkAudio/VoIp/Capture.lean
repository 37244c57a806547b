import OrkAudio.VoIp.Sessions

/-! Starting, pausing and stopping the capture of a session on request, and the sessions
that have timed out. -/

namespace OrkAudio.VoIp

open Lib

namespace VoIpSessions

section

variable (cfg : Config) (env : Env)

/-! ### Start and pause -/

/-- The session that a request finds: the first one by address. -/
def findCaptured (st : VoIpSessions) (p : VoIpSession → Bool) : Option Nat :=
  st.findFirst st.sessionsByIpAndPort p

/-- Keep the RTP of the session that is found; gives its `GetOrkUid`. -/
def startCaptureOf (st : VoIpSessions) (p : VoIpSession → Bool) (side : String) :
    String × VoIpSessions :=
  match st.findCaptured p with
  | some r =>
      ((st.session r).orkUid, st.perform r do
        update fun s => { s with keepRtp := true }
        markAsOnDemand side)
  | none => ("", st)

def pauseCaptureOf (st : VoIpSessions) (p : VoIpSession → Bool) : String × VoIpSessions :=
  match st.findCaptured p with
  | some r => ((st.session r).orkUid, st.perform r (update fun s => { s with keepRtp := false }))
  | none => ("", st)

def startCapture (st : VoIpSessions) (party side : String) : String × VoIpSessions :=
  st.startCaptureOf (fun s => s.partyMatches party) side

def startCaptureOrkuid (st : VoIpSessions) (orkuid side : String) : VoIpSessions :=
  (st.startCaptureOf (fun s => s.orkUidMatches orkuid) side).2

def startCaptureNativeCallId (st : VoIpSessions) (nativecallid side : String) :
    String × VoIpSessions :=
  st.startCaptureOf (fun s => s.nativeCallIdMatches nativecallid) side

def pauseCapture (st : VoIpSessions) (party : String) : String × VoIpSessions :=
  st.pauseCaptureOf fun s => s.partyMatches party

def pauseCaptureOrkuid (st : VoIpSessions) (orkuid : String) : VoIpSessions :=
  (st.pauseCaptureOf fun s => s.orkUidMatches orkuid).2

def pauseCaptureNativeCallId (st : VoIpSessions) (nativecallid : String) :
    String × VoIpSessions :=
  st.pauseCaptureOf fun s => s.nativeCallIdMatches nativecallid

/-! ### Stop -/

/-- `VoIpSessions::CopyMetadataToNewSession`. -/
def copyMetadataToNewSession (old new : VoIpSession) : VoIpSession :=
  { new with
    ipAndPort := old.ipAndPort
    rtpIp := old.rtpIp
    callId := old.callId
    invite := old.invite
    protocol := old.protocol
    remotePartyNecSip := old.remotePartyNecSip
    localParty := old.localParty
    remoteParty := old.remoteParty
    localEntryPoint := old.localEntryPoint
    localPartyName := old.localPartyName
    remotePartyName := old.remotePartyName
    localPartyReported := old.localPartyReported
    remotePartyReported := old.remotePartyReported
    rtcpLocalParty := old.rtcpLocalParty
    rtcpRemoteParty := old.rtcpRemoteParty
    direction := old.direction
    localSide := old.localSide
    endPointIp := old.endPointIp
    endPointSignallingPort := old.endPointSignallingPort
    skinnyPassThruPartyId := old.skinnyPassThruPartyId
    sipLastInvite := old.sipLastInvite
    skinnyLastCallInfoTime := old.skinnyLastCallInfoTime
    skinnyLineInstance := old.skinnyLineInstance
    mediaAddresses := old.mediaAddresses
    sipDialedNumber := old.sipDialedNumber
    sipRemoteParty := old.sipRemoteParty
    isCallPickUp := old.isCallPickUp
    ssrcCandidate := old.ssrcCandidate
    metadataProcessed := true }

def qos (s : SessionData) : String :=
  s!"RtpNumPkts:{s.numRtpPackets} RtpNumMissingPkts:{s.rtpNumMissingPkts} " ++
    s!"RtpNumSeqGaps:{s.rtpNumSeqGaps} RtpMaxSeqGap:{s.highestRtpSeqNumDelta}"

/-- Stop a session; a new one with its metadata is entered in its place. -/
def replaceCaptured (st : VoIpSessions) (r : Nat) : VoIpSessions :=
  let new := st.next
  let st := st.create cfg env (copyMetadataToNewSession (st.session r))
  let st := st.stop cfg env r
  (st.insertByIpAndPort (st.session new).ipAndPort new).insertByCallId new

/-- Stop the session that is found; gives its `GetOrkUid` and the text about its RTP. -/
def stopCaptureOf (st : VoIpSessions) (p : VoIpSession → Bool) : (String × String) × VoIpSessions :=
  match st.findCaptured p with
  | some r =>
      (((st.session r).orkUid, qos (st.session r).toSessionData), st.replaceCaptured cfg env r)
  | none => (("", ""), st)

def stopCapture (st : VoIpSessions) (party : String) : (String × String) × VoIpSessions :=
  st.stopCaptureOf cfg env fun s => s.partyMatches party

def stopCaptureOrkuid (st : VoIpSessions) (orkuid : String) : String × VoIpSessions :=
  let result := st.stopCaptureOf cfg env fun s => s.orkUidMatches orkuid
  (result.1.2, result.2)

def stopCaptureNativeCallId (st : VoIpSessions) (nativecallid : String) :
    (String × String) × VoIpSessions :=
  st.stopCaptureOf cfg env fun s => s.nativeCallIdMatches nativecallid

/-! ### On demand -/

/-- The session on an address that has the latest RTP. -/
def findLatestRtp (st : VoIpSessions) (endpointIp : InAddr) : Option Nat :=
  ((st.sessionsByIpAndPort.filter fun r =>
      (st.session r).isMatchedLocalOrRemoteIp endpointIp && 0 < (st.session r).numRtpPackets).foldl
    (fun found r =>
      if (st.session r).lastUpdated > found.1 then ((st.session r).lastUpdated, some r) else found)
    ((0, none) : Int × Option Nat)).2

def reportOnDemandMarkerByIp (st : VoIpSessions) (endpointIp : InAddr) : VoIpSessions :=
  match st.findLatestRtp endpointIp with
  | some r => st.perform r triggerOnDemandViaDtmf
  | none => st

/-! ### Data beside the sessions -/

/-- The pairs that `UrlExtraction` has read from a URL, kept at the endpoint. -/
def saveExtractedUrl (st : VoIpSessions) (endpointIp : InAddr) (pairs : List (String × String)) :
    VoIpSessions :=
  let ipAndPort := craft64bitMediaAddress cfg endpointIp 0
  let save (sh : Shared) (pair : String × String) : Shared :=
    let endpoint := (sh.endpoints.find? ipAndPort).getD
      { ip := endpointIp, skinnyPort := env.endpointSkinnyPort }
    { sh with
      endpoints := sh.endpoints.set ipAndPort
        { endpoint with
          urlExtractionMap :=
            endpoint.urlExtractionMap.set pair.1 { value := pair.2, timestamp := env.time } } }
  { st with shared := pairs.foldl save st.shared }

def clearLocalPartyMap (st : VoIpSessions) : VoIpSessions :=
  { st with shared := { st.shared with localPartyMap := .empty } }

def saveSkinnyGlobalNumbersList (st : VoIpSessions) (number : String) : VoIpSessions :=
  { st with skinnyGlobalNumbersList := number :: st.skinnyGlobalNumbersList }

/-! ### Timeouts -/

/-- The timeout of a session that is not raw RTP. -/
def signalledTimeout (s : SessionData) : Int :=
  if s.onHold then cfg.rtpSessionOnHoldTimeOutSec
  else if s.numRtpPackets ≠ 0 ∨ s.numIgnoredRtpPackets ≠ 0 then
    cfg.rtpSessionWithSignallingTimeoutSec
  else cfg.rtpSessionWithSignallingInitialTimeoutSec

/-- The timeout that applies to a session. -/
def sessionTimeout (s : SessionData) : Int :=
  if s.protocol = .protRawRtp then cfg.rtpSessionTimeoutSec else signalledTimeout cfg s

/-- Stop the sessions of an index that are over their timeout. A session is visited once for
each of its entries. -/
def dismiss (st : VoIpSessions) (refs : List Nat) (now : Int) (timeout : SessionData → Int) :
    VoIpSessions :=
  (refs.filter fun r =>
      now - (st.session r).lastUpdated > timeout (st.session r).toSessionData).foldl
    (fun st r => st.stop cfg env r) st

/-- `VoIpSessions::Hoover`. By call-id no session is taken for raw RTP. -/
def hoover (st : VoIpSessions) (now : Int) : VoIpSessions :=
  let st := st.dismiss cfg env st.sessionsByIpAndPort now (sessionTimeout cfg)
  st.dismiss cfg env st.sessionsByCallId now (signalledTimeout cfg)

def stopAll (st : VoIpSessions) : VoIpSessions :=
  st.hoover cfg env (env.time + 2 * cfg.rtpSessionOnHoldTimeOutSec)

end

end VoIpSessions

end OrkAudio.VoIp
