import OrkAudio.Lib.Steps
import OrkAudio.VoIp.Operations

/-! Runs of the store: its operations in any order, from the empty store on. -/

namespace OrkAudio.VoIp

open Lib

/-- How a request for a capture names the session. -/
inductive CaptureRequest
  | party (party : String)
  | orkuid (orkuid : String)
  | nativecallid (nativecallid : String)

def CaptureRequest.isFor (s : VoIpSession) : CaptureRequest → Bool
  | .party text => s.partyMatches text
  | .orkuid text => s.orkUidMatches text
  | .nativecallid text => s.nativeCallIdMatches text

/-- What the store is called for. -/
inductive Operation
  | sipInvite (invite : SipInviteInfo)
  | sipSubscribe (subscribe : SipSubscribeInfo)
  | sipErrorPacket (info : SipFailureMessageInfo)
  | sipSessionProgress (info : SipSessionProgressInfo)
  | sip302MovedTemporarily (info : Sip302MovedTemporarilyInfo)
  | sip200Ok (info : Sip200OkInfo)
  | sipBye (bye : SipByeInfo)
  | sipNotify (notify : SipNotifyInfo)
  | sipInfo (info : SipInfo)
  | sipRefer (info : SipRefer)
  | skinnyCallInfo (callInfo : SkCallInfo) (headers : SkinnyHeaders)
  | skinnyCallState (message : SkCallStateMessage) (headers : SkinnyHeaders)
  | skinnyOpenReceiveChannelAck (openReceive : SkOpenReceiveChannelAck) (headers : SkinnyHeaders)
  | skinnyStartMediaTransmission (startMedia : SkStartMediaTransmission) (headers : SkinnyHeaders)
  | skinnyStopMediaTransmission (stopMedia : SkStopMediaTransmission) (headers : SkinnyHeaders)
  | skinnyLineStat (lineStat : SkLineStat) (headers : SkinnyHeaders)
  | skinnySoftKeyHold (skEvent : SkSoftKey) (headers : SkinnyHeaders)
  | skinnySoftKeyResume (skEvent : SkSoftKey) (headers : SkinnyHeaders)
  | skinnySoftKeyConfPressed (endpointIp : InAddr) (skinnyPort : UInt16)
  | skinnySoftKeySetConfConnected (endpointIp : InAddr) (skinnyPort : UInt16)
  | skinnySoftKeySetTransfConnected (skEvent : SkSoftKey) (headers : SkinnyHeaders)
  | rtcpSrcDescription (rtcpInfo : RtcpSrcDescriptionPacketInfo)
  | rtp (rtpPacket : RtpPacketInfo)
  | startCapture (request : CaptureRequest) (side : String)
  | pauseCapture (request : CaptureRequest)
  | stopCapture (request : CaptureRequest)
  | onDemandMarkerByIp (endpointIp : InAddr)
  | saveExtractedUrl (endpointIp : InAddr) (pairs : List (String × String))
  | clearLocalPartyMap
  | saveSkinnyGlobalNumbersList (number : String)
  | hoover (now : Int)
  | stopAll

namespace Operation

section

variable (cfg : Config) (env : Env)

def run (st : VoIpSessions) : Operation → VoIpSessions
  | sipInvite invite => st.reportSipInvite cfg env invite
  | sipSubscribe subscribe => st.reportSipSubscribe subscribe
  | sipErrorPacket info => st.reportSipErrorPacket cfg env info
  | sipSessionProgress info => st.reportSipSessionProgress cfg env info
  | sip302MovedTemporarily info => st.reportSip302MovedTemporarily info
  | sip200Ok info => st.reportSip200Ok cfg env info
  | sipBye bye => st.reportSipBye cfg env bye
  | sipNotify notify => st.reportSipNotify cfg env notify
  | sipInfo info => st.reportSipInfo cfg env info
  | sipRefer info => st.reportSipRefer info
  | skinnyCallInfo callInfo headers => st.reportSkinnyCallInfo cfg env callInfo headers
  | skinnyCallState message headers => st.reportSkinnyCallStateMessage cfg env message headers
  | skinnyOpenReceiveChannelAck openReceive headers =>
      st.reportSkinnyOpenReceiveChannelAck cfg env openReceive headers
  | skinnyStartMediaTransmission startMedia headers =>
      st.reportSkinnyStartMediaTransmission cfg env startMedia headers
  | skinnyStopMediaTransmission stopMedia headers =>
      st.reportSkinnyStopMediaTransmission cfg env stopMedia headers
  | skinnyLineStat lineStat headers => st.reportSkinnyLineStat cfg lineStat headers
  | skinnySoftKeyHold skEvent headers => st.reportSkinnySoftKeyHold cfg env skEvent headers
  | skinnySoftKeyResume skEvent headers => st.reportSkinnySoftKeyResume cfg env skEvent headers
  | skinnySoftKeyConfPressed endpointIp skinnyPort =>
      st.reportSkinnySoftKeyConfPressed cfg env endpointIp skinnyPort
  | skinnySoftKeySetConfConnected endpointIp skinnyPort =>
      st.reportSkinnySoftKeySetConfConnected cfg env endpointIp skinnyPort
  | skinnySoftKeySetTransfConnected skEvent headers =>
      st.reportSkinnySoftKeySetTransfConnected cfg env skEvent headers
  | rtcpSrcDescription rtcpInfo => st.reportRtcpSrcDescription cfg rtcpInfo
  | rtp rtpPacket => st.reportRtpPacket cfg env rtpPacket
  | startCapture request side => (st.startCaptureOf (fun s => request.isFor s) side).2
  | pauseCapture request => (st.pauseCaptureOf fun s => request.isFor s).2
  | stopCapture request => (st.stopCaptureOf cfg env fun s => request.isFor s).2
  | onDemandMarkerByIp endpointIp => st.reportOnDemandMarkerByIp endpointIp
  | saveExtractedUrl endpointIp pairs => st.saveExtractedUrl cfg env endpointIp pairs
  | clearLocalPartyMap => st.clearLocalPartyMap
  | saveSkinnyGlobalNumbersList number => st.saveSkinnyGlobalNumbersList number
  | hoover now => st.hoover cfg env now
  | stopAll => st.stopAll cfg env

/-- A capture is not stopped for a session without a call-id. -/
def StopsKeyed (st : VoIpSessions) : Operation → Prop
  | stopCapture request => ∀ r, st.findCaptured (fun s => request.isFor s) = some r →
      (st.session r).callId ≠ ""
  | _ => True

/-- An RTP packet does not have the session tracked that was stopped for it. -/
def TracksAlive (st : VoIpSessions) : Operation → Prop
  | rtp rtpPacket => ¬VoIpSessions.TracksStopped cfg env rtpPacket st
  | _ => True

/-- A session that is to be tagged does not time out at two addresses. -/
def StopsOnce (st : VoIpSessions) : Operation → Prop
  | hoover now => VoIpSessions.TagsOnce cfg env st now
  | stopAll => VoIpSessions.TagsOnce cfg env st (env.time + 2 * cfg.rtpSessionOnHoldTimeOutSec)
  | _ => True

end

end Operation

/-- One operation, with the environment that it runs in. -/
def StoreStep (cfg : Config) (st : VoIpSessions) (label : Env × Operation)
    (st' : VoIpSessions) : Prop :=
  st' = label.2.run cfg label.1 st

namespace VoIpSessions

section

variable {cfg : Config} {env : Env} {scope : Scope} {st st' : VoIpSessions}

theorem sound_empty (alphaCounter : Nat) : Sound cfg scope (empty cfg env alphaCounter) where
  address a r hmem := by cases hmem
  callId k r hmem := by cases hmem
  keyed _ k r hmem := by cases hmem
  fresh r registered := by
    rcases registered with ⟨a, hmem⟩ | ⟨k, hmem⟩
    · cases hmem
    · cases hmem
  past r hdismissed := by cases hdismissed
  addressed r := isAddressed_of_nil rfl
  alive _ r registered hdismissed := by cases hdismissed
  history _ := List.Pairwise.nil
  dismissed r hstopped := by cases hstopped
  ended _ r := ended_of_silent rfl

theorem beside_acts (same : SameSessions st st') : Acts cfg env scope st st' :=
  .single (.beside same)

theorem operation_acts {op : Operation} (sound : Sound cfg scope st)
    (hkeyed : scope.keyed → op.StopsKeyed st) (halive : scope.alive → op.TracksAlive cfg env st)
    (hquiet : scope.quiet → op.StopsOnce cfg env st) :
    Acts cfg env scope st (op.run cfg env st) := by
  cases op with
  | sipInvite invite => exact reportSipInvite_acts cfg env invite sound invite.callId_ne
  | sipSubscribe subscribe => exact beside_acts ⟨rfl, rfl, rfl, rfl, rfl⟩
  | sipErrorPacket info => exact reportSipErrorPacket_acts cfg env sound info
  | sipSessionProgress info => exact reportSipSessionProgress_acts cfg env sound info
  | sip302MovedTemporarily info => exact beside_acts ⟨rfl, rfl, rfl, rfl, rfl⟩
  | sip200Ok info => exact reportSip200Ok_acts cfg env sound info
  | sipBye bye => exact reportSipBye_acts cfg env sound bye
  | sipNotify notify => exact reportSipNotify_acts cfg env sound notify
  | sipInfo info => exact reportSipInfo_acts cfg env sound info
  | sipRefer info => exact reportSipRefer_acts cfg env sound info
  | skinnyCallInfo callInfo headers =>
      exact reportSkinnyCallInfo_acts cfg env sound callInfo headers
  | skinnyCallState message headers =>
      exact reportSkinnyCallStateMessage_acts cfg env sound message headers
  | skinnyOpenReceiveChannelAck openReceive headers =>
      exact reportSkinnyOpenReceiveChannelAck_acts cfg env sound openReceive headers
  | skinnyStartMediaTransmission startMedia headers =>
      exact setSkinnyMediaAddress_acts cfg env sound _ _ _ _ _ _
  | skinnyStopMediaTransmission stopMedia headers =>
      exact reportSkinnyStopMediaTransmission_acts cfg env sound stopMedia headers
  | skinnyLineStat lineStat headers =>
      exact beside_acts (reportSkinnyLineStat_same cfg lineStat headers)
  | skinnySoftKeyHold skEvent headers =>
      exact reportSkinnySoftKeyHold_acts cfg env sound skEvent headers
  | skinnySoftKeyResume skEvent headers =>
      exact reportSkinnySoftKeyResume_acts cfg env sound skEvent headers
  | skinnySoftKeyConfPressed endpointIp skinnyPort =>
      exact reportSkinnySoftKeyConfPressed_acts cfg env sound endpointIp skinnyPort
  | skinnySoftKeySetConfConnected endpointIp skinnyPort =>
      exact beside_acts ⟨rfl, rfl, rfl, rfl, rfl⟩
  | skinnySoftKeySetTransfConnected skEvent headers =>
      exact reportSkinnySoftKeySetTransfConnected_acts cfg env sound skEvent headers
  | rtcpSrcDescription rtcpInfo => exact reportRtcpSrcDescription_acts cfg env sound rtcpInfo
  | rtp rtpPacket => exact reportRtpPacket_acts cfg env rtpPacket sound halive
  | startCapture request side => exact startCaptureOf_acts cfg env sound _ side
  | pauseCapture request => exact pauseCaptureOf_acts cfg env sound _
  | stopCapture request => exact stopCaptureOf_acts cfg env sound _ hkeyed
  | onDemandMarkerByIp endpointIp =>
      exact reportOnDemandMarkerByIp_acts cfg env sound endpointIp
  | saveExtractedUrl endpointIp pairs => exact beside_acts ⟨rfl, rfl, rfl, rfl, rfl⟩
  | clearLocalPartyMap => exact beside_acts ⟨rfl, rfl, rfl, rfl, rfl⟩
  | saveSkinnyGlobalNumbersList number => exact beside_acts ⟨rfl, rfl, rfl, rfl, rfl⟩
  | hoover now => exact hoover_acts cfg env sound now hquiet
  | stopAll => exact hoover_acts cfg env sound _ hquiet

/-- What the operations of a run are asked for holds of every store that it reaches. -/
theorem sound_of_run {cond : VoIpSessions → Env × Operation → Prop}
    (hkeyed : scope.keyed → ∀ st label, cond st label → label.2.StopsKeyed st)
    (halive : scope.alive → ∀ st label, cond st label → label.2.TracksAlive cfg label.1 st)
    (hquiet : scope.quiet → ∀ st label, cond st label → label.2.StopsOnce cfg label.1 st)
    {alphaCounter : Nat} {labels : List (Env × Operation)}
    (run : Steps (Guarded cond (StoreStep cfg)) (empty cfg env alphaCounter) labels st) :
    Sound cfg scope st := by
  apply run.invariant _ (sound_empty alphaCounter)
  intro before label after sound step
  obtain ⟨hcond, rfl⟩ := step
  have acts := operation_acts sound (fun h => hkeyed h _ _ hcond)
    (fun h => halive h _ _ hcond) fun h => hquiet h _ _ hcond
  exact Acts.sound acts sound

/-- A store that some run of operations leads to. -/
def Reachable (cfg : Config) (st : VoIpSessions) : Prop :=
  ∃ env alphaCounter labels, Steps (StoreStep cfg) (empty cfg env alphaCounter) labels st

theorem Reachable.sound (reachable : Reachable cfg st) : Sound cfg .any st := by
  obtain ⟨env, alphaCounter, labels, run⟩ := reachable
  have guarded : Steps (Guarded (fun _ _ => True) (StoreStep cfg)) (empty cfg env alphaCounter)
      labels st := run.mono fun _ _ _ step => ⟨trivial, step⟩
  exact sound_of_run False.elim False.elim False.elim guarded

/-- The store that the operations lead to. -/
def runAll (cfg : Config) (st : VoIpSessions) (labels : List (Env × Operation)) :
    VoIpSessions :=
  labels.foldl (fun st label => label.2.run cfg label.1 st) st

theorem steps_runAll (labels : List (Env × Operation)) :
    Steps (StoreStep cfg) st labels (runAll cfg st labels) := by
  induction labels generalizing st with
  | nil => exact .nil st
  | cons label labels ih => exact .cons rfl ih

theorem reachable_runAll (env : Env) (alphaCounter : Nat) (labels : List (Env × Operation)) :
    Reachable cfg (runAll cfg (empty cfg env alphaCounter) labels) :=
  ⟨env, alphaCounter, labels, steps_runAll labels⟩

end

end VoIpSessions

end OrkAudio.VoIp
