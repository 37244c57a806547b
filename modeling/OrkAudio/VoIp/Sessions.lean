import OrkAudio.VoIp.Signalling

/-! The sessions: the two indexes, how sessions are found, created, mapped and stopped.

A session is referred to by a number. `session` gives what is known of it, also after it has
left the indexes, as the shared pointers of the source do. `history` is not in the source: it
records which sessions were stopped, entered into an index, handed a packet or tracked. -/

namespace OrkAudio.VoIp

open Lib

/-! ### The store -/

inductive StoreEvent
  | stopped (r : Nat)
  | entered (r : Nat)
  | handed (r : Nat) (accepted : Bool)
  | tracked (r : Nat)
  deriving DecidableEq, Repr

structure VoIpSessions where
  session : Nat → VoIpSession
  next : Nat
  byIpAndPort : OrderedMap Nat Nat
  byCallId : OrderedMap String Nat
  shared : Shared
  skinnyGlobalNumbersList : List String
  sipSubscribeMap : List String
  sipReferList : List SipRefer
  alphaCounter : Nat
  lastHoldRemoteParty : OrderedMap Int String
  history : List StoreEvent

/-- `AlphaCounter::GetNext`: the counter and the text it gives. -/
def alphaCounterNext (counter : Nat) : Nat := if 26 ^ 4 ≤ counter + 1 then 0 else counter + 1

def alphaText (counter : Nat) : String :=
  String.ofList ([counter / 26 ^ 3, counter % 26 ^ 3 / 26 ^ 2, counter % 26 ^ 2 / 26, counter % 26].map
    fun digit => Char.ofNat (digit + 65))

namespace VoIpSessions

/-- The store before any message; the counter starts anywhere. -/
def empty (cfg : Config) (env : Env) (alphaCounter : Nat) : VoIpSessions where
  session := fun _ => VoIpSession.new cfg env ""
  next := 0
  byIpAndPort := .empty
  byCallId := .empty
  shared := {}
  skinnyGlobalNumbersList := []
  sipSubscribeMap := []
  sipReferList := []
  alphaCounter := alphaCounter
  lastHoldRemoteParty := .empty
  history := []

/-- The session was passed to `VoIpSessions::Stop`. -/
def isDismissed (st : VoIpSessions) (r : Nat) : Prop := .stopped r ∈ st.history

section

variable (cfg : Config) (env : Env)

/-! ### One session -/

def setSession (st : VoIpSessions) (r : Nat) (s : VoIpSession) : VoIpSessions :=
  { st with session := fun q => if q = r then s else st.session q }

/-- Run a function of a session on it. -/
def act {α : Type} (st : VoIpSessions) (r : Nat) (m : SessionM α) : α × VoIpSessions :=
  let result := (st.session r).run m st.shared
  (result.1, { st.setSession r result.2.2 with shared := result.2.1 })

abbrev perform (st : VoIpSessions) (r : Nat) (m : SessionM Unit) : VoIpSessions := (st.act r m).2

/-- A new session with the next tracking id, and what its creator sets. -/
def create (st : VoIpSessions) (init : VoIpSession → VoIpSession) : VoIpSessions :=
  let alphaCounter := alphaCounterNext st.alphaCounter
  { st.setSession st.next (init (VoIpSession.new cfg env (alphaText alphaCounter))) with
    next := st.next + 1
    alphaCounter := alphaCounter }

/-! ### Finding sessions -/

def findByMediaAddress (st : VoIpSessions) (ipAddress : InAddr) (udpPort : UInt16) : Option Nat :=
  st.byIpAndPort.find? (craft64bitMediaAddress cfg ipAddress udpPort)

/-- The sessions of an index in the order of its keys. -/
def sessionsByIpAndPort (st : VoIpSessions) : List Nat := st.byIpAndPort.entries.map Prod.snd

def sessionsByCallId (st : VoIpSessions) : List Nat := st.byCallId.entries.map Prod.snd

/-- The first session with this property. -/
def findFirst (st : VoIpSessions) (refs : List Nat) (p : VoIpSession → Bool) : Option Nat :=
  refs.find? fun r => p (st.session r)

/-- The session with this property that has the latest time, the first one of them. -/
def findNewest (st : VoIpSessions) (refs : List Nat) (p : VoIpSession → Bool)
    (time : VoIpSession → Int) : Option Nat :=
  (refs.filter fun r => p (st.session r)).foldl
    (fun newest r =>
      match newest with
      | none => some r
      | some old => if time (st.session r) > time (st.session old) then some r else newest) none

def findByEndpointIpUsingIpAndPort (st : VoIpSessions) (endpointIp : InAddr) : Option Nat :=
  st.findFirst st.sessionsByIpAndPort fun s => s.endPointIp = endpointIp

def findByEndpointIp (st : VoIpSessions) (endpointIp : InAddr) (passThruPartyId : Int) :
    Option Nat :=
  st.findFirst st.sessionsByCallId fun s =>
    s.endPointIp = endpointIp &&
      (passThruPartyId = 0 || s.skinnyPassThruPartyId = passThruPartyId)

/-- A session without RTP counts whenever it is met. -/
def findNewestRtpByEndpointIp (st : VoIpSessions) (endpointIp : InAddr) : Option Nat :=
  ((st.sessionsByIpAndPort.filter fun r => (st.session r).endPointIp = endpointIp).foldl
    (fun found r =>
      match (st.session r).lastRtpPacket with
      | none => (found.1, some r)
      | some lastPacket =>
          if lastPacket.arrivalTimestamp > found.1 then (lastPacket.arrivalTimestamp, some r)
          else found) ((0, none) : Int × Option Nat)).2

def findNewestByEndpoint (st : VoIpSessions) (endpointIp : InAddr)
    (endpointSignallingPort : UInt16) : Option Nat :=
  st.findNewest st.sessionsByCallId
    (fun s => s.endPointIp = endpointIp &&
      (!cfg.skinnyBehindNat || s.endPointSignallingPort = endpointSignallingPort))
    fun s => s.skinnyLastCallInfoTime

/-! ### Stopping a session -/

/-- Whether a REFER transferred a call into this session. -/
def isTransferredBy (sh : Shared) (s : SessionData) (invite : SipInviteInfo)
    (sipRefer : SipRefer) : Bool :=
  let fromUser := sh.getLocalPartyMap invite.fromUser
  let toUser := sh.getLocalPartyMap invite.toUser
  decide (sipRefer.timestamp - s.creationDate / 1000000 > -2) &&
    equalsNoCase toUser sipRefer.referToParty &&
    (equalsNoCase fromUser sipRefer.referredByParty || equalsNoCase fromUser sipRefer.fromUser ||
      equalsNoCase fromUser sipRefer.toUser)

/-- Tag the session with the recording it was transferred from, and put the party in that the
REFER names. -/
def tagTransfer (sipRefer : SipRefer) : SessionM Unit := do
  emitKeyValue conferenceTransferTrackingTagKey sipRefer.origOrkUid
  if equalsNoCase (← VoIp.session).remoteParty sipRefer.referredByParty then
    update fun s => { s with remoteParty := sipRefer.referredParty }
    emit { type := .etRemoteParty, value := sipRefer.referredParty }

def tagTransfers : List SipRefer → SessionM Unit
  | [] => pure ()
  | sipRefer :: rest => do
      tagTransfer sipRefer
      tagTransfers rest

/-- The REFERs that are not expired. -/
def liveRefers (st : VoIpSessions) : List SipRefer :=
  st.sipReferList.filter fun sipRefer =>
    decide (env.time - sipRefer.timestamp ≤ cfg.transferTimeOutInSec)

/-- The REFERs that `TaggingSipTransferCalls` tags a session with. A SIP session has an
INVITE. -/
def taggingRefers (st : VoIpSessions) (r : Nat) : List SipRefer :=
  let s := (st.session r).toSessionData
  match s.invite with
  | none => []
  | some invite => (st.liveRefers cfg env).filter (isTransferredBy st.shared s invite)

def taggingSipTransferCalls (st : VoIpSessions) (r : Nat) : VoIpSessions :=
  if (st.session r).protocol ≠ .protSip ∨ st.sipReferList = [] ∨
      (st.session r).numRtpPackets < 300 then st
  else
    { st.perform r (tagTransfers (st.taggingRefers cfg env r)) with
      sipReferList := st.liveRefers cfg env }

/-- Erase an entry when it is the session's own. -/
def eraseOwn (r : Nat) (byIpAndPort : OrderedMap Nat Nat) (mediaAddress : Nat) :
    OrderedMap Nat Nat :=
  if mediaAddress = 0 then byIpAndPort else byIpAndPort.eraseEntry mediaAddress r

def removeFromMediaAddressMap (st : VoIpSessions) (r mediaAddress : Nat) : VoIpSessions :=
  { st with byIpAndPort := eraseOwn r st.byIpAndPort mediaAddress }

/-- `VoIpSessions::Stop`. -/
def stop (st : VoIpSessions) (r : Nat) : VoIpSessions :=
  let st := st.taggingSipTransferCalls cfg env r
  let s := (st.session r).stop cfg st.shared
  { st.setSession r { s with mediaAddresses := [] } with
    byCallId := if s.callId ≠ "" then st.byCallId.erase s.callId else st.byCallId
    byIpAndPort := s.mediaAddresses.foldl (eraseOwn r) st.byIpAndPort
    history := st.history ++ [.stopped r] }

/-! ### Entering a session -/

def insertByIpAndPort (st : VoIpSessions) (mediaAddress r : Nat) : VoIpSessions :=
  match st.byIpAndPort.find? mediaAddress with
  | some _ => st
  | none =>
      { st with
        byIpAndPort := st.byIpAndPort.insertNew mediaAddress r
        history := st.history ++ [.entered r] }

def insertByCallId (st : VoIpSessions) (r : Nat) : VoIpSessions :=
  let callId := (st.session r).callId
  match st.byCallId.find? callId with
  | some _ => st
  | none =>
      { st with
        byCallId := st.byCallId.insertNew callId r
        history := st.history ++ [.entered r] }

def isMediaAddressAllowed (mediaIp : InAddr) : Bool :=
  !cfg.mediaAddressBlockedIpRanges.isMatch mediaIp &&
    (cfg.mediaAddressAllowedIpRanges.isEmpty || cfg.mediaAddressAllowedIpRanges.isMatch mediaIp)

/-- Whether a session takes an address over from the old one. -/
def takesOver (old s : VoIpSession) : Bool :=
  old.protocol = .protRawRtp || old.numRtpPackets = 0 ||
    (s.protocol = .protSkinny && cfg.skinnyAllowMediaAddressTransfer) ||
    (s.protocol = .protSip && cfg.sipAllowMediaAddressTransfer)

/-- Give a session an address that is free. With single mappings it loses the one it has. -/
def changeMediaAddress (st : VoIpSessions) (r : Nat) (mediaIp : InAddr) (mediaAddress : Nat) :
    VoIpSessions :=
  let st :=
    if cfg.rtpAllowMultipleMappings then st
    else
      let st := st.removeFromMediaAddressMap r (st.session r).ipAndPort
      st.setSession r { st.session r with mediaAddresses := [] }
  let s := st.session r
  let st := st.setSession r { s with
    mediaAddresses := s.mediaAddresses ++ [mediaAddress]
    ipAndPort := mediaAddress
    rtpIp := mediaIp }
  st.insertByIpAndPort mediaAddress r

/-- Make room for a session on an address that another one has. -/
def replaceSession (st : VoIpSessions) (old mediaAddress : Nat) : VoIpSessions :=
  if (st.session old).protocol = .protRawRtp then st.stop cfg env old
  else st.removeFromMediaAddressMap old mediaAddress

/-- `VoIpSessions::SetMediaAddress`. -/
def setMediaAddress (st : VoIpSessions) (r : Nat) (mediaIp : InAddr) (mediaPort : UInt16) :
    VoIpSessions :=
  if mediaPort = 0 ∨ !isMediaAddressAllowed cfg mediaIp then st
  else
    let mediaAddress := craft64bitMediaAddress cfg mediaIp mediaPort
    match st.byIpAndPort.find? mediaAddress with
    | none => st.changeMediaAddress cfg r mediaIp mediaAddress
    | some old =>
        if equalsNoCase (st.session old).trackingId (st.session r).trackingId then st
        else if takesOver cfg (st.session old) (st.session r) then
          (st.replaceSession cfg env old mediaAddress).changeMediaAddress cfg r mediaIp mediaAddress
        else st

end

end VoIpSessions

end OrkAudio.VoIp
