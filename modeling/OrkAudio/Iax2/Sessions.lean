import Mathlib.Logic.Function.Basic
import OrkAudio.Iax2.Session
import OrkAudio.Lib.Steps
import OrkAudio.VoIp.Sessions

/-! The IAX2 sessions: the maps from the inviting and the invited party to the session.

Sessions and frames are referred to by numbers. `output` holds the calls of the two
callbacks, the first one first. `stops` is not in the source: it records every call of
`Stop` with the maps before and after it. -/

namespace OrkAudio.Iax2

open Lib VoIp

/-! ### The store -/

/-- The two maps, `m_bySrcIpAndCallNo` and `m_byDestIpAndCallNo`. -/
structure Maps where
  bySrcIpAndCallNo : OrderedMap String Nat := .empty
  byDestIpAndCallNo : OrderedMap String Nat := .empty

structure StopCall where
  r : Nat
  before : Maps
  after : Maps

structure Iax2Sessions extends Maps where
  session : Nat → Iax2Session
  next : Nat
  packet : Nat → Iax2PacketInfo
  nextPacket : Nat
  alphaCounter : Nat
  output : List Output
  stops : List StopCall

namespace Maps

/-- Erase the entries under the keys of a session. -/
def eraseKeys (maps : Maps) (s : Iax2Session) : Maps where
  bySrcIpAndCallNo :=
    if s.srcIpAndCallNo ≠ "" then maps.bySrcIpAndCallNo.erase s.srcIpAndCallNo
    else maps.bySrcIpAndCallNo
  byDestIpAndCallNo :=
    if s.destIpAndCallNo ≠ "" then maps.byDestIpAndCallNo.erase s.destIpAndCallNo
    else maps.byDestIpAndCallNo

/-- The session under a key: first as the inviting, then as the invited party. -/
def find? (maps : Maps) (key : String) : Option Nat :=
  (maps.bySrcIpAndCallNo.find? key).or (maps.byDestIpAndCallNo.find? key)

end Maps

namespace Iax2Sessions

/-- The store before any message; the counter starts anywhere. -/
def empty (alphaCounter : Nat) : Iax2Sessions where
  session := fun _ => { trackingId := "", lastUpdated := 0 }
  next := 0
  packet := fun _ => {}
  nextPacket := 0
  alphaCounter := alphaCounter
  output := []
  stops := []

section

variable (cfg : Config) (clock : Clock)

def setSession (st : Iax2Sessions) (r : Nat) (s : Iax2Session) : Iax2Sessions :=
  { st with session := Function.update st.session r s }

/-- `Iax2Sessions::Stop`. -/
def stop (st : Iax2Sessions) (r : Nat) : Iax2Sessions :=
  let stopped := (st.session r).stop
  let after := st.toMaps.eraseKeys stopped.1
  { st.setSession r stopped.1 with
    toMaps := after
    output := st.output ++ stopped.2
    stops := st.stops ++ [{ r := r, before := st.toMaps, after := after }] }

def stopAllOf (st : Iax2Sessions) (refs : List Nat) : Iax2Sessions := refs.foldl stop st

/-! ### Signalling -/

/-- Whether a NEW goes on: not when the call is up already. Else the call is stopped. -/
def makeRoom (st : Iax2Sessions) (key : String) : Option Iax2Sessions :=
  match st.bySrcIpAndCallNo.find? key with
  | none => some st
  | some r => if (st.session r).iax2State = .up then none else some (st.stop r)

/-- `Iax2Sessions::ReportIax2New`. -/
def reportIax2New (st : Iax2Sessions) (invite : Iax2NewInfo) : Iax2Sessions :=
  match st.makeRoom (ipAndCallNo invite.senderIp invite.callNo) with
  | none => st
  | some st =>
      let alphaCounter := alphaCounterNext st.alphaCounter
      let st := { st with alphaCounter := alphaCounter }
      let created : Iax2Session :=
        { trackingId := alphaText alphaCounter
          lastUpdated := clock.time
          srcIpAndCallNo := ipAndCallNo invite.senderIp invite.callNo }
      match created.reportIax2New cfg invite with
      | none => st
      | some s =>
          { st.setSession st.next s with
            next := st.next + 1
            bySrcIpAndCallNo := st.bySrcIpAndCallNo.insertNew s.srcIpAndCallNo st.next }

/-- Give a session the key of the invited party, and enter it there when the key is free. -/
def setDest (st : Iax2Sessions) (r : Nat) (destIpAndCallNo : String) : Iax2Sessions :=
  { st.setSession r { st.session r with destIpAndCallNo := destIpAndCallNo } with
    byDestIpAndCallNo := st.byDestIpAndCallNo.insertNew destIpAndCallNo r }

def setState (st : Iax2Sessions) (r : Nat) (iax2State : Iax2State) : Iax2Sessions :=
  st.setSession r { st.session r with iax2State := iax2State }

/-- `Iax2Session::ReportIax2Authreq` and `Iax2Session::ReportIax2Accept`. -/
def setInviteeScallno (st : Iax2Sessions) (r : Nat) (callno : UInt16) : Iax2Sessions :=
  st.setSession r { st.session r with inviteeScallno := callno }

/-- `Iax2Sessions::ReportIax2Authreq`. When `StringToInt` throws the state is not set. -/
def reportIax2Authreq (st : Iax2Sessions) (authreq : Iax2SignalInfo) : Iax2Sessions :=
  match st.bySrcIpAndCallNo.find? (ipAndCallNo authreq.receiverIp authreq.receiverCallno) with
  | none => st
  | some r =>
      let st := st.setDest r (ipAndCallNo authreq.senderIp authreq.senderCallno)
      match callnoOfString? authreq.senderCallno with
      | none => st
      | some callno => (st.setInviteeScallno r callno).setState r .waiting

/-- `Iax2Sessions::ReportIax2Accept`. -/
def reportIax2Accept (st : Iax2Sessions) (acceptinfo : Iax2SignalInfo) : Iax2Sessions :=
  let destIpAndCallNo := ipAndCallNo acceptinfo.senderIp acceptinfo.senderCallno
  match st.bySrcIpAndCallNo.find?
      (ipAndCallNo acceptinfo.receiverIp acceptinfo.receiverCallno) with
  | none => st
  | some r =>
      match st.byDestIpAndCallNo.find? destIpAndCallNo with
      | some mapped => st.setState mapped .linked
      | none =>
          let st := (st.setDest r destIpAndCallNo).setState r .linked
          match callnoOfString? acceptinfo.senderCallno with
          | none => st
          | some callno => st.setInviteeScallno r callno

/-- Stop the session that a lookup finds. -/
def stopFound (st : Iax2Sessions) (found : Option Nat) : Iax2Sessions :=
  match found with
  | none => st
  | some r => st.stop r

/-- `Iax2Sessions::ReportIax2Hangup`: receiver and sender may each be either party. -/
def reportIax2Hangup (st : Iax2Sessions) (bye : Iax2SignalInfo) : Iax2Sessions :=
  let receiver := ipAndCallNo bye.receiverIp bye.receiverCallno
  let sender := ipAndCallNo bye.senderIp bye.senderCallno
  let st := st.stopFound (st.bySrcIpAndCallNo.find? receiver)
  let st := st.stopFound (st.bySrcIpAndCallNo.find? sender)
  let st := st.stopFound (st.byDestIpAndCallNo.find? receiver)
  st.stopFound (st.byDestIpAndCallNo.find? sender)

/-! ### Voice frames -/

/-- Write to a frame. `nextPacket` and what follows it are the frames not created yet. -/
def setPacket (st : Iax2Sessions) (p : Nat) (info : Iax2PacketInfo) : Iax2Sessions :=
  { st with
    packet := Function.update st.packet p info
    nextPacket := max st.nextPacket (p + 1) }

/-- What `AddIax2Packet` leaves, put into the store. -/
def settle (st : Iax2Sessions) (r : Nat) (added : Iax2Session.Added) : Iax2Sessions :=
  { st.setSession r added.session with
    packet := added.packet
    output := st.output ++ added.output }

/-- Hand a frame to a session, which is stopped when it does not accept it. -/
def addToSession (st : Iax2Sessions) (r p : Nat) : Bool × Iax2Sessions :=
  let added := (st.session r).addIax2Packet cfg clock st.packet p
  let st := st.settle r added
  if added.accepted then (true, st) else (false, st.stop r)

/-- `Iax2Sessions::ReportIax2Packet`. -/
def reportIax2Packet (st : Iax2Sessions) (p : Nat) : Bool × Iax2Sessions :=
  let info := st.packet p
  match st.toMaps.find? (ipAndCallNo info.sourceIp (toString info.sourcecallno.toNat)) with
  | none => (false, st)
  | some r => st.addToSession cfg clock r p

/-! ### Expired sessions -/

def isExpired (now : Int) (s : Iax2Session) : Bool :=
  decide (cfg.rtpSessionWithSignallingTimeoutSec < now - s.lastUpdated)

/-- The expired sessions of a map, in the order of its keys. -/
def expiredOf (st : Iax2Sessions) (now : Int) (map : OrderedMap String Nat) : List Nat :=
  (map.entries.map Prod.snd).filter fun r => isExpired cfg now (st.session r)

/-- `Iax2Sessions::Hoover`. -/
def hoover (st : Iax2Sessions) (now : Int) : Iax2Sessions :=
  let st := st.stopAllOf (st.expiredOf cfg now st.bySrcIpAndCallNo)
  st.stopAllOf (st.expiredOf cfg now st.byDestIpAndCallNo)

/-- `Iax2Sessions::StopAll`. -/
def stopAll (st : Iax2Sessions) : Iax2Sessions :=
  st.hoover cfg (clock.time + 2 * cfg.rtpSessionWithSignallingTimeoutSec)

/-! ### Runs -/

/-- The operations. The parser has written a frame to `p`, which is a new object or one that
it has used before. -/
inductive Operation
  | reportIax2New (invite : Iax2NewInfo)
  | reportIax2Authreq (authreq : Iax2SignalInfo)
  | reportIax2Accept (acceptinfo : Iax2SignalInfo)
  | reportIax2Hangup (bye : Iax2SignalInfo)
  | reportIax2Packet (p : Nat) (info : Iax2PacketInfo)
  | hoover (now : Int)

/-- Write a frame to `p` and report it. -/
def reportPacket (st : Iax2Sessions) (p : Nat) (info : Iax2PacketInfo) : Bool × Iax2Sessions :=
  (st.setPacket p info).reportIax2Packet cfg clock p

def apply (st : Iax2Sessions) : Operation → Iax2Sessions
  | .reportIax2New invite => st.reportIax2New cfg clock invite
  | .reportIax2Authreq authreq => st.reportIax2Authreq authreq
  | .reportIax2Accept acceptinfo => st.reportIax2Accept acceptinfo
  | .reportIax2Hangup bye => st.reportIax2Hangup bye
  | .reportIax2Packet p info => (st.reportPacket cfg clock p info).2
  | .hoover now => st.hoover cfg now

end

/-- An operation at some time of the clock. -/
def Step (cfg : Config) (st : Iax2Sessions) (label : Clock × Operation) (st' : Iax2Sessions) :
    Prop :=
  st' = st.apply cfg label.1 label.2

end Iax2Sessions

end OrkAudio.Iax2
