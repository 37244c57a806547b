import OrkAudio.VoIp.Messages

/-! One IAX2 session: its data, how it starts, takes voice frames and stops.

A session keeps references to the last voice frames it took. A reference is a number, and
`packet` gives what the object holds at this moment: a parser may write to it later. -/

namespace OrkAudio.Iax2

open Lib VoIp

/-- What the IAX2 code reads of the configuration. -/
structure Config extends VoIp.Config where
  iax2Support : Bool := false
  iax2TreatCallerIdNameAsXUniqueId : Bool := true
  iax2RewriteTimestamps : Bool := false

/-- The clock in seconds, and the text for a time of day. -/
structure Clock where
  time : Int
  localTime : Int → String := fun sec => toString sec

/-! ### Messages -/

structure Iax2NewInfo where
  senderIp : InAddr := 0
  receiverIp : InAddr := 0
  caller : String := "HIDDEN"
  callee : String := ""
  callNo : String := ""
  callingName : String := ""
  localExtension : String := ""

/-- `Iax2AuthreqInfo`, `Iax2AcceptInfo` and `Iax2HangupInfo`. -/
structure Iax2SignalInfo where
  senderIp : InAddr := 0
  receiverIp : InAddr := 0
  senderCallno : String := ""
  receiverCallno : String := ""

inductive FrameType
  | full | mini
  deriving DecidableEq, Repr

/-- `m_payloadSize` is the length of the payload. -/
structure Iax2PacketInfo where
  sourceIp : InAddr := 0
  destIp : InAddr := 0
  sourcecallno : UInt16 := 0
  destcallno : UInt16 := 0
  frameType : FrameType := .mini
  payloadType : UInt16 := 0
  payload : List UInt8 := []
  timestamp : UInt32 := 0
  arrivalTimestamp : Int := 0
  deriving DecidableEq, Repr

/-- The key of a party: its address and call number. -/
def ipAndCallNo (ip : InAddr) (callNo : String) : String := inetNtopV4 ip ++ "," ++ callNo

/-! ### The session -/

inductive Iax2State
  | waiting | linked | up
  deriving DecidableEq, Repr

structure Iax2Session where
  trackingId : String
  srcIpAndCallNo : String := ""
  destIpAndCallNo : String := ""
  new : Option Iax2NewInfo := none
  lastUpdated : Int
  localParty : String := ""
  remoteParty : String := ""
  localEntryPoint : String := ""
  direction : Direction := .dirUnkn
  numIax2Packets : Nat := 0
  codec : UInt16 := 0
  iax2State : Iax2State := .waiting
  lastIax2Packet : Option Nat := none
  lastIax2PacketSide1 : Option Nat := none
  lastIax2PacketSide2 : Option Nat := none
  invitorIp : InAddr := 0
  inviteeIp : InAddr := 0
  localIp : InAddr := 0
  remoteIp : InAddr := 0
  invitorScallno : UInt16 := 0
  inviteeScallno : UInt16 := 0
  capturePort : String := ""
  started : Bool := false
  stopped : Bool := false
  beginDate : Int := 0
  orkUid : String := ""
  tags : OrderedMap String String := .empty
  channel1SeqNo : UInt16 := 1
  channel2SeqNo : UInt16 := 1

/-- `StringToInt` stored in an `unsigned short`; none when it throws. -/
def callnoOfString? (text : String) : Option UInt16 :=
  (stringToInt? text).map fun n => UInt16.ofNat (n % 65536).toNat

namespace Iax2Session

variable (cfg : Config) (clock : Clock) (s : Iax2Session)

def event (event : CaptureEvent) : Output := .captureEvent event s.capturePort

/-! ### Start and stop -/

/-- `Iax2Session::Stop`, and what it hands to the callback. -/
def stop : Iax2Session × List Output :=
  if s.started && !s.stopped then
    ({ s with stopped := true }, [s.event { type := .etStop, timestamp := s.lastUpdated }])
  else (s, [])

/-- `Iax2Session::Start` with `GenerateOrkUid`. -/
def start : Iax2Session × List Output :=
  ({ s with
      started := true
      beginDate := clock.time
      orkUid := clock.localTime clock.time ++ "_" ++ s.trackingId },
    [s.event { type := .etStart, timestamp := clock.time, value := s.trackingId }])

/-! ### Metadata -/

/-- `m_new`, which every session has from its creation on. -/
def newInfo : Iax2NewInfo := s.new.getD {}

def processMetadataIax2Incoming : Iax2Session :=
  let new := s.newInfo
  { s with
    remoteParty := new.caller
    localParty := if new.localExtension ≠ "" then new.localExtension else new.callee
    localEntryPoint := if new.localExtension ≠ "" then new.callee else ""
    direction := .dirIn
    localIp := s.inviteeIp
    remoteIp := s.invitorIp
    capturePort := inetNtopV4 s.invitorIp ++ "," ++ toString s.invitorScallno.toNat }

def processMetadataIax2Outgoing : Iax2Session :=
  let new := s.newInfo
  { s with
    remoteParty := new.callee
    localParty := if new.localExtension ≠ "" then new.localExtension else new.caller
    localEntryPoint := if new.localExtension ≠ "" then new.caller else ""
    direction := .dirOut
    capturePort := inetNtopV4 s.invitorIp ++ "," ++ toString s.invitorScallno.toNat
    localIp := s.invitorIp
    remoteIp := s.inviteeIp }

def setState (iax2State : Iax2State) : Iax2Session := { s with iax2State := iax2State }

def setCodec (codec : UInt16) : Iax2Session := { s with codec := codec }

def processMetadataIax2 (iax2Packet : Iax2PacketInfo) : Iax2Session :=
  let s := s.setCodec iax2Packet.payloadType
  -- a gateway that invites is taken for an incoming call, whoever it invites
  if cfg.isMediaGateway s.invitorIp then s.processMetadataIax2Incoming
  else if cfg.isPartOfLan s.invitorIp then s.processMetadataIax2Outgoing
  else if cfg.isMediaGateway s.inviteeIp || cfg.isPartOfLan s.inviteeIp then
    s.processMetadataIax2Incoming
  else s.processMetadataIax2Outgoing

def reportMetadata : Iax2Session × List Output :=
  let localParty := if s.localParty = "" then inetNtopV4 s.localIp else s.localParty
  let events : List CaptureEvent :=
    [{ type := .etLocalParty, value := localParty },
      { type := .etRemoteParty, value := s.remoteParty }] ++
    (if s.localEntryPoint ≠ "" then
      [{ type := .etLocalEntryPoint, value := s.localEntryPoint }] else []) ++
    [{ type := .etDirection, value := directionToString s.direction },
      { type := .etLocalIp, value := inetNtopV4 s.localIp },
      { type := .etRemoteIp, value := inetNtopV4 s.remoteIp },
      { type := .etOrkUid, value := s.orkUid },
      { type := .etCallId, value := s.srcIpAndCallNo }] ++
    s.tags.entries.map (fun tag => { type := .etKeyValue, key := tag.1, value := tag.2 }) ++
    [{ type := .etEndMetadata }]
  ({ s with localParty := localParty }, events.map s.event)

/-! ### Voice frames -/

/-- `Iax2Session::RtpTimestamp`: each case of its switch falls through to the default. -/
def rtpTimestamp : UInt32 := 160

inductive Side
  | side1 | side2
  deriving DecidableEq, Repr

/-- The side that a frame is of. The destination of side 1 is that of its last frame. -/
def sideOf (packet : Nat → Iax2PacketInfo) (iax2Packet : Iax2PacketInfo) : Side :=
  match s.lastIax2PacketSide1 with
  | none => .side1
  | some last => if iax2Packet.destIp = (packet last).destIp then .side1 else .side2

def lastOfSide : Side → Option Nat
  | .side1 => s.lastIax2PacketSide1
  | .side2 => s.lastIax2PacketSide2

def setLast (p : Nat) : Iax2Session := { s with lastIax2Packet := some p }

def setLastOfSide (p : Nat) : Side → Iax2Session
  | .side1 => { s with lastIax2PacketSide1 := some p }
  | .side2 => { s with lastIax2PacketSide2 := some p }

/-- The timestamp that replaces the one of a frame: side 1 assigns `+ last + 20`, side 2
adds. -/
def rewrittenTimestamp (side : Side) (last timestamp : UInt32) : UInt32 :=
  match side with
  | .side1 => last + 20
  | .side2 => timestamp + (last + 20)

/-- The next number of a channel. -/
def nextSeqNo (seqNo : UInt16) : UInt16 := if 65535 ≤ seqNo + 1 then 1 else seqNo + 1

def countChannel : Side → Iax2Session
  | .side1 => { s with channel1SeqNo := nextSeqNo s.channel1SeqNo }
  | .side2 => { s with channel2SeqNo := nextSeqNo s.channel2SeqNo }

def channelSeqNo : Side → UInt16
  | .side1 => s.channel1SeqNo
  | .side2 => s.channel2SeqNo

def chunkDetails (side : Side) (iax2Packet : Iax2PacketInfo) : AudioChunkDetails where
  arrivalTimestamp := UInt32.ofNat (iax2Packet.arrivalTimestamp % 4294967296).toNat
  numBytes := UInt32.ofNat iax2Packet.payload.length
  timestamp := (s.channelSeqNo side).toUInt32 * rtpTimestamp
  rtpPayloadType := s.codec.toNat
  channel := match side with
    | .side1 => 1
    | .side2 => 2
  sequenceNumber := (s.channelSeqNo side).toUInt32
  encoding := .alawAudio

/-- The chunk of a frame; `SetBuffer` leaves a chunk without bytes as it was created. -/
def chunk (side : Side) (iax2Packet : Iax2PacketInfo) : Output :=
  .audioChunk (if iax2Packet.payload = [] then {} else s.chunkDetails side iax2Packet)
    iax2Packet.payload s.capturePort

/-- Start the session with its first frame. -/
def startOnFirst : Iax2Session × List Output :=
  if s.numIax2Packets = 1 then
    let started := s.start clock
    let reported := started.1.reportMetadata
    (reported.1, started.2 ++ reported.2)
  else (s, [])

def countFrame : Iax2Session := { s with numIax2Packets := s.numIax2Packets + 1 }

def setLastUpdated (time : Int) : Iax2Session := { s with lastUpdated := time }

/-- Count a frame of this side and hand its audio out. -/
def takeFrame (side : Side) (iax2Packet : Iax2PacketInfo) : Iax2Session × List Output :=
  let begun := s.countFrame.startOnFirst clock
  let s := begun.1.countChannel side
  if s.started then
    (s.setLastUpdated iax2Packet.arrivalTimestamp, begun.2 ++ [s.chunk side iax2Packet])
  else (s, begun.2)

/-- What `AddIax2Packet` returns and leaves. -/
structure Added where
  accepted : Bool
  session : Iax2Session
  packet : Nat → Iax2PacketInfo
  output : List Output

/-- The first full frame gives the metadata, every full frame the codec. -/
def noteFrame (iax2Packet : Iax2PacketInfo) : Iax2Session :=
  let s :=
    if s.lastIax2Packet = none then (s.processMetadataIax2 cfg iax2Packet).setState .up else s
  if iax2Packet.frameType = .full then s.setCodec iax2Packet.payloadType else s

/-- `Iax2Session::AddIax2Packet`. -/
def addIax2Packet (packet : Nat → Iax2PacketInfo) (p : Nat) : Added :=
  let iax2Packet := packet p
  if s.iax2State = .waiting then ⟨false, s, packet, []⟩
  else if s.lastIax2Packet = none ∧ iax2Packet.frameType ≠ .full then ⟨true, s, packet, []⟩
  else
    let s := (s.noteFrame cfg iax2Packet).setLast p
    let side := s.sideOf packet iax2Packet
    match s.lastOfSide side with
    | none =>
        let taken := (s.setLastOfSide p side).takeFrame clock side iax2Packet
        ⟨true, taken.1, packet, taken.2⟩
    | some last =>
        let lastTimestamp := (packet last).timestamp
        if cfg.iax2RewriteTimestamps then
          let iax2Packet := { iax2Packet with
            timestamp := rewrittenTimestamp side lastTimestamp iax2Packet.timestamp }
          let taken := (s.setLastOfSide p side).takeFrame clock side iax2Packet
          ⟨true, taken.1, Function.update packet p iax2Packet, taken.2⟩
        -- a duplicate is dismissed
        else if iax2Packet.timestamp = lastTimestamp then ⟨true, s, packet, []⟩
        else
          let taken := (s.setLastOfSide p side).takeFrame clock side iax2Packet
          ⟨true, taken.1, packet, taken.2⟩

/-- A frame leaves the session as it is, or is dismissed by a side that has a frame, or is
taken. -/
theorem session_addIax2Packet (packet : Nat → Iax2PacketInfo) (p : Nat) :
    (s.addIax2Packet cfg clock packet p).session = s ∨
    (∃ side last, (s.noteFrame cfg (packet p)).lastOfSide side = some last ∧
      (s.addIax2Packet cfg clock packet p).session = (s.noteFrame cfg (packet p)).setLast p) ∨
    ∃ side info, (s.addIax2Packet cfg clock packet p).session =
      ((((s.noteFrame cfg (packet p)).setLast p).setLastOfSide p side).takeFrame
        clock side info).1 := by
  have hslot (side : Side) : ((s.noteFrame cfg (packet p)).setLast p).lastOfSide side =
      (s.noteFrame cfg (packet p)).lastOfSide side := by
    cases side <;> rfl
  simp only [addIax2Packet]
  split_ifs with hwaiting hfirst hrewrite
  · exact .inl rfl
  · exact .inl rfl
  · split
    · exact .inr (.inr ⟨_, _, rfl⟩)
    · exact .inr (.inr ⟨_, _, rfl⟩)
  · split
    · exact .inr (.inr ⟨_, _, rfl⟩)
    · rename_i last hlast
      split_ifs
      · exact .inr (.inl ⟨_, last, (hslot _).symm.trans hlast, rfl⟩)
      · exact .inr (.inr ⟨_, _, rfl⟩)

/-! ### Signalling -/

/-- The tag and the local extension that a calling name holds. -/
def splitCallingName (callingName : String) : String × Option String :=
  let name := callingName.toList
  if ' ' ∈ name then
    (String.ofList (name.takeWhile fun c => c != ' '),
      some (String.ofList (name.dropWhile fun c => c != ' ').tail))
  else (callingName, none)

/-- `Iax2Session::ReportIax2New` up to `StringToInt`, which throws where `callNo` is no
number. -/
def reportIax2New (invite : Iax2NewInfo) : Option Iax2Session :=
  let split := splitCallingName invite.callingName
  let tagged := cfg.iax2TreatCallerIdNameAsXUniqueId
  let invite := if tagged then
      { invite with localExtension := split.2.getD invite.localExtension } else invite
  let s := if tagged then { s with tags := s.tags.insertNew "X-Unique-ID" split.1 } else s
  match s.new with
  | some _ => some s
  | none =>
      (callnoOfString? invite.callNo).map fun callno =>
        { s with
          new := some invite
          invitorIp := invite.senderIp
          inviteeIp := invite.receiverIp
          invitorScallno := callno
          srcIpAndCallNo := ipAndCallNo invite.senderIp invite.callNo }

end Iax2Session

end OrkAudio.Iax2
