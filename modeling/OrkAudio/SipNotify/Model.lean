import OrkAudio.Lib.ByteSearch
import OrkAudio.Lib.Fallible
import OrkAudio.SipTcp.Progress
import OrkAudio.Skinny.Layout
import OrkAudio.VoIp.Sip

/-! A NOTIFY: `TrySipNotify` over the bytes of a packet, and `ReportSipNotify` with the bounds of
its table of parties on hold.

The functions that look for something in the packet get the bytes from a reader, by their places
behind `udpPayload`. What is read while the display line is looked for must lie before `sipEnd`;
the other fields are read from the memory as it is. -/

namespace OrkAudio.SipNotify

open Lib

structure Config where
  sip : VoIp.Config := {}
  necNotifyDispLine : Bytes := ascii "Ind-DispLineN=3:Dsp:"
  necOnHoldMarker : String := "ffffff95ffffffdbffffff97ffffffaf"
  necOffHoldMarker : String := "ffffff89ffffff9effffff93ffffff9a"

/-- A UDP packet: `len` is the length in its header, `captured` the number of bytes before
`packetEnd`, and `behind` the memory behind the payload. -/
structure UdpPacket where
  destIp : VoIp.InAddr := 0
  len : Nat
  captured : Nat
  payload : Bytes
  behind : Bytes := []
  sized : payload.length = len - 8

inductive Fault
  /-- A byte that is not of the payload is read. -/
  | outside
  /-- `lastHoldRemoteParty` has no such entry. -/
  | noEntry
  deriving DecidableEq

abbrev Reader := Nat → Except Fault UInt8

def readPayload (payload : Bytes) : Reader := fun place =>
  match payload[place]? with
  | none => .error .outside
  | some c => .ok c

/-- The memory is zero further on. -/
def readMemory (memory : Bytes) : Reader := fun place => .ok (memory.getD place 0)

/-! ### Searching -/

section

variable (read : Reader)

/-- `strncasecmp` with the length of the text, at `place`. -/
def sameNoCase : Bytes → Nat → Except Fault Bool
  | [], _ => .ok true
  | p :: toFind, place =>
      read place >>= fun c =>
        if toLower p = toLower c then sameNoCase toFind (place + 1) else .ok false

/-- The first place is compared in any case, the others where `memnchr` stops. -/
def isCandidate (toFind : Bytes) (place : Nat) : Except Fault Bool :=
  if place = 0 then .ok true
  else read place >>= fun c => .ok (toLower (toFind.headD 0) == toLower c)

/-- The loop of `memFindAfter`, with `left` places before `stop`. -/
def memFindFrom (toFind : Bytes) : Nat → Nat → Except Fault (Option Nat)
  | 0, _ => .ok none
  | left + 1, place =>
      isCandidate read toFind place >>= fun candidate =>
        if candidate then
          sameNoCase read toFind place >>= fun same =>
            if same then .ok (some (place + toFind.length))
            else memFindFrom toFind left (place + 1)
        else memFindFrom toFind left (place + 1)

def memFindAfter (toFind : Bytes) (stop : Nat) : Except Fault (Option Nat) :=
  memFindFrom read toFind stop 0

/-- The first of two texts, or else the second. -/
def memFindEither (toFind other : Bytes) (stop : Nat) : Except Fault (Option Nat) :=
  memFindAfter read toFind stop >>= fun found =>
    match found with
    | some place => .ok (some place)
    | none => memFindAfter read other stop

/-! ### Tokens -/

def isTokenEnd (c : UInt8) : Bool := c == 0 || c == 0x20 || c == 0x0D || c == 0x0A

/-- Leading spaces; the byte is read before its place is compared with the limit. -/
def skipSpaces : Nat → Nat → Except Fault Nat
  | 0, place => read place >>= fun _ => .ok place
  | left + 1, place =>
      read place >>= fun c => if c = 0x20 then skipSpaces left (place + 1) else .ok place

def grabToken : Nat → Nat → Except Fault Bytes
  | 0, place => read place >>= fun _ => .ok []
  | left + 1, place =>
      read place >>= fun c =>
        if isTokenEnd c then .ok []
        else grabToken left (place + 1) >>= fun token => .ok (c :: token)

def grabTokenSkipLeadingWhitespaces (place limit : Nat) : Except Fault Bytes :=
  skipSpaces read (limit - place) place >>= fun c => grabToken read (limit - c) c

/-- `while (*dspField != ' ') dspField--`. -/
def lastSpace : Nat → Except Fault Nat
  | 0 => read 0 >>= fun c => if c = 0x20 then .ok 0 else .error .outside
  | place + 1 =>
      read (place + 1) >>= fun c => if c = 0x20 then .ok (place + 1) else lastSpace place

/-! ### The fields -/

/-- The display text; none without a display line. -/
def displayText (cfg : Config) (sipEnd : Nat) : Except Fault (Option Bytes) :=
  memFindEither read cfg.necNotifyDispLine (ascii "\nt:") sipEnd >>= fun dspField =>
    match dspField with
    | none => .ok none
    | some dspField =>
        memFindAfter read (ascii "Content-Length: 50") sipEnd >>= fun contentLen =>
          (match contentLen with
            | none => .ok dspField
            | some contentLen => lastSpace read (contentLen + 50)) >>= fun dspField =>
            grabTokenSkipLeadingWhitespaces read dspField sipEnd >>= fun dsp => .ok (some dsp)

/-- The text behind "Ind-Pkey=" or "Ind-Fkey=". -/
def keyText (sipEnd : Nat) : Except Fault (Option Bytes) :=
  memFindEither read (ascii "Ind-Pkey=") (ascii "Ind-Fkey=") sipEnd >>= fun pkeyField =>
    match pkeyField with
    | none => .ok none
    | some pkeyField =>
        grabTokenSkipLeadingWhitespaces read pkeyField sipEnd >>= fun token => .ok (some token)

end

/-- `sprintf(byteAsHex, "%.2x", c)` of a `char`, which is signed. -/
def byteAsHex (c : UInt8) : String :=
  let digit (n : Nat) : Char := Char.ofNat (if n < 10 then 48 + n else 87 + n)
  let digits := String.ofList [digit (c.toNat / 16), digit (c.toNat % 16)]
  if 128 ≤ c.toNat then "ffffff" ++ digits else digits

def hexText (dsp : Bytes) : String := String.join (dsp.map byteAsHex)

/-- `m_pkey`, which nothing sets where no number is read. -/
def pkeyOf (scanf : SipTcp.Scanf) (token : Option Bytes) : Int :=
  match token.bind SipTcp.scanDecimal with
  | none => toInt32 (toU32 (scanf.unread 0))
  | some number =>
      if -2147483648 ≤ number ∧ number < 2147483648 then number
      else toInt32 (toU32 (scanf.overflow number))

def notifyInfo (cfg : Config) (packet : UdpPacket) (dsp : Option Bytes) (pkey : Int) :
    VoIp.SipNotifyInfo where
  receiverIp := packet.destIp
  dsp := Skinny.textOf (dsp.getD [])
  onHoldMarker := dsp.any fun dsp => hexText dsp == cfg.necOnHoldMarker
  offHoldMarker := dsp.any fun dsp => hexText dsp == cfg.necOffHoldMarker
  pkey := pkey

/-- The payload is long enough, was captured, and starts with the method. -/
def isNotify (packet : UdpPacket) : Bool :=
  decide (4 ≤ (packet.len : Int) - 8) && decide ((packet.len : Int) - 8 ≤ packet.captured) &&
    (packet.payload ++ packet.behind).take 6 == ascii "NOTIFY"

/-- `TrySipNotify`: what it hands to `ReportSipNotify`, if anything. -/
def trySipNotify (cfg : Config) (scanf : SipTcp.Scanf) (packet : UdpPacket) :
    Except Fault (Option VoIp.SipNotifyInfo) :=
  let sipEnd := packet.payload.length
  let memory := readMemory (packet.payload ++ packet.behind)
  if isNotify packet then
    memFindEither memory (ascii "Call-ID:") (ascii "\ni:") sipEnd >>= fun callIdField =>
      displayText (readPayload packet.payload) cfg sipEnd >>= fun dsp =>
        keyText memory sipEnd >>= fun key =>
          if callIdField.isSome && cfg.sip.sipNotifySupport then
            .ok (some (notifyInfo cfg packet dsp (pkeyOf scanf key)))
          else .ok none
  else .ok none

/-! ### The table of parties on hold -/

section

variable (cfg : Config) (env : VoIp.Env)

/-- The table has 128 entries. -/
def IsEntry (pkey : Int) : Prop := 0 ≤ pkey ∧ pkey < 128

instance instDecidableIsEntry (pkey : Int) : Decidable (IsEntry pkey) :=
  inferInstanceAs (Decidable (_ ∧ _))

def lastHoldRemoteParty (st : VoIp.VoIpSessions) (pkey : Int) : Except Fault String :=
  if IsEntry pkey then .ok ((st.lastHoldRemoteParty.find? pkey).getD "") else .error .noEntry

def setLastHoldRemoteParty (st : VoIp.VoIpSessions) (pkey : Int) (party : String) :
    Except Fault VoIp.VoIpSessions :=
  if IsEntry pkey then
    .ok { st with lastHoldRemoteParty := st.lastHoldRemoteParty.set pkey party }
  else .error .noEntry

/-- The display text without what is no letter or digit. -/
def plainDsp (notify : VoIp.SipNotifyInfo) : String :=
  if notify.dsp.toList.all Char.isAlphanum then notify.dsp else ""

/-- `ReportSipNotify`, with its table. -/
def reportSipNotify (st : VoIp.VoIpSessions) (notify : VoIp.SipNotifyInfo) :
    Except Fault VoIp.VoIpSessions :=
  match st.findNotified cfg.sip notify, notify.onHoldMarker with
  | some r, true => setLastHoldRemoteParty st notify.pkey (st.session r).sipRemoteParty
  | session, _ =>
      (if notify.offHoldMarker ∧ plainDsp notify = "" then lastHoldRemoteParty st notify.pkey
        else .ok (plainDsp notify)) >>= fun dsp =>
        if dsp.utf8ByteSize < 4 then .ok st
        else
          match session with
          | some r => .ok (st.perform r (VoIp.reportSipNotify cfg.sip dsp))
          | none => .ok (st.keepNotify cfg.sip env { notify with dsp := dsp })

/-- A packet through both functions. -/
def processNotify (scanf : SipTcp.Scanf) (packet : UdpPacket) (st : VoIp.VoIpSessions) :
    Except Fault VoIp.VoIpSessions :=
  trySipNotify cfg scanf packet >>= fun notify =>
    match notify with
    | none => .ok st
    | some notify => reportSipNotify cfg env st notify

end

end OrkAudio.SipNotify
