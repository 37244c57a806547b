import OrkAudio.Lib.ByteSearch
import OrkAudio.Lib.Fallible
import OrkAudio.Lib.Reads
import OrkAudio.Lib.Word
import OrkAudio.VoIp.Messages

/-! `TryRtcp`: whether a UDP packet is a compound RTCP packet, and the CNAME in it.

Places are offsets into the UDP payload. A walk through the payload fails when it reads a byte
that is not of it, or when it does not end. -/

namespace OrkAudio.Rtcp

open Lib

structure Config where
  rtcpDetect : Bool
  inInMode : Bool := false

/-- A UDP packet as `TryRtcp` sees it: `len` is the length in its header, and `behind` the memory
behind its payload. -/
structure UdpPacket where
  sourceIp : VoIp.InAddr := 0
  destIp : VoIp.InAddr := 0
  source : UInt16 := 0
  dest : UInt16 := 0
  len : Nat
  payload : Bytes
  behind : Bytes := []
  sized : payload.length = len - 8
  len_lt : len < 65536

inductive Fault
  /-- A byte behind the end of the payload is read. -/
  | outside
  /-- A loop does not end. -/
  | endless
  deriving DecidableEq

def read (payload : Bytes) (place : Nat) : Except Fault Nat :=
  match byte? payload place with
  | none => .error .outside
  | some byte => .ok byte

def readHalf (payload : Bytes) (place : Nat) : Except Fault Nat :=
  match half? payload place with
  | none => .error .outside
  | some half => .ok half

/-- `sizeof(RtcpCommonHeaderStruct)`. -/
abbrev headerSize : Nat := 4

/-- The loops go on as long as `headerSize` headers, not bytes, are left. -/
abbrev InLoop (payload : Bytes) (r : Nat) : Prop :=
  r < payload.length ∧ headerSize ≤ (payload.length - r) / headerSize

/-- `(unsigned int *)r + ntohs(r->length) + 1`. -/
def readPacketEnd (payload : Bytes) (r : Nat) : Except Fault Nat :=
  readHalf payload (r + 2) >>= fun length => .ok (r + 4 * (length + 1))

/-- The first loop: where it stops. -/
def walkHeaders (payload : Bytes) : Nat → Nat → Except Fault Nat
  | 0, _ => .error .endless
  | fuel + 1, r =>
      if InLoop payload r then
        read payload r >>= fun vpc =>
          if vpc / 64 ≠ 2 then .ok r
          else readPacketEnd payload r >>= fun next => walkHeaders payload fuel next
      else .ok r

/-- The walk over the items of a chunk: the place of a CNAME, none when there is none. -/
def walkItems (payload : Bytes) (rtcpThisPktEnd : Nat) : Nat → Nat → Except Fault (Option Nat)
  | 0, _ => .error .endless
  | fuel + 1, csrcItem =>
      if csrcItem < rtcpThisPktEnd then
        read payload csrcItem >>= fun type =>
          if type = 1 then .ok (some csrcItem)
          else if type = 0 then .ok none
          else
            read payload (csrcItem + 1) >>= fun length =>
              walkItems payload rtcpThisPktEnd fuel (csrcItem + length)
      else .ok none

/-- The second loop: the first CNAME that is found in the first chunk of an SDES packet. -/
def searchCname (payload : Bytes) : Nat → Nat → Except Fault (Option Nat)
  | 0, _ => .error .endless
  | fuel + 1, r =>
      if InLoop payload r then
        read payload r >>= fun vpc =>
          read payload (r + 1) >>= fun pt =>
            readPacketEnd payload r >>= fun rtcpThisPktEnd =>
              if pt = 202 ∧ vpc % 32 ≠ 0 then
                walkItems payload rtcpThisPktEnd (payload.length + 1) (r + 8) >>= fun csrcItem =>
                  match csrcItem with
                  | some place => .ok (some place)
                  | none => searchCname payload fuel rtcpThisPktEnd
              else searchCname payload fuel rtcpThisPktEnd
      else .ok none

/-! ### The CNAME -/

/-- `RtcpSrcDescriptionPacketInfo`, its texts as they stand in memory. -/
structure SrcDescription where
  sourceIp : VoIp.InAddr
  destIp : VoIp.InAddr
  sourcePort : UInt16
  destPort : UInt16
  fullCname : Bytes
  cnameUsername : Bytes := []
  cnameDomain : Bytes := []
  cnamePort : Bytes := []
  deriving DecidableEq

/-- What a reader of C strings sees. -/
def cString (text : Bytes) : Bytes := text.takeWhile (· ≠ 0)

/-- `GrabToken` over a C string. -/
def grabToken (text : Bytes) : Bytes :=
  text.takeWhile fun c => decide (c ≠ 0 ∧ c ≠ 0x20 ∧ c ≠ 0x0D ∧ c ≠ 0x0A)

/-- The parts around a `strchr`, none when the character is not there. -/
def splitAt (c : UInt8) (text : Bytes) : Option (Bytes × Bytes) :=
  (text.idxOf? c).map fun place => (text.take place, text.drop (place + 1))

/-- "host" or "host:port". -/
def parseHost (info : SrcDescription) (text : Bytes) : SrcDescription :=
  match splitAt 58 text with
  | none => { info with cnameDomain := grabToken text }
  | some (host, port) =>
      { info with cnameDomain := grabToken host, cnamePort := grabToken port }

/-- "user@host", "host", with or without a port. -/
def parseCname (info : SrcDescription) : SrcDescription :=
  match splitAt 64 info.fullCname with
  | none => parseHost info info.fullCname
  | some (user, host) =>
      let named := { info with cnameUsername := grabToken user }
      if host = [] then named else parseHost named host

/-- The `csrcItem->length` bytes at `csrcItem->data`. -/
def itemText (packet : UdpPacket) (csrcItem : Nat) : Bytes :=
  let memory := packet.payload ++ packet.behind
  (memory.drop (csrcItem + 2) ++ List.replicate 255 0).take (byteAt memory (csrcItem + 1))

/-- The text is an extension, as far as it goes, or anything is accepted. -/
def isAdmitted (cfg : Config) (text : Bytes) : Bool :=
  text ≠ [] &&
    (((text.take 3).map toLower == (ascii "ext").take text.length) || cfg.inInMode)

/-- What is handed to `ReportRtcpSrcDescription` for the text of a CNAME, copied into `cname`. -/
def describe (cfg : Config) (packet : UdpPacket) (text : Bytes) : Option SrcDescription :=
  if isAdmitted cfg text then
    some (parseCname
      { sourceIp := packet.sourceIp
        destIp := packet.destIp
        sourcePort := packet.source
        destPort := packet.dest
        fullCname := cString (text.take 254) })
  else none

structure Detected where
  result : Bool
  reported : Option SrcDescription := none
  deriving DecidableEq

/-- `TryRtcp`. -/
def tryRtcp (cfg : Config) (packet : UdpPacket) : Except Fault Detected :=
  let payload := packet.payload
  let fuel := payload.length + 1
  if cfg.rtcpDetect = false then .ok { result := false }
  else if toU64 ((packet.len : Int) - 8) < headerSize then .ok { result := false }
  else
    read payload 0 >>= fun vpc =>
      if vpc / 64 ≠ 2 then .ok { result := false }
      else
        read payload 1 >>= fun pt =>
          if pt ≠ 200 ∧ pt ≠ 201 then .ok { result := false }
          else if vpc / 32 % 2 ≠ 0 then .ok { result := false }
          else
            readPacketEnd payload 0 >>= fun next =>
              walkHeaders payload fuel next >>= fun r =>
                if r ≠ payload.length then .ok { result := false }
                else
                  searchCname payload fuel next >>= fun csrcItem =>
                    match csrcItem with
                    | none => .ok { result := true }
                    | some place =>
                        .ok { result := true
                              reported := describe cfg packet (itemText packet place) }

end OrkAudio.Rtcp
