import OrkAudio.HandlePacket.Model
import OrkAudio.Lib.Reads
import OrkAudio.VoIp.Messages

/-! `TryRtp`: whether a UDP packet is an RTP packet, and what is reported of it. -/

namespace OrkAudio.TryRtp

open Lib

/-- The settings that are read, and whether the log of RTP packets is at the debug level. -/
structure Config where
  rtpDetectOnOddPorts : Bool := false
  rtpPayloadTypeBlockList : List Nat := []
  rtpBlockedIpRanges : VoIp.IpRanges := {}
  isDebugEnabled : Bool := false

/-- An IP packet, up to the end that its header gives, that passes the length checks of
`HandlePacket`. -/
structure UdpPacket where
  sourceMac : List UInt8
  destMac : List UInt8
  bytes : List UInt8
  ipHeaderLength : Nat
  longer : ipHeaderLength + HandlePacket.tcpHeaderLength < bytes.length

/-- The packet at `ipHeader` of a frame that is captured whole. -/
def UdpPacket.captured (memory : HandlePacket.Memory) (ethernetHeader ipHeader : Nat)
    (hwhole : HandlePacket.isWhole memory ipHeader = true) : UdpPacket where
  sourceMac := (memory.deref (ethernetHeader + 6)).take 6
  destMac := (memory.deref ethernetHeader).take 6
  bytes := (memory.deref ipHeader).take (memory.packetLen ipHeader)
  ipHeaderLength := memory.headerLen ipHeader
  longer := by
    have hlength : ((memory.deref ipHeader).take (memory.packetLen ipHeader)).length =
        memory.packetLen ipHeader :=
      List.length_take_of_le (HandlePacket.captured_of_isWhole hwhole)
    rw [hlength]
    exact (HandlePacket.isWhole_iff.mp hwhole).2

namespace UdpPacket

variable (packet : UdpPacket)

/-- Where the UDP header stands. -/
def udpHeader : Nat := packet.ipHeaderLength

/-- Where the UDP payload stands. -/
def udpPayload : Nat := packet.ipHeaderLength + HandlePacket.udpHeaderSize

def ipSrc : VoIp.InAddr := LittleEndian.toWord (IpHeader.source packet.bytes)

def ipDest : VoIp.InAddr := LittleEndian.toWord (IpHeader.dest packet.bytes)

end UdpPacket

/-- `sizeof(RtpHeaderStruct)`. -/
def rtpHeaderSize : Nat := 12

/-- `RtpHeaderStruct`. -/
structure RtpHeader where
  cc : Nat
  x : Nat
  p : Nat
  version : Nat
  pt : Nat
  seq : Nat
  ts : Nat
  ssrc : Nat
  deriving DecidableEq

/-- The header with these first bytes. -/
def RtpHeader.ofFields (first second seq ts ssrc : Nat) : RtpHeader where
  cc := first % 16
  x := first / 16 % 2
  p := first / 32 % 2
  version := first / 64
  pt := second % 128
  seq := seq
  ts := ts
  ssrc := ssrc

/-- `getPureHeaderSize`. -/
def RtpHeader.getPureHeaderSize (header : RtpHeader) : Nat := rtpHeaderSize + header.cc * 4

def rtpHeader? (bytes : List UInt8) (place : Nat) : Option RtpHeader :=
  (byte? bytes place).bind fun first =>
    (byte? bytes (place + 1)).bind fun second =>
      (half? bytes (place + 2)).bind fun seq =>
        (word? bytes (place + 4)).bind fun ts =>
          (word? bytes (place + 8)).map fun ssrc => .ofFields first second seq ts ssrc

/-- `getPayloadOffset`, which reads the length of an extension. -/
def getPayloadOffset? (bytes : List UInt8) (place : Nat) (header : RtpHeader) : Option Nat :=
  if header.x = 0 then some header.getPureHeaderSize
  else
    (half? bytes (place + header.getPureHeaderSize + 2)).map fun length =>
      header.getPureHeaderSize + 4 * (length + 1)

/-- What is handed to `ReportRtpPacket`, and where in the IP packet the payload starts. -/
structure Report where
  info : VoIp.RtpPacketInfo
  payload : Nat
  deriving DecidableEq

structure Detected where
  result : Bool
  reported : Option Report := none
  deriving DecidableEq

/-- The payload types that are taken for speech or telephone events. -/
def isSupported (pt : Nat) : Bool :=
  decide (pt ≤ 34 ∧ pt ≠ 13) || decide (96 ≤ pt ∧ pt < 128)

def rtpInfo (packet : UdpPacket) (source dest : Nat) (header : RtpHeader) (payload : Nat)
    (now : Int) : VoIp.RtpPacketInfo where
  sourceMac := packet.sourceMac
  destMac := packet.destMac
  sourceIp := packet.ipSrc
  destIp := packet.ipDest
  sourcePort := UInt16.ofNat source
  destPort := UInt16.ofNat dest
  payloadType := UInt16.ofNat header.pt
  payload := packet.bytes.drop payload
  seqNum := UInt16.ofNat header.seq
  ssrc := UInt32.ofNat header.ssrc
  timestamp := UInt32.ofNat header.ts
  arrivalTimestamp := now

/-- What follows when the header is one of RTP. -/
def detectPayload (cfg : Config) (packet : UdpPacket) (source dest : Nat) (header : RtpHeader)
    (now : Int) : Option Detected :=
  let rtpHeader := packet.udpPayload
  let packetEnd := packet.bytes.length
  if header.pt ∈ cfg.rtpPayloadTypeBlockList then
    if cfg.isDebugEnabled then
      (getPayloadOffset? packet.bytes rtpHeader header).map fun offset =>
        if packetEnd ≤ rtpHeader + offset then { result := false } else { result := true }
    else some { result := true }
  else if isSupported header.pt then
    if cfg.rtpBlockedIpRanges.isMatch packet.ipSrc || cfg.rtpBlockedIpRanges.isMatch packet.ipDest then
      some { result := false }
    else
      (getPayloadOffset? packet.bytes rtpHeader header).map fun offset =>
        let payload := rtpHeader + offset
        if packetEnd ≤ payload then { result := false }
        else if packetEnd - payload < 900 then
          { result := true
            reported := some
              { info := rtpInfo packet source dest header payload now, payload := payload } }
        else { result := true }
  else some { result := false }

/-- Whether the ports are those of RTP. -/
def portsAllowed (cfg : Config) (source dest : Nat) : Bool :=
  (source % 2 = 0 && dest % 2 = 0) || cfg.rtpDetectOnOddPorts

/-- `TryRtp`, none when a byte at or behind the end of the IP packet is read. -/
def tryRtp (cfg : Config) (packet : UdpPacket) (now : Int) : Option Detected :=
  (half? packet.bytes (packet.udpHeader + 4)).bind fun len =>
    if len < rtpHeaderSize then some { result := false }
    else
      (rtpHeader? packet.bytes packet.udpPayload).bind fun header =>
        if header.version = 2 ∧ header.cc = 0 ∧ header.p = 0 then
          (half? packet.bytes packet.udpHeader).bind fun source =>
            (half? packet.bytes (packet.udpHeader + 2)).bind fun dest =>
              if portsAllowed cfg source dest then detectPayload cfg packet source dest header now
              else some { result := false }
        else some { result := false }

end OrkAudio.TryRtp
