import OrkAudio.IpFragmentation.Model
import OrkAudio.Lib.LittleEndian
import OrkAudio.VoIp.Config

/-! The path of a captured frame to the detection of useful UDP and TCP packets.

Pointers are offsets into a memory, which holds the captured bytes and what stands behind
them. -/

namespace OrkAudio.HandlePacket

open Lib

/-- The settings of `VoIpConfig` that are read here. -/
structure Config where
  pcapTest : Bool := false
  allowedIpRanges : VoIp.IpRanges := {}
  blockedIpRanges : VoIp.IpRanges := {}
  ipFragmentsReassemble : Bool := false

/-! ### Headers -/

/-- The bytes of a packet, and what is read behind them. -/
structure Memory where
  captured : List UInt8
  behind : List UInt8 := []

namespace Memory

variable (memory : Memory)

/-- The bytes from a pointer on. -/
def deref (pointer : Nat) : List UInt8 := (memory.captured ++ memory.behind).drop pointer

/-- `ntohs` of the two bytes at a pointer. -/
def ntohs (pointer : Nat) : Nat :=
  IpHeader.byteAt (memory.deref pointer) 0 * 256 + IpHeader.byteAt (memory.deref pointer) 1

/-- `ip_v`. -/
def ipVersion (ipHeader : Nat) : Nat := IpHeader.byteAt (memory.deref ipHeader) 0 / 16

def headerLen (ipHeader : Nat) : Nat := IpHeader.headerLen (memory.deref ipHeader)

def packetLen (ipHeader : Nat) : Nat := IpHeader.packetLen (memory.deref ipHeader)

/-- `ip_p`. -/
def protocol (ipHeader : Nat) : Nat := IpHeader.protocol (memory.deref ipHeader)

def etherType (ethernetHeader : Nat) : Nat := memory.ntohs (ethernetHeader + 12)

def ipSrc (ipHeader : Nat) : VoIp.InAddr :=
  LittleEndian.toWord (IpHeader.source (memory.deref ipHeader))

def ipDest (ipHeader : Nat) : VoIp.InAddr :=
  LittleEndian.toWord (IpHeader.dest (memory.deref ipHeader))

end Memory

def etherTypeIpv4 : Nat := 0x0800
def etherTypeIpv6 : Nat := 0x86DD
def etherTypeArp : Nat := 0x0806
def etherTypeIeee8021Q : Nat := 0x8100
def ianaVxlanUdpPort : Nat := 4789
def protErspan : Nat := 0x88be
def protTrp : Nat := 0x6558
def ipprotoTcp : Nat := 6
def ipprotoUdp : Nat := 17
def ipprotoGre : Nat := 47
def ethernetHeaderSize : Nat := 14
def udpHeaderSize : Nat := 8
def vxlanHeaderSize : Nat := 8
def greHeaderSize : Nat := 8
def erspanHeaderSize : Nat := 8
def tcpHeaderLength : Nat := 20

/-! ### The transport layer -/

inductive Transport
  | udp
  | tcp
  deriving DecidableEq

/-- A call of `DetectUsefulUdpPacket` or `DetectUsefulTcpPacket`. -/
structure Detect where
  transport : Transport
  ethernetHeader : Nat
  ipHeader : Nat
  ipHeaderLength : Nat
  ipPacketEnd : Nat
  deriving DecidableEq

/-- Hand over a packet by its protocol. -/
def detect (memory : Memory) (ethernetHeader ipHeader ipHeaderLength ipPacketEnd : Nat) :
    List Detect :=
  if memory.protocol ipHeader = ipprotoUdp then
    [⟨.udp, ethernetHeader, ipHeader, ipHeaderLength, ipPacketEnd⟩]
  else if memory.protocol ipHeader = ipprotoTcp then
    [⟨.tcp, ethernetHeader, ipHeader, ipHeaderLength, ipPacketEnd⟩]
  else []

/-- Where `TryIpPacketV4` looks for an IP header, each time behind the last place. -/
def v4Displacements : List Nat := [0, 2, 4, 6, 18]

/-- `TryIpPacketV4`. It moves its own copy of the pointer only. -/
def tryIpPacketV4 (memory : Memory) (ipHeader : Nat) : Bool :=
  v4Displacements.any fun displacement => memory.ipVersion (ipHeader + displacement) = 4

def processVXLANPacket (memory : Memory) (ipHeader ipHeaderLength : Nat) : List Detect :=
  let ethernetHeader := ipHeader + ipHeaderLength + udpHeaderSize + vxlanHeaderSize
  let type := memory.etherType ethernetHeader
  let encapsulated? :=
    if type = etherTypeIeee8021Q then some (ethernetHeader + ethernetHeaderSize + 4)
    else if type = etherTypeIpv4 ∨ type = etherTypeArp then
      some (ethernetHeader + ethernetHeaderSize)
    else none
  match encapsulated? with
  | none => []
  | some encapsulated =>
      if !tryIpPacketV4 memory encapsulated then []
      else
        detect memory ethernetHeader encapsulated (memory.headerLen encapsulated)
          (encapsulated + memory.packetLen encapsulated)

/-- The Ethernet header behind a GRE header, for ERSPAN and transparent bridging. -/
def greEthernetHeader? (memory : Memory) (greHeader : Nat) : Option Nat :=
  let flagVersion := memory.ntohs greHeader
  let protocolType := memory.ntohs (greHeader + 2)
  if (flagVersion = 0x1000 ∧ protocolType = protErspan) ∨
      (flagVersion = 0x2000 ∧ protocolType = protTrp) then
    if protocolType = protErspan then some (greHeader + greHeaderSize + erspanHeaderSize)
    else some (greHeader + greHeaderSize)
  else none

/-- The branch for GRE of `ProcessTransportLayer`. -/
def processGre (memory : Memory) (ipHeader ipHeaderLength : Nat) : List Detect :=
  match greEthernetHeader? memory (ipHeader + ipHeaderLength) with
  | none => []
  | some ethernetHeader =>
      let encapsulated :=
        if memory.etherType ethernetHeader = etherTypeIeee8021Q then
          ethernetHeader + ethernetHeaderSize + 4
        else ethernetHeader + ethernetHeaderSize
      if !tryIpPacketV4 memory encapsulated then []
      else
        -- the length is taken from the outer header
        detect memory ethernetHeader encapsulated (memory.headerLen ipHeader)
          (encapsulated + memory.packetLen encapsulated)

def processTransportLayer (memory : Memory) (ethernetHeader ipHeader : Nat) : List Detect :=
  let ipHeaderLength := memory.headerLen ipHeader
  let ipPacketEnd := ipHeader + memory.packetLen ipHeader
  if memory.protocol ipHeader = ipprotoUdp then
    if memory.ntohs (ipHeader + ipHeaderLength + 2) = ianaVxlanUdpPort then
      processVXLANPacket memory ipHeader ipHeaderLength
    else detect memory ethernetHeader ipHeader ipHeaderLength ipPacketEnd
  else if memory.protocol ipHeader = ipprotoGre then processGre memory ipHeader ipHeaderLength
  else detect memory ethernetHeader ipHeader ipHeaderLength ipPacketEnd

/-! ### `HandlePacket` -/

/-- `VoIpConfig::IsPacketWanted`. -/
def isPacketWanted (cfg : Config) (source dest : VoIp.InAddr) : Bool :=
  (cfg.allowedIpRanges.isEmpty ||
    (cfg.allowedIpRanges.isMatch source && cfg.allowedIpRanges.isMatch dest)) &&
    !(cfg.blockedIpRanges.isMatch source || cfg.blockedIpRanges.isMatch dest)

/-- The Ethernet and IP headers of a frame; in a Linux cooked capture the Ethernet header is
aligned with its type. -/
def headers? (memory : Memory) : Option (Nat × Nat) :=
  let type := memory.etherType 0
  if type = etherTypeIeee8021Q then some (0, ethernetHeaderSize + 4)
  else if type = etherTypeIpv4 ∨ type = etherTypeArp then some (0, ethernetHeaderSize)
  else if type = etherTypeIpv6 then none
  else
    let cooked := memory.etherType 2
    if cooked = etherTypeIeee8021Q then some (2, 2 + ethernetHeaderSize + 4)
    else if cooked = etherTypeIpv6 then none
    else some (2, 2 + ethernetHeaderSize)

/-- The packet is captured whole, and holds more than a TCP header. -/
def isWhole (memory : Memory) (ipHeader : Nat) : Bool :=
  decide (ipHeader + memory.packetLen ipHeader ≤ memory.captured.length) &&
    decide (ipHeader + memory.headerLen ipHeader + tcpHeaderLength <
      ipHeader + memory.packetLen ipHeader)

/-- `isFragmented`. -/
def isFragmented (bytes : List UInt8) : Bool :=
  !IpHeader.isLastFragment bytes || decide (0 < IpHeader.offset bytes)

/-- What `HandlePacket` passes to `ProcessTransportLayer`. -/
structure Accepted where
  memory : Memory
  ethernetHeader : Nat
  ipHeader : Nat

theorem isWhole_iff {memory : Memory} {ipHeader : Nat} : isWhole memory ipHeader = true ↔
    ipHeader + memory.packetLen ipHeader ≤ memory.captured.length ∧
      memory.headerLen ipHeader + tcpHeaderLength < memory.packetLen ipHeader := by
  rw [isWhole, Bool.and_eq_true, decide_eq_true_eq, decide_eq_true_eq]
  omega

section

variable {memory : Memory} {ipHeader : Nat} (hwhole : isWhole memory ipHeader = true)
include hwhole

theorem header_le_of_isWhole :
    IpHeader.headerLen (memory.deref ipHeader) ≤ IpHeader.packetLen (memory.deref ipHeader) := by
  have hlonger := (isWhole_iff.mp hwhole).2
  unfold Memory.headerLen Memory.packetLen at hlonger
  omega

theorem struct_le_of_isWhole : 20 ≤ IpHeader.packetLen (memory.deref ipHeader) := by
  have hlonger := (isWhole_iff.mp hwhole).2
  unfold Memory.packetLen tcpHeaderLength at hlonger
  omega

theorem captured_of_isWhole :
    IpHeader.packetLen (memory.deref ipHeader) ≤ (memory.deref ipHeader).length := by
  have hcaptured := (isWhole_iff.mp hwhole).1
  have hlength : (memory.deref ipHeader).length =
      memory.captured.length + memory.behind.length - ipHeader := by
    rw [Memory.deref, List.length_drop, List.length_append]
  unfold Memory.packetLen at hcaptured
  omega

end

/-- A whole packet as the reassembly takes it. -/
def fragmentOf (memory : Memory) (ipHeader : Nat) (hwhole : isWhole memory ipHeader = true) :
    IpPacket where
  bytes := memory.deref ipHeader
  header_le := header_le_of_isWhole hwhole
  struct_le := struct_le_of_isWhole hwhole
  captured := captured_of_isWhole hwhole

/-- A frame with the readings of the clock for its reassembly; `heap` is what stands behind a
reassembled packet. -/
structure Frame where
  memory : Memory
  heap : List UInt8 := []
  now : Int := 0
  stamp : Int := 0

/-- `HandlePacket` up to `ProcessTransportLayer`: the fragments, and the packet accepted. -/
def accept (cfg : Config) (table : FragmentTable) (frame : Frame) :
    FragmentTable × Option Accepted :=
  if cfg.pcapTest then (table, none)
  else
    match headers? frame.memory with
    | none => (table, none)
    | some (ethernetHeader, ipHeader) =>
        if !tryIpPacketV4 frame.memory ipHeader then (table, none)
        else if hwhole : isWhole frame.memory ipHeader = true then
          if !isPacketWanted cfg (frame.memory.ipSrc ipHeader) (frame.memory.ipDest ipHeader) then
            (table, none)
          else if cfg.ipFragmentsReassemble && isFragmented (frame.memory.deref ipHeader) then
            let reassembled := table.handleIpFragment frame.now frame.stamp
              (fragmentOf frame.memory ipHeader hwhole)
            (reassembled.2, reassembled.1.map fun packetData =>
              { memory := { captured := packetData, behind := frame.heap }
                ethernetHeader := ethernetHeader, ipHeader := 0 })
          else
            (table, some
              { memory := frame.memory, ethernetHeader := ethernetHeader, ipHeader := ipHeader })
        else (table, none)

/-- `HandlePacket`: the packets that are looked at. -/
def handlePacket (cfg : Config) (table : FragmentTable) (frame : Frame) :
    FragmentTable × List Detect :=
  let accepted := accept cfg table frame
  (accepted.1,
    match accepted.2 with
    | none => []
    | some packet => processTransportLayer packet.memory packet.ethernetHeader packet.ipHeader)

end OrkAudio.HandlePacket
