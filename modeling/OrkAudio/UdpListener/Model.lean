import OrkAudio.Lib.Word

/-! The datagrams of `UdpListenerThread`. Captured frames stand in them one behind the other, each
behind a header with its length. -/

namespace OrkAudio.UdpListener

open Lib

/-- The size of `frameBuffer`. -/
def bufferSize : Nat := 65000

/-- `sizeof(OrkEncapsulationStruct)`, which is packed. -/
abbrev headerSize : Nat := 9

/-- `frameBuffer`: zeros, with the received bytes at the front. -/
def frameBuffer (received : List UInt8) : List UInt8 :=
  received ++ List.replicate (bufferSize - received.length) 0

def byteAt (memory : List UInt8) (place : Nat) : Nat := (memory.getD place 0).toNat

/-- `ntohs(orkEncapsulationStruct->protocol)`. -/
def protocol (memory : List UInt8) (place : Nat) : Nat :=
  byteAt memory place * 256 + byteAt memory (place + 1)

def version (memory : List UInt8) (place : Nat) : Nat := byteAt memory (place + 2)

/-- `ntohs(orkEncapsulationStruct->totalPacketLength)`, behind `seq`. -/
def totalPacketLength (memory : List UInt8) (place : Nat) : Nat :=
  byteAt memory (place + 7) * 256 + byteAt memory (place + 8)

/-- A header stands there; what has no header is alien. -/
def IsHeader (memory : List UInt8) (place : Nat) : Prop :=
  protocol memory place = 0xbeef ∧ version memory place = 0x01

instance instDecidableIsHeader (memory : List UInt8) (place : Nat) :
    Decidable (IsHeader memory place) := inferInstanceAs (Decidable (_ ∧ _))

/-- A frame given to `HandlePacket`: where its header stands, and its length. -/
structure Frame where
  frameOffset : Nat
  caplen : Nat
  deriving DecidableEq

/-- The loop over the frames of a datagram, none when it takes more than `fuel` turns. The
sizes are unsigned, so that the differences wrap. -/
def deencapsulate (memory : List UInt8) (recvBytes : Nat) : Nat → Nat → Option (List Frame)
  | 0, _ => none
  | fuel + 1, frameOffset =>
      if frameOffset < toU64 ((recvBytes : Int) - headerSize) then
        if IsHeader memory frameOffset then
          let packetLen := totalPacketLength memory frameOffset
          if packetLen > toU64 ((recvBytes : Int) - frameOffset - headerSize + 1) then some []
          else
            (deencapsulate memory recvBytes fuel (frameOffset + packetLen + headerSize)).map
              ({ frameOffset := frameOffset, caplen := packetLen } :: ·)
        else some []
      else some []

/-- What `UdpListenerThread` does with one datagram. Every turn of the loop passes a header. -/
def receive (received : List UInt8) : Option (List Frame) :=
  let memory := frameBuffer received
  if received.length > 0 ∧ IsHeader memory 0 then
    deencapsulate memory received.length (received.length + 2) 0
  else some []

end OrkAudio.UdpListener
