import OrkAudio.Lib.OrderedMap
import OrkAudio.Lib.Steps

/-! Reassembly of fragmented IPv4 packets.

A packet is the memory from its IP header on, byte by byte. `HandleIpFragment` is only
called with packets whose total length covers their header and was captured whole;
`IpPacket` carries that, so nothing in here reads out of bounds. The two readings of the
clock in one call (at its start, and where a fragment was added) are separate inputs. -/

namespace OrkAudio

open Lib

/-! ### `IpHeaderStruct` -/

namespace IpHeader

def byteAt (bytes : List UInt8) (i : Nat) : Nat := (bytes.getD i 0).toNat

def headerLen (bytes : List UInt8) : Nat := byteAt bytes 0 % 16 * 4

def packetLen (bytes : List UInt8) : Nat := byteAt bytes 2 * 256 + byteAt bytes 3

/-- Computed in `size_t`, which wraps where the header is longer than the packet. -/
def payloadLen (bytes : List UInt8) : Nat :=
  if headerLen bytes ≤ packetLen bytes then packetLen bytes - headerLen bytes
  else packetLen bytes + 18446744073709551616 - headerLen bytes

def packetId (bytes : List UInt8) : Nat := byteAt bytes 4 * 256 + byteAt bytes 5

def fragmentField (bytes : List UInt8) : Nat := byteAt bytes 6 * 256 + byteAt bytes 7

def offset (bytes : List UInt8) : Nat := fragmentField bytes % 8192 * 8

def fragmentFlags (bytes : List UInt8) : Nat := fragmentField bytes / 8192

def isLastFragment (bytes : List UInt8) : Bool := fragmentFlags bytes % 2 == 0

def source (bytes : List UInt8) : List UInt8 := (bytes.drop 12).take 4

def dest (bytes : List UInt8) : List UInt8 := (bytes.drop 16).take 4

def protocol (bytes : List UInt8) : Nat := byteAt bytes 9

/-- The length is cut to 16 bits. -/
def setPacketLen (bytes : List UInt8) (len : Nat) : List UInt8 :=
  (bytes.set 2 (UInt8.ofNat (len / 256))).set 3 (UInt8.ofNat len)

end IpHeader

/-- A packet as it is handed to `HandleIpFragment`. -/
structure IpPacket where
  bytes : List UInt8
  header_le : IpHeader.headerLen bytes ≤ IpHeader.packetLen bytes
  struct_le : 20 ≤ IpHeader.packetLen bytes
  captured : IpHeader.packetLen bytes ≤ bytes.length
  deriving DecidableEq

namespace IpHeader

theorem byteAt_take {bytes : List UInt8} {count i : Nat} (hi : i < count) :
    byteAt (bytes.take count) i = byteAt bytes i := by
  simp [byteAt, List.getD_eq_getElem?_getD, hi]

theorem byteAt_append {front back : List UInt8} {i : Nat} (hi : i < front.length) :
    byteAt (front ++ back) i = byteAt front i := by
  simp [byteAt, List.getD_eq_getElem?_getD, List.getElem?_append_left hi]

theorem byteAt_setPacketLen_of_ne {bytes : List UInt8} {len i : Nat} (h2 : i ≠ 2) (h3 : i ≠ 3) :
    byteAt (setPacketLen bytes len) i = byteAt bytes i := by
  simp [byteAt, setPacketLen, List.getD_eq_getElem?_getD, Ne.symm h2, Ne.symm h3]

/-- Two headers that agree outside the total length agree in everything but it. -/
structure SameButLength (bytes other : List UInt8) : Prop where
  byteAt : ∀ i, i < 20 → i ≠ 2 → i ≠ 3 → byteAt bytes i = byteAt other i

namespace SameButLength

variable {bytes other : List UInt8} (same : SameButLength bytes other)
include same

theorem headerLen : headerLen bytes = headerLen other := by
  unfold IpHeader.headerLen
  rw [same.byteAt 0 (by decide) (by decide) (by decide)]

theorem packetId : packetId bytes = packetId other := by
  unfold IpHeader.packetId
  rw [same.byteAt 4 (by decide) (by decide) (by decide),
    same.byteAt 5 (by decide) (by decide) (by decide)]

theorem fragmentField : fragmentField bytes = fragmentField other := by
  unfold IpHeader.fragmentField
  rw [same.byteAt 6 (by decide) (by decide) (by decide),
    same.byteAt 7 (by decide) (by decide) (by decide)]

theorem offset : offset bytes = offset other := by
  unfold IpHeader.offset
  rw [same.fragmentField]

theorem isLastFragment : isLastFragment bytes = isLastFragment other := by
  unfold IpHeader.isLastFragment IpHeader.fragmentFlags
  rw [same.fragmentField]

end SameButLength

theorem sameButLength_setPacketLen (bytes : List UInt8) (len : Nat) :
    SameButLength (setPacketLen bytes len) bytes :=
  ⟨fun _ _ h2 h3 => byteAt_setPacketLen_of_ne h2 h3⟩

theorem sameButLength_take {bytes : List UInt8} {count : Nat} (hcount : 20 ≤ count) :
    SameButLength (bytes.take count) bytes :=
  ⟨fun _ hi _ _ => byteAt_take (by omega)⟩

theorem sameButLength_append {front : List UInt8} (back : List UInt8) (hfront : 20 ≤ front.length) :
    SameButLength (front ++ back) front :=
  ⟨fun _ hi _ _ => byteAt_append (by omega)⟩

theorem packetLen_take {bytes : List UInt8} {count : Nat} (hcount : 20 ≤ count) :
    packetLen (bytes.take count) = packetLen bytes := by
  unfold packetLen
  rw [byteAt_take (by omega), byteAt_take (by omega)]

theorem packetLen_setPacketLen {bytes : List UInt8} (hbytes : 20 ≤ bytes.length) (len : Nat) :
    packetLen (setPacketLen bytes len) = len % 65536 := by
  have h2 : 2 < bytes.length := by omega
  have h3 : 3 < bytes.length := by omega
  simp only [packetLen, byteAt, setPacketLen, List.getD_eq_getElem?_getD, List.getElem?_set,
    List.length_set, h2, h3]
  simp
  omega

@[simp] theorem length_setPacketLen (bytes : List UInt8) (len : Nat) :
    (setPacketLen bytes len).length = bytes.length := by
  simp [setPacketLen]

end IpHeader

namespace IpPacket

def headerLen (packet : IpPacket) : Nat := IpHeader.headerLen packet.bytes

def packetLen (packet : IpPacket) : Nat := IpHeader.packetLen packet.bytes

def payloadLen (packet : IpPacket) : Nat := IpHeader.payloadLen packet.bytes

def packetId (packet : IpPacket) : Nat := IpHeader.packetId packet.bytes

def offset (packet : IpPacket) : Nat := IpHeader.offset packet.bytes

def isLastFragment (packet : IpPacket) : Bool := IpHeader.isLastFragment packet.bytes

def header (packet : IpPacket) : List UInt8 := packet.bytes.take packet.headerLen

/-- The `payloadLen` bytes behind the header. -/
def payload (packet : IpPacket) : List UInt8 :=
  (packet.bytes.drop packet.headerLen).take packet.payloadLen

/-- The packet in a buffer of its own, without what follows it in memory. -/
def copy (packet : IpPacket) : IpPacket where
  bytes := packet.bytes.take (IpHeader.packetLen packet.bytes)
  header_le := by
    rw [IpHeader.packetLen_take packet.struct_le,
      (IpHeader.sameButLength_take packet.struct_le).headerLen]
    exact packet.header_le
  struct_le := by
    rw [IpHeader.packetLen_take packet.struct_le]
    exact packet.struct_le
  captured := by
    rw [IpHeader.packetLen_take packet.struct_le, List.length_take]
    exact le_min (le_refl _) packet.captured

end IpPacket

/-! ### The two algorithms -/

/-- `ForwardSequentialAlgorithm`. -/
structure ForwardSequential where
  drop : Bool := false
  packetData : Option (List UInt8) := none
  lastUpdate : Int := 0
  isComplete : Bool := false

def ForwardSequential.addFragment (now : Int) (algorithm : ForwardSequential)
    (ipHeader : IpPacket) : ForwardSequential :=
  match algorithm.packetData with
  | none =>
      if ipHeader.offset ≠ 0 then { algorithm with drop := true }
      else
        { algorithm with
          packetData := some (ipHeader.bytes.take ipHeader.packetLen)
          isComplete := algorithm.isComplete || ipHeader.isLastFragment
          lastUpdate := now }
  | some original =>
      if IpHeader.payloadLen original ≠ ipHeader.offset then { algorithm with drop := true }
      else
        let appended := original ++ ipHeader.payload
        { algorithm with
          packetData := some (IpHeader.setPacketLen appended
            (IpHeader.headerLen appended + IpHeader.payloadLen appended + ipHeader.payloadLen))
          isComplete := algorithm.isComplete || ipHeader.isLastFragment
          lastUpdate := now }

/-- Hand the fragments over one by one, until one makes the algorithm drop the packet. -/
def ForwardSequential.replay (now : Int) (algorithm : ForwardSequential) :
    List IpPacket → ForwardSequential
  | [] => algorithm
  | ipHeader :: rest =>
      let algorithm := algorithm.addFragment now ipHeader
      if algorithm.drop then algorithm else algorithm.replay now rest

/-- `WaitAllAndSortAlgorithm`. -/
structure WaitAllAndSort where
  orderedFragments : List IpPacket := []
  finalSize : Nat := 0
  lastUpdate : Int := 0
  currentSize : Nat := 0
  isComplete : Bool := false
  drop : Bool := false
  packetData : Option (List UInt8) := none

/-- The part of `addFragment` after the insertion of the fragment. -/
def WaitAllAndSort.account (now : Int) (algorithm : WaitAllAndSort) (ipHeader : IpPacket)
    (ordered : List IpPacket) : WaitAllAndSort :=
  let algorithm := { algorithm with
    orderedFragments := ordered
    finalSize := if ipHeader.isLastFragment then ipHeader.offset + ipHeader.payloadLen
      else algorithm.finalSize
    currentSize := algorithm.currentSize + ipHeader.payloadLen }
  if algorithm.finalSize ≠ 0 ∧ algorithm.currentSize > algorithm.finalSize then
    -- Possible overlap
    { algorithm with drop := true }
  else if algorithm.currentSize = algorithm.finalSize then
    let simpleHandler := ForwardSequential.replay now {} ordered
    if simpleHandler.drop then { algorithm with drop := true }
    else
      { algorithm with
        packetData := simpleHandler.packetData, isComplete := true, lastUpdate := now }
  else { algorithm with lastUpdate := now }

def WaitAllAndSort.addFragment (now : Int) (algorithm : WaitAllAndSort) (ipHeader : IpPacket) :
    WaitAllAndSort :=
  match insertByKey IpPacket.offset ipHeader.copy algorithm.orderedFragments with
  | none => algorithm
  | some ordered => algorithm.account now ipHeader ordered

/-! ### `HandleIpFragment` -/

/-- The two static variables of `HandleIpFragment`. -/
structure FragmentTable where
  lastCheck : Int := 0
  fragmentMap : OrderedMap Nat WaitAllAndSort := .empty

namespace FragmentTable

/-- `timeoutSec`. -/
abbrev timeoutSec : Int := 60

/-- Delete previous fragments older than `timeoutSec`. -/
def sweep (table : FragmentTable) (now : Int) : FragmentTable :=
  if now - table.lastCheck ≥ timeoutSec then
    { lastCheck := now
      fragmentMap := table.fragmentMap.filter fun _ algorithm =>
        !decide (now - algorithm.lastUpdate ≥ timeoutSec) }
  else table

/-- The entry of an identification, a new one where there is none. -/
def algorithmOf (table : FragmentTable) (id : Nat) : WaitAllAndSort :=
  (table.fragmentMap.find? id).getD {}

def handleIpFragment (table : FragmentTable) (now stamp : Int) (ipHeader : IpPacket) :
    Option (List UInt8) × FragmentTable :=
  let table := table.sweep now
  let algorithm := (table.algorithmOf ipHeader.packetId).addFragment stamp ipHeader
  let fragmentMap := table.fragmentMap.set ipHeader.packetId algorithm
  let fragmentMap := if algorithm.drop then fragmentMap.erase ipHeader.packetId else fragmentMap
  if algorithm.isComplete then
    (algorithm.packetData, { table with fragmentMap := fragmentMap.erase ipHeader.packetId })
  else (none, { table with fragmentMap := fragmentMap })

/-- One call: the two readings of the clock, the fragment, and what is returned. -/
structure Arrival where
  now : Int
  stamp : Int
  fragment : IpPacket
  result : Option (List UInt8)

def Step (table : FragmentTable) (arrival : Arrival) (table' : FragmentTable) : Prop :=
  table.handleIpFragment arrival.now arrival.stamp arrival.fragment = (arrival.result, table')

end FragmentTable

end OrkAudio
