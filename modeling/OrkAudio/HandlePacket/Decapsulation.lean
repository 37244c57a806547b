import OrkAudio.HandlePacket.Model

/-! Packets in tunnels against packets on the wire. -/

namespace OrkAudio.HandlePacket

open Lib

/-- A tunnel: VXLAN, or GRE with ERSPAN or transparent bridging. -/
inductive Tunnel
  | vxlan
  | gre
  deriving DecidableEq

/-- The tunnel that a packet carries, and the Ethernet header of the frame in it. -/
def tunnel? (memory : Memory) (ipHeader : Nat) : Option (Tunnel × Nat) :=
  let transportHeader := ipHeader + memory.headerLen ipHeader
  if memory.protocol ipHeader = ipprotoUdp then
    if memory.ntohs (transportHeader + 2) = ianaVxlanUdpPort then
      some (.vxlan, transportHeader + udpHeaderSize + vxlanHeaderSize)
    else none
  else if memory.protocol ipHeader = ipprotoGre then
    (greEthernetHeader? memory transportHeader).map fun ethernetHeader => (.gre, ethernetHeader)
  else none

/-- The IPv4 header in an Ethernet frame, with or without an 802.1Q tag. -/
def innerIpHeader? (memory : Memory) (ethernetHeader : Nat) : Option Nat :=
  let ipHeader? :=
    if memory.etherType ethernetHeader = etherTypeIeee8021Q then
      some (ethernetHeader + ethernetHeaderSize + 4)
    else if memory.etherType ethernetHeader = etherTypeIpv4 then
      some (ethernetHeader + ethernetHeaderSize)
    else none
  ipHeader?.filter fun ipHeader => memory.ipVersion ipHeader = 4

/-- Whether a packet ends within the captured bytes. -/
def EndsCaptured (memory : Memory) (ipHeader : Nat) : Prop :=
  ipHeader + memory.packetLen ipHeader ≤ memory.captured.length

instance decidableEndsCaptured (memory : Memory) (ipHeader : Nat) :
    Decidable (EndsCaptured memory ipHeader) := inferInstanceAs (Decidable (_ ≤ _))

/-- What is to become of an inner packet: it is handed over with its own header length and its
own end, unless that is not captured. -/
def transparent (memory : Memory) (ethernetHeader ipHeader : Nat) : List Detect :=
  if EndsCaptured memory ipHeader then
    detect memory ethernetHeader ipHeader (memory.headerLen ipHeader)
      (ipHeader + memory.packetLen ipHeader)
  else []

variable {memory : Memory} {ipHeader ethernetHeader inner : Nat} {tunnel : Tunnel}

theorem detect_eq_nil_iff {ipHeaderLength ipPacketEnd : Nat} :
    detect memory ethernetHeader ipHeader ipHeaderLength ipPacketEnd = [] ↔
      memory.protocol ipHeader ≠ ipprotoUdp ∧ memory.protocol ipHeader ≠ ipprotoTcp := by
  unfold detect
  split_ifs with hudp htcp <;> simp [*]

theorem detect_inj {ipHeaderLength ipPacketEnd otherLength otherEnd : Nat} :
    detect memory ethernetHeader ipHeader ipHeaderLength ipPacketEnd =
        detect memory ethernetHeader ipHeader otherLength otherEnd ↔
      (memory.protocol ipHeader ≠ ipprotoUdp ∧ memory.protocol ipHeader ≠ ipprotoTcp) ∨
        (ipHeaderLength = otherLength ∧ ipPacketEnd = otherEnd) := by
  unfold detect
  split_ifs with hudp htcp <;> simp [*]

theorem tryIpPacketV4_of_version (hversion : memory.ipVersion ipHeader = 4) :
    tryIpPacketV4 memory ipHeader = true := by
  simp [tryIpPacketV4, v4Displacements, hversion]

theorem of_innerIpHeader? (hinner : innerIpHeader? memory ethernetHeader = some inner) :
    memory.ipVersion inner = 4 ∧
      ((memory.etherType ethernetHeader = etherTypeIeee8021Q ∧
          inner = ethernetHeader + ethernetHeaderSize + 4) ∨
        (memory.etherType ethernetHeader = etherTypeIpv4 ∧
          inner = ethernetHeader + ethernetHeaderSize)) := by
  obtain ⟨hplace, hversion⟩ := Option.filter_eq_some_iff.mp hinner
  refine ⟨of_decide_eq_true hversion, ?_⟩
  split_ifs at hplace with htag hipv4
  · exact .inl ⟨htag, (Option.some.inj hplace).symm⟩
  · exact .inr ⟨hipv4, (Option.some.inj hplace).symm⟩

theorem processVXLANPacket_of_inner {ipHeaderLength : Nat}
    (hinner : innerIpHeader? memory
      (ipHeader + ipHeaderLength + udpHeaderSize + vxlanHeaderSize) = some inner) :
    processVXLANPacket memory ipHeader ipHeaderLength =
      detect memory (ipHeader + ipHeaderLength + udpHeaderSize + vxlanHeaderSize) inner
        (memory.headerLen inner) (inner + memory.packetLen inner) := by
  obtain ⟨hversion, hplace⟩ := of_innerIpHeader? hinner
  have htry := tryIpPacketV4_of_version hversion
  rw [processVXLANPacket]
  rcases hplace with ⟨htag, rfl⟩ | ⟨htype, rfl⟩
  · rw [if_pos htag]
    dsimp only
    rw [htry]
    rfl
  · have hnotag : ¬ memory.etherType
        (ipHeader + ipHeaderLength + udpHeaderSize + vxlanHeaderSize) = etherTypeIeee8021Q := by
      rw [htype]
      decide
    rw [if_neg hnotag, if_pos (.inl htype)]
    dsimp only
    rw [htry]
    rfl

theorem processGre_of_inner {ipHeaderLength : Nat}
    (hethernet : greEthernetHeader? memory (ipHeader + ipHeaderLength) = some ethernetHeader)
    (hinner : innerIpHeader? memory ethernetHeader = some inner) :
    processGre memory ipHeader ipHeaderLength =
      detect memory ethernetHeader inner (memory.headerLen ipHeader)
        (inner + memory.packetLen inner) := by
  obtain ⟨hversion, hplace⟩ := of_innerIpHeader? hinner
  have htry := tryIpPacketV4_of_version hversion
  rw [processGre, hethernet]
  rcases hplace with ⟨htag, rfl⟩ | ⟨htype, rfl⟩
  · dsimp only
    rw [if_pos htag, htry]
    rfl
  · dsimp only
    have hnotag : ¬ memory.etherType ethernetHeader = etherTypeIeee8021Q := by
      rw [htype]
      decide
    rw [if_neg hnotag, htry]
    rfl

/-- The header length that a packet in a tunnel is handed over with: its own in VXLAN, and that
of the outer packet in GRE. -/
def headerLenUsed (memory : Memory) (tunnel : Tunnel) (ipHeader inner : Nat) : Nat :=
  match tunnel with
  | .vxlan => memory.headerLen inner
  | .gre => memory.headerLen ipHeader

/-- What becomes of a packet in a tunnel. -/
theorem processTransportLayer_of_tunnel (outerEthernet : Nat)
    (htunnel : tunnel? memory ipHeader = some (tunnel, ethernetHeader))
    (hinner : innerIpHeader? memory ethernetHeader = some inner) :
    processTransportLayer memory outerEthernet ipHeader =
      detect memory ethernetHeader inner (headerLenUsed memory tunnel ipHeader inner)
        (inner + memory.packetLen inner) := by
  unfold tunnel? at htunnel
  dsimp only at htunnel
  split_ifs at htunnel with hudp hport hgre
  -- VXLAN
  · cases htunnel
    rw [processTransportLayer, if_pos hudp, if_pos hport]
    exact processVXLANPacket_of_inner hinner
  -- GRE
  · obtain ⟨found, hfound, hpair⟩ := Option.map_eq_some_iff.mp htunnel
    cases hpair
    rw [processTransportLayer, if_neg hudp, if_pos hgre]
    exact processGre_of_inner hfound hinner

/-- A packet in a tunnel of an accepted packet is handed over with its own header length and
end when it ends within the captured bytes, and dropped when it does not, if and only if it is
neither UDP nor TCP, or it does end there and, in GRE, the outer header is as long as its
own. -/
theorem decapsulation_transparent_iff {cfg : Config} {table : FragmentTable} {frame : Frame}
    {accepted : Accepted} (haccepted : (accept cfg table frame).2 = some accepted)
    (htunnel : tunnel? accepted.memory accepted.ipHeader = some (tunnel, ethernetHeader))
    (hinner : innerIpHeader? accepted.memory ethernetHeader = some inner) :
    (handlePacket cfg table frame).2 = transparent accepted.memory ethernetHeader inner ↔
      (accepted.memory.protocol inner ≠ ipprotoUdp ∧
        accepted.memory.protocol inner ≠ ipprotoTcp) ∨
      (EndsCaptured accepted.memory inner ∧
        (tunnel = .gre → accepted.memory.headerLen accepted.ipHeader =
          accepted.memory.headerLen inner)) := by
  have hhandled : (handlePacket cfg table frame).2 =
      processTransportLayer accepted.memory accepted.ethernetHeader accepted.ipHeader := by
    rw [handlePacket, haccepted]
  rw [hhandled, processTransportLayer_of_tunnel _ htunnel hinner, transparent]
  by_cases hends : EndsCaptured accepted.memory inner
  · rw [if_pos hends, detect_inj]
    cases tunnel <;> simp [headerLenUsed, hends]
  · rw [if_neg hends, detect_eq_nil_iff]
    simp [hends]

/-! Frames that carry an inner packet of 28 bytes, in VXLAN and in ERSPAN. -/

section

def ethernet : List UInt8 := [1, 1, 1, 1, 1, 1, 2, 2, 2, 2, 2, 2, 8, 0]

/-- An IP header: its first byte, its total length and its protocol. -/
def ipv4 (first : UInt8) (packetLen : UInt8) (protocol : UInt8) : List UInt8 :=
  [first, 0, 0, packetLen, 0, 1, 0, 0, 64, protocol, 0, 0, 10, 0, 0, 1, 10, 0, 0, 2]

def vxlanFrame (innerLen : UInt8) : Frame where
  memory :=
    { captured := ethernet ++ ipv4 0x45 78 17 ++ [0, 1, 0x12, 0xB5, 0, 58, 0, 0] ++
        List.replicate 8 0 ++ ethernet ++ ipv4 0x45 innerLen 17 ++ List.replicate 8 0 }

def vxlanAccepted (innerLen : UInt8) : Accepted where
  memory := (vxlanFrame innerLen).memory
  ethernetHeader := 0
  ipHeader := 14

/-- The inner packet ends where the frame does. -/
theorem decapsulation_transparent_iff_vxlan :
    (handlePacket {} {} (vxlanFrame 28)).2 =
      [{ transport := .udp, ethernetHeader := 50, ipHeader := 64, ipHeaderLength := 20,
         ipPacketEnd := 92 }] := by
  have haccepted : (accept {} {} (vxlanFrame 28)).2 = some (vxlanAccepted 28) := rfl
  have htunnel : tunnel? (vxlanAccepted 28).memory (vxlanAccepted 28).ipHeader =
      some (.vxlan, 50) := by decide +kernel
  have hinner : innerIpHeader? (vxlanAccepted 28).memory 50 = some 64 := by decide +kernel
  have hends : EndsCaptured (vxlanAccepted 28).memory 64 := by decide +kernel
  have hcalls : transparent (vxlanAccepted 28).memory 50 64 =
      [{ transport := .udp, ethernetHeader := 50, ipHeader := 64, ipHeaderLength := 20,
         ipPacketEnd := 92 }] := by decide +kernel
  rw [← hcalls]
  apply (decapsulation_transparent_iff haccepted htunnel hinner).mpr
  exact .inr ⟨hends, fun hgre => by cases hgre⟩

/-- An inner packet that says it has 200 bytes is handed over, to an end that was not
captured. -/
theorem decapsulation_not_bounded :
    ¬ ∀ (cfg : Config) (table : FragmentTable) (frame : Frame) (accepted : Accepted)
      (tunnel : Tunnel) (ethernetHeader inner : Nat),
      (accept cfg table frame).2 = some accepted →
        tunnel? accepted.memory accepted.ipHeader = some (tunnel, ethernetHeader) →
          innerIpHeader? accepted.memory ethernetHeader = some inner →
            (handlePacket cfg table frame).2 =
              transparent accepted.memory ethernetHeader inner := by
  intro claim
  have hcalls := claim {} {} (vxlanFrame 200) (vxlanAccepted 200) .vxlan 50 64 rfl
    (by decide +kernel) (by decide +kernel)
  have hnone : transparent (vxlanAccepted 200).memory 50 64 = [] := by decide +kernel
  have hsome : (handlePacket {} {} (vxlanFrame 200)).2 ≠ [] := by decide +kernel
  exact hsome (hcalls.trans hnone)

end

end OrkAudio.HandlePacket
