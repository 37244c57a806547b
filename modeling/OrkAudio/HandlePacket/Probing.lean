import OrkAudio.HandlePacket.Decapsulation

/-! The places where `TryIpPacketV4` looks for an IP header, and the header that its callers then
process. -/

namespace OrkAudio.HandlePacket

open Lib

/-- A call of `TryIpPacketV4`. -/
structure Probe where
  memory : Memory
  ipHeader : Nat

namespace Probe

/-- The header that the caller goes on with, none when it drops the packet. Its own pointer is
not the one that is moved. -/
def processed? (probe : Probe) : Option Nat :=
  if tryIpPacketV4 probe.memory probe.ipHeader then some probe.ipHeader else none

/-- The first header of version 4 among the places that are looked at. -/
def found? (probe : Probe) : Option Nat :=
  (v4Displacements.find? fun displacement =>
    decide (probe.memory.ipVersion (probe.ipHeader + displacement) = 4)).map (probe.ipHeader + ·)

/-- There is no header of version 4 at a place further on. -/
def NoneFurther (probe : Probe) : Prop :=
  ∀ displacement ∈ [2, 4, 6, 18], probe.memory.ipVersion (probe.ipHeader + displacement) ≠ 4

instance instDecidableNoneFurther (probe : Probe) : Decidable probe.NoneFurther :=
  inferInstanceAs (Decidable (∀ displacement ∈ [2, 4, 6, 18], _))

variable {probe : Probe}

theorem found?_of_version (hversion : probe.memory.ipVersion probe.ipHeader = 4) :
    probe.found? = some probe.ipHeader := by
  simp [found?, v4Displacements, hversion]

theorem processed?_of_version (hversion : probe.memory.ipVersion probe.ipHeader = 4) :
    probe.processed? = some probe.ipHeader :=
  if_pos (tryIpPacketV4_of_version hversion)

/-- What is found has version 4. -/
theorem version_of_found? {ipHeader : Nat} (hfound : probe.found? = some ipHeader) :
    probe.memory.ipVersion ipHeader = 4 := by
  obtain ⟨displacement, hdisplacement, rfl⟩ := Option.map_eq_some_iff.mp hfound
  have hversion := List.find?_some hdisplacement
  exact of_decide_eq_true hversion

theorem found?_eq_none_iff :
    probe.found? = none ↔ probe.memory.ipVersion probe.ipHeader ≠ 4 ∧ probe.NoneFurther := by
  simp [found?, v4Displacements, NoneFurther]

theorem processed?_eq_none_iff : probe.processed? = none ↔ probe.found? = none := by
  have hany : tryIpPacketV4 probe.memory probe.ipHeader = false ↔ probe.found? = none := by
    rw [found?, Option.map_eq_none_iff, List.find?_eq_none, tryIpPacketV4, List.any_eq_false]
  rw [← hany, processed?]
  cases tryIpPacketV4 probe.memory probe.ipHeader <;> simp

/-- The header found is the one processed, if it is at the first place or there is none. -/
theorem processed?_eq_found?_iff :
    probe.processed? = probe.found? ↔
      probe.memory.ipVersion probe.ipHeader = 4 ∨ probe.NoneFurther := by
  by_cases hversion : probe.memory.ipVersion probe.ipHeader = 4
  · rw [processed?_of_version hversion, found?_of_version hversion]
    exact iff_of_true rfl (Or.inl hversion)
  · rw [or_iff_right hversion]
    constructor
    · intro hsame
      by_contra hfurther
      cases hprocessed : probe.processed? with
      | none =>
          have hnone := processed?_eq_none_iff.mp hprocessed
          exact hfurther (found?_eq_none_iff.mp hnone).2
      | some ipHeader =>
          have hplace : probe.ipHeader = ipHeader := by
            unfold processed? at hprocessed
            split_ifs at hprocessed with htry
            exact Option.some.inj hprocessed
          rw [hsame] at hprocessed
          exact hversion (hplace ▸ version_of_found? hprocessed)
    · intro hfurther
      have hnone : probe.found? = none := found?_eq_none_iff.mpr ⟨hversion, hfurther⟩
      rw [hnone, processed?_eq_none_iff.mpr hnone]

end Probe

/-! ### The probes of a frame -/

/-- The place in a frame in a tunnel that is probed. -/
def innerProbe? (memory : Memory) (tunnel : Tunnel) (ethernetHeader : Nat) : Option Nat :=
  let type := memory.etherType ethernetHeader
  match tunnel with
  | .vxlan =>
      if type = etherTypeIeee8021Q then some (ethernetHeader + ethernetHeaderSize + 4)
      else if type = etherTypeIpv4 ∨ type = etherTypeArp then
        some (ethernetHeader + ethernetHeaderSize)
      else none
  | .gre =>
      if type = etherTypeIeee8021Q then some (ethernetHeader + ethernetHeaderSize + 4)
      else some (ethernetHeader + ethernetHeaderSize)

/-- The probes made for a packet by `ProcessTransportLayer` and `ProcessVXLANPacket`. -/
def transportProbes (memory : Memory) (ipHeader : Nat) : List Probe :=
  match tunnel? memory ipHeader with
  | none => []
  | some (tunnel, ethernetHeader) =>
      ((innerProbe? memory tunnel ethernetHeader).map (Probe.mk memory)).toList

/-- All probes made for a frame by `HandlePacket` and below. -/
def probes (cfg : Config) (table : FragmentTable) (frame : Frame) : List Probe :=
  if cfg.pcapTest then []
  else
    match headers? frame.memory with
    | none => []
    | some (_, ipHeader) =>
        ⟨frame.memory, ipHeader⟩ ::
          match (accept cfg table frame).2 with
          | none => []
          | some packet => transportProbes packet.memory packet.ipHeader

section

variable {memory : Memory} {ipHeader ethernetHeader inner : Nat} {tunnel : Tunnel}

theorem processVXLANPacket_of_probe {ipHeaderLength : Nat}
    (hethernet : ethernetHeader = ipHeader + ipHeaderLength + udpHeaderSize + vxlanHeaderSize) :
    processVXLANPacket memory ipHeader ipHeaderLength =
      match (innerProbe? memory .vxlan ethernetHeader).bind
          fun inner => (Probe.mk memory inner).processed? with
      | none => []
      | some header =>
          detect memory ethernetHeader header (memory.headerLen header)
            (header + memory.packetLen header) := by
  subst hethernet
  simp only [processVXLANPacket, innerProbe?]
  split_ifs with htag htype
  · simp only [Option.bind_some, Probe.processed?]
    cases tryIpPacketV4 memory _ <;> rfl
  · simp only [Option.bind_some, Probe.processed?]
    cases tryIpPacketV4 memory _ <;> rfl
  · rfl

theorem processGre_of_probe {ipHeaderLength : Nat}
    (hethernet : greEthernetHeader? memory (ipHeader + ipHeaderLength) = some ethernetHeader) :
    processGre memory ipHeader ipHeaderLength =
      match (innerProbe? memory .gre ethernetHeader).bind
          fun inner => (Probe.mk memory inner).processed? with
      | none => []
      | some header =>
          detect memory ethernetHeader header (memory.headerLen ipHeader)
            (header + memory.packetLen header) := by
  simp only [processGre, hethernet, innerProbe?]
  by_cases htag : memory.etherType ethernetHeader = etherTypeIeee8021Q
  · simp only [if_pos htag, Option.bind_some, Probe.processed?]
    cases tryIpPacketV4 memory _ <;> rfl
  · simp only [if_neg htag, Option.bind_some, Probe.processed?]
    cases tryIpPacketV4 memory _ <;> rfl

/-- `processed?` is what becomes of a packet in a tunnel. -/
theorem processTransportLayer_of_probe (outerEthernet : Nat)
    (htunnel : tunnel? memory ipHeader = some (tunnel, ethernetHeader)) :
    processTransportLayer memory outerEthernet ipHeader =
      match (innerProbe? memory tunnel ethernetHeader).bind
          fun inner => (Probe.mk memory inner).processed? with
      | none => []
      | some header =>
          detect memory ethernetHeader header (headerLenUsed memory tunnel ipHeader header)
            (header + memory.packetLen header) := by
  unfold tunnel? at htunnel
  dsimp only at htunnel
  split_ifs at htunnel with hudp hport hgre
  · cases htunnel
    rw [processTransportLayer, if_pos hudp, if_pos hport]
    exact processVXLANPacket_of_probe rfl
  · obtain ⟨found, hfound, hpair⟩ := Option.map_eq_some_iff.mp htunnel
    cases hpair
    rw [processTransportLayer, if_neg hudp, if_pos hgre]
    exact processGre_of_probe hfound

theorem processed?_eq_some {probe : Probe}
    (htry : tryIpPacketV4 probe.memory probe.ipHeader = true) :
    probe.processed? = some probe.ipHeader := if_pos htry

/-- `processed?` is what becomes of a frame: the packet is dropped, or it is the header of the
packet accepted or of its fragment. -/
theorem accept_of_probe {cfg : Config} {table : FragmentTable} {frame : Frame}
    {accepted : Accepted} (haccepted : (accept cfg table frame).2 = some accepted) :
    ∃ ethernetHeader ipHeader,
      headers? frame.memory = some (ethernetHeader, ipHeader) ∧
        (Probe.mk frame.memory ipHeader).processed? = some ipHeader ∧
          (accepted = ⟨frame.memory, ethernetHeader, ipHeader⟩ ∨
            isFragmented (frame.memory.deref ipHeader) = true) := by
  unfold accept at haccepted
  split_ifs at haccepted with htest
  split at haccepted
  · cases haccepted
  · rename_i ethernetHeader ipHeader hheaders
    refine ⟨ethernetHeader, ipHeader, hheaders, ?_⟩
    split_ifs at haccepted with htry hwhole hwanted hfragment
    · refine ⟨processed?_eq_some (by simpa using htry), Or.inr ?_⟩
      exact (Bool.and_eq_true_iff.mp hfragment).2
    · exact ⟨processed?_eq_some (by simpa using htry), Or.inl (Option.some.inj haccepted).symm⟩

end

/-- The header that is processed is the one found at every probe of a frame, exactly when no
probe finds one further on only. -/
theorem processed_found_iff (cfg : Config) (table : FragmentTable) (frame : Frame) :
    (∀ probe ∈ probes cfg table frame, probe.processed? = probe.found?) ↔
      ∀ probe ∈ probes cfg table frame,
        probe.memory.ipVersion probe.ipHeader = 4 ∨ probe.NoneFurther := by
  constructor
  · intro hsame probe hprobe
    exact Probe.processed?_eq_found?_iff.mp (hsame probe hprobe)
  · intro hplaces probe hprobe
    exact Probe.processed?_eq_found?_iff.mpr (hplaces probe hprobe)

theorem mem_probes {cfg : Config} (table : FragmentTable) {frame : Frame}
    {ethernetHeader ipHeader : Nat} (htest : cfg.pcapTest = false)
    (hheaders : headers? frame.memory = some (ethernetHeader, ipHeader)) :
    ⟨frame.memory, ipHeader⟩ ∈ probes cfg table frame := by
  rw [probes, htest, hheaders]
  exact List.mem_cons_self

/-- A frame whose IP header stands behind two bytes more. -/
def shiftedFrame : Frame where
  memory := { captured := ethernet ++ [0, 0] ++ ipv4 0x45 40 17 ++ List.replicate 20 0 }

/-- The two bytes are taken for the start of the header. -/
theorem shifted_header_not_processed :
    ¬∀ (cfg : Config) (table : FragmentTable) (frame : Frame),
      ∀ probe ∈ probes cfg table frame, probe.processed? = probe.found? := by
  intro hsame
  have hheaders : headers? shiftedFrame.memory = some (0, 14) := by decide +kernel
  have hprobe := @mem_probes {} {} shiftedFrame 0 14 rfl hheaders
  have hfound : (⟨shiftedFrame.memory, 14⟩ : Probe).found? = some 16 := by decide +kernel
  have hprocessed : (⟨shiftedFrame.memory, 14⟩ : Probe).processed? = some 14 := by
    decide +kernel
  have heq := hsame {} {} shiftedFrame _ hprobe
  rw [hfound, hprocessed] at heq
  exact absurd heq (by decide)

end OrkAudio.HandlePacket
