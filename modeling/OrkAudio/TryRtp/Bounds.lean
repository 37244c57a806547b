import OrkAudio.TryRtp.Model

/-! What `TryRtp` reads of a packet, and the payload that it reports. -/

namespace OrkAudio.TryRtp

open Lib

variable {cfg : Config} {packet : UdpPacket} {now : Int}

namespace UdpPacket

variable (packet : UdpPacket)

/-- `ntohs(udpHeader->len)`. -/
def udpLen : Nat := halfAt packet.bytes (packet.udpHeader + 4)

def source : Nat := halfAt packet.bytes packet.udpHeader

def dest : Nat := halfAt packet.bytes (packet.udpHeader + 2)

/-- The first bytes of the UDP payload as an RTP header. -/
def rtpHeader : RtpHeader :=
  .ofFields (byteAt packet.bytes packet.udpPayload) (byteAt packet.bytes (packet.udpPayload + 1))
    (halfAt packet.bytes (packet.udpPayload + 2)) (wordAt packet.bytes (packet.udpPayload + 4))
    (wordAt packet.bytes (packet.udpPayload + 8))

/-- The bytes of the RTP extension, its own header among them. -/
def extensionSize : Nat :=
  if packet.rtpHeader.x = 0 then 0
  else 4 * (halfAt packet.bytes (packet.udpPayload + rtpHeaderSize + 2) + 1)

end UdpPacket

/-- The payload reported is what follows the header and its extension, to the end of the IP packet,
and there is some. -/
structure RightPayload (packet : UdpPacket) (report : Report) : Prop where
  start : report.payload = packet.udpPayload + rtpHeaderSize + packet.extensionSize
  slice : report.info.payload = packet.bytes.drop report.payload
  nonempty : report.info.payload ≠ []

/-- Nothing is read at or behind the end of the IP packet, and what is reported is right. -/
def ReadsInside (cfg : Config) (packet : UdpPacket) (now : Int) : Prop :=
  ∃ detected, tryRtp cfg packet now = some detected ∧
    ∀ report ∈ detected.reported, RightPayload packet report

/-- The header is taken for one of RTP. -/
def LooksLikeRtp (cfg : Config) (packet : UdpPacket) : Prop :=
  rtpHeaderSize ≤ packet.udpLen ∧
    (packet.rtpHeader.version = 2 ∧ packet.rtpHeader.cc = 0 ∧ packet.rtpHeader.p = 0) ∧
      portsAllowed cfg packet.source packet.dest = true

/-- The place of the payload is asked for: of a supported type from addresses that are not
blocked, or for the log. -/
def LocatesPayload (cfg : Config) (packet : UdpPacket) : Prop :=
  if packet.rtpHeader.pt ∈ cfg.rtpPayloadTypeBlockList then cfg.isDebugEnabled = true
  else isSupported packet.rtpHeader.pt = true ∧
    (cfg.rtpBlockedIpRanges.isMatch packet.ipSrc ||
      cfg.rtpBlockedIpRanges.isMatch packet.ipDest) = false

/-- The fixed header is in the packet. -/
theorem rtpHeader?_eq (packet : UdpPacket) :
    rtpHeader? packet.bytes packet.udpPayload = some packet.rtpHeader := by
  have hlonger := packet.longer
  have hpayload : packet.udpPayload = packet.ipHeaderLength + 8 := rfl
  have htcp : HandlePacket.tcpHeaderLength = 20 := rfl
  rw [rtpHeader?, byte?_eq (by omega), byte?_eq (by omega), half?_eq (by omega),
    word?_eq (by omega), word?_eq (by omega)]
  rfl

theorem tryRtp_of_rtp (hrtp : LooksLikeRtp cfg packet) :
    tryRtp cfg packet now =
      detectPayload cfg packet packet.source packet.dest packet.rtpHeader now := by
  have hlonger := packet.longer
  have hheader : packet.udpHeader = packet.ipHeaderLength := rfl
  have htcp : HandlePacket.tcpHeaderLength = 20 := rfl
  rcases hrtp with ⟨hlen, hfields, hports⟩
  have hlong : ¬halfAt packet.bytes (packet.udpHeader + 4) < rtpHeaderSize := not_lt.mpr hlen
  rw [tryRtp, half?_eq (by omega), Option.bind_some, if_neg hlong, rtpHeader?_eq,
    Option.bind_some, if_pos hfields, half?_eq (by omega), half?_eq (by omega)]
  exact if_pos hports

theorem tryRtp_of_not_rtp (hrtp : ¬LooksLikeRtp cfg packet) :
    tryRtp cfg packet now = some { result := false } := by
  have hlonger := packet.longer
  have hheader : packet.udpHeader = packet.ipHeaderLength := rfl
  have htcp : HandlePacket.tcpHeaderLength = 20 := rfl
  rw [tryRtp, half?_eq (by omega), Option.bind_some]
  by_cases hlen : halfAt packet.bytes (packet.udpHeader + 4) < rtpHeaderSize
  · rw [if_pos hlen]
  · rw [if_neg hlen, rtpHeader?_eq, Option.bind_some]
    by_cases hfields : packet.rtpHeader.version = 2 ∧ packet.rtpHeader.cc = 0 ∧
        packet.rtpHeader.p = 0
    · rw [if_pos hfields, half?_eq (by omega), half?_eq (by omega)]
      apply if_neg
      intro hports
      exact hrtp ⟨not_lt.mp hlen, hfields, hports⟩
    · rw [if_neg hfields]

theorem getPureHeaderSize_eq {header : RtpHeader} (hcc : header.cc = 0) :
    header.getPureHeaderSize = rtpHeaderSize := by
  rw [RtpHeader.getPureHeaderSize, hcc, Nat.zero_mul, Nat.add_zero]

/-- Without CSRCs the payload is located inside the packet when there is no extension, or its
length is in the packet. -/
theorem getPayloadOffset?_eq (hcc : packet.rtpHeader.cc = 0)
    (hroom : packet.rtpHeader.x = 1 → packet.ipHeaderLength + 24 ≤ packet.bytes.length) :
    getPayloadOffset? packet.bytes packet.udpPayload packet.rtpHeader =
      some (rtpHeaderSize + packet.extensionSize) := by
  have hsize := getPureHeaderSize_eq hcc
  rw [getPayloadOffset?, hsize, UdpPacket.extensionSize]
  by_cases hx : packet.rtpHeader.x = 0
  · rw [if_pos hx, if_pos hx, Nat.add_zero]
  · have hpayload : packet.udpPayload = packet.ipHeaderLength + 8 := rfl
    have hrtp : rtpHeaderSize = 12 := rfl
    have hone : packet.rtpHeader.x = 1 :=
      (Nat.mod_two_eq_zero_or_one _).resolve_left hx
    have hend := hroom hone
    rw [if_neg hx, if_neg hx, half?_eq (by omega)]
    rfl

theorem getPayloadOffset?_eq_none (hcc : packet.rtpHeader.cc = 0)
    (hx : packet.rtpHeader.x = 1) (hshort : packet.bytes.length < packet.ipHeaderLength + 24) :
    getPayloadOffset? packet.bytes packet.udpPayload packet.rtpHeader = none := by
  have hsize := getPureHeaderSize_eq hcc
  have hpayload : packet.udpPayload = packet.ipHeaderLength + 8 := rfl
  have hrtp : rtpHeaderSize = 12 := rfl
  rw [getPayloadOffset?, hsize, if_neg (by omega), half?_eq_none (by omega)]
  rfl

theorem detectPayload_of_not_located (hlocates : ¬LocatesPayload cfg packet)
    (source dest : Nat) :
    ∃ result, detectPayload cfg packet source dest packet.rtpHeader now =
      some { result := result } := by
  unfold LocatesPayload at hlocates
  unfold detectPayload
  by_cases hblock : packet.rtpHeader.pt ∈ cfg.rtpPayloadTypeBlockList
  · rw [if_pos hblock] at hlocates ⊢
    exact ⟨true, if_neg hlocates⟩
  · rw [if_neg hblock] at hlocates ⊢
    by_cases hsupported : isSupported packet.rtpHeader.pt = true
    · have hranges := not_and.mp hlocates hsupported
      rw [if_pos hsupported]
      exact ⟨false, if_pos ((Bool.not_eq_false _).mp hranges)⟩
    · exact ⟨false, if_neg hsupported⟩

/-- Where the payload is located, what is reported starts there and goes to the end. -/
theorem detectPayload_of_located (hlocates : LocatesPayload cfg packet) (source dest : Nat) :
    ∃ detected : Nat → Detected,
      detectPayload cfg packet source dest packet.rtpHeader now =
          (getPayloadOffset? packet.bytes packet.udpPayload packet.rtpHeader).map detected ∧
        ∀ offset, ∀ report ∈ (detected offset).reported,
          report.payload = packet.udpPayload + offset ∧
            report.info.payload = packet.bytes.drop report.payload ∧
              report.info.payload ≠ [] := by
  unfold LocatesPayload at hlocates
  unfold detectPayload
  by_cases hblock : packet.rtpHeader.pt ∈ cfg.rtpPayloadTypeBlockList
  · rw [if_pos hblock] at hlocates ⊢
    refine ⟨_, if_pos hlocates, ?_⟩
    intro offset report hreport
    split_ifs at hreport <;> cases hreport
  · rw [if_neg hblock] at hlocates ⊢
    rw [if_pos hlocates.1]
    refine ⟨_, if_neg (by simpa using hlocates.2), ?_⟩
    intro offset report hreport
    dsimp only at hreport
    split_ifs at hreport with hend hsmall
    · cases hreport
    · obtain rfl := Option.some.inj hreport
      refine ⟨rfl, rfl, ?_⟩
      apply List.ne_nil_of_length_pos
      simp only [rtpInfo, List.length_drop]
      omega
    · cases hreport

/-- `TryRtp` stays in the packet and reports the right payload, exactly when a packet with an
extension, of which the payload is located, has the four bytes of the extension's header. -/
theorem tryRtp_inside_iff (cfg : Config) (packet : UdpPacket) (now : Int) :
    ReadsInside cfg packet now ↔
      (LooksLikeRtp cfg packet → LocatesPayload cfg packet → packet.rtpHeader.x = 1 →
        packet.ipHeaderLength + 24 ≤ packet.bytes.length) := by
  by_cases hrtp : LooksLikeRtp cfg packet
  · have hcc := hrtp.2.1.2.1
    have htry := @tryRtp_of_rtp cfg packet now hrtp
    by_cases hlocates : LocatesPayload cfg packet
    · rcases @detectPayload_of_located cfg packet now hlocates packet.source packet.dest with
        ⟨detected, hdetected, hreports⟩
      rw [hdetected] at htry
      by_cases hroom : packet.rtpHeader.x = 1 →
          packet.ipHeaderLength + 24 ≤ packet.bytes.length
      · refine iff_of_true ?_ fun _ _ => hroom
        rw [getPayloadOffset?_eq hcc hroom] at htry
        refine ⟨_, htry, ?_⟩
        intro report hreport
        rcases hreports _ report hreport with ⟨hstart, hslice, hnonempty⟩
        rw [← Nat.add_assoc] at hstart
        exact ⟨hstart, hslice, hnonempty⟩
      · apply iff_of_false
        · intro hreads
          rcases hreads with ⟨other, hother, -⟩
          push Not at hroom
          rw [htry, getPayloadOffset?_eq_none hcc hroom.1 hroom.2] at hother
          cases hother
        · intro h
          exact hroom (h hrtp hlocates)
    · rcases @detectPayload_of_not_located cfg packet now hlocates packet.source packet.dest with
        ⟨result, hresult⟩
      refine iff_of_true ⟨_, htry.trans hresult, ?_⟩ fun _ h => absurd h hlocates
      intro report hreport
      cases hreport
  · refine iff_of_true ⟨_, tryRtp_of_not_rtp hrtp, ?_⟩ fun h => absurd h hrtp
    intro report hreport
    cases hreport

/-- A UDP packet with 13 bytes of payload: an RTP header that announces an extension, and one
byte more. -/
def extensionCut : UdpPacket where
  sourceMac := []
  destMac := []
  bytes := List.replicate 20 0 ++ [0x40, 0, 0x40, 2, 0, 21, 0, 0] ++
    [0x90, 0, 0, 1, 0, 0, 0, 160, 0, 0, 0, 1] ++ [0xBE]
  ipHeaderLength := 20
  longer := by decide

/-- The length of the extension is read behind the end of the packet. -/
theorem extension_read_outside : ¬ReadsInside {} extensionCut 0 := by
  intro hreads
  rcases hreads with ⟨detected, hdetected, -⟩
  have hnone : tryRtp {} extensionCut 0 = none := by decide +kernel
  rw [hnone] at hdetected
  cases hdetected

end OrkAudio.TryRtp
