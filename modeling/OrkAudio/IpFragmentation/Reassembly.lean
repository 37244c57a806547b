import OrkAudio.IpFragmentation.Model

/-! Every cut of a datagram is put together again.

`Cut` says what it means that packets are the fragments of a payload, in order. While
fragments arrive in any order, `Holding` says that the entry holds exactly those seen so
far; once all are there, the replay rebuilds the packet. -/

namespace OrkAudio

open Lib

namespace IpPacket

theorem payloadLen_eq (packet : IpPacket) :
    packet.payloadLen = packet.packetLen - packet.headerLen :=
  if_pos packet.header_le

@[simp] theorem payload_length (packet : IpPacket) : packet.payload.length = packet.payloadLen := by
  have hcaptured := packet.captured
  have hlen := packet.payloadLen_eq
  unfold packetLen headerLen at hlen
  rw [payload, List.length_take, List.length_drop, headerLen]
  omega

@[simp] theorem header_length (packet : IpPacket) : packet.header.length = packet.headerLen := by
  have hcaptured := packet.captured
  have hheader := packet.header_le
  rw [header, List.length_take, headerLen]
  omega

/-- A packet is its header and its payload. -/
theorem take_packetLen (packet : IpPacket) :
    packet.bytes.take packet.packetLen = packet.header ++ packet.payload := by
  have hheader := packet.header_le
  have hlen := packet.payloadLen_eq
  have hsum : packet.packetLen = packet.headerLen + packet.payloadLen := by
    unfold packetLen headerLen at *
    omega
  rw [hsum, List.take_add, header, payload]

theorem same_copy (packet : IpPacket) : IpHeader.SameButLength packet.copy.bytes packet.bytes :=
  IpHeader.sameButLength_take packet.struct_le

@[simp] theorem copy_offset (packet : IpPacket) : packet.copy.offset = packet.offset :=
  packet.same_copy.offset

@[simp] theorem copy_headerLen (packet : IpPacket) : packet.copy.headerLen = packet.headerLen :=
  packet.same_copy.headerLen

@[simp] theorem copy_isLastFragment (packet : IpPacket) :
    packet.copy.isLastFragment = packet.isLastFragment :=
  packet.same_copy.isLastFragment

@[simp] theorem copy_packetLen (packet : IpPacket) : packet.copy.packetLen = packet.packetLen :=
  IpHeader.packetLen_take packet.struct_le

@[simp] theorem copy_payloadLen (packet : IpPacket) :
    packet.copy.payloadLen = packet.payloadLen := by
  rw [payloadLen_eq, payloadLen_eq, copy_packetLen, copy_headerLen]

theorem copy_bytes (packet : IpPacket) : packet.copy.bytes = packet.header ++ packet.payload :=
  packet.take_packetLen

@[simp] theorem copy_payload (packet : IpPacket) : packet.copy.payload = packet.payload := by
  unfold payload
  rw [copy_headerLen, copy_payloadLen, copy_bytes, List.drop_left' packet.header_length]
  exact List.take_of_length_le (by rw [payload_length])

@[simp] theorem copy_header (packet : IpPacket) : packet.copy.header = packet.header := by
  rw [header, copy_headerLen, copy_bytes, List.take_left' packet.header_length]

end IpPacket

/-! ### The fragments of a datagram -/

/-- The packets, in order, are the fragments that carry `payload` from `offset` on. -/
inductive Cut (id : Nat) : Nat → List UInt8 → List IpPacket → Prop
  | last (packet : IpPacket) : packet.packetId = id → 20 ≤ packet.headerLen →
      packet.isLastFragment = true → packet.payload ≠ [] →
      Cut id packet.offset packet.payload [packet]
  | more (packet : IpPacket) {payload : List UInt8} {rest : List IpPacket} :
      packet.packetId = id → 20 ≤ packet.headerLen → packet.isLastFragment = false →
      packet.payload ≠ [] → Cut id (packet.offset + packet.payloadLen) payload rest →
      Cut id packet.offset (packet.payload ++ payload) (packet :: rest)

namespace Cut

variable {id offset : Nat} {payload : List UInt8} {pieces : List IpPacket}

theorem packetId (cut : Cut id offset payload pieces) :
    ∀ packet ∈ pieces, packet.packetId = id := by
  induction cut with
  | last _ hid => simpa using hid
  | more _ hid _ _ _ _ ih => simpa [hid] using ih

theorem headerLen (cut : Cut id offset payload pieces) :
    ∀ packet ∈ pieces, 20 ≤ packet.headerLen := by
  induction cut with
  | last _ _ hheader => simpa using hheader
  | more _ _ hheader _ _ _ ih => simpa [hheader] using ih

theorem positive (cut : Cut id offset payload pieces) :
    ∀ packet ∈ pieces, 0 < packet.payloadLen := by
  induction cut with
  | last _ _ _ _ hsome =>
      simpa [← IpPacket.payload_length] using List.length_pos_iff.mpr hsome
  | more packet _ _ _ hsome _ ih =>
      have hpos := List.length_pos_iff.mpr hsome
      rw [IpPacket.payload_length] at hpos
      simpa [hpos] using ih

theorem total (cut : Cut id offset payload pieces) :
    (pieces.map IpPacket.payloadLen).sum = payload.length := by
  induction cut with
  | last => rw [List.map_singleton, List.sum_singleton, IpPacket.payload_length]
  | more _ _ _ _ _ _ ih =>
      rw [List.map_cons, List.sum_cons, ih, List.length_append, IpPacket.payload_length]

theorem sorted_from (cut : Cut id offset payload pieces) :
    SortedBy IpPacket.offset pieces ∧ ∀ packet ∈ pieces, offset ≤ packet.offset := by
  induction cut with
  | last => simp [SortedBy]
  | more packet _ _ _ hsome cut ih =>
      have hpos := List.length_pos_iff.mpr hsome
      rw [IpPacket.payload_length] at hpos
      obtain ⟨hsorted, hfrom⟩ := ih
      refine ⟨List.pairwise_cons.mpr ⟨?_, hsorted⟩, ?_⟩
      · intro later hlater
        have := hfrom later hlater
        omega
      · intro other hother
        rcases List.mem_cons.mp hother with rfl | hother
        · exact le_refl _
        · have := hfrom other hother
          omega

/-- The last fragment ends where the datagram ends. -/
theorem end_of_last (cut : Cut id offset payload pieces) {packet : IpPacket}
    (hmem : packet ∈ pieces) (hlast : packet.isLastFragment = true) :
    packet.offset + packet.payloadLen = offset + payload.length := by
  induction cut with
  | last =>
      obtain rfl := List.mem_singleton.mp hmem
      simp
  | more first _ _ hmore _ _ ih =>
      rcases List.mem_cons.mp hmem with rfl | hmem
      · rw [hlast] at hmore
        cases hmore
      · rw [ih hmem, List.length_append, IpPacket.payload_length]
        omega

theorem exists_last (cut : Cut id offset payload pieces) :
    ∃ packet ∈ pieces, packet.isLastFragment = true := by
  induction cut with
  | last _ _ _ hlast => exact ⟨_, List.mem_singleton.mpr rfl, hlast⟩
  | more _ _ _ _ _ _ ih =>
      obtain ⟨packet, hmem, hlast⟩ := ih
      exact ⟨packet, List.mem_cons_of_mem _ hmem, hlast⟩

theorem last_unique (cut : Cut id offset payload pieces) {packet other : IpPacket}
    (hpacket : packet ∈ pieces) (hlast : packet.isLastFragment = true)
    (hother : other ∈ pieces) (hlast' : other.isLastFragment = true) : packet = other := by
  induction cut with
  | last => rw [List.mem_singleton.mp hpacket, List.mem_singleton.mp hother]
  | more _ _ _ hmore _ _ ih =>
      have hrest := (List.mem_cons.mp hpacket).resolve_left (by rintro rfl; simp [hmore] at hlast)
      have hrest' := (List.mem_cons.mp hother).resolve_left (by rintro rfl; simp [hmore] at hlast')
      exact ih hrest hrest'

end Cut

/-! ### The replay -/

namespace IpHeader

theorem setPacketLen_self {bytes : List UInt8} (hbytes : 4 ≤ bytes.length) :
    setPacketLen bytes (packetLen bytes) = bytes := by
  have h2 : 2 < bytes.length := by omega
  have h3 : 3 < bytes.length := by omega
  have hhigh : UInt8.ofNat (packetLen bytes / 256) = bytes[2] := by
    have hlow := (bytes.getD 3 0).toNat_lt
    rw [← UInt8.toNat_inj, UInt8.toNat_ofNat']
    simp only [packetLen, byteAt, List.getD_eq_getElem?_getD, List.getElem?_eq_getElem h2,
      Option.getD_some] at hlow ⊢
    have hbyte := bytes[2].toNat_lt
    omega
  have hlow : UInt8.ofNat (packetLen bytes) = bytes[3] := by
    rw [← UInt8.toNat_inj, UInt8.toNat_ofNat']
    simp only [packetLen, byteAt, List.getD_eq_getElem?_getD, List.getElem?_eq_getElem h3,
      Option.getD_some]
    have hbyte := bytes[3].toNat_lt
    omega
  rw [setPacketLen, hhigh, hlow, List.set_getElem_self, List.set_getElem_self]

theorem setPacketLen_append {front back : List UInt8} (hfront : 4 ≤ front.length) (len : Nat) :
    setPacketLen front len ++ back = setPacketLen (front ++ back) len := by
  unfold setPacketLen
  rw [List.set_append_left _ _ (by omega), List.set_append_left _ _ (by rw [List.length_set]; omega)]

theorem setPacketLen_setPacketLen (bytes : List UInt8) (len other : Nat) :
    setPacketLen (setPacketLen bytes len) other = setPacketLen bytes other := by
  unfold setPacketLen
  rw [List.set_comm _ _ (by decide : (3 : Nat) ≠ 2), List.set_set, List.set_set]

end IpHeader

/-- The header of the first fragment with the length of the whole, and a payload. -/
def reassembled (first : IpPacket) (payload : List UInt8) : List UInt8 :=
  IpHeader.setPacketLen (first.header ++ payload) (first.headerLen + payload.length)

section reassembled

variable {first : IpPacket} {payload : List UInt8} (hheader : 20 ≤ first.headerLen)
include hheader

theorem reassembled_headerLen : IpHeader.headerLen (reassembled first payload) = first.headerLen := by
  have hlength : 20 ≤ first.header.length := by rwa [IpPacket.header_length]
  rw [reassembled, (IpHeader.sameButLength_setPacketLen _ _).headerLen,
    (IpHeader.sameButLength_append _ hlength).headerLen, IpPacket.header,
    (IpHeader.sameButLength_take hheader).headerLen, IpPacket.headerLen]

theorem reassembled_packetLen (hfits : first.headerLen + payload.length < 65536) :
    IpHeader.packetLen (reassembled first payload) = first.headerLen + payload.length := by
  rw [reassembled, IpHeader.packetLen_setPacketLen, Nat.mod_eq_of_lt hfits]
  rw [List.length_append, IpPacket.header_length]
  omega

theorem reassembled_payloadLen (hfits : first.headerLen + payload.length < 65536) :
    IpHeader.payloadLen (reassembled first payload) = payload.length := by
  rw [IpHeader.payloadLen, reassembled_packetLen hheader hfits, reassembled_headerLen hheader,
    if_pos (Nat.le_add_right _ _), Nat.add_sub_cancel_left]

/-- Behind the header comes the payload. -/
theorem reassembled_payload : (reassembled first payload).drop first.headerLen = payload := by
  have hlength : 4 ≤ first.header.length := by rw [IpPacket.header_length]; omega
  rw [reassembled, ← IpHeader.setPacketLen_append hlength]
  exact List.drop_left' (by rw [IpHeader.length_setPacketLen, IpPacket.header_length])

theorem reassembled_header : (reassembled first payload).take first.headerLen =
    IpHeader.setPacketLen first.header (first.headerLen + payload.length) := by
  have hlength : 4 ≤ first.header.length := by rw [IpPacket.header_length]; omega
  rw [reassembled, ← IpHeader.setPacketLen_append hlength]
  exact List.take_left' (by rw [IpHeader.length_setPacketLen, IpPacket.header_length])

theorem reassembled_append (more : List UInt8) (len : Nat) :
    IpHeader.setPacketLen (reassembled first payload ++ more) len =
      IpHeader.setPacketLen (first.header ++ (payload ++ more)) len := by
  have hlength : 4 ≤ (first.header ++ payload).length := by
    rw [List.length_append, IpPacket.header_length]
    omega
  rw [reassembled, IpHeader.setPacketLen_append hlength, IpHeader.setPacketLen_setPacketLen,
    List.append_assoc]

/-- The next fragment is appended and the length rewritten. -/
theorem addFragment_next {algorithm : ForwardSequential} (now : Int)
    (hdata : algorithm.packetData = some (reassembled first payload)) (next : IpPacket)
    (hoffset : next.offset = payload.length)
    (hfits : first.headerLen + (payload ++ next.payload).length < 65536) :
    (algorithm.addFragment now next).drop = algorithm.drop ∧
      (algorithm.addFragment now next).packetData =
        some (reassembled first (payload ++ next.payload)) := by
  have hshort : first.headerLen + payload.length < 65536 := by
    rw [List.length_append] at hfits
    omega
  have hlength : 20 ≤ (reassembled first payload).length := by
    rw [reassembled, IpHeader.length_setPacketLen, List.length_append, IpPacket.header_length]
    omega
  have happended := IpHeader.sameButLength_append next.payload hlength
  have hpacket : IpHeader.packetLen (reassembled first payload ++ next.payload) =
      first.headerLen + payload.length := by
    rw [← reassembled_packetLen hheader hshort, IpHeader.packetLen, IpHeader.packetLen,
      IpHeader.byteAt_append (by omega), IpHeader.byteAt_append (by omega)]
  unfold ForwardSequential.addFragment
  simp only [hdata, reassembled_payloadLen hheader hshort, hoffset, ne_eq, not_true, if_false,
    true_and, Option.some.injEq]
  rw [IpHeader.payloadLen, hpacket, happended.headerLen, reassembled_headerLen hheader,
    reassembled_append hheader, if_pos (Nat.le_add_right _ _)]
  unfold reassembled
  congr 1
  rw [List.length_append, IpPacket.payload_length]
  omega

/-- Replaying the rest of a datagram behind the part already put together. -/
theorem replay_rest {id offset : Nat} {more : List UInt8} {pieces : List IpPacket}
    (cut : Cut id offset more pieces) {algorithm : ForwardSequential} (now : Int)
    (hdrop : algorithm.drop = false)
    (hdata : algorithm.packetData = some (reassembled first payload))
    (hoffset : offset = payload.length)
    (hfits : first.headerLen + (payload ++ more).length < 65536) :
    (algorithm.replay now (pieces.map IpPacket.copy)).drop = false ∧
      (algorithm.replay now (pieces.map IpPacket.copy)).packetData =
        some (reassembled first (payload ++ more)) := by
  induction cut generalizing algorithm payload with
  | last packet =>
      obtain ⟨hsame, hnext⟩ := addFragment_next hheader now hdata packet.copy
        (by rw [IpPacket.copy_offset, hoffset]) (by rwa [IpPacket.copy_payload])
      simp only [List.map_singleton, ForwardSequential.replay, hsame, hdrop, Bool.false_eq_true,
        if_false, hnext, IpPacket.copy_payload, and_self]
  | more packet _ _ _ _ _ ih =>
      have hroom : first.headerLen + (payload ++ packet.payload).length < 65536 := by
        simp only [List.length_append] at hfits ⊢
        omega
      obtain ⟨hsame, hnext⟩ := addFragment_next hheader now hdata packet.copy
        (by rw [IpPacket.copy_offset, hoffset]) (by rwa [IpPacket.copy_payload])
      rw [IpPacket.copy_payload] at hnext
      simp only [List.map_cons, ForwardSequential.replay, hsame, hdrop, Bool.false_eq_true,
        if_false]
      rw [← List.append_assoc]
      refine ih (hsame.trans hdrop) hnext ?_ (by rwa [List.append_assoc])
      rw [List.length_append, IpPacket.payload_length, hoffset]

end reassembled

/-- Replaying a whole datagram puts it together. -/
theorem replay_all {id : Nat} {payload : List UInt8} {first : IpPacket} {rest : List IpPacket}
    (cut : Cut id 0 payload (first :: rest)) (now : Int)
    (hfits : first.headerLen + payload.length < 65536) :
    (ForwardSequential.replay now {} ((first :: rest).map IpPacket.copy)).drop = false ∧
      (ForwardSequential.replay now {} ((first :: rest).map IpPacket.copy)).packetData =
        some (reassembled first payload) := by
  have hwhole : first.copy.bytes.take first.packetLen = reassembled first first.payload := by
    rw [← IpPacket.copy_packetLen]
    have hlength : first.packetLen = first.headerLen + first.payload.length := by
      have hheader := first.header_le
      rw [IpPacket.payload_length, IpPacket.payloadLen_eq]
      unfold IpPacket.packetLen IpPacket.headerLen
      omega
    have hstruct := first.copy.struct_le
    have hcaptured := first.copy.captured
    rw [IpPacket.take_packetLen, IpPacket.copy_header, IpPacket.copy_payload, reassembled,
      ← hlength, ← IpPacket.copy_packetLen, ← IpPacket.copy_bytes]
    exact (IpHeader.setPacketLen_self (by omega)).symm
  generalize hzero : (0 : Nat) = offset at cut
  cases cut with
  | last _ _ hheader _ _ =>
      simp [ForwardSequential.replay, ForwardSequential.addFragment, ← hzero, hwhole]
  | more _ _ hheader _ _ cut =>
      simp only [List.map_cons, ForwardSequential.replay, ForwardSequential.addFragment,
        IpPacket.copy_offset, IpPacket.copy_packetLen, ← hzero, ne_eq, not_true, if_false, Bool.false_eq_true, hwhole]
      refine replay_rest hheader cut now rfl rfl ?_ hfits
      rw [← hzero, IpPacket.payload_length, Nat.zero_add]

/-! ### The entry of a datagram -/

/-- The entry holds the fragments seen so far, and some are still missing. -/
structure Holding (pieces : List IpPacket) (payload : List UInt8) (seen : IpPacket → Bool)
    (algorithm : WaitAllAndSort) : Prop where
  ordered : algorithm.orderedFragments = (pieces.filter seen).map IpPacket.copy
  currentSize : algorithm.currentSize = ((pieces.filter seen).map IpPacket.payloadLen).sum
  finalSize : ∀ packet ∈ pieces, packet.isLastFragment = true →
    algorithm.finalSize = if seen packet then payload.length else 0
  notComplete : algorithm.isComplete = false
  notDropped : algorithm.drop = false

namespace Holding

variable {id : Nat} {payload : List UInt8} {pieces : List IpPacket} {seen : IpPacket → Bool}
  {algorithm : WaitAllAndSort}

theorem start (pieces : List IpPacket) (payload : List UInt8) :
    Holding pieces payload (fun _ => false) {} := by
  have hnone : pieces.filter (fun _ => false) = [] := List.filter_eq_nil_iff.mpr (by simp)
  refine ⟨by rw [hnone]; rfl, by rw [hnone]; rfl, ?_, rfl, rfl⟩
  intro packet _ _
  rfl

theorem congr {other : IpPacket → Bool} (holding : Holding pieces payload seen algorithm)
    (same : ∀ packet ∈ pieces, seen packet = other packet) :
    Holding pieces payload other algorithm := by
  have hfilter : pieces.filter seen = pieces.filter other := List.filter_congr same
  refine ⟨hfilter ▸ holding.ordered, hfilter ▸ holding.currentSize, ?_, holding.notComplete,
    holding.notDropped⟩
  intro packet hmem hlast
  rw [← same packet hmem]
  exact holding.finalSize packet hmem hlast

/-- A retransmission leaves the entry alone. -/
theorem retransmission (holding : Holding pieces payload seen algorithm)
    (cut : Cut id 0 payload pieces) (now : Int) {packet : IpPacket} (hmem : packet ∈ pieces)
    (hseen : seen packet = true) : algorithm.addFragment now packet = algorithm := by
  have hsorted := cut.sorted_from.1.filter seen
  have htaken : insertByKey IpPacket.offset packet.copy algorithm.orderedFragments = none := by
    rw [holding.ordered, insertByKey_map, Option.map_eq_none_iff]
    simp only [IpPacket.copy_offset]
    rw [insertByKey_eq_none hsorted]
    exact ⟨packet, List.mem_filter.mpr ⟨hmem, hseen⟩, rfl⟩
  rw [WaitAllAndSort.addFragment, htaken]

/-- A fragment seen for the first time is put in its place. -/
theorem insert_new (holding : Holding pieces payload seen algorithm)
    (cut : Cut id 0 payload pieces) (now : Int) {packet : IpPacket} (hmem : packet ∈ pieces)
    (hnew : seen packet = false) :
    algorithm.addFragment now packet = algorithm.account now packet
      ((pieces.filter fun other => seen other || decide (other = packet)).map IpPacket.copy) := by
  have hplace : insertByKey IpPacket.offset packet.copy algorithm.orderedFragments =
      some ((pieces.filter fun other => seen other || decide (other = packet)).map
        IpPacket.copy) := by
    rw [holding.ordered, insertByKey_map]
    simp only [IpPacket.copy_offset]
    rw [insertByKey_filter cut.sorted_from.1 hmem hnew]
    rfl
  rw [WaitAllAndSort.addFragment, hplace]

/-- The sizes after a fragment seen for the first time. -/
theorem sizes (holding : Holding pieces payload seen algorithm) (cut : Cut id 0 payload pieces)
    {packet : IpPacket} (hmem : packet ∈ pieces) (hnew : seen packet = false) :
    algorithm.currentSize + packet.payloadLen =
        ((pieces.filter fun other => seen other || decide (other = packet)).map
          IpPacket.payloadLen).sum ∧
      ∀ other ∈ pieces, other.isLastFragment = true →
        (if packet.isLastFragment then packet.offset + packet.payloadLen
          else algorithm.finalSize) =
        if seen other || decide (other = packet) then payload.length else 0 := by
  constructor
  · rw [holding.currentSize, sum_filter_insert cut.sorted_from.1.nodup hmem hnew]
  · intro other hother hlast
    have hend := cut.end_of_last hother hlast
    by_cases hsame : other = packet
    · subst hsame
      simp [hlast, hend]
    · have hnotlast : packet.isLastFragment = false := by
        cases hpacket : packet.isLastFragment with
        | false => rfl
        | true => exact absurd (cut.last_unique hother hlast hmem hpacket) hsame
      simp only [hnotlast, Bool.false_eq_true, if_false, hsame, decide_false, Bool.or_false]
      exact holding.finalSize other hother hlast

/-- A fragment that leaves others missing. -/
theorem one_more (holding : Holding pieces payload seen algorithm)
    (cut : Cut id 0 payload pieces) (now : Int) {packet missing : IpPacket}
    (hmem : packet ∈ pieces) (hnew : seen packet = false) (hmissing : missing ∈ pieces)
    (hunseen : seen missing = false) (hne : packet ≠ missing) :
    Holding pieces payload (fun other => seen other || decide (other = packet))
      (algorithm.addFragment now packet) := by
  obtain ⟨hcurrent, hfinal⟩ := holding.sizes cut hmem hnew
  obtain ⟨last, hlast, hislast⟩ := cut.exists_last
  have hshort : ((pieces.filter fun other => seen other || decide (other = packet)).map
      IpPacket.payloadLen).sum < payload.length := by
    rw [← cut.total]
    exact sum_filter_lt hmissing (by simp [hunseen, hne.symm]) (cut.positive _ hmissing)
  have hpositive := cut.positive _ hmem
  rw [holding.insert_new cut now hmem hnew, WaitAllAndSort.account]
  simp only [hcurrent]
  have hfinal' := hfinal last hlast hislast
  rw [if_neg, if_neg]
  · exact ⟨rfl, rfl, hfinal, holding.notComplete, holding.notDropped⟩
  · rw [hfinal']
    split_ifs <;> omega
  · rw [hfinal']
    split_ifs <;> omega

/-- The last missing fragment completes the packet. -/
theorem complete {first : IpPacket} {rest : List IpPacket}
    (holding : Holding (first :: rest) payload seen algorithm)
    (cut : Cut id 0 payload (first :: rest)) (now : Int) {packet : IpPacket}
    (hmem : packet ∈ first :: rest) (hnew : seen packet = false)
    (hothers : ∀ other ∈ first :: rest, other ≠ packet → seen other = true)
    (hfits : first.headerLen + payload.length < 65536) :
    (algorithm.addFragment now packet).isComplete = true ∧
      (algorithm.addFragment now packet).packetData = some (reassembled first payload) := by
  obtain ⟨hcurrent, hfinal⟩ := holding.sizes cut hmem hnew
  obtain ⟨last, hlast, hislast⟩ := cut.exists_last
  have hselected : ∀ other ∈ first :: rest, (seen other || decide (other = packet)) = true := by
    intro other hother
    by_cases hsame : other = packet
    · simp [hsame]
    · simp [hothers other hother hsame]
  have hall : ((first :: rest).filter fun other => seen other || decide (other = packet)) =
      first :: rest := List.filter_eq_self.mpr hselected
  obtain ⟨hkept, hdata⟩ := replay_all cut now hfits
  have hfinal' := hfinal last hlast hislast
  rw [hselected last hlast, if_pos rfl] at hfinal'
  rw [hall, cut.total] at hcurrent
  rw [holding.insert_new cut now hmem hnew, hall, WaitAllAndSort.account]
  simp only [hcurrent, hfinal', hkept, hdata, lt_self_iff_false, and_false, if_false, if_true,
    Bool.false_eq_true, and_self]

end Holding

/-! ### Runs -/

namespace FragmentTable

/-- No time-out removes the entry of this identification at the start of a call. -/
def KeepsEntry (id : Nat) (table : FragmentTable) (arrival : Arrival) : Prop :=
  (table.sweep arrival.now).fragmentMap.find? id = table.fragmentMap.find? id

/-- A call touches the entry of its own identification only. -/
theorem find?_handleIpFragment_of_ne (table : FragmentTable) (now stamp : Int) {packet : IpPacket}
    {id : Nat} (hne : id ≠ packet.packetId) :
    (table.handleIpFragment now stamp packet).2.fragmentMap.find? id =
      (table.sweep now).fragmentMap.find? id := by
  unfold handleIpFragment
  simp only
  split_ifs <;> simp [OrderedMap.find?_erase_of_ne hne, OrderedMap.find?_set_of_ne hne]

/-- A call whose fragment neither completes nor spoils its packet stores the new entry and
returns nothing. -/
theorem handleIpFragment_pending (table : FragmentTable) (now stamp : Int) {packet : IpPacket}
    {algorithm : WaitAllAndSort}
    (hadd : ((table.sweep now).algorithmOf packet.packetId).addFragment stamp packet = algorithm)
    (hcomplete : algorithm.isComplete = false) (hdrop : algorithm.drop = false) :
    (table.handleIpFragment now stamp packet).1 = none ∧
      (table.handleIpFragment now stamp packet).2.algorithmOf packet.packetId = algorithm := by
  unfold handleIpFragment
  simp only [hadd, hcomplete, hdrop, Bool.false_eq_true, if_false, true_and]
  rw [algorithmOf, OrderedMap.find?_set_self, Option.getD_some]

theorem handleIpFragment_complete (table : FragmentTable) (now stamp : Int) {packet : IpPacket}
    {algorithm : WaitAllAndSort}
    (hadd : ((table.sweep now).algorithmOf packet.packetId).addFragment stamp packet = algorithm)
    (hcomplete : algorithm.isComplete = true) :
    (table.handleIpFragment now stamp packet).1 = algorithm.packetData := by
  unfold handleIpFragment
  simp [hadd, hcomplete]

/-- While `missing` does not arrive, the calls for the datagram return nothing and its entry
collects what arrives. -/
theorem pending_run {id : Nat} {payload : List UInt8} {pieces : List IpPacket}
    (cut : Cut id 0 payload pieces) {missing : IpPacket} (hmissing : missing ∈ pieces)
    {table table' : FragmentTable} {arrivals : List Arrival}
    (run : Steps (Guarded (KeepsEntry id) Step) table arrivals table')
    (ours : ∀ arrival ∈ arrivals, arrival.fragment.packetId = id →
      arrival.fragment ∈ pieces ∧ arrival.fragment ≠ missing)
    {seen : IpPacket → Bool} (hunseen : seen missing = false)
    (holding : Holding pieces payload seen (table.algorithmOf id)) :
    (∀ arrival ∈ arrivals, arrival.fragment.packetId = id → arrival.result = none) ∧
      Holding pieces payload
        (fun packet => seen packet || decide (packet ∈ arrivals.map Arrival.fragment))
        (table'.algorithmOf id) := by
  induction run generalizing seen with
  | nil table => exact ⟨by simp, by simpa using holding⟩
  | @cons table next table' arrival arrivals first _ ih =>
      obtain ⟨hkept, hstep⟩ := first
      have hrest := fun other hother => ours other (List.mem_cons_of_mem _ hother)
      have hentry : (table.sweep arrival.now).algorithmOf id = table.algorithmOf id := by
        rw [algorithmOf, hkept, algorithmOf]
      by_cases hid : arrival.fragment.packetId = id
      · obtain ⟨hpiece, hne⟩ := ours arrival List.mem_cons_self hid
        -- the entry after this call, whether the fragment is new or not
        have hadded : Holding pieces payload
            (fun packet => seen packet || decide (packet = arrival.fragment))
            ((table.algorithmOf id).addFragment arrival.stamp arrival.fragment) := by
          cases hseen : seen arrival.fragment with
          | true =>
              rw [holding.retransmission cut arrival.stamp hpiece hseen]
              refine holding.congr ?_
              intro packet _
              by_cases hsame : packet = arrival.fragment <;> simp [hsame, hseen]
          | false => exact holding.one_more cut arrival.stamp hpiece hseen hmissing hunseen hne
        obtain ⟨hnone, hnext⟩ := handleIpFragment_pending table arrival.now
          arrival.stamp rfl
          (by rw [hid, hentry]; exact hadded.notComplete)
          (by rw [hid, hentry]; exact hadded.notDropped)
        rw [hstep] at hnone hnext
        rw [hid, hentry] at hnext
        rw [← hnext] at hadded
        obtain ⟨hresults, hfinal⟩ := ih hrest (by simp [hunseen, hne.symm]) hadded
        refine ⟨?_, hfinal.congr ?_⟩
        · intro other hother hid'
          rcases List.mem_cons.mp hother with rfl | hother
          · exact hnone
          · exact hresults other hother hid'
        · intro packet _
          simp [Bool.or_assoc]
      · have hother : next.algorithmOf id = table.algorithmOf id := by
          have hfind := find?_handleIpFragment_of_ne table arrival.now arrival.stamp
            (Ne.symm hid)
          rw [hstep] at hfind
          rw [algorithmOf, hfind, hkept, algorithmOf]
        rw [← hother] at holding
        obtain ⟨hresults, hfinal⟩ := ih hrest hunseen holding
        refine ⟨?_, hfinal.congr ?_⟩
        · intro other hmem hid'
          rcases List.mem_cons.mp hmem with rfl | hmem
          · exact absurd hid' hid
          · exact hresults other hmem hid'
        · intro packet hpacket
          have hne : packet ≠ arrival.fragment := by
            rintro rfl
            exact hid (cut.packetId _ hpacket)
          simp [hne]

/-- However the fragments of a datagram are ordered and repeated, whatever other packets
arrive in between, every call for it returns nothing but the one that delivers the last
missing fragment, and that one returns the datagram. -/
theorem datagram_reassembled {id : Nat} {payload : List UInt8} {first : IpPacket}
    {rest : List IpPacket} (cut : Cut id 0 payload (first :: rest))
    (hfits : first.headerLen + payload.length ≤ 65535)
    {table table' : FragmentTable} (hfree : table.fragmentMap.find? id = none)
    {arrivals : List Arrival} {last : Arrival}
    (run : Steps (Guarded (KeepsEntry id) Step) table (arrivals ++ [last]) table')
    (ours : ∀ arrival ∈ arrivals, arrival.fragment.packetId = id →
      arrival.fragment ∈ first :: rest)
    (hlast : last.fragment ∈ first :: rest)
    (hmissing : ∀ arrival ∈ arrivals, arrival.fragment ≠ last.fragment)
    (hothers : ∀ packet ∈ first :: rest, packet ≠ last.fragment →
      ∃ arrival ∈ arrivals, arrival.fragment = packet) :
    (∀ arrival ∈ arrivals, arrival.fragment.packetId = id → arrival.result = none) ∧
      ∃ packet, last.result = some packet ∧
        packet.take first.headerLen =
          IpHeader.setPacketLen first.header (first.headerLen + payload.length) ∧
        IpHeader.headerLen packet = first.headerLen ∧
        IpHeader.packetLen packet = first.headerLen + payload.length ∧
        packet.drop first.headerLen = payload := by
  obtain ⟨middle, before, final⟩ := run.split
  obtain ⟨hkept, hstep⟩ := Steps.singleton_iff.mp final
  have hstart : Holding (first :: rest) payload (fun _ => false) (table.algorithmOf id) := by
    rw [algorithmOf, hfree]
    exact Holding.start _ _
  obtain ⟨hresults, holding⟩ := pending_run cut hlast before
    (fun arrival hmem hid => ⟨ours arrival hmem hid, hmissing arrival hmem⟩) rfl hstart
  refine ⟨hresults, reassembled first payload, ?_, ?_⟩
  · have hid := cut.packetId _ hlast
    have hentry : (middle.sweep last.now).algorithmOf id = middle.algorithmOf id := by
      rw [algorithmOf, hkept, algorithmOf]
    obtain ⟨hcomplete, hdata⟩ := holding.complete cut last.stamp hlast
      (by simpa using hmissing)
      (fun packet hmem hne => by simpa using hothers packet hmem hne) (by omega)
    have hresult := handleIpFragment_complete middle last.now last.stamp rfl (by rw [hid, hentry]; exact hcomplete)
    rw [hstep, hid, hentry, hdata] at hresult
    exact hresult
  · have hheader := cut.headerLen first List.mem_cons_self
    exact ⟨reassembled_header hheader, reassembled_headerLen hheader,
      reassembled_packetLen hheader (by omega), reassembled_payload hheader⟩

end FragmentTable

/-- A fragment of 20 bytes of header, from one host of a network to its gateway. -/
def fragmentBytes (host : UInt8) (field : UInt8 × UInt8) (payload : List UInt8) : List UInt8 :=
  [0x45, 0, 0, 20 + UInt8.ofNat payload.length, 0, 7, field.1, field.2, 64, 17, 0, 0,
    10, 0, 0, host, 10, 0, 0, 254] ++ payload

/-- The first eight bytes of a datagram of host 1, more to follow. -/
def firstHalf : IpPacket :=
  ⟨fragmentBytes 1 (0x20, 0) [1, 2, 3, 4, 5, 6, 7, 8], by decide, by decide, by decide⟩

/-- The last three bytes of that datagram. -/
def secondHalf : IpPacket :=
  ⟨fragmentBytes 1 (0, 1) [9, 10, 11], by decide, by decide, by decide⟩

namespace FragmentTable

/-- The second half twice and then the first. -/
theorem two_halves_reassembled :
    (∀ arrival ∈ [Arrival.mk 5 5 secondHalf none, Arrival.mk 6 6 secondHalf none],
        arrival.fragment.packetId = 7 → arrival.result = none) ∧
      ∃ packet, some (fragmentBytes 1 (0x20, 0) [1, 2, 3, 4, 5, 6, 7, 8, 9, 10, 11]) =
          some packet ∧
        packet.take firstHalf.headerLen = IpHeader.setPacketLen firstHalf.header
          (firstHalf.headerLen + [1, 2, 3, 4, 5, 6, 7, 8, 9, 10, 11].length) ∧
        IpHeader.headerLen packet = firstHalf.headerLen ∧
        IpHeader.packetLen packet =
          firstHalf.headerLen + [1, 2, 3, 4, 5, 6, 7, 8, 9, 10, 11].length ∧
        packet.drop firstHalf.headerLen = [1, 2, 3, 4, 5, 6, 7, 8, 9, 10, 11] := by
  have cut : Cut 7 0 [1, 2, 3, 4, 5, 6, 7, 8, 9, 10, 11] [firstHalf, secondHalf] :=
    .more firstHalf (by decide) (by decide) (by decide) (by decide)
      (.last secondHalf (by decide) (by decide) (by decide) (by decide))
  exact @datagram_reassembled 7 _ _ _ cut (by decide) {} _ rfl
    [⟨5, 5, secondHalf, none⟩, ⟨6, 6, secondHalf, none⟩]
    ⟨7, 7, firstHalf, some (fragmentBytes 1 (0x20, 0) [1, 2, 3, 4, 5, 6, 7, 8, 9, 10, 11])⟩
    (.cons ⟨rfl, rfl⟩ (.cons ⟨rfl, rfl⟩ (.cons ⟨rfl, rfl⟩ (.nil _))))
    (by decide) (by decide) (by decide) (by decide)

end FragmentTable

end OrkAudio
