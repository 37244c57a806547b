import OrkAudio.RtpMixer.Moves

/-! Which cells, slices and channels a call of a mixer touches.

The accesses of a call are listed along its control flow: a cell stands for that position
in `m_buffer` and in the buffers of the channels, a slice for the cells that a shipment
copies, a channel for an index into `m_rtpMixerChannels`. No timestamp matters for them:
the pointers stay inside the buffer however the timestamps jump. -/

namespace OrkAudio.RtpMixer

open Lib

/-- Something that a call reads or writes through a pointer or an index. -/
inductive Access
  | cell (position : Nat)
  | slice (start size : Nat)
  | channel (chanIdx : Int) (existing : Nat)
  deriving DecidableEq, Repr

def Access.InRange : Access → Prop
  | .cell position => position < numSamplesCircularBuffer
  | .slice start size => start + size ≤ numSamplesCircularBuffer
  | .channel chanIdx existing => 0 ≤ chanIdx ∧ chanIdx < existing

instance : DecidablePred Access.InRange
  | .cell _ => inferInstanceAs (Decidable (_ < _))
  | .slice _ _ => inferInstanceAs (Decidable (_ ≤ _))
  | .channel _ _ => inferInstanceAs (Decidable (_ ∧ _))

/-- The `count` cells that a pointer walks over from `cell` on. -/
def walkAccesses (count cell : Nat) : List Access :=
  (List.range count).map fun i => .cell ((Ring.next numSamplesCircularBuffer)^[i] cell)

/-- `m_rtpMixerChannels[details->m_channel - 1]`, read only when there are channels. -/
def channelAccesses (m : RtpMixer) (chunk : AudioChunk) : List Access :=
  if m.numInputChannels ≠ 0 then
    [.channel ((chunk.details.channel.toNat : Int) - 1) m.numInputChannels]
  else []

/-- The cells that the payload is mixed into. -/
def mixAccesses (m : RtpMixer) (chunk : AudioChunk) (correctedTimestamp : Nat) : List Access :=
  let timestampDelta : Int := (m.writeTimestamp : Int) - correctedTimestamp
  if timestampDelta < 0 ∨ timestampDelta ≥ numSamplesCircularBuffer then []
  else walkAccesses chunk.samples.length
    (cicularPointerSubtractOffset m.writePtr timestampDelta.toNat)

/-- The accesses of `StoreRtpPacket`. -/
def storeAccesses (m : RtpMixer) (chunk : AudioChunk) (correctedTimestamp : Nat) : List Access :=
  let endRtpTimestamp := correctedTimestamp + chunk.numSamples
  let silenceSize : Int := (endRtpTimestamp : Int) - m.writeTimestamp
  m.channelAccesses chunk ++
    if endRtpTimestamp ≥ 4294967296 ∨ silenceSize ≥ numSamplesCircularBuffer then []
    else walkAccesses silenceSize.toNat m.writePtr ++
      (m.writeSilence endRtpTimestamp).mixAccesses chunk correctedTimestamp

/-- The slices that `CreateShipment` copies without additional silence. -/
def shipmentAccesses (m : RtpMixer) (force : Bool) : List Access :=
  let stopPtr := if force then m.writePtr
    else cicularPointerSubtractOffset m.writePtr m.numSampleShipmentHoldoff
  if stopPtr < m.readPtr then
    [.slice m.readPtr (numSamplesCircularBuffer - m.readPtr), .slice 0 stopPtr]
  else [.slice m.readPtr (stopPtr - m.readPtr)]

/-- The accesses of `ManageOutOfRangeTimestamp`. -/
def manageAccesses (tapeNumChannels : Int) (m : RtpMixer) (chunk : AudioChunk) : List Access :=
  let timestamp := chunk.details.timestamp.toNat
  if chunk.details.channel = 1 then
    m.shipmentAccesses true ++
      ((m.createShipment tapeNumChannels 0 true).reset timestamp).storeAccesses chunk timestamp
  else if chunk.details.channel = 2 then []
  else m.channelAccesses chunk

/-- The accesses of the part of `AudioChunkIn` that places a chunk. -/
def placeAccesses (tapeNumChannels : Int) (m : RtpMixer) (chunk : AudioChunk)
    (correctedTimestamp : Nat) : List Access :=
  let rtpEndTimestamp := toU32 ((correctedTimestamp : Int) + chunk.numSamples)
  if m.writeTimestamp = 0 then
    if chunk.details.channel = 1 then
      (m.openAt correctedTimestamp).storeAccesses chunk correctedTimestamp
    else []
  else if correctedTimestamp ≥ m.readTimestamp ∧
      toInt32 (toU32 ((rtpEndTimestamp : Int) - m.writeTimestamp)) ≤ m.freeSpace ∧
      toInt32 (toU32 ((m.writeTimestamp : Int) - correctedTimestamp)) ≤ m.usedSpace then
    m.storeAccesses chunk correctedTimestamp ++
      match m.storeRtpPacket chunk correctedTimestamp with
      | .ok m => if m.usedSpace > m.numSampleTrigger then m.shipmentAccesses false else []
      | .error _ => []
  else m.manageAccesses tapeNumChannels chunk

/-- The accesses of `AudioChunkIn`, up to the first channel outside the bounds. -/
def callAccesses (tapeNumChannels : Int) (m : RtpMixer) (input : Option AudioChunk) :
    List Access :=
  match input with
  | none => []
  | some chunk =>
      if m.error = false ∧ chunk.details.marker = mediaChunkEosMarker then m.shipmentAccesses true
      else if m.Admits chunk then
        let m := m.ensureChannels tapeNumChannels chunk
        m.channelAccesses chunk ++
          match m.correctTimestamp chunk with
          | .ok (m, chunk, correctedTimestamp) =>
              m.placeAccesses tapeNumChannels chunk correctedTimestamp
          | .error _ => []
      else []

theorem walkAccesses_succ (count cell : Nat) : walkAccesses (count + 1) cell =
    .cell cell :: walkAccesses count (Ring.next numSamplesCircularBuffer cell) := by
  simp [walkAccesses, List.range_succ_eq_map, Function.comp_def]

/-! ### Only the listed cells change -/

/-- The contents of a cell, in the mixed buffer and in each channel. -/
def cellContents (m : RtpMixer) (position : Nat) : Int16 × List Int16 :=
  (m.buffer position, m.channels.map fun c => c.buffer position)

theorem zeroSamples_off {position : Nat} (count : Nat) (m : RtpMixer)
    (hoff : .cell position ∉ walkAccesses count m.writePtr) :
    (zeroSamples count m).cellContents position = m.cellContents position := by
  induction count generalizing m with
  | zero => rfl
  | succ count ih =>
      rw [walkAccesses_succ, List.mem_cons, not_or] at hoff
      have hne : position ≠ m.writePtr := fun heq => hoff.1 (heq ▸ rfl)
      rw [zeroSamples, ih m.zeroSample hoff.2]
      simp [cellContents, zeroSample, hne, Function.comp_def]

theorem mixSamples_off {position : Nat} (chanIdx : Int) (payload : List Int16) (cell : Nat)
    (m : RtpMixer) (hoff : .cell position ∉ walkAccesses payload.length cell) :
    (mixSamples chanIdx payload cell m).cellContents position = m.cellContents position := by
  induction payload generalizing cell m with
  | nil => rfl
  | cons sample payload ih =>
      rw [List.length_cons, walkAccesses_succ, List.mem_cons, not_or] at hoff
      have hne : position ≠ cell := fun heq => hoff.1 (heq ▸ rfl)
      have hsame : (m.channels.modify chanIdx.toNat fun c =>
          { c with buffer := Function.update c.buffer cell sample }).map
            (fun c => c.buffer position) = m.channels.map fun c => c.buffer position := by
        apply List.ext_getElem
        · simp
        · intro i _ _
          by_cases hi : chanIdx.toNat = i <;> simp [hi, hne]
      rw [mixSamples, ih _ _ hoff.2]
      simp [cellContents, mixSample, hne, hsame]

/-- Storing a chunk changes no cell but those it is said to access. -/
theorem storeRtpPacket_off {m m' : RtpMixer} {chunk : AudioChunk} {timestamp position : Nat}
    (hstore : m.storeRtpPacket chunk timestamp = .ok m')
    (hoff : .cell position ∉ m.storeAccesses chunk timestamp) :
    m'.cellContents position = m.cellContents position := by
  rcases storeRtpPacket_cases hstore with ⟨rfl, -⟩ | ⟨hword, hturn, rfl⟩
  · rfl
  · unfold storeAccesses at hoff
    rw [List.mem_append, not_or, if_neg (by omega), List.mem_append, not_or] at hoff
    obtain ⟨-, hzeroed, hmixed⟩ := hoff
    have hsilence : (m.writeSilence (timestamp + chunk.numSamples)).cellContents position =
        m.cellContents position := by
      unfold writeSilence
      simp only
      split_ifs
      · rw [← zeroSamples_off _ m hzeroed]
        rfl
      · rfl
    rw [← hsilence]
    unfold mixAccesses at hmixed
    unfold stored mixPacket
    simp only at hmixed ⊢
    split_ifs at hmixed ⊢
    · rfl
    · exact mixSamples_off _ _ _ _ hmixed

/-! ### The pointers stay inside the buffer -/

/-- What holds of a mixer whatever has been handed in. -/
structure Bounded (tapeNumChannels : Int) (m : RtpMixer) : Prop where
  readPtr_lt : m.readPtr < numSamplesCircularBuffer
  writePtr_lt : m.writePtr < numSamplesCircularBuffer
  holdoff : m.numSampleShipmentHoldoff = numSamplesShipmentHoldoff
  separate : m.channels = [] ∨ (m.numOutputChannels = 2 ∧ 1 < tapeNumChannels)

theorem fresh_bounded (tapeNumChannels numOutputChannels : Int) (memory : Nat → Int16) :
    Bounded tapeNumChannels (fresh numOutputChannels memory) := by
  constructor <;> simp [fresh]

theorem next_iterate_lt (count : Nat) {cell : Nat} (hcell : cell < numSamplesCircularBuffer) :
    (Ring.next numSamplesCircularBuffer)^[count] cell < numSamplesCircularBuffer := by
  induction count with
  | zero => exact hcell
  | succ count ih =>
      rw [Function.iterate_succ_apply']
      exact Ring.next_lt ih

theorem circularPointerAddOffset_lt {ptr offset : Nat} (hptr : ptr < numSamplesCircularBuffer)
    (hoffset : offset ≤ numSamplesCircularBuffer) :
    circularPointerAddOffset ptr offset < numSamplesCircularBuffer := by
  rw [circularPointerAddOffset_slot hptr]
  exact Ring.slot_lt hptr hoffset

theorem cicularPointerSubtractOffset_lt {ptr offset : Nat}
    (hptr : ptr < numSamplesCircularBuffer) :
    cicularPointerSubtractOffset ptr offset < numSamplesCircularBuffer := by
  unfold cicularPointerSubtractOffset
  split_ifs <;> omega

namespace Bounded

variable {tapeNumChannels : Int} {m m' : RtpMixer}

/-- The pointers of another mixer that keeps the rest. -/
theorem of_pointers (bounded : Bounded tapeNumChannels m)
    (hread : m'.readPtr < numSamplesCircularBuffer)
    (hwrite : m'.writePtr < numSamplesCircularBuffer)
    (hholdoff : m'.numSampleShipmentHoldoff = m.numSampleShipmentHoldoff)
    (houtput : m'.numOutputChannels = m.numOutputChannels)
    (hchannels : m.channels = [] → m'.channels = []) : Bounded tapeNumChannels m' := by
  refine ⟨hread, hwrite, hholdoff.trans bounded.holdoff, ?_⟩
  rcases bounded.separate with hnone | hseparate
  · exact .inl (hchannels hnone)
  · rw [houtput]
    exact .inr hseparate

theorem stopPtr_lt (bounded : Bounded tapeNumChannels m) (force : Bool) :
    (if force then m.writePtr
      else cicularPointerSubtractOffset m.writePtr m.numSampleShipmentHoldoff) <
      numSamplesCircularBuffer := by
  split
  · exact bounded.writePtr_lt
  · exact cicularPointerSubtractOffset_lt bounded.writePtr_lt

theorem shipSlice (bounded : Bounded tapeNumChannels m) (start : Nat) {shortSize : Nat}
    (hsize : shortSize ≤ numSamplesCircularBuffer) :
    Bounded tapeNumChannels (shipSlice tapeNumChannels m start shortSize) := by
  obtain ⟨shipped, -, heq⟩ := m.shipSlice_eq tapeNumChannels start shortSize hsize
  rw [heq]
  exact bounded.of_pointers (circularPointerAddOffset_lt bounded.readPtr_lt hsize)
    bounded.writePtr_lt rfl rfl id

theorem createShipment (bounded : Bounded tapeNumChannels m) (force : Bool) :
    Bounded tapeNumChannels (createShipment tapeNumChannels m 0 force) := by
  have hread := bounded.readPtr_lt
  have hstop := bounded.stopPtr_lt force
  unfold RtpMixer.createShipment
  simp only [ne_eq, not_true, false_or, if_false]
  generalize (if force = true then m.writePtr
    else cicularPointerSubtractOffset m.writePtr m.numSampleShipmentHoldoff) = stop at hstop ⊢
  split
  · apply Bounded.shipSlice
    · exact bounded.shipSlice _ (Nat.sub_le _ _)
    · exact hstop.le
  · apply bounded.shipSlice
    exact (Nat.sub_le _ _).trans hstop.le

theorem stored (bounded : Bounded tapeNumChannels m) (chunk : AudioChunk) (timestamp : Nat) :
    Bounded tapeNumChannels (m.stored chunk timestamp) := by
  obtain ⟨channels, history, buffer, hnone, heq⟩ := m.stored_eq chunk timestamp
  rw [heq]
  exact bounded.of_pointers bounded.readPtr_lt (next_iterate_lt _ bounded.writePtr_lt) rfl rfl hnone

theorem storeRtpPacket (bounded : Bounded tapeNumChannels m) {chunk : AudioChunk}
    {timestamp : Nat} (hstore : m.storeRtpPacket chunk timestamp = .ok m') :
    Bounded tapeNumChannels m' := by
  rcases storeRtpPacket_cases hstore with ⟨rfl, -⟩ | ⟨-, -, rfl⟩
  · exact bounded
  · exact bounded.stored chunk timestamp

theorem openAt (bounded : Bounded tapeNumChannels m) (timestamp : Nat) :
    Bounded tapeNumChannels (m.openAt timestamp) :=
  bounded.of_pointers bounded.readPtr_lt bounded.writePtr_lt rfl rfl id

theorem reset (bounded : Bounded tapeNumChannels m) (timestamp : Nat) :
    Bounded tapeNumChannels (m.reset timestamp) :=
  bounded.of_pointers (by simp [RtpMixer.reset]) (by simp [RtpMixer.reset]) rfl rfl id

theorem manageOutOfRangeTimestamp (bounded : Bounded tapeNumChannels m) {chunk : AudioChunk}
    (hmanage : m.manageOutOfRangeTimestamp tapeNumChannels chunk = .ok m') :
    Bounded tapeNumChannels m' := by
  unfold RtpMixer.manageOutOfRangeTimestamp at hmanage
  simp only at hmanage
  split_ifs at hmanage with hfirst hsecond hseparate
  · rw [bind_eq_ok] at hmanage
    obtain ⟨mixed, hstore, hdelta⟩ := hmanage
    obtain rfl := Except.ok.inj hdelta
    have hmixed := ((bounded.createShipment true).reset _).storeRtpPacket hstore
    exact hmixed.of_pointers hmixed.readPtr_lt hmixed.writePtr_lt rfl rfl id
  · obtain rfl := Except.ok.inj hmanage
    exact bounded.of_pointers bounded.readPtr_lt bounded.writePtr_lt rfl rfl id
  · obtain rfl := Except.ok.inj hmanage
    refine bounded.of_pointers bounded.readPtr_lt bounded.writePtr_lt rfl rfl ?_
    intro hnone
    simp [modifyChannel, hnone]
  · obtain rfl := Except.ok.inj hmanage
    exact bounded

theorem placeChunk (bounded : Bounded tapeNumChannels m) {chunk : AudioChunk} {timestamp : Nat}
    (hplace : m.placeChunk tapeNumChannels chunk timestamp = .ok m') :
    Bounded tapeNumChannels m' := by
  unfold RtpMixer.placeChunk at hplace
  simp only at hplace
  split_ifs at hplace with hunset hfirst hnewer hfits
  · exact (bounded.openAt timestamp).storeRtpPacket hplace
  · obtain rfl := Except.ok.inj hplace
    exact bounded
  · rw [bind_eq_ok] at hplace
    obtain ⟨mixed, hstore, hship⟩ := hplace
    have hmixed := bounded.storeRtpPacket hstore
    split_ifs at hship with htrigger
    · obtain rfl := Except.ok.inj hship
      exact hmixed.createShipment false
    · obtain rfl := Except.ok.inj hship
      exact hmixed
  · exact bounded.manageOutOfRangeTimestamp hplace
  · exact bounded.manageOutOfRangeTimestamp hplace

/-- Creating channels gives a separate channel to a mixer with two outputs only. -/
theorem ensureChannels (bounded : Bounded tapeNumChannels m) (chunk : AudioChunk) :
    Bounded tapeNumChannels (m.ensureChannels tapeNumChannels chunk) := by
  have hsame := m.ensureChannels_untouched tapeNumChannels chunk
  refine ⟨hsame.readPtr ▸ bounded.readPtr_lt, hsame.writePtr ▸ bounded.writePtr_lt,
    hsame.numSampleShipmentHoldoff.trans bounded.holdoff, ?_⟩
  rw [hsame.numOutputChannels]
  rcases bounded.separate with hnone | hseparate
  · by_cases hboth : m.numOutputChannels = 2 ∧ 1 < tapeNumChannels
    · exact .inr hboth
    · refine .inl ?_
      unfold RtpMixer.ensureChannels createChannels
      split_ifs with htwo hone htape <;> first | exact hnone | omega
  · exact .inr hseparate

theorem correctTimestamp (bounded : Bounded tapeNumChannels m) {chunk chunk' : AudioChunk}
    {timestamp : Nat} (hcorrect : m.correctTimestamp chunk = .ok (m', chunk', timestamp))
    (hchannels : m'.channels.length = m.channels.length) : Bounded tapeNumChannels m' := by
  have hsame := (correctTimestamp_frame hcorrect).1
  refine bounded.of_pointers (hsame.readPtr ▸ bounded.readPtr_lt)
    (hsame.writePtr ▸ bounded.writePtr_lt) hsame.numSampleShipmentHoldoff
    hsame.numOutputChannels ?_
  intro hnone
  rw [hnone] at hchannels
  exact List.length_eq_zero_iff.mp hchannels

end Bounded

/-- Working out the timestamp creates no channel. -/
theorem correctTimestamp_channels {m m' : RtpMixer} {chunk chunk' : AudioChunk} {timestamp : Nat}
    (hcorrect : m.correctTimestamp chunk = .ok (m', chunk', timestamp)) :
    m'.channels.length = m.channels.length := by
  unfold correctTimestamp at hcorrect
  simp only at hcorrect
  split_ifs at hcorrect with hfirst hmissing hsecond hmissing' hopen hrealign hseparate
  · obtain ⟨rfl, -, -⟩ := by simpa using hcorrect
    simp [modifyChannel]
  · obtain ⟨rfl, -, -⟩ := by simpa using hcorrect
    simp [modifyChannel]
  · obtain ⟨rfl, -, -⟩ := by simpa using hcorrect
    simp [modifyChannel]
  · obtain ⟨rfl, -, -⟩ := by simpa using hcorrect
    simp [modifyChannel]
  · split at hcorrect
    · cases hcorrect
    · obtain ⟨rfl, -, -⟩ := by simpa using hcorrect
      simp [modifyChannel]
  · obtain ⟨rfl, -, -⟩ := by simpa using hcorrect
    rfl

/-! ### Every access is in range, or the channel is 0 -/

/-- The channel that the chunk names exists, where there are separate channels. -/
def Serves (m : RtpMixer) (chunk : AudioChunk) : Prop :=
  m.channels = [] ∨
    (0 < chunk.details.channel.toNat ∧ chunk.details.channel.toNat ≤ m.channels.length)

theorem Serves.of_channels {m m' : RtpMixer} {chunk chunk' : AudioChunk}
    (serves : m.Serves chunk) (hcount : m'.channels.length = m.channels.length)
    (hchannel : chunk'.details.channel = chunk.details.channel) : m'.Serves chunk' := by
  unfold Serves at serves ⊢
  rw [hchannel, hcount, ← List.length_eq_zero_iff, hcount, List.length_eq_zero_iff]
  exact serves

theorem channelAccesses_inRange {m : RtpMixer} {chunk : AudioChunk} (serves : m.Serves chunk) :
    ∀ access ∈ m.channelAccesses chunk, access.InRange := by
  intro access haccess
  unfold channelAccesses numInputChannels at haccess
  split_ifs at haccess with hsome
  · obtain rfl := List.mem_singleton.mp haccess
    rcases serves with hnone | ⟨hpositive, hexists⟩
    · simp [hnone] at hsome
    · unfold Access.InRange
      omega
  · cases haccess

theorem walkAccesses_inRange (count : Nat) {cell : Nat} (hcell : cell < numSamplesCircularBuffer) :
    ∀ access ∈ walkAccesses count cell, access.InRange := by
  intro access haccess
  obtain ⟨i, -, rfl⟩ := List.mem_map.mp haccess
  exact next_iterate_lt i hcell

namespace Bounded

variable {tapeNumChannels : Int} {m : RtpMixer}

theorem writeSilence (bounded : Bounded tapeNumChannels m) (stop : Nat) :
    Bounded tapeNumChannels (m.writeSilence stop) := by
  obtain ⟨channels, history, hnone, -, heq⟩ := m.writeSilence_eq stop
  rw [heq]
  exact bounded.of_pointers bounded.readPtr_lt (next_iterate_lt _ bounded.writePtr_lt) rfl rfl hnone

theorem mixAccesses_inRange (bounded : Bounded tapeNumChannels m) (chunk : AudioChunk)
    (timestamp : Nat) : ∀ access ∈ m.mixAccesses chunk timestamp, access.InRange := by
  intro access haccess
  unfold mixAccesses at haccess
  simp only at haccess
  split_ifs at haccess
  · cases haccess
  · exact walkAccesses_inRange _ (cicularPointerSubtractOffset_lt bounded.writePtr_lt) access haccess

theorem storeAccesses_inRange (bounded : Bounded tapeNumChannels m) {chunk : AudioChunk}
    (serves : m.Serves chunk) (timestamp : Nat) :
    ∀ access ∈ m.storeAccesses chunk timestamp, access.InRange := by
  intro access haccess
  unfold storeAccesses at haccess
  rcases List.mem_append.mp haccess with hchannel | hcell
  · exact channelAccesses_inRange serves access hchannel
  · split_ifs at hcell
    · cases hcell
    · rcases List.mem_append.mp hcell with hzeroed | hmixed
      · exact walkAccesses_inRange _ bounded.writePtr_lt access hzeroed
      · exact (bounded.writeSilence _).mixAccesses_inRange chunk timestamp access hmixed

theorem shipmentAccesses_inRange (bounded : Bounded tapeNumChannels m) (force : Bool) :
    ∀ access ∈ m.shipmentAccesses force, access.InRange := by
  have hread := bounded.readPtr_lt
  have hstop := bounded.stopPtr_lt force
  unfold shipmentAccesses
  simp only
  generalize (if force = true then m.writePtr
    else cicularPointerSubtractOffset m.writePtr m.numSampleShipmentHoldoff) = stop at hstop ⊢
  split <;> simp only [List.mem_cons, List.not_mem_nil, or_false, forall_eq_or_imp, forall_eq,
    Access.InRange] <;> omega

/-- A shipment and a reset keep the channels. -/
theorem createShipment_channels (bounded : Bounded tapeNumChannels m) (force : Bool) :
    (m.createShipment tapeNumChannels 0 force).channels = m.channels := by
  have hread := bounded.readPtr_lt
  have hstop := bounded.stopPtr_lt force
  unfold RtpMixer.createShipment
  simp only [ne_eq, not_true, false_or, if_false]
  generalize (if force = true then m.writePtr
    else cicularPointerSubtractOffset m.writePtr m.numSampleShipmentHoldoff) = stop at hstop ⊢
  split
  · obtain ⟨first, -, heq⟩ := m.shipSlice_eq tapeNumChannels m.readPtr
      (numSamplesCircularBuffer - m.readPtr) (Nat.sub_le _ _)
    obtain ⟨second, -, heq'⟩ := (RtpMixer.shipSlice tapeNumChannels m m.readPtr
      (numSamplesCircularBuffer - m.readPtr)).shipSlice_eq tapeNumChannels 0 stop hstop.le
    rw [heq', heq]
  · obtain ⟨shipped, -, heq⟩ := m.shipSlice_eq tapeNumChannels m.readPtr (stop - m.readPtr)
      ((Nat.sub_le _ _).trans hstop.le)
    rw [heq]

theorem manageAccesses_inRange (bounded : Bounded tapeNumChannels m) {chunk : AudioChunk}
    (serves : m.Serves chunk) :
    ∀ access ∈ m.manageAccesses tapeNumChannels chunk, access.InRange := by
  intro access haccess
  unfold manageAccesses at haccess
  simp only at haccess
  split_ifs at haccess with hfirst hsecond
  · rcases List.mem_append.mp haccess with hshipped | hstored
    · exact bounded.shipmentAccesses_inRange true access hshipped
    · refine ((bounded.createShipment true).reset _).storeAccesses_inRange ?_ _ access hstored
      refine serves.of_channels ?_ rfl
      rw [← bounded.createShipment_channels true]
      rfl
  · cases haccess
  · exact channelAccesses_inRange serves access haccess

theorem placeAccesses_inRange (bounded : Bounded tapeNumChannels m) {chunk : AudioChunk}
    (serves : m.Serves chunk) (timestamp : Nat) :
    ∀ access ∈ m.placeAccesses tapeNumChannels chunk timestamp, access.InRange := by
  intro access haccess
  unfold placeAccesses at haccess
  simp only at haccess
  split_ifs at haccess with hunset hfirst hfits
  · exact (bounded.openAt timestamp).storeAccesses_inRange (serves.of_channels rfl rfl) _ access
      haccess
  · cases haccess
  · rcases List.mem_append.mp haccess with hstored | hshipped
    · exact bounded.storeAccesses_inRange serves timestamp access hstored
    · split at hshipped
      next mixed hstore =>
        split_ifs at hshipped
        · exact (bounded.storeRtpPacket hstore).shipmentAccesses_inRange false access hshipped
        · cases hshipped
      next => cases hshipped
  · exact bounded.manageAccesses_inRange serves access haccess

end Bounded

/-- A chunk without a channel number, handed to a mixer that has separate channels. -/
def StrayChunk (m : RtpMixer) (input : Option AudioChunk) : Prop :=
  ∃ chunk ∈ input, m.Admits chunk ∧ chunk.details.channel = 0 ∧ m.channels ≠ []

/-- Creating channels makes the channel of every other chunk exist. -/
theorem Bounded.serves {tapeNumChannels : Int} {m : RtpMixer} (bounded : Bounded tapeNumChannels m)
    {chunk : AudioChunk} (hchannel : chunk.details.channel ≠ 0 ∨ m.channels = []) :
    (m.ensureChannels tapeNumChannels chunk).Serves chunk := by
  have hpositive : chunk.details.channel ≠ 0 → 0 < chunk.details.channel.toNat := by
    intro hne
    rw [Nat.pos_iff_ne_zero]
    intro hzero
    exact hne (UInt8.toNat_inj.mp hzero)
  unfold RtpMixer.ensureChannels createChannels numInputChannels Serves
  split_ifs with htwo hone htape hcreated
  · omega
  · rcases bounded.separate with hnone | hseparate
    · exact .inl hnone
    · omega
  · rcases hchannel with hne | hnone
    · exact .inr ⟨hpositive hne, hcreated⟩
    · exact .inl hnone
  · refine .inr ⟨by omega, ?_⟩
    simp only [List.length_append, List.length_map, List.length_range']
    omega
  · rcases bounded.separate with hnone | hseparate
    · exact .inl hnone
    · exact absurd hseparate.1 htwo

/-! ### A call is defined unless its chunk is stray -/

theorem Serves.channelAt {m : RtpMixer} {chunk : AudioChunk} (serves : m.Serves chunk)
    (hsome : m.numInputChannels ≠ 0) :
    ∃ c, m.channelAt ((chunk.details.channel.toNat : Int) - 1) = some c := by
  rcases serves with hnone | ⟨hpositive, hexists⟩
  · simp [numInputChannels, hnone] at hsome
  · unfold RtpMixer.channelAt
    rw [if_neg (by omega)]
    exact ⟨_, List.getElem?_eq_getElem (by omega)⟩

theorem Serves.correctTimestamp {m : RtpMixer} {chunk : AudioChunk} (serves : m.Serves chunk) :
    ∃ corrected, m.correctTimestamp chunk = .ok corrected := by
  have hexists := serves.channelAt
  unfold RtpMixer.correctTimestamp
  simp only
  split_ifs with hfirst hmissing hsecond hmissing' hopen hrealign hseparate
  · obtain ⟨c, hc⟩ := hexists hmissing.1
    simp [hfirst] at hc
    simp [hc] at hmissing
  · exact ⟨_, rfl⟩
  · obtain ⟨c, hc⟩ := hexists hmissing'.1
    simp [hsecond] at hc
    simp [hc] at hmissing'
  · exact ⟨_, rfl⟩
  · exact ⟨_, rfl⟩
  · exact ⟨_, rfl⟩
  · obtain ⟨c, hc⟩ := hexists hseparate
    simp only [hc]
    exact ⟨_, rfl⟩
  · exact ⟨_, rfl⟩

theorem Serves.storeRtpPacket {m : RtpMixer} {chunk : AudioChunk} (serves : m.Serves chunk)
    (timestamp : Nat) : ∃ m', m.storeRtpPacket chunk timestamp = .ok m' := by
  unfold RtpMixer.storeRtpPacket
  simp only
  split_ifs with hmissing
  · obtain ⟨c, hc⟩ := serves.channelAt hmissing.1
    simp [hc] at hmissing
  · exact ⟨_, rfl⟩
  · exact ⟨_, rfl⟩
  · exact ⟨_, rfl⟩

namespace Bounded

variable {tapeNumChannels : Int} {m : RtpMixer}

theorem manageOutOfRangeTimestamp_returns (bounded : Bounded tapeNumChannels m)
    {chunk : AudioChunk} (serves : m.Serves chunk) :
    ∃ m', m.manageOutOfRangeTimestamp tapeNumChannels chunk = .ok m' := by
  have hreset : (((m.createShipment tapeNumChannels 0 true).reset
      chunk.details.timestamp.toNat)).Serves chunk := by
    refine serves.of_channels ?_ rfl
    rw [← bounded.createShipment_channels true]
    rfl
  obtain ⟨stored, hstored⟩ := hreset.storeRtpPacket chunk.details.timestamp.toNat
  unfold RtpMixer.manageOutOfRangeTimestamp
  simp only [hstored]
  split_ifs with hfirst hsecond hseparate hmissing
  · exact ⟨_, rfl⟩
  · exact ⟨_, rfl⟩
  · obtain ⟨c, hc⟩ := serves.channelAt hseparate
    simp [hc] at hmissing
  · exact ⟨_, rfl⟩
  · exact ⟨_, rfl⟩

theorem placeChunk_returns (bounded : Bounded tapeNumChannels m) {chunk : AudioChunk}
    (serves : m.Serves chunk) (timestamp : Nat) :
    ∃ m', m.placeChunk tapeNumChannels chunk timestamp = .ok m' := by
  have hopen : (m.openAt timestamp).Serves chunk := serves.of_channels rfl rfl
  obtain ⟨opened, hopened⟩ := hopen.storeRtpPacket timestamp
  obtain ⟨stored, hstored⟩ := serves.storeRtpPacket timestamp
  obtain ⟨managed, hmanaged⟩ := bounded.manageOutOfRangeTimestamp_returns serves
  unfold RtpMixer.placeChunk
  simp only [hopened, hstored, hmanaged, bind, Except.bind]
  split_ifs <;> exact ⟨_, rfl⟩

/-- A chunk that gets past the checks and is not stray is taken. -/
theorem takes (bounded : Bounded tapeNumChannels m) {chunk : AudioChunk} (hadmits : m.Admits chunk)
    (hchannel : chunk.details.channel ≠ 0 ∨ m.channels = []) :
    ∃ m', m.audioChunkIn tapeNumChannels (some chunk) = .ok m' := by
  have serves := bounded.serves hchannel
  obtain ⟨⟨corrected, chunk', timestamp⟩, hcorrect⟩ := serves.correctTimestamp
  have hcount := correctTimestamp_channels hcorrect
  have hsame := (correctTimestamp_frame hcorrect).2.2.2.1
  obtain ⟨m', hplace⟩ := ((bounded.ensureChannels chunk).correctTimestamp hcorrect
    hcount).placeChunk_returns (serves.of_channels hcount hsame) timestamp
  refine ⟨m', ?_⟩
  rw [audioChunkIn_admitted tapeNumChannels hadmits, hcorrect]
  exact hplace

theorem step {m' : RtpMixer} {call : Call} (bounded : Bounded tapeNumChannels m)
    (step : Step tapeNumChannels m call m') : Bounded tapeNumChannels m' := by
  cases step with
  | chunkIn hin =>
      rcases audioChunkIn_cases hin with rfl | ⟨chunk, -, -, rfl⟩ | ⟨-, -, rfl⟩ |
        ⟨chunk, -, -, corrected, chunk', timestamp, hcorrect, hplace⟩
      · exact bounded
      · exact bounded.of_pointers bounded.readPtr_lt bounded.writePtr_lt rfl rfl id
      · exact bounded.createShipment true
      · exact ((bounded.ensureChannels chunk).correctTimestamp hcorrect
          (correctTimestamp_channels hcorrect)).placeChunk hplace
  | thrown => exact bounded
  | chunkOut =>
      unfold audioChunkOut
      split
      · exact bounded
      · exact bounded.of_pointers bounded.readPtr_lt bounded.writePtr_lt rfl rfl id

end Bounded

/-- In every run the pointers stay inside the buffer. -/
theorem run_bounded {tapeNumChannels numOutputChannels : Int} {memory : Nat → Int16}
    {calls : List Call} {m : RtpMixer}
    (run : Steps (Step tapeNumChannels) (fresh numOutputChannels memory) calls m) :
    Bounded tapeNumChannels m := by
  apply run.invariant
  · intro m call m' bounded step
    exact bounded.step step
  · exact fresh_bounded tapeNumChannels numOutputChannels memory

/-- A stray chunk makes no channel and asks for the one before the first. -/
theorem strayChunk_access {tapeNumChannels : Int} {m : RtpMixer} {input : Option AudioChunk}
    (stray : m.StrayChunk input) :
    .channel (-1) m.numInputChannels ∈ callAccesses tapeNumChannels m input := by
  obtain ⟨chunk, hchunk, hadmits, hzero, hsome⟩ := stray
  obtain rfl := Option.mem_def.mp hchunk
  have hensure : m.ensureChannels tapeNumChannels chunk = m := by
    simp [ensureChannels, createChannels, hzero]
  have hcount : m.numInputChannels ≠ 0 := by simpa [numInputChannels] using hsome
  simp only [callAccesses]
  rw [if_neg (fun heos => hadmits.2.1 heos.2), if_pos hadmits, hensure]
  apply List.mem_append_left
  simp [channelAccesses, hcount, hzero]

/-- Outside the bounds lies exactly the channel of a stray chunk. -/
theorem callAccesses_inRange {tapeNumChannels : Int} {m : RtpMixer}
    (bounded : Bounded tapeNumChannels m) {input : Option AudioChunk}
    (hstray : ¬ m.StrayChunk input) :
    ∀ access ∈ callAccesses tapeNumChannels m input, access.InRange := by
  intro access haccess
  cases input with
  | none => cases haccess
  | some chunk =>
      simp only [callAccesses] at haccess
      split_ifs at haccess with heos hadmits
      · exact bounded.shipmentAccesses_inRange true access haccess
      · have hchannel : chunk.details.channel ≠ 0 ∨ m.channels = [] := by
          by_contra hnot
          rw [not_or, not_not] at hnot
          exact hstray ⟨chunk, rfl, hadmits, hnot⟩
        have serves := bounded.serves hchannel
        rcases List.mem_append.mp haccess with hindex | hplaced
        · exact channelAccesses_inRange serves access hindex
        · split at hplaced
          next corrected chunk' timestamp hcorrect =>
            have hcount := correctTimestamp_channels hcorrect
            exact ((bounded.ensureChannels chunk).correctTimestamp hcorrect
              hcount).placeAccesses_inRange
              (serves.of_channels hcount (correctTimestamp_frame hcorrect).2.2.2.1) timestamp
              access hplaced
          next => cases hplaced
      · cases haccess

/-- In every state that a run reaches, a call stays in range unless it hands in a chunk
with channel number 0 after separate channels were created. -/
theorem accesses_inRange_iff {tapeNumChannels numOutputChannels : Int} {memory : Nat → Int16}
    {calls : List Call} {m : RtpMixer}
    (run : Steps (Step tapeNumChannels) (fresh numOutputChannels memory) calls m)
    (input : Option AudioChunk) :
    (∀ access ∈ callAccesses tapeNumChannels m input, access.InRange) ↔ ¬ m.StrayChunk input := by
  constructor
  · intro hrange stray
    have hindex := hrange _ (strayChunk_access stray)
    exact absurd hindex.1 (by decide)
  · exact callAccesses_inRange (run_bounded run)

/-- A sample of silence on a channel. -/
def sampleOn (channel : UInt8) (timestamp : UInt32) : AudioChunk :=
  { details :=
      { encoding := .pcmAudio, numBytes := 2, timestamp := timestamp, channel := channel }
    buffer := fun _ => 0 }

/-- The two-channel mixer after a chunk on channel 1. -/
def afterFirstSide : RtpMixer :=
  match (fresh 2 fun _ => 0).audioChunkIn 2 (some (sampleOn 1 1000)) with
  | .ok m => m
  | .error _ => fresh 2 fun _ => 0

theorem afterFirstSide_run :
    Steps (Step 2) (fresh 2 fun _ => 0) [.chunkIn (some (sampleOn 1 1000))] afterFirstSide :=
  .cons (.chunkIn rfl) (.nil _)

theorem accesses_inRange_second_side :
    ¬ afterFirstSide.StrayChunk (some (sampleOn 2 5000)) ∧
      ∀ access ∈ callAccesses 2 afterFirstSide (some (sampleOn 2 5000)), access.InRange := by
  have hstray : ¬ afterFirstSide.StrayChunk (some (sampleOn 2 5000)) := by
    rintro ⟨chunk, hchunk, -, hzero, -⟩
    obtain rfl := Option.some.inj hchunk
    exact absurd hzero (by decide)
  exact ⟨hstray, (accesses_inRange_iff afterFirstSide_run _).mpr hstray⟩

/-- A chunk on channel 1 and then one with the default channel number. -/
theorem accesses_out_of_range : ¬ ∀ (tapeNumChannels numOutputChannels : Int)
    (memory : Nat → Int16) (calls : List Call) (m : RtpMixer),
    Steps (Step tapeNumChannels) (fresh numOutputChannels memory) calls m →
    ∀ (input : Option AudioChunk), ∀ access ∈ callAccesses tapeNumChannels m input,
      access.InRange := by
  intro hrange
  have stray : afterFirstSide.StrayChunk (some (sampleOn 0 1160)) :=
    ⟨sampleOn 0 1160, rfl, by decide, rfl, by decide⟩
  have hindex := hrange 2 2 (fun _ => 0) _ _ afterFirstSide_run _ _ (strayChunk_access stray)
  exact absurd hindex.1 (by decide)

end OrkAudio.RtpMixer
