import OrkAudio.RtpMixer.Model
import Mathlib.Logic.Relation
import Mathlib.Order.Basic
import Mathlib.Tactic.SplitIfs

/-! What one call can do to the circular buffer of a mixer.

`Aligned` says that the ring pointers and the timestamps designate the same window.
From an aligned mixer every accepted chunk amounts to a few moves (ship, open, reset,
store), each with the condition under which `AudioChunkIn` makes it, so the invariants
of whole runs are proved move by move. -/

namespace OrkAudio.RtpMixer

open Lib

/-- The write pointer lies as many cells after the read pointer as the write timestamp
lies after the read timestamp, and that is less than a full buffer. -/
structure Aligned (m : RtpMixer) : Prop where
  readPtr_lt : m.readPtr < numSamplesCircularBuffer
  ordered : m.readTimestamp ≤ m.writeTimestamp
  window : m.writeTimestamp - m.readTimestamp < numSamplesCircularBuffer
  word : m.writeTimestamp < 4294967296
  writePtr : m.writePtr =
    Ring.slot numSamplesCircularBuffer m.readPtr (m.writeTimestamp - m.readTimestamp)
  trigger : m.numSampleTrigger = numSamplesTrigger
  holdoff : m.numSampleShipmentHoldoff = numSamplesShipmentHoldoff

theorem fresh_aligned (numOutputChannels : Int) (memory : Nat → Int16) :
    Aligned (fresh numOutputChannels memory) := by
  constructor <;> simp [fresh, Ring.slot]

/-- `UsedSpace` counts the cells between the pointers. -/
theorem usedSpace_slot (m : RtpMixer) {used : Nat} (hread : m.readPtr < numSamplesCircularBuffer)
    (hused : used < numSamplesCircularBuffer)
    (hwrite : m.writePtr = Ring.slot numSamplesCircularBuffer m.readPtr used) :
    m.usedSpace = used := by
  unfold usedSpace
  rw [hwrite]
  unfold Ring.slot
  split_ifs <;> omega

theorem Aligned.usedSpace {m : RtpMixer} (aligned : Aligned m) :
    m.usedSpace = m.writeTimestamp - m.readTimestamp :=
  m.usedSpace_slot aligned.readPtr_lt aligned.window aligned.writePtr

/-! ### Pointer arithmetic -/

theorem circularPointerAddOffset_slot {ptr offset : Nat} (hptr : ptr < numSamplesCircularBuffer) :
    circularPointerAddOffset ptr offset = Ring.slot numSamplesCircularBuffer ptr offset := by
  unfold circularPointerAddOffset Ring.slot
  split_ifs <;> omega

/-- Going back from a cell of the window stays in the window. -/
theorem cicularPointerSubtractOffset_slot {ptr distance offset : Nat}
    (hptr : ptr < numSamplesCircularBuffer) (hdistance : distance ≤ numSamplesCircularBuffer)
    (hoffset : offset ≤ distance) (hsize : offset < numSamplesCircularBuffer) :
    cicularPointerSubtractOffset (Ring.slot numSamplesCircularBuffer ptr distance) offset =
      Ring.slot numSamplesCircularBuffer ptr (distance - offset) := by
  unfold cicularPointerSubtractOffset Ring.slot
  split_ifs <;> omega

/-! ### The two loops of `StoreRtpPacket` -/

theorem zeroSamples_eq (count : Nat) (m : RtpMixer) :
    ∃ channels, (m.channels = [] → channels = []) ∧ zeroSamples count m =
      { m with
        buffer := Ring.sweep numSamplesCircularBuffer (fun _ _ => 0)
          (List.replicate count ()) m.writePtr m.buffer
        channels := channels
        writePtr := (Ring.next numSamplesCircularBuffer)^[count] m.writePtr } := by
  induction count generalizing m with
  | zero => exact ⟨m.channels, id, rfl⟩
  | succ count ih =>
      obtain ⟨channels, hnone, heq⟩ := ih m.zeroSample
      refine ⟨channels, ?_, ?_⟩
      · intro hchannels
        exact hnone (by simp [zeroSample, hchannels])
      · rw [zeroSamples, heq]
        rfl

theorem mixSamples_eq (chanIdx : Int) (payload : List Int16) (cell : Nat) (m : RtpMixer) :
    ∃ channels, (m.channels = [] → channels = []) ∧ mixSamples chanIdx payload cell m =
      { m with
        buffer := Ring.sweep numSamplesCircularBuffer mixInto payload cell m.buffer
        channels := channels } := by
  induction payload generalizing cell m with
  | nil => exact ⟨m.channels, id, rfl⟩
  | cons sample payload ih =>
      obtain ⟨channels, hnone, heq⟩ := ih (Ring.next numSamplesCircularBuffer cell)
        (m.mixSample chanIdx sample cell)
      refine ⟨channels, ?_, ?_⟩
      · intro hchannels
        exact hnone (by simp [mixSample, hchannels])
      · rw [mixSamples, heq]
        rfl

/-! ### `StoreRtpPacket` -/

/-- What storing a chunk that ends inside the buffer makes of the mixer. -/
def stored (m : RtpMixer) (chunk : AudioChunk) (timestamp : Nat) : RtpMixer :=
  (m.writeSilence (timestamp + chunk.numSamples)).mixPacket chunk timestamp

/-- A chunk is dismissed, or it ends before the word wraps and less than a full buffer
after the write timestamp and is stored. -/
theorem storeRtpPacket_cases {m m' : RtpMixer} {chunk : AudioChunk} {timestamp : Nat}
    (hstore : m.storeRtpPacket chunk timestamp = .ok m') :
    (m' = m ∧ (4294967296 ≤ timestamp + chunk.numSamples ∨
      m.writeTimestamp + numSamplesCircularBuffer ≤ timestamp + chunk.numSamples)) ∨
    (timestamp + chunk.numSamples < 4294967296 ∧
      timestamp + chunk.numSamples < m.writeTimestamp + numSamplesCircularBuffer ∧
      m' = m.stored chunk timestamp) := by
  unfold storeRtpPacket at hstore
  simp only at hstore
  split_ifs at hstore with hchannel hwrap hsilence
  · exact .inl ⟨(Except.ok.inj hstore).symm, .inl (by omega)⟩
  · exact .inl ⟨(Except.ok.inj hstore).symm, .inr (by omega)⟩
  · exact .inr ⟨by omega, by omega, (Except.ok.inj hstore).symm⟩

/-- The silence moves the write side to the end of the packet, when that is later. -/
theorem writeSilence_eq (m : RtpMixer) (stop : Nat) :
    ∃ channels history, (m.channels = [] → channels = []) ∧
      history = (if m.writeTimestamp < stop then m.history ++ [TimelineEvent.zeroed stop]
        else m.history) ∧
      m.writeSilence stop =
        { m with
          buffer := Ring.sweep numSamplesCircularBuffer (fun _ _ => 0)
            (List.replicate (stop - m.writeTimestamp) ()) m.writePtr m.buffer
          channels := channels
          writePtr := (Ring.next numSamplesCircularBuffer)^[stop - m.writeTimestamp] m.writePtr
          writeTimestamp := max m.writeTimestamp stop
          history := history } := by
  by_cases hlater : m.writeTimestamp < stop
  · obtain ⟨channels, hnone, heq⟩ := zeroSamples_eq (stop - m.writeTimestamp) m
    refine ⟨channels, m.history ++ [.zeroed stop], hnone, by rw [if_pos hlater], ?_⟩
    unfold writeSilence
    simp only
    rw [if_pos (by omega), show ((stop : Int) - m.writeTimestamp).toNat = stop - m.writeTimestamp
      by omega, heq, max_eq_right hlater.le]
  · refine ⟨m.channels, m.history, id, by rw [if_neg hlater], ?_⟩
    unfold writeSilence
    simp only
    rw [if_neg (by omega), show stop - m.writeTimestamp = 0 by omega,
      max_eq_left (Nat.le_of_not_lt hlater)]
    rfl

/-- Storing a chunk moves the write side only. Where the whole packet lies inside one
turn of the buffer, its samples are mixed in from its timestamp on. -/
theorem stored_eq (m : RtpMixer) (chunk : AudioChunk) (timestamp : Nat) :
    ∃ channels history buffer, (m.channels = [] → channels = []) ∧
      m.stored chunk timestamp =
        { m with
          buffer := buffer
          channels := channels
          writePtr := (Ring.next numSamplesCircularBuffer)^[
            timestamp + chunk.numSamples - m.writeTimestamp] m.writePtr
          writeTimestamp := max m.writeTimestamp (timestamp + chunk.numSamples)
          history := history } := by
  obtain ⟨channels, history, hnone, _, hsilence⟩ :=
    m.writeSilence_eq (timestamp + chunk.numSamples)
  unfold stored mixPacket
  simp only
  split_ifs with hrange
  · exact ⟨_, _, _, hnone, hsilence⟩
  · obtain ⟨channels', hnone', hmix⟩ := mixSamples_eq
      ((chunk.details.channel.toNat : Int) - 1) chunk.samples
      (cicularPointerSubtractOffset (m.writeSilence (timestamp + chunk.numSamples)).writePtr
        (((m.writeSilence (timestamp + chunk.numSamples)).writeTimestamp : Int) -
          timestamp).toNat)
      (m.writeSilence (timestamp + chunk.numSamples))
    have hnone'' : m.channels = [] → channels' = [] := by
      intro hchannels
      apply hnone'
      rw [hsilence]
      exact hnone hchannels
    rw [hmix, hsilence]
    exact ⟨_, _, _, hnone'', rfl⟩

/-- Where the packet lies in the window that it leaves behind, its samples are mixed in as
far after the read pointer as its timestamp lies after the read timestamp. -/
theorem stored_mixed {m : RtpMixer} (aligned : Aligned m) {chunk : AudioChunk}
    {timestamp : Nat} (hfrom : m.readTimestamp ≤ timestamp)
    (hroom : timestamp + chunk.numSamples < m.readTimestamp + numSamplesCircularBuffer) :
    let mixed := mixSamples ((chunk.details.channel.toNat : Int) - 1) chunk.samples
      (Ring.slot numSamplesCircularBuffer m.readPtr (timestamp - m.readTimestamp))
      (m.writeSilence (timestamp + chunk.numSamples))
    m.stored chunk timestamp =
      { mixed with
        history := mixed.history ++ [TimelineEvent.copied timestamp chunk.samples] } := by
  obtain ⟨channels, history, hnone, hhistory, hsilence⟩ :=
    m.writeSilence_eq (timestamp + chunk.numSamples)
  have hordered := aligned.ordered
  have hwindow := aligned.window
  have hwrite : (m.writeSilence (timestamp + chunk.numSamples)).writePtr =
      Ring.slot numSamplesCircularBuffer m.readPtr
        (max m.writeTimestamp (timestamp + chunk.numSamples) - m.readTimestamp) := by
    rw [hsilence]
    simp only
    rw [aligned.writePtr, Ring.next_iterate (Ring.slot_lt aligned.readPtr_lt hwindow.le)
      (by omega), Ring.slot_slot aligned.readPtr_lt (by omega)]
    congr 1
    omega
  have hstop : (m.writeSilence (timestamp + chunk.numSamples)).writeTimestamp =
      max m.writeTimestamp (timestamp + chunk.numSamples) := by
    rw [hsilence]
  unfold stored mixPacket
  simp only
  rw [if_neg (by rw [hstop]; omega), hwrite, hstop,
    cicularPointerSubtractOffset_slot aligned.readPtr_lt (by omega) (by omega) (by omega)]
  rw [show max m.writeTimestamp (timestamp + chunk.numSamples) - m.readTimestamp -
      ((max m.writeTimestamp (timestamp + chunk.numSamples) : Nat) - (timestamp : Int)).toNat =
      timestamp - m.readTimestamp by omega]

/-- What the two loops write when the packet lies in the window that it leaves behind. -/
theorem stored_contents {m : RtpMixer} (aligned : Aligned m) {chunk : AudioChunk}
    {timestamp : Nat} (hfrom : m.readTimestamp ≤ timestamp)
    (hroom : timestamp + chunk.numSamples < m.readTimestamp + numSamplesCircularBuffer) :
    (m.stored chunk timestamp).buffer =
        Ring.sweep numSamplesCircularBuffer mixInto chunk.samples
          (Ring.slot numSamplesCircularBuffer m.readPtr (timestamp - m.readTimestamp))
          (Ring.sweep numSamplesCircularBuffer (fun _ _ => 0)
            (List.replicate (timestamp + chunk.numSamples - m.writeTimestamp) ())
            m.writePtr m.buffer) ∧
      (m.stored chunk timestamp).history =
        (if m.writeTimestamp < timestamp + chunk.numSamples
          then m.history ++ [TimelineEvent.zeroed (timestamp + chunk.numSamples)]
          else m.history) ++ [TimelineEvent.copied timestamp chunk.samples] := by
  obtain ⟨channels, history, -, hhistory, hsilence⟩ :=
    m.writeSilence_eq (timestamp + chunk.numSamples)
  obtain ⟨channels', -, hmix⟩ := mixSamples_eq ((chunk.details.channel.toNat : Int) - 1)
    chunk.samples (Ring.slot numSamplesCircularBuffer m.readPtr (timestamp - m.readTimestamp))
    (m.writeSilence (timestamp + chunk.numSamples))
  rw [stored_mixed aligned hfrom hroom, hmix, hsilence]
  simp only [hhistory, and_self]

/-! ### `CreateShipment` -/

theorem shipmentDetails_numBytes (m : RtpMixer) {shortSize : Nat}
    (hsize : shortSize ≤ numSamplesCircularBuffer) :
    (m.shipmentDetails shortSize).numBytes.toNat = shortSize * 2 := by
  have hN : numSamplesCircularBuffer = 16000 := rfl
  simp only [shipmentDetails, UInt32.toNat_ofNat']
  omega

theorem sliceChunk_samples (tapeNumChannels : Int) (m : RtpMixer) (start : Nat)
    {shortSize : Nat} (hsize : shortSize ≤ numSamplesCircularBuffer) (hsome : shortSize ≠ 0)
    (hplain : m.numOutputChannels ≠ 2) :
    (sliceChunk tapeNumChannels m start shortSize).samples =
      Ring.slice m.buffer start shortSize := by
  have hbytes := m.shipmentDetails_numBytes hsize
  have hnonzero : (m.shipmentDetails shortSize).numBytes ≠ 0 := by
    intro hnone
    rw [hnone] at hbytes
    simp only [UInt32.toNat_zero] at hbytes
    omega
  simp only [sliceChunk, if_neg hplain, AudioChunk.setBuffer, if_neg hnonzero,
    AudioChunk.samples, AudioChunk.numSamples, hbytes, Ring.slice, Nat.zero_add,
    Nat.mul_div_cancel _ Nat.zero_lt_two]

/-- Read back from a shipped chunk, a slice is what `memory` has in its cells. -/
def Carries {β : Type} (tapeNumChannels : Int) (m : RtpMixer) (read : AudioChunk → List β)
    (memory : Nat → β) : Prop :=
  ∀ start shortSize, shortSize ≤ numSamplesCircularBuffer → shortSize ≠ 0 →
    read (sliceChunk tapeNumChannels m start shortSize) = Ring.slice memory start shortSize

/-- Unless the output is split in two, a chunk carries its slice. -/
theorem carries_samples (tapeNumChannels : Int) {m : RtpMixer} (hplain : m.numOutputChannels ≠ 2) :
    Carries tapeNumChannels m AudioChunk.samples m.buffer := by
  intro start shortSize hsize hsome
  exact m.sliceChunk_samples tapeNumChannels start hsize hsome hplain

/-- The shipped chunks are slices that amount to a window. -/
structure Pieces (tapeNumChannels : Int) (m : RtpMixer) (shipped : List AudioChunk)
    (contents : ∀ {β : Type}, (Nat → β) → List β) : Prop where
  sliced : ∀ chunk ∈ shipped, ∃ start shortSize, shortSize ≤ numSamplesCircularBuffer ∧
    shortSize ≠ 0 ∧ chunk = sliceChunk tapeNumChannels m start shortSize
  carries : ∀ {β : Type} {read : AudioChunk → List β} {memory : Nat → β},
    Carries tapeNumChannels m read memory → shipped.flatMap read = contents memory

/-- A slice is shipped in at most one chunk. -/
theorem shipSlice_pieces (tapeNumChannels : Int) (m : RtpMixer) (start shortSize : Nat)
    (hsize : shortSize ≤ numSamplesCircularBuffer) :
    ∃ shipped, Pieces tapeNumChannels m shipped (Ring.slice · start shortSize) ∧
      shipSlice tapeNumChannels m start shortSize =
        { m with
          readPtr := circularPointerAddOffset m.readPtr shortSize
          readTimestamp := toU32 ((m.readTimestamp : Int) + shortSize)
          outputQueue := m.outputQueue ++ shipped } := by
  have hN : numSamplesCircularBuffer = 16000 := rfl
  have hbytes := m.shipmentDetails_numBytes hsize
  have hsmall : ¬ (m.shipmentDetails shortSize).numBytes > 100000 := by
    intro hbig
    have := UInt32.lt_iff_toNat_lt.mp hbig
    simp only [hbytes, UInt32.reduceToNat] at this
    omega
  by_cases hzero : shortSize = 0
  · subst hzero
    refine ⟨[], ⟨by simp, fun _ => rfl⟩, ?_⟩
    unfold shipSlice checkChunkDetails
    simp only
    rw [if_neg hsmall, if_pos (UInt32.toNat_inj.mp hbytes)]
    simp
  · have hsome : (m.shipmentDetails shortSize).numBytes ≠ 0 := by
      intro hnone
      rw [hnone] at hbytes
      simp only [UInt32.toNat_zero] at hbytes
      omega
    refine ⟨[sliceChunk tapeNumChannels m start shortSize], ⟨?_, ?_⟩, ?_⟩
    · intro chunk hchunk
      exact ⟨start, shortSize, hsize, hzero, List.mem_singleton.mp hchunk⟩
    · intro β read memory carries
      rw [List.flatMap_singleton, carries start shortSize hsize hzero]
    · unfold shipSlice checkChunkDetails
      simp only
      rw [if_neg hsmall, if_neg hsome]

/-- A slice is shipped in at most one chunk, which carries the slice when the output is
not split in two. -/
theorem shipSlice_eq (tapeNumChannels : Int) (m : RtpMixer) (start shortSize : Nat)
    (hsize : shortSize ≤ numSamplesCircularBuffer) :
    ∃ shipped, (m.numOutputChannels ≠ 2 →
        shipped.flatMap AudioChunk.samples = Ring.slice m.buffer start shortSize) ∧
      shipSlice tapeNumChannels m start shortSize =
        { m with
          readPtr := circularPointerAddOffset m.readPtr shortSize
          readTimestamp := toU32 ((m.readTimestamp : Int) + shortSize)
          outputQueue := m.outputQueue ++ shipped } := by
  obtain ⟨shipped, pieces, heq⟩ := m.shipSlice_pieces tapeNumChannels start shortSize hsize
  exact ⟨shipped, fun hplain => pieces.carries (carries_samples tapeNumChannels hplain), heq⟩

/-- The number of samples that a shipment takes. -/
def shipmentSize (m : RtpMixer) (force : Bool) : Nat :=
  if force then m.writeTimestamp - m.readTimestamp
  else m.writeTimestamp - m.readTimestamp - numSamplesShipmentHoldoff

/-- A shipment moves the read side over the samples it queues, in one or two slices. -/
theorem createShipment_pieces (tapeNumChannels : Int) {m : RtpMixer} (aligned : Aligned m)
    (force : Bool) (hholdoff : force = true ∨ numSamplesShipmentHoldoff ≤ m.usedSpace) :
    ∃ shipped, Pieces tapeNumChannels m shipped
        (Ring.window numSamplesCircularBuffer · m.readPtr (m.shipmentSize force)) ∧
      createShipment tapeNumChannels m 0 force =
        { m with
          readPtr := Ring.slot numSamplesCircularBuffer m.readPtr (m.shipmentSize force)
          readTimestamp := m.readTimestamp + m.shipmentSize force
          outputQueue := m.outputQueue ++ shipped } := by
  have hN : numSamplesCircularBuffer = 16000 := rfl
  have hread := aligned.readPtr_lt
  have hwindow := aligned.window
  have hword := aligned.word
  have hordered := aligned.ordered
  rw [aligned.usedSpace] at hholdoff
  have hsize : m.shipmentSize force ≤ m.writeTimestamp - m.readTimestamp := by
    unfold shipmentSize
    split <;> omega
  have hstop : (if (0 : Nat) ≠ 0 ∨ force = true then m.writePtr
      else cicularPointerSubtractOffset m.writePtr m.numSampleShipmentHoldoff) =
      Ring.slot numSamplesCircularBuffer m.readPtr (m.shipmentSize force) := by
    rw [aligned.writePtr, aligned.holdoff]
    cases force with
    | true => simp [shipmentSize]
    | false =>
        simp only [Bool.false_eq_true, false_or] at hholdoff
        simp only [ne_eq, not_true, Bool.false_eq_true, or_self, if_false, shipmentSize]
        exact cicularPointerSubtractOffset_slot hread (by omega) hholdoff (by omega)
  unfold createShipment
  simp only [hstop]
  rw [if_neg (by simp)]
  split_ifs with hwrap
  · -- the window reaches past the end of the buffer
    have hrest : m.shipmentSize force = numSamplesCircularBuffer - m.readPtr +
        Ring.slot numSamplesCircularBuffer m.readPtr (m.shipmentSize force) := by
      unfold Ring.slot at hwrap ⊢
      split_ifs at hwrap ⊢ <;> omega
    set rest := Ring.slot numSamplesCircularBuffer m.readPtr (m.shipmentSize force)
    obtain ⟨first, hfirst, heq⟩ := m.shipSlice_pieces tapeNumChannels m.readPtr
      (numSamplesCircularBuffer - m.readPtr) (by omega)
    obtain ⟨second, hsecond, heq'⟩ := (shipSlice tapeNumChannels m m.readPtr
      (numSamplesCircularBuffer - m.readPtr)).shipSlice_pieces tapeNumChannels 0 rest (by omega)
    rw [heq] at hsecond
    refine ⟨first ++ second, ⟨?_, ?_⟩, ?_⟩
    · intro chunk hchunk
      rcases List.mem_append.mp hchunk with hchunk | hchunk
      · exact hfirst.sliced chunk hchunk
      · exact hsecond.sliced chunk hchunk
    · intro β read memory carries
      rw [List.flatMap_append, hfirst.carries carries, hsecond.carries carries, hrest,
        Ring.window_eq_append _ _ hread.le]
    · have hzero : circularPointerAddOffset m.readPtr (numSamplesCircularBuffer - m.readPtr) = 0 := by
        unfold circularPointerAddOffset
        split_ifs <;> omega
      have hcell : circularPointerAddOffset 0 rest = rest := by
        unfold circularPointerAddOffset
        split_ifs <;> omega
      rw [heq', heq]
      simp only [hzero, hcell, List.append_assoc]
      congr 1
      unfold toU32
      omega
  · obtain ⟨shipped, hshipped, heq⟩ := m.shipSlice_pieces tapeNumChannels m.readPtr
      (Ring.slot numSamplesCircularBuffer m.readPtr (m.shipmentSize force) -
        m.readPtr) (by unfold Ring.slot; split_ifs <;> omega)
    have hcount : Ring.slot numSamplesCircularBuffer m.readPtr (m.shipmentSize force) -
        m.readPtr = m.shipmentSize force := by
      unfold Ring.slot at hwrap ⊢
      split_ifs at hwrap ⊢ <;> omega
    have hend : m.readPtr + m.shipmentSize force ≤ numSamplesCircularBuffer := by
      unfold Ring.slot at hwrap
      split_ifs at hwrap <;> omega
    refine ⟨shipped, ⟨hshipped.sliced, ?_⟩, ?_⟩
    · intro β read memory carries
      rw [hshipped.carries carries, hcount, Ring.window_eq_slice _ hend]
    · rw [heq, hcount, circularPointerAddOffset_slot hread]
      congr 1
      unfold toU32
      omega

/-- A shipment delivers a window of the buffer when the output is not split in two. -/
theorem createShipment_eq (tapeNumChannels : Int) {m : RtpMixer} (aligned : Aligned m)
    (force : Bool) (hholdoff : force = true ∨ numSamplesShipmentHoldoff ≤ m.usedSpace) :
    ∃ shipped, (m.numOutputChannels ≠ 2 → shipped.flatMap AudioChunk.samples =
        Ring.window numSamplesCircularBuffer m.buffer m.readPtr (m.shipmentSize force)) ∧
      createShipment tapeNumChannels m 0 force =
        { m with
          readPtr := Ring.slot numSamplesCircularBuffer m.readPtr (m.shipmentSize force)
          readTimestamp := m.readTimestamp + m.shipmentSize force
          outputQueue := m.outputQueue ++ shipped } := by
  obtain ⟨shipped, pieces, heq⟩ :=
    createShipment_pieces tapeNumChannels aligned force hholdoff
  exact ⟨shipped, fun hplain => pieces.carries (carries_samples tapeNumChannels hplain), heq⟩

/-! ### Moves -/

/-- Two mixers that differ in corrective deltas and in what they remember of chunks only. -/
structure Untouched (m m' : RtpMixer) : Prop where
  numOutputChannels : m'.numOutputChannels = m.numOutputChannels
  writePtr : m'.writePtr = m.writePtr
  readPtr : m'.readPtr = m.readPtr
  readTimestamp : m'.readTimestamp = m.readTimestamp
  writeTimestamp : m'.writeTimestamp = m.writeTimestamp
  buffer : m'.buffer = m.buffer
  error : m'.error = m.error
  numSampleTrigger : m'.numSampleTrigger = m.numSampleTrigger
  numSampleShipmentHoldoff : m'.numSampleShipmentHoldoff = m.numSampleShipmentHoldoff
  outputQueue : m'.outputQueue = m.outputQueue
  history : m'.history = m.history
  channels : m.numOutputChannels = 1 → m.channels = [] → m'.channels = []

theorem Untouched.refl (m : RtpMixer) : Untouched m m := by
  constructor <;> simp

theorem Untouched.trans {m m' m'' : RtpMixer} (first : Untouched m m')
    (second : Untouched m' m'') : Untouched m m'' := by
  refine ⟨second.numOutputChannels.trans first.numOutputChannels,
    second.writePtr.trans first.writePtr, second.readPtr.trans first.readPtr,
    second.readTimestamp.trans first.readTimestamp,
    second.writeTimestamp.trans first.writeTimestamp, second.buffer.trans first.buffer,
    second.error.trans first.error, second.numSampleTrigger.trans first.numSampleTrigger,
    second.numSampleShipmentHoldoff.trans first.numSampleShipmentHoldoff,
    second.outputQueue.trans first.outputQueue, second.history.trans first.history, ?_⟩
  intro hmono hnone
  exact second.channels (first.numOutputChannels.trans hmono) (first.channels hmono hnone)

theorem createChannels_untouched (tapeNumChannels : Int) (m : RtpMixer) (channelNumber : Nat) :
    Untouched m (m.createChannels tapeNumChannels channelNumber) := by
  unfold createChannels
  split_ifs with hmono
  · exact .refl m
  · exact .refl m
  · exact .refl m
  · constructor <;> simp [hmono]

theorem ensureChannels_untouched (tapeNumChannels : Int) (m : RtpMixer) (chunk : AudioChunk) :
    Untouched m (m.ensureChannels tapeNumChannels chunk) := by
  unfold ensureChannels
  split_ifs
  · exact m.createChannels_untouched tapeNumChannels _
  · exact .refl m

theorem applyCorrectiveDelta_lt {timestamp : Nat} (hword : timestamp < 4294967296) (delta : Int) :
    applyCorrectiveDelta timestamp delta < 4294967296 := by
  unfold applyCorrectiveDelta
  simp only
  split_ifs
  · exact hword
  · exact toU32_lt _

/-- Working out the timestamp changes nothing of the chunk but its timestamp. -/
theorem correctTimestamp_frame {m m' : RtpMixer} {chunk chunk' : AudioChunk} {timestamp : Nat}
    (hcorrect : m.correctTimestamp chunk = .ok (m', chunk', timestamp)) :
    Untouched m m' ∧ chunk'.samples = chunk.samples ∧
      chunk'.numSamples = chunk.numSamples ∧
      chunk'.details.channel = chunk.details.channel ∧ timestamp < 4294967296 := by
  unfold correctTimestamp at hcorrect
  simp only at hcorrect
  split_ifs at hcorrect with hfirst hmissing hsecond hmissing' hopen hrealign hseparate
  · obtain ⟨rfl, rfl, rfl⟩ := by simpa using hcorrect
    exact ⟨by constructor <;> simp +contextual [modifyChannel], rfl, rfl, rfl,
      UInt32.toNat_lt _⟩
  · obtain ⟨rfl, rfl, rfl⟩ := by simpa using hcorrect
    exact ⟨by constructor <;> simp +contextual [modifyChannel], rfl, rfl, rfl,
      applyCorrectiveDelta_lt (UInt32.toNat_lt _) _⟩
  · obtain ⟨rfl, rfl, rfl⟩ := by simpa using hcorrect
    exact ⟨by constructor <;> simp +contextual [modifyChannel], rfl, rfl, rfl,
      applyCorrectiveDelta_lt (UInt32.toNat_lt _) _⟩
  · obtain ⟨rfl, rfl, rfl⟩ := by simpa using hcorrect
    exact ⟨by constructor <;> simp +contextual [modifyChannel], rfl, rfl, rfl,
      applyCorrectiveDelta_lt (UInt32.toNat_lt _) _⟩
  · split at hcorrect
    · cases hcorrect
    · obtain ⟨rfl, rfl, rfl⟩ := by simpa using hcorrect
      exact ⟨by constructor <;> simp +contextual [modifyChannel], rfl, rfl, rfl,
      applyCorrectiveDelta_lt (UInt32.toNat_lt _) _⟩
  · obtain ⟨rfl, rfl, rfl⟩ := by simpa using hcorrect
    exact ⟨.refl m, rfl, rfl, rfl, by omega⟩

/-- The moves that `AudioChunkIn` is made of. -/
inductive Move (tapeNumChannels : Int) : RtpMixer → RtpMixer → Prop
  | untouched {m m' : RtpMixer} : Untouched m m' → Move tapeNumChannels m m'
  | ship {m : RtpMixer} (force : Bool) :
      force = true ∨ numSamplesShipmentHoldoff ≤ m.usedSpace →
      Move tapeNumChannels m (createShipment tapeNumChannels m 0 force)
  | opened {m : RtpMixer} (timestamp : Nat) : m.writeTimestamp = 0 → timestamp < 4294967296 →
      Move tapeNumChannels m (m.openAt timestamp)
  | reset {m : RtpMixer} (timestamp : Nat) : m.readTimestamp = m.writeTimestamp →
      timestamp < 4294967296 → Move tapeNumChannels m (m.reset timestamp)
  | store {m : RtpMixer} (chunk : AudioChunk) (timestamp : Nat) : m.readTimestamp ≤ timestamp →
      timestamp + chunk.numSamples < m.readTimestamp + numSamplesCircularBuffer →
      timestamp + chunk.numSamples < 4294967296 →
      Move tapeNumChannels m (m.stored chunk timestamp)

/-- A sequence of moves. -/
abbrev Moves (tapeNumChannels : Int) : RtpMixer → RtpMixer → Prop :=
  Relation.ReflTransGen (Move tapeNumChannels)

theorem Aligned.untouched {m m' : RtpMixer} (aligned : Aligned m) (same : Untouched m m') :
    Aligned m' := by
  obtain ⟨hread, hordered, hwindow, hword, hwrite, htrigger, hholdoff⟩ := aligned
  constructor <;> simp [same.readPtr, same.writePtr, same.readTimestamp, same.writeTimestamp,
    same.numSampleTrigger, same.numSampleShipmentHoldoff, *]

/-- Every move keeps the pointers and the timestamps in step. -/
theorem Aligned.move {tapeNumChannels : Int} {m m' : RtpMixer} (aligned : Aligned m)
    (move : Move tapeNumChannels m m') : Aligned m' := by
  have hN : numSamplesCircularBuffer = 16000 := rfl
  obtain ⟨hread, hordered, hwindow, hword, hwrite, htrigger, hholdoff⟩ := id aligned
  cases move with
  | untouched same => exact aligned.untouched same
  | ship force hforce =>
      obtain ⟨shipped, -, heq⟩ := createShipment_eq tapeNumChannels aligned force hforce
      have hsize : m.shipmentSize force ≤ m.writeTimestamp - m.readTimestamp := by
        unfold shipmentSize
        split <;> omega
      rw [heq]
      refine ⟨Ring.slot_lt hread (by omega), by simp only; omega, by simp only; omega, hword, ?_,
        htrigger, hholdoff⟩
      simp only
      rw [hwrite, Ring.slot_slot hread (by omega)]
      congr 1
      omega
  | opened timestamp hzero hstart =>
      rw [hzero, Nat.zero_sub, Ring.slot_zero hread] at hwrite
      refine ⟨hread, le_refl _, by simp [openAt], hstart, ?_, htrigger, hholdoff⟩
      simp only [openAt, Nat.sub_self, Ring.slot_zero hread, hwrite]
  | reset timestamp _ hstart =>
      refine ⟨by simp [reset], le_refl _, by simp [reset], hstart, ?_, htrigger, hholdoff⟩
      simp [reset, Ring.slot]
  | store chunk timestamp hfrom hroom hend =>
      obtain ⟨channels, history, buffer, -, heq⟩ := m.stored_eq chunk timestamp
      rw [heq]
      refine ⟨hread, ?_, ?_, ?_, ?_, htrigger, hholdoff⟩
      · exact hordered.trans (Nat.le_max_left _ _)
      · simp only
        omega
      · simp only
        omega
      · simp only
        rw [hwrite, Ring.next_iterate (Ring.slot_lt hread hwindow.le) (by omega),
          Ring.slot_slot hread (by omega)]
        congr 1
        omega

theorem Aligned.moves {tapeNumChannels : Int} {m m' : RtpMixer} (aligned : Aligned m)
    (moves : Moves tapeNumChannels m m') : Aligned m' := by
  induction moves with
  | refl => exact aligned
  | tail _ move ih => exact ih.move move

/-- What every part of `AudioChunkIn` keeps for a chunk on a channel, each part under the
condition under which it is reached. -/
structure Kept (tapeNumChannels : Int) (channel : UInt8) (keeps : RtpMixer → Prop) : Prop where
  aligned : ∀ {m}, keeps m → Aligned m
  ship : ∀ {m} (force : Bool), keeps m →
    force = true ∨ numSamplesShipmentHoldoff ≤ m.usedSpace →
    keeps (createShipment tapeNumChannels m 0 force)
  opened : ∀ {m} (timestamp : Nat), keeps m → m.writeTimestamp = 0 → timestamp < 4294967296 →
    keeps (m.openAt timestamp)
  reset : ∀ {m} (timestamp : Nat), keeps m → m.readTimestamp = m.writeTimestamp →
    timestamp < 4294967296 → keeps (m.reset timestamp)
  store : ∀ {m} {chunk : AudioChunk} {timestamp : Nat}, keeps m →
    chunk.details.channel = channel → m.readTimestamp ≤ timestamp →
    timestamp + chunk.numSamples < m.readTimestamp + numSamplesCircularBuffer →
    timestamp + chunk.numSamples < 4294967296 → keeps (m.stored chunk timestamp)
  delta : ∀ {m} (delta : Int), keeps m → keeps { m with timestampCorrectiveDelta := delta }
  channelDelta : ∀ {m} (chanIdx delta : Int), keeps m →
    keeps (m.modifyChannel chanIdx fun c => { c with timestampCorrectiveDelta := delta })

/-- Alignment and what moves can reach are kept. -/
theorem Aligned.kept_moves {m : RtpMixer} (aligned : Aligned m) (tapeNumChannels : Int)
    (channel : UInt8) :
    Kept tapeNumChannels channel fun m' => Moves tapeNumChannels m m' where
  aligned moves := aligned.moves moves
  ship force moves hforce := moves.tail (.ship force hforce)
  opened timestamp moves hzero hword := moves.tail (.opened timestamp hzero hword)
  reset timestamp moves hshipped hword := moves.tail (.reset timestamp hshipped hword)
  store moves _ hfrom hroom hword := moves.tail (.store _ _ hfrom hroom hword)
  delta _ moves := moves.tail (.untouched (by constructor <;> simp +contextual))
  channelDelta _ _ moves :=
    moves.tail (.untouched (by constructor <;> simp +contextual [modifyChannel]))

/-! ### The moves of a call -/

/-- The chunks that get past the checks at the head of `AudioChunkIn`. -/
def Admits (m : RtpMixer) (chunk : AudioChunk) : Prop :=
  m.error = false ∧ chunk.details.marker ≠ mediaChunkEosMarker ∧
    chunk.details.encoding = .pcmAudio ∧ chunk.numSamples ≠ 0 ∧ chunk.getNumBytes ≤ 100000

/-- A chunk that would end exactly where the unread samples began one turn ago. -/
def FillsBuffer (m : RtpMixer) (chunk : AudioChunk) (correctedTimestamp : Nat) : Prop :=
  m.readTimestamp < m.writeTimestamp ∧ m.readTimestamp ≤ correctedTimestamp ∧
    correctedTimestamp + chunk.numSamples = m.readTimestamp + numSamplesCircularBuffer ∧
    correctedTimestamp + chunk.numSamples < 4294967296

/-- The call hands in such a chunk. -/
def FillsRing (tapeNumChannels : Int) (m : RtpMixer) (chunk : AudioChunk) : Prop :=
  m.Admits chunk ∧
    match (m.ensureChannels tapeNumChannels chunk).correctTimestamp chunk with
    | .ok (_, _, correctedTimestamp) => m.FillsBuffer chunk correctedTimestamp
    | .error _ => False

instance (m : RtpMixer) (chunk : AudioChunk) (correctedTimestamp : Nat) :
    Decidable (m.FillsBuffer chunk correctedTimestamp) :=
  inferInstanceAs (Decidable (_ ∧ _))

instance (m : RtpMixer) (chunk : AudioChunk) : Decidable (m.Admits chunk) :=
  inferInstanceAs (Decidable (_ ∧ _))

instance (tapeNumChannels : Int) (m : RtpMixer) (chunk : AudioChunk) :
    Decidable (FillsRing tapeNumChannels m chunk) :=
  match h : (m.ensureChannels tapeNumChannels chunk).correctTimestamp chunk with
  | .ok (_, _, timestamp) =>
      decidable_of_iff (m.Admits chunk ∧ m.FillsBuffer chunk timestamp) (by simp [FillsRing, h])
  | .error _ => isFalse (by simp [FillsRing, h])

/-- Where the source's test lets a chunk in, its end is within one turn of the read side. -/
theorem fits_end_le {m : RtpMixer} (aligned : Aligned m) {stop : Nat}
    (hstop : stop < m.writeTimestamp + numSamplesCircularBuffer)
    (hfits : toInt32 (toU32 ((stop : Int) - m.writeTimestamp)) ≤ m.freeSpace) :
    stop ≤ m.readTimestamp + numSamplesCircularBuffer := by
  have hN : numSamplesCircularBuffer = 16000 := rfl
  have hwindow := aligned.window
  have hordered := aligned.ordered
  unfold freeSpace at hfits
  rw [aligned.usedSpace] at hfits
  by_cases hlater : m.writeTimestamp ≤ stop
  · unfold toInt32 toU32 at hfits
    split_ifs at hfits <;> omega
  · omega

namespace Kept

variable {tapeNumChannels : Int} {channel : UInt8} {keeps : RtpMixer → Prop} {m m' : RtpMixer}
  {chunk : AudioChunk} {timestamp : Nat}

theorem storeRtpPacket (kept : Kept tapeNumChannels channel keeps) (hm : keeps m)
    (hchannel : chunk.details.channel = channel) (hfrom : m.readTimestamp ≤ timestamp)
    (hroom : timestamp + chunk.numSamples < 4294967296 →
      timestamp + chunk.numSamples < m.writeTimestamp + numSamplesCircularBuffer →
      timestamp + chunk.numSamples < m.readTimestamp + numSamplesCircularBuffer)
    (hstore : m.storeRtpPacket chunk timestamp = .ok m') : keeps m' := by
  rcases storeRtpPacket_cases hstore with ⟨rfl, -⟩ | ⟨hend, hturn, rfl⟩
  · exact hm
  · exact kept.store hm hchannel hfrom (hroom hend hturn) hend

/-- On an out-of-range timestamp the first side ships, resets and stores; the others only
adjust their corrective delta. -/
theorem manageOutOfRangeTimestamp (kept : Kept tapeNumChannels channel keeps) (hm : keeps m)
    (hchannel : chunk.details.channel = channel)
    (hmanage : m.manageOutOfRangeTimestamp tapeNumChannels chunk = .ok m') : keeps m' := by
  unfold RtpMixer.manageOutOfRangeTimestamp at hmanage
  simp only at hmanage
  split_ifs at hmanage with hfirst hsecond hseparate
  · rw [bind_eq_ok] at hmanage
    obtain ⟨mixed, hstore, hdelta⟩ := hmanage
    obtain rfl := Except.ok.inj hdelta
    have hshipped := kept.ship true hm (.inl rfl)
    have hempty : (createShipment tapeNumChannels m 0 true).readTimestamp =
        (createShipment tapeNumChannels m 0 true).writeTimestamp := by
      obtain ⟨shipped, -, heq⟩ :=
        createShipment_eq tapeNumChannels (kept.aligned hm) true (.inl rfl)
      have hordered := (kept.aligned hm).ordered
      rw [heq]
      simp only [shipmentSize, if_true]
      omega
    have hreset := kept.reset chunk.details.timestamp.toNat hshipped hempty (UInt32.toNat_lt _)
    exact kept.delta 0
      (kept.storeRtpPacket hreset hchannel (le_refl _) (fun _ hturn => hturn) hstore)
  · obtain rfl := Except.ok.inj hmanage
    exact kept.delta _ hm
  · obtain rfl := Except.ok.inj hmanage
    exact kept.channelDelta _ _ hm
  · obtain rfl := Except.ok.inj hmanage
    exact hm

/-- A chunk that does not fill the buffer is placed. -/
theorem placeChunk (kept : Kept tapeNumChannels channel keeps) (hm : keeps m)
    (hchannel : chunk.details.channel = channel) (hword : timestamp < 4294967296)
    (hfills : ¬ m.FillsBuffer chunk timestamp)
    (hplace : m.placeChunk tapeNumChannels chunk timestamp = .ok m') : keeps m' := by
  unfold RtpMixer.placeChunk at hplace
  simp only at hplace
  split_ifs at hplace with hunset hfirst hnewer hfits
  · exact kept.storeRtpPacket (kept.opened timestamp hm hunset hword) hchannel (le_refl _)
      (fun _ hturn => hturn) hplace
  · obtain rfl := Except.ok.inj hplace
    exact hm
  · rw [bind_eq_ok] at hplace
    obtain ⟨mixed, hstore, hship⟩ := hplace
    have hmixed : keeps mixed := by
      refine kept.storeRtpPacket hm hchannel hnewer ?_ hstore
      intro hend hturn
      rw [show toU32 ((timestamp : Int) + chunk.numSamples) = timestamp + chunk.numSamples by
        unfold toU32; omega] at hfits
      have hle := fits_end_le (kept.aligned hm) hturn hfits.1
      have hordered := (kept.aligned hm).ordered
      have hnot : ¬ (m.readTimestamp < m.writeTimestamp ∧ timestamp + chunk.numSamples =
          m.readTimestamp + numSamplesCircularBuffer) := by
        rintro ⟨hsome, hexact⟩
        exact hfills ⟨hsome, hnewer, hexact, hend⟩
      omega
    split_ifs at hship with htrigger
    · obtain rfl := Except.ok.inj hship
      refine kept.ship false hmixed (.inr ?_)
      rw [(kept.aligned hmixed).trigger] at htrigger
      exact le_trans (by decide) (Nat.le_of_lt htrigger)
    · obtain rfl := Except.ok.inj hship
      exact hmixed
  · exact kept.manageOutOfRangeTimestamp hm hchannel hplace
  · exact kept.manageOutOfRangeTimestamp hm hchannel hplace

end Kept

/-- Past the checks, a call corrects the timestamp and places the chunk. -/
theorem audioChunkIn_admitted (tapeNumChannels : Int) {m : RtpMixer} {chunk : AudioChunk}
    (hadmits : m.Admits chunk) : m.audioChunkIn tapeNumChannels (some chunk) =
      ((m.ensureChannels tapeNumChannels chunk).correctTimestamp chunk >>= fun corrected =>
        corrected.1.placeChunk tapeNumChannels corrected.2.1 corrected.2.2) := by
  obtain ⟨herror, heos, hpcm, hempty, hsmall⟩ := hadmits
  have hsamples : chunk.getNumSamples? = some chunk.numSamples := by
    simp [AudioChunk.getNumSamples?, hpcm, AudioChunk.numSamples]
  unfold audioChunkIn
  simp only [herror, heos, hsamples, hempty, hpcm, Int.not_lt.mpr hsmall, if_false,
    Bool.false_eq_true, ne_eq, not_true]

/-- What a call that returns has done. -/
theorem audioChunkIn_cases {tapeNumChannels : Int} {m m' : RtpMixer} {input : Option AudioChunk}
    (hin : m.audioChunkIn tapeNumChannels input = .ok m') :
    m' = m ∨
    (∃ chunk ∈ input, chunk.getNumBytes > 100000 ∧ m' = { m with error := true }) ∨
    (m.error = false ∧ (∃ chunk ∈ input, chunk.details.marker = mediaChunkEosMarker) ∧
      m' = m.createShipment tapeNumChannels 0 true) ∨
    (∃ chunk ∈ input, m.Admits chunk ∧ ∃ corrected chunk' timestamp,
      (m.ensureChannels tapeNumChannels chunk).correctTimestamp chunk =
        .ok (corrected, chunk', timestamp) ∧
      corrected.placeChunk tapeNumChannels chunk' timestamp = .ok m') := by
  unfold audioChunkIn at hin
  split_ifs at hin with herror
  · exact .inl (Except.ok.inj hin).symm
  · cases input with
    | none => exact .inl (Except.ok.inj hin).symm
    | some chunk =>
        simp only at hin
        by_cases heos : chunk.details.marker = mediaChunkEosMarker
        · rw [if_pos heos] at hin
          exact .inr (.inr (.inl ⟨by simpa using herror, ⟨chunk, rfl, heos⟩,
            (Except.ok.inj hin).symm⟩))
        rw [if_neg heos] at hin
        cases hsamples : chunk.getNumSamples? with
        | none => simp [hsamples] at hin
        | some numSamples =>
            simp only [hsamples] at hin
            split_ifs at hin with hempty hbig hpcm
            · exact .inl (Except.ok.inj hin).symm
            · exact .inr (.inl ⟨chunk, rfl, hbig, (Except.ok.inj hin).symm⟩)
            · rw [bind_eq_ok] at hin
              obtain ⟨⟨corrected, chunk', timestamp⟩, hcorrect, hplace⟩ := hin
              have hpcm' : chunk.details.encoding = .pcmAudio := not_not.mp hpcm
              refine .inr (.inr (.inr ⟨chunk, rfl, ⟨by simpa using herror, heos, hpcm', ?_,
                by omega⟩, corrected, chunk', timestamp, hcorrect, hplace⟩))
              simp only [AudioChunk.getNumSamples?, hpcm', Option.some.injEq] at hsamples
              simpa [AudioChunk.numSamples, hsamples] using hempty

/-- Only a chunk that gets past the checks can ask for a missing channel. -/
theorem audioChunkIn_channelIndex {tapeNumChannels : Int} {m : RtpMixer}
    {input : Option AudioChunk}
    (hin : m.audioChunkIn tapeNumChannels input = .error .channelIndex) :
    ∃ chunk ∈ input, m.Admits chunk := by
  unfold audioChunkIn at hin
  split_ifs at hin with herror
  cases input with
  | none => cases hin
  | some chunk =>
      simp only at hin
      by_cases heos : chunk.details.marker = mediaChunkEosMarker
      · simp [heos] at hin
      rw [if_neg heos] at hin
      cases hsamples : chunk.getNumSamples? with
      | none => simp [hsamples] at hin
      | some numSamples =>
          simp only [hsamples] at hin
          split_ifs at hin with hempty hbig hpcm
          · cases hin
          · have hpcm' : chunk.details.encoding = .pcmAudio := not_not.mp hpcm
            refine ⟨chunk, rfl, by simpa using herror, heos, hpcm', ?_, by omega⟩
            simp only [AudioChunk.getNumSamples?, hpcm', Option.some.injEq] at hsamples
            simpa [AudioChunk.numSamples, hsamples] using hempty

/-- What a call keeps when each of its parts does, unless it changes nothing, ships at the
end of the stream or is given a chunk so big that it puts the mixer in error. -/
theorem audioChunkIn_kept {tapeNumChannels : Int} (keeps : UInt8 → RtpMixer → Prop)
    {m m' : RtpMixer} {input : Option AudioChunk}
    (kept : ∀ chunk ∈ input, m.Admits chunk →
      Kept tapeNumChannels chunk.details.channel (keeps chunk.details.channel))
    (hcorrected : ∀ chunk ∈ input, m.Admits chunk → ∀ corrected chunk' timestamp,
      (m.ensureChannels tapeNumChannels chunk).correctTimestamp chunk =
        .ok (corrected, chunk', timestamp) → keeps chunk.details.channel corrected)
    (hfills : ∀ chunk ∈ input, ¬ FillsRing tapeNumChannels m chunk)
    (hin : m.audioChunkIn tapeNumChannels input = .ok m') :
    m' = m ∨ (∃ chunk ∈ input, chunk.getNumBytes > 100000 ∧ m' = { m with error := true }) ∨
      m' = m.createShipment tapeNumChannels 0 true ∨
      ∃ chunk ∈ input, m.Admits chunk ∧ keeps chunk.details.channel m' := by
  rcases audioChunkIn_cases hin with hsame | hbig | ⟨-, -, hship⟩ |
    ⟨chunk, hchunk, hadmits, corrected, chunk', timestamp, hcorrect, hplace⟩
  · exact .inl hsame
  · exact .inr (.inl hbig)
  · exact .inr (.inr (.inl hship))
  · obtain ⟨hsame, -, hcount, hchannel, hword⟩ := correctTimestamp_frame hcorrect
    have hsame' := (m.ensureChannels_untouched tapeNumChannels chunk).trans hsame
    have hnot : ¬ corrected.FillsBuffer chunk' timestamp := by
      have hring := hfills chunk hchunk
      simp only [FillsRing, hadmits, hcorrect, true_and] at hring
      simpa only [FillsBuffer, hcount, hsame'.readTimestamp,
        hsame'.writeTimestamp] using hring
    refine .inr (.inr (.inr ⟨chunk, hchunk, hadmits, ?_⟩))
    exact (kept chunk hchunk hadmits).placeChunk
      (hcorrected chunk hchunk hadmits corrected chunk' timestamp hcorrect) hchannel hword hnot
      hplace

/-- A chunk that is handed in and does not fill the ring is taken by moves, unless it is
so big that it puts the mixer in error. -/
theorem audioChunkIn_moves {tapeNumChannels : Int} {m m' : RtpMixer} (aligned : Aligned m)
    {input : Option AudioChunk} (hfills : ∀ chunk ∈ input, ¬ FillsRing tapeNumChannels m chunk)
    (hin : m.audioChunkIn tapeNumChannels input = .ok m') :
    Moves tapeNumChannels m m' ∨
      (∃ chunk ∈ input, chunk.getNumBytes > 100000 ∧ m' = { m with error := true }) := by
  have hkept := audioChunkIn_kept (fun _ => Moves tapeNumChannels m)
    (fun chunk _ _ => aligned.kept_moves tapeNumChannels chunk.details.channel) ?_ hfills hin
  · rcases hkept with rfl | hbig | rfl | ⟨-, -, -, hmoves⟩
    · exact .inl .refl
    · exact .inr hbig
    · exact .inl (.single (.ship true (.inl rfl)))
    · exact .inl hmoves
  · intro chunk _ _ corrected chunk' timestamp hcorrect
    have hsame := (correctTimestamp_frame hcorrect).1
    exact .single (.untouched ((m.ensureChannels_untouched tapeNumChannels chunk).trans hsame))

end OrkAudio.RtpMixer
