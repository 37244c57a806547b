import OrkAudio.RtpMixer.Timeline

/-! What a mixer emits for a sequence of chunks does not depend on when its output queue is
drained. -/

namespace OrkAudio.RtpMixer

open Lib

variable (tapeNumChannels : Int) (queue : List AudioChunk) (m : RtpMixer)

/-- The mixer with these chunks in front of its output queue. -/
def prepend : RtpMixer := { m with outputQueue := queue ++ m.outputQueue }

theorem channelAt_prepend (chanIdx : Int) :
    (m.prepend queue).channelAt chanIdx = m.channelAt chanIdx := rfl

theorem numInputChannels_prepend : (m.prepend queue).numInputChannels = m.numInputChannels := rfl

/-! ### Each function keeps what is in front of the queue -/

theorem createChannels_prepend (channelNumber : Nat) :
    (m.prepend queue).createChannels tapeNumChannels channelNumber =
      (m.createChannels tapeNumChannels channelNumber).prepend queue := by
  rw [createChannels, createChannels]
  simp only [apply_ite (prepend queue)]
  rfl

theorem ensureChannels_prepend (chunk : AudioChunk) :
    (m.prepend queue).ensureChannels tapeNumChannels chunk =
      (m.ensureChannels tapeNumChannels chunk).prepend queue := by
  rw [ensureChannels, ensureChannels, createChannels_prepend]
  exact (apply_ite (prepend queue) _ _ _).symm

theorem zeroSamples_prepend (count : Nat) :
    zeroSamples count (m.prepend queue) = (zeroSamples count m).prepend queue := by
  induction count generalizing m with
  | zero => rfl
  | succ count ih => exact ih m.zeroSample

theorem mixSamples_prepend (chanIdx : Int) (payload : List Int16) (cell : Nat) :
    mixSamples chanIdx payload cell (m.prepend queue) =
      (mixSamples chanIdx payload cell m).prepend queue := by
  induction payload generalizing cell m with
  | nil => rfl
  | cons sample payload ih => exact ih (m.mixSample chanIdx sample cell) _

theorem writeSilence_prepend (endRtpTimestamp : Nat) :
    (m.prepend queue).writeSilence endRtpTimestamp =
      (m.writeSilence endRtpTimestamp).prepend queue := by
  rw [writeSilence, writeSilence]
  dsimp only
  rw [zeroSamples_prepend]
  simp only [apply_ite (prepend queue)]
  rfl

theorem mixPacket_prepend (chunk : AudioChunk) (correctedTimestamp : Nat) :
    (m.prepend queue).mixPacket chunk correctedTimestamp =
      (m.mixPacket chunk correctedTimestamp).prepend queue := by
  rw [mixPacket, mixPacket]
  dsimp only
  rw [mixSamples_prepend]
  simp only [apply_ite (prepend queue)]
  rfl

theorem storeRtpPacket_prepend (chunk : AudioChunk) (correctedTimestamp : Nat) :
    (m.prepend queue).storeRtpPacket chunk correctedTimestamp =
      (m.storeRtpPacket chunk correctedTimestamp).map (prepend queue) := by
  rw [storeRtpPacket, storeRtpPacket]
  dsimp only
  rw [writeSilence_prepend, mixPacket_prepend]
  simp only [apply_ite (Except.map (ε := MixerError) (prepend queue))]
  rfl

theorem shipSlice_prepend (start shortSize : Nat) :
    shipSlice tapeNumChannels (m.prepend queue) start shortSize =
      (shipSlice tapeNumChannels m start shortSize).prepend queue := by
  have hslice : sliceChunk tapeNumChannels (m.prepend queue) start shortSize =
      sliceChunk tapeNumChannels m start shortSize := rfl
  have hdetails : (m.prepend queue).shipmentDetails shortSize = m.shipmentDetails shortSize := rfl
  rw [shipSlice, shipSlice, hdetails, checkChunkDetails, checkChunkDetails]
  split_ifs
  · rfl
  · rfl
  · dsimp only
    rw [hslice]
    simp only [prepend, List.append_assoc]

theorem createShipment_prepend (force : Bool) :
    (m.prepend queue).createShipment tapeNumChannels 0 force =
      (m.createShipment tapeNumChannels 0 force).prepend queue := by
  rw [createShipment, createShipment]
  dsimp only
  rw [shipSlice_prepend, shipSlice_prepend, shipSlice_prepend]
  simp only [ne_eq, not_true_eq_false, if_false]
  exact (apply_ite (prepend queue) _ _ _).symm

theorem manageOutOfRangeTimestamp_prepend (chunk : AudioChunk) :
    (m.prepend queue).manageOutOfRangeTimestamp tapeNumChannels chunk =
      (m.manageOutOfRangeTimestamp tapeNumChannels chunk).map (prepend queue) := by
  rw [manageOutOfRangeTimestamp, manageOutOfRangeTimestamp]
  dsimp only
  rw [numInputChannels_prepend, channelAt_prepend]
  split_ifs with hfirst hsecond hchannels hindex
  · have hreset (m : RtpMixer) (timestamp : Nat) :
        (m.prepend queue).reset timestamp = (m.reset timestamp).prepend queue := rfl
    rw [createShipment_prepend, hreset, storeRtpPacket_prepend]
    cases ((m.createShipment tapeNumChannels 0 true).reset
      chunk.details.timestamp.toNat).storeRtpPacket chunk chunk.details.timestamp.toNat <;> rfl
  · rfl
  · rfl
  · rfl
  · rfl

theorem placeChunk_prepend (chunk : AudioChunk) (correctedTimestamp : Nat) :
    (m.prepend queue).placeChunk tapeNumChannels chunk correctedTimestamp =
      (m.placeChunk tapeNumChannels chunk correctedTimestamp).map (prepend queue) := by
  have hopen : (m.prepend queue).openAt correctedTimestamp =
      (m.openAt correctedTimestamp).prepend queue := rfl
  have hwrite : (m.prepend queue).writeTimestamp = m.writeTimestamp := rfl
  have hread : (m.prepend queue).readTimestamp = m.readTimestamp := rfl
  have husedSpace (m : RtpMixer) : (m.prepend queue).usedSpace = m.usedSpace := rfl
  have hfreeSpace : (m.prepend queue).freeSpace = m.freeSpace := rfl
  have htrigger (m : RtpMixer) : (m.prepend queue).numSampleTrigger = m.numSampleTrigger := rfl
  rw [placeChunk, placeChunk, hopen, storeRtpPacket_prepend, storeRtpPacket_prepend,
    manageOutOfRangeTimestamp_prepend, husedSpace, hfreeSpace, hwrite, hread]
  split_ifs
  · rfl
  · rfl
  · cases m.storeRtpPacket chunk correctedTimestamp with
    | error e => rfl
    | ok m' =>
        simp only [Except.map, bind, Except.bind, husedSpace, htrigger, createShipment_prepend]
        split_ifs <;> rfl
  · rfl
  · rfl

theorem correctTimestamp_prepend (chunk : AudioChunk) :
    (m.prepend queue).correctTimestamp chunk =
      (m.correctTimestamp chunk).map fun result => (result.1.prepend queue, result.2) := by
  rw [correctTimestamp, correctTimestamp]
  by_cases hfirst : chunk.details.channel = 1
  · rw [if_pos hfirst, if_pos hfirst]
    simp only [apply_ite (Except.map (ε := MixerError) _)]
    rfl
  · rw [if_neg hfirst, if_neg hfirst]
    by_cases hsecond : chunk.details.channel = 2
    · rw [if_pos hsecond, if_pos hsecond]
      simp only [apply_ite (Except.map (ε := MixerError) _)]
      -- the realignment reads the mixer that already has the chunk as its last one
      by_cases hstate : m.oneS1PacketState = true
      · have hleft (f : RtpMixerChannel → RtpMixerChannel) :
            ((m.prepend queue).modifyChannel 1 f).oneS1PacketState = true := hstate
        have hright (f : RtpMixerChannel → RtpMixerChannel) :
            (m.modifyChannel 1 f).oneS1PacketState = true := hstate
        simp only [hleft, hright, if_true]
        rfl
      · have hleft (f : RtpMixerChannel → RtpMixerChannel) :
            ¬ ((m.prepend queue).modifyChannel 1 f).oneS1PacketState = true := hstate
        have hright (f : RtpMixerChannel → RtpMixerChannel) :
            ¬ (m.modifyChannel 1 f).oneS1PacketState = true := hstate
        simp only [hleft, hright]
        by_cases hdelta : m.timestampCorrectiveDelta = 0 ∧ m.writeTimestamp ≠ 0
        · have hleft (f : RtpMixerChannel → RtpMixerChannel) :
              (((m.prepend queue).modifyChannel 1 f).timestampCorrectiveDelta = 0 ∧
                ((m.prepend queue).modifyChannel 1 f).writeTimestamp ≠ 0) = True :=
            eq_true hdelta
          have hright (f : RtpMixerChannel → RtpMixerChannel) :
              ((m.modifyChannel 1 f).timestampCorrectiveDelta = 0 ∧
                (m.modifyChannel 1 f).writeTimestamp ≠ 0) = True := eq_true hdelta
          simp only [hleft, hright, if_true]
          rfl
        · have hleft (f : RtpMixerChannel → RtpMixerChannel) :
              (((m.prepend queue).modifyChannel 1 f).timestampCorrectiveDelta = 0 ∧
                ((m.prepend queue).modifyChannel 1 f).writeTimestamp ≠ 0) = False :=
            eq_false hdelta
          have hright (f : RtpMixerChannel → RtpMixerChannel) :
              ((m.modifyChannel 1 f).timestampCorrectiveDelta = 0 ∧
                (m.modifyChannel 1 f).writeTimestamp ≠ 0) = False := eq_false hdelta
          simp only [hleft, hright, if_false]
          rfl
    · rw [if_neg hsecond, if_neg hsecond]
      simp only [apply_ite (Except.map (ε := MixerError) _)]
      congr 1
      rw [channelAt_prepend]
      cases m.channelAt ((chunk.details.channel.toNat : Int) - 1) <;> rfl

theorem audioChunkIn_prepend (input : Option AudioChunk) :
    (m.prepend queue).audioChunkIn tapeNumChannels input =
      (m.audioChunkIn tapeNumChannels input).map (prepend queue) := by
  have herror : (m.prepend queue).error = m.error := rfl
  rw [audioChunkIn.eq_def, audioChunkIn.eq_def, herror]
  by_cases hm : m.error = true
  · rw [if_pos hm, if_pos hm]
    rfl
  · rw [if_neg hm, if_neg hm]
    cases input with
    | none => rfl
    | some chunk =>
        dsimp only
        rw [createShipment_prepend, ensureChannels_prepend, correctTimestamp_prepend]
        by_cases hmarker : chunk.details.marker = mediaChunkEosMarker
        · rw [if_pos hmarker, if_pos hmarker]
          rfl
        · rw [if_neg hmarker, if_neg hmarker]
          cases chunk.getNumSamples? with
          | none => rfl
          | some numSamples =>
              dsimp only
              split_ifs
              · rfl
              · rfl
              · rfl
              · cases (m.ensureChannels tapeNumChannels chunk).correctTimestamp chunk with
                | error e => rfl
                | ok result => exact placeChunk_prepend tapeNumChannels queue result.1 _ _

/-! ### How much a shipment takes -/

variable {m}

theorem setChannelBuffer_details (chunk : AudioChunk) (memory : Nat → Int16)
    (details : AudioChunkDetails) (chan : Nat) :
    (chunk.setChannelBuffer memory details chan).details = chunk.details := rfl

theorem setChannelBuffers_details (details : AudioChunkDetails) (chans : List Nat)
    (chunk : AudioChunk) :
    (chans.foldl (fun chunk i => chunk.setChannelBuffer (fun _ => 0) details (i + 1))
      chunk).details = chunk.details := by
  induction chans generalizing chunk with
  | nil => rfl
  | cons i chans ih => exact ih _

theorem sliceChunk_details (m : RtpMixer) (start : Nat) {shortSize : Nat}
    (hsome : (m.shipmentDetails shortSize).numBytes ≠ 0) :
    (sliceChunk tapeNumChannels m start shortSize).details = m.shipmentDetails shortSize := by
  have hset (chunk : AudioChunk) (memory : Nat → Int16) :
      (chunk.setBuffer memory (m.shipmentDetails shortSize)).details =
        m.shipmentDetails shortSize := by
    rw [AudioChunk.setBuffer, if_neg hsome]
  simp only [sliceChunk, handleMixedOutput]
  split_ifs <;> simp only [hset, setChannelBuffers_details, setChannelBuffer_details]

theorem sliceChunk_numSamples (m : RtpMixer) (start : Nat) {shortSize : Nat}
    (hsize : shortSize ≤ numSamplesCircularBuffer) (hsome : shortSize ≠ 0) :
    (sliceChunk tapeNumChannels m start shortSize).getNumSamples? = some shortSize := by
  have hbytes := m.shipmentDetails_numBytes hsize
  have hnonzero : (m.shipmentDetails shortSize).numBytes ≠ 0 := by
    intro hnone
    rw [hnone] at hbytes
    simp only [UInt32.toNat_zero] at hbytes
    omega
  rw [AudioChunk.getNumSamples?, sliceChunk_details tapeNumChannels m start hnonzero, hbytes,
    Nat.mul_div_cancel _ Nat.zero_lt_two]
  rfl

/-- The samples that chunks say they have. -/
def countSamples : List AudioChunk → Nat
  | [] => 0
  | chunk :: chunks => chunk.getNumSamples?.getD 0 + countSamples chunks

theorem countSamples_append (first second : List AudioChunk) :
    countSamples (first ++ second) = countSamples first + countSamples second := by
  induction first with
  | nil => simp [countSamples]
  | cons chunk first ih => rw [List.cons_append, countSamples, countSamples, ih, Nat.add_assoc]

/-- A reading that gives as many items as a chunk has samples counts them. -/
theorem length_flatMap_samples {β : Type} {read : AudioChunk → List β}
    (hread : ∀ chunk, (read chunk).length = chunk.getNumSamples?.getD 0)
    (chunks : List AudioChunk) : (chunks.flatMap read).length = countSamples chunks := by
  induction chunks with
  | nil => rfl
  | cons chunk chunks ih => rw [List.flatMap_cons, List.length_append, hread, ih, countSamples]

theorem shipSlice_count (m : RtpMixer) (start : Nat) {shortSize : Nat}
    (hsize : shortSize ≤ numSamplesCircularBuffer) :
    ∃ shipped, countSamples shipped = shortSize ∧
      (shipSlice tapeNumChannels m start shortSize).outputQueue = m.outputQueue ++ shipped := by
  obtain ⟨shipped, pieces, heq⟩ := m.shipSlice_pieces tapeNumChannels start shortSize hsize
  refine ⟨shipped, ?_, by rw [heq]⟩
  have carries : Carries tapeNumChannels m
      (fun chunk => List.replicate (chunk.getNumSamples?.getD 0) ()) (fun _ => ()) := by
    intro start shortSize hsize hsome
    dsimp only
    rw [sliceChunk_numSamples tapeNumChannels m start hsize hsome]
    simp [Ring.slice]
  have hlength := congrArg List.length (pieces.carries carries)
  rw [length_flatMap_samples fun chunk => List.length_replicate] at hlength
  simpa [Ring.slice] using hlength

/-- A forced shipment takes all that lies between the pointers. -/
theorem createShipment_count (bounded : Bounded tapeNumChannels m) :
    ∃ shipped, countSamples shipped = m.usedSpace ∧
      (createShipment tapeNumChannels m 0 true).outputQueue = m.outputQueue ++ shipped := by
  have hread := bounded.readPtr_lt
  have hwrite := bounded.writePtr_lt
  rw [createShipment]
  simp only [or_true, if_true, ne_eq, not_true_eq_false, if_false]
  by_cases hwrap : m.writePtr < m.readPtr
  · rw [if_pos hwrap]
    obtain ⟨first, hfirst, hqueue⟩ := shipSlice_count tapeNumChannels m m.readPtr
      (Nat.sub_le numSamplesCircularBuffer m.readPtr)
    obtain ⟨second, hsecond, hqueue'⟩ := shipSlice_count tapeNumChannels
      (shipSlice tapeNumChannels m m.readPtr (numSamplesCircularBuffer - m.readPtr)) 0
      hwrite.le
    refine ⟨first ++ second, ?_, ?_⟩
    · rw [countSamples_append, hfirst, hsecond, usedSpace, if_neg (by omega)]
      omega
    · rw [hqueue', hqueue, List.append_assoc]
  · rw [if_neg hwrap, usedSpace, if_pos (by omega)]
    exact shipSlice_count tapeNumChannels m m.readPtr (by omega)

/-! ### Runs -/

/-- The mixer after it was handed these inputs, with all that it emits in its queue. -/
def chunksIn (tapeNumChannels : Int) (m : RtpMixer) (inputs : List (Option AudioChunk)) :
    Except MixerError RtpMixer :=
  inputs.foldlM (audioChunkIn tapeNumChannels) m

variable {tapeNumChannels queue}

theorem chunksIn_concat {m' m'' : RtpMixer} {inputs : List (Option AudioChunk)}
    {input : Option AudioChunk} (hfront : chunksIn tapeNumChannels m inputs = .ok m')
    (hlast : m'.audioChunkIn tapeNumChannels input = .ok m'') :
    chunksIn tapeNumChannels m (inputs ++ [input]) = .ok m'' := by
  rw [chunksIn, List.foldlM_append, ← chunksIn, hfront]
  simp [bind, Except.bind, hlast, pure, Except.pure]

/-- A mixer that has shipped these chunks: with them in front it is the mixer that was never
drained. -/
theorem prepend_chunkIn {undrained m' : RtpMixer} {inputs : List (Option AudioChunk)}
    {input : Option AudioChunk}
    (hundrained : chunksIn tapeNumChannels undrained inputs = .ok (m.prepend queue))
    (hin : m.audioChunkIn tapeNumChannels input = .ok m') :
    chunksIn tapeNumChannels undrained (inputs ++ [input]) = .ok (m'.prepend queue) := by
  apply chunksIn_concat hundrained
  rw [audioChunkIn_prepend, hin]
  rfl

theorem chunksIn_bounded {m' : RtpMixer} {inputs : List (Option AudioChunk)}
    (bounded : Bounded tapeNumChannels m) (hrun : chunksIn tapeNumChannels m inputs = .ok m') :
    Bounded tapeNumChannels m' := by
  induction inputs generalizing m with
  | nil =>
      cases hrun
      exact bounded
  | cons input inputs ih =>
      rw [chunksIn, List.foldlM_cons, bind_eq_ok] at hrun
      obtain ⟨next, hin, hrest⟩ := hrun
      exact ih (bounded.step (.chunkIn hin)) hrest

theorem prepend_chunkOut :
    m.prepend queue = m.audioChunkOut.2.prepend (queue ++ m.audioChunkOut.1.toList) := by
  rw [audioChunkOut]
  cases hqueue : m.outputQueue with
  | nil => simp [prepend]
  | cons chunk rest => simp [prepend, hqueue]

end OrkAudio.RtpMixer
