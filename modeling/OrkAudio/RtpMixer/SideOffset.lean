import OrkAudio.RtpMixer.Timeline

/-! The offset of side 2.

Once it is set, the offset stays until a chunk is out of range, so that the chunks of side 2
keep their distances. It is not applied where it exceeds the timestamp, and an offset of zero
counts as not set. -/

namespace OrkAudio.RtpMixer

open Lib

/-! ### Chunks out of range -/

/-- The chunk fits in nowhere between the read side and the free space. -/
def OutOfRange (m : RtpMixer) (chunk : AudioChunk) (correctedTimestamp : Nat) : Prop :=
  m.writeTimestamp ≠ 0 ∧ ¬ (m.readTimestamp ≤ correctedTimestamp ∧
    toInt32 (toU32 ((toU32 ((correctedTimestamp : Int) + chunk.numSamples) : Int) -
      m.writeTimestamp)) ≤ m.freeSpace ∧
    toInt32 (toU32 ((m.writeTimestamp : Int) - correctedTimestamp)) ≤ m.usedSpace)

/-- `AudioChunkIn` gets to correct the timestamp of the chunk, and this is what it makes of
it. -/
def Corrects (tapeNumChannels : Int) (m : RtpMixer) (chunk : AudioChunk)
    (correctedTimestamp : Nat) : Prop :=
  m.Admits chunk ∧ ∃ m' chunk', (m.ensureChannels tapeNumChannels chunk).correctTimestamp chunk =
    .ok (m', chunk', correctedTimestamp)

/-- The chunk is out of range once its timestamp is corrected. -/
def ArrivesOutOfRange (tapeNumChannels : Int) (m : RtpMixer) (chunk : AudioChunk) : Prop :=
  m.Admits chunk ∧
    match (m.ensureChannels tapeNumChannels chunk).correctTimestamp chunk with
    | .ok (m', chunk', correctedTimestamp) => m'.OutOfRange chunk' correctedTimestamp
    | .error _ => False

/-- The call hands in such a chunk. -/
def Call.OutOfRange (tapeNumChannels : Int) (m : RtpMixer) (call : Call) : Prop :=
  ∃ chunk, call.input = some chunk ∧ ArrivesOutOfRange tapeNumChannels m chunk

instance instDecidableOutOfRange (m : RtpMixer) (chunk : AudioChunk) (correctedTimestamp : Nat) :
    Decidable (m.OutOfRange chunk correctedTimestamp) :=
  inferInstanceAs (Decidable (_ ∧ _))

instance instDecidableArrivesOutOfRange (tapeNumChannels : Int) (m : RtpMixer)
    (chunk : AudioChunk) : Decidable (ArrivesOutOfRange tapeNumChannels m chunk) :=
  match h : (m.ensureChannels tapeNumChannels chunk).correctTimestamp chunk with
  | .ok (m', chunk', timestamp) =>
      decidable_of_iff (m.Admits chunk ∧ m'.OutOfRange chunk' timestamp)
        (by simp [ArrivesOutOfRange, h])
  | .error _ => isFalse (by simp [ArrivesOutOfRange, h])

theorem Call.not_outOfRange {tapeNumChannels : Int} {m : RtpMixer} {chunk : AudioChunk}
    (hin : ¬ ArrivesOutOfRange tapeNumChannels m chunk) :
    ¬ (Call.chunkIn (some chunk)).OutOfRange tapeNumChannels m := by
  intro hout
  obtain ⟨chunk', hchunk, hout⟩ := hout
  obtain rfl := Option.some.inj hchunk
  exact hin hout

theorem Call.arrives_inRange {tapeNumChannels : Int} {m corrected : RtpMixer}
    {chunk chunk' : AudioChunk} {timestamp : Nat} {call : Call} (hinput : call.input = some chunk)
    (hadmits : m.Admits chunk)
    (hcorrect : (m.ensureChannels tapeNumChannels chunk).correctTimestamp chunk =
      .ok (corrected, chunk', timestamp))
    (hin : ¬ call.OutOfRange tapeNumChannels m) : ¬ corrected.OutOfRange chunk' timestamp := by
  intro hout
  apply hin
  refine ⟨chunk, hinput, hadmits, ?_⟩
  rw [hcorrect]
  exact hout

/-! ### What a call leaves of the offset -/

/-- The offset and the alignment are as they were, and the timeline has not been set back. -/
structure Onward (m m' : RtpMixer) : Prop where
  delta : m'.timestampCorrectiveDelta = m.timestampCorrectiveDelta
  oneS1PacketState : m'.oneS1PacketState = m.oneS1PacketState
  writeTimestamp : m.writeTimestamp ≤ m'.writeTimestamp

theorem Onward.refl (m : RtpMixer) : Onward m m := ⟨rfl, rfl, Nat.le_refl _⟩

theorem Onward.trans {m m' m'' : RtpMixer} (first : Onward m m') (second : Onward m' m'') :
    Onward m m'' :=
  ⟨second.delta.trans first.delta, second.oneS1PacketState.trans first.oneS1PacketState,
    first.writeTimestamp.trans second.writeTimestamp⟩

theorem createChannels_onward (tapeNumChannels : Int) (m : RtpMixer) (channelNumber : Nat) :
    Onward m (m.createChannels tapeNumChannels channelNumber) := by
  rw [createChannels]
  split_ifs <;> exact ⟨rfl, rfl, Nat.le_refl _⟩

theorem ensureChannels_onward (tapeNumChannels : Int) (m : RtpMixer) (chunk : AudioChunk) :
    Onward m (m.ensureChannels tapeNumChannels chunk) := by
  rw [ensureChannels]
  split_ifs
  · exact createChannels_onward tapeNumChannels m _
  · exact .refl m

theorem shipSlice_onward (tapeNumChannels : Int) (m : RtpMixer) (start shortSize : Nat) :
    Onward m (shipSlice tapeNumChannels m start shortSize) := by
  rw [shipSlice, checkChunkDetails]
  split_ifs <;> exact ⟨rfl, rfl, Nat.le_refl _⟩

theorem createShipment_onward (tapeNumChannels : Int) (m : RtpMixer) (force : Bool) :
    Onward m (createShipment tapeNumChannels m 0 force) := by
  have hships (stopPtr : Nat) : Onward m (if stopPtr < m.readPtr then
      shipSlice tapeNumChannels
        (shipSlice tapeNumChannels m m.readPtr (numSamplesCircularBuffer - m.readPtr)) 0 stopPtr
      else shipSlice tapeNumChannels m m.readPtr (stopPtr - m.readPtr)) := by
    split_ifs
    · exact (shipSlice_onward tapeNumChannels m _ _).trans (shipSlice_onward tapeNumChannels _ _ _)
    · exact shipSlice_onward tapeNumChannels m _ _
  rw [createShipment, if_neg (not_not_intro rfl)]
  exact hships _

theorem storeRtpPacket_onward {m m' : RtpMixer} {chunk : AudioChunk} {timestamp : Nat}
    (hstore : m.storeRtpPacket chunk timestamp = .ok m') : Onward m m' := by
  rcases storeRtpPacket_cases hstore with ⟨rfl, _⟩ | ⟨_, _, rfl⟩
  · exact .refl m'
  · obtain ⟨channels, history, buffer, _, hstored⟩ := m.stored_eq chunk timestamp
    rw [hstored]
    exact ⟨rfl, rfl, Nat.le_max_left _ _⟩

/-- A chunk that is in range leaves the offset alone once the timeline has begun. -/
theorem placeChunk_onward {tapeNumChannels : Int} {m m' : RtpMixer} {chunk : AudioChunk}
    {timestamp : Nat} (hbegun : m.writeTimestamp ≠ 0) (hin : ¬ m.OutOfRange chunk timestamp)
    (hplace : m.placeChunk tapeNumChannels chunk timestamp = .ok m') : Onward m m' := by
  have hfits := not_not.mp fun hout => hin ⟨hbegun, hout⟩
  rw [placeChunk, if_neg hbegun, if_pos hfits.1, if_pos hfits.2, bind_eq_ok] at hplace
  obtain ⟨mixed, hstore, hship⟩ := hplace
  split_ifs at hship
  · obtain rfl := Except.ok.inj hship
    exact (storeRtpPacket_onward hstore).trans (createShipment_onward tapeNumChannels mixed false)
  · obtain rfl := Except.ok.inj hship
    exact storeRtpPacket_onward hstore

/-- An offset that is set stays as it is, once side 2 has been aligned. -/
theorem correctTimestamp_onward {m m' : RtpMixer} {chunk chunk' : AudioChunk} {timestamp : Nat}
    (haligned : m.oneS1PacketState = false) (hset : m.timestampCorrectiveDelta ≠ 0)
    (hcorrect : m.correctTimestamp chunk = .ok (m', chunk', timestamp)) : Onward m m' := by
  unfold correctTimestamp at hcorrect
  simp only at hcorrect
  split_ifs at hcorrect with hfirst hmissing hsecond hmissing' hopen hrealign hseparate
  · obtain ⟨rfl, rfl, rfl⟩ := by simpa using hcorrect
    exact ⟨rfl, rfl, Nat.le_refl _⟩
  · exact absurd (haligned.symm.trans hopen) (by simp)
  · exact absurd hrealign.1 hset
  · obtain ⟨rfl, rfl, rfl⟩ := by simpa using hcorrect
    exact ⟨rfl, rfl, Nat.le_refl _⟩
  · split at hcorrect
    · cases hcorrect
    · obtain ⟨rfl, rfl, rfl⟩ := by simpa using hcorrect
      exact ⟨rfl, rfl, Nat.le_refl _⟩
  · obtain ⟨rfl, rfl, rfl⟩ := by simpa using hcorrect
    exact .refl _

/-- The chunk is taken for one whose timestamp counts milliseconds. -/
def CountsMilliseconds (m : RtpMixer) (chunk : AudioChunk) : Prop :=
  m.lastChunkS2 ≠ none ∧
    toU32 ((chunk.details.timestamp.toNat : Int) - m.lastTimestampS2) = 20

/-- What becomes of a chunk of side 2 after the alignment. -/
theorem correctTimestamp_side2 {m m' : RtpMixer} {chunk chunk' : AudioChunk} {timestamp : Nat}
    (hchannel : chunk.details.channel = 2) (haligned : m.oneS1PacketState = false)
    (hbegun : m.writeTimestamp ≠ 0) (hplain : ¬ m.CountsMilliseconds chunk)
    (hcorrect : m.correctTimestamp chunk = .ok (m', chunk', timestamp)) :
    m'.timestampCorrectiveDelta = (if m.timestampCorrectiveDelta = 0 then
      (chunk.details.timestamp.toNat : Int) - m.writeTimestamp else m.timestampCorrectiveDelta) ∧
    m'.oneS1PacketState = false ∧ m'.writeTimestamp = m.writeTimestamp ∧
    timestamp = applyCorrectiveDelta chunk.details.timestamp.toNat m'.timestampCorrectiveDelta := by
  have htimestamp : (correctMilliseconds m.lastChunkS2 m.lastTimestampS2
      chunk.details.timestamp).2 = chunk.details.timestamp := by
    unfold correctMilliseconds
    cases hlast : m.lastChunkS2 with
    | none => rfl
    | some last =>
        have hother : toU32 ((chunk.details.timestamp.toNat : Int) - m.lastTimestampS2) ≠ 20 :=
          fun hequal => hplain ⟨by simp [hlast], hequal⟩
        dsimp only
        rw [if_neg hother]
  have hother : chunk.details.channel ≠ 1 := by
    rw [hchannel]
    decide
  unfold correctTimestamp at hcorrect
  simp only [htimestamp] at hcorrect
  rw [if_neg hother, if_pos hchannel] at hcorrect
  split_ifs at hcorrect with hmissing hopen hrealign
  · exact absurd (haligned.symm.trans hopen) (by simp)
  · obtain ⟨rfl, rfl, rfl⟩ := by simpa using hcorrect
    rw [if_pos (show m.timestampCorrectiveDelta = 0 from hrealign.1)]
    exact ⟨rfl, haligned, rfl, rfl⟩
  · obtain ⟨rfl, rfl, rfl⟩ := by simpa using hcorrect
    have hset : m.timestampCorrectiveDelta ≠ 0 := fun hzero => hrealign ⟨hzero, hbegun⟩
    rw [if_neg hset]
    exact ⟨rfl, haligned, rfl, rfl⟩

/-! ### Two chunks of side 2 -/

/-- A chunk of side 2 that is moved by an offset which stays: its timestamp is not taken for
milliseconds, it does not make the offset zero, and the offset does not exceed it. -/
structure KeepsOffset (m : RtpMixer) (chunk : AudioChunk) : Prop where
  samples : ¬ m.CountsMilliseconds chunk
  nonzero : m.timestampCorrectiveDelta = 0 → chunk.details.timestamp.toNat ≠ m.writeTimestamp
  reached : m.timestampCorrectiveDelta ≤ chunk.details.timestamp.toNat

/-- The mixer has begun, side 2 has been aligned, and this offset is set. -/
structure HasOffset (m : RtpMixer) (delta : Int) : Prop where
  begun : m.writeTimestamp ≠ 0
  aligned : m.oneS1PacketState = false
  offset : m.timestampCorrectiveDelta = delta
  nonzero : delta ≠ 0

theorem HasOffset.onward {m m' : RtpMixer} {delta : Int} (h : HasOffset m delta)
    (onward : Onward m m') : HasOffset m' delta where
  begun hzero := h.begun (Nat.le_zero.mp (hzero ▸ onward.writeTimestamp))
  aligned := onward.oneS1PacketState.trans h.aligned
  offset := onward.delta.trans h.offset
  nonzero := h.nonzero

theorem HasOffset.nonzero_delta {m : RtpMixer} {delta : Int} (h : HasOffset m delta) :
    m.timestampCorrectiveDelta ≠ 0 := by
  rw [h.offset]
  exact h.nonzero

/-- A call without a chunk out of range keeps the offset. -/
theorem HasOffset.step {tapeNumChannels : Int} {m m' : RtpMixer} {call : Call} {delta : Int}
    (h : HasOffset m delta) (hin : ¬ call.OutOfRange tapeNumChannels m)
    (step : Step tapeNumChannels m call m') : HasOffset m' delta := by
  cases step with
  | thrown => exact h
  | chunkOut =>
      apply h.onward
      rw [audioChunkOut]
      split <;> exact ⟨rfl, rfl, Nat.le_refl _⟩
  | chunkIn hchunk =>
      rcases audioChunkIn_cases hchunk with rfl | ⟨chunk, _, _, rfl⟩ | ⟨_, _, rfl⟩ |
        ⟨chunk, hinput, hadmits, corrected, chunk', timestamp, hcorrect, hplace⟩
      · exact h
      · exact h.onward ⟨rfl, rfl, Nat.le_refl _⟩
      · exact h.onward (createShipment_onward tapeNumChannels m true)
      · have hensured := h.onward (ensureChannels_onward tapeNumChannels m chunk)
        have hcorrected := hensured.onward
          (correctTimestamp_onward hensured.aligned hensured.nonzero_delta hcorrect)
        have hfits := Call.arrives_inRange (Option.mem_def.mp hinput) hadmits hcorrect hin
        exact hcorrected.onward (placeChunk_onward hcorrected.begun hfits hplace)

/-- A timestamp that is moved by an offset it reaches. -/
theorem applyCorrectiveDelta_eq {timestamp : Nat} {delta : Int} (hreached : delta ≤ timestamp) :
    applyCorrectiveDelta timestamp delta = toU32 (timestamp - delta) := by
  rw [applyCorrectiveDelta]
  exact if_neg (by omega)

theorem moved_sub_moved (timestamp₁ timestamp₂ : UInt32) (delta : Int) :
    UInt32.ofNat (toU32 (timestamp₂.toNat - delta)) -
      UInt32.ofNat (toU32 (timestamp₁.toNat - delta)) = timestamp₂ - timestamp₁ := by
  apply UInt32.toNat_inj.mp
  have hlt₁ := timestamp₁.toNat_lt
  have hlt₂ := timestamp₂.toNat_lt
  rw [UInt32.toNat_sub, UInt32.toNat_sub, UInt32.toNat_ofNat_of_lt' (toU32_lt _),
    UInt32.toNat_ofNat_of_lt' (toU32_lt _), toU32, toU32]
  omega

/-- Ensuring the channels has no part in the correction of side 2. -/
theorem keepsOffset_ensureChannels {m : RtpMixer} {chunk : AudioChunk} (tapeNumChannels : Int)
    (keeps : KeepsOffset m chunk) : KeepsOffset (m.ensureChannels tapeNumChannels chunk) chunk := by
  rw [ensureChannels, createChannels]
  split_ifs <;> exact ⟨keeps.samples, keeps.nonzero, keeps.reached⟩

/-- What a chunk of side 2 that keeps the offset is moved by. -/
theorem corrects_side2 {tapeNumChannels : Int} {m m' : RtpMixer} {chunk chunk' : AudioChunk}
    {corrected : Nat} (hchannel : chunk.details.channel = 2)
    (haligned : m.oneS1PacketState = false) (hbegun : m.writeTimestamp ≠ 0)
    (keeps : KeepsOffset m chunk)
    (hcorrect : (m.ensureChannels tapeNumChannels chunk).correctTimestamp chunk =
      .ok (m', chunk', corrected)) :
    ∃ delta, HasOffset m' delta ∧ corrected = toU32 (chunk.details.timestamp.toNat - delta) ∧
      (m.timestampCorrectiveDelta ≠ 0 → delta = m.timestampCorrectiveDelta) := by
  have onward := ensureChannels_onward tapeNumChannels m chunk
  have keeps' := keepsOffset_ensureChannels tapeNumChannels keeps
  have hsame := m.ensureChannels_untouched tapeNumChannels chunk
  have hbegun' : (m.ensureChannels tapeNumChannels chunk).writeTimestamp ≠ 0 := by
    rw [hsame.writeTimestamp]
    exact hbegun
  obtain ⟨hdelta, haligned', hwrite, happlied⟩ := correctTimestamp_side2 hchannel
    (onward.oneS1PacketState.trans haligned) hbegun' keeps'.samples hcorrect
  rw [onward.delta, hsame.writeTimestamp] at hdelta
  have hbegun'' : m'.writeTimestamp ≠ 0 := by
    rw [hwrite]
    exact hbegun'
  by_cases hunset : m.timestampCorrectiveDelta = 0
  · rw [if_pos hunset] at hdelta
    have hnonzero : (chunk.details.timestamp.toNat : Int) - m.writeTimestamp ≠ 0 := by
      have hdiffers := keeps.nonzero hunset
      omega
    refine ⟨_, ⟨hbegun'', haligned', hdelta, hnonzero⟩, ?_, fun hset => absurd hunset hset⟩
    rw [happlied, hdelta]
    exact applyCorrectiveDelta_eq (by omega)
  · rw [if_neg hunset] at hdelta
    refine ⟨_, ⟨hbegun'', haligned', hdelta, hunset⟩, ?_, fun _ => rfl⟩
    rw [happlied, hdelta]
    exact applyCorrectiveDelta_eq keeps.reached

/-- A chunk that keeps the offset leaves it set. -/
theorem hasOffset_placed {tapeNumChannels : Int} {m m' corrected : RtpMixer}
    {chunk chunk' : AudioChunk} {timestamp : Nat} {delta : Int} (hadmits : m.Admits chunk)
    (hcorrect : (m.ensureChannels tapeNumChannels chunk).correctTimestamp chunk =
      .ok (corrected, chunk', timestamp))
    (has : HasOffset corrected delta)
    (hin : ¬ (Call.chunkIn (some chunk)).OutOfRange tapeNumChannels m)
    (hchunk : m.audioChunkIn tapeNumChannels (some chunk) = .ok m') : HasOffset m' delta := by
  rw [audioChunkIn_admitted tapeNumChannels hadmits, bind_eq_ok] at hchunk
  obtain ⟨result, hcorrect', hplace⟩ := hchunk
  obtain rfl := Except.ok.inj (hcorrect'.symm.trans hcorrect)
  have hfits := Call.arrives_inRange rfl hadmits hcorrect hin
  exact has.onward (placeChunk_onward has.begun hfits hplace)

/-- Two chunks of side 2 keep their distance, whatever else is handed in between them, as long
as no chunk is out of range. -/
theorem side2_keeps_timing {tapeNumChannels : Int} {m m₁ m₂ : RtpMixer}
    {chunk₁ chunk₂ : AudioChunk} {corrected₁ corrected₂ : Nat} {calls : List Call}
    (hbegun : m.writeTimestamp ≠ 0) (haligned : m.oneS1PacketState = false)
    (hchannel₁ : chunk₁.details.channel = 2) (hchannel₂ : chunk₂.details.channel = 2)
    (corrects₁ : m.Corrects tapeNumChannels chunk₁ corrected₁)
    (hin : ¬ (Call.chunkIn (some chunk₁)).OutOfRange tapeNumChannels m)
    (first : m.audioChunkIn tapeNumChannels (some chunk₁) = .ok m₁)
    (between : Steps (Guarded (fun m call => ¬ call.OutOfRange tapeNumChannels m)
      (Step tapeNumChannels)) m₁ calls m₂)
    (corrects₂ : m₂.Corrects tapeNumChannels chunk₂ corrected₂)
    (keeps₁ : KeepsOffset m chunk₁) (keeps₂ : KeepsOffset m₂ chunk₂) :
    UInt32.ofNat corrected₂ - UInt32.ofNat corrected₁ =
      chunk₂.details.timestamp - chunk₁.details.timestamp := by
  obtain ⟨hadmits, m', chunk', hcorrect₁⟩ := corrects₁
  obtain ⟨_, _, _, hcorrect₂⟩ := corrects₂
  obtain ⟨delta, has, hcorrected₁, _⟩ :=
    corrects_side2 hchannel₁ haligned hbegun keeps₁ hcorrect₁
  have has₁ : HasOffset m₁ delta := hasOffset_placed hadmits hcorrect₁ has hin first
  have has₂ : HasOffset m₂ delta := by
    apply between.invariant _ has₁
    intro m call m' h guarded
    exact h.step guarded.1 guarded.2
  obtain ⟨delta', _, hcorrected₂, hsame⟩ :=
    corrects_side2 hchannel₂ has₂.aligned has₂.begun keeps₂ hcorrect₂
  obtain rfl : delta' = delta := (hsame has₂.nonzero_delta).trans has₂.offset
  rw [hcorrected₁, hcorrected₂]
  exact moved_sub_moved _ _ _

/-! #### A call of two sides -/

/-- A chunk of one sample of a side. -/
def sideChunk (channel : UInt8) (timestamp : UInt32) : AudioChunk :=
  { AudioChunk.plain with
    details := { AudioChunk.plain.details with
      encoding := .pcmAudio
      numBytes := 2
      channel := channel
      timestamp := timestamp } }

/-- Side 2 is aligned with an offset of 3999. -/
def alignedSides : RtpMixer := after [sideChunk 1 1000, sideChunk 2 5000]

theorem side2_keeps_timing_two_samples :
    UInt32.ofNat 1005 - UInt32.ofNat 1002 = (5004 : UInt32) - 5001 :=
  @side2_keeps_timing 1 alignedSides (after [sideChunk 1 1000, sideChunk 2 5000, sideChunk 2 5001])
    (after [sideChunk 1 1000, sideChunk 2 5000, sideChunk 2 5001, sideChunk 1 1003])
    (sideChunk 2 5001) (sideChunk 2 5004) 1002 1005 [.chunkIn (some (sideChunk 1 1003))]
    (by decide) rfl rfl rfl ⟨by decide, _, _, rfl⟩ (Call.not_outOfRange (by decide)) rfl
    (.cons ⟨Call.not_outOfRange (by decide), .chunkIn rfl⟩ (.nil _)) ⟨by decide, _, _, rfl⟩
    ⟨by intro h; exact absurd h.2 (by decide), by decide, by decide⟩
    ⟨by intro h; exact absurd h.2 (by decide), by decide, by decide⟩

/-- A chunk that the offset exceeds, as at the wrap of its timestamps, is not moved. -/
theorem side2_not_moved_after_wrap : ¬ ∀ (tapeNumChannels numOutputChannels : Int)
    (memory : Nat → Int16) (m m₁ m₂ : RtpMixer) (chunk₁ chunk₂ : AudioChunk)
    (corrected₁ corrected₂ : Nat) (earlier calls : List Call),
    Steps (Step tapeNumChannels) (fresh numOutputChannels memory) earlier m →
    m.writeTimestamp ≠ 0 → m.oneS1PacketState = false →
    chunk₁.details.channel = 2 → chunk₂.details.channel = 2 →
    m.Corrects tapeNumChannels chunk₁ corrected₁ →
    ¬ (Call.chunkIn (some chunk₁)).OutOfRange tapeNumChannels m →
    m.audioChunkIn tapeNumChannels (some chunk₁) = .ok m₁ →
    Steps (Guarded (fun m call => ¬ call.OutOfRange tapeNumChannels m) (Step tapeNumChannels))
      m₁ calls m₂ →
    m₂.Corrects tapeNumChannels chunk₂ corrected₂ →
    UInt32.ofNat corrected₂ - UInt32.ofNat corrected₁ =
      chunk₂.details.timestamp - chunk₁.details.timestamp := by
  intro hkeeps
  have earlier : Steps (Step 1) (fresh 1 fun _ => 0)
      [.chunkIn (some (sideChunk 1 1000)), .chunkIn (some (sideChunk 2 4294967290))]
      (after [sideChunk 1 1000, sideChunk 2 4294967290]) :=
    .cons (.chunkIn rfl) (.cons (.chunkIn rfl) (.nil _))
  have hdistance := hkeeps 1 1 (fun _ => 0) (after [sideChunk 1 1000, sideChunk 2 4294967290])
    (after [sideChunk 1 1000, sideChunk 2 4294967290, sideChunk 2 4294967295]) _
    (sideChunk 2 4294967295) (sideChunk 2 4) 1006 4 _ []
    earlier (by decide) rfl rfl rfl ⟨by decide, _, _, rfl⟩ (Call.not_outOfRange (by decide)) rfl
    (.nil _) ⟨by decide, _, _, rfl⟩
  exact absurd hdistance (by decide)

end OrkAudio.RtpMixer
