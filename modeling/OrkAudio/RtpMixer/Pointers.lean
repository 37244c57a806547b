import OrkAudio.RtpMixer.Bounds

/-! Ring pointers and timestamps over whole runs of a mixer.

The test that lets a chunk into the current buffer admits one that ends exactly a full
turn after the read timestamp. Such a chunk leaves the pointers equal, and `UsedSpace`
reports the full buffer as empty; it is the only way to lose the alignment. -/

namespace OrkAudio.RtpMixer

open Lib

/-- The chunk that a call hands in. -/
def Call.input : Call → Option AudioChunk
  | .chunkIn input => input
  | .chunkOut => none

/-- The call does not hand in a chunk that fills the ring. -/
def Call.KeepsRoom (tapeNumChannels : Int) (m : RtpMixer) (call : Call) : Prop :=
  ∀ chunk ∈ call.input, ¬ FillsRing tapeNumChannels m chunk

instance (tapeNumChannels : Int) (m : RtpMixer) (call : Call) :
    Decidable (call.KeepsRoom tapeNumChannels m) :=
  inferInstanceAs (Decidable (∀ chunk ∈ call.input, _))

theorem audioChunkOut_untouched (m : RtpMixer) :
    m.audioChunkOut.2 = { m with outputQueue := m.audioChunkOut.2.outputQueue } := by
  unfold audioChunkOut
  split <;> rfl

theorem Aligned.step {tapeNumChannels : Int} {m m' : RtpMixer} {call : Call}
    (aligned : Aligned m) (hroom : call.KeepsRoom tapeNumChannels m)
    (step : Step tapeNumChannels m call m') : Aligned m' := by
  cases step with
  | chunkIn hin =>
      rcases audioChunkIn_moves aligned hroom hin with hmoves | ⟨chunk, -, -, rfl⟩
      · exact aligned.moves hmoves
      · obtain ⟨hread, hordered, hwindow, hword, hwrite, htrigger, hholdoff⟩ := aligned
        exact ⟨hread, hordered, hwindow, hword, hwrite, htrigger, hholdoff⟩
  | thrown => exact aligned
  | chunkOut =>
      obtain ⟨hread, hordered, hwindow, hword, hwrite, htrigger, hholdoff⟩ := aligned
      rw [m.audioChunkOut_untouched]
      exact ⟨hread, hordered, hwindow, hword, hwrite, htrigger, hholdoff⟩

/-- In a run whose calls all keep room, every mixer is aligned. -/
theorem run_aligned {tapeNumChannels numOutputChannels : Int} {memory : Nat → Int16}
    {calls : List Call} {m : RtpMixer}
    (run : Steps (Guarded (fun m call => call.KeepsRoom tapeNumChannels m) (Step tapeNumChannels))
      (fresh numOutputChannels memory) calls m) : Aligned m := by
  refine run.invariant ?_ (fresh_aligned numOutputChannels memory)
  intro m call m' aligned taken
  exact aligned.step taken.1 taken.2

/-- What it means that the pointers and the timestamps of a mixer agree. -/
structure PointersAgree (m : RtpMixer) : Prop where
  usedSpace : (m.usedSpace : Int) = m.writeTimestamp - m.readTimestamp
  distance : ((m.writePtr : Int) - m.readPtr) % numSamplesCircularBuffer =
    m.writeTimestamp - m.readTimestamp
  neverFull : (m.writeTimestamp : Int) - m.readTimestamp < numSamplesCircularBuffer

theorem Aligned.pointersAgree {m : RtpMixer} (aligned : Aligned m) : PointersAgree m := by
  have hN : numSamplesCircularBuffer = 16000 := rfl
  have hordered := aligned.ordered
  have hwindow := aligned.window
  have hread := aligned.readPtr_lt
  refine ⟨?_, ?_, by omega⟩
  · rw [aligned.usedSpace]
    omega
  · rw [aligned.writePtr, hN]
    unfold Ring.slot
    split_ifs <;> omega

/-- A chunk of the first side with so many samples of silence. -/
def silentChunk (timestamp : UInt32) (numSamples : Nat) : AudioChunk :=
  { details :=
      { encoding := .pcmAudio, numBytes := UInt32.ofNat (numSamples * 2)
        timestamp := timestamp, channel := 1 }
    buffer := fun _ => 0 }

/-- The mixer after a first chunk of one sample. -/
def afterOneSample : RtpMixer :=
  match (fresh 1 fun _ => 0).audioChunkIn 1 (some (silentChunk 1000 1)) with
  | .ok m => m
  | .error _ => fresh 1 fun _ => 0

theorem afterOneSample_eq :
    (fresh 1 fun _ => 0).audioChunkIn 1 (some (silentChunk 1000 1)) = .ok afterOneSample := rfl

/-- The pointers agree with the timestamps in every state of a run of a fresh mixer in
which no call fills the ring. -/
theorem pointers_agree {tapeNumChannels numOutputChannels : Int} {memory : Nat → Int16}
    {calls : List Call} {m : RtpMixer}
    (run : Steps (Guarded (fun m call => call.KeepsRoom tapeNumChannels m) (Step tapeNumChannels))
      (fresh numOutputChannels memory) calls m) : PointersAgree m :=
  (run_aligned run).pointersAgree

/-- A first chunk of one sample keeps room. -/
theorem pointers_agree_one_sample : PointersAgree afterOneSample :=
  @pointers_agree 1 1 (fun _ => 0) [.chunkIn (some (silentChunk 1000 1))] afterOneSample
    (.cons ⟨by decide, .chunkIn afterOneSample_eq⟩ (.nil _))

/-! ### A chunk that fills the ring -/

theorem Aligned.bounded (tapeNumChannels : Int) {m : RtpMixer} (aligned : Aligned m)
    (hplain : m.channels = []) : Bounded tapeNumChannels m := by
  refine ⟨aligned.readPtr_lt, ?_, aligned.holdoff, .inl hplain⟩
  rw [aligned.writePtr]
  exact Ring.slot_lt aligned.readPtr_lt aligned.window.le

/-- With one output channel every chunk that is handed in is taken or thrown back. -/
theorem chunkIn_returns {tapeNumChannels : Int} {m : RtpMixer} (aligned : Aligned m)
    (hplain : m.channels = []) (input : Option AudioChunk) :
    ∃ m', Step tapeNumChannels m (.chunkIn input) m' := by
  by_cases hadmits : ∃ chunk ∈ input, m.Admits chunk
  · obtain ⟨chunk, rfl, hadmits⟩ := hadmits
    obtain ⟨m', hin⟩ := (aligned.bounded tapeNumChannels hplain).takes hadmits (.inr hplain)
    exact ⟨m', .chunkIn hin⟩
  · cases hin : m.audioChunkIn tapeNumChannels input with
    | ok m' => exact ⟨m', .chunkIn hin⟩
    | error e =>
        refine ⟨m, .thrown hin ?_⟩
        rintro rfl
        exact hadmits (audioChunkIn_channelIndex hin)

/-- A chunk that fills the buffer passes the test on the free space, and storing it moves
the write pointer onto the read pointer. -/
theorem placeChunk_fills (tapeNumChannels : Int) {m : RtpMixer} (aligned : Aligned m)
    {chunk : AudioChunk} {timestamp : Nat} (hfills : m.FillsBuffer chunk timestamp) :
    (m.placeChunk tapeNumChannels chunk timestamp = m.storeRtpPacket chunk timestamp) ∧
      (m.stored chunk timestamp).usedSpace = 0 ∧
      (m.stored chunk timestamp).writeTimestamp - (m.stored chunk timestamp).readTimestamp =
        numSamplesCircularBuffer := by
  have hN : numSamplesCircularBuffer = 16000 := rfl
  obtain ⟨hsome, hnewer, hexact, hword⟩ := hfills
  have hwindow := aligned.window
  have hread := aligned.readPtr_lt
  obtain ⟨channels, history, buffer, -, hstored⟩ := m.stored_eq chunk timestamp
  have hturn : (m.stored chunk timestamp).writePtr = m.readPtr := by
    rw [hstored]
    simp only
    rw [aligned.writePtr, Ring.next_iterate (Ring.slot_lt hread hwindow.le) (by omega),
      Ring.slot_slot hread (by omega)]
    rw [show m.writeTimestamp - m.readTimestamp +
      (timestamp + chunk.numSamples - m.writeTimestamp) = numSamplesCircularBuffer by omega]
    exact Ring.slot_full _ _
  have hused : (m.stored chunk timestamp).usedSpace = 0 := by
    unfold usedSpace
    rw [hturn, hstored]
    simp
  refine ⟨?_, hused, by rw [hstored]; simp only; omega⟩
  have hfits : toInt32 (toU32 ((toU32 ((timestamp : Int) + chunk.numSamples) : Int) -
      m.writeTimestamp)) ≤ m.freeSpace := by
    unfold freeSpace toInt32 toU32
    rw [aligned.usedSpace]
    split_ifs <;> omega
  have hlate : toInt32 (toU32 ((m.writeTimestamp : Int) - timestamp)) ≤ m.usedSpace := by
    unfold toInt32 toU32
    rw [aligned.usedSpace]
    split_ifs <;> omega
  unfold placeChunk
  simp only
  rw [if_neg (by omega), if_pos hnewer, if_pos ⟨hfits, hlate⟩]
  cases hstore : m.storeRtpPacket chunk timestamp with
  | error e => rfl
  | ok mixed =>
      have hmixed : mixed.usedSpace = 0 := by
        rcases storeRtpPacket_cases hstore with ⟨-, hdismissed⟩ | ⟨-, -, rfl⟩
        · omega
        · exact hused
      simp only [bind, Except.bind, hmixed]
      rfl

/-- A chunk that fills the ring is stored, and `UsedSpace` then takes the full buffer for
an empty one. -/
theorem fillsRing_breaks {tapeNumChannels : Int} {m m' : RtpMixer} {chunk : AudioChunk}
    (aligned : Aligned m) (hfills : FillsRing tapeNumChannels m chunk)
    (hin : m.audioChunkIn tapeNumChannels (some chunk) = .ok m') :
    m'.usedSpace = 0 ∧ m'.writeTimestamp - m'.readTimestamp = numSamplesCircularBuffer := by
  obtain ⟨hadmits, hbuffer⟩ := hfills
  rw [audioChunkIn_admitted tapeNumChannels hadmits, bind_eq_ok] at hin
  obtain ⟨⟨corrected, chunk', timestamp⟩, hcorrect, hplace⟩ := hin
  obtain ⟨hsame, -, hcount, -, -⟩ := correctTimestamp_frame hcorrect
  have hsame' := (m.ensureChannels_untouched tapeNumChannels chunk).trans hsame
  have hfills' : corrected.FillsBuffer chunk' timestamp := by
    simp only [hcorrect] at hbuffer
    simpa only [FillsBuffer, hcount, hsame'.readTimestamp, hsame'.writeTimestamp] using hbuffer
  have haligned := aligned.untouched hsame'
  obtain ⟨hstores, hempty, hfull⟩ := placeChunk_fills tapeNumChannels haligned
    hfills'
  rw [hstores] at hplace
  rcases storeRtpPacket_cases hplace with ⟨-, hdismissed⟩ | ⟨-, -, rfl⟩
  · have hwindow := haligned.window
    obtain ⟨hsome, -, hexact, hword⟩ := hfills'
    omega
  · exact ⟨hempty, hfull⟩

/-- One sample at 1000 and then 160 samples that end at 17000: the buffer holds 16000
samples and `UsedSpace` is 0. -/
theorem pointers_disagree : ¬ ∀ (tapeNumChannels numOutputChannels : Int)
    (memory : Nat → Int16) (calls : List Call) (m : RtpMixer),
    Steps (Step tapeNumChannels) (fresh numOutputChannels memory) calls m → PointersAgree m := by
  intro agree
  have hN : numSamplesCircularBuffer = 16000 := rfl
  have haligned : Aligned afterOneSample := by
    have hstart := fresh_aligned 1 fun _ => 0
    rcases audioChunkIn_moves hstart (by decide) afterOneSample_eq with hmoves | ⟨c, hc, hbig, -⟩
    · exact hstart.moves hmoves
    · obtain rfl := Option.some.inj hc
      exact absurd hbig (by decide)
  have hfills : FillsRing 1 afterOneSample (silentChunk 16840 160) := by decide
  obtain ⟨m, hin⟩ := (haligned.bounded 1 rfl).takes hfills.1 (.inr rfl)
  have hdisagree := fillsRing_breaks haligned hfills hin
  have hagree := agree 1 1 (fun _ => 0) _ m
    (.cons (.chunkIn afterOneSample_eq) (.cons (.chunkIn hin) (.nil m)))
  have hfull := hagree.neverFull
  omega

end OrkAudio.RtpMixer
