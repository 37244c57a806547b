import OrkAudio.Decoder.Bounds

/-! Whether a continuous stream of Opus or SILK packets is decoded completely.

Both decoders remember the last sequence number and timestamp, where zero stands for no packet
yet. The SILK decoder also takes the reset of a 16-bit sequence number for a gap. -/

namespace OrkAudio.Decoder

open Lib

variable {σ : Type}

/-! ### Streams -/

/-- The packets of a stream, each a step of 20 ms after the one before, with 16-bit sequence
numbers and 32-bit timestamps. `m` is the clock rate as a multiple of 8 kHz. -/
structure ContinuousStream (rtpPayloadType : Int) (m : UInt32) (chunk : Nat → AudioChunk) :
    Prop where
  payloadType : ∀ n, (chunk n).details.rtpPayloadType = rtpPayloadType
  encoding : ∀ n, (chunk n).details.encoding = .alawAudio
  numBytes : ∀ n, (chunk n).details.numBytes ≠ 0
  short : ∀ n, (chunk n).details.sequenceNumber.toNat < 65536
  sequenceNumber : ∀ n, (chunk (n + 1)).details.sequenceNumber.toNat =
    ((chunk n).details.sequenceNumber.toNat + 1) % 65536
  timestamp : ∀ n, (chunk (n + 1)).details.timestamp = (chunk n).details.timestamp + 160 * m

/-- The packet is taken for none once it is remembered. -/
def Forgotten (chunk : AudioChunk) : Prop :=
  chunk.details.sequenceNumber = 0 ∨ chunk.details.timestamp = 0

/-- The state after so many chunks, if every call returns. -/
def after {τ : Type} (step : τ → Option AudioChunk → Outcome τ) (start : τ)
    (chunk : Nat → AudioChunk) : Nat → Outcome τ
  | 0 => .returned start
  | n + 1 =>
      match after step start chunk n with
      | .returned f => step f (some (chunk n))
      | outcome => outcome

theorem after_succ {τ : Type} {step : τ → Option AudioChunk → Outcome τ} {start f : τ}
    {chunk : Nat → AudioChunk} {n : Nat} (hafter : after step start chunk n = .returned f) :
    after step start chunk (n + 1) = step f (some (chunk n)) := by
  rw [after, hafter]

/-- The last call has made the output. -/
def Filter.Produces (f : Filter σ) : Prop := ∃ out ∈ f.output, out.call = f.calls

theorem Filter.not_produces_none {f : Filter σ} (hnone : f.output = none) : ¬ f.Produces := by
  intro produces
  obtain ⟨out, hout, _⟩ := produces
  rw [hnone] at hout
  cases hout

/-- A chunk with audio, as the capture plugin hands it out. -/
structure Decodable (rtpPayloadType : Int) (chunk : AudioChunk) : Prop where
  payloadType : chunk.details.rtpPayloadType = rtpPayloadType
  encoding : chunk.details.encoding = .alawAudio
  numBytes : chunk.details.numBytes ≠ 0

theorem ContinuousStream.decodable {rtpPayloadType : Int} {m : UInt32} {chunk : Nat → AudioChunk}
    (stream : ContinuousStream rtpPayloadType m chunk) (n : Nat) :
    Decodable rtpPayloadType (chunk n) :=
  ⟨stream.payloadType n, stream.encoding n, stream.numBytes n⟩

theorem Decodable.getNumSamples? {rtpPayloadType : Int} {chunk : AudioChunk}
    (decodable : Decodable rtpPayloadType chunk) :
    chunk.getNumSamples? = some chunk.details.numBytes.toNat := by
  rw [AudioChunk.getNumSamples?, decodable.encoding]

theorem Decodable.numSamples_ne {rtpPayloadType : Int} {chunk : AudioChunk}
    (decodable : Decodable rtpPayloadType chunk) : chunk.details.numBytes.toNat ≠ 0 := by
  intro hzero
  exact decodable.numBytes (UInt32.toNat_inj.mp hzero)

/-- The payload as a whole can be read. -/
theorem readPayload_all (chunk : AudioChunk) :
    ∃ bytes, readPayload chunk 0 chunk.getNumBytes.toNat = .ok bytes := by
  have hbytes : chunk.getNumBytes.toNat ≤ chunk.details.numBytes.toNat := by
    rw [AudioChunk.getNumBytes, toInt32]
    have hlt := chunk.details.numBytes.toNat_lt
    omega
  rw [readPayload, if_pos (by omega)]
  exact ⟨_, rfl⟩

/-! ### Opus -/

/-- Every packet is decoded, into what the output buffer holds. -/
def DecodesOpus (codecs : Codecs σ) : Prop :=
  ∀ state bytes, 0 < (codecs.opusDecode state bytes opusMaxFrameSize).1.1 ∧
    (codecs.opusDecode state bytes opusMaxFrameSize).1.1 ≤ (opusMaxFrameSize / 2 : Nat)

section

variable {codecs : Codecs σ}

/-- A call that returns with the packet remembered. -/
structure OpusRemembers (chunk : AudioChunk) (f : OpusCodecDecoder σ) : Prop where
  initialized : f.initialized = false
  lastRtpSeq : f.lastRtpSeq = chunk.details.sequenceNumber
  lastRtpTs : f.lastRtpTs = chunk.details.timestamp

theorem adjustSampleRate_initialized (f : OpusCodecDecoder σ) (details : AudioChunkDetails) :
    (f.adjustSampleRate details).initialized = f.initialized := by
  rw [OpusCodecDecoder.adjustSampleRate]
  dsimp only
  split_ifs <;> rfl

/-- A packet gives an output unless the one before it is taken for none. -/
theorem opus_step (hdecodes : DecodesOpus codecs) {f : OpusCodecDecoder σ} {chunk : AudioChunk}
    (hinitialized : f.initialized = false) (decodable : Decodable ptOpus chunk) :
    ∃ f', opusCodecDecoder codecs f (some chunk) = .returned f' ∧ OpusRemembers chunk f' ∧
      (f'.toFilter.Produces ↔ ¬ (f.lastRtpSeq = 0 ∨ f.lastRtpTs = 0)) := by
  obtain ⟨bytes, hread⟩ := readPayload_all chunk
  rw [opusCodecDecoder]
  dsimp only
  rw [if_neg (by simp [hinitialized]), decodable.getNumSamples?]
  dsimp only
  rw [if_neg decodable.numSamples_ne, if_neg (not_not_intro decodable.payloadType)]
  by_cases hfirst : f.lastRtpSeq = 0 ∨ f.lastRtpTs = 0
  · rw [if_pos hfirst]
    exact ⟨_, rfl, ⟨hinitialized, rfl, rfl⟩,
      iff_of_false (Filter.not_produces_none rfl) (not_not_intro hfirst)⟩
  · rw [if_neg hfirst, opusDecodeChunk, hread, Outcome.checked]
    dsimp only
    have hfits := (hdecodes (OpusCodecDecoder.adjustSampleRate
      { f with output := none, calls := f.calls + 1 } chunk.details).codec bytes).2
    rw [if_neg (Int.not_lt.mpr hfits)]
    refine ⟨_, rfl, ⟨?_, rfl, rfl⟩, iff_of_true ⟨_, rfl, rfl⟩ hfirst⟩
    exact (adjustSampleRate_initialized _ _).trans hinitialized

/-- After each packet of a stream. -/
theorem opus_after (hdecodes : DecodesOpus codecs) (codec : σ) {m : UInt32}
    {chunk : Nat → AudioChunk} (stream : ContinuousStream ptOpus m chunk) (n : Nat) :
    ∃ f, after (opusCodecDecoder codecs) { codec := codec } chunk (n + 1) = .returned f ∧
      OpusRemembers (chunk n) f ∧
      (f.toFilter.Produces ↔ ∃ k, n = k + 1 ∧ ¬ Forgotten (chunk k)) := by
  induction n with
  | zero =>
      obtain ⟨f, hstep, remembers, hproduces⟩ := opus_step hdecodes
        (f := { codec := codec }) rfl (stream.decodable 0)
      refine ⟨f, hstep, remembers, ?_⟩
      rw [hproduces]
      exact iff_of_false (not_not_intro (.inl rfl)) (by simp)
  | succ n ih =>
      obtain ⟨f, hafter, remembers, _⟩ := ih
      obtain ⟨f', hstep, remembers', hproduces⟩ :=
        opus_step hdecodes remembers.initialized (stream.decodable (n + 1))
      refine ⟨f', (after_succ hafter).trans hstep, remembers', ?_⟩
      rw [hproduces, remembers.lastRtpSeq, remembers.lastRtpTs]
      simp [Forgotten]

end

/-! ### SILK -/

section

variable (codecs : Codecs σ)

/-- A call that returns with the packet remembered, at the clock rate of the stream or none. -/
structure SilkRemembers (m : UInt32) (chunk : AudioChunk) (f : SilkCodecDecoder σ) : Prop where
  initialized : f.initialized = true
  lastRtpSeq : f.lastRtpSeq = chunk.details.sequenceNumber
  lastRtpTs : f.lastRtpTs = chunk.details.timestamp
  multiplier : f.sampleRate8KhzMultiplier = -1 ∨ f.sampleRate8KhzMultiplier = m.toNat
  made : ∀ out ∈ f.output, out.call ≤ f.calls

/-- What a call does that has a packet to look at. -/
def silkLooks (f : SilkCodecDecoder σ) (chunk : AudioChunk) :
    Outcome (SilkCodecDecoder σ) :=
  if f.First then .returned { f.remember chunk.details with output := none }
  else if ¬ f.Coherent chunk.details then .returned (f.resynchronise chunk.details)
  else
    let f := { f with sampleRate8KhzMultiplier := f.multiplier chunk.details }
    if f.sampleRate8KhzMultiplier ≠ 1 ∧ f.sampleRate8KhzMultiplier ≠ 2 then .returned f
    else silkDecodeChunk codecs (f.remember chunk.details) chunk

theorem silk_enters {f : SilkCodecDecoder σ} {chunk : AudioChunk}
    (hinitialized : f.initialized = true) (decodable : Decodable ptSilk chunk) :
    silkCodecDecoder codecs f (some chunk) =
      silkLooks codecs { f with calls := f.calls + 1 } chunk := by
  rw [silkCodecDecoder]
  dsimp only
  rw [if_neg (by simp [hinitialized]), decodable.getNumSamples?]
  dsimp only
  rw [if_neg decodable.numSamples_ne, if_neg (not_not_intro decodable.payloadType)]
  rfl

/-- Over a reset the timestamps never advance as far as the sequence numbers seem to. -/
theorem reset_incoherent {timestamp rate : Nat} {multiplier : Int}
    (hlt : timestamp < 4294967296) (hrate : rate = 1 ∨ rate = 2)
    (hmultiplier : multiplier = -1 ∨ multiplier = rate) :
    (((((timestamp + 160 * rate) % 4294967296 : Nat) : Int) - timestamp).natAbs : Int) ≠
      (65535 : Nat) * multiplier * 160 := by
  have hadvance : (((((timestamp + 160 * rate) % 4294967296 : Nat) : Int) - timestamp).natAbs =
      160 * rate) ∨ ((((timestamp + 160 * rate) % 4294967296 : Nat) : Int) - timestamp).natAbs =
      4294967296 - 160 * rate := by
    omega
  rcases hrate with rfl | rfl
  · rcases hmultiplier with rfl | rfl <;> omega
  · rcases hmultiplier with rfl | rfl <;> omega

/-- The next packet of a stream is coherent unless its sequence number is reset. -/
theorem coherent_iff {m : UInt32} (hm : m = 1 ∨ m = 2) {f : SilkCodecDecoder σ}
    {details : AudioChunkDetails} (hshort : f.lastRtpSeq.toNat < 65536)
    (hmultiplier : f.sampleRate8KhzMultiplier = -1 ∨ f.sampleRate8KhzMultiplier = m.toNat)
    (hseq : details.sequenceNumber.toNat = (f.lastRtpSeq.toNat + 1) % 65536)
    (htimestamp : details.timestamp = f.lastRtpTs + 160 * m) :
    (f.Coherent details ↔ details.sequenceNumber ≠ 0) ∧
      (f.Coherent details → f.multiplier details = m.toNat) := by
  have hdelta : details.timestamp - f.lastRtpTs = 160 * m := by
    rw [htimestamp, UInt32.add_comm, UInt32.add_sub_cancel]
  by_cases hreset : f.lastRtpSeq.toNat = 65535
  · have hzero : details.sequenceNumber = 0 := by
      apply UInt32.toNat_inj.mp
      rw [hseq, hreset]
      rfl
    have hlast : f.lastRtpSeq = 65535 := UInt32.toNat_inj.mp hreset
    have hgap : ¬ f.Consecutive details := by
      rw [SilkCodecDecoder.Consecutive, hzero, hlast]
      decide
    have hincoherent : ¬ f.Coherent details := by
      rw [SilkCodecDecoder.Coherent, if_neg hgap, hzero, hlast, htimestamp, UInt32.toNat_add]
      have hlong : (((0 : UInt32).toNat : Int) - (65535 : UInt32).toNat).natAbs = 65535 := rfl
      have hstep : (160 * m).toNat = 160 * m.toNat := by rcases hm with rfl | rfl <;> rfl
      have hrate : m.toNat = 1 ∨ m.toNat = 2 := by
        rcases hm with rfl | rfl
        · exact .inl rfl
        · exact .inr rfl
      rw [hlong, hstep]
      exact reset_incoherent f.lastRtpTs.toNat_lt hrate hmultiplier
    exact ⟨iff_of_false hincoherent (not_not_intro hzero), fun h => absurd h hincoherent⟩
  · have hnext : details.sequenceNumber.toNat = f.lastRtpSeq.toNat + 1 := by omega
    have hconsecutive : f.Consecutive details := by
      rw [SilkCodecDecoder.Consecutive]
      apply UInt32.toNat_inj.mp
      rw [UInt32.toNat_sub]
      have hlt := details.sequenceNumber.toNat_lt
      simp only [UInt32.reduceToNat]
      omega
    have hne : details.sequenceNumber ≠ 0 := by
      intro hzero
      rw [hzero] at hnext
      simp at hnext
    have hcoherent : f.Coherent details := by
      rw [SilkCodecDecoder.Coherent, if_pos hconsecutive, hdelta]
      rcases hm with rfl | rfl
      · exact .inl rfl
      · exact .inr rfl
    refine ⟨iff_of_true hcoherent hne, fun _ => ?_⟩
    rw [SilkCodecDecoder.multiplier, if_pos hconsecutive, hdelta]
    rcases hm with rfl | rfl
    · rfl
    · rfl

/-- The very first packet, or one after a packet that is taken for none. -/
theorem silkLooks_first {m : UInt32} {f : SilkCodecDecoder σ} {chunk : AudioChunk}
    (hinitialized : f.initialized = true)
    (hmultiplier : f.sampleRate8KhzMultiplier = -1 ∨ f.sampleRate8KhzMultiplier = m.toNat)
    (hfirst : f.First) :
    ∃ f', silkLooks codecs f chunk = .returned f' ∧ SilkRemembers m chunk f' ∧
      ¬ f'.toFilter.Produces := by
  rw [silkLooks, if_pos hfirst]
  refine ⟨_, rfl, ⟨hinitialized, rfl, rfl, hmultiplier, ?_⟩, Filter.not_produces_none rfl⟩
  intro out hout
  cases hout

/-- Every other packet gives an output unless its sequence number is reset. -/
theorem silkLooks_next {m : UInt32} (hm : m = 1 ∨ m = 2) {f : SilkCodecDecoder σ}
    {chunk : AudioChunk} (hfirst : ¬ f.First) (hinitialized : f.initialized = true)
    (hmultiplier : f.sampleRate8KhzMultiplier = -1 ∨ f.sampleRate8KhzMultiplier = m.toNat)
    (hearlier : ∀ out ∈ f.output, out.call < f.calls) (hshort : f.lastRtpSeq.toNat < 65536)
    (hseq : chunk.details.sequenceNumber.toNat = (f.lastRtpSeq.toNat + 1) % 65536)
    (htimestamp : chunk.details.timestamp = f.lastRtpTs + 160 * m) :
    ∃ f', silkLooks codecs f chunk = .returned f' ∧ SilkRemembers m chunk f' ∧
      (f'.toFilter.Produces ↔ chunk.details.sequenceNumber ≠ 0) := by
  obtain ⟨hcoherent, hrate⟩ := coherent_iff hm hshort hmultiplier hseq htimestamp
  rw [silkLooks, if_neg hfirst]
  by_cases hzero : chunk.details.sequenceNumber = 0
  · -- the output of an earlier call is left
    rw [if_pos fun h => hcoherent.mp h hzero]
    refine ⟨_, rfl, ⟨hinitialized, rfl, rfl, .inl rfl, ?_⟩,
      iff_of_false ?_ (not_not_intro hzero)⟩
    · intro out hout
      exact Nat.le_of_lt (hearlier out hout)
    · intro produces
      obtain ⟨out, hout, hcall⟩ := produces
      exact absurd hcall (Nat.ne_of_lt (hearlier out hout))
  · have hcoherent := hcoherent.mpr hzero
    have hsupported : ¬ ((m.toNat : Int) ≠ 1 ∧ (m.toNat : Int) ≠ 2) := by
      rcases hm with rfl | rfl <;> simp
    obtain ⟨bytes, hread⟩ := readPayload_all chunk
    rw [if_neg (not_not_intro hcoherent)]
    dsimp only
    rw [hrate hcoherent, if_neg hsupported, silkDecodeChunk, hread, Outcome.checked]
    refine ⟨_, rfl, ⟨hinitialized, rfl, rfl, .inr rfl, ?_⟩, iff_of_true ⟨_, rfl, rfl⟩ hzero⟩
    intro out hout
    obtain rfl := Option.some.inj hout
    exact Nat.le_refl _

/-- The next packet of a stream. -/
theorem silk_step {m : UInt32} (hm : m = 1 ∨ m = 2) {f : SilkCodecDecoder σ}
    {last chunk : AudioChunk} (remembers : SilkRemembers m last f)
    (decodable : Decodable ptSilk chunk) (hshort : last.details.sequenceNumber.toNat < 65536)
    (hseq : chunk.details.sequenceNumber.toNat =
      (last.details.sequenceNumber.toNat + 1) % 65536)
    (htimestamp : chunk.details.timestamp = last.details.timestamp + 160 * m) :
    ∃ f', silkCodecDecoder codecs f (some chunk) = .returned f' ∧ SilkRemembers m chunk f' ∧
      (f'.toFilter.Produces ↔ ¬ Forgotten last ∧ chunk.details.sequenceNumber ≠ 0) := by
  have hforgotten : f.First ↔ Forgotten last := by
    rw [SilkCodecDecoder.First, remembers.lastRtpSeq, remembers.lastRtpTs, Forgotten]
  rw [silk_enters codecs remembers.initialized decodable]
  by_cases hfirst : f.First
  · obtain ⟨f', hstep, remembers', hnothing⟩ := silkLooks_first codecs
      (f := { f with calls := f.calls + 1 }) remembers.initialized remembers.multiplier hfirst
    exact ⟨f', hstep, remembers', iff_of_false hnothing fun h => h.1 (hforgotten.mp hfirst)⟩
  · rw [← remembers.lastRtpSeq] at hshort hseq
    rw [← remembers.lastRtpTs] at htimestamp
    obtain ⟨f', hstep, remembers', hproduces⟩ := silkLooks_next codecs hm
      (f := { f with calls := f.calls + 1 }) hfirst remembers.initialized remembers.multiplier
      (fun out hout => Nat.lt_succ_of_le (remembers.made out hout)) hshort hseq htimestamp
    refine ⟨f', hstep, remembers', hproduces.trans ?_⟩
    exact (and_iff_right fun h => hfirst (hforgotten.mpr h)).symm

theorem silk_after (codec : σ) {m : UInt32} (hm : m = 1 ∨ m = 2) {chunk : Nat → AudioChunk}
    (stream : ContinuousStream ptSilk m chunk) (n : Nat) :
    ∃ f, after (silkCodecDecoder codecs) { codec := codec } chunk (n + 1) = .returned f ∧
      SilkRemembers m (chunk n) f ∧
      (f.toFilter.Produces ↔ (∃ k, n = k + 1 ∧ ¬ Forgotten (chunk k)) ∧
        (chunk n).details.sequenceNumber ≠ 0) := by
  induction n with
  | zero =>
      obtain ⟨f, hstep, remembers, hnothing⟩ := silkLooks_first codecs (m := m)
        (f := { codec := codec, calls := 1 }) rfl (.inl rfl) (.inl rfl)
      refine ⟨f, ?_, remembers, iff_of_false hnothing (by simp)⟩
      exact (silk_enters codecs (f := { codec := codec }) rfl (stream.decodable 0)).trans hstep
  | succ n ih =>
      obtain ⟨f, hafter, remembers, _⟩ := ih
      obtain ⟨f', hstep, remembers', hproduces⟩ := silk_step codecs hm remembers
        (stream.decodable (n + 1)) (stream.short n) (stream.sequenceNumber n) (stream.timestamp n)
      refine ⟨f', (after_succ hafter).trans hstep, remembers', ?_⟩
      rw [hproduces]
      simp

end

/-! ### Whole streams -/

/-- The call with the packet `n` returns with an output of its own. -/
def DecodesAt {τ : Type} (filter : τ → Filter σ) (outcome : Nat → Outcome τ) (n : Nat) : Prop :=
  ∃ f, outcome (n + 1) = .returned f ∧ (filter f).Produces

theorem decodesAt_iff {τ : Type} {filter : τ → Filter σ} {outcome : Nat → Outcome τ} {n : Nat}
    {f : τ} (hreturned : outcome (n + 1) = .returned f) :
    DecodesAt filter outcome n ↔ (filter f).Produces := by
  constructor
  · intro ⟨f', hreturned', produces⟩
    obtain rfl := Outcome.returned.inj (hreturned'.symm.trans hreturned)
    exact produces
  · intro produces
    exact ⟨f, hreturned, produces⟩

/-- A stream of Opus packets, or of SILK packets at 8 or 16 kHz, is decoded completely but for
what its beginning takes exactly if no packet is taken for none and no sequence number is
reset. -/
theorem continuous_decoded_iff {codecs : Codecs σ} (hdecodes : DecodesOpus codecs) (codec : σ) :
    (∀ (chunk : Nat → AudioChunk) (length : Nat), ContinuousStream ptOpus 6 chunk →
      ((∀ n, 1 ≤ n → n < length → DecodesAt OpusCodecDecoder.toFilter
          (after (opusCodecDecoder codecs) { codec := codec } chunk) n) ↔
        ∀ n, n + 1 < length → ¬ Forgotten (chunk n))) ∧
    (∀ (m : UInt32) (chunk : Nat → AudioChunk) (length : Nat), m = 1 ∨ m = 2 →
      ContinuousStream ptSilk m chunk →
      ((∀ n, 2 ≤ n → n < length → DecodesAt SilkCodecDecoder.toFilter
          (after (silkCodecDecoder codecs) { codec := codec } chunk) n) ↔
        ∀ n, 1 ≤ n → n + 1 < length →
          ¬ Forgotten (chunk n) ∧ (chunk (n + 1)).details.sequenceNumber ≠ 0)) := by
  constructor
  · intro chunk length stream
    have hat (n : Nat) : DecodesAt OpusCodecDecoder.toFilter
        (after (opusCodecDecoder codecs) { codec := codec } chunk) (n + 1) ↔
        ¬ Forgotten (chunk n) := by
      obtain ⟨f, hafter, _, hproduces⟩ := opus_after hdecodes codec stream (n + 1)
      rw [decodesAt_iff hafter, hproduces]
      simp
    constructor
    · intro hall n hn
      exact (hat n).mp (hall (n + 1) (Nat.le_add_left 1 n) hn)
    · intro hall n hfirst hn
      obtain ⟨k, rfl⟩ := Nat.exists_eq_add_of_le' hfirst
      exact (hat k).mpr (hall k hn)
  · intro m chunk length hm stream
    have hat (n : Nat) : DecodesAt SilkCodecDecoder.toFilter
        (after (silkCodecDecoder codecs) { codec := codec } chunk) (n + 1) ↔
        ¬ Forgotten (chunk n) ∧ (chunk (n + 1)).details.sequenceNumber ≠ 0 := by
      obtain ⟨f, hafter, _, hproduces⟩ := silk_after codecs codec hm stream (n + 1)
      rw [decodesAt_iff hafter, hproduces]
      simp
    constructor
    · intro hall n hfirst hn
      exact (hat n).mp (hall (n + 1) (Nat.succ_le_succ hfirst) hn)
    · intro hall n hfirst hn
      obtain ⟨k, rfl⟩ := Nat.exists_eq_add_of_le' (Nat.le_of_succ_le hfirst)
      exact (hat k).mpr (hall k (Nat.le_of_succ_le_succ hfirst) hn)

/-! #### Streams of short packets -/

theorem silentCodecs_decodes : DecodesOpus silentCodecs := by
  intro state bytes
  simp [silentCodecs]

/-- The stream that begins with this sequence number and timestamp. -/
def streamFrom (rtpPayloadType : Int) (m : UInt32) (sequenceNumber : Nat) (timestamp : UInt32)
    (n : Nat) : AudioChunk :=
  { AudioChunk.plain with
    details := { AudioChunk.plain.details with
      rtpPayloadType := rtpPayloadType
      encoding := .alawAudio
      numBytes := 4
      sequenceNumber := UInt32.ofNat ((sequenceNumber + n) % 65536)
      timestamp := timestamp + 160 * m * UInt32.ofNat n } }

theorem streamFrom_continuous (rtpPayloadType : Int) (m : UInt32) (sequenceNumber : Nat)
    (timestamp : UInt32) :
    ContinuousStream rtpPayloadType m
      (streamFrom rtpPayloadType m sequenceNumber timestamp) where
  payloadType _ := rfl
  encoding _ := rfl
  numBytes _ := by simp [streamFrom]
  short n := by
    rw [streamFrom, UInt32.toNat_ofNat_of_lt' (by simp [UInt32.size]; omega)]
    omega
  sequenceNumber n := by
    rw [streamFrom, streamFrom, UInt32.toNat_ofNat_of_lt' (by simp [UInt32.size]; omega),
      UInt32.toNat_ofNat_of_lt' (by simp [UInt32.size]; omega)]
    omega
  timestamp n := by
    simp only [streamFrom, UInt32.ofNat_add]
    rw [UInt32.mul_add, UInt32.add_assoc]
    simp

theorem continuous_decoded_short :
    (∀ n, 1 ≤ n → n < 4 → DecodesAt OpusCodecDecoder.toFilter
      (after (opusCodecDecoder silentCodecs) { codec := () } (streamFrom ptOpus 6 1 960)) n) ∧
    (∀ n, 2 ≤ n → n < 4 → DecodesAt SilkCodecDecoder.toFilter
      (after (silkCodecDecoder silentCodecs) { codec := () } (streamFrom ptSilk 2 1 320)) n) := by
  obtain ⟨hopus, hsilk⟩ := continuous_decoded_iff silentCodecs_decodes ()
  constructor
  · apply (hopus _ 4 (streamFrom_continuous ptOpus 6 1 960)).mpr
    intro n hn
    have hcases : n = 0 ∨ n = 1 ∨ n = 2 := by omega
    rcases hcases with rfl | rfl | rfl <;> (rw [Forgotten]; decide)
  · apply (hsilk 2 _ 4 (.inr rfl) (streamFrom_continuous ptSilk 2 1 320)).mpr
    intro n hfirst hn
    have hcases : n = 1 ∨ n = 2 := by omega
    rcases hcases with rfl | rfl <;> (rw [Forgotten]; decide)

/-- The packet after the one with sequence number 0 is dropped. -/
theorem packet_after_wrap_dropped :
    ¬ ((∀ (chunk : Nat → AudioChunk) (length : Nat), ContinuousStream ptOpus 6 chunk →
        ∀ n, 1 ≤ n → n < length → DecodesAt OpusCodecDecoder.toFilter
          (after (opusCodecDecoder silentCodecs) { codec := () } chunk) n) ∧
      (∀ (m : UInt32) (chunk : Nat → AudioChunk) (length : Nat), m = 1 ∨ m = 2 →
        ContinuousStream ptSilk m chunk →
        ∀ n, 2 ≤ n → n < length → DecodesAt SilkCodecDecoder.toFilter
          (after (silkCodecDecoder silentCodecs) { codec := () } chunk) n)) := by
  intro hall
  have stream := streamFrom_continuous ptOpus 6 65535 960
  have hdecoded := hall.1 _ 3 stream 2 (by decide) (by decide)
  obtain ⟨f, hafter, _, hproduces⟩ := opus_after silentCodecs_decodes () stream 2
  rw [decodesAt_iff hafter, hproduces] at hdecoded
  obtain ⟨k, hk, hremembered⟩ := hdecoded
  obtain rfl : k = 1 := by omega
  exact hremembered (.inl (by decide))

end OrkAudio.Decoder
