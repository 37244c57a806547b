import OrkAudio.OggOpus.Model
import OrkAudio.Lib.Steps

/-! What the Opus encoder is handed, against the samples of the chunks.

`Carries` says that the encoded frames followed by the samples that are kept are all the
samples so far. The count of kept samples and the length of what is kept are two different
members; they differ after a chunk that does not fill a frame came upon kept samples. -/

namespace OrkAudio.OggOpusFile

open Lib

/-- A PCM chunk of at most 16000 samples, with two channel buffers for two channels. -/
structure WellFormed (chan : Nat) (chunk : AudioChunk) : Prop where
  pcm : chunk.details.encoding = .pcmAudio
  whole : chunk.details.numBytes.toNat = chunk.numSamples * 2
  size : chunk.numSamples ≤ 16000
  channels : chan = 2 → ∃ first second, chunk.channelAudio = [some first, some second]

/-- The samples `[start, start + count)` of a chunk, interleaved for two channels. -/
def samplesOf (chan : Nat) (chunk : AudioChunk) (start count : Nat) : List Int16 :=
  if chan = 2 then (List.range count).flatMap fun x =>
    chunk.channelAudio.map fun channel => (channel.getD fun _ => 0) (start + x)
  else Ring.slice chunk.buffer start count

/-- All samples that a call is given. -/
def given (chan : Nat) (input : Option AudioChunk) : List Int16 :=
  match input with
  | none => []
  | some chunk => samplesOf chan chunk 0 chunk.numSamples

theorem samplesOf_append (chan : Nat) (chunk : AudioChunk) (start first second : Nat) :
    samplesOf chan chunk start (first + second) =
      samplesOf chan chunk start first ++ samplesOf chan chunk (start + first) second := by
  unfold samplesOf
  split
  · rw [List.range_add, List.flatMap_append, List.flatMap_map]
    simp only [Nat.add_assoc]
  · exact Ring.slice_append _ _ _ _

section

variable {chan : Nat} {chunk : AudioChunk} (hchan : chan = 1 ∨ chan = 2)
  (wellFormed : WellFormed chan chunk)

include hchan wellFormed

theorem samplesOf_length (start count : Nat) :
    (samplesOf chan chunk start count).length = count * chan := by
  unfold samplesOf
  rcases hchan with rfl | rfl
  · simp
  · obtain ⟨first, second, hchannels⟩ := wellFormed.channels rfl
    simp [hchannels, List.length_flatMap]

theorem payload_eq (start count : Nat) :
    payload (chan == 2) chunk start count = .ok (samplesOf chan chunk start count) := by
  unfold payload samplesOf
  rcases hchan with rfl | rfl
  · rfl
  · obtain ⟨first, second, hchannels⟩ := wellFormed.channels rfl
    simp [interleave, hchannels]

theorem takesChannels_eq {f : OggOpusFile} (hf : f.chan = chan) :
    f.takesChannels chunk = (chan == 2) := by
  unfold takesChannels
  rw [hf]
  rcases hchan with rfl | rfl
  · simp
  · obtain ⟨first, second, hchannels⟩ := wellFormed.channels rfl
    simp [hchannels]

end

/-! ### The buffer for kept samples -/

/-- The file with other contents in the buffer for kept samples. -/
def setExtra (f : OggOpusFile) (stereo : Bool) (buf : Nat → Int16) : OggOpusFile :=
  if stereo then { f with extraStreoPcmBuf := buf } else { f with extraPcmBuf := buf }

section

variable (f : OggOpusFile) (stereo : Bool) (buf : Nat → Int16)

@[simp] theorem setExtra_extraBuf : (f.setExtra stereo buf).extraBuf stereo = buf := by
  cases stereo <;> rfl

@[simp] theorem setExtra_chan : (f.setExtra stereo buf).chan = f.chan := by
  cases stereo <;> rfl

@[simp] theorem setExtra_isOpen : (f.setExtra stereo buf).isOpen = f.isOpen := by
  cases stereo <;> rfl

@[simp] theorem setExtra_pcmBuf : (f.setExtra stereo buf).pcmBuf = f.pcmBuf := by
  cases stereo <;> rfl

@[simp] theorem setExtra_encoded : (f.setExtra stereo buf).encoded = f.encoded := by
  cases stereo <;> rfl

@[simp] theorem setExtra_extraPcmBufLen :
    (f.setExtra stereo buf).extraPcmBufLen = f.extraPcmBufLen := by
  cases stereo <;> rfl

@[simp] theorem setExtra_extraSamplesFromLastChunk :
    (f.setExtra stereo buf).extraSamplesFromLastChunk = f.extraSamplesFromLastChunk := by
  cases stereo <;> rfl

end

theorem writeExtra_eq {chan : Nat} (hchan : chan = 1 ∨ chan = 2) (f : OggOpusFile) {offset : Nat}
    {values : List Int16} (hroom : offset + values.length ≤ 160 * chan) :
    f.writeExtra (chan == 2) offset values =
      .ok (f.setExtra (chan == 2) (Buffer.written (f.extraBuf (chan == 2)) offset values)) := by
  unfold writeExtra
  rcases hchan with rfl | rfl
  · simp only [Nat.reduceBEq, Bool.false_eq_true, if_false]
    rw [Buffer.write_eq _ _ hroom]
    rfl
  · simp only [BEq.rfl, if_true]
    rw [Buffer.write_eq _ _ hroom]
    rfl

/-- Consecutive frames are one stretch of the buffer. -/
theorem flatMap_slice (buffer : Nat → Int16) (width count : Nat) :
    ((List.range count).flatMap fun j => Ring.slice buffer (j * width) width) =
      Ring.slice buffer 0 (count * width) := by
  induction count with
  | zero => simp [Ring.slice]
  | succ count ih =>
      rw [List.range_succ, List.flatMap_append, ih, List.flatMap_singleton, Nat.succ_mul,
        Ring.slice_append, Nat.zero_add]

/-- Zeros up to a whole number of frames. -/
def padded (width : Nat) (all : List Int16) : List Int16 :=
  all ++ List.replicate ((width - all.length % width) % width) 0

/-! ### The invariant -/

/-- The encoded frames and the samples kept are all the samples. `kept` counts the samples
that the buffer really holds, `m_extraSamplesFromLastChunk` may be more. -/
structure Carries (chan : Nat) (f : OggOpusFile) (kept : Nat) (all : List Int16) : Prop where
  channels : f.chan = chan
  isOpen : f.isOpen = true
  length : f.extraPcmBufLen = kept * (2 * chan)
  counted : kept ≤ f.extraSamplesFromLastChunk
  partFrame : kept < 160
  samples : f.encoded ++ Ring.slice (f.extraBuf (chan == 2)) 0 (kept * chan) = all
  frames : 160 * chan ∣ f.encoded.length

/-- Where the call reaches a whole frame, as many samples are counted as are kept. -/
def Regular (f : OggOpusFile) (input : Option AudioChunk) : Prop :=
  ∀ chunk ∈ input, chunk.details.numBytes ≠ 0 →
    pcmSamplesInFrame ≤ chunk.numSamples + f.extraSamplesFromLastChunk →
    f.extraSamplesFromLastChunk * (2 * f.chan) = f.extraPcmBufLen

theorem opened_carries {chan : Nat} (pcmBuf extraPcmBuf extraStreoPcmBuf : Nat → Int16) :
    Carries chan (opened chan pcmBuf extraPcmBuf extraStreoPcmBuf) 0 [] := by
  constructor <;> simp [opened, Ring.slice]

namespace Carries

variable {chan : Nat} {f : OggOpusFile} {kept : Nat} {all : List Int16}

theorem half_length (carries : Carries chan f kept all) : f.extraPcmBufLen / 2 = kept * chan := by
  rw [carries.length, Nat.mul_left_comm, Nat.mul_div_cancel_left _ Nat.zero_lt_two]

/-- A chunk that does not fill a frame is appended to what is kept. -/
theorem storeExtra (carries : Carries chan f kept all) (hchan : chan = 1 ∨ chan = 2)
    {chunk : AudioChunk} (wellFormed : WellFormed chan chunk)
    (hfew : chunk.numSamples + f.extraSamplesFromLastChunk < 160) :
    ∃ f', f.storeExtra (chan == 2) chunk (chunk.numSamples + f.extraSamplesFromLastChunk) =
        .ok f' ∧
      Carries chan f' (kept + chunk.numSamples) (all ++ samplesOf chan chunk 0 chunk.numSamples) := by
  have hcounted := carries.counted
  have hlength := samplesOf_length hchan wellFormed 0 chunk.numSamples
  have hroom : kept * chan + (samplesOf chan chunk 0 chunk.numSamples).length ≤ 160 * chan := by
    rw [hlength, ← Nat.add_mul]
    exact Nat.mul_le_mul_right chan (by omega)
  have hwhole := wellFormed.whole
  unfold OggOpusFile.storeExtra
  rw [payload_eq hchan wellFormed, carries.half_length]
  simp only [bind, Except.bind, writeExtra_eq hchan f hroom]
  refine ⟨_, rfl, ?_, ?_, ?_, ?_, ?_, ?_, ?_⟩
  · simpa using carries.channels
  · simpa using carries.isOpen
  · simp only [setExtra_extraPcmBufLen, carries.length]
    rcases hchan with rfl | rfl <;> simp <;> omega
  · simp only [setExtra_extraSamplesFromLastChunk]
    omega
  · omega
  · have hkept := Buffer.slice_written_append (f.extraBuf (chan == 2)) (kept * chan)
      (samplesOf chan chunk 0 chunk.numSamples)
    rw [hlength, ← Nat.add_mul] at hkept
    rw [← carries.samples, List.append_assoc, ← hkept, setExtra_encoded]
    congr 2
    exact setExtra_extraBuf f _ _
  · simpa using carries.frames

/-- After `fillMain` the main buffer starts with the samples of whole frames. -/
structure Filled (f f' : OggOpusFile) (front : List Int16) : Prop where
  channels : f'.chan = f.chan
  isOpen : f'.isOpen = f.isOpen
  encoded : f'.encoded = f.encoded
  length : f'.extraPcmBufLen = 0
  front : Ring.slice f'.pcmBuf 0 front.length = front

/-- The samples kept, if any, and the first ones of the chunk fill the frames. -/
theorem fillMain (carries : Carries chan f kept all) (hchan : chan = 1 ∨ chan = 2)
    {chunk : AudioChunk} (wellFormed : WellFormed chan chunk)
    (hcounted : f.extraSamplesFromLastChunk = kept) {pos full : Nat} (hfull : kept + pos = full)
    (hsize : full ≤ 16000) :
    ∃ f', f.fillMain (chan == 2) chunk pos full = .ok f' ∧
      Filled f f' (Ring.slice (f.extraBuf (chan == 2)) 0 (kept * chan) ++
        samplesOf chan chunk 0 pos) := by
  have hlength := samplesOf_length hchan wellFormed 0 pos
  have hmain : full * chan ≤ pcmBufSize := by
    calc full * chan ≤ 16000 * 2 := Nat.mul_le_mul hsize (by omega)
      _ = pcmBufSize := rfl
  have hsum : kept * chan + pos * chan = full * chan := by rw [← Nat.add_mul, hfull]
  unfold OggOpusFile.fillMain
  rw [hcounted, carries.half_length]
  split
  · have hzeros : 0 + (List.replicate (kept * chan) (0 : Int16)).length ≤ 160 * chan := by
      rw [List.length_replicate, Nat.zero_add]
      exact Nat.mul_le_mul_right chan (by have := carries.partFrame; omega)
    have hkept := Buffer.slice_written f.pcmBuf 0
      (Ring.slice (f.extraBuf (chan == 2)) 0 (kept * chan))
    rw [Ring.slice_length] at hkept
    rw [Buffer.write_eq _ _ (by rw [Ring.slice_length]; omega), payload_eq hchan wellFormed]
    simp only [bind, Except.bind]
    rw [Buffer.write_eq _ _ (by rw [hlength]; omega), writeExtra_eq hchan f hzeros]
    refine ⟨_, rfl, ?_, ?_, ?_, rfl, ?_⟩
    · exact setExtra_chan f _ _
    · exact setExtra_isOpen f _ _
    · exact setExtra_encoded f _ _
    · rw [List.length_append, Ring.slice_length, Buffer.slice_written_append, hkept]
  · have hnone : kept = 0 := by omega
    subst hnone
    rw [Nat.zero_add] at hfull
    subst hfull
    rw [payload_eq hchan wellFormed]
    simp only [bind, Except.bind]
    rw [Buffer.write_eq _ _ (by rw [hlength]; omega)]
    refine ⟨_, rfl, rfl, rfl, rfl, ?_, ?_⟩
    · simpa using carries.length
    · simpa [Ring.slice] using Buffer.slice_written f.pcmBuf 0 (samplesOf chan chunk 0 pos)

/-- After `keepRest` the buffer for kept samples starts with what is left of the chunk. -/
structure Rest (chan : Nat) (f f' : OggOpusFile) (extra : Nat) (rest : List Int16) : Prop where
  channels : f'.chan = f.chan
  isOpen : f'.isOpen = f.isOpen
  encoded : f'.encoded = f.encoded
  pcmBuf : f'.pcmBuf = f.pcmBuf
  length : f'.extraPcmBufLen = extra * (2 * chan)
  rest : Ring.slice (f'.extraBuf (chan == 2)) 0 (extra * chan) = rest

theorem keepRest {g : OggOpusFile} (hempty : g.extraPcmBufLen = 0)
    (hchan : chan = 1 ∨ chan = 2) {chunk : AudioChunk} (wellFormed : WellFormed chan chunk)
    (pos : Nat) {extra : Nat} (hextra : extra < 160) :
    ∃ f', g.keepRest (chan == 2) chunk pos extra = .ok f' ∧
      Rest chan g f' extra (samplesOf chan chunk pos extra) := by
  have hlength := samplesOf_length hchan wellFormed pos extra
  have hbytes : (if (chan == 2) = true then 4 else 2) = 2 * chan := by
    rcases hchan with rfl | rfl <;> rfl
  have hroom : 0 + (samplesOf chan chunk pos extra).length ≤ 160 * chan := by
    rw [hlength, Nat.zero_add]
    exact Nat.mul_le_mul_right chan (by omega)
  unfold OggOpusFile.keepRest
  split
  · rw [payload_eq hchan wellFormed]
    simp only [bind, Except.bind, writeExtra_eq hchan g hroom]
    refine ⟨_, rfl, ?_, ?_, ?_, ?_, ?_, ?_⟩
    · exact setExtra_chan g _ _
    · exact setExtra_isOpen g _ _
    · exact setExtra_encoded g _ _
    · exact setExtra_pcmBuf g _ _
    · simp only [setExtra_extraPcmBufLen, hempty, Nat.zero_add, hbytes]
    · rw [← hlength]
      exact (congrArg (Ring.slice · 0 _) (setExtra_extraBuf g _ _)).trans
        (Buffer.slice_written _ 0 _)
  · have hnone : extra = 0 := by omega
    subst hnone
    refine ⟨_, rfl, rfl, rfl, rfl, rfl, by simpa using hempty, ?_⟩
    rw [Nat.zero_mul] at hlength ⊢
    exact (List.length_eq_zero_iff.mp hlength).symm

end Carries

/-- Whole frames of a buffer are handed to the encoder as they stand there. -/
theorem encodeChunks_eq (f : OggOpusFile) (overrun : Overrun) {size : Nat} (pcmBuf : Nat → Int16)
    (numFrames : Nat) (hsize : numFrames * (160 * f.chan) ≤ size) :
    f.encodeChunks overrun size pcmBuf (numFrames * 160) =
      .ok { f with encoded := f.encoded ++ Ring.slice pcmBuf 0 (numFrames * (160 * f.chan)) } := by
  have hframes : numFrames * 160 / pcmSamplesInFrame = numFrames :=
    Nat.mul_div_cancel _ (by decide)
  unfold encodeChunks
  rw [hframes, if_pos hsize, flatMap_slice]

namespace Carries

variable {chan : Nat} {f : OggOpusFile} {kept : Nat} {all : List Int16}

/-- With as many samples counted as are kept, whole frames are encoded in order and the rest
is kept. -/
theorem writeFrames (carries : Carries chan f kept all) (hchan : chan = 1 ∨ chan = 2)
    {chunk : AudioChunk} (wellFormed : WellFormed chan chunk)
    (hcounted : f.extraSamplesFromLastChunk = kept) (hmany : 160 ≤ chunk.numSamples + kept) :
    ∃ f', f.writeFrames (chan == 2) chunk (chunk.numSamples + kept) = .ok f' ∧
      f'.extraSamplesFromLastChunk = (chunk.numSamples + kept) % 160 ∧
      Carries chan f' ((chunk.numSamples + kept) % 160)
        (all ++ samplesOf chan chunk 0 chunk.numSamples) := by
  have hpart := carries.partFrame
  have hsize := wellFormed.size
  have hwhole := wellFormed.whole
  generalize htotal : chunk.numSamples + kept = total at *
  have hextra : total % 160 < 160 := Nat.mod_lt _ (by decide)
  have hdivision : total / 160 * 160 + total % 160 = total := Nat.div_add_mod' total 160
  have hrest : total - total / 160 * 160 = total % 160 := by omega
  have hbytes : chunk.getNumBytes - (total % 160 * 2 : Nat) =
      ((chunk.numSamples - total % 160) * 2 : Nat) := by
    unfold AudioChunk.getNumBytes
    rw [hwhole, toInt32_of_lt (by omega)]
    omega
  have hpos : ((chunk.numSamples - total % 160) * 2 : Nat) / 2 = chunk.numSamples - total % 160 :=
    Nat.mul_div_cancel _ Nat.zero_lt_two
  have hfront : kept + (chunk.numSamples - total % 160) = total / 160 * 160 := by omega
  obtain ⟨g, hfill, filled⟩ := carries.fillMain hchan wellFormed hcounted hfront (by omega)
  obtain ⟨g', hkeep, rest⟩ :=
    keepRest filled.length hchan wellFormed (chunk.numSamples - total % 160) hextra
  have hsamples : samplesOf chan chunk 0 chunk.numSamples =
      samplesOf chan chunk 0 (chunk.numSamples - total % 160) ++
        samplesOf chan chunk (chunk.numSamples - total % 160) (total % 160) := by
    conv_lhs => rw [show chunk.numSamples = chunk.numSamples - total % 160 + total % 160 by omega]
    rw [samplesOf_append, Nat.zero_add]
  have hchannels : g'.chan = chan := by rw [rest.channels, filled.channels, carries.channels]
  have hencoded : g'.encoded = f.encoded := rest.encoded.trans filled.encoded
  have hwidth : total / 160 * (160 * chan) = (kept + (chunk.numSamples - total % 160)) * chan := by
    rw [hfront, Nat.mul_assoc]
  have hmain : Ring.slice g'.pcmBuf 0 (total / 160 * (160 * chan)) =
      Ring.slice (f.extraBuf (chan == 2)) 0 (kept * chan) ++
        samplesOf chan chunk 0 (chunk.numSamples - total % 160) := by
    have hfront := filled.front
    rw [List.length_append, Ring.slice_length, samplesOf_length hchan wellFormed, ← Nat.add_mul,
      ← hwidth] at hfront
    rw [rest.pcmBuf, hfront]
  unfold OggOpusFile.writeFrames
  simp only [hrest, hbytes, hpos, if_neg (Int.not_lt.mpr (Int.natCast_nonneg _)), Int.toNat_natCast,
    hfill, hkeep, bind, Except.bind]
  rw [encodeChunks_eq]
  · refine ⟨_, rfl, rfl, hchannels, ?_, rest.length, le_refl _, hextra, ?_, ?_⟩
    · exact (rest.isOpen.trans filled.isOpen).trans carries.isOpen
    · change g'.encoded ++ Ring.slice g'.pcmBuf 0 (total / 160 * (160 * g'.chan)) ++
        Ring.slice (g'.extraBuf (chan == 2)) 0 (total % 160 * chan) = _
      rw [hchannels, hmain, rest.rest, hencoded, ← carries.samples, hsamples]
      simp only [List.append_assoc]
    · change 160 * chan ∣
        (g'.encoded ++ Ring.slice g'.pcmBuf 0 (total / 160 * (160 * g'.chan))).length
      rw [hchannels, hencoded, List.length_append, Ring.slice_length]
      exact Nat.dvd_add carries.frames (Nat.dvd_mul_left _ _)
  · change total / 160 * (160 * g'.chan) ≤ pcmBufSize
    rw [hchannels, hwidth, hfront]
    calc total / 160 * 160 * chan ≤ 16000 * 2 := Nat.mul_le_mul (by omega) (by omega)
      _ = pcmBufSize := rfl

/-- The state after any number of regular calls, whatever the counts. -/
theorem writeChunk (carries : Carries chan f kept all) (hchan : chan = 1 ∨ chan = 2)
    {input : Option AudioChunk} (wellFormed : ∀ chunk ∈ input, WellFormed chan chunk)
    (regular : Regular f input) :
    ∃ f' kept', f.writeChunk input = .ok f' ∧ Carries chan f' kept' (all ++ given chan input) := by
  cases input with
  | none =>
      refine ⟨f, kept, rfl, ?_⟩
      simpa [given] using carries
  | some chunk =>
      have wellFormed := wellFormed chunk rfl
      unfold OggOpusFile.writeChunk
      simp only [carries.isOpen, Bool.true_eq_false, if_false,
        takesChannels_eq hchan wellFormed carries.channels]
      split
      · -- an empty chunk adds nothing
        have hzero : chunk.numSamples = 0 := by simp [AudioChunk.numSamples, *]
        have hnone : samplesOf chan chunk 0 chunk.numSamples = [] := by
          rw [← List.length_eq_zero_iff, samplesOf_length hchan wellFormed, hzero, Nat.zero_mul]
        refine ⟨f, kept, rfl, ?_⟩
        rwa [given, hnone, List.append_nil]
      · by_cases hfew : chunk.numSamples + f.extraSamplesFromLastChunk < pcmSamplesInFrame
        · obtain ⟨f', hstore, hcarries⟩ := carries.storeExtra hchan wellFormed hfew
          rw [if_pos hfew]
          exact ⟨f', _, hstore, hcarries⟩
        · have hmany := Nat.le_of_not_lt hfew
          have hequal := regular chunk rfl (by assumption) hmany
          rw [carries.channels, carries.length] at hequal
          have hcounted : f.extraSamplesFromLastChunk = kept :=
            Nat.eq_of_mul_eq_mul_right (by omega) hequal
          rw [hcounted] at hmany hfew ⊢
          obtain ⟨f', hwrite, -, hcarries⟩ := carries.writeFrames hchan wellFormed hcounted hmany
          rw [if_neg hfew]
          exact ⟨f', _, hwrite, hcarries⟩

/-- `Close` pads what is kept of one channel, and has nothing to do where nothing is kept. -/
theorem close (carries : Carries chan f kept all) (hchan : chan = 1 ∨ chan = 2)
    (hclose : chan = 1 ∨ f.extraPcmBufLen = 0) :
    ∃ f', f.close = .ok f' ∧ f'.encoded = padded (160 * chan) all := by
  have hsamples := carries.samples
  have hframes := carries.frames
  by_cases hnone : f.extraPcmBufLen = 0
  · have hkept : kept * chan = 0 := by rw [← carries.half_length, hnone]
    rw [hkept, Ring.slice, List.range_zero, List.map_nil, List.append_nil] at hsamples
    refine ⟨{ f with isOpen := false }, ?_, ?_⟩
    · simp [OggOpusFile.close, hnone, bind, Except.bind, pure, Except.pure]
    · rw [← hsamples, padded, Nat.mod_eq_zero_of_dvd hframes]
      simp
  · rcases hclose with rfl | hclose
    · have hpart := carries.partFrame
      have hlength := carries.length
      have hhalf := carries.half_length
      rw [Nat.mul_one] at hframes hhalf hlength hsamples
      have hpad : f.extraPcmBufLen < 320 * f.chan := by rw [carries.channels]; omega
      have hwidth : 160 * f.chan = 160 := by rw [carries.channels]
      have hroom : kept + (List.replicate (160 - kept) (0 : Int16)).length ≤ extraPcmBufSize := by
        rw [List.length_replicate, Nat.add_sub_cancel' (by omega)]
      have hframe := Buffer.slice_written_append f.extraPcmBuf kept (List.replicate (160 - kept) 0)
      rw [List.length_replicate, Nat.add_sub_cancel' (by omega)] at hframe
      have hwrite : f.writeExtra false kept (List.replicate (160 - kept) 0) = .ok { f with
          extraPcmBuf := Buffer.written f.extraPcmBuf kept (List.replicate (160 - kept) 0) } := by
        simp only [writeExtra, Bool.false_eq_true, if_false]
        rw [Buffer.write_eq _ _ hroom]
        rfl
      generalize Buffer.written f.extraPcmBuf kept (List.replicate (160 - kept) 0) = buf at *
      have hencode : { f with extraPcmBuf := buf }.encodeChunks .extraPcmBuf extraPcmBufSize buf
          pcmSamplesInFrame = .ok { f with
            extraPcmBuf := buf, encoded := f.encoded ++ Ring.slice buf 0 160 } := by
        have hone := encodeChunks_eq { f with extraPcmBuf := buf } .extraPcmBuf
          buf 1 (show 1 * (160 * f.chan) ≤ extraPcmBufSize by rw [carries.channels])
        simpa only [carries.channels, Nat.mul_one, Nat.one_mul] using hone
      refine ⟨{ f with extraPcmBuf := buf, encoded := f.encoded ++ Ring.slice buf 0 160
                       isOpen := false }, ?_, ?_⟩
      · unfold OggOpusFile.close
        rw [if_pos (by omega), if_pos hpad, hhalf, hwidth, hwrite]
        simp only [bind, Except.bind, hencode]
        rfl
      · have hrest : (160 - all.length % 160) % 160 = 160 - kept := by
          rw [← hsamples, List.length_append, Ring.slice_length, Nat.add_mod,
            Nat.mod_eq_zero_of_dvd hframes]
          omega
        rw [padded, Nat.mul_one, hrest, ← hsamples, List.append_assoc, hframe]
        rfl
    · exact absurd hclose hnone

/-- With two channels and samples kept, the padding leaves `m_extraPcmBuf`. -/
theorem close_overrun (carries : Carries 2 f kept all) (hkept : f.extraPcmBufLen ≠ 0) :
    f.close = .error .extraPcmBuf := by
  have hpart := carries.partFrame
  have hlength := carries.length
  have hhalf := carries.half_length
  have hpad : f.extraPcmBufLen < 320 * f.chan := by rw [carries.channels]; omega
  have hfull : ¬ kept * 2 + (List.replicate (160 * 2 - kept * 2) (0 : Int16)).length ≤
      extraPcmBufSize := by
    have hsize : extraPcmBufSize = 160 := rfl
    rw [List.length_replicate]
    omega
  unfold OggOpusFile.close
  rw [if_pos (by omega), if_pos hpad, hhalf, carries.channels]
  simp only [writeExtra, Bool.false_eq_true, if_false, Buffer.write, if_neg hfull]
  rfl

end Carries

/-! ### Runs -/

/-- One call of `WriteChunk` that stays inside the buffers. -/
inductive Step : OggOpusFile → Option AudioChunk → OggOpusFile → Prop
  | writeChunk {f f' : OggOpusFile} {input : Option AudioChunk}
      (hwrite : f.writeChunk input = .ok f') : Step f input f'

/-- A call with a well formed chunk, or none, that is regular. -/
def Admitted (chan : Nat) (f : OggOpusFile) (input : Option AudioChunk) : Prop :=
  (∀ chunk ∈ input, WellFormed chan chunk) ∧ Regular f input

/-- Every run of admitted calls carries the samples given so far. -/
theorem run_carries {chan : Nat} (hchan : chan = 1 ∨ chan = 2) {f f' : OggOpusFile}
    {inputs : List (Option AudioChunk)} (run : Steps (Guarded (Admitted chan) Step) f inputs f')
    {kept : Nat} {all : List Int16} (carries : Carries chan f kept all) :
    ∃ kept', Carries chan f' kept' (all ++ inputs.flatMap (given chan)) := by
  induction run generalizing kept all with
  | nil => exact ⟨kept, by simpa using carries⟩
  | cons first _ ih =>
      obtain ⟨⟨wellFormed, regular⟩, ⟨hwrite⟩⟩ := first
      obtain ⟨g, kept', hwritten, hcarries⟩ := carries.writeChunk hchan wellFormed regular
      rw [hwrite, Except.ok.injEq] at hwritten
      subst hwritten
      obtain ⟨kept'', hrest⟩ := ih hcarries
      refine ⟨kept'', ?_⟩
      rwa [List.flatMap_cons, ← List.append_assoc]

/-- Regular calls stay inside the buffers. The file is then closed with every sample encoded
once and in order exactly where it has one channel, or nothing is kept. -/
theorem every_sample_encoded {chan : Nat} (hchan : chan = 1 ∨ chan = 2)
    (pcmBuf extraPcmBuf extraStreoPcmBuf : Nat → Int16) {inputs : List (Option AudioChunk)}
    {f : OggOpusFile}
    (run : Steps (Guarded (Admitted chan) Step) (opened chan pcmBuf extraPcmBuf extraStreoPcmBuf)
      inputs f) :
    (∀ input, Admitted chan f input → Succeeds (f.writeChunk input)) ∧
      ((∃ f', f.close = .ok f' ∧
          f'.encoded = padded (160 * chan) (inputs.flatMap (given chan))) ↔
        chan = 1 ∨ f.extraPcmBufLen = 0) := by
  obtain ⟨kept, carries⟩ :=
    run_carries hchan run (opened_carries pcmBuf extraPcmBuf extraStreoPcmBuf)
  rw [List.nil_append] at carries
  refine ⟨?_, ?_, carries.close hchan⟩
  · rintro input ⟨wellFormed, regular⟩
    obtain ⟨f', _, hwrite, _⟩ := carries.writeChunk hchan wellFormed regular
    exact ⟨f', hwrite⟩
  · rintro ⟨f', hclose, -⟩
    by_contra hneither
    obtain ⟨hmono, hkept⟩ := not_or.mp hneither
    obtain rfl : chan = 2 := hchan.resolve_left hmono
    rw [carries.close_overrun hkept] at hclose
    cases hclose

/-- A chunk of so many samples counting up from zero. -/
def rampChunk (numSamples : Nat) : AudioChunk :=
  { details := { encoding := .pcmAudio, numBytes := UInt32.ofNat (numSamples * 2), channel := 1 }
    buffer := Int16.ofNat }

theorem rampChunk_wellFormed {numSamples : Nat} (hsize : numSamples ≤ 16000) :
    WellFormed 1 (rampChunk numSamples) := by
  have hbytes : (rampChunk numSamples).details.numBytes.toNat = numSamples * 2 := by
    simp only [rampChunk, UInt32.toNat_ofNat']
    omega
  have hcount : (rampChunk numSamples).numSamples = numSamples := by
    rw [AudioChunk.numSamples, hbytes, Nat.mul_div_cancel _ Nat.zero_lt_two]
  constructor
  · rfl
  · rw [hbytes, hcount]
  · rwa [hcount]
  · intro hchan
    cases hchan

/-- A file with one channel whose buffers hold zeros. -/
def blank : OggOpusFile := opened 1 (fun _ => 0) (fun _ => 0) (fun _ => 0)

/-- Two chunks that share a frame, and the file closed after them. -/
theorem every_sample_encoded_two_chunks :
    ∃ f f', Steps Step blank [some (rampChunk 100), some (rampChunk 70)] f ∧ f.close = .ok f' ∧
      f'.encoded = padded 160 ((rampChunk 100).samples ++ (rampChunk 70).samples) := by
  have hfirst : Admitted 1 blank (some (rampChunk 100)) := by
    refine ⟨?_, ?_⟩
    · rintro chunk ⟨⟩
      exact rampChunk_wellFormed (by decide)
    · rintro chunk ⟨⟩ - -
      rfl
  obtain ⟨f, hf⟩ : ∃ f, Steps (Guarded (Admitted 1) Step) blank
      [some (rampChunk 100), some (rampChunk 70)] f := by
    refine ⟨_, .cons ⟨hfirst, .writeChunk rfl⟩ (.cons ⟨⟨?_, ?_⟩, .writeChunk rfl⟩ (.nil _))⟩
    · rintro chunk ⟨⟩
      exact rampChunk_wellFormed (by decide)
    · rintro chunk ⟨⟩ - -
      rfl
  obtain ⟨-, hclose⟩ := every_sample_encoded (Or.inl rfl) _ _ _ hf
  obtain ⟨f', hclosed, hencoded⟩ := hclose.mpr (Or.inl rfl)
  refine ⟨f, f', hf.of_guarded, hclosed, ?_⟩
  rw [hencoded]
  rfl

/-- After chunks of 100 and of 50 samples, 250 are counted and 150 are kept: the next chunk
is copied with a negative length. -/
theorem small_chunks_overrun :
    ∃ f, Steps Step blank [some (rampChunk 100), some (rampChunk 50)] f ∧
      (∀ numSamples ∈ [100, 50, 10], WellFormed 1 (rampChunk numSamples)) ∧
      f.writeChunk (some (rampChunk 10)) = .error .chunk := by
  refine ⟨_, .cons (.writeChunk rfl) (.cons (.writeChunk rfl) (.nil _)), ?_, rfl⟩
  intro numSamples hmem
  apply rampChunk_wellFormed
  simp only [List.mem_cons, List.not_mem_nil, or_false] at hmem
  omega

end OrkAudio.OggOpusFile
