import OrkAudio.BatchProcessing.Loop
import OrkAudio.Decoder.Batch

/-! The main output file of a VoIP session gets all that the mixer emits.

Outside a session nothing is written at all: the gain filter is handed the temporary chunk that
nothing has set, so a plain PCM file is complete only when it has no samples. -/

namespace OrkAudio.BatchProcessing

open Lib Batch RtpMixer

variable {σ : Type} {codecs : Decoder.Codecs σ} {cfg : Config}

/-! ### The flush -/

/-- The end of the stream makes a mixer emit what it still has. -/
theorem emitted_eos {tapeNumChannels : Int} (twoChannels : Bool) {start m : RtpMixer}
    {inputs : List (Option AudioChunk)} (bounded : Bounded tapeNumChannels start)
    (hrun : chunksIn tapeNumChannels start inputs = .ok m) :
    ∃ last, last.length = (if m.error then 0 else m.usedSpace) ∧
      emitted tapeNumChannels twoChannels start inputs =
        some (m.outputQueue.flatMap (frames twoChannels)) ∧
      emitted tapeNumChannels twoChannels start (inputs ++ [some eosChunk]) =
        some (m.outputQueue.flatMap (frames twoChannels) ++ last) := by
  have hfront : emitted tapeNumChannels twoChannels start inputs =
      some (m.outputQueue.flatMap (frames twoChannels)) := by
    rw [emitted, hrun]
    rfl
  by_cases herror : m.error = true
  · have hin : m.audioChunkIn tapeNumChannels (some eosChunk) = .ok m := by
      rw [audioChunkIn, if_pos herror]
    refine ⟨[], by rw [if_pos herror]; rfl, hfront, ?_⟩
    rw [emitted, chunksIn_concat hrun hin, List.append_nil]
    rfl
  · have hin : m.audioChunkIn tapeNumChannels (some eosChunk) =
        .ok (m.createShipment tapeNumChannels 0 true) := by
      rw [audioChunkIn, if_neg herror]
      rfl
    obtain ⟨shipped, hcount, hqueue⟩ := createShipment_count tapeNumChannels
      (chunksIn_bounded bounded hrun)
    refine ⟨shipped.flatMap (frames twoChannels), ?_, hfront, ?_⟩
    · rw [if_neg herror, length_flatMap_samples (frames_length twoChannels), hcount]
    · rw [emitted, chunksIn_concat hrun hin]
      simp only [Except.toOption, Option.map_some, hqueue, List.flatMap_append]

/-- A mixer that was handed nothing has nothing for the end of the stream. -/
theorem emitted_fresh (tapeNumChannels : Int) (twoChannels : Bool) (numOutputChannels : Int)
    (memory : Nat → Int16) :
    emitted tapeNumChannels twoChannels (fresh numOutputChannels memory) [some eosChunk] =
      some [] := by
  obtain ⟨last, hlength, -, hlast⟩ := emitted_eos twoChannels
    (fresh_bounded tapeNumChannels numOutputChannels memory)
    (show chunksIn tapeNumChannels (fresh numOutputChannels memory) [] = .ok _ from rfl)
  rw [List.nil_append] at hlast
  rw [hlast, List.length_eq_zero_iff.mp hlength]
  rfl

variable {s s' : State σ} {fed : List (Option AudioChunk)}

/-- The main file after the flush. -/
def MainWritten (cfg : Config) (fed : List (Option AudioChunk)) (s : State σ) : Prop :=
  ∃ handed, fed.mapM (audioGain cfg) = some handed ∧
    emitted cfg.tapeNumChannels cfg.stereoRecording (State.mixer cfg)
      (handed ++ [some eosChunk]) = some (fileFrames cfg.stereoRecording s.outFile)

/-- The part after the loop that drains the main mixer. -/
theorem Mixed.flush_main {m m' : RtpMixer} (mixed : Mixed cfg s fed m) {fuel : Nat}
    (hin : m.audioChunkIn cfg.tapeNumChannels (some eosChunk) = .ok m')
    (hdrain : State.drain fuel (m'.audioChunkOut.1.map State.markEos) m'.audioChunkOut.2 s =
      some s') :
    MainWritten cfg fed s' ∧
      s'.numSamplesOut = (fileFrames cfg.stereoRecording s'.outFile).length ∧
      s'.rtpMixerSecondary = s.rtpMixerSecondary ∧
      s'.outFileSecondary = s.outFileSecondary := by
  have took := drain_took cfg.stereoRecording
    (fun hnone => audioChunkOut_none (Option.map_eq_none_iff.mp hnone)) hdrain
  have hmarked : (m'.audioChunkOut.1.map State.markEos).toList.flatMap
      (frames cfg.stereoRecording) =
      m'.audioChunkOut.1.toList.flatMap (frames cfg.stereoRecording) := by
    cases m'.audioChunkOut.1 with
    | none => rfl
    | some chunk => simp
  obtain ⟨handed, hgain, passed⟩ := mixed.main
  refine ⟨⟨handed, hgain, ?_⟩, ?_, took.rtpMixerSecondary, took.outFileSecondary⟩
  · rw [(passed.pass hin).emitted, took.frames, hmarked, List.append_assoc]
  · rw [took.count, took.frames, mixed.count]
    simp only [List.length_append]

/-- What the loop handed to the main mixer is written when the run is over. -/
theorem Fed.flush_main (hfed : Fed cfg s fed) (hflush : s.flush cfg = some s') :
    MainWritten cfg fed s' ∧
      s'.numSamplesOut = (fileFrames cfg.stereoRecording s'.outFile).length := by
  rw [State.flush] at hflush
  rcases hfed with ⟨rfl, unmixed⟩ | ⟨m, mixed⟩
  · split_ifs at hflush
    · obtain ⟨m, hm, -⟩ := Option.bind_eq_some_iff.mp hflush
      rw [unmixed.rtpMixer] at hm
      cases hm
    · cases hflush
      refine ⟨⟨[], rfl, ?_⟩, by rw [unmixed.count, unmixed.frames]; rfl⟩
      rw [unmixed.frames]
      exact emitted_fresh _ _ _ _
  · rw [if_pos (by simp [mixed.voIpSession, mixed.firstChunk])] at hflush
    obtain ⟨_, hm, hrest⟩ := Option.bind_eq_some_iff.mp hflush
    cases hm.symm.trans mixed.rtpMixer
    obtain ⟨m', hin, hdrains⟩ := Option.bind_eq_some_iff.mp hrest
    obtain ⟨drained, hdrain, hlast⟩ := Option.bind_eq_some_iff.mp hdrains
    obtain ⟨written, hcount, -, -⟩ := mixed.flush_main (toOption_eq_some hin) hdrain
    split at hlast
    · cases hlast
      exact ⟨written, hcount⟩
    · obtain ⟨-, hfile, hsame⟩ := drainSecondary_frames true audioChunkOut_none hlast
      rw [MainWritten, hfile, hsame]
      exact ⟨written, hcount⟩

/-! ### Whole files -/

/-- A chunk that is not skipped has the payload type of a codec. -/
def IsVoIp (inputs : List Input) : Prop :=
  ∃ chunk, (none, chunk) ∈ inputs ∧ 0 ≤ chunk.details.rtpPayloadType ∧
    chunk.details.rtpPayloadType < rtpPayloadTypeMax

/-- A plain PCM capture. -/
def IsPlain (inputs : List Input) : Prop :=
  ∀ input ∈ inputs, input.2.details.rtpPayloadType = -1

/-- The chunks that are not skipped, each on the channel that the loop gives it. -/
def kept : Bool → List Input → List AudioChunk
  | _, [] => []
  | forceChannel1, (some channelToSkip, _) :: inputs =>
      kept (forceChannel1 || channelToSkip == 1) inputs
  | forceChannel1, (none, chunk) :: inputs =>
      forced forceChannel1 chunk :: kept forceChannel1 inputs

/-- The samples of a chunk after the gain. -/
def gainedFrames (cfg : Config) (chunk : AudioChunk) : List (List Int16) :=
  (audioGain cfg (some chunk)).join.toList.flatMap (frames cfg.stereoRecording)

/-- The main output file has all the samples of the capture file. -/
structure Complete (cfg : Config) (codecs : Decoder.Codecs σ)
    (decoders : Side → Int → Option (Decoder σ)) (inputs : List Input) (s : State σ) : Prop where
  voIp : IsVoIp inputs → ∃ decoded,
    decodedChunks codecs { decoders := decoders } inputs = some decoded ∧
      MainWritten cfg decoded s
  plain : IsPlain inputs → fileFrames cfg.stereoRecording s.outFile =
    (kept false inputs).flatMap (gainedFrames cfg)
  count : s.numSamplesOut = (fileFrames cfg.stereoRecording s.outFile).length

theorem run_main {decoders : Side → Int → Option (Decoder σ)} {inputs : List Input}
    (hrun : run cfg codecs decoders inputs = some s) :
    ∃ decoded, decodedChunks codecs { decoders := decoders } inputs = some decoded ∧
      MainWritten cfg decoded s ∧
      s.numSamplesOut = (fileFrames cfg.stereoRecording s.outFile).length := by
  obtain ⟨looped, hloop, hflush⟩ := Option.bind_eq_some_iff.mp hrun
  have hstart : Fed cfg { decoding := { decoders := decoders } } [] := .inl ⟨rfl, .start _⟩
  obtain ⟨decoded, hdecoded, hfed⟩ := hstart.run hloop
  exact ⟨decoded, hdecoded, hfed.flush_main hflush⟩

/-- Outside a session no decoder is called. -/
theorem decodedChunks_plain {s : Decoding σ} {inputs : List Input}
    (hplain : IsPlain inputs) (hsession : s.voIpSession = false) :
    decodedChunks codecs s inputs = some [] := by
  induction inputs generalizing s with
  | nil => rfl
  | cons input inputs ih =>
      obtain ⟨hfirst, hrest⟩ := List.forall_mem_cons.mp hplain
      obtain ⟨skipped, chunk⟩ := input
      have hforced : (forced s.forceChannel1 chunk).details.rtpPayloadType = -1 := by
        rw [forced]
        split_ifs <;> exact hfirst
      have hstage : ∃ stage, s.iterate codecs (skipped, chunk) = some stage ∧
          stage.outputs = [] ∧ stage.decoding.voIpSession = false := by
        cases skipped with
        | some channelToSkip => exact ⟨_, rfl, rfl, hsession⟩
        | none =>
            refine ⟨.plain s, ?_, rfl, hsession⟩
            rw [Decoding.iterate]
            simp [hforced, hsession, rtpPayloadTypeMax]
      obtain ⟨stage, hiterate, hnone, hsession'⟩ := hstage
      rw [decodedChunks, hiterate]
      simp [hnone, ih hrest hsession']

theorem gainedFrames_length (chunk : AudioChunk) :
    (gainedFrames cfg chunk).length = chunk.getNumSamples?.getD 0 := by
  rw [gainedFrames, audioGain]
  cases hsamples : chunk.getNumSamples? with
  | none => rfl
  | some numSamples =>
      dsimp only
      split_ifs with hnone
      · simp [hnone]
      · have hsome : chunk.details.numBytes ≠ 0 := by
          intro hempty
          apply hnone
          rw [AudioChunk.getNumSamples?, hempty] at hsamples
          cases hencoding : chunk.details.encoding <;> rw [hencoding] at hsamples <;>
            cases hsamples <;> rfl
        have hdetails : (gained cfg numSamples chunk).details = chunk.details := by
          rw [gained]
          split_ifs
          · rw [AudioChunk.setBuffer, if_neg hsome]
          · rfl
        have hcount : (gained cfg numSamples chunk).getNumSamples? = some numSamples := by
          rw [← hsamples, AudioChunk.getNumSamples?, hdetails]
          rfl
        simp [hcount]

theorem kept_length (cfg : Config) (forceChannel1 : Bool) (inputs : List Input) :
    (kept forceChannel1 inputs).flatMap (gainedFrames cfg) = [] ↔
      ∀ chunk, (none, chunk) ∈ inputs → chunk.getNumSamples?.getD 0 = 0 := by
  induction inputs generalizing forceChannel1 with
  | nil => simp [kept]
  | cons input inputs ih =>
      obtain ⟨skipped, chunk⟩ := input
      cases skipped with
      | some channelToSkip => simp [kept, ih]
      | none =>
          have hforced : (forced forceChannel1 chunk).getNumSamples? = chunk.getNumSamples? := by
            rw [forced]
            split_ifs <;> rfl
          rw [kept, List.flatMap_cons, List.append_eq_nil_iff, ih, ← List.length_eq_zero_iff,
            gainedFrames_length, hforced]
          simp

/-- The main output is complete unless a plain PCM capture has a sample. -/
theorem run_complete_iff {decoders : Side → Int → Option (Decoder σ)} {inputs : List Input}
    (hrun : run cfg codecs decoders inputs = some s) :
    Complete cfg codecs decoders inputs s ↔
      (IsPlain inputs → ∀ chunk, (none, chunk) ∈ inputs → chunk.getNumSamples?.getD 0 = 0) := by
  obtain ⟨decoded, hdecoded, written, hcount⟩ := run_main hrun
  have hplainFrames (hplain : IsPlain inputs) :
      fileFrames cfg.stereoRecording s.outFile = [] := by
    rw [decodedChunks_plain hplain rfl] at hdecoded
    cases hdecoded
    obtain ⟨handed, hgain, hframes⟩ := written
    cases hgain
    change emitted _ _ (fresh _ _) [some eosChunk] = _ at hframes
    rw [emitted_fresh] at hframes
    exact (Option.some.inj hframes).symm
  constructor
  · intro complete hplain
    rw [← kept_length cfg false, ← complete.plain hplain]
    exact hplainFrames hplain
  · intro hempty
    refine ⟨fun _ => ⟨decoded, hdecoded, written⟩, ?_, hcount⟩
    intro hplain
    rw [hplainFrames hplain, (kept_length cfg false inputs).mpr (hempty hplain)]

/-- Decoders of A-law payloads only. -/
def alawDecoders : Side → Int → Option (Decoder Unit) := fun _ rtpPayloadType =>
  if rtpPayloadType = ptPcma then some (.plain .alaw { codec := () }) else none

theorem run_complete_iff_alaw : ∃ s : State Unit,
    run {} Decoder.silentCodecs alawDecoders [(none, Decoder.payload ptPcma 2)] = some s ∧
      Complete {} Decoder.silentCodecs alawDecoders [(none, Decoder.payload ptPcma 2)] s := by
  obtain ⟨s, hrun⟩ : ∃ s : State Unit,
      run {} Decoder.silentCodecs alawDecoders [(none, Decoder.payload ptPcma 2)] = some s :=
    ⟨_, rfl⟩
  refine ⟨s, hrun, (run_complete_iff hrun).mpr ?_⟩
  intro hplain
  exact absurd (hplain _ (List.mem_singleton.mpr rfl)) (by decide)

/-- A chunk of a plain PCM capture, with one sample. -/
def pcmSample : AudioChunk :=
  { details := { encoding := .pcmAudio, numBytes := 2 }, buffer := fun _ => 5 }

/-- The sample of a plain PCM capture is not written. -/
theorem run_loses_pcm : ¬ ∀ (cfg : Config) (codecs : Decoder.Codecs Unit)
    (decoders : Side → Int → Option (Decoder Unit)) (inputs : List Input) (s : State Unit),
    run cfg codecs decoders inputs = some s → Complete cfg codecs decoders inputs s := by
  intro hcomplete
  have complete := hcomplete {} Decoder.silentCodecs alawDecoders [(none, pcmSample)] _ rfl
  have hplain : IsPlain [(none, pcmSample)] := by
    intro input hinput
    cases List.mem_singleton.mp hinput
    rfl
  exact absurd (congrArg List.length (complete.plain hplain)) (by decide)

end OrkAudio.BatchProcessing
