import OrkAudio.BatchProcessing.Complete

/-! The secondary file of a VoIP session gets what its mixer has shipped by the end of the loop.

The end of the stream is handed to the main mixer only, so the file is complete when a mixer that
was handed the decoded chunks has nothing left between its pointers, or is in error. -/

namespace OrkAudio.BatchProcessing

open Lib Batch RtpMixer

variable {σ : Type} {codecs : Decoder.Codecs σ} {cfg : Config} {s s' : State σ}
  {fed : List (Option AudioChunk)}

/-- The secondary file has what the mixer emits for these inputs. -/
def SecondaryWritten (cfg : Config) (inputs : List (Option AudioChunk)) (s : State σ) : Prop :=
  emitted cfg.tapeNumChannels true (State.mixerSecondary cfg) inputs =
    some (fileFrames true s.outFileSecondary)

/-- After the flush the secondary file has what the outputs of the decoders gave. -/
theorem Fed.flush_secondary (hfed : Fed cfg s fed) (hsecondary : cfg.secondary = true)
    (hflush : s.flush cfg = some s') : SecondaryWritten cfg fed s' := by
  rw [State.flush] at hflush
  rcases hfed with ⟨rfl, unmixed⟩ | ⟨m, mixed⟩
  · split_ifs at hflush
    · obtain ⟨m, hm, -⟩ := Option.bind_eq_some_iff.mp hflush
      rw [unmixed.rtpMixer] at hm
      cases hm
    · cases hflush
      rw [SecondaryWritten, unmixed.framesSecondary]
      rfl
  · rw [if_pos (by simp [mixed.voIpSession, mixed.firstChunk])] at hflush
    obtain ⟨_, hm, hrest⟩ := Option.bind_eq_some_iff.mp hflush
    cases hm.symm.trans mixed.rtpMixer
    obtain ⟨m', hin, hdrains⟩ := Option.bind_eq_some_iff.mp hrest
    obtain ⟨drained, hdrain, hlast⟩ := Option.bind_eq_some_iff.mp hdrains
    obtain ⟨-, -, hmixer, hfile⟩ := mixed.flush_main (toOption_eq_some hin) hdrain
    obtain ⟨m₂, hm₂, passed⟩ := mixed.secondary hsecondary
    rw [hmixer, hm₂] at hlast
    obtain ⟨hframes, -, -⟩ := drainSecondary_frames true audioChunkOut_none hlast
    rw [SecondaryWritten, passed.emitted, hframes, hfile, audioChunkOut_queue m₂,
      List.flatMap_append]

/-- A mixer has nothing left to ship. -/
def Shipped (m : RtpMixer) : Prop := m.error = true ∨ m.usedSpace = 0

/-- The end of the stream adds nothing to what a mixer emits when it has shipped all. -/
theorem emitted_eos_iff {tapeNumChannels : Int} {twoChannels : Bool} {start : RtpMixer}
    {inputs : List (Option AudioChunk)} (bounded : Bounded tapeNumChannels start)
    {written : List (List Int16)}
    (hwritten : emitted tapeNumChannels twoChannels start inputs = some written) :
    emitted tapeNumChannels twoChannels start (inputs ++ [some eosChunk]) = some written ↔
      ∃ m, chunksIn tapeNumChannels start inputs = .ok m ∧ Shipped m := by
  obtain ⟨m, hrun, -⟩ := Option.map_eq_some_iff.mp hwritten
  have hrun := toOption_eq_some hrun
  obtain ⟨last, hlength, hfront, hlast⟩ := emitted_eos twoChannels bounded hrun
  rw [hfront] at hwritten
  cases hwritten
  have hshipped : last = [] ↔ Shipped m := by
    rw [← List.length_eq_zero_iff, hlength, Shipped]
    cases m.error <;> simp
  rw [hlast, Option.some.injEq, List.append_right_eq_self, hshipped]
  constructor
  · intro shipped
    exact ⟨m, hrun, shipped⟩
  · intro ⟨m', hrun', shipped⟩
    cases hrun.symm.trans hrun'
    exact shipped

/-- The secondary file of a VoIP session has all that a flushed mixer emits just when the mixer
that was handed the decoded chunks has shipped all by itself. -/
theorem run_secondary_iff {decoders : Side → Int → Option (Decoder σ)} {inputs : List Input}
    (hsecondary : cfg.secondary = true) (hrun : run cfg codecs decoders inputs = some s) :
    ∃ decoded, decodedChunks codecs { decoders := decoders } inputs = some decoded ∧
      (SecondaryWritten cfg (decoded ++ [some eosChunk]) s ↔
        ∃ m, chunksIn cfg.tapeNumChannels (State.mixerSecondary cfg) decoded = .ok m ∧
          Shipped m) := by
  obtain ⟨looped, hloop, hflush⟩ := Option.bind_eq_some_iff.mp hrun
  have hstart : Fed cfg { decoding := { decoders := decoders } } [] := .inl ⟨rfl, .start _⟩
  obtain ⟨decoded, hdecoded, hfed⟩ := hstart.run hloop
  exact ⟨decoded, hdecoded, emitted_eos_iff (fresh_bounded _ _ _)
    (hfed.flush_secondary hsecondary hflush)⟩

/-- A session with a secondary file. -/
def withSecondary : Config := { secondary := true }

theorem run_secondary_iff_alaw : ∃ s : State Unit,
    run withSecondary Decoder.silentCodecs alawDecoders [(none, Decoder.payload ptPcma 2)] =
        some s ∧
      ∃ decoded, decodedChunks Decoder.silentCodecs { decoders := alawDecoders }
          [(none, Decoder.payload ptPcma 2)] = some decoded ∧
        SecondaryWritten withSecondary (decoded ++ [some eosChunk]) s := by
  obtain ⟨s, hrun⟩ : ∃ s : State Unit, run withSecondary Decoder.silentCodecs alawDecoders
      [(none, Decoder.payload ptPcma 2)] = some s := ⟨_, rfl⟩
  obtain ⟨decoded, hdecoded, hwritten⟩ := run_secondary_iff rfl hrun
  refine ⟨s, hrun, decoded, hdecoded, hwritten.mpr ?_⟩
  -- a chunk on no side is not mixed
  cases hdecoded
  exact ⟨_, rfl, .inr rfl⟩

/-- One sample of the first side, at an RTP timestamp. -/
def alawSample : AudioChunk :=
  { Decoder.payload ptPcma 1 with
    details := { (Decoder.payload ptPcma 1).details with channel := 1, timestamp := 1000 } }

/-- The only sample of a call stays in the secondary mixer. -/
theorem run_loses_last_shipment : ¬ ∀ (cfg : Config) (codecs : Decoder.Codecs Unit)
    (decoders : Side → Int → Option (Decoder Unit)) (inputs : List Input) (s : State Unit)
    (decoded : List (Option AudioChunk)), cfg.secondary = true → IsVoIp inputs →
    run cfg codecs decoders inputs = some s →
    decodedChunks codecs { decoders := decoders } inputs = some decoded →
    SecondaryWritten cfg (decoded ++ [some eosChunk]) s := by
  intro hwritten
  have hvoIp : IsVoIp [(none, alawSample)] :=
    ⟨alawSample, List.mem_singleton.mpr rfl, by decide, by decide⟩
  have written := hwritten withSecondary Decoder.silentCodecs alawDecoders
    [(none, alawSample)] _ _ rfl hvoIp rfl rfl
  exact absurd (congrArg (Option.map List.length) written) (by decide)

end OrkAudio.BatchProcessing
