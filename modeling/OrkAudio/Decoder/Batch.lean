import OrkAudio.Decoder.Fresh
import OrkAudio.Decoder.Bounds
import Mathlib.Data.List.Nodup

/-! The decode loop of the batch processing, and what it feeds to the gain filter and the
mixer.

Each side has a decoder for every payload type. Opening the output file, the statistics
and the sleeps are left out; whether `SkipChunk` skips a chunk, and for which channel, is
given with the chunk. -/

namespace OrkAudio

open Lib

namespace Batch

variable {σ : Type}

/-- `RTP_PAYLOAD_TYPE_MAX`. -/
abbrev rtpPayloadTypeMax : Int := 127

/-- The decoders of `decoders1` or `decoders2`. -/
inductive Side
  | first | second
  deriving DecidableEq, Repr

/-- A chunk that a decoder handed out, known by the decoder and the call that made it. -/
structure Feed where
  side : Side
  rtpPayloadType : Int
  call : Nat
  deriving DecidableEq, Repr

/-- `current` is the payload type of the decoder that `decoder1` or `decoder2` points to.
`gainOutput` is what the last output of the gain filter was made from. `fedGain` and
`fedMixer` record what was handed to those filters; no function reads them back. -/
structure State (σ : Type) where
  decoders : Side → Int → Option (Decoder σ)
  current : Side → Int := fun _ => rtpPayloadTypeMax - 1
  forceChannel1 : Bool := false
  voIpSession : Bool := false
  gainOutput : Option Feed := none
  fedGain : List Feed := []
  fedMixer : List Feed := []

/-- What an iteration does with a chunk before a decoder is called: go on to the next
chunk, or have it decoded on a side. -/
inductive Selection (σ : Type)
  | next (s : State σ)
  | decode (s : State σ) (side : Side) (chunk : AudioChunk)

/-- Chunks on channel 2 belong to the second side. -/
def sideOf (chunk : AudioChunk) : Side := if chunk.details.channel = 2 then .second else .first

/-- `skipped` is the channel to skip where `SkipChunk` skips the chunk. -/
def select (s : State σ) (skipped : Option Nat) (chunk : AudioChunk) : Selection σ :=
  match skipped with
  | some channelToSkip =>
      .next { s with forceChannel1 := s.forceChannel1 || channelToSkip == 1 }
  | none =>
      let chunk := if s.forceChannel1 then { chunk with details.channel := 1 } else chunk
      let rtpPayloadType := chunk.details.rtpPayloadType
      if rtpPayloadType < -1 ∨ rtpPayloadType ≥ rtpPayloadTypeMax then .next s
      else
        let side := sideOf chunk
        if rtpPayloadType ≠ -1 then
          let s := { s with
            voIpSession := true
            current := Function.update s.current side rtpPayloadType }
          -- a chunk that cannot be decoded due to unknown codec is passed over
          if (s.decoders side rtpPayloadType).isNone then .next s else .decode s side chunk
        else if s.voIpSession then .decode s side chunk
        -- outside a VoIP session the gain filter is handed no chunk
        else .next { s with gainOutput := none }

/-- `audiogain` takes the output of the decoder, and `rtpMixer` the output of `audiogain`. -/
def feed (s : State σ) (side : Side) (d : Decoder σ) : State σ :=
  let tmpChunk := d.audioChunkOut.map fun out =>
    (Feed.mk side (s.current side) out.call, out.chunk)
  let gainOutput :=
    match tmpChunk with
    | none => none
    | some (fed, chunk) => if chunk.getNumSamples? = some 0 then none else some fed
  { s with
    decoders := fun side' => if side' = side
      then Function.update (s.decoders side) (s.current side) (some d) else s.decoders side'
    gainOutput := gainOutput
    fedGain := s.fedGain ++ (tmpChunk.map Prod.fst).toList
    fedMixer := s.fedMixer ++ gainOutput.toList }

/-- One iteration with the chunk that was read. A call that throws ends the loop, and there
is no step where `decoder1` or `decoder2` is null. -/
inductive Step (codecs : Decoder.Codecs σ) : State σ → Option Nat × AudioChunk → State σ → Prop
  | next {s s' : State σ} {skipped : Option Nat} {chunk : AudioChunk} :
      select s skipped chunk = .next s' → Step codecs s (skipped, chunk) s'
  | decode {s s' : State σ} {skipped : Option Nat} {chunk chunk' : AudioChunk} {side : Side}
      {d d' : Decoder σ} :
      select s skipped chunk = .decode s' side chunk' →
      s'.decoders side (s'.current side) = some d →
      d.audioChunkIn codecs (some chunk') = .returned d' →
      Step codecs s (skipped, chunk) (feed s' side d')

/-- Where the iteration calls a decoder, that does not keep an earlier output. -/
def Regular (s : State σ) (label : Option Nat × AudioChunk) : Prop :=
  ∀ s' side chunk d, select s label.1 label.2 = .decode s' side chunk →
    s'.decoders side (s'.current side) = some d → ¬ d.KeepsOutput (some chunk)

/-- What was fed belongs to a call that was made, and was fed once. -/
structure FedOnce (s : State σ) : Prop where
  past : ∀ side pt d, s.decoders side pt = some d → d.Past
  made : ∀ fed ∈ s.fedGain, ∃ d, s.decoders fed.side fed.rtpPayloadType = some d ∧
    fed.call ≤ d.calls
  mixed : ∀ fed ∈ s.fedMixer, fed ∈ s.fedGain
  gainOnce : s.fedGain.Nodup
  mixerOnce : s.fedMixer.Nodup

/-- Up to the call of a decoder nothing is fed. -/
theorem select_frame {s s' : State σ} {skipped : Option Nat} {chunk : AudioChunk}
    (hselect : select s skipped chunk = .next s' ∨
      ∃ side chunk', select s skipped chunk = .decode s' side chunk') :
    s'.decoders = s.decoders ∧ s'.fedGain = s.fedGain ∧ s'.fedMixer = s.fedMixer := by
  unfold select at hselect
  cases skipped with
  | some channelToSkip =>
      simp only [Selection.next.injEq, reduceCtorEq, exists_false, or_false] at hselect
      subst hselect
      exact ⟨rfl, rfl, rfl⟩
  | none =>
      simp only at hselect
      split_ifs at hselect <;>
        simp only [Selection.next.injEq, Selection.decode.injEq, exists_false, or_false,
          false_or] at hselect <;>
        first
        | (subst hselect; exact ⟨rfl, rfl, rfl⟩)
        | (obtain ⟨_, _, rfl, _⟩ := hselect; exact ⟨rfl, rfl, rfl⟩)

theorem feed_decoders (s : State σ) (side side' : Side) (d : Decoder σ) (pt : Int) :
    (feed s side d).decoders side' pt =
      if side' = side ∧ pt = s.current side then some d else s.decoders side' pt := by
  unfold feed
  simp only
  by_cases hside : side' = side
  · subst hside
    by_cases hpt : pt = s.current side'
    · simp [hpt]
    · simp [hpt]
  · simp [hside]

namespace FedOnce

variable {s : State σ}

theorem next {s' : State σ} (once : FedOnce s) (hdecoders : s'.decoders = s.decoders)
    (hgain : s'.fedGain = s.fedGain) (hmixer : s'.fedMixer = s.fedMixer) : FedOnce s' := by
  constructor
  · rw [hdecoders]
    exact once.past
  · rw [hdecoders, hgain]
    exact once.made
  · rw [hgain, hmixer]
    exact once.mixed
  · rw [hgain]
    exact once.gainOnce
  · rw [hmixer]
    exact once.mixerOnce

/-- A chunk that was decoded from the last input has not been fed before. -/
theorem feed {codecs : Decoder.Codecs σ} {side : Side} {chunk : AudioChunk} {d d' : Decoder σ}
    (once : FedOnce s) (hdecoder : s.decoders side (s.current side) = some d)
    (hin : d.audioChunkIn codecs (some chunk) = .returned d')
    (hkeeps : ¬ d.KeepsOutput (some chunk)) : FedOnce (feed s side d') := by
  have hpast := once.past side _ d hdecoder
  have hfresh := (hpast.fresh_iff hin).mpr hkeeps
  have hcalls := (Decoder.returned_spec hin).1
  have hlater : ∀ fed ∈ s.fedGain, ∃ d₀, (Batch.feed s side d').decoders fed.side
      fed.rtpPayloadType = some d₀ ∧ fed.call ≤ d₀.calls := by
    intro fed hfed
    obtain ⟨d₀, hd₀, hcall⟩ := once.made fed hfed
    rw [feed_decoders]
    split
    next hsame =>
      rw [hsame.1, hsame.2, hdecoder] at hd₀
      obtain rfl := Option.some.inj hd₀
      exact ⟨d', rfl, by omega⟩
    next => exact ⟨d₀, hd₀, hcall⟩
  have hpast' : ∀ side' pt d₀, (Batch.feed s side d').decoders side' pt = some d₀ → d₀.Past := by
    intro side' pt d₀ hd₀
    rw [feed_decoders] at hd₀
    split at hd₀
    · obtain rfl := Option.some.inj hd₀
      exact hpast.step (.returned hin)
    · exact once.past side' pt d₀ hd₀
  cases hout : d'.audioChunkOut with
  | none =>
      have hgain : (Batch.feed s side d').fedGain = s.fedGain := by simp [Batch.feed, hout]
      have hmixer : (Batch.feed s side d').fedMixer = s.fedMixer := by simp [Batch.feed, hout]
      refine ⟨hpast', ?_, ?_, ?_, ?_⟩
      · rw [hgain]
        exact hlater
      · rw [hgain, hmixer]
        exact once.mixed
      · rw [hgain]
        exact once.gainOnce
      · rw [hmixer]
        exact once.mixerOnce
  | some out =>
      obtain ⟨_, _, made⟩ := hfresh out hout
      have hnew : Feed.mk side (s.current side) out.call ∉ s.fedGain := by
        intro hfed
        obtain ⟨d₀, hd₀, hcall⟩ := once.made _ hfed
        rw [hdecoder] at hd₀
        obtain rfl := Option.some.inj hd₀
        have hnow := made.call
        simp only at hcall
        omega
      have hgain : (Batch.feed s side d').fedGain =
          s.fedGain ++ [Feed.mk side (s.current side) out.call] := by
        simp [Batch.feed, hout]
      have hmixer : (Batch.feed s side d').fedMixer = s.fedMixer ∨
          (Batch.feed s side d').fedMixer =
            s.fedMixer ++ [Feed.mk side (s.current side) out.call] := by
        by_cases hempty : out.chunk.getNumSamples? = some 0
        · simp [Batch.feed, hout, hempty]
        · simp [Batch.feed, hout, hempty]
      refine ⟨hpast', ?_, ?_, ?_, ?_⟩
      · rw [hgain]
        intro fed hfed
        rcases List.mem_append.mp hfed with hbefore | hnow
        · exact hlater fed hbefore
        · obtain rfl := List.mem_singleton.mp hnow
          refine ⟨d', ?_, Nat.le_of_eq made.call⟩
          rw [feed_decoders, if_pos ⟨rfl, rfl⟩]
      · rw [hgain]
        intro fed hfed
        rcases hmixer with hmixer | hmixer <;> rw [hmixer] at hfed
        · exact List.mem_append_left _ (once.mixed fed hfed)
        · rcases List.mem_append.mp hfed with hbefore | hnow
          · exact List.mem_append_left _ (once.mixed fed hbefore)
          · exact List.mem_append_right _ hnow
      · rw [hgain, List.nodup_append_comm]
        exact List.nodup_cons.mpr ⟨hnew, once.gainOnce⟩
      · rcases hmixer with hmixer | hmixer <;> rw [hmixer]
        · exact once.mixerOnce
        · rw [List.nodup_append_comm]
          exact List.nodup_cons.mpr ⟨fun hfed => hnew (once.mixed _ hfed), once.mixerOnce⟩

theorem step {codecs : Decoder.Codecs σ} {s' : State σ} {label : Option Nat × AudioChunk}
    (once : FedOnce s) (regular : Regular s label) (step : Step codecs s label s') :
    FedOnce s' := by
  cases step with
  | next hselect =>
      obtain ⟨hdecoders, hgain, hmixer⟩ := select_frame (.inl hselect)
      exact once.next hdecoders hgain hmixer
  | decode hselect hdecoder hin =>
      obtain ⟨hdecoders, hgain, hmixer⟩ := select_frame (.inr ⟨_, _, hselect⟩)
      exact (once.next hdecoders hgain hmixer).feed hdecoder hin
        (regular _ _ _ _ hselect hdecoder)

end FedOnce

/-- Before the first chunk: new decoders, nothing fed. -/
structure Starts (s : State σ) : Prop where
  decoders : ∀ side pt d, s.decoders side pt = some d → d.audioChunkOut = none
  fedGain : s.fedGain = []
  fedMixer : s.fedMixer = []

theorem Starts.fedOnce {s : State σ} (starts : Starts s) : FedOnce s := by
  refine ⟨?_, ?_, ?_, ?_, ?_⟩
  · intro side pt d hd out hout
    rw [starts.decoders side pt d hd] at hout
    cases hout
  · simp [starts.fedGain]
  · simp [starts.fedMixer]
  · simp [starts.fedGain]
  · simp [starts.fedMixer]

theorem run_fedOnce {codecs : Decoder.Codecs σ} {s s' : State σ}
    {labels : List (Option Nat × AudioChunk)} (starts : Starts s)
    (run : Steps (Guarded Regular (Step codecs)) s labels s') : FedOnce s' := by
  apply run.invariant
  · rintro s label s' once ⟨regular, step⟩
    exact once.step regular step
  · exact starts.fedOnce

/-- In every run of a decoder, the output after a call is none or made from its input
exactly when the call does not skip while there is an earlier output; and in every run of
the batch processing without such calls, each decoded chunk goes to the gain filter and to
the mixer at most once. -/
theorem decoded_once (codecs : Decoder.Codecs σ) :
    (∀ (d d' d'' : Decoder σ) (inputs : List (Option AudioChunk)) (input : Option AudioChunk),
      d.audioChunkOut = none → Steps (Decoder.Step codecs) d inputs d' →
      d'.audioChunkIn codecs input = .returned d'' →
      (Decoder.Fresh d''.calls input d''.audioChunkOut ↔ ¬ d'.KeepsOutput input)) ∧
    (∀ (s s' : State σ) (labels : List (Option Nat × AudioChunk)), Starts s →
      Steps (Guarded Regular (Step codecs)) s labels s' →
      s'.fedGain.Nodup ∧ s'.fedMixer.Nodup) := by
  constructor
  · intro d d' d'' inputs input hstart run hin
    exact (Decoder.run_past hstart run).fresh_iff hin
  · intro s s' labels starts run
    have once := run_fedOnce starts run
    exact ⟨once.gainOnce, once.mixerOnce⟩

/-- Decoders of A-law payloads only. -/
def alawOnly : State Unit :=
  { decoders := fun _ pt =>
      if pt = ptPcma then some (.plain .alaw { codec := () }) else none }

theorem alawOnly_starts : Starts alawOnly := by
  refine ⟨?_, rfl, rfl⟩
  intro side pt d hd
  unfold alawOnly at hd
  simp only at hd
  split at hd
  · obtain rfl := Option.some.inj hd
    rfl
  · cases hd

theorem alawOnly_regular (label : Option Nat × AudioChunk) : Regular alawOnly label := by
  intro s' side chunk d hselect hd
  obtain ⟨hdecoders, -, -⟩ := select_frame (.inr ⟨_, _, hselect⟩)
  rw [hdecoders] at hd
  unfold alawOnly at hd
  simp only at hd
  split at hd
  · obtain rfl := Option.some.inj hd
    exact And.right
  · cases hd

theorem decoded_once_alaw :
    (∃ d, (Decoder.plain .alaw { codec := () }).audioChunkIn Decoder.silentCodecs
        (some (Decoder.payload ptPcma 2)) = .returned d ∧
      Decoder.Fresh d.calls (some (Decoder.payload ptPcma 2)) d.audioChunkOut) ∧
    ∃ s, Steps (Guarded Regular (Step Decoder.silentCodecs)) alawOnly
      [(none, Decoder.payload ptPcma 2)] s ∧ s.fedGain.Nodup ∧ s.fedMixer.Nodup := by
  obtain ⟨hfresh, honce⟩ := decoded_once Decoder.silentCodecs
  constructor
  · exact ⟨_, rfl, (hfresh (.plain .alaw { codec := () }) _ _ [] _ rfl (.nil _) rfl).mpr
      And.right⟩
  · have hrun : Steps (Guarded Regular (Step Decoder.silentCodecs)) alawOnly
        [(none, Decoder.payload ptPcma 2)] _ :=
      .cons ⟨alawOnly_regular _, .decode rfl rfl rfl⟩ (.nil _)
    exact ⟨_, hrun, honce _ _ _ alawOnly_starts hrun⟩

/-- A SILK packet of one byte. -/
def silkPacket (sequenceNumber timestamp : UInt32) : AudioChunk :=
  { details := { (Decoder.payload ptSilk 1).details with
      sequenceNumber := sequenceNumber, timestamp := timestamp }
    buffer := fun _ => 0 }

/-- Packets 1 and 2 are 20 ms apart, so the second is decoded; packet 4 comes one sample
later, and the chunk decoded from packet 2 is handed out again. -/
theorem decoded_twice : ¬ ∀ (codecs : Decoder.Codecs Unit) (d d' d'' : Decoder Unit)
    (inputs : List (Option AudioChunk)) (input : Option AudioChunk),
    d.audioChunkOut = none → Steps (Decoder.Step codecs) d inputs d' →
    d'.audioChunkIn codecs input = .returned d'' →
    Decoder.Fresh d''.calls input d''.audioChunkOut := by
  intro hfresh
  have hrun : Steps (Decoder.Step Decoder.silentCodecs) (.silk { codec := () })
      [some (silkPacket 1 160), some (silkPacket 2 320)] _ :=
    .cons (.returned rfl) (.cons (.returned rfl) (.nil _))
  obtain ⟨chunk, hchunk, made⟩ := hfresh Decoder.silentCodecs _ _ _ _ (some (silkPacket 4 321))
    rfl hrun rfl _ rfl
  exact absurd made.call (by decide)

end Batch

end OrkAudio
