import OrkAudio.Decoder.Model
import OrkAudio.Lib.Steps

/-! Whether a decoder hands out a chunk a second time.

`AudioChunkOut` gives whatever the last output was. Most decoders drop it when a new call
begins; `Skips` says when the SILK and Speex decoders return without doing so. -/

namespace OrkAudio

open Lib

namespace Decoder

variable {σ τ : Type}

/-- The chunk was allocated in that call and carries the input's sequence number, arrival
timestamp and channel. -/
structure MadeFrom (call : Nat) (chunk : AudioChunk) (out : DecodedChunk) : Prop where
  call : out.call = call
  sequenceNumber : out.chunk.details.sequenceNumber = chunk.details.sequenceNumber
  arrivalTimestamp : out.chunk.details.arrivalTimestamp = chunk.details.arrivalTimestamp
  channel : out.chunk.details.channel = chunk.details.channel

/-- There is no output, or it was made from the input in that call. -/
def Fresh (call : Nat) (input : Option AudioChunk) (output : Option DecodedChunk) : Prop :=
  ∀ out ∈ output, ∃ chunk ∈ input, MadeFrom call chunk out

theorem Fresh.none (call : Nat) (input : Option AudioChunk) : Fresh call input none := by
  rintro out ⟨⟩

theorem Fresh.made {call : Nat} {chunk : AudioChunk} {out : DecodedChunk}
    (made : MadeFrom call chunk out) : Fresh call (some chunk) (some out) := by
  rintro out' hout
  obtain rfl := Option.some.inj hout
  exact ⟨chunk, rfl, made⟩

/-- No chunk, a chunk without samples or one of another payload type. -/
def Undecodable (rtpPayloadType : Int) (input : Option AudioChunk) : Prop :=
  ∀ chunk ∈ input, chunk.getNumSamples? = some 0 ∨ chunk.details.rtpPayloadType ≠ rtpPayloadType

/-- The calls that return before the last output is dropped. For SILK: also while the
decoder could not be set up, where the packets lose their rhythm, and at a sampling rate
other than 8 or 16 kHz. -/
def Skips (d : Decoder σ) (input : Option AudioChunk) : Prop :=
  match d with
  | .plain .speex _ => Undecodable ptSpeex input
  | .plain _ _ | .opus _ => False
  | .silk f => f.initialized = false ∨ Undecodable ptSilk input ∨
      ∃ chunk ∈ input, ¬ f.First ∧ (¬ f.Coherent chunk.details ∨
        (f.multiplier chunk.details ≠ 1 ∧ f.multiplier chunk.details ≠ 2))

/-- Such a call while there is an output. -/
def KeepsOutput (d : Decoder σ) (input : Option AudioChunk) : Prop :=
  d.audioChunkOut ≠ none ∧ d.Skips input

/-- What holds of the state that a call leaves, when it returns and when it throws. -/
def Outcome.Ensures (returned thrown : σ → Prop) : Outcome σ → Prop
  | .returned filter => returned filter
  | .thrown _ filter => thrown filter
  | .undefined _ => True

theorem Outcome.Ensures.mono {outcome : Outcome σ} {returned thrown returned' thrown' : σ → Prop}
    (ensures : outcome.Ensures returned thrown) (hreturned : ∀ s, returned s → returned' s)
    (hthrown : ∀ s, thrown s → thrown' s) : outcome.Ensures returned' thrown' := by
  cases outcome with
  | returned filter => exact hreturned filter ensures
  | thrown text filter => exact hthrown filter ensures
  | undefined overrun => trivial

theorem Outcome.ensures_checked {α : Type} {result : Except Overrun α} {next : α → Outcome σ}
    {returned thrown : σ → Prop} (hnext : ∀ a, (next a).Ensures returned thrown) :
    (Outcome.checked result next).Ensures returned thrown := by
  cases result with
  | ok a => exact hnext a
  | error overrun => trivial

theorem Outcome.ensures_map {outcome : Outcome σ} {f : σ → τ} {returned thrown : τ → Prop}
    (ensures : outcome.Ensures (fun s => returned (f s)) fun s => thrown (f s)) :
    (outcome.map f).Ensures returned thrown := by
  cases outcome <;> exact ensures

/-! ### One call -/

/-- After a call that returns: the output was kept where the call skips, and is fresh
otherwise. -/
def Returned (d : Decoder σ) (input : Option AudioChunk) (calls : Nat)
    (output : Option DecodedChunk) : Prop :=
  calls = d.calls + 1 ∧ ((d.Skips input ∧ output = d.audioChunkOut) ∨
    (¬ d.Skips input ∧ Fresh calls input output))

/-- After a call that throws: an output is the one before or belongs to the call. -/
def Thrown (d : Decoder σ) (calls : Nat) (output : Option DecodedChunk) : Prop :=
  calls = d.calls + 1 ∧ ∀ out ∈ output, out ∈ d.audioChunkOut ∨ out.call = calls

/-- What a body ensures that is entered with no output. -/
def Body (body : Filter σ → AudioChunk → Nat → Outcome (Filter σ)) : Prop :=
  ∀ (f : Filter σ) (chunk : AudioChunk) (numSamples : Nat), f.output = none →
    (body f chunk numSamples).Ensures
      (fun f' => f'.calls = f.calls ∧ Fresh f.calls (some chunk) f'.output)
      fun f' => f'.calls = f.calls ∧ ∀ out ∈ f'.output, out.call = f.calls

theorem emit_ensures (f : Filter σ) (chunk : AudioChunk) (numBytes : UInt32)
    (memory : Nat → Int16) :
    (f.emit (outputDetails chunk numBytes) memory).Ensures
      (fun f' => f'.calls = f.calls ∧ Fresh f.calls (some chunk) f'.output)
      fun f' => f'.calls = f.calls ∧ ∀ out ∈ f'.output, out.call = f.calls := by
  unfold Filter.emit
  split
  · refine ⟨rfl, ?_⟩
    rintro out hout
    obtain rfl := Option.some.inj hout
    rfl
  · exact ⟨rfl, .made ⟨rfl, rfl, rfl, rfl⟩⟩

theorem g711Body_ensures (toLinear : UInt8 → Int16) : Body (σ := σ) (g711Body toLinear) := by
  intro f chunk numSamples _
  exact Outcome.ensures_checked fun memory => emit_ensures f chunk _ memory

theorem gsmBody_ensures (codecs : Codecs σ) : Body (gsmBody codecs) := by
  intro f chunk numSamples _
  exact Outcome.ensures_checked fun (_, state) => emit_ensures { f with codec := state } chunk _ _

theorem g721Body_ensures (codecs : Codecs σ) : Body (g721Body codecs) := by
  intro f chunk numSamples _
  exact Outcome.ensures_checked fun (_, state) => emit_ensures { f with codec := state } chunk _ _

theorem g722Body_ensures (codecs : Codecs σ) : Body (g722Body codecs) := by
  intro f chunk numSamples _
  exact Outcome.ensures_checked fun (_, state) => emit_ensures { f with codec := state } chunk _ _

theorem g729Body_ensures (codecs : Codecs σ) : Body (g729Body codecs) := by
  intro f chunk numSamples _
  exact Outcome.ensures_checked fun (_, _, state) => emit_ensures { f with codec := state } chunk _ _

theorem ilbcBody_ensures (codecs : Codecs σ) : Body (ilbcBody codecs) := by
  intro f chunk numSamples hnone
  unfold ilbcBody
  split
  · exact ⟨rfl, by rw [hnone]; exact .none _ _⟩
  · exact Outcome.ensures_checked fun (_, state) =>
      emit_ensures { f with codec := state } chunk _ _

/-- A decoder that drops its output first never keeps one. -/
theorem decodeWith_ensures {body : Filter σ → AudioChunk → Nat → Outcome (Filter σ)}
    (hbody : Body body) (rtpPayloadType : Int) (f : Filter σ) (input : Option AudioChunk) :
    (decodeWith rtpPayloadType body f input).Ensures
      (fun f' => f'.calls = f.calls + 1 ∧ Fresh f'.calls input f'.output)
      fun f' => f'.calls = f.calls + 1 ∧ ∀ out ∈ f'.output, out.call = f'.calls := by
  unfold decodeWith
  cases input with
  | none => exact ⟨rfl, .none _ _⟩
  | some chunk =>
      simp only
      cases chunk.getNumSamples? with
      | none => exact ⟨rfl, by rintro out ⟨⟩⟩
      | some numSamples =>
          simp only
          split
          · exact ⟨rfl, .none _ _⟩
          · split
            · exact ⟨rfl, .none _ _⟩
            · apply (hbody { f with output := none, calls := f.calls + 1 } chunk numSamples rfl).mono
              · rintro f' ⟨hcalls, hfresh⟩
                exact ⟨hcalls, by rw [hcalls]; exact hfresh⟩
              · rintro f' ⟨hcalls, hcall⟩
                exact ⟨hcalls, by rw [hcalls]; exact hcall⟩

theorem opusDecodeChunk_ensures (codecs : Codecs σ) (f : OpusCodecDecoder σ) (chunk : AudioChunk) :
    (opusDecodeChunk codecs f chunk).Ensures
      (fun f' => f'.calls = f.calls ∧ Fresh f.calls (some chunk) f'.output) fun _ => False := by
  apply Outcome.ensures_checked
  intro bytes
  simp only
  split
  · trivial
  · exact ⟨rfl, .made ⟨rfl, rfl, rfl, rfl⟩⟩

theorem opusCodecDecoder_ensures (codecs : Codecs σ) (f : OpusCodecDecoder σ)
    (input : Option AudioChunk) :
    (opusCodecDecoder codecs f input).Ensures
      (fun f' => f'.calls = f.calls + 1 ∧ Fresh f'.calls input f'.output)
      fun f' => f'.calls = f.calls + 1 ∧ ∀ out ∈ f'.output, out.call = f'.calls := by
  unfold opusCodecDecoder
  simp only
  split
  · exact ⟨rfl, .none _ _⟩
  cases input with
  | none => exact ⟨rfl, .none _ _⟩
  | some chunk =>
      simp only
      cases chunk.getNumSamples? with
      | none => exact ⟨rfl, by rintro out ⟨⟩⟩
      | some numSamples =>
          simp only
          split
          · exact ⟨rfl, .none _ _⟩
          split
          · exact ⟨rfl, .none _ _⟩
          split
          · exact ⟨rfl, .none _ _⟩
          · generalize hready : ({ OpusCodecDecoder.adjustSampleRate
              { f with output := none, calls := f.calls + 1 } chunk.details with
                lastRtpSeq := chunk.details.sequenceNumber
                lastRtpTs := chunk.details.timestamp } : OpusCodecDecoder σ) = ready
            have hcalls : ready.calls = f.calls + 1 := by
              rw [← hready]
              unfold OpusCodecDecoder.adjustSampleRate
              simp only
              split_ifs <;> rfl
            apply (opusDecodeChunk_ensures codecs ready chunk).mono
            · rintro f' ⟨hsame, hfresh⟩
              rw [← hsame] at hfresh
              exact ⟨hsame.trans hcalls, hfresh⟩
            · intro f'
              exact False.elim

theorem speexDecoder_ensures (codecs : Codecs σ) (f : Filter σ) (input : Option AudioChunk) :
    (speexDecoder codecs f input).Ensures
      (fun f' => Returned (.plain .speex f) input f'.calls f'.output)
      fun f' => Thrown (.plain .speex f) f'.calls f'.output := by
  unfold speexDecoder
  cases input with
  | none => exact ⟨rfl, .inl ⟨by rintro chunk ⟨⟩, rfl⟩⟩
  | some chunk =>
      simp only
      cases hsamples : chunk.getNumSamples? with
      | none => exact ⟨rfl, fun out hout => .inl hout⟩
      | some numSamples =>
          simp only
          split
          · refine ⟨rfl, .inl ⟨?_, rfl⟩⟩
            rintro chunk' hchunk
            obtain rfl := Option.some.inj hchunk
            exact .inl (by simp [*])
          split
          · refine ⟨rfl, .inl ⟨?_, rfl⟩⟩
            rintro chunk' hchunk
            obtain rfl := Option.some.inj hchunk
            exact .inr (by assumption)
          · have hdecodes : ¬ Undecodable ptSpeex (some chunk) := by
              intro hskips
              rcases hskips chunk rfl with hempty | htype
              · simp_all
              · simp_all
            apply Outcome.ensures_checked
            intro bytes
            apply (emit_ensures _ chunk _ _).mono
            · rintro f' ⟨hcalls, hfresh⟩
              exact ⟨hcalls, .inr ⟨hdecodes, by rw [hcalls]; exact hfresh⟩⟩
            · rintro f' ⟨hcalls, hcall⟩
              exact ⟨hcalls, fun out hout => .inr ((hcall out hout).trans hcalls.symm)⟩

theorem silkDecodeChunk_ensures (codecs : Codecs σ) (f : SilkCodecDecoder σ) (chunk : AudioChunk) :
    (silkDecodeChunk codecs f chunk).Ensures
      (fun f' => f'.calls = f.calls ∧ Fresh f.calls (some chunk) f'.output) fun _ => False := by
  apply Outcome.ensures_checked
  intro bytes
  exact ⟨rfl, .made ⟨rfl, rfl, rfl, rfl⟩⟩

theorem silk_skips_iff {f : SilkCodecDecoder σ} {chunk : AudioChunk}
    (hinitialized : f.initialized = true) (hdecodes : ¬ Undecodable ptSilk (some chunk)) :
    (Decoder.silk f).Skips (some chunk) ↔ ¬ f.First ∧ (¬ f.Coherent chunk.details ∨
      (f.multiplier chunk.details ≠ 1 ∧ f.multiplier chunk.details ≠ 2)) := by
  constructor
  · rintro (hfailed | hskips | ⟨chunk', hchunk, hskips⟩)
    · exact absurd hfailed (by simp [hinitialized])
    · exact absurd hskips hdecodes
    · obtain rfl := Option.some.inj hchunk
      exact hskips
  · intro hskips
    exact .inr (.inr ⟨chunk, rfl, hskips⟩)

theorem silkCodecDecoder_ensures (codecs : Codecs σ) (f : SilkCodecDecoder σ)
    (input : Option AudioChunk) :
    (silkCodecDecoder codecs f input).Ensures
      (fun f' => Returned (.silk f) input f'.calls f'.output)
      fun f' => Thrown (.silk f) f'.calls f'.output := by
  unfold silkCodecDecoder
  simp only
  split
  next hfailed => exact ⟨rfl, .inl ⟨.inl hfailed, rfl⟩⟩
  next hinitialized =>
    cases input with
    | none => exact ⟨rfl, .inl ⟨.inr (.inl (by rintro chunk ⟨⟩)), rfl⟩⟩
    | some chunk =>
        simp only
        cases hsamples : chunk.getNumSamples? with
        | none => exact ⟨rfl, fun out hout => .inl hout⟩
        | some numSamples =>
            simp only
            split
            next hempty =>
              refine ⟨rfl, .inl ⟨.inr (.inl ?_), rfl⟩⟩
              rintro chunk' hchunk
              obtain rfl := Option.some.inj hchunk
              exact .inl (by rw [hsamples, hempty])
            next hsome =>
              split
              next htype =>
                refine ⟨rfl, .inl ⟨.inr (.inl ?_), rfl⟩⟩
                rintro chunk' hchunk
                obtain rfl := Option.some.inj hchunk
                exact .inr htype
              next htype =>
                have hdecodes : ¬ Undecodable ptSilk (some chunk) := by
                  intro hskips
                  rcases hskips chunk rfl with hnone | hother
                  · rw [hsamples] at hnone
                    exact hsome (Option.some.inj hnone)
                  · exact htype hother
                have hskips := silk_skips_iff (by simpa using hinitialized) hdecodes
                split
                next hfirst => exact ⟨rfl, .inr ⟨fun skips => (hskips.mp skips).1 hfirst, .none _ _⟩⟩
                next hlater =>
                  split
                  next hjump => exact ⟨rfl, .inl ⟨hskips.mpr ⟨hlater, .inl hjump⟩, rfl⟩⟩
                  next hcoherent =>
                    split
                    next hrate => exact ⟨rfl, .inl ⟨hskips.mpr ⟨hlater, .inr hrate⟩, rfl⟩⟩
                    next hrate =>
                      have hdecoded : ¬ (Decoder.silk f).Skips (some chunk) := by
                        intro skips
                        rcases (hskips.mp skips).2 with hjump | hother
                        · exact hcoherent hjump
                        · exact hrate hother
                      generalize hready : SilkCodecDecoder.remember _ chunk.details = ready
                      have hcalls : ready.calls = f.calls + 1 := by
                        rw [← hready]
                        rfl
                      apply (silkDecodeChunk_ensures codecs ready chunk).mono
                      · rintro f' ⟨hsame, hfresh⟩
                        rw [← hsame] at hfresh
                        exact ⟨hsame.trans hcalls, .inr ⟨hdecoded, hfresh⟩⟩
                      · intro f'
                        exact False.elim

/-- A call on any decoder: it keeps its output where it skips, and otherwise has a fresh one. -/
theorem audioChunkIn_ensures (codecs : Codecs σ) (d : Decoder σ) (input : Option AudioChunk) :
    (d.audioChunkIn codecs input).Ensures
      (fun d' => d.Returned input d'.calls d'.audioChunkOut)
      fun d' => d.Thrown d'.calls d'.audioChunkOut := by
  have hdrops : ∀ (kind : FilterKind) (f : Filter σ) (outcome : Outcome (Filter σ)),
      kind ≠ .speex →
      outcome.Ensures (fun f' => f'.calls = f.calls + 1 ∧ Fresh f'.calls input f'.output)
        (fun f' => f'.calls = f.calls + 1 ∧ ∀ out ∈ f'.output, out.call = f'.calls) →
      (outcome.map (Decoder.plain kind)).Ensures
        (fun d' => (Decoder.plain kind f).Returned input d'.calls d'.audioChunkOut)
        fun d' => (Decoder.plain kind f).Thrown d'.calls d'.audioChunkOut := by
    intro kind f outcome hkind ensures
    have hskips : ¬ (Decoder.plain kind f).Skips input := by
      cases kind <;> first | exact absurd rfl hkind | exact id
    apply Outcome.ensures_map
    apply ensures.mono
    · rintro f' ⟨hcalls, hfresh⟩
      exact ⟨hcalls, .inr ⟨hskips, hfresh⟩⟩
    · rintro f' ⟨hcalls, hcall⟩
      exact ⟨hcalls, fun out hout => .inr (hcall out hout)⟩
  cases d with
  | plain kind f =>
      cases kind with
      | alaw => exact hdrops .alaw f _ (by decide) (decodeWith_ensures (g711Body_ensures _) _ _ _)
      | ulaw => exact hdrops .ulaw f _ (by decide) (decodeWith_ensures (g711Body_ensures _) _ _ _)
      | gsm => exact hdrops .gsm f _ (by decide) (decodeWith_ensures (gsmBody_ensures codecs) _ _ _)
      | ilbc =>
          exact hdrops .ilbc f _ (by decide) (decodeWith_ensures (ilbcBody_ensures codecs) _ _ _)
      | g722 =>
          exact hdrops .g722 f _ (by decide) (decodeWith_ensures (g722Body_ensures codecs) _ _ _)
      | g721 =>
          exact hdrops .g721 f _ (by decide) (decodeWith_ensures (g721Body_ensures codecs) _ _ _)
      | g729 =>
          exact hdrops .g729 f _ (by decide) (decodeWith_ensures (g729Body_ensures codecs) _ _ _)
      | speex => exact Outcome.ensures_map (speexDecoder_ensures codecs f input)
  | opus f =>
      apply Outcome.ensures_map
      apply (opusCodecDecoder_ensures codecs f input).mono
      · rintro f' ⟨hcalls, hfresh⟩
        exact ⟨hcalls, .inr ⟨id, hfresh⟩⟩
      · rintro f' ⟨hcalls, hcall⟩
        exact ⟨hcalls, fun out hout => .inr (hcall out hout)⟩
  | silk f => exact Outcome.ensures_map (silkCodecDecoder_ensures codecs f input)

/-! ### Runs -/

/-- What the owner of a decoder does: a call of `AudioChunkIn` that returns or throws. -/
inductive Step (codecs : Codecs σ) : Decoder σ → Option AudioChunk → Decoder σ → Prop
  | returned {d d' : Decoder σ} {input : Option AudioChunk} :
      d.audioChunkIn codecs input = .returned d' → Step codecs d input d'
  | thrown {d d' : Decoder σ} {input : Option AudioChunk} {text : String} :
      d.audioChunkIn codecs input = .thrown text d' → Step codecs d input d'

/-- The output, if any, belongs to a call that was made. -/
def Past (d : Decoder σ) : Prop := ∀ out ∈ d.audioChunkOut, out.call ≤ d.calls

theorem returned_spec {codecs : Codecs σ} {d d' : Decoder σ} {input : Option AudioChunk}
    (hin : d.audioChunkIn codecs input = .returned d') :
    d.Returned input d'.calls d'.audioChunkOut := by
  have ensures := audioChunkIn_ensures codecs d input
  rw [hin] at ensures
  exact ensures

theorem Past.step {codecs : Codecs σ} {d d' : Decoder σ} {input : Option AudioChunk}
    (past : d.Past) (step : Step codecs d input d') : d'.Past := by
  intro out hout
  cases step with
  | returned hin =>
      obtain ⟨hcalls, ⟨-, hsame⟩ | ⟨-, hfresh⟩⟩ := returned_spec hin
      · rw [hsame] at hout
        have hbefore := past out hout
        omega
      · obtain ⟨chunk, -, made⟩ := hfresh out hout
        exact Nat.le_of_eq made.call
  | thrown hin =>
      have ensures := audioChunkIn_ensures codecs d input
      rw [hin] at ensures
      obtain ⟨hcalls, hcall⟩ := ensures
      rcases hcall out hout with hbefore | hnow
      · have hcall' := past out hbefore
        omega
      · exact Nat.le_of_eq hnow

/-- A call leaves a stale output exactly when it skips while there is one. -/
theorem Past.fresh_iff {codecs : Codecs σ} {d d' : Decoder σ} {input : Option AudioChunk}
    (past : d.Past) (hin : d.audioChunkIn codecs input = .returned d') :
    Fresh d'.calls input d'.audioChunkOut ↔ ¬ d.KeepsOutput input := by
  obtain ⟨hcalls, ⟨hskips, hsame⟩ | ⟨hdecodes, hfresh⟩⟩ := returned_spec hin
  · constructor
    · rintro hfresh ⟨hsome, -⟩
      obtain ⟨out, hout⟩ := Option.ne_none_iff_exists'.mp hsome
      obtain ⟨chunk, -, made⟩ := hfresh out (by rw [hsame]; exact hout)
      have hbefore := past out hout
      have hcall := made.call
      omega
    · intro hkeeps
      have hnone : d.audioChunkOut = none := by
        by_contra hsome
        exact hkeeps ⟨hsome, hskips⟩
      rw [hsame, hnone]
      exact .none _ _
  · exact iff_of_true hfresh fun hkeeps => hdecodes hkeeps.2

/-- In every run of a decoder that starts without an output. -/
theorem run_past {codecs : Codecs σ} {d d' : Decoder σ} {inputs : List (Option AudioChunk)}
    (hstart : d.audioChunkOut = none) (run : Steps (Step codecs) d inputs d') : d'.Past := by
  apply run.invariant
  · intro s input s' past step
    exact past.step step
  · intro out hout
    rw [hstart] at hout
    cases hout

end Decoder

end OrkAudio
