import OrkAudio.Decoder.Fresh
import OrkAudio.Decoder.Bounds

/-! When a decoder throws on a payload, and what encoding it hands out.

A buffer of no bytes is refused with an exception. All decoders but the one for Speex ask for
some bytes whenever they ask for a buffer. -/

namespace OrkAudio.Decoder

open Lib

variable {σ τ α : Type}

/-- The call ends with an exception. -/
def Outcome.Throws (outcome : Outcome σ) : Prop := ∃ text f, outcome = .thrown text f

namespace Outcome

theorem throws_map {outcome : Outcome σ} {f : σ → τ} :
    (outcome.map f).Throws ↔ outcome.Throws := by
  cases outcome with
  | returned s =>
      constructor
      · rintro ⟨text, s', hs⟩
        cases hs
      · rintro ⟨text, s', hs⟩
        cases hs
  | thrown text s => exact iff_of_true ⟨text, f s, rfl⟩ ⟨text, s, rfl⟩
  | undefined overrun =>
      constructor
      · rintro ⟨text, s', hs⟩
        cases hs
      · rintro ⟨text, s', hs⟩
        cases hs

theorem throws_checked {result : Except Overrun α} {next : α → Outcome σ} :
    (checked result next).Throws ↔ ∃ a, result = .ok a ∧ (next a).Throws := by
  cases result with
  | ok a =>
      constructor
      · intro hthrows
        exact ⟨a, rfl, hthrows⟩
      · rintro ⟨b, hb, hthrows⟩
        cases hb
        exact hthrows
  | error overrun =>
      constructor
      · rintro ⟨text, s, hs⟩
        cases hs
      · rintro ⟨a, ha, -⟩
        cases ha

theorem not_throws_returned (s : σ) : ¬ (returned s).Throws := by
  rintro ⟨text, s', hs⟩
  cases hs

theorem not_throws_of_ensures {outcome : Outcome σ} {returned : σ → Prop}
    (ensures : outcome.Ensures returned fun _ => False) : ¬ outcome.Throws := by
  rintro ⟨text, s, rfl⟩
  exact ensures

end Outcome

theorem emit_throws {f : Filter σ} {details : AudioChunkDetails} {memory : Nat → Int16} :
    (f.emit details memory).Throws ↔ details.numBytes = 0 := by
  unfold Filter.emit
  split_ifs with hnone
  · exact iff_of_true ⟨_, _, rfl⟩ hnone
  · exact iff_of_false (Outcome.not_throws_returned _) hnone

/-- A number of bytes that is not 0 and fits stays so. -/
theorem numBytes_ne_zero {n : Nat} (hsome : 0 < n) (hfits : n < 4294967296) :
    UInt32.ofNat n ≠ 0 := by
  intro hzero
  have htoNat := congrArg UInt32.toNat hzero
  rw [UInt32.toNat_ofNat', Nat.mod_eq_of_lt hfits] at htoNat
  exact absurd htoNat (Nat.ne_of_gt hsome)

theorem not_emit_throws {f : Filter σ} {chunk : AudioChunk} {n : Nat} {memory : Nat → Int16}
    (hsome : 0 < n) (hfits : n < 4294967296) :
    ¬ (f.emit (outputDetails chunk (UInt32.ofNat n)) memory).Throws := by
  rw [emit_throws]
  exact numBytes_ne_zero hsome hfits

/-- A chunk of an RTP packet: its encoding is known, and it has some bytes, but not more than
a datagram. -/
structure FromPacket (chunk : AudioChunk) : Prop where
  encoding : chunk.details.encoding = .alawAudio
  some_bytes : 0 < chunk.details.numBytes.toNat
  datagram : chunk.details.numBytes.toNat < 65536

namespace FromPacket

variable {chunk : AudioChunk} (packet : FromPacket chunk)
include packet

theorem numSamples : chunk.getNumSamples? = some chunk.details.numBytes.toNat := by
  rw [AudioChunk.getNumSamples?, packet.encoding]

theorem getNumBytes : chunk.getNumBytes.toNat = chunk.details.numBytes.toNat := by
  rw [AudioChunk.getNumBytes, toInt32_of_lt (Nat.lt_trans packet.datagram (by decide))]
  rfl

end FromPacket

section Bodies

variable {codecs : Codecs σ} {f : Filter σ} {chunk : AudioChunk} {n : Nat}

theorem g711Body_not_throws (toLinear : UInt8 → Int16) (hsome : 0 < n) (hn : n < 65536) :
    ¬ (g711Body toLinear f chunk n).Throws := by
  unfold g711Body
  rw [Outcome.throws_checked]
  rintro ⟨memory, -, hthrows⟩
  exact not_emit_throws (by omega) (by omega) hthrows

theorem gsmBody_not_throws : ¬ (gsmBody codecs f chunk n).Throws := by
  unfold gsmBody
  rw [Outcome.throws_checked]
  rintro ⟨⟨memory, state⟩, -, hthrows⟩
  rw [emit_throws] at hthrows
  exact absurd hthrows (by decide : (320 : UInt32) ≠ 0)

theorem g721Body_not_throws (packet : FromPacket chunk) :
    ¬ (g721Body codecs f chunk n).Throws := by
  have hsome := packet.some_bytes
  have hfits := packet.datagram
  unfold g721Body
  rw [Outcome.throws_checked, packet.getNumBytes]
  rintro ⟨⟨memory, state⟩, -, hthrows⟩
  exact not_emit_throws (by omega) (by omega) hthrows

theorem g722Body_not_throws (hsome : 0 < n) (hn : n < 65536) :
    ¬ (g722Body codecs f chunk n).Throws := by
  unfold g722Body
  rw [Outcome.throws_checked]
  rintro ⟨⟨memory, state⟩, -, hthrows⟩
  exact not_emit_throws (by omega) (by omega) hthrows

/-- The frames of a payload add to what is written. -/
theorem g729Frames_written {inputSize x written : Nat} {state : σ} {pcmdata : Nat → Int16}
    {result : (Nat → Int16) × Nat × σ}
    (hframes : g729Frames codecs chunk inputSize x written state pcmdata = .ok result) :
    (if x < inputSize then written + g729Samples else written) ≤ result.2.1 := by
  induction hleft : inputSize - x using Nat.strong_induction_on
      generalizing x written state pcmdata with
  | _ left ih =>
    rw [g729Frames] at hframes
    split_ifs at hframes with hx
    · rw [if_pos hx]
      rcases bind_eq_ok.mp hframes with ⟨frame, -, hrest⟩
      rcases bind_eq_ok.mp hrest with ⟨pcmdata', -, hloop⟩
      have hpositive : 0 < if decide (inputSize - x < 8) = true then 2 else 10 := by
        split_ifs <;> omega
      have hmore := ih _ (by omega) hloop rfl
      refine Nat.le_trans ?_ hmore
      split_ifs <;> omega
    · rw [if_neg hx]
      cases hframes
      exact Nat.le_refl _

theorem g729Body_not_throws (packet : FromPacket chunk) :
    ¬ (g729Body codecs f chunk n).Throws := by
  have hsome := packet.some_bytes
  unfold g729Body
  simp only [packet.getNumBytes, if_neg (Nat.ne_of_gt hsome)]
  rw [Outcome.throws_checked]
  rintro ⟨⟨memory, written, state⟩, hresult, hthrows⟩
  rcases bind_eq_ok.mp hresult with ⟨⟨pcmdata, written', state'⟩, hframes, hrest⟩
  rcases bind_eq_ok.mp hrest with ⟨memory', hcopied, hpure⟩
  cases hpure
  have hwritten := g729Frames_written hframes
  rw [if_pos hsome, Nat.zero_add] at hwritten
  have hroom := (succeeds_copyPcmdata pcmdata written').mp ⟨_, hcopied⟩
  have hbounds : 80 ≤ written' ∧ written' ≤ 8000 := ⟨hwritten, hroom⟩
  exact not_emit_throws (n := written' * 2) (by omega) (by omega) hthrows

theorem ilbcBody_not_throws (hsome : 0 < n) (hn : n < 65536) :
    ¬ (ilbcBody codecs f chunk n).Throws := by
  unfold ilbcBody
  split_ifs with hodd
  · exact Outcome.not_throws_returned _
  · rw [Outcome.throws_checked]
    rintro ⟨⟨memory, state⟩, -, hthrows⟩
    refine not_emit_throws ?_ ?_ hthrows
    · split_ifs <;> omega
    · split_ifs <;> omega

/-- The number of bytes that the Speex decoder asks for. -/
def speexBytes (codecs : Codecs σ) (f : Filter σ) (bytes : List UInt8) : UInt32 :=
  UInt32.ofNat (codecs.speexFrameSize * 2 * (codecs.speexDecode f.codec bytes).1.length)

theorem speexDecoder_throws (packet : FromPacket chunk) :
    (speexDecoder codecs f (some chunk)).Throws ↔ chunk.details.rtpPayloadType = ptSpeex ∧
      ∃ bytes, readPayload chunk 0 chunk.details.numBytes.toNat = .ok bytes ∧
        speexBytes codecs f bytes = 0 := by
  have hsome := packet.some_bytes
  unfold speexDecoder
  simp only [packet.numSamples, if_neg (Nat.ne_of_gt hsome), packet.getNumBytes]
  split_ifs with htype
  · exact iff_of_false (Outcome.not_throws_returned _) fun hsame => htype hsame.1
  · rw [Outcome.throws_checked, and_iff_right (not_not.mp htype)]
    exact exists_congr fun bytes => and_congr_right fun _ => emit_throws

theorem decodeWith_throws {body : Filter σ → AudioChunk → Nat → Outcome (Filter σ)}
    {rtpPayloadType : Int} (packet : FromPacket chunk)
    (hbody : ∀ f : Filter σ, ¬ (body f chunk chunk.details.numBytes.toNat).Throws) :
    ¬ (decodeWith rtpPayloadType body f (some chunk)).Throws := by
  have hsome := packet.some_bytes
  unfold decodeWith
  simp only [packet.numSamples, if_neg (Nat.ne_of_gt hsome)]
  split_ifs
  · exact Outcome.not_throws_returned _
  · exact hbody _

theorem opusCodecDecoder_not_throws {f : OpusCodecDecoder σ} (packet : FromPacket chunk) :
    ¬ (opusCodecDecoder codecs f (some chunk)).Throws := by
  have hsome := packet.some_bytes
  unfold opusCodecDecoder
  simp only [packet.numSamples, if_neg (Nat.ne_of_gt hsome)]
  split_ifs
  · exact Outcome.not_throws_returned _
  · exact Outcome.not_throws_returned _
  · exact Outcome.not_throws_returned _
  · exact Outcome.not_throws_of_ensures (opusDecodeChunk_ensures codecs _ chunk)

theorem silkCodecDecoder_not_throws {f : SilkCodecDecoder σ} (packet : FromPacket chunk) :
    ¬ (silkCodecDecoder codecs f (some chunk)).Throws := by
  have hsome := packet.some_bytes
  unfold silkCodecDecoder
  simp only [packet.numSamples, if_neg (Nat.ne_of_gt hsome)]
  split_ifs <;> first
    | exact Outcome.not_throws_returned _
    | exact Outcome.not_throws_of_ensures (silkDecodeChunk_ensures codecs _ chunk)

end Bodies

/-- A decoder throws on the payload of a packet if it is the one for Speex, for a Speex
payload in which it finds no frame. -/
theorem audioChunkIn_throws {codecs : Codecs σ} {d : Decoder σ} {chunk : AudioChunk}
    (packet : FromPacket chunk) :
    (d.audioChunkIn codecs (some chunk)).Throws ↔
      ∃ f, d = .plain .speex f ∧ chunk.details.rtpPayloadType = ptSpeex ∧
        ∃ bytes, readPayload chunk 0 chunk.details.numBytes.toNat = .ok bytes ∧
          speexBytes codecs f bytes = 0 := by
  have hsome := packet.some_bytes
  have hfits := packet.datagram
  cases d with
  | opus f =>
      refine iff_of_false ?_ ?_
      · rw [audioChunkIn, Outcome.throws_map]
        exact opusCodecDecoder_not_throws packet
      · rintro ⟨f', hf, -⟩
        cases hf
  | silk f =>
      refine iff_of_false ?_ ?_
      · rw [audioChunkIn, Outcome.throws_map]
        exact silkCodecDecoder_not_throws packet
      · rintro ⟨f', hf, -⟩
        cases hf
  | plain kind f =>
      rw [audioChunkIn, Outcome.throws_map]
      have hother : kind ≠ .speex → ¬ ∃ f', (Decoder.plain kind f : Decoder σ) = .plain .speex f' ∧
          chunk.details.rtpPayloadType = ptSpeex ∧
          ∃ bytes, readPayload chunk 0 chunk.details.numBytes.toNat = .ok bytes ∧
            speexBytes codecs f' bytes = 0 := by
        rintro hkind ⟨f', hf, -⟩
        cases hf
        exact hkind rfl
      cases kind with
      | alaw =>
          exact iff_of_false (decodeWith_throws packet fun _ => g711Body_not_throws _ hsome hfits)
            (hother (by decide))
      | ulaw =>
          exact iff_of_false (decodeWith_throws packet fun _ => g711Body_not_throws _ hsome hfits)
            (hother (by decide))
      | gsm =>
          exact iff_of_false (decodeWith_throws packet fun _ => gsmBody_not_throws)
            (hother (by decide))
      | ilbc =>
          exact iff_of_false (decodeWith_throws packet fun _ => ilbcBody_not_throws hsome hfits)
            (hother (by decide))
      | g722 =>
          exact iff_of_false (decodeWith_throws packet fun _ => g722Body_not_throws hsome hfits)
            (hother (by decide))
      | g721 =>
          exact iff_of_false (decodeWith_throws packet fun _ => g721Body_not_throws packet)
            (hother (by decide))
      | g729 =>
          exact iff_of_false (decodeWith_throws packet fun _ => g729Body_not_throws packet)
            (hother (by decide))
      | speex =>
          refine (speexDecoder_throws packet).trans ?_
          constructor
          · intro hspeex
            exact ⟨f, rfl, hspeex⟩
          · rintro ⟨f', hf, hspeex⟩
            cases hf
            exact hspeex

/-! ### The encoding of what is handed out -/

/-- An output is a PCM chunk. -/
def Pcm (output : Option DecodedChunk) : Prop :=
  ∀ out ∈ output, out.chunk.details.encoding = .pcmAudio

theorem Pcm.none : Pcm none := by
  intro out hout
  cases hout

theorem Pcm.made {out : DecodedChunk} (hout : out.chunk.details.encoding = .pcmAudio) :
    Pcm (some out) := by
  intro out' hsame
  cases hsame
  exact hout

section Outputs

variable {codecs : Codecs σ} {f : Filter σ} {chunk : AudioChunk} {n : Nat}

theorem emit_pcm (f : Filter σ) (chunk : AudioChunk) (numBytes : UInt32) (memory : Nat → Int16) :
    (f.emit (outputDetails chunk numBytes) memory).Ensures (fun f' => Pcm f'.output)
      fun _ => True := by
  unfold Filter.emit
  split_ifs
  · trivial
  · exact .made rfl

/-- What a body gives that is entered with no output. -/
def YieldsPcm (body : Filter σ → AudioChunk → Nat → Outcome (Filter σ)) : Prop :=
  ∀ (f : Filter σ) (chunk : AudioChunk) (numSamples : Nat), f.output = none →
    (body f chunk numSamples).Ensures (fun f' => Pcm f'.output) fun _ => True

theorem g711Body_pcm (toLinear : UInt8 → Int16) : YieldsPcm (σ := σ) (g711Body toLinear) := by
  intro f chunk numSamples _
  exact Outcome.ensures_checked fun memory => emit_pcm f chunk _ memory

theorem gsmBody_pcm (codecs : Codecs σ) : YieldsPcm (gsmBody codecs) := by
  intro f chunk numSamples _
  exact Outcome.ensures_checked fun (_, state) => emit_pcm { f with codec := state } chunk _ _

theorem g721Body_pcm (codecs : Codecs σ) : YieldsPcm (g721Body codecs) := by
  intro f chunk numSamples _
  exact Outcome.ensures_checked fun (_, state) => emit_pcm { f with codec := state } chunk _ _

theorem g722Body_pcm (codecs : Codecs σ) : YieldsPcm (g722Body codecs) := by
  intro f chunk numSamples _
  exact Outcome.ensures_checked fun (_, state) => emit_pcm { f with codec := state } chunk _ _

theorem g729Body_pcm (codecs : Codecs σ) : YieldsPcm (g729Body codecs) := by
  intro f chunk numSamples _
  exact Outcome.ensures_checked fun (_, _, state) => emit_pcm { f with codec := state } chunk _ _

theorem ilbcBody_pcm (codecs : Codecs σ) : YieldsPcm (ilbcBody codecs) := by
  intro f chunk numSamples hnone
  unfold ilbcBody
  split_ifs
  · rw [Outcome.Ensures, hnone]
    exact .none
  · exact Outcome.ensures_checked fun (_, state) => emit_pcm { f with codec := state } chunk _ _

theorem decodeWith_pcm {body : Filter σ → AudioChunk → Nat → Outcome (Filter σ)}
    (hbody : YieldsPcm body) (rtpPayloadType : Int) (f : Filter σ) (input : Option AudioChunk) :
    (decodeWith rtpPayloadType body f input).Ensures (fun f' => Pcm f'.output) fun _ => True := by
  unfold decodeWith
  cases input with
  | none => exact Pcm.none
  | some chunk =>
      dsimp only
      cases chunk.getNumSamples? with
      | none => trivial
      | some numSamples =>
          dsimp only
          split_ifs
          · exact Pcm.none
          · exact Pcm.none
          · exact hbody _ chunk numSamples rfl

theorem speexDecoder_pcm (pcm : Pcm f.output) (input : Option AudioChunk) :
    (speexDecoder codecs f input).Ensures (fun f' => Pcm f'.output) fun _ => True := by
  unfold speexDecoder
  cases input with
  | none => exact pcm
  | some chunk =>
      dsimp only
      cases chunk.getNumSamples? with
      | none => trivial
      | some numSamples =>
          dsimp only
          split_ifs
          · exact pcm
          · exact pcm
          · exact Outcome.ensures_checked fun _ => emit_pcm _ chunk _ _

theorem opusCodecDecoder_pcm (f : OpusCodecDecoder σ) (input : Option AudioChunk) :
    (opusCodecDecoder codecs f input).Ensures (fun f' => Pcm f'.output) fun _ => True := by
  unfold opusCodecDecoder
  dsimp only
  split
  · exact Pcm.none
  cases input with
  | none => exact Pcm.none
  | some chunk =>
      dsimp only
      cases chunk.getNumSamples? with
      | none => trivial
      | some numSamples =>
          dsimp only
          split_ifs
          · exact Pcm.none
          · exact Pcm.none
          · exact Pcm.none
          · apply Outcome.ensures_checked
            intro bytes
            dsimp only
            split
            · trivial
            · exact Pcm.made rfl

theorem silkCodecDecoder_pcm {f : SilkCodecDecoder σ} (pcm : Pcm f.output)
    (input : Option AudioChunk) :
    (silkCodecDecoder codecs f input).Ensures (fun f' => Pcm f'.output) fun _ => True := by
  unfold silkCodecDecoder
  dsimp only
  split
  · exact pcm
  cases input with
  | none => exact pcm
  | some chunk =>
      dsimp only
      cases chunk.getNumSamples? with
      | none => trivial
      | some numSamples =>
          dsimp only
          split_ifs <;> first
            | exact pcm
            | exact Pcm.none
            | exact Outcome.ensures_checked fun bytes => Pcm.made rfl

end Outputs

/-- Whatever goes in, what comes out of a decoder is PCM. -/
theorem audioChunkIn_pcm (codecs : Codecs σ) {d : Decoder σ} (pcm : Pcm d.audioChunkOut)
    (input : Option AudioChunk) :
    (d.audioChunkIn codecs input).Ensures (fun d' => Pcm d'.audioChunkOut) fun _ => True := by
  have hplain : ∀ (kind : FilterKind) (outcome : Outcome (Filter σ)),
      outcome.Ensures (fun f' => Pcm f'.output) (fun _ => True) →
      (outcome.map (Decoder.plain kind)).Ensures (fun d' => Pcm d'.audioChunkOut)
        fun _ => True := by
    intro kind outcome ensures
    exact Outcome.ensures_map ensures
  cases d with
  | opus f => exact Outcome.ensures_map (opusCodecDecoder_pcm f input)
  | silk f => exact Outcome.ensures_map (silkCodecDecoder_pcm pcm input)
  | plain kind f =>
      cases kind with
      | alaw => exact hplain .alaw _ (decodeWith_pcm (g711Body_pcm _) _ _ _)
      | ulaw => exact hplain .ulaw _ (decodeWith_pcm (g711Body_pcm _) _ _ _)
      | gsm => exact hplain .gsm _ (decodeWith_pcm (gsmBody_pcm codecs) _ _ _)
      | ilbc => exact hplain .ilbc _ (decodeWith_pcm (ilbcBody_pcm codecs) _ _ _)
      | g722 => exact hplain .g722 _ (decodeWith_pcm (g722Body_pcm codecs) _ _ _)
      | g721 => exact hplain .g721 _ (decodeWith_pcm (g721Body_pcm codecs) _ _ _)
      | g729 => exact hplain .g729 _ (decodeWith_pcm (g729Body_pcm codecs) _ _ _)
      | speex => exact hplain .speex _ (speexDecoder_pcm pcm input)

end OrkAudio.Decoder
