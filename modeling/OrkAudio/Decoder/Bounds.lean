import OrkAudio.Decoder.Model

/-! Which payloads a decoder takes without leaving its buffers.

Each decoder has its own expansion of bytes into samples, against a staging buffer of 8000
samples or the frame sizes of its codec. -/

namespace OrkAudio.Decoder

open Lib

variable {σ : Type}

/-! ### Checked accesses -/

@[simp] theorem succeeds_readPayload (chunk : AudioChunk) (offset count : Nat) :
    Succeeds (readPayload chunk offset count) ↔
      offset + count ≤ chunk.details.numBytes.toNat := by
  unfold readPayload
  split <;> simp [*]

@[simp] theorem succeeds_copyPcmdata (pcmdata : Nat → Int16) (count : Nat) :
    Succeeds (copyPcmdata pcmdata count) ↔ count ≤ pcmdataSamples := by
  unfold copyPcmdata
  split <;> simp [*]

theorem readPayload_length {chunk : AudioChunk} {offset count : Nat} {bytes : List UInt8}
    (hread : readPayload chunk offset count = .ok bytes) : bytes.length = count := by
  unfold readPayload at hread
  split at hread
  · obtain rfl := Except.ok.inj hread
    simp
  · cases hread

/-- The call does not leave the defined behaviour. -/
def Outcome.Defined (outcome : Outcome σ) : Prop := ∀ overrun, outcome ≠ .undefined overrun

@[simp] theorem Outcome.defined_checked {α : Type} {result : Except Overrun α}
    {next : α → Outcome σ} :
    (Outcome.checked result next).Defined ↔ ∃ a, result = .ok a ∧ (next a).Defined := by
  cases result with
  | ok a => simp [Outcome.checked]
  | error overrun =>
      simp only [Outcome.checked, reduceCtorEq, false_and, exists_false, iff_false]
      intro defined
      exact defined overrun rfl

@[simp] theorem Filter.emit_defined (f : Filter σ) (details : AudioChunkDetails)
    (memory : Nat → Int16) : (f.emit details memory).Defined := by
  intro overrun
  unfold Filter.emit
  split <;> simp

/-- Where nothing after the accesses can go wrong, the accesses decide. -/
theorem Outcome.defined_checked_of {α : Type} {result : Except Overrun α} {next : α → Outcome σ}
    (hnext : ∀ a, (next a).Defined) :
    (Outcome.checked result next).Defined ↔ Succeeds result := by
  simp [hnext, Succeeds]

/-! ### The loops over bytes and frames -/

/-- Decoding bytes stays inside the payload and the staging buffer when both have room for
all of them. -/
theorem succeeds_decodeBytes {perByte : σ → UInt8 → List Int16 × σ} {expansion : Nat}
    (hexpansion : ∀ state byte, (perByte state byte).1.length = expansion) (chunk : AudioChunk)
    (remaining i position : Nat) (state : σ) (pcmdata : Nat → Int16)
    (hposition : position ≤ pcmdataSamples) :
    Succeeds (decodeBytes perByte chunk remaining i position state pcmdata) ↔
      remaining = 0 ∨ (i + remaining ≤ chunk.details.numBytes.toNat ∧
        position + remaining * expansion ≤ pcmdataSamples) := by
  induction remaining generalizing i position state pcmdata with
  | zero => simp [decodeBytes]
  | succ remaining ih =>
      rw [decodeBytes, succeeds_bind]
      constructor
      · rintro ⟨byte, hread, hrest⟩
        rw [succeeds_bind] at hrest
        obtain ⟨written, hwrite, hrest⟩ := hrest
        have hbyte := (succeeds_readPayload chunk i 1).mp ⟨byte, hread⟩
        have hroom := (Buffer.succeeds_write Overrun.writesPcmdata pcmdataSamples pcmdata position _).mp
          ⟨written, hwrite⟩
        rw [hexpansion] at hroom
        rw [ih _ _ _ _ (by rwa [hexpansion]), hexpansion] at hrest
        refine .inr ?_
        rw [Nat.succ_mul]
        rcases hrest with rfl | hrest <;> omega
      · intro hfits
        rw [Nat.succ_mul] at hfits
        have hbyte : i + 1 ≤ chunk.details.numBytes.toNat := by omega
        obtain ⟨byte, hread⟩ := (succeeds_readPayload chunk i 1).mpr hbyte
        refine ⟨byte, hread, ?_⟩
        rw [succeeds_bind]
        have hroom : position + (perByte state (byte.headD 0)).1.length ≤ pcmdataSamples := by
          rw [hexpansion]
          omega
        obtain ⟨written, hwrite⟩ :=
          (Buffer.succeeds_write Overrun.writesPcmdata pcmdataSamples pcmdata position _).mpr hroom
        refine ⟨written, hwrite, ?_⟩
        rw [ih _ _ _ _ hroom, hexpansion]
        omega

/-- The number of G.729 frames in a payload that consists of whole frames. -/
def g729FrameCount (numBytes : Nat) : Nat := numBytes / 10 + numBytes % 10 / 2

/-- The bytes fall into frames of 10 and, at the end, SID frames of 2, and the samples of
all of them fit after the `written` ones. -/
def G729Fits (numBytes written : Nat) : Prop :=
  numBytes % 10 < 8 ∧ numBytes % 2 = 0 ∧
    written + g729Samples * g729FrameCount numBytes ≤ pcmdataSamples

/-- One turn of the loop over frames. -/
theorem g729Fits_step {left : Nat} (written : Nat) (hleft : 0 < left) :
    G729Fits left written ↔
      (if left < 8 then 2 else 10) ≤ left ∧ written + g729Samples ≤ pcmdataSamples ∧
        G729Fits (left - if left < 8 then 2 else 10) (written + g729Samples) := by
  have hsamples : g729Samples = 80 := rfl
  unfold G729Fits g729FrameCount
  rw [hsamples]
  split <;> omega

theorem g729Frames_spec (codecs : Codecs σ) {chunk : AudioChunk} {inputSize : Nat}
    (hsize : inputSize = chunk.details.numBytes.toNat) (left : Nat) {x written : Nat}
    (hx : x + left = inputSize) (hwritten : written ≤ pcmdataSamples) (state : σ)
    (pcmdata : Nat → Int16) :
    (G729Fits left written → ∃ pcmdata' state',
      g729Frames codecs chunk inputSize x written state pcmdata =
        .ok (pcmdata', written + g729Samples * g729FrameCount left, state')) ∧
    (¬ G729Fits left written →
      ¬ Succeeds (g729Frames codecs chunk inputSize x written state pcmdata)) := by
  induction left using Nat.strong_induction_on generalizing x written state pcmdata with
  | _ left ih =>
    rw [g729Frames]
    by_cases hleft : 0 < left
    · rw [if_pos (show x < inputSize by omega), show inputSize - x = left by omega]
      simp only [decide_eq_true_eq]
      have hsame := g729Fits_step written hleft
      generalize hframesize : (if left < 8 then 2 else 10) = framesize at hsame ⊢
      have hpositive : 0 < framesize := by split at hframesize <;> omega
      constructor
      · intro hfits
        obtain ⟨hframe, hroom, hrest⟩ := hsame.mp hfits
        obtain ⟨frame, hread⟩ := (succeeds_readPayload chunk x framesize).mpr (by omega)
        generalize hdecoded : codecs.bcg729Decoder state (some frame) (decide (left < 8)) = decoded
        obtain ⟨pcmdata', hwrite⟩ := (Buffer.succeeds_write Overrun.writesPcmdata pcmdataSamples pcmdata
          written decoded.1.toList).mpr (by simpa using hroom)
        have hnext := (ih (left - framesize) (by omega) (by omega : x + framesize + (left - framesize)
          = inputSize) hroom decoded.2 pcmdata').1 hrest
        obtain ⟨pcmdata'', state'', hloop⟩ := hnext
        refine ⟨pcmdata'', state'', ?_⟩
        have hcount : written + g729Samples * g729FrameCount left =
            written + g729Samples + g729Samples * g729FrameCount (left - framesize) := by
          have hsamples : g729Samples = 80 := rfl
          unfold G729Fits at hfits hrest
          unfold g729FrameCount
          rw [hsamples]
          split at hframesize <;> omega
        rw [hcount, ← hloop]
        simp only [hread, hdecoded, hwrite, bind, Except.bind]
      · intro hfits hsucceeds
        rw [succeeds_bind] at hsucceeds
        obtain ⟨frame, hread, hsucceeds⟩ := hsucceeds
        rw [succeeds_bind] at hsucceeds
        obtain ⟨pcmdata', hwrite, hloop⟩ := hsucceeds
        have hframe := (succeeds_readPayload chunk x framesize).mp ⟨frame, hread⟩
        have hroom := (Buffer.succeeds_write Overrun.writesPcmdata pcmdataSamples pcmdata written _).mp
          ⟨pcmdata', hwrite⟩
        simp only [Vector.length_toList] at hroom
        have hrest : ¬ G729Fits (left - framesize) (written + g729Samples) := by
          intro hrest
          exact hfits (hsame.mpr ⟨by omega, hroom, hrest⟩)
        exact (ih (left - framesize) (by omega) (by omega : x + framesize + (left - framesize)
          = inputSize) hroom _ _).2 hrest hloop
    · obtain rfl : left = 0 := by omega
      rw [if_neg (by omega)]
      constructor
      · intro _
        exact ⟨pcmdata, state, by simp [g729FrameCount]⟩
      · intro hfits
        exact absurd ⟨by omega, by omega, by simpa [g729FrameCount] using hwritten⟩ hfits

theorem succeeds_ilbcFrames {decode : σ → List UInt8 → List Int16 × σ} {fs frameSamples : Nat}
    (hdecode : ∀ state frame, (decode state frame).1.length = frameSamples)
    {chunk : AudioChunk} {frames oSamples : Nat} (hframes : frames * fs ≤ chunk.details.numBytes.toNat)
    (remaining i : Nat) (hremaining : i + remaining = frames) (state : σ) (memory : Nat → Int16) :
    Succeeds (ilbcFrames decode chunk fs frameSamples oSamples remaining i state memory) := by
  induction remaining generalizing i state memory with
  | zero => simp [ilbcFrames]
  | succ remaining ih =>
      rw [ilbcFrames, succeeds_if]
      refine ⟨?_, fun _ => succeeds_ok _⟩
      intro hroom
      have hread : i * fs + fs ≤ chunk.details.numBytes.toNat := by
        refine le_trans ?_ hframes
        rw [← Nat.succ_mul]
        exact Nat.mul_le_mul_right fs (by omega)
      rw [succeeds_bind]
      obtain ⟨frame, hframe⟩ := (succeeds_readPayload chunk (i * fs) fs).mpr hread
      refine ⟨frame, hframe, ?_⟩
      rw [succeeds_bind]
      obtain ⟨written, hwritten⟩ := (Buffer.succeeds_write Overrun.writesOutput oSamples memory
        (i * frameSamples) (decode state frame).1).mpr (by rwa [hdecode])
      exact ⟨written, hwritten, ih (i + 1) (by omega) _ _⟩

/-! ### What each decoder needs -/

/-- The payload type that a filter decodes. -/
def payloadTypeOf : FilterKind → Int
  | .alaw => ptPcma
  | .ulaw => ptPcmu
  | .gsm => ptGsm
  | .ilbc => ptIlbc
  | .g722 => ptG722
  | .g721 => ptG721
  | .g729 => ptG729
  | .speex => ptSpeex

/-- The payloads that a filter decodes inside its buffers. -/
def Fits (kind : FilterKind) (chunk : AudioChunk) (numSamples : Nat) : Prop :=
  match kind with
  | .gsm => (chunk.byteAt 0).toNat / 16 = gsmMagic → 33 ≤ chunk.details.numBytes.toNat
  | .g722 => numSamples ≤ pcmdataSamples
  | .g721 => chunk.details.numBytes.toNat * 2 ≤ pcmdataSamples
  | .g729 => G729Fits chunk.details.numBytes.toNat 0
  | .alaw | .ulaw | .ilbc | .speex => True

instance (numBytes written : Nat) : Decidable (G729Fits numBytes written) :=
  inferInstanceAs (Decidable (_ ∧ _))

instance (kind : FilterKind) (chunk : AudioChunk) (numSamples : Nat) :
    Decidable (Fits kind chunk numSamples) :=
  match kind with
  | .gsm => inferInstanceAs (Decidable (_ → _))
  | .g722 => inferInstanceAs (Decidable (_ ≤ _))
  | .g721 => inferInstanceAs (Decidable (_ ≤ _))
  | .g729 => inferInstanceAs (Decidable (G729Fits _ _))
  | .alaw | .ulaw | .ilbc | .speex => inferInstanceAs (Decidable True)

theorem getNumSamples?_le {chunk : AudioChunk} {numSamples : Nat}
    (hsamples : chunk.getNumSamples? = some numSamples) :
    numSamples ≤ chunk.details.numBytes.toNat := by
  unfold AudioChunk.getNumSamples? at hsamples
  split at hsamples <;> first | cases hsamples; omega | cases hsamples

section

variable (codecs : Codecs σ) (f : Filter σ) {chunk : AudioChunk} {numSamples : Nat}

theorem g711Body_defined (toLinear : UInt8 → Int16)
    (hsamples : numSamples ≤ chunk.details.numBytes.toNat) :
    (g711Body toLinear f chunk numSamples).Defined := by
  unfold g711Body
  rw [Outcome.defined_checked_of fun memory => Filter.emit_defined _ _ _, succeeds_bind]
  obtain ⟨bytes, hread⟩ := (succeeds_readPayload chunk 0 numSamples).mpr (by omega)
  refine ⟨bytes, hread, ?_⟩
  rw [Buffer.succeeds_write, List.length_map, readPayload_length hread]
  omega

theorem gsmBody_defined (hsome : 0 < chunk.details.numBytes.toNat) :
    (gsmBody codecs f chunk numSamples).Defined ↔ Fits .gsm chunk numSamples := by
  unfold gsmBody gsmDecode Fits
  rw [Outcome.defined_checked_of fun decoded => Filter.emit_defined _ _ _]
  have hfirst : readPayload chunk 0 1 = .ok [chunk.byteAt 0] := by
    unfold readPayload
    rw [if_pos (by omega)]
    rfl
  rw [succeeds_bind]
  simp only [hfirst, Except.ok.injEq, exists_eq_left']
  by_cases hmagic : ([chunk.byteAt 0].headD 0).toNat / 16 = gsmMagic
  · rw [if_neg (not_not.mpr hmagic), succeeds_bind]
    constructor
    · rintro ⟨frame, hread, -⟩ -
      have hframe := (succeeds_readPayload chunk 0 33).mp ⟨frame, hread⟩
      omega
    · intro hfits
      obtain ⟨frame, hread⟩ := (succeeds_readPayload chunk 0 33).mpr (by have := hfits hmagic; omega)
      refine ⟨frame, hread, ?_⟩
      rw [succeeds_bind]
      obtain ⟨memory, hwrite⟩ := (Buffer.succeeds_write Overrun.writesOutput 160 (fun _ => 0) 0
        (codecs.gsmDecoder f.codec frame).1.toList).mpr (by simp)
      exact ⟨memory, hwrite, succeeds_ok _⟩
  · rw [if_pos hmagic]
    exact iff_of_true (succeeds_ok _) fun hmagic' => absurd hmagic' hmagic

theorem g721Body_defined (hdatagram : chunk.details.numBytes.toNat ≤ 65535) :
    (g721Body codecs f chunk numSamples).Defined ↔ Fits .g721 chunk numSamples := by
  have hsize : chunk.getNumBytes.toNat = chunk.details.numBytes.toNat := by
    rw [AudioChunk.getNumBytes, toInt32_of_lt (by omega)]
    rfl
  have hloop := succeeds_decodeBytes
    (show ∀ state byte, (g721PerByte codecs state byte).1.length = 2 from fun _ _ => rfl) chunk chunk.details.numBytes.toNat 0 0 f.codec (fun _ => 0) (Nat.zero_le _)
  unfold g721Body Fits
  rw [Outcome.defined_checked_of fun decoded => Filter.emit_defined _ _ _, hsize, succeeds_bind]
  constructor
  · rintro ⟨decoded, hdecoded, -⟩
    rcases hloop.mp ⟨decoded, hdecoded⟩ with hnone | ⟨-, hroom⟩ <;> omega
  · intro hfits
    obtain ⟨decoded, hdecoded⟩ := hloop.mpr (.inr ⟨by omega, by omega⟩)
    refine ⟨decoded, hdecoded, ?_⟩
    rw [succeeds_bind]
    obtain ⟨memory, hcopied⟩ := (succeeds_copyPcmdata decoded.1 _).mpr hfits
    exact ⟨memory, hcopied, succeeds_ok _⟩

theorem g722Body_defined (hsamples : numSamples ≤ chunk.details.numBytes.toNat) :
    (g722Body codecs f chunk numSamples).Defined ↔ Fits .g722 chunk numSamples := by
  have hloop := succeeds_decodeBytes
    (show ∀ state byte, (g722PerByte codecs state byte).1.length = 1 from fun _ _ => rfl) chunk numSamples 0 0 f.codec (fun _ => 0) (Nat.zero_le _)
  unfold g722Body Fits
  rw [Outcome.defined_checked_of fun decoded => Filter.emit_defined _ _ _, succeeds_bind]
  constructor
  · rintro ⟨decoded, hdecoded, -⟩
    rcases hloop.mp ⟨decoded, hdecoded⟩ with hnone | ⟨-, hroom⟩ <;> omega
  · intro hfits
    obtain ⟨decoded, hdecoded⟩ := hloop.mpr (.inr ⟨by omega, by omega⟩)
    refine ⟨decoded, hdecoded, ?_⟩
    rw [succeeds_bind]
    obtain ⟨memory, hcopied⟩ := (succeeds_copyPcmdata decoded.1 _).mpr hfits
    exact ⟨memory, hcopied, succeeds_ok _⟩

theorem g729Body_defined (hsome : 0 < chunk.details.numBytes.toNat)
    (hdatagram : chunk.details.numBytes.toNat ≤ 65535) :
    (g729Body codecs f chunk numSamples).Defined ↔ Fits .g729 chunk numSamples := by
  have hsize : chunk.getNumBytes.toNat = chunk.details.numBytes.toNat := by
    rw [AudioChunk.getNumBytes, toInt32_of_lt (by omega)]
    rfl
  obtain ⟨hfits, hoverruns⟩ := g729Frames_spec codecs
    (rfl : chunk.details.numBytes.toNat = chunk.details.numBytes.toNat)
    chunk.details.numBytes.toNat (Nat.zero_add _) (Nat.zero_le pcmdataSamples) f.codec fun _ => 0
  unfold g729Body Fits
  simp only [hsize, if_neg (show ¬ chunk.details.numBytes.toNat = 0 by omega)]
  rw [Outcome.defined_checked_of fun decoded => Filter.emit_defined _ _ _, succeeds_bind]
  constructor
  · rintro ⟨decoded, hdecoded, -⟩
    by_contra hnot
    exact hoverruns hnot ⟨decoded, hdecoded⟩
  · intro hroom
    obtain ⟨pcmdata, state, hdecoded⟩ := hfits hroom
    refine ⟨_, hdecoded, ?_⟩
    rw [succeeds_bind]
    obtain ⟨memory, hcopied⟩ := (succeeds_copyPcmdata pcmdata _).mpr hroom.2.2
    exact ⟨memory, hcopied, succeeds_ok _⟩

theorem ilbcBody_defined (hsamples : numSamples ≤ chunk.details.numBytes.toNat) :
    (ilbcBody codecs f chunk numSamples).Defined := by
  unfold ilbcBody
  simp only
  split
  · intro overrun
    simp
  · rw [Outcome.defined_checked_of fun decoded => Filter.emit_defined _ _ _]
    refine succeeds_ilbcFrames ?_ ?_ _ _ (Nat.zero_add _) _ _
    · intro state frame
      split <;> simp
    · exact le_trans (Nat.div_mul_le_self _ _) hsamples

theorem speexDecoder_defined (hdatagram : chunk.details.numBytes.toNat ≤ 65535) :
    (speexDecoder codecs f (some chunk)).Defined := by
  have hsize : chunk.getNumBytes.toNat = chunk.details.numBytes.toNat := by
    rw [AudioChunk.getNumBytes, toInt32_of_lt (by omega)]
    rfl
  unfold speexDecoder
  simp only
  cases chunk.getNumSamples? with
  | none => intro overrun; simp
  | some numSamples =>
      simp only
      split
      · intro overrun; simp
      · split
        · intro overrun; simp
        · rw [Outcome.defined_checked_of fun bytes => Filter.emit_defined _ _ _,
            succeeds_readPayload, hsize, Nat.zero_add]

end

/-- Past the checks, the body decides. -/
theorem decodeWith_defined (rtpPayloadType : Int)
    (body : Filter σ → AudioChunk → Nat → Outcome (Filter σ)) (f : Filter σ) (chunk : AudioChunk) :
    (decodeWith rtpPayloadType body f (some chunk)).Defined ↔
      ∀ numSamples, chunk.getNumSamples? = some numSamples → numSamples ≠ 0 →
        chunk.details.rtpPayloadType = rtpPayloadType →
        (body { f with output := none, calls := f.calls + 1 } chunk numSamples).Defined := by
  unfold decodeWith
  simp only
  cases hsamples : chunk.getNumSamples? with
  | none => simp [Outcome.Defined]
  | some numSamples =>
      simp only [Option.some.injEq, forall_eq']
      split
      · simp [*, Outcome.Defined]
      · split
        · simp [*, Outcome.Defined]
        · simp_all

/-- A decoder filter stays inside its buffers exactly when the payload it is to decode fits
them: any number of bytes for most, whole frames of at most 100 for G.729, at most 4000
bytes for G.726, at most 8000 samples for G.722, at least a frame for GSM. -/
theorem in_bounds_iff (codecs : Codecs σ) (kind : FilterKind) (f : Filter σ) (chunk : AudioChunk)
    (hsome : 0 < chunk.details.numBytes.toNat) (hdatagram : chunk.details.numBytes.toNat ≤ 65535) :
    (plainChunkIn codecs kind f (some chunk)).Defined ↔
      ∀ numSamples, chunk.getNumSamples? = some numSamples → numSamples ≠ 0 →
        chunk.details.rtpPayloadType = payloadTypeOf kind → Fits kind chunk numSamples := by
  cases kind with
  | alaw =>
      refine iff_of_true ((decodeWith_defined _ _ _ _).mpr ?_) fun _ _ _ _ => trivial
      intro numSamples hsamples _ _
      exact g711Body_defined _ _ (getNumSamples?_le hsamples)
  | ulaw =>
      refine iff_of_true ((decodeWith_defined _ _ _ _).mpr ?_) fun _ _ _ _ => trivial
      intro numSamples hsamples _ _
      exact g711Body_defined _ _ (getNumSamples?_le hsamples)
  | gsm =>
      refine (decodeWith_defined _ _ _ _).trans ?_
      simp only [gsmBody_defined codecs _ hsome]
      rfl
  | ilbc =>
      refine iff_of_true ((decodeWith_defined _ _ _ _).mpr ?_) fun _ _ _ _ => trivial
      intro numSamples hsamples _ _
      exact ilbcBody_defined codecs _ (getNumSamples?_le hsamples)
  | g722 =>
      refine (decodeWith_defined _ _ _ _).trans ?_
      refine forall_congr' fun numSamples => forall_congr' fun hsamples => ?_
      rw [g722Body_defined codecs _ (getNumSamples?_le hsamples)]
      rfl
  | g721 =>
      refine (decodeWith_defined _ _ _ _).trans ?_
      simp only [g721Body_defined codecs _ hdatagram]
      rfl
  | g729 =>
      refine (decodeWith_defined _ _ _ _).trans ?_
      simp only [g729Body_defined codecs _ hsome hdatagram]
      rfl
  | speex => exact iff_of_true (speexDecoder_defined codecs f hdatagram) fun _ _ _ _ => trivial

/-- Codecs that decode everything to silence. -/
def silentCodecs : Codecs Unit where
  bcg729Decoder _ _ _ := (Vector.replicate 80 0, ())
  g721Decoder _ _ := (0, ())
  g722Sample _ _ := (0, ())
  gsmDecoder _ _ := (Vector.replicate 160 0, ())
  iLbcDecode30 _ _ := (Vector.replicate 240 0, ())
  iLbcDecode20 _ _ := (Vector.replicate 160 0, ())
  opusDecode _ _ _ := ((160, fun _ => 0), ())
  silkDecode _ _ _ := (fun _ => 0, ())
  speexFrameSize := 160
  speexDecode _ _ := ([], ())

/-- A payload of so many zero bytes. -/
def payload (rtpPayloadType : Int) (numBytes : UInt32) : AudioChunk :=
  { details :=
      { encoding := .alawAudio, numBytes := numBytes, rtpPayloadType := rtpPayloadType }
    buffer := fun _ => 0 }

theorem in_bounds_two_frames :
    (plainChunkIn silentCodecs .g729 { codec := () } (some (payload ptG729 20))).Defined :=
  (in_bounds_iff silentCodecs .g729 { codec := () } (payload ptG729 20) (by decide)
    (by decide)).mpr fun _ _ _ _ => (by decide : G729Fits 20 0)

/-- A G.729 payload of 8 bytes is taken for a frame of 10. -/
theorem decoder_overruns : ¬ ∀ (codecs : Codecs Unit) (kind : FilterKind) (f : Filter Unit)
    (chunk : AudioChunk), kind ∈ [FilterKind.g729, .g721, .g722, .gsm] →
    0 < chunk.details.numBytes.toNat → chunk.details.numBytes.toNat ≤ 65535 →
    (plainChunkIn codecs kind f (some chunk)).Defined := by
  intro defined
  have hdefined : (decodeWith ptG729 (g729Body silentCodecs) { codec := () }
      (some (payload ptG729 8))).Defined :=
    defined silentCodecs .g729 { codec := () } (payload ptG729 8) (by decide) (by decide)
      (by decide)
  have hbody := (decodeWith_defined _ _ _ _).mp hdefined 8 rfl (by decide) rfl
  have hfits := (g729Body_defined silentCodecs _ (by decide) (by decide)).mp hbody
  exact absurd hfits (by decide)

end OrkAudio.Decoder
