import OrkAudio.AudioChunk
import OrkAudio.Lib.Buffer

/-! The decoder filters: each takes RTP payloads in and gives PCM chunks out.

The codecs themselves are parameters. Memory is accessed through checked reads and writes,
and an access outside a buffer ends the call with no defined outcome. Every output chunk
carries the number of the call that allocated it, which no function reads back. Log texts
and the flags that only limit logging are left out. -/

namespace OrkAudio

/-- The payload types of `RtpPayloadTypeEnum` that have a decoder, and the ones that the
filters spell as numbers. -/
abbrev ptPcmu : Int := 0
abbrev ptG721 : Int := 2
abbrev ptGsm : Int := 3
abbrev ptPcma : Int := 8
abbrev ptG722 : Int := 9
abbrev ptG729 : Int := 18
abbrev ptOpus : Int := 60
abbrev ptIlbc : Int := 63
abbrev ptSilk : Int := 64
abbrev ptSpeex : Int := 66

/-- The byte at an offset of `m_pBuffer`, each sample low byte first. -/
def AudioChunk.byteAt (chunk : AudioChunk) (offset : Nat) : UInt8 :=
  let sample := (chunk.buffer (offset / 2)).toUInt16.toNat
  UInt8.ofNat (if offset % 2 = 0 then sample else sample / 256)

open Lib

namespace Decoder

/-- An access outside a buffer. -/
inductive Overrun
  | readsPayload | writesPcmdata | readsPcmdata | writesOutput
  deriving DecidableEq, Repr

/-- The bytes `[offset, offset + count)` of the payload. -/
def readPayload (chunk : AudioChunk) (offset count : Nat) : Except Overrun (List UInt8) :=
  if offset + count ≤ chunk.details.numBytes.toNat then
    .ok ((List.range count).map fun i => chunk.byteAt (offset + i))
  else .error .readsPayload

/-- The size of the staging buffers `pcmdata`. -/
abbrev pcmdataSamples : Nat := 8000

/-- `memcpy(outputBuffer, pcmdata, ..)` of so many samples. -/
def copyPcmdata (pcmdata : Nat → Int16) (count : Nat) : Except Overrun (Nat → Int16) :=
  if count ≤ pcmdataSamples then .ok fun i => if i < count then pcmdata i else 0
  else .error .readsPcmdata

/-- How a call ends: it returns, it throws, or it leaves the defined behaviour. -/
inductive Outcome (σ : Type)
  | returned (filter : σ)
  | thrown (text : String) (filter : σ)
  | undefined (overrun : Overrun)

namespace Outcome

variable {σ τ α : Type}

/-- Go on with the result of checked accesses. -/
def checked (result : Except Overrun α) (next : α → Outcome σ) : Outcome σ :=
  match result with
  | .ok a => next a
  | .error overrun => .undefined overrun

def map (f : σ → τ) : Outcome σ → Outcome τ
  | .returned filter => .returned (f filter)
  | .thrown text filter => .thrown text (f filter)
  | .undefined overrun => .undefined overrun

end Outcome

/-- A chunk that a decoder made, with the number of the call that allocated it. -/
structure DecodedChunk where
  call : Nat
  chunk : AudioChunk

/-- What every decoder keeps: the state of its codec and its last output. `calls` counts
the calls of `AudioChunkIn`. -/
structure Filter (σ : Type) where
  codec : σ
  output : Option DecodedChunk := none
  calls : Nat := 0

/-- The codec libraries, over one type of states.
`bcg729Decoder` takes the bytes of a frame (none for a lost one) and whether it is a SID
frame. `iLbcDecode30` and `iLbcDecode20` include the conversion from `float`. `opusDecode`
gives the return value and the buffer. The SILK decoders give what is in the buffer after
the last internal frame. `speexDecode` gives the frames up to the end of the stream. -/
structure Codecs (σ : Type) where
  bcg729Decoder : σ → Option (List UInt8) → Bool → Vector Int16 80 × σ
  g721Decoder : σ → UInt8 → Int16 × σ
  g722Sample : σ → UInt8 → Int16 × σ
  gsmDecoder : σ → List UInt8 → Vector Int16 160 × σ
  iLbcDecode30 : σ → List UInt8 → Vector Int16 240 × σ
  iLbcDecode20 : σ → List UInt8 → Vector Int16 160 × σ
  opusDecode : σ → List UInt8 → Int → (Int × (Nat → Int16)) × σ
  silkDecode : σ → Nat → List UInt8 → (Nat → Int16) × σ
  speexFrameSize : Nat
  speexDecode : σ → List UInt8 → List (Vector Int16 speexFrameSize) × σ

variable {σ : Type}

/-- The text of the exception of `GetNumSamples`; the chunk's own description follows. -/
def unknownEncodingText : String := "AudioChunk::GetNumSamples(): unknown encoding. Chunk:"

/-- The text of the exception of `CreateBuffer` without bytes. -/
def emptyBufferText : String := "AudioChunk::AudioChunk: could not calloc a buffer of size:0"

/-- The details of an output chunk: those of the input with the ones overridden that the
filter changes. -/
def outputDetails (chunk : AudioChunk) (numBytes : UInt32) : AudioChunkDetails :=
  { chunk.details with rtpPayloadType := -1, encoding := .pcmAudio, numBytes := numBytes }

/-- `m_outputAudioChunk.reset(new AudioChunk())`, then `CreateBuffer` and what is written
there. -/
def Filter.emit (f : Filter σ) (details : AudioChunkDetails) (memory : Nat → Int16) :
    Outcome (Filter σ) :=
  if details.numBytes = 0 then
    .thrown emptyBufferText { f with output := some ⟨f.calls, AudioChunk.plain⟩ }
  else .returned { f with
    output := some ⟨f.calls, { AudioChunk.plain with details := details, buffer := memory }⟩ }

/-- A call of `AudioChunkIn` as the filters that drop their last output first begin it. -/
def decodeWith (rtpPayloadType : Int) (body : Filter σ → AudioChunk → Nat → Outcome (Filter σ))
    (f : Filter σ) (input : Option AudioChunk) : Outcome (Filter σ) :=
  let f := { f with output := none, calls := f.calls + 1 }
  match input with
  | none => .returned f
  | some chunk =>
      match chunk.getNumSamples? with
      | none => .thrown unknownEncodingText f
      | some numSamples =>
          if numSamples = 0 then .returned f
          else if chunk.details.rtpPayloadType ≠ rtpPayloadType then .returned f
          else body f chunk numSamples

/-! ### G.711 -/

def alaw2linear (byte : UInt8) : Int16 :=
  let aVal := byte.toNat ^^^ 0x55
  let t := (aVal &&& 0xf) <<< 4
  let seg := (aVal &&& 0x70) >>> 4
  let t :=
    if seg = 0 then t + 8
    else if seg = 1 then t + 0x108
    else (t + 0x108) <<< (seg - 1)
  if aVal &&& 0x80 ≠ 0 then Int16.ofInt t else Int16.ofInt (-(t : Int))

/-- `BIAS` of the u-law code. -/
abbrev ulawBias : Nat := 0x84

def ulaw2linear (byte : UInt8) : Int16 :=
  let uVal := 255 - byte.toNat
  let t := (((uVal &&& 0xf) <<< 3) + ulawBias) <<< ((uVal &&& 0x70) >>> 4)
  if uVal &&& 0x80 ≠ 0 then Int16.ofInt ((ulawBias : Int) - t) else Int16.ofInt ((t : Int) - ulawBias)

/-- One sample from each byte, written to an output buffer of that many samples. -/
def g711Body (toLinear : UInt8 → Int16) (f : Filter σ) (chunk : AudioChunk) (numSamples : Nat) :
    Outcome (Filter σ) :=
  .checked (do
    let bytes ← readPayload chunk 0 numSamples
    Buffer.write .writesOutput numSamples (fun _ => 0) 0 (bytes.map toLinear)) fun memory =>
  f.emit (outputDetails chunk (UInt32.ofNat (numSamples * 2))) memory

def alawToPcm (f : Filter σ) (input : Option AudioChunk) : Outcome (Filter σ) :=
  decodeWith ptPcma (g711Body alaw2linear) f input

def ulawToPcm (f : Filter σ) (input : Option AudioChunk) : Outcome (Filter σ) :=
  decodeWith ptPcmu (g711Body ulaw2linear) f input

/-! ### GSM -/

/-- `GSM_MAGIC`, the upper half of a frame's first byte. -/
abbrev gsmMagic : Nat := 0xD

/-- `gsm_decode`: a frame without the magic is left alone after its first byte. -/
def gsmDecode (codecs : Codecs σ) (state : σ) (chunk : AudioChunk) :
    Except Overrun ((Nat → Int16) × σ) := do
  let first ← readPayload chunk 0 1
  if (first.headD 0).toNat / 16 ≠ gsmMagic then .ok (fun _ => 0, state)
  else
    let frame ← readPayload chunk 0 33
    let (samples, state) := codecs.gsmDecoder state frame
    let memory ← Buffer.write .writesOutput 160 (fun _ => 0) 0 samples.toList
    .ok (memory, state)

def gsmBody (codecs : Codecs σ) (f : Filter σ) (chunk : AudioChunk) (_numSamples : Nat) :
    Outcome (Filter σ) :=
  -- standard GSM frame is 33 bytes for 160 PCM samples (20 ms)
  .checked (gsmDecode codecs f.codec chunk) fun (memory, state) =>
  { f with codec := state }.emit (outputDetails chunk 320) memory

def gsmToPcm (codecs : Codecs σ) (f : Filter σ) (input : Option AudioChunk) :
    Outcome (Filter σ) :=
  decodeWith ptGsm (gsmBody codecs) f input

/-! ### G.722 and G.726 -/

/-- The samples of one byte after the other, written to `pcmdata` from `position` on. -/
def decodeBytes (perByte : σ → UInt8 → List Int16 × σ) (chunk : AudioChunk) :
    Nat → Nat → Nat → σ → (Nat → Int16) → Except Overrun ((Nat → Int16) × σ)
  | 0, _, _, state, pcmdata => .ok (pcmdata, state)
  | remaining + 1, i, position, state, pcmdata => do
      let byte ← readPayload chunk i 1
      let (samples, state) := perByte state (byte.headD 0)
      let pcmdata ← Buffer.write .writesPcmdata pcmdataSamples pcmdata position samples
      decodeBytes perByte chunk remaining (i + 1) (position + samples.length) state pcmdata

/-- G.726-32: the lower four bits of a byte first. -/
def g721PerByte (codecs : Codecs σ) (state : σ) (byte : UInt8) : List Int16 × σ :=
  let (lower, state) := codecs.g721Decoder state (byte &&& 0xF)
  let (upper, state) := codecs.g721Decoder state ((byte >>> 4) &&& 0xF)
  ([lower, upper], state)

def g721Body (codecs : Codecs σ) (f : Filter σ) (chunk : AudioChunk) (_numSamples : Nat) :
    Outcome (Filter σ) :=
  let inputSize := chunk.getNumBytes.toNat
  .checked (do
    let (pcmdata, state) ← decodeBytes (g721PerByte codecs) chunk inputSize 0 0 f.codec fun _ => 0
    let memory ← copyPcmdata pcmdata (inputSize * 2)
    pure (memory, state)) fun (memory, state) =>
  { f with codec := state }.emit (outputDetails chunk (UInt32.ofNat (inputSize * 4))) memory

def g721CodecDecoder (codecs : Codecs σ) (f : Filter σ) (input : Option AudioChunk) :
    Outcome (Filter σ) :=
  decodeWith ptG721 (g721Body codecs) f input

/-- `g722_decode` with a decoder that gives 8000 samples a second: one sample a byte. -/
def g722PerByte (codecs : Codecs σ) (state : σ) (byte : UInt8) : List Int16 × σ :=
  let (sample, state) := codecs.g722Sample state byte
  ([sample], state)

def g722Body (codecs : Codecs σ) (f : Filter σ) (chunk : AudioChunk) (numSamples : Nat) :
    Outcome (Filter σ) :=
  .checked (do
    let (pcmdata, state) ← decodeBytes (g722PerByte codecs) chunk numSamples 0 0 f.codec fun _ => 0
    let memory ← copyPcmdata pcmdata numSamples
    pure (memory, state)) fun (memory, state) =>
  { f with codec := state }.emit (outputDetails chunk (UInt32.ofNat (numSamples * 2))) memory

def g722ToPcm (codecs : Codecs σ) (f : Filter σ) (input : Option AudioChunk) :
    Outcome (Filter σ) :=
  decodeWith ptG722 (g722Body codecs) f input

/-! ### G.729 -/

/-- `G729_SAMPLES`. -/
abbrev g729Samples : Nat := 80

/-- The frames from `x` on: less than 8 bytes left are taken for a SID frame. `written`
is how far `ddp` lies in `pcmdata`. -/
def g729Frames (codecs : Codecs σ) (chunk : AudioChunk) (inputSize x written : Nat) (state : σ)
    (pcmdata : Nat → Int16) : Except Overrun ((Nat → Int16) × Nat × σ) :=
  if x < inputSize then do
    let isSID : Bool := inputSize - x < 8
    let framesize := if isSID then 2 else 10
    let frame ← readPayload chunk x framesize
    let (samples, state) := codecs.bcg729Decoder state (some frame) isSID
    let pcmdata ← Buffer.write .writesPcmdata pcmdataSamples pcmdata written samples.toList
    g729Frames codecs chunk inputSize (x + framesize) (written + g729Samples) state pcmdata
  else .ok (pcmdata, written, state)
termination_by inputSize - x
decreasing_by
  split <;> omega

def g729Body (codecs : Codecs σ) (f : Filter σ) (chunk : AudioChunk) (_numSamples : Nat) :
    Outcome (Filter σ) :=
  let inputSize := chunk.getNumBytes.toNat
  .checked (do
    let (pcmdata, written, state) ←
      if inputSize = 0 then do
        -- native PLC interpolation
        let (samples, state) := codecs.bcg729Decoder f.codec none false
        let pcmdata ← Buffer.write .writesPcmdata pcmdataSamples (fun _ => 0) 0 samples.toList
        pure (pcmdata, g729Samples, state)
      else g729Frames codecs chunk inputSize 0 0 f.codec fun _ => 0
    let memory ← copyPcmdata pcmdata written
    pure (memory, written, state)) fun (memory, written, state) =>
  { f with codec := state }.emit (outputDetails chunk (UInt32.ofNat (written * 2))) memory

def g729CodecDecoder (codecs : Codecs σ) (f : Filter σ) (input : Option AudioChunk) :
    Outcome (Filter σ) :=
  decodeWith ptG729 (g729Body codecs) f input

/-! ### iLBC -/

/-- The frames of `fs` bytes from the `i`th on. A frame for which no room is left ends the
call. -/
def ilbcFrames (decode : σ → List UInt8 → List Int16 × σ) (chunk : AudioChunk)
    (fs frameSamples oSamples : Nat) :
    Nat → Nat → σ → (Nat → Int16) → Except Overrun ((Nat → Int16) × σ)
  | 0, _, state, memory => .ok (memory, state)
  | remaining + 1, i, state, memory =>
      if i * frameSamples + frameSamples ≤ oSamples then do
        let frame ← readPayload chunk (i * fs) fs
        let (samples, state) := decode state frame
        let memory ← Buffer.write .writesOutput oSamples memory (i * frameSamples) samples
        ilbcFrames decode chunk fs frameSamples oSamples remaining (i + 1) state memory
      else .ok (memory, state)

/-- A payload is a multiple of 50 bytes (frames of 30 ms) or of 38 bytes (20 ms). -/
def ilbcBody (codecs : Codecs σ) (f : Filter σ) (chunk : AudioChunk) (numSamples : Nat) :
    Outcome (Filter σ) :=
  if numSamples % 50 ≠ 0 ∧ numSamples % 38 ≠ 0 then .returned f
  else
    let long := numSamples % 50 = 0
    let fs := if long then 50 else 38
    let frameSamples := if long then 240 else 160
    let frames := numSamples / fs
    let decode := fun state frame =>
      if long then (codecs.iLbcDecode30 state frame).map Vector.toList id
      else (codecs.iLbcDecode20 state frame).map Vector.toList id
    .checked (ilbcFrames decode chunk fs frameSamples (frames * frameSamples) frames 0 f.codec
      fun _ => 0) fun (memory, state) =>
    { f with codec := state }.emit
      (outputDetails chunk (UInt32.ofNat (frames * frameSamples * 2))) memory

def ilbcToPcm (codecs : Codecs σ) (f : Filter σ) (input : Option AudioChunk) :
    Outcome (Filter σ) :=
  decodeWith ptIlbc (ilbcBody codecs) f input

/-! ### Speex -/

/-- The last output is dropped only once a chunk is to be decoded. -/
def speexDecoder (codecs : Codecs σ) (f : Filter σ) (input : Option AudioChunk) :
    Outcome (Filter σ) :=
  let f := { f with calls := f.calls + 1 }
  match input with
  | none => .returned f
  | some chunk =>
      match chunk.getNumSamples? with
      | none => .thrown unknownEncodingText f
      | some numSamples =>
          if numSamples = 0 then .returned f
          else if chunk.details.rtpPayloadType ≠ ptSpeex then .returned f
          else .checked (readPayload chunk 0 chunk.getNumBytes.toNat) fun bytes =>
            let (frames, state) := codecs.speexDecode f.codec bytes
            let samples := frames.flatMap Vector.toList
            { f with codec := state }.emit
              (outputDetails chunk
                (UInt32.ofNat (codecs.speexFrameSize * 2 * frames.length)))
              fun i => samples.getD i 0

/-! ### Opus -/

/-- `m_initialized` is set when the decoder could *not* be created. -/
structure OpusCodecDecoder (σ : Type) extends Filter σ where
  lastRtpSeq : UInt32 := 0
  lastRtpTs : UInt32 := 0
  sampleRate8KhzMultiplier : UInt32 := 1
  initialized : Bool := false

/-- `m_max_frame_size`. -/
abbrev opusMaxFrameSize : Nat := 5760

/-- The sampling rate of the sender, from two packets in a row. -/
def OpusCodecDecoder.adjustSampleRate (f : OpusCodecDecoder σ) (details : AudioChunkDetails) :
    OpusCodecDecoder σ :=
  if details.sequenceNumber - f.lastRtpSeq = 1 then
    let sampleRate := (details.timestamp - f.lastRtpTs) / 160
    if sampleRate ≠ f.sampleRate8KhzMultiplier ∧
        (sampleRate = 1 ∨ sampleRate = 2 ∨ sampleRate = 4 ∨ sampleRate = 6) then
      { f with sampleRate8KhzMultiplier := sampleRate }
    else f
  else f

/-- The part of `AudioChunkIn` that decodes. The decoder may write more samples than
`m_max_frame_size` bytes hold. -/
def opusDecodeChunk (codecs : Codecs σ) (f : OpusCodecDecoder σ) (chunk : AudioChunk) :
    Outcome (OpusCodecDecoder σ) :=
  .checked (readPayload chunk 0 chunk.getNumBytes.toNat) fun bytes =>
    let ((outputSamples, memory), state) := codecs.opusDecode f.codec bytes opusMaxFrameSize
    if outputSamples > (opusMaxFrameSize / 2 : Nat) then .undefined .writesOutput
    else
      let details :=
        { outputDetails chunk
            (if outputSamples > 0 then UInt32.ofNat (outputSamples.toNat * 2) else 320) with
          timestamp := chunk.details.timestamp / f.sampleRate8KhzMultiplier }
      let memory := if outputSamples > 0 then memory else fun i => if i < 160 then 0 else memory i
      .returned { f with
        codec := state
        output := some ⟨f.calls,
          { AudioChunk.plain with details := details, buffer := memory }⟩ }

def opusCodecDecoder (codecs : Codecs σ) (f : OpusCodecDecoder σ) (input : Option AudioChunk) :
    Outcome (OpusCodecDecoder σ) :=
  let f := { f with output := none, calls := f.calls + 1 }
  if f.initialized then .returned f
  else match input with
    | none => .returned f
    | some chunk =>
        match chunk.getNumSamples? with
        | none => .thrown unknownEncodingText f
        | some numSamples =>
            if numSamples = 0 then .returned f
            else if chunk.details.rtpPayloadType ≠ ptOpus then .returned f
            else
              let remembered := fun (f : OpusCodecDecoder σ) => { f with
                lastRtpSeq := chunk.details.sequenceNumber
                lastRtpTs := chunk.details.timestamp }
              -- very first chunk, not known sampling rate yet
              if f.lastRtpSeq = 0 ∨ f.lastRtpTs = 0 then .returned (remembered f)
              else opusDecodeChunk codecs (remembered (f.adjustSampleRate chunk.details)) chunk

/-! ### SILK -/

structure SilkCodecDecoder (σ : Type) extends Filter σ where
  lastRtpSeq : UInt32 := 0
  lastRtpTs : UInt32 := 0
  sampleRate8KhzMultiplier : Int := -1
  initialized : Bool := true

namespace SilkCodecDecoder

variable (f : SilkCodecDecoder σ) (details : AudioChunkDetails)

def remember : SilkCodecDecoder σ :=
  { f with lastRtpSeq := details.sequenceNumber, lastRtpTs := details.timestamp }

/-- Start over to find the sampling rate. -/
def resynchronise : SilkCodecDecoder σ :=
  { f.remember details with sampleRate8KhzMultiplier := -1 }

/-- No packet has been remembered yet. -/
def First : Prop := f.lastRtpSeq = 0 ∨ f.lastRtpTs = 0

/-- The packet after the last one. -/
def Consecutive : Prop := details.sequenceNumber - f.lastRtpSeq = 1

instance : Decidable (f.Consecutive details) := inferInstanceAs (Decidable (_ = _))

/-- For the packet after the last one, a step of 20 ms at 8 or 16 kHz; otherwise a
timestamp delta that is coherent with the sequence number delta. -/
def Coherent : Prop :=
  if f.Consecutive details then
    details.timestamp - f.lastRtpTs = 160 ∨ details.timestamp - f.lastRtpTs = 320
  else
    (((details.timestamp.toNat : Int) - f.lastRtpTs.toNat).natAbs : Int) =
      ((details.sequenceNumber.toNat : Int) - f.lastRtpSeq.toNat).natAbs *
        f.sampleRate8KhzMultiplier * 160

instance : Decidable f.First := inferInstanceAs (Decidable (_ ∨ _))

instance : Decidable (f.Coherent details) :=
  inferInstanceAs (Decidable (if f.Consecutive details then _ ∨ _ else (_ : Int) = _))

/-- The multiplier that a coherent packet leaves. -/
def multiplier : Int :=
  if f.Consecutive details then ((details.timestamp - f.lastRtpTs) / 160).toNat
  else f.sampleRate8KhzMultiplier

end SilkCodecDecoder

/-- The part of `AudioChunkIn` that decodes: `Decode8KhzChunk`, or `Decode16KhzChunk`,
which keeps every second sample. -/
def silkDecodeChunk (codecs : Codecs σ) (f : SilkCodecDecoder σ) (chunk : AudioChunk) :
    Outcome (SilkCodecDecoder σ) :=
  .checked (readPayload chunk 0 chunk.getNumBytes.toNat) fun bytes =>
    let multiplier := f.sampleRate8KhzMultiplier.toNat
    let (decoded, state) := codecs.silkDecode f.codec (multiplier * 8000) bytes
    let details := { outputDetails chunk 320 with
      timestamp := chunk.details.timestamp / UInt32.ofNat multiplier }
    .returned { f with
      codec := state
      output := some ⟨f.calls, { AudioChunk.plain with
        details := details, buffer := fun i => decoded (i * multiplier) }⟩ }

/-- The last output is dropped only for the very first packet and once a chunk is to be
decoded. -/
def silkCodecDecoder (codecs : Codecs σ) (f : SilkCodecDecoder σ) (input : Option AudioChunk) :
    Outcome (SilkCodecDecoder σ) :=
  let f := { f with calls := f.calls + 1 }
  if f.initialized = false then .returned f
  else match input with
    | none => .returned f
    | some chunk =>
        match chunk.getNumSamples? with
        | none => .thrown unknownEncodingText f
        | some numSamples =>
            if numSamples = 0 then .returned f
            else if chunk.details.rtpPayloadType ≠ ptSilk then .returned f
            else if f.First then .returned { f.remember chunk.details with output := none }
            else if ¬ f.Coherent chunk.details then .returned (f.resynchronise chunk.details)
            else
              let f := { f with sampleRate8KhzMultiplier := f.multiplier chunk.details }
              -- currently not yet support 24Khz
              if f.sampleRate8KhzMultiplier ≠ 1 ∧ f.sampleRate8KhzMultiplier ≠ 2 then .returned f
              else silkDecodeChunk codecs (f.remember chunk.details) chunk

end Decoder

/-! ### The decoders as filters -/

/-- The decoders that keep nothing but their codec and their last output. -/
inductive FilterKind
  | alaw | ulaw | gsm | ilbc | g722 | g721 | g729 | speex
  deriving DecidableEq, Repr

/-- A decoder filter of any kind. -/
inductive Decoder (σ : Type)
  | plain (kind : FilterKind) (f : Decoder.Filter σ)
  | opus (f : Decoder.OpusCodecDecoder σ)
  | silk (f : Decoder.SilkCodecDecoder σ)

namespace Decoder

variable {σ : Type}

def plainChunkIn (codecs : Codecs σ) : FilterKind → Filter σ → Option AudioChunk →
    Outcome (Filter σ)
  | .alaw => alawToPcm
  | .ulaw => ulawToPcm
  | .gsm => gsmToPcm codecs
  | .ilbc => ilbcToPcm codecs
  | .g722 => g722ToPcm codecs
  | .g721 => g721CodecDecoder codecs
  | .g729 => g729CodecDecoder codecs
  | .speex => speexDecoder codecs

def audioChunkIn (codecs : Codecs σ) (input : Option AudioChunk) :
    Decoder σ → Outcome (Decoder σ)
  | .plain kind f => (plainChunkIn codecs kind f input).map (.plain kind)
  | .opus f => (opusCodecDecoder codecs f input).map .opus
  | .silk f => (silkCodecDecoder codecs f input).map .silk

/-- `AudioChunkOut` of every decoder. -/
def audioChunkOut : Decoder σ → Option DecodedChunk
  | .plain _ f => f.output
  | .opus f => f.output
  | .silk f => f.output

/-- The number of calls of `AudioChunkIn` so far. -/
def calls : Decoder σ → Nat
  | .plain _ f => f.calls
  | .opus f => f.calls
  | .silk f => f.calls

end Decoder

end OrkAudio
