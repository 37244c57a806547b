import OrkAudio.AudioChunk
import OrkAudio.Lib.Buffer

/-! The Ogg Opus file: PCM chunks are cut into frames of 160 samples for the encoder, and
what does not fill a frame is kept for the next chunk.

The buffers are modelled as 16-bit values, the length that the source keeps in bytes stays
in bytes. The libraries are left out: `encoded` records what is handed to the encoder, and
no function reads it back. -/

namespace OrkAudio

open Lib

/-- `PCM_SAMPLES_IN_FRAME`. -/
abbrev pcmSamplesInFrame : Nat := 160

structure OggOpusFile where
  chan : Nat := 1
  isOpen : Bool := false
  pcmBuf : Nat → Int16
  extraPcmBuf : Nat → Int16
  extraStreoPcmBuf : Nat → Int16
  extraPcmBufLen : Nat := 0
  extraSamplesFromLastChunk : Nat := 0
  encoded : List Int16 := []

namespace OggOpusFile

/-- The size of `m_pcmBuf`, `m_extraPcmBuf` and `m_extraStreoPcmBuf`, in 16-bit values. -/
abbrev pcmBufSize : Nat := 32000
abbrev extraPcmBufSize : Nat := 160
abbrev extraStreoPcmBufSize : Nat := 320

/-- An access outside a buffer or through a null pointer. -/
inductive Overrun
  | pcmBuf | extraPcmBuf | extraStreoPcmBuf | chunk | nullChannel
  deriving DecidableEq, Repr

/-- A file as the constructor, `SetNumOutputChannels` and `Open` leave it, whatever the
buffers hold. -/
def opened (chan : Nat) (pcmBuf extraPcmBuf extraStreoPcmBuf : Nat → Int16) : OggOpusFile :=
  { chan := chan, isOpen := true
    pcmBuf := pcmBuf, extraPcmBuf := extraPcmBuf, extraStreoPcmBuf := extraStreoPcmBuf }

/-- The chunk comes with channel buffers and the output has two channels. -/
def takesChannels (f : OggOpusFile) (chunk : AudioChunk) : Bool :=
  chunk.channelAudio.length > 0 && f.chan == 2

/-- The samples `[start, start + count)` of every channel, interleaved. -/
def interleave (channels : List (Option (Nat → Int16))) (start count : Nat) :
    Except Overrun (List Int16) :=
  if channels.all Option.isSome then
    .ok ((List.range count).flatMap fun x =>
      channels.map fun channel => (channel.getD fun _ => 0) (start + x))
  else .error .nullChannel

/-- What is copied for the samples `[start, start + count)` of a chunk. -/
def payload (stereo : Bool) (chunk : AudioChunk) (start count : Nat) :
    Except Overrun (List Int16) :=
  if stereo then interleave chunk.channelAudio start count
  else .ok (Ring.slice chunk.buffer start count)

/-- The buffer for the samples that do not fill a frame. -/
def extraBuf (f : OggOpusFile) (stereo : Bool) : Nat → Int16 :=
  if stereo then f.extraStreoPcmBuf else f.extraPcmBuf

def writeExtra (f : OggOpusFile) (stereo : Bool) (offset : Nat) (values : List Int16) :
    Except Overrun OggOpusFile :=
  if stereo then do
    let buf ← Buffer.write .extraStreoPcmBuf extraStreoPcmBufSize f.extraStreoPcmBuf offset values
    pure { f with extraStreoPcmBuf := buf }
  else do
    let buf ← Buffer.write .extraPcmBuf extraPcmBufSize f.extraPcmBuf offset values
    pure { f with extraPcmBuf := buf }

/-- `EncodeChunks`, reading from a buffer of `size` values. -/
def encodeChunks (f : OggOpusFile) (overrun : Overrun) (size : Nat) (pcmBuf : Nat → Int16)
    (numSamples : Nat) : Except Overrun OggOpusFile :=
  let numFrames := numSamples / pcmSamplesInFrame
  if numFrames * (pcmSamplesInFrame * f.chan) ≤ size then
    .ok { f with
      encoded := f.encoded ++ (List.range numFrames).flatMap fun j =>
        Ring.slice pcmBuf (j * (pcmSamplesInFrame * f.chan)) (pcmSamplesInFrame * f.chan) }
  else .error overrun

/-- Too few samples for a frame: store them behind the ones that are kept already. -/
def storeExtra (f : OggOpusFile) (stereo : Bool) (chunk : AudioChunk) (numSamples : Nat) :
    Except Overrun OggOpusFile := do
  let values ← payload stereo chunk 0 chunk.numSamples
  let f ← f.writeExtra stereo (f.extraPcmBufLen / 2) values
  pure { f with
    extraPcmBufLen := f.extraPcmBufLen +
      (if stereo then chunk.numSamples * 4 else chunk.details.numBytes.toNat)
    extraSamplesFromLastChunk := numSamples + f.extraSamplesFromLastChunk }

/-- Fill the main buffer with whole frames: first the samples that were kept, if any. -/
def fillMain (f : OggOpusFile) (stereo : Bool) (chunk : AudioChunk)
    (extraSamplesPos numSamplesInFullFrames : Nat) : Except Overrun OggOpusFile :=
  if f.extraSamplesFromLastChunk > 0 then do
    let pcmBuf ← Buffer.write .pcmBuf pcmBufSize f.pcmBuf 0
      (Ring.slice (f.extraBuf stereo) 0 (f.extraPcmBufLen / 2))
    let values ← payload stereo chunk 0 extraSamplesPos
    let pcmBuf ← Buffer.write .pcmBuf pcmBufSize pcmBuf (f.extraPcmBufLen / 2) values
    let f ← f.writeExtra stereo 0 (List.replicate (f.extraPcmBufLen / 2) 0)
    pure { f with pcmBuf := pcmBuf, extraPcmBufLen := 0 }
  else do
    let values ← payload stereo chunk 0 numSamplesInFullFrames
    let pcmBuf ← Buffer.write .pcmBuf pcmBufSize f.pcmBuf 0 values
    pure { f with pcmBuf := pcmBuf }

/-- Keep the samples of the chunk that do not fill a frame. -/
def keepRest (f : OggOpusFile) (stereo : Bool) (chunk : AudioChunk)
    (extraSamplesPos numSamplesExtra : Nat) : Except Overrun OggOpusFile :=
  if numSamplesExtra > 0 then do
    let values ← payload stereo chunk extraSamplesPos numSamplesExtra
    let f ← f.writeExtra stereo 0 values
    pure { f with
      extraPcmBufLen := f.extraPcmBufLen + numSamplesExtra * (if stereo then 4 else 2) }
  else pure f

/-- The part of `WriteChunk` for at least one whole frame. -/
def writeFrames (f : OggOpusFile) (stereo : Bool) (chunk : AudioChunk) (numSamples : Nat) :
    Except Overrun OggOpusFile :=
  let numSamplesInFullFrames := numSamples / pcmSamplesInFrame * pcmSamplesInFrame
  let numSamplesExtra := numSamples - numSamplesInFullFrames
  let extraBytesPos : Int := chunk.getNumBytes - (numSamplesExtra * 2 : Nat)
  -- more samples to keep than the chunk has: the copies read before its buffer
  if extraBytesPos < 0 then .error .chunk
  else do
    let extraSamplesPos := extraBytesPos.toNat / 2
    let f ← f.fillMain stereo chunk extraSamplesPos numSamplesInFullFrames
    let f ← f.keepRest stereo chunk extraSamplesPos numSamplesExtra
    { f with extraSamplesFromLastChunk := numSamplesExtra }.encodeChunks .pcmBuf pcmBufSize
      f.pcmBuf numSamplesInFullFrames

def writeChunk (f : OggOpusFile) (input : Option AudioChunk) : Except Overrun OggOpusFile :=
  match input with
  | none => .ok f
  | some chunk =>
      if chunk.details.numBytes = 0 then .ok f
      else if f.isOpen = false then .ok f
      else
        let stereo := f.takesChannels chunk
        let numSamples := chunk.numSamples + f.extraSamplesFromLastChunk
        if numSamples < pcmSamplesInFrame then f.storeExtra stereo chunk numSamples
        else f.writeFrames stereo chunk numSamples

/-- Pad what is kept to a whole frame, always in `m_extraPcmBuf`. -/
def close (f : OggOpusFile) : Except Overrun OggOpusFile := do
  let f ←
    if f.extraPcmBufLen > 0 then do
      let f ←
        if f.extraPcmBufLen < 320 * f.chan then
          f.writeExtra false (f.extraPcmBufLen / 2)
            (List.replicate (160 * f.chan - f.extraPcmBufLen / 2) 0)
        else pure f
      f.encodeChunks .extraPcmBuf extraPcmBufSize f.extraPcmBuf pcmSamplesInFrame
    else pure f
  pure { f with isOpen := false }

end OggOpusFile

end OrkAudio
