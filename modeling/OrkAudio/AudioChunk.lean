import OrkAudio.Lib.Word
import OrkAudio.Lib.Ring

/-! Pieces of audio as the capture, processing and filter code pass them around. -/

namespace OrkAudio

open Lib

/-- `MEDIA_CHUNK_MARKER`, "****". -/
def mediaChunkMarker : Nat := 0x2A2A2A2A

/-- `MEDIA_CHUNK_EOS_MARKER`, "EOSM". -/
def mediaChunkEosMarker : Nat := 0x454F534D

inductive AudioEncoding
  | unknownAudio | pcmAudio | alawAudio | ulawAudio | gsmAudio | ilbcAudio | g722Audio
  | g721Audio | silkAudio | opusAudio | amrNb | amrWb | g729Audio | invalidAudio
  deriving DecidableEq, Repr

structure AudioChunkDetails where
  marker : Nat := mediaChunkMarker
  encoding : AudioEncoding := .unknownAudio
  numBytes : UInt32 := 0
  timestamp : UInt32 := 0
  arrivalTimestamp : UInt32 := 0
  sequenceNumber : UInt32 := 0
  sampleRate : UInt32 := 8000
  rtpPayloadType : Int := -1
  channel : UInt8 := 0
  deriving DecidableEq, Repr

/-- `buffer` is the memory at `m_pBuffer` read as 16-bit samples: the chunk owns the
first `m_numBytes` bytes of it. `channelAudio` holds one such memory for each separate
channel, none where the pointer is null. -/
structure AudioChunk where
  details : AudioChunkDetails
  buffer : Nat → Int16
  channelAudio : List (Option (Nat → Int16)) := []

namespace AudioChunk

/-- `AudioChunk::GetNumSamples`; other encodings make the source throw. -/
def getNumSamples? (chunk : AudioChunk) : Option Nat :=
  match chunk.details.encoding with
  | .pcmAudio => some (chunk.details.numBytes.toNat / 2)
  | .alawAudio => some chunk.details.numBytes.toNat
  | .ulawAudio => some chunk.details.numBytes.toNat
  | _ => none

/-- `AudioChunk::GetNumBytes`, which returns the unsigned byte count as an `int`. -/
def getNumBytes (chunk : AudioChunk) : Int := toInt32 chunk.details.numBytes.toNat

/-- The number of 16-bit samples in the chunk's own bytes. -/
def numSamples (chunk : AudioChunk) : Nat := chunk.details.numBytes.toNat / 2

/-- The chunk's own samples. -/
def samples (chunk : AudioChunk) : List Int16 := Ring.slice chunk.buffer 0 chunk.numSamples

@[simp] theorem samples_length (chunk : AudioChunk) : chunk.samples.length = chunk.numSamples := by
  simp [samples]

/-- `AudioChunk::SetBuffer(void*, AudioChunkDetails&)`: copy `m_numBytes` bytes. -/
def setBuffer (chunk : AudioChunk) (memory : Nat → Int16) (details : AudioChunkDetails) :
    AudioChunk :=
  if details.numBytes = 0 then chunk else { chunk with details := details, buffer := memory }

/-- `AudioChunk::SetBuffer(void*, AudioChunkDetails&, int)` on an existing channel. -/
def setChannelBuffer (chunk : AudioChunk) (memory : Nat → Int16) (details : AudioChunkDetails)
    (chan : Nat) : AudioChunk :=
  { chunk with channelAudio :=
      chunk.channelAudio.set (chan - 1) (if details.numBytes = 0 then none else some memory) }

/-- `AudioChunk::AudioChunk(int numChannels)`, at least one channel. -/
def withChannels (numChannels : Nat) : AudioChunk :=
  { details := { channel := 100 }, buffer := fun _ => 0,
    channelAudio := List.replicate (max numChannels 1) none }

/-- `AudioChunk::AudioChunk()`. -/
def plain : AudioChunk := { details := {}, buffer := fun _ => 0 }

end AudioChunk

end OrkAudio
