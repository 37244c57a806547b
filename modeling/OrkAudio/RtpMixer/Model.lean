import OrkAudio.AudioChunk
import OrkAudio.Lib.Fallible
import OrkAudio.Lib.Steps

/-! The RTP mixer: a circular buffer that decoded chunks of all sides are summed into
and that is shipped piece by piece.

Pointers into `m_buffer` are cell numbers, doubles that only ever hold differences of
timestamps are integers, and `m_buffer` is not initialised by the constructor, so a new
mixer starts from arbitrary memory. Statistics and log texts are left out. -/

namespace OrkAudio

open Lib

/-- `NUM_SAMPLES_CIRCULAR_BUFFER`. -/
abbrev numSamplesCircularBuffer : Nat := 16000

/-- `NUM_SAMPLES_TRIGGER`. -/
abbrev numSamplesTrigger : Nat := 12000

/-- `NUM_SAMPLES_SHIPMENT_HOLDOFF`. -/
abbrev numSamplesShipmentHoldoff : Nat := 11000

/-- What the calls did to the timeline, in the order of the source's debug lines; no
function reads it back. `opened`: "First chunk", `reset`: the buffer was reset,
`zeroed`: silence was written until this write timestamp, `copied`: these samples were
mixed in from this timestamp on. -/
inductive TimelineEvent
  | opened (timestamp : Nat)
  | reset (timestamp : Nat)
  | zeroed (writeTimestamp : Nat)
  | copied (timestamp : Nat) (samples : List Int16)

structure RtpMixerChannel where
  channel : Nat
  timestampCorrectiveDelta : Int := 0
  buffer : Nat → Int16 := fun _ => 0
  lastChunk : Option AudioChunkDetails := none
  lastTimestamp : Nat := 0

structure RtpMixer where
  numOutputChannels : Int
  writePtr : Nat := 0
  readPtr : Nat := 0
  readTimestamp : Nat := 0
  writeTimestamp : Nat := 0
  buffer : Nat → Int16
  timestampCorrectiveDelta : Int := 0
  error : Bool := false
  oneS1PacketState : Bool := false
  lastTimestampS1 : Nat := 0
  lastTimestampS2 : Nat := 0
  lastChunkS1 : Option AudioChunkDetails := none
  lastChunkS2 : Option AudioChunkDetails := none
  numSampleTrigger : Nat := numSamplesTrigger
  numSampleShipmentHoldoff : Nat := numSamplesShipmentHoldoff
  channels : List RtpMixerChannel := []
  outputQueue : List AudioChunk := []
  history : List TimelineEvent := []

/-- `inputMustBePcm` and `unknownEncoding` are thrown; `channelIndex` stands for reading
`m_rtpMixerChannels` outside its bounds, where the source has no defined behaviour. -/
inductive MixerError
  | inputMustBePcm | unknownEncoding | channelIndex
  deriving DecidableEq, Repr

/-- The text of the exceptions (the chunk's own description follows the second one). -/
def MixerError.text? : MixerError → Option String
  | .inputMustBePcm => some "RtpMixer input audio must be PCM !"
  | .unknownEncoding => some "AudioChunk::GetNumSamples(): unknown encoding. Chunk:"
  | .channelIndex => none

/-- Clip a sum of samples to 16 bits. -/
def saturate (sample : Int) : Int16 :=
  if sample > 32767 then 32767
  else if sample < -32768 then -32768
  else Int16.ofInt sample

/-- Add a sample to the one already in a cell. -/
def mixInto (sample old : Int16) : Int16 := saturate (old.toInt + sample.toInt)

/-- A sample of 16 bits is not clipped. -/
theorem saturate_toInt (sample : Int16) : saturate sample.toInt = sample := by
  have hlow := sample.le_toInt
  have hhigh := sample.toInt_lt
  unfold saturate
  rw [if_neg (by omega), if_neg (by omega), Int16.ofInt_toInt]

@[simp] theorem mixInto_zero (sample : Int16) : mixInto sample 0 = sample := by
  simp [mixInto, saturate_toInt]

namespace RtpMixer

/-- A mixer as `RtpMixer::RtpMixer` and `SetNumOutputChannels` leave it. -/
def fresh (numOutputChannels : Int) (memory : Nat → Int16) : RtpMixer :=
  { numOutputChannels := numOutputChannels, buffer := memory }

def numInputChannels (m : RtpMixer) : Nat := m.channels.length

/-- The channel that `m_rtpMixerChannels[chanIdx]` designates, when there is one. -/
def channelAt (m : RtpMixer) (chanIdx : Int) : Option RtpMixerChannel :=
  if chanIdx < 0 then none else m.channels[chanIdx.toNat]?

def modifyChannel (m : RtpMixer) (chanIdx : Int) (f : RtpMixerChannel → RtpMixerChannel) :
    RtpMixer :=
  { m with channels := m.channels.modify chanIdx.toNat f }

def createChannels (tapeNumChannels : Int) (m : RtpMixer) (channelNumber : Nat) : RtpMixer :=
  if m.numOutputChannels = 1 then m
  else if tapeNumChannels ≤ 1 then m
  else if channelNumber ≤ m.numInputChannels then m
  else
    { m with
      channels := m.channels ++
        (List.range' m.numInputChannels (channelNumber - m.numInputChannels)).map
          fun i => { channel := i + 1 } }

def usedSpace (m : RtpMixer) : Nat :=
  if m.writePtr ≥ m.readPtr then m.writePtr - m.readPtr
  else numSamplesCircularBuffer + m.writePtr - m.readPtr

def freeSpace (m : RtpMixer) : Nat := numSamplesCircularBuffer - m.usedSpace

def circularPointerAddOffset (ptr offset : Nat) : Nat :=
  if ptr + offset ≥ numSamplesCircularBuffer then offset - (numSamplesCircularBuffer - ptr)
  else ptr + offset

def cicularPointerSubtractOffset (ptr offset : Nat) : Nat :=
  if ptr < offset then numSamplesCircularBuffer - offset + ptr else ptr - offset

/-- One turn of the loop that writes silence: the cell is zeroed in every buffer. -/
def zeroSample (m : RtpMixer) : RtpMixer :=
  { m with
    buffer := Function.update m.buffer m.writePtr 0
    channels := m.channels.map fun c =>
      { c with buffer := Function.update c.buffer m.writePtr 0 }
    writePtr := Ring.next numSamplesCircularBuffer m.writePtr }

def zeroSamples : Nat → RtpMixer → RtpMixer
  | 0, m => m
  | count + 1, m => zeroSamples count m.zeroSample

/-- The part of `StoreRtpPacket` that writes silence from the write pointer until the end
of the packet. -/
def writeSilence (m : RtpMixer) (endRtpTimestamp : Nat) : RtpMixer :=
  let silenceSize : Int := (endRtpTimestamp : Int) - m.writeTimestamp
  if silenceSize > 0 then
    let m := zeroSamples silenceSize.toNat m
    { m with
      writeTimestamp := endRtpTimestamp
      history := m.history ++ [TimelineEvent.zeroed endRtpTimestamp] }
  else m

/-- One turn of the loop that mixes a payload in: the sum goes to the mixed buffer, the
sample itself to the buffer of its channel. -/
def mixSample (chanIdx : Int) (sample : Int16) (tempWritePtr : Nat) (m : RtpMixer) : RtpMixer :=
  { m with
    buffer := Function.update m.buffer tempWritePtr (mixInto sample (m.buffer tempWritePtr))
    channels := m.channels.modify chanIdx.toNat fun c =>
      { c with buffer := Function.update c.buffer tempWritePtr sample } }

def mixSamples (chanIdx : Int) : List Int16 → Nat → RtpMixer → RtpMixer
  | [], _, m => m
  | sample :: payload, tempWritePtr, m =>
      mixSamples chanIdx payload (Ring.next numSamplesCircularBuffer tempWritePtr)
        (m.mixSample chanIdx sample tempWritePtr)

/-- The part of `StoreRtpPacket` after the silence: mix the payload in. -/
def mixPacket (m : RtpMixer) (chunk : AudioChunk) (correctedTimestamp : Nat) : RtpMixer :=
  let timestampDelta : Int := (m.writeTimestamp : Int) - correctedTimestamp
  if timestampDelta < 0 ∨ timestampDelta ≥ numSamplesCircularBuffer then m
  else
    let tempWritePtr := cicularPointerSubtractOffset m.writePtr timestampDelta.toNat
    let m := mixSamples ((chunk.details.channel.toNat : Int) - 1) chunk.samples tempWritePtr m
    { m with history := m.history ++ [TimelineEvent.copied correctedTimestamp chunk.samples] }

/-- Writes to the internal buffer without any size verification. -/
def storeRtpPacket (m : RtpMixer) (chunk : AudioChunk) (correctedTimestamp : Nat) :
    Except MixerError RtpMixer :=
  if m.numInputChannels ≠ 0 ∧ (m.channelAt ((chunk.details.channel.toNat : Int) - 1)).isNone then
    .error .channelIndex
  else
    let endRtpTimestamp := correctedTimestamp + chunk.numSamples
    -- a chunk whose timestamps wrap is dismissed
    if endRtpTimestamp ≥ 4294967296 then .ok m
    else
      let silenceSize : Int := (endRtpTimestamp : Int) - m.writeTimestamp
      if silenceSize ≥ numSamplesCircularBuffer then .ok m
      else .ok ((m.writeSilence endRtpTimestamp).mixPacket chunk correctedTimestamp)

/-- `numBytes` for a shipped slice of that many samples. -/
def shipmentDetails (m : RtpMixer) (shortSize : Nat) : AudioChunkDetails :=
  { encoding := .pcmAudio
    numBytes := UInt32.ofNat (shortSize * 2)
    channel := if m.numInputChannels ≠ 0 then 100 else 0 }

/-- Sum the channels of one parity over a slice, channel by channel. -/
def tapeChannel (channels : List RtpMixerChannel) (even : Bool) (readPtr : Nat) : Nat → Int16 :=
  fun j => channels.foldl (fun acc c =>
    if (c.channel % 2 == 0) == even then mixInto (c.buffer (readPtr + j)) acc else acc) 0

/-- `HandleMixedOutput`: the two separate output channels of a shipped slice, even
channels first, and silence for any further ones. -/
def handleMixedOutput (tapeNumChannels : Int) (m : RtpMixer) (chunk : AudioChunk)
    (details : AudioChunkDetails) (readPtr : Nat) : AudioChunk :=
  if m.numOutputChannels = 1 then chunk
  else if tapeNumChannels ≤ 1 then chunk
  else
    let chunk :=
      if tapeNumChannels ≠ m.numInputChannels then
        (AudioChunk.withChannels tapeNumChannels.toNat).setBuffer
          (fun i => m.buffer (readPtr + i)) details
      else chunk
    let chunk := chunk.setChannelBuffer (tapeChannel m.channels true readPtr) details 1
    let chunk := chunk.setChannelBuffer (tapeChannel m.channels false readPtr) details 2
    (List.range' 2 (tapeNumChannels.toNat - 2)).foldl
      (fun chunk i => chunk.setChannelBuffer (fun _ => 0) details (i + 1)) chunk

/-- `CheckChunkDetails`: an oversized shipment puts the mixer in error. -/
def checkChunkDetails (m : RtpMixer) (details : AudioChunkDetails) : Bool × RtpMixer :=
  if details.numBytes > 100000 then (false, { m with error := true })
  else if details.numBytes = 0 then (false, m)
  else (true, m)

/-- The chunk that carries `shortSize` samples from the cell `start` on. -/
def sliceChunk (tapeNumChannels : Int) (m : RtpMixer) (start shortSize : Nat) : AudioChunk :=
  let details := m.shipmentDetails shortSize
  let chunk := if m.numInputChannels ≠ 0 then AudioChunk.withChannels m.numInputChannels
    else AudioChunk.plain
  let chunk := chunk.setBuffer (fun i => m.buffer (start + i)) details
  if m.numOutputChannels = 2 then m.handleMixedOutput tapeNumChannels chunk details start
  else chunk

/-- Ship `shortSize` samples from the cell `start` on and move the read side on. -/
def shipSlice (tapeNumChannels : Int) (m : RtpMixer) (start shortSize : Nat) : RtpMixer :=
  let m := match m.checkChunkDetails (m.shipmentDetails shortSize) with
    | (true, m) =>
        { m with outputQueue := m.outputQueue ++ [sliceChunk tapeNumChannels m start shortSize] }
    | (false, m) => m
  { m with
    readPtr := circularPointerAddOffset m.readPtr shortSize
    readTimestamp := toU32 ((m.readTimestamp : Int) + shortSize) }

/-- The silence that `CreateShipment` appends when asked to. -/
def shipSilence (tapeNumChannels : Int) (m : RtpMixer) (silenceSize : Nat) : RtpMixer :=
  let multi := m.numOutputChannels = 2 ∧ tapeNumChannels > 1
  let details : AudioChunkDetails :=
    { encoding := .pcmAudio, numBytes := UInt32.ofNat (silenceSize * 2)
      channel := if multi then 100 else 0 }
  let chunk := if multi then AudioChunk.withChannels tapeNumChannels.toNat else AudioChunk.plain
  let m := match m.checkChunkDetails details with
    | (true, m) =>
        let chunk := { chunk with
          details := details, buffer := fun _ => 0
          channelAudio := chunk.channelAudio.map fun _ => some fun _ => 0 }
        { m with outputQueue := m.outputQueue ++ [chunk] }
    | (false, m) => m
  { m with
    readPtr := circularPointerAddOffset m.readPtr silenceSize
    readTimestamp := toU32 ((m.readTimestamp : Int) + silenceSize) }

def createShipment (tapeNumChannels : Int) (m : RtpMixer) (silenceSize : Nat) (force : Bool) :
    RtpMixer :=
  let stopPtr :=
    if silenceSize ≠ 0 ∨ force = true then m.writePtr
    else cicularPointerSubtractOffset m.writePtr m.numSampleShipmentHoldoff
  let m :=
    if stopPtr < m.readPtr then
      -- the stretch to ship wraps: first up to the end of the buffer, then from its start
      let m := shipSlice tapeNumChannels m m.readPtr (numSamplesCircularBuffer - m.readPtr)
      shipSlice tapeNumChannels m 0 stopPtr
    else shipSlice tapeNumChannels m m.readPtr (stopPtr - m.readPtr)
  if silenceSize ≠ 0 then m.shipSilence tapeNumChannels silenceSize else m

def reset (m : RtpMixer) (timestamp : Nat) : RtpMixer :=
  { m with
    writePtr := 0, readPtr := 0
    writeTimestamp := timestamp, readTimestamp := timestamp
    history := m.history ++ [TimelineEvent.reset timestamp] }

def manageOutOfRangeTimestamp (tapeNumChannels : Int) (m : RtpMixer) (chunk : AudioChunk) :
    Except MixerError RtpMixer :=
  let timestamp := chunk.details.timestamp.toNat
  if chunk.details.channel = 1 then do
    let m := (m.createShipment tapeNumChannels 0 true).reset timestamp
    let m ← m.storeRtpPacket chunk timestamp
    pure { m with timestampCorrectiveDelta := 0 }
  else if chunk.details.channel = 2 then
    .ok { m with timestampCorrectiveDelta := (timestamp : Int) - m.writeTimestamp }
  else if m.numInputChannels ≠ 0 then
    let chanIdx : Int := (chunk.details.channel.toNat : Int) - 1
    if (m.channelAt chanIdx).isNone then .error .channelIndex
    else .ok (m.modifyChannel chanIdx fun c =>
      { c with timestampCorrectiveDelta := (timestamp : Int) - m.writeTimestamp })
  else .ok m

/-- User agents that count milliseconds: a timestamp 20 after the last uncorrected one is
replaced by the last corrected one plus 160. Returns the new uncorrected timestamp to
remember and the timestamp of the chunk. -/
def correctMilliseconds (lastChunk : Option AudioChunkDetails) (lastTimestamp : Nat)
    (timestamp : UInt32) : Nat × UInt32 :=
  match lastChunk with
  | none => (timestamp.toNat, timestamp)
  | some last =>
      if toU32 ((timestamp.toNat : Int) - lastTimestamp) = 20 then
        (timestamp.toNat, last.timestamp + 160)
      else (lastTimestamp, timestamp)

/-- Move a timestamp of another side than the first by that side's corrective delta. A
result beyond 32 bits is cut to its low 32 bits, as the conversion does on the machine. -/
def applyCorrectiveDelta (timestamp : Nat) (delta : Int) : Nat :=
  let tmp : Int := timestamp - delta
  if tmp < 0 then timestamp else toU32 tmp

/-- The part of `AudioChunkIn` that works out `correctedTimestamp`. The chunk comes back
with the timestamp that the millisecond correction may have changed. -/
def correctTimestamp (m : RtpMixer) (chunk : AudioChunk) :
    Except MixerError (RtpMixer × AudioChunk × Nat) :=
  if chunk.details.channel = 1 then
    let (lastTimestampS1, timestamp) :=
      correctMilliseconds m.lastChunkS1 m.lastTimestampS1 chunk.details.timestamp
    let chunk := { chunk with details.timestamp := timestamp }
    if m.numInputChannels ≠ 0 ∧ (m.channelAt 0).isNone then .error .channelIndex
    else
      let m := m.modifyChannel 0 fun c => { c with lastChunk := some chunk.details }
      .ok ({ m with lastTimestampS1 := lastTimestampS1, lastChunkS1 := some chunk.details },
        chunk, timestamp.toNat)
  else if chunk.details.channel = 2 then
    let (lastTimestampS2, timestamp) :=
      correctMilliseconds m.lastChunkS2 m.lastTimestampS2 chunk.details.timestamp
    let chunk := { chunk with details.timestamp := timestamp }
    if m.numInputChannels ≠ 0 ∧ (m.channelAt 1).isNone then .error .channelIndex
    else
      let m := m.modifyChannel 1 fun c => { c with lastChunk := some chunk.details }
      let realign : Int := (timestamp.toNat : Int) - m.writeTimestamp
      let m :=
        if m.oneS1PacketState then
          { m with timestampCorrectiveDelta := realign, oneS1PacketState := false }
        else if m.timestampCorrectiveDelta = 0 ∧ m.writeTimestamp ≠ 0 then
          { m with timestampCorrectiveDelta := realign }
        else m
      .ok ({ m with lastTimestampS2 := lastTimestampS2, lastChunkS2 := some chunk.details },
        chunk, applyCorrectiveDelta timestamp.toNat m.timestampCorrectiveDelta)
  else if m.numInputChannels ≠ 0 then
    let chanIdx : Int := (chunk.details.channel.toNat : Int) - 1
    match m.channelAt chanIdx with
    | none => .error .channelIndex
    | some c =>
        let (lastTimestamp, timestamp) :=
          correctMilliseconds c.lastChunk c.lastTimestamp chunk.details.timestamp
        let chunk := { chunk with details.timestamp := timestamp }
        .ok (m.modifyChannel chanIdx fun c =>
            { c with lastTimestamp := lastTimestamp, lastChunk := some chunk.details },
          chunk, applyCorrectiveDelta timestamp.toNat c.timestampCorrectiveDelta)
  else .ok (m, chunk, 0)

/-- First RTP packet of the session: the timeline starts at its timestamp. -/
def openAt (m : RtpMixer) (timestamp : Nat) : RtpMixer :=
  { m with
    writeTimestamp := timestamp, readTimestamp := timestamp
    oneS1PacketState := true
    history := m.history ++ [TimelineEvent.opened timestamp] }

/-- The part of `AudioChunkIn` that finds the chunk's place once it has its timestamp. -/
def placeChunk (tapeNumChannels : Int) (m : RtpMixer) (chunk : AudioChunk)
    (correctedTimestamp : Nat) : Except MixerError RtpMixer :=
  let rtpEndTimestamp := toU32 ((correctedTimestamp : Int) + chunk.numSamples)
  if m.writeTimestamp = 0 then
    if chunk.details.channel = 1 then
      (m.openAt correctedTimestamp).storeRtpPacket chunk correctedTimestamp
    else .ok m
  else if correctedTimestamp ≥ m.readTimestamp then
    if toInt32 (toU32 ((rtpEndTimestamp : Int) - m.writeTimestamp)) ≤ m.freeSpace ∧
        toInt32 (toU32 ((m.writeTimestamp : Int) - correctedTimestamp)) ≤ m.usedSpace then do
      -- RTP packet fits into current buffer
      let m ← m.storeRtpPacket chunk correctedTimestamp
      if m.usedSpace > m.numSampleTrigger then pure (m.createShipment tapeNumChannels 0 false)
      else pure m
    else m.manageOutOfRangeTimestamp tapeNumChannels chunk
  else m.manageOutOfRangeTimestamp tapeNumChannels chunk

/-- The call of `CreateChannels` in `AudioChunkIn`. -/
def ensureChannels (tapeNumChannels : Int) (m : RtpMixer) (chunk : AudioChunk) : RtpMixer :=
  if m.numOutputChannels = 2 then m.createChannels tapeNumChannels chunk.details.channel.toNat
  else m

def audioChunkIn (tapeNumChannels : Int) (m : RtpMixer) (input : Option AudioChunk) :
    Except MixerError RtpMixer :=
  if m.error then .ok m
  else match input with
    | none => .ok m
    | some chunk =>
        if chunk.details.marker = mediaChunkEosMarker then
          .ok (m.createShipment tapeNumChannels 0 true)
        else match chunk.getNumSamples? with
          | none => .error .unknownEncoding
          | some numSamples =>
              if numSamples = 0 then .ok m
              else if chunk.getNumBytes > 100000 then .ok { m with error := true }
              else if chunk.details.encoding ≠ .pcmAudio then .error .inputMustBePcm
              else do
                let (m, chunk, correctedTimestamp) ←
                  (m.ensureChannels tapeNumChannels chunk).correctTimestamp chunk
                m.placeChunk tapeNumChannels chunk correctedTimestamp

def audioChunkOut (m : RtpMixer) : Option AudioChunk × RtpMixer :=
  match m.outputQueue with
  | [] => (none, m)
  | chunk :: rest => (some chunk, { m with outputQueue := rest })

/-- What the owner of a mixer does with it. -/
inductive Call
  | chunkIn (input : Option AudioChunk)
  | chunkOut

/-- One call. An exception is thrown before anything is changed; a channel outside
`m_rtpMixerChannels` has no defined behaviour and no step. -/
inductive Step (tapeNumChannels : Int) : RtpMixer → Call → RtpMixer → Prop
  | chunkIn {m m' : RtpMixer} {input : Option AudioChunk} :
      m.audioChunkIn tapeNumChannels input = .ok m' → Step tapeNumChannels m (.chunkIn input) m'
  | thrown {m : RtpMixer} {input : Option AudioChunk} {e : MixerError} :
      m.audioChunkIn tapeNumChannels input = .error e → e ≠ .channelIndex →
      Step tapeNumChannels m (.chunkIn input) m
  | chunkOut {m : RtpMixer} : Step tapeNumChannels m .chunkOut m.audioChunkOut.2

end RtpMixer

end OrkAudio
