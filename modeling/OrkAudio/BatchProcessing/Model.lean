import OrkAudio.Decoder.Batch
import OrkAudio.RtpMixer.Emission

/-! One iteration of `BatchProcessing::ThreadHandler`: from the chunks of a capture file to
the main and the secondary output file.

Whether `SkipChunk` skips a chunk, and for which channel, is given with the chunk. The codecs
and the gain are parameters, and a file is the list of the chunks that were written to it. An
exception, or the use of a filter or file that is not there, ends the iteration with no
result. -/

namespace OrkAudio.BatchProcessing

open Lib Batch

structure Config where
  stereoRecording : Bool := false
  -- `m_audioOutputPathSecondary` has more than three characters
  secondary : Bool := false
  tapeNumChannels : Int := 1
  -- what the gain filter makes of a sample of a channel
  gain : UInt8 → Int16 → Int16 := fun _ sample => sample
  -- the memory that the mixers are created in
  memory : Nat → Int16 := fun _ => 0
  memorySecondary : Nat → Int16 := fun _ => 0

/-- A chunk of the file, with the channel to skip where `SkipChunk` skips it. -/
abbrev Input := Option Nat × AudioChunk

variable {σ : Type}

/-! ### Decoding -/

/-- `current` is the payload type of the decoder that `decoder1` or `decoder2` points to. -/
structure Decoding (σ : Type) where
  decoders : Side → Int → Option (Decoder σ)
  current : Side → Int := fun _ => rtpPayloadTypeMax - 1
  forceChannel1 : Bool := false
  voIpSession : Bool := false

/-- What an iteration of the loop makes of a chunk before the filters: nothing, a chunk
outside a VoIP session, or the output of a decoder. `working` tells whether `decoder` is set. -/
inductive Stage (σ : Type)
  | next (s : Decoding σ)
  | plain (s : Decoding σ)
  | decoded (s : Decoding σ) (working : Bool) (tmpChunk : Option AudioChunk)

/-- The chunk on channel 1 where `forceChannel1` is set. -/
def forced (forceChannel1 : Bool) (chunk : AudioChunk) : AudioChunk :=
  if forceChannel1 then { chunk with details.channel := 1 } else chunk

namespace Decoding

/-- `AudioChunkIn` and `AudioChunkOut` of the decoder of a side. -/
def decode (codecs : Decoder.Codecs σ) (s : Decoding σ) (working : Bool) (chunk : AudioChunk) :
    Option (Stage σ) :=
  let side := sideOf chunk
  match s.decoders side (s.current side) with
  | none => none
  | some d =>
      match d.audioChunkIn codecs (some chunk) with
      | .returned d' =>
          some (.decoded
            { s with
              decoders := Function.update s.decoders side
                (Function.update (s.decoders side) (s.current side) (some d')) }
            working (d'.audioChunkOut.map Decoder.DecodedChunk.chunk))
      | _ => none

def iterate (codecs : Decoder.Codecs σ) (s : Decoding σ) (input : Input) : Option (Stage σ) :=
  match input.1 with
  | some channelToSkip =>
      some (.next { s with forceChannel1 := s.forceChannel1 || channelToSkip == 1 })
  | none =>
      let chunk := forced s.forceChannel1 input.2
      let rtpPayloadType := chunk.details.rtpPayloadType
      if rtpPayloadType < -1 ∨ rtpPayloadType ≥ rtpPayloadTypeMax then some (.next s)
      else if rtpPayloadType ≠ -1 then
        let side := sideOf chunk
        let s := { s with
          voIpSession := true
          current := Function.update s.current side rtpPayloadType }
        -- a chunk that cannot be decoded due to unknown codec is passed over
        if (s.decoders side rtpPayloadType).isNone then some (.next s)
        else s.decode codecs true chunk
      else if s.voIpSession then s.decode codecs false chunk
      else some (.plain s)

end Decoding

/-! ### Gain -/

/-- `AudioGainFilter::AudioChunkIn` on a chunk of so many samples. -/
def gained (cfg : Config) (numSamples : Nat) (chunk : AudioChunk) : AudioChunk :=
  if chunk.details.encoding ≠ .pcmAudio then AudioChunk.plain.setBuffer chunk.buffer chunk.details
  else
    { AudioChunk.plain with
      details := chunk.details
      buffer := fun i =>
        if i < numSamples then cfg.gain chunk.details.channel (chunk.buffer i) else 0 }

/-- The output of the gain filter; none where it throws. -/
def audioGain (cfg : Config) : Option AudioChunk → Option (Option AudioChunk)
  | none => some none
  | some chunk =>
      match chunk.getNumSamples? with
      | none => none
      | some numSamples =>
          if numSamples = 0 then some none else some (some (gained cfg numSamples chunk))

/-! ### Files -/

/-- A file that was opened, as the chunks written to it. -/
abbrev OutFile := Option (List AudioChunk)

/-- `WriteChunk`: a missing or empty chunk is passed over. -/
def writeChunk (file : OutFile) : Option AudioChunk → Option OutFile
  | none => some file
  | some chunk =>
      if chunk.details.numBytes = 0 then some file
      else file.map fun chunks => some (chunks ++ [chunk])

/-- The samples of one instant: of each channel in a file with two output channels, and
otherwise of the mixed buffer. -/
def frameAt (twoChannels : Bool) (chunk : AudioChunk) (i : Nat) : List Int16 :=
  if chunk.details.encoding = .pcmAudio then
    if twoChannels ∧ chunk.channelAudio ≠ [] then
      chunk.channelAudio.map fun audio => (audio.getD fun _ => 0) i
    else [chunk.buffer i]
  else [(chunk.byteAt i).toUInt16.toInt16]

/-- What `WriteChunk` writes of a chunk. -/
def frames (twoChannels : Bool) (chunk : AudioChunk) : List (List Int16) :=
  (List.range (chunk.getNumSamples?.getD 0)).map (frameAt twoChannels chunk)

def fileFrames (twoChannels : Bool) (file : OutFile) : List (List Int16) :=
  (file.getD []).flatMap (frames twoChannels)

/-! ### The iteration -/

structure State (σ : Type) where
  decoding : Decoding σ
  firstChunk : Bool := true
  tmpChunk : Option AudioChunk := none
  rtpMixer : Option RtpMixer := none
  rtpMixerSecondary : Option RtpMixer := none
  outFile : OutFile := none
  outFileSecondary : OutFile := none
  numSamplesOut : Nat := 0

namespace State

variable (cfg : Config)

def mixer : RtpMixer := RtpMixer.fresh (if cfg.stereoRecording then 2 else 1) cfg.memory

def mixerSecondary : RtpMixer := RtpMixer.fresh 2 cfg.memorySecondary

/-- The first working codec of a VoIP session, or any chunk outside one: the output files are
opened, and the mixers created. -/
def openFiles (s : State σ) : Option (State σ) :=
  if s.decoding.voIpSession then
    some { s with
      firstChunk := false
      rtpMixer := some (mixer cfg)
      rtpMixerSecondary := if cfg.secondary then some (mixerSecondary cfg)
        else s.rtpMixerSecondary
      outFile := some []
      outFileSecondary := if cfg.secondary then some [] else s.outFileSecondary }
  -- outside a VoIP session there is no secondary file to open
  else if cfg.secondary then none
  else some { s with firstChunk := false, outFile := some [] }

/-- During a VoIP session the files are opened for the first chunk that has a decoder. -/
def openFirst (s : State σ) (working : Bool) : Option (State σ) :=
  if s.firstChunk && working then s.openFiles cfg else some s

/-- The main file takes `tmpChunk`, and `numSamplesOut` counts it. -/
def output (s : State σ) (tmpChunk : Option AudioChunk) : Option (State σ) := do
  let outFile ← writeChunk s.outFile tmpChunk
  match tmpChunk with
  | none => some { s with tmpChunk := none, outFile := outFile }
  | some chunk =>
      let numSamples ← chunk.getNumSamples?
      some { s with
        tmpChunk := some chunk
        outFile := outFile
        numSamplesOut := s.numSamplesOut + numSamples }

/-- The secondary mixer and the secondary file take the output of the decoder. -/
def mixSecondary (s : State σ) (tmpChunkSecondary : Option AudioChunk) : Option (State σ) :=
  match s.rtpMixerSecondary with
  | none => some s
  | some m => do
      let m ← (m.audioChunkIn cfg.tapeNumChannels tmpChunkSecondary).toOption
      let outFileSecondary ← writeChunk s.outFileSecondary m.audioChunkOut.1
      some { s with
        rtpMixerSecondary := some m.audioChunkOut.2
        outFileSecondary := outFileSecondary }

/-- Gain, mixer and file for the output of a decoder. -/
def mix (s : State σ) (tmpChunk : Option AudioChunk) : Option (State σ) := do
  let tmpChunk ← audioGain cfg tmpChunk
  let m ← s.rtpMixer
  let m ← (m.audioChunkIn cfg.tapeNumChannels tmpChunk).toOption
  { s with rtpMixer := some m.audioChunkOut.2 }.output m.audioChunkOut.1

/-- One iteration of the loop over the file. -/
def iterate (codecs : Decoder.Codecs σ) (s : State σ) (input : Input) : Option (State σ) := do
  match ← s.decoding.iterate codecs input with
  | .next decoding => some { s with decoding := decoding }
  | .plain decoding =>
      let s ← { s with decoding := decoding }.openFiles cfg
      -- the gain filter is handed what is left in `tmpChunkRef`, not the chunk that was read
      let tmpChunk ← audioGain cfg s.tmpChunk
      s.output tmpChunk
  | .decoded decoding working tmpChunk =>
      let s ← { s with decoding := decoding }.openFirst cfg working
      let s ← s.mix cfg tmpChunk
      s.mixSecondary cfg tmpChunk

/-! ### The flush -/

/-- The loop that writes what a mixer still has, with the chunk taken before. -/
def drain : Nat → Option AudioChunk → RtpMixer → State σ → Option (State σ)
  | _, none, m, s => some { s with rtpMixer := some m, tmpChunk := none }
  | 0, some _, _, _ => none
  | fuel + 1, some chunk, m, s => do
      let s ← s.output (some chunk)
      drain fuel m.audioChunkOut.1 m.audioChunkOut.2 s

def drainSecondary : Nat → Option AudioChunk → RtpMixer → State σ → Option (State σ)
  | _, none, m, s => some { s with rtpMixerSecondary := some m }
  | 0, some _, _, _ => none
  | fuel + 1, some chunk, m, s => do
      let outFileSecondary ← writeChunk s.outFileSecondary (some chunk)
      drainSecondary fuel m.audioChunkOut.1 m.audioChunkOut.2
        { s with outFileSecondary := outFileSecondary }

/-- What a mixer ships last is marked. -/
def markEos (chunk : AudioChunk) : AudioChunk :=
  { chunk with details.marker := mediaChunkEosMarker }

/-- The part after the loop: the main mixer is handed the end of the stream, and both mixers
are drained. -/
def flush (s : State σ) : Option (State σ) :=
  if s.decoding.voIpSession && !s.firstChunk then do
    let m ← s.rtpMixer
    let m ← (m.audioChunkIn cfg.tapeNumChannels (some RtpMixer.eosChunk)).toOption
    let s ← drain (m.outputQueue.length + 1) (m.audioChunkOut.1.map markEos) m.audioChunkOut.2 s
    match s.rtpMixerSecondary with
    | none => some s
    | some m =>
        drainSecondary (m.outputQueue.length + 1) m.audioChunkOut.1 m.audioChunkOut.2 s
  else some s

end State

/-- The whole iteration for a capture file. -/
def run (cfg : Config) (codecs : Decoder.Codecs σ)
    (decoders : Side → Int → Option (Decoder σ)) (inputs : List Input) : Option (State σ) :=
  (inputs.foldlM (State.iterate cfg codecs) { decoding := { decoders := decoders } }).bind
    (State.flush cfg)

end OrkAudio.BatchProcessing
