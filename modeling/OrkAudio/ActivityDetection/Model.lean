import OrkAudio.CapturePort.Model
import OrkAudio.Decoder.Throws
import OrkAudio.Lib.Always
import OrkAudio.VoIp.RtpPacket

/-! Activity detection: in a session that waits for side 2 and in a port with VAD, a payload is
decoded for its level.

The level of a chunk is a parameter. What the filters of the registry are is left open, as is
what the rest of a session's code does with the session. -/

namespace OrkAudio.ActivityDetection

open Lib Decoder

variable {σ α : Type}

/-- How a call fails to return. -/
inductive Abort
  /-- `std::vector::at` throws. -/
  | outOfRange
  | thrown (text : String)
  /-- A buffer is left, which is no exception and has no defined outcome. -/
  | undefined (overrun : Overrun)

def Abort.IsException : Abort → Prop
  | .undefined _ => False
  | _ => True

/-- No exception escapes. -/
def Contained (x : Except Abort α) : Prop := ∀ abort, x = .error abort → ¬ abort.IsException

/-! ### Tables of decoders -/

/-- A filter that is registered, as far as it is asked for a decoder. -/
structure RegisteredFilter (σ : Type) where
  supportsInputRtpPayloadType : Int → Bool
  instanciate : Option (Decoder σ)
  fresh : ∀ d, instanciate = some d → d.audioChunkOut = none

/-- `FilterRegistry::GetNewFilter(int)`. -/
def getNewFilter (filters : List (RegisteredFilter σ)) (rtpPayloadType : Int) :
    Option (Decoder σ) :=
  (filters.find? fun filter => filter.supportsInputRtpPayloadType rtpPayloadType).bind
    RegisteredFilter.instanciate

/-- `RTP_PAYLOAD_TYPE_MAX`. -/
abbrev rtpPayloadTypeMax : Nat := 127

/-- `m_decoders` of a session and of a port. -/
abbrev Decoders (σ : Type) := List (Option (Decoder σ))

def newDecoders (filters : List (RegisteredFilter σ)) : Decoders σ :=
  (List.range rtpPayloadTypeMax).map fun pt : Nat => getNewFilter filters (pt : Int)

/-- `m_decoders.at(details.m_rtpPayloadType)`. A negative `char` is a huge index. -/
def decoderAt (decoders : Decoders σ) (rtpPayloadType : Int) :
    Except Abort (Option (Decoder σ)) :=
  if rtpPayloadType < 0 then .error .outOfRange
  else
    match decoders[rtpPayloadType.toNat]? with
    | none => .error .outOfRange
    | some decoder => .ok decoder

section

variable (codecs : Codecs σ) (computeRmsDb : AudioChunk → Rat)

/-- What the decoder for the payload type of a chunk makes of it, none where there is no such
decoder. -/
def decode (decoders : Decoders σ) (chunk : AudioChunk) :
    Except Abort (Option AudioChunk × Decoders σ) :=
  decoderAt decoders chunk.details.rtpPayloadType >>= fun decoder =>
    match decoder with
    | none => .ok (none, decoders)
    | some d =>
        match d.audioChunkIn codecs (some chunk) with
        | .returned d' =>
            .ok (d'.audioChunkOut.map DecodedChunk.chunk,
              decoders.set chunk.details.rtpPayloadType.toNat (some d'))
        | .thrown text _ => .error (.thrown text)
        | .undefined overrun => .error (.undefined overrun)

/-! ### Packets -/

/-- What comes in from the network: a payload type of 7 bits, and a payload that is not
empty. -/
structure RtpPacket extends VoIp.RtpPacketInfo where
  payloadType_le : payloadType.toNat ≤ 127
  payload_ne : payload ≠ []
  datagram : payload.length < 65536

/-- The memory of a payload read as 16-bit samples. -/
def memoryOf (payload : List UInt8) (i : Nat) : Int16 :=
  (UInt16.ofNat ((payload.getD (2 * i) 0).toNat + 256 * (payload.getD (2 * i + 1) 0).toNat)).toInt16

/-- The chunk that a session makes of a packet. -/
def chunkOf (s : VoIp.SessionData) (channel : Nat) (rtpPacket : VoIp.RtpPacketInfo) : AudioChunk :=
  AudioChunk.plain.setBuffer (memoryOf rtpPacket.payload) (VoIp.chunkDetails s channel rtpPacket)

/-! ### Sessions -/

/-- A session with its decoders. -/
structure Session (σ : Type) where
  context : VoIp.Context
  decoders : Decoders σ

def Session.new (filters : List (RegisteredFilter σ)) (cfg : VoIp.Config) (context : VoIp.Context) :
    Session σ where
  context := context
  decoders := if cfg.sessionStartsOnS2ActivityDb ≠ 0 then newDecoders filters else []

/-- `DetectChannel` looks at the activity of the packet. -/
def watches (cfg : VoIp.Config) (s : VoIp.SessionData) (rtpPacket : VoIp.RtpPacketInfo) : Bool :=
  match s.lastRtpPacketSide1, s.lastRtpPacketSide2 with
  | some side1, some side2 =>
      !VoIp.isSameStream side1 rtpPacket && VoIp.isSameStream side2 rtpPacket && !s.started &&
        decide (cfg.sessionStartsOnS2ActivityDb ≠ 0)
  | _, _ => false

/-- `rmsVal`, 0 where nothing is decoded. -/
def rmsOf (decoders : Decoders σ) (chunk : AudioChunk) : Except Abort (Rat × Decoders σ) :=
  if chunk.details.encoding ≠ .pcmAudio then
    decode codecs decoders chunk >>= fun decoded =>
      .ok ((decoded.1.map computeRmsDb).getD 0, decoded.2)
  else .ok (computeRmsDb chunk, decoders)

/-- `OrkSession::DetectChannel`. -/
def detectChannel (cfg : VoIp.Config) (env : VoIp.Env) (keys : VoIp.SessionKeys)
    (session : Session σ) (rtpPacket : VoIp.RtpPacketInfo) : Except Abort (Session σ) :=
  if watches cfg session.context.session rtpPacket then
    rmsOf codecs computeRmsDb session.decoders (chunkOf session.context.session 2 rtpPacket) >>=
      fun rms =>
        let active := decide (rms.1 > cfg.sessionStartsOnS2ActivityDb)
        let detected := VoIp.detectChannel cfg { env with s2Active := fun _ => active } rtpPacket
          keys session.context
        .ok { context := detected.2, decoders := rms.2 }
  else
    .ok { session with
      context := (VoIp.detectChannel cfg env rtpPacket keys session.context).2 }

/-- A packet for `DetectChannel`, or whatever else becomes of the session. -/
inductive SessionLabel
  | packet (env : VoIp.Env) (keys : VoIp.SessionKeys) (rtpPacket : RtpPacket)
  | rest (context : VoIp.Context)

def Session.after (cfg : VoIp.Config) (session : Session σ) :
    SessionLabel → Except Abort (Session σ)
  | .packet env keys rtpPacket =>
      detectChannel codecs computeRmsDb cfg env keys session rtpPacket.toRtpPacketInfo
  | .rest context => .ok { session with context := context }

def SessionStep (cfg : VoIp.Config) (session : Session σ) (label : SessionLabel)
    (session' : Session σ) : Prop :=
  session.after codecs computeRmsDb cfg label = .ok session'

/-! ### Ports -/

/-- A capture port with its decoders. -/
structure Port (σ : Type) where
  recorder : Recorder
  decoders : Decoders σ

def Port.new (filters : List (RegisteredFilter σ)) (cfg : PortConfig) (id : String) : Port σ where
  recorder := .fresh cfg id
  decoders := if cfg.vad then newDecoders filters else []

/-- A call of the port that returns. -/
def called (cfg : PortConfig) (now : Int) (s : Recorder) (call : Call) : Recorder :=
  (s.enter cfg now call).perform cfg now (s.actions cfg now call).2

/-- What VAD asks of a chunk. The duration is asked for only below the low threshold. -/
def activityOf (cfg : PortConfig) (vadUp : Bool) (chunk : AudioChunk) : Except Abort Activity :=
  if vadUp && decide (computeRmsDb chunk < cfg.vadLowThresholdDb) then
    match chunk.getNumSamples? with
    | none => .error (.thrown unknownEncodingText)
    | some numSamples =>
        .ok
          { rmsDb := computeRmsDb chunk
            durationSec := numSamples / chunk.details.sampleRate.toNat }
  else .ok { rmsDb := computeRmsDb chunk, durationSec := 0 }

/-- `tmpChunkRef`. -/
def tmpChunk (decoders : Decoders σ) (chunk : AudioChunk) :
    Except Abort (Option AudioChunk × Decoders σ) :=
  if chunk.details.encoding ≠ .pcmAudio then decode codecs decoders chunk
  else .ok (some chunk, decoders)

/-- The activity of a chunk. -/
def measure (cfg : PortConfig) (port : Port σ) (chunk : AudioChunk) :
    Except Abort (Option Activity × Decoders σ) :=
  tmpChunk codecs port.decoders chunk >>= fun tmp =>
    match tmp.1 with
    | none => .ok (none, tmp.2)
    | some decoded =>
        activityOf computeRmsDb cfg port.recorder.port.vadUp decoded >>= fun activity =>
          .ok (some activity, tmp.2)

/-- `AddAudioChunk` comes to VAD. -/
def detectsVoice (cfg : PortConfig) : Bool :=
  cfg.audioOutputEnable && !cfg.audioSegmentation && cfg.vad

/-- `CapturePort::AddAudioChunk`. -/
def addAudioChunk (cfg : PortConfig) (now : Int) (port : Port σ) (chunk : AudioChunk) :
    Except Abort (Port σ) :=
  if detectsVoice cfg then
    measure codecs computeRmsDb cfg port chunk >>= fun measured =>
      .ok
        { recorder := called cfg now port.recorder (.addAudioChunk chunk measured.1)
          decoders := measured.2 }
  else .ok { port with recorder := called cfg now port.recorder (.addAudioChunk chunk none) }

/-- The audio of a packet, from a session in any state, or another call of the port. -/
inductive PortLabel
  | audio (now : Int) (s : VoIp.SessionData) (channel : Nat) (rtpPacket : RtpPacket)
  | call (now : Int) (call : Call)

def Port.after (cfg : PortConfig) (port : Port σ) : PortLabel → Except Abort (Port σ)
  | .audio now s channel rtpPacket =>
      addAudioChunk codecs computeRmsDb cfg now port
        (chunkOf s channel rtpPacket.toRtpPacketInfo)
  | .call now call => .ok { port with recorder := called cfg now port.recorder call }

def PortStep (cfg : PortConfig) (port : Port σ) (label : PortLabel) (port' : Port σ) : Prop :=
  port.after codecs computeRmsDb cfg label = .ok port'

end

end OrkAudio.ActivityDetection
