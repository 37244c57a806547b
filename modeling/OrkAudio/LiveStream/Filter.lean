import OrkAudio.AudioChunk
import OrkAudio.CaptureEvent
import OrkAudio.LiveStream.RingBuffer

/-! `LiveStreamFilter`: the chunks of a call on their way to an RTMP server.

What the RTMP calls and `malloc` give is an input of each step. The calls made are kept, the
last one first, with a mark at the end of each EtStop. -/

namespace OrkAudio.LiveStream

open Lib

/-- Null, or a chunk. -/
abbrev AudioChunkRef := Option AudioChunk

/-- A byte of the memory at `m_pBuffer`. -/
def byteOf (chunk : AudioChunk) (i : Nat) : UInt8 :=
  let sample := (chunk.buffer (i / 2)).toUInt16
  if i % 2 = 0 then sample.toUInt8 else (sample >>> 8).toUInt8

def numBytes (chunk : AudioChunk) : Nat := chunk.details.numBytes.toNat

/-- What a pointer to a half of a frame points to. -/
inductive Source
  | silence
  | chunk (chunk : AudioChunk)

/-- What is given to `srs_audio_write_raw_frame`. -/
structure Frame where
  first : Source
  second : Source
  soundFormat : UInt8
  data : List UInt8
  timestamp : UInt32

inductive Call
  | created (handle : Nat)
  | written (handle : Nat) (frame : Frame)
  | destroyed (handle : Nat)
  /-- The end of an EtStop. -/
  | stopped

structure LiveStreamFilter where
  outputAudioChunk : AudioChunkRef := none
  callId : String := ""
  orkRefId : String := ""
  status : Bool := false
  isFirstPacket : Bool := true
  headChannel : UInt8 := 0
  rtmp : Option Nat := none
  timestamp : UInt32 := 0
  bufferQueue : RingBuffer AudioChunkRef
  shouldStreamAllCalls : Bool
  silentChannelBuffer : Option (List UInt8) := none

/-- The filter with the handles and the calls of the RTMP library, and the list of the calls
that are streamed. -/
structure Plugin where
  filter : LiveStreamFilter
  streamCallList : List String := []
  nextHandle : Nat := 0
  calls : List Call := []

def g711PacketInterval : Int := 20

/-- The constructor. The number of cells is an `int` that becomes a `size_t`: no memory has
room for a negative one. -/
def Plugin.new (queueFlushThresholdMillis : Int) (shouldStreamAllCalls : Bool) :
    Except Fault Plugin :=
  let size := queueFlushThresholdMillis.tdiv g711PacketInterval
  if size < 0 then .error .thrown
  else .ok
    { filter :=
        { bufferQueue := { buf := fun _ => none, maxSize := size.toNat }
          shouldStreamAllCalls := shouldStreamAllCalls } }

/-! ### Chunks -/

/-- Whether `malloc` gives a silence buffer and a frame, and the write succeeds. -/
structure Outcome where
  silenceGranted : Bool := true
  frameGranted : Bool := true
  written : Bool := true

namespace LiveStreamFilter

variable (filter : LiveStreamFilter)

def readByte : Source → Nat → Except Fault UInt8
  | .silence, i =>
      match filter.silentChannelBuffer with
      | none => .error .null
      | some silent => if silent.length ≤ i then .error .outside else .ok (silent.getD i 0)
  | .chunk chunk, i => if numBytes chunk ≤ i then .error .outside else .ok (byteOf chunk i)

/-- The loop of `PushToRTMP` from `i` on, with `left` rounds to go. -/
def interleave (first second : Source) : (left i : Nat) → Except Fault (List UInt8)
  | 0, _ => .ok []
  | left + 1, i =>
      filter.readByte first i >>= fun a => filter.readByte second i >>= fun b =>
        interleave first second left (i + 1) >>= fun rest => .ok (a :: b :: rest)

def soundFormatOf (details : AudioChunkDetails) : UInt8 :=
  if details.rtpPayloadType = 0 then 8 else if details.rtpPayloadType = 8 then 7 else 9

def pushToRTMP (outcome : Outcome) (channelDetails : AudioChunkDetails) (first second : Source) :
    Except Fault (List Call × LiveStreamFilter) :=
  match filter.rtmp with
  | none => .ok ([], filter)
  | some handle =>
      let pushed := { filter with timestamp := filter.timestamp + 160 }
      if outcome.frameGranted then
        filter.interleave first second channelDetails.numBytes.toNat 0 >>= fun data =>
          .ok ([.written handle
              { first := first
                second := second
                soundFormat := soundFormatOf channelDetails
                data := data
                timestamp := pushed.timestamp }],
            { pushed with status := pushed.status && outcome.written })
      else .ok ([], pushed)

/-- What is kept of the first packet. -/
def firstPacket (chunk : AudioChunk) : LiveStreamFilter :=
  if filter.isFirstPacket then
    { filter with headChannel := chunk.details.channel, isFirstPacket := false }
  else filter

/-- The silence buffer is made once, with the size of the chunk that is at hand. -/
def withSilence (chunk : AudioChunk) : LiveStreamFilter :=
  match filter.silentChannelBuffer with
  | none => { filter with silentChannelBuffer := some (List.replicate (numBytes chunk) 255) }
  | some _ => filter

/-- The memory of an element that came out of the queue. -/
def sourceOf : AudioChunkRef → Except Fault Source
  | none => .error .null
  | some chunk => .ok (.chunk chunk)

/-- The chunk while the stream is on. -/
def stream (outcome : Outcome) (chunk : AudioChunk) :
    Except Fault (List Call × LiveStreamFilter) :=
  if chunk.details.channel = filter.headChannel then
    filter.bufferQueue.put (some chunk) >>= fun result =>
      let queued := { filter with bufferQueue := result.2 }
      match result.1 with
      | none => .ok ([], queued)
      | some elem =>
          sourceOf elem >>= fun second =>
            queued.pushToRTMP outcome chunk.details .silence second
  else
    filter.bufferQueue.get >>= fun result =>
      let taken := { filter with bufferQueue := result.2 }
      match result.1 with
      | none => taken.pushToRTMP outcome chunk.details (.chunk chunk) .silence
      | some elem =>
          sourceOf elem >>= fun second =>
            taken.pushToRTMP outcome chunk.details (.chunk chunk) second

/-- A chunk with samples. -/
def receive (outcome : Outcome) (chunk : AudioChunk) :
    Except Fault (List Call × LiveStreamFilter) :=
  let first := filter.firstPacket chunk
  if first.silentChannelBuffer.isNone && !outcome.silenceGranted then .ok ([], first)
  else
    let ready := first.withSilence chunk
    if ready.status then ready.stream outcome chunk else .ok ([], ready)

def audioChunkIn (outcome : Outcome) (inputAudioChunk : AudioChunkRef) :
    Except Fault (List Call × LiveStreamFilter) :=
  let kept := { filter with outputAudioChunk := inputAudioChunk }
  match inputAudioChunk with
  | none => .ok ([], kept)
  | some chunk =>
      match chunk.getNumSamples? with
      | none => .error .thrown
      | some 0 => .ok ([], kept)
      | some (_ + 1) => kept.receive outcome chunk

end LiveStreamFilter

/-! ### Events -/

/-- What the calls that open a stream give. -/
structure Opening where
  created : Bool := true
  handshake : Bool := true
  connectApp : Bool := true
  publishStream : Bool := true

namespace Plugin

variable (plugin : Plugin)

/-- `srs_rtmp_create`: the member is overwritten. -/
def create (opening : Opening) : Plugin :=
  if opening.created then
    { plugin with
      filter := { plugin.filter with rtmp := some plugin.nextHandle }
      nextHandle := plugin.nextHandle + 1
      calls := .created plugin.nextHandle :: plugin.calls }
  else { plugin with filter := { plugin.filter with rtmp := none } }

def start (opening : Opening) : Plugin :=
  if plugin.filter.callId = "" then plugin
  else
    let opened := plugin.create opening
    if opening.handshake && opening.connectApp && opening.publishStream then
      { opened with
        filter := { opened.filter with status := true }
        streamCallList := opened.streamCallList.insert opened.filter.callId }
    else opened

/-- The end of streaming, as an EtStop and a stop command have it. -/
def halt : Plugin :=
  { plugin with
    filter := { plugin.filter with status := false }
    streamCallList := plugin.streamCallList.erase plugin.filter.callId }

/-- The member still points to the handle afterwards. -/
def stop : Plugin :=
  let halted := plugin.halt
  match halted.filter.rtmp with
  | none => { halted with calls := .stopped :: halted.calls }
  | some handle => { halted with calls := .stopped :: .destroyed handle :: halted.calls }

/-- The event starts the stream. -/
def isStart (shouldStreamAllCalls : Bool) (event : CaptureEvent) : Bool :=
  (decide (event.type = .etCallId) && shouldStreamAllCalls) ||
    (decide (event.type = .etKeyValue) && decide (event.key = "LiveStream") &&
      decide (event.value = "start") && !shouldStreamAllCalls)

def isStop (event : CaptureEvent) : Bool :=
  decide (event.type = .etKeyValue) && decide (event.key = "LiveStream") &&
    decide (event.value = "stop")

/-- What the filter remembers of an event. -/
def noteEvent (event : CaptureEvent) : Plugin :=
  { plugin with
    filter :=
      { plugin.filter with
        orkRefId := if event.type = .etStart then event.value else plugin.filter.orkRefId
        callId := if event.type = .etCallId then event.value else plugin.filter.callId } }

def captureEventIn (opening : Opening) (event : CaptureEvent) : Plugin :=
  let noted := plugin.noteEvent event
  if isStart noted.filter.shouldStreamAllCalls event then noted.start opening
  else if event.type = .etStop then noted.stop
  else if isStop event then noted.halt
  else noted

/-! ### Commands -/

def command (value : String) : CaptureEvent :=
  { type := .etKeyValue, key := "LiveStream", value := value }

/-- `StartStreamNativeCallId`. `found` says whether it finds the session of this filter. -/
def startStreamNativeCallId (opening : Opening) (found : Bool) : Plugin :=
  if found then plugin.captureEventIn opening (command "start") else plugin

/-- `StopStreamNativeCallId`. -/
def stopStreamNativeCallId (nativecallid : String) (found : Bool) : Plugin :=
  if decide (nativecallid ∈ plugin.streamCallList) && found then
    plugin.captureEventIn {} (command "stop")
  else plugin

/-! ### Runs -/

inductive Label
  | event (opening : Opening) (event : CaptureEvent)
  | chunk (outcome : Outcome) (inputAudioChunk : AudioChunkRef)
  | startStream (opening : Opening) (found : Bool)
  | stopStream (nativecallid : String) (found : Bool)

/-- A chunk handed to the filter, with the calls that it leads to. -/
def chunkIn (outcome : Outcome) (inputAudioChunk : AudioChunkRef) : Except Fault Plugin :=
  (plugin.filter.audioChunkIn outcome inputAudioChunk).map fun result =>
    { plugin with filter := result.2, calls := result.1 ++ plugin.calls }

def after : Label → Except Fault Plugin
  | .event opening event => .ok (plugin.captureEventIn opening event)
  | .chunk outcome inputAudioChunk => plugin.chunkIn outcome inputAudioChunk
  | .startStream opening found => .ok (plugin.startStreamNativeCallId opening found)
  | .stopStream nativecallid found => .ok (plugin.stopStreamNativeCallId nativecallid found)

def Step (plugin : Plugin) (label : Label) (plugin' : Plugin) : Prop :=
  plugin.after label = .ok plugin'

end Plugin

end OrkAudio.LiveStream
