import OrkAudio.CapturePort.Tape
import OrkAudio.Lib.Steps

/-! A capture port with the tapes it has made.

A call of a port is a list of actions, taken one after the other: the events it handles,
the tapes it makes or drops, the chunk it delivers. None of the capture port filters of the
repository changes an event; a chunk comes as the filters leave it. What is handed to
immediate processing and to reporting is kept in `handed` and `reports`, which no action
reads back. -/

namespace OrkAudio

open Lib

structure CapturePort where
  id : String
  audioTapeRef : Option Nat := none
  capturing : Bool := false
  vadBelowThresholdSec : Rat := 0
  vadUp : Bool := false
  lastUpdated : Int := 0
  captureEvents : List CaptureEvent := []
  needSendStop : Bool := false
  segmentNumber : Int := 0

/-- Where `GetMessage` is called before `Reporting::AddMessage`. -/
inductive CallSite
  | stop | hold | resume | endMetadata | update | finalize | addAudioTape
  deriving DecidableEq, Repr

/-- A call of `Reporting::AddMessage`; the message is none for a null reference. -/
structure Report where
  tape : Option Nat
  site : CallSite
  message : Option TapeMsg

/-- A port and its tapes: the first `numTapes` exist. `handed` are the calls of
`ImmediateProcessing::AddAudioTape` with `m_shouldStop` at that time, `received` the tapes
that `AudioTape::AddAudioChunk` was called on. -/
structure Recorder where
  port : CapturePort
  tapes : Nat → CapturedTape
  numTapes : Nat := 0
  handed : List (Nat × Bool) := []
  received : List Nat := []
  reports : List Report := []

/-- What `ComputeRmsDb` and `GetDurationSec` return for a chunk. -/
structure Activity where
  rmsDb : Rat
  durationSec : Rat

inductive Action
  | addCaptureEvent (event : CaptureEvent)
  | newTape
  | resetTape
  | deliver (chunk : AudioChunk)
  | lastMessage
  | write (tape : Nat)
  | report (tape : Nat)
  | reportOther (tape : CapturedTape)

/-- `activity` is that of the chunk, or of what its decoder makes of it; none where there is
no decoder. `write`, `report` and `reportOther` are calls of the processing threads. -/
inductive Call
  | addCaptureEvent (event : CaptureEvent)
  | addAudioChunk (chunk : AudioChunk) (activity : Option Activity)
  | queueCaptureEvent (event : CaptureEvent)
  | clearEventQueue
  | finalize
  | write (tape : Nat)
  | report (tape : Nat)
  | reportOther (tape : CapturedTape)

namespace CapturePort

/-- `ReportEventBacklog`: the segment number after it and the events it adds. -/
def reportEventBacklog : Int → List CaptureEvent → Int × List CaptureEvent
  | segmentNumber, [] => (segmentNumber, [])
  | segmentNumber, event :: events =>
      if event.type = .etOrkUid then
        let (last, rest) := reportEventBacklog (segmentNumber + 1) events
        let newOrkUid := event.value ++ "_" ++ toString (segmentNumber + 1)
        (last, { type := .etOrkUid, value := newOrkUid } :: rest)
      else
        let (last, rest) := reportEventBacklog segmentNumber events
        (last, event :: rest)

/-- Create a new tape, signal its start and report the backlog. -/
def startTape (port : CapturePort) (now : Int) : CapturePort × List Action :=
  let (segmentNumber, backlog) := reportEventBacklog port.segmentNumber port.captureEvents
  let start : CaptureEvent := { type := .etStart, value := port.id, timestamp := now }
  ({ port with segmentNumber },
    .newTape :: .addCaptureEvent start :: backlog.map .addCaptureEvent)

end CapturePort

namespace Recorder

variable (cfg : PortConfig) (now : Int)

/-- `CapturePort::CapturePort`. -/
def fresh (id : String) : Recorder where
  port := { id }
  tapes := fun _ => .new cfg id 0

def modifyTape (s : Recorder) (r : Nat) (f : CapturedTape → CapturedTape) : Recorder :=
  { s with tapes := Function.update s.tapes r (f (s.tapes r)) }

@[simp] theorem modifyTape_tapes_self (s : Recorder) (r : Nat) (f : CapturedTape → CapturedTape) :
    (s.modifyTape r f).tapes r = f (s.tapes r) :=
  Function.update_self ..

/-- `GetMessage` and then `Reporting::AddMessage`. -/
def report (s : Recorder) (r : Nat) (site : CallSite) : Recorder :=
  { s with
    tapes := Function.update s.tapes r ((s.tapes r).getMessage cfg).2
    reports := s.reports ++ [⟨some r, site, ((s.tapes r).getMessage cfg).1⟩] }

/-- `ImmediateProcessing::AddAudioTape`. -/
def handOver (s : Recorder) (r : Nat) : Recorder :=
  { s with handed := s.handed ++ [(r, (s.tapes r).shouldStop)] }

/-- `m_audioTapeRef.reset(..)`. -/
def setTape (s : Recorder) (tape : CapturedTape) : Recorder :=
  { s with
    port := { s.port with audioTapeRef := some s.numTapes }
    tapes := Function.update s.tapes s.numTapes tape
    numTapes := s.numTapes + 1 }

/-- `EtStart` in `AddCaptureEvent`: stop the previous tape and create a new one. -/
def startCapture (s : Recorder) (event : CaptureEvent) : Recorder :=
  let s := { s with port := { s.port with capturing := true } }
  let s := match s.port.audioTapeRef with
    | some r => s.modifyTape r fun tape => { tape with shouldStop := true }
    | none => s
  s.setTape ((CapturedTape.new cfg s.port.id now).addCaptureEvent cfg event true)

/-- The switch in `AddCaptureEvent`, with a valid tape. -/
def handleEvent (s : Recorder) (r : Nat) (event : CaptureEvent) : Recorder :=
  match event.type with
  | .etStart => s
  | .etStop =>
      let s := { s with port := { s.port with capturing := false } }
      let s := s.modifyTape r fun tape =>
        if cfg.holdResumeReportDuration then
          tape.populateTag "holdduration" (toString tape.holdDuration)
        else tape
      let s := s.modifyTape r fun tape => tape.addCaptureEvent cfg event true
      let s := s.report cfg r .stop
      let s := { s with port := { s.port with needSendStop := false } }
      s.handOver r
  | .etHold =>
      if (s.tapes r).lastHoldTs = 0 then
        let s := s.modifyTape r fun tape => { tape with lastHoldTs := longToInt now }
        if cfg.holdResumeReportEvents then
          (s.modifyTape r fun tape => tape.addCaptureEvent cfg event true).report cfg r .hold
        else s
      else s
  | .etResume =>
      let s := s.modifyTape r fun tape =>
        if tape.lastHoldTs > 0 then
          { tape with holdDuration := longToInt (tape.holdDuration + (now - tape.lastHoldTs)) }
        else tape
      let s :=
        if cfg.holdResumeReportEvents && (s.tapes r).lastHoldTs > 0 then
          (s.modifyTape r fun tape => tape.addCaptureEvent cfg event true).report cfg r .resume
        else s
      s.modifyTape r fun tape => { tape with lastHoldTs := 0 }
  | .etEndMetadata =>
      let s := s.report cfg r .endMetadata
      { s with port := { s.port with needSendStop := true } }
  | .etUpdate =>
      (s.modifyTape r fun tape => tape.addCaptureEvent cfg event true).report cfg r .update
  | _ => s.modifyTape r fun tape => tape.addCaptureEvent cfg event false

/-- `CapturePort::AddCaptureEvent`. -/
def addCaptureEvent (s : Recorder) (event : CaptureEvent) : Recorder :=
  let s := { s with port := { s.port with lastUpdated := now } }
  let s := if event.type = .etStart then s.startCapture cfg now event else s
  match s.port.audioTapeRef with
  | some r => s.handleEvent cfg now r event
  | none => s

/-- The end of `AddAudioChunk`: give the chunk to the tape and the tape to processing. -/
def deliver (s : Recorder) (chunk : AudioChunk) : Recorder :=
  match s.port.audioTapeRef with
  | some r =>
      if s.port.capturing then
        let s := { s with received := s.received ++ [r] }
        (s.modifyTape r fun tape => tape.addAudioChunk cfg chunk).handOver r
      else s
  | none => s

/-- One action. -/
def act (s : Recorder) : Action → Recorder
  | .addCaptureEvent event => s.addCaptureEvent cfg now event
  | .newTape => s.setTape (.new cfg s.port.id now)
  | .resetTape => { s with port := { s.port with audioTapeRef := none } }
  | .deliver chunk => s.deliver cfg chunk
  | .lastMessage =>
      match s.port.audioTapeRef with
      | some r =>
          let s := s.report cfg r .finalize
          { s with port := { s.port with needSendStop := false } }
      | none => s
  | .write r => if r < s.numTapes then s.modifyTape r fun tape => tape.write cfg else s
  | .report r => if r < s.numTapes then s.report cfg r .addAudioTape else s
  | .reportOther tape =>
      { s with reports := s.reports ++ [⟨none, .addAudioTape, (tape.getMessage cfg).1⟩] }

/-- The event that stops a tape from within the port. -/
def stopEvent : CaptureEvent := { type := .etStop, timestamp := now }

/-- Audio segmentation in `AddAudioChunk`: a tape that is old enough is replaced. -/
def segment (s : Recorder) : CapturePort × List Action :=
  match s.port.audioTapeRef with
  | some r =>
      if now - (s.tapes r).beginDate ≥ cfg.audioSegmentDuration then
        let (port, actions) := s.port.startTape now
        (port, .addCaptureEvent (stopEvent now) :: actions)
      else (s.port, [])
  | none => s.port.startTape now

/-- Voice activity detection in `AddAudioChunk`. -/
def detectVoice (s : Recorder) (activity : Activity) : CapturePort × List Action :=
  if s.port.vadUp then
    let below :=
      if activity.rmsDb < cfg.vadLowThresholdDb then
        s.port.vadBelowThresholdSec + activity.durationSec
      else 0
    if below > cfg.vadHoldOnSec then
      ({ s.port with vadBelowThresholdSec := below, vadUp := false },
        [.addCaptureEvent (stopEvent now), .resetTape])
    else ({ s.port with vadBelowThresholdSec := below }, [])
  else if activity.rmsDb > cfg.vadHighThresholdDb then
    let port := { s.port with vadBelowThresholdSec := 0, vadUp := true }
    if s.port.audioTapeRef = none then port.startTape now else (port, [])
  else (s.port, [])

/-- `CapturePort::AddAudioChunk`. -/
def chunkActions (s : Recorder) (chunk : AudioChunk) (activity : Option Activity) :
    CapturePort × List Action :=
  let s := { s with port := { s.port with lastUpdated := now } }
  if !cfg.audioOutputEnable then (s.port, [])
  else
    let (port, actions) :=
      if cfg.audioSegmentation then s.segment cfg now
      else if cfg.vad then
        match activity with
        | some activity => s.detectVoice cfg now activity
        | none => (s.port, [])
      else (s.port, [])
    (port, actions ++ [.deliver chunk])

/-- The port as a call sets it first, and the actions that the call then takes. -/
def actions (s : Recorder) : Call → CapturePort × List Action
  | .addCaptureEvent event => (s.port, [.addCaptureEvent event])
  | .addAudioChunk chunk activity => s.chunkActions cfg now chunk activity
  | .queueCaptureEvent event =>
      ({ s.port with captureEvents := s.port.captureEvents ++ [event] }, [])
  | .clearEventQueue => ({ s.port with captureEvents := [] }, [])
  | .finalize =>
      if s.port.needSendStop then
        (s.port, [.addCaptureEvent (stopEvent now), .lastMessage])
      else (s.port, [])
  | .write r => (s.port, [.write r])
  | .report r => (s.port, [.report r])
  | .reportOther tape => (s.port, [.reportOther tape])

/-- The actions one after the other. -/
def perform (s : Recorder) (actions : List Action) : Recorder := actions.foldl (act cfg now) s

/-- The port as the call sets it first. -/
def enter (s : Recorder) (call : Call) : Recorder := { s with port := (s.actions cfg now call).1 }

/-- A call at a time. -/
inductive Step : Recorder → Int × Call → Recorder → Prop
  | call (s : Recorder) (now : Int) (call : Call) :
      Step s (now, call) ((s.enter cfg now call).perform cfg now (s.actions cfg now call).2)

end Recorder

end OrkAudio
