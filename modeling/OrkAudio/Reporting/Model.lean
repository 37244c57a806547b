import OrkAudio.Lib.ByteSearch
import OrkAudio.Lib.Steps
import OrkAudio.Lib.Word
import OrkAudio.StdString
import OrkAudio.Serializer.SingleLine
import OrkAudio.Serializer.Text

/-! The reporting thread of one tracker, from the end of its initial handshake on.

A label of a run is a call of another thread, or a round of one of the two loops of
`ReportingThread::Run` with what its HTTP exchange gave. -/

namespace OrkAudio.Reporting

open Lib hiding Bytes
open Serializer

structure Config where
  enableReporting : Bool
  reportingQueueSize : Int
  audioOutputPath : String
  pauseRecordingOnRejectedStart : Bool
  lookBackRecording : Bool
  allowAutomaticRecording : Bool

/-! ### Responses -/

/-- `KeyValueSerializer::GetString` of a parameter that is not required. -/
def getString (map : OrderedMap Bytes Bytes) (key : Bytes) (value : Bytes) : Bytes :=
  (map.find? key).getD value

/-- The boolean that a text in lower case stands for: none where it is no boolean, and
`some none` where it is empty. -/
def readBool (t : Bytes) : Option (Option Bool) :=
  if t = text "true" ∨ t = text "yes" ∨ t = text "1" then some (some true)
  else if t = text "false" ∨ t = text "no" ∨ t = text "0" then some (some false)
  else if t = [] then some none
  else none

/-- `Serializer::GetBool`, with the text it throws. -/
def getBool (map : OrderedMap Bytes Bytes) (key : Bytes) (value : Bool) : Except Bytes Bool :=
  let stringValue := toLower (getString map key [])
  match readBool stringValue with
  | some given => .ok (given.getD value)
  | none =>
      .error (text "Serializer: Invalid boolean value:" ++ stringValue ++
        text " for parameter:" ++ key)

structure SimpleResponseMsg where
  success : Bool := false
  comment : Bytes := []

/-- `SimpleResponseMsg::Define`, reading. -/
def SimpleResponseMsg.define (r : SimpleResponseMsg) (map : OrderedMap Bytes Bytes) :
    Except Bytes SimpleResponseMsg := do
  let success ← getBool map (text "success") r.success
  return { success := success, comment := getString map (text "comment") r.comment }

structure TapeResponse extends SimpleResponseMsg where
  deleteTape : Bool := false

/-- `TapeResponse::Define`, reading. -/
def TapeResponse.define (r : TapeResponse) (map : OrderedMap Bytes Bytes) :
    Except Bytes TapeResponse := do
  let simple ← r.toSimpleResponseMsg.define map
  let deleteTape ← getBool map (text "deletetape") r.deleteTape
  return { simple with deleteTape := deleteTape }

/-- What `CreateResponse` makes for the two reportable classes. -/
inductive Response
  | simple (r : SimpleResponseMsg)
  | tape (r : TapeResponse)

namespace Response

def define (map : OrderedMap Bytes Bytes) : Response → Except Bytes Response
  | simple r => (r.define map).map simple
  | tape r => (r.define map).map tape

/-- `DeSerializeSingleLine`; neither class validates anything. -/
def deSerializeSingleLine (r : Response) (input : Bytes) : Except Bytes Response :=
  r.define ((SingleLine.deSerialize input).getD .empty)

/-- The parameters that are read as booleans. -/
def booleans : Response → List Bytes
  | simple _ => [text "success"]
  | tape _ => [text "success", text "deletetape"]

end Response

/-! ### Messages -/

structure TapeMsg where
  recId : String
  stage : String
  fileName : String := ""
  localParty : String := ""
  remoteParty : String := ""

inductive Message
  | tape (msg : TapeMsg)
  | addTag
  /-- Of a class that is not an `IReportable`. -/
  | other

/-- What a response makes the process do. -/
inductive Action
  | remove (file : String)
  | pauseCapture (orkUid : String)
  | startCapture (party : String)

namespace Message

def isValid : Message → Bool
  | tape msg => msg.recId.toList ≠ []
  | addTag => true
  | other => true

def isReportable : Message → Bool
  | tape _ => true
  | addTag => true
  | other => false

def isRealtime : Message → Bool
  | tape msg => equalsNoCase msg.stage "start" || equalsNoCase msg.stage "stop"
  | addTag => false
  | other => false

def createResponse : Message → Response
  | tape _ => .tape {}
  | addTag => .simple {}
  | other => .simple {}

/-- `HandleResponse`: its calls in order. -/
def handleResponse (cfg : Config) : Message → Response → List Action
  | tape msg, .tape tr =>
      if tr.deleteTape && equalsNoCase msg.stage "ready" then
        [.remove (cfg.audioOutputPath ++ "/" ++ msg.fileName)]
      else if tr.deleteTape && equalsNoCase msg.stage "start" &&
          cfg.pauseRecordingOnRejectedStart then
        [.pauseCapture msg.recId]
      else if !cfg.lookBackRecording && cfg.allowAutomaticRecording &&
          equalsNoCase msg.stage "start" then
        [.startCapture msg.localParty, .startCapture msg.remoteParty]
      else []
  | _, _ => []

end Message

/-! ### The client -/

/-- What `ExecuteUrl` gives: false, or true with a body. -/
inductive Outcome
  | failure
  | response (body : Bytes)

/-- `OrkHttpSingleLineClient::Execute`, with the response message after it. -/
def execute (r : Response) : Outcome → Except Bytes (Bool × Response)
  | .failure => .ok (false, r)
  | .response body => do
      let r' ← r.deSerializeSingleLine body
      return (true, r')

/-! ### The thread -/

/-- The message in the retry loop, and what the calls of `Execute` for it have given. -/
structure Attempt where
  message : Message
  response : Response
  executes : List (Except Bytes Bool) := []

structure ReportingThread where
  queue : List Message := []
  current : Option Attempt := none
  numTapesToSkip : Int := 0
  /-- The messages that the thread has gone on from, in order. -/
  handled : List Attempt := []
  /-- The messages that were put in the queue, in order. -/
  queued : List Message := []
  actions : List Action := []

inductive Label
  | addMessage (message : Message)
  | skipTapes (number : Int)
  | pop
  /-- A round of the retry loop. Out of call number `throws` of the capture plugin comes an
  exception. -/
  | attempt (outcome : Outcome) (throws : Option Nat)

namespace ReportingThread

variable (cfg : Config) (s : ReportingThread)

/-- `Reporting::AddMessage` for this tracker. -/
def addMessage (message : Message) : ReportingThread :=
  if !message.isReportable then s
  else if s.queue.length < toU32 cfg.reportingQueueSize then
    { s with queue := s.queue ++ [message], queued := s.queued ++ [message] }
  else s

/-- The thread goes on to the next message. -/
def goOn (attempt : Attempt) : ReportingThread :=
  { s with current := none, handled := s.handled ++ [attempt] }

/-- A message from `pop` to the head of the retry loop. -/
def begin (message : Message) : ReportingThread :=
  let attempt : Attempt := { message := message, response := message.createResponse }
  if !message.isValid then s.goOn attempt
  else if !message.isReportable then s.goOn attempt
  else if !cfg.enableReporting then s.goOn attempt
  else { s with current := some attempt }

/-- The calls that are made where one of them throws. -/
def performed (actions : List Action) : Option Nat → List Action
  | none => actions
  | some n => actions.take (n + 1)

/-- A round of the retry loop, the test of its condition first. -/
def attempt (a : Attempt) (outcome : Outcome) (throws : Option Nat) : ReportingThread :=
  if s.numTapesToSkip > 0 then
    { s with numTapesToSkip := s.numTapesToSkip - 1 }.goOn a
  else
    match execute a.response outcome with
    | .error e => s.goOn { a with executes := a.executes ++ [Except.error e] }
    | .ok (true, r) =>
        { s with
          actions := s.actions ++ performed (a.message.handleResponse cfg r) throws }.goOn
            { a with response := r, executes := a.executes ++ [Except.ok true] }
    | .ok (false, r) =>
        let a' := { a with response := r, executes := a.executes ++ [Except.ok false] }
        if a.message.isRealtime then s.goOn a' else { s with current := some a' }

/-- One step; none where the thread is not at this place of its code. -/
def step : Label → Option ReportingThread
  | .addMessage message => some (s.addMessage cfg message)
  | .skipTapes number => some { s with numTapesToSkip := s.numTapesToSkip + number }
  | .pop =>
      match s.current, s.queue with
      | none, message :: rest => some ({ s with queue := rest }.begin cfg message)
      | _, _ => none
  | .attempt outcome throws => s.current.map fun a => s.attempt cfg a outcome throws

def Step (s : ReportingThread) (label : Label) (s' : ReportingThread) : Prop :=
  s.step cfg label = some s'

end ReportingThread

end OrkAudio.Reporting
