import OrkAudio.AudioChunk
import OrkAudio.Lib.Steps

/-! A tape on its way from the capture thread to disk.

The capture thread adds chunks to a tape and queues the tape for immediate processing; the
immediate processing thread pops tapes and writes their chunks. What runs under a mutex is
one step, and so is each unprotected test. There is no party filter, writing never fails
and the size limit is not reached. -/

namespace OrkAudio

open Lib

inductive TapeState
  | created | active | stopped | error
  deriving DecidableEq, Repr

/-- `written` are the chunks passed to `m_audioFileRef->WriteChunk`, in order. -/
structure AudioTape where
  state : TapeState := .created
  shouldStop : Bool := false
  isQueued : Bool := false
  chunkQueue : List AudioChunk := []
  chunkQueueDataSize : Nat := 0
  pushCount : Nat := 0
  popCount : Nat := 0
  highMark : Nat := 0
  rejectedCount : Nat := 0
  bytesWritten : Int := 0
  readyForBatchProcessing : Bool := false
  written : List AudioChunk := []

namespace AudioTape

/-- The unprotected test at the head of `AddAudioChunk`. -/
def takesChunks (tape : AudioTape) : Bool :=
  tape.state == .created || tape.state == .active

/-- The queue size from which on chunks are rejected. -/
def rejectLimit (captureFileBatchSizeKByte : Int) : Nat :=
  toU32 (captureFileBatchSizeKByte * 3 * 1024)

/-- The protected part of `AddAudioChunk`, and whether the chunk was accepted. -/
def pushChunk (captureFileBatchSizeKByte : Int) (tape : AudioTape) (chunk : AudioChunk) :
    Bool × AudioTape :=
  if tape.chunkQueueDataSize ≥ rejectLimit captureFileBatchSizeKByte then
    (false, { tape with rejectedCount := tape.rejectedCount + 1 })
  else
    (true, { tape with
      chunkQueue := tape.chunkQueue ++ [chunk]
      chunkQueueDataSize := toU32 (tape.chunkQueueDataSize + chunk.getNumBytes)
      pushCount := tape.pushCount + 1
      highMark := max tape.highMark (tape.chunkQueue.length + 1) })

/-- The protected part of the loop in `Write`. -/
def popChunk (tape : AudioTape) : Option AudioChunk × AudioTape :=
  match tape.chunkQueue with
  | [] => (none, tape)
  | chunk :: rest =>
      (some chunk, { tape with
        chunkQueue := rest
        popCount := tape.popCount + 1
        chunkQueueDataSize := toU32 (tape.chunkQueueDataSize - chunk.getNumBytes) })

/-- The rest of the loop body in `Write`; the first chunk opens the file. -/
def writeChunk (tape : AudioTape) (chunk : AudioChunk) : AudioTape :=
  let tape := if tape.state = .created then { tape with state := .active } else tape
  if tape.state = .active then
    { tape with
      written := tape.written ++ [chunk], bytesWritten := tape.bytesWritten + chunk.getNumBytes }
  else tape

/-- The test at the end of `Write`. -/
def finishWrite (tape : AudioTape) : AudioTape :=
  if (tape.shouldStop = true ∧ tape.state ≠ .stopped) ∨ tape.state = .error then
    { tape with
      state := .stopped
      readyForBatchProcessing := tape.readyForBatchProcessing || decide (tape.bytesWritten > 0) }
  else tape

end AudioTape

/-- An entry of the queue of tapes: the tape that is looked at, or one of another port. -/
inductive TapeRef
  | this | other
  deriving DecidableEq, Repr

/-- Where the capture thread stands. `adding`: past the test of `AddAudioChunk`, before its
mutex. `enqueuing`: before `ImmediateProcessing::Push`, for a chunk or for the stop event. -/
inductive CaptureThread
  | idle
  | adding (chunk : AudioChunk)
  | enqueuing (afterStop : Bool)
  | finished

/-- Where the immediate processing thread stands. `acquired`: in `Pop`, past the semaphore.
`looping`, `taking`, `writing`: in the loop of `Write`. `testing`: before its last test. -/
inductive ProcessingThread
  | waiting
  | acquired
  | looping
  | taking
  | writing (chunk : AudioChunk)
  | testing

/-- Both threads and what they share. `accepted` are the chunks that `AddAudioChunk` has
accepted so far, in order; no step reads it back. -/
structure Handover where
  tape : AudioTape := {}
  audioTapeQueue : List TapeRef := []
  semaphore : Nat := 0
  capture : CaptureThread := .idle
  processing : ProcessingThread := .waiting
  accepted : List AudioChunk := []

namespace Handover

/-- `ImmediateProcessing::Push` of this tape. -/
def push (s : Handover) : Handover :=
  if s.tape.isQueued then { s with semaphore := s.semaphore + 1 }
  else
    { s with
      tape := { s.tape with isQueued := true }
      audioTapeQueue := s.audioTapeQueue ++ [.this]
      semaphore := s.semaphore + 1 }

/-- The protected part of `ImmediateProcessing::Pop`. Other tapes are written without
touching this one, so they bring the thread straight back to waiting. -/
def pop (s : Handover) : Handover :=
  match s.audioTapeQueue with
  | [] => { s with processing := .waiting }
  | .other :: rest => { s with audioTapeQueue := rest, processing := .waiting }
  | .this :: rest =>
      { s with
        audioTapeQueue := rest
        tape := { s.tape with isQueued := false }
        processing := .looping }

/-- The steps of the capture thread, of the immediate processing thread, and of the capture
threads of other ports. -/
inductive Label
  | startChunk (chunk : AudioChunk) | addChunk | enqueue | stop
  | acquire | pop | check | take | write | test
  | otherTape

/-- The next state, where the thread of the label stands before that step. -/
def next (captureFileBatchSizeKByte : Int) (s : Handover) : Label → Option Handover
  | .startChunk chunk =>
      match s.capture with
      | .idle => some { s with
          capture := if s.tape.takesChunks then .adding chunk else .enqueuing false }
      | _ => none
  | .addChunk =>
      match s.capture with
      | .adding chunk =>
          let (isAccepted, tape) := s.tape.pushChunk captureFileBatchSizeKByte chunk
          some { s with
            tape := tape
            capture := .enqueuing false
            accepted := if isAccepted then s.accepted ++ [chunk] else s.accepted }
      | _ => none
  | .enqueue =>
      match s.capture with
      | .enqueuing afterStop =>
          some { s.push with capture := if afterStop then .finished else .idle }
      | _ => none
  | .stop =>
      match s.capture with
      | .idle => some { s with
          tape := { s.tape with shouldStop := true }, capture := .enqueuing true }
      | _ => none
  | .acquire =>
      match s.processing with
      | .waiting =>
          if s.semaphore = 0 then none
          else some { s with semaphore := s.semaphore - 1, processing := .acquired }
      | _ => none
  | .pop =>
      match s.processing with
      | .acquired => some s.pop
      | _ => none
  | .check =>
      match s.processing with
      | .looping => some { s with processing :=
          if s.tape.state = .stopped ∨ s.tape.state = .error then .testing else .taking }
      | _ => none
  | .take =>
      match s.processing with
      | .taking =>
          let (chunk, tape) := s.tape.popChunk
          some { s with
            tape := tape
            processing := match chunk with
              | some chunk => .writing chunk
              | none => .testing }
      | _ => none
  | .write =>
      match s.processing with
      | .writing chunk =>
          some { s with tape := s.tape.writeChunk chunk, processing := .looping }
      | _ => none
  | .test =>
      match s.processing with
      | .testing => some { s with tape := s.tape.finishWrite, processing := .waiting }
      | _ => none
  | .otherTape =>
      some { s with
        audioTapeQueue := s.audioTapeQueue ++ [.other], semaphore := s.semaphore + 1 }

def Step (captureFileBatchSizeKByte : Int) (s : Handover) (label : Label) (s' : Handover) : Prop :=
  s.next captureFileBatchSizeKByte label = some s'

end Handover

end OrkAudio
