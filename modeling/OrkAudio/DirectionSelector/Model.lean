import OrkAudio.CaptureEvent
import OrkAudio.Lib.OrderedMap
import OrkAudio.MediaChunkFile.Model

/-! `DirectionSelector`: blanking the side of a recorded call that is not to be kept, by the
marks that `AudioTape` sets at every order to keep a direction, and `BatchProcessing::SkipChunk`,
which leaves out the chunks of the other side instead. -/

namespace OrkAudio.DirectionSelector

open Lib MediaChunkFile

/-- `AudioDirectionMarks`; times are in seconds, 0 when not set. -/
structure AudioDirectionMarks where
  timestamp : Nat := 0
  nextTimestampMark : Nat := 0
  audioKeepDirectionEnum : AudioKeepDirection := .audioKeepDirectionBoth
  deriving DecidableEq

/-- The part of an `AudioTape` that decides what is kept; `localSide` is none for
`LocalSideInvalid`. -/
structure AudioTape where
  audioDirectionMarks : List AudioDirectionMarks
  audioKeepDirectionEnum : AudioKeepDirection
  localSide : Option LocalSide
  remoteParty : String
  deriving DecidableEq

/-- An `EtAudioKeepDirection` event with what the clock shows when its mark is set and when the
mark before it is ended. -/
structure KeepDirectionEvent where
  value : String
  timestamp : Nat
  nextTimestampMark : Nat
  deriving DecidableEq

namespace AudioTape

/-- `back()->m_nextTimestampMark = nextTimestampMark`, where there is a mark. -/
def endLastMark (nextTimestampMark : Nat) :
    List AudioDirectionMarks → List AudioDirectionMarks
  | [] => []
  | [mark] => [{ mark with nextTimestampMark := nextTimestampMark }]
  | mark :: next :: rest => mark :: endLastMark nextTimestampMark (next :: rest)

/-- `AudioTape::AddCaptureEvent` on an `EtAudioKeepDirection`. -/
def addAudioKeepDirection (tape : AudioTape) (event : KeepDirectionEvent) : AudioTape :=
  let audioKeepDirectionEnum := audioKeepDirectionToEnum event.value
  let mark : AudioDirectionMarks :=
    { timestamp := event.timestamp, audioKeepDirectionEnum := audioKeepDirectionEnum }
  { tape with
    audioKeepDirectionEnum := audioKeepDirectionEnum
    audioDirectionMarks := endLastMark event.nextTimestampMark tape.audioDirectionMarks ++ [mark] }

/-- The tape after a sequence of such events. -/
def addEvents (tape : AudioTape) (events : List KeepDirectionEvent) : AudioTape :=
  events.foldl addAudioKeepDirection tape

end AudioTape

/-- `BatchProcessing::SkipChunk`: whether to skip, and `channelToSkip`. -/
def skipChunk (tape : AudioTape) (chunk : Chunk) : Bool × Nat :=
  let channel := chunk.details.channel
  let skip : Bool :=
    match tape.audioKeepDirectionEnum with
    | .audioKeepDirectionBoth => false
    | .audioKeepDirectionLocal =>
        match tape.localSide with
        | some .localSideUnkn => false
        | some .localSideSide1 => channel != 1
        | some .localSideSide2 => channel != 2
        | some .localSideBoth => false
        | none => false
    | .audioKeepDirectionRemote =>
        match tape.localSide with
        | some .localSideUnkn => false
        | some .localSideSide1 => channel == 1
        | some .localSideSide2 => channel == 2
        | some .localSideBoth => true
        | none => false
    | .audioKeepDirectionNone => true
    | .audioKeepDirectionInvalid => false
  (skip, if skip then channel.toNat else 0)

/-- `memset(chunkRef->m_pBuffer, 0, details.m_numBytes)`. -/
def blank (chunk : Chunk) : Chunk where
  details := chunk.details
  buffer := chunk.buffer.map fun memory => List.replicate memory.length 0
  sized := by
    intro memory hmemory
    obtain ⟨old, hold, rfl⟩ := Option.map_eq_some_iff.mp hmemory
    rw [List.length_replicate]
    exact chunk.sized old hold

/-- The chunk arrived between this mark and the next one. -/
def InBetween (mark : AudioDirectionMarks) (chunk : Chunk) : Prop :=
  mark.timestamp ≠ 0 ∧ mark.timestamp ≤ chunk.details.arrivalTimestamp.toNat ∧
    (chunk.details.arrivalTimestamp.toNat < mark.nextTimestampMark ∨ mark.nextTimestampMark = 0)

instance instDecidableInBetween (mark : AudioDirectionMarks) (chunk : Chunk) :
    Decidable (InBetween mark chunk) :=
  inferInstanceAs (Decidable (_ ∧ _ ∧ _))

/-- The comparisons that end in a `memset`. -/
def blanksSide (localSide : Option LocalSide) (mark : AudioDirectionMarks) (chunk : Chunk) :
    Bool :=
  match localSide with
  | some .localSideSide1 =>
      if mark.audioKeepDirectionEnum = .audioKeepDirectionLocal ∧ chunk.details.channel = 2 then
        true
      else
        decide (mark.audioKeepDirectionEnum = .audioKeepDirectionRemote ∧
          chunk.details.channel = 1)
  | some .localSideSide2 =>
      if mark.audioKeepDirectionEnum = .audioKeepDirectionLocal ∧ chunk.details.channel = 1 then
        true
      else
        decide (mark.audioKeepDirectionEnum = .audioKeepDirectionRemote ∧
          chunk.details.channel = 2)
  | _ => false

/-- The loop over the marks for one chunk. -/
def applyMarks (localSide : Option LocalSide) :
    List AudioDirectionMarks → Chunk → Chunk
  | [], chunk => chunk
  | mark :: marks, chunk =>
      if InBetween mark chunk then
        if blanksSide localSide mark chunk then applyMarks localSide marks (blank chunk)
        else applyMarks localSide marks chunk
      else applyMarks localSide marks chunk

/-- The search in the area codes map: the side of the first code that the remote party
starts with. -/
def areaCodeSide (areaCodesMap : OrderedMap String String) (remoteParty : String) :
    Option String :=
  (areaCodesMap.entries.find? fun entry =>
    entry.1.toList.isPrefixOf remoteParty.toList).map Prod.snd

/-- The mark of an area code, in front of all others. -/
def insertDefaultKeptSide (areaCodesMap : OrderedMap String String) (tape : AudioTape) :
    AudioTape :=
  match areaCodeSide areaCodesMap tape.remoteParty with
  | none => tape
  | some side =>
      let defaultKeptSide : AudioDirectionMarks := {
        timestamp := 1
        nextTimestampMark :=
          match tape.audioDirectionMarks with
          | [] => 0
          | mark :: _ => mark.timestamp
        audioKeepDirectionEnum := audioKeepDirectionToEnum side }
      { tape with audioDirectionMarks := defaultKeptSide :: tape.audioDirectionMarks }

/-- `DirectionSelector::ThreadHandler` on one tape: the tape it passes on and the chunks it
writes in place of those that it reads. -/
def threadHandler (areaCodesMap : OrderedMap String String) (tape : AudioTape)
    (chunks : List Chunk) : AudioTape × List Chunk :=
  let marked := insertDefaultKeptSide areaCodesMap tape
  (marked, chunks.map (applyMarks marked.localSide marked.audioDirectionMarks))

@[simp] theorem blank_details (chunk : Chunk) : (blank chunk).details = chunk.details := rfl

@[simp] theorem blank_blank (chunk : Chunk) : blank (blank chunk) = blank chunk := by
  have hbuffer : (blank (blank chunk)).buffer = (blank chunk).buffer := by
    simp [blank, Function.comp_def]
  exact Chunk.ext rfl hbuffer

/-- Several marks that blank a chunk leave what one of them leaves. -/
theorem applyMarks_eq (localSide : Option LocalSide) (marks : List AudioDirectionMarks)
    (chunk : Chunk) :
    applyMarks localSide marks chunk =
      if ∃ mark ∈ marks, InBetween mark chunk ∧ blanksSide localSide mark chunk = true then
        blank chunk
      else chunk := by
  induction marks generalizing chunk with
  | nil => simp [applyMarks]
  | cons mark marks ih =>
      have hkept : ∀ other : AudioDirectionMarks,
          (InBetween other (blank chunk) ↔ InBetween other chunk) ∧
            blanksSide localSide other (blank chunk) = blanksSide localSide other chunk :=
        fun _ => ⟨Iff.rfl, rfl⟩
      unfold applyMarks
      by_cases hin : InBetween mark chunk
      · by_cases hblanks : blanksSide localSide mark chunk = true
        · rw [if_pos hin, if_pos hblanks, ih, blank_blank, ite_self,
            if_pos ⟨mark, List.mem_cons_self, hin, hblanks⟩]
        · rw [if_pos hin, if_neg hblanks, ih]
          simp [hblanks]
      · rw [if_neg hin, ih]
        simp [hin]

end OrkAudio.DirectionSelector
