import OrkAudio.BatchProcessing.Model

/-! What passes from the decoders through a mixer into a file. -/

namespace OrkAudio.BatchProcessing

open Lib Batch RtpMixer

variable {σ : Type}

/-! ### Frames -/

@[simp] theorem frames_length (twoChannels : Bool) (chunk : AudioChunk) :
    (frames twoChannels chunk).length = chunk.getNumSamples?.getD 0 := by
  simp [frames]

theorem frames_of_empty {twoChannels : Bool} {chunk : AudioChunk}
    (hempty : chunk.details.numBytes = 0) : frames twoChannels chunk = [] := by
  rw [← List.length_eq_zero_iff, frames_length, AudioChunk.getNumSamples?, hempty]
  cases chunk.details.encoding <;> rfl

@[simp] theorem frames_markEos (twoChannels : Bool) (chunk : AudioChunk) :
    frames twoChannels (State.markEos chunk) = frames twoChannels chunk := rfl

theorem writeChunk_frames (twoChannels : Bool) {file file' : OutFile}
    {tmpChunk : Option AudioChunk} (hwrite : writeChunk file tmpChunk = some file') :
    fileFrames twoChannels file' =
      fileFrames twoChannels file ++ tmpChunk.toList.flatMap (frames twoChannels) := by
  cases tmpChunk with
  | none =>
      cases hwrite
      simp
  | some chunk =>
      rw [writeChunk] at hwrite
      split at hwrite
      · rename_i hempty
        cases hwrite
        simp [frames_of_empty hempty]
      · obtain ⟨chunks, rfl, rfl⟩ := Option.map_eq_some_iff.mp hwrite
        simp [fileFrames]

/-! ### Mixers -/

/-- A mixer that was handed these inputs has delivered these frames so far. -/
def Passed (tapeNumChannels : Int) (twoChannels : Bool) (start : RtpMixer)
    (inputs : List (Option AudioChunk)) (m : RtpMixer) (delivered : List (List Int16)) : Prop :=
  ∃ popped, chunksIn tapeNumChannels start inputs = .ok (m.prepend popped) ∧
    delivered = popped.flatMap (frames twoChannels)

/-- The frames that a mixer emits for inputs, up to a last shipment if they have one. -/
def emitted (tapeNumChannels : Int) (twoChannels : Bool) (start : RtpMixer)
    (inputs : List (Option AudioChunk)) : Option (List (List Int16)) :=
  (chunksIn tapeNumChannels start inputs).toOption.map fun m =>
    m.outputQueue.flatMap (frames twoChannels)

section

variable {tapeNumChannels : Int} {twoChannels : Bool} {start m m' : RtpMixer}
  {inputs : List (Option AudioChunk)} {delivered : List (List Int16)}

theorem Passed.nothing : Passed tapeNumChannels twoChannels start [] start [] :=
  ⟨[], rfl, rfl⟩

theorem Passed.pass (passed : Passed tapeNumChannels twoChannels start inputs m delivered)
    {input : Option AudioChunk} (hin : m.audioChunkIn tapeNumChannels input = .ok m') :
    Passed tapeNumChannels twoChannels start (inputs ++ [input]) m'.audioChunkOut.2
      (delivered ++ m'.audioChunkOut.1.toList.flatMap (frames twoChannels)) := by
  obtain ⟨popped, hrun, rfl⟩ := passed
  refine ⟨popped ++ m'.audioChunkOut.1.toList, ?_, by rw [List.flatMap_append]⟩
  rw [← prepend_chunkOut]
  exact prepend_chunkIn hrun hin

/-- What was delivered and what is still in the queue is what the mixer emits. -/
theorem Passed.emitted (passed : Passed tapeNumChannels twoChannels start inputs m delivered) :
    emitted tapeNumChannels twoChannels start inputs =
      some (delivered ++ m.outputQueue.flatMap (frames twoChannels)) := by
  obtain ⟨popped, hrun, rfl⟩ := passed
  rw [BatchProcessing.emitted, hrun]
  simp [Except.toOption, prepend]

theorem audioChunkOut_queue (m : RtpMixer) :
    m.outputQueue = m.audioChunkOut.1.toList ++ m.audioChunkOut.2.outputQueue := by
  rw [audioChunkOut]
  cases hqueue : m.outputQueue <;> simp [hqueue]

theorem audioChunkOut_none (hnone : m.audioChunkOut.1 = none) :
    m.audioChunkOut.2.outputQueue = [] := by
  rw [audioChunkOut] at hnone ⊢
  cases hqueue : m.outputQueue with
  | nil => simp [hqueue]
  | cons chunk rest =>
      rw [hqueue] at hnone
      cases hnone

end

/-! ### The decoders -/

/-- The state that a chunk leaves behind. -/
def Stage.decoding : Stage σ → Decoding σ
  | .next s => s
  | .plain s => s
  | .decoded s _ _ => s

/-- What a decoder made of a chunk. -/
def Stage.outputs : Stage σ → List (Option AudioChunk)
  | .decoded _ _ tmpChunk => [tmpChunk]
  | _ => []

/-- The outputs of the decoders for the chunks of a file that are not skipped. -/
def decodedChunks (codecs : Decoder.Codecs σ) : Decoding σ → List Input →
    Option (List (Option AudioChunk))
  | _, [] => some []
  | s, input :: inputs => do
      let stage ← s.iterate codecs input
      let rest ← decodedChunks codecs stage.decoding inputs
      some (stage.outputs ++ rest)

/-! ### The files -/

/-- What became of a state when the main file took these frames. -/
structure Took (twoChannels : Bool) (s s' : State σ) (taken : List (List Int16)) : Prop where
  frames : fileFrames twoChannels s'.outFile = fileFrames twoChannels s.outFile ++ taken
  count : s'.numSamplesOut = s.numSamplesOut + taken.length
  decoding : s'.decoding = s.decoding
  firstChunk : s'.firstChunk = s.firstChunk
  rtpMixerSecondary : s'.rtpMixerSecondary = s.rtpMixerSecondary
  outFileSecondary : s'.outFileSecondary = s.outFileSecondary

variable {twoChannels : Bool} {s s' s'' : State σ}

theorem Took.trans {first second : List (List Int16)} (took : Took twoChannels s s' first)
    (took' : Took twoChannels s' s'' second) : Took twoChannels s s'' (first ++ second) where
  frames := by rw [took'.frames, took.frames, List.append_assoc]
  count := by rw [took'.count, took.count, List.length_append, Nat.add_assoc]
  decoding := took'.decoding.trans took.decoding
  firstChunk := took'.firstChunk.trans took.firstChunk
  rtpMixerSecondary := took'.rtpMixerSecondary.trans took.rtpMixerSecondary
  outFileSecondary := took'.outFileSecondary.trans took.outFileSecondary

theorem output_took (twoChannels : Bool) {tmpChunk : Option AudioChunk} (hout : s.output tmpChunk = some s') :
    Took twoChannels s s' (tmpChunk.toList.flatMap (frames twoChannels)) ∧
      s'.rtpMixer = s.rtpMixer ∧ s'.tmpChunk = tmpChunk := by
  obtain ⟨outFile, hwrite, hcount⟩ := Option.bind_eq_some_iff.mp hout
  have hframes := writeChunk_frames twoChannels hwrite
  cases tmpChunk with
  | none =>
      cases hcount
      exact ⟨⟨hframes, rfl, rfl, rfl, rfl, rfl⟩, rfl, rfl⟩
  | some chunk =>
      obtain ⟨numSamples, hsamples, hresult⟩ := Option.bind_eq_some_iff.mp hcount
      cases hresult
      exact ⟨⟨hframes, by simp [hsamples], rfl, rfl, rfl, rfl⟩, rfl, rfl⟩

/-- The drain writes the chunk at hand and the queue of the mixer. -/
theorem drain_took (twoChannels : Bool) {fuel : Nat} {tmpChunk : Option AudioChunk} {m : RtpMixer}
    (hempty : tmpChunk = none → m.outputQueue = [])
    (hdrain : State.drain fuel tmpChunk m s = some s') :
    Took twoChannels s s' (tmpChunk.toList.flatMap (frames twoChannels) ++
      m.outputQueue.flatMap (frames twoChannels)) := by
  induction fuel generalizing tmpChunk m s with
  | zero =>
      cases tmpChunk with
      | none =>
          cases hdrain
          rw [hempty rfl]
          exact ⟨by simp, by simp, rfl, rfl, rfl, rfl⟩
      | some chunk => cases hdrain
  | succ fuel ih =>
      cases tmpChunk with
      | none =>
          cases hdrain
          rw [hempty rfl]
          exact ⟨by simp, by simp, rfl, rfl, rfl, rfl⟩
      | some chunk =>
          obtain ⟨next, hout, hrest⟩ := Option.bind_eq_some_iff.mp hdrain
          have took := (output_took twoChannels hout).1.trans (ih audioChunkOut_none hrest)
          rw [audioChunkOut_queue m, List.flatMap_append]
          exact took

theorem drainSecondary_frames (twoChannels : Bool) {fuel : Nat} {tmpChunk : Option AudioChunk} {m : RtpMixer}
    (hempty : tmpChunk = none → m.outputQueue = [])
    (hdrain : State.drainSecondary fuel tmpChunk m s = some s') :
    fileFrames twoChannels s'.outFileSecondary = fileFrames twoChannels s.outFileSecondary ++
        (tmpChunk.toList.flatMap (frames twoChannels) ++
          m.outputQueue.flatMap (frames twoChannels)) ∧
      s'.outFile = s.outFile ∧ s'.numSamplesOut = s.numSamplesOut := by
  induction fuel generalizing tmpChunk m s with
  | zero =>
      cases tmpChunk with
      | none =>
          cases hdrain
          rw [hempty rfl]
          exact ⟨by simp, rfl, rfl⟩
      | some chunk => cases hdrain
  | succ fuel ih =>
      cases tmpChunk with
      | none =>
          cases hdrain
          rw [hempty rfl]
          exact ⟨by simp, rfl, rfl⟩
      | some chunk =>
          obtain ⟨outFileSecondary, hwrite, hrest⟩ := Option.bind_eq_some_iff.mp hdrain
          obtain ⟨hframes, hfile, hcount⟩ := ih audioChunkOut_none hrest
          refine ⟨?_, hfile, hcount⟩
          rw [hframes, writeChunk_frames twoChannels hwrite, audioChunkOut_queue m, List.flatMap_append]
          simp only [List.append_assoc]

/-- A drain that may take every chunk of the queue never runs out of turns. -/
theorem drain_fuel {fuel : Nat} {tmpChunk : Option AudioChunk} {m : RtpMixer}
    (hfuel : (tmpChunk.toList ++ m.outputQueue).length ≤ fuel) :
    State.drain (fuel + 1) tmpChunk m s = State.drain fuel tmpChunk m s := by
  induction fuel generalizing tmpChunk m s with
  | zero =>
      cases tmpChunk with
      | none => rfl
      | some chunk => simp at hfuel
  | succ fuel ih =>
      cases tmpChunk with
      | none => rfl
      | some chunk =>
          rw [audioChunkOut_queue m] at hfuel
          rw [State.drain, State.drain]
          exact congrArg _ (funext fun next => ih (by simpa using hfuel))

theorem drainSecondary_fuel {fuel : Nat} {tmpChunk : Option AudioChunk} {m : RtpMixer}
    (hfuel : (tmpChunk.toList ++ m.outputQueue).length ≤ fuel) :
    State.drainSecondary (fuel + 1) tmpChunk m s = State.drainSecondary fuel tmpChunk m s := by
  induction fuel generalizing tmpChunk m s with
  | zero =>
      cases tmpChunk with
      | none => rfl
      | some chunk => simp at hfuel
  | succ fuel ih =>
      cases tmpChunk with
      | none => rfl
      | some chunk =>
          rw [audioChunkOut_queue m] at hfuel
          rw [State.drainSecondary, State.drainSecondary]
          exact congrArg _ (funext fun outFileSecondary => ih (by simpa using hfuel))

end OrkAudio.BatchProcessing
