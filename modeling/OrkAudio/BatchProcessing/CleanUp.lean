import OrkAudio.BatchProcessing.Secondary

/-! Which files a tape has on disk when `BatchProcessing::ThreadHandler` is done with it.

The capture file is read, the output file is opened by the loop over its chunks, and then
both are kept or deleted by two options. An exception ends the iteration with no result. The
secondary output file is left alone. -/

namespace OrkAudio.BatchProcessing

open Lib Batch

variable {σ : Type}

structure Options where
  deleteNativeFile : Bool := true
  deleteFailedCaptureFile : Bool := false
  audioOutputPath : String := "/var/log/orkaudio"
  -- `m_storageAudioFormat` is `FfOpus`
  opus : Bool := false

/-- What the names of the files are made of; the capture file is `stem` with its extension. -/
structure Tape where
  stem : String
  path : String
  identifier : String

/-- `m_filename` of the media chunk file that was captured. -/
def Tape.native (tape : Tape) : String := tape.stem ++ ".mcf"

/-- `m_filename` of the output file, once it was opened. -/
def Tape.transcoded (opts : Options) (tape : Tape) : String :=
  opts.audioOutputPath ++ "/" ++ tape.path ++ "/" ++ tape.identifier ++
    (if opts.opus then ".opus" else ".wav")

/-- `numSamplesOut`, a `size_t`. -/
def State.samples (s : State σ) : Nat := s.numSamplesOut % 18446744073709551616

/-- `AudioFile::Delete`. -/
def delete (name : String) (files : List String) : List String := files.filter (· ≠ name)

/-- The clean-up at the end of the iteration. -/
def cleanUp (opts : Options) (tape : Tape) (s : State σ) (files : List String) : List String :=
  if opts.deleteNativeFile = true ∧ s.samples ≠ 0 then delete tape.native files
  else if opts.deleteFailedCaptureFile then
    let files := delete tape.native files
    -- an output file that was not opened has no name
    if s.outFile.isSome then delete (tape.transcoded opts) files else files
  else files

/-- A tape that was processed. `passed` are the files on disk when it was passed on to the
next processor, if it was. -/
structure Processed (σ : Type) where
  state : State σ
  files : List String
  passed : Option (List String)

/-- One iteration for a tape, with the files on disk before it. -/
def threadHandler (cfg : Config) (opts : Options) (codecs : Decoder.Codecs σ)
    (decoders : Side → Int → Option (Decoder σ)) (tape : Tape) (inputs : List Input)
    (files : List String) : Option (Processed σ) :=
  -- `Open` for reading throws where there is no such file
  if tape.native ∉ files then none
  else (run cfg codecs decoders inputs).map fun s =>
    let files := if s.outFile.isSome then tape.transcoded opts :: files else files
    let files := cleanUp opts tape s files
    { state := s, files, passed := if s.samples ≠ 0 then some files else none }

/-! ### The files -/

theorem mem_delete {name other : String} {files : List String} :
    other ∈ delete name files ↔ other ∈ files ∧ other ≠ name := by
  rw [delete, List.mem_filter, decide_eq_true_eq]

/-- The two files are told apart by their extensions. -/
theorem Tape.transcoded_ne_native (opts : Options) (tape : Tape) :
    tape.transcoded opts ≠ tape.native := by
  intro heq
  have hlast := congrArg (fun name => name.toList.getLast?) heq
  rw [Tape.transcoded, Tape.native] at hlast
  simp only [String.toList_append, List.getLast?_append] at hlast
  have hmcf : ".mcf".toList.getLast? = some 'f' := by rfl
  have hwav : ".wav".toList.getLast? = some 'v' := by rfl
  have hopus : ".opus".toList.getLast? = some 's' := by rfl
  split_ifs at hlast
  · rw [hopus, hmcf, Option.some_or, Option.some_or, Option.some.injEq] at hlast
    exact absurd hlast (by decide)
  · rw [hwav, hmcf, Option.some_or, Option.some_or, Option.some.injEq] at hlast
    exact absurd hlast (by decide)

/-- Samples that were counted are in an output file. -/
theorem outFile_of_samples {cfg : Config} {codecs : Decoder.Codecs σ}
    {decoders : Side → Int → Option (Decoder σ)} {inputs : List Input} {s : State σ}
    (hrun : run cfg codecs decoders inputs = some s) (hsamples : 0 < s.samples) :
    s.outFile.isSome = true := by
  obtain ⟨-, -, -, hcount⟩ := run_main hrun
  cases hfile : s.outFile with
  | some chunks => rfl
  | none =>
      rw [hfile] at hcount
      have hnone : s.numSamplesOut = 0 := hcount
      rw [State.samples, hnone] at hsamples
      cases hsamples

/-- The files are what the options make of them, and the next processor finds the same. -/
theorem threadHandler_eq_some {cfg : Config} {opts : Options} {codecs : Decoder.Codecs σ}
    {decoders : Side → Int → Option (Decoder σ)} {tape : Tape} {inputs : List Input}
    {files : List String} {processed : Processed σ}
    (hdone : threadHandler cfg opts codecs decoders tape inputs files = some processed)
    (hsamples : 0 < processed.state.samples) :
    tape.native ∈ files ∧ processed.state.outFile.isSome = true ∧
      processed.files =
        cleanUp opts tape processed.state (tape.transcoded opts :: files) ∧
      processed.passed = some processed.files := by
  rw [threadHandler] at hdone
  split_ifs at hdone with hnative
  obtain ⟨s, hrun, rfl⟩ := Option.map_eq_some_iff.mp hdone
  have hopened := outFile_of_samples hrun hsamples
  refine ⟨hnative, hopened, ?_, ?_⟩
  · dsimp only
    rw [if_pos hopened]
  · exact if_pos hsamples.ne'

/-- Of a tape with samples, the output file stays, the capture file goes only where the
options say so, and the next processor finds the output file, exactly if capture files are
deleted anyway or failed ones are not. -/
theorem copies_kept_iff {cfg : Config} {opts : Options} {codecs : Decoder.Codecs σ}
    {decoders : Side → Int → Option (Decoder σ)} {tape : Tape} {inputs : List Input}
    {files : List String} {processed : Processed σ}
    (hdone : threadHandler cfg opts codecs decoders tape inputs files = some processed)
    (hsamples : 0 < processed.state.samples) :
    (tape.transcoded opts ∈ processed.files ∧
        (tape.native ∉ processed.files → opts.deleteNativeFile = true) ∧
        (∀ atHandover, processed.passed = some atHandover → tape.transcoded opts ∈ atHandover)) ↔
      (opts.deleteNativeFile = true ∨ opts.deleteFailedCaptureFile = false) := by
  obtain ⟨hnative, hopened, hfiles, hpassed⟩ := threadHandler_eq_some hdone hsamples
  have hsame : (∀ atHandover, processed.passed = some atHandover →
      tape.transcoded opts ∈ atHandover) ↔ tape.transcoded opts ∈ processed.files := by
    rw [hpassed]
    simp only [Option.some.injEq, forall_eq']
  have hne := tape.transcoded_ne_native opts
  rw [hsame, hfiles, cleanUp, if_pos hopened]
  split_ifs with hboth hfailed
  · -- only the capture file goes
    refine iff_of_true ⟨?_, fun _ => hboth.1, ?_⟩ (.inl hboth.1)
    all_goals exact mem_delete.mpr ⟨List.mem_cons_self, hne⟩
  · -- both files go
    refine iff_of_false ?_ ?_
    · intro hkept
      exact (mem_delete.mp hkept.1).2 rfl
    · rintro (hdelete | hkeep)
      · exact hboth ⟨hdelete, hsamples.ne'⟩
      · rw [hkeep] at hfailed
        cases hfailed
  · refine iff_of_true ⟨List.mem_cons_self, ?_, List.mem_cons_self⟩
      (.inr (eq_false_of_ne_true hfailed))
    intro hgone
    exact absurd (List.mem_cons_of_mem _ hnative) hgone

/-- A sample of A-law, with the default options. -/
theorem copies_kept_default : ∃ processed : Processed Unit,
    threadHandler {} {} Decoder.silentCodecs alawDecoders ⟨"c", "p", "i"⟩
        [(none, alawSample)] ["c.mcf"] = some processed ∧
      "/var/log/orkaudio/p/i.wav" ∈ processed.files := by
  obtain ⟨processed, hdone, hsamples⟩ : ∃ processed : Processed Unit,
      threadHandler {} {} Decoder.silentCodecs alawDecoders ⟨"c", "p", "i"⟩
        [(none, alawSample)] ["c.mcf"] = some processed ∧
      0 < processed.state.samples := ⟨_, rfl, by decide⟩
  exact ⟨processed, hdone, ((copies_kept_iff hdone hsamples).mpr (.inl rfl)).1⟩

/-- Native files are to be kept and those that failed to be deleted: a tape that was
transcoded loses both files and is passed on. -/
theorem both_copies_deleted : ∃ processed : Processed Unit,
    threadHandler {} { deleteNativeFile := false, deleteFailedCaptureFile := true }
        Decoder.silentCodecs alawDecoders ⟨"c", "p", "i"⟩ [(none, alawSample)]
        ["c.mcf"] = some processed ∧
      0 < processed.state.samples ∧ processed.files = [] ∧ processed.passed = some [] := by
  refine ⟨_, rfl, by decide, ?_, ?_⟩ <;> rfl

end OrkAudio.BatchProcessing
