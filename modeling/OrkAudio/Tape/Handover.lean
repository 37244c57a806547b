import OrkAudio.Tape.Model

/-! Whether every accepted chunk reaches the file.

Between the empty pop that ends the loop of `Write` and the test of `m_shouldStop` behind
it, the capture thread can add a last chunk and the stop event. The test then stops the
tape with that chunk in its queue, and a stopped tape is never written again. -/

namespace OrkAudio.Handover

open Lib

/-- The chunk that the immediate processing thread has popped and not yet written. -/
def inHand (s : Handover) : List AudioChunk :=
  match s.processing with
  | .writing chunk => [chunk]
  | _ => []

/-- The capture thread is past the stop event. -/
def PastStop : CaptureThread → Prop
  | .enqueuing true => True
  | .finished => True
  | _ => False

/-- The immediate processing thread is inside the loop of `Write`. -/
def InLoop : ProcessingThread → Prop
  | .taking => True
  | .writing _ => True
  | _ => False

/-- Every accepted chunk is written, in hand, or still in the queue, in this order. -/
structure Accounted (s : Handover) : Prop where
  chunks : s.accepted = s.tape.written ++ s.inHand ++ s.tape.chunkQueue
  noError : s.tape.state ≠ .error
  inLoop : InLoop s.processing → s.tape.state ≠ .stopped
  pastStop : s.tape.shouldStop = true → PastStop s.capture
  stopped : s.tape.state = .stopped → s.tape.shouldStop = true

theorem start_accounted : Accounted {} := by
  constructor <;> simp [inHand, InLoop]

/-- Accepting a chunk appends it to the queue, rejecting one leaves the queue alone. -/
theorem pushChunk_queue (captureFileBatchSizeKByte : Int) (tape : AudioTape) (chunk : AudioChunk) :
    (tape.pushChunk captureFileBatchSizeKByte chunk).2.chunkQueue =
        tape.chunkQueue ++
          (if (tape.pushChunk captureFileBatchSizeKByte chunk).1 then [chunk] else []) ∧
      (tape.pushChunk captureFileBatchSizeKByte chunk).2.written = tape.written ∧
      (tape.pushChunk captureFileBatchSizeKByte chunk).2.state = tape.state ∧
      (tape.pushChunk captureFileBatchSizeKByte chunk).2.shouldStop = tape.shouldStop := by
  simp only [AudioTape.pushChunk]
  split_ifs <;> simp_all

theorem push_frame (s : Handover) :
    s.push.tape.chunkQueue = s.tape.chunkQueue ∧ s.push.tape.written = s.tape.written ∧
      s.push.tape.state = s.tape.state ∧ s.push.tape.shouldStop = s.tape.shouldStop ∧
      s.push.processing = s.processing ∧ s.push.accepted = s.accepted := by
  simp only [push]
  split_ifs <;> simp

theorem pop_frame (s : Handover) :
    s.pop.tape.chunkQueue = s.tape.chunkQueue ∧ s.pop.tape.written = s.tape.written ∧
      s.pop.tape.state = s.tape.state ∧ s.pop.tape.shouldStop = s.tape.shouldStop ∧
      s.pop.capture = s.capture ∧ s.pop.accepted = s.accepted ∧ ¬ InLoop s.pop.processing ∧
      s.pop.inHand = [] := by
  simp only [pop, inHand]
  split <;> simp [InLoop]

/-- Outside of an error, a chunk in hand is written. -/
theorem writeChunk_written {tape : AudioTape} (chunk : AudioChunk)
    (hstopped : tape.state ≠ .stopped) (herror : tape.state ≠ .error) :
    (tape.writeChunk chunk).written = tape.written ++ [chunk] ∧
      (tape.writeChunk chunk).chunkQueue = tape.chunkQueue ∧
      (tape.writeChunk chunk).state = .active ∧
      (tape.writeChunk chunk).shouldStop = tape.shouldStop := by
  cases hstate : tape.state with
  | created => simp [AudioTape.writeChunk, hstate]
  | active => simp [AudioTape.writeChunk, hstate]
  | stopped => exact absurd hstate hstopped
  | error => exact absurd hstate herror

/-- Without an error, the last test of `Write` stops the tape when it should stop. -/
theorem finishWrite_eq {tape : AudioTape} (herror : tape.state ≠ .error) :
    tape.finishWrite.written = tape.written ∧ tape.finishWrite.chunkQueue = tape.chunkQueue ∧
      tape.finishWrite.shouldStop = tape.shouldStop ∧
      tape.finishWrite.state = if tape.shouldStop then .stopped else tape.state := by
  simp only [AudioTape.finishWrite, herror, or_false]
  by_cases hstop : tape.shouldStop = true
  · by_cases hstopped : tape.state = .stopped <;> simp [hstop, hstopped]
  · simp [hstop]

variable {captureFileBatchSizeKByte : Int} {s s' : Handover}

/-! The steps of the capture thread keep the account. -/

theorem Accounted.startChunk (accounted : Accounted s) {chunk : AudioChunk}
    (step : Step captureFileBatchSizeKByte s (.startChunk chunk) s') : Accounted s' := by
  simp only [Step, next] at step
  split at step
  · rename_i hidle
    obtain rfl := Option.some.inj step
    refine ⟨accounted.chunks, accounted.noError, accounted.inLoop, ?_, accounted.stopped⟩
    intro hstop
    have hpast := accounted.pastStop hstop
    rw [hidle] at hpast
    exact hpast.elim
  · cases step

theorem Accounted.addChunk (accounted : Accounted s)
    (step : Step captureFileBatchSizeKByte s .addChunk s') : Accounted s' := by
  simp only [Step, next] at step
  split at step
  · rename_i chunk hadding
    obtain rfl := Option.some.inj step
    obtain ⟨hqueue, hwritten, hstate, hstop⟩ :=
      pushChunk_queue captureFileBatchSizeKByte s.tape chunk
    refine ⟨?_, ?_, ?_, ?_, ?_⟩
    · simp only [inHand, hqueue, hwritten]
      rw [accounted.chunks]
      split_ifs <;> simp [inHand]
    · simpa only [hstate] using accounted.noError
    · simpa only [hstate] using accounted.inLoop
    · intro hpast
      have hpast' := accounted.pastStop (hstop.symm.trans hpast)
      rw [hadding] at hpast'
      exact hpast'.elim
    · simpa only [hstate, hstop] using accounted.stopped
  · cases step

theorem Accounted.enqueue (accounted : Accounted s)
    (step : Step captureFileBatchSizeKByte s .enqueue s') : Accounted s' := by
  simp only [Step, next] at step
  split at step
  · rename_i afterStop henqueuing
    obtain rfl := Option.some.inj step
    obtain ⟨hqueue, hwritten, hstate, hstop, hprocessing, haccepted⟩ := s.push_frame
    refine ⟨?_, ?_, ?_, ?_, ?_⟩
    · simpa only [inHand, hqueue, hwritten, hprocessing, haccepted] using accounted.chunks
    · simpa only [hstate] using accounted.noError
    · simpa only [hstate, hprocessing] using accounted.inLoop
    · intro hpast
      have hpast' := accounted.pastStop (hstop.symm.trans hpast)
      rw [henqueuing] at hpast'
      cases afterStop with
      | true => trivial
      | false => exact hpast'.elim
    · simpa only [hstate, hstop] using accounted.stopped
  · cases step

theorem Accounted.stop (accounted : Accounted s)
    (step : Step captureFileBatchSizeKByte s .stop s') : Accounted s' := by
  simp only [Step, next] at step
  split at step
  · obtain rfl := Option.some.inj step
    exact ⟨accounted.chunks, accounted.noError, accounted.inLoop, fun _ => trivial, fun _ => rfl⟩
  · cases step

/-! The steps of the immediate processing thread keep the account. -/

theorem Accounted.acquire (accounted : Accounted s)
    (step : Step captureFileBatchSizeKByte s .acquire s') : Accounted s' := by
  have hchunks := accounted.chunks
  simp only [Step, next] at step
  split at step
  · rename_i hwaiting
    split_ifs at step
    obtain rfl := Option.some.inj step
    refine ⟨?_, accounted.noError, fun hloop => hloop.elim, accounted.pastStop,
      accounted.stopped⟩
    simpa [inHand, hwaiting] using hchunks
  · cases step

theorem Accounted.pop (accounted : Accounted s)
    (step : Step captureFileBatchSizeKByte s .pop s') : Accounted s' := by
  have hchunks := accounted.chunks
  simp only [Step, next] at step
  split at step
  · rename_i hacquired
    obtain rfl := Option.some.inj step
    obtain ⟨hqueue, hwritten, hstate, hstop, hcapture, haccepted, hloop, hhand⟩ := s.pop_frame
    refine ⟨?_, ?_, fun hin => absurd hin hloop, ?_, ?_⟩
    · rw [hqueue, hwritten, haccepted, hhand]
      simpa [inHand, hacquired] using hchunks
    · simpa only [hstate] using accounted.noError
    · simpa only [hstop, hcapture] using accounted.pastStop
    · simpa only [hstate, hstop] using accounted.stopped
  · cases step

theorem Accounted.check (accounted : Accounted s)
    (step : Step captureFileBatchSizeKByte s .check s') : Accounted s' := by
  have hchunks := accounted.chunks
  simp only [Step, next] at step
  split at step
  · rename_i hlooping
    obtain rfl := Option.some.inj step
    refine ⟨?_, accounted.noError, ?_, accounted.pastStop, accounted.stopped⟩
    · split_ifs <;> simpa [inHand, hlooping] using hchunks
    · intro hloop hstopped
      have hstopped' : s.tape.state = .stopped := hstopped
      simp [hstopped', InLoop] at hloop
  · cases step

theorem Accounted.take (accounted : Accounted s)
    (step : Step captureFileBatchSizeKByte s .take s') : Accounted s' := by
  have hchunks := accounted.chunks
  simp only [Step, next] at step
  split at step
  · rename_i htaking
    obtain rfl := Option.some.inj step
    have hrunning : s.tape.state ≠ .stopped := accounted.inLoop (by rw [htaking]; trivial)
    simp only [inHand, htaking, List.append_nil] at hchunks
    simp only [AudioTape.popChunk]
    cases hqueue : s.tape.chunkQueue with
    | nil =>
        refine ⟨?_, accounted.noError, fun hloop => hloop.elim, accounted.pastStop,
          accounted.stopped⟩
        simpa [inHand, hqueue] using hchunks
    | cons chunk rest =>
        refine ⟨?_, accounted.noError, fun _ => hrunning, accounted.pastStop,
          accounted.stopped⟩
        simpa [inHand, hqueue] using hchunks
  · cases step

theorem Accounted.write (accounted : Accounted s)
    (step : Step captureFileBatchSizeKByte s .write s') : Accounted s' := by
  have hchunks := accounted.chunks
  simp only [Step, next] at step
  split at step
  · rename_i chunk hwriting
    obtain rfl := Option.some.inj step
    have hrunning : s.tape.state ≠ .stopped := accounted.inLoop (by rw [hwriting]; trivial)
    obtain ⟨hwritten, hqueue, hactive, hstop⟩ :=
      writeChunk_written chunk hrunning accounted.noError
    refine ⟨?_, by simp [hactive], fun hloop => hloop.elim, ?_, by simp [hactive]⟩
    · simpa [inHand, hwriting, hwritten, hqueue] using hchunks
    · simpa only [hstop] using accounted.pastStop
  · cases step

theorem Accounted.test (accounted : Accounted s)
    (step : Step captureFileBatchSizeKByte s .test s') : Accounted s' := by
  have hchunks := accounted.chunks
  simp only [Step, next] at step
  split at step
  · rename_i htesting
    obtain rfl := Option.some.inj step
    obtain ⟨hwritten, hqueue, hstop, hstate⟩ := finishWrite_eq accounted.noError
    refine ⟨?_, ?_, fun hloop => hloop.elim, ?_, ?_⟩
    · simpa [inHand, htesting, hwritten, hqueue] using hchunks
    · simp only [hstate]
      split_ifs
      · decide
      · exact accounted.noError
    · simpa only [hstop] using accounted.pastStop
    · intro hstopped
      simp only [hstate, hstop] at hstopped ⊢
      split_ifs at hstopped with hshould
      · exact hshould
      · exact absurd (accounted.stopped hstopped) hshould
  · cases step

theorem Accounted.otherTape (accounted : Accounted s)
    (step : Step captureFileBatchSizeKByte s .otherTape s') : Accounted s' := by
  simp only [Step, next] at step
  obtain rfl := Option.some.inj step
  exact ⟨accounted.chunks, accounted.noError, accounted.inLoop, accounted.pastStop,
    accounted.stopped⟩

theorem Accounted.step (accounted : Accounted s) {label : Label}
    (step : Step captureFileBatchSizeKByte s label s') : Accounted s' := by
  cases label with
  | startChunk chunk => exact accounted.startChunk step
  | addChunk => exact accounted.addChunk step
  | enqueue => exact accounted.enqueue step
  | stop => exact accounted.stop step
  | acquire => exact accounted.acquire step
  | pop => exact accounted.pop step
  | check => exact accounted.check step
  | take => exact accounted.take step
  | write => exact accounted.write step
  | test => exact accounted.test step
  | otherTape => exact accounted.otherTape step

/-- Nothing is in hand once the tape is stopped, so what is missing is in the queue. -/
theorem Accounted.written_iff (accounted : Accounted s) (hstopped : s.tape.state = .stopped) :
    s.tape.written = s.accepted ↔ s.tape.chunkQueue = [] := by
  have hhand : s.inHand = [] := by
    cases hprocessing : s.processing with
    | writing chunk =>
        exact absurd hstopped (accounted.inLoop (by rw [hprocessing]; trivial))
    | _ => simp [inHand, hprocessing]
  rw [accounted.chunks, hhand, List.append_nil]
  constructor
  · intro hsame
    exact List.self_eq_append_right.mp hsame
  · intro hempty
    rw [hempty, List.append_nil]

/-- A chunk can be added, taken or written only while the tape is not stopped, and only the
last test of `Write` stops it. -/
theorem Accounted.queue_step (accounted : Accounted s) {label : Label}
    (step : Step captureFileBatchSizeKByte s label s') (hstopped : s'.tape.state = .stopped) :
    s'.tape.chunkQueue = s.tape.chunkQueue ∧
      (s.tape.state = .stopped ∨ label = .test ∧ s.tape.shouldStop = true) := by
  cases label <;> simp only [Step, next] at step
  case startChunk | stop | check =>
    split at step
    · obtain rfl := Option.some.inj step
      exact ⟨rfl, .inl hstopped⟩
    · cases step
  case addChunk =>
    split at step
    · rename_i chunk hadding
      obtain rfl := Option.some.inj step
      have hstate := (pushChunk_queue captureFileBatchSizeKByte s.tape chunk).2.2.1
      have hpast := accounted.pastStop (accounted.stopped (hstate.symm.trans hstopped))
      rw [hadding] at hpast
      exact hpast.elim
    · cases step
  case enqueue =>
    split at step
    · obtain rfl := Option.some.inj step
      exact ⟨s.push_frame.1, .inl (s.push_frame.2.2.1.symm.trans hstopped)⟩
    · cases step
  case acquire =>
    split at step
    · split_ifs at step
      obtain rfl := Option.some.inj step
      exact ⟨rfl, .inl hstopped⟩
    · cases step
  case pop =>
    split at step
    · obtain rfl := Option.some.inj step
      exact ⟨s.pop_frame.1, .inl (s.pop_frame.2.2.1.symm.trans hstopped)⟩
    · cases step
  case take =>
    split at step
    · rename_i htaking
      obtain rfl := Option.some.inj step
      have hrunning : s.tape.state ≠ .stopped := accounted.inLoop (by rw [htaking]; trivial)
      have hstate : s.tape.popChunk.2.state = s.tape.state := by
        simp only [AudioTape.popChunk]
        split <;> rfl
      exact absurd (hstate.symm.trans hstopped) hrunning
    · cases step
  case write =>
    split at step
    · rename_i chunk hwriting
      obtain rfl := Option.some.inj step
      have hrunning : s.tape.state ≠ .stopped := accounted.inLoop (by rw [hwriting]; trivial)
      have hactive := (writeChunk_written chunk hrunning accounted.noError).2.2.1
      rw [hactive] at hstopped
      cases hstopped
    · cases step
  case test =>
    split at step
    · obtain rfl := Option.some.inj step
      obtain ⟨-, hqueue, -, hstate⟩ := finishWrite_eq accounted.noError
      refine ⟨hqueue, ?_⟩
      by_cases hshould : s.tape.shouldStop = true
      · exact .inr ⟨rfl, hshould⟩
      · simp only [hstate, hshould] at hstopped
        exact .inl hstopped
    · cases step
  case otherTape =>
    obtain rfl := Option.some.inj step
    exact ⟨rfl, .inl hstopped⟩

/-- The test that stops the tape finds the chunk queue empty. -/
def DrainedAtStop (s : Handover) (label : Label) : Prop :=
  label = .test → s.tape.shouldStop = true → s.tape.state ≠ .stopped → s.tape.chunkQueue = []

/-- What every run whose stopping test finds the queue empty keeps. -/
structure Settled (s : Handover) : Prop where
  accounted : Accounted s
  drained : s.tape.state = .stopped → s.tape.chunkQueue = []

theorem Settled.step (settled : Settled s) {label : Label}
    (step : Guarded DrainedAtStop (Step captureFileBatchSizeKByte) s label s') : Settled s' := by
  obtain ⟨hdrained, step⟩ := step
  apply Settled.mk (settled.accounted.step step)
  intro hstopped
  obtain ⟨hqueue, hcause⟩ := settled.accounted.queue_step step hstopped
  rw [hqueue]
  by_cases hbefore : s.tape.state = .stopped
  · exact settled.drained hbefore
  · obtain ⟨rfl, hshould⟩ := hcause.resolve_left hbefore
    exact hdrained rfl hshould hbefore

/-- In a run in which the test that stops the tape finds the chunk queue empty, a stopped
tape has written every chunk that was accepted, once and in order. -/
theorem all_written {labels : List Label} {s : Handover}
    (run : Steps (Guarded DrainedAtStop (Step captureFileBatchSizeKByte)) {} labels s)
    (hstopped : s.tape.state = .stopped) : s.tape.written = s.accepted := by
  have start : Settled {} := ⟨start_accounted, fun _ => rfl⟩
  have settled : Settled s := run.invariant (fun _ _ _ settled step => settled.step step) start
  apply (settled.accounted.written_iff hstopped).mpr
  exact settled.drained hstopped

/-- One chunk, written before the stop event arrives. -/
theorem all_written_one_chunk :
    ∃ labels s, Steps (Guarded DrainedAtStop (Step 1)) {} labels s ∧ s.tape.state = .stopped ∧
      s.accepted = [.plain] ∧ s.tape.written = s.accepted := by
  have run : ∃ s, Steps (Guarded DrainedAtStop (Step 1)) {}
      [.startChunk .plain, .addChunk, .enqueue, .acquire, .pop, .check, .take, .write, .check,
        .take, .stop, .enqueue, .test] s ∧ s.tape.state = .stopped ∧ s.accepted = [.plain] := by
    refine ⟨_, .cons ⟨nofun, rfl⟩ <| .cons ⟨nofun, rfl⟩ <| .cons ⟨nofun, rfl⟩ <|
      .cons ⟨nofun, rfl⟩ <| .cons ⟨nofun, rfl⟩ <| .cons ⟨nofun, rfl⟩ <| .cons ⟨nofun, rfl⟩ <|
      .cons ⟨nofun, rfl⟩ <| .cons ⟨nofun, rfl⟩ <| .cons ⟨nofun, rfl⟩ <| .cons ⟨nofun, rfl⟩ <|
      .cons ⟨nofun, rfl⟩ <| .cons ⟨fun _ _ _ => rfl, rfl⟩ <| .nil _, rfl, rfl⟩
  obtain ⟨s, run, hstopped, haccepted⟩ := run
  exact ⟨_, s, run, hstopped, haccepted, all_written run hstopped⟩

/-- A run on these labels, if the threads can take them. -/
def follow (captureFileBatchSizeKByte : Int) (s : Handover) : List Label → Option Handover
  | [] => some s
  | label :: labels =>
      (s.next captureFileBatchSizeKByte label).bind fun s' =>
        s'.follow captureFileBatchSizeKByte labels

theorem follow_steps {labels : List Label} {s s' : Handover}
    (hfollow : s.follow captureFileBatchSizeKByte labels = some s') :
    Steps (Step captureFileBatchSizeKByte) s labels s' := by
  induction labels generalizing s with
  | nil =>
      obtain rfl := Option.some.inj hfollow
      exact .nil s
  | cons label labels ih =>
      obtain ⟨middle, hfirst, hrest⟩ := Option.bind_eq_some_iff.mp hfollow
      exact .cons hfirst (ih hrest)

/-- The last chunk and the stop event arrive after the empty pop: the tape stops without
the second chunk. -/
theorem last_chunk_lost :
    ¬ ∀ captureFileBatchSizeKByte labels s,
      Steps (Step captureFileBatchSizeKByte) {} labels s → s.tape.state = .stopped →
        s.tape.written = s.accepted := by
  intro claim
  have run : Steps (Step 1) {}
      [.startChunk .plain, .addChunk, .enqueue, .acquire, .pop, .check, .take, .write, .check,
        .take, .startChunk .plain, .addChunk, .enqueue, .stop, .enqueue, .test] _ :=
    follow_steps rfl
  have hsame := congrArg List.length (claim 1 _ _ run rfl)
  exact absurd hsame (by decide)

/-- A stopped tape stays stopped. -/
theorem Accounted.stopped_step (accounted : Accounted s) {label : Label}
    (step : Step captureFileBatchSizeKByte s label s') (hstopped : s.tape.state = .stopped) :
    s'.tape.state = .stopped := by
  cases label <;> simp only [Step, next] at step
  case startChunk | stop | check =>
    split at step
    · obtain rfl := Option.some.inj step
      exact hstopped
    · cases step
  case addChunk =>
    split at step
    · rename_i chunk hadding
      obtain rfl := Option.some.inj step
      exact (pushChunk_queue captureFileBatchSizeKByte s.tape chunk).2.2.1.trans hstopped
    · cases step
  case enqueue =>
    split at step
    · obtain rfl := Option.some.inj step
      exact s.push_frame.2.2.1.trans hstopped
    · cases step
  case acquire =>
    split at step
    · split_ifs at step
      obtain rfl := Option.some.inj step
      exact hstopped
    · cases step
  case pop =>
    split at step
    · obtain rfl := Option.some.inj step
      exact s.pop_frame.2.2.1.trans hstopped
    · cases step
  case take =>
    split at step
    · rename_i htaking
      exact absurd hstopped (accounted.inLoop (by rw [htaking]; trivial))
    · cases step
  case write =>
    split at step
    · rename_i chunk hwriting
      exact absurd hstopped (accounted.inLoop (by rw [hwriting]; trivial))
    · cases step
  case test =>
    split at step
    · obtain rfl := Option.some.inj step
      simp only [(finishWrite_eq accounted.noError).2.2.2, hstopped]
      split_ifs <;> rfl
    · cases step
  case otherTape =>
    obtain rfl := Option.some.inj step
    exact hstopped

/-- One test that stops the tape too early loses what is in the queue: from then on no run
leads to a state in which everything accepted is written. -/
theorem lost_for_good {labels : List Label} (accounted : Accounted s)
    (hstopped : s.tape.state = .stopped) (hleft : s.tape.chunkQueue ≠ [])
    (run : Steps (Step captureFileBatchSizeKByte) s labels s') :
    s'.tape.written ≠ s'.accepted := by
  induction run with
  | nil s =>
      intro hsame
      exact hleft ((accounted.written_iff hstopped).mp hsame)
  | cons first _ ih =>
      have hstopped' := accounted.stopped_step first hstopped
      have hqueue := (accounted.queue_step first hstopped').1
      exact ih (accounted.step first) hstopped' (hqueue ▸ hleft)

end OrkAudio.Handover
