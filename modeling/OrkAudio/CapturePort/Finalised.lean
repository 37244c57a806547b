import OrkAudio.CapturePort.Model

/-! Which tapes are handed to immediate processing after they were told to stop.

A stop event hands its tape over, also where audio segmentation or voice activity detection
raises it. A start event that finds a tape only sets its stop flag. -/

namespace OrkAudio

open Lib

/-! ### The stop flag of a tape -/

namespace CapturedTape

variable (cfg : PortConfig) (tape : CapturedTape)

@[simp] theorem testParty_toAudioTape (party : String) :
    (tape.testParty cfg party).toAudioTape = tape.toAudioTape := by
  unfold testParty
  split <;> rfl

@[simp] theorem storeTag_toAudioTape (event : CaptureEvent) :
    (tape.storeTag cfg event).toAudioTape = tape.toAudioTape := by
  unfold storeTag
  split_ifs <;> rfl

/-- Among the events only a stop event sets the flag, and none clears it. -/
theorem recordEvent_shouldStop (event : CaptureEvent) :
    (tape.recordEvent cfg event).shouldStop =
      (tape.shouldStop || decide (event.type = .etStop)) := by
  unfold recordEvent
  cases htype : event.type <;>
    simp only [testParty_toAudioTape, reduceCtorEq, decide_false, decide_true, Bool.or_false,
      Bool.or_true]
  all_goals split_ifs <;> rfl

@[simp] theorem addCaptureEvent_shouldStop (event : CaptureEvent) (send : Bool) :
    (tape.addCaptureEvent cfg event send).shouldStop =
      (tape.shouldStop || decide (event.type = .etStop)) := by
  unfold addCaptureEvent
  rw [storeTag_toAudioTape, ← recordEvent_shouldStop cfg]
  split <;> rfl

@[simp] theorem getMessage_toAudioTape :
    (tape.getMessage cfg).2.toAudioTape = tape.toAudioTape := by
  unfold getMessage
  split
  · rfl
  · split
    · split <;> rfl
    · dsimp only
      split <;> rfl

theorem pushChunk_shouldStop (captureFileBatchSizeKByte : Int) (tape : AudioTape)
    (chunk : AudioChunk) :
    (tape.pushChunk captureFileBatchSizeKByte chunk).2.shouldStop = tape.shouldStop := by
  unfold AudioTape.pushChunk
  split <;> rfl

@[simp] theorem addAudioChunk_shouldStop (chunk : AudioChunk) :
    (tape.addAudioChunk cfg chunk).shouldStop = tape.shouldStop := by
  unfold addAudioChunk
  split
  · exact pushChunk_shouldStop _ _ _
  · rfl

/-- Writing a chunk leaves the stop flag alone and does not stop the tape. -/
theorem audioTape_writeChunk (tape : AudioTape) (chunk : AudioChunk) :
    (tape.writeChunk chunk).shouldStop = tape.shouldStop ∧
      ((tape.writeChunk chunk).state = .stopped ↔ tape.state = .stopped) := by
  cases hstate : tape.state <;> simp [AudioTape.writeChunk, hstate]

theorem writeChunk_frame (chunk : AudioChunk) :
    (tape.writeChunk cfg chunk).shouldStop = tape.shouldStop ∧
      ((tape.writeChunk cfg chunk).state = .stopped ↔ tape.state = .stopped) := by
  unfold writeChunk
  by_cases hcreated : tape.state = .created
  · simp only [if_pos hcreated]
    exact audioTape_writeChunk _ chunk
  · simp only [if_neg hcreated]
    exact audioTape_writeChunk _ chunk

theorem popChunk_frame (tape : AudioTape) :
    tape.popChunk.2.shouldStop = tape.shouldStop ∧ tape.popChunk.2.state = tape.state := by
  unfold AudioTape.popChunk
  split <;> exact ⟨rfl, rfl⟩

theorem writeChunks_frame (chunks : List AudioChunk) :
    (writeChunks cfg chunks tape).shouldStop = tape.shouldStop ∧
      ((writeChunks cfg chunks tape).state = .stopped ↔ tape.state = .stopped) := by
  induction chunks generalizing tape with
  | nil => exact ⟨rfl, Iff.rfl⟩
  | cons chunk rest ih =>
      unfold writeChunks
      split
      · exact ⟨rfl, Iff.rfl⟩
      · obtain ⟨hstop, hstate⟩ := ih (writeChunk cfg { tape with
          toAudioTape := tape.toAudioTape.popChunk.2 } chunk)
        obtain ⟨hstop', hstate'⟩ := writeChunk_frame cfg { tape with
          toAudioTape := tape.toAudioTape.popChunk.2 } chunk
        obtain ⟨hstop'', hstate''⟩ := popChunk_frame tape.toAudioTape
        refine ⟨(hstop.trans hstop').trans hstop'', (hstate.trans hstate').trans ?_⟩
        exact Iff.of_eq (congrArg (· = TapeState.stopped) hstate'')

theorem discardChunks_shouldStop (chunks : List AudioChunk) (tape : AudioTape) :
    (discardChunks chunks tape).shouldStop = tape.shouldStop := by
  induction chunks generalizing tape with
  | nil => rfl
  | cons chunk rest ih => rw [discardChunks, ih, (popChunk_frame tape).1]

@[simp] theorem write_shouldStop : (tape.write cfg).shouldStop = tape.shouldStop := by
  have hfinish (tape : AudioTape) : tape.finishWrite.shouldStop = tape.shouldStop := by
    unfold AudioTape.finishWrite
    split <;> rfl
  unfold write
  split
  · exact discardChunks_shouldStop _ _
  · rw [hfinish, (writeChunks_frame cfg tape _).1]

/-- `Write` stops a tape that should stop, unless the party filter keeps it from having a
file, and marks one with data ready. -/
theorem write_stopped (hstop : tape.shouldStop = true) (hpassed : tape.rejected cfg = false) :
    (tape.write cfg).state = .stopped ∧
      (tape.state ≠ .stopped → (tape.write cfg).bytesWritten > 0 →
        (tape.write cfg).readyForBatchProcessing = true) := by
  obtain ⟨hkept, hstate⟩ := writeChunks_frame cfg tape tape.chunkQueue
  rw [hstop] at hkept
  unfold write
  rw [if_neg (by rw [hpassed]; exact Bool.false_ne_true)]
  simp only [AudioTape.finishWrite, hkept, true_and]
  by_cases hstopped : (writeChunks cfg tape.chunkQueue tape).state = .stopped
  · simp only [hstopped, ne_eq, not_true_eq_false, reduceCtorEq, or_self, if_false, true_and]
    intro hnot
    exact absurd (hstate.mp hstopped) hnot
  · simp only [ne_eq, hstopped, not_false_eq_true, true_or, if_true, true_and]
    intro _ hbytes
    simp [hbytes]

end CapturedTape

namespace Recorder

variable {cfg : PortConfig} {now : Int} {s s' : Recorder}

/-! ### What a call leaves of the tapes that were stopped -/

/-- Every tape that received a chunk and is stopped or superseded was handed to immediate
processing after its stop flag was set. -/
def Finalised (s : Recorder) : Prop :=
  ∀ r ∈ s.received, (s.tapes r).shouldStop = true ∨ s.port.audioTapeRef ≠ some r →
    (r, true) ∈ s.handed

/-- The tape of the port, if any, has received nothing or should stop. -/
def Parked (s : Recorder) : Prop :=
  ∀ r, s.port.audioTapeRef = some r → r ∈ s.received → (s.tapes r).shouldStop = true

structure Settled (s : Recorder) : Prop where
  current : ∀ r, s.port.audioTapeRef = some r → r < s.numTapes
  received : ∀ r ∈ s.received, r < s.numTapes
  handed : ∀ r, (r, true) ∈ s.handed → r < s.numTapes ∧ (s.tapes r).shouldStop = true
  finalised : Finalised s

/-- No tape comes or goes, is handed over or gets a chunk, and no stop flag changes. -/
structure Keeps (s s' : Recorder) : Prop where
  current : s'.port.audioTapeRef = s.port.audioTapeRef
  numTapes : s'.numTapes = s.numTapes
  received : s'.received = s.received
  handed : s'.handed = s.handed
  shouldStop : ∀ r, (s'.tapes r).shouldStop = (s.tapes r).shouldStop

namespace Keeps

theorem refl (s : Recorder) : Keeps s s := ⟨rfl, rfl, rfl, rfl, fun _ => rfl⟩

theorem trans {s'' : Recorder} (first : Keeps s s') (second : Keeps s' s'') : Keeps s s'' where
  current := second.current.trans first.current
  numTapes := second.numTapes.trans first.numTapes
  received := second.received.trans first.received
  handed := second.handed.trans first.handed
  shouldStop r := (second.shouldStop r).trans (first.shouldStop r)

theorem modifyTape (s : Recorder) (r : Nat) {f : CapturedTape → CapturedTape}
    (hf : (f (s.tapes r)).shouldStop = (s.tapes r).shouldStop) : Keeps s (s.modifyTape r f) where
  current := rfl
  numTapes := rfl
  received := rfl
  handed := rfl
  shouldStop i := by
    by_cases hi : i = r
    · subst hi
      simp [Recorder.modifyTape, hf]
    · simp [Recorder.modifyTape, hi]

theorem report (cfg : PortConfig) (s : Recorder) (r : Nat) (site : CallSite) :
    Keeps s (s.report cfg r site) where
  current := rfl
  numTapes := rfl
  received := rfl
  handed := rfl
  shouldStop i := by
    by_cases hi : i = r
    · subst hi
      simp [Recorder.report]
    · simp [Recorder.report, hi]

theorem settled (keeps : Keeps s s') (settled : Settled s) : Settled s' where
  current r hr := by
    rw [keeps.numTapes]
    exact settled.current r (keeps.current ▸ hr)
  received r hr := by
    rw [keeps.numTapes]
    exact settled.received r (keeps.received ▸ hr)
  handed r hr := by
    rw [keeps.numTapes, keeps.shouldStop]
    exact settled.handed r (keeps.handed ▸ hr)
  finalised r hr hended := by
    rw [keeps.handed]
    rw [keeps.shouldStop, keeps.current] at hended
    exact settled.finalised r (keeps.received ▸ hr) hended

theorem parked (keeps : Keeps s s') (parked : Parked s) : Parked s' := by
  intro r hr hreceived
  rw [keeps.shouldStop]
  exact parked r (keeps.current ▸ hr) (keeps.received ▸ hreceived)

/-- The events other than start and stop. -/
theorem handleEvent (cfg : PortConfig) (now : Int) (s : Recorder) (r : Nat)
    {event : CaptureEvent} (hstop : event.type ≠ .etStop) :
    Keeps s (s.handleEvent cfg now r event) := by
  have hadd (s : Recorder) (send : Bool) :
      Keeps s (s.modifyTape r fun tape => tape.addCaptureEvent cfg event send) :=
    modifyTape s r (by simp [hstop])
  unfold Recorder.handleEvent
  split
  · exact refl s
  · contradiction
  · split_ifs
    · exact (modifyTape s r (by rfl)).trans ((hadd _ true).trans (report cfg _ r _))
    · exact modifyTape s r (by rfl)
    · exact refl s
  · have hduration : Keeps s (s.modifyTape r fun tape =>
        if tape.lastHoldTs > 0 then
          { tape with holdDuration := longToInt (tape.holdDuration + (now - tape.lastHoldTs)) }
        else tape) := modifyTape s r (by split <;> rfl)
    dsimp only
    apply hduration.trans
    split_ifs
    · exact ((hadd _ true).trans (report cfg _ r _)).trans (modifyTape _ r (by rfl))
    · exact modifyTape _ r (by rfl)
  · exact (report cfg s r _).trans ⟨rfl, rfl, rfl, rfl, fun _ => rfl⟩
  · exact (hadd s true).trans (report cfg _ r _)
  · exact hadd s false

end Keeps

/-! ### The other changes -/

section

variable (settled : Settled s)

include settled

/-- A new tape takes the place of one that is settled. -/
theorem Settled.setTape (parked : Parked s) (tape : CapturedTape) :
    Settled (s.setTape tape) := by
  have hold {r : Nat} (hr : r < s.numTapes) : (s.setTape tape).tapes r = s.tapes r := by
    simp [Recorder.setTape, Nat.ne_of_lt hr]
  refine ⟨?_, ?_, ?_, ?_⟩
  · rintro r hr
    obtain rfl := Option.some.inj hr
    exact Nat.lt_succ_self _
  · intro r hr
    exact Nat.lt_succ_of_lt (settled.received r hr)
  · intro r hr
    obtain ⟨hlt, hstop⟩ := settled.handed r hr
    refine ⟨Nat.lt_succ_of_lt hlt, ?_⟩
    rwa [hold hlt]
  · intro r hr _
    by_cases hcurrent : s.port.audioTapeRef = some r
    · exact settled.finalised r hr (.inl (parked r hcurrent hr))
    · exact settled.finalised r hr (.inr hcurrent)

theorem Settled.parked_setTape (tape : CapturedTape) : Parked (s.setTape tape) := by
  intro r hr hreceived
  obtain rfl := Option.some.inj hr
  exact absurd (settled.received _ hreceived) (Nat.lt_irrefl _)

/-- Setting the stop flag of a parked tape changes nothing that matters. -/
theorem Settled.markStop (parked : Parked s) {r : Nat} (hr : s.port.audioTapeRef = some r) :
    Settled (s.modifyTape r fun tape => { tape with shouldStop := true }) := by
  have hstop (i : Nat) : ((s.modifyTape r fun tape => { tape with shouldStop := true }).tapes
      i).shouldStop = if i = r then true else (s.tapes i).shouldStop := by
    by_cases hi : i = r <;> simp [Recorder.modifyTape, hi]
  refine ⟨settled.current, settled.received, ?_, ?_⟩
  · intro i hi
    obtain ⟨hlt, hold⟩ := settled.handed i hi
    refine ⟨hlt, ?_⟩
    rw [hstop, hold, ite_self]
  · intro i hi hended
    by_cases hir : i = r
    · subst hir
      exact settled.finalised i hi (.inl (parked i hr hi))
    · rw [hstop, if_neg hir] at hended
      exact settled.finalised i hi hended

theorem Settled.startCapture (cfg : PortConfig) (now : Int) (parked : Parked s)
    (event : CaptureEvent) :
    Settled (s.startCapture cfg now event) ∧ Parked (s.startCapture cfg now event) := by
  have hcapturing : Keeps s { s with port := { s.port with capturing := true } } :=
    ⟨rfl, rfl, rfl, rfl, fun _ => rfl⟩
  have settled := hcapturing.settled settled
  have parked := hcapturing.parked parked
  unfold Recorder.startCapture
  dsimp only
  split
  · rename_i r hr
    have marked := settled.markStop parked hr
    refine ⟨marked.setTape ?_ _, marked.parked_setTape _⟩
    intro i hi _
    obtain rfl := Option.some.inj (hr.symm.trans hi)
    simp [Recorder.modifyTape]
  · exact ⟨settled.setTape parked _, settled.parked_setTape _⟩

/-- A stop event sets the flag and hands the tape over. -/
theorem Settled.stopCapture {r : Nat} (hr : s.port.audioTapeRef = some r) {event : CaptureEvent}
    (hevent : event.type = .etStop) :
    Settled (s.handleEvent cfg now r event) ∧ Parked (s.handleEvent cfg now r event) := by
  have hstop (i : Nat) : ((s.handleEvent cfg now r event).tapes i).shouldStop =
      if i = r then true else (s.tapes i).shouldStop := by
    by_cases hi : i = r
    · subst hi
      simp [handleEvent, hevent, handOver, Recorder.report, Recorder.modifyTape]
    · simp [handleEvent, hevent, handOver, Recorder.report, Recorder.modifyTape, hi]
  have hhanded : (s.handleEvent cfg now r event).handed = s.handed ++ [(r, true)] := by
    simp [handleEvent, hevent, handOver, Recorder.report, Recorder.modifyTape]
  have hcurrent : (s.handleEvent cfg now r event).port.audioTapeRef = some r := by
    simp only [handleEvent, hevent]
    exact hr
  have hreceived : (s.handleEvent cfg now r event).received = s.received := by
    simp only [handleEvent, hevent]
    rfl
  have hnumTapes : (s.handleEvent cfg now r event).numTapes = s.numTapes := by
    simp only [handleEvent, hevent]
    rfl
  refine ⟨⟨?_, ?_, ?_, ?_⟩, ?_⟩
  · rw [hnumTapes, hcurrent, ← hr]
    exact settled.current
  · rw [hnumTapes, hreceived]
    exact settled.received
  · intro i hi
    rw [hhanded, List.mem_append, List.mem_singleton] at hi
    rw [hnumTapes, hstop]
    rcases hi with hi | hi
    · obtain ⟨hlt, hold⟩ := settled.handed i hi
      exact ⟨hlt, by rw [hold, ite_self]⟩
    · obtain ⟨rfl, -⟩ := Prod.mk.inj hi
      exact ⟨settled.current i hr, if_pos rfl⟩
  · intro i hi hended
    rw [hreceived] at hi
    rw [hstop, hcurrent] at hended
    rw [hhanded, List.mem_append, List.mem_singleton]
    by_cases hir : i = r
    · exact .inr (by rw [hir])
    · rw [if_neg hir] at hended
      exact .inl (settled.finalised i hi (by rwa [hr]))
  · intro i hi _
    rw [hcurrent] at hi
    rw [hstop, if_pos (Option.some.inj hi).symm]

/-- A chunk goes to the tape of the port, which is handed over with it. -/
theorem Settled.deliver (chunk : AudioChunk) : Settled (s.deliver cfg chunk) := by
  unfold Recorder.deliver
  split
  · rename_i r hr
    split
    · have hkeeps := Keeps.modifyTape { s with received := s.received ++ [r] } r
        (f := fun tape => tape.addAudioChunk cfg chunk) (by simp)
      have hflag := hkeeps.shouldStop
      refine ⟨settled.current, ?_, ?_, ?_⟩
      · intro i hi
        rcases List.mem_append.mp hi with hi | hi
        · exact settled.received i hi
        · rw [List.mem_singleton.mp hi]
          exact settled.current r hr
      · intro i hi
        rcases List.mem_append.mp hi with hi | hi
        · obtain ⟨hlt, hold⟩ := settled.handed i hi
          exact ⟨hlt, (hflag i).trans hold⟩
        · obtain ⟨rfl, hold⟩ := Prod.mk.inj (List.mem_singleton.mp hi)
          exact ⟨settled.current i hr, hold.symm⟩
      · intro i hi hended
        apply List.mem_append.mpr
        rcases hended with hended | hended
        · by_cases hir : i = r
          · refine .inr (List.mem_singleton.mpr ?_)
            subst hir
            exact congrArg (Prod.mk i) hended.symm
          · rcases List.mem_append.mp hi with hi | hi
            · exact .inl (settled.finalised i hi (.inl ((hflag i).symm.trans hended)))
            · exact absurd (List.mem_singleton.mp hi) hir
        · rcases List.mem_append.mp hi with hi | hi
          · exact .inl (settled.finalised i hi (.inr hended))
          · rw [List.mem_singleton.mp hi] at hended
            exact absurd hr hended
    · exact settled
  · exact settled

end

/-! ### Actions and calls -/

/-- An event that is no start or stop leaves the tapes as they are. -/
theorem Keeps.addCaptureEvent (cfg : PortConfig) (now : Int) (s : Recorder)
    {event : CaptureEvent} (hstart : event.type ≠ .etStart) (hstop : event.type ≠ .etStop) :
    Keeps s (s.addCaptureEvent cfg now event) := by
  have hupdated : Keeps s { s with port := { s.port with lastUpdated := now } } :=
    ⟨rfl, rfl, rfl, rfl, fun _ => rfl⟩
  unfold Recorder.addCaptureEvent
  simp only [if_neg hstart]
  split
  · exact hupdated.trans (Keeps.handleEvent cfg now _ _ hstop)
  · exact hupdated

theorem Settled.addStart (settled : Settled s) (parked : Parked s) {event : CaptureEvent}
    (hstart : event.type = .etStart) :
    Settled (s.addCaptureEvent cfg now event) ∧ Parked (s.addCaptureEvent cfg now event) := by
  have hupdated : Keeps s { s with port := { s.port with lastUpdated := now } } :=
    ⟨rfl, rfl, rfl, rfl, fun _ => rfl⟩
  have hstarted := (hupdated.settled settled).startCapture cfg now
    (hupdated.parked parked) event
  unfold Recorder.addCaptureEvent
  simp only [if_pos hstart]
  split
  · rw [handleEvent, hstart]
    exact hstarted
  · exact hstarted

theorem Settled.addStop (cfg : PortConfig) (now : Int) (settled : Settled s)
    {event : CaptureEvent} (hevent : event.type = .etStop) :
    Settled (s.addCaptureEvent cfg now event) ∧ Parked (s.addCaptureEvent cfg now event) := by
  have hupdated : Keeps s { s with port := { s.port with lastUpdated := now } } :=
    ⟨rfl, rfl, rfl, rfl, fun _ => rfl⟩
  have settled := hupdated.settled settled
  unfold Recorder.addCaptureEvent
  simp only [if_neg (show event.type ≠ .etStart by rw [hevent]; decide)]
  split
  · exact settled.stopCapture (by assumption) hevent
  · refine ⟨settled, ?_⟩
    rename_i hnone
    intro r hr
    rw [hnone] at hr
    cases hr

/-- An action that gives the tape of the port up, other than by a stop event. -/
def Supersedes : Action → Prop
  | .addCaptureEvent event => event.type = .etStart
  | .newTape => True
  | .resetTape => True
  | _ => False

theorem Keeps.act {a : Action} (hsupersedes : ¬ Supersedes a)
    (hstop : ∀ event, a = .addCaptureEvent event → event.type ≠ .etStop)
    (hdeliver : ∀ chunk, a ≠ .deliver chunk) : Keeps s (s.act cfg now a) := by
  have hset (s : Recorder) (f : CapturePort → CapturePort)
      (hf : (f s.port).audioTapeRef = s.port.audioTapeRef) : Keeps s { s with port := f s.port } :=
    ⟨hf, rfl, rfl, rfl, fun _ => rfl⟩
  cases a with
  | addCaptureEvent event =>
      exact Keeps.addCaptureEvent cfg now s hsupersedes (hstop event rfl)
  | newTape => exact absurd trivial hsupersedes
  | resetTape => exact absurd trivial hsupersedes
  | deliver chunk => exact absurd rfl (hdeliver chunk)
  | lastMessage =>
      simp only [Recorder.act]
      split
      · exact (Keeps.report cfg s _ _).trans (hset _ (fun port => { port with needSendStop := false })
          (by rfl))
      · exact Keeps.refl s
  | write r =>
      simp only [Recorder.act]
      split
      · exact Keeps.modifyTape s r (by simp)
      · exact Keeps.refl s
  | report r =>
      simp only [Recorder.act]
      split
      · exact Keeps.report cfg s r _
      · exact Keeps.refl s
  | reportOther tape => exact ⟨rfl, rfl, rfl, rfl, fun _ => rfl⟩

/-- Actions keep the tapes settled, as long as only a parked tape is given up. -/
theorem Settled.act (cfg : PortConfig) (now : Int) (settled : Settled s) {a : Action}
    (hparked : Supersedes a → Parked s) :
    Settled (s.act cfg now a) := by
  by_cases hsupersedes : Supersedes a
  · have parked := hparked hsupersedes
    cases a with
    | addCaptureEvent event => exact (settled.addStart parked hsupersedes).1
    | newTape => exact settled.setTape parked _
    | resetTape =>
        refine ⟨?_, settled.received, settled.handed, ?_⟩
        · intro r hr
          cases hr
        · intro r hr _
          by_cases hcurrent : s.port.audioTapeRef = some r
          · exact settled.finalised r hr (.inl (parked r hcurrent hr))
          · exact settled.finalised r hr (.inr hcurrent)
    | _ => exact hsupersedes.elim
  · by_cases hstop : ∃ event : CaptureEvent, a = .addCaptureEvent event ∧ event.type = .etStop
    · obtain ⟨event, rfl, hevent⟩ := hstop
      exact (settled.addStop cfg now hevent).1
    · by_cases hdeliver : ∃ chunk, a = .deliver chunk
      · obtain ⟨chunk, rfl⟩ := hdeliver
        exact settled.deliver chunk
      · have hkeeps : Keeps s (s.act cfg now a) := Keeps.act hsupersedes
          (fun event heq hevent => hstop ⟨event, heq, hevent⟩)
          (fun chunk heq => hdeliver ⟨chunk, heq⟩)
        exact hkeeps.settled settled

/-- Without a chunk, a parked tape stays parked and every tape after it is. -/
theorem Settled.parked_act (settled : Settled s) (parked : Parked s) {a : Action}
    (hdeliver : ∀ chunk, a ≠ .deliver chunk) : Parked (s.act cfg now a) := by
  by_cases hsupersedes : Supersedes a
  · cases a with
    | addCaptureEvent event => exact (settled.addStart parked hsupersedes).2
    | newTape => exact settled.parked_setTape _
    | resetTape =>
        intro r hr
        cases hr
    | _ => exact hsupersedes.elim
  · by_cases hstop : ∃ event : CaptureEvent, a = .addCaptureEvent event ∧ event.type = .etStop
    · obtain ⟨event, rfl, hevent⟩ := hstop
      exact (settled.addStop cfg now hevent).2
    · have hkeeps : Keeps s (s.act cfg now a) := Keeps.act hsupersedes
        (fun event heq hevent => hstop ⟨event, heq, hevent⟩) hdeliver
      exact hkeeps.parked parked

theorem Settled.perform (settled : Settled s) (parked : Parked s) {actions : List Action}
    (hdeliver : ∀ a ∈ actions, ∀ chunk, a ≠ .deliver chunk) :
    Settled (s.perform cfg now actions) := by
  induction actions generalizing s with
  | nil => exact settled
  | cons a actions ih =>
      have ha := hdeliver a List.mem_cons_self
      exact ih (settled.act cfg now fun _ => parked) (settled.parked_act parked ha)
        fun b hb => hdeliver b (List.mem_cons_of_mem _ hb)

theorem startTape_frame (port : CapturePort) (now : Int) :
    (port.startTape now).1.audioTapeRef = port.audioTapeRef ∧
      ∀ a ∈ (port.startTape now).2, ∀ chunk, a ≠ .deliver chunk := by
  refine ⟨rfl, ?_⟩
  intro a ha chunk
  simp only [CapturePort.startTape, List.mem_cons, List.mem_map] at ha
  rcases ha with rfl | rfl | ⟨event, _, rfl⟩ <;> exact Action.noConfusion

/-- What happens before a chunk is delivered: nothing, or a first tape is made, or the tape
of the port is stopped first. -/
def Prepares (now : Int) (s : Recorder) (before : List Action) : Prop :=
  before = [] ∨ ∃ rest, (∀ a ∈ rest, ∀ chunk, a ≠ .deliver chunk) ∧
    (s.port.audioTapeRef = none ∧ before = rest ∨
      before = .addCaptureEvent (stopEvent now) :: rest)

theorem segment_prepares (cfg : PortConfig) (now : Int) (s : Recorder) :
    (s.segment cfg now).1.audioTapeRef = s.port.audioTapeRef ∧
      Prepares now s (s.segment cfg now).2 := by
  obtain ⟨hframe, hdeliver⟩ := startTape_frame s.port now
  unfold segment
  split
  · split
    · exact ⟨hframe, .inr ⟨_, hdeliver, .inr rfl⟩⟩
    · exact ⟨rfl, .inl rfl⟩
  · exact ⟨hframe, .inr ⟨_, hdeliver, .inl ⟨by assumption, rfl⟩⟩⟩

theorem detectVoice_prepares (cfg : PortConfig) (now : Int) (s : Recorder) (activity : Activity) :
    (s.detectVoice cfg now activity).1.audioTapeRef = s.port.audioTapeRef ∧
      Prepares now s (s.detectVoice cfg now activity).2 := by
  have hreset : ∀ a ∈ [Action.resetTape], ∀ chunk, a ≠ .deliver chunk := by
    intro a ha chunk
    rw [List.mem_singleton.mp ha]
    exact Action.noConfusion
  unfold detectVoice
  dsimp only
  split_ifs with _ _ _ _ _ hnone
  · exact ⟨rfl, .inr ⟨_, hreset, .inr rfl⟩⟩
  · exact ⟨rfl, .inl rfl⟩
  · exact ⟨rfl, .inr ⟨_, hreset, .inr rfl⟩⟩
  · exact ⟨rfl, .inl rfl⟩
  · exact ⟨rfl, .inr ⟨_, (startTape_frame _ now).2, .inl ⟨hnone, rfl⟩⟩⟩
  · exact ⟨rfl, .inl rfl⟩
  · exact ⟨rfl, .inl rfl⟩

theorem chunkActions_cases (cfg : PortConfig) (now : Int) (s : Recorder) (chunk : AudioChunk)
    (activity : Option Activity) :
    (s.chunkActions cfg now chunk activity).1.audioTapeRef = s.port.audioTapeRef ∧
      ((s.chunkActions cfg now chunk activity).2 = [] ∨
        ∃ before, (s.chunkActions cfg now chunk activity).2 = before ++ [.deliver chunk] ∧
          Prepares now s before) := by
  unfold chunkActions
  dsimp only
  split
  · exact ⟨rfl, .inl rfl⟩
  · split
    · obtain ⟨hframe, hprepares⟩ :=
        segment_prepares cfg now { s with port := { s.port with lastUpdated := now } }
      exact ⟨hframe, .inr ⟨_, rfl, hprepares⟩⟩
    · split
      · split
        · rename_i activity
          obtain ⟨hframe, hprepares⟩ :=
            detectVoice_prepares cfg now { s with port := { s.port with lastUpdated := now } } activity
          exact ⟨hframe, .inr ⟨_, rfl, hprepares⟩⟩
        · exact ⟨rfl, .inr ⟨_, rfl, .inl rfl⟩⟩
      · exact ⟨rfl, .inr ⟨_, rfl, .inl rfl⟩⟩

theorem Keeps.enter (cfg : PortConfig) (now : Int) (s : Recorder) (call : Call) :
    Keeps s (s.enter cfg now call) := by
  refine ⟨?_, rfl, rfl, rfl, fun _ => rfl⟩
  cases call with
  | addAudioChunk chunk activity => exact (chunkActions_cases cfg now s chunk activity).1
  | finalize =>
      simp only [Recorder.enter, actions]
      split <;> rfl
  | _ => rfl

/-- No start event arrives while the tape of the port has received a chunk and was not
stopped. -/
def Admits (s : Recorder) (label : Int × Call) : Prop :=
  ∀ event, label.2 = .addCaptureEvent event → event.type = .etStart → Parked s

theorem Settled.call (settled : Settled s) {call : Call} (admits : Admits s (now, call)) :
    Settled ((s.enter cfg now call).perform cfg now (s.actions cfg now call).2) := by
  have hkeeps := Keeps.enter cfg now s call
  have entered := hkeeps.settled settled
  cases call with
  | addCaptureEvent event =>
      refine entered.act cfg now (a := .addCaptureEvent event) ?_
      intro hstart
      exact hkeeps.parked (admits event rfl hstart)
  | addAudioChunk chunk activity =>
      obtain ⟨-, hactions⟩ := chunkActions_cases cfg now s chunk activity
      change Settled (Recorder.perform cfg now _ (s.chunkActions cfg now chunk activity).2)
      rcases hactions with hnone | ⟨before, heq, hbefore⟩
      · rw [hnone]
        exact entered
      · rw [heq, Recorder.perform, List.foldl_append]
        apply Settled.deliver
        rcases hbefore with rfl | ⟨rest, hrest, ⟨hcurrent, rfl⟩ | rfl⟩
        · exact entered
        · refine entered.perform ?_ hrest
          intro r hr
          rw [hkeeps.current, hcurrent] at hr
          cases hr
        · obtain ⟨stopped, parked⟩ :=
            entered.addStop cfg now (show (stopEvent now).type = .etStop from rfl)
          exact stopped.perform parked hrest
  | queueCaptureEvent event => exact entered
  | clearEventQueue => exact entered
  | finalize =>
      simp only [actions]
      split
      · obtain ⟨stopped, parked⟩ :=
          entered.addStop cfg now (show (stopEvent now).type = .etStop from rfl)
        exact stopped.act cfg now (a := .lastMessage) False.elim
      · exact entered
  | write r => exact entered.act cfg now (a := .write r) False.elim
  | report r => exact entered.act cfg now (a := .report r) False.elim
  | reportOther tape => exact entered.act cfg now (a := .reportOther tape) False.elim

theorem fresh_settled (cfg : PortConfig) (id : String) : Settled (fresh cfg id) := by
  constructor <;> simp [fresh, Finalised]

/-- A start event that gives up a tape with chunks leaves it unfinished. -/
theorem Settled.superseded (settled : Settled s) {event : CaptureEvent}
    (hstart : event.type = .etStart) (hparked : ¬ Parked s) :
    ¬ Finalised (s.addCaptureEvent cfg now event) := by
  obtain ⟨r, hr, hreceived, hflag⟩ : ∃ r, s.port.audioTapeRef = some r ∧ r ∈ s.received ∧
      ¬ (s.tapes r).shouldStop = true := by
    simpa only [Parked, not_forall, exists_prop] using hparked
  intro finalised
  have hne : s.numTapes ≠ r := (Nat.ne_of_lt (settled.current r hr)).symm
  have hreceived' : (s.addCaptureEvent cfg now event).received = s.received := by
    simp [Recorder.addCaptureEvent, hstart, Recorder.startCapture, hr, handleEvent,
      Recorder.setTape, Recorder.modifyTape]
  have hhanded : (s.addCaptureEvent cfg now event).handed = s.handed := by
    simp [Recorder.addCaptureEvent, hstart, Recorder.startCapture, hr, handleEvent,
      Recorder.setTape, Recorder.modifyTape]
  have hcurrent : (s.addCaptureEvent cfg now event).port.audioTapeRef = some s.numTapes := by
    simp [Recorder.addCaptureEvent, hstart, Recorder.startCapture, hr, handleEvent,
      Recorder.setTape, Recorder.modifyTape]
  have hmem := finalised r (hreceived' ▸ hreceived)
    (.inr (by rw [hcurrent]; exact fun heq => hne (Option.some.inj heq)))
  exact hflag (settled.handed r (hhanded ▸ hmem)).2

/-- In a run whose start events never give up a tape with chunks, every tape that received a
chunk and is stopped or superseded was handed over after its stop flag was set, and writing
it closes its file. One more call keeps this so exactly where it meets the same condition. -/
theorem tapes_finalised {cfg : PortConfig} {id : String} {labels : List (Int × Call)}
    {s : Recorder} (run : Steps (Guarded Admits (Step cfg)) (fresh cfg id) labels s) :
    (∀ r ∈ s.received, (s.tapes r).shouldStop = true ∨ s.port.audioTapeRef ≠ some r →
        (r, true) ∈ s.handed ∧ (s.tapes r).shouldStop = true ∧
          ((s.tapes r).rejected cfg = false → ((s.tapes r).write cfg).state = .stopped ∧
            ((s.tapes r).state ≠ .stopped → ((s.tapes r).write cfg).bytesWritten > 0 →
              ((s.tapes r).write cfg).readyForBatchProcessing = true))) ∧
      ∀ label s', Step cfg s label s' → (Finalised s' ↔ Admits s label) := by
  have settled : Settled s := by
    refine run.invariant ?_ (fresh_settled cfg id)
    rintro s _ _ settled ⟨admits, ⟨now, call⟩⟩
    exact settled.call admits
  refine ⟨?_, ?_⟩
  · intro r hr hended
    have hhanded := settled.finalised r hr hended
    have hstop := (settled.handed r hhanded).2
    exact ⟨hhanded, hstop, (s.tapes r).write_stopped cfg hstop⟩
  · rintro _ _ ⟨now, call⟩
    constructor
    · intro finalised event hevent hstart
      obtain rfl : call = .addCaptureEvent event := hevent
      by_contra hparked
      exact settled.superseded hstart hparked finalised
    · intro admits
      exact (settled.call admits).finalised

/-- One second of silence of the first side. -/
def silence : AudioChunk :=
  { details := { encoding := .pcmAudio, numBytes := 16000, channel := 1 }, buffer := fun _ => 0 }

/-- A tape that gets a chunk and a stop event is handed over. -/
theorem tapes_finalised_stopped :
    ∃ s, Steps (Step {}) (fresh {} "p")
        [(1, .addCaptureEvent { type := .etStart }), (2, .addAudioChunk silence none),
          (3, .addCaptureEvent { type := .etStop })] s ∧
      (s.tapes 0).shouldStop = true ∧ (0, true) ∈ s.handed := by
  have hadmits (s : Recorder) (time : Int) (call : Call)
      (hstart : ∀ event, call = .addCaptureEvent event → event.type ≠ .etStart) :
      Admits s (time, call) := fun event heq htype => absurd htype (hstart event heq)
  obtain ⟨s, hs, hreceived, hstop⟩ : ∃ s, Steps (Guarded Admits (Step {})) (fresh {} "p")
      [(1, .addCaptureEvent { type := .etStart }), (2, .addAudioChunk silence none),
        (3, .addCaptureEvent { type := .etStop })] s ∧ s.received = [0] ∧
        (s.tapes 0).shouldStop = true := by
    refine ⟨_, .cons ⟨?_, .call _ _ _⟩ (.cons ⟨hadmits _ _ _ ?_, .call _ _ _⟩
      (.cons ⟨hadmits _ _ _ ?_, .call _ _ _⟩ (.nil _))), ?_, ?_⟩
    · intro event _ _ r hr
      cases hr
    · rintro event ⟨⟩
    · rintro event ⟨⟩
      decide
    · rfl
    · rfl
  obtain ⟨hfinalised, -⟩ := tapes_finalised hs
  obtain ⟨hhanded, -, -⟩ := hfinalised 0 (hreceived ▸ List.mem_singleton.mpr rfl) (.inl hstop)
  exact ⟨s, hs.of_guarded, hstop, hhanded⟩

/-- A second start event supersedes a tape with a chunk; it was only handed over before its
stop flag was set. -/
theorem superseded_tape_forgotten :
    ∃ s, Steps (Step {}) (fresh {} "p")
        [(1, .addCaptureEvent { type := .etStart }), (2, .addAudioChunk silence none),
          (3, .addCaptureEvent { type := .etStart })] s ∧
      s.received = [0] ∧ s.port.audioTapeRef = some 1 ∧ (s.tapes 0).shouldStop = true ∧
      s.handed = [(0, false)] := by
  refine ⟨_, .cons (.call _ _ _) (.cons (.call _ _ _) (.cons (.call _ _ _) (.nil _))), ?_, ?_, ?_, ?_⟩
  all_goals rfl

end Recorder

end OrkAudio
