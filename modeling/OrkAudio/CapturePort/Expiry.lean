import OrkAudio.CapturePort.Finalised
import OrkAudio.CapturePort.Reported

/-! When the capture ports let go of a port.

A port whose tape is still active does not expire. `Write` is what ends the active state, and
it returns early for a tape that the party filter rejects. Here opening, writing and closing a
capture file may fail. -/

namespace OrkAudio

open Lib

/-! ### Writing with failures -/

/-- What becomes of a chunk in `Write`. `unwritten`: the file is over its size limit, or
`WriteChunk` throws. `unopened`: the file of a first chunk cannot be opened. -/
inductive ChunkOutcome
  | written | unwritten | unopened

/-- The last test of `Write`, where `Close` may throw. -/
def AudioTape.finishWriteWith (closes : Bool) (tape : AudioTape) : AudioTape :=
  if closes then tape.finishWrite
  else { tape.finishWrite with readyForBatchProcessing := tape.readyForBatchProcessing }

namespace CapturedTape

variable (cfg : PortConfig)

/-- The loop body of `Write`. A caught exception leaves the state as it is. -/
def writeChunkWith (tape : CapturedTape) (chunk : AudioChunk) : ChunkOutcome → CapturedTape
  | .written => tape.writeChunk cfg chunk
  | .unwritten =>
      let state := if tape.state = .created then .active else tape.state
      { tape.writeChunk cfg chunk with toAudioTape := { tape.toAudioTape with state } }
  | .unopened =>
      let state := if tape.state = .created then .active else tape.state
      let fileIdentifier := (tape.writeChunk cfg chunk).fileIdentifier
      { tape with fileIdentifier, toAudioTape := { tape.toAudioTape with state } }

/-- The loop of `Write`; what is left of the queue when the outcomes end is written. -/
def writeChunksWith : List ChunkOutcome → List AudioChunk → CapturedTape → CapturedTape
  | _, [], tape => tape
  | outcomes, chunk :: rest, tape =>
      if tape.state = .stopped ∨ tape.state = .error then tape
      else
        let tape := { tape with toAudioTape := tape.toAudioTape.popChunk.2 }
        writeChunksWith outcomes.tail rest
          (tape.writeChunkWith cfg chunk (outcomes.headD .written))

def writeWith (outcomes : List ChunkOutcome) (closes : Bool) (tape : CapturedTape) : CapturedTape :=
  if tape.rejected cfg then tape.write cfg
  else
    let tape := writeChunksWith cfg outcomes tape.chunkQueue tape
    { tape with toAudioTape := tape.toAudioTape.finishWriteWith closes }

theorem writeChunksWith_nil (chunks : List AudioChunk) (tape : CapturedTape) :
    writeChunksWith cfg [] chunks tape = writeChunks cfg chunks tape := by
  induction chunks generalizing tape with
  | nil => rfl
  | cons chunk rest ih =>
      rw [writeChunksWith, writeChunks]
      split
      · rfl
      · exact ih _

theorem write_eq_writeWith (tape : CapturedTape) : tape.write cfg = tape.writeWith cfg [] true := by
  rw [writeWith, writeChunksWith_nil]
  split
  · rfl
  · rename_i hpassed
    rw [write, if_neg hpassed]
    rfl

/-! ### What happens to a tape -/

/-- The tape has not been stopped and has met no error. -/
def IsOpen (tape : CapturedTape) : Prop := tape.state = .created ∨ tape.state = .active

/-- A tape that has passed the party filter stays so, one that is rejected stays open, and one
that was stopped stays stopped. -/
structure Carries (tape tape' : CapturedTape) : Prop where
  passed : tape.rejected cfg = false → tape'.rejected cfg = false
  isOpen : tape'.rejected cfg = true → tape.IsOpen → tape'.IsOpen
  stopped : tape.state = .stopped → tape'.state = .stopped

namespace Carries

variable {cfg} {tape tape' tape'' : CapturedTape}

theorem refl (tape : CapturedTape) : Carries cfg tape tape := ⟨id, fun _ => id, id⟩

theorem trans (first : Carries cfg tape tape') (second : Carries cfg tape' tape'') :
    Carries cfg tape tape'' where
  passed hpassed := second.passed (first.passed hpassed)
  isOpen hrejected hopen := by
    have hrejected' : tape'.rejected cfg = true := by
      by_contra hpassed
      rw [second.passed (Bool.not_eq_true _ ▸ hpassed)] at hrejected
      cases hrejected
    exact second.isOpen hrejected (first.isOpen hrejected' hopen)
  stopped hstopped := second.stopped (first.stopped hstopped)

/-- The state stays as it is. -/
theorem of_state (hstate : tape'.state = tape.state)
    (hpassed : tape.passedPartyFilterTest = true → tape'.passedPartyFilterTest = true) :
    Carries cfg tape tape' where
  passed h := by
    rw [rejected, Bool.and_eq_false_iff, Bool.not_eq_false'] at h ⊢
    exact h.imp_left hpassed
  isOpen _ hopen := by rwa [IsOpen, hstate]
  stopped hstopped := hstate.trans hstopped

theorem addCaptureEvent (cfg : PortConfig) (tape : CapturedTape) (event : CaptureEvent)
    (send : Bool) : Carries cfg tape (tape.addCaptureEvent cfg event send) := by
  have htest (party : String) : tape.passedPartyFilterTest = true →
      (tape.testParty cfg party).passedPartyFilterTest = true := by
    intro hpassed
    rw [testParty, rejected, hpassed]
    exact hpassed
  have hrecord : Carries cfg tape (tape.recordEvent cfg event) := by
    apply of_state
    · unfold recordEvent
      cases event.type <;> simp only [testParty_toAudioTape]
      all_goals split_ifs <;> rfl
    · by_cases hremote : event.type = .etRemoteParty
      · rw [recordEvent, hremote]
        exact htest _
      · by_cases hlocal : event.type = .etLocalParty
        · rw [recordEvent, hlocal]
          exact htest _
        · rw [recordEvent_passed cfg tape hremote hlocal]
          exact id
  apply hrecord.trans
  unfold CapturedTape.addCaptureEvent
  apply of_state
  · rw [storeTag_toAudioTape]
    split <;> rfl
  · intro hpassed
    rw [storeTag_passed]
    split <;> exact hpassed

theorem addAudioChunk (cfg : PortConfig) (tape : CapturedTape) (chunk : AudioChunk) :
    Carries cfg tape (tape.addAudioChunk cfg chunk) := by
  unfold CapturedTape.addAudioChunk
  split
  · apply of_state
    · unfold AudioTape.pushChunk
      split <;> rfl
    · exact id
  · exact refl tape

theorem getMessage (cfg : PortConfig) (tape : CapturedTape) :
    Carries cfg tape (tape.getMessage cfg).2 := by
  apply of_state
  · rw [getMessage_toAudioTape]
  · unfold CapturedTape.getMessage
    split
    · exact id
    · split
      · split <;> exact id
      · dsimp only
        split <;> exact id

end Carries

/-! ### What `Write` does -/

variable {cfg} {tape : CapturedTape}

theorem writeChunk_passed (chunk : AudioChunk) :
    (tape.writeChunk cfg chunk).passedPartyFilterTest = tape.passedPartyFilterTest := by
  by_cases hcreated : tape.state = .created
  · simp only [writeChunk, if_pos hcreated]
  · simp only [writeChunk, if_neg hcreated]

theorem writeChunksWith_passed (outcomes : List ChunkOutcome) (chunks : List AudioChunk) :
    (writeChunksWith cfg outcomes chunks tape).passedPartyFilterTest =
      tape.passedPartyFilterTest := by
  induction chunks generalizing tape outcomes with
  | nil => rfl
  | cons chunk rest ih =>
      rw [writeChunksWith]
      split
      · rfl
      · rw [ih]
        cases outcomes.headD .written with
        | written => exact writeChunk_passed chunk
        | unwritten => exact writeChunk_passed chunk
        | unopened => rfl

theorem writeChunksWith_stopped (hstopped : tape.state = .stopped) (outcomes : List ChunkOutcome)
    (chunks : List AudioChunk) : writeChunksWith cfg outcomes chunks tape = tape := by
  cases chunks with
  | nil => rfl
  | cons chunk rest => rw [writeChunksWith, if_pos (.inl hstopped)]

theorem finishWriteWith_stopped {tape : AudioTape} (closes : Bool)
    (hstop : tape.shouldStop = true ∨ tape.state = .stopped) :
    (tape.finishWriteWith closes).state = .stopped := by
  have hfinish : tape.finishWrite.state = .stopped := by
    unfold AudioTape.finishWrite
    split
    · rfl
    · rename_i hnot
      rcases hstop with hstop | hstopped
      · by_contra hrunning
        exact hnot (.inl ⟨hstop, hrunning⟩)
      · exact hstopped
  unfold AudioTape.finishWriteWith
  split <;> exact hfinish

theorem discardChunks_state (chunks : List AudioChunk) (tape : AudioTape) :
    (discardChunks chunks tape).state = tape.state := by
  induction chunks generalizing tape with
  | nil => rfl
  | cons chunk rest ih => rw [discardChunks, ih, (popChunk_frame tape).2]

/-- The early return: a created tape becomes active, and nothing stops it. -/
theorem writeWith_rejected (hrejected : tape.rejected cfg = true) (outcomes : List ChunkOutcome)
    (closes : Bool) : (tape.writeWith cfg outcomes closes).state =
      if tape.state = .created then .active else tape.state := by
  rw [writeWith, if_pos hrejected, write, if_pos hrejected]
  exact discardChunks_state _ _

/-- A tape that should stop is stopped, once its queue is empty. -/
theorem writeWith_passed (hpassed : tape.rejected cfg = false) (hstop : tape.shouldStop = true)
    (hempty : tape.chunkQueue = []) (outcomes : List ChunkOutcome) (closes : Bool) :
    (tape.writeWith cfg outcomes closes).state = .stopped := by
  rw [writeWith, if_neg (by rw [hpassed]; exact Bool.false_ne_true), hempty, writeChunksWith]
  exact finishWriteWith_stopped closes (.inl hstop)

theorem Carries.writeWith (cfg : PortConfig) (tape : CapturedTape) (outcomes : List ChunkOutcome)
    (closes : Bool) : Carries cfg tape (tape.writeWith cfg outcomes closes) := by
  have hfilter : (tape.writeWith cfg outcomes closes).passedPartyFilterTest =
      tape.passedPartyFilterTest := by
    unfold CapturedTape.writeWith
    split
    · rename_i hrejected
      rw [write, if_pos hrejected]
    · exact writeChunksWith_passed _ _
  have hsame : (tape.writeWith cfg outcomes closes).rejected cfg = tape.rejected cfg := by
    rw [rejected, rejected, hfilter]
  constructor
  · exact hsame.trans
  · intro hrejected hopen
    rw [IsOpen, writeWith_rejected (hsame.symm.trans hrejected)]
    rcases hopen with hcreated | hactive
    · exact .inr (if_pos hcreated)
    · exact .inr (by rw [hactive]; rfl)
  · intro hstopped
    by_cases hrejected : tape.rejected cfg = true
    · rw [writeWith_rejected hrejected, hstopped]
      rfl
    · rw [CapturedTape.writeWith, if_neg hrejected, writeChunksWith_stopped hstopped]
      exact finishWriteWith_stopped closes (.inr hstopped)

end CapturedTape

namespace Recorder

open CapturedTape (Carries IsOpen)

variable {cfg : PortConfig} {s s' : Recorder}

/-! ### Runs of a port -/

/-- A call at a time, where a call of `Write` may meet failures. -/
inductive DiskStep (cfg : PortConfig) : Recorder → Int × Call → Recorder → Prop
  | call {s s' : Recorder} {label : Int × Call} : Step cfg s label s' → DiskStep cfg s label s'
  | write (s : Recorder) (now : Int) (r : Nat) (outcomes : List ChunkOutcome) (closes : Bool) :
      r < s.numTapes → DiskStep cfg s (now, .write r)
        (s.modifyTape r fun tape => tape.writeWith cfg outcomes closes)

theorem DiskStep.of_write {now : Int} {r : Nat} (hr : r < s.numTapes)
    (hstep : DiskStep cfg s (now, .write r) s') :
    ∃ outcomes closes, s' = s.modifyTape r fun tape => tape.writeWith cfg outcomes closes := by
  cases hstep with
  | call hcall =>
      cases hcall
      refine ⟨[], true, ?_⟩
      simp only [enter, actions, perform, List.foldl_cons, List.foldl_nil, act, if_pos hr,
        CapturedTape.write_eq_writeWith]
  | write _ _ outcomes closes _ => exact ⟨outcomes, closes, rfl⟩

/-- The tape of the port exists, and tapes that are rejected are open. -/
structure Sound (cfg : PortConfig) (s : Recorder) : Prop where
  current : ∀ r, s.port.audioTapeRef = some r → r < s.numTapes
  isOpen : ∀ r, (s.tapes r).rejected cfg = true → (s.tapes r).IsOpen

/-- What happens to the tapes that there are. -/
structure Continues (cfg : PortConfig) (s s' : Recorder) : Prop where
  numTapes : s.numTapes ≤ s'.numTapes
  carries : ∀ r < s.numTapes, Carries cfg (s.tapes r) (s'.tapes r)
  sound : Sound cfg s → Sound cfg s'

namespace Continues

theorem refl (s : Recorder) : Continues cfg s s :=
  ⟨le_rfl, fun _ _ => .refl _, id⟩

theorem trans {s'' : Recorder} (first : Continues cfg s s') (second : Continues cfg s' s'') :
    Continues cfg s s'' where
  numTapes := first.numTapes.trans second.numTapes
  carries r hr := (first.carries r hr).trans (second.carries r (hr.trans_le first.numTapes))
  sound := second.sound ∘ first.sound

/-- Some tapes change, none comes, and the port keeps its tape or gives it up. -/
theorem of_tapes (hnumTapes : s'.numTapes = s.numTapes)
    (hcurrent : ∀ r, s'.port.audioTapeRef = some r → s.port.audioTapeRef = some r)
    (hcarries : ∀ r, Carries cfg (s.tapes r) (s'.tapes r)) : Continues cfg s s' where
  numTapes := hnumTapes.ge
  carries r _ := hcarries r
  sound sound := by
    constructor
    · intro r hr
      rw [hnumTapes]
      exact sound.current r (hcurrent r hr)
    · intro r hrejected
      refine (hcarries r).isOpen hrejected (sound.isOpen r ?_)
      by_contra hpassed
      rw [(hcarries r).passed (Bool.not_eq_true _ ▸ hpassed)] at hrejected
      cases hrejected

/-- One tape changes. -/
theorem of_update {r : Nat} {tape : CapturedTape} (hnumTapes : s'.numTapes = s.numTapes)
    (hcurrent : s'.port.audioTapeRef = s.port.audioTapeRef)
    (htapes : s'.tapes = Function.update s.tapes r tape) (htape : Carries cfg (s.tapes r) tape) :
    Continues cfg s s' := by
  apply of_tapes hnumTapes
  · intro i hi
    exact hcurrent.symm.trans hi
  · intro i
    rw [htapes]
    by_cases hi : i = r
    · subst hi
      rw [Function.update_self]
      exact htape
    · rw [Function.update_of_ne hi]
      exact .refl _

theorem modifyTape (s : Recorder) (r : Nat) {f : CapturedTape → CapturedTape}
    (hf : Carries cfg (s.tapes r) (f (s.tapes r))) : Continues cfg s (s.modifyTape r f) :=
  of_update rfl rfl rfl hf

theorem report (cfg : PortConfig) (s : Recorder) (r : Nat) (site : CallSite) :
    Continues cfg s (s.report cfg r site) :=
  of_update rfl rfl rfl (.getMessage cfg _)

theorem setPort (s : Recorder) (port : CapturePort)
    (hcurrent : port.audioTapeRef = s.port.audioTapeRef) :
    Continues cfg s { s with port } :=
  of_tapes rfl (fun _ hr => hcurrent.symm.trans hr) fun _ => .refl _

/-- A tape that comes is open. -/
theorem setTape (s : Recorder) {tape : CapturedTape} (hopen : tape.IsOpen) :
    Continues cfg s (s.setTape tape) := by
  have hnew : (s.setTape tape).tapes s.numTapes = tape := Function.update_self ..
  have hold {r : Nat} (hr : r ≠ s.numTapes) : (s.setTape tape).tapes r = s.tapes r :=
    Function.update_of_ne hr ..
  constructor
  · exact Nat.le_succ _
  · intro r hr
    rw [hold (Nat.ne_of_lt hr)]
    exact .refl _
  · intro sound
    constructor
    · intro r hr
      rw [← Option.some.inj hr]
      exact Nat.lt_succ_self _
    · intro r hrejected
      by_cases hr : r = s.numTapes
      · rw [hr, hnew]
        exact hopen
      · rw [hold hr] at hrejected ⊢
        exact sound.isOpen r hrejected

theorem handleEvent (cfg : PortConfig) (now : Int) (s : Recorder) (r : Nat)
    (event : CaptureEvent) : Continues cfg s (s.handleEvent cfg now r event) := by
  have hadd (s : Recorder) (send : Bool) :
      Continues cfg s (s.modifyTape r fun tape => tape.addCaptureEvent cfg event send) :=
    modifyTape s r (.addCaptureEvent cfg _ event send)
  unfold Recorder.handleEvent
  split
  · exact refl s
  · -- a stop event: the tag, the event itself, its message, and the hand-over
    have hcapturing : Continues cfg s { s with port := { s.port with capturing := false } } :=
      setPort s _ rfl
    apply hcapturing.trans
    have htag : Continues cfg _ _ :=
      modifyTape { s with port := { s.port with capturing := false } } r
      (f := fun tape => if cfg.holdResumeReportDuration then
        tape.populateTag "holdduration" (toString tape.holdDuration) else tape)
      (by split <;> exact .of_state rfl id)
    apply htag.trans
    apply (hadd _ true).trans
    apply (report cfg _ r .stop).trans
    exact of_tapes rfl (fun _ => id) fun _ => .refl _
  · dsimp only
    split
    · have hheld : Continues cfg s _ := modifyTape s r
        (f := fun tape => { tape with lastHoldTs := longToInt now }) (.of_state rfl id)
      split
      · exact hheld.trans ((hadd _ true).trans (report cfg _ r _))
      · exact hheld
    · exact refl s
  · have hduration : Continues cfg s _ := modifyTape s r (f := fun tape =>
      if tape.lastHoldTs > 0 then
        { tape with holdDuration := longToInt (tape.holdDuration + (now - tape.lastHoldTs)) }
      else tape) (by split <;> exact .of_state rfl id)
    have hreset (s : Recorder) : Continues cfg s
        (s.modifyTape r fun tape => { tape with lastHoldTs := 0 }) :=
      modifyTape s r (.of_state rfl id)
    dsimp only
    apply hduration.trans
    split
    · exact ((hadd _ true).trans (report cfg _ r _)).trans (hreset _)
    · exact hreset _
  · exact (report cfg s r _).trans (setPort _ _ rfl)
  · exact (hadd s true).trans (report cfg _ r _)
  · exact hadd s false

theorem startCapture (cfg : PortConfig) (now : Int) (s : Recorder) {event : CaptureEvent}
    (hstart : event.type = .etStart) : Continues cfg s (s.startCapture cfg now event) := by
  have hopen (id : String) : ((CapturedTape.new cfg id now).addCaptureEvent cfg event true).IsOpen := by
    left
    unfold CapturedTape.addCaptureEvent
    rw [CapturedTape.storeTag_toAudioTape, CapturedTape.recordEvent, hstart]
    rfl
  have hcapturing : Continues cfg s { s with port := { s.port with capturing := true } } :=
    setPort s _ rfl
  unfold Recorder.startCapture
  dsimp only
  split
  · rename_i r _
    have hflag : Continues cfg _ _ :=
      modifyTape { s with port := { s.port with capturing := true } } r
      (f := fun tape => { tape with shouldStop := true }) (.of_state rfl id)
    exact (hcapturing.trans hflag).trans (setTape _ (hopen _))
  · exact hcapturing.trans (setTape _ (hopen _))

theorem addCaptureEvent (cfg : PortConfig) (now : Int) (s : Recorder) (event : CaptureEvent) :
    Continues cfg s (s.addCaptureEvent cfg now event) := by
  have hupdated : Continues cfg s { s with port := { s.port with lastUpdated := now } } :=
    setPort s _ rfl
  unfold Recorder.addCaptureEvent
  dsimp only
  by_cases hstart : event.type = .etStart
  · have hstarted := hupdated.trans (startCapture cfg now _ hstart)
    rw [if_pos hstart]
    split
    · exact hstarted.trans (handleEvent cfg now _ _ event)
    · exact hstarted
  · rw [if_neg hstart]
    split
    · exact hupdated.trans (handleEvent cfg now _ _ event)
    · exact hupdated

theorem deliver (cfg : PortConfig) (s : Recorder) (chunk : AudioChunk) :
    Continues cfg s (s.deliver cfg chunk) := by
  unfold Recorder.deliver
  split
  · split
    · exact of_update rfl rfl rfl (.addAudioChunk cfg _ chunk)
    · exact refl s
  · exact refl s

theorem act (cfg : PortConfig) (now : Int) (s : Recorder) (a : Action) :
    Continues cfg s (s.act cfg now a) := by
  cases a with
  | addCaptureEvent event => exact addCaptureEvent cfg now s event
  | newTape => exact setTape s (.inl rfl)
  | resetTape =>
      refine of_tapes rfl ?_ fun _ => .refl _
      intro r hr
      cases hr
  | deliver chunk => exact deliver cfg s chunk
  | lastMessage =>
      simp only [Recorder.act]
      split
      · exact (report cfg s _ _).trans (setPort _ _ rfl)
      · exact refl s
  | write r =>
      simp only [Recorder.act]
      split
      · apply modifyTape
        rw [CapturedTape.write_eq_writeWith]
        exact .writeWith cfg _ _ _
      · exact refl s
  | report r =>
      simp only [Recorder.act]
      split
      · exact report cfg s r _
      · exact refl s
  | reportOther tape => exact of_tapes rfl (fun _ => id) fun _ => .refl _

theorem perform (cfg : PortConfig) (now : Int) (s : Recorder) (actions : List Action) :
    Continues cfg s (s.perform cfg now actions) := by
  induction actions generalizing s with
  | nil => exact refl s
  | cons a actions ih => exact (act cfg now s a).trans (ih _)

theorem step {label : Int × Call} (hstep : DiskStep cfg s label s') : Continues cfg s s' := by
  cases hstep with
  | call hcall =>
      cases hcall with
      | call now call =>
          have hentered : Continues cfg s (s.enter cfg now call) :=
            setPort s _ (Keeps.enter cfg now s call).current
          exact hentered.trans (perform cfg now _ _)
  | write _ _ outcomes closes _ => exact modifyTape s _ (.writeWith cfg _ outcomes closes)

theorem run {labels : List (Int × Call)} (hrun : Steps (DiskStep cfg) s labels s') :
    Continues cfg s s' := by
  induction hrun with
  | nil s => exact refl s
  | cons hstep _ ih => exact (step hstep).trans ih

end Continues

theorem fresh_sound (cfg : PortConfig) (id : String) : Sound cfg (fresh cfg id) where
  current r hr := by cases hr
  isOpen _ _ := .inl rfl

/-! ### The ports -/

/-- `CapturePort::IsExpired`. -/
def isExpired (s : Recorder) (now : Int) : Bool :=
  if now - s.port.lastUpdated > 10 * 60 then
    match s.port.audioTapeRef with
    | some r => decide ((s.tapes r).state ≠ .active)
    | none => true
  else false

/-- `CapturePort::Finalize`. -/
def finalize (cfg : PortConfig) (now : Int) (s : Recorder) : Recorder :=
  (s.enter cfg now .finalize).perform cfg now (s.actions cfg now .finalize).2

end Recorder

/-- `CapturePorts`: each port is under its own id. `dismissed` are the ports that were let go
of, finalized; nothing reads them back. -/
structure CapturePorts where
  ports : OrderedMap String Recorder := .empty
  keyed : ∀ entry ∈ ports.entries, entry.2.port.id = entry.1
  lastHooveringTime : Int
  dismissed : List Recorder := []

namespace CapturePorts

variable (cfg : PortConfig) (now : Int)

/-- The ports that `Hoover` goes round and finds inactive. -/
def toDismiss (st : CapturePorts) : List Recorder :=
  (st.ports.entries.map Prod.snd).filter fun port => port.isExpired now

def eraseAll (ports : OrderedMap String Recorder) (ids : List String) :
    OrderedMap String Recorder :=
  ids.foldl (fun ports id => ports.erase id) ports

theorem mem_eraseAll {ports : OrderedMap String Recorder} {ids : List String}
    {entry : String × Recorder} :
    entry ∈ (eraseAll ports ids).entries ↔ entry ∈ ports.entries ∧ entry.1 ∉ ids := by
  induction ids generalizing ports with
  | nil => simp [eraseAll]
  | cons id ids ih =>
      have hrest : entry ∈ (eraseAll (ports.erase id) ids).entries ↔ _ := ih
      rw [OrderedMap.mem_erase, and_assoc] at hrest
      rw [List.mem_cons, not_or]
      exact hrest

/-- `CapturePorts::Hoover`. -/
def hoover (st : CapturePorts) : CapturePorts :=
  if now - st.lastHooveringTime > 10 then
    { ports := eraseAll st.ports ((st.toDismiss now).map fun port => port.port.id)
      keyed := fun entry hentry => st.keyed entry (mem_eraseAll.mp hentry).1
      lastHooveringTime := now
      dismissed := st.dismissed ++ (st.toDismiss now).map fun port => port.finalize cfg now }
  else st

/-- `CapturePorts::GetPort`. -/
def getPort (st : CapturePorts) (portId : String) : Option Recorder × CapturePorts :=
  ((st.hoover cfg now).ports.find? portId, st.hoover cfg now)

/-- When it goes round, `Hoover` removes a port exactly if it is expired. -/
theorem hoover_removes_iff {st : CapturePorts} {portId : String} {port : Recorder}
    (hport : st.ports.find? portId = some port) (hround : now - st.lastHooveringTime > 10) :
    (st.getPort cfg now portId).1 = none ↔ port.isExpired now = true := by
  have hmem := OrderedMap.find?_eq_some.mp hport
  have hid : port.port.id = portId := st.keyed _ hmem
  rw [getPort, hoover, if_pos hround, OrderedMap.find?_eq_none]
  constructor
  · intro hnone
    by_contra hkept
    refine hnone (portId, port) (mem_eraseAll.mpr ⟨hmem, ?_⟩) rfl
    intro hdismissed
    obtain ⟨other, hother, heq⟩ := List.mem_map.mp hdismissed
    obtain ⟨hentry, hexpired⟩ := List.mem_filter.mp hother
    obtain ⟨entry, hmem', rfl⟩ := List.mem_map.mp hentry
    have hkey : entry.1 = portId := (st.keyed entry hmem').symm.trans heq
    have hsame : st.ports.find? portId = some entry.2 :=
      OrderedMap.find?_eq_some.mpr (hkey ▸ hmem')
    rw [← Option.some.inj (hport.symm.trans hsame)] at hexpired
    exact hkept hexpired
  · intro hexpired entry hentry hkey
    refine (mem_eraseAll.mp hentry).2 (List.mem_map.mpr ⟨port, ?_, hid.trans hkey.symm⟩)
    exact List.mem_filter.mpr ⟨List.mem_map.mpr ⟨_, hmem, rfl⟩, hexpired⟩

end CapturePorts

namespace Recorder

variable {cfg : PortConfig} {id : String} {before : List (Int × Call)} {s₁ s₂ : Recorder}
  {writeTime : Int} {r : Nat}

/-- From 10 minutes after its last activity on the port is expired, and the next round of
`Hoover` removes it. -/
def Expires (cfg : PortConfig) (s : Recorder) : Prop :=
  ∀ now, now - s.port.lastUpdated > 10 * 60 →
    s.isExpired now = true ∧ ∀ (st : CapturePorts) (portId : String),
      st.ports.find? portId = some s → now - st.lastHooveringTime > 10 →
        (st.getPort cfg now portId).1 = none

theorem expires_of_state {s : Recorder} (hlast : s.port.audioTapeRef = some r)
    (hstate : (s.tapes r).state ≠ .active) : Expires cfg s := by
  intro now hidle
  have hexpired : s.isExpired now = true := by
    rw [isExpired, if_pos hidle, hlast]
    exact decide_eq_true hstate
  exact ⟨hexpired, fun st portId hport hround =>
    (CapturePorts.hoover_removes_iff cfg now hport hround).mpr hexpired⟩

theorem isExpired_of_active {s : Recorder} (hlast : s.port.audioTapeRef = some r)
    (hactive : (s.tapes r).state = .active) (now : Int) : s.isExpired now = false := by
  rw [isExpired]
  split
  · rw [hlast]
    exact decide_eq_false (not_not_intro hactive)
  · rfl

/-- A port whose last tape should stop and is then written with an empty queue expires,
whatever comes after that, exactly if the party filter does not reject the tape when it is
written. -/
theorem expires_iff (run : Steps (DiskStep cfg) (fresh cfg id) before s₁)
    (hlast : s₁.port.audioTapeRef = some r) (hstop : (s₁.tapes r).shouldStop = true)
    (hempty : (s₁.tapes r).chunkQueue = [])
    (hwrite : DiskStep cfg s₁ (writeTime, .write r) s₂) :
    (∀ after s₃, Steps (DiskStep cfg) s₂ after s₃ → s₃.port.audioTapeRef = some r →
        Expires cfg s₃) ↔
      (s₁.tapes r).rejected cfg = false := by
  have sound : Sound cfg s₁ := (Continues.run run).sound (fresh_sound cfg id)
  have hr : r < s₁.numTapes := sound.current r hlast
  obtain ⟨outcomes, closes, rfl⟩ := hwrite.of_write hr
  constructor
  · intro hexpires
    by_contra hpassed
    have hrejected := eq_true_of_ne_false hpassed
    have hactive : ((s₁.modifyTape r fun tape =>
        tape.writeWith cfg outcomes closes).tapes r).state = .active := by
      rw [modifyTape_tapes_self, CapturedTape.writeWith_rejected hrejected]
      rcases sound.isOpen r hrejected with hcreated | hactive
      · exact if_pos hcreated
      · rw [hactive]
        rfl
    have hidle : s₁.port.lastUpdated + 601 - s₁.port.lastUpdated > 10 * 60 := by omega
    have hexpired := (hexpires [] _ (.nil _) hlast _ hidle).1
    rw [isExpired_of_active (by exact hlast) hactive] at hexpired
    cases hexpired
  · intro hpassed after s₃ hafter hlast₃
    have hstopped := CapturedTape.writeWith_passed hpassed hstop hempty outcomes closes
    have hkept : (s₃.tapes r).state = .stopped := by
      apply ((Continues.run hafter).carries r hr).stopped
      rw [modifyTape_tapes_self]
      exact hstopped
    apply expires_of_state hlast₃
    rw [hkept]
    decide

/-- A tape that the party filter lets pass. -/
theorem expires_passed :
    ∃ s, Steps (DiskStep { partyFilter := ["100"] }) (fresh { partyFilter := ["100"] } "p")
        [(1, .addCaptureEvent { type := .etStart }),
          (1, .addCaptureEvent { type := .etLocalParty, value := "100" }),
          (9, .addCaptureEvent { type := .etStop }), (9, .write 0)] s ∧
      s.port.audioTapeRef = some 0 ∧ Expires { partyFilter := ["100"] } s := by
  obtain ⟨s₁, hs₁, hlast, hstop, hempty, hpassed⟩ : ∃ s₁,
      Steps (DiskStep { partyFilter := ["100"] }) (fresh { partyFilter := ["100"] } "p")
        [(1, .addCaptureEvent { type := .etStart }),
          (1, .addCaptureEvent { type := .etLocalParty, value := "100" }),
          (9, .addCaptureEvent { type := .etStop })] s₁ ∧
      s₁.port.audioTapeRef = some 0 ∧ (s₁.tapes 0).shouldStop = true ∧
      (s₁.tapes 0).chunkQueue = [] ∧
      (s₁.tapes 0).rejected { partyFilter := ["100"] } = false := by
    refine ⟨_, .cons (.call (.call _ _ _)) (.cons (.call (.call _ _ _))
      (.cons (.call (.call _ _ _)) (.nil _))), ?_, ?_, ?_, ?_⟩
    all_goals rfl
  have hr : 0 < s₁.numTapes :=
    ((Continues.run hs₁).sound (fresh_sound _ "p")).current 0 hlast
  have hwrite : DiskStep { partyFilter := ["100"] } s₁ _ _ := .write s₁ 9 0 [] true hr
  have hexpires := (expires_iff hs₁ hlast hstop hempty hwrite).mpr hpassed
  exact ⟨_, hs₁.append (.cons hwrite (.nil _)), hlast, hexpires [] _ (.nil _) hlast⟩

/-- A tape that the party filter rejects stays active, and its port is never expired. -/
theorem rejected_never_expires :
    ∃ s, Steps (DiskStep { partyFilter := ["100"] }) (fresh { partyFilter := ["100"] } "p")
        [(1, .addCaptureEvent { type := .etStart }), (9, .addCaptureEvent { type := .etStop })] s ∧
      s.port.audioTapeRef = some 0 ∧ (s.tapes 0).shouldStop = true ∧
      (s.tapes 0).chunkQueue = [] ∧
      ∃ s', DiskStep { partyFilter := ["100"] } s (9, .write 0) s' ∧
        s'.port.audioTapeRef = some 0 ∧ s'.port.lastUpdated = 9 ∧
        ∀ now, s'.isExpired now = false := by
  refine ⟨_, .cons (.call (.call _ _ _)) (.cons (.call (.call _ _ _)) (.nil _)), rfl, rfl, rfl,
    _, .call (.call _ _ _), rfl, rfl, ?_⟩
  exact isExpired_of_active rfl rfl

end Recorder

end OrkAudio
