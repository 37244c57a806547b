import OrkAudio.CapturePort.Finalised
import OrkAudio.CapturePort.Reported

/-! The stages of the messages about one tape.

`GetMessage` takes its stage from the front of a queue. A start event only enters the
queue, an end of metadata only leaves it; every other reported event does both. The stages
are right as long as each event that leaves the queue meets the one it put there. -/

namespace OrkAudio

open Lib

/-! ### The queue of a tape -/

namespace CapturedTape

variable (cfg : PortConfig) (tape : CapturedTape)

/-- The types of the events that are still to be reported. -/
def pending : List EventType := tape.toSendEventQueue.map CaptureEvent.type

/-- The stage of a message made with the queue empty. -/
def idleStage : String :=
  if tape.fromProcessMcf || tape.isExternal || tape.bytesWritten > 0 then "ready" else ""

/-- The stage of the next message. -/
def nextStage : String :=
  match tape.pending with
  | [] => tape.idleStage
  | type :: _ => if hasStage type then eventTypeToString type else ""

/-- Without a party filter a message takes its stage from the front of the queue. -/
theorem getMessage_stage (hfilter : cfg.partyFilter = []) :
    (tape.getMessage cfg).1.map TapeMsg.stage = some tape.nextStage := by
  have hpassed (tape : CapturedTape) : tape.rejected cfg = false := by
    simp [rejected, PortConfig.partyFilterActive, hfilter]
  unfold getMessage nextStage pending idleStage
  rw [if_neg (by rw [hpassed]; exact Bool.false_ne_true)]
  cases hqueue : tape.toSendEventQueue with
  | nil =>
      dsimp only [List.map_nil]
      split <;> simp [populateTapeMessage, hpassed, eventTypeToString]
  | cons event rest =>
      dsimp only [List.map_cons]
      split <;> simp [populateTapeMessage, *]

theorem getMessage_queue (hfilter : cfg.partyFilter = []) :
    (tape.getMessage cfg).2.pending = tape.pending.tail ∧
      (tape.getMessage cfg).2.lastHoldTs = tape.lastHoldTs := by
  have hpassed : tape.rejected cfg = false := by
    simp [rejected, PortConfig.partyFilterActive, hfilter]
  unfold getMessage pending
  rw [if_neg (by rw [hpassed]; exact Bool.false_ne_true)]
  cases hqueue : tape.toSendEventQueue with
  | nil =>
      dsimp only
      split <;> simp [hqueue]
  | cons event rest =>
      dsimp only
      split <;> simp

@[simp] theorem recordEvent_queue (event : CaptureEvent) :
    (tape.recordEvent cfg event).toSendEventQueue = tape.toSendEventQueue ∧
      (tape.recordEvent cfg event).lastHoldTs = tape.lastHoldTs := by
  unfold recordEvent testParty
  cases event.type <;> dsimp only <;> try split_ifs
  all_goals exact ⟨rfl, rfl⟩

@[simp] theorem storeTag_queue (event : CaptureEvent) :
    (tape.storeTag cfg event).toSendEventQueue = tape.toSendEventQueue ∧
      (tape.storeTag cfg event).lastHoldTs = tape.lastHoldTs := by
  unfold storeTag
  split_ifs <;> exact ⟨rfl, rfl⟩

theorem addCaptureEvent_queue (event : CaptureEvent) (send : Bool) :
    (tape.addCaptureEvent cfg event send).pending =
        tape.pending ++ (if send then [event.type] else []) ∧
      (tape.addCaptureEvent cfg event send).lastHoldTs = tape.lastHoldTs := by
  unfold addCaptureEvent pending
  cases send <;> simp

theorem addAudioChunk_queue (chunk : AudioChunk) :
    (tape.addAudioChunk cfg chunk).pending = tape.pending ∧
      (tape.addAudioChunk cfg chunk).lastHoldTs = tape.lastHoldTs := by
  unfold addAudioChunk
  split <;> exact ⟨rfl, rfl⟩

theorem writeChunk_queue (chunk : AudioChunk) :
    (tape.writeChunk cfg chunk).pending = tape.pending ∧
      (tape.writeChunk cfg chunk).lastHoldTs = tape.lastHoldTs := by
  unfold writeChunk pending
  by_cases hcreated : tape.state = .created
  · simp only [if_pos hcreated, and_self]
  · simp only [if_neg hcreated, and_self]

theorem writeChunks_queue (chunks : List AudioChunk) :
    (writeChunks cfg chunks tape).pending = tape.pending ∧
      (writeChunks cfg chunks tape).lastHoldTs = tape.lastHoldTs := by
  induction chunks generalizing tape with
  | nil => exact ⟨rfl, rfl⟩
  | cons chunk rest ih =>
      unfold writeChunks
      split
      · exact ⟨rfl, rfl⟩
      · obtain ⟨hpending, hheld⟩ := ih (writeChunk cfg { tape with
          toAudioTape := tape.toAudioTape.popChunk.2 } chunk)
        obtain ⟨hpending', hheld'⟩ := writeChunk_queue cfg { tape with
          toAudioTape := tape.toAudioTape.popChunk.2 } chunk
        exact ⟨hpending.trans hpending', hheld.trans hheld'⟩

theorem write_queue :
    (tape.write cfg).pending = tape.pending ∧
      (tape.write cfg).lastHoldTs = tape.lastHoldTs := by
  unfold write
  split
  · exact ⟨rfl, rfl⟩
  · exact writeChunks_queue cfg tape _

theorem nextStage_idle (hempty : tape.pending = []) :
    tape.nextStage = "ready" ∨ tape.nextStage = "" := by
  simp only [nextStage, hempty, idleStage]
  split
  · exact .inl rfl
  · exact .inr rfl

theorem nextStage_cons {type : EventType} {rest : List EventType}
    (hpending : tape.pending = type :: rest) (hstage : hasStage type = true) :
    tape.nextStage = eventTypeToString type := by
  simp only [nextStage, hpending, hstage, if_true]

end CapturedTape

namespace Recorder

variable {cfg : PortConfig} {now : Int} {s s' : Recorder} {r : Nat} {announced : Bool}

/-- The stage that a message should have, by the event that causes it. -/
def expectedStage : CallSite → String
  | .endMetadata => "start"
  | .update => "update"
  | .hold => "hold"
  | .resume => "resume"
  | .stop => "stop"
  | .finalize => "stop"
  | .addAudioTape => "ready"

def Matches (report : Report) : Prop :=
  report.message.map TapeMsg.stage = some (expectedStage report.site)

/-- Whether the start message of the tape has been made, after one more event; none where the
event would make a message with a stage that is not its own. -/
def announce (cfg : PortConfig) (announced : Bool) : EventType → Option Bool
  | .etEndMetadata => if announced then none else some true
  | .etUpdate => if announced then some true else none
  | .etHold => if announced || !cfg.holdResumeReportEvents then some announced else none
  | _ => some announced

/-- The queue holds the start event until it is announced, and nothing after that. -/
structure Tracked (cfg : PortConfig) (r : Nat) (announced : Bool) (s : Recorder) : Prop where
  current : s.port.audioTapeRef = some r
  exists_tape : r < s.numTapes
  pending : (s.tapes r).pending = if announced then [] else [.etStart]
  needSendStop : announced = true → s.port.needSendStop = true
  notHeld : announced = false → cfg.holdResumeReportEvents = true → (s.tapes r).lastHoldTs = 0

/-- The reports that were added, and whether all of them match. -/
def Adds (s s' : Recorder) (matching : Prop) : Prop :=
  ∃ new, s'.reports = s.reports ++ new ∧ ((∀ report ∈ new, Matches report) ↔ matching)

theorem Adds.none (hreports : s'.reports = s.reports) {matching : Prop} (hmatching : matching) :
    Adds s s' matching := by
  refine ⟨[], by rw [hreports, List.append_nil], ?_⟩
  simp [hmatching]

theorem Adds.trans {s'' : Recorder} {first second : Prop} (hfirst : Adds s s' first)
    (hsecond : Adds s' s'' second) : Adds s s'' (first ∧ second) := by
  obtain ⟨new, hnew, hiff⟩ := hfirst
  obtain ⟨new', hnew', hiff'⟩ := hsecond
  refine ⟨new ++ new', by rw [hnew', hnew, List.append_assoc], ?_⟩
  rw [List.forall_mem_append, hiff, hiff']

theorem report_adds (hfilter : cfg.partyFilter = []) (site : CallSite) :
    Adds s (s.report cfg r site) ((s.tapes r).nextStage = expectedStage site) := by
  refine ⟨_, rfl, ?_⟩
  rw [List.forall_mem_singleton, Matches, CapturedTape.getMessage_stage cfg _ hfilter,
    Option.some.injEq]

theorem report_queue (hfilter : cfg.partyFilter = []) (site : CallSite) :
    ((s.report cfg r site).tapes r).pending = (s.tapes r).pending.tail ∧
      ((s.report cfg r site).tapes r).lastHoldTs = (s.tapes r).lastHoldTs := by
  have hqueue := CapturedTape.getMessage_queue cfg (s.tapes r) hfilter
  simpa [Recorder.report] using hqueue

theorem modifyTape_tapes_of_ne (s : Recorder) (f : CapturedTape → CapturedTape) {i : Nat}
    (hi : i ≠ r) : (s.modifyTape r f).tapes i = s.tapes i :=
  Function.update_of_ne hi ..

/-! ### One event -/

theorem Tracked.modifyTape (tracked : Tracked cfg r announced s)
    {f : CapturedTape → CapturedTape} (hpending : (f (s.tapes r)).pending = (s.tapes r).pending)
    (hheld : announced = false → cfg.holdResumeReportEvents = true →
      (s.tapes r).lastHoldTs = 0 → (f (s.tapes r)).lastHoldTs = 0) :
    Tracked cfg r announced (s.modifyTape r f) where
  current := tracked.current
  exists_tape := tracked.exists_tape
  pending := by rw [modifyTape_tapes_self, hpending, tracked.pending]
  needSendStop := tracked.needSendStop
  notHeld hannounced hreport := by
    rw [modifyTape_tapes_self]
    exact hheld hannounced hreport (tracked.notHeld hannounced hreport)

/-- The events that enter the queue and leave it at once, other than a start event. -/
def Sends (type : EventType) (site : CallSite) : Prop :=
  CapturedTape.hasStage type = true ∧ expectedStage site = eventTypeToString type ∧
    expectedStage site ≠ "start"

instance (type : EventType) (site : CallSite) : Decidable (Sends type site) :=
  inferInstanceAs (Decidable (_ ∧ _ ∧ _))

/-- An event that enters the queue and leaves it gets its own stage where the queue was empty. -/
theorem send_adds (hfilter : cfg.partyFilter = []) (event : CaptureEvent) (site : CallSite)
    (sends : Sends event.type site)
    (hpending : (s.tapes r).pending = if announced then [] else [.etStart]) :
    Adds s ((s.modifyTape r fun tape => tape.addCaptureEvent cfg event true).report cfg r site)
      (announced = true) := by
  obtain ⟨hstage, hsite, hstart⟩ := sends
  obtain ⟨hqueue, -⟩ := CapturedTape.addCaptureEvent_queue cfg (s.tapes r) event true
  rw [hpending] at hqueue
  obtain ⟨new, hnew, hiff⟩ := report_adds (r := r)
    (s := s.modifyTape r fun tape => tape.addCaptureEvent cfg event true) hfilter site
  refine ⟨new, hnew, hiff.trans ?_⟩
  rw [modifyTape_tapes_self, hsite]
  cases announced with
  | true => simp [CapturedTape.nextStage_cons _ hqueue hstage]
  | false =>
      rw [CapturedTape.nextStage_cons _ hqueue rfl, ← hsite]
      simpa [eventTypeToString] using hstart.symm

theorem Tracked.report (hfilter : cfg.partyFilter = []) (tracked : Tracked cfg r true s)
    (site : CallSite) : Tracked cfg r true (s.report cfg r site) where
  current := tracked.current
  exists_tape := tracked.exists_tape
  pending := by
    rw [(report_queue hfilter site).1, tracked.pending]
    rfl
  needSendStop := tracked.needSendStop
  notHeld h := by cases h

theorem Tracked.send (hfilter : cfg.partyFilter = []) (tracked : Tracked cfg r true s)
    (event : CaptureEvent) (site : CallSite) :
    Tracked cfg r true
      ((s.modifyTape r fun tape => tape.addCaptureEvent cfg event true).report cfg r site) where
  current := tracked.current
  exists_tape := tracked.exists_tape
  pending := by
    obtain ⟨hqueue, -⟩ := CapturedTape.addCaptureEvent_queue cfg (s.tapes r) event true
    rw [(report_queue hfilter site).1, modifyTape_tapes_self, hqueue, tracked.pending]
    rfl
  needSendStop := tracked.needSendStop
  notHeld h := by cases h

/-- One event: it keeps the queue tracked, or makes a message with a wrong stage. -/
def Follows (cfg : PortConfig) (r : Nat) (s s' : Recorder) : Option Bool → Prop
  | some announced => Adds s s' True ∧ Tracked cfg r announced s'
  | none => Adds s s' False

theorem Tracked.handleEvent (hfilter : cfg.partyFilter = [])
    (tracked : Tracked cfg r announced s) {event : CaptureEvent}
    (hstart : event.type ≠ .etStart) (hstop : event.type ≠ .etStop) :
    Follows cfg r s (s.handleEvent cfg now r event) (announce cfg announced event.type) := by
  unfold Recorder.handleEvent
  cases htype : event.type with
  | etStart => exact absurd htype hstart
  | etStop => exact absurd htype hstop
  | etEndMetadata =>
      have hadds := report_adds (s := s) (r := r) hfilter .endMetadata
      have hpending := tracked.pending
      cases announced with
      | true =>
          obtain ⟨new, hnew, hiff⟩ := hadds
          refine ⟨new, hnew, hiff.trans ?_⟩
          rcases CapturedTape.nextStage_idle (s.tapes r) hpending with hidle | hidle <;>
            simp [hidle, expectedStage]
      | false =>
          obtain ⟨new, hnew, hiff⟩ := hadds
          refine ⟨⟨new, hnew, hiff.trans ?_⟩, ?_⟩
          · simp [CapturedTape.nextStage_cons _ hpending rfl, expectedStage, eventTypeToString]
          · refine ⟨tracked.current, tracked.exists_tape, ?_, fun _ => rfl, fun h => by cases h⟩
            rw [(report_queue hfilter _).1, hpending]
            rfl
  | etUpdate =>
      have hadds := send_adds hfilter event .update
        (by rw [htype]; decide) tracked.pending
      cases announced with
      | true => exact ⟨by simpa using hadds, tracked.send hfilter event .update⟩
      | false => simpa [Follows, announce] using hadds
  | etHold =>
      -- the first hold event of a tape is always reported, when hold events are
      by_cases hreport : cfg.holdResumeReportEvents = true
      · have hsend (hpending : ((s.modifyTape r fun tape =>
            { tape with lastHoldTs := longToInt now }).tapes r).pending =
              if announced then [] else [.etStart]) :=
          send_adds hfilter event .hold (by rw [htype]; decide) hpending
        have hpending := tracked.pending
        cases announced with
        | true =>
            have held := tracked.modifyTape (f := fun tape =>
              { tape with lastHoldTs := longToInt now }) rfl fun h => by cases h
            simp only [announce, Bool.true_or, if_true, hreport]
            split
            · refine ⟨?_, held.send hfilter event .hold⟩
              obtain ⟨new, hnew, hiff⟩ := hsend held.pending
              exact ⟨new, hnew, by simpa using hiff⟩
            · exact ⟨Adds.none rfl trivial, tracked⟩
        | false =>
            obtain ⟨new, hnew, hiff⟩ := hsend (by rw [modifyTape_tapes_self]; exact hpending)
            simp only [announce, hreport, tracked.notHeld rfl hreport, if_true]
            exact ⟨new, hnew, by simpa using hiff⟩
      · have held := tracked.modifyTape (f := fun tape =>
          { tape with lastHoldTs := longToInt now }) rfl fun _ h => absurd h hreport
        have hannounce : announce cfg announced .etHold = some announced := by
          simp [announce, hreport]
        rw [hannounce]
        simp only [if_neg hreport]
        split
        · exact ⟨Adds.none rfl trivial, held⟩
        · exact ⟨Adds.none rfl trivial, tracked⟩
  | etResume =>
      have hduration (tape : CapturedTape) : (if tape.lastHoldTs > 0 then
          { tape with holdDuration := longToInt (tape.holdDuration + (now - tape.lastHoldTs)) }
        else tape).pending = tape.pending ∧ (if tape.lastHoldTs > 0 then
          { tape with holdDuration := longToInt (tape.holdDuration + (now - tape.lastHoldTs)) }
        else tape).lastHoldTs = tape.lastHoldTs := by
        split <;> exact ⟨rfl, rfl⟩
      have resumed := tracked.modifyTape (f := fun tape =>
        if tape.lastHoldTs > 0 then
          { tape with holdDuration := longToInt (tape.holdDuration + (now - tape.lastHoldTs)) }
        else tape) (hduration _).1 fun _ _ hold => (hduration _).2.trans hold
      dsimp only [announce]
      rw [modifyTape_tapes_self, (hduration _).2]
      by_cases hreport : cfg.holdResumeReportEvents = true ∧ (s.tapes r).lastHoldTs > 0
      · -- a tape that is held was announced before
        have hannounced : announced = true := by
          by_contra hnot
          have hzero := tracked.notHeld (Bool.eq_false_iff.mpr hnot) hreport.1
          omega
        subst hannounced
        rw [if_pos (by simpa using hreport)]
        refine ⟨?_, (resumed.send hfilter event .resume).modifyTape rfl fun h => by cases h⟩
        have hadds := send_adds hfilter event .resume
          (by rw [htype]; decide) resumed.pending
        obtain ⟨new, hnew, hiff⟩ := hadds
        exact ⟨new, hnew, by simpa using hiff⟩
      · rw [if_neg (by simpa using hreport)]
        exact ⟨Adds.none rfl trivial, resumed.modifyTape rfl fun _ _ _ => rfl⟩
  | _ =>
      obtain ⟨hqueue, hheld⟩ := CapturedTape.addCaptureEvent_queue cfg (s.tapes r) event false
      refine ⟨Adds.none rfl trivial, tracked.modifyTape ?_ ?_⟩
      · simpa using hqueue
      · intro _ _ hold
        rwa [hheld]

/-! ### A run of actions -/

/-- Actions one after the other, each at its own time. -/
def performTimed (cfg : PortConfig) (s : Recorder) (actions : List (Int × Action)) : Recorder :=
  actions.foldl (fun s a => s.act cfg a.1 a.2) s

/-- Chunks that come in and are written. -/
def Processes : Action → Prop
  | .deliver _ | .write _ => True
  | _ => False

/-- Processing, or an event of the call other than its start and its stop. -/
def Mixes : Action → Prop
  | .addCaptureEvent event => event.type ≠ .etStart ∧ event.type ≠ .etStop
  | a => Processes a

def eventType? : Action → Option EventType
  | .addCaptureEvent event => some event.type
  | _ => none

/-- The types of the events among the actions. -/
def eventTypes (actions : List (Int × Action)) : List EventType :=
  actions.filterMap fun a => eventType? a.2

theorem Adds.congr {p q : Prop} (adds : Adds s s' p) (hiff : p ↔ q) : Adds s s' q := by
  obtain ⟨new, hnew, hmatching⟩ := adds
  exact ⟨new, hnew, hmatching.trans hiff⟩

theorem Adds.act_false (adds : Adds s s' False) (cfg : PortConfig) (now : Int) (a : Action) :
    Adds s (s'.act cfg now a) False := by
  obtain ⟨new, hreports, -⟩ := act_reports cfg now s' a
  have hact : Adds s' (s'.act cfg now a) (∀ report ∈ new, Matches report) :=
    ⟨new, hreports, Iff.rfl⟩
  exact (adds.trans hact).congr (by simp)

theorem Adds.run_false (adds : Adds s s' False) (cfg : PortConfig)
    (actions : List (Int × Action)) : Adds s (s'.performTimed cfg actions) False := by
  induction actions generalizing s' with
  | nil => exact adds
  | cons a actions ih => exact ih (adds.act_false cfg a.1 a.2)

theorem Follows.trans {s₁ s₂ : Recorder} {outcome : Option Bool} (adds : Adds s s₁ True)
    (follows : Follows cfg r s₁ s₂ outcome) : Follows cfg r s s₂ outcome := by
  cases outcome with
  | none => simpa [Follows] using adds.trans follows
  | some announced => exact ⟨by simpa using adds.trans follows.1, follows.2⟩

theorem Adds.perform_false (adds : Adds s s' False) (cfg : PortConfig) (now : Int)
    (actions : List Action) : Adds s (s'.perform cfg now actions) False := by
  induction actions generalizing s' with
  | nil => exact adds
  | cons a actions ih => exact ih (adds.act_false cfg now a)

theorem Tracked.addCaptureEvent (hfilter : cfg.partyFilter = [])
    (tracked : Tracked cfg r announced s) (now : Int) {event : CaptureEvent}
    (hstart : event.type ≠ .etStart) (hstop : event.type ≠ .etStop) :
    Follows cfg r s (s.act cfg now (.addCaptureEvent event))
      (announce cfg announced event.type) := by
  have updated : Tracked cfg r announced { s with port := { s.port with lastUpdated := now } } :=
    ⟨tracked.current, tracked.exists_tape, tracked.pending, tracked.needSendStop,
      tracked.notHeld⟩
  have hhandled : s.addCaptureEvent cfg now event =
      ({ s with port := { s.port with lastUpdated := now } } : Recorder).handleEvent cfg now r
        event := by
    unfold Recorder.addCaptureEvent
    simp only [if_neg hstart]
    split
    · rename_i r' hr'
      obtain rfl := Option.some.inj (hr'.symm.trans tracked.current)
      rfl
    · rename_i hnone
      exact absurd (hnone.symm.trans tracked.current) (Option.some_ne_none r).symm
  rw [act, hhandled]
  exact Follows.trans (Adds.none rfl trivial) (updated.handleEvent hfilter hstart hstop)

/-- What processing leaves alone: the port, the reports and the queues of the tapes. -/
structure Undisturbed (s s' : Recorder) : Prop where
  port : s'.port = s.port
  numTapes : s'.numTapes = s.numTapes
  reports : s'.reports = s.reports
  pending : ∀ r, (s'.tapes r).pending = (s.tapes r).pending
  lastHoldTs : ∀ r, (s'.tapes r).lastHoldTs = (s.tapes r).lastHoldTs

theorem Undisturbed.refl (s : Recorder) : Undisturbed s s :=
  ⟨rfl, rfl, rfl, fun _ => rfl, fun _ => rfl⟩

theorem Undisturbed.modifyTape (s : Recorder) (r : Nat) {f : CapturedTape → CapturedTape}
    (hf : (f (s.tapes r)).pending = (s.tapes r).pending ∧
      (f (s.tapes r)).lastHoldTs = (s.tapes r).lastHoldTs) :
    Undisturbed s (s.modifyTape r f) where
  port := rfl
  numTapes := rfl
  reports := rfl
  pending i := by
    by_cases hi : i = r
    · rw [hi, modifyTape_tapes_self, hf.1]
    · rw [modifyTape_tapes_of_ne s f hi]
  lastHoldTs i := by
    by_cases hi : i = r
    · rw [hi, modifyTape_tapes_self, hf.2]
    · rw [modifyTape_tapes_of_ne s f hi]

theorem Undisturbed.process {a : Action} (processes : Processes a) :
    Undisturbed s (s.act cfg now a) := by
  cases a with
  | deliver chunk =>
      simp only [act, Recorder.deliver]
      split
      · rename_i r hr
        split
        · have added := Undisturbed.modifyTape s r
            (f := fun tape => tape.addAudioChunk cfg chunk)
            (CapturedTape.addAudioChunk_queue cfg (s.tapes r) chunk)
          exact ⟨rfl, rfl, rfl, added.pending, added.lastHoldTs⟩
        · exact .refl s
      · exact .refl s
  | write r =>
      simp only [act]
      split
      · exact .modifyTape s r (CapturedTape.write_queue cfg (s.tapes r))
      · exact .refl s
  | _ => exact processes.elim

theorem Undisturbed.trans {s'' : Recorder} (first : Undisturbed s s')
    (second : Undisturbed s' s'') : Undisturbed s s'' where
  port := second.port.trans first.port
  numTapes := second.numTapes.trans first.numTapes
  reports := second.reports.trans first.reports
  pending r := (second.pending r).trans (first.pending r)
  lastHoldTs r := (second.lastHoldTs r).trans (first.lastHoldTs r)

theorem Undisturbed.run {actions : List (Int × Action)}
    (processes : ∀ a ∈ actions, Processes a.2) : Undisturbed s (s.performTimed cfg actions) := by
  induction actions generalizing s with
  | nil => exact .refl s
  | cons a actions ih =>
      obtain ⟨hfirst, hrest⟩ := List.forall_mem_cons.mp processes
      exact (Undisturbed.process hfirst).trans (ih hrest)

theorem Tracked.undisturbed (tracked : Tracked cfg r announced s) (same : Undisturbed s s') :
    Tracked cfg r announced s' where
  current := by rw [same.port, tracked.current]
  exists_tape := by rw [same.numTapes]; exact tracked.exists_tape
  pending := by rw [same.pending, tracked.pending]
  needSendStop := by rw [same.port]; exact tracked.needSendStop
  notHeld := by rw [same.lastHoldTs]; exact tracked.notHeld

/-- The events of a run are announced one after the other. -/
theorem Tracked.run (hfilter : cfg.partyFilter = []) (tracked : Tracked cfg r announced s)
    {actions : List (Int × Action)} (hmixes : ∀ a ∈ actions, Mixes a.2) :
    Follows cfg r s (s.performTimed cfg actions)
      ((eventTypes actions).foldlM (announce cfg) announced) := by
  induction actions generalizing s announced with
  | nil => exact ⟨Adds.none rfl trivial, tracked⟩
  | cons a actions ih =>
      obtain ⟨now, a⟩ := a
      obtain ⟨hmix, hrest⟩ := List.forall_mem_cons.mp hmixes
      cases a with
      | addCaptureEvent event =>
          have follows := tracked.addCaptureEvent hfilter now hmix.1 hmix.2
          simp only [eventTypes, List.filterMap_cons, eventType?, List.foldlM_cons]
          cases houtcome : announce cfg announced event.type with
          | none =>
              rw [houtcome] at follows
              exact Adds.run_false follows cfg actions
          | some announced' =>
              rw [houtcome] at follows
              exact Follows.trans follows.1 (ih follows.2 hrest)
      | deliver chunk =>
          have same : Undisturbed s (s.act cfg now (.deliver chunk)) := .process hmix
          exact Follows.trans (Adds.none same.reports trivial) (ih (tracked.undisturbed same) hrest)
      | write r' =>
          have same : Undisturbed s (s.act cfg now (.write r')) := .process hmix
          exact Follows.trans (Adds.none same.reports trivial) (ih (tracked.undisturbed same) hrest)
      | _ => exact hmix.elim

/-! ### The order of the events -/

/-- The metadata ends once, before any update and any hold that is reported. -/
def InOrder (cfg : PortConfig) (types : List EventType) : Prop :=
  ∃ before after, types = before ++ .etEndMetadata :: after ∧
    (∀ type ∈ before, type ≠ .etEndMetadata ∧ type ≠ .etUpdate ∧
      (type = .etHold → cfg.holdResumeReportEvents = false)) ∧
    .etEndMetadata ∉ after

theorem announce_true {type : EventType} :
    announce cfg true type = if type = .etEndMetadata then none else some true := by
  cases type <;> rfl

theorem announce_false {type : EventType} (htype : type ≠ .etEndMetadata) :
    announce cfg false type =
      if type ≠ .etUpdate ∧ (type = .etHold → cfg.holdResumeReportEvents = false) then some false
      else none := by
  cases type <;> simp [announce] at htype ⊢

theorem announced_iff {types : List EventType} :
    types.foldlM (announce cfg) true = some true ↔ .etEndMetadata ∉ types := by
  induction types with
  | nil => simp
  | cons type types ih =>
      rw [List.foldlM_cons, announce_true, List.mem_cons, not_or]
      by_cases htype : type = .etEndMetadata
      · simp [htype]
      · simp [htype, Ne.symm htype, ih]

theorem inOrder_cons {type : EventType} {types : List EventType} (htype : type ≠ .etEndMetadata) :
    InOrder cfg (type :: types) ↔
      (type ≠ .etUpdate ∧ (type = .etHold → cfg.holdResumeReportEvents = false)) ∧
        InOrder cfg types := by
  constructor
  · rintro ⟨before, after, hsplit, hbefore, hafter⟩
    cases before with
    | nil => exact absurd (List.cons.inj hsplit).1 htype
    | cons first before =>
        obtain ⟨rfl, rfl⟩ := List.cons.inj hsplit
        obtain ⟨hfirst, hrest⟩ := List.forall_mem_cons.mp hbefore
        exact ⟨hfirst.2, before, after, rfl, hrest, hafter⟩
  · rintro ⟨hfirst, before, after, rfl, hbefore, hafter⟩
    refine ⟨type :: before, after, rfl, ?_, hafter⟩
    exact List.forall_mem_cons.mpr ⟨⟨htype, hfirst⟩, hbefore⟩

theorem inOrder_iff {types : List EventType} :
    types.foldlM (announce cfg) false = some true ↔ InOrder cfg types := by
  induction types with
  | nil =>
      refine iff_of_false (by simp) ?_
      rintro ⟨before, after, hsplit, -⟩
      simp at hsplit
  | cons type types ih =>
      rw [List.foldlM_cons]
      by_cases htype : type = .etEndMetadata
      · subst htype
        simp only [announce, Bool.false_eq_true, if_false, Option.bind_eq_bind, Option.bind_some]
        rw [announced_iff]
        constructor
        · intro hafter
          exact ⟨[], types, rfl, by simp, hafter⟩
        · rintro ⟨before, after, hsplit, hbefore, hafter⟩
          cases before with
          | nil => exact (List.cons.inj hsplit).2 ▸ hafter
          | cons first before =>
              obtain ⟨rfl, -⟩ := List.cons.inj hsplit
              exact absurd rfl (hbefore _ List.mem_cons_self).1
      · rw [announce_false htype, inOrder_cons htype, ← ih]
        split
        · rename_i hallowed
          rw [and_iff_right hallowed]
          rfl
        · rename_i hwrong
          simp only [Option.bind_eq_bind, Option.bind_none, reduceCtorEq, false_iff, not_and]
          intro hallowed
          exact absurd hallowed hwrong

/-! ### A tape from its start to its report -/

/-- How the capture of a tape ends: by a stop event or by `Finalize`. -/
inductive Ending
  | stop (event : CaptureEvent) (hstop : event.type = .etStop)
  | finalize

def Ending.actions (cfg : PortConfig) (now : Int) (s : Recorder) : Ending → List Action
  | .stop event _ => [.addCaptureEvent event]
  | .finalize => (s.actions cfg now .finalize).2

def Ending.IsStop : Ending → Prop
  | .stop .. => True
  | .finalize => False

/-- What happens for one tape: its start, its events and its audio, its end, and the writing
of what is left before it is reported. -/
structure Lifetime where
  startTime : Int
  start : CaptureEvent
  start_type : start.type = .etStart
  mix : List (Int × Action)
  mixes : ∀ a ∈ mix, Mixes a.2
  endTime : Int
  ending : Ending
  processing : List (Int × Action)
  processes : ∀ a ∈ processing, Processes a.2

namespace Lifetime

variable (cfg : PortConfig) (life : Lifetime) (s : Recorder)

def started : Recorder := s.act cfg life.startTime (.addCaptureEvent life.start)

def mixed : Recorder := (life.started cfg s).performTimed cfg life.mix

def ended : Recorder :=
  (life.mixed cfg s).perform cfg life.endTime
    (life.ending.actions cfg life.endTime (life.mixed cfg s))

def processed : Recorder := (life.ended cfg s).performTimed cfg life.processing

/-- After `Reporting::AddAudioTape`, for the tape that the start event made. -/
def reported : Recorder := (life.processed cfg s).act cfg life.endTime (.report s.numTapes)

end Lifetime

/-! #### The start -/

theorem startCapture_setTape (cfg : PortConfig) (now : Int) (s : Recorder) (event : CaptureEvent) :
    ∃ (before : Recorder) (tape : CapturedTape),
      s.startCapture cfg now event = before.setTape tape ∧
      (before.numTapes = s.numTapes ∧ before.reports = s.reports) ∧
      tape.pending = [event.type] ∧ tape.lastHoldTs = 0 := by
  have hqueue (id : String) := CapturedTape.addCaptureEvent_queue cfg (CapturedTape.new cfg id now)
    event true
  unfold startCapture
  dsimp only
  split
  · exact ⟨_, _, rfl, ⟨rfl, rfl⟩, hqueue _⟩
  · exact ⟨_, _, rfl, ⟨rfl, rfl⟩, hqueue _⟩

theorem addCaptureEvent_start (cfg : PortConfig) (now : Int) (s : Recorder) {event : CaptureEvent}
    (htype : event.type = .etStart) :
    s.addCaptureEvent cfg now event =
      ({ s with port := { s.port with lastUpdated := now } } : Recorder).startCapture cfg now
        event := by
  unfold Recorder.addCaptureEvent
  simp only [if_pos htype]
  split
  · rw [Recorder.handleEvent, htype]
  · rfl

theorem Tracked.start {event : CaptureEvent} (htype : event.type = .etStart) :
    Tracked cfg s.numTapes false (s.act cfg now (.addCaptureEvent event)) ∧
      (s.act cfg now (.addCaptureEvent event)).reports = s.reports := by
  obtain ⟨before, tape, hstarted, ⟨hnumTapes, hreports⟩, hpending, hheld⟩ :=
    startCapture_setTape cfg now { s with port := { s.port with lastUpdated := now } } event
  have hnew : (before.setTape tape).tapes s.numTapes = tape := by
    rw [← show before.numTapes = s.numTapes from hnumTapes]
    exact Function.update_self ..
  rw [act, addCaptureEvent_start cfg now s htype, hstarted]
  refine ⟨⟨congrArg some hnumTapes, ?_, ?_, fun h => Bool.noConfusion h, ?_⟩, hreports⟩
  · exact (Nat.lt_succ_self _).trans_eq (congrArg (· + 1) (Eq.symm hnumTapes))
  · rw [hnew, hpending, htype]
    rfl
  · intro _ _
    rw [hnew, hheld]

/-! #### The end -/

/-- The stop event gets its own stage exactly after the start message. -/
theorem Tracked.stop (hfilter : cfg.partyFilter = []) (tracked : Tracked cfg r announced s)
    (now : Int) {event : CaptureEvent} (htype : event.type = .etStop) :
    Adds s (s.act cfg now (.addCaptureEvent event)) (announced = true) ∧
      (s.act cfg now (.addCaptureEvent event)).port.audioTapeRef = some r ∧
      r < (s.act cfg now (.addCaptureEvent event)).numTapes ∧
      (announced = true → ((s.act cfg now (.addCaptureEvent event)).tapes r).pending = []) := by
  -- the state in which the event enters the queue
  let s₁ : Recorder := { s with port := { s.port with lastUpdated := now, capturing := false } }
  let s₂ := s₁.modifyTape r fun tape =>
    if cfg.holdResumeReportDuration then
      tape.populateTag "holdduration" (toString tape.holdDuration)
    else tape
  have hpending : (s₂.tapes r).pending = if announced then [] else [.etStart] := by
    rw [modifyTape_tapes_self, ← tracked.pending]
    split <;> rfl
  have hstopped : s.act cfg now (.addCaptureEvent event) =
      (let s₃ :=
        (s₂.modifyTape r fun tape => tape.addCaptureEvent cfg event true).report cfg r .stop
       ({ s₃ with port := { s₃.port with needSendStop := false } } : Recorder).handOver r) := by
    have hstart : event.type ≠ .etStart := by simp [htype]
    rw [act, Recorder.addCaptureEvent]
    simp only [if_neg hstart]
    split
    · rename_i r' hr'
      obtain rfl := Option.some.inj (hr'.symm.trans tracked.current)
      rw [Recorder.handleEvent, htype]
    · rename_i hnone
      exact absurd (hnone.symm.trans tracked.current) (Option.some_ne_none r).symm
  rw [hstopped]
  obtain ⟨new, hnew, hiff⟩ := send_adds hfilter event .stop
    (by rw [htype]; decide) hpending
  refine ⟨⟨new, hnew, hiff⟩, tracked.current, tracked.exists_tape, ?_⟩
  intro hannounced
  obtain ⟨hqueue, -⟩ := CapturedTape.addCaptureEvent_queue cfg (s₂.tapes r) event true
  have hleft := (report_queue (r := r)
    (s := s₂.modifyTape r fun tape => tape.addCaptureEvent cfg event true) hfilter .stop).1
  rw [modifyTape_tapes_self, hqueue, hpending, hannounced] at hleft
  exact hleft

/-- With nothing left to report, the last message is not a stop message. -/
theorem lastMessage_adds (hfilter : cfg.partyFilter = []) (hcurrent : s.port.audioTapeRef = some r)
    (hempty : (s.tapes r).pending = []) : Adds s (s.act cfg now .lastMessage) False := by
  obtain ⟨new, hnew, hiff⟩ := report_adds (s := s) (r := r) hfilter .finalize
  simp only [act, hcurrent]
  refine ⟨new, hnew, hiff.trans (iff_of_false ?_ not_false)⟩
  rcases CapturedTape.nextStage_idle (s.tapes r) hempty with hidle | hidle <;>
    simp [hidle, expectedStage]

/-- A forced `Finalize` makes a second message for its stop event. -/
theorem Tracked.finalize (hfilter : cfg.partyFilter = []) (tracked : Tracked cfg r announced s)
    (now : Int) :
    Adds s (s.perform cfg now [.addCaptureEvent (stopEvent now), .lastMessage]) False := by
  obtain ⟨hadds, hcurrent, -, hempty⟩ := tracked.stop hfilter now
    (show (stopEvent now).type = .etStop from rfl)
  change Adds s ((s.act cfg now (.addCaptureEvent (stopEvent now))).act cfg now .lastMessage) False
  cases announced with
  | false => exact (hadds.congr (by simp)).act_false cfg now .lastMessage
  | true => exact (hadds.trans (lastMessage_adds hfilter hcurrent (hempty rfl))).congr (by simp)

/-- The report of a tape that is written, with nothing else left to report. -/
theorem ready_adds (hfilter : cfg.partyFilter = []) (now : Int) (announced : Bool)
    (hexists : r < s.numTapes)
    (hpending : (s.tapes r).pending = if announced then [] else [.etStart])
    (hwritten : (s.tapes r).bytesWritten > 0) :
    Adds s (s.act cfg now (.report r)) (announced = true) := by
  obtain ⟨new, hnew, hiff⟩ := report_adds (s := s) (r := r) hfilter .addAudioTape
  rw [act, if_pos hexists]
  refine ⟨new, hnew, hiff.trans ?_⟩
  cases announced with
  | true => simp [CapturedTape.nextStage, hpending, CapturedTape.idleStage, hwritten, expectedStage]
  | false =>
      rw [CapturedTape.nextStage_cons _ hpending rfl]
      simp [expectedStage, eventTypeToString]

/-- From the end of a tape to its report: the stages are right exactly for a tape that was
announced and that a stop event ends. -/
theorem Tracked.reported (hfilter : cfg.partyFilter = []) (tracked : Tracked cfg r announced s)
    (now : Int) (ending : Ending) {processing : List (Int × Action)}
    (processes : ∀ a ∈ processing, Processes a.2)
    (hwritten : (((s.perform cfg now (ending.actions cfg now s)).performTimed cfg
      processing).tapes r).bytesWritten > 0) :
    Adds s (((s.perform cfg now (ending.actions cfg now s)).performTimed cfg processing).act cfg now
      (.report r)) (announced = true ∧ ending.IsStop) := by
  cases ending with
  | stop event htype =>
      obtain ⟨hadds, -, hexists, hempty⟩ := tracked.stop hfilter now htype
      cases announced with
      | false =>
          have hfalse := (hadds.congr (q := False) (by simp)).run_false cfg processing
          exact (hfalse.act_false cfg now (.report r)).congr (by simp)
      | true =>
          have same : Undisturbed _ ((s.act cfg now (.addCaptureEvent event)).performTimed cfg
            processing) := .run processes
          have hready := ready_adds hfilter now true
            (hexists.trans_eq same.numTapes.symm) ((same.pending r).trans (hempty rfl)) hwritten
          have hall := (hadds.trans (Adds.none same.reports trivial)).trans hready
          exact hall.congr (by simp [Ending.IsStop])
  | finalize =>
      by_cases hneed : s.port.needSendStop = true
      · have hactions : Ending.finalize.actions cfg now s =
            [.addCaptureEvent (stopEvent now), .lastMessage] := by
          simp [Ending.actions, Recorder.actions, hneed]
        rw [hactions]
        have hfalse := (tracked.finalize hfilter now).run_false cfg processing
        exact (hfalse.act_false cfg now (.report r)).congr (by simp [Ending.IsStop])
      · -- nothing is forced for a tape that was not announced: its start is reported last
        have hactions : Ending.finalize.actions cfg now s = [] := by
          simp [Ending.actions, Recorder.actions, hneed]
        have hannounced : announced = false := by
          by_contra hnot
          exact hneed (tracked.needSendStop (Bool.not_eq_false _ ▸ hnot))
        rw [hactions] at hwritten ⊢
        have same : Undisturbed s (s.performTimed cfg processing) := .run processes
        have hready := ready_adds hfilter now announced
          (tracked.exists_tape.trans_eq same.numTapes.symm)
          ((same.pending r).trans tracked.pending) hwritten
        have hall := (Adds.none same.reports trivial).trans hready
        exact hall.congr (by simp [Ending.IsStop, hannounced])

/-- The messages about a tape with data, without a party filter: each has the stage of the
event that caused it, and only the report of the processed tape is "ready", exactly where the
metadata ends once, before any update and any hold that is reported, and the capture ends
with a stop event. -/
theorem stages_match (hfilter : cfg.partyFilter = []) (life : Lifetime) (s : Recorder)
    (hwritten : ((life.processed cfg s).tapes s.numTapes).bytesWritten > 0) :
    ∃ new, (life.reported cfg s).reports = s.reports ++ new ∧
      (((∀ report ∈ new, report.message.map TapeMsg.stage = some (expectedStage report.site)) ∧
          ∀ report ∈ new, report.message.map TapeMsg.stage = some "ready" →
            report.site = .addAudioTape) ↔
        InOrder cfg (eventTypes life.mix) ∧ life.ending.IsStop) := by
  obtain ⟨started, hreports⟩ : Tracked cfg s.numTapes false (life.started cfg s) ∧
      (life.started cfg s).reports = s.reports := Tracked.start life.start_type
  have follows : Follows cfg s.numTapes (life.started cfg s) (life.mixed cfg s)
      ((eventTypes life.mix).foldlM (announce cfg) false) := started.run hfilter life.mixes
  have hadds : Adds (life.started cfg s) (life.reported cfg s)
      (InOrder cfg (eventTypes life.mix) ∧ life.ending.IsStop) := by
    rw [← inOrder_iff]
    cases houtcome : (eventTypes life.mix).foldlM (announce cfg) false with
    | none =>
        rw [houtcome] at follows
        have hended := follows.perform_false cfg life.endTime
          (life.ending.actions cfg life.endTime (life.mixed cfg s))
        have hall := (hended.run_false cfg life.processing).act_false cfg life.endTime
          (.report s.numTapes)
        exact hall.congr (by simp)
    | some announced =>
        rw [houtcome] at follows
        obtain ⟨hmixed, tracked⟩ := follows
        have hreported := tracked.reported hfilter life.endTime life.ending
          life.processes hwritten
        exact (hmixed.trans hreported).congr (by simp)
  obtain ⟨new, hnew, hiff⟩ := hadds
  refine ⟨new, by rw [hnew, hreports], ?_⟩
  rw [← hiff]
  constructor
  · intro hright report hreport
    exact hright.1 report hreport
  · intro hmatches
    refine ⟨hmatches, fun report hreport hready => ?_⟩
    have hstage := (hmatches report hreport).symm.trans hready
    cases hsite : report.site <;> simp [hsite, expectedStage] at hstage ⊢

/-- One chunk that is written at once, and events without content. -/
def oneChunk (types : List EventType)
    (htypes : ∀ type ∈ types, type ≠ .etStart ∧ type ≠ .etStop) (ending : Ending) : Lifetime where
  startTime := 1
  start := { type := .etStart }
  start_type := rfl
  mix := (2, .deliver silence) :: (2, .write 0) ::
    types.map fun type => (3, .addCaptureEvent { type })
  mixes := by
    intro a ha
    simp only [List.mem_cons, List.mem_map] at ha
    rcases ha with rfl | rfl | ⟨type, htype, rfl⟩
    · trivial
    · trivial
    · exact htypes type htype
  endTime := 4
  ending := ending
  processing := [(4, .write 0)]
  processes := by
    intro a ha
    rw [List.mem_singleton.mp ha]
    trivial

def stopped : Ending := .stop { type := .etStop, timestamp := 4 } rfl

/-- A tape whose metadata ends before its update and its stop. -/
theorem stages_match_stopped :
    let s := (oneChunk [.etEndMetadata, .etUpdate] (by decide) stopped).reported {} (fresh {} "p")
    s.reports.length = 4 ∧
      ∀ report ∈ s.reports,
        report.message.map TapeMsg.stage = some (expectedStage report.site) := by
  obtain ⟨new, hnew, hiff⟩ := stages_match (show ({} : PortConfig).partyFilter = [] from rfl)
    (oneChunk [.etEndMetadata, .etUpdate] (by decide) stopped) (fresh {} "p") (by decide)
  refine ⟨rfl, ?_⟩
  intro report hreport
  refine (hiff.mpr ⟨⟨[], [.etUpdate], rfl, by decide, by decide⟩, trivial⟩).1 report ?_
  rw [hnew] at hreport
  exact hreport

/-- A forced `Finalize` reports "ready" before the tape is processed; an update before the end
of the metadata is reported as the start. -/
theorem finalize_reports_ready :
    ((oneChunk [.etEndMetadata] (by decide) .finalize).reported {} (fresh {} "p")).reports.map
        (fun report => (report.site, report.message.map TapeMsg.stage)) =
      [(.endMetadata, some "start"), (.stop, some "stop"), (.finalize, some "ready"),
        (.addAudioTape, some "ready")] ∧
    ((oneChunk [.etUpdate, .etEndMetadata] (by decide) stopped).reported {}
        (fresh {} "p")).reports.map
        (fun report => (report.site, report.message.map TapeMsg.stage)) =
      [(.update, some "start"), (.endMetadata, some "update"), (.stop, some "stop"),
        (.addAudioTape, some "ready")] := by
  constructor
  · decide
  · decide

end Recorder

end OrkAudio
