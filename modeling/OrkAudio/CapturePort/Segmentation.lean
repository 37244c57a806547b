import OrkAudio.CapturePort.Metadata
import OrkAudio.CapturePort.Stages
import Mathlib.Data.List.DropRight

/-! Audio segmentation: the tapes of a port and a tape that is not segmented.

Each segment is told again what the port has queued of its call. The ids of the tapes are
numbered as that happens. -/

namespace OrkAudio

open Lib

/-- What a port gets from the capture side, and the calls of the processing threads. -/
inductive Delivery
  | event (event : CaptureEvent)
  | chunk (chunk : AudioChunk) (activity : Option Activity)
  | write (tape : Nat)
  | report (tape : Nat)

/-- `CapturePluginProxy::CaptureEventCallBack`: the calls of the port that it makes. -/
def captureEventCallBack (cfg : PortConfig) (event : CaptureEvent) : List Call :=
  if cfg.vad || cfg.audioSegmentation then
    if event.type = .etStart ∨ event.type = .etStop then
      if event.type = .etStop then [.clearEventQueue, .addCaptureEvent event] else []
    else [.queueCaptureEvent event, .addCaptureEvent event]
  else [.addCaptureEvent event]

namespace Delivery

def calls (cfg : PortConfig) : Delivery → List Call
  | .event e => captureEventCallBack cfg e
  | .chunk c activity => [.addAudioChunk c activity]
  | .write tape => [.write tape]
  | .report tape => [.report tape]

def event? : Delivery → Option CaptureEvent
  | .event e => some e
  | _ => none

end Delivery

namespace Recorder

def invoke (cfg : PortConfig) (now : Int) (s : Recorder) (call : Call) : Recorder :=
  (s.enter cfg now call).perform cfg now (s.actions cfg now call).2

def receive (cfg : PortConfig) (s : Recorder) (label : Int × Delivery) : Recorder :=
  (label.2.calls cfg).foldl (invoke cfg label.1) s

/-- A port after all it got, in order. -/
def recording (cfg : PortConfig) (id : String) (labels : List (Int × Delivery)) : Recorder :=
  labels.foldl (receive cfg) (fresh cfg id)

/-- The events with their times. -/
def timedEvents (labels : List (Int × Delivery)) : List (Int × CaptureEvent) :=
  labels.filterMap fun label => label.2.event?.map (Prod.mk label.1)

/-- The events after the last stop event, without start events. -/
def eventsSinceStop (labels : List (Int × Delivery)) : List (Int × CaptureEvent) :=
  ((timedEvents labels).rtakeWhile fun e => decide (e.2.type ≠ .etStop)).filter fun e =>
    decide (e.2.type ≠ .etStart)

/-- The tape that a port without segmentation makes of the events. -/
def unsegmentedTape (cfg : PortConfig) (id : String) (events : List (Int × CaptureEvent)) :
    CapturedTape :=
  (recording { cfg with audioSegmentation := false, vad := false } id
    (events.map fun e => (e.1, .event e.2))).tapes 0

def orkUids (labels : List (Int × Delivery)) : List String :=
  ((timedEvents labels).filter fun e => decide (e.2.type = .etOrkUid)).map fun e => e.2.value

end Recorder

/-! ### What one event does -/

namespace Recorder

variable {cfg : PortConfig} {now : Int} {s s' : Recorder} {r : Nat}

/-- Tape `r` is told the events, and nothing else changes that is asked for here. -/
structure Tells (cfg : PortConfig) (r : Nat) (events : List CaptureEvent) (s s' : Recorder) :
    Prop where
  current : s'.port.audioTapeRef = s.port.audioTapeRef
  captureEvents : s'.port.captureEvents = s.port.captureEvents
  segmentNumber : s'.port.segmentNumber = s.port.segmentNumber
  numTapes : s'.numTapes = s.numTapes
  tape : Alike cfg (s'.tapes r) ((s.tapes r).told cfg events)
  others : ∀ i, i ≠ r → Alike cfg (s'.tapes i) (s.tapes i)

namespace Tells

theorem refl (s : Recorder) : Tells cfg r [] s s :=
  ⟨rfl, rfl, rfl, rfl, .refl _, fun _ _ => .refl _⟩

theorem trans {s'' : Recorder} {events events' : List CaptureEvent}
    (first : Tells cfg r events s s') (second : Tells cfg r events' s' s'') :
    Tells cfg r (events ++ events') s s'' where
  current := second.current.trans first.current
  captureEvents := second.captureEvents.trans first.captureEvents
  segmentNumber := second.segmentNumber.trans first.segmentNumber
  numTapes := second.numTapes.trans first.numTapes
  tape := by
    rw [CapturedTape.told, List.foldl_append]
    exact second.tape.trans (first.tape.told events')
  others i hi := (second.others i hi).trans (first.others i hi)

theorem modifyTape {events : List CaptureEvent} (s : Recorder) {f : CapturedTape → CapturedTape}
    (hf : Alike cfg (f (s.tapes r)) ((s.tapes r).told cfg events)) :
    Tells cfg r events s (s.modifyTape r f) where
  current := rfl
  captureEvents := rfl
  segmentNumber := rfl
  numTapes := rfl
  tape := by
    rw [modifyTape_tapes_self]
    exact hf
  others i hi := by
    rw [modifyTape_tapes_of_ne s f hi]
    exact .refl _

theorem of_tapes (hcurrent : s'.port.audioTapeRef = s.port.audioTapeRef)
    (hevents : s'.port.captureEvents = s.port.captureEvents)
    (hnumber : s'.port.segmentNumber = s.port.segmentNumber)
    (hnumTapes : s'.numTapes = s.numTapes) (htapes : s'.tapes = s.tapes) :
    Tells cfg r [] s s' := by
  apply Tells.mk hcurrent hevents hnumber hnumTapes
  · rw [htapes]
    exact .refl _
  · intro i _
    rw [htapes]
    exact .refl _

theorem report (s : Recorder) (site : CallSite) : Tells cfg r [] s (s.report cfg r site) := by
  have told : Tells cfg r [] s (s.modifyTape r fun tape => (tape.getMessage cfg).2) :=
    modifyTape s (Alike.getMessage (s.tapes r))
  exact ⟨rfl, rfl, rfl, rfl, told.tape, told.others⟩

/-- An event that is no start event, in a port with a tape. -/
theorem handleEvent (now : Int) (s : Recorder) {event : CaptureEvent}
    (hstart : event.type ≠ .etStart) :
    Tells cfg r [event] s (s.handleEvent cfg now r event) := by
  have hadd (s : Recorder) (send : Bool) : Tells cfg r [event] s
      (s.modifyTape r fun tape => tape.addCaptureEvent cfg event send) :=
    modifyTape s ((Alike.refl _).addCaptureEvent event send false)
  have hkept (s : Recorder) (f : CapturedTape → CapturedTape)
      (hf : Alike cfg (f (s.tapes r)) (s.tapes r)) : Tells cfg r [] s (s.modifyTape r f) :=
    modifyTape s hf
  have hheld {s s' : Recorder} (hevent : event.type = .etHold ∨ event.type = .etResume ∨
      event.type = .etEndMetadata) (kept : Tells cfg r [] s s') : Tells cfg r [event] s s' :=
    { kept with tape := kept.tape.trans (Alike.held (s.tapes r) hevent false).symm }
  unfold Recorder.handleEvent
  split
  · contradiction
  · -- The stop event: the tag first, then the tape, then the message.
    have hcapturing : Tells cfg r [] s { s with port := { s.port with capturing := false } } :=
      of_tapes rfl rfl rfl rfl rfl
    dsimp only
    apply hcapturing.trans
    apply (hkept _ _ _).trans
    · apply (hadd _ true).trans
      apply (report _ .stop).trans
      exact of_tapes rfl rfl rfl rfl rfl
    · split_ifs with hreported
      · exact .populateTag _ _ hreported
      · exact .refl _
  · rename_i hevent
    have hsince : Tells cfg r [] s
        (s.modifyTape r fun tape => { tape with lastHoldTs := longToInt now }) :=
      hkept s _ ⟨.of_metadata rfl, rfl, rfl⟩
    split_ifs
    · exact hsince.trans ((hadd _ true).trans (report _ .hold))
    · exact hheld (.inl hevent) hsince
    · exact hheld (.inl hevent) (refl s)
  · rename_i hevent
    have hduration : Tells cfg r [] s (s.modifyTape r fun tape =>
        if tape.lastHoldTs > 0 then
          { tape with holdDuration := longToInt (tape.holdDuration + (now - tape.lastHoldTs)) }
        else tape) := by
      apply hkept
      split_ifs
      · exact ⟨.of_metadata rfl, rfl, rfl⟩
      · exact .refl _
    have hresumed (s : Recorder) : Tells cfg r [] s
        (s.modifyTape r fun tape => { tape with lastHoldTs := 0 }) :=
      hkept s _ ⟨.of_metadata rfl, rfl, rfl⟩
    dsimp only
    split_ifs
    · exact hduration.trans (((hadd _ true).trans (report _ .resume)).trans (hresumed _))
    · exact hheld (.inr (.inl hevent)) (hduration.trans (hresumed _))
  · rename_i hevent
    apply hheld (.inr (.inr hevent))
    exact (report s .endMetadata).trans (of_tapes rfl rfl rfl rfl rfl)
  · exact (hadd s true).trans (report _ .update)
  · exact hadd s false

/-- An event that is no start event. -/
theorem addCaptureEvent (now : Int) {event : CaptureEvent} (hstart : event.type ≠ .etStart)
    (hr : s.port.audioTapeRef = some r) :
    Tells cfg r [event] s (s.addCaptureEvent cfg now event) := by
  have hupdated : Tells cfg r [] s { s with port := { s.port with lastUpdated := now } } :=
    of_tapes rfl rfl rfl rfl rfl
  unfold Recorder.addCaptureEvent
  simp only [if_neg hstart]
  split
  · rename_i i hi
    have hir : i = r := Option.some.inj (hi.symm.trans hr)
    rw [hir]
    exact hupdated.trans (handleEvent now _ hstart)
  · rename_i hnone
    cases hnone.symm.trans hr

/-- One tape that is changed and stays what it was. -/
theorem of_alike (s : Recorder) (tape : Nat) {f : CapturedTape → CapturedTape}
    (hf : Alike cfg (f (s.tapes tape)) (s.tapes tape)) :
    Tells cfg r [] s (s.modifyTape tape f) := by
  have halike (i : Nat) : Alike cfg ((s.modifyTape tape f).tapes i) (s.tapes i) := by
    by_cases hi : i = tape
    · rw [hi, modifyTape_tapes_self]
      exact hf
    · rw [modifyTape_tapes_of_ne s f hi]
      exact .refl _
  exact ⟨rfl, rfl, rfl, rfl, halike r, fun i _ => halike i⟩

theorem deliver (s : Recorder) (chunk : AudioChunk) :
    Tells cfg r [] s (s.deliver cfg chunk) := by
  unfold Recorder.deliver
  split
  · rename_i i _
    split_ifs
    · have hreceived : Tells cfg r [] s { s with received := s.received ++ [i] } :=
        of_tapes rfl rfl rfl rfl rfl
      have hadded (s : Recorder) : Tells cfg r [] s
          (s.modifyTape i fun tape => tape.addAudioChunk cfg chunk) :=
        of_alike s i (.addAudioChunk _ chunk)
      have hhanded (s : Recorder) : Tells cfg r [] s (s.handOver i) :=
        of_tapes rfl rfl rfl rfl rfl
      exact hreceived.trans ((hadded _).trans (hhanded _))
    · exact refl s
  · exact refl s

/-- What the processing threads do. -/
theorem act_write (now : Int) (s : Recorder) (tape : Nat) :
    Tells cfg r [] s (s.act cfg now (.write tape)) := by
  simp only [act]
  split_ifs
  · exact of_alike s tape (.write _)
  · exact refl s

theorem act_report (now : Int) (s : Recorder) (tape : Nat) :
    Tells cfg r [] s (s.act cfg now (.report tape)) := by
  simp only [act]
  split_ifs
  · have told : Tells cfg r [] s (s.modifyTape tape fun tape => (tape.getMessage cfg).2) :=
      of_alike s tape (.getMessage _)
    exact ⟨rfl, rfl, rfl, rfl, told.tape, told.others⟩
  · exact refl s

/-- Events one after the other. -/
theorem perform_events (now : Int) {events : List CaptureEvent}
    (hevents : ∀ event ∈ events, event.type ≠ .etStart) (hr : s.port.audioTapeRef = some r) :
    Tells cfg r events s (s.perform cfg now (events.map .addCaptureEvent)) := by
  induction events generalizing s with
  | nil => exact refl s
  | cons event events ih =>
      rw [List.forall_mem_cons] at hevents
      have first : Tells cfg r [event] s (s.addCaptureEvent cfg now event) :=
        addCaptureEvent now hevents.1 hr
      exact first.trans (ih hevents.2 (first.current.trans hr))

/-- Without a tape an event is lost. -/
theorem addCaptureEvent_none (now : Int) {event : CaptureEvent} (hstart : event.type ≠ .etStart)
    (hnone : s.port.audioTapeRef = none) : Tells cfg r [] s (s.addCaptureEvent cfg now event) := by
  unfold Recorder.addCaptureEvent
  simp only [if_neg hstart]
  split
  · rename_i i hi
    cases hi.symm.trans hnone
  · exact of_tapes rfl rfl rfl rfl rfl

end Tells

/-! ### What a new segment is told -/

theorem reportEventBacklog_types (segmentNumber : Int) (events : List CaptureEvent) :
    ((CapturePort.reportEventBacklog segmentNumber events).2.map CaptureEvent.type) =
      events.map CaptureEvent.type := by
  induction events generalizing segmentNumber with
  | nil => rfl
  | cons event events ih =>
      unfold CapturePort.reportEventBacklog
      split_ifs with huid
      · simp only [List.map_cons, ih, huid]
      · simp only [List.map_cons, ih]

/-- The ids aside, the backlog says what the events said. -/
theorem reportEventBacklog_metadata {tape other : CapturedTape}
    (same : SameMetadata cfg tape other) (segmentNumber : Int) (events : List CaptureEvent) :
    SameMetadata cfg
      (tape.told cfg (CapturePort.reportEventBacklog segmentNumber events).2)
      (other.told cfg events) := by
  induction events generalizing tape other segmentNumber with
  | nil => exact same
  | cons event events ih =>
      unfold CapturePort.reportEventBacklog
      split_ifs with huid
      · apply ih
        apply (tape.addCaptureEvent_silent cfg (.inr (.inl rfl)) false).trans
        apply same.trans
        exact (other.addCaptureEvent_silent cfg (.inr (.inl huid)) false).symm
      · exact ih (same.addCaptureEvent event false false) segmentNumber

/-- The id with the number that the backlog gives it. -/
def numberedUid (uid : String) (number : Int) : String := uid ++ "_" ++ toString number

theorem reportEventBacklog_le (segmentNumber : Int) (events : List CaptureEvent) :
    segmentNumber ≤ (CapturePort.reportEventBacklog segmentNumber events).1 := by
  induction events generalizing segmentNumber with
  | nil => exact Int.le_refl _
  | cons event events ih =>
      unfold CapturePort.reportEventBacklog
      split_ifs
      · have hrest := ih (segmentNumber + 1)
        dsimp only
        omega
      · exact ih segmentNumber

/-- The last id of the backlog stays, with a number that was not given before. -/
theorem reportEventBacklog_orkUid (cfg : PortConfig) (tape : CapturedTape) (segmentNumber : Int)
    (events : List CaptureEvent) :
    (tape.told cfg (CapturePort.reportEventBacklog segmentNumber events).2).orkUid = tape.orkUid ∨
      ∃ event ∈ events, event.type = .etOrkUid ∧ ∃ number, segmentNumber < number ∧
        number ≤ (CapturePort.reportEventBacklog segmentNumber events).1 ∧
        (tape.told cfg (CapturePort.reportEventBacklog segmentNumber events).2).orkUid =
          numberedUid event.value number := by
  induction events generalizing tape segmentNumber with
  | nil => exact .inl rfl
  | cons event events ih =>
      unfold CapturePort.reportEventBacklog
      split_ifs with huid
      · right
        have hnumbered (event' : CaptureEvent) (hevent' : event'.type = .etOrkUid) :
            (tape.addCaptureEvent cfg event' false).orkUid = event'.value := by
          rw [CapturedTape.addCaptureEvent_orkUid, if_pos hevent']
        rcases ih (tape.addCaptureEvent cfg
            ⟨.etOrkUid, "", numberedUid event.value (segmentNumber + 1), 0, 0⟩ false)
            (segmentNumber + 1) with hkept | ⟨later, hlater, htype, number, hlow, hhigh, hlast⟩
        · have hle := reportEventBacklog_le (segmentNumber + 1) events
          apply Exists.intro event
          apply And.intro List.mem_cons_self
          apply And.intro huid
          exact ⟨segmentNumber + 1, Int.lt_succ _, hle, hkept.trans (hnumbered _ rfl)⟩
        · exact ⟨later, List.mem_cons_of_mem _ hlater, htype, number, by omega, hhigh, hlast⟩
      · rcases ih (tape.addCaptureEvent cfg event false) segmentNumber with
          hkept | ⟨later, hlater, htype, number, hlow, hhigh, hlast⟩
        · left
          apply hkept.trans
          rw [CapturedTape.addCaptureEvent_orkUid, if_neg huid]
        · exact .inr ⟨later, List.mem_cons_of_mem _ hlater, htype, number, hlow, hhigh, hlast⟩

/-- A tape that is told nothing yet. -/
abbrev blankTape (cfg : PortConfig) : CapturedTape := .new cfg "" 0

theorem started_alike (cfg : PortConfig) (id : String) (now : Int) {event : CaptureEvent}
    (hstart : event.type = .etStart) :
    Alike cfg ((CapturedTape.new cfg id now).addCaptureEvent cfg event true) (blankTape cfg) where
  toSameMetadata := (CapturedTape.addCaptureEvent_silent cfg _ (.inl hstart) true).trans
    (.of_metadata rfl)
  orkUid := by
    rw [CapturedTape.addCaptureEvent_orkUid, hstart]
    rfl
  shouldStop := by
    rw [CapturedTape.addCaptureEvent_shouldStop, hstart]
    rfl

/-- The tape that is made first is dropped by the start event, which makes another one. -/
structure Restarts (cfg : PortConfig) (events : List CaptureEvent) (s s' : Recorder) : Prop where
  current : s'.port.audioTapeRef = some (s.numTapes + 1)
  captureEvents : s'.port.captureEvents = s.port.captureEvents
  segmentNumber : s'.port.segmentNumber = s.port.segmentNumber
  numTapes : s'.numTapes = s.numTapes + 2
  tape : Alike cfg (s'.tapes (s.numTapes + 1)) ((blankTape cfg).told cfg events)
  dropped : (s'.tapes s.numTapes).orkUid = ""
  others : ∀ i < s.numTapes, Alike cfg (s'.tapes i) (s.tapes i)

theorem Restarts.told {events events' : List CaptureEvent} {s'' : Recorder}
    (restarts : Restarts cfg events s s') (told : Tells cfg (s.numTapes + 1) events' s' s'') :
    Restarts cfg (events ++ events') s s'' where
  current := told.current.trans restarts.current
  captureEvents := told.captureEvents.trans restarts.captureEvents
  segmentNumber := told.segmentNumber.trans restarts.segmentNumber
  numTapes := told.numTapes.trans restarts.numTapes
  tape := by
    rw [CapturedTape.told, List.foldl_append]
    exact told.tape.trans (restarts.tape.told events')
  dropped := (told.others _ (Nat.ne_of_lt (Nat.lt_succ_self _))).orkUid.trans restarts.dropped
  others i hi := (told.others i (by omega)).trans (restarts.others i hi)

theorem restarts_start (cfg : PortConfig) (now : Int) (s : Recorder) {event : CaptureEvent}
    (hstart : event.type = .etStart) :
    Restarts cfg [] s (s.perform cfg now [.newTape, .addCaptureEvent event]) := by
  have hstarted : s.perform cfg now [.newTape, .addCaptureEvent event] =
      ((({ s.setTape (.new cfg s.port.id now) with
        port := { (s.setTape (.new cfg s.port.id now)).port with
          lastUpdated := now, capturing := true } } : Recorder).modifyTape s.numTapes
          fun tape => { tape with shouldStop := true }).setTape
        ((CapturedTape.new cfg s.port.id now).addCaptureEvent cfg event true)) :=
    addCaptureEvent_start cfg now (s.setTape (.new cfg s.port.id now)) hstart
  rw [hstarted]
  refine ⟨rfl, rfl, rfl, rfl, ?_, ?_, ?_⟩
  · simp only [setTape, modifyTape, Function.update_self]
    exact started_alike cfg s.port.id now hstart
  · simp only [setTape, modifyTape]
    rw [Function.update_of_ne (Nat.ne_of_lt (Nat.lt_succ_self _)), Function.update_self,
      Function.update_self]
    rfl
  · intro i hi
    simp only [setTape, modifyTape]
    rw [Function.update_of_ne (by omega), Function.update_of_ne (Nat.ne_of_lt hi),
      Function.update_of_ne (Nat.ne_of_lt hi)]
    exact .refl _

theorem startTape_port (port : CapturePort) (now : Int) :
    (port.startTape now).1 = { port with
      segmentNumber :=
        (CapturePort.reportEventBacklog port.segmentNumber port.captureEvents).1 } := rfl

theorem startTape_restarts (cfg : PortConfig) (now : Int) (s : Recorder)
    (hqueue : ∀ event ∈ s.port.captureEvents, event.type ≠ .etStart) (port : CapturePort)
    (hport : port.captureEvents = s.port.captureEvents) :
    Restarts cfg (CapturePort.reportEventBacklog port.segmentNumber port.captureEvents).2 s
      (s.perform cfg now (port.startTape now).2) := by
  have hbacklog : ∀ event ∈
      (CapturePort.reportEventBacklog port.segmentNumber port.captureEvents).2,
      event.type ≠ .etStart := by
    intro event hevent
    have htype := List.mem_map_of_mem (f := CaptureEvent.type) hevent
    rw [reportEventBacklog_types, hport] at htype
    rcases List.mem_map.mp htype with ⟨queued, hqueued, heq⟩
    rw [← heq]
    exact hqueue queued hqueued
  have first : Restarts cfg [] s (s.perform cfg now [.newTape,
      .addCaptureEvent { type := .etStart, value := port.id, timestamp := now }]) :=
    restarts_start cfg now s rfl
  exact first.told (.perform_events now hbacklog first.current)

/-- A new segment is told the backlog, and the one before it a stop event. -/
structure Starts (cfg : PortConfig) (now : Int) (s s' : Recorder) : Prop where
  current : s'.port.audioTapeRef = some (s.numTapes + 1)
  captureEvents : s'.port.captureEvents = s.port.captureEvents
  segmentNumber : s'.port.segmentNumber =
    (CapturePort.reportEventBacklog s.port.segmentNumber s.port.captureEvents).1
  numTapes : s'.numTapes = s.numTapes + 2
  tape : Alike cfg (s'.tapes (s.numTapes + 1)) ((blankTape cfg).told cfg
    (CapturePort.reportEventBacklog s.port.segmentNumber s.port.captureEvents).2)
  dropped : (s'.tapes s.numTapes).orkUid = ""
  stopped : ∀ i < s.numTapes, s.port.audioTapeRef = some i →
    Alike cfg (s'.tapes i) ((s.tapes i).addCaptureEvent cfg (stopEvent now) false)
  others : ∀ i < s.numTapes, s.port.audioTapeRef ≠ some i → Alike cfg (s'.tapes i) (s.tapes i)

theorem Starts.of_stopped {s₁ s₂ : Recorder} (stopped : Tells cfg r [stopEvent now] s₁ s₂)
    (restarts : Restarts cfg
      (CapturePort.reportEventBacklog s.port.segmentNumber s.port.captureEvents).2 s₂ s')
    (hr : s.port.audioTapeRef = some r)
    (hport : s₁.port.captureEvents = s.port.captureEvents ∧ s₁.port.segmentNumber =
      (CapturePort.reportEventBacklog s.port.segmentNumber s.port.captureEvents).1)
    (hnumTapes : s₁.numTapes = s.numTapes) (htapes : s₁.tapes = s.tapes) :
    Starts cfg now s s' := by
  have hcount : s₂.numTapes = s.numTapes := stopped.numTapes.trans hnumTapes
  have htape := stopped.tape
  have hothers := stopped.others
  have hrestarted := restarts.others
  rw [htapes] at htape hothers
  rw [hcount] at hrestarted
  constructor
  · exact hcount ▸ restarts.current
  · exact restarts.captureEvents.trans (stopped.captureEvents.trans hport.1)
  · exact restarts.segmentNumber.trans (stopped.segmentNumber.trans hport.2)
  · exact hcount ▸ restarts.numTapes
  · exact hcount ▸ restarts.tape
  · exact hcount ▸ restarts.dropped
  · intro i hi hcurrent
    have hir : r = i := Option.some.inj (hr.symm.trans hcurrent)
    rw [← hir] at hi ⊢
    exact (hrestarted r hi).trans htape
  · intro i hi hcurrent
    have hir : i ≠ r := fun heq => hcurrent (heq ▸ hr)
    exact (hrestarted i hi).trans (hothers i hir)

/-- A chunk goes to the segment that is there, or a new one is started for it. -/
theorem receive_chunk (hsegmentation : cfg.audioSegmentation = true) (s : Recorder)
    (hqueue : ∀ event ∈ s.port.captureEvents, event.type ≠ .etStart) (now : Int)
    (chunk : AudioChunk) (activity : Option Activity) :
    (∀ r, Tells cfg r [] s (s.receive cfg (now, .chunk chunk activity))) ∨
      Starts cfg now s (s.receive cfg (now, .chunk chunk activity)) := by
  have hreceive : s.receive cfg (now, .chunk chunk activity) =
      ({ s with port := (s.chunkActions cfg now chunk activity).1 } : Recorder).perform cfg now
        (s.chunkActions cfg now chunk activity).2 := rfl
  rw [hreceive]
  unfold chunkActions
  dsimp only
  rw [if_pos hsegmentation]
  split
  · left
    intro r
    exact .of_tapes rfl rfl rfl rfl rfl
  · dsimp only
    rw [perform, List.foldl_append]
    unfold segment
    split
    · rename_i r hr
      split
      · -- The segment is old enough: stop it and start the next one.
        right
        have hstop (s : Recorder) (hr : s.port.audioTapeRef = some r) :
            Tells cfg r [stopEvent now] s (s.addCaptureEvent cfg now (stopEvent now)) :=
          .addCaptureEvent now EventType.noConfusion hr
        have stopped := hstop { s with
          port := (CapturePort.startTape { s.port with lastUpdated := now } now).1 } hr
        have restarts := (startTape_restarts cfg now _ (stopped.captureEvents ▸ hqueue)
          { s.port with lastUpdated := now } stopped.captureEvents.symm).told
          (.deliver _ chunk)
        rw [List.append_nil] at restarts
        exact Starts.of_stopped (s := s) stopped restarts hr ⟨rfl, rfl⟩ rfl rfl
      · left
        intro r
        have hupdated : Tells cfg r [] s { s with port := { s.port with lastUpdated := now } } :=
          .of_tapes rfl rfl rfl rfl rfl
        exact hupdated.trans (.deliver _ chunk)
    · rename_i hnone
      right
      have restarts := (startTape_restarts cfg now
        { s with port := (CapturePort.startTape { s.port with lastUpdated := now } now).1 }
        hqueue { s.port with lastUpdated := now } rfl).told (.deliver _ chunk)
      rw [List.append_nil] at restarts
      rw [startTape_port] at restarts
      refine ⟨restarts.current, restarts.captureEvents, restarts.segmentNumber,
        restarts.numTapes, restarts.tape, restarts.dropped, ?_, ?_⟩
      · intro i _ hi
        cases hi.symm.trans hnone
      · intro i hi _
        exact restarts.others i hi

/-! ### What one delivery does -/

/-- The queue as `CaptureEventCallBack` leaves it for an event that is no start event. -/
def queued (s : Recorder) (event : CaptureEvent) : Recorder :=
  { s with port := { s.port with
    captureEvents := if event.type = .etStop then [] else s.port.captureEvents ++ [event] } }

inductive Outcome (cfg : PortConfig) (now : Int) (s : Recorder) : Delivery → Recorder → Prop
  | quiet {delivery : Delivery} {s' : Recorder}
      (hevent : ∀ event, delivery.event? = some event → event.type = .etStart)
      (told : ∀ r, Tells cfg r [] s s') : Outcome cfg now s delivery s'
  | lost {event : CaptureEvent} {s' : Recorder} (hstart : event.type ≠ .etStart)
      (hnone : s.port.audioTapeRef = none) (told : ∀ r, Tells cfg r [] (s.queued event) s') :
      Outcome cfg now s (.event event) s'
  | told {event : CaptureEvent} {s' : Recorder} {r : Nat} (hstart : event.type ≠ .etStart)
      (hr : s.port.audioTapeRef = some r) (told : Tells cfg r [event] (s.queued event) s') :
      Outcome cfg now s (.event event) s'
  | starts {chunk : AudioChunk} {activity : Option Activity} {s' : Recorder}
      (starts : Starts cfg now s s') : Outcome cfg now s (.chunk chunk activity) s'

theorem receive_event (hsegmentation : cfg.audioSegmentation = true) (s : Recorder) (now : Int)
    (event : CaptureEvent) :
    s.receive cfg (now, .event event) =
      if event.type = .etStart then s else (s.queued event).addCaptureEvent cfg now event := by
  have hcalls : captureEventCallBack cfg event =
      if event.type = .etStart ∨ event.type = .etStop then
        if event.type = .etStop then [.clearEventQueue, .addCaptureEvent event] else []
      else [.queueCaptureEvent event, .addCaptureEvent event] := by
    rw [captureEventCallBack, hsegmentation, Bool.or_true, if_pos rfl]
  simp only [receive, Delivery.calls, hcalls]
  by_cases hstart : event.type = .etStart
  · rw [if_pos hstart, if_pos (.inl hstart), if_neg (by rw [hstart]; exact EventType.noConfusion)]
    rfl
  · by_cases hstop : event.type = .etStop
    · rw [if_pos (.inr hstop), if_pos hstop, if_neg hstart, queued, if_pos hstop]
      rfl
    · rw [if_neg (not_or.mpr ⟨hstart, hstop⟩), if_neg hstart, queued, if_neg hstop]
      rfl

theorem receive_outcome (hsegmentation : cfg.audioSegmentation = true) (s : Recorder)
    (hqueue : ∀ event ∈ s.port.captureEvents, event.type ≠ .etStart) (now : Int)
    (delivery : Delivery) : Outcome cfg now s delivery (s.receive cfg (now, delivery)) := by
  cases delivery with
  | event event =>
      rw [receive_event hsegmentation]
      by_cases hstart : event.type = .etStart
      · rw [if_pos hstart]
        apply Outcome.quiet
        · intro other hother
          rw [← Option.some.inj hother]
          exact hstart
        · intro r
          exact .refl s
      · rw [if_neg hstart]
        cases hcurrent : s.port.audioTapeRef with
        | none =>
            apply Outcome.lost hstart hcurrent
            intro r
            exact .addCaptureEvent_none now hstart hcurrent
        | some r => exact .told hstart hcurrent (.addCaptureEvent now hstart hcurrent)
  | chunk chunk activity =>
      rcases receive_chunk hsegmentation s hqueue now chunk activity with told | starts
      · exact .quiet (fun event h => by cases h) told
      · exact .starts starts
  | write tape =>
      apply Outcome.quiet
      · intro event h
        cases h
      · intro r
        exact .act_write now s tape
  | report tape =>
      apply Outcome.quiet
      · intro event h
        cases h
      · intro r
        exact .act_report now s tape

/-! ### The metadata of the current segment -/

section eventsSinceStop

variable {labels : List (Int × Delivery)}

theorem timedEvents_append (labels more : List (Int × Delivery)) :
    timedEvents (labels ++ more) = timedEvents labels ++ timedEvents more :=
  List.filterMap_append

theorem eventsSinceStop_quiet {delivery : Delivery}
    (hevent : ∀ event, delivery.event? = some event → event.type = .etStart) :
    eventsSinceStop (labels ++ [(now, delivery)]) = eventsSinceStop labels := by
  rw [eventsSinceStop, timedEvents_append]
  cases hdelivery : delivery.event? with
  | none =>
      rw [show timedEvents [(now, delivery)] = [] by simp [timedEvents, hdelivery],
        List.append_nil]
      rfl
  | some event =>
      have htype := hevent event hdelivery
      rw [show timedEvents [(now, delivery)] = [(now, event)] by
        simp [timedEvents, hdelivery], List.rtakeWhile_concat_pos _ _ _ (by simp [htype]),
        List.filter_append]
      simp [eventsSinceStop, htype]

theorem eventsSinceStop_event {event : CaptureEvent} (hstart : event.type ≠ .etStart) :
    eventsSinceStop (labels ++ [(now, .event event)]) =
      if event.type = .etStop then [] else eventsSinceStop labels ++ [(now, event)] := by
  rw [eventsSinceStop, timedEvents_append, show timedEvents [(now, .event event)] =
    [(now, event)] from rfl]
  by_cases hstop : event.type = .etStop
  · rw [if_pos hstop, List.rtakeWhile_concat_neg _ _ _ (by simp [hstop])]
    rfl
  · rw [if_neg hstop, List.rtakeWhile_concat_pos _ _ _ (by simp [hstop]), List.filter_append]
    simp [eventsSinceStop, hstart]

theorem eventsSinceStop_types {e : Int × CaptureEvent} (he : e ∈ eventsSinceStop labels) :
    e.2.type ≠ .etStart := by
  simpa using (List.mem_filter.mp he).2

theorem mem_timedEvents {e : Int × CaptureEvent} (he : e ∈ eventsSinceStop labels) :
    e ∈ timedEvents labels :=
  (List.rtakeWhile_suffix _ _).subset (List.mem_filter.mp he).1

end eventsSinceStop

/-- The queue holds what was delivered since the last stop event, and the current tape, while
it is not stopped, says the same of the call. -/
structure Segmented (cfg : PortConfig) (labels : List (Int × Delivery)) (s : Recorder) :
    Prop where
  queue : s.port.captureEvents = (eventsSinceStop labels).map Prod.snd
  current : ∀ r, s.port.audioTapeRef = some r → r < s.numTapes
  live : ∀ r, s.port.audioTapeRef = some r → (s.tapes r).shouldStop = false →
    SameMetadata cfg (s.tapes r) ((blankTape cfg).told cfg s.port.captureEvents)

theorem told_snoc (tape : CapturedTape) (events : List CaptureEvent) (event : CaptureEvent) :
    tape.told cfg (events ++ [event]) = (tape.told cfg events).addCaptureEvent cfg event false := by
  rw [CapturedTape.told, List.foldl_append]
  rfl

namespace Segmented

variable {labels : List (Int × Delivery)} {delivery : Delivery}

theorem queue_types (segmented : Segmented cfg labels s) :
    ∀ event ∈ s.port.captureEvents, event.type ≠ .etStart := by
  rw [segmented.queue]
  intro event hevent
  rcases List.mem_map.mp hevent with ⟨e, he, rfl⟩
  exact eventsSinceStop_types he

theorem queued_eq (segmented : Segmented cfg labels s) {event : CaptureEvent}
    (hstart : event.type ≠ .etStart) : (s.queued event).port.captureEvents =
      (eventsSinceStop (labels ++ [(now, .event event)])).map Prod.snd := by
  rw [eventsSinceStop_event hstart]
  by_cases hstop : event.type = .etStop
  · rw [if_pos hstop]
    exact if_pos hstop
  · rw [if_neg hstop, List.map_append, ← segmented.queue]
    exact if_neg hstop

theorem step (segmented : Segmented cfg labels s) (outcome : Outcome cfg now s delivery s') :
    Segmented cfg (labels ++ [(now, delivery)]) s' := by
  cases outcome with
  | quiet hevent told =>
      constructor
      · rw [(told 0).captureEvents, segmented.queue, eventsSinceStop_quiet hevent]
      · intro r hr
        rw [(told 0).current] at hr
        rw [(told 0).numTapes]
        exact segmented.current r hr
      · intro r hr hlive
        rw [(told 0).current] at hr
        have halike := (told r).tape
        rw [(told 0).captureEvents]
        exact halike.toSameMetadata.trans
          (segmented.live r hr (halike.shouldStop.symm.trans hlive))
  | @lost event s' hstart hnone told =>
      have hcurrent : s'.port.audioTapeRef = none := (told 0).current.trans hnone
      constructor
      · exact (told 0).captureEvents.trans (segmented.queued_eq hstart)
      · intro r hr
        cases hcurrent.symm.trans hr
      · intro r hr _
        cases hcurrent.symm.trans hr
  | @told event s' r hstart hr told =>
      have hcurrent : s'.port.audioTapeRef = some r := told.current.trans hr
      constructor
      · exact told.captureEvents.trans (segmented.queued_eq hstart)
      · intro i hi
        rw [← Option.some.inj (hcurrent.symm.trans hi), told.numTapes]
        exact segmented.current r hr
      · intro i hi hlive
        rw [← Option.some.inj (hcurrent.symm.trans hi)] at hlive ⊢
        have hflag := told.tape.shouldStop.symm.trans hlive
        simp only [CapturedTape.told, List.foldl_cons, List.foldl_nil,
          CapturedTape.addCaptureEvent_shouldStop, Bool.or_eq_false_iff,
          decide_eq_false_iff_not] at hflag
        rw [told.captureEvents, queued, if_neg hflag.2, told_snoc]
        exact told.tape.toSameMetadata.trans
          ((segmented.live r hr hflag.1).addCaptureEvent event false false)
  | starts starts =>
      constructor
      · rw [starts.captureEvents, segmented.queue, eventsSinceStop_quiet]
        intro event hevent
        cases hevent
      · intro i hi
        rw [← Option.some.inj (starts.current.symm.trans hi), starts.numTapes]
        omega
      · intro i hi _
        rw [← Option.some.inj (starts.current.symm.trans hi), starts.captureEvents]
        exact starts.tape.toSameMetadata.trans (reportEventBacklog_metadata (.refl _) _ _)

end Segmented

theorem recording_append (labels : List (Int × Delivery)) (label : Int × Delivery) (id : String) :
    recording cfg id (labels ++ [label]) = (recording cfg id labels).receive cfg label := by
  rw [recording, List.foldl_append]
  rfl

theorem recording_segmented (hsegmentation : cfg.audioSegmentation = true) (id : String)
    (labels : List (Int × Delivery)) : Segmented cfg labels (recording cfg id labels) := by
  induction labels using List.reverseRecOn with
  | nil =>
      constructor
      · rfl
      · intro r hr
        cases hr
      · intro r hr _
        cases hr
  | append_singleton labels label ih =>
      rw [recording_append]
      exact ih.step (receive_outcome hsegmentation _ ih.queue_types label.1 label.2)

/-! ### The tape without segmentation -/

/-- Which stop event it is makes no difference. -/
theorem stop_metadata (tape : CapturedTape) {event event' : CaptureEvent}
    (hevent : event.type = .etStop) (hevent' : event'.type = .etStop) (send send' : Bool) :
    SameMetadata cfg (tape.addCaptureEvent cfg event send)
      (tape.addCaptureEvent cfg event' send') := by
  have hstopped {event : CaptureEvent} (hevent : event.type = .etStop) (send : Bool) :
      (tape.addCaptureEvent cfg event send).metadata =
        { tape with remoteParty := tape.shortRemoteParty cfg }.metadata := by
    have hkey : event.type ≠ .etKeyValue := by
      rw [hevent]
      exact EventType.noConfusion
    unfold CapturedTape.addCaptureEvent
    rw [CapturedTape.storeTag_of_ne cfg _ hkey, CapturedTape.recordEvent, hevent]
    cases send <;> rfl
  exact .of_metadata ((hstopped hevent send).trans (hstopped hevent' send').symm)

theorem receive_unsegmented (hsegmentation : cfg.audioSegmentation = false)
    (hvad : cfg.vad = false) (s : Recorder) (now : Int) (event : CaptureEvent) :
    s.receive cfg (now, .event event) = s.addCaptureEvent cfg now event := by
  have hcalls : captureEventCallBack cfg event = [.addCaptureEvent event] := by
    rw [captureEventCallBack, hsegmentation, hvad]
    rfl
  simp only [receive, Delivery.calls, hcalls]
  rfl

/-- Without segmentation the events after the start all go to one tape. -/
theorem tells_events (hsegmentation : cfg.audioSegmentation = false) (hvad : cfg.vad = false)
    {s : Recorder} (hr : s.port.audioTapeRef = some r) {events : List (Int × CaptureEvent)}
    (hevents : ∀ e ∈ events, e.2.type ≠ .etStart) :
    Tells cfg r (events.map Prod.snd) s
      ((events.map fun e => (e.1, Delivery.event e.2)).foldl (receive cfg) s) := by
  induction events generalizing s with
  | nil => exact .refl s
  | cons e events ih =>
      rw [List.forall_mem_cons] at hevents
      have first : Tells cfg r [e.2] s (s.addCaptureEvent cfg e.1 e.2) :=
        .addCaptureEvent e.1 hevents.1 hr
      rw [List.map_cons, List.map_cons, List.foldl_cons,
        receive_unsegmented hsegmentation hvad]
      exact first.trans (ih (first.current.trans hr) hevents.2)

theorem recording_unsegmented (hsegmentation : cfg.audioSegmentation = false)
    (hvad : cfg.vad = false) (id : String) (startTime : Int) {start : CaptureEvent}
    (hstart : start.type = .etStart) {events : List (Int × CaptureEvent)}
    (hevents : ∀ e ∈ events, e.2.type ≠ .etStart) :
    SameMetadata cfg ((recording cfg id
        (((startTime, start) :: events).map fun e => (e.1, .event e.2))).tapes 0)
      ((blankTape cfg).told cfg (events.map Prod.snd)) := by
  have hstarted : (fresh cfg id).addCaptureEvent cfg startTime start =
      ({ fresh cfg id with port := { (fresh cfg id).port with
        lastUpdated := startTime, capturing := true } } : Recorder).setTape
        ((CapturedTape.new cfg id startTime).addCaptureEvent cfg start true) :=
    addCaptureEvent_start cfg startTime (fresh cfg id) hstart
  have hcurrent : ((fresh cfg id).addCaptureEvent cfg startTime start).port.audioTapeRef =
      some 0 := by
    rw [hstarted]
    rfl
  have htape : ((fresh cfg id).addCaptureEvent cfg startTime start).tapes 0 =
      (CapturedTape.new cfg id startTime).addCaptureEvent cfg start true := by
    rw [hstarted]
    exact Function.update_self (0 : Nat) _ (fresh cfg id).tapes
  have told := (tells_events hsegmentation hvad hcurrent hevents).tape
  rw [htape] at told
  rw [recording, List.map_cons, List.foldl_cons, receive_unsegmented hsegmentation hvad]
  exact (told.trans ((started_alike cfg id startTime hstart).told _)).toSameMetadata

theorem unsegmentedTape_told (cfg : PortConfig) (id : String) (startTime : Int)
    {start : CaptureEvent} (hstart : start.type = .etStart) {events : List (Int × CaptureEvent)}
    (hevents : ∀ e ∈ events, e.2.type ≠ .etStart) :
    SameMetadata cfg (unsegmentedTape cfg id ((startTime, start) :: events))
      ((blankTape cfg).told cfg (events.map Prod.snd)) := by
  have htold : (blankTape cfg).told { cfg with audioSegmentation := false, vad := false } =
      (blankTape cfg).told cfg := rfl
  have same : SameMetadata { cfg with audioSegmentation := false, vad := false } _ _ :=
    recording_unsegmented rfl rfl id startTime hstart hevents
  rw [← htold]
  exact ⟨same.direction, same.localParty, same.remoteParty, same.localEntryPoint, same.localIp,
    same.remoteIp, same.nativeCallId, same.onDemand, same.tags⟩

/-! ### The ids of the tapes -/

section ids

variable {labels more : List (Int × Delivery)} {delivery : Delivery} {number bound : Int}

theorem mem_numberedUid (uid : String) (number : Int) : '_' ∈ (numberedUid uid number).toList := by
  simp [numberedUid]

/-- An id without an underscore can be told from its number. -/
theorem numberedUid_number {uid other : String} {otherNumber : Int}
    (huid : '_' ∉ uid.toList) (hother : '_' ∉ other.toList)
    (heq : numberedUid uid number = numberedUid other otherNumber) : number = otherNumber := by
  have hrest {uid : String} (huid : '_' ∉ uid.toList) (number : Int) :
      (numberedUid uid number).toList.dropWhile (fun c => decide (c ≠ '_')) =
        '_' :: (toString number).toList := by
    have hbefore : ∀ c ∈ uid.toList, decide (c ≠ '_') = true := by
      intro c hc
      apply decide_eq_true
      intro hunderscore
      exact huid (hunderscore ▸ hc)
    rw [numberedUid, String.append_assoc, String.toList_append,
      List.dropWhile_append_of_pos hbefore]
    simp
  have hlist : '_' :: (toString number).toList = '_' :: (toString otherNumber).toList := by
    rw [← hrest huid, ← hrest hother, heq]
  exact Int.repr_injective (String.toList_injective (List.cons.inj hlist).2)

/-- No id, one of the ids of the call, or one of these with a number up to the bound. -/
def Issued (labels : List (Int × Delivery)) (bound : Int) (uid : String) : Prop :=
  uid = "" ∨ uid ∈ orkUids labels ∨
    ∃ given ∈ orkUids labels, ∃ number ≤ bound, uid = numberedUid given number

theorem orkUids_append (labels more : List (Int × Delivery)) :
    orkUids (labels ++ more) = orkUids labels ++ orkUids more := by
  simp [orkUids, timedEvents_append]

theorem orkUids_event {event : CaptureEvent} (huid : event.type = .etOrkUid) :
    orkUids [(now, .event event)] = [event.value] := by
  simp [orkUids, timedEvents, Delivery.event?, huid]

theorem mem_orkUids {e : Int × CaptureEvent} (he : e ∈ timedEvents labels)
    (huid : e.2.type = .etOrkUid) : e.2.value ∈ orkUids labels :=
  List.mem_map.mpr ⟨e, List.mem_filter.mpr ⟨he, decide_eq_true huid⟩, rfl⟩

theorem Issued.mono {uid : String} {bound' : Int} (issued : Issued labels bound uid)
    (hbound : bound ≤ bound') : Issued (labels ++ more) bound' uid := by
  rw [Issued, orkUids_append]
  rcases issued with hnone | hgiven | ⟨given, hgiven, number, hnumber, heq⟩
  · exact .inl hnone
  · exact .inr (.inl (List.mem_append_left _ hgiven))
  · exact .inr (.inr ⟨given, List.mem_append_left _ hgiven, number, hnumber.trans hbound, heq⟩)

/-- Every id was issued, and no two tapes have one in common. -/
structure Numbered (labels : List (Int × Delivery)) (s : Recorder) : Prop where
  issued : ∀ i < s.numTapes, Issued labels s.port.segmentNumber (s.tapes i).orkUid
  distinct : ∀ i < s.numTapes, ∀ j < s.numTapes, i ≠ j →
    (s.tapes i).orkUid = (s.tapes j).orkUid → (s.tapes i).orkUid = ""

/-- One tape gets an id; the others keep theirs or have none. -/
theorem Numbered.assign (numbered : Numbered labels s) (r : Nat)
    (hbound : s.port.segmentNumber ≤ s'.port.segmentNumber)
    (hothers : ∀ i < s'.numTapes, i ≠ r → (s'.tapes i).orkUid = "" ∨
      i < s.numTapes ∧ (s'.tapes i).orkUid = (s.tapes i).orkUid)
    (hissued : r < s'.numTapes →
      Issued (labels ++ more) s'.port.segmentNumber (s'.tapes r).orkUid)
    (hnew : r < s'.numTapes → ∀ i < s.numTapes, i ≠ r →
      (s.tapes i).orkUid = (s'.tapes r).orkUid → (s'.tapes r).orkUid = "") :
    Numbered (labels ++ more) s' := by
  have hdistinct (i : Nat) (hi : i < s'.numTapes) (hir : i ≠ r) (hr : r < s'.numTapes)
      (heq : (s'.tapes i).orkUid = (s'.tapes r).orkUid) : (s'.tapes r).orkUid = "" := by
    rcases hothers i hi hir with hnone | ⟨hlt, hkept⟩
    · exact heq.symm.trans hnone
    · exact hnew hr i hlt hir (hkept.symm.trans heq)
  constructor
  · intro i hi
    by_cases hir : i = r
    · rw [hir] at hi ⊢
      exact hissued hi
    · rcases hothers i hi hir with hnone | ⟨hlt, hkept⟩
      · exact .inl hnone
      · rw [hkept]
        exact (numbered.issued i hlt).mono hbound
  · intro i hi j hj hij heq
    by_cases hir : i = r
    · rw [hir] at hi hij heq ⊢
      exact hdistinct j hj (Ne.symm hij) hi heq.symm
    by_cases hjr : j = r
    · rw [hjr] at hj heq
      exact heq.trans (hdistinct i hi hir hj heq)
    rcases hothers i hi hir with hnone | ⟨hilt, hikept⟩
    · exact hnone
    · rcases hothers j hj hjr with hnone | ⟨hjlt, hjkept⟩
      · exact heq.trans hnone
      · rw [hikept, hjkept] at heq
        rw [hikept]
        exact numbered.distinct i hilt j hjlt hij heq

/-- No tape gets an id. -/
theorem Numbered.keep (numbered : Numbered labels s)
    (hnumber : s'.port.segmentNumber = s.port.segmentNumber) (hnumTapes : s'.numTapes = s.numTapes)
    (hkept : ∀ i, (s'.tapes i).orkUid = (s.tapes i).orkUid) : Numbered (labels ++ more) s' := by
  apply numbered.assign s'.numTapes hnumber.ge
  · intro i hi _
    exact .inr ⟨hnumTapes ▸ hi, hkept i⟩
  · intro hr
    exact absurd hr (Nat.lt_irrefl _)
  · intro hr
    exact absurd hr (Nat.lt_irrefl _)

/-- The ids of a call: each is given once and has no underscore. -/
structure PlainIds (labels : List (Int × Delivery)) : Prop where
  nodup : (orkUids labels).Nodup
  plain : ∀ uid ∈ orkUids labels, '_' ∉ uid.toList

theorem Numbered.step (numbered : Numbered labels s) (segmented : Segmented cfg labels s)
    (ids : PlainIds (labels ++ [(now, delivery)])) (outcome : Outcome cfg now s delivery s') :
    Numbered (labels ++ [(now, delivery)]) s' := by
  cases outcome with
  | quiet _ told =>
      apply numbered.keep (told 0).segmentNumber (told 0).numTapes
      intro i
      exact (told i).tape.orkUid
  | lost _ _ told =>
      apply numbered.keep (told 0).segmentNumber (told 0).numTapes
      intro i
      exact (told i).tape.orkUid
  | @told event s' r _ _ told =>
      have huid : (s'.tapes r).orkUid =
          if event.type = .etOrkUid then event.value else (s.tapes r).orkUid :=
        told.tape.orkUid.trans (CapturedTape.addCaptureEvent_orkUid cfg (s.tapes r) event false)
      by_cases hevent : event.type = .etOrkUid
      · rw [if_pos hevent] at huid
        have hplain := ids.plain
        have hnodup := ids.nodup
        rw [orkUids_append, orkUids_event hevent] at hplain hnodup
        have hvalue := hplain event.value (by simp)
        have hnew : event.value ∉ orkUids labels := by
          intro hold
          exact List.disjoint_of_nodup_append hnodup hold (List.mem_singleton.mpr rfl)
        apply numbered.assign r told.segmentNumber.ge
        · intro i hi hir
          exact .inr ⟨told.numTapes ▸ hi, (told.others i hir).orkUid⟩
        · intro _
          right
          left
          rw [huid, orkUids_append, orkUids_event hevent]
          simp
        · intro _ i hi _ heq
          rw [huid] at heq ⊢
          rcases numbered.issued i hi with hnone | hgiven | ⟨given, _, number, _, hnumbered⟩
          · exact heq.symm.trans hnone
          · exact absurd (heq ▸ hgiven) hnew
          · rw [← heq, hnumbered] at hvalue
            exact absurd (mem_numberedUid given number) hvalue
      · rw [if_neg hevent] at huid
        apply numbered.keep told.segmentNumber told.numTapes
        intro i
        by_cases hir : i = r
        · rw [hir]
          exact huid
        · exact (told.others i hir).orkUid
  | starts starts =>
      have hbound := reportEventBacklog_le s.port.segmentNumber s.port.captureEvents
      rw [← starts.segmentNumber] at hbound
      have hplain (uid : String) (huid : uid ∈ orkUids labels) : '_' ∉ uid.toList :=
        ids.plain uid (by rw [orkUids_append]; exact List.mem_append_left _ huid)
      have hbacklog := reportEventBacklog_orkUid cfg (blankTape cfg) s.port.segmentNumber
        s.port.captureEvents
      rw [← starts.tape.orkUid, ← starts.segmentNumber] at hbacklog
      have hgiven (event : CaptureEvent) (hevent : event ∈ s.port.captureEvents)
          (huid : event.type = .etOrkUid) : event.value ∈ orkUids labels := by
        rw [segmented.queue] at hevent
        rcases List.mem_map.mp hevent with ⟨e, he, rfl⟩
        exact mem_orkUids (mem_timedEvents he) huid
      apply numbered.assign (s.numTapes + 1) hbound
      · intro i hi hnew
        rw [starts.numTapes] at hi
        by_cases hdropped : i = s.numTapes
        · rw [hdropped]
          exact .inl starts.dropped
        · have hlt : i < s.numTapes := by omega
          right
          apply And.intro hlt
          by_cases hcurrent : s.port.audioTapeRef = some i
          · apply (starts.stopped i hlt hcurrent).orkUid.trans
            rw [CapturedTape.addCaptureEvent_orkUid, if_neg EventType.noConfusion]
          · exact (starts.others i hlt hcurrent).orkUid
      · intro _
        rcases hbacklog with hnone | ⟨event, hevent, huid, number, _, hle, hlast⟩
        · exact .inl hnone
        · right
          right
          rw [orkUids_append]
          exact ⟨event.value, List.mem_append_left _ (hgiven event hevent huid), number, hle,
            hlast⟩
      · intro _ i hi _ heq
        rcases hbacklog with hnone | ⟨event, hevent, huid, number, hlt, _, hlast⟩
        · exact hnone
        · -- The number is above every number that was given before.
          have hvalue := hgiven event hevent huid
          rcases numbered.issued i hi with hnone | hold | ⟨given, hold, before, hle, hnumbered⟩
          · exact heq.symm.trans hnone
          · rw [heq, hlast] at hold
            exact absurd (mem_numberedUid _ _) (hplain _ hold)
          · have hsame := numberedUid_number (hplain _ hold) (hplain _ hvalue)
              (hnumbered.symm.trans (heq.trans hlast))
            omega

end ids

theorem recording_numbered (hsegmentation : cfg.audioSegmentation = true) (id : String)
    {labels : List (Int × Delivery)} (ids : PlainIds labels) :
    Numbered labels (recording cfg id labels) := by
  induction labels using List.reverseRecOn with
  | nil =>
      constructor
      · intro i hi
        cases hi
      · intro i hi
        cases hi
  | append_singleton labels label ih =>
      have hbefore : PlainIds labels := by
        have hnodup := ids.nodup
        have hplain := ids.plain
        rw [orkUids_append] at hnodup hplain
        exact ⟨(List.nodup_append.mp hnodup).1,
          fun uid huid => hplain uid (List.mem_append_left _ huid)⟩
      have segmented := recording_segmented hsegmentation id labels
      rw [recording_append]
      exact (ih hbefore).step segmented ids
        (receive_outcome hsegmentation _ segmented.queue_types label.1 label.2)

/-! ### The result -/

/-- A segment that is stopped says of the call what the events since the last stop event
say. -/
theorem Segmented.stopped {labels : List (Int × Delivery)} {delivery : Delivery}
    (segmented : Segmented cfg labels s) (outcome : Outcome cfg now s delivery s')
    (hr : r < s.numTapes) (hlive : (s.tapes r).shouldStop = false)
    (hstopped : (s'.tapes r).shouldStop = true) {stop : CaptureEvent}
    (hstop : stop.type = .etStop) :
    SameMetadata cfg (s'.tapes r) (((blankTape cfg).told cfg
      ((eventsSinceStop labels).map Prod.snd)).addCaptureEvent cfg stop false) := by
  have hkept {other : CapturedTape} (alike : Alike cfg other (s.tapes r))
      (hother : other.shouldStop = true) : False := by
    have hflag := alike.shouldStop
    rw [hother, hlive] at hflag
    cases hflag
  have hended (hcurrent : s.port.audioTapeRef = some r) {event : CaptureEvent}
      (hevent : event.type = .etStop)
      (alike : Alike cfg (s'.tapes r) ((s.tapes r).addCaptureEvent cfg event false)) :
      SameMetadata cfg (s'.tapes r) (((blankTape cfg).told cfg
        ((eventsSinceStop labels).map Prod.snd)).addCaptureEvent cfg stop false) := by
    have same := segmented.live r hcurrent hlive
    rw [segmented.queue] at same
    exact (alike.toSameMetadata.trans (stop_metadata _ hevent hstop false false)).trans
      (same.addCaptureEvent stop false false)
  cases outcome with
  | quiet _ told => exact (hkept (told r).tape hstopped).elim
  | lost _ _ told => exact (hkept (told r).tape hstopped).elim
  | @told event s' current _ hcurrent told =>
      by_cases hir : r = current
      · rw [← hir] at hcurrent told
        have hflag := told.tape.shouldStop
        have htold : ((s.queued event).tapes r).told cfg [event] =
            (s.tapes r).addCaptureEvent cfg event false := rfl
        rw [htold, CapturedTape.addCaptureEvent_shouldStop, hstopped, hlive,
          Bool.false_or] at hflag
        exact hended hcurrent (of_decide_eq_true hflag.symm) told.tape
      · exact (hkept (told.others r hir) hstopped).elim
  | starts starts =>
      by_cases hcurrent : s.port.audioTapeRef = some r
      · exact hended hcurrent rfl (starts.stopped r hr hcurrent)
      · exact (hkept (starts.others r hr hcurrent) hstopped).elim

/-- With audio segmentation, a segment that is stopped has the metadata of a tape without
segmentation that got the events since the last stop event, and the ids of the tapes that
have one differ. -/
theorem segments_keep_metadata (cfg : PortConfig) (hsegmentation : cfg.audioSegmentation = true)
    (id : String) (labels : List (Int × Delivery)) (ids : PlainIds labels) :
    (∀ label : Int × Delivery, ∀ r < (recording cfg id labels).numTapes,
      ((recording cfg id labels).tapes r).shouldStop = false →
      ((recording cfg id (labels ++ [label])).tapes r).shouldStop = true →
      ∀ start stop : Int × CaptureEvent, start.2.type = .etStart → stop.2.type = .etStop →
        SameMetadata cfg ((recording cfg id (labels ++ [label])).tapes r)
          (unsegmentedTape cfg id (start :: (eventsSinceStop labels ++ [stop])))) ∧
    ∀ i < (recording cfg id labels).numTapes, ∀ j < (recording cfg id labels).numTapes, i ≠ j →
      ((recording cfg id labels).tapes i).orkUid = ((recording cfg id labels).tapes j).orkUid →
      ((recording cfg id labels).tapes i).orkUid = "" := by
  have segmented := recording_segmented hsegmentation id labels
  constructor
  · intro label r hr hlive hstopped start stop hstart hstop
    have outcome := receive_outcome hsegmentation _ segmented.queue_types label.1 label.2
    rw [recording_append] at hstopped ⊢
    have hevents : ∀ e ∈ eventsSinceStop labels ++ [stop], e.2.type ≠ .etStart := by
      intro e he
      rcases List.mem_append.mp he with he | he
      · exact eventsSinceStop_types he
      · rw [List.mem_singleton.mp he, hstop]
        exact EventType.noConfusion
    have hunsegmented := unsegmentedTape_told cfg id start.1 hstart hevents
    rw [List.map_append, List.map_singleton, told_snoc] at hunsegmented
    exact (segmented.stopped outcome hr hlive hstopped hstop).trans hunsegmented.symm
  · exact (recording_numbered hsegmentation id ids).distinct

/-- An id and a party, then the chunk that ends the segment. -/
theorem segments_keep_metadata_party :
    SameMetadata { audioSegmentation := true }
      ((recording { audioSegmentation := true } "p" ([(0, .chunk silence none),
        (1, .event { type := .etOrkUid, value := "7" }),
        (2, .event { type := .etLocalParty, value := "100" })] ++
        [(60, .chunk silence none)])).tapes 1)
      (unsegmentedTape { audioSegmentation := true } "p" [(0, { type := .etStart }),
        (1, { type := .etOrkUid, value := "7" }), (2, { type := .etLocalParty, value := "100" }),
        (60, { type := .etStop })]) :=
  (segments_keep_metadata { audioSegmentation := true } rfl "p" [(0, .chunk silence none),
    (1, .event { type := .etOrkUid, value := "7" }),
    (2, .event { type := .etLocalParty, value := "100" })]
    ⟨List.nodup_singleton "7", by decide⟩).1 (60, .chunk silence none) 1 (by decide) rfl rfl
    (0, { type := .etStart }) (60, { type := .etStop }) rfl rfl

/-- A call whose party came before its stop event, and chunks that go on after it. -/
def stoppedCall : List (Int × Delivery) :=
  [(0, .chunk silence none), (0, .event { type := .etLocalParty, value := "100" }),
    (1, .event { type := .etStop }), (60, .chunk silence none)]

/-- The segment after the stop event does not have the party, and both have no id. -/
theorem segments_lose_metadata :
    PlainIds (stoppedCall ++ [(120, .chunk silence none)]) ∧
      ((recording { audioSegmentation := true } "p" stoppedCall).tapes 3).shouldStop = false ∧
      ((recording { audioSegmentation := true } "p"
        (stoppedCall ++ [(120, .chunk silence none)])).tapes 3).shouldStop = true ∧
      ((recording { audioSegmentation := true } "p"
        (stoppedCall ++ [(120, .chunk silence none)])).tapes 3).localParty = "" ∧
      (unsegmentedTape { audioSegmentation := true } "p" [(0, { type := .etStart }),
        (0, { type := .etLocalParty, value := "100" }), (1, { type := .etStop })]).localParty =
          "100" ∧
      ((recording { audioSegmentation := true } "p"
        (stoppedCall ++ [(120, .chunk silence none)])).tapes 1).orkUid =
        ((recording { audioSegmentation := true } "p"
          (stoppedCall ++ [(120, .chunk silence none)])).tapes 3).orkUid :=
  ⟨⟨List.nodup_nil, by decide⟩, rfl, rfl, rfl, rfl, rfl⟩

end Recorder

end OrkAudio
