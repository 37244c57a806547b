import OrkAudio.Lib.Stutter
import OrkAudio.VoIp.Aside

/-! How often a session reports a telephone event.

The session knows the timestamp of the last event that it has reported, 0 at first, and takes an
end packet with any other timestamp for a new event. -/

namespace OrkAudio.VoIp

open Lib

/-- The digits that have been reported. -/
def Context.dtmfDigits (c : Context) : List Output :=
  (c.notices.map Notice.output).filter Output.isDtmfDigit

/-- The last event, what a report reads of the session, and the reports. -/
def Context.events (c : Context) : UInt32 × Int × String × List Output :=
  (c.session.currentRtpEventTs, c.session.beginDate, c.session.capturePort, c.dtmfDigits)

/-- The end bit of an event packet. -/
def isEventEnd (rtpPacket : RtpPacketInfo) : Bool :=
  match rtpPacket.payload with
  | _ :: erVolume :: _ :: _ :: _ => 128 ≤ erVolume.toNat
  | _ => false

/-- A packet on its way to a session. -/
structure Delivery where
  env : Env
  channel : Nat
  rtpPacket : RtpPacketInfo

/-- The end packets, by the timestamps of their events. -/
def eventEnds (deliveries : List Delivery) : List UInt32 :=
  (deliveries.filter fun delivery => isEventEnd delivery.rtpPacket).map
    fun delivery => delivery.rtpPacket.timestamp

section

variable (cfg : Config)

/-- The reports that the packets of a session make, with the timestamps of their events. -/
def reportedEvents : List Delivery → SessionKeys → Context → List (UInt32 × Output)
  | [], _, _ => []
  | delivery :: deliveries, keys, c =>
      let next := (handleRtpEvent cfg delivery.env delivery.channel delivery.rtpPacket keys c).2
      ((next.dtmfDigits.drop c.dtmfDigits.length).map fun report =>
          (delivery.rtpPacket.timestamp, report)) ++
        reportedEvents deliveries keys next

variable (env : Env)

def dtmfDigitValue (digit : DtmfDigit) : String :=
  if cfg.dtmfReportingDetailed then
    s!"{digit.digitValue}_{digit.digitVolume}_{digit.digitDuration}_{digit.channel}"
  else digit.digitValue

/-- What a session reports of a digit. -/
def dtmfDigitReport (digit : DtmfDigit) (s : SessionData) : Output :=
  .captureEvent {
    type := .etKeyValue
    key := "dtmfdigit"
    value := dtmfDigitValue cfg digit
    offsetMs := (env.usec - s.beginDate * 1000000) / 1000000 * 1000 } s.capturePort

/-! ### A digit -/

theorem events_notice (c : Context) (notice : Notice) :
    ({ c with notices := c.notices ++ [notice] } : Context).events =
      (c.session.currentRtpEventTs, c.session.beginDate, c.session.capturePort,
        c.dtmfDigits ++ [notice.output].filter Output.isDtmfDigit) := by
  simp only [Context.events, Context.dtmfDigits, List.map_append, List.filter_append,
    List.map_cons, List.map_nil]

theorem events_emit_other (event : CaptureEvent) (hstop : decide (event.type = .etStop) = false)
    (hother : ∀ port, (Output.captureEvent event port).isDtmfDigit = false) :
    Keeps Context.events (emit event hstop) := by
  intro keys c
  have hnone : [Output.captureEvent event c.session.capturePort].filter Output.isDtmfDigit = [] :=
    List.filter_cons_of_neg (by rw [hother]; decide)
  calc
    ((emit event hstop keys c).2).events =
        (c.session.currentRtpEventTs, c.session.beginDate, c.session.capturePort,
          c.dtmfDigits ++
            [Output.captureEvent event c.session.capturePort].filter Output.isDtmfDigit) :=
      events_notice c _
    _ = c.events := by
      rw [hnone, List.append_nil]
      rfl

theorem events_emitKeyValue_other (key value : String) (hother : key ≠ "dtmfdigit") :
    Keeps Context.events (emitKeyValue key value) := by
  apply events_emit_other
  intro port
  simp [Output.isDtmfDigit, hother]

theorem besideCommands_events : BesideCommands Context.events where
  emits := events_emit_other
  flags _ _ _ := rfl

theorem events_collectDtmfDigit (digitValue : String) :
    Keeps Context.events (collectDtmfDigit cfg digitValue) := by
  unfold collectDtmfDigit
  exact .bind (.update fun c => rfl) fun _ => .ite (.bind .session fun s =>
    .whenThen (.update fun c => rfl) (besideCommands_events.runDtmfCommands _ _)) (.pure _)

theorem eventKey_ne (timestamp : UInt32) : s!"RtpDtmfEvent_{timestamp}" ≠ "dtmfdigit" := by
  intro heq
  have hhead := congrArg (fun text => text.toList.head?) heq
  have hfirst : (toString "RtpDtmfEvent_").toList.head? = some 'R' := by decide
  rw [String.toList_append, List.head?_append, hfirst, Option.some_or] at hhead
  exact absurd hhead (by decide)

theorem keeps_whenThen_run {α β : Type} {read : Context → β} {p : Prop} [Decidable p]
    {m : SessionM Unit} {rest : Unit → SessionM α} {keys : SessionKeys} {c : Context} {v : β}
    (first : Keeps read m) (last : ∀ c', read c' = read c → read (rest () keys c').2 = v) :
    read ((if p then m >>= rest else rest ()) keys c).2 = v := by
  split
  · exact last _ (first keys c)
  · exact last c rfl

theorem events_emit_report (digit : DtmfDigit) {s : SessionData} {keys : SessionKeys}
    {c c' : Context} (hdate : s.beginDate = c.session.beginDate) (hsame : c'.events = c.events) :
    (emit {
      type := .etKeyValue
      key := "dtmfdigit"
      value := dtmfDigitValue cfg digit
      offsetMs := (env.usec - s.beginDate * 1000000) / 1000000 * 1000 } rfl keys c').2.events =
      (c.session.currentRtpEventTs, c.session.beginDate, c.session.capturePort,
        c.dtmfDigits ++ [dtmfDigitReport cfg env digit c.session]) := by
  have hparts := hsame
  simp only [Context.events, Prod.mk.injEq] at hparts
  obtain ⟨hevent, hbegin, hport, hdigits⟩ := hparts
  refine (events_notice c' _).trans ?_
  rw [hevent, hbegin, hport, hdigits, hdate]
  rfl

/-- A digit is reported once. -/
theorem events_reportDtmfDigit (digit : DtmfDigit) (keys : SessionKeys) (c : Context) :
    (reportDtmfDigit cfg env digit keys c).2.events =
      (c.session.currentRtpEventTs, c.session.beginDate, c.session.capturePort,
        c.dtmfDigits ++ [dtmfDigitReport cfg env digit c.session]) := by
  have hcollect := events_collectDtmfDigit cfg digit.digitValue keys c
  have hdate : (collectDtmfDigit cfg digit.digitValue keys c).2.session.beginDate =
      c.session.beginDate := congrArg (fun events => events.2.1) hcollect
  unfold reportDtmfDigit
  rw [bind_run, session_bind]
  apply keeps_whenThen_run (events_emitKeyValue_other _ _ (eventKey_ne _))
  intro c₁ hsame₁
  apply keeps_whenThen_run (events_emit_other _ _ fun _ => rfl)
  intro c₂ hsame₂
  exact events_emit_report cfg env digit hdate (hsame₂.trans (hsame₁.trans hcollect))

variable {cfg env}

/-- Packets before the end of an event and further ends of the last one change nothing. -/
theorem handleRtpEvent_other {channel : Nat} {rtpPacket : RtpPacketInfo} {keys : SessionKeys}
    {c : Context} (hother : ¬(isEventEnd rtpPacket = true ∧
      c.session.currentRtpEventTs ≠ rtpPacket.timestamp)) :
    (handleRtpEvent cfg env channel rtpPacket keys c).2 = c := by
  unfold handleRtpEvent
  unfold isEventEnd at hother
  rcases hpayload : rtpPacket.payload with
    _ | ⟨event, _ | ⟨erVolume, _ | ⟨durationHigh, _ | ⟨durationLow, tail⟩⟩⟩⟩
  · rfl
  · rfl
  · rfl
  · rfl
  · rw [hpayload] at hother
    dsimp only
    rw [session_bind, if_neg]
    · rfl
    · intro hreported
      exact hother ⟨decide_eq_true hreported.2, hreported.1⟩

theorem handleRtpEvent_end {channel : Nat} {rtpPacket : RtpPacketInfo} {keys : SessionKeys}
    {c : Context} (hend : isEventEnd rtpPacket = true)
    (hnew : c.session.currentRtpEventTs ≠ rtpPacket.timestamp) :
    ∃ digit, (handleRtpEvent cfg env channel rtpPacket keys c).2.events =
      (rtpPacket.timestamp, c.session.beginDate, c.session.capturePort,
        c.dtmfDigits ++ [dtmfDigitReport cfg env digit c.session]) := by
  unfold handleRtpEvent
  unfold isEventEnd at hend
  rcases hpayload : rtpPacket.payload with
    _ | ⟨event, _ | ⟨erVolume, _ | ⟨durationHigh, _ | ⟨durationLow, tail⟩⟩⟩⟩
  · rw [hpayload] at hend
    cases hend
  · rw [hpayload] at hend
    cases hend
  · rw [hpayload] at hend
    cases hend
  · rw [hpayload] at hend
    cases hend
  · rw [hpayload] at hend
    dsimp only
    rw [session_bind, if_pos ⟨hnew, of_decide_eq_true hend⟩, update_bind]
    exact ⟨_, events_reportDtmfDigit cfg env _ keys _⟩

/-! ### The packets of a session -/

/-- The reports of a run are the ends that follow no end of the same event directly. -/
theorem reportedEvents_times (deliveries : List Delivery) (keys : SessionKeys) (c : Context) :
    (reportedEvents cfg deliveries keys c).map Prod.fst =
      ((eventEnds deliveries).dropWhile (· = c.session.currentRtpEventTs)).destutter
        (· ≠ ·) := by
  induction deliveries generalizing c with
  | nil => rfl
  | cons delivery deliveries ih =>
      unfold reportedEvents
      dsimp only
      by_cases hreported : isEventEnd delivery.rtpPacket = true ∧
          c.session.currentRtpEventTs ≠ delivery.rtpPacket.timestamp
      · obtain ⟨digit, hevents⟩ := @handleRtpEvent_end cfg delivery.env delivery.channel _ keys c
          hreported.1 hreported.2
        simp only [Context.events, Prod.mk.injEq] at hevents
        obtain ⟨hevent, -, -, hdigits⟩ := hevents
        have hends : eventEnds (delivery :: deliveries) =
            delivery.rtpPacket.timestamp :: eventEnds deliveries := by
          simp [eventEnds, hreported.1]
        rw [hends, List.dropWhile_cons_of_neg (by simpa using hreported.2.symm), destutter_cons,
          hdigits, List.drop_left, List.map_append, ih, hevent]
        rfl
      · rw [handleRtpEvent_other hreported, List.drop_length, List.map_nil, List.nil_append, ih]
        by_cases hend : isEventEnd delivery.rtpPacket = true
        · have hends : eventEnds (delivery :: deliveries) =
              delivery.rtpPacket.timestamp :: eventEnds deliveries := by
            simp [eventEnds, hend]
          have hsame : c.session.currentRtpEventTs = delivery.rtpPacket.timestamp := by
            by_contra hne
            exact hreported ⟨hend, hne⟩
          rw [hends, List.dropWhile_cons_of_pos (by simpa using hsame.symm)]
        · have hends : eventEnds (delivery :: deliveries) = eventEnds deliveries := by
            simp [eventEnds, hend]
          rw [hends]

/-- Every event is reported once, whatever the order of the packets, exactly when the ends of an
event that the session does not take for the last one stand together, and every event has one. -/
theorem handleRtpEvent_once_iff (deliveries : List Delivery) (keys : SessionKeys) (c : Context) :
    (∀ timestamp ∈ eventEnds deliveries,
      ((reportedEvents cfg deliveries keys c).map Prod.fst).count timestamp = 1) ↔
    (∀ timestamp ∈ eventEnds deliveries,
        timestamp ∈ (eventEnds deliveries).dropWhile (· = c.session.currentRtpEventTs)) ∧
      Gathered ((eventEnds deliveries).dropWhile (· = c.session.currentRtpEventTs)) := by
  rw [reportedEvents_times]
  apply count_destutter_iff
  intro timestamp hmem
  exact (List.dropWhile_suffix _).subset hmem

end

section

/-- An end packet of the event with this timestamp. -/
private def eventEndAt (timestamp : UInt32) : Delivery :=
  { env := { usec := 0 }, channel := 0,
    rtpPacket := { payload := [1, 138, 0, 160], timestamp := timestamp } }

/-- An end of the first event comes after an end of the second one. -/
theorem handleRtpEvent_reports_twice : ¬ ∀ (cfg : Config) (env : Env) (trackingId : String)
    (deliveries : List Delivery), ∀ timestamp ∈ eventEnds deliveries,
      ((reportedEvents cfg deliveries (VoIpSession.new cfg env trackingId).toSessionKeys
        { shared := {}, session := (VoIpSession.new cfg env trackingId).toSessionData }).map
          Prod.fst).count timestamp = 1 := by
  intro hall
  have htwice := hall {} { usec := 0 } "" [eventEndAt 100, eventEndAt 200, eventEndAt 100] 100
    (by decide +kernel)
  exact absurd htwice (by decide +kernel)

end

end OrkAudio.VoIp
