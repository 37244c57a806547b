import OrkAudio.CapturePort.Model

/-! Null references given to `Reporting::AddMessage`.

`GetMessage` leaves its reference null for a tape that the party filter rejects, and every
caller passes it on. -/

namespace OrkAudio

open Lib

/-! ### The party filter of a tape -/

namespace CapturedTape

variable (cfg : PortConfig) (tape : CapturedTape)

theorem getMessage_eq_none : (tape.getMessage cfg).1 = none ↔ tape.rejected cfg = true := by
  unfold getMessage
  split
  · simp [*]
  · split
    · split <;> simp [*]
    · dsimp only
      split <;> simp [*]

/-- Only a party that comes in can pass the filter. -/
theorem recordEvent_passed {event : CaptureEvent} (hremote : event.type ≠ .etRemoteParty)
    (hlocal : event.type ≠ .etLocalParty) :
    (tape.recordEvent cfg event).passedPartyFilterTest = tape.passedPartyFilterTest := by
  unfold recordEvent
  cases htype : event.type <;> simp only [htype, ne_eq, not_true_eq_false] at hremote hlocal ⊢
  all_goals split_ifs <;> rfl

@[simp] theorem storeTag_passed (event : CaptureEvent) :
    (tape.storeTag cfg event).passedPartyFilterTest = tape.passedPartyFilterTest := by
  unfold storeTag
  split_ifs <;> rfl

theorem addCaptureEvent_rejected {event : CaptureEvent} (hremote : event.type ≠ .etRemoteParty)
    (hlocal : event.type ≠ .etLocalParty) (send : Bool) :
    (tape.addCaptureEvent cfg event send).rejected cfg = tape.rejected cfg := by
  have hpassed := recordEvent_passed cfg tape hremote hlocal
  unfold addCaptureEvent rejected
  rw [storeTag_passed, ← hpassed]
  split <;> rfl

end CapturedTape

namespace Recorder

variable {cfg : PortConfig} {now : Int} {s : Recorder}

/-- No null reference has been given to `Reporting::AddMessage`. -/
def NoNull (reports : List Report) : Prop := ∀ report ∈ reports, report.message ≠ none

theorem noNull_append {front back : List Report} :
    NoNull (front ++ back) ↔ NoNull front ∧ NoNull back := List.forall_mem_append

/-- The event makes a message of a tape. -/
def Reported (cfg : PortConfig) (tape : CapturedTape) : EventType → Prop
  | .etStop | .etEndMetadata | .etUpdate => True
  | .etHold => tape.lastHoldTs = 0 ∧ cfg.holdResumeReportEvents = true
  | .etResume => tape.lastHoldTs > 0 ∧ cfg.holdResumeReportEvents = true
  | _ => False

/-- Where the action makes a message of a tape, the party filter does not reject the tape. -/
def Accepted (cfg : PortConfig) (s : Recorder) : Action → Prop
  | .addCaptureEvent event => ∀ r, s.port.audioTapeRef = some r →
      Reported cfg (s.tapes r) event.type → (s.tapes r).rejected cfg = false
  | .lastMessage => ∀ r, s.port.audioTapeRef = some r → (s.tapes r).rejected cfg = false
  | .report r => r < s.numTapes → (s.tapes r).rejected cfg = false
  | .reportOther tape => tape.rejected cfg = false
  | _ => True

/-- The reports grow by some of which none is null exactly when `accepted` holds. -/
def Reports (s s' : Recorder) (accepted : Prop) : Prop :=
  ∃ new, s'.reports = s.reports ++ new ∧ (NoNull new ↔ accepted)

theorem Reports.none {s' : Recorder} {accepted : Prop} (hreports : s'.reports = s.reports)
    (haccepted : accepted) : Reports s s' accepted := by
  refine ⟨[], by rw [hreports, List.append_nil], ?_⟩
  simp [NoNull, haccepted]

/-- As many messages as before, and the party filter judges the tape as before. -/
def SameFilter (cfg : PortConfig) (r : Nat) (s s' : Recorder) : Prop :=
  s'.reports = s.reports ∧ (s'.tapes r).rejected cfg = (s.tapes r).rejected cfg

theorem SameFilter.modifyTape {s' : Recorder} {r : Nat} (same : SameFilter cfg r s s')
    {f : CapturedTape → CapturedTape} (hf : ∀ tape, (f tape).rejected cfg = tape.rejected cfg) :
    SameFilter cfg r s (s'.modifyTape r f) := by
  refine ⟨same.1, ?_⟩
  calc ((s'.modifyTape r f).tapes r).rejected cfg
      = (f (s'.tapes r)).rejected cfg := by simp [Recorder.modifyTape]
    _ = (s'.tapes r).rejected cfg := hf _
    _ = (s.tapes r).rejected cfg := same.2

theorem SameFilter.addCaptureEvent {s' : Recorder} {r : Nat} (same : SameFilter cfg r s s')
    (event : CaptureEvent) (hevent : CapturedTape.hasStage event.type = true) :
    SameFilter cfg r s (s'.modifyTape r fun tape => tape.addCaptureEvent cfg event true) := by
  apply same.modifyTape
  intro tape
  apply CapturedTape.addCaptureEvent_rejected
  · intro heq
    rw [heq] at hevent
    cases hevent
  · intro heq
    rw [heq] at hevent
    cases hevent

/-- One message of a tape is null when the party filter rejects the tape. -/
theorem SameFilter.reports {before s' : Recorder} {r : Nat} {site : CallSite}
    (same : SameFilter cfg r s before)
    (hreports : s'.reports = (before.report cfg r site).reports) {accepted : Prop}
    (haccepted : (s.tapes r).rejected cfg = false ↔ accepted) : Reports s s' accepted := by
  refine ⟨_, hreports.trans (congrArg (· ++ _) same.1), ?_⟩
  rw [← haccepted, ← same.2, NoNull, List.forall_mem_singleton, ne_eq,
    CapturedTape.getMessage_eq_none, Bool.not_eq_true]

/-- A handled event makes at most one message, of the tape that handles it. -/
theorem handleEvent_reports (cfg : PortConfig) (now : Int) (s : Recorder) (r : Nat)
    (event : CaptureEvent) :
    Reports s (s.handleEvent cfg now r event)
      (Reported cfg (s.tapes r) event.type → (s.tapes r).rejected cfg = false) := by
  have same : SameFilter cfg r s s := ⟨rfl, rfl⟩
  unfold handleEvent
  cases htype : event.type with
  | etStop =>
      have capturing : SameFilter cfg r s { s with port := { s.port with capturing := false } } :=
        ⟨rfl, rfl⟩
      have tagged := capturing.modifyTape (f := fun tape =>
        if cfg.holdResumeReportDuration then
          tape.populateTag "holdduration" (toString tape.holdDuration)
        else tape) (fun tape => by split <;> rfl)
      have added := tagged.addCaptureEvent event (by rw [htype]; rfl)
      exact added.reports rfl (by simp [Reported])
  | etEndMetadata => exact same.reports rfl (by simp [Reported])
  | etUpdate =>
      exact (same.addCaptureEvent event (by rw [htype]; rfl)).reports rfl (by simp [Reported])
  | etHold =>
      have held := same.modifyTape (f := fun tape => { tape with lastHoldTs := longToInt now })
        (fun tape => rfl)
      dsimp only
      split
      · split
        · exact (held.addCaptureEvent event (by rw [htype]; rfl)).reports rfl (by simp [Reported, *])
        · exact Reports.none rfl (by simp [Reported, *])
      · exact Reports.none rfl (by simp [Reported, *])
  | etResume =>
      have resumed := same.modifyTape (f := fun tape =>
        if tape.lastHoldTs > 0 then
          { tape with holdDuration := longToInt (tape.holdDuration + (now - tape.lastHoldTs)) }
        else tape) (fun tape => by split <;> rfl)
      have hlastHoldTs : ((s.modifyTape r fun tape =>
          if tape.lastHoldTs > 0 then
            { tape with holdDuration := longToInt (tape.holdDuration + (now - tape.lastHoldTs)) }
          else tape).tapes r).lastHoldTs = (s.tapes r).lastHoldTs := by
        simp only [Recorder.modifyTape, Function.update_self]
        split <;> rfl
      dsimp only
      rw [hlastHoldTs]
      by_cases hreport : cfg.holdResumeReportEvents = true ∧ (s.tapes r).lastHoldTs > 0
      · simp only [hreport, decide_true, Bool.and_self, if_true]
        exact (resumed.addCaptureEvent event (by rw [htype]; rfl)).reports rfl (by simp [Reported, *])
      · rw [if_neg (by simpa using hreport)]
        exact Reports.none rfl fun hreported => absurd ⟨hreported.2, hreported.1⟩ hreport
  | _ => exact Reports.none rfl (by simp [Reported])

theorem startCapture_reports (cfg : PortConfig) (now : Int) (s : Recorder) (event : CaptureEvent) :
    (s.startCapture cfg now event).reports = s.reports := by
  unfold startCapture
  dsimp only
  split <;> rfl

theorem addCaptureEvent_reports (cfg : PortConfig) (now : Int) (s : Recorder)
    (event : CaptureEvent) :
    Reports s (s.addCaptureEvent cfg now event) (Accepted cfg s (.addCaptureEvent event)) := by
  by_cases hstart : event.type = .etStart
  · -- a start event is not reported
    have haccepted : Accepted cfg s (.addCaptureEvent event) := by
      intro r _ hreported
      rw [hstart] at hreported
      exact hreported.elim
    refine Reports.none ?_ haccepted
    unfold addCaptureEvent
    simp only [if_pos hstart]
    split
    · rw [handleEvent, hstart]
      exact startCapture_reports cfg now _ event
    · exact startCapture_reports cfg now _ event
  · unfold addCaptureEvent
    simp only [if_neg hstart]
    split
    · rename_i r hr
      obtain ⟨new, hreports, hnew⟩ := handleEvent_reports cfg now
        { s with port := { s.port with lastUpdated := now } } r event
      refine ⟨new, hreports, hnew.trans ?_⟩
      constructor
      · intro haccepted i hi
        obtain rfl := Option.some.inj (hr.symm.trans hi)
        exact haccepted
      · intro haccepted
        exact haccepted r hr
    · rename_i hnone
      refine Reports.none rfl ?_
      intro r hr
      exact absurd (hnone.symm.trans hr) (Option.some_ne_none r).symm

/-- An action gives a null reference to `AddMessage` exactly where it is not accepted. -/
theorem act_reports (cfg : PortConfig) (now : Int) (s : Recorder) (a : Action) :
    Reports s (s.act cfg now a) (Accepted cfg s a) := by
  have same (r : Nat) : SameFilter cfg r s s := ⟨rfl, rfl⟩
  cases a with
  | addCaptureEvent event => exact addCaptureEvent_reports cfg now s event
  | newTape => exact Reports.none rfl trivial
  | resetTape => exact Reports.none rfl trivial
  | deliver chunk =>
      refine Reports.none ?_ trivial
      simp only [act, deliver]
      split
      · split <;> rfl
      · rfl
  | lastMessage =>
      simp only [act]
      split
      · rename_i r hr
        refine (same r).reports rfl ?_
        simp only [Accepted, hr, Option.some.injEq, forall_eq']
      · rename_i hnone
        refine Reports.none rfl ?_
        simp [Accepted, hnone]
  | write r =>
      refine Reports.none ?_ trivial
      simp only [act]
      split <;> rfl
  | report r =>
      simp only [act]
      split
      · exact (same r).reports rfl (by simp [Accepted, *])
      · exact Reports.none rfl (by simp [Accepted, *])
  | reportOther tape =>
      refine ⟨_, rfl, ?_⟩
      rw [NoNull, List.forall_mem_singleton, ne_eq, CapturedTape.getMessage_eq_none,
        Bool.not_eq_true]
      rfl

/-- Each action is accepted in the state that it meets. -/
def AllAccepted (cfg : PortConfig) (now : Int) : Recorder → List Action → Prop
  | _, [] => True
  | s, a :: actions => Accepted cfg s a ∧ AllAccepted cfg now (s.act cfg now a) actions

theorem perform_noNull (cfg : PortConfig) (now : Int) (s : Recorder) (actions : List Action) :
    NoNull (s.perform cfg now actions).reports ↔
      NoNull s.reports ∧ AllAccepted cfg now s actions := by
  induction actions generalizing s with
  | nil => simp [perform, AllAccepted]
  | cons a actions ih =>
      obtain ⟨new, hreports, hnew⟩ := act_reports cfg now s a
      have hrest := ih (s.act cfg now a)
      rw [hreports, noNull_append, hnew, and_assoc] at hrest
      exact hrest

/-- Every message that the call makes is made of a tape that the party filter does not
reject. -/
def Passes (cfg : PortConfig) (s : Recorder) (label : Int × Call) : Prop :=
  AllAccepted cfg label.1 (s.enter cfg label.1 label.2) (s.actions cfg label.1 label.2).2

/-- In a run that only makes messages of tapes that the party filter does not reject, no null
reference is given to `AddMessage`. One more call keeps this so exactly where it meets the
same condition. -/
theorem messages_not_null {cfg : PortConfig} {id : String} {labels : List (Int × Call)}
    {s : Recorder} (run : Steps (Guarded (Passes cfg) (Step cfg)) (fresh cfg id) labels s) :
    (∀ report ∈ s.reports, report.message ≠ none) ∧
      ∀ label s', Step cfg s label s' →
        ((∀ report ∈ s'.reports, report.message ≠ none) ↔ Passes cfg s label) := by
  have hnull : NoNull s.reports := by
    apply run.invariant
    · rintro s _ _ hnull ⟨passes, ⟨now, call⟩⟩
      exact (perform_noNull cfg now _ _).mpr ⟨hnull, passes⟩
    · simp [NoNull, fresh]
  refine ⟨hnull, ?_⟩
  rintro _ _ ⟨now, call⟩
  exact (perform_noNull cfg now _ _).trans (and_iff_right hnull)

/-- With a party filter that the local party passes, the stop message is there. -/
theorem messages_not_null_passed :
    ∃ s report, Steps (Step { partyFilter := ["100"] }) (fresh { partyFilter := ["100"] } "p")
        [(1, .addCaptureEvent { type := .etStart }),
          (1, .addCaptureEvent { type := .etLocalParty, value := "100" }),
          (9, .addCaptureEvent { type := .etStop })] s ∧
      s.reports = [report] ∧ report.message ≠ none := by
  obtain ⟨s, report, hs, hreports⟩ : ∃ s report,
      Steps (Guarded (Passes { partyFilter := ["100"] }) (Step { partyFilter := ["100"] }))
        (fresh { partyFilter := ["100"] } "p")
        [(1, .addCaptureEvent { type := .etStart }),
          (1, .addCaptureEvent { type := .etLocalParty, value := "100" }),
          (9, .addCaptureEvent { type := .etStop })] s ∧ s.reports = [report] := by
    refine ⟨_, _, .cons ⟨⟨?_, trivial⟩, .call _ _ _⟩ (.cons ⟨⟨?_, trivial⟩, .call _ _ _⟩
      (.cons ⟨⟨?_, trivial⟩, .call _ _ _⟩ (.nil _))), rfl⟩
    · intro r hr
      cases hr
    · intro r _ hreported
      exact hreported.elim
    · rintro _ ⟨⟩ _
      decide
  obtain ⟨hnull, -⟩ := messages_not_null hs
  exact ⟨s, report, hs.of_guarded, hreports, hnull report (by rw [hreports]; exact .head _)⟩

/-- The stop event of a call of which no party passes the filter. -/
theorem rejected_stop_null :
    ∃ s report, Steps (Step { partyFilter := ["100"] }) (fresh { partyFilter := ["100"] } "p")
        [(1, .addCaptureEvent { type := .etStart }), (9, .addCaptureEvent { type := .etStop })] s ∧
      s.reports = [report] ∧ report.message = none := by
  refine ⟨_, _, .cons (.call _ _ _) (.cons (.call _ _ _) (.nil _)), rfl, rfl⟩

end Recorder

end OrkAudio
