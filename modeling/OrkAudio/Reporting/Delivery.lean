import OrkAudio.Lib.Fallible
import OrkAudio.Reporting.Model

/-! When the reporting thread goes on to the next message. -/

namespace OrkAudio.Reporting

open Lib hiding Bytes
open Serializer

/-! ### Responses that can be read -/

/-- Each of the response's booleans is missing, empty, or one of the texts for true and
false, in any case. -/
def Response.Readable (r : Response) (body : Bytes) : Prop :=
  ∀ key ∈ r.booleans,
    readBool (toLower (getString ((SingleLine.deSerialize body).getD .empty) key [])) ≠ none

theorem succeeds_getBool (map : OrderedMap Bytes Bytes) (key : Bytes) (value : Bool) :
    Succeeds (getBool map key value) ↔ readBool (toLower (getString map key [])) ≠ none := by
  rw [getBool]
  cases hread : readBool (toLower (getString map key [])) with
  | none => simp
  | some given => simp

theorem succeeds_map {ε α β : Type} {x : Except ε α} {f : α → β} :
    Succeeds (x.map f) ↔ Succeeds x := by
  cases x <;> simp [Except.map]

theorem SimpleResponseMsg.succeeds_define {r : SimpleResponseMsg}
    {map : OrderedMap Bytes Bytes} :
    Succeeds (r.define map) ↔
      readBool (toLower (getString map (text "success") [])) ≠ none := by
  rw [SimpleResponseMsg.define, succeeds_bind, ← succeeds_getBool map (text "success") r.success]
  constructor
  · intro ⟨success, hsuccess, _⟩
    exact ⟨success, hsuccess⟩
  · intro ⟨success, hsuccess⟩
    exact ⟨success, hsuccess, succeeds_ok _⟩

theorem TapeResponse.succeeds_define {r : TapeResponse} {map : OrderedMap Bytes Bytes} :
    Succeeds (r.define map) ↔
      readBool (toLower (getString map (text "success") [])) ≠ none ∧
        readBool (toLower (getString map (text "deletetape") [])) ≠ none := by
  rw [TapeResponse.define, succeeds_bind]
  constructor
  · intro ⟨simple, hsimple, hrest⟩
    obtain ⟨deleteTape, hdelete, _⟩ := succeeds_bind.mp hrest
    exact ⟨SimpleResponseMsg.succeeds_define.mp ⟨simple, hsimple⟩,
      (succeeds_getBool _ _ _).mp ⟨deleteTape, hdelete⟩⟩
  · intro ⟨hsuccess, hdelete⟩
    obtain ⟨simple, hsimple⟩ :=
      (SimpleResponseMsg.succeeds_define (r := r.toSimpleResponseMsg)).mpr hsuccess
    obtain ⟨deleteTape, hdeleteTape⟩ := (succeeds_getBool _ _ r.deleteTape).mpr hdelete
    exact ⟨simple, hsimple, succeeds_bind.mpr ⟨deleteTape, hdeleteTape, succeeds_ok _⟩⟩

theorem Response.succeeds_deSerialize {r : Response} {body : Bytes} :
    Succeeds (r.deSerializeSingleLine body) ↔ r.Readable body := by
  rw [Response.deSerializeSingleLine, Response.Readable]
  cases r with
  | simple r =>
      simp [Response.define, Response.booleans, succeeds_map, SimpleResponseMsg.succeeds_define]
  | tape r =>
      simp [Response.define, Response.booleans, succeeds_map, TapeResponse.succeeds_define]

/-- `Execute` throws on an answer that cannot be read, and on nothing else. -/
theorem execute_response (r : Response) (body : Bytes) :
    (∃ r', execute r (.response body) = .ok (true, r') ∧ r.Readable body) ∨
      ∃ e, execute r (.response body) = .error e ∧ ¬ r.Readable body := by
  cases hread : r.deSerializeSingleLine body with
  | ok r' =>
      refine .inl ⟨r', ?_, Response.succeeds_deSerialize.mp ⟨r', hread⟩⟩
      simp [execute, hread, bind, Except.bind, pure, Except.pure]
  | error e =>
      refine .inr ⟨e, ?_, ?_⟩
      · simp [execute, hread, bind, Except.bind]
      · rw [← Response.succeeds_deSerialize, hread]
        exact not_succeeds_error e

/-! ### Why the thread goes on -/

/-- The thread may go on from the message. -/
def Attempt.Settled (a : Attempt) : Prop :=
  a.message.isValid = false ∨ a.message.isRealtime = true ∨ a.executes.getLast? = some (.ok true)

def Label.IsSkip : Label → Prop
  | .skipTapes _ => True
  | _ => False

namespace ReportingThread

variable {cfg : Config} {s s' t : ReportingThread} {label : Label} {labels : List Label}

/-- The messages gone on from, the current one and those in the queue are the ones that were
put in the queue. -/
def InOrder (s : ReportingThread) : Prop :=
  s.handled.map Attempt.message ++ (s.current.toList.map Attempt.message ++ s.queue) = s.queued

structure Kept (s : ReportingThread) : Prop where
  inOrder : s.InOrder
  settled : ∀ a ∈ s.handled, a.Settled

/-- What the step needs of the tracker: the answer for a message that is not realtime can be
read. -/
def Tolerated (s : ReportingThread) : Label → Prop
  | .attempt (.response body) _ =>
      ∀ a, s.current = some a → a.message.isRealtime = false → a.response.Readable body
  | _ => True

structure Inv (s : ReportingThread) : Prop where
  inOrder : s.InOrder
  reportable : ∀ m ∈ s.queue, m.isReportable = true
  current : ∀ a, s.current = some a → a.message.isValid = true
  noSkip : s.numTapesToSkip ≤ 0

theorem start_inv : Inv {} where
  inOrder := rfl
  reportable := by simp
  current := by simp
  noSkip := by simp

/-- A round of the retry loop. -/
inductive Round (s : ReportingThread) (a : Attempt) : Outcome → ReportingThread → Prop
  | delivered {body : Bytes} (readable : a.response.Readable body) (r : Response)
      (actions : List Action) :
      Round s a (.response body) ({ s with actions := actions }.goOn
        { a with response := r, executes := a.executes ++ [Except.ok true] })
  | thrown {body : Bytes} (unreadable : ¬ a.response.Readable body) (e : Bytes) :
      Round s a (.response body) (s.goOn { a with executes := a.executes ++ [Except.error e] })
  | realtime (hrealtime : a.message.isRealtime = true) :
      Round s a .failure (s.goOn { a with executes := a.executes ++ [Except.ok false] })
  | retry (hrealtime : a.message.isRealtime = false) :
      Round s a .failure { s with current := some { a with executes := a.executes ++ [Except.ok false] } }

theorem attempt_round (hskip : s.numTapesToSkip ≤ 0) (a : Attempt) (outcome : Outcome)
    (throws : Option Nat) : Round s a outcome (s.attempt cfg a outcome throws) := by
  rw [attempt, if_neg (by omega)]
  cases outcome with
  | failure =>
      cases hrealtime : a.message.isRealtime with
      | true =>
          rw [execute]
          simp only [if_true]
          exact .realtime hrealtime
      | false =>
          rw [execute]
          simp only
          exact .retry hrealtime
  | response body =>
      rcases execute_response a.response body with ⟨r, hexecute, readable⟩ | ⟨e, hexecute, unreadable⟩
      · rw [hexecute]
        exact .delivered readable r _
      · rw [hexecute]
        exact .thrown unreadable e

/-- From `pop` to the retry loop: only an invalid message is gone on from at once. -/
theorem begin_cases (henabled : cfg.enableReporting = true) {message : Message}
    (hreportable : message.isReportable = true) :
    (message.isValid = false ∧
        s.begin cfg message = s.goOn { message := message, response := message.createResponse }) ∨
      (message.isValid = true ∧
        s.begin cfg message =
          { s with current := some { message := message, response := message.createResponse } }) := by
  cases hvalid : message.isValid with
  | false => exact .inl ⟨rfl, by simp [begin, hvalid]⟩
  | true => exact .inr ⟨rfl, by simp [begin, hvalid, hreportable, henabled]⟩

/-! ### A step keeps the invariant -/

theorem goOn_inv {a : Attempt} (inv : s.Inv) (hcurrent : s.current.toList.map Attempt.message = [a.message]) :
    (s.goOn a).Inv where
  inOrder := by
    have horder := inv.inOrder
    rw [InOrder, hcurrent] at horder
    simpa [InOrder, goOn] using horder
  reportable := inv.reportable
  current := by simp [goOn]
  noSkip := inv.noSkip

theorem addMessage_inv (inv : s.Inv) (message : Message) : (s.addMessage cfg message).Inv := by
  rw [addMessage]
  split_ifs with hreportable hroom
  · exact inv
  · constructor
    · have horder := inv.inOrder
      rw [InOrder] at horder ⊢
      simp only [← horder, List.append_assoc]
    · intro m hm
      rcases List.mem_append.mp hm with hm | hm
      · exact inv.reportable m hm
      · rw [List.mem_singleton.mp hm]
        simpa using hreportable
    · exact inv.current
    · exact inv.noSkip
  · exact inv

theorem pop_inv (henabled : cfg.enableReporting = true) (inv : s.Inv) (hidle : s.current = none)
    {message : Message} {rest : List Message} (hqueue : s.queue = message :: rest) :
    ({ s with queue := rest }.begin cfg message).Inv := by
  have hreportable := inv.reportable message (by simp [hqueue])
  have hrest : ∀ m ∈ rest, m.isReportable = true := by
    intro m hm
    exact inv.reportable m (by simp [hqueue, hm])
  have horder := inv.inOrder
  rw [InOrder, hidle, hqueue] at horder
  rcases begin_cases (s := { s with queue := rest }) henabled hreportable with
    ⟨_, hbegin⟩ | ⟨hvalid, hbegin⟩
  · rw [hbegin]
    exact ⟨by simpa [InOrder, goOn, hidle] using horder, hrest, by simp [goOn], inv.noSkip⟩
  · rw [hbegin]
    refine ⟨by simpa [InOrder] using horder, hrest, ?_, inv.noSkip⟩
    intro a ha
    cases ha
    exact hvalid

theorem round_inv {a : Attempt} {outcome : Outcome} (inv : s.Inv) (hcurrent : s.current = some a)
    (round : s.Round a outcome s') : s'.Inv := by
  have hmessage : s.current.toList.map Attempt.message = [a.message] := by simp [hcurrent]
  cases round with
  | delivered readable r actions =>
      have hactions : Inv { s with actions := actions } :=
        ⟨inv.inOrder, inv.reportable, inv.current, inv.noSkip⟩
      exact goOn_inv hactions hmessage
  | thrown unreadable e => exact goOn_inv inv hmessage
  | realtime hrealtime => exact goOn_inv inv hmessage
  | retry hrealtime =>
      have horder := inv.inOrder
      rw [InOrder, hmessage] at horder
      refine ⟨by simpa [InOrder] using horder, inv.reportable, ?_, inv.noSkip⟩
      intro b hb
      cases hb
      exact inv.current a hcurrent

/-- What a step does: it leaves the thread alone, takes a message from the queue, or makes a
round of the retry loop. -/
inductive Move (cfg : Config) (s : ReportingThread) : Label → ReportingThread → Prop
  | added (message : Message) : Move cfg s (.addMessage message) (s.addMessage cfg message)
  | popped (hidle : s.current = none) {message : Message} {rest : List Message}
      (hqueue : s.queue = message :: rest) :
      Move cfg s .pop ({ s with queue := rest }.begin cfg message)
  | tried {s' : ReportingThread} {a : Attempt} (hcurrent : s.current = some a) {outcome : Outcome}
      (throws : Option Nat) (round : s.Round a outcome s') : Move cfg s (.attempt outcome throws) s'

theorem step_move (inv : s.Inv) (hskip : ¬ label.IsSkip) (hstep : Step cfg s label s') :
    Move cfg s label s' := by
  cases label with
  | addMessage message =>
      cases hstep
      exact .added message
  | skipTapes number => exact absurd trivial hskip
  | pop =>
      rw [Step, step] at hstep
      split at hstep
      · rename_i message rest hidle hqueue
        cases hstep
        exact .popped hidle hqueue
      · cases hstep
  | attempt outcome throws =>
      rw [Step, step] at hstep
      obtain ⟨a, hcurrent, rfl⟩ := Option.map_eq_some_iff.mp hstep
      exact .tried hcurrent throws (attempt_round inv.noSkip a outcome throws)

theorem move_inv (henabled : cfg.enableReporting = true) (inv : s.Inv)
    (move : Move cfg s label s') : s'.Inv := by
  cases move with
  | added message => exact addMessage_inv inv message
  | popped hidle hqueue => exact pop_inv henabled inv hidle hqueue
  | tried hcurrent throws round => exact round_inv inv hcurrent round

/-! ### What a step settles -/

theorem move_handled (move : Move cfg s label s') : s.handled ⊆ s'.handled := by
  cases move with
  | added message =>
      rw [addMessage]
      split_ifs <;> exact List.Subset.refl _
  | popped hidle hqueue =>
      rw [begin]
      split_ifs
      all_goals first | exact List.subset_append_left _ _ | exact List.Subset.refl _
  | tried hcurrent throws round =>
      cases round with
      | delivered => exact List.subset_append_left _ _
      | thrown => exact List.subset_append_left _ _
      | realtime => exact List.subset_append_left _ _
      | retry => exact List.Subset.refl _

theorem settled_append {a : Attempt} (settled : ∀ b ∈ s.handled, b.Settled) (ha : a.Settled) :
    ∀ b ∈ (s.goOn a).handled, b.Settled := by
  intro b hb
  rcases List.mem_append.mp hb with hb | hb
  · exact settled b hb
  · rw [List.mem_singleton.mp hb]
    exact ha

/-- A step that the tracker's answer does not break settles what it goes on from. -/
theorem move_settled (henabled : cfg.enableReporting = true) (inv : s.Inv)
    (move : Move cfg s label s') (tolerated : s.Tolerated label)
    (settled : ∀ a ∈ s.handled, a.Settled) : ∀ a ∈ s'.handled, a.Settled := by
  cases move with
  | added message =>
      rw [addMessage]
      split_ifs <;> exact settled
  | @popped hidle message rest hqueue =>
      have hreportable := inv.reportable message (by simp [hqueue])
      rcases begin_cases (s := { s with queue := rest }) henabled hreportable with
        ⟨hvalid, hbegin⟩ | ⟨_, hbegin⟩
      · rw [hbegin]
        exact settled_append settled (.inl hvalid)
      · rw [hbegin]
        exact settled
  | @tried _ a hcurrent outcome throws round =>
      cases round with
      | delivered readable r actions => exact settled_append settled (.inr (.inr (by simp)))
      | thrown unreadable e =>
          apply settled_append settled
          cases hrealtime : a.message.isRealtime with
          | true => exact .inr (.inl hrealtime)
          | false => exact absurd (tolerated a hcurrent hrealtime) unreadable
      | realtime hrealtime => exact settled_append settled (.inr (.inl hrealtime))
      | retry hrealtime => exact settled

/-- An answer that breaks the step loses the message. -/
theorem move_lost (inv : s.Inv) (move : Move cfg s label s') (broken : ¬ s.Tolerated label) :
    ∃ a ∈ s'.handled, ¬ a.Settled := by
  cases move with
  | added message => exact absurd trivial broken
  | popped hidle hqueue => exact absurd trivial broken
  | @tried _ a hcurrent outcome throws round =>
      cases round with
      | delivered readable r actions =>
          refine absurd ?_ broken
          intro b hb _
          rw [hcurrent] at hb
          cases hb
          exact readable
      | thrown unreadable e =>
          have hrealtime : a.message.isRealtime = false := by
            cases hrealtime : a.message.isRealtime with
            | false => rfl
            | true =>
                refine absurd ?_ broken
                intro b hb hother
                rw [hcurrent] at hb
                cases hb
                rw [hrealtime] at hother
                cases hother
          refine ⟨_, List.mem_append_right _ List.mem_cons_self, ?_⟩
          simp [Attempt.Settled, inv.current a hcurrent, hrealtime]
      | realtime => exact absurd trivial broken
      | retry => exact absurd trivial broken

/-! ### Runs -/

theorem run_inv (henabled : cfg.enableReporting = true) (hskip : ∀ l ∈ labels, ¬ l.IsSkip)
    (run : Steps (Step cfg) s labels t) (inv : s.Inv) : t.Inv := by
  apply run.invariant_of_labels (fun l => ¬ l.IsSkip) _ hskip inv
  intro s label s' hlabel inv hstep
  exact move_inv henabled inv (step_move inv hlabel hstep)

theorem run_handled (henabled : cfg.enableReporting = true) (hskip : ∀ l ∈ labels, ¬ l.IsSkip)
    (run : Steps (Step cfg) s labels t) (inv : s.Inv) : s.handled ⊆ t.handled := by
  induction run with
  | nil => exact List.Subset.refl _
  | cons first rest ih =>
      have move := step_move inv (hskip _ List.mem_cons_self) first
      have hrest := ih (fun l hl => hskip l (List.mem_cons_of_mem _ hl))
        (move_inv henabled inv move)
      exact List.Subset.trans (move_handled move) hrest

theorem run_settled_iff (henabled : cfg.enableReporting = true)
    (hskip : ∀ l ∈ labels, ¬ l.IsSkip) (run : Steps (Step cfg) s labels t) (inv : s.Inv)
    (settled : ∀ a ∈ s.handled, a.Settled) :
    (∀ a ∈ t.handled, a.Settled) ↔ Steps (Guarded Tolerated (Step cfg)) s labels t := by
  induction run with
  | nil s => exact ⟨fun _ => .nil s, fun _ => settled⟩
  | @cons s s' t label labels first rest ih =>
      have hlabels : ∀ l ∈ labels, ¬ l.IsSkip := fun l hl => hskip l (List.mem_cons_of_mem _ hl)
      have move := step_move inv (hskip _ List.mem_cons_self) first
      have inv' := move_inv henabled inv move
      by_cases tolerated : s.Tolerated label
      · rw [ih hlabels inv' (move_settled henabled inv move tolerated settled)]
        constructor
        · intro guarded
          exact .cons ⟨tolerated, first⟩ guarded
        · intro guarded
          cases guarded with
          | cons head tail =>
              rw [Step, head.2] at first
              cases first
              exact tail
      · obtain ⟨a, ha, lost⟩ := move_lost inv move tolerated
        constructor
        · intro allSettled
          exact absurd (allSettled a (run_handled henabled hlabels rest inv' ha)) lost
        · intro guarded
          cases guarded with
          | cons head tail => exact absurd head.1 tolerated

/-- With reporting enabled and no request to skip, the messages are handled in the order of
the queue, and the thread goes on from each one for a good reason, exactly where every answer
to a message that is not realtime can be read. -/
theorem run_kept_iff (henabled : cfg.enableReporting = true) (hskip : ∀ l ∈ labels, ¬ l.IsSkip)
    (run : Steps (Step cfg) {} labels t) :
    t.Kept ↔ Steps (Guarded Tolerated (Step cfg)) {} labels t := by
  rw [← run_settled_iff henabled hskip run start_inv (by simp)]
  constructor
  · intro kept
    exact kept.settled
  · intro settled
    exact ⟨(run_inv henabled hskip run start_inv).inOrder, settled⟩

/-! A finished recording is reported, the first time without success. -/

section

def readyConfig : Config where
  enableReporting := true
  reportingQueueSize := 20000
  audioOutputPath := "/var/log/orkaudio"
  pauseRecordingOnRejectedStart := false
  lookBackRecording := true
  allowAutomaticRecording := true

def ready : Message := .tape { recId := "1", stage := "ready" }

def readyRun (body : String) : List Label :=
  [.addMessage ready, .pop, .attempt .failure none, .attempt (.response (text body)) none]

/-- The thread after its second attempt, which gave `result`. -/
def readyEnd (result : Except Bytes Bool) (r : Response) : ReportingThread where
  handled := [{ message := ready, response := r, executes := [.ok false, result] }]
  queued := [ready]

theorem readyRun_noSkip (body : String) : ∀ l ∈ readyRun body, ¬ l.IsSkip := by
  simp [readyRun, Label.IsSkip]

theorem readyRun_answered :
    Steps (Step readyConfig) {} (readyRun "success=True")
      (readyEnd (.ok true) (.tape { success := true })) :=
  .cons rfl (.cons rfl (.cons rfl (.cons rfl (.nil _))))

theorem run_kept_iff_ready :
    (readyEnd (.ok true) (.tape { success := true })).Kept ↔
      Steps (Guarded Tolerated (Step readyConfig)) {} (readyRun "success=True")
        (readyEnd (.ok true) (.tape { success := true })) :=
  run_kept_iff rfl (readyRun_noSkip _) readyRun_answered

def unreadableText : Bytes :=
  text "Serializer: Invalid boolean value:maybe for parameter:success"

/-- An answer whose boolean is not one of the six texts ends the attempts. -/
theorem run_loses_ready_message :
    ¬ ∀ (cfg : Config) (labels : List Label) (t : ReportingThread), cfg.enableReporting = true →
      (∀ l ∈ labels, ¬ l.IsSkip) → Steps (Step cfg) {} labels t → t.Kept := by
  intro claim
  have run : Steps (Step readyConfig) {} (readyRun "success=maybe")
      (readyEnd (.error unreadableText) (.tape {})) :=
    .cons rfl (.cons rfl (.cons rfl (.cons rfl (.nil _))))
  have kept := claim readyConfig _ _ rfl (readyRun_noSkip _) run
  have settled := kept.settled _ List.mem_cons_self
  rcases settled with hvalid | hrealtime | hdelivered
  · exact absurd hvalid (by decide)
  · exact absurd hrealtime (by decide)
  · simp at hdelivered

end

end ReportingThread

end OrkAudio.Reporting
