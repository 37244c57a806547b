import OrkAudio.Skinny.Scan
import OrkAudio.VoIp.Runs

/-! Which messages lead to which calls of the store of the sessions. -/

namespace OrkAudio.Skinny

open Lib VoIp

/-! ### Reports by the type of the message -/

/-- The types of the messages that a report belongs to. -/
def Report.messageTypes : Report → List UInt32
  | .startMediaTransmission _ => [skMessageStartMediaTransmission]
  | .stopMediaTransmission _ => [skMessageStopMediaTransmission, skMessageCloseReceiveChannel]
  | .callInfo _ => [skMessageCallInfo, skMessageCcm5CallInfo]
  | .callStateMessage _ => [skMessageCallState]
  | .openReceiveChannelAck _ => [skMessageOpenReceiveChannelAck]
  | .lineStat _ => [skMessageLineStat]
  | .softKeyHold _ => [skMessageSoftKeyEvent]
  | .softKeyResume _ => [skMessageSoftKeyEvent]
  | .softKeyConfPressed => [skMessageSoftKeyEvent]
  | .softKeySetConfConnected => [skMessageSoftKeySetDescription]
  | .softKeySetTransfConnected _ => [skMessageSoftKeySetDescription]

def Report.Belongs (type : UInt32) (report : Report) : Prop := type ∈ report.messageTypes

instance Report.decidableBelongs (type : UInt32) (report : Report) :
    Decidable (report.Belongs type) := inferInstanceAs (Decidable (_ ∈ _))

variable {cfg : Config} {type : UInt32} {data : List UInt8} {report : Report}

theorem belongs_of_mem_singleton {own : Report} (hown : own.Belongs type)
    (hreport : report ∈ [own]) : report.Belongs type := by
  rwa [List.mem_singleton.mp hreport]

theorem belongs_of_mem_softKeyEventReports {softKeyEvent callIdentifier : UInt32}
    (hreport : report ∈ softKeyEventReports cfg softKeyEvent callIdentifier) :
    report.Belongs skMessageSoftKeyEvent := by
  unfold softKeyEventReports at hreport
  split_ifs at hreport
  · exact belongs_of_mem_singleton List.mem_cons_self hreport
  · exact belongs_of_mem_singleton List.mem_cons_self hreport
  · exact belongs_of_mem_singleton List.mem_cons_self hreport
  · cases hreport

theorem belongs_of_mem_softKeySetReports {softKeySetDescription callIdentifier : UInt32}
    (hreport : report ∈ softKeySetReports cfg softKeySetDescription callIdentifier) :
    report.Belongs skMessageSoftKeySetDescription := by
  unfold softKeySetReports at hreport
  split_ifs at hreport
  · exact belongs_of_mem_singleton List.mem_cons_self hreport
  · cases hreport
  · exact belongs_of_mem_singleton List.mem_cons_self hreport
  · cases hreport

/-- Each structure is reported as the messages of its type are. -/
theorem belongs_of_mem_reports {layout : Layout} (hlayout : layout ∈ layoutsOf type)
    (hreport : report ∈ layout.reports cfg data) : report.Belongs type := by
  unfold layoutsOf at hlayout
  split_ifs at hlayout with hstart hstop hcallInfo hcallState hopen hline hevent hset
  · subst hstart
    rcases List.mem_pair.mp hlayout with rfl | rfl
    · exact belongs_of_mem_singleton List.mem_cons_self hreport
    · exact belongs_of_mem_singleton List.mem_cons_self hreport
  · rw [List.mem_singleton.mp hlayout] at hreport
    rcases hstop with rfl | rfl
    · exact belongs_of_mem_singleton List.mem_cons_self hreport
    · exact belongs_of_mem_singleton (List.mem_cons_of_mem _ List.mem_cons_self) hreport
  · subst hcallInfo
    rw [List.mem_singleton.mp hlayout] at hreport
    exact belongs_of_mem_singleton List.mem_cons_self hreport
  · subst hcallState
    rw [List.mem_singleton.mp hlayout] at hreport
    exact belongs_of_mem_singleton List.mem_cons_self hreport
  · subst hopen
    rcases List.mem_pair.mp hlayout with rfl | rfl
    · exact belongs_of_mem_singleton List.mem_cons_self hreport
    · exact belongs_of_mem_singleton List.mem_cons_self hreport
  · subst hline
    rw [List.mem_singleton.mp hlayout] at hreport
    exact belongs_of_mem_singleton List.mem_cons_self hreport
  · subst hevent
    rw [List.mem_singleton.mp hlayout] at hreport
    exact belongs_of_mem_softKeyEventReports hreport
  · subst hset
    rw [List.mem_singleton.mp hlayout] at hreport
    exact belongs_of_mem_softKeySetReports hreport
  · cases hlayout

theorem belongs_of_mem_layoutReports
    (hreport : report ∈ layoutReports cfg (layoutsOf type) data) : report.Belongs type := by
  unfold layoutReports at hreport
  cases hfind : (layoutsOf type).find? fun layout => layout.validate data with
  | none =>
      rw [hfind] at hreport
      cases hreport
  | some layout =>
      rw [hfind] at hreport
      exact belongs_of_mem_reports (List.mem_of_find?_eq_some hfind) hreport

/-- Only a CallState that passes for a CCM5 CallInfo is reported as a message of another type. -/
theorem reportsAs_belong_iff : (∀ report ∈ reportsAs cfg type data, report.Belongs type) ↔
    ¬ (type = skMessageCallState ∧ skinnyValidateCcm5CallInfo data = true) := by
  have hlayouts : ∀ report ∈ layoutReports cfg (layoutsOf type) data, report.Belongs type :=
    fun report hreport => belongs_of_mem_layoutReports hreport
  rw [reportsAs, List.forall_mem_append]
  by_cases hcallInfo : type = skMessageCallState ∨ type = skMessageCcm5CallInfo
  · rw [if_pos hcallInfo, ccm5Reports]
    by_cases hvalid : skinnyValidateCcm5CallInfo data = true
    · rw [if_pos hvalid, List.forall_mem_singleton]
      rcases hcallInfo with rfl | rfl
      · constructor
        · intro belongs
          exact absurd belongs.2 (by simp [Report.Belongs, Report.messageTypes, skMessageCallState,
            skMessageCallInfo, skMessageCcm5CallInfo])
        · intro hother
          exact absurd ⟨rfl, hvalid⟩ hother
      · constructor
        · intro belongs hcallState
          exact absurd hcallState.1 (by decide)
        · intro hother
          exact ⟨hlayouts, List.mem_cons_of_mem _ (List.mem_singleton_self _)⟩
    · rw [if_neg hvalid]
      constructor
      · intro belongs hcallState
        exact hvalid hcallState.2
      · intro hother
        exact ⟨hlayouts, List.forall_mem_nil _⟩
  · rw [if_neg hcallInfo]
    constructor
    · intro belongs hcallState
      exact hcallInfo (.inl hcallState.1)
    · intro hother
      exact ⟨hlayouts, List.forall_mem_nil _⟩

/-! ### The store -/

/-- The call of `VoIpSessions`; phones send the soft keys, the rest comes to them. -/
def Report.operation (headers : SkinnyHeaders) : Report → Operation
  | .startMediaTransmission startMedia => .skinnyStartMediaTransmission startMedia headers
  | .stopMediaTransmission stopMedia => .skinnyStopMediaTransmission stopMedia headers
  | .callInfo info => .skinnyCallInfo info headers
  | .callStateMessage message => .skinnyCallState message headers
  | .openReceiveChannelAck openReceive => .skinnyOpenReceiveChannelAck openReceive headers
  | .lineStat line => .skinnyLineStat line headers
  | .softKeyHold skEvent => .skinnySoftKeyHold skEvent headers
  | .softKeyResume skEvent => .skinnySoftKeyResume skEvent headers
  | .softKeyConfPressed => .skinnySoftKeyConfPressed headers.ipSrc headers.tcpSource
  | .softKeySetConfConnected => .skinnySoftKeySetConfConnected headers.ipDest headers.tcpDest
  | .softKeySetTransfConnected skEvent => .skinnySoftKeySetTransfConnected skEvent headers

/-- What a message does to the sessions. -/
def handleOn (cfg : Config) (env : Env) (headers : SkinnyHeaders) (data : List UInt8)
    (st : VoIpSessions) : VoIpSessions :=
  (handleSkinnyMessage cfg data).1.foldl
    (fun st report => Operation.run cfg.toConfig env st (report.operation headers)) st

/-- No session is created, relabelled, registered or stopped: at most they go on hold. -/
structure OnlyHolds (st after : VoIpSessions) : Prop where
  next : after.next = st.next
  byCallId : after.byCallId = st.byCallId
  byIpAndPort : after.byIpAndPort = st.byIpAndPort
  shared : after.shared = st.shared
  history : after.history = st.history
  session : ∀ r, after.session r =
    { st.session r with
      onHold := (after.session r).onHold
      holdBegin := (after.session r).holdBegin
      output := (after.session r).output }

theorem OnlyHolds.refl (st : VoIpSessions) : OnlyHolds st st := by
  constructor
  all_goals intros; rfl

theorem goOnHold_keeps (cfg : VoIp.Config) (onHoldTime : Int) (keys : SessionKeys)
    (c : Context) : (goOnHold cfg onHoldTime keys c).2.shared = c.shared ∧
      (goOnHold cfg onHoldTime keys c).2.session =
        { c.session with
          onHold := (goOnHold cfg onHoldTime keys c).2.session.onHold
          holdBegin := (goOnHold cfg onHoldTime keys c).2.session.holdBegin } := by
  rw [goOnHold, session_bind]
  by_cases hstarted : c.session.started = true
  · rw [if_pos hstarted, update_bind]
    split_ifs
    · exact ⟨rfl, rfl⟩
    · exact ⟨rfl, rfl⟩
  · rw [if_neg hstarted]
    exact ⟨rfl, rfl⟩

theorem onlyHolds_perform {m : SessionM Unit} (st : VoIpSessions) (r : Nat)
    (hkeeps : ∀ keys c, (m keys c).2.shared = c.shared ∧
      (m keys c).2.session =
        { c.session with
          onHold := (m keys c).2.session.onHold
          holdBegin := (m keys c).2.session.holdBegin }) :
    OnlyHolds st (st.perform r m) := by
  have hrun := hkeeps (st.session r).toSessionKeys
    { shared := st.shared, session := (st.session r).toSessionData }
  constructor
  · rfl
  · rfl
  · rfl
  · exact hrun.1
  · rfl
  · intro q
    by_cases hq : q = r
    · subst hq
      have hsession : (st.perform q m).session q = ((st.session q).run m st.shared).2.2 :=
        if_pos rfl
      rw [hsession]
      exact congrArg (fun data =>
        ({ st.session q with
            toSessionData := data
            output := ((st.session q).run m st.shared).2.2.output } : VoIpSession)) hrun.2
    · have hsession : (st.perform r m).session q = st.session q := if_neg hq
      rw [hsession]

theorem onlyHolds_callState (env : Env) (message : SkCallStateMessage)
    (headers : SkinnyHeaders) (st : VoIpSessions) :
    OnlyHolds st (st.reportSkinnyCallStateMessage cfg.toConfig env message headers) := by
  rw [VoIpSessions.reportSkinnyCallStateMessage]
  cases hfind : st.byCallId.find?
      (generateSkinnyCallId cfg.toConfig headers.ipDest headers.tcpDest message.callId) with
  | none => exact .refl st
  | some r =>
      have hkeeps : OnlyHolds st (st.perform r (reportSkinnyCallState cfg.toConfig env message)) := by
        apply onlyHolds_perform
        intro keys c
        rw [reportSkinnyCallState]
        split_ifs
        · exact goOnHold_keeps cfg.toConfig env.time keys c
        · exact ⟨rfl, rfl⟩
      exact hkeeps

/-- A message keeps to the reports of its type just when it is no CallState that passes for a
CCM5 CallInfo; as a CallState it then leaves the calls alone. -/
theorem handleSkinnyMessage_belongs_iff (cfg : Config) (data : List UInt8) :
    ((∀ report ∈ (handleSkinnyMessage cfg data).1, report.Belongs (messageType data)) ∧
        (messageType data = skMessageCallState → ∀ env headers st,
          OnlyHolds st (handleOn cfg env headers data st))) ↔
      ¬ (messageType data = skMessageCallState ∧ skinnyValidateCcm5CallInfo data = true) := by
  constructor
  · intro keeps
    exact reportsAs_belong_iff.mp keeps.1
  · intro hother
    constructor
    · exact reportsAs_belong_iff.mpr hother
    · intro hcallState env headers st
      have hinvalid : ¬ skinnyValidateCcm5CallInfo data = true :=
        fun hvalid => hother ⟨hcallState, hvalid⟩
      have hreports : (handleSkinnyMessage cfg data).1 =
          layoutReports cfg [skCallStateMessage] data := by
        rw [handleSkinnyMessage, hcallState, reportsAs, if_pos (.inl rfl), ccm5Reports,
          if_neg hinvalid, List.append_nil]
        rfl
      rw [handleOn, hreports, layoutReports]
      cases hfind : [skCallStateMessage].find? fun layout => layout.validate data with
      | none => exact .refl st
      | some layout =>
          have hlayout := List.mem_singleton.mp (List.mem_of_find?_eq_some hfind)
          subst hlayout
          exact onlyHolds_callState env _ headers st

/-- A CallState with other bytes behind it, which are read as parties. -/
def callStateAhead : List UInt8 :=
  [16, 0, 0, 0, 0, 0, 0, 0, 0x11, 1, 0, 0] ++ [5, 0, 0, 0] ++ [1, 0, 0, 0] ++ [1, 0, 0, 0] ++
    List.replicate 20 0 ++ [0x31, 0, 0x32, 0]

/-- It creates a session. -/
theorem callState_reported_as_callInfo :
    messageType callStateAhead = skMessageCallState ∧
      (∃ report ∈ (handleSkinnyMessage {} callStateAhead).1, report.isCallInfo = true) ∧
      (handleOn {} { usec := 0 } ⟨20, 10, 2000, 3000⟩ callStateAhead
        (VoIpSessions.empty {} { usec := 0 } 0)).next = 1 := by
  refine ⟨by decide, ?_, ?_⟩
  · decide
  · decide

end OrkAudio.Skinny
