import OrkAudio.VoIp.Sessions

/-! What the operations on one session change in the store, and what they leave as it was. -/

namespace OrkAudio.VoIp

open Lib

namespace VoIpSession

section

variable {cfg : Config} {sh : Shared} {s : VoIpSession} {α : Type} {m : SessionM α}

@[simp] theorem run_keys : (s.run m sh).2.2.toSessionKeys = s.toSessionKeys := rfl

@[simp] theorem run_stopped : (s.run m sh).2.2.stopped = s.stopped := rfl

@[simp] theorem stop_keys : (s.stop cfg sh).toSessionKeys = s.toSessionKeys := by
  unfold stop
  split <;> rfl

end

end VoIpSession

namespace VoIpSessions

section

variable {cfg : Config} {env : Env} {st : VoIpSessions} {q r : Nat}

/-! ### Functions of a session -/

@[simp] theorem session_setSession_self (s : VoIpSession) : (st.setSession r s).session r = s :=
  if_pos rfl

theorem session_setSession_of_ne (s : VoIpSession) (hne : q ≠ r) :
    (st.setSession r s).session q = st.session q := if_neg hne

@[simp] theorem next_setSession (s : VoIpSession) : (st.setSession r s).next = st.next := rfl

@[simp] theorem byIpAndPort_setSession (s : VoIpSession) :
    (st.setSession r s).byIpAndPort = st.byIpAndPort := rfl

@[simp] theorem byCallId_setSession (s : VoIpSession) :
    (st.setSession r s).byCallId = st.byCallId := rfl

@[simp] theorem history_setSession (s : VoIpSession) :
    (st.setSession r s).history = st.history := rfl

section

variable {α : Type} (m : SessionM α)

@[simp] theorem next_act : (st.act r m).2.next = st.next := rfl

@[simp] theorem byIpAndPort_act : (st.act r m).2.byIpAndPort = st.byIpAndPort := rfl

@[simp] theorem byCallId_act : (st.act r m).2.byCallId = st.byCallId := rfl

@[simp] theorem history_act : (st.act r m).2.history = st.history := rfl

theorem session_act_self : (st.act r m).2.session r = ((st.session r).run m st.shared).2.2 :=
  session_setSession_self _

theorem session_act_of_ne (hne : q ≠ r) : (st.act r m).2.session q = st.session q :=
  session_setSession_of_ne _ hne

@[simp] theorem keys_act : ((st.act r m).2.session q).toSessionKeys = (st.session q).toSessionKeys := by
  by_cases heq : q = r
  · subst heq
    rw [session_act_self, VoIpSession.run_keys]
  · rw [session_act_of_ne m heq]

@[simp] theorem stopped_act : ((st.act r m).2.session q).stopped = (st.session q).stopped := by
  by_cases heq : q = r
  · subst heq
    rw [session_act_self, VoIpSession.run_stopped]
  · rw [session_act_of_ne m heq]

end

/-! ### Stopping -/

section

variable (st) (q) (r)

@[simp] theorem next_tagging : (st.taggingSipTransferCalls cfg env r).next = st.next := by
  unfold taggingSipTransferCalls
  split <;> rfl

@[simp] theorem byIpAndPort_tagging :
    (st.taggingSipTransferCalls cfg env r).byIpAndPort = st.byIpAndPort := by
  unfold taggingSipTransferCalls
  split <;> rfl

@[simp] theorem byCallId_tagging :
    (st.taggingSipTransferCalls cfg env r).byCallId = st.byCallId := by
  unfold taggingSipTransferCalls
  split <;> rfl

@[simp] theorem history_tagging :
    (st.taggingSipTransferCalls cfg env r).history = st.history := by
  unfold taggingSipTransferCalls
  split <;> rfl

@[simp] theorem keys_tagging :
    ((st.taggingSipTransferCalls cfg env r).session q).toSessionKeys =
      (st.session q).toSessionKeys := by
  unfold taggingSipTransferCalls
  split
  · rfl
  · exact keys_act _

theorem session_tagging_of_ne (hne : q ≠ r) :
    (st.taggingSipTransferCalls cfg env r).session q = st.session q := by
  unfold taggingSipTransferCalls
  split
  · rfl
  · exact session_act_of_ne _ hne

@[simp] theorem next_stop : (st.stop cfg env r).next = st.next := next_tagging st r

@[simp] theorem history_stop :
    (st.stop cfg env r).history = st.history ++ [.stopped r] := by
  simp [stop]

theorem session_stop_of_ne (hne : q ≠ r) : (st.stop cfg env r).session q = st.session q := by
  calc
    _ = (st.taggingSipTransferCalls cfg env r).session q := session_setSession_of_ne _ hne
    _ = st.session q := session_tagging_of_ne st q r hne

end

end

end VoIpSessions

end OrkAudio.VoIp
