import OrkAudio.VoIp.Continuity
import OrkAudio.VoIp.Effects
import OrkAudio.VoIp.Sip
import OrkAudio.VoIp.Skinny
import OrkAudio.VoIp.Rtp

/-! How long a session was on hold.

A hold period begins when a signal puts the session on hold and ends when one takes it off
again. `HoldRun` writes the periods down beside the session, which only keeps their sum. -/

namespace OrkAudio.VoIp

open Lib

/-! ### Signals -/

/-- What puts a session on hold or takes it off, and the packets that show that it is off. -/
inductive HoldSignal
  | sipInvite (invite : SipInviteInfo)
  | softKeyHold
  | softKeyResume
  | callState (message : SkCallStateMessage)
  | rtp (rtpPacket : RtpPacketInfo)

namespace Hold

/-- `GoOnHold` on a started session. -/
def goOn (hold : Hold) (onHoldTime : Int) : Hold :=
  { hold with onHold := true, holdBegin := onHoldTime }

/-- `GoOffHold`. -/
def goOff (hold : Hold) (offHoldTime : Int) : Hold :=
  { hold with
    onHold := false
    holdDuration := hold.holdDuration + (offHoldTime - hold.holdBegin) }

end Hold

section

variable (cfg : Config) (env : Env)

/-- What the session of a signal does. -/
def deliver : HoldSignal → SessionM Unit
  | .sipInvite invite => do
      if invite.attrSendonly then goOnHold cfg invite.recvTime
      else if (← session).onHold && cfg.sipInviteCanPutOffHold then
        goOffHold cfg invite.recvTime
        update fun s => { s with lastUpdated := env.time }
      else reportSipInvite cfg invite
  | .softKeyHold => if cfg.skinnyIgnoreHold then pure () else goOnHold cfg env.time
  | .softKeyResume => do
      goOffHold cfg env.time
      update fun s => { s with lastUpdated := env.time }
  | .callState message => reportSkinnyCallState cfg env message
  | .rtp rtpPacket => do
      let _ ← addRtpPacket cfg env rtpPacket

namespace HoldSignal

/-- The time that a signal is taken for. -/
def time : HoldSignal → Int
  | .sipInvite invite => invite.recvTime
  | .softKeyHold => env.time
  | .softKeyResume => env.time
  | .callState _ => env.time
  | .rtp rtpPacket => rtpPacket.arrivalTimestamp

/-- The signal puts a started session on hold. -/
def holds : HoldSignal → Bool
  | .sipInvite invite => invite.attrSendonly
  | .softKeyHold => !cfg.skinnyIgnoreHold
  | .softKeyResume => false
  | .callState message => decide (message.callState = 8) && !cfg.skinnyIgnoreHold
  | .rtp _ => false

/-- The signal calls `GoOffHold`. The soft key does so whether the session is on hold or
not. -/
def resumes (s : SessionData) : HoldSignal → Bool
  | .sipInvite invite => !invite.attrSendonly && s.onHold && cfg.sipInviteCanPutOffHold
  | .softKeyHold => false
  | .softKeyResume => true
  | .callState _ => false
  | .rtp rtpPacket =>
      !s.gates.isTelephoneEvent cfg rtpPacket && s.keepRtp && !s.gates.isDismissed rtpPacket &&
        s.onHold && !s.gates.staysOnHold rtpPacket

end HoldSignal

/-! ### Periods -/

/-- The hold periods that are over, the latest first, and when the last one began. -/
structure HoldLedger where
  began : Int := 0
  periods : List (Int × Int) := []

def totalTime : List (Int × Int) → Int
  | [] => 0
  | (onHoldTime, offHoldTime) :: rest => offHoldTime - onHoldTime + totalTime rest

namespace HoldLedger

/-- A period begins when the session gets on hold and ends when it gets off. -/
def record (ledger : HoldLedger) (was is : Bool) (time : Int) : HoldLedger :=
  if !was && is then { ledger with began := time }
  else if was && !is then { ledger with periods := (ledger.began, time) :: ledger.periods }
  else ledger

end HoldLedger

/-- The signals and packets that a session gets, those that `cond` allows. Whatever else
happens leaves hold alone. -/
inductive HoldRun (cond : Env → HoldSignal → SessionData → Prop) (keys : SessionKeys)
    (start : Context) : HoldLedger → Context → Prop
  | start : HoldRun cond keys start {} start
  | signal {ledger : HoldLedger} {c : Context} (env : Env) (signal : HoldSignal) :
      HoldRun cond keys start ledger c → cond env signal c.session →
      HoldRun cond keys start
        (ledger.record c.session.onHold (deliver cfg env signal keys c).2.session.onHold
          (signal.time env))
        (deliver cfg env signal keys c).2
  | elsewhere {ledger : HoldLedger} {c c' : Context} : HoldRun cond keys start ledger c →
      c'.session.hold = c.session.hold → HoldRun cond keys start ledger c'

/-- A session on hold is not put on hold once more at another time, the RESUME soft key is
only pressed on hold, and nobody resumes before the period began. -/
structure Orderly (signal : HoldSignal) (s : SessionData) : Prop where
  again : signal.holds cfg = true → s.started = true → s.onHold = true →
    signal.time env = s.holdBegin
  onHold : signal.resumes cfg s = true → s.onHold = true
  notBefore : signal.resumes cfg s = true → s.holdBegin ≤ signal.time env

end

/-! ### What a signal does -/

section

variable (cfg : Config) (env : Env)

/-- Nothing here has to do with hold. -/
abbrev KeepsHold {α : Type} (m : SessionM α) : Prop := Keeps (fun c => c.session.hold) m

theorem goOnHold_hold (onHoldTime : Int) (keys : SessionKeys) (c : Context) :
    (goOnHold cfg onHoldTime keys c).2.session.hold =
      if c.session.started then c.session.hold.goOn onHoldTime else c.session.hold := by
  rw [goOnHold, session_bind]
  by_cases hstarted : c.session.started = true
  · rw [if_pos hstarted, if_pos hstarted, update_bind]
    have hreport : KeepsHold (do
        if cfg.holdResumeReportDuration || cfg.holdResumeReportEvents then
          emit { type := .etHold, value := (← VoIp.keys).trackingId }) :=
      .ite (.bind .keys fun _ => (beside_emit _ _).hold) (.pure _)
    exact hreport keys _
  · rw [if_neg hstarted, if_neg hstarted]
    rfl

theorem goOffHold_hold (offHoldTime : Int) (keys : SessionKeys) (c : Context) :
    (goOffHold cfg offHoldTime keys c).2.session.hold = c.session.hold.goOff offHoldTime := by
  have hresume : KeepsHold (do
      if cfg.holdResumeReportDuration || cfg.holdResumeReportEvents then
        emit { type := .etResume, value := (← VoIp.keys).trackingId }) :=
    .ite (.bind .keys fun _ => (beside_emit _ _).hold) (.pure _)
  have hreport : KeepsHold (do
      if cfg.holdReportStats then
        emitKeyValue "holdtime" (toString (← VoIp.session).holdDuration)
      if cfg.holdResumeReportDuration || cfg.holdResumeReportEvents then
        emit { type := .etResume, value := (← VoIp.keys).trackingId }) :=
    .ite (.bind .session fun s => .bind (beside_emitKeyValue _ _).hold fun _ => hresume) hresume
  rw [goOffHold, update_bind]
  exact hreport keys _

/-! #### RTP -/

theorem spared_hold : Spared fun c => c.session.hold where
  notice _ _ _ := rfl
  command _ _ _ _ _ := rfl

theorem hold_detectChannel (rtpPacket : RtpPacketInfo) :
    KeepsHold (detectChannel cfg env rtpPacket) := by
  unfold detectChannel
  apply Keeps.bind .session
  intro s
  have hstart : KeepsHold (startOnSide2 cfg env) := (beside_startOnSide2 cfg env).hold
  cases s.lastRtpPacketSide1 with
  | none => exact .bind (.update fun c => rfl) fun _ => .pure _
  | some side1 =>
      cases s.lastRtpPacketSide2 with
      | none =>
          exact .ite (.pure _) (.bind (.update fun c => rfl) fun _ => .whenThen hstart (.pure _))
      | some side2 => exact .ite (.pure _) (.ite (.whenThen hstart (.pure _)) (.pure _))

theorem hold_ignoreRtpPacket (rtpPacket : RtpPacketInfo) :
    KeepsHold (ignoreRtpPacket cfg env rtpPacket) := by
  unfold ignoreRtpPacket
  apply Keeps.bind .session
  intro s
  have hcount : KeepsHold (update fun s => { s with
      lastUpdated := rtpPacket.arrivalTimestamp
      numIgnoredRtpPackets := s.numIgnoredRtpPackets + 1 }) := .update fun c => rfl
  apply Keeps.ite
  · exact .ite (.bind (.update fun c => rfl) fun _ => .bind (beside_emit _ _).hold fun _ => hcount)
      hcount
  · exact .bind (hold_detectChannel cfg env rtpPacket) fun _ => hcount

theorem hold_follow (rtpPacket : RtpPacketInfo) (channel : Nat × Bool) :
    KeepsHold (follow cfg env rtpPacket channel) :=
  (offStreams_follow cfg env rtpPacket channel).comp fun c => c.session.hold

theorem hold_acceptRtpPacket (channel : Nat) (rtpPacket : RtpPacketInfo) :
    KeepsHold (acceptRtpPacket cfg env channel rtpPacket) := by
  have hmap : KeepsHold (mapChannels cfg channel) :=
    (offStreams_mapChannels cfg channel).comp fun c => c.session.hold
  have hemit (details : AudioChunkDetails) (payload : List UInt8) :
      KeepsHold (emitChunk details payload) := .modify fun c => rfl
  unfold acceptRtpPacket
  apply Keeps.bind hmap
  intro channel
  exact .bind (.update fun c => rfl) fun _ => .bind (beside_noteAddresses cfg rtpPacket).hold
    fun _ => .bind .session fun s => .whenThen (beside_startUnlessUnidirectional cfg env).hold <|
    .bind .session fun s => .ite (.bind (hemit _ _) fun _ => .pure _) (.pure _)

theorem hold_reachStreams (rtpPacket : RtpPacketInfo) :
    KeepsHold (reachStreams cfg env rtpPacket) := by
  unfold reachStreams
  apply Keeps.bind (hold_detectChannel cfg env rtpPacket)
  intro channel
  apply Keeps.bind (hold_follow cfg env rtpPacket channel)
  intro verdict
  cases verdict with
  | dismissed => exact .pure _
  | brokenUp => exact .pure _
  | accepted channel => exact .bind (hold_acceptRtpPacket cfg env channel rtpPacket) fun _ => .pure _

theorem goOffHoldOnRtp_hold (rtpPacket : RtpPacketInfo) (keys : SessionKeys) (c : Context) :
    (goOffHoldOnRtp cfg rtpPacket keys c).2.session.hold =
      if c.session.onHold && !c.session.gates.staysOnHold rtpPacket then
        c.session.hold.goOff rtpPacket.arrivalTimestamp
      else c.session.hold := by
  have hstays : c.session.gates.staysOnHold rtpPacket = (c.session.onHold &&
      !c.session.lastRtpPacket.any fun last =>
        decide (rtpPacket.arrivalTimestamp - last.arrivalTimestamp > 1)) := rfl
  rw [goOffHoldOnRtp, session_bind, hstays]
  cases honHold : c.session.onHold with
  | false =>
      cases c.session.lastRtpPacket with
      | none => rfl
      | some last =>
          dsimp only
          rw [if_neg fun h => Bool.false_ne_true h.1]
          rfl
  | true =>
      cases hlast : c.session.lastRtpPacket with
      | none => rfl
      | some last =>
          rw [Option.any_some]
          dsimp only
          by_cases hlate : rtpPacket.arrivalTimestamp - last.arrivalTimestamp > 1
          · rw [if_pos ⟨rfl, hlate⟩, decide_eq_true hlate]
            exact goOffHold_hold cfg rtpPacket.arrivalTimestamp keys c
          · rw [if_neg fun h => hlate h.2, decide_eq_false hlate]
            rfl

/-- Only a packet that gets as far as the streams takes a session off hold. -/
theorem addRtpPacket_hold (rtpPacket : RtpPacketInfo) (keys : SessionKeys) (c : Context) :
    (addRtpPacket cfg env rtpPacket keys c).2.session.hold =
      if (HoldSignal.rtp rtpPacket).resumes cfg c.session then
        c.session.hold.goOff rtpPacket.arrivalTimestamp
      else c.session.hold := by
  have hbegun : (c.begun cfg env rtpPacket keys).session.hold = c.session.hold :=
    congrArg Prod.snd (core_begun cfg env keys c rtpPacket)
  have hfirst : (c.firstKept cfg env rtpPacket keys).session.hold = c.session.hold :=
    congrArg Prod.snd (core_firstKept cfg env keys c rtpPacket)
  have hkeep : c.session.gates.keepRtp = c.session.keepRtp := rfl
  rw [HoldSignal.resumes, ← hkeep]
  cases hevent : c.session.gates.isTelephoneEvent cfg rtpPacket with
  | true =>
      exact (spared_hold.addRtpPacket_event cfg env keys c hevent).trans hbegun
  | false =>
      cases hkept : c.session.gates.keepRtp with
      | false =>
          rw [addRtpPacket_ignored cfg env keys c hevent hkept]
          exact (hold_ignoreRtpPacket cfg env rtpPacket keys _).trans hbegun
      | true =>
          cases hdismissed : c.session.gates.isDismissed rtpPacket with
          | true =>
              rw [addRtpPacket_dismissed cfg env keys c hevent hkept hdismissed]
              exact hfirst
          | false =>
              rw [addRtpPacket_reach cfg env keys c hevent hkept hdismissed]
              have hrest := goOffHoldOnRtp_hold cfg rtpPacket keys
                (c.firstKept cfg env rtpPacket keys)
              have honHold : (c.firstKept cfg env rtpPacket keys).session.onHold =
                  c.session.onHold := congrArg Hold.onHold hfirst
              rw [gates_firstKept, honHold, hfirst] at hrest
              exact (hold_reachStreams cfg env rtpPacket keys _).trans hrest

/-! #### INVITE -/

theorem hold_reportSipInvite (invite : SipInviteInfo) : KeepsHold (reportSipInvite cfg invite) := by
  have hremote (s : SessionData) : (setSipRemoteParty cfg invite s).hold = s.hold := by
    unfold setSipRemoteParty
    split_ifs <;> rfl
  have htag (s : SessionData) : (triggerOnDemandViaTag cfg s).hold = s.hold := by
    unfold triggerOnDemandViaTag
    split
    · split_ifs <;> rfl
    · rfl
  unfold reportSipInvite
  refine .bind .shared fun sh => .bind .session fun s => .whenThen (.update fun c => rfl) <|
    .ite (.bind (.update fun c => rfl) fun _ => .bind .session fun s =>
      .bind (beside_emit _ _).hold fun _ => .bind (beside_emit _ _).hold fun _ => ?_) ?_
  -- What follows comes twice, after the party is set and when it is not.
  all_goals
    exact .bind (.update fun c => rfl) fun _ => .whenThen (.update fun c => rfl) <|
      .bind (.update fun c => hremote c.session) fun _ => .bind (.update fun c => rfl) fun _ =>
      .bind .session fun s => .thenElse (beside_reportTags _).hold (.update fun c => rfl)
        (.update fun c => htag c.session)

/-! #### Every signal -/

theorem resume_hold (offHoldTime : Int) (keys : SessionKeys) (c : Context) :
    ((do
      goOffHold cfg offHoldTime
      update fun s => { s with lastUpdated := env.time } : SessionM Unit) keys c).2.session.hold =
        c.session.hold.goOff offHoldTime :=
  goOffHold_hold cfg offHoldTime keys c

theorem deliver_hold (signal : HoldSignal) (keys : SessionKeys) (c : Context) :
    (deliver cfg env signal keys c).2.session.hold =
      if signal.holds cfg && c.session.started then c.session.hold.goOn (signal.time env)
      else if signal.resumes cfg c.session then c.session.hold.goOff (signal.time env)
      else c.session.hold := by
  cases signal with
  | sipInvite invite =>
      rw [deliver, HoldSignal.holds, HoldSignal.resumes]
      cases invite.attrSendonly with
      | true => exact goOnHold_hold cfg invite.recvTime keys c
      | false =>
          rw [if_neg Bool.false_ne_true, session_bind, Bool.not_false, Bool.true_and]
          cases c.session.onHold && cfg.sipInviteCanPutOffHold with
          | false => exact hold_reportSipInvite cfg invite keys c
          | true => exact resume_hold cfg env invite.recvTime keys c
  | softKeyHold =>
      rw [deliver, HoldSignal.holds]
      cases cfg.skinnyIgnoreHold with
      | true => rfl
      | false => exact goOnHold_hold cfg env.time keys c
  | softKeyResume => exact resume_hold cfg env env.time keys c
  | callState message =>
      have hholds : (HoldSignal.callState message).holds cfg =
          decide (message.callState = 8 ∧ !cfg.skinnyIgnoreHold) := by
        rw [HoldSignal.holds, Bool.decide_and, Bool.decide_eq_true]
      rw [deliver, reportSkinnyCallState, hholds]
      by_cases hstate : message.callState = 8 ∧ !cfg.skinnyIgnoreHold
      · rw [if_pos hstate, decide_eq_true hstate]
        exact goOnHold_hold cfg env.time keys c
      · rw [if_neg hstate, decide_eq_false hstate]
        rfl
  | rtp rtpPacket => exact addRtpPacket_hold cfg env rtpPacket keys c

/-- A signal that does not put a session on hold changes nothing when it is not on hold. -/
theorem deliver_hold_of_not_onHold {signal : HoldSignal} {c : Context} (keys : SessionKeys)
    (orderly : Orderly cfg env signal c.session) (honHold : c.session.onHold = false)
    (hholds : signal.holds cfg = false) :
    (deliver cfg env signal keys c).2.session.hold = c.session.hold := by
  have hresumes : ¬signal.resumes cfg c.session = true := by
    intro hresumes
    have htrue := orderly.onHold hresumes
    rw [honHold] at htrue
    exact Bool.false_ne_true htrue
  rw [deliver_hold, hholds, Bool.false_and, if_neg Bool.false_ne_true, if_neg hresumes]

end

/-! ### In the store -/

namespace VoIpSessions

section

variable (cfg : Config) (env : Env) (st : VoIpSessions) (q r : Nat)

theorem hold_act {m : SessionM Unit} (keeps : KeepsHold m) :
    ((st.perform r m).session q).hold = (st.session q).hold := by
  by_cases heq : q = r
  · subst heq
    rw [perform, session_act_self]
    exact keeps _ _
  · rw [perform, session_act_of_ne m heq]

theorem hold_stop : ((st.stop cfg env r).session q).hold = (st.session q).hold := by
  have htags (sipRefers : List SipRefer) : KeepsHold (tagTransfers sipRefers) := by
    induction sipRefers with
    | nil => exact .pure _
    | cons sipRefer rest ih =>
        exact .bind (.bind (beside_emitKeyValue _ _).hold fun _ => .bind .session fun s =>
          .ite (.bind (.update fun c => rfl) fun _ => (beside_emit _ _).hold) (.pure _)) fun _ => ih
  have htagging : ((st.taggingSipTransferCalls cfg env r).session q).hold =
      (st.session q).hold := by
    unfold taggingSipTransferCalls
    split
    · rfl
    · exact hold_act st q r (htags _)
  have hstop (sh : Shared) (s : VoIpSession) : (s.stop cfg sh).hold = s.hold := by
    unfold VoIpSession.stop
    split <;> rfl
  by_cases heq : q = r
  · subst heq
    rw [stop, session_setSession_self]
    exact (hstop _ _).trans htagging
  · rw [session_stop_of_ne st q r heq]

theorem hold_setSession {s : VoIpSession} (hhold : s.hold = (st.session r).hold) :
    ((st.setSession r s).session q).hold = (st.session q).hold := by
  by_cases heq : q = r
  · subst heq
    rw [session_setSession_self, hhold]
  · rw [session_setSession_of_ne s heq]

theorem hold_changeMediaAddress (mediaIp : InAddr) (mediaAddress : Nat) :
    ((st.changeMediaAddress cfg r mediaIp mediaAddress).session q).hold =
      (st.session q).hold := by
  have hinsert (st : VoIpSessions) :
      (st.insertByIpAndPort mediaAddress r).session = st.session := by
    unfold insertByIpAndPort
    split <;> rfl
  unfold changeMediaAddress
  rw [hinsert]
  refine (hold_setSession _ q r ?_).trans ?_
  · rfl
  split
  · rfl
  · exact hold_setSession _ q r rfl

theorem hold_setMediaAddress (mediaIp : InAddr) (mediaPort : UInt16) :
    ((st.setMediaAddress cfg env r mediaIp mediaPort).session q).hold =
      (st.session q).hold := by
  have hreplace (old mediaAddress : Nat) :
      ((st.replaceSession cfg env old mediaAddress).session q).hold = (st.session q).hold := by
    unfold replaceSession
    split
    · exact hold_stop cfg env st q old
    · rfl
  unfold setMediaAddress
  split
  · rfl
  · dsimp only
    split
    · exact hold_changeMediaAddress cfg st q r mediaIp _
    · split
      · rfl
      · split
        · exact (hold_changeMediaAddress cfg _ q r mediaIp _).trans (hreplace _ _)
        · rfl

/-- What an INVITE that goes on with the call does first. -/
theorem hold_remaps (invite : SipInviteInfo) (remaps : Bool) :
    (((if remaps then st.setInviteAddresses cfg env r invite else st).trySessionCallPickUp cfg r
      invite.replacesId).session q).hold = (st.session q).hold := by
  have hpickUp (st : VoIpSessions) :
      ((st.trySessionCallPickUp cfg r invite.replacesId).session q).hold =
        (st.session q).hold := by
    unfold trySessionCallPickUp
    split
    · exact hold_act st q r (.update fun c => rfl)
    · rfl
  rw [hpickUp]
  split
  · unfold setInviteAddresses
    dsimp only
    split
    · exact (hold_setMediaAddress cfg env _ q r _ _).trans (hold_setMediaAddress cfg env st q r _ _)
    · exact hold_setMediaAddress cfg env st q r _ _
  · rfl

/-- An INVITE for a session there is does to its hold what the signal does. -/
theorem hold_inviteExisting (invite : SipInviteInfo) (remaps : Bool) :
    ((st.inviteExisting cfg env r invite remaps).session r).hold =
      ((st.perform r (deliver cfg env (.sipInvite invite))).session r).hold := by
  have hbind (f : SessionData → SessionM Unit) :
      st.perform r (VoIp.session >>= f) = st.perform r (f (st.session r).toSessionData) := rfl
  rw [inviteExisting, deliver]
  by_cases hsendonly : invite.attrSendonly = true
  · rw [if_pos hsendonly, if_pos hsendonly]
  · rw [if_neg hsendonly, if_neg hsendonly, hbind]
    by_cases hresumes : ((st.session r).onHold && cfg.sipInviteCanPutOffHold) = true
    · rw [if_pos hresumes, if_pos hresumes]
      exact hold_setMediaAddress cfg env _ r r _ _
    · rw [if_neg hresumes, if_neg hresumes]
      have keeps := hold_reportSipInvite cfg invite
      calc
        _ = _ := hold_act _ r r keeps
        _ = (st.session r).hold := hold_remaps cfg env st r r invite remaps
        _ = _ := (hold_act st r r keeps).symm

theorem hold_softKeyHold (skEvent : SkSoftKey) (headers : SkinnyHeaders)
    (hfind : st.byCallId.find? (generateSkinnyCallId cfg headers.ipSrc headers.tcpSource
      skEvent.callIdentifier) = some r) :
    ((st.reportSkinnySoftKeyHold cfg env skEvent headers).session r).hold =
      ((st.perform r (deliver cfg env .softKeyHold)).session r).hold := by
  rw [reportSkinnySoftKeyHold, hfind, deliver]
  dsimp only
  split
  · exact (hold_act st r r (.pure _)).symm
  · rfl

theorem softKeyResume_eq (skEvent : SkSoftKey) (headers : SkinnyHeaders)
    (hfind : st.byCallId.find? (generateSkinnyCallId cfg headers.ipSrc headers.tcpSource
      skEvent.callIdentifier) = some r) :
    st.reportSkinnySoftKeyResume cfg env skEvent headers =
      st.perform r (deliver cfg env .softKeyResume) := by
  rw [reportSkinnySoftKeyResume, hfind]
  rfl

theorem callState_eq (message : SkCallStateMessage) (headers : SkinnyHeaders)
    (hfind : st.byCallId.find? (generateSkinnyCallId cfg headers.ipDest headers.tcpDest
      message.callId) = some r) :
    st.reportSkinnyCallStateMessage cfg env message headers =
      st.perform r (deliver cfg env (.callState message)) := by
  rw [reportSkinnyCallStateMessage, hfind]
  rfl

end

end VoIpSessions

/-! ### Runs -/

section

variable {cfg : Config} {keys : SessionKeys} {start c : Context} {ledger : HoldLedger}

/-- What the session counts is what the periods add up to, and it knows when the one that is
going on began. -/
structure Accounts (hold : Hold) (ledger : HoldLedger) : Prop where
  total : hold.holdDuration = totalTime ledger.periods
  nonneg : 0 ≤ hold.holdDuration
  began : hold.onHold = true → hold.holdBegin = ledger.began

theorem Accounts.signal (accounts : Accounts c.session.hold ledger) {env : Env}
    {signal : HoldSignal} (orderly : Orderly cfg env signal c.session) :
    Accounts (deliver cfg env signal keys c).2.session.hold
      (ledger.record c.session.onHold (deliver cfg env signal keys c).2.session.onHold
        (signal.time env)) := by
  have hafter := deliver_hold cfg env signal keys c
  have honHold : (deliver cfg env signal keys c).2.session.onHold =
      (deliver cfg env signal keys c).2.session.hold.onHold := rfl
  rw [honHold, hafter]
  by_cases hholds : (signal.holds cfg && c.session.started) = true
  · rw [if_pos hholds]
    rw [Bool.and_eq_true] at hholds
    cases hwas : c.session.onHold with
    | false => exact ⟨accounts.total, accounts.nonneg, fun _ => rfl⟩
    | true =>
        -- The period goes on: the session must be told the same time.
        have hsame := orderly.again hholds.1 hholds.2 hwas
        exact ⟨accounts.total, accounts.nonneg, fun _ => hsame.trans (accounts.began hwas)⟩
  · rw [if_neg hholds]
    by_cases hresumes : signal.resumes cfg c.session = true
    · rw [if_pos hresumes]
      have hwas := orderly.onHold hresumes
      have hbegan : c.session.holdBegin = ledger.began := accounts.began hwas
      have hlater := orderly.notBefore hresumes
      have htotal : c.session.holdDuration = totalTime ledger.periods := accounts.total
      have hnonneg : 0 ≤ c.session.holdDuration := accounts.nonneg
      rw [hwas]
      constructor
      · calc
          _ = c.session.holdDuration + (signal.time env - c.session.holdBegin) := rfl
          _ = signal.time env - ledger.began + totalTime ledger.periods := by omega
          _ = _ := rfl
      · calc
          0 ≤ c.session.holdDuration + (signal.time env - c.session.holdBegin) := by omega
          _ = _ := rfl
      · intro hnot
        cases hnot
    · rw [if_neg hresumes]
      have hkept : ledger.record c.session.onHold c.session.hold.onHold (signal.time env) =
          ledger := by
        have hsame : c.session.hold.onHold = c.session.onHold := rfl
        rw [hsame]
        cases c.session.onHold <;> rfl
      rw [hkept]
      exact accounts

theorem accounts_of_run (honHold : start.session.onHold = false)
    (hduration : start.session.holdDuration = 0)
    (run : HoldRun cfg (Orderly cfg) keys start ledger c) : Accounts c.session.hold ledger := by
  induction run with
  | start =>
      constructor
      · exact hduration
      · exact le_of_eq hduration.symm
      · intro htrue
        exact absurd (honHold.symm.trans htrue) Bool.false_ne_true
  | signal env signal _ orderly ih => exact ih.signal orderly
  | elsewhere _ hhold ih =>
      rw [hhold]
      exact ih

/-- In every orderly run the session counts the time of its hold periods, and a signal to
resume changes nothing when it is not on hold. -/
theorem holdDuration_of_run (honHold : start.session.onHold = false)
    (hduration : start.session.holdDuration = 0)
    (run : HoldRun cfg (Orderly cfg) keys start ledger c) :
    c.session.holdDuration = totalTime ledger.periods ∧ 0 ≤ c.session.holdDuration ∧
      (c.session.onHold = false → ∀ env signal, Orderly cfg env signal c.session →
        signal.holds cfg = false →
          (deliver cfg env signal keys c).2.session.hold = c.session.hold) := by
  have accounts := accounts_of_run honHold hduration run
  refine ⟨accounts.total, accounts.nonneg, ?_⟩
  intro hnot env signal orderly hholds
  exact deliver_hold_of_not_onHold cfg env keys orderly hnot hholds

end

/-! ### Soft keys pressed twice -/

/-- A session that has started. -/
def startedContext : Context :=
  { newContext with session := { newContext.session with started := true } }

theorem run_of_hold (cond : Env → HoldSignal → SessionData → Prop)
    (hcond : cond { usec := 10000000 } .softKeyHold startedContext.session) :
    HoldRun {} cond { trackingId := "" } startedContext { began := 10 }
      (deliver {} { usec := 10000000 } .softKeyHold { trackingId := "" } startedContext).2 :=
  HoldRun.start.signal { usec := 10000000 } .softKeyHold hcond

/-- On hold at 10, off hold at 25. -/
theorem holdDuration_of_one_period :
    (deliver {} { usec := 25000000 } .softKeyResume { trackingId := "" }
      (deliver {} { usec := 10000000 } .softKeyHold { trackingId := "" } startedContext).2
        ).2.session.holdDuration = 15 := by
  have hold := run_of_hold (Orderly {}) ⟨fun _ _ => nofun, nofun, nofun⟩
  have resume := hold.signal { usec := 25000000 } .softKeyResume
    ⟨nofun, fun _ => rfl, fun _ => by decide⟩
  exact (holdDuration_of_run rfl rfl resume).1

/-- RESUME is pressed at 25 and once more at 40: the fifteen seconds on hold are counted as
forty-five. -/
theorem holdDuration_of_second_resume : ¬ ∀ (cfg : Config) (keys : SessionKeys)
    (start c : Context) (ledger : HoldLedger), start.session.onHold = false →
    start.session.holdDuration = 0 →
    HoldRun cfg (fun _ _ _ => True) keys start ledger c →
    c.session.holdDuration = totalTime ledger.periods := by
  intro hcounts
  have hold := run_of_hold (fun _ _ _ => True) trivial
  have resume := hold.signal { usec := 25000000 } .softKeyResume trivial
  have again := resume.signal { usec := 40000000 } .softKeyResume trivial
  have hequal := hcounts _ _ _ _ _ rfl rfl again
  exact absurd hequal (by decide +kernel)

end OrkAudio.VoIp
