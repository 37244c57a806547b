import OrkAudio.VoIp.Expired

/-! The port of an INVITE, and the session that it leads to.

The store is searched at the number that the text gives in sixteen bits; an address is set at
the number only when it is in range. -/

namespace OrkAudio.VoIp

open Lib

/-! ### The number of a port -/

/-- The text is a number that a port may have. -/
def IsPortText (text : String) : Prop :=
  (strtol text).2 = true ∧ 1 ≤ (strtol text).1 ∧ (strtol text).1 ≤ 65534

/-- The port that a text gives in sixteen bits is the text's own number, or no port. -/
def KeepsPort (text : String) : Prop :=
  (strtol text).2 = true → IsPortText text ∨ (strtol text).1 % 65536 = 0

section

variable {invite : SipInviteInfo}

theorem longToInt_mod (n : Int) : longToInt n % 65536 = n % 65536 := by
  unfold longToInt
  omega

theorem toPort_longToInt (n : Int) : toPort (longToInt n) = toPort n := by
  unfold toPort
  rw [longToInt_mod]

theorem toPort_eq_zero_iff {n : Int} : toPort n = 0 ↔ n % 65536 = 0 := by
  have hrange : (n % 65536).toNat < 65536 := by omega
  unfold toPort
  rw [← UInt16.toNat_inj, UInt16.toNat_ofNat_of_lt' hrange]
  change (n % 65536).toNat = 0 ↔ _
  omega

theorem rtpPortAsInt_of_number (hnumber : (strtol invite.fromRtpPort).2 = true) :
    rtpPortAsInt invite = longToInt (strtol invite.fromRtpPort).1 := if_pos hnumber

theorem rtpPortAsInt_of_text (htext : ¬(strtol invite.fromRtpPort).2 = true) :
    rtpPortAsInt invite = 0 := if_neg htext

theorem toPort_of_keepsPort (hkeeps : KeepsPort invite.fromRtpPort)
    (hnot : ¬IsPortText invite.fromRtpPort) : toPort (rtpPortAsInt invite) = 0 := by
  by_cases hnumber : (strtol invite.fromRtpPort).2 = true
  · rw [rtpPortAsInt_of_number hnumber, toPort_longToInt, toPort_eq_zero_iff]
    exact (hkeeps hnumber).resolve_left hnot
  · rw [rtpPortAsInt_of_text hnumber]
    rfl

theorem rtpPort_of_toPort (hzero : toPort (rtpPortAsInt invite) = 0) : rtpPort invite = 0 := by
  unfold rtpPort
  rw [hzero, ite_self]

end

namespace VoIpSessions

section

variable {cfg : Config} {env : Env} {st st' st'' : VoIpSessions} {q r : Nat}
  {invite : SipInviteInfo}

/-! ### What stays with the session that is reported to -/

/-- The addresses are as they were, and so are the other sessions. -/
structure LeavesOthers (r : Nat) (st st' : VoIpSessions) : Prop where
  byIpAndPort : st'.byIpAndPort = st.byIpAndPort
  session : ∀ q, q ≠ r → st'.session q = st.session q

namespace LeavesOthers

theorem refl : LeavesOthers r st st := ⟨rfl, fun _ _ => rfl⟩

theorem trans (first : LeavesOthers r st st') (rest : LeavesOthers r st' st'') :
    LeavesOthers r st st'' where
  byIpAndPort := rest.byIpAndPort.trans first.byIpAndPort
  session q hne := (rest.session q hne).trans (first.session q hne)

theorem perform (m : SessionM Unit) : LeavesOthers r st (st.perform r m) :=
  ⟨rfl, fun _ hne => session_act_of_ne m hne⟩

theorem create (init : VoIpSession → VoIpSession) :
    LeavesOthers st.next st (st.create cfg env init) :=
  ⟨rfl, fun _ hne => session_setSession_of_ne _ hne⟩

theorem trySessionCallPickUp (replacesCallId : String) :
    LeavesOthers r st (st.trySessionCallPickUp cfg r replacesCallId) := by
  unfold VoIpSessions.trySessionCallPickUp
  split
  · have picked : LeavesOthers r st (st.perform r (update fun s => { s with isCallPickUp := true })) :=
      perform _
    exact ⟨picked.byIpAndPort, picked.session⟩
  · exact refl

theorem insertByCallId : LeavesOthers r st (st.insertByCallId q) := by
  cases hfind : st.byCallId.find? (st.session q).callId with
  | some old =>
      rw [insertByCallId_of_taken hfind]
      exact refl
  | none =>
      rw [insertByCallId_of_free hfind]
      exact ⟨rfl, fun _ _ => rfl⟩

theorem takePreInviteNotify : LeavesOthers r st (st.takePreInviteNotify cfg invite).2 :=
  have same := takePreInviteNotify_same cfg invite
  ⟨same.byIpAndPort, fun q _ => congrFun same.session q⟩

/-- Without a port no address is set. -/
theorem setMediaAddress_zero (mediaIp : InAddr) : st.setMediaAddress cfg env r mediaIp 0 = st :=
  if_pos (Or.inl rfl)

theorem setInviteAddresses_zero (hzero : rtpPort invite = 0) :
    st.setInviteAddresses cfg env r invite = st := by
  unfold setInviteAddresses
  rw [hzero, setMediaAddress_zero]
  dsimp only
  rw [setMediaAddress_zero, ite_self]

theorem inviteExisting (hzero : rtpPort invite = 0) (remaps : Bool) :
    LeavesOthers r st (st.inviteExisting cfg env r invite remaps) := by
  unfold VoIpSessions.inviteExisting
  rw [hzero, setInviteAddresses_zero hzero]
  split
  · exact perform _
  · split
    · dsimp only
      rw [setMediaAddress_zero]
      exact perform _
    · rw [ite_self]
      exact (trySessionCallPickUp _).trans (perform _)

theorem inviteNew (hzero : rtpPort invite = 0) :
    LeavesOthers st.next st (st.inviteNew cfg env invite) := by
  have hport (sh : VoIpSessions) : rtpPort (sh.takePreInviteNotify cfg invite).1 = 0 := by
    have hsame : (sh.takePreInviteNotify cfg invite).1.fromRtpPort = invite.fromRtpPort := by
      unfold VoIpSessions.takePreInviteNotify
      dsimp only
      generalize (Option.bind _ _ : Option SipNotifyInfo) = found
      cases found with
      | none => rfl
      | some notify =>
          dsimp only
          split
          · rfl
          · rfl
    unfold rtpPort rtpPortAsInt at hzero ⊢
    rw [hsame]
    exact hzero
  unfold VoIpSessions.inviteNew
  dsimp only
  rw [setInviteAddresses_zero (hport _)]
  apply (create _).trans
  apply (trySessionCallPickUp _).trans
  apply takePreInviteNotify.trans
  exact (perform _).trans insertByCallId

/-- The session that the call-id leads to is the only one that is reported to. -/
theorem inviteByCallId (hzero : rtpPort invite = 0) (ipAndPort : Nat) :
    LeavesOthers ((st.byCallId.find? invite.callId).getD st.next) st
      (st.inviteByCallId cfg env invite ipAndPort) := by
  unfold VoIpSessions.inviteByCallId
  cases st.byCallId.find? invite.callId with
  | some r => exact inviteExisting hzero _
  | none => exact inviteNew hzero

end LeavesOthers

/-! ### The session that the address leads to -/

variable (cfg st invite) in
/-- The INVITE is for the session that its address leads to, or ends it: the session is neither
raw RTP nor a SIP session that may share the address. -/
structure IsAffected (r : Nat) : Prop where
  notIgnored : cfg.sipIgnoredMediaAddresses.isMatch invite.fromRtpIp = false
  find : st.findByMediaAddress cfg invite.fromRtpIp (toPort (rtpPortAsInt invite)) = some r
  notRaw : (st.session r).protocol ≠ .protRawRtp
  notShared : ¬((st.session r).protocol = .protSip ∧ cfg.rtpAllowMultipleMappings = true)

/-- Where the address leads to no such session the INVITE goes by its call-id. -/
theorem reportSipInvite_of_not_affected (hnot : ∀ r, ¬IsAffected cfg st invite r) :
    st.reportSipInvite cfg env invite = st ∨
      ∃ ipAndPort, st.reportSipInvite cfg env invite = st.inviteByCallId cfg env invite ipAndPort := by
  unfold reportSipInvite
  by_cases hignored : cfg.sipIgnoredMediaAddresses.isMatch invite.fromRtpIp = true
  · rw [if_pos hignored]
    exact Or.inl rfl
  · rw [if_neg hignored]
    right
    dsimp only
    cases hfind : st.findByMediaAddress cfg invite.fromRtpIp (toPort (rtpPortAsInt invite)) with
    | none => exact ⟨_, rfl⟩
    | some r =>
        dsimp only
        have hpasses : (st.session r).protocol = .protRawRtp ∨
            (st.session r).protocol = .protSip ∧ cfg.rtpAllowMultipleMappings = true := by
          by_contra hneither
          rw [not_or] at hneither
          exact hnot r ⟨eq_false_of_ne_true hignored, hfind, hneither.1, hneither.2⟩
        rw [if_pos hpasses]
        exact ⟨_, rfl⟩

/-- No session is mapped at port 0. -/
theorem findByMediaAddress_zero (sound : Sound cfg .any st) (ipAddress : InAddr) :
    st.findByMediaAddress cfg ipAddress 0 = none := by
  cases hfind : st.findByMediaAddress cfg ipAddress 0 with
  | none => rfl
  | some r =>
      have haddress := sound.address _ r (OrderedMap.find?_eq_some.mp hfind)
      exact absurd (craft_mod cfg ipAddress 0) ((sound.addressed r).port _ haddress)

/-! ### A call that is mapped at the number of a text -/

section

private def singleMappings : Config := { rtpAllowMultipleMappings := false }

/-- An INVITE without a media port. -/
private def portlessInvite : SipInviteInfo :=
  { sipMethod := "INVITE", senderIp := 0, originalSenderIp := 0, receiverIp := 0, fromRtpIp := 0,
    senderMac := [], receiverMac := [], fromRtpPort := "", fromUser := "", toUser := "",
    callId := "a", recvTime := 0, callId_ne := by decide }

private def invitedStore : VoIpSessions :=
  runAll singleMappings (empty singleMappings { usec := 0 } 0)
    [({ usec := 0 }, .sipInvite portlessInvite)]

/-- The progress of the call names the address. -/
private def progressAt (mediaIp : InAddr) (mediaPort : String) : SipSessionProgressInfo :=
  { callId := "a", mediaIp := mediaIp, mediaPort := mediaPort, senderIp := 0 }

private theorem setMediaAddress_invited (mediaIp : InAddr) {mediaPort : UInt16}
    (hport : mediaPort ≠ 0) :
    (invitedStore.setMediaAddress singleMappings { usec := 0 } 0 mediaIp mediaPort).byIpAndPort.find?
        (craft64bitMediaAddress singleMappings mediaIp mediaPort) = some 0 ∧
      ((invitedStore.setMediaAddress singleMappings { usec := 0 } 0 mediaIp mediaPort).session
        0).protocol = .protSip := by
  have hempty : invitedStore.byIpAndPort.entries = [] := by decide +kernel
  have hprotocol : (invitedStore.session 0).protocol = .protSip := by decide +kernel
  have haccepted : ¬(mediaPort = 0 ∨ (!isMediaAddressAllowed singleMappings mediaIp) = true) := by
    simp [hport, isMediaAddressAllowed, singleMappings, IpRanges.isMatch, IpRanges.isEmpty]
  have hfree : invitedStore.byIpAndPort.find?
      (craft64bitMediaAddress singleMappings mediaIp mediaPort) = none := by
    rw [OrderedMap.find?_eq_none, hempty]
    exact List.forall_mem_nil _
  have hstill : (givenUp singleMappings invitedStore 0).find?
      (craft64bitMediaAddress singleMappings mediaIp mediaPort) = none := by
    rw [OrderedMap.find?_eq_none]
    intro entry hmem
    have hold := (mem_givenUp.mp hmem).1
    rw [hempty] at hold
    cases hold
  unfold setMediaAddress
  rw [if_neg haccepted]
  dsimp only
  rw [hfree]
  dsimp only
  rw [changeMediaAddress_eq mediaIp hfree]
  constructor
  · exact OrderedMap.find?_insertNew_self hstill
  · exact (congrArg (fun s : VoIpSession => s.protocol) (session_setSession_self _)).trans hprotocol

private theorem exists_affected (hnumber : (strtol invite.fromRtpPort).2 = true)
    (hport : (strtol invite.fromRtpPort).1 % 65536 ≠ 0) :
    ∃ st, Reachable singleMappings st ∧ IsAffected singleMappings st invite 0 := by
  have hneg : toPort (rtpPortAsInt invite) ≠ 0 := by
    rw [rtpPortAsInt_of_number hnumber, toPort_longToInt, Ne, toPort_eq_zero_iff]
    exact hport
  have hcallId : invitedStore.byCallId.find? "a" = some 0 := by decide +kernel
  have hprogress : invitedStore.reportSipSessionProgress singleMappings { usec := 0 }
      (progressAt invite.fromRtpIp invite.fromRtpPort) =
        invitedStore.setMediaAddress singleMappings { usec := 0 } 0 invite.fromRtpIp
          (toPort (rtpPortAsInt invite)) := by
    rw [rtpPortAsInt_of_number hnumber]
    unfold reportSipSessionProgress
    dsimp only [progressAt]
    rw [hcallId]
    rfl
  obtain ⟨hfind, hprotocol⟩ := setMediaAddress_invited invite.fromRtpIp hneg
  refine ⟨_, reachable_runAll { usec := 0 } 0 [({ usec := 0 }, .sipInvite portlessInvite),
    ({ usec := 0 }, .sipSessionProgress (progressAt invite.fromRtpIp invite.fromRtpPort))], ?_⟩
  change IsAffected singleMappings (invitedStore.reportSipSessionProgress singleMappings
    { usec := 0 } (progressAt invite.fromRtpIp invite.fromRtpPort)) invite 0
  rw [hprogress]
  constructor
  · rfl
  · exact hfind
  · rw [hprotocol]
    decide
  · rintro ⟨_, hmultiple⟩
    cases hmultiple

/-- The address of an INVITE counts only with the port that its text is, in every store, where
the text keeps its port: any other number is that of another port in sixteen bits. -/
theorem reportSipInvite_port_iff (invite : SipInviteInfo) :
    (∀ cfg env st, Reachable cfg st →
      (∀ r, IsAffected cfg st invite r → IsPortText invite.fromRtpPort ∧
        st.findByMediaAddress cfg invite.fromRtpIp (toPort (strtol invite.fromRtpPort).1) =
          some r) ∧
      (¬IsPortText invite.fromRtpPort →
        LeavesOthers ((st.byCallId.find? invite.callId).getD st.next) st
          (st.reportSipInvite cfg env invite))) ↔
      KeepsPort invite.fromRtpPort := by
  constructor
  · intro hall hnumber
    by_cases hport : (strtol invite.fromRtpPort).1 % 65536 = 0
    · exact Or.inr hport
    · obtain ⟨st, reachable, affected⟩ := exists_affected hnumber hport
      exact Or.inl ((hall singleMappings { usec := 0 } st reachable).1 0 affected).1
  · intro hkeeps cfg env st reachable
    have hnone (hnot : ¬IsPortText invite.fromRtpPort) : ∀ r, ¬IsAffected cfg st invite r := by
      intro r affected
      have hfind := affected.find
      rw [toPort_of_keepsPort hkeeps hnot, findByMediaAddress_zero reachable.sound] at hfind
      cases hfind
    constructor
    · intro r affected
      have htext : IsPortText invite.fromRtpPort := by
        by_contra hnot
        exact hnone hnot r affected
      refine ⟨htext, ?_⟩
      have hfind := affected.find
      rw [rtpPortAsInt_of_number htext.1, toPort_longToInt] at hfind
      exact hfind
    · intro hnot
      have hzero := rtpPort_of_toPort (toPort_of_keepsPort hkeeps hnot)
      rcases @reportSipInvite_of_not_affected cfg env st invite (hnone hnot) with hsame | ⟨a, hgoes⟩
      · rw [hsame]
        exact .refl
      · rw [hgoes]
        exact .inviteByCallId hzero a

/-- The number 70000 leads to the session at port 4464. -/
theorem reportSipInvite_port_wraps : ¬ ∀ (cfg : Config) (env : Env) (st : VoIpSessions)
    (invite : SipInviteInfo), Reachable cfg st →
      (∀ r, IsAffected cfg st invite r → IsPortText invite.fromRtpPort ∧
        st.findByMediaAddress cfg invite.fromRtpIp (toPort (strtol invite.fromRtpPort).1) =
          some r) ∧
      (¬IsPortText invite.fromRtpPort →
        LeavesOthers ((st.byCallId.find? invite.callId).getD st.next) st
          (st.reportSipInvite cfg env invite)) := by
  intro hall
  let invite : SipInviteInfo :=
    { portlessInvite with fromRtpPort := "70000", callId := "b", callId_ne := by decide }
  let st := runAll singleMappings (empty singleMappings { usec := 0 } 0)
    [({ usec := 0 }, .sipInvite portlessInvite),
      ({ usec := 0 }, .sipSessionProgress (progressAt 0 "4464"))]
  have reachable : Reachable singleMappings st := reachable_runAll _ _ _
  have affected : IsAffected singleMappings st invite 0 := by
    constructor
    · decide +kernel
    · decide +kernel
    · decide +kernel
    · decide +kernel
  have htext := ((hall singleMappings { usec := 0 } st invite reachable).1 0 affected).1
  exact absurd htext.2.2 (by decide +kernel)

end

end

end VoIpSessions

end OrkAudio.VoIp
