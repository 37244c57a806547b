import OrkAudio.VoIp.Acts
import OrkAudio.VoIp.Aside

/-! Every operation of the store is a chain of acts. -/

namespace OrkAudio.VoIp

open Lib

namespace VoIpSessions

section

variable {cfg : Config} {env : Env} {scope : Scope} {st st' st'' : VoIpSessions} {q r : Nat}

/-! ### Chains that go on with a session -/

variable (cfg env scope) in
/-- A chain of acts after which a session may still be used, with its call-id. -/
structure Leads (r : Nat) (st st' : VoIpSessions) : Prop where
  acts : Acts cfg env scope st st'
  sound : Sound cfg scope st'
  usable : Usable scope st' r
  callId : (st'.session r).callId = (st.session r).callId

theorem usable_of_registered (sound : Sound cfg scope st) (registered : st.Registered r) :
    Usable scope st r :=
  ⟨sound.fresh r registered, fun halive => sound.alive halive r registered⟩

theorem registered_of_byCallId {k : String} (hfind : st.byCallId.find? k = some r) :
    st.Registered r := Or.inr ⟨k, OrderedMap.find?_eq_some.mp hfind⟩

theorem registered_of_byIpAndPort {a : Nat} (hfind : st.byIpAndPort.find? a = some r) :
    st.Registered r := Or.inl ⟨a, OrderedMap.find?_eq_some.mp hfind⟩

/-! ### Sessions that are found -/

/-- A fold that keeps what it has or takes the element. -/
theorem foldl_pick {α β : Type} {f : β → α → β} {out : β → Option α}
    (hpick : ∀ b a, out (f b a) = out b ∨ out (f b a) = some a) {xs : List α} {b : β} {x : α}
    (hout : out (xs.foldl f b) = some x) : out b = some x ∨ x ∈ xs := by
  induction xs generalizing b with
  | nil => exact Or.inl hout
  | cons a rest ih =>
      rcases ih hout with hkept | hmem
      · rcases hpick b a with hold | hnew
        · exact Or.inl (hold.symm.trans hkept)
        · obtain rfl := Option.some.inj (hnew.symm.trans hkept)
          exact Or.inr List.mem_cons_self
      · exact Or.inr (List.mem_cons_of_mem _ hmem)

theorem mem_of_findNewest {refs : List Nat} {p : VoIpSession → Bool} {time : VoIpSession → Int}
    (hfind : st.findNewest refs p time = some r) : r ∈ refs := by
  unfold findNewest at hfind
  refine Or.elim (@foldl_pick _ _ _ id ?_ _ _ _ hfind) (fun hnone => by cases hnone)
    List.mem_of_mem_filter
  intro newest a
  cases newest with
  | none => exact Or.inr rfl
  | some old =>
      dsimp only [id]
      split
      · exact Or.inr rfl
      · exact Or.inl rfl

theorem registered_of_sessionsByIpAndPort (hmem : r ∈ st.sessionsByIpAndPort) :
    st.Registered r := by
  obtain ⟨⟨a, _⟩, hentry, rfl⟩ := List.mem_map.mp hmem
  exact Or.inl ⟨a, hentry⟩

theorem registered_of_sessionsByCallId (hmem : r ∈ st.sessionsByCallId) : st.Registered r := by
  obtain ⟨⟨k, _⟩, hentry, rfl⟩ := List.mem_map.mp hmem
  exact Or.inr ⟨k, hentry⟩

theorem mem_of_findFirst {refs : List Nat} {p : VoIpSession → Bool}
    (hfind : st.findFirst refs p = some r) : r ∈ refs := List.mem_of_find?_eq_some hfind

theorem mem_of_findNewestRtp {endpointIp : InAddr}
    (hfind : st.findNewestRtpByEndpointIp endpointIp = some r) :
    r ∈ st.sessionsByIpAndPort := by
  unfold findNewestRtpByEndpointIp at hfind
  refine Or.elim (@foldl_pick _ _ _ Prod.snd ?_ _ _ _ hfind) (fun hnone => by cases hnone)
    List.mem_of_mem_filter
  intro found a
  cases (st.session a).lastRtpPacket with
  | none => exact Or.inr rfl
  | some lastPacket =>
      dsimp only
      split
      · exact Or.inr rfl
      · exact Or.inl rfl

namespace Leads

theorem refl (sound : Sound cfg scope st) (usable : Usable scope st r) :
    Leads cfg env scope r st st := ⟨.refl, sound, usable, rfl⟩

theorem trans (first : Leads cfg env scope r st st')
    (rest : Leads cfg env scope r st' st'') : Leads cfg env scope r st st'' :=
  ⟨first.acts.trans rest.acts, rest.sound, rest.usable, rest.callId.trans first.callId⟩

theorem andThen (first : Leads cfg env scope r st st')
    (rest : Sound cfg scope st' → Usable scope st' r → Leads cfg env scope r st' st'') :
    Leads cfg env scope r st st'' :=
  first.trans (rest first.sound first.usable)

/-- A session that is entered by its call-id in the end. -/
theorem insertByCallId (leads : Leads cfg env scope r st st')
    (hkeyed : scope.keyed → (st.session r).callId ≠ "") :
    Acts cfg env scope st (st'.insertByCallId r) := by
  apply leads.acts.tail
  apply Act.insertByCallId r leads.usable
  intro h
  rw [leads.callId]
  exact hkeyed h

/-- An act that neither stops the session nor changes its call-id. -/
theorem single (act : Act cfg env scope st st') (sound : Sound cfg scope st)
    (usable : Usable scope st r) (hnext : st.next ≤ st'.next)
    (hdismissed : st'.isDismissed r → st.isDismissed r)
    (hcallId : (st'.session r).callId = (st.session r).callId) :
    Leads cfg env scope r st st' where
  acts := .single act
  sound := act.sound sound
  usable := ⟨usable.lt.trans_le hnext, fun halive h => usable.alive halive (hdismissed h)⟩
  callId := hcallId

end Leads

section

variable (sound : Sound cfg scope st) (usable : Usable scope st r)

include sound usable

theorem perform_leads {α : Type} (m : SessionM α) : Leads cfg env scope r st (st.act r m).2 :=
  .single (.act r m usable) sound usable le_rfl id (congrArg SessionKeys.callId (keys_act m))

theorem beside_leads (same : SameSessions st st') : Leads cfg env scope r st st' := by
  apply Leads.single (.beside same) sound usable same.next.ge
  · intro hdismissed
    rw [isDismissed, same.history] at hdismissed
    exact hdismissed
  · rw [same.session]

theorem stop_leads_of_ne (hne : r ≠ q) (hused : Usable scope st q) :
    Leads cfg env scope r st (st.stop cfg env q) := by
  have act : Act cfg env scope st (st.stop cfg env q) := by
    apply Act.stop q hused.lt
    intro hquiet hstopped
    rw [sound.notStopped hused (scope.alive_of_quiet hquiet)] at hstopped
    cases hstopped
  apply Leads.single act sound usable (next_stop st q).ge
  · intro hdismissed
    rcases isDismissed_stop.mp hdismissed with hbefore | heq
    · exact hbefore
    · exact absurd heq hne
  · rw [session_stop_of_ne st r q hne]

theorem stop_acts : Acts cfg env scope st (st.stop cfg env r) := by
  apply Relation.ReflTransGen.single
  apply Act.stop r usable.lt
  intro hquiet hstopped
  rw [sound.notStopped usable (scope.alive_of_quiet hquiet)] at hstopped
  cases hstopped

theorem change_leads (mediaIp : InAddr) {a : Nat} (hfree : st.byIpAndPort.find? a = none)
    (hport : a % 65536 ≠ 0) :
    Leads cfg env scope r st (st.changeMediaAddress cfg r mediaIp a) := by
  have act : Act cfg env scope st (st.changeMediaAddress cfg r mediaIp a) :=
    .change r mediaIp a usable hfree hport
  apply Leads.single act sound usable
  · rw [changeMediaAddress_eq mediaIp hfree]
    exact le_rfl
  · intro hdismissed
    rw [changeMediaAddress_eq mediaIp hfree] at hdismissed
    exact (isDismissed_append (r := r) rfl).mp hdismissed
  · rw [changeMediaAddress_eq mediaIp hfree]
    have hself : (st.setSession r (mappedTo cfg (st.session r) mediaIp a)).session r =
        mappedTo cfg (st.session r) mediaIp a := session_setSession_self _
    rw [hself]
    rfl

/-- Making room for a session takes the address from the other one. -/
theorem replace_leads {old a : Nat} (hfind : st.byIpAndPort.find? a = some old) (hne : r ≠ old) :
    Leads cfg env scope r st (st.replaceSession cfg env old a) ∧
      (st.replaceSession cfg env old a).byIpAndPort.find? a = none := by
  have hmem := OrderedMap.find?_eq_some.mp hfind
  have haddress := sound.address a old hmem
  have hport := (sound.addressed old).port a haddress
  have hzero : a ≠ 0 := by
    rintro rfl
    exact hport rfl
  unfold replaceSession
  split
  · refine ⟨stop_leads_of_ne sound usable hne
      (usable_of_registered sound (registered_of_byIpAndPort hfind)), ?_⟩
    rw [OrderedMap.find?_eq_none]
    rintro ⟨b, q⟩ hentry rfl
    have hbefore := hentry
    rw [byIpAndPort_stop, mem_foldl_eraseOwn] at hbefore
    have hold : q = old :=
      Option.some.inj ((OrderedMap.find?_eq_some.mpr hbefore.1).symm.trans hfind)
    subst hold
    exact sound.not_mem_byIpAndPort_stop b hentry
  · have hsub : ∀ entry ∈ (eraseOwn old st.byIpAndPort a).entries,
        entry ∈ st.byIpAndPort.entries := fun entry h => (mem_eraseOwn.mp h).1
    refine ⟨.single (.shrink _ hsub) sound usable le_rfl id rfl, ?_⟩
    rw [OrderedMap.find?_eq_none]
    rintro ⟨b, q⟩ hentry rfl
    obtain ⟨hbefore, hkept⟩ := mem_eraseOwn.mp hentry
    have hold : q = old :=
      Option.some.inj ((OrderedMap.find?_eq_some.mpr hbefore).symm.trans hfind)
    subst hold
    rcases hkept with h | h
    · exact hzero h
    · exact h rfl

theorem setMediaAddress_leads (mediaIp : InAddr) (mediaPort : UInt16) :
    Leads cfg env scope r st (st.setMediaAddress cfg env r mediaIp mediaPort) := by
  have hrefl : Leads cfg env scope r st st := .refl sound usable
  unfold setMediaAddress
  split_ifs with hrefused
  · exact hrefl
  · have hport := craft_mod_ne_zero cfg mediaIp fun h => hrefused (Or.inl h)
    dsimp only
    cases hfind : st.byIpAndPort.find? (craft64bitMediaAddress cfg mediaIp mediaPort) with
    | none => exact change_leads sound usable mediaIp hfind hport
    | some old =>
        dsimp only
        split_ifs with hsame htakes
        · exact hrefl
        · have hne : r ≠ old := by
            rintro rfl
            exact hsame (decide_eq_true rfl)
          obtain ⟨replaced, hfree⟩ := replace_leads sound usable hfind hne
          exact replaced.trans (change_leads replaced.sound replaced.usable mediaIp hfree hport)
        · exact hrefl

end

/-! ### SIP -/

section

variable (cfg env) (invite : SipInviteInfo)

theorem trySessionCallPickUp_leads (sound : Sound cfg scope st) (usable : Usable scope st r)
    (replacesCallId : String) :
    Leads cfg env scope r st (st.trySessionCallPickUp cfg r replacesCallId) := by
  unfold trySessionCallPickUp
  split
  · have picked : Leads cfg env scope r st _ :=
      perform_leads sound usable (update fun s => { s with isCallPickUp := true })
    exact picked.trans (beside_leads picked.sound picked.usable ⟨rfl, rfl, rfl, rfl, rfl⟩)
  · exact .refl sound usable

theorem setInviteAddresses_leads (sound : Sound cfg scope st) (usable : Usable scope st r) :
    Leads cfg env scope r st (st.setInviteAddresses cfg env r invite) := by
  have first := @setMediaAddress_leads cfg env _ _ _ sound usable invite.fromRtpIp (rtpPort invite)
  unfold setInviteAddresses
  dsimp only
  split
  · exact first.trans (setMediaAddress_leads first.sound first.usable _ _)
  · exact first

theorem inviteExisting_leads (sound : Sound cfg scope st) (usable : Usable scope st r)
    (remaps : Bool) : Leads cfg env scope r st (st.inviteExisting cfg env r invite remaps) := by
  rw [inviteExisting]
  by_cases hsendonly : invite.attrSendonly = true
  · rw [if_pos hsendonly]
    exact perform_leads sound usable _
  rw [if_neg hsendonly]
  by_cases hresumes : ((st.session r).onHold && cfg.sipInviteCanPutOffHold) = true
  · rw [if_pos hresumes]
    have resumed : Leads cfg env scope r st _ := perform_leads sound usable (do
      goOffHold cfg invite.recvTime
      update fun s => { s with lastUpdated := env.time })
    exact resumed.trans (setMediaAddress_leads resumed.sound resumed.usable _ _)
  · rw [if_neg hresumes]
    have mapped : Leads cfg env scope r st
        (if remaps then st.setInviteAddresses cfg env r invite else st) := by
      split
      · exact setInviteAddresses_leads cfg env invite sound usable
      · exact .refl sound usable
    have picked := mapped.trans
      (trySessionCallPickUp_leads cfg env mapped.sound mapped.usable invite.replacesId)
    exact picked.trans (perform_leads picked.sound picked.usable _)

theorem usable_create (sound : Sound cfg scope st) (init : VoIpSession → VoIpSession) :
    Usable scope (st.create cfg env init) st.next where
  lt := Nat.lt_succ_self _
  alive _ hdismissed := absurd (sound.past _ hdismissed) (lt_irrefl _)

/-- A session that a creator sets the keys of. -/
theorem create_leads (sound : Sound cfg scope st) {init : VoIpSession → VoIpSession}
    (hinit : ∀ s, IsNew cfg s → IsNew cfg (init s)) :
    Acts cfg env scope st (st.create cfg env init) ∧
      Leads cfg env scope st.next (st.create cfg env init) (st.create cfg env init) :=
  have act : Act cfg env scope st (st.create cfg env init) := .create init hinit
  ⟨.single act, .refl (act.sound sound) (usable_create cfg env sound init)⟩

theorem takePreInviteNotify_same : SameSessions st (st.takePreInviteNotify cfg invite).2 := by
  unfold takePreInviteNotify
  dsimp only
  generalize (Option.bind _ _ : Option SipNotifyInfo) = found
  cases found with
  | none => exact ⟨rfl, rfl, rfl, rfl, rfl⟩
  | some notify =>
      dsimp only
      split
      · exact ⟨rfl, rfl, rfl, rfl, rfl⟩
      · exact ⟨rfl, rfl, rfl, rfl, rfl⟩

theorem inviteNew_acts (sound : Sound cfg scope st) (hcallId : invite.callId ≠ "") :
    Acts cfg env scope st (st.inviteNew cfg env invite) := by
  have hinit (s : VoIpSession) (isNew : IsNew cfg s) : IsNew cfg { s with
      callId := invite.callId
      protocol := .protSip
      sipDialedNumber := invite.sipDialedNumber } := by
    exact ⟨⟨isNew.addressed.latest, isNew.addressed.port, isNew.addressed.single⟩,
      isNew.notStopped, isNew.silent⟩
  obtain ⟨created, new⟩ := create_leads cfg env sound hinit
  have hnew : ((st.create cfg env fun s => { s with
      callId := invite.callId
      protocol := .protSip
      sipDialedNumber := invite.sipDialedNumber }).session st.next).callId = invite.callId :=
    congrArg (fun s : VoIpSession => s.callId) (session_setSession_self _)
  unfold inviteNew
  refine created.trans (Leads.insertByCallId ?_ fun _ => by rw [hnew]; exact hcallId)
  refine .andThen ?_ fun sound usable => setInviteAddresses_leads cfg env _ sound usable
  refine .andThen ?_ fun sound usable => perform_leads sound usable _
  refine .andThen ?_ fun sound usable =>
    beside_leads sound usable (takePreInviteNotify_same cfg invite)
  exact new.andThen fun sound usable => trySessionCallPickUp_leads cfg env sound usable _

theorem inviteByCallId_acts (sound : Sound cfg scope st) (hcallId : invite.callId ≠ "")
    (ipAndPort : Nat) : Acts cfg env scope st (st.inviteByCallId cfg env invite ipAndPort) := by
  unfold inviteByCallId
  split
  · rename_i r hfind
    exact (inviteExisting_leads cfg env invite sound
      (usable_of_registered sound (registered_of_byCallId hfind)) _).acts
  · exact inviteNew_acts cfg env invite sound hcallId

theorem reportSipInvite_acts (sound : Sound cfg scope st) (hcallId : invite.callId ≠ "") :
    Acts cfg env scope st (st.reportSipInvite cfg env invite) := by
  unfold reportSipInvite
  split
  · exact .refl
  · dsimp only
    split
    · exact inviteByCallId_acts cfg env invite sound hcallId _
    · rename_i r hfind
      have usable := usable_of_registered sound (registered_of_byIpAndPort hfind)
      split
      · exact inviteByCallId_acts cfg env invite sound hcallId _
      · split
        · have relabelled : Leads cfg env scope r st _ := perform_leads sound usable
            (update fun s => { s with protocol := .protRawRtp })
          exact relabelled.acts.trans
            (inviteByCallId_acts cfg env invite relabelled.sound hcallId _)
        · exact (inviteExisting_leads cfg env invite sound usable false).acts

theorem reportSipErrorPacket_acts (sound : Sound cfg scope st) (info : SipFailureMessageInfo) :
    Acts cfg env scope st (st.reportSipErrorPacket cfg env info) := by
  unfold reportSipErrorPacket
  split
  · rename_i r hfind
    have usable := usable_of_registered sound (registered_of_byCallId hfind)
    split
    · exact .refl
    · have reported : Leads cfg env scope r st _ :=
        perform_leads sound usable VoIp.reportSipErrorPacket
      exact reported.acts.trans (stop_acts reported.sound reported.usable)
  · exact .refl

theorem reportSipSessionProgress_acts (sound : Sound cfg scope st)
    (info : SipSessionProgressInfo) :
    Acts cfg env scope st (st.reportSipSessionProgress cfg env info) := by
  unfold reportSipSessionProgress
  split
  · rename_i r hfind
    have usable := usable_of_registered sound (registered_of_byCallId hfind)
    have first := @setMediaAddress_leads cfg env _ _ _ sound usable info.mediaIp
      (toPort (atoi info.mediaPort))
    dsimp only
    split
    · exact (first.trans (setMediaAddress_leads first.sound first.usable _ _)).acts
    · exact first.acts
  · exact .refl

theorem reportSip200Ok_acts (sound : Sound cfg scope st) (info : Sip200OkInfo) :
    Acts cfg env scope st (st.reportSip200Ok cfg env info) := by
  unfold reportSip200Ok
  split
  · rename_i r hfind
    split
    · exact (setMediaAddress_leads sound
        (usable_of_registered sound (registered_of_byCallId hfind)) _ _).acts
    · exact .refl
  · exact .refl

theorem reportSipBye_acts (sound : Sound cfg scope st) (bye : SipByeInfo) :
    Acts cfg env scope st (st.reportSipBye cfg env bye) := by
  unfold reportSipBye
  split
  · rename_i r hfind
    have reported : Leads cfg env scope r st _ := perform_leads sound
      (usable_of_registered sound (registered_of_byCallId hfind)) (VoIp.reportSipBye cfg bye)
    exact reported.acts.trans (stop_acts reported.sound reported.usable)
  · exact .refl

theorem reportSipNotify_acts (sound : Sound cfg scope st) (notify : SipNotifyInfo) :
    Acts cfg env scope st (st.reportSipNotify cfg env notify) := by
  have same (st' : VoIpSessions) (same : SameSessions st st') : Acts cfg env scope st st' :=
    .single (.beside same)
  unfold reportSipNotify
  dsimp only
  split
  · rename_i r hfind
    have usable := usable_of_registered sound
      (registered_of_sessionsByCallId (mem_of_findNewest hfind))
    split
    · exact same _ ⟨rfl, rfl, rfl, rfl, rfl⟩
    · split
      · exact .refl
      · exact (perform_leads sound usable _).acts
  · split
    · exact .refl
    · exact same _ ⟨rfl, rfl, rfl, rfl, rfl⟩

theorem reportSipInfo_acts (sound : Sound cfg scope st) (info : SipInfo) :
    Acts cfg env scope st (st.reportSipInfo cfg env info) := by
  unfold reportSipInfo
  split
  · rename_i r hfind
    exact (perform_leads sound (usable_of_registered sound (registered_of_byCallId hfind)) _).acts
  · exact .refl

theorem reportSipRefer_acts (sound : Sound cfg scope st) (info : SipRefer) :
    Acts cfg env scope st (st.reportSipRefer info) := by
  unfold reportSipRefer
  split
  · rename_i r hfind
    have reported : Leads cfg env scope r st _ := perform_leads sound
      (usable_of_registered sound (registered_of_byCallId hfind)) (VoIp.reportSipRefer { info with
        referToParty := st.shared.getLocalPartyMap info.referToParty
        referredByParty := st.shared.getLocalPartyMap info.referredByParty })
    exact reported.acts.tail (.beside ⟨rfl, rfl, rfl, rfl, rfl⟩)
  · exact .refl

end

/-! ### Skinny -/

section

variable (cfg env)

theorem updateEndpointWithCallInfo_same (callInfo : SkCallInfo) (headers : SkinnyHeaders) :
    SameSessions st (st.updateEndpointWithCallInfo cfg callInfo headers) := by
  unfold updateEndpointWithCallInfo
  dsimp only
  split
  · split
    · exact ⟨rfl, rfl, rfl, rfl, rfl⟩
    · exact ⟨rfl, rfl, rfl, rfl, rfl⟩
  · exact ⟨rfl, rfl, rfl, rfl, rfl⟩

theorem generateSkinnyCallId_ne_empty (endpointIp : InAddr) (endpointSkinnyPort : UInt16)
    (callId : UInt32) : generateSkinnyCallId cfg endpointIp endpointSkinnyPort callId ≠ "" := by
  intro hempty
  have hlist := congrArg String.toList hempty
  unfold generateSkinnyCallId at hlist
  split at hlist <;> simp [String.toList_append] at hlist

theorem stopPrevious_leads (sound : Sound cfg scope st) (usable : Usable scope st r)
    (endpointIp : InAddr) (hnew : r ∉ st.sessionsByIpAndPort) :
    Leads cfg env scope r st (st.stopPrevious cfg env endpointIp) := by
  unfold stopPrevious
  split
  · rename_i previous hfind
    have hmem := mem_of_findNewestRtp hfind
    dsimp only
    split
    · apply stop_leads_of_ne sound usable
      · rintro rfl
        exact hnew hmem
      · exact usable_of_registered sound (registered_of_sessionsByIpAndPort hmem)
    · exact .refl sound usable
  · exact .refl sound usable

theorem newCallInfo_acts (sound : Sound cfg scope st) {callId : String} (hcallId : callId ≠ "")
    (callInfo : SkCallInfo) (headers : SkinnyHeaders) :
    Acts cfg env scope st (st.newCallInfo cfg env callId callInfo headers) := by
  have hinit (s : VoIpSession) (isNew : IsNew cfg s) : IsNew cfg { s with
      callId := callId
      endPointIp := headers.ipDest
      endPointSignallingPort := headers.tcpDest
      protocol := .protSkinny
      skinnyLastCallInfoTime := env.usec } := by
    exact ⟨⟨isNew.addressed.latest, isNew.addressed.port, isNew.addressed.single⟩,
      isNew.notStopped, isNew.silent⟩
  obtain ⟨created, new⟩ := create_leads cfg env sound hinit
  have hnew : ((st.create cfg env fun s => { s with
      callId := callId
      endPointIp := headers.ipDest
      endPointSignallingPort := headers.tcpDest
      protocol := .protSkinny
      skinnyLastCallInfoTime := env.usec }).session st.next).callId = callId :=
    congrArg (fun s : VoIpSession => s.callId) (session_setSession_self _)
  have hfresh : st.next ∉ st.sessionsByIpAndPort := fun hmem =>
    absurd (sound.fresh _ (registered_of_sessionsByIpAndPort hmem)) (lt_irrefl _)
  unfold newCallInfo
  refine created.trans (Leads.insertByCallId ?_ fun _ => by rw [hnew]; exact hcallId)
  refine .andThen ?_ fun sound usable => stopPrevious_leads cfg env sound usable _ hfresh
  exact new.andThen fun sound usable => perform_leads sound usable _

theorem lateCallInfo_acts (sound : Sound cfg scope st) (usable : Usable scope st r)
    (hempty : (st.session r).callId = "") {callId : String} (hcallId : callId ≠ "")
    (callInfo : SkCallInfo) (headers : SkinnyHeaders) :
    Acts cfg env scope st (st.lateCallInfo cfg env r callId callInfo headers) := by
  have act : Act cfg env scope st
      (st.setSession r { st.session r with callId := callId }) :=
    .assignCallId r callId usable hempty
  have hnew : ((st.setSession r { st.session r with callId := callId }).session r).callId =
      callId := congrArg (fun s : VoIpSession => s.callId) (session_setSession_self _)
  have named : Leads cfg env scope r (st.setSession r { st.session r with callId := callId }) _ :=
    .refl (act.sound sound) ⟨usable.lt, usable.alive⟩
  unfold lateCallInfo
  refine .trans (.single act) (Leads.insertByCallId ?_ fun _ => by rw [hnew]; exact hcallId)
  exact named.andThen fun sound usable => perform_leads sound usable _

theorem reportSkinnyCallInfo_acts (sound : Sound cfg scope st) (callInfo : SkCallInfo)
    (headers : SkinnyHeaders) :
    Acts cfg env scope st (st.reportSkinnyCallInfo cfg env callInfo headers) := by
  have hcallId := generateSkinnyCallId_ne_empty cfg headers.ipDest headers.tcpDest callInfo.callId
  have act : Act cfg env scope st (st.updateEndpointWithCallInfo cfg callInfo headers) :=
    .beside (updateEndpointWithCallInfo_same cfg callInfo headers)
  have sound := act.sound sound
  refine .trans (.single act) ?_
  unfold reportSkinnyCallInfo
  dsimp only
  generalize st.updateEndpointWithCallInfo cfg callInfo headers = st at sound ⊢
  split
  · rename_i r hfind
    exact (perform_leads sound (usable_of_registered sound (registered_of_byCallId hfind)) _).acts
  · split
    · rename_i r hlate
      unfold findLate at hlate
      split at hlate
      · rename_i found hfound
        split at hlate
        · rename_i hallowed
          obtain rfl := Option.some.inj hlate
          have usable := usable_of_registered sound
            (registered_of_sessionsByIpAndPort (mem_of_findFirst hfound))
          exact lateCallInfo_acts cfg env sound usable hallowed.2 hcallId callInfo headers
        · cases hlate
      · cases hlate
    · exact newCallInfo_acts cfg env sound hcallId callInfo headers

/-- An operation that runs a function of the session of a call-id. -/
theorem performByCallId_acts (sound : Sound cfg scope st) {callId : String}
    (hfind : st.byCallId.find? callId = some r) (m : SessionM Unit) :
    Acts cfg env scope st (st.perform r m) :=
  (perform_leads sound (usable_of_registered sound (registered_of_byCallId hfind)) m).acts

theorem reportSkinnyCallStateMessage_acts (sound : Sound cfg scope st)
    (message : SkCallStateMessage) (headers : SkinnyHeaders) :
    Acts cfg env scope st (st.reportSkinnyCallStateMessage cfg env message headers) := by
  unfold reportSkinnyCallStateMessage
  split
  · exact performByCallId_acts cfg env sound ‹_› _
  · exact .refl

theorem setSkinnyMediaAddress_acts (sound : Sound cfg scope st) (endpointIp : InAddr)
    (signallingPort lookupPort : UInt16) (passThruPartyId : Int) (mediaIp : InAddr)
    (mediaPort : UInt16) :
    Acts cfg env scope st (st.setSkinnyMediaAddress cfg env endpointIp signallingPort lookupPort
      passThruPartyId mediaIp mediaPort) := by
  unfold setSkinnyMediaAddress
  split
  · rename_i r hfind
    have usable := usable_of_registered sound
      (registered_of_sessionsByCallId (mem_of_findNewest hfind))
    split
    · have passed : Leads cfg env scope r st _ := perform_leads sound usable
        (update fun s => { s with skinnyPassThruPartyId := passThruPartyId })
      exact (passed.trans (setMediaAddress_leads passed.sound passed.usable _ _)).acts
    · exact .refl
  · split
    · dsimp only
      have hinit (party : String) (s : VoIpSession) (isNew : IsNew cfg s) : IsNew cfg { s with
          endPointIp := endpointIp
          endPointSignallingPort := signallingPort
          protocol := .protSkinny
          skinnyPassThruPartyId := passThruPartyId
          localParty := party } := by
        exact ⟨⟨isNew.addressed.latest, isNew.addressed.port, isNew.addressed.single⟩,
          isNew.notStopped, isNew.silent⟩
      obtain ⟨created, new⟩ := create_leads cfg env sound (hinit _)
      exact created.trans (setMediaAddress_leads new.sound new.usable _ _).acts
    · exact .refl

theorem reportSkinnyOpenReceiveChannelAck_acts (sound : Sound cfg scope st)
    (openReceive : SkOpenReceiveChannelAck) (headers : SkinnyHeaders) :
    Acts cfg env scope st (st.reportSkinnyOpenReceiveChannelAck cfg env openReceive headers) := by
  unfold reportSkinnyOpenReceiveChannelAck
  split
  · exact .refl
  · exact setSkinnyMediaAddress_acts cfg env sound _ _ _ _ _ _

theorem reportSkinnyLineStat_same (lineStat : SkLineStat) (headers : SkinnyHeaders) :
    SameSessions st (st.reportSkinnyLineStat cfg lineStat headers) := by
  unfold reportSkinnyLineStat
  split
  · exact ⟨rfl, rfl, rfl, rfl, rfl⟩
  · exact ⟨rfl, rfl, rfl, rfl, rfl⟩

theorem reportSkinnyStopMediaTransmission_acts (sound : Sound cfg scope st)
    (stopMedia : SkStopMediaTransmission) (headers : SkinnyHeaders) :
    Acts cfg env scope st (st.reportSkinnyStopMediaTransmission cfg env stopMedia headers) := by
  unfold reportSkinnyStopMediaTransmission
  split
  · exact .refl
  · split
    · rename_i r hfind
      split
      · exact .refl
      · apply stop_acts sound (usable_of_registered sound _)
        unfold findStopped at hfind
        rcases Option.or_eq_some_iff.mp hfind with hconference | ⟨-, hparty⟩
        · split at hconference
          · exact registered_of_byCallId hconference
          · cases hconference
        · split at hparty
          · exact registered_of_sessionsByCallId (mem_of_findFirst hparty)
          · cases hparty
    · exact .refl

theorem reportSkinnySoftKeyHold_acts (sound : Sound cfg scope st) (skEvent : SkSoftKey)
    (headers : SkinnyHeaders) :
    Acts cfg env scope st (st.reportSkinnySoftKeyHold cfg env skEvent headers) := by
  unfold reportSkinnySoftKeyHold
  split
  · split
    · exact .refl
    · exact performByCallId_acts cfg env sound ‹_› _
  · exact .refl

theorem reportSkinnySoftKeyResume_acts (sound : Sound cfg scope st) (skEvent : SkSoftKey)
    (headers : SkinnyHeaders) :
    Acts cfg env scope st (st.reportSkinnySoftKeyResume cfg env skEvent headers) := by
  unfold reportSkinnySoftKeyResume
  split
  · exact performByCallId_acts cfg env sound ‹_› _
  · exact .refl

theorem reportSkinnySoftKeyConfPressed_acts (sound : Sound cfg scope st) (endpointIp : InAddr)
    (skinnyPort : UInt16) :
    Acts cfg env scope st (st.reportSkinnySoftKeyConfPressed cfg env endpointIp skinnyPort) := by
  unfold reportSkinnySoftKeyConfPressed
  split
  · exact .refl
  · split
    · exact .refl
    · exact performByCallId_acts cfg env sound ‹_› _

theorem reportSkinnySoftKeySetTransfConnected_acts (sound : Sound cfg scope st)
    (skEvent : SkSoftKey) (headers : SkinnyHeaders) :
    Acts cfg env scope st
      (st.reportSkinnySoftKeySetTransfConnected cfg env skEvent headers) := by
  unfold reportSkinnySoftKeySetTransfConnected
  split
  · exact stop_acts sound (usable_of_registered sound (registered_of_byCallId ‹_›))
  · exact .refl

end

/-! ### RTP -/

section

variable (cfg env) (rtpPacket : RtpPacketInfo)

theorem note_leads (sound : Sound cfg scope st) (usable : Usable scope st r) {event : StoreEvent}
    (huses : event.uses = some r) :
    Leads cfg env scope r st { st with history := st.history ++ [event] } :=
  .single (.note event r huses usable) sound usable le_rfl (isDismissed_append huses).mp rfl

theorem handRtpPacket_leads (sound : Sound cfg scope st) (usable : Usable scope st r) :
    Leads cfg env scope r st (st.handRtpPacket cfg env r rtpPacket).2 := by
  have handed : Leads cfg env scope r st _ :=
    perform_leads sound usable (addRtpPacket cfg env rtpPacket)
  exact handed.trans (note_leads cfg env handed.sound handed.usable rfl)

theorem offerRtpPacket_acts (sound : Sound cfg scope st) {found : Option Nat}
    (hfound : ∀ r, found = some r → Usable scope st r) :
    Acts cfg env scope st (st.offerRtpPacket cfg env found rtpPacket).2 := by
  cases found with
  | none => exact .refl
  | some r =>
      have handed := handRtpPacket_leads cfg env rtpPacket sound (hfound r rfl)
      unfold offerRtpPacket
      dsimp only
      split
      · exact handed.acts
      · exact handed.acts.trans (stop_acts handed.sound handed.usable)

/-- A session goes on unless it is offered the packet and does not take it. -/
theorem offerRtpPacket_usable (sound : Sound cfg scope st) {found : Option Nat}
    (hfound : ∀ r, found = some r → Usable scope st r) (usable : Usable scope st q)
    (hgoesOn : found = some q → (st.offerRtpPacket cfg env found rtpPacket).1.1 = true) :
    Usable scope (st.offerRtpPacket cfg env found rtpPacket).2 q := by
  cases found with
  | none => exact usable
  | some r =>
      have handed := handRtpPacket_leads cfg env rtpPacket sound (hfound r rfl)
      have hstill : Usable scope (st.handRtpPacket cfg env r rtpPacket).2 q :=
        ⟨usable.lt, fun halive h => usable.alive halive ((isDismissed_append (r := r) rfl).mp h)⟩
      by_cases htakes : (st.handRtpPacket cfg env r rtpPacket).1.1 = true
      · rw [offerRtpPacket, if_pos htakes]
        exact hstill
      · have hne : q ≠ r := by
          rintro rfl
          exact htakes (hgoesOn rfl)
        rw [offerRtpPacket, if_neg htakes]
        exact (@stop_leads_of_ne cfg env _ _ _ _ handed.sound hstill hne handed.usable).usable

theorem reportRtcpSrcDescription_acts (sound : Sound cfg scope st)
    (rtcpInfo : RtcpSrcDescriptionPacketInfo) :
    Acts cfg env scope st (st.reportRtcpSrcDescription cfg rtcpInfo) := by
  unfold reportRtcpSrcDescription
  split
  · rename_i r hfind
    apply Leads.acts
    apply perform_leads sound (usable_of_registered sound _)
    rcases Option.or_eq_some_iff.mp hfind with hsource | ⟨-, hdest⟩
    · exact registered_of_byIpAndPort hsource
    · exact registered_of_byIpAndPort hdest
  · exact .refl

theorem mergeSessions_acts {r1 r2 : Nat} (sound : Sound cfg scope st)
    (usable1 : Usable scope st r1) (usable2 : Usable scope st r2) :
    Acts cfg env scope st (st.mergeSessions cfg env r1 r2 rtpPacket) := by
  have herase (a : Nat) : Acts cfg env scope st (st.eraseMediaAddress a) :=
    .single (.shrink _ fun entry h => (OrderedMap.mem_erase.mp h).1)
  unfold mergeSessions
  dsimp only
  split
  · split
    · split
      · exact herase _
      · exact .refl
    · split
      · exact herase _
      · exact .refl
  · apply stop_acts sound
    split
    · exact usable1
    · exact usable2

theorem trackMediaAddress_leads (sound : Sound cfg scope st) (usable : Usable scope st r)
    (mediaIp : InAddr) (mediaPort : UInt16) :
    Leads cfg env scope r st (st.trackMediaAddress cfg env r mediaIp mediaPort) := by
  have mapped := @setMediaAddress_leads cfg env _ _ _ sound usable mediaIp mediaPort
  exact mapped.trans (note_leads cfg env mapped.sound mapped.usable rfl)

theorem trackSession_leads (sound : Sound cfg scope st) (usable : Usable scope st r)
    (sourceAddressIsTracked : Bool) :
    Leads cfg env scope r st
      (st.trackSession cfg env r sourceAddressIsTracked rtpPacket) := by
  have second : Leads cfg env scope r st
      (st.trackSecondAddress cfg env r sourceAddressIsTracked rtpPacket) := by
    unfold trackSecondAddress
    split
    · split
      · exact trackMediaAddress_leads cfg env sound usable _ _
      · exact trackMediaAddress_leads cfg env sound usable _ _
    · exact .refl sound usable
  have sound := second.sound
  have usable := second.usable
  unfold trackSession
  apply second.trans
  generalize st.trackSecondAddress cfg env r sourceAddressIsTracked rtpPacket = st at sound usable
  unfold trackFirstPacket
  dsimp only
  split
  · split
    · exact trackMediaAddress_leads cfg env sound usable _ _
    · split
      · exact trackMediaAddress_leads cfg env sound usable _ _
      · exact .refl sound usable
  · exact .refl sound usable

/-- What is done for one session that took a packet has to do with its address. -/
def Tracks (s : VoIpSession) : Prop :=
  cfg.mediaAddressUseSecondRtpAddress = true ∨
    (s.numRtpPackets = 1 ∧ s.protocol = .protSip ∧
      (cfg.isRtpTrackingIpAddress rtpPacket.destIp = true ∨
        cfg.isRtpTrackingIpAddress rtpPacket.sourceIp = true))

theorem trackSession_eq_self (sourceAddressIsTracked : Bool)
    (htracks : ¬Tracks cfg rtpPacket (st.session r)) :
    st.trackSession cfg env r sourceAddressIsTracked rtpPacket = st := by
  unfold Tracks at htracks
  push Not at htracks
  have hsecond : st.trackSecondAddress cfg env r sourceAddressIsTracked rtpPacket = st :=
    if_neg htracks.1
  rw [trackSession, hsecond, trackFirstPacket]
  split_ifs with hfirst hdest hsource
  · exact absurd hdest (htracks.2 hfirst.1 hfirst.2).1
  · exact absurd hsource (htracks.2 hfirst.1 hfirst.2).2
  · rfl
  · rfl

/-! #### No session took the packet -/

theorem newRawSession_acts (sound : Sound cfg scope st) (endpoint : Option VoIpEndpointInfo) :
    Acts cfg env scope st (st.newRawSession cfg env endpoint rtpPacket) := by
  have hinit (rtpIp : InAddr) (s : VoIpSession) (isNew : IsNew cfg s) : IsNew cfg { s with
      protocol := .protRawRtp, endPointIp := rtpIp } := by
    exact ⟨⟨isNew.addressed.latest, isNew.addressed.port, isNew.addressed.single⟩,
      isNew.notStopped, isNew.silent⟩
  obtain ⟨created, new⟩ := create_leads cfg env sound (hinit
    (if (cfg.isRtpTrackingIpAddress rtpPacket.sourceIp || cfg.sangomaEnable) = true then
      rtpPacket.sourceIp else rtpPacket.destIp))
  have mapped := new.andThen fun sound usable => @setMediaAddress_leads cfg env _ _ _ sound usable
    (if (cfg.isRtpTrackingIpAddress rtpPacket.sourceIp || cfg.sangomaEnable) = true then
      rtpPacket.sourceIp else rtpPacket.destIp)
    (if (cfg.isRtpTrackingIpAddress rtpPacket.sourceIp || cfg.sangomaEnable) = true then
      rtpPacket.sourcePort else rtpPacket.destPort)
  have handed := mapped.andThen fun sound usable =>
    handRtpPacket_leads cfg env rtpPacket sound usable
  unfold newRawSession
  dsimp only
  split
  · exact created.trans (handed.andThen fun sound usable => perform_leads sound usable _).acts
  · exact created.trans handed.acts

theorem registered_of_findLatestCall {endpoint : VoIpEndpointInfo}
    (hfind : st.findLatestCall endpoint = some r) : st.Registered r := by
  unfold findLatestCall at hfind
  split at hfind
  · split at hfind
    · obtain rfl := Option.some.inj hfind
      exact registered_of_byCallId ‹_›
    · cases hfind
  · cases hfind

theorem skinnyFindMostLikely_acts (sound : Sound cfg scope st)
    (hfound : st.skinnyFindMostLikelySessionForRtp cfg env rtpPacket = some st') :
    Acts cfg env scope st st' := by
  unfold skinnyFindMostLikelySessionForRtp at hfound
  split at hfound
  · cases hfound
  · rename_i endpoint srcmatch _
    obtain ⟨r, hlatest, rfl⟩ := Option.map_eq_some_iff.mp hfound
    have usable := usable_of_registered sound (registered_of_findLatestCall hlatest)
    have moved : Leads cfg env scope r st _ := perform_leads sound usable
      (update fun s => { s with endPointSignallingPort := endpoint.skinnyPort })
    dsimp only
    split
    · exact (moved.trans (setMediaAddress_leads moved.sound moved.usable _ _)).acts
    · exact (moved.trans (setMediaAddress_leads moved.sound moved.usable _ _)).acts

theorem mem_of_findMostRecent (hfind : (st.findMostRecent env rtpPacket).2 = some r) :
    r ∈ st.sessionsByCallId := by
  unfold findMostRecent at hfind
  refine Or.elim (@foldl_pick _ _ _ Prod.snd ?_ _ _ _ hfind) (fun hnone => by cases hnone)
    List.mem_of_mem_filter
  intro found a
  dsimp only
  split
  · exact Or.inr rfl
  · exact Or.inl rfl

theorem skinnyFindMostLikelyBehindNat_acts (sound : Sound cfg scope st)
    (hfound : st.skinnyFindMostLikelySessionForRtpBehindNat cfg env rtpPacket = some st') :
    Acts cfg env scope st st' := by
  unfold skinnyFindMostLikelySessionForRtpBehindNat at hfound
  dsimp only at hfound
  split at hfound
  · cases hfound
  · rename_i r hrecent
    have usable := usable_of_registered sound
      (registered_of_sessionsByCallId (mem_of_findMostRecent env rtpPacket hrecent))
    split at hfound
    · cases hfound
    · split at hfound
      · obtain rfl := Option.some.inj hfound
        exact (setMediaAddress_leads sound usable _ _).acts
      · obtain rfl := Option.some.inj hfound
        exact (setMediaAddress_leads sound usable _ _).acts

theorem adoptRtpPacket_acts (sound : Sound cfg scope st) :
    Acts cfg env scope st (st.adoptRtpPacket cfg env rtpPacket) := by
  unfold adoptRtpPacket
  split
  · split
    · cases hfound : st.skinnyFindMostLikelySessionForRtp cfg env rtpPacket with
      | none =>
          rw [Option.getD_none]
          exact newRawSession_acts cfg env rtpPacket sound _
      | some st' => exact skinnyFindMostLikely_acts cfg env rtpPacket sound hfound
    · split
      · cases hfound : st.skinnyFindMostLikelySessionForRtpBehindNat cfg env rtpPacket with
        | none =>
            rw [Option.getD_none]
            exact newRawSession_acts cfg env rtpPacket sound _
        | some st' => exact skinnyFindMostLikelyBehindNat_acts cfg env rtpPacket sound hfound
      · exact newRawSession_acts cfg env rtpPacket sound _
  · exact .refl

/-! #### `ReportRtpPacket` -/

/-- The session of the source, and what becomes of the packet there. -/
def sourceSession (st : VoIpSessions) : Option Nat :=
  st.findByMediaAddress cfg (sangomaPacket cfg rtpPacket).sourceIp
    (sangomaPacket cfg rtpPacket).sourcePort

def offerToSource (st : VoIpSessions) : (Bool × RtpPacketInfo) × VoIpSessions :=
  st.offerRtpPacket cfg env (sourceSession cfg rtpPacket st) (sangomaPacket cfg rtpPacket)

/-- The session of the destination after that, and what becomes of the packet there. -/
def destSession (st : VoIpSessions) : Option Nat :=
  (offerToSource cfg env rtpPacket st).2.findByMediaAddress cfg
    (sangomaPacket cfg rtpPacket).destIp (sangomaPacket cfg rtpPacket).destPort

def offerToDest (st : VoIpSessions) : (Bool × RtpPacketInfo) × VoIpSessions :=
  (offerToSource cfg env rtpPacket st).2.offerRtpPacket cfg env (destSession cfg env rtpPacket st)
    (offerToSource cfg env rtpPacket st).1.2

theorem reportRtpPacket_eq (st : VoIpSessions) : st.reportRtpPacket cfg env rtpPacket =
    (offerToDest cfg env rtpPacket st).2.settleRtpPacket cfg env
      (sourceSession cfg rtpPacket st) (destSession cfg env rtpPacket st)
      (offerToSource cfg env rtpPacket st).1.1 (offerToDest cfg env rtpPacket st).1.1
      (offerToDest cfg env rtpPacket st).1.2 := rfl

/-- The session of the source takes the packet and that of the destination does not, but has
to do with the address. -/
def TracksStopped (st : VoIpSessions) : Prop :=
  (offerToSource cfg env rtpPacket st).1.1 = true ∧
    (offerToDest cfg env rtpPacket st).1.1 = false ∧
    ∃ r, destSession cfg env rtpPacket st = some r ∧
      Tracks cfg (offerToDest cfg env rtpPacket st).1.2
        ((offerToDest cfg env rtpPacket st).2.session r)

theorem next_offerRtpPacket (found : Option Nat) :
    (st.offerRtpPacket cfg env found rtpPacket).2.next = st.next := by
  cases found with
  | none => rfl
  | some r =>
      unfold offerRtpPacket
      dsimp only
      split
      · rfl
      · exact next_stop _ _

theorem settleRtpPacket_acts (sound : Sound cfg scope st) {found1 found2 : Option Nat}
    {accepted1 accepted2 : Bool} (hnone : found2 = none → accepted2 = false)
    (husable1 : ∀ r, found1 = some r → accepted1 = true → (found2 = some r → accepted2 = true) →
      Usable scope st r)
    (husable2 : ∀ r, found2 = some r → accepted2 = true → Usable scope st r)
    (htracks : ∀ r, found2 = some r → accepted1 = true → accepted2 = false →
      Usable scope st r ∨ ¬Tracks cfg rtpPacket (st.session r)) :
    Acts cfg env scope st
      (st.settleRtpPacket cfg env found1 found2 accepted1 accepted2 rtpPacket) := by
  cases accepted1 with
  | false =>
      cases accepted2 with
      | false => exact adoptRtpPacket_acts cfg env rtpPacket sound
      | true =>
          cases found2 with
          | none => cases hnone rfl
          | some r =>
              exact (trackSession_leads cfg env rtpPacket sound (husable2 r rfl rfl) _).acts
  | true =>
      cases accepted2 with
      | false =>
          cases found2 with
          | none =>
              cases found1 with
              | none => exact .refl
              | some r =>
                  have usable := husable1 r rfl rfl fun h => by cases h
                  exact (trackSession_leads cfg env rtpPacket sound usable _).acts
          | some r =>
              rcases htracks r rfl rfl rfl with usable | hnot
              · exact (trackSession_leads cfg env rtpPacket sound usable _).acts
              · have hself := trackSession_eq_self cfg env rtpPacket found1.isSome hnot
                change Acts cfg env scope st
                  (st.trackSession cfg env r found1.isSome rtpPacket)
                rw [hself]
      | true =>
          cases found1 with
          | none => exact .refl
          | some r1 =>
              cases found2 with
              | none => exact .refl
              | some r2 =>
                  unfold settleRtpPacket
                  dsimp only
                  split
                  · exact mergeSessions_acts cfg env rtpPacket sound
                      (husable1 r1 rfl rfl fun _ => rfl) (husable2 r2 rfl rfl)
                  · exact .refl

theorem reportRtpPacket_acts (sound : Sound cfg scope st)
    (htracks : scope.alive → ¬TracksStopped cfg env rtpPacket st) :
    Acts cfg env scope st (st.reportRtpPacket cfg env rtpPacket) := by
  have hsource (r : Nat) (hfind : sourceSession cfg rtpPacket st = some r) : Usable scope st r :=
    usable_of_registered sound (registered_of_byIpAndPort hfind)
  have first := offerRtpPacket_acts cfg env (sangomaPacket cfg rtpPacket) sound hsource
  have sound1 : Sound cfg scope (offerToSource cfg env rtpPacket st).2 := first.sound sound
  have hdest (r : Nat) (hfind : destSession cfg env rtpPacket st = some r) :
      Usable scope (offerToSource cfg env rtpPacket st).2 r :=
    usable_of_registered sound1 (registered_of_byIpAndPort hfind)
  have second := offerRtpPacket_acts cfg env (offerToSource cfg env rtpPacket st).1.2 sound1 hdest
  have sound2 : Sound cfg scope (offerToDest cfg env rtpPacket st).2 := second.sound sound1
  rw [reportRtpPacket_eq]
  refine (first.trans second).trans (settleRtpPacket_acts cfg env _ sound2 ?_ ?_ ?_ ?_)
  · intro hnone
    rw [offerToDest, hnone]
    rfl
  · intro r hfind htook hdest'
    apply offerRtpPacket_usable cfg env _ sound1 hdest _ hdest'
    exact offerRtpPacket_usable cfg env _ sound hsource (hsource r hfind) fun _ => htook
  · intro r hfind htook
    exact offerRtpPacket_usable cfg env _ sound1 hdest (hdest r hfind) fun _ => htook
  · intro r hfind htook1 htook2
    by_cases htracked : Tracks cfg (offerToDest cfg env rtpPacket st).1.2
        ((offerToDest cfg env rtpPacket st).2.session r)
    · apply Or.inl
      constructor
      · exact (hdest r hfind).lt.trans_eq (next_offerRtpPacket cfg env _ _).symm
      · exact fun halive => absurd ⟨htook1, htook2, r, hfind, htracked⟩ (htracks halive)
    · exact Or.inr htracked

/-! ### Capture -/

theorem startCaptureOf_acts (sound : Sound cfg scope st) (p : VoIpSession → Bool)
    (side : String) : Acts cfg env scope st (st.startCaptureOf p side).2 := by
  unfold startCaptureOf
  split
  · rename_i r hfind
    have usable := usable_of_registered sound
      (registered_of_sessionsByIpAndPort (mem_of_findFirst hfind))
    exact (perform_leads sound usable _).acts
  · exact .refl

theorem pauseCaptureOf_acts (sound : Sound cfg scope st) (p : VoIpSession → Bool) :
    Acts cfg env scope st (st.pauseCaptureOf p).2 := by
  unfold pauseCaptureOf
  split
  · rename_i r hfind
    have usable := usable_of_registered sound
      (registered_of_sessionsByIpAndPort (mem_of_findFirst hfind))
    exact (perform_leads sound usable _).acts
  · exact .refl

theorem insertByIpAndPort_leads (sound : Sound cfg scope st) (usable : Usable scope st r)
    {a : Nat} (haddress : a ∈ (st.session r).mediaAddresses) :
    Leads cfg env scope r st (st.insertByIpAndPort a r) := by
  have act : Act cfg env scope st (st.insertByIpAndPort a r) :=
    .insertByIpAndPort a r usable haddress
  cases hfind : st.byIpAndPort.find? a with
  | some old =>
      rw [insertByIpAndPort_of_taken hfind]
      exact .refl sound usable
  | none =>
      have heq := insertByIpAndPort_of_free (r := r) hfind
      apply Leads.single act sound usable
      · rw [heq]
      · rw [heq]
        exact (isDismissed_append (r := r) rfl).mp
      · rw [heq]

theorem isNew_copyMetadata (sound : Sound cfg scope st) (s : VoIpSession) (isNew : IsNew cfg s) :
    IsNew cfg (copyMetadataToNewSession (st.session r) s) where
  addressed := ⟨(sound.addressed r).latest, (sound.addressed r).port, (sound.addressed r).single⟩
  notStopped := isNew.notStopped
  silent := isNew.silent

theorem replaceCaptured_acts (sound : Sound cfg scope st)
    (hmapped : ∃ a, (a, r) ∈ st.byIpAndPort.entries)
    (hkeyed : scope.keyed → (st.session r).callId ≠ "") :
    Acts cfg env scope st (st.replaceCaptured cfg env r) := by
  have usable := usable_of_registered sound (Or.inl hmapped)
  obtain ⟨created, new⟩ := create_leads cfg env sound (isNew_copyMetadata cfg sound (r := r))
  have hold : Usable scope (st.create cfg env (copyMetadataToNewSession (st.session r))) r :=
    ⟨Nat.lt_succ_of_lt usable.lt, usable.alive⟩
  have hne : st.next ≠ r := usable.lt.ne'
  have hnew : (st.create cfg env (copyMetadataToNewSession (st.session r))).session st.next =
      copyMetadataToNewSession (st.session r)
        (VoIpSession.new cfg env (alphaText (alphaCounterNext st.alphaCounter))) :=
    session_setSession_self _
  have hcopied : ((st.create cfg env (copyMetadataToNewSession (st.session r))).stop cfg env
      r).session st.next = copyMetadataToNewSession (st.session r)
        (VoIpSession.new cfg env (alphaText (alphaCounterNext st.alphaCounter))) :=
    (session_stop_of_ne _ _ _ hne).trans hnew
  unfold replaceCaptured
  refine created.trans (Leads.insertByCallId ?_ fun h => by rw [hnew]; exact hkeyed h)
  have stopped := @stop_leads_of_ne cfg env _ _ _ _ new.sound new.usable hne hold
  apply stopped.trans
  apply insertByIpAndPort_leads cfg env stopped.sound stopped.usable
  obtain ⟨a, hmem⟩ := hmapped
  rw [hcopied]
  exact (sound.addressed r).latest (List.ne_nil_of_mem (sound.address a r hmem))

theorem stopCaptureOf_acts (sound : Sound cfg scope st) (p : VoIpSession → Bool)
    (hkeyed : scope.keyed → ∀ r, st.findCaptured p = some r → (st.session r).callId ≠ "") :
    Acts cfg env scope st (st.stopCaptureOf cfg env p).2 := by
  unfold stopCaptureOf
  split
  · rename_i r hfind
    obtain ⟨⟨a, _⟩, hentry, rfl⟩ := List.mem_map.mp (mem_of_findFirst hfind)
    exact replaceCaptured_acts cfg env sound ⟨a, hentry⟩ fun h => hkeyed h _ hfind
  · exact .refl

theorem reportOnDemandMarkerByIp_acts (sound : Sound cfg scope st) (endpointIp : InAddr) :
    Acts cfg env scope st (st.reportOnDemandMarkerByIp endpointIp) := by
  unfold reportOnDemandMarkerByIp
  split
  · rename_i r hfind
    unfold findLatestRtp at hfind
    have hmem : r ∈ st.sessionsByIpAndPort := by
      refine Or.elim (@foldl_pick _ _ _ Prod.snd ?_ _ _ _ hfind) (fun hnone => by cases hnone)
        List.mem_of_mem_filter
      intro found a
      split
      · exact Or.inr rfl
      · exact Or.inl rfl
    have usable := usable_of_registered sound (registered_of_sessionsByIpAndPort hmem)
    exact (perform_leads sound usable _).acts
  · exact .refl

/-! ### Timeouts -/

/-- Stopping the session tags it as one that was transferred. -/
def Tags (st : VoIpSessions) (r : Nat) : Prop :=
  (st.session r).protocol = .protSip ∧ ¬(st.session r).numRtpPackets < 300 ∧
    st.taggingRefers cfg env r ≠ []

theorem output_tagging_of_not (htags : ¬Tags cfg env st r) :
    ((st.taggingSipTransferCalls cfg env r).session r).output = (st.session r).output := by
  unfold taggingSipTransferCalls
  split_ifs with hskips
  · rfl
  · push Not at hskips
    have hnone : st.taggingRefers cfg env r = [] := by
      by_contra hsome
      exact htags ⟨hskips.1, not_lt.mpr hskips.2.2, hsome⟩
    rw [hnone]
    have hrun := @session_act_self st r _ (tagTransfers [])
    exact (congrArg VoIpSession.output hrun).trans (List.append_nil _)

/-- What decides whether a session is tagged, but for the REFERs. -/
def tagContext (sh : Shared) (s : SessionData) :
    Shared × Protocol × Nat × Option SipInviteInfo × Int × Bool :=
  (sh, s.protocol, s.numRtpPackets, s.invite, s.creationDate, s.started)

/-- What decides whether a session is tagged. -/
def tagData (st : VoIpSessions) (r : Nat) :
    (Shared × Protocol × Nat × Option SipInviteInfo × Int × Bool) × List SipRefer :=
  (tagContext st.shared (st.session r).toSessionData, st.liveRefers cfg env)

theorem tags_iff_of_tagData {st st' : VoIpSessions}
    (hdata : tagData cfg env st' r = tagData cfg env st r) :
    (Tags cfg env st' r ↔ Tags cfg env st r) ∧
      (st'.session r).started = (st.session r).started := by
  simp only [tagData, tagContext, Prod.mk.injEq] at hdata
  obtain ⟨⟨hshared, hprotocol, hpackets, hinvite, hdate, hstarted⟩, hlive⟩ := hdata
  refine ⟨?_, hstarted⟩
  have hrefers : st'.taggingRefers cfg env r = st.taggingRefers cfg env r := by
    have hsame (invite : SipInviteInfo) :
        isTransferredBy st'.shared (st'.session r).toSessionData invite =
          isTransferredBy st.shared (st.session r).toSessionData invite := by
      funext sipRefer
      unfold isTransferredBy
      rw [hshared, hdate]
    unfold taggingRefers
    dsimp only
    rw [hinvite]
    cases (st.session r).invite with
    | none => rfl
    | some invite =>
        dsimp only
        rw [hlive, hsame]
  unfold Tags
  rw [hprotocol, hpackets, hrefers]

theorem keeps_tagTransfers {β : Type} {read : Context → β}
    (hnotice : ∀ c notices, read { c with notices := notices } = read c)
    (hparty : ∀ c party, read { c with session := { c.session with remoteParty := party } } =
      read c) (sipRefers : List SipRefer) : Keeps read (tagTransfers sipRefers) := by
  have hemit (event : CaptureEvent) (hstop : decide (event.type = .etStop) = false) :
      Keeps read (emit event hstop) := fun keys c => hnotice c _
  induction sipRefers with
  | nil => exact .pure _
  | cons sipRefer rest ih =>
      exact .bind (.bind (hemit _ _) fun _ => .bind .session fun s =>
        .ite (.bind (.update fun c => hparty c _) fun _ => hemit _ _) (.pure _)) fun _ => ih

theorem liveRefers_idem (sipRefers : List SipRefer) :
    (sipRefers.filter fun sipRefer =>
      decide (env.time - sipRefer.timestamp ≤ cfg.transferTimeOutInSec)).filter
        (fun sipRefer => decide (env.time - sipRefer.timestamp ≤ cfg.transferTimeOutInSec)) =
      sipRefers.filter fun sipRefer =>
        decide (env.time - sipRefer.timestamp ≤ cfg.transferTimeOutInSec) := by
  rw [List.filter_filter]
  simp only [Bool.and_self]

theorem tagData_tagging (q r : Nat) :
    tagData cfg env (st.taggingSipTransferCalls cfg env q) r = tagData cfg env st r := by
  have hkeeps := @keeps_tagTransfers _ (fun c => tagContext c.shared c.session)
    (fun _ _ => rfl) (fun _ _ => rfl) (st.taggingRefers cfg env q)
    (st.session q).toSessionKeys { shared := st.shared, session := (st.session q).toSessionData }
  have hshared : (tagTransfers (st.taggingRefers cfg env q) (st.session q).toSessionKeys
      { shared := st.shared, session := (st.session q).toSessionData }).2.shared = st.shared :=
    congrArg Prod.fst hkeeps
  unfold taggingSipTransferCalls
  split
  · rfl
  · apply Prod.ext
    · by_cases heq : r = q
      · subst heq
        change tagContext _ ((st.act r _).2.session r).toSessionData = _
        rw [session_act_self]
        exact hkeeps
      · change tagContext _ ((st.act q _).2.session r).toSessionData = _
        rw [session_act_of_ne _ heq]
        exact congrArg (fun sh => tagContext sh (st.session r).toSessionData) hshared
    · exact liveRefers_idem cfg env st.sipReferList

theorem tagData_stop (q r : Nat) :
    tagData cfg env (st.stop cfg env q) r = tagData cfg env st r := by
  have hstop (sh : Shared) (s : VoIpSession) (sh' : Shared) :
      tagContext sh (s.stop cfg sh').toSessionData = tagContext sh s.toSessionData := by
    unfold VoIpSession.stop
    split <;> rfl
  refine Eq.trans (Prod.ext ?_ ?_) (tagData_tagging cfg env q r)
  · by_cases heq : r = q
    · subst heq
      change tagContext _ ((st.stop cfg env r).session r).toSessionData = _
      rw [stop_session_self]
      exact hstop _ _ _
    · change tagContext _ ((st.stop cfg env q).session r).toSessionData =
        tagContext _ ((st.taggingSipTransferCalls cfg env q).session r).toSessionData
      rw [session_stop_of_ne st r q heq, session_tagging_of_ne st r q heq]
      rfl
  · rfl

theorem started_of_stop {sh : Shared} {s : VoIpSession}
    (hstopped : (s.stop cfg sh).stopped = true) (hbefore : s.stopped = false) :
    s.started = true := by
  unfold VoIpSession.stop at hstopped
  by_contra hnot
  rw [Bool.not_eq_true] at hnot
  rw [hnot, Bool.false_and, if_neg Bool.false_ne_true, hbefore] at hstopped
  cases hstopped

/-- A second stop of a session that has ended is silent unless it is tagged. -/
theorem dismissAll_acts (sound : Sound cfg scope st) {refs : List Nat}
    (hlt : ∀ r ∈ refs, r < st.next)
    (hended : scope.quiet → ∀ r ∈ refs, (st.session r).stopped = true → ¬Tags cfg env st r)
    (htwice : scope.quiet → ∀ r, 1 < refs.count r → (st.session r).started = true →
      ¬Tags cfg env st r) :
    Acts cfg env scope st (refs.foldl (fun st r => st.stop cfg env r) st) := by
  induction refs generalizing st with
  | nil => exact .refl
  | cons r rest ih =>
      have act : Act cfg env scope st (st.stop cfg env r) := by
        apply Act.stop r (hlt r List.mem_cons_self)
        intro hquiet hstopped
        exact output_tagging_of_not cfg env (hended hquiet r List.mem_cons_self hstopped)
      have hdata (q : Nat) := tags_iff_of_tagData cfg env (@tagData_stop cfg env st r q)
      rw [List.foldl_cons]
      refine .trans (.single act) (ih (act.sound sound) ?_ ?_ ?_)
      · intro q hmem
        rw [next_stop]
        exact hlt q (List.mem_cons_of_mem _ hmem)
      · intro hquiet q hmem hstopped
        rw [(hdata q).1]
        by_cases heq : q = r
        · subst heq
          have hcount : 1 < (q :: rest).count q := by
            rw [List.count_cons_self]
            exact Nat.lt_succ_of_le (List.count_pos_iff.mpr hmem)
          by_cases hbefore : (st.session q).stopped = true
          · exact hended hquiet q List.mem_cons_self hbefore
          · apply htwice hquiet q hcount
            rw [stop_session_self] at hstopped
            rw [← (tags_iff_of_tagData cfg env (tagData_tagging cfg env q q)).2]
            apply started_of_stop cfg hstopped
            rw [stopped_tagging]
            exact eq_false_of_ne_true hbefore
        · rw [session_stop_of_ne st q r heq] at hstopped
          exact hended hquiet q (List.mem_cons_of_mem _ hmem) hstopped
      · intro hquiet q hcount hstarted
        rw [(hdata q).1]
        rw [(hdata q).2] at hstarted
        exact htwice hquiet q (hcount.trans_le (List.count_le_count_cons)) hstarted

/-- No session that is to be tagged is expired and mapped at two addresses. -/
def TagsOnce (st : VoIpSessions) (now : Int) : Prop :=
  ∀ r, 1 < st.sessionsByIpAndPort.count r → (st.session r).started = true →
    now - (st.session r).lastUpdated > sessionTimeout cfg (st.session r).toSessionData →
    ¬Tags cfg env st r

theorem notStopped_of_registered (sound : Sound cfg scope st) (hquiet : scope.quiet)
    (registered : st.Registered r) : ¬(st.session r).stopped = true := fun hstopped =>
  sound.alive (scope.alive_of_quiet hquiet) r registered (sound.dismissed r hstopped)

theorem nodup_sessionsByCallId (sound : Sound cfg scope st) (hkeyed : scope.keyed) :
    st.sessionsByCallId.Nodup := by
  apply List.Nodup.map_on _ st.byCallId.sorted.nodup
  rintro ⟨k, r⟩ hmem ⟨k', r'⟩ hmem' rfl
  have hcallId := (sound.callId k r hmem).resolve_right (sound.keyed hkeyed k r hmem)
  have hcallId' := (sound.callId k' r hmem').resolve_right (sound.keyed hkeyed k' r hmem')
  rw [hcallId, hcallId']

theorem hoover_acts (sound : Sound cfg scope st) (now : Int)
    (honce : scope.quiet → TagsOnce cfg env st now) :
    Acts cfg env scope st (st.hoover cfg env now) := by
  have first : Acts cfg env scope st
      (st.dismiss cfg env st.sessionsByIpAndPort now (sessionTimeout cfg)) := by
    apply dismissAll_acts cfg env sound
    · intro r hmem
      exact sound.fresh r (registered_of_sessionsByIpAndPort (List.mem_of_mem_filter hmem))
    · intro hquiet r hmem hstopped
      have registered := registered_of_sessionsByIpAndPort (List.mem_of_mem_filter hmem)
      exact absurd hstopped (notStopped_of_registered cfg sound hquiet registered)
    · intro hquiet r hcount hstarted
      have hmem := List.count_pos_iff.mp (Nat.lt_of_succ_lt hcount)
      have hexpired := of_decide_eq_true (List.mem_filter.mp hmem).2
      exact honce hquiet r (hcount.trans_le (List.filter_sublist.count_le r)) hstarted hexpired
  have sound1 := first.sound sound
  refine first.trans ?_
  apply dismissAll_acts cfg env sound1
  · intro r hmem
    exact sound1.fresh r (registered_of_sessionsByCallId (List.mem_of_mem_filter hmem))
  · intro hquiet r hmem hstopped
    have registered := registered_of_sessionsByCallId (List.mem_of_mem_filter hmem)
    exact absurd hstopped (notStopped_of_registered cfg sound1 hquiet registered)
  · intro hquiet r hcount
    have hkeyed := scope.keyed_of_alive (scope.alive_of_quiet hquiet)
    have hnodup := (nodup_sessionsByCallId cfg sound1 hkeyed).filter
      (fun r => decide (now - ((st.dismiss cfg env st.sessionsByIpAndPort now
        (sessionTimeout cfg)).session r).lastUpdated > signalledTimeout cfg
          ((st.dismiss cfg env st.sessionsByIpAndPort now (sessionTimeout cfg)).session
            r).toSessionData))
    exact absurd hcount (not_lt.mpr (List.nodup_iff_count_le_one.mp hnodup r))

end

end

end VoIpSessions

end OrkAudio.VoIp
