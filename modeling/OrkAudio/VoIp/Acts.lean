import Mathlib.Logic.Relation
import OrkAudio.VoIp.Effects
import OrkAudio.VoIp.Sip
import OrkAudio.VoIp.Skinny
import OrkAudio.VoIp.Rtp
import OrkAudio.VoIp.Capture

/-! What the operations of the store are made of, and what each part keeps.

Every operation is a chain of `Act`s. A `Scope` says how much is asked of the acts: without it
whatever the operations do, with it that no session without a call-id is entered by call-id,
that nothing happens to a session once it is stopped, and that stopping it again is silent. -/

namespace OrkAudio.VoIp

open Lib

/-! ### What is asked of the acts -/

structure Scope where
  keyed : Prop
  alive : Prop
  quiet : Prop
  keyed_of_alive : alive → keyed
  alive_of_quiet : quiet → alive

namespace Scope

def any : Scope := ⟨False, False, False, id, id⟩

def onlyKeyed : Scope := ⟨True, False, False, False.elim, id⟩

def onlyAlive : Scope := ⟨True, True, False, id, False.elim⟩

def all : Scope := ⟨True, True, True, id, id⟩

end Scope

/-- The session that an event is about, unless it is stopped. -/
def StoreEvent.uses : StoreEvent → Option Nat
  | .stopped _ => none
  | .entered r => some r
  | .handed r _ => some r
  | .tracked r => some r

/-- The session that the later event uses is not the one that the earlier event stops. -/
def NotAfterStop (earlier later : StoreEvent) : Prop :=
  ∀ r, earlier = .stopped r → later.uses ≠ some r

/-- The addresses that a session is mapped at have a port, the latest is one of them, and with
single mappings the only one. -/
structure IsAddressed (cfg : Config) (s : SessionKeys) : Prop where
  latest : s.mediaAddresses ≠ [] → s.ipAndPort ∈ s.mediaAddresses
  port : ∀ a ∈ s.mediaAddresses, a % 65536 ≠ 0
  single : cfg.rtpAllowMultipleMappings = false → ∀ a ∈ s.mediaAddresses, a = s.ipAndPort

theorem isAddressed_of_nil {cfg : Config} {s : SessionKeys} (hnil : s.mediaAddresses = []) :
    IsAddressed cfg s where
  latest hne := absurd hnil hne
  port a hmem := by simp [hnil] at hmem
  single _ a hmem := by simp [hnil] at hmem

theorem craft_mod (cfg : Config) (ipAddress : InAddr) (udpPort : UInt16) :
    craft64bitMediaAddress cfg ipAddress udpPort % 65536 = udpPort.toNat := by
  have hlt := udpPort.toNat_lt
  unfold craft64bitMediaAddress
  split
  · exact Nat.mod_eq_of_lt hlt
  · omega

theorem craft_mod_ne_zero (cfg : Config) (ipAddress : InAddr) {udpPort : UInt16}
    (hport : udpPort ≠ 0) : craft64bitMediaAddress cfg ipAddress udpPort % 65536 ≠ 0 := by
  rw [craft_mod]
  intro hzero
  exact hport (UInt16.toNat_inj.mp hzero)

/-- A session that has not ended has reported no end, and one that has has reported nothing
since. -/
structure Ended (s : VoIpSession) : Prop where
  last : s.output.Pairwise fun earlier _ => earlier.isStop = false
  goesOn : s.stopped = false → ∀ output ∈ s.output, output.isStop = false

namespace VoIpSessions

/-- The session has an entry in one of the indexes. -/
def Registered (st : VoIpSessions) (r : Nat) : Prop :=
  (∃ a, (a, r) ∈ st.byIpAndPort.entries) ∨ ∃ k, (k, r) ∈ st.byCallId.entries

structure Usable (scope : Scope) (st : VoIpSessions) (r : Nat) : Prop where
  lt : r < st.next
  alive : scope.alive → ¬st.isDismissed r

/-- The two stores have the same sessions, entries and history. -/
structure SameSessions (st st' : VoIpSessions) : Prop where
  session : st'.session = st.session
  next : st'.next = st.next
  byIpAndPort : st'.byIpAndPort = st.byIpAndPort
  byCallId : st'.byCallId = st.byCallId
  history : st'.history = st.history

/-- A session as its creator leaves it. -/
structure IsNew (cfg : Config) (s : VoIpSession) : Prop where
  addressed : IsAddressed cfg s.toSessionKeys
  notStopped : s.stopped = false
  silent : s.output = []

section

variable (cfg : Config) (env : Env) (scope : Scope)

/-- A part of an operation. -/
inductive Act : VoIpSessions → VoIpSessions → Prop
  | act {st : VoIpSessions} {α : Type} (r : Nat) (m : SessionM α) : Usable scope st r →
      Act st (st.act r m).2
  | beside {st st' : VoIpSessions} : SameSessions st st' → Act st st'
  | create {st : VoIpSessions} (init : VoIpSession → VoIpSession) :
      (∀ s, IsNew cfg s → IsNew cfg (init s)) → Act st (st.create cfg env init)
  | assignCallId {st : VoIpSessions} (r : Nat) (callId : String) : Usable scope st r →
      (st.session r).callId = "" →
      Act st (st.setSession r { st.session r with callId := callId })
  | insertByCallId {st : VoIpSessions} (r : Nat) : Usable scope st r →
      (scope.keyed → (st.session r).callId ≠ "") → Act st (st.insertByCallId r)
  | insertByIpAndPort {st : VoIpSessions} (a r : Nat) : Usable scope st r →
      a ∈ (st.session r).mediaAddresses → Act st (st.insertByIpAndPort a r)
  | change {st : VoIpSessions} (r : Nat) (mediaIp : InAddr) (a : Nat) : Usable scope st r →
      st.byIpAndPort.find? a = none → a % 65536 ≠ 0 →
      Act st (st.changeMediaAddress cfg r mediaIp a)
  | shrink {st : VoIpSessions} (byIpAndPort : OrderedMap Nat Nat) :
      (∀ entry ∈ byIpAndPort.entries, entry ∈ st.byIpAndPort.entries) →
      Act st { st with byIpAndPort := byIpAndPort }
  | stop {st : VoIpSessions} (r : Nat) : r < st.next →
      (scope.quiet → (st.session r).stopped = true →
        ((st.taggingSipTransferCalls cfg env r).session r).output = (st.session r).output) →
      Act st (st.stop cfg env r)
  | note {st : VoIpSessions} (event : StoreEvent) (r : Nat) : event.uses = some r →
      Usable scope st r → Act st { st with history := st.history ++ [event] }

abbrev Acts : VoIpSessions → VoIpSessions → Prop := Relation.ReflTransGen (Act cfg env scope)

/-- What holds of the indexes and the sessions between any two acts. -/
structure Sound (st : VoIpSessions) : Prop where
  address : ∀ a r, (a, r) ∈ st.byIpAndPort.entries → a ∈ (st.session r).mediaAddresses
  callId : ∀ k r, (k, r) ∈ st.byCallId.entries → k = (st.session r).callId ∨ k = ""
  keyed : scope.keyed → ∀ k r, (k, r) ∈ st.byCallId.entries → k ≠ ""
  fresh : ∀ r, st.Registered r → r < st.next
  past : ∀ r, st.isDismissed r → r < st.next
  addressed : ∀ r, IsAddressed cfg (st.session r).toSessionKeys
  alive : scope.alive → ∀ r, st.Registered r → ¬st.isDismissed r
  history : scope.alive → st.history.Pairwise NotAfterStop
  dismissed : ∀ r, (st.session r).stopped = true → st.isDismissed r
  ended : scope.quiet → ∀ r, Ended (st.session r)

end

/-! ### What the parts change -/

section

variable {cfg : Config} {env : Env} {st : VoIpSessions} {q r : Nat}

theorem mem_eraseOwn {byIpAndPort : OrderedMap Nat Nat} {a : Nat} {entry : Nat × Nat} :
    entry ∈ (eraseOwn r byIpAndPort a).entries ↔
      entry ∈ byIpAndPort.entries ∧ (a = 0 ∨ entry ≠ (a, r)) := by
  unfold eraseOwn
  split_ifs with hzero
  · simp [hzero]
  · rw [OrderedMap.mem_eraseEntry]
    simp [hzero]

theorem mem_foldl_eraseOwn {addresses : List Nat} {byIpAndPort : OrderedMap Nat Nat}
    {entry : Nat × Nat} :
    entry ∈ (addresses.foldl (eraseOwn r) byIpAndPort).entries ↔
      entry ∈ byIpAndPort.entries ∧ ∀ a ∈ addresses, a = 0 ∨ entry ≠ (a, r) := by
  induction addresses generalizing byIpAndPort with
  | nil => simp
  | cons a rest ih =>
      rw [List.foldl_cons, ih, mem_eraseOwn, List.forall_mem_cons, and_assoc]

/-! #### Stop -/

theorem byIpAndPort_stop : (st.stop cfg env r).byIpAndPort =
    (st.session r).mediaAddresses.foldl (eraseOwn r) st.byIpAndPort := by
  have hkeys := congrArg SessionKeys.mediaAddresses (@keys_tagging cfg env st r r)
  simp only [stop, VoIpSession.stop_keys, byIpAndPort_tagging]
  rw [hkeys]

theorem mem_byCallId_stop {entry : String × Nat} :
    entry ∈ (st.stop cfg env r).byCallId.entries ↔ entry ∈ st.byCallId.entries ∧
      ((st.session r).callId = "" ∨ entry.1 ≠ (st.session r).callId) := by
  have hkeys := congrArg SessionKeys.callId (@keys_tagging cfg env st r r)
  simp only [stop, VoIpSession.stop_keys, byCallId_tagging]
  rw [hkeys]
  split_ifs with hcallId
  · rw [OrderedMap.mem_erase]
    simp [hcallId]
  · simp [not_not.mp hcallId]

theorem keys_stop_self : ((st.stop cfg env r).session r).toSessionKeys =
    { (st.session r).toSessionKeys with mediaAddresses := [] } := by
  rw [stop, session_setSession_self]
  dsimp only
  rw [VoIpSession.stop_keys, keys_tagging]

theorem stopped_tagging : ((st.taggingSipTransferCalls cfg env r).session q).stopped =
    (st.session q).stopped := by
  unfold taggingSipTransferCalls
  split
  · rfl
  · exact stopped_act _

theorem stop_session_self : (st.stop cfg env r).session r =
    { ((st.taggingSipTransferCalls cfg env r).session r).stop cfg
        (st.taggingSipTransferCalls cfg env r).shared with mediaAddresses := [] } := by
  rw [stop, session_setSession_self]

theorem mem_history_stop (event : StoreEvent) : event ∈ (st.stop cfg env r).history ↔
    event ∈ st.history ∨ event = .stopped r := by
  rw [history_stop, List.mem_append, List.mem_singleton]

theorem isDismissed_stop : (st.stop cfg env r).isDismissed q ↔ st.isDismissed q ∨ q = r := by
  unfold isDismissed
  rw [mem_history_stop, StoreEvent.stopped.injEq]

/-! #### Entering -/

theorem insertByIpAndPort_of_taken {a old : Nat} (htaken : st.byIpAndPort.find? a = some old) :
    st.insertByIpAndPort a r = st := by
  rw [insertByIpAndPort, htaken]

theorem insertByIpAndPort_of_free {a : Nat} (hfree : st.byIpAndPort.find? a = none) :
    st.insertByIpAndPort a r = { st with
      byIpAndPort := st.byIpAndPort.insertNew a r
      history := st.history ++ [.entered r] } := by
  rw [insertByIpAndPort, hfree]

theorem insertByCallId_of_taken {old : Nat}
    (htaken : st.byCallId.find? (st.session r).callId = some old) : st.insertByCallId r = st := by
  rw [insertByCallId, htaken]

theorem insertByCallId_of_free (hfree : st.byCallId.find? (st.session r).callId = none) :
    st.insertByCallId r = { st with
      byCallId := st.byCallId.insertNew (st.session r).callId r
      history := st.history ++ [.entered r] } := by
  rw [insertByCallId, hfree]

/-- A session that gets an address; with single mappings it loses the others. -/
def mappedTo (cfg : Config) (s : VoIpSession) (mediaIp : InAddr) (a : Nat) : VoIpSession :=
  { s with
    mediaAddresses := (if cfg.rtpAllowMultipleMappings then s.mediaAddresses else []) ++ [a]
    ipAndPort := a
    rtpIp := mediaIp }

/-- The entries by address without the one that a session gives up. -/
def givenUp (cfg : Config) (st : VoIpSessions) (r : Nat) : OrderedMap Nat Nat :=
  if cfg.rtpAllowMultipleMappings then st.byIpAndPort
  else eraseOwn r st.byIpAndPort (st.session r).ipAndPort

theorem mem_givenUp {entry : Nat × Nat} : entry ∈ (givenUp cfg st r).entries ↔
    entry ∈ st.byIpAndPort.entries ∧ (cfg.rtpAllowMultipleMappings = true ∨
      (st.session r).ipAndPort = 0 ∨ entry ≠ ((st.session r).ipAndPort, r)) := by
  unfold givenUp
  split_ifs with hmultiple
  · simp [hmultiple]
  · rw [mem_eraseOwn]
    simp [hmultiple]

theorem changeMediaAddress_eq (mediaIp : InAddr) {a : Nat}
    (hfree : st.byIpAndPort.find? a = none) :
    st.changeMediaAddress cfg r mediaIp a =
      { st.setSession r (mappedTo cfg (st.session r) mediaIp a) with
        byIpAndPort := (givenUp cfg st r).insertNew a r
        history := st.history ++ [.entered r] } := by
  have hstill : (givenUp cfg st r).find? a = none := by
    rw [OrderedMap.find?_eq_none] at hfree ⊢
    intro entry hmem
    exact hfree entry (mem_givenUp.mp hmem).1
  have hset (s s' : VoIpSession) (q : Nat) :
      (if q = r then s' else if q = r then s else st.session q) =
        if q = r then s' else st.session q := by
    split_ifs <;> rfl
  by_cases hmultiple : cfg.rtpAllowMultipleMappings = true
  · have hgiven : givenUp cfg st r = st.byIpAndPort := if_pos hmultiple
    rw [hgiven] at hstill ⊢
    simp only [changeMediaAddress, if_pos hmultiple, mappedTo]
    exact insertByIpAndPort_of_free hstill
  · have hgiven : givenUp cfg st r = eraseOwn r st.byIpAndPort (st.session r).ipAndPort :=
      if_neg hmultiple
    rw [hgiven] at hstill ⊢
    simp only [changeMediaAddress, if_neg hmultiple, mappedTo, session_setSession_self]
    refine (insertByIpAndPort_of_free hstill).trans ?_
    simp only [setSession, removeFromMediaAddressMap, hset]

end

end VoIpSessions

/-! ### Reports of one session -/

section

variable {cfg : Config} {sh : Shared} {s : VoIpSession}

theorem ended_of_silent (hsilent : s.output = []) : Ended s where
  last := by simp [hsilent]
  goesOn _ output hmem := by simp [hsilent] at hmem

theorem ended_of_goesOn (hgoesOn : ∀ output ∈ s.output, output.isStop = false) : Ended s where
  last := List.pairwise_of_forall_mem_list fun output hmem _ _ => hgoesOn output hmem
  goesOn _ := hgoesOn

theorem Ended.run {α : Type} {m : SessionM α} (ended : Ended s) (hstopped : s.stopped = false) :
    Ended (s.run m sh).2.2 := by
  apply ended_of_goesOn
  intro output hmem
  rcases List.mem_append.mp hmem with hold | hnew
  · exact ended.goesOn hstopped output hold
  · obtain ⟨notice, -, rfl⟩ := List.mem_map.mp hnew
    exact notice.notStop

theorem Ended.stop (ended : Ended s) : Ended (s.stop cfg sh) := by
  unfold VoIpSession.stop
  by_cases hstops : (s.started && !s.stopped) = true
  · rw [if_pos hstops]
    rw [Bool.and_eq_true, Bool.not_eq_true'] at hstops
    constructor
    · apply List.pairwise_append.mpr
      refine ⟨ended.last, ?_, fun output hmem _ _ => ended.goesOn hstops.2 output hmem⟩
      generalize (if cfg.urlExtractorEnable then extractedRemoteParty cfg sh s.toSessionData
        else none) = party
      cases party with
      | none => simp [Output.isStop]
      | some party => simp [Output.isStop]
    · intro hstopped
      cases hstopped
  · rw [if_neg hstops]
    exact ended

end

/-! ### What every act keeps -/

namespace VoIpSessions

section

variable {cfg : Config} {env : Env} {scope : Scope} {st st' : VoIpSessions} {q r : Nat}

theorem registered_of_sub (hbyIpAndPort : ∀ entry ∈ st'.byIpAndPort.entries,
    entry ∈ st.byIpAndPort.entries) (hbyCallId : ∀ entry ∈ st'.byCallId.entries,
      entry ∈ st.byCallId.entries) (registered : st'.Registered r) : st.Registered r := by
  rcases registered with ⟨a, hmem⟩ | ⟨k, hmem⟩
  · exact Or.inl ⟨a, hbyIpAndPort _ hmem⟩
  · exact Or.inr ⟨k, hbyCallId _ hmem⟩

theorem pairwise_append_of_alive {event : StoreEvent} (huses : event.uses = some r)
    (halive : ¬st.isDismissed r) (hhistory : st.history.Pairwise NotAfterStop) :
    (st.history ++ [event]).Pairwise NotAfterStop := by
  apply List.pairwise_append.mpr
  refine ⟨hhistory, List.pairwise_singleton _ _, ?_⟩
  intro earlier hmem later hlater q hstopped huses'
  rw [List.mem_singleton] at hlater
  rw [hlater, huses] at huses'
  obtain rfl := Option.some.inj huses'
  rw [hstopped] at hmem
  exact halive hmem

/-- An event that is no stop dismisses nobody. -/
theorem isDismissed_append {event : StoreEvent} (huses : event.uses = some r) :
    ({ st with history := st.history ++ [event] } : VoIpSessions).isDismissed q ↔
      st.isDismissed q := by
  unfold isDismissed
  rw [List.mem_append, List.mem_singleton, or_iff_left_iff_imp]
  rintro rfl
  cases huses

namespace Sound

variable (sound : Sound cfg scope st)

include sound

theorem notStopped (usable : Usable scope st r) (halive : scope.alive) :
    (st.session r).stopped = false := by
  apply Bool.eq_false_iff.mpr
  intro hstopped
  exact usable.alive halive (sound.dismissed r hstopped)

theorem act {α : Type} (m : SessionM α) (usable : Usable scope st r) :
    Sound cfg scope (st.act r m).2 where
  address a q hmem := by
    rw [congrArg SessionKeys.mediaAddresses (keys_act m)]
    exact sound.address a q hmem
  callId k q hmem := by
    rw [congrArg SessionKeys.callId (keys_act m)]
    exact sound.callId k q hmem
  keyed := sound.keyed
  fresh := sound.fresh
  past := sound.past
  addressed q := by
    rw [keys_act]
    exact sound.addressed q
  alive := sound.alive
  history := sound.history
  dismissed q hstopped := by
    rw [stopped_act] at hstopped
    exact sound.dismissed q hstopped
  ended hquiet q := by
    by_cases heq : q = r
    · subst heq
      rw [session_act_self]
      exact (sound.ended hquiet q).run (sound.notStopped usable (scope.alive_of_quiet hquiet))
    · rw [session_act_of_ne m heq]
      exact sound.ended hquiet q

theorem beside (same : SameSessions st st') : Sound cfg scope st' := by
  obtain ⟨session, next, byIpAndPort, byCallId, shared, numbers, subscribes, refers, counter,
    holds, history⟩ := st'
  obtain ⟨rfl, rfl, rfl, rfl, rfl⟩ := same
  exact ⟨sound.address, sound.callId, sound.keyed, sound.fresh, sound.past, sound.addressed,
    sound.alive, sound.history, sound.dismissed, sound.ended⟩

theorem create {init : VoIpSession → VoIpSession}
    (hinit : ∀ s, IsNew cfg s → IsNew cfg (init s)) : Sound cfg scope (st.create cfg env init) := by
  have hnew : IsNew cfg ((st.create cfg env init).session st.next) := by
    rw [VoIpSessions.create, session_setSession_self]
    exact hinit _ ⟨isAddressed_of_nil rfl, rfl, rfl⟩
  have hold (q : Nat) (hlt : q < st.next) :
      (st.create cfg env init).session q = st.session q :=
    session_setSession_of_ne _ hlt.ne
  have hfresh (q : Nat) (registered : st.Registered q) : q < st.next := sound.fresh q registered
  constructor
  · intro a q hmem
    rw [hold q (hfresh q (Or.inl ⟨a, hmem⟩))]
    exact sound.address a q hmem
  · intro k q hmem
    rw [hold q (hfresh q (Or.inr ⟨k, hmem⟩))]
    exact sound.callId k q hmem
  · exact sound.keyed
  · exact fun q registered => Nat.lt_succ_of_lt (sound.fresh q registered)
  · exact fun q hdismissed => Nat.lt_succ_of_lt (sound.past q hdismissed)
  · intro q
    by_cases heq : q = st.next
    · subst heq
      exact hnew.addressed
    · rw [VoIpSessions.create, session_setSession_of_ne _ heq]
      exact sound.addressed q
  · exact sound.alive
  · exact sound.history
  · intro q hstopped
    by_cases heq : q = st.next
    · subst heq
      rw [hnew.notStopped] at hstopped
      cases hstopped
    · rw [VoIpSessions.create, session_setSession_of_ne _ heq] at hstopped
      exact sound.dismissed q hstopped
  · intro hquiet q
    by_cases heq : q = st.next
    · subst heq
      exact ended_of_silent hnew.silent
    · rw [VoIpSessions.create, session_setSession_of_ne _ heq]
      exact sound.ended hquiet q

/-- A session that changes in what the indexes do not go by. -/
theorem setSession {s : VoIpSession} (hmediaAddresses : s.mediaAddresses =
      (st.session r).mediaAddresses) (hipAndPort : s.ipAndPort = (st.session r).ipAndPort)
    (hcallId : s.callId = (st.session r).callId ∨ (st.session r).callId = "")
    (hstopped : s.stopped = (st.session r).stopped) (houtput : s.output = (st.session r).output) :
    Sound cfg scope (st.setSession r s) := by
  constructor
  · intro a q hmem
    by_cases heq : q = r
    · subst heq
      rw [session_setSession_self, hmediaAddresses]
      exact sound.address a q hmem
    · rw [session_setSession_of_ne _ heq]
      exact sound.address a q hmem
  · intro k q hmem
    by_cases heq : q = r
    · subst heq
      rw [session_setSession_self]
      rcases sound.callId k q hmem with hk | hk
      · rcases hcallId with hsame | hempty
        · exact Or.inl (hk.trans hsame.symm)
        · exact Or.inr (hk.trans hempty)
      · exact Or.inr hk
    · rw [session_setSession_of_ne _ heq]
      exact sound.callId k q hmem
  · exact sound.keyed
  · exact sound.fresh
  · exact sound.past
  · intro q
    by_cases heq : q = r
    · subst heq
      have addressed := sound.addressed q
      rw [session_setSession_self]
      constructor
      · rw [hmediaAddresses, hipAndPort]
        exact addressed.latest
      · rw [hmediaAddresses]
        exact addressed.port
      · rw [hmediaAddresses, hipAndPort]
        exact addressed.single
    · rw [session_setSession_of_ne _ heq]
      exact sound.addressed q
  · exact sound.alive
  · exact sound.history
  · intro q hstop
    by_cases heq : q = r
    · subst heq
      rw [session_setSession_self, hstopped] at hstop
      exact sound.dismissed q hstop
    · rw [session_setSession_of_ne _ heq] at hstop
      exact sound.dismissed q hstop
  · intro hquiet q
    by_cases heq : q = r
    · subst heq
      have ended := sound.ended hquiet q
      rw [session_setSession_self]
      constructor
      · rw [houtput]
        exact ended.last
      · rw [houtput, hstopped]
        exact ended.goesOn
    · rw [session_setSession_of_ne _ heq]
      exact sound.ended hquiet q

theorem shrink {byIpAndPort : OrderedMap Nat Nat}
    (hsub : ∀ entry ∈ byIpAndPort.entries, entry ∈ st.byIpAndPort.entries) :
    Sound cfg scope { st with byIpAndPort := byIpAndPort } := by
  have hregistered (q : Nat)
      (registered : ({ st with byIpAndPort := byIpAndPort } : VoIpSessions).Registered q) :
      st.Registered q :=
    @registered_of_sub st { st with byIpAndPort := byIpAndPort } q hsub (fun _ hmem => hmem)
      registered
  exact ⟨fun a q hmem => sound.address a q (hsub _ hmem), sound.callId, sound.keyed,
    fun q registered => sound.fresh q (hregistered q registered), sound.past, sound.addressed,
    fun halive q registered => sound.alive halive q (hregistered q registered), sound.history,
    sound.dismissed, sound.ended⟩

theorem note {event : StoreEvent} (huses : event.uses = some r) (usable : Usable scope st r) :
    Sound cfg scope { st with history := st.history ++ [event] } where
  address := sound.address
  callId := sound.callId
  keyed := sound.keyed
  fresh := sound.fresh
  past q hdismissed := sound.past q ((isDismissed_append huses).mp hdismissed)
  addressed := sound.addressed
  alive halive q registered hdismissed :=
    sound.alive halive q registered ((isDismissed_append huses).mp hdismissed)
  history halive := pairwise_append_of_alive huses (usable.alive halive) (sound.history halive)
  dismissed q hstopped := (isDismissed_append huses).mpr (sound.dismissed q hstopped)
  ended := sound.ended

/-- New entries of a session that is not stopped. -/
theorem enter {byIpAndPort : OrderedMap Nat Nat} {byCallId : OrderedMap String Nat}
    (usable : Usable scope st r)
    (hbyIpAndPort : ∀ a q, (a, q) ∈ byIpAndPort.entries → (a, q) ∈ st.byIpAndPort.entries ∨
      (q = r ∧ a ∈ (st.session r).mediaAddresses))
    (hbyCallId : ∀ k q, (k, q) ∈ byCallId.entries → (k, q) ∈ st.byCallId.entries ∨
      (q = r ∧ k = (st.session r).callId ∧ (scope.keyed → k ≠ ""))) :
    Sound cfg scope { st with
      byIpAndPort := byIpAndPort
      byCallId := byCallId
      history := st.history ++ [.entered r] } := by
  have hregistered (q : Nat) (registered : ({ st with
      byIpAndPort := byIpAndPort
      byCallId := byCallId } : VoIpSessions).Registered q) : st.Registered q ∨ q = r := by
    rcases registered with ⟨a, hmem⟩ | ⟨k, hmem⟩
    · rcases hbyIpAndPort a q hmem with hold | hnew
      · exact Or.inl (Or.inl ⟨a, hold⟩)
      · exact Or.inr hnew.1
    · rcases hbyCallId k q hmem with hold | hnew
      · exact Or.inl (Or.inr ⟨k, hold⟩)
      · exact Or.inr hnew.1
  have huses : (StoreEvent.entered r).uses = some r := rfl
  constructor
  · intro a q hmem
    rcases hbyIpAndPort a q hmem with hold | ⟨rfl, hnew⟩
    · exact sound.address a q hold
    · exact hnew
  · intro k q hmem
    rcases hbyCallId k q hmem with hold | ⟨rfl, hnew, -⟩
    · exact sound.callId k q hold
    · exact Or.inl hnew
  · intro hkeyed k q hmem
    rcases hbyCallId k q hmem with hold | ⟨-, -, hnew⟩
    · exact sound.keyed hkeyed k q hold
    · exact hnew hkeyed
  · intro q registered
    rcases hregistered q registered with hold | rfl
    · exact sound.fresh q hold
    · exact usable.lt
  · exact fun q hdismissed => sound.past q ((isDismissed_append huses).mp hdismissed)
  · exact sound.addressed
  · intro halive q registered hdismissed
    have hbefore := (isDismissed_append huses).mp hdismissed
    rcases hregistered q registered with hold | rfl
    · exact sound.alive halive q hold hbefore
    · exact usable.alive halive hbefore
  · exact fun halive =>
      pairwise_append_of_alive huses (usable.alive halive) (sound.history halive)
  · exact fun q hstopped => (isDismissed_append huses).mpr (sound.dismissed q hstopped)
  · exact sound.ended

theorem insertByCallId (usable : Usable scope st r)
    (hkeyed : scope.keyed → (st.session r).callId ≠ "") :
    Sound cfg scope (st.insertByCallId r) := by
  cases hfind : st.byCallId.find? (st.session r).callId with
  | some old =>
      rw [insertByCallId_of_taken hfind]
      exact sound
  | none =>
      rw [insertByCallId_of_free hfind]
      apply sound.enter usable
      · exact fun a q hmem => Or.inl hmem
      · intro k q hmem
        rcases (OrderedMap.mem_insertNew hfind).mp hmem with hnew | hold
        · obtain ⟨rfl, rfl⟩ := Prod.mk.inj hnew
          exact Or.inr ⟨rfl, rfl, hkeyed⟩
        · exact Or.inl hold

theorem insertByIpAndPort {a : Nat} (usable : Usable scope st r)
    (haddress : a ∈ (st.session r).mediaAddresses) :
    Sound cfg scope (st.insertByIpAndPort a r) := by
  cases hfind : st.byIpAndPort.find? a with
  | some old =>
      rw [insertByIpAndPort_of_taken hfind]
      exact sound
  | none =>
      rw [insertByIpAndPort_of_free hfind]
      apply sound.enter usable
      · intro b q hmem
        rcases (OrderedMap.mem_insertNew hfind).mp hmem with hnew | hold
        · obtain ⟨rfl, rfl⟩ := Prod.mk.inj hnew
          exact Or.inr ⟨rfl, haddress⟩
        · exact Or.inl hold
      · exact fun k q hmem => Or.inl hmem

/-- What is left of a session's entries when it gives its address up: none with single
mappings. -/
theorem address_givenUp {b : Nat} (hmem : (b, r) ∈ (givenUp cfg st r).entries) :
    cfg.rtpAllowMultipleMappings = true ∧ b ∈ (st.session r).mediaAddresses := by
  obtain ⟨hold, hkept⟩ := mem_givenUp.mp hmem
  have haddress := sound.address b r hold
  refine ⟨?_, haddress⟩
  by_contra hmultiple
  have hsingle := (sound.addressed r).single (eq_false_of_ne_true hmultiple) b haddress
  have hport := (sound.addressed r).port b haddress
  rcases hkept with htrue | hzero | hother
  · exact hmultiple htrue
  · rw [hsingle] at hport
    exact hport (by rw [hzero])
  · exact hother (by rw [hsingle])

theorem remap (mediaIp : InAddr) {a : Nat} (hport : a % 65536 ≠ 0) :
    Sound cfg scope { st.setSession r (mappedTo cfg (st.session r) mediaIp a) with
      byIpAndPort := givenUp cfg st r } := by
  have hself : (st.setSession r (mappedTo cfg (st.session r) mediaIp a)).session r =
      mappedTo cfg (st.session r) mediaIp a := session_setSession_self _
  have hother (q : Nat) (hne : q ≠ r) :
      (st.setSession r (mappedTo cfg (st.session r) mediaIp a)).session q = st.session q :=
    session_setSession_of_ne _ hne
  have hregistered (q : Nat) (registered : ({ st with
      byIpAndPort := givenUp cfg st r } : VoIpSessions).Registered q) : st.Registered q := by
    rcases registered with ⟨b, hmem⟩ | ⟨k, hmem⟩
    · exact Or.inl ⟨b, (mem_givenUp.mp hmem).1⟩
    · exact Or.inr ⟨k, hmem⟩
  constructor
  · intro b q hmem
    by_cases heq : q = r
    · subst heq
      obtain ⟨hmultiple, haddress⟩ := sound.address_givenUp hmem
      rw [hself, mappedTo, if_pos hmultiple]
      exact List.mem_append_left _ haddress
    · rw [hother q heq]
      exact sound.address b q (mem_givenUp.mp hmem).1
  · intro k q hmem
    by_cases heq : q = r
    · subst heq
      rw [hself]
      exact sound.callId k q hmem
    · rw [hother q heq]
      exact sound.callId k q hmem
  · exact sound.keyed
  · exact fun q registered => sound.fresh q (hregistered q registered)
  · exact sound.past
  · intro q
    by_cases heq : q = r
    · subst heq
      rw [hself]
      constructor
      · exact fun _ => List.mem_append_right _ List.mem_cons_self
      · intro b hmem
        rcases List.mem_append.mp hmem with hold | hnew
        · split_ifs at hold with hmultiple
          · exact (sound.addressed q).port b hold
          · cases hold
        · rw [List.mem_singleton.mp hnew]
          exact hport
      · intro hsingle b hmem
        rw [mappedTo, if_neg (Bool.eq_false_iff.mp hsingle)] at hmem
        exact List.mem_singleton.mp hmem
    · rw [hother q heq]
      exact sound.addressed q
  · exact fun halive q registered => sound.alive halive q (hregistered q registered)
  · exact sound.history
  · intro q hstopped
    by_cases heq : q = r
    · subst heq
      rw [hself] at hstopped
      exact sound.dismissed q hstopped
    · rw [hother q heq] at hstopped
      exact sound.dismissed q hstopped
  · intro hquiet q
    by_cases heq : q = r
    · subst heq
      rw [hself]
      exact ⟨(sound.ended hquiet q).last, (sound.ended hquiet q).goesOn⟩
    · rw [hother q heq]
      exact sound.ended hquiet q

theorem change (mediaIp : InAddr) {a : Nat} (usable : Usable scope st r)
    (hfree : st.byIpAndPort.find? a = none) (hport : a % 65536 ≠ 0) :
    Sound cfg scope (st.changeMediaAddress cfg r mediaIp a) := by
  have hstill : (givenUp cfg st r).find? a = none := by
    rw [OrderedMap.find?_eq_none] at hfree ⊢
    intro entry hmem
    exact hfree entry (mem_givenUp.mp hmem).1
  rw [changeMediaAddress_eq mediaIp hfree]
  apply (sound.remap mediaIp hport).enter ⟨usable.lt, usable.alive⟩
  · intro b q hmem
    rcases (OrderedMap.mem_insertNew hstill).mp hmem with hnew | hold
    · obtain ⟨rfl, rfl⟩ := Prod.mk.inj hnew
      apply Or.inr
      have hself : (st.setSession q (mappedTo cfg (st.session q) mediaIp b)).session q =
          mappedTo cfg (st.session q) mediaIp b := session_setSession_self _
      rw [hself]
      exact ⟨rfl, List.mem_append_right _ List.mem_cons_self⟩
    · exact Or.inl hold
  · exact fun k q hmem => Or.inl hmem

/-- A session that is stopped has no entry left by address, and by call-id at most one under
the empty call-id. -/
theorem not_mem_byIpAndPort_stop (a : Nat) : (a, r) ∉ (st.stop cfg env r).byIpAndPort.entries := by
  rw [byIpAndPort_stop, mem_foldl_eraseOwn]
  rintro ⟨hmem, herased⟩
  have haddress := sound.address a r hmem
  rcases herased a haddress with hzero | hne
  · exact (sound.addressed r).port a haddress (by rw [hzero])
  · exact hne rfl

theorem empty_of_mem_byCallId_stop {k : String}
    (hmem : (k, r) ∈ (st.stop cfg env r).byCallId.entries) : k = "" := by
  obtain ⟨hold, hkept⟩ := mem_byCallId_stop.mp hmem
  rcases sound.callId k r hold with hcallId | hempty
  · rcases hkept with hempty | hne
    · rw [hcallId, hempty]
    · exact absurd hcallId hne
  · exact hempty

theorem ended_tagging (hquiet : scope.quiet) (hsilent : (st.session r).stopped = true →
    ((st.taggingSipTransferCalls cfg env r).session r).output = (st.session r).output) :
    Ended ((st.taggingSipTransferCalls cfg env r).session r) := by
  have ended := sound.ended hquiet r
  cases hstopped : (st.session r).stopped with
  | true =>
      constructor
      · rw [hsilent hstopped]
        exact ended.last
      · rw [stopped_tagging, hsilent hstopped]
        exact ended.goesOn
  | false =>
      unfold taggingSipTransferCalls
      split
      · exact ended
      · rw [session_act_self]
        exact ended.run hstopped

theorem stop (hlt : r < st.next) (hsilent : scope.quiet → (st.session r).stopped = true →
    ((st.taggingSipTransferCalls cfg env r).session r).output = (st.session r).output) :
    Sound cfg scope (st.stop cfg env r) := by
  have hsub : ∀ entry ∈ (st.stop cfg env r).byIpAndPort.entries,
      entry ∈ st.byIpAndPort.entries := by
    intro entry hmem
    rw [byIpAndPort_stop, mem_foldl_eraseOwn] at hmem
    exact hmem.1
  have hsub' : ∀ entry ∈ (st.stop cfg env r).byCallId.entries, entry ∈ st.byCallId.entries :=
    fun entry hmem => (mem_byCallId_stop.mp hmem).1
  have hother (q : Nat) (hne : q ≠ r) : (st.stop cfg env r).session q = st.session q :=
    session_stop_of_ne st q r hne
  constructor
  · intro a q hmem
    by_cases heq : q = r
    · subst heq
      exact absurd hmem (sound.not_mem_byIpAndPort_stop a)
    · rw [hother q heq]
      exact sound.address a q (hsub _ hmem)
  · intro k q hmem
    by_cases heq : q = r
    · subst heq
      exact Or.inr (sound.empty_of_mem_byCallId_stop hmem)
    · rw [hother q heq]
      exact sound.callId k q (hsub' _ hmem)
  · exact fun hkeyed k q hmem => sound.keyed hkeyed k q (hsub' _ hmem)
  · intro q registered
    rw [next_stop]
    exact sound.fresh q (registered_of_sub hsub hsub' registered)
  · intro q hdismissed
    rw [next_stop]
    rcases isDismissed_stop.mp hdismissed with hbefore | rfl
    · exact sound.past q hbefore
    · exact hlt
  · intro q
    by_cases heq : q = r
    · subst heq
      rw [keys_stop_self]
      exact isAddressed_of_nil rfl
    · rw [hother q heq]
      exact sound.addressed q
  · intro halive q registered hdismissed
    rcases isDismissed_stop.mp hdismissed with hbefore | rfl
    · exact sound.alive halive q (registered_of_sub hsub hsub' registered) hbefore
    · rcases registered with ⟨a, hmem⟩ | ⟨k, hmem⟩
      · exact sound.not_mem_byIpAndPort_stop a hmem
      · exact sound.keyed (scope.keyed_of_alive halive) k q (hsub' _ hmem)
          (sound.empty_of_mem_byCallId_stop hmem)
  · intro halive
    rw [history_stop]
    apply List.pairwise_append.mpr
    refine ⟨sound.history halive, List.pairwise_singleton _ _, ?_⟩
    intro earlier _ later hlater q _ huses
    rw [List.mem_singleton.mp hlater] at huses
    cases huses
  · intro q hstopped
    rw [isDismissed_stop]
    by_cases heq : q = r
    · exact Or.inr heq
    · rw [hother q heq] at hstopped
      exact Or.inl (sound.dismissed q hstopped)
  · intro hquiet q
    by_cases heq : q = r
    · subst heq
      have ended := @Ended.stop cfg (st.taggingSipTransferCalls cfg env q).shared _
        (sound.ended_tagging hquiet (hsilent hquiet))
      rw [stop_session_self]
      exact ⟨ended.last, ended.goesOn⟩
    · rw [hother q heq]
      exact sound.ended hquiet q

end Sound

theorem Act.sound (act : Act cfg env scope st st') (sound : Sound cfg scope st) :
    Sound cfg scope st' := by
  cases act with
  | act r m usable => exact sound.act m usable
  | beside same => exact sound.beside same
  | create init hinit => exact sound.create hinit
  | assignCallId r callId usable hempty =>
      exact sound.setSession rfl rfl (Or.inr hempty) rfl rfl
  | insertByCallId r usable hkeyed => exact sound.insertByCallId usable hkeyed
  | insertByIpAndPort a r usable haddress => exact sound.insertByIpAndPort usable haddress
  | change r mediaIp a usable hfree hport => exact sound.change mediaIp usable hfree hport
  | shrink byIpAndPort hsub => exact sound.shrink hsub
  | stop r hlt hsilent => exact sound.stop hlt hsilent
  | note event r huses usable => exact sound.note huses usable

theorem Acts.sound (acts : Acts cfg env scope st st') (sound : Sound cfg scope st) :
    Sound cfg scope st' := by
  induction acts with
  | refl => exact sound
  | tail _ act ih => exact act.sound ih

end

end VoIpSessions

end OrkAudio.VoIp
