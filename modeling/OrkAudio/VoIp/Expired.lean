import OrkAudio.VoIp.Replaced

/-! What the timeouts leave of the store.

By address a session is held to its own timeout, by call-id to that of a signalled session.
Stopping a session erases its addresses, and its call-id whichever session has it. -/

namespace OrkAudio.VoIp

open Lib

namespace VoIpSessions

section

variable {cfg : Config} {env : Env} {scope : Scope} {st : VoIpSessions} {q r : Nat}

/-! ### What a timeout looks at -/

/-- What decides whether a session is over a timeout. -/
def ageData (s : SessionData) : Int × Protocol × Bool × Nat × Nat :=
  (s.lastUpdated, s.protocol, s.onHold, s.numRtpPackets, s.numIgnoredRtpPackets)

theorem ageData_tagging : ageData ((st.taggingSipTransferCalls cfg env q).session r).toSessionData =
    ageData (st.session r).toSessionData := by
  unfold taggingSipTransferCalls
  split
  · rfl
  · by_cases heq : r = q
    · subst heq
      change ageData ((st.act r _).2.session r).toSessionData = _
      rw [session_act_self]
      exact @keeps_tagTransfers _ (fun c => ageData c.session) (fun _ _ => rfl) (fun _ _ => rfl)
        (st.taggingRefers cfg env r) (st.session r).toSessionKeys
        { shared := st.shared, session := (st.session r).toSessionData }
    · change ageData ((st.act q _).2.session r).toSessionData = _
      rw [session_act_of_ne _ heq]

theorem ageData_stop : ageData ((st.stop cfg env q).session r).toSessionData =
    ageData (st.session r).toSessionData := by
  have hstop (sh : Shared) (s : VoIpSession) :
      ageData (s.stop cfg sh).toSessionData = ageData s.toSessionData := by
    unfold VoIpSession.stop
    split <;> rfl
  by_cases heq : r = q
  · subst heq
    rw [stop_session_self]
    exact (hstop _ _).trans ageData_tagging
  · rw [session_stop_of_ne st r q heq]

theorem callId_stop : ((st.stop cfg env q).session r).callId = (st.session r).callId := by
  by_cases heq : r = q
  · subst heq
    have hkeys := congrArg SessionKeys.callId (@keys_stop_self cfg env st r)
    exact hkeys
  · rw [session_stop_of_ne st r q heq]

theorem sessionTimeout_congr {s s' : SessionData} (hage : ageData s' = ageData s) :
    signalledTimeout cfg s' = signalledTimeout cfg s ∧
      sessionTimeout cfg s' = sessionTimeout cfg s ∧ s'.lastUpdated = s.lastUpdated := by
  simp only [ageData, Prod.mk.injEq] at hage
  obtain ⟨hupdated, hprotocol, hhold, hpackets, hignored⟩ := hage
  have hsignalled : signalledTimeout cfg s' = signalledTimeout cfg s := by
    unfold signalledTimeout
    rw [hhold, hpackets, hignored]
  refine ⟨hsignalled, ?_, hupdated⟩
  unfold sessionTimeout
  rw [hprotocol, hsignalled]

/-! ### One session is stopped -/

theorem mem_byIpAndPort_stop (sound : Sound cfg scope st) {entry : Nat × Nat} :
    entry ∈ (st.stop cfg env r).byIpAndPort.entries ↔
      entry ∈ st.byIpAndPort.entries ∧ entry.2 ≠ r := by
  obtain ⟨a, q⟩ := entry
  constructor
  · intro hmem
    have hold := hmem
    rw [byIpAndPort_stop, mem_foldl_eraseOwn] at hold
    refine ⟨hold.1, ?_⟩
    intro heq
    subst heq
    exact sound.not_mem_byIpAndPort_stop a hmem
  · rintro ⟨hmem, hne⟩
    rw [byIpAndPort_stop, mem_foldl_eraseOwn]
    exact ⟨hmem, fun b _ => Or.inr fun heq => hne (congrArg Prod.snd heq)⟩

theorem mem_byCallId_stop_iff {entry : String × Nat} :
    entry ∈ (st.stop cfg env r).byCallId.entries ↔
      entry ∈ st.byCallId.entries ∧ (entry.1 = "" ∨ (st.session r).callId ≠ entry.1) := by
  rw [mem_byCallId_stop]
  apply and_congr_right
  intro _
  constructor
  · rintro (hempty | hne)
    · by_cases hkey : entry.1 = ""
      · exact Or.inl hkey
      · exact Or.inr fun heq => hkey (heq.symm.trans hempty)
    · exact Or.inr fun heq => hne heq.symm
  · rintro (hkey | hne)
    · by_cases hempty : (st.session r).callId = ""
      · exact Or.inl hempty
      · exact Or.inr fun heq => hempty (heq.symm.trans hkey)
    · exact Or.inr fun heq => hne heq.symm

/-! ### Several sessions are stopped -/

variable (cfg env st) in
def stopSessions (refs : List Nat) : VoIpSessions := refs.foldl (fun st r => st.stop cfg env r) st

/-- The sessions that are stopped lose their addresses, and the call-ids that they carry are
erased; nothing else is. -/
structure StopsOnly (st st' : VoIpSessions) (stopped : Nat → Prop) : Prop where
  byIpAndPort : ∀ a r, (a, r) ∈ st'.byIpAndPort.entries ↔
    (a, r) ∈ st.byIpAndPort.entries ∧ ¬stopped r
  byCallId : ∀ k r, (k, r) ∈ st'.byCallId.entries ↔
    (k, r) ∈ st.byCallId.entries ∧ (k = "" ∨ ∀ q, stopped q → (st.session q).callId ≠ k)
  age : ∀ r, ageData (st'.session r).toSessionData = ageData (st.session r).toSessionData
  callId : ∀ r, (st'.session r).callId = (st.session r).callId

theorem StopsOnly.trans {st st' st'' : VoIpSessions} {first second both : Nat → Prop}
    (before : StopsOnly st st' first) (after : StopsOnly st' st'' second)
    (hboth : ∀ r, both r ↔ first r ∨ second r) : StopsOnly st st'' both where
  byIpAndPort a r := by
    rw [after.byIpAndPort, before.byIpAndPort, hboth, not_or, and_assoc]
  byCallId k r := by
    rw [after.byCallId, before.byCallId, and_assoc]
    apply and_congr_right
    intro _
    rw [← or_and_left]
    apply or_congr_right
    constructor
    · rintro ⟨hfirst, hsecond⟩ q hstopped
      rcases (hboth q).mp hstopped with hone | htwo
      · exact hfirst q hone
      · rw [← before.callId]
        exact hsecond q htwo
    · intro hall
      refine ⟨fun q hone => hall q ((hboth q).mpr (Or.inl hone)), ?_⟩
      intro q htwo
      rw [before.callId]
      exact hall q ((hboth q).mpr (Or.inr htwo))
  age r := (after.age r).trans (before.age r)
  callId r := (after.callId r).trans (before.callId r)

theorem stop_stopsOnly (sound : Sound cfg scope st) :
    StopsOnly st (st.stop cfg env r) fun q => q = r where
  byIpAndPort a q := mem_byIpAndPort_stop sound
  byCallId k q := by
    rw [mem_byCallId_stop_iff]
    simp
  age _ := ageData_stop
  callId _ := callId_stop

theorem stopSessions_stopsOnly (sound : Sound cfg .any st) {refs : List Nat}
    (hlt : ∀ r ∈ refs, r < st.next) :
    Sound cfg .any (st.stopSessions cfg env refs) ∧
      StopsOnly st (st.stopSessions cfg env refs) fun r => r ∈ refs := by
  induction refs generalizing st with
  | nil =>
      refine ⟨sound, ?_⟩
      constructor <;> simp [stopSessions]
  | cons r rest ih =>
      have stopped : Sound cfg .any (st.stop cfg env r) :=
        sound.stop (hlt r List.mem_cons_self) False.elim
      have hrest : ∀ q ∈ rest, q < (st.stop cfg env r).next := by
        intro q hmem
        rw [next_stop]
        exact hlt q (List.mem_cons_of_mem r hmem)
      obtain ⟨sound', stopsOnly⟩ := ih stopped hrest
      refine ⟨sound', (stop_stopsOnly sound).trans stopsOnly ?_⟩
      intro q
      exact List.mem_cons

/-! ### The two passes -/

variable (cfg st) in
def Expired (now : Int) (r : Nat) : Prop :=
  now - (st.session r).lastUpdated > sessionTimeout cfg (st.session r).toSessionData

variable (cfg st) in
/-- What the pass by call-id holds a session to. -/
def ExpiredByCallId (now : Int) (r : Nat) : Prop :=
  now - (st.session r).lastUpdated > signalledTimeout cfg (st.session r).toSessionData

variable (st) in
def Mapped (r : Nat) : Prop := ∃ a, (a, r) ∈ st.byIpAndPort.entries

variable (cfg st) in
/-- The session is stopped by the first pass or by the second one, which does not see the
call-ids that the first has erased. -/
def Dismissed (now : Int) (r : Nat) : Prop :=
  Mapped st r ∧ Expired cfg st now r ∨
    ExpiredByCallId cfg st now r ∧ ∃ k, (k, r) ∈ st.byCallId.entries ∧
      (k = "" ∨ ∀ q, Mapped st q → Expired cfg st now q → (st.session q).callId ≠ k)

variable (cfg st) in
/-- A session that is stopped carries the call-id, and an empty one is not erased. -/
def Freed (now : Int) (k : String) : Prop :=
  k ≠ "" ∧ ∃ r, Dismissed cfg st now r ∧ (st.session r).callId = k

theorem expired_congr {st st' : VoIpSessions} {r : Nat} {now : Int}
    (hage : ageData (st'.session r).toSessionData = ageData (st.session r).toSessionData) :
    (Expired cfg st' now r ↔ Expired cfg st now r) ∧
      (ExpiredByCallId cfg st' now r ↔ ExpiredByCallId cfg st now r) := by
  obtain ⟨hsignalled, hsession, hupdated⟩ := @sessionTimeout_congr cfg _ _ hage
  unfold Expired ExpiredByCallId
  rw [hsignalled, hsession, hupdated]
  exact ⟨Iff.rfl, Iff.rfl⟩

theorem mem_dismissed_byIpAndPort {now : Int} :
    (r ∈ st.sessionsByIpAndPort.filter fun r => decide (now - (st.session r).lastUpdated >
      sessionTimeout cfg (st.session r).toSessionData)) ↔
        Mapped st r ∧ Expired cfg st now r := by
  rw [List.mem_filter, decide_eq_true_iff]
  apply and_congr_left
  intro _
  simp [sessionsByIpAndPort, Mapped]

theorem mem_dismissed_byCallId {now : Int} :
    (r ∈ st.sessionsByCallId.filter fun r => decide (now - (st.session r).lastUpdated >
      signalledTimeout cfg (st.session r).toSessionData)) ↔
        (∃ k, (k, r) ∈ st.byCallId.entries) ∧ ExpiredByCallId cfg st now r := by
  rw [List.mem_filter, decide_eq_true_iff]
  apply and_congr_left
  intro _
  simp [sessionsByCallId]

/-- `Hoover` stops the sessions that are dismissed. -/
theorem hoover_stopsOnly (sound : Sound cfg .any st) (now : Int) :
    StopsOnly st (st.hoover cfg env now) (Dismissed cfg st now) := by
  let first := st.dismiss cfg env st.sessionsByIpAndPort now (sessionTimeout cfg)
  have hfirst : Sound cfg .any first ∧
      StopsOnly st first fun r => Mapped st r ∧ Expired cfg st now r := by
    have hstops := @stopSessions_stopsOnly cfg env st sound
      (st.sessionsByIpAndPort.filter fun r =>
        decide (now - (st.session r).lastUpdated > sessionTimeout cfg (st.session r).toSessionData))
      fun r hmem => sound.fresh r (Or.inl (mem_dismissed_byIpAndPort.mp hmem).1)
    simp only [mem_dismissed_byIpAndPort] at hstops
    exact hstops
  obtain ⟨sound1, stops1⟩ := hfirst
  have hsecond : StopsOnly first (st.hoover cfg env now) fun r =>
      (∃ k, (k, r) ∈ first.byCallId.entries) ∧ ExpiredByCallId cfg first now r := by
    have hstops := @stopSessions_stopsOnly cfg env first sound1
      (first.sessionsByCallId.filter fun r =>
        decide (now - (first.session r).lastUpdated >
          signalledTimeout cfg (first.session r).toSessionData))
      fun r hmem => sound1.fresh r (Or.inr (mem_dismissed_byCallId.mp hmem).1)
    simp only [mem_dismissed_byCallId] at hstops
    exact hstops.2
  apply stops1.trans hsecond
  intro r
  apply or_congr_right
  rw [(expired_congr (stops1.age r)).2, and_comm]
  apply and_congr_left'
  apply exists_congr
  intro k
  rw [stops1.byCallId]
  simp only [and_imp]

/-! ### What is left -/

variable (cfg st) in
/-- No session that is registered is over its timeout. -/
def NoneExpired (now : Int) : Prop := ∀ r, st.Registered r → ¬Expired cfg st now r

variable (cfg) in
/-- The sessions that are within their timeout are registered under the keys that they were. -/
def KeepsWithin (st st' : VoIpSessions) (now : Int) : Prop :=
  ∀ r, st.Registered r → ¬Expired cfg st now r →
    (∀ a, (a, r) ∈ st'.byIpAndPort.entries ↔ (a, r) ∈ st.byIpAndPort.entries) ∧
      ∀ k, (k, r) ∈ st'.byCallId.entries ↔ (k, r) ∈ st.byCallId.entries

variable (cfg st) in
/-- A session that is registered by call-id is over its own timeout where a session that is
stopped carries its call-id and nowhere else, and no mapped session is stopped that is within
its own timeout. -/
def TimesOut (now : Int) : Prop :=
  (∀ k r, (k, r) ∈ st.byCallId.entries → (Expired cfg st now r ↔ Freed cfg st now k)) ∧
    ∀ r, Mapped st r → Dismissed cfg st now r → Expired cfg st now r

section

variable {now : Int} (sound : Sound cfg .any st)

include sound

theorem mem_byCallId_hoover {k : String} :
    (k, r) ∈ (st.hoover cfg env now).byCallId.entries ↔
      (k, r) ∈ st.byCallId.entries ∧ ¬Freed cfg st now k := by
  rw [(hoover_stopsOnly sound now).byCallId]
  apply and_congr_right
  intro _
  unfold Freed
  rw [not_and_or, not_not, not_exists]
  simp only [not_and]

theorem mem_byIpAndPort_hoover {a : Nat} :
    (a, r) ∈ (st.hoover cfg env now).byIpAndPort.entries ↔
      (a, r) ∈ st.byIpAndPort.entries ∧ ¬Dismissed cfg st now r :=
  (hoover_stopsOnly sound now).byIpAndPort a r

theorem expired_hoover : Expired cfg (st.hoover cfg env now) now r ↔ Expired cfg st now r :=
  (expired_congr ((hoover_stopsOnly sound now).age r)).1

theorem noneExpired_hoover_iff : NoneExpired cfg (st.hoover cfg env now) now ↔
    ∀ k r, (k, r) ∈ st.byCallId.entries → Expired cfg st now r → Freed cfg st now k := by
  constructor
  · intro hnone k r hmem hexpired
    by_contra hfree
    have hleft : (k, r) ∈ (st.hoover cfg env now).byCallId.entries :=
      (mem_byCallId_hoover sound).mpr ⟨hmem, hfree⟩
    exact hnone r (Or.inr ⟨k, hleft⟩) ((expired_hoover sound).mpr hexpired)
  · intro hfreed r registered hexpired
    rw [expired_hoover sound] at hexpired
    rcases registered with ⟨a, hleft⟩ | ⟨k, hleft⟩
    · obtain ⟨hmem, hnot⟩ := (mem_byIpAndPort_hoover sound).mp hleft
      exact hnot (Or.inl ⟨⟨a, hmem⟩, hexpired⟩)
    · obtain ⟨hmem, hnot⟩ := (mem_byCallId_hoover sound).mp hleft
      exact hnot (hfreed k r hmem hexpired)

theorem keepsWithin_hoover_iff : KeepsWithin cfg st (st.hoover cfg env now) now ↔
    (∀ k r, (k, r) ∈ st.byCallId.entries → Freed cfg st now k → Expired cfg st now r) ∧
      ∀ r, Mapped st r → Dismissed cfg st now r → Expired cfg st now r := by
  constructor
  · intro hkeeps
    constructor
    · intro k r hmem hfreed
      by_contra hwithin
      have hleft := ((hkeeps r (Or.inr ⟨k, hmem⟩) hwithin).2 k).mpr hmem
      exact ((mem_byCallId_hoover sound).mp hleft).2 hfreed
    · rintro r ⟨a, hmem⟩ hdismissed
      by_contra hwithin
      have hleft := ((hkeeps r (Or.inl ⟨a, hmem⟩) hwithin).1 a).mpr hmem
      exact ((mem_byIpAndPort_hoover sound).mp hleft).2 hdismissed
  · rintro ⟨hfreed, hdismissed⟩ r _ hwithin
    constructor
    · intro a
      rw [mem_byIpAndPort_hoover sound, and_iff_left_iff_imp]
      exact fun hmem hstopped => hwithin (hdismissed r ⟨a, hmem⟩ hstopped)
    · intro k
      rw [mem_byCallId_hoover sound, and_iff_left_iff_imp]
      exact fun hmem hfree => hwithin (hfreed k r hmem hfree)

theorem empties_hoover_iff : (st.hoover cfg env now).byIpAndPort.entries = [] ∧
    (st.hoover cfg env now).byCallId.entries = [] ↔
      (∀ r, Mapped st r → Dismissed cfg st now r) ∧
        ∀ k r, (k, r) ∈ st.byCallId.entries → Freed cfg st now k := by
  rw [List.eq_nil_iff_forall_not_mem, List.eq_nil_iff_forall_not_mem]
  constructor
  · rintro ⟨haddresses, hcallIds⟩
    constructor
    · rintro r ⟨a, hmem⟩
      by_contra hnot
      exact haddresses (a, r) ((mem_byIpAndPort_hoover sound).mpr ⟨hmem, hnot⟩)
    · intro k r hmem
      by_contra hnot
      exact hcallIds (k, r) ((mem_byCallId_hoover sound).mpr ⟨hmem, hnot⟩)
  · rintro ⟨hdismissed, hfreed⟩
    constructor
    · rintro ⟨a, r⟩ hleft
      obtain ⟨hmem, hnot⟩ := (mem_byIpAndPort_hoover sound).mp hleft
      exact hnot (hdismissed r ⟨a, hmem⟩)
    · rintro ⟨k, r⟩ hleft
      obtain ⟨hmem, hnot⟩ := (mem_byCallId_hoover sound).mp hleft
      exact hnot (hfreed k r hmem)

end

/-- The timeouts leave no session that is over its own one, and all others as they are, where
the sessions that are stopped are those; and `StopAll` empties the store where every mapped session
is dismissed at the time that it gives and every call-id is erased. -/
theorem hoover_leaves_iff (env : Env) (now : Int) (reachable : Reachable cfg st) :
    (NoneExpired cfg (st.hoover cfg env now) now ∧
        KeepsWithin cfg st (st.hoover cfg env now) now ∧
        (st.stopAll cfg env).byIpAndPort.entries = [] ∧
        (st.stopAll cfg env).byCallId.entries = []) ↔
      TimesOut cfg st now ∧
        (∀ r, Mapped st r →
          Dismissed cfg st (env.time + 2 * cfg.rtpSessionOnHoldTimeOutSec) r) ∧
        ∀ k r, (k, r) ∈ st.byCallId.entries →
          Freed cfg st (env.time + 2 * cfg.rtpSessionOnHoldTimeOutSec) k := by
  have sound := reachable.sound
  unfold stopAll
  rw [noneExpired_hoover_iff sound, keepsWithin_hoover_iff sound, empties_hoover_iff sound,
    ← and_assoc]
  apply and_congr_left'
  unfold TimesOut
  rw [← and_assoc]
  apply and_congr_left'
  constructor
  · rintro ⟨hexpired, hfreed⟩ k r hmem
    exact ⟨hexpired k r hmem, hfreed k r hmem⟩
  · intro hall
    exact ⟨fun k r hmem => (hall k r hmem).mp, fun k r hmem => (hall k r hmem).mpr⟩

section

private def onePacket : Env × Operation :=
  ({ usec := 0 }, .rtp { sourceIp := 10, destIp := 30, sourcePort := 4000, destPort := 5000 })

/-- One packet, and everything is stopped. -/
theorem hoover_leaves_nothing :
    ((runAll {} (empty {} { usec := 0 } 0) [onePacket]).stopAll {}
      { usec := 0 }).byIpAndPort.entries = [] := by
  have hempties (st : VoIpSessions) (reachable : Reachable {} st)
      (hcallIds : st.byCallId.entries = []) (haddresses : st.byIpAndPort.entries = [(1971080, 0)])
      (htimeout : sessionTimeout {} (st.session 0).toSessionData = 10)
      (hupdated : (st.session 0).lastUpdated = 0) :
      (st.stopAll {} { usec := 0 }).byIpAndPort.entries = [] := by
    have hexpired : ∀ r, Mapped st r → Expired {} st 3600 r := by
      rintro r ⟨a, hmem⟩
      rw [haddresses, List.mem_singleton, Prod.mk.injEq] at hmem
      rw [hmem.2, Expired, htimeout, hupdated]
      decide
    have hnone : ∀ k r, (k, r) ∉ st.byCallId.entries := by simp [hcallIds]
    have htimesOut : TimesOut {} st 3600 :=
      ⟨fun k r hmem => absurd hmem (hnone k r), fun r hmapped _ => hexpired r hmapped⟩
    have hforced : ∀ r, Mapped st r → Dismissed {} st 3600 r := fun r hmapped =>
      Or.inl ⟨hmapped, hexpired r hmapped⟩
    exact ((hoover_leaves_iff { usec := 0 } 3600 reachable).mpr
      ⟨htimesOut, hforced, fun k r hmem => absurd hmem (hnone k r)⟩).2.2.1
  exact hempties _ (reachable_runAll _ _ _) (by decide +kernel) (by decide +kernel)
    (by decide +kernel) (by decide +kernel)

/-- The session in the place of a stopped capture of raw RTP stays under the empty call-id when it
times out. -/
theorem hoover_leaves_replacement : ¬ ∀ (cfg : Config) (env : Env) (now : Int)
    (st : VoIpSessions), Reachable cfg st →
      NoneExpired cfg (st.hoover cfg env now) now ∧
        KeepsWithin cfg st (st.hoover cfg env now) now ∧
        (st.stopAll cfg env).byIpAndPort.entries = [] ∧
        (st.stopAll cfg env).byCallId.entries = [] := by
  intro hall
  let st := runAll {} (empty {} { usec := 0 } 0)
    [onePacket, ({ usec := 0 }, .stopCapture (.party "30.0.0.0"))]
  have reachable : Reachable {} st := reachable_runAll _ _ _
  have hnone := (hall {} { usec := 0 } 100 st reachable).1
  have hmem : ("", 1) ∈ (st.hoover {} { usec := 0 } 100).byCallId.entries := by decide +kernel
  have hexpired : Expired {} (st.hoover {} { usec := 0 } 100) 100 1 := by
    unfold Expired
    decide +kernel
  exact hnone 1 (Or.inr ⟨"", hmem⟩) hexpired

end

end

end VoIpSessions

end OrkAudio.VoIp
