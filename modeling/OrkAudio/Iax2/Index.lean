import OrkAudio.Iax2.Sessions

/-! The maps of the IAX2 sessions hold every session under its own keys, and stopping a
session removes its entries and no others, as long as no session is given the key of an
invited party in place of another one or one that another session has. -/

namespace OrkAudio.Iax2

open Lib VoIp

/-! ### The keys of a session -/

theorem ipAndCallNo_ne_empty (ip : InAddr) (callNo : String) : ipAndCallNo ip callNo ≠ "" := by
  intro hempty
  have hlist : (ipAndCallNo ip callNo).toList = [] := by rw [hempty]; rfl
  simp [ipAndCallNo] at hlist

namespace Iax2Session

def keys (s : Iax2Session) : String × String := (s.srcIpAndCallNo, s.destIpAndCallNo)

@[simp] theorem keys_stop (s : Iax2Session) : s.stop.1.keys = s.keys := by
  unfold stop
  split_ifs <;> rfl

theorem keys_processMetadataIax2 (cfg : Config) (s : Iax2Session) (info : Iax2PacketInfo) :
    (s.processMetadataIax2 cfg info).keys = s.keys := by
  simp only [processMetadataIax2]
  split_ifs <;> rfl

theorem keys_noteFrame (cfg : Config) (s : Iax2Session) (info : Iax2PacketInfo) :
    (s.noteFrame cfg info).keys = s.keys := by
  unfold noteFrame
  split_ifs
  · exact keys_processMetadataIax2 cfg s info
  · exact keys_processMetadataIax2 cfg s info
  · rfl
  · rfl

theorem keys_takeFrame (clock : Clock) (s : Iax2Session) (side : Side) (info : Iax2PacketInfo) :
    (s.takeFrame clock side info).1.keys = s.keys := by
  have hstart (t : Iax2Session) : (t.startOnFirst clock).1.keys = t.keys := by
    simp only [startOnFirst]
    split_ifs <;> rfl
  have hcount (t : Iax2Session) : (t.countChannel side).keys = t.keys := by
    cases side <;> rfl
  simp only [takeFrame]
  split_ifs
  · exact (hcount _).trans (hstart _)
  · exact (hcount _).trans (hstart _)

@[simp] theorem keys_setLastOfSide (s : Iax2Session) (p : Nat) (side : Side) :
    (s.setLastOfSide p side).keys = s.keys := by
  cases side <;> rfl

/-- A voice frame leaves the keys of its session as they are. -/
theorem keys_addIax2Packet (cfg : Config) (clock : Clock) (s : Iax2Session)
    (packet : Nat → Iax2PacketInfo) (p : Nat) :
    (s.addIax2Packet cfg clock packet p).session.keys = s.keys := by
  have hnote : ((s.noteFrame cfg (packet p)).setLast p).keys = s.keys :=
    keys_noteFrame cfg s (packet p)
  rcases s.session_addIax2Packet cfg clock packet p with
    hsame | ⟨side, last, -, hsession⟩ | ⟨side, info, hsession⟩
  · rw [hsame]
  · rw [hsession, hnote]
  · rw [hsession, keys_takeFrame, keys_setLastOfSide, hnote]

/-- A NEW makes a session with the key of its sender, and no key of an invited party. -/
theorem keys_reportIax2New {cfg : Config} {s created : Iax2Session} {invite : Iax2NewInfo}
    (hnew : s.new = none) (hcreated : s.reportIax2New cfg invite = some created) :
    created.keys = (ipAndCallNo invite.senderIp invite.callNo, s.destIpAndCallNo) := by
  unfold reportIax2New at hcreated
  simp only at hcreated
  split at hcreated
  · rename_i old hold
    split_ifs at hold <;> simp [hnew] at hold
  · obtain ⟨callno, -, rfl⟩ := Option.map_eq_some_iff.mp hcreated
    split_ifs <;> rfl

end Iax2Session

/-! ### What the maps should hold -/

/-- The call of `Stop` removed the entries of its session and no others. -/
def StopCall.IsExact (call : StopCall) : Prop :=
  (∀ entry, entry ∈ call.after.bySrcIpAndCallNo.entries ↔
    entry ∈ call.before.bySrcIpAndCallNo.entries ∧ entry.2 ≠ call.r) ∧
  ∀ entry, entry ∈ call.after.byDestIpAndCallNo.entries ↔
    entry ∈ call.before.byDestIpAndCallNo.entries ∧ entry.2 ≠ call.r

namespace Iax2Sessions

/-- Every entry is under the key of its session, every call of `Stop` was exact, and no
session that was stopped is in a map. -/
structure Indexed (st : Iax2Sessions) : Prop where
  src : ∀ entry ∈ st.bySrcIpAndCallNo.entries, entry.1 = (st.session entry.2).srcIpAndCallNo
  dest : ∀ entry ∈ st.byDestIpAndCallNo.entries, entry.1 = (st.session entry.2).destIpAndCallNo
  exact : ∀ call ∈ st.stops, call.IsExact
  gone : ∀ call ∈ st.stops, (∀ entry ∈ st.bySrcIpAndCallNo.entries, entry.2 ≠ call.r) ∧
    ∀ entry ∈ st.byDestIpAndCallNo.entries, entry.2 ≠ call.r

/-- An AUTHREQ or an ACCEPT does not give a session the key of an invited party in place of
another one, nor a key that another session has. -/
def KeepsDest (st : Iax2Sessions) (label : Clock × Operation) : Prop :=
  match label.2 with
  | .reportIax2Authreq authreq =>
      let key := ipAndCallNo authreq.senderIp authreq.senderCallno
      ∀ r, st.bySrcIpAndCallNo.find?
          (ipAndCallNo authreq.receiverIp authreq.receiverCallno) = some r →
        ((st.session r).destIpAndCallNo = "" ∨ (st.session r).destIpAndCallNo = key) ∧
          ∀ other, st.byDestIpAndCallNo.find? key = some other → other = r
  | .reportIax2Accept acceptinfo =>
      let key := ipAndCallNo acceptinfo.senderIp acceptinfo.senderCallno
      ∀ r, st.bySrcIpAndCallNo.find?
          (ipAndCallNo acceptinfo.receiverIp acceptinfo.receiverCallno) = some r →
        st.byDestIpAndCallNo.find? key = none →
          (st.session r).destIpAndCallNo = "" ∨ (st.session r).destIpAndCallNo = key
  | _ => True

/-! ### The invariant -/

/-- A session that is in a map is under its key in both, when it has both keys. -/
structure Sound (st : Iax2Sessions) : Prop where
  srcKey : ∀ entry ∈ st.bySrcIpAndCallNo.entries,
    entry.1 = (st.session entry.2).srcIpAndCallNo ∧ entry.1 ≠ "" ∧ entry.2 < st.next
  destKey : ∀ entry ∈ st.byDestIpAndCallNo.entries,
    entry.1 = (st.session entry.2).destIpAndCallNo ∧ entry.1 ≠ ""
  destSrc : ∀ entry ∈ st.byDestIpAndCallNo.entries,
    ((st.session entry.2).srcIpAndCallNo, entry.2) ∈ st.bySrcIpAndCallNo.entries
  srcDest : ∀ entry ∈ st.bySrcIpAndCallNo.entries, (st.session entry.2).destIpAndCallNo = "" ∨
    ((st.session entry.2).destIpAndCallNo, entry.2) ∈ st.byDestIpAndCallNo.entries
  stops : ∀ call ∈ st.stops, call.IsExact ∧ call.r < st.next ∧
    ∀ entry ∈ st.bySrcIpAndCallNo.entries, entry.2 ≠ call.r

/-- The session is in the map of the inviting parties. -/
def Holds (st : Iax2Sessions) (r : Nat) : Prop :=
  ((st.session r).srcIpAndCallNo, r) ∈ st.bySrcIpAndCallNo.entries

variable {cfg : Config} {clock : Clock} {st : Iax2Sessions}

theorem Sound.indexed (sound : st.Sound) : st.Indexed where
  src := fun entry hentry => (sound.srcKey entry hentry).1
  dest := fun entry hentry => (sound.destKey entry hentry).1
  exact := fun call hcall => (sound.stops call hcall).1
  gone := by
    intro call hcall
    have hsrc := (sound.stops call hcall).2.2
    refine ⟨hsrc, ?_⟩
    intro entry hentry
    exact hsrc ((st.session entry.2).srcIpAndCallNo, entry.2) (sound.destSrc entry hentry)

theorem sound_empty (alphaCounter : Nat) : (empty alphaCounter).Sound where
  srcKey := by intro entry hentry; cases hentry
  destKey := by intro entry hentry; cases hentry
  destSrc := by intro entry hentry; cases hentry
  srcDest := by intro entry hentry; cases hentry
  stops := by intro call hcall; cases hcall

theorem Sound.holds_of_src (sound : st.Sound) {key : String} {r : Nat}
    (hfound : st.bySrcIpAndCallNo.find? key = some r) : st.Holds r := by
  have hentry := OrderedMap.find?_eq_some.mp hfound
  have hkey : key = (st.session r).srcIpAndCallNo := (sound.srcKey _ hentry).1
  rw [Holds, ← hkey]
  exact hentry

theorem Sound.holds_of_dest (sound : st.Sound) {key : String} {r : Nat}
    (hfound : st.byDestIpAndCallNo.find? key = some r) : st.Holds r :=
  sound.destSrc _ (OrderedMap.find?_eq_some.mp hfound)

/-- An operation that changes neither a key nor a map keeps the invariant. -/
theorem Sound.congr {st' : Iax2Sessions} (sound : st.Sound) (hmaps : st'.toMaps = st.toMaps)
    (hkeys : ∀ r, (st'.session r).keys = (st.session r).keys)
    (hnext : st'.next = st.next) (hstops : st'.stops = st.stops) : st'.Sound := by
  have hsrc : ∀ r, (st'.session r).srcIpAndCallNo = (st.session r).srcIpAndCallNo := by
    intro r
    exact congrArg Prod.fst (hkeys r)
  have hdest : ∀ r, (st'.session r).destIpAndCallNo = (st.session r).destIpAndCallNo := by
    intro r
    exact congrArg Prod.snd (hkeys r)
  constructor
  · simpa only [hmaps, hsrc, hnext] using sound.srcKey
  · simpa only [hmaps, hdest] using sound.destKey
  · simpa only [hmaps, hsrc] using sound.destSrc
  · simpa only [hmaps, hdest] using sound.srcDest
  · simpa only [hmaps, hstops, hnext] using sound.stops

/-- `Sound.congr` for a change of one session. -/
theorem Sound.of_setSession {s : Iax2Session} {r : Nat} (sound : st.Sound)
    (hkeys : s.keys = (st.session r).keys) : (st.setSession r s).Sound := by
  have hsame : ∀ q, ((st.setSession r s).session q).keys = (st.session q).keys := by
    intro q
    by_cases hq : q = r
    · subst hq
      simpa [setSession] using hkeys
    · simp [setSession, Function.update_of_ne hq]
  exact sound.congr rfl hsame rfl rfl

theorem Sound.setState (sound : st.Sound) (r : Nat) (iax2State : Iax2State) :
    (st.setState r iax2State).Sound := sound.of_setSession rfl

theorem Sound.setInviteeScallno (sound : st.Sound) (r : Nat) (callno : UInt16) :
    (st.setInviteeScallno r callno).Sound := sound.of_setSession rfl

/-! ### Stopping -/

section

variable {r : Nat}

@[simp] theorem keys_session_stop (q : Nat) :
    ((st.stop r).session q).keys = (st.session q).keys := by
  by_cases hq : q = r
  · subst hq
    simp [stop, setSession]
  · simp [stop, setSession, Function.update_of_ne hq]

/-- What is left in the map of the inviting parties. -/
theorem Sound.mem_src_stop (sound : st.Sound) (hholds : st.Holds r) {entry : String × Nat} :
    entry ∈ (st.stop r).bySrcIpAndCallNo.entries ↔
      entry ∈ st.bySrcIpAndCallNo.entries ∧ entry.2 ≠ r := by
  have hkeys : (st.session r).stop.1.srcIpAndCallNo = (st.session r).srcIpAndCallNo :=
    congrArg Prod.fst (Iax2Session.keys_stop _)
  have hne : (st.session r).srcIpAndCallNo ≠ "" := (sound.srcKey _ hholds).2.1
  simp only [stop, Maps.eraseKeys, hkeys, if_pos hne]
  rw [OrderedMap.mem_erase]
  apply and_congr_right
  intro hentry
  apply not_congr
  constructor
  · intro hkey
    have heq : entry = ((st.session r).srcIpAndCallNo, r) :=
      st.bySrcIpAndCallNo.sorted.key_injective hentry hholds hkey
    rw [heq]
  · intro hsession
    rw [(sound.srcKey _ hentry).1, hsession]

theorem Sound.mem_dest_stop (sound : st.Sound) (hholds : st.Holds r) {entry : String × Nat} :
    entry ∈ (st.stop r).byDestIpAndCallNo.entries ↔
      entry ∈ st.byDestIpAndCallNo.entries ∧ entry.2 ≠ r := by
  have hkeys : (st.session r).stop.1.destIpAndCallNo = (st.session r).destIpAndCallNo :=
    congrArg Prod.snd (Iax2Session.keys_stop _)
  simp only [stop, Maps.eraseKeys, hkeys]
  split_ifs with hne
  · have hown : ((st.session r).destIpAndCallNo, r) ∈ st.byDestIpAndCallNo.entries :=
      (sound.srcDest _ hholds).resolve_left hne
    rw [OrderedMap.mem_erase]
    apply and_congr_right
    intro hentry
    apply not_congr
    constructor
    · intro hkey
      have heq : entry = ((st.session r).destIpAndCallNo, r) :=
        st.byDestIpAndCallNo.sorted.key_injective hentry hown hkey
      rw [heq]
    · intro hsession
      rw [(sound.destKey _ hentry).1, hsession]
  -- a session without this key has no entry
  · rw [iff_self_and]
    intro hentry hsession
    obtain ⟨hkey, hkeyNe⟩ := sound.destKey _ hentry
    rw [hsession] at hkey
    exact hkeyNe (hkey.trans (not_not.mp hne))

/-- Stopping a session that is in the maps keeps the invariant. -/
theorem Sound.stop (sound : st.Sound) (hholds : st.Holds r) : (st.stop r).Sound := by
  have hsrc : ∀ q, ((st.stop r).session q).srcIpAndCallNo = (st.session q).srcIpAndCallNo := by
    intro q
    exact congrArg Prod.fst (keys_session_stop q)
  have hdest : ∀ q, ((st.stop r).session q).destIpAndCallNo = (st.session q).destIpAndCallNo := by
    intro q
    exact congrArg Prod.snd (keys_session_stop q)
  constructor
  · intro entry hentry
    rw [hsrc]
    exact sound.srcKey _ ((sound.mem_src_stop hholds).mp hentry).1
  · intro entry hentry
    rw [hdest]
    exact sound.destKey _ ((sound.mem_dest_stop hholds).mp hentry).1
  · intro entry hentry
    obtain ⟨hold, hne⟩ := (sound.mem_dest_stop hholds).mp hentry
    rw [hsrc]
    exact (sound.mem_src_stop hholds).mpr ⟨sound.destSrc _ hold, hne⟩
  · intro entry hentry
    obtain ⟨hold, hne⟩ := (sound.mem_src_stop hholds).mp hentry
    rw [hdest]
    rcases sound.srcDest _ hold with hempty | hmem
    · exact .inl hempty
    · exact .inr ((sound.mem_dest_stop hholds).mpr ⟨hmem, hne⟩)
  · intro call hcall
    rcases List.mem_append.mp hcall with hcall | hcall
    · obtain ⟨hexact, hlt, hgone⟩ := sound.stops call hcall
      refine ⟨hexact, hlt, ?_⟩
      intro entry hentry
      exact hgone _ ((sound.mem_src_stop hholds).mp hentry).1
    · obtain rfl := List.mem_singleton.mp hcall
      refine ⟨⟨fun _ => sound.mem_src_stop hholds, fun _ => sound.mem_dest_stop hholds⟩,
        (sound.srcKey _ hholds).2.2, ?_⟩
      intro entry hentry
      exact ((sound.mem_src_stop hholds).mp hentry).2

/-- Another session stays in the map. -/
theorem Sound.holds_stop (sound : st.Sound) (hholds : st.Holds r) {q : Nat} (hq : st.Holds q)
    (hne : q ≠ r) : (st.stop r).Holds q := by
  have hkey : ((st.stop r).session q).srcIpAndCallNo = (st.session q).srcIpAndCallNo :=
    congrArg Prod.fst (keys_session_stop q)
  rw [Holds, hkey]
  exact (sound.mem_src_stop hholds).mpr ⟨hq, hne⟩

end

theorem Sound.stopAllOf {refs : List Nat} (sound : st.Sound) (hdistinct : refs.Nodup)
    (hholds : ∀ r ∈ refs, st.Holds r) : (st.stopAllOf refs).Sound := by
  induction refs generalizing st with
  | nil => exact sound
  | cons r refs ih =>
      rw [List.nodup_cons] at hdistinct
      have hfirst := hholds r List.mem_cons_self
      apply ih (sound.stop hfirst) hdistinct.2
      intro q hq
      apply sound.holds_stop hfirst (hholds q (List.mem_cons_of_mem _ hq))
      rintro rfl
      exact hdistinct.1 hq

theorem Sound.stopFound (sound : st.Sound) {found : Option Nat}
    (hholds : ∀ r, found = some r → st.Holds r) : (st.stopFound found).Sound := by
  cases found with
  | none => exact sound
  | some r => exact sound.stop (hholds r rfl)

/-- A session is at most once in a map whose entries are under the keys of their sessions. -/
theorem nodup_sessions {map : OrderedMap String Nat} (key : Nat → String)
    (hkey : ∀ entry ∈ map.entries, entry.1 = key entry.2) : (map.entries.map Prod.snd).Nodup := by
  apply List.Nodup.map_on _ map.sorted.nodup
  intro x hx y hy hsame
  apply map.sorted.key_injective hx hy
  rw [hkey x hx, hkey y hy, hsame]

theorem Sound.hoover (sound : st.Sound) (now : Int) : (st.hoover cfg now).Sound := by
  have hfirst : (st.stopAllOf (st.expiredOf cfg now st.bySrcIpAndCallNo)).Sound := by
    apply sound.stopAllOf
    · have hnodup := nodup_sessions (fun r => (st.session r).srcIpAndCallNo)
        fun entry hentry => (sound.srcKey entry hentry).1
      exact hnodup.filter _
    · intro r hr
      obtain ⟨entry, hentry, rfl⟩ := List.mem_map.mp (List.mem_of_mem_filter hr)
      exact sound.holds_of_src (OrderedMap.find?_eq_some.mpr hentry)
  apply hfirst.stopAllOf
  · have hnodup := nodup_sessions
      (fun r => ((st.stopAllOf (st.expiredOf cfg now st.bySrcIpAndCallNo)).session r).destIpAndCallNo)
      fun entry hentry => (hfirst.destKey entry hentry).1
    exact hnodup.filter _
  · intro r hr
    obtain ⟨entry, hentry, rfl⟩ := List.mem_map.mp (List.mem_of_mem_filter hr)
    exact hfirst.destSrc entry hentry

/-! ### The other operations -/

theorem Sound.reportIax2Hangup (sound : st.Sound) (bye : Iax2SignalInfo) :
    (st.reportIax2Hangup bye).Sound := by
  have hsrc (st : Iax2Sessions) (key : String) (sound : st.Sound) :
      (st.stopFound (st.bySrcIpAndCallNo.find? key)).Sound :=
    sound.stopFound fun _ => sound.holds_of_src
  have hdest (st : Iax2Sessions) (key : String) (sound : st.Sound) :
      (st.stopFound (st.byDestIpAndCallNo.find? key)).Sound :=
    sound.stopFound fun _ => sound.holds_of_dest
  unfold Iax2Sessions.reportIax2Hangup
  apply hdest
  apply hdest
  apply hsrc
  exact hsrc _ _ sound

theorem Sound.reportIax2Packet (sound : st.Sound) (p : Nat) :
    (st.reportIax2Packet cfg clock p).2.Sound := by
  simp only [Iax2Sessions.reportIax2Packet]
  split
  · exact sound
  · rename_i r hfound
    have hholds : st.Holds r := by
      rcases Option.or_eq_some_iff.mp hfound with hsrc | ⟨-, hdest⟩
      · exact sound.holds_of_src hsrc
      · exact sound.holds_of_dest hdest
    have hkeys := Iax2Session.keys_addIax2Packet cfg clock (st.session r) st.packet p
    have hset := sound.of_setSession hkeys
    unfold addToSession
    have hadded : (st.settle r ((st.session r).addIax2Packet cfg clock st.packet p)).Sound :=
      hset.congr rfl (fun _ => rfl) rfl rfl
    dsimp only
    split_ifs
    · exact hadded
    · apply hadded.stop
      have hkey := congrArg Prod.fst hkeys
      simp only [Iax2Session.keys] at hkey
      simpa [Holds, settle, setSession, hkey] using hholds

/-- The key of an invited party that is free or the session's own may be given to it. -/
theorem Sound.setDest {r : Nat} {key : String} (sound : st.Sound) (hholds : st.Holds r)
    (hkey : key ≠ "")
    (hown : (st.session r).destIpAndCallNo = "" ∨ (st.session r).destIpAndCallNo = key)
    (hfree : ∀ other, st.byDestIpAndCallNo.find? key = some other → other = r) :
    (st.setDest r key).Sound := by
  have hmem : ∀ entry, entry ∈ (st.setDest r key).byDestIpAndCallNo.entries ↔
      entry = (key, r) ∨ entry ∈ st.byDestIpAndCallNo.entries := by
    intro entry
    cases hfound : st.byDestIpAndCallNo.find? key with
    | none => exact OrderedMap.mem_insertNew hfound
    | some other =>
        obtain rfl := hfree other hfound
        have hsame : (st.setDest other key).byDestIpAndCallNo = st.byDestIpAndCallNo :=
          OrderedMap.insertNew_of_taken hfound
        rw [hsame, iff_or_self]
        rintro rfl
        exact OrderedMap.find?_eq_some.mp hfound
  have hsrc : ∀ q, ((st.setDest r key).session q).srcIpAndCallNo =
      (st.session q).srcIpAndCallNo := by
    intro q
    by_cases hq : q = r
    · subst hq
      simp [Iax2Sessions.setDest, setSession]
    · simp [Iax2Sessions.setDest, setSession, Function.update_of_ne hq]
  have hself : ((st.setDest r key).session r).destIpAndCallNo = key := by
    simp [Iax2Sessions.setDest, setSession]
  have hother : ∀ q, q ≠ r → ((st.setDest r key).session q).destIpAndCallNo =
      (st.session q).destIpAndCallNo := by
    intro q hq
    simp [Iax2Sessions.setDest, setSession, Function.update_of_ne hq]
  constructor
  · intro entry hentry
    rw [hsrc]
    exact sound.srcKey entry hentry
  · intro entry hentry
    rcases (hmem entry).mp hentry with rfl | hold
    · exact ⟨hself.symm, hkey⟩
    · obtain ⟨hkeyOld, hne⟩ := sound.destKey entry hold
      refine ⟨?_, hne⟩
      by_cases hq : entry.2 = r
      · rw [hq] at hkeyOld
        rw [hq, hself, hkeyOld]
        apply hown.resolve_left
        rwa [hkeyOld] at hne
      · rw [hother _ hq]
        exact hkeyOld
  · intro entry hentry
    rw [hsrc]
    rcases (hmem entry).mp hentry with rfl | hold
    · exact hholds
    · exact sound.destSrc entry hold
  · intro entry hentry
    by_cases hq : entry.2 = r
    · right
      rw [hq, hself]
      exact (hmem _).mpr (.inl rfl)
    · rw [hother _ hq]
      apply (sound.srcDest entry hentry).imp_right
      intro hold
      exact (hmem _).mpr (.inr hold)
  · exact sound.stops

theorem Sound.reportIax2Authreq (sound : st.Sound) {authreq : Iax2SignalInfo}
    (keeps : st.KeepsDest (clock, .reportIax2Authreq authreq)) :
    (st.reportIax2Authreq authreq).Sound := by
  unfold Iax2Sessions.reportIax2Authreq
  split
  · exact sound
  · rename_i r hfound
    obtain ⟨hown, hfree⟩ := keeps r hfound
    have hset := sound.setDest (sound.holds_of_src hfound) (ipAndCallNo_ne_empty _ _) hown hfree
    dsimp only
    split
    · exact hset
    · exact (hset.setInviteeScallno r _).setState r _

theorem Sound.reportIax2Accept (sound : st.Sound) {acceptinfo : Iax2SignalInfo}
    (keeps : st.KeepsDest (clock, .reportIax2Accept acceptinfo)) :
    (st.reportIax2Accept acceptinfo).Sound := by
  unfold Iax2Sessions.reportIax2Accept
  dsimp only
  split
  · exact sound
  · rename_i r hfound
    split
    · exact sound.setState _ _
    · rename_i hnew
      have hfree : ∀ other, st.byDestIpAndCallNo.find?
          (ipAndCallNo acceptinfo.senderIp acceptinfo.senderCallno) = some other → other = r := by
        intro other hother
        rw [hnew] at hother
        cases hother
      have hset := sound.setDest (sound.holds_of_src hfound) (ipAndCallNo_ne_empty _ _)
        (keeps r hfound hnew) hfree
      have hlinked := hset.setState r .linked
      split
      · exact hlinked
      · exact hlinked.setInviteeScallno r _

/-- Room is made by stopping the session that has the key. -/
theorem Sound.makeRoom {st' : Iax2Sessions} {key : String} (sound : st.Sound)
    (hroom : st.makeRoom key = some st') :
    st'.Sound ∧ st'.bySrcIpAndCallNo.find? key = none := by
  unfold Iax2Sessions.makeRoom at hroom
  split at hroom
  · rename_i hfree
    cases hroom
    exact ⟨sound, hfree⟩
  · rename_i r hfound
    split_ifs at hroom
    cases hroom
    have hholds := sound.holds_of_src hfound
    refine ⟨sound.stop hholds, ?_⟩
    rw [OrderedMap.find?_eq_none]
    intro entry hentry hkey
    obtain ⟨hold, hne⟩ := (sound.mem_src_stop hholds).mp hentry
    have heq : entry = (key, r) :=
      st.bySrcIpAndCallNo.sorted.key_injective hold (OrderedMap.find?_eq_some.mp hfound) hkey
    rw [heq] at hne
    exact hne rfl

/-- A new session whose key is free is entered in the map of the inviting parties. -/
theorem Sound.enter {s : Iax2Session} (sound : st.Sound) (hkey : s.srcIpAndCallNo ≠ "")
    (hdest : s.destIpAndCallNo = "")
    (hfree : st.bySrcIpAndCallNo.find? s.srcIpAndCallNo = none) :
    Sound { st.setSession st.next s with
      next := st.next + 1
      bySrcIpAndCallNo := st.bySrcIpAndCallNo.insertNew s.srcIpAndCallNo st.next } := by
  have hself : (st.setSession st.next s).session st.next = s := by
    simp [setSession]
  have hother : ∀ q, q < st.next → (st.setSession st.next s).session q = st.session q := by
    intro q hq
    simp [setSession, Function.update_of_ne hq.ne]
  have hmem : ∀ entry, entry ∈
      (st.bySrcIpAndCallNo.insertNew s.srcIpAndCallNo st.next).entries ↔
        entry = (s.srcIpAndCallNo, st.next) ∨ entry ∈ st.bySrcIpAndCallNo.entries :=
    fun _ => OrderedMap.mem_insertNew hfree
  have hltDest : ∀ entry ∈ st.byDestIpAndCallNo.entries, entry.2 < st.next := by
    intro entry hentry
    exact (sound.srcKey _ (sound.destSrc entry hentry)).2.2
  constructor
  · intro entry hentry
    rcases (hmem entry).mp hentry with rfl | hold
    · exact ⟨by rw [hself], hkey, Nat.lt_succ_self _⟩
    · obtain ⟨hkeyOld, hne, hlt⟩ := sound.srcKey entry hold
      refine ⟨?_, hne, Nat.lt_succ_of_lt hlt⟩
      rw [hother _ hlt]
      exact hkeyOld
  · intro entry hentry
    rw [hother _ (hltDest entry hentry)]
    exact sound.destKey entry hentry
  · intro entry hentry
    rw [hother _ (hltDest entry hentry)]
    exact (hmem _).mpr (.inr (sound.destSrc entry hentry))
  · intro entry hentry
    rcases (hmem entry).mp hentry with rfl | hold
    · left
      rw [hself]
      exact hdest
    · rw [hother _ (sound.srcKey entry hold).2.2]
      exact sound.srcDest entry hold
  · intro call hcall
    obtain ⟨hexact, hlt, hgone⟩ := sound.stops call hcall
    refine ⟨hexact, Nat.lt_succ_of_lt hlt, ?_⟩
    intro entry hentry
    rcases (hmem entry).mp hentry with rfl | hold
    · exact hlt.ne'
    · exact hgone entry hold

theorem Sound.reportIax2New (sound : st.Sound) (invite : Iax2NewInfo) :
    (st.reportIax2New cfg clock invite).Sound := by
  unfold Iax2Sessions.reportIax2New
  split
  · exact sound
  · rename_i room hroom
    obtain ⟨hsound, hfree⟩ := sound.makeRoom hroom
    have hcounted : ({ room with alphaCounter := alphaCounterNext room.alphaCounter } :
        Iax2Sessions).Sound := hsound.congr rfl (fun _ => rfl) rfl rfl
    dsimp only
    split
    · exact hcounted
    · rename_i s hs
      have hkeys := Iax2Session.keys_reportIax2New rfl hs
      simp only [Iax2Session.keys, Prod.mk.injEq] at hkeys
      apply hcounted.enter
      · rw [hkeys.1]
        exact ipAndCallNo_ne_empty _ _
      · exact hkeys.2
      · rw [hkeys.1]
        exact hfree

/-! ### Runs -/

/-- One operation that meets the condition keeps the invariant. -/
theorem Sound.step {st' : Iax2Sessions} {label : Clock × Operation} (sound : st.Sound)
    (taken : Guarded KeepsDest (Step cfg) st label st') : st'.Sound := by
  obtain ⟨clock, operation⟩ := label
  obtain ⟨keeps, rfl⟩ := taken
  cases operation with
  | reportIax2New invite => exact sound.reportIax2New invite
  | reportIax2Authreq authreq => exact sound.reportIax2Authreq keeps
  | reportIax2Accept acceptinfo => exact sound.reportIax2Accept keeps
  | reportIax2Hangup bye => exact sound.reportIax2Hangup bye
  | reportIax2Packet p info =>
      have hwritten : (st.setPacket p info).Sound := sound.congr rfl (fun _ => rfl) rfl rfl
      exact hwritten.reportIax2Packet p
  | hoover now => exact sound.hoover now

/-- In a run that never gives a session the key of an invited party in place of another one
or one that another session has, the maps hold every session under its own keys and `Stop`
removes the entries of its session and no others. -/
theorem indexed_of_guarded_run {alphaCounter : Nat} {labels : List (Clock × Operation)}
    (run : Steps (Guarded KeepsDest (Step cfg)) (empty alphaCounter) labels st) : st.Indexed :=
  (run.invariant (fun _ _ _ sound taken => sound.step taken) (sound_empty alphaCounter)).indexed

/-! A NEW from 10.0.0.1 and two AUTHREQs for it from 10.0.0.2. -/

section

def clockAtZero : Clock := { time := 0 }

def newOfOne : Operation :=
  .reportIax2New { senderIp := 0x0100000A, receiverIp := 0x0200000A, callNo := "1" }

def authreqWith (callno : String) : Operation :=
  .reportIax2Authreq
    { senderIp := 0x0200000A, receiverIp := 0x0100000A, senderCallno := callno,
      receiverCallno := "1" }

def hangupWith (callno : String) : Operation :=
  .reportIax2Hangup
    { senderIp := 0x0200000A, receiverIp := 0x0100000A, senderCallno := callno,
      receiverCallno := "1" }

/-- The state after these operations. -/
def runAll (cfg : Config) (operations : List Operation) : Iax2Sessions :=
  operations.foldl (fun st operation => st.apply cfg clockAtZero operation) (empty 0)

theorem indexed_of_guarded_run_call :
    (runAll {} [newOfOne, authreqWith "7", hangupWith "7"]).Indexed := by
  have keeps : (runAll {} [newOfOne]).KeepsDest (clockAtZero, authreqWith "7") := by
    intro r hfound
    have hr : (runAll {} [newOfOne]).bySrcIpAndCallNo.find?
        (ipAndCallNo 0x0100000A "1") = some 0 := by decide +kernel
    have hzero : 0 = r := Option.some.inj (hr.symm.trans hfound)
    subst hzero
    have hnone : (runAll {} [newOfOne]).byDestIpAndCallNo.find?
        (ipAndCallNo 0x0200000A "7") = none := by decide +kernel
    refine ⟨.inl (by decide +kernel), ?_⟩
    intro other hother
    rw [hnone] at hother
    cases hother
  have called : Guarded KeepsDest (Step {}) (empty 0) (clockAtZero, newOfOne)
      (runAll {} [newOfOne]) := ⟨trivial, rfl⟩
  have asked : Guarded KeepsDest (Step {}) (runAll {} [newOfOne]) (clockAtZero, authreqWith "7")
      (runAll {} [newOfOne, authreqWith "7"]) := ⟨keeps, rfl⟩
  have ended : Guarded KeepsDest (Step {}) (runAll {} [newOfOne, authreqWith "7"])
      (clockAtZero, hangupWith "7") (runAll {} [newOfOne, authreqWith "7", hangupWith "7"]) :=
    ⟨trivial, rfl⟩
  exact indexed_of_guarded_run (.cons called (.cons asked (.cons ended (.nil _))))

/-- The second AUTHREQ gives the session another key; its entry stays under the first one. -/
theorem not_indexed_after_second_authreq :
    ¬ ∀ (cfg : Config) (labels : List (Clock × Operation)) (st : Iax2Sessions),
      Steps (Step cfg) (empty 0) labels st → st.Indexed := by
  intro claim
  let last := runAll {} [newOfOne, authreqWith "7", authreqWith "8"]
  have run : Steps (Step {}) (empty 0)
      [(clockAtZero, newOfOne), (clockAtZero, authreqWith "7"), (clockAtZero, authreqWith "8")]
      last := .cons rfl (.cons rfl (.cons rfl (.nil _)))
  have hfound : last.byDestIpAndCallNo.find? (ipAndCallNo 0x0200000A "7") = some 0 := by
    decide +kernel
  have hkey := (claim {} _ last run).dest _ (OrderedMap.find?_eq_some.mp hfound)
  exact absurd hkey (by decide +kernel)

end

end Iax2Sessions

end OrkAudio.Iax2
