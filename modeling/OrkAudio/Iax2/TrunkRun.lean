import OrkAudio.Iax2.Lockstep

/-! Runs through one packet object beside runs of mini frames.

As long as both take the same frames of every session, the runs stay in lockstep. The first
frame that only one of them takes leaves a trace that no later frame removes: audio without
payload, or one more frame counted. -/

namespace OrkAudio.Iax2

open Lib VoIp

namespace Iax2Sessions

open Iax2Session

/-- Report the frames that have a payload, each through an object of its own. -/
def reportSeparately (cfg : Config) (clock : Clock) (st : Iax2Sessions)
    (infos : List Iax2PacketInfo) : Iax2Sessions :=
  infos.foldl
    (fun st info =>
      if info.payload = [] then st else (st.reportPacket cfg clock st.nextPacket info).2) st

/-- The frames of one datagram: mini frames to one address. -/
def AreMini (dest : InAddr) (infos : List Iax2PacketInfo) : Prop :=
  ∀ info ∈ infos, info.frameType = .mini ∧ info.destIp = dest

theorem AreMini.tail {dest : InAddr} {info : Iax2PacketInfo} {infos : List Iax2PacketInfo}
    (hmini : AreMini dest (info :: infos)) : AreMini dest infos :=
  fun other hother => hmini other (List.mem_cons_of_mem _ hother)

/-- No frame without a payload finds a session that is waiting. -/
def StopsWithPayload (st : Iax2Sessions) (infos : List Iax2PacketInfo) : Prop :=
  ∀ found ∈ st.walk infos, ∀ r, found.2 = some r → found.1.payload = [] →
    (st.session r).iax2State ≠ .waiting

variable {cfg : Config} {clock : Clock} {p q : Nat} {dest : InAddr} {side : Nat → Side}
  {own : Nat → Bool} {last : Nat → Option UInt32} {st S T : Iax2Sessions} {info : Iax2PacketInfo}
  {infos : List Iax2PacketInfo} {r : Nat}

/-! ### What a mini frame leaves -/

theorem lastSome_stop (x : Nat) : ((st.stop r).session x).lastIax2Packet =
    (st.session x).lastIax2Packet := by
  by_cases hx : x = r
  · subst hx
    simp [stop, setSession]
  · simp [stop, setSession, Function.update_of_ne hx]

variable (cfg clock p) in
theorem hears_reportPacket (begun : ∀ r, (st.session r).Begun) (hmini : info.frameType = .mini)
    (x : Nat) : ((st.reportPacket cfg clock p info).2.session x).hears = (st.session x).hears := by
  have hlookups := sameLookups_reportPacket cfg clock p begun hmini
  have hstate : ((st.reportPacket cfg clock p info).2.session x).iax2State =
      (st.session x).iax2State := by
    rw [← hlookups.state x, iax2State_afterLookup]
  have hset {r : Nat} {s : Iax2Session} (hears : (st.session r).hears = true)
      (hs : s.lastIax2Packet.isSome = true) :
      (((st.setPacket p info).setSession r s).session x).lastIax2Packet.isSome =
        (st.session x).lastIax2Packet.isSome := by
    by_cases hx : x = r
    · subst hx
      rw [session_setSession_self, hs, isSome_of_hears hears]
    · rw [session_setSession_of_ne hx]
      rfl
  have hsome : ((st.reportPacket cfg clock p info).2.session x).lastIax2Packet.isSome =
      (st.session x).lastIax2Packet.isSome := by
    rcases reportPacket_cases cfg clock p begun hmini with
      ⟨hresult, -⟩ | ⟨r, -, -, hresult⟩ | ⟨r, -, hears, -, hresult⟩ | ⟨r, -, hears, -, hresult⟩
    · rw [hresult]
      rfl
    · rw [hresult, lastSome_stop]
      rfl
    · rw [hresult]
      exact hset hears rfl
    · rw [hresult]
      exact hset hears (by rw [lastIax2Packet_count]; rfl)
  rw [Iax2Session.hears, Iax2Session.hears, hstate, hsome]

/-! ### One frame in lockstep -/

/-- The sessions that refer to the object after one more frame. -/
def ownNext (cfg : Config) (S : Iax2Sessions) (own : Nat → Bool) (last : Nat → Option UInt32)
    (info : Iax2PacketInfo) (x : Nat) : Bool :=
  own x || (decide (S.findFor info = some x) && (S.session x).hears &&
    takesShared cfg.iax2RewriteTimestamps (own x) (last x) info)

/-- The timestamps that separate frames leave after one more of them. -/
def lastNext (cfg : Config) (S : Iax2Sessions) (side : Nat → Side) (last : Nat → Option UInt32)
    (info : Iax2PacketInfo) (x : Nat) : Option UInt32 :=
  if S.findFor info = some x ∧ (S.session x).hears = true then
    keepSeparate cfg.iax2RewriteTimestamps (side x) (last x) info
  else last x

variable (cfg) in
theorem Lock.takes_eq (lock : Lock p dest side own last S T) (hdest : info.destIp = dest) (r : Nat) :
    takes cfg.iax2RewriteTimestamps ((S.setPacket p info).lastAt r info.destIp) info.timestamp =
      takesShared cfg.iax2RewriteTimestamps (own r) (last r) info := by
  rw [hdest, (lock.writeS hdest).lastS r, packet_setPacket]
  cases hown : own r <;> simp [takes, takesShared]

variable (cfg) in
theorem Lock.takes_eqT (lock : Lock p dest side own last S T) (hdest : info.destIp = dest)
    (hpayload : info.payload ≠ []) (r : Nat) :
    takes cfg.iax2RewriteTimestamps
        ((T.setPacket T.nextPacket info).lastAt r info.destIp) info.timestamp =
      takesSeparate cfg.iax2RewriteTimestamps (last r) info := by
  rw [hdest, (lock.writeT info).lastT r]
  simp [takesSeparate, hpayload]

variable (cfg side own last) in
/-- Nothing changes for a frame that no session hears. -/
theorem next_of_not_hears
    (hfound : ∀ r, S.findFor info = some r → (S.session r).hears = false) :
    ownNext cfg S own last info = own ∧ lastNext cfg S side last info = last := by
  constructor
  · funext x
    by_cases hx : S.findFor info = some x
    · simp [ownNext, hfound x hx]
    · simp [ownNext, hx]
  · funext x
    by_cases hx : S.findFor info = some x
    · simp [lastNext, hfound x hx]
    · simp [lastNext, hx]

variable (cfg side own last) in
theorem next_of_hears (hfound : S.findFor info = some r) (hears : (S.session r).hears = true) :
    ownNext cfg S own last info = Function.update own r
        (own r || takesShared cfg.iax2RewriteTimestamps (own r) (last r) info) ∧
      lastNext cfg S side last info = Function.update last r
        (keepSeparate cfg.iax2RewriteTimestamps (side r) (last r) info) := by
  have hother {x : Nat} (hx : x ≠ r) : S.findFor info ≠ some x := by
    rw [hfound]
    intro heq
    exact hx (Option.some.inj heq).symm
  constructor
  · funext x
    by_cases hx : x = r
    · subst hx
      simp [ownNext, hfound, hears]
    · simp [ownNext, hother hx, Function.update_of_ne hx]
  · funext x
    by_cases hx : x = r
    · subst hx
      simp [lastNext, hfound, hears]
    · simp [lastNext, hother hx, Function.update_of_ne hx]

variable (cfg clock) in
/-- A frame that both take, or neither, keeps the lockstep. -/
theorem Lock.step (lock : Lock p dest side own last S T) (hmini : info.frameType = .mini)
    (hdest : info.destIp = dest)
    (hstops : ∀ r, S.findFor info = some r → info.payload = [] →
      (S.session r).iax2State ≠ .waiting)
    (hagree : ∀ r, S.findFor info = some r → (S.session r).hears = true →
      takesShared cfg.iax2RewriteTimestamps (own r) (last r) info =
        takesSeparate cfg.iax2RewriteTimestamps (last r) info) :
    Lock p dest side (ownNext cfg S own last info) (lastNext cfg S side last info)
      (S.reportPacket cfg clock p info).2 (T.reportSeparately cfg clock [info]) := by
  have hS := lock.writeS hdest
  have hST := hS.writeT info
  have hfindT : T.findFor info = S.findFor info := (lock.sameLookups.findFor info).symm
  have hseparate : T.reportSeparately cfg clock [info] =
      if info.payload = [] then T else (T.reportPacket cfg clock T.nextPacket info).2 := rfl
  rw [hseparate]
  rcases reportPacket_cases cfg clock p lock.begun hmini with
    ⟨hresult, hunheard⟩ | ⟨r, hfound, hwaiting, hresult⟩ | ⟨r, hfound, hears, htakes, hresult⟩ |
      ⟨r, hfound, hears, htakes, hresult⟩
  · obtain ⟨hown, hlast⟩ := next_of_not_hears cfg side own last fun r hr => (hunheard r hr).2
    rw [hresult, hown, hlast]
    split_ifs with hpayload
    · exact hS
    · have hresultT : (T.reportPacket cfg clock T.nextPacket info).2 =
          T.setPacket T.nextPacket info := by
        cases hfound : S.findFor info with
        | none => exact reportPacket_of_not_found (hfindT.trans hfound)
        | some r =>
            obtain ⟨hstate, hears⟩ := hunheard r hfound
            exact reportPacket_of_not_hears (hfindT.trans hfound) (lock.state r ▸ hstate)
              (lock.hears r ▸ hears) hmini
      rw [hresultT]
      exact hST
  · have hunheard : ∀ q, S.findFor info = some q → (S.session q).hears = false := by
      intro q hq
      cases hfound.symm.trans hq
      simp [Iax2Session.hears, hwaiting]
    obtain ⟨hown, hlast⟩ := next_of_not_hears cfg side own last hunheard
    have hpayload : info.payload ≠ [] := fun hempty => hstops r hfound hempty hwaiting
    rw [hresult, hown, hlast, if_neg hpayload,
      reportPacket_of_waiting (hfindT.trans hfound) (lock.state r ▸ hwaiting)]
    exact hST.stop r
  · have hshared := (lock.takes_eq cfg hdest r).symm.trans htakes
    have hseparate := (hagree r hfound hears).symm.trans hshared
    obtain ⟨hown, hlast⟩ := next_of_hears cfg side own last hfound hears
    rw [hresult, hown, hlast, hshared, keepSeparate, hseparate, Bool.or_false,
      Function.update_eq_self]
    simp only [Bool.false_eq_true, if_false, Function.update_eq_self]
    split_ifs with hpayload
    · exact hS.dismissS hears
    · have htakesT := (lock.takes_eqT cfg hdest hpayload r).trans hseparate
      rw [reportPacket_of_dismisses _ (hfindT.trans hfound) (lock.begunT r)
        (lock.hears r ▸ hears) hmini htakesT]
      exact (hST.dismissT hears).dismissS hears
  · have hshared := (lock.takes_eq cfg hdest r).symm.trans htakes
    have hseparate := (hagree r hfound hears).symm.trans hshared
    have hpayload : info.payload ≠ [] := by
      intro hempty
      simp [takesSeparate, hempty] at hseparate
    obtain ⟨hown, hlast⟩ := next_of_hears cfg side own last hfound hears
    have htakesT := (lock.takes_eqT cfg hdest hpayload r).trans hseparate
    rw [hresult, hown, hlast, hshared, keepSeparate, hseparate, if_neg hpayload, Bool.or_true,
      if_pos rfl, reportPacket_of_takes _ (hfindT.trans hfound) (lock.begunT r)
        (lock.hears r ▸ hears) hmini htakesT]
    apply hST.take cfg hears (Nat.lt_of_succ_le (Nat.le_max_right _ _)) _ hdest
    intro x other hslot
    exact absurd (lock.fresh x other _ hslot) (Nat.lt_irrefl _)

/-! ### Runs in lockstep -/

theorem received_cons (st : Iax2Sessions) (info : Iax2PacketInfo) (infos : List Iax2PacketInfo)
    (r : Nat) : st.received (info :: infos) r =
      (if st.findFor info = some r then [info] else []) ++
        (st.afterLookup (st.findFor info)).received infos r := by
  rw [received, walk, List.filterMap_cons]
  split_ifs <;> rfl

theorem SameLookups.received (same : SameLookups S T) (infos : List Iax2PacketInfo) (r : Nat) :
    S.received infos r = T.received infos r := by
  rw [Iax2Sessions.received, Iax2Sessions.received, same.walk]

/-- What the frames that a session hears make of it, in both runs. -/
def sideRunAt (cfg : Config) (S : Iax2Sessions) (side : Nat → Side) (own : Nat → Bool)
    (last : Nat → Option UInt32) (infos : List Iax2PacketInfo) (r : Nat) :
    Option (Bool × Option UInt32) :=
  sideRun cfg.iax2RewriteTimestamps (side r) (own r) (last r) (S.received infos r)

variable (cfg clock p side own last infos) in
/-- One frame of the run of a session that hears. -/
theorem sideRunAt_cons (begun : ∀ r, (S.session r).Begun) (hmini : info.frameType = .mini)
    (hears : (S.session r).hears = true) :
    sideRunAt cfg S side own last (info :: infos) r =
      if S.findFor info = some r ∧ takesShared cfg.iax2RewriteTimestamps (own r) (last r) info ≠
          takesSeparate cfg.iax2RewriteTimestamps (last r) info then none
      else sideRunAt cfg (S.reportPacket cfg clock p info).2 side (ownNext cfg S own last info)
        (lastNext cfg S side last info) infos r := by
  have hreceived := (sameLookups_reportPacket cfg clock p
    begun hmini).received infos r
  rw [sideRunAt, sideRunAt, received_cons, hreceived]
  by_cases hfound : S.findFor info = some r
  · simp only [hfound, if_true, List.singleton_append, sideRun, ownNext, lastNext, hears,
      decide_true, Bool.true_and, and_true, true_and]
    by_cases hagree : takesShared cfg.iax2RewriteTimestamps (own r) (last r) info =
        takesSeparate cfg.iax2RewriteTimestamps (last r) info
    · simp [hagree]
    · simp [hagree]
  · simp [hfound, ownNext, lastNext]

theorem StopsWithPayload.tail (begun : ∀ r, (st.session r).Begun) (hmini : info.frameType = .mini)
    (hstops : st.StopsWithPayload (info :: infos)) :
    (st.reportPacket cfg clock p info).2.StopsWithPayload infos := by
  have hlookups := sameLookups_reportPacket cfg clock p begun hmini
  intro found hmem r hr hpayload
  rw [← hlookups.walk] at hmem
  rw [← hlookups.state, iax2State_afterLookup]
  exact hstops found (List.mem_cons_of_mem _ hmem) r hr hpayload

theorem reportSeparately_cons (T : Iax2Sessions) (info : Iax2PacketInfo)
    (infos : List Iax2PacketInfo) : T.reportSeparately cfg clock (info :: infos) =
      (T.reportSeparately cfg clock [info]).reportSeparately cfg clock infos := rfl

variable (cfg clock) in
/-- Runs in which every session that hears takes the same frames stay in lockstep. -/
theorem Lock.run (lock : Lock p dest side own last S T) (hmini : AreMini dest infos)
    (hstops : S.StopsWithPayload infos)
    (hruns : ∀ r, (S.session r).hears = true →
      (sideRunAt cfg S side own last infos r).isSome = true) :
    ∃ own' last', Lock p dest side own' last' (reportThrough cfg clock p S infos)
        (T.reportSeparately cfg clock infos) ∧
      (∀ r, (S.session r).hears = true →
        sideRunAt cfg S side own last infos r = some (own' r, last' r)) ∧
      ∀ r, (S.session r).hears = false → own' r = own r := by
  induction infos generalizing S T own last with
  | nil => exact ⟨own, last, lock, fun _ _ => rfl, fun _ _ => rfl⟩
  | cons info infos ih =>
      obtain ⟨hframe, hdest⟩ := hmini info List.mem_cons_self
      have hcons {r : Nat} (hears : (S.session r).hears = true) :=
        sideRunAt_cons cfg clock p side own last infos lock.begun hframe hears
      have hagree : ∀ r, S.findFor info = some r → (S.session r).hears = true →
          takesShared cfg.iax2RewriteTimestamps (own r) (last r) info =
            takesSeparate cfg.iax2RewriteTimestamps (last r) info := by
        intro r hfound hears
        have hsome := hruns r hears
        rw [hcons hears] at hsome
        by_contra hne
        rw [if_pos ⟨hfound, hne⟩] at hsome
        cases hsome
      have hstep := lock.step cfg clock hframe hdest
        (fun r hr hpayload => hstops _ List.mem_cons_self r hr hpayload) hagree
      have hhears (r : Nat) : ((S.reportPacket cfg clock p info).2.session r).hears =
          (S.session r).hears := hears_reportPacket _ _ _ lock.begun hframe r
      have htail {r : Nat} (hears : (S.session r).hears = true) :
          sideRunAt cfg S side own last (info :: infos) r =
            sideRunAt cfg (S.reportPacket cfg clock p info).2 side (ownNext cfg S own last info)
              (lastNext cfg S side last info) infos r := by
        rw [hcons hears, if_neg]
        rintro ⟨hfound, hne⟩
        exact hne (hagree r hfound hears)
      obtain ⟨own', last', hlock, hheard, hunheard⟩ := ih hstep
        hmini.tail
        (hstops.tail lock.begun hframe)
        (by
          intro r hears
          rw [hhears] at hears
          rw [← htail hears]
          exact hruns r hears)
      refine ⟨own', last', hlock, ?_, ?_⟩
      · intro r hears
        rw [htail hears]
        exact hheard r ((hhears r).trans hears)
      · intro r hears
        rw [hunheard r ((hhears r).trans hears)]
        simp [ownNext, hears]

end Iax2Sessions

end OrkAudio.Iax2
