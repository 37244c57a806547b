import OrkAudio.Iax2.Reports

/-! A row of frames through one packet object beside the same frames through one object each.

`Lock` relates the two stores as long as every session has taken the same frames in both. The
sessions then differ in what they refer to alone: on its side of the frames a session may keep
the one object on the left, and a frame of its own on the right. -/

namespace OrkAudio.Iax2

open Lib VoIp

namespace Iax2Session

variable {s : Iax2Session} {packet : Nat → Iax2PacketInfo} {p : Nat} {info : Iax2PacketInfo}

/-- Writing to a frame that no side refers to changes nothing that is read. -/
theorem retained_update {side : Side} (hne : s.lastOfSide side ≠ some p) :
    s.retained (Function.update packet p info) side = s.retained packet side := by
  unfold retained
  cases hlast : s.lastOfSide side with
  | none => rfl
  | some q =>
      have hq : q ≠ p := by
        rintro rfl
        exact hne hlast
      simp [Function.update_of_ne hq]

variable (packet) in
theorem retained_of_last {side : Side} (hlast : s.lastOfSide side = some p) :
    s.retained packet side = some ((packet p).destIp, (packet p).timestamp) := by
  rw [retained, hlast, Option.map_some]

theorem retained_congr {t : Iax2Session} {side : Side} (hlast : t.lastOfSide side = s.lastOfSide side) :
    t.retained packet side = s.retained packet side := by
  rw [retained, retained, hlast]

theorem sideTo_congr {t : Iax2Session} {other : Nat → Iax2PacketInfo} (destIp : InAddr)
    (hretained : t.retained other .side1 = s.retained packet .side1) :
    t.sideTo other destIp = s.sideTo packet destIp := by
  rw [sideTo, sideTo, hretained]

/-- Side 1 after a frame to this address is side 1 of the address. -/
theorem sideTo_of_retained {destIp : InAddr} {timestamp : UInt32}
    (hretained : s.retained packet .side1 = some (destIp, timestamp)) :
    s.sideTo packet destIp = .side1 := by
  rw [sideTo, hretained]
  exact if_pos rfl

end Iax2Session

namespace Iax2Sessions

open Iax2Session

/-- `S` has the packet object `p`; `own` are the sessions that refer to it on their side of the
address, and `last` is the timestamp that side keeps in `T`. -/
structure Lock (p : Nat) (dest : InAddr) (side : Nat → Side) (own : Nat → Bool)
    (last : Nat → Option UInt32) (S T : Iax2Sessions) : Prop where
  maps : S.toMaps = T.toMaps
  next : S.next = T.next
  alphaCounter : S.alphaCounter = T.alphaCounter
  output : S.output = T.output
  bare : ∀ r, (S.session r).bare = (T.session r).bare
  lastSome : ∀ r, (S.session r).lastIax2Packet.isSome = (T.session r).lastIax2Packet.isSome
  sideS : ∀ r, S.sideAt r dest = side r
  sideT : ∀ r, T.sideAt r dest = side r
  lastT : ∀ r, T.lastAt r dest = last r
  same : ∀ r other, (other ≠ side r ∨ own r = false) →
    (S.session r).lastOfSide other ≠ some p ∧
      (S.session r).retained S.packet other = (T.session r).retained T.packet other
  owned : ∀ r, own r = true → (S.session r).lastOfSide (side r) = some p ∧
    (S.packet p).destIp = dest ∧ ∃ t, (T.session r).retained T.packet (side r) = some (dest, t)
  begun : ∀ r, (S.session r).Begun
  fresh : ∀ r, (T.session r).RefersBelow T.nextPacket

variable {cfg : Config} {clock : Clock} {p q : Nat} {dest : InAddr} {side : Nat → Side}
  {own : Nat → Bool} {last : Nat → Option UInt32} {S T : Iax2Sessions} {info : Iax2PacketInfo}
  {infos : List Iax2PacketInfo} {r : Nat}

theorem session_setSession_self {st : Iax2Sessions} {s : Iax2Session} :
    (st.setSession r s).session r = s := Function.update_self ..

theorem session_setSession_of_ne {st : Iax2Sessions} {s : Iax2Session} {q : Nat} (hq : q ≠ r) :
    (st.setSession r s).session q = st.session q := Function.update_of_ne hq ..

theorem begun_setLast {s : Iax2Session} (begun : s.Begun) (hears : s.hears = true) :
    (s.setLast q).Begun := fun _ => begun (isSome_of_hears hears)

section

variable (lock : Lock p dest side own last S T)

include lock

theorem Lock.state (r : Nat) : (S.session r).iax2State = (T.session r).iax2State := by
  have hstate := congrArg Iax2Session.iax2State (lock.bare r)
  exact hstate

theorem Lock.numIax2Packets (r : Nat) :
    (S.session r).numIax2Packets = (T.session r).numIax2Packets := by
  have hnum := congrArg Iax2Session.numIax2Packets (lock.bare r)
  exact hnum

theorem Lock.hears (r : Nat) : (S.session r).hears = (T.session r).hears := by
  rw [Iax2Session.hears, Iax2Session.hears, lock.state, lock.lastSome]

theorem Lock.begunT (r : Nat) : (T.session r).Begun := by
  intro hsome
  obtain ⟨hstarted, hcount⟩ := lock.begun r ((lock.lastSome r).trans hsome)
  have hsame := congrArg Iax2Session.started (lock.bare r)
  exact ⟨hsame.symm.trans hstarted, lock.numIax2Packets r ▸ hcount⟩

theorem Lock.sameLookups : SameLookups S T := by
  refine ⟨lock.maps, fun r => ?_, lock.state⟩
  have hkeys := congrArg Iax2Session.keys (lock.bare r)
  exact hkeys

/-- What the left side keeps: the object itself, or what the right side keeps. -/
theorem Lock.lastS (r : Nat) :
    S.lastAt r dest = if own r then some (S.packet p).timestamp else last r := by
  have hside : (S.session r).sideTo S.packet dest = side r := lock.sideS r
  rw [lastAt, lastTimestamp, hside]
  split_ifs with hown
  · rw [retained_of_last _ (lock.owned r hown).1]
    rfl
  · have hsideT : (T.session r).sideTo T.packet dest = side r := lock.sideT r
    rw [(lock.same r (side r) (.inr (Bool.not_eq_true _ ▸ hown))).2, ← lock.lastT r, lastAt,
      lastTimestamp, hsideT]

/-! ### Writing the next frame -/

/-- The parser writes the object. -/
theorem Lock.writeS (hdest : info.destIp = dest) :
    Lock p dest side own last (S.setPacket p info) T := by
  have hretained : ∀ r other, (other ≠ side r ∨ own r = false) →
      (S.session r).retained (S.setPacket p info).packet other =
        (S.session r).retained S.packet other := by
    intro r other hother
    exact retained_update (lock.same r other hother).1
  refine { lock with sideS := ?_, same := ?_, owned := ?_ }
  · intro r
    by_cases hother : Side.side1 ≠ side r ∨ own r = false
    · exact (sideTo_congr dest (hretained r .side1 hother)).trans (lock.sideS r)
    · obtain ⟨hside, hown⟩ := not_or.mp hother
      have hside1 : side r = .side1 := (not_not.mp hside).symm
      have hslot := (lock.owned r (Bool.not_eq_false _ ▸ hown)).1
      rw [hside1] at hslot ⊢
      have hkept := retained_of_last ((S.setPacket p info).packet) hslot
      rw [packet_setPacket, hdest] at hkept
      exact sideTo_of_retained hkept
  · intro r other hother
    obtain ⟨hne, hsame⟩ := lock.same r other hother
    exact ⟨hne, (hretained r other hother).trans hsame⟩
  · intro r hown
    obtain ⟨hslot, -, hkept⟩ := lock.owned r hown
    refine ⟨hslot, ?_, hkept⟩
    rw [packet_setPacket, hdest]

variable (info) in
/-- The parser of mini frames makes a new object. -/
theorem Lock.writeT : Lock p dest side own last S (T.setPacket T.nextPacket info) := by
  have hretained : ∀ r other, (T.session r).retained (T.setPacket T.nextPacket info).packet other =
      (T.session r).retained T.packet other := by
    intro r other
    apply retained_update
    intro hlast
    exact absurd (lock.fresh r other _ hlast) (Nat.lt_irrefl _)
  have hside : ∀ r, (T.setPacket T.nextPacket info).sideAt r dest = T.sideAt r dest :=
    fun r => sideTo_congr dest (hretained r .side1)
  refine { lock with sideT := ?_, lastT := ?_, same := ?_, owned := ?_, fresh := ?_ }
  · intro r
    exact (hside r).trans (lock.sideT r)
  · intro r
    have hsideT : (T.session r).sideTo (T.setPacket T.nextPacket info).packet dest =
        (T.session r).sideTo T.packet dest := hside r
    rw [← lock.lastT r, lastAt, lastAt, lastTimestamp, lastTimestamp]
    change ((T.session r).retained _ ((T.session r).sideTo _ dest)).map Prod.snd = _
    rw [hsideT, hretained]
  · intro r other hother
    obtain ⟨hne, hsame⟩ := lock.same r other hother
    exact ⟨hne, hsame.trans (hretained r other).symm⟩
  · intro r hown
    obtain ⟨hslot, hdest, t, hkept⟩ := lock.owned r hown
    exact ⟨hslot, hdest, t, (hretained r _).trans hkept⟩
  · intro r other q hq
    exact (lock.fresh r other q hq).trans_le (Nat.le_max_left _ _)

/-! ### One session -/

/-- Both sessions change alike, and keep the frames of their sides. -/
theorem Lock.adjust {s t : Iax2Session} (hbare : s.bare = t.bare)
    (hsome : s.lastIax2Packet.isSome = t.lastIax2Packet.isSome)
    (hs : ∀ other, s.lastOfSide other = (S.session r).lastOfSide other)
    (ht : ∀ other, t.lastOfSide other = (T.session r).lastOfSide other) (begun : s.Begun) :
    Lock p dest side own last (S.setSession r s) (T.setSession r t) := by
  have hsS : ∀ q other, ((S.setSession r s).session q).lastOfSide other =
      (S.session q).lastOfSide other := by
    intro q other
    by_cases hq : q = r
    · subst hq
      rw [session_setSession_self, hs]
    · rw [session_setSession_of_ne hq]
  have htT : ∀ q other, ((T.setSession r t).session q).lastOfSide other =
      (T.session q).lastOfSide other := by
    intro q other
    by_cases hq : q = r
    · subst hq
      rw [session_setSession_self, ht]
    · rw [session_setSession_of_ne hq]
  have hsideT : ∀ q, (T.setSession r t).sideAt q dest = side q := by
    intro q
    exact (sideTo_congr dest (retained_congr (htT q .side1))).trans (lock.sideT q)
  constructor
  · exact lock.maps
  · exact lock.next
  · exact lock.alphaCounter
  · exact lock.output
  · intro q
    by_cases hq : q = r
    · subst hq
      rw [session_setSession_self, session_setSession_self, hbare]
    · rw [session_setSession_of_ne hq, session_setSession_of_ne hq, lock.bare]
  · intro q
    by_cases hq : q = r
    · subst hq
      rw [session_setSession_self, session_setSession_self, hsome]
    · rw [session_setSession_of_ne hq, session_setSession_of_ne hq, lock.lastSome]
  · intro q
    exact (sideTo_congr dest (retained_congr (hsS q .side1))).trans (lock.sideS q)
  · exact hsideT
  · intro q
    have hside : ((T.setSession r t).session q).sideTo T.packet dest = side q := hsideT q
    have hsideOld : (T.session q).sideTo T.packet dest = side q := lock.sideT q
    rw [← lock.lastT q, lastAt, lastAt, lastTimestamp, lastTimestamp, hsideOld]
    change (((T.setSession r t).session q).retained T.packet
      (((T.setSession r t).session q).sideTo T.packet dest)).map Prod.snd = _
    rw [hside, retained_congr (htT q _)]
  · intro q other hother
    obtain ⟨hne, hsame⟩ := lock.same q other hother
    rw [hsS]
    exact ⟨hne, (retained_congr (hsS q other)).trans
      (hsame.trans (retained_congr (htT q other)).symm)⟩
  · intro q hown
    obtain ⟨hslot, hdest, t', hkept⟩ := lock.owned q hown
    rw [hsS]
    exact ⟨hslot, hdest, t', (retained_congr (htT q _)).trans hkept⟩
  · intro q
    by_cases hq : q = r
    · subst hq
      rw [session_setSession_self]
      exact begun
    · rw [session_setSession_of_ne hq]
      exact lock.begun q
  · intro q other x hx
    rw [htT] at hx
    exact lock.fresh q other x hx

/-- A frame that the left side dismisses. -/
theorem Lock.dismissS (hears : (S.session r).hears = true) :
    Lock p dest side own last (S.dismissed r q) T := by
  have hadjusted := lock.adjust (r := r) (s := (S.session r).setLast q) (t := T.session r)
    (lock.bare r) ((isSome_of_hears hears).symm.trans (lock.lastSome r))
    (fun | .side1 => rfl | .side2 => rfl) (fun _ => rfl) (begun_setLast (lock.begun r) hears)
  rwa [setSession_self] at hadjusted

theorem Lock.dismissT (hears : (S.session r).hears = true) :
    Lock p dest side own last S (T.dismissed r q) := by
  have hadjusted := lock.adjust (r := r) (s := S.session r) (t := (T.session r).setLast q)
    (lock.bare r) (isSome_of_hears hears) (fun _ => rfl) (fun | .side1 => rfl | .side2 => rfl)
    (lock.begun r)
  rwa [setSession_self] at hadjusted

theorem Lock.stop (r : Nat) : Lock p dest side own last (S.stop r) (T.stop r) := by
  obtain ⟨hbareS, houtS⟩ := bare_stop (s := S.session r)
  obtain ⟨hbareT, houtT⟩ := bare_stop (s := T.session r)
  have hbegun : (S.session r).stop.1.Begun := by
    simpa [Begun] using lock.begun r
  have hadjusted := lock.adjust (r := r) (s := (S.session r).stop.1) (t := (T.session r).stop.1)
    (by rw [hbareS, hbareT, lock.bare]) (by simp [lock.lastSome]) lastOfSide_stop lastOfSide_stop
    hbegun
  have hout : S.output ++ (S.session r).stop.2 = T.output ++ (T.session r).stop.2 := by
    rw [lock.output, houtS, houtT, lock.bare]
  exact { hadjusted with maps := (lock.sameLookups.stop r).maps, output := hout }

end

/-- The frames that the sides keep after one has been taken. -/
theorem lastOfSide_taken (cfg : Config) (st : Iax2Sessions) (p : Nat) (info : Iax2PacketInfo)
    (r x : Nat) (other : Side) :
    ((st.taken cfg r p info).session x).lastOfSide other =
      if x = r ∧ other = st.sideAt r info.destIp then some p
      else (st.session x).lastOfSide other := by
  by_cases hx : x = r
  · subst hx
    have hsession : (st.taken cfg x p info).session x =
        ((st.session x).refer p (st.sideAt x info.destIp)).count (st.sideAt x info.destIp) info :=
      Function.update_self ..
    rw [hsession, lastOfSide_count]
    by_cases hother : other = st.sideAt x info.destIp
    · rw [if_pos ⟨rfl, hother⟩, hother, lastOfSide_refer_self]
    · rw [if_neg (fun h => hother h.2), lastOfSide_refer_of_ne hother]
  · have hsession : (st.taken cfg r p info).session x = st.session x := Function.update_of_ne hx ..
    rw [hsession, if_neg (fun h => hx h.1)]

/-- What the sides keep: the taken frame, or what they kept before. -/
theorem retained_taken_of_last {st : Iax2Sessions} {x : Nat} {other : Side}
    (hlast : ((st.taken cfg r p info).session x).lastOfSide other = some p) :
    ((st.taken cfg r p info).session x).retained (st.taken cfg r p info).packet other =
      some (info.destIp, retainedTimestamp cfg.iax2RewriteTimestamps (st.sideAt r info.destIp)
        (st.lastAt r info.destIp) info.timestamp) := by
  have hpacket : (st.taken cfg r p info).packet p = { info with
      timestamp := retainedTimestamp cfg.iax2RewriteTimestamps (st.sideAt r info.destIp)
        (st.lastAt r info.destIp) info.timestamp } := Function.update_self ..
  rw [retained_of_last _ hlast, hpacket]

theorem retained_taken_of_ne {st : Iax2Sessions} {x : Nat} {other : Side}
    (hlast : ((st.taken cfg r p info).session x).lastOfSide other ≠ some p) :
    ((st.taken cfg r p info).session x).retained (st.taken cfg r p info).packet other =
      (st.session x).retained st.packet other := by
  have hsame : ((st.taken cfg r p info).session x).lastOfSide other =
      (st.session x).lastOfSide other := by
    rw [lastOfSide_taken _ _ _ _ _] at hlast ⊢
    split_ifs at hlast ⊢
    · exact absurd rfl hlast
    · rfl
  have hupdate : ((st.taken cfg r p info).session x).retained (st.taken cfg r p info).packet other =
      ((st.taken cfg r p info).session x).retained st.packet other := retained_update hlast
  rw [hupdate, retained_congr hsame]

section

variable (lock : Lock p dest side own last S T)

include lock

variable (cfg) in
/-- A frame that both sides take. -/
theorem Lock.take (hears : (S.session r).hears = true) (hq : q < T.nextPacket)
    (hunused : ∀ x other, (T.session x).lastOfSide other ≠ some q) (hdest : info.destIp = dest) :
    Lock p dest side (Function.update own r true)
      (Function.update last r
        (some (retainedTimestamp cfg.iax2RewriteTimestamps (side r) (last r) info.timestamp)))
      (S.taken cfg r p info) (T.taken cfg r q info) := by
  subst hdest
  have hslotS (x : Nat) (other : Side) := lastOfSide_taken cfg S p info r x other
  have hslotT (x : Nat) (other : Side) := lastOfSide_taken cfg T q info r x other
  simp only [lock.sideS] at hslotS
  simp only [lock.sideT] at hslotT
  have hsessionS : (S.taken cfg r p info).session r =
      ((S.session r).refer p (side r)).count (side r) info := by
    rw [← lock.sideS r]
    exact Function.update_self ..
  have hsessionT : (T.taken cfg r q info).session r =
      ((T.session r).refer q (side r)).count (side r) info := by
    rw [← lock.sideT r]
    exact Function.update_self ..
  have hotherS {x : Nat} (hx : x ≠ r) : (S.taken cfg r p info).session x = S.session x :=
    Function.update_of_ne hx ..
  have hotherT {x : Nat} (hx : x ≠ r) : (T.taken cfg r q info).session x = T.session x :=
    Function.update_of_ne hx ..
  -- a side keeps the frame on the right just when it has taken this one
  have hneT (x : Nat) (other : Side) (hne : ¬ (x = r ∧ other = side r)) :
      ((T.taken cfg r q info).session x).lastOfSide other ≠ some q := by
    rw [hslotT, if_neg hne]
    exact hunused x other
  have hkeptT : ((T.taken cfg r q info).session r).retained (T.taken cfg r q info).packet (side r) =
      some (info.destIp, retainedTimestamp cfg.iax2RewriteTimestamps (side r) (last r)
        info.timestamp) := by
    have hlast : ((T.taken cfg r q info).session r).lastOfSide (side r) = some q := by
      rw [hslotT, if_pos ⟨rfl, rfl⟩]
    rw [retained_taken_of_last hlast, lock.sideT, lock.lastT]
  have hbare : ∀ x, ((S.taken cfg r p info).session x).bare =
      ((T.taken cfg r q info).session x).bare := by
    intro x
    by_cases hx : x = r
    · subst hx
      rw [hsessionS, hsessionT, bare_count, bare_count, bare_refer, bare_refer, lock.bare]
    · rw [hotherS hx, hotherT hx, lock.bare]
  have hsideT : ∀ x, (T.taken cfg r q info).sideAt x info.destIp = side x := by
    intro x
    by_cases hnow : x = r ∧ Side.side1 = side r
    · obtain ⟨rfl, hside⟩ := hnow
      rw [← hside] at hkeptT ⊢
      exact sideTo_of_retained hkeptT
    · exact (sideTo_congr _ (retained_taken_of_ne (hneT x .side1 hnow))).trans (lock.sideT x)
  constructor
  · exact lock.maps
  · exact lock.next
  · exact lock.alphaCounter
  · have hchunk : ((S.taken cfg r p info).session r).chunk (side r) info =
        ((T.taken cfg r q info).session r).chunk (side r) info := by
      rw [← chunk_bare, hbare, chunk_bare]
    rw [hsessionS, hsessionT] at hchunk
    simp only [taken, lock.sideS, lock.sideT, lock.output, hchunk]
  · exact hbare
  · intro x
    by_cases hx : x = r
    · subst hx
      rw [hsessionS, hsessionT, lastIax2Packet_count, lastIax2Packet_count]
      rfl
    · rw [hotherS hx, hotherT hx, lock.lastSome]
  · intro x
    by_cases hlast : ((S.taken cfg r p info).session x).lastOfSide .side1 = some p
    · have hside : side x = .side1 := by
        rw [hslotS] at hlast
        split_ifs at hlast with hnow
        · rw [hnow.1, hnow.2]
        · by_contra hne
          exact (lock.same x .side1 (.inl (Ne.symm hne))).1 hlast
      rw [hside]
      exact sideTo_of_retained (retained_taken_of_last hlast)
    · exact (sideTo_congr _ (retained_taken_of_ne hlast)).trans (lock.sideS x)
  · exact hsideT
  · intro x
    have hside : ((T.taken cfg r q info).session x).sideTo (T.taken cfg r q info).packet
        info.destIp = side x := hsideT x
    rw [lastAt, lastTimestamp, hside]
    by_cases hx : x = r
    · subst hx
      rw [hkeptT, Function.update_self]
      rfl
    · have hnot : ¬ (x = r ∧ side x = side r) := fun h => hx h.1
      have hold : (T.session x).sideTo T.packet info.destIp = side x := lock.sideT x
      rw [retained_taken_of_ne (hneT x _ hnot), Function.update_of_ne hx, ← lock.lastT x, lastAt,
        lastTimestamp, hold]
  · intro x other hother
    have hnot : ¬ (x = r ∧ other = side r) := by
      rintro ⟨rfl, rfl⟩
      simp at hother
    have hold : other ≠ side x ∨ own x = false := by
      apply hother.imp_right
      intro hown
      by_cases hx : x = r
      · subst hx
        simp at hown
      · rwa [Function.update_of_ne hx] at hown
    obtain ⟨hne, hsame⟩ := lock.same x other hold
    have hneS : ((S.taken cfg r p info).session x).lastOfSide other ≠ some p := by
      rw [hslotS, if_neg hnot]
      exact hne
    refine ⟨hneS, ?_⟩
    rw [retained_taken_of_ne hneS, retained_taken_of_ne (hneT x other hnot), hsame]
  · intro x hown
    have hdestS : ((S.taken cfg r p info).packet p).destIp = info.destIp := by
      simp [taken]
    by_cases hx : x = r
    · subst hx
      exact ⟨by rw [hslotS, if_pos ⟨rfl, rfl⟩], hdestS, _, hkeptT⟩
    · rw [Function.update_of_ne hx] at hown
      obtain ⟨hslot, -, t, hkept⟩ := lock.owned x hown
      have hnot : ¬ (x = r ∧ side x = side r) := fun h => hx h.1
      refine ⟨?_, hdestS, t, ?_⟩
      · rw [hslotS, if_neg hnot, hslot]
      · rw [retained_taken_of_ne (hneT x _ hnot), hkept]
  · intro x
    by_cases hx : x = r
    · subst hx
      intro _
      rw [hsessionS, started_count, started_refer, numIax2Packets_count]
      exact ⟨(lock.begun x (isSome_of_hears hears)).1, Nat.succ_pos _⟩
    · rw [hotherS hx]
      exact lock.begun x
  · intro x other y hy
    rw [hslotT] at hy
    split_ifs at hy
    · cases hy
      exact hq
    · exact lock.fresh x other y hy

end

end Iax2Sessions

end OrkAudio.Iax2
