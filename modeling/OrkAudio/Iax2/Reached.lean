import OrkAudio.Iax2.Heard
import OrkAudio.Iax2.Sessions

/-! What holds of every session that a run of the operations reaches: it has counted a frame
before it keeps a reference to one, it starts with the first frame, and the frames it refers
to have been created. -/

namespace OrkAudio.Iax2

open Lib VoIp

namespace Iax2Session

/-- A session has no frame before it has counted one, and starts with the first. -/
structure Sound (s : Iax2Session) : Prop where
  last : s.numIax2Packets = 0 → s.lastIax2Packet = none
  side : s.numIax2Packets = 0 → ∀ side, s.lastOfSide side = none
  started : 0 < s.numIax2Packets → s.started = true

theorem Sound.begun {s : Iax2Session} (sound : s.Sound) : s.Begun := by
  intro hsome
  have hcount : 0 < s.numIax2Packets := by
    apply Nat.pos_of_ne_zero
    intro hzero
    rw [sound.last hzero] at hsome
    cases hsome
  exact ⟨sound.started hcount, hcount⟩

variable {cfg : Config} {clock : Clock} {s : Iax2Session}

variable (clock) in
theorem started_takeFrame (side : Side) (info : Iax2PacketInfo)
    (hstarted : 0 < s.numIax2Packets → s.started = true) :
    (s.takeFrame clock side info).1.started = true ∧
      0 < (s.takeFrame clock side info).1.numIax2Packets := by
  have hstart : (s.countFrame.startOnFirst clock).1.started = true ∧
      (s.countFrame.startOnFirst clock).1.numIax2Packets = s.numIax2Packets + 1 := by
    unfold startOnFirst
    split_ifs with hfirst
    · exact ⟨rfl, rfl⟩
    · refine ⟨hstarted ?_, rfl⟩
      have hsucc : s.countFrame.numIax2Packets = s.numIax2Packets + 1 := rfl
      omega
  have hchannel (t : Iax2Session) : (t.countChannel side).started = t.started ∧
      (t.countChannel side).numIax2Packets = t.numIax2Packets := by
    cases side <;> exact ⟨rfl, rfl⟩
  have hcount : 0 < (s.countFrame.startOnFirst clock).1.numIax2Packets := by
    rw [hstart.2]
    exact Nat.succ_pos _
  simp only [takeFrame, hchannel, hstart.1, if_true]
  exact ⟨(hchannel _).1.trans hstart.1, (hchannel _).2.symm ▸ hcount⟩

theorem Sound.takeFrame {side : Side} {info : Iax2PacketInfo}
    (hstarted : 0 < s.numIax2Packets → s.started = true) :
    (s.takeFrame clock side info).1.Sound := by
  obtain ⟨hstart, hcount⟩ := started_takeFrame clock side info hstarted
  constructor
  · intro hzero
    omega
  · intro hzero
    omega
  · intro _
    exact hstart

variable (cfg) in
theorem noteFrame_counts (info : Iax2PacketInfo) :
    (s.noteFrame cfg info).numIax2Packets = s.numIax2Packets ∧
      (s.noteFrame cfg info).started = s.started ∧
      ∀ side, (s.noteFrame cfg info).lastOfSide side = s.lastOfSide side := by
  have hmetadata : (s.processMetadataIax2 cfg info).numIax2Packets = s.numIax2Packets ∧
      (s.processMetadataIax2 cfg info).started = s.started ∧
      ∀ side, (s.processMetadataIax2 cfg info).lastOfSide side = s.lastOfSide side := by
    simp only [processMetadataIax2]
    split_ifs <;> exact ⟨rfl, rfl, fun side => by cases side <;> rfl⟩
  obtain ⟨hnum, hstarted, hside⟩ := hmetadata
  unfold noteFrame
  split_ifs
  · exact ⟨hnum, hstarted, fun | .side1 => hside .side1 | .side2 => hside .side2⟩
  · exact ⟨hnum, hstarted, fun | .side1 => hside .side1 | .side2 => hside .side2⟩
  · exact ⟨rfl, rfl, fun | .side1 => rfl | .side2 => rfl⟩
  · exact ⟨rfl, rfl, fun _ => rfl⟩

/-- `frames` bounds the frames that the session refers to. -/
def RefersBelow (s : Iax2Session) (frames : Nat) : Prop :=
  ∀ side p, s.lastOfSide side = some p → p < frames

theorem lastOfSide_takeFrame (side other : Side) (info : Iax2PacketInfo) :
    (s.takeFrame clock side info).1.lastOfSide other = s.lastOfSide other := by
  have hstart : (s.countFrame.startOnFirst clock).1.lastOfSide other = s.lastOfSide other := by
    unfold startOnFirst
    split_ifs
    · cases other <;> rfl
    · cases other <;> rfl
  have hchannel (t : Iax2Session) : (t.countChannel side).lastOfSide other = t.lastOfSide other := by
    cases side <;> cases other <;> rfl
  simp only [takeFrame]
  split_ifs
  · refine Eq.trans ?_ ((hchannel _).trans hstart)
    cases other <;> rfl
  · exact (hchannel _).trans hstart

theorem RefersBelow.setLastOfSide {frames p : Nat} {side : Side} (below : s.RefersBelow frames)
    (hp : p < frames) : (s.setLastOfSide p side).RefersBelow frames := by
  intro other q hq
  cases side <;> cases other
  · cases hq
    exact hp
  · exact below .side2 q hq
  · exact below .side1 q hq
  · cases hq
    exact hp

theorem RefersBelow.takeFrame {frames : Nat} {side : Side} {info : Iax2PacketInfo}
    (below : s.RefersBelow frames) : (s.takeFrame clock side info).1.RefersBelow frames := by
  intro other q hq
  rw [lastOfSide_takeFrame] at hq
  exact below other q hq

variable (cfg clock) in
/-- A frame keeps both. -/
theorem sound_addIax2Packet (packet : Nat → Iax2PacketInfo) {p frames : Nat}
    (sound : s.Sound) (below : s.RefersBelow frames) (hp : p < frames) :
    (s.addIax2Packet cfg clock packet p).session.Sound ∧
      (s.addIax2Packet cfg clock packet p).session.RefersBelow frames := by
  obtain ⟨hnum, hstarted, hside⟩ := noteFrame_counts cfg (s := s) (packet p)
  have hbelow : ((s.noteFrame cfg (packet p)).setLast p).RefersBelow frames := by
    intro side q hq
    apply below side q
    rw [← hside side, ← hq]
    cases side <;> rfl
  rcases s.session_addIax2Packet cfg clock packet p with
    hsame | ⟨side, last, hlast, hsession⟩ | ⟨side, info, hsession⟩
  · rw [hsame]
    exact ⟨sound, below⟩
  -- the side has a frame, so that one was counted
  · rw [hsession]
    refine ⟨?_, hbelow⟩
    have hcount : 0 < s.numIax2Packets := by
      apply Nat.pos_of_ne_zero
      intro hzero
      rw [hside, sound.side hzero side] at hlast
      cases hlast
    have hcountNote : ((s.noteFrame cfg (packet p)).setLast p).numIax2Packets ≠ 0 := by
      intro hzero
      exact hcount.ne' (hnum.symm.trans hzero)
    exact ⟨fun hzero => absurd hzero hcountNote, fun hzero => absurd hzero hcountNote,
      fun _ => hstarted.trans (sound.started hcount)⟩
  · rw [hsession]
    refine ⟨Sound.takeFrame ?_, (hbelow.setLastOfSide hp).takeFrame⟩
    intro hcount
    cases side
    · exact hstarted.trans (sound.started (hnum ▸ hcount))
    · exact hstarted.trans (sound.started (hnum ▸ hcount))

theorem sound_stop (sound : s.Sound) {frames : Nat} (below : s.RefersBelow frames) :
    s.stop.1.Sound ∧ s.stop.1.RefersBelow frames := by
  refine ⟨⟨?_, ?_, ?_⟩, ?_⟩
  · simpa using sound.last
  · simpa using sound.side
  · simpa using sound.started
  · simpa [RefersBelow] using below

/-- A session that has no frame refers to none. -/
theorem sound_of_none (hnum : s.numIax2Packets = 0) (hlast : s.lastIax2Packet = none)
    (hside : ∀ side, s.lastOfSide side = none) (frames : Nat) : s.Sound ∧ s.RefersBelow frames := by
  refine ⟨⟨fun _ => hlast, fun _ => hside, fun hcount => ?_⟩, fun side p hp => ?_⟩
  · exact absurd hnum hcount.ne'
  · rw [hside side] at hp
    cases hp

theorem sound_reportIax2New {created : Iax2Session} {invite : Iax2NewInfo}
    (hnum : s.numIax2Packets = 0) (hlast : s.lastIax2Packet = none)
    (hside : ∀ side, s.lastOfSide side = none)
    (hcreated : s.reportIax2New cfg invite = some created) (frames : Nat) :
    created.Sound ∧ created.RefersBelow frames := by
  have hsame : created.numIax2Packets = s.numIax2Packets ∧
      created.lastIax2Packet = s.lastIax2Packet ∧
      ∀ side, created.lastOfSide side = s.lastOfSide side := by
    simp only [reportIax2New] at hcreated
    split at hcreated
    · cases hcreated
      split_ifs <;> exact ⟨rfl, rfl, fun | .side1 => rfl | .side2 => rfl⟩
    · obtain ⟨callno, -, rfl⟩ := Option.map_eq_some_iff.mp hcreated
      split_ifs <;> exact ⟨rfl, rfl, fun | .side1 => rfl | .side2 => rfl⟩
  apply sound_of_none
  · rw [hsame.1, hnum]
  · rw [hsame.2.1, hlast]
  · intro side
    rw [hsame.2.2, hside]

end Iax2Session

namespace Iax2Sessions

structure Reached (st : Iax2Sessions) : Prop where
  sound : ∀ r, (st.session r).Sound
  below : ∀ r, (st.session r).RefersBelow st.nextPacket

variable {cfg : Config} {clock : Clock} {st : Iax2Sessions}

theorem reached_empty (alphaCounter : Nat) : (empty alphaCounter).Reached := by
  have hnone (r : Nat) := Iax2Session.sound_of_none
    (s := (empty alphaCounter).session r) rfl rfl (fun | .side1 => rfl | .side2 => rfl) 0
  exact ⟨fun r => (hnone r).1, fun r => (hnone r).2⟩

theorem Reached.setSession (reached : st.Reached) {r : Nat} {s : Iax2Session}
    (sound : s.Sound ∧ s.RefersBelow st.nextPacket) : (st.setSession r s).Reached := by
  constructor
  · intro q
    by_cases hq : q = r
    · subst hq
      simpa [Iax2Sessions.setSession] using sound.1
    · simpa [Iax2Sessions.setSession, Function.update_of_ne hq] using reached.sound q
  · intro q
    by_cases hq : q = r
    · subst hq
      simpa [Iax2Sessions.setSession] using sound.2
    · simpa [Iax2Sessions.setSession, Function.update_of_ne hq] using reached.below q

theorem Reached.stop (reached : st.Reached) (r : Nat) : (st.stop r).Reached := by
  have hset := reached.setSession (r := r)
    (Iax2Session.sound_stop (reached.sound r) (reached.below r))
  exact ⟨hset.sound, hset.below⟩

theorem Reached.stopFound (reached : st.Reached) (found : Option Nat) :
    (st.stopFound found).Reached := by
  cases found with
  | none => exact reached
  | some r => exact reached.stop r

theorem Reached.stopAllOf (reached : st.Reached) (refs : List Nat) :
    (st.stopAllOf refs).Reached := by
  induction refs generalizing st with
  | nil => exact reached
  | cons r refs ih => exact ih (reached.stop r)

/-- A change of a session that leaves its frames alone. -/
theorem Reached.adjust (reached : st.Reached) {r : Nat} {s : Iax2Session}
    (hnum : s.numIax2Packets = (st.session r).numIax2Packets)
    (hlast : s.lastIax2Packet = (st.session r).lastIax2Packet)
    (hside : ∀ side, s.lastOfSide side = (st.session r).lastOfSide side)
    (hstarted : s.started = (st.session r).started) : (st.setSession r s).Reached := by
  apply reached.setSession
  refine ⟨⟨?_, ?_, ?_⟩, ?_⟩
  · rw [hnum, hlast]
    exact (reached.sound r).last
  · simp only [hnum, hside]
    exact (reached.sound r).side
  · rw [hnum, hstarted]
    exact (reached.sound r).started
  · simp only [Iax2Session.RefersBelow, hside]
    exact reached.below r

theorem Reached.setState (reached : st.Reached) (r : Nat) (iax2State : Iax2State) :
    (st.setState r iax2State).Reached :=
  reached.adjust rfl rfl (fun | .side1 => rfl | .side2 => rfl) rfl

theorem Reached.setInviteeScallno (reached : st.Reached) (r : Nat) (callno : UInt16) :
    (st.setInviteeScallno r callno).Reached :=
  reached.adjust rfl rfl (fun | .side1 => rfl | .side2 => rfl) rfl

theorem Reached.setDest (reached : st.Reached) (r : Nat) (key : String) :
    (st.setDest r key).Reached := by
  have hset : (st.setSession r { st.session r with destIpAndCallNo := key }).Reached :=
    reached.adjust rfl rfl (fun | .side1 => rfl | .side2 => rfl) rfl
  exact ⟨hset.sound, hset.below⟩

theorem Reached.setPacket (reached : st.Reached) (p : Nat) (info : Iax2PacketInfo) :
    (st.setPacket p info).Reached := by
  refine ⟨reached.sound, ?_⟩
  intro r side q hq
  exact (reached.below r side q hq).trans_le (Nat.le_max_left _ _)

theorem Reached.addToSession (reached : st.Reached) (r : Nat) {p : Nat} (hp : p < st.nextPacket) :
    (st.addToSession cfg clock r p).2.Reached := by
  have hadded := Iax2Session.sound_addIax2Packet cfg clock st.packet (reached.sound r)
    (reached.below r) hp
  have hset : (st.settle r ((st.session r).addIax2Packet cfg clock st.packet p)).Reached :=
    ⟨(reached.setSession hadded).sound, (reached.setSession hadded).below⟩
  simp only [Iax2Sessions.addToSession]
  split_ifs
  · exact hset
  · exact hset.stop r

theorem Reached.reportPacket (reached : st.Reached) (p : Nat) (info : Iax2PacketInfo) :
    (st.reportPacket cfg clock p info).2.Reached := by
  have hset := reached.setPacket p info
  simp only [Iax2Sessions.reportPacket, reportIax2Packet]
  split
  · exact hset
  · exact hset.addToSession _ (Nat.lt_of_succ_le (Nat.le_max_right _ _))

theorem Reached.reportIax2New (reached : st.Reached) (invite : Iax2NewInfo) :
    (st.reportIax2New cfg clock invite).Reached := by
  unfold Iax2Sessions.reportIax2New
  split
  · exact reached
  · rename_i room hroom
    have hreached : room.Reached := by
      unfold makeRoom at hroom
      split at hroom
      · cases hroom
        exact reached
      · split_ifs at hroom
        cases hroom
        exact reached.stop _
    dsimp only
    split
    · exact ⟨hreached.sound, hreached.below⟩
    · rename_i s hs
      have hcreated := Iax2Session.sound_reportIax2New rfl rfl
        (by intro side; cases side <;> rfl) hs room.nextPacket
      exact ⟨(hreached.setSession hcreated).sound, (hreached.setSession hcreated).below⟩

theorem Reached.apply (reached : st.Reached) (operation : Operation) :
    (st.apply cfg clock operation).Reached := by
  cases operation with
  | reportIax2New invite => exact reached.reportIax2New invite
  | reportIax2Authreq authreq =>
      simp only [Iax2Sessions.apply, reportIax2Authreq]
      split
      · exact reached
      · split
        · exact reached.setDest _ _
        · exact ((reached.setDest _ _).setInviteeScallno _ _).setState _ _
  | reportIax2Accept acceptinfo =>
      simp only [Iax2Sessions.apply, reportIax2Accept]
      split
      · exact reached
      · split
        · exact reached.setState _ _
        · split
          · exact (reached.setDest _ _).setState _ _
          · exact ((reached.setDest _ _).setState _ _).setInviteeScallno _ _
  | reportIax2Hangup bye =>
      exact (((reached.stopFound _).stopFound _).stopFound _).stopFound _
  | reportIax2Packet p info => exact reached.reportPacket p info
  | hoover now => exact (reached.stopAllOf _).stopAllOf _

theorem reached_of_run {alphaCounter : Nat} {labels : List (Clock × Operation)}
    (run : Steps (Step cfg) (empty alphaCounter) labels st) : st.Reached :=
  run.invariant (fun _ label _ reached taken => taken ▸ reached.apply label.2)
    (reached_empty alphaCounter)

end Iax2Sessions

end OrkAudio.Iax2
