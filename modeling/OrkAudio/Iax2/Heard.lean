import OrkAudio.Iax2.TrunkSide

/-! What a mini frame does to one session.

A session that is waiting refuses it, one without a first full frame drops it. Any other one
hears it: the frame is dismissed, or counted and handed out. Apart from its references to
frames the session then depends on the side, the payload and the time alone. -/

namespace OrkAudio.Iax2

open Lib VoIp

namespace Iax2Session

/-- The session without its references to frames. -/
def bare (s : Iax2Session) : Iax2Session :=
  { s with
    lastIax2Packet := none
    lastIax2PacketSide1 := none
    lastIax2PacketSide2 := none }

/-- A mini frame may be handed out. -/
def hears (s : Iax2Session) : Bool := decide (s.iax2State ≠ .waiting) && s.lastIax2Packet.isSome

theorem state_of_hears {s : Iax2Session} (hears : s.hears = true) : s.iax2State ≠ .waiting := by
  simp only [Iax2Session.hears, Bool.and_eq_true, decide_eq_true_eq] at hears
  exact hears.1

theorem isSome_of_hears {s : Iax2Session} (hears : s.hears = true) :
    s.lastIax2Packet.isSome = true := by
  simp only [Iax2Session.hears, Bool.and_eq_true] at hears
  exact hears.2

/-- What is read of the last frame of a side: its destination and its timestamp. -/
def retained (packet : Nat → Iax2PacketInfo) (s : Iax2Session) (side : Side) :
    Option (InAddr × UInt32) :=
  (s.lastOfSide side).map fun p => ((packet p).destIp, (packet p).timestamp)

/-- The side of the frames to an address. -/
def sideTo (packet : Nat → Iax2PacketInfo) (s : Iax2Session) (destIp : InAddr) : Side :=
  match s.retained packet .side1 with
  | none => .side1
  | some last => if destIp = last.1 then .side1 else .side2

/-- The timestamp that the side of an address keeps. -/
def lastTimestamp (packet : Nat → Iax2PacketInfo) (s : Iax2Session) (destIp : InAddr) :
    Option UInt32 :=
  (s.retained packet (s.sideTo packet destIp)).map Prod.snd

/-- A session that has a frame has started and counted one. -/
def Begun (s : Iax2Session) : Prop :=
  s.lastIax2Packet.isSome = true → s.started = true ∧ 0 < s.numIax2Packets

variable {cfg : Config} {clock : Clock} {s : Iax2Session} {packet : Nat → Iax2PacketInfo} {p : Nat}

theorem sideOf_eq_sideTo (info : Iax2PacketInfo) : s.sideOf packet info = s.sideTo packet info.destIp := by
  simp only [sideOf, sideTo, retained, lastOfSide]
  cases s.lastIax2PacketSide1 <;> rfl

theorem addIax2Packet_of_waiting (hwaiting : s.iax2State = .waiting) :
    s.addIax2Packet cfg clock packet p = ⟨false, s, packet, []⟩ := by
  simp only [addIax2Packet, hwaiting, if_true]

theorem addIax2Packet_of_not_hears (hstate : s.iax2State ≠ .waiting) (hears : s.hears = false)
    (hmini : (packet p).frameType = .mini) :
    s.addIax2Packet cfg clock packet p = ⟨true, s, packet, []⟩ := by
  have hnone : s.lastIax2Packet = none := by simpa [Iax2Session.hears, hstate] using hears
  simp [addIax2Packet, hstate, hnone, hmini]

/-! ### A frame that is heard -/

/-- Keep a reference to a frame as the last one, and as the last one of its side. -/
def refer (s : Iax2Session) (p : Nat) (side : Side) : Iax2Session :=
  (s.setLast p).setLastOfSide p side

/-- Count a frame of a session that has started. -/
def count (s : Iax2Session) (side : Side) (info : Iax2PacketInfo) : Iax2Session :=
  (s.countFrame.countChannel side).setLastUpdated info.arrivalTimestamp

theorem chunk_setLastUpdated (time : Int) (side : Side) (info : Iax2PacketInfo) :
    (s.setLastUpdated time).chunk side info = s.chunk side info := by
  cases side <;> rfl

theorem takeFrame_of_begun {side : Side} {info : Iax2PacketInfo} (hstarted : s.started = true)
    (hcount : 0 < s.numIax2Packets) :
    s.takeFrame clock side info = (s.count side info, [(s.count side info).chunk side info]) := by
  have hfirst : s.countFrame.numIax2Packets ≠ 1 := by
    have hsucc : s.countFrame.numIax2Packets = s.numIax2Packets + 1 := rfl
    omega
  have hchannel : (s.countFrame.countChannel side).started = true := by
    cases side <;> exact hstarted
  simp only [takeFrame, startOnFirst, if_neg hfirst, hchannel, if_true, List.nil_append, count,
    chunk_setLastUpdated]

variable (cfg clock packet p) in
/-- What a session that hears a frame makes of it. -/
theorem addIax2Packet_of_hears (begun : s.Begun) (hears : s.hears = true)
    (hmini : (packet p).frameType = .mini) :
    s.addIax2Packet cfg clock packet p =
      let side := s.sideTo packet (packet p).destIp
      let last := s.lastTimestamp packet (packet p).destIp
      if takes cfg.iax2RewriteTimestamps last (packet p).timestamp then
        let counted := (s.refer p side).count side (packet p)
        ⟨true, counted,
          Function.update packet p { packet p with
            timestamp :=
              retainedTimestamp cfg.iax2RewriteTimestamps side last (packet p).timestamp },
          [counted.chunk side (packet p)]⟩
      else ⟨true, s.setLast p, packet, []⟩ := by
  obtain ⟨hstate, hsome⟩ : s.iax2State ≠ .waiting ∧ s.lastIax2Packet.isSome = true := by
    simpa [Iax2Session.hears] using hears
  obtain ⟨hstarted, hcount⟩ := begun hsome
  have hlast : s.lastIax2Packet ≠ none := Option.isSome_iff_ne_none.mp hsome
  have hnote : s.noteFrame cfg (packet p) = s := by
    simp [noteFrame, hlast, hmini]
  have hside : (s.setLast p).sideOf packet (packet p) = s.sideTo packet (packet p).destIp :=
    sideOf_eq_sideTo (packet p)
  have hlastTimestamp : s.lastTimestamp packet (packet p).destIp =
      (s.retained packet (s.sideTo packet (packet p).destIp)).map Prod.snd := rfl
  simp only [addIax2Packet, hstate, hlast, hnote, hside, hlastTimestamp, if_false, false_and]
  generalize s.sideTo packet (packet p).destIp = side
  have htaken (info : Iax2PacketInfo) : (s.refer p side).takeFrame clock side info =
      ((s.refer p side).count side info, [((s.refer p side).count side info).chunk side info]) := by
    apply takeFrame_of_begun
    · cases side <;> exact hstarted
    · cases side <;> exact hcount
  have hreferred : (s.setLast p).setLastOfSide p side = s.refer p side := rfl
  have hslot : (s.setLast p).lastOfSide side = s.lastOfSide side := by
    cases side <;> rfl
  simp only [hreferred, htaken, retained, hslot]
  rcases Option.eq_none_or_eq_some (s.lastOfSide side) with hnone | ⟨last, hkept⟩
  · simp [hnone, takes, retainedTimestamp, Function.update_eq_self]
  · simp only [hkept, Option.map_some, takes, retainedTimestamp]
    cases hrewrite : cfg.iax2RewriteTimestamps with
    | true => rfl
    | false =>
        by_cases hsame : (packet p).timestamp = (packet last).timestamp
        · simp [hsame]
        · simp [hsame, Ne.symm hsame, Function.update_eq_self]

/-! ### The references and the rest -/

@[simp] theorem bare_count (side : Side) (info : Iax2PacketInfo) :
    (s.count side info).bare = s.bare.count side info := by
  cases side <;> rfl

@[simp] theorem bare_refer (side : Side) : (s.refer p side).bare = s.bare := by
  cases side <;> rfl

@[simp] theorem chunk_bare (side : Side) (info : Iax2PacketInfo) :
    s.bare.chunk side info = s.chunk side info := rfl

theorem lastOfSide_count (side other : Side) (info : Iax2PacketInfo) :
    (s.count side info).lastOfSide other = s.lastOfSide other := by
  cases side <;> rfl

theorem lastOfSide_refer_self (side : Side) : (s.refer p side).lastOfSide side = some p := by
  cases side <;> rfl

theorem lastOfSide_refer_of_ne {side other : Side} (hne : other ≠ side) :
    (s.refer p side).lastOfSide other = s.lastOfSide other := by
  cases side <;> cases other <;> first | rfl | exact absurd rfl hne

@[simp] theorem lastIax2Packet_count (side : Side) (info : Iax2PacketInfo) :
    ((s.refer p side).count side info).lastIax2Packet = some p := by
  cases side <;> rfl

@[simp] theorem iax2State_count (side : Side) (info : Iax2PacketInfo) :
    (s.count side info).iax2State = s.iax2State := by
  cases side <;> rfl

@[simp] theorem iax2State_refer (side : Side) : (s.refer p side).iax2State = s.iax2State := by
  cases side <;> rfl

@[simp] theorem started_count (side : Side) (info : Iax2PacketInfo) :
    (s.count side info).started = s.started := by
  cases side <;> rfl

@[simp] theorem started_refer (side : Side) : (s.refer p side).started = s.started := by
  cases side <;> rfl

/-! ### Stopping -/

theorem bare_stop : s.stop.1.bare = s.bare.stop.1 ∧ s.stop.2 = s.bare.stop.2 := by
  cases hrunning : s.started && !s.stopped with
  | true =>
      have hstop : s.stop = ({ s with stopped := true },
          [s.event { type := .etStop, timestamp := s.lastUpdated }]) := if_pos hrunning
      have hbare : s.bare.stop = ({ s.bare with stopped := true },
          [s.event { type := .etStop, timestamp := s.lastUpdated }]) := if_pos hrunning
      rw [hstop, hbare]
      exact ⟨rfl, rfl⟩
  | false =>
      have hne : ¬ (s.started && !s.stopped) = true := by rw [hrunning]; decide
      have hstop : s.stop = (s, []) := if_neg hne
      have hbare : s.bare.stop = (s.bare, []) := if_neg hne
      rw [hstop, hbare]
      exact ⟨rfl, rfl⟩

@[simp] theorem lastIax2Packet_stop : s.stop.1.lastIax2Packet = s.lastIax2Packet := by
  unfold stop
  split_ifs <;> rfl

@[simp] theorem lastOfSide_stop (side : Side) : s.stop.1.lastOfSide side = s.lastOfSide side := by
  unfold stop
  split_ifs
  · cases side <;> rfl
  · rfl

@[simp] theorem started_stop : s.stop.1.started = s.started := by
  unfold stop
  split_ifs <;> rfl

@[simp] theorem numIax2Packets_stop : s.stop.1.numIax2Packets = s.numIax2Packets := by
  unfold stop
  split_ifs <;> rfl

@[simp] theorem iax2State_stop : s.stop.1.iax2State = s.iax2State := by
  unfold stop
  split_ifs <;> rfl

/-! ### Counting -/

@[simp] theorem numIax2Packets_refer (side : Side) :
    (s.refer p side).numIax2Packets = s.numIax2Packets := by
  cases side <;> rfl

theorem numIax2Packets_count (side : Side) (info : Iax2PacketInfo) :
    (s.count side info).numIax2Packets = s.numIax2Packets + 1 := by
  cases side <;> rfl

end Iax2Session

end OrkAudio.Iax2
