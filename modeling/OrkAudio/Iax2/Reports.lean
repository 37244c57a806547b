import OrkAudio.Iax2.Index
import OrkAudio.Iax2.Reached
import OrkAudio.Iax2.Trunk

/-! Reporting mini frames, and which sessions a row of them finds.

Mini frames change the maps only by stopping the waiting sessions that they find. Which
sessions a row of frames finds therefore follows from the maps and these alone. -/

namespace OrkAudio.Iax2

open Lib VoIp

namespace Iax2Session

@[simp] theorem keys_count (s : Iax2Session) (side : Side) (info : Iax2PacketInfo) :
    (s.count side info).keys = s.keys := by
  cases side <;> rfl

@[simp] theorem keys_refer (s : Iax2Session) (p : Nat) (side : Side) :
    (s.refer p side).keys = s.keys := by
  cases side <;> rfl

end Iax2Session

namespace Iax2Sessions

variable {cfg : Config} {clock : Clock} {st : Iax2Sessions} {p r : Nat} {info : Iax2PacketInfo}

/-! ### One frame -/

/-- The session that a frame finds. -/
def findFor (st : Iax2Sessions) (info : Iax2PacketInfo) : Option Nat :=
  st.toMaps.find? (ipAndCallNo info.sourceIp (toString info.sourcecallno.toNat))

theorem packet_setPacket : (st.setPacket p info).packet p = info := Function.update_self ..

theorem setSession_self : st.setSession r (st.session r) = st := by
  rw [setSession, Function.update_eq_self]

theorem reportPacket_of_not_found (hfound : st.findFor info = none) :
    (st.reportPacket cfg clock p info).2 = st.setPacket p info := by
  have hfound' : (st.setPacket p info).toMaps.find?
      (ipAndCallNo info.sourceIp (toString info.sourcecallno.toNat)) = none := hfound
  simp only [reportPacket, reportIax2Packet, packet_setPacket, hfound']

theorem reportPacket_of_found (hfound : st.findFor info = some r) :
    (st.reportPacket cfg clock p info).2 =
      ((st.setPacket p info).addToSession cfg clock r p).2 := by
  have hfound' : (st.setPacket p info).toMaps.find?
      (ipAndCallNo info.sourceIp (toString info.sourcecallno.toNat)) = some r := hfound
  simp only [reportPacket, reportIax2Packet, packet_setPacket, hfound']

/-- A waiting session refuses the frame and is stopped. -/
theorem reportPacket_of_waiting (hfound : st.findFor info = some r)
    (hwaiting : (st.session r).iax2State = .waiting) :
    (st.reportPacket cfg clock p info).2 = (st.setPacket p info).stop r := by
  have hadded : ((st.setPacket p info).session r).addIax2Packet cfg clock
      (st.setPacket p info).packet p =
        ⟨false, (st.setPacket p info).session r, (st.setPacket p info).packet, []⟩ :=
    Iax2Session.addIax2Packet_of_waiting hwaiting
  rw [reportPacket_of_found hfound]
  simp only [addToSession, hadded, settle, setSession_self, List.append_nil, Bool.false_eq_true,
    if_false]

theorem addToSession_of_accepted {added : Iax2Session.Added}
    (hadded : (st.session r).addIax2Packet cfg clock st.packet p = added)
    (haccepted : added.accepted = true) :
    (st.addToSession cfg clock r p).2 = st.settle r added := by
  simp only [addToSession, hadded, haccepted, if_true]

/-- A session without a first full frame drops a mini frame. -/
theorem reportPacket_of_not_hears (hfound : st.findFor info = some r)
    (hstate : (st.session r).iax2State ≠ .waiting) (hears : (st.session r).hears = false)
    (hmini : info.frameType = .mini) :
    (st.reportPacket cfg clock p info).2 = st.setPacket p info := by
  have hadded : ((st.setPacket p info).session r).addIax2Packet cfg clock
      (st.setPacket p info).packet p =
        ⟨true, (st.setPacket p info).session r, (st.setPacket p info).packet, []⟩ := by
    apply Iax2Session.addIax2Packet_of_not_hears hstate hears
    rwa [packet_setPacket]
  rw [reportPacket_of_found hfound, addToSession_of_accepted hadded rfl, settle, setSession_self,
    List.append_nil]

/-- The side and the last timestamp that a frame of a session meets. -/
def sideAt (st : Iax2Sessions) (r : Nat) (destIp : InAddr) : Iax2Session.Side :=
  (st.session r).sideTo st.packet destIp

def lastAt (st : Iax2Sessions) (r : Nat) (destIp : InAddr) : Option UInt32 :=
  (st.session r).lastTimestamp st.packet destIp

/-- The state after a session has taken the frame `p`. -/
def taken (cfg : Config) (st : Iax2Sessions) (r p : Nat) (info : Iax2PacketInfo) : Iax2Sessions :=
  let side := st.sideAt r info.destIp
  let counted := ((st.session r).refer p side).count side info
  { st.setSession r counted with
    packet := Function.update st.packet p { info with
      timestamp := retainedTimestamp cfg.iax2RewriteTimestamps side (st.lastAt r info.destIp)
        info.timestamp }
    output := st.output ++ [counted.chunk side info] }

/-- The state after a session has dismissed the frame `p`. -/
def dismissed (st : Iax2Sessions) (r p : Nat) : Iax2Sessions :=
  st.setSession r ((st.session r).setLast p)

variable (clock) in
theorem reportPacket_of_takes (hfound : st.findFor info = some r)
    (begun : (st.session r).Begun) (hears : (st.session r).hears = true)
    (hmini : info.frameType = .mini)
    (htakes : takes cfg.iax2RewriteTimestamps ((st.setPacket p info).lastAt r info.destIp)
      info.timestamp = true) :
    (st.reportPacket cfg clock p info).2 = (st.setPacket p info).taken cfg r p info := by
  have hadded := Iax2Session.addIax2Packet_of_hears cfg clock (st.setPacket p info).packet p begun
    hears (by rwa [packet_setPacket])
  rw [packet_setPacket] at hadded
  rw [reportPacket_of_found hfound, addToSession_of_accepted (hadded.trans (if_pos htakes)) rfl]
  rfl

variable (clock) in
theorem reportPacket_of_dismisses (hfound : st.findFor info = some r)
    (begun : (st.session r).Begun) (hears : (st.session r).hears = true)
    (hmini : info.frameType = .mini)
    (htakes : takes cfg.iax2RewriteTimestamps ((st.setPacket p info).lastAt r info.destIp)
      info.timestamp = false) :
    (st.reportPacket cfg clock p info).2 = (st.setPacket p info).dismissed r p := by
  have hadded := Iax2Session.addIax2Packet_of_hears cfg clock (st.setPacket p info).packet p begun
    hears (by rwa [packet_setPacket])
  rw [packet_setPacket] at hadded
  have hdismissed := hadded.trans (if_neg (Bool.not_eq_true _ ▸ htakes))
  rw [reportPacket_of_found hfound, addToSession_of_accepted hdismissed rfl, settle,
    List.append_nil]
  rfl

variable (cfg clock p) in
/-- What the report of a mini frame makes of the store: the frame is written, and the session
that is found may be stopped, dismiss the frame or take it. -/
theorem reportPacket_cases (begun : ∀ r, (st.session r).Begun) (hmini : info.frameType = .mini) :
    (st.reportPacket cfg clock p info).2 = st.setPacket p info ∧
        (∀ r, st.findFor info = some r →
          (st.session r).iax2State ≠ .waiting ∧ (st.session r).hears = false) ∨
    (∃ r, st.findFor info = some r ∧ (st.session r).iax2State = .waiting ∧
      (st.reportPacket cfg clock p info).2 = (st.setPacket p info).stop r) ∨
    (∃ r, st.findFor info = some r ∧ (st.session r).hears = true ∧
      takes cfg.iax2RewriteTimestamps ((st.setPacket p info).lastAt r info.destIp)
        info.timestamp = false ∧
      (st.reportPacket cfg clock p info).2 = (st.setPacket p info).dismissed r p) ∨
    ∃ r, st.findFor info = some r ∧ (st.session r).hears = true ∧
      takes cfg.iax2RewriteTimestamps ((st.setPacket p info).lastAt r info.destIp)
        info.timestamp = true ∧
      (st.reportPacket cfg clock p info).2 = (st.setPacket p info).taken cfg r p info := by
  cases hfound : st.findFor info with
  | none =>
      refine .inl ⟨reportPacket_of_not_found hfound, ?_⟩
      intro r hr
      cases hr
  | some r =>
      by_cases hwaiting : (st.session r).iax2State = .waiting
      · exact .inr (.inl ⟨r, rfl, hwaiting, reportPacket_of_waiting hfound hwaiting⟩)
      · cases hears : (st.session r).hears with
        | false =>
            refine .inl ⟨reportPacket_of_not_hears hfound hwaiting hears hmini, ?_⟩
            intro q hq
            cases hq
            exact ⟨hwaiting, hears⟩
        | true =>
            cases htakes : takes cfg.iax2RewriteTimestamps
                ((st.setPacket p info).lastAt r info.destIp) info.timestamp with
            | false =>
                exact .inr (.inr (.inl ⟨r, rfl, hears, htakes,
                  reportPacket_of_dismisses _ hfound (begun r) hears hmini htakes⟩))
            | true =>
                exact .inr (.inr (.inr ⟨r, rfl, hears, htakes,
                  reportPacket_of_takes _ hfound (begun r) hears hmini htakes⟩))

/-! ### Which sessions are found -/

/-- What matters of a lookup for the later ones: a waiting session is stopped. -/
def afterLookup (st : Iax2Sessions) (found : Option Nat) : Iax2Sessions :=
  match found with
  | none => st
  | some r => if (st.session r).iax2State = .waiting then st.stop r else st

/-- Each frame with the session it finds. -/
def walk (st : Iax2Sessions) : List Iax2PacketInfo → List (Iax2PacketInfo × Option Nat)
  | [] => []
  | info :: infos => (info, st.findFor info) :: walk (st.afterLookup (st.findFor info)) infos

/-- The frames that find a session. -/
def received (st : Iax2Sessions) (infos : List Iax2PacketInfo) (r : Nat) : List Iax2PacketInfo :=
  (st.walk infos).filterMap fun found => if found.2 = some r then some found.1 else none

/-- Lookups see the maps, the keys of the sessions and which sessions are waiting. -/
structure SameLookups (S T : Iax2Sessions) : Prop where
  maps : S.toMaps = T.toMaps
  keys : ∀ r, (S.session r).keys = (T.session r).keys
  state : ∀ r, (S.session r).iax2State = (T.session r).iax2State

theorem SameLookups.refl (S : Iax2Sessions) : SameLookups S S := ⟨rfl, fun _ => rfl, fun _ => rfl⟩

theorem SameLookups.symm {S T : Iax2Sessions} (same : SameLookups S T) : SameLookups T S :=
  ⟨same.maps.symm, fun r => (same.keys r).symm, fun r => (same.state r).symm⟩

theorem SameLookups.trans {S T U : Iax2Sessions} (first : SameLookups S T)
    (second : SameLookups T U) : SameLookups S U :=
  ⟨first.maps.trans second.maps, fun r => (first.keys r).trans (second.keys r),
    fun r => (first.state r).trans (second.state r)⟩

theorem SameLookups.findFor {S T : Iax2Sessions} (same : SameLookups S T)
    (info : Iax2PacketInfo) : S.findFor info = T.findFor info := by
  rw [Iax2Sessions.findFor, Iax2Sessions.findFor, same.maps]

theorem iax2State_stop (q : Nat) :
    ((st.stop r).session q).iax2State = (st.session q).iax2State := by
  by_cases hq : q = r
  · subst hq
    simp [stop, setSession]
  · simp [stop, setSession, Function.update_of_ne hq]

theorem SameLookups.stop {S T : Iax2Sessions} (same : SameLookups S T) (r : Nat) :
    SameLookups (S.stop r) (T.stop r) := by
  constructor
  · have hkeys : (S.session r).stop.1.keys = (T.session r).stop.1.keys := by
      rw [Iax2Session.keys_stop, Iax2Session.keys_stop, same.keys]
    simp only [Iax2Session.keys, Prod.mk.injEq] at hkeys
    simp only [Iax2Sessions.stop, Maps.eraseKeys, hkeys, same.maps]
  · intro q
    rw [keys_session_stop, keys_session_stop, same.keys]
  · intro q
    rw [iax2State_stop, iax2State_stop, same.state]

theorem SameLookups.afterLookup {S T : Iax2Sessions} (same : SameLookups S T)
    (found : Option Nat) : SameLookups (S.afterLookup found) (T.afterLookup found) := by
  cases found with
  | none => exact same
  | some r =>
      simp only [Iax2Sessions.afterLookup, same.state]
      split_ifs
      · exact same.stop r
      · exact same

theorem SameLookups.walk {S T : Iax2Sessions} (same : SameLookups S T)
    (infos : List Iax2PacketInfo) : S.walk infos = T.walk infos := by
  induction infos generalizing S T with
  | nil => rfl
  | cons info infos ih =>
      rw [Iax2Sessions.walk, Iax2Sessions.walk, same.findFor, ih (same.afterLookup _)]

theorem sameLookups_setPacket : SameLookups st (st.setPacket p info) :=
  ⟨rfl, fun _ => rfl, fun _ => rfl⟩

theorem sameLookups_setSession {s : Iax2Session} (hkeys : s.keys = (st.session r).keys)
    (hstate : s.iax2State = (st.session r).iax2State) : SameLookups st (st.setSession r s) := by
  refine ⟨rfl, fun q => ?_, fun q => ?_⟩
  · by_cases hq : q = r
    · subst hq
      simpa [setSession] using hkeys.symm
    · simp [setSession, Function.update_of_ne hq]
  · by_cases hq : q = r
    · subst hq
      simpa [setSession] using hstate.symm
    · simp [setSession, Function.update_of_ne hq]

theorem sameLookups_taken : SameLookups st (st.taken cfg r p info) := by
  have hset : SameLookups st (st.setSession r
      (((st.session r).refer p (st.sideAt r info.destIp)).count (st.sideAt r info.destIp) info)) := by
    apply sameLookups_setSession
    · simp
    · simp
  exact ⟨hset.maps, hset.keys, hset.state⟩

theorem sameLookups_dismissed : SameLookups st (st.dismissed r p) :=
  sameLookups_setSession rfl rfl

variable (cfg clock p) in
/-- After a mini frame has been reported, the lookups are those after its own. -/
theorem sameLookups_reportPacket (begun : ∀ r, (st.session r).Begun)
    (hmini : info.frameType = .mini) :
    SameLookups (st.afterLookup (st.findFor info)) (st.reportPacket cfg clock p info).2 := by
  have hother (found : Option Nat) (hfound : ∀ r, found = some r → (st.session r).iax2State ≠ .waiting) :
      st.afterLookup found = st := by
    cases found with
    | none => rfl
    | some r => exact if_neg (hfound r rfl)
  rcases reportPacket_cases cfg clock p begun hmini with
    ⟨hresult, hstate⟩ | ⟨r, hfound, hwaiting, hresult⟩ | ⟨r, hfound, hears, -, hresult⟩ |
      ⟨r, hfound, hears, -, hresult⟩
  · rw [hresult, hother _ fun r hr => (hstate r hr).1]
    exact sameLookups_setPacket
  · rw [hresult, hfound]
    simp only [afterLookup, hwaiting, if_true]
    exact sameLookups_setPacket.stop r
  · rw [hresult, hother]
    · exact sameLookups_setPacket.trans sameLookups_dismissed
    · intro q hq
      cases hfound.symm.trans hq
      exact Iax2Session.state_of_hears hears
  · rw [hresult, hother]
    · exact sameLookups_setPacket.trans sameLookups_taken
    · intro q hq
      cases hfound.symm.trans hq
      exact Iax2Session.state_of_hears hears

theorem iax2State_afterLookup (found : Option Nat) (x : Nat) :
    ((st.afterLookup found).session x).iax2State = (st.session x).iax2State := by
  cases found with
  | none => rfl
  | some r =>
      simp only [afterLookup]
      split_ifs
      · exact iax2State_stop x
      · rfl

end Iax2Sessions

end OrkAudio.Iax2
