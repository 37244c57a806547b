import OrkAudio.Iax2.Index

/-! The session that an ACCEPT links.

The ACCEPT names the call by its receiver, and is taken to link the call whose invited party
is the sender, when there is one. -/

namespace OrkAudio.Iax2

open Lib VoIp

namespace Iax2Sessions

section

variable {st : Iax2Sessions} {acceptinfo : Iax2SignalInfo} {q r : Nat}

theorem session_setState_self (iax2State : Iax2State) :
    (st.setState r iax2State).session r = { st.session r with iax2State := iax2State } :=
  Function.update_self ..

theorem session_setState_of_ne (iax2State : Iax2State) (hne : q ≠ r) :
    (st.setState r iax2State).session q = st.session q := Function.update_of_ne hne ..

theorem state_setInviteeScallno (callno : UInt16) :
    ((st.setInviteeScallno r callno).session q).iax2State = (st.session q).iax2State := by
  unfold setInviteeScallno setSession
  dsimp only
  by_cases heq : q = r
  · subst heq
    rw [Function.update_self]
  · rw [Function.update_of_ne heq]

theorem session_setDest_of_ne (destIpAndCallNo : String) (hne : q ≠ r) :
    (st.setDest r destIpAndCallNo).session q = st.session q := Function.update_of_ne hne ..

/-- Where the sender is the invited party of a call already, that call is linked. -/
theorem reportIax2Accept_of_mapped {mapped : Nat}
    (hfind : st.bySrcIpAndCallNo.find?
      (ipAndCallNo acceptinfo.receiverIp acceptinfo.receiverCallno) = some r)
    (hmapped : st.byDestIpAndCallNo.find?
      (ipAndCallNo acceptinfo.senderIp acceptinfo.senderCallno) = some mapped) :
    st.reportIax2Accept acceptinfo = st.setState mapped .linked := by
  rw [reportIax2Accept, hfind]
  dsimp only
  rw [hmapped]

/-- Where it is not, the call that the receiver leads to is, and gets the sender. -/
theorem reportIax2Accept_of_free
    (hfind : st.bySrcIpAndCallNo.find?
      (ipAndCallNo acceptinfo.receiverIp acceptinfo.receiverCallno) = some r)
    (hfree : st.byDestIpAndCallNo.find?
      (ipAndCallNo acceptinfo.senderIp acceptinfo.senderCallno) = none) :
    (((st.reportIax2Accept acceptinfo).session r).iax2State = .linked ∧
      (st.reportIax2Accept acceptinfo).byDestIpAndCallNo.find?
        (ipAndCallNo acceptinfo.senderIp acceptinfo.senderCallno) = some r) ∧
      ∀ q, q ≠ r →
        ((st.reportIax2Accept acceptinfo).session q).iax2State = (st.session q).iax2State := by
  let key := ipAndCallNo acceptinfo.senderIp acceptinfo.senderCallno
  let linked := (st.setDest r key).setState r .linked
  have hkey : linked.byDestIpAndCallNo.find? key = some r :=
    OrderedMap.find?_insertNew_self hfree
  have hstate : (linked.session r).iax2State = .linked := by
    rw [session_setState_self]
  have hothers : ∀ q, q ≠ r → (linked.session q).iax2State = (st.session q).iax2State := by
    intro q hne
    rw [session_setState_of_ne _ hne, session_setDest_of_ne _ hne]
  have haccept : st.reportIax2Accept acceptinfo = linked ∨
      ∃ callno, st.reportIax2Accept acceptinfo = linked.setInviteeScallno r callno := by
    rw [reportIax2Accept, hfind]
    dsimp only
    rw [hfree]
    cases callnoOfString? acceptinfo.senderCallno with
    | none => exact Or.inl rfl
    | some callno => exact Or.inr ⟨callno, rfl⟩
  rcases haccept with hsame | ⟨callno, hset⟩
  · rw [hsame]
    exact ⟨⟨hstate, hkey⟩, hothers⟩
  · rw [hset]
    refine ⟨⟨(state_setInviteeScallno callno).trans hstate, hkey⟩, ?_⟩
    intro q hne
    exact (state_setInviteeScallno callno).trans (hothers q hne)

/-- An ACCEPT links the call that its receiver leads to, and no other one, where its sender is
not the invited party of another call. -/
theorem reportIax2Accept_links_iff
    (hfind : st.bySrcIpAndCallNo.find?
      (ipAndCallNo acceptinfo.receiverIp acceptinfo.receiverCallno) = some r) :
    (((st.reportIax2Accept acceptinfo).session r).iax2State = .linked ∧
      (st.reportIax2Accept acceptinfo).byDestIpAndCallNo.find?
        (ipAndCallNo acceptinfo.senderIp acceptinfo.senderCallno) = some r ∧
      ∀ q, q ≠ r →
        ((st.reportIax2Accept acceptinfo).session q).iax2State = (st.session q).iax2State) ↔
      ∀ q, st.byDestIpAndCallNo.find?
        (ipAndCallNo acceptinfo.senderIp acceptinfo.senderCallno) = some q → q = r := by
  constructor
  · rintro ⟨_, hkey, _⟩ q hmapped
    rw [reportIax2Accept_of_mapped hfind hmapped] at hkey
    exact Option.some.inj (hmapped.symm.trans hkey)
  · intro hown
    cases hmapped : st.byDestIpAndCallNo.find?
        (ipAndCallNo acceptinfo.senderIp acceptinfo.senderCallno) with
    | none =>
        obtain ⟨⟨hstate, hkey⟩, hothers⟩ := reportIax2Accept_of_free hfind hmapped
        exact ⟨hstate, hkey, hothers⟩
    | some mapped =>
        have heq := hown mapped hmapped
        rw [heq] at hmapped
        rw [reportIax2Accept_of_mapped hfind hmapped]
        refine ⟨?_, hmapped, ?_⟩
        · rw [session_setState_self]
        · intro q hne
          rw [session_setState_of_ne _ hne]

/-! ### A call number that is used again -/

section

/-- The call that 10.0.0.0 makes with the number, and its ACCEPT by 20.0.0.0 with the number 7. -/
private def newWith (callNo : String) : Operation :=
  .reportIax2New { senderIp := 10, receiverIp := 20, caller := "a", callee := "b", callNo := callNo }

private def acceptOf (callno : String) : Iax2SignalInfo :=
  { senderIp := 20, receiverIp := 10, senderCallno := "7", receiverCallno := callno }

theorem reportIax2Accept_links_first :
    (((runAll {} [newWith "1"]).reportIax2Accept (acceptOf "1")).session 0).iax2State = .linked := by
  have hfind : (runAll {} [newWith "1"]).bySrcIpAndCallNo.find?
      (ipAndCallNo (acceptOf "1").receiverIp (acceptOf "1").receiverCallno) = some 0 := by
    decide +kernel
  have hfree : ∀ q, (runAll {} [newWith "1"]).byDestIpAndCallNo.find?
      (ipAndCallNo (acceptOf "1").senderIp (acceptOf "1").senderCallno) = some q → q = 0 := by
    intro q hmapped
    have hnone : (runAll {} [newWith "1"]).byDestIpAndCallNo.find?
        (ipAndCallNo (acceptOf "1").senderIp (acceptOf "1").senderCallno) = none := by
      decide +kernel
    rw [hnone] at hmapped
    cases hmapped
  exact ((reportIax2Accept_links_iff hfind).mpr hfree).1

/-- The invited party answers a second call with the number that it has answered the first one
with: the second call stays as it was. -/
theorem reportIax2Accept_links_earlier : ¬ ∀ (cfg : Config) (alphaCounter : Nat)
    (labels : List (Clock × Operation)) (st : Iax2Sessions) (acceptinfo : Iax2SignalInfo) (r : Nat),
    Steps (Step cfg) (empty alphaCounter) labels st →
    st.bySrcIpAndCallNo.find?
      (ipAndCallNo acceptinfo.receiverIp acceptinfo.receiverCallno) = some r →
    ((st.reportIax2Accept acceptinfo).session r).iax2State = .linked ∧
      (st.reportIax2Accept acceptinfo).byDestIpAndCallNo.find?
        (ipAndCallNo acceptinfo.senderIp acceptinfo.senderCallno) = some r ∧
      ∀ q, q ≠ r →
        ((st.reportIax2Accept acceptinfo).session q).iax2State = (st.session q).iax2State := by
  intro hall
  let st := runAll {} [newWith "1", .reportIax2Accept (acceptOf "1"), newWith "2"]
  have run : Steps (Step {}) (empty 0)
      [(clockAtZero, newWith "1"), (clockAtZero, .reportIax2Accept (acceptOf "1")),
        (clockAtZero, newWith "2")] st :=
    .cons rfl (.cons rfl (.cons rfl (.nil st)))
  have hfind : st.bySrcIpAndCallNo.find?
      (ipAndCallNo (acceptOf "2").receiverIp (acceptOf "2").receiverCallno) = some 1 := by
    decide +kernel
  have hlinked := (hall {} 0 _ st (acceptOf "2") 1 run hfind).1
  exact absurd hlinked (by decide +kernel)

end

end

end Iax2Sessions

end OrkAudio.Iax2
