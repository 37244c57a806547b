import OrkAudio.VoIp.Runs

/-! What holds of the sessions in every run.

Each result names the steps that it is not true of: a capture that is stopped for a session
without a call-id, a packet whose address is given to the session that was just stopped for
it, and a timeout that stops a session twice. -/

namespace OrkAudio.VoIp

open Lib

namespace VoIpSessions

section

variable {cfg : Config} {env : Env} {st : VoIpSessions} {alphaCounter : Nat}
  {labels : List (Env × Operation)}

/-! ### The indexes and the sessions -/

/-- Where no capture is stopped for a session without a call-id, the entries of both indexes
are what their sessions say, and a session that is stopped has none. -/
theorem entries_of_run
    (run : Steps (Guarded (fun st label => label.2.StopsKeyed st) (StoreStep cfg))
      (empty cfg env alphaCounter) labels st) :
    (∀ a r, (a, r) ∈ st.byIpAndPort.entries → a ∈ (st.session r).mediaAddresses) ∧
      (∀ k r, (k, r) ∈ st.byCallId.entries → k = (st.session r).callId ∧ k ≠ "") ∧
      ∀ env r, ¬(st.stop cfg env r).Registered r := by
  have sound : Sound cfg .onlyKeyed st :=
    sound_of_run (fun _ _ _ hcond => hcond) False.elim False.elim run
  refine ⟨sound.address, ?_, ?_⟩
  · intro k r hmem
    have hne := sound.keyed trivial k r hmem
    exact ⟨(sound.callId k r hmem).resolve_right hne, hne⟩
  · intro env r registered
    rcases registered with ⟨a, hmem⟩ | ⟨k, hmem⟩
    · exact sound.not_mem_byIpAndPort_stop a hmem
    · exact sound.keyed trivial k r (mem_byCallId_stop.mp hmem).1
        (sound.empty_of_mem_byCallId_stop hmem)

/-- One packet, and its session is stopped. -/
theorem entries_of_one_packet :
    ¬((((empty {} { usec := 0 } 0).reportRtpPacket {} { usec := 0 }
      { sourceIp := 10, destIp := 30, sourcePort := 4000, destPort := 5000 }).stop {}
        { usec := 0 } 0).Registered 0) := by
  let rtpPacket : RtpPacketInfo :=
    { sourceIp := 10, destIp := 30, sourcePort := 4000, destPort := 5000 }
  have run : Steps (Guarded (fun st label => label.2.StopsKeyed st) (StoreStep {}))
      (empty {} { usec := 0 } 0) [({ usec := 0 }, .rtp rtpPacket)]
      ((Operation.rtp rtpPacket).run {} { usec := 0 } (empty {} { usec := 0 } 0)) :=
    Steps.singleton_iff.mpr ⟨trivial, rfl⟩
  exact (entries_of_run run).2.2 { usec := 0 } 0

/-- The capture of an RTP session is stopped: the session in its place is registered under the
empty call-id, where it stays when it is stopped in its turn. -/
theorem entries_of_stopped_capture : ¬ ∀ (cfg : Config) (env : Env) (alphaCounter : Nat)
    (labels : List (Env × Operation)) (st : VoIpSessions),
    Steps (StoreStep cfg) (empty cfg env alphaCounter) labels st →
      (∀ a r, (a, r) ∈ st.byIpAndPort.entries → a ∈ (st.session r).mediaAddresses) ∧
        (∀ k r, (k, r) ∈ st.byCallId.entries → k = (st.session r).callId ∧ k ≠ "") ∧
        ∀ env r, ¬(st.stop cfg env r).Registered r := by
  intro hall
  let rtpPacket : RtpPacketInfo :=
    { sourceIp := 10, destIp := 30, sourcePort := 4000, destPort := 5000 }
  let heard := (Operation.rtp rtpPacket).run {} { usec := 0 } (empty {} { usec := 0 } 0)
  let cut := (Operation.stopCapture (.party "30.0.0.0")).run {} { usec := 0 } heard
  have run : Steps (StoreStep {}) (empty {} { usec := 0 } 0)
      [({ usec := 0 }, .rtp rtpPacket), ({ usec := 0 }, .stopCapture (.party "30.0.0.0"))] cut :=
    .cons rfl (.cons rfl (.nil cut))
  have hkeyed := (hall {} { usec := 0 } 0 _ cut run).2.1
  have hmem : ("", 1) ∈ cut.byCallId.entries := by decide +kernel
  exact (hkeyed "" 1 hmem).2 rfl

/-! ### Stopped sessions -/

/-- The session that took a packet when the other one did not. -/
def acceptor (cfg : Config) (env : Env) (rtpPacket : RtpPacketInfo) (st : VoIpSessions) :
    Option Nat :=
  if (offerToSource cfg env rtpPacket st).1.1 = (offerToDest cfg env rtpPacket st).1.1 then none
  else if (offerToSource cfg env rtpPacket st).1.1 then sourceSession cfg rtpPacket st
  else destSession cfg env rtpPacket st

/-- The session of the source takes the packet, that of the destination does not, and one of
them has to do with the address. -/
def TracksOther (cfg : Config) (env : Env) (rtpPacket : RtpPacketInfo) (st : VoIpSessions) :
    Prop :=
  (offerToSource cfg env rtpPacket st).1.1 = true ∧
    (offerToDest cfg env rtpPacket st).1.1 = false ∧
    ∃ r1 r2, sourceSession cfg rtpPacket st = some r1 ∧
      destSession cfg env rtpPacket st = some r2 ∧
      (Tracks cfg (offerToDest cfg env rtpPacket st).1.2
          ((offerToDest cfg env rtpPacket st).2.session r1) ∨
        Tracks cfg (offerToDest cfg env rtpPacket st).1.2
          ((offerToDest cfg env rtpPacket st).2.session r2))

/-- An operation does not track another session than the one that took a packet. -/
def TracksAcceptor (cfg : Config) (st : VoIpSessions) (label : Env × Operation) : Prop :=
  ∀ rtpPacket, label.2 = .rtp rtpPacket → ¬TracksOther cfg label.1 rtpPacket st

theorem tracksAlive_of_tracksAcceptor {label : Env × Operation}
    (htracks : TracksAcceptor cfg st label) : label.2.TracksAlive cfg label.1 st := by
  obtain ⟨env, op⟩ := label
  cases op with
  | rtp rtpPacket =>
      rintro ⟨htook1, htook2, r, hfind, htracked⟩
      cases hsource : sourceSession cfg rtpPacket st with
      | none =>
          have hnot : (offerToSource cfg env rtpPacket st).1.1 = false := by
            rw [offerToSource, hsource]
            rfl
          rw [hnot] at htook1
          cases htook1
      | some r1 =>
          exact htracks rtpPacket rfl ⟨htook1, htook2, r1, r, hsource, hfind, Or.inr htracked⟩
  | _ => trivial

/-- What is done for the address is done for the session that took the packet. -/
theorem reportRtpPacket_of_acceptor {rtpPacket : RtpPacketInfo} {r : Nat}
    (hacceptor : acceptor cfg env rtpPacket st = some r)
    (htracks : ¬TracksOther cfg env rtpPacket st) :
    st.reportRtpPacket cfg env rtpPacket =
      (offerToDest cfg env rtpPacket st).2.trackSession cfg env r
        (sourceSession cfg rtpPacket st).isSome (offerToDest cfg env rtpPacket st).1.2 := by
  rw [reportRtpPacket_eq]
  unfold acceptor at hacceptor
  cases htook1 : (offerToSource cfg env rtpPacket st).1.1 with
  | false =>
      cases htook2 : (offerToDest cfg env rtpPacket st).1.1 with
      | false => simp [htook1, htook2] at hacceptor
      | true =>
          have hfind : destSession cfg env rtpPacket st = some r := by
            simpa [htook1, htook2] using hacceptor
          rw [hfind]
          rfl
  | true =>
      cases htook2 : (offerToDest cfg env rtpPacket st).1.1 with
      | true => simp [htook1, htook2] at hacceptor
      | false =>
          have hfind1 : sourceSession cfg rtpPacket st = some r := by
            simpa [htook1, htook2] using hacceptor
          cases hfind2 : destSession cfg env rtpPacket st with
          | none =>
              rw [hfind1]
              rfl
          | some r2 =>
              have hnot : ¬Tracks cfg (offerToDest cfg env rtpPacket st).1.2
                  ((offerToDest cfg env rtpPacket st).2.session r) := fun h =>
                htracks ⟨htook1, htook2, r, r2, hfind1, hfind2, Or.inl h⟩
              have hnot2 : ¬Tracks cfg (offerToDest cfg env rtpPacket st).1.2
                  ((offerToDest cfg env rtpPacket st).2.session r2) := fun h =>
                htracks ⟨htook1, htook2, r, r2, hfind1, hfind2, Or.inr h⟩
              rw [hfind1]
              have hself := trackSession_eq_self cfg env (offerToDest cfg env rtpPacket st).1.2
                (some r).isSome hnot
              have hself2 := trackSession_eq_self cfg env (offerToDest cfg env rtpPacket st).1.2
                (some r).isSome hnot2
              exact hself2.trans hself.symm

/-- Where, moreover, no packet has another session tracked than the one that took it, no
session is entered, handed a packet or tracked after it was stopped. -/
theorem stopped_of_run
    (run : Steps (Guarded (fun st label => label.2.StopsKeyed st ∧ TracksAcceptor cfg st label)
      (StoreStep cfg)) (empty cfg env alphaCounter) labels st) :
    st.history.Pairwise NotAfterStop ∧
      ∀ env rtpPacket r, ¬TracksOther cfg env rtpPacket st →
        acceptor cfg env rtpPacket st = some r →
        st.reportRtpPacket cfg env rtpPacket =
          (offerToDest cfg env rtpPacket st).2.trackSession cfg env r
            (sourceSession cfg rtpPacket st).isSome (offerToDest cfg env rtpPacket st).1.2 := by
  have sound : Sound cfg .onlyAlive st :=
    sound_of_run (fun _ _ _ hcond => hcond.1)
      (fun _ _ _ hcond => tracksAlive_of_tracksAcceptor hcond.2) False.elim run
  refine ⟨sound.history trivial, ?_⟩
  intro env rtpPacket r htracks hacceptor
  exact reportRtpPacket_of_acceptor hacceptor htracks

/-- One packet, whose destination is tracked. -/
theorem stopped_of_one_packet :
    ((empty {} { usec := 0 } 0).reportRtpPacket {} { usec := 0 }
      { sourceIp := 10, destIp := 30, sourcePort := 4000, destPort := 5000 }).history.Pairwise
        NotAfterStop := by
  let rtpPacket : RtpPacketInfo :=
    { sourceIp := 10, destIp := 30, sourcePort := 4000, destPort := 5000 }
  have hnot : ¬TracksOther {} { usec := 0 } rtpPacket (empty {} { usec := 0 } 0) := by
    intro htracks
    exact absurd htracks.1 (by decide +kernel)
  have htracks : TracksAcceptor {} (empty {} { usec := 0 } 0)
      ({ usec := 0 }, .rtp rtpPacket) := by
    intro other hother
    cases hother
    exact hnot
  have run : Steps (Guarded (fun st label => label.2.StopsKeyed st ∧ TracksAcceptor {} st label)
      (StoreStep {})) (empty {} { usec := 0 } 0) [({ usec := 0 }, .rtp rtpPacket)]
      ((Operation.rtp rtpPacket).run {} { usec := 0 } (empty {} { usec := 0 } 0)) :=
    Steps.singleton_iff.mpr ⟨⟨trivial, htracks⟩, rfl⟩
  exact (stopped_of_run run).1

section

/-! A packet from the destination of one call to that of another. It goes on with the first
call and breaks the second, which is stopped; it is the second that its address is then
given to. -/

private def brokenConfig : Config :=
  { rtpDiscontinuityDetect := true, mediaAddressUseSecondRtpAddress := true,
    rtpMinAmountOfPacketsBeforeStart := 1 }

private def brokenLabels : List (Env × Operation) :=
  [({ usec := 0 }, .rtp
      { sourceIp := 10, destIp := 30, sourcePort := 4000, destPort := 5000 }),
    ({ usec := 0 }, .rtp
      { sourceIp := 11, destIp := 31, sourcePort := 4001, destPort := 5001 }),
    ({ usec := 0 }, .rtp
      { sourceIp := 30, destIp := 31, sourcePort := 5000, destPort := 5001, seqNum := 30000,
        timestamp := 100000000 })]

theorem stopped_of_broken_call : ¬ ∀ (cfg : Config) (env : Env) (alphaCounter : Nat)
    (labels : List (Env × Operation)) (st : VoIpSessions),
    Steps (StoreStep cfg) (empty cfg env alphaCounter) labels st →
      st.history.Pairwise NotAfterStop := by
  intro hall
  have run := @steps_runAll brokenConfig (empty brokenConfig { usec := 0 } 0) brokenLabels
  have hpairs := hall _ _ _ _ _ run
  have hsub : [StoreEvent.stopped 1, StoreEvent.entered 1].Sublist
      (runAll brokenConfig (empty brokenConfig { usec := 0 } 0) brokenLabels).history := by
    decide +kernel
  have hafter := (List.pairwise_cons.mp (hpairs.sublist hsub)).1 (.entered 1) (by simp)
  exact hafter 1 rfl rfl

end

/-! ### The end of a session -/

/-- Where, moreover, no session that is to be tagged times out at two addresses, every session
reports its end at most once and nothing afterwards. -/
theorem ended_of_run
    (run : Steps (Guarded (fun st label => label.2.StopsKeyed st ∧
      label.2.TracksAlive cfg label.1 st ∧ label.2.StopsOnce cfg label.1 st) (StoreStep cfg))
      (empty cfg env alphaCounter) labels st) (r : Nat) :
    (st.session r).output.Pairwise fun earlier _ => earlier.isStop = false := by
  have sound : Sound cfg .all st :=
    sound_of_run (fun _ _ _ hcond => hcond.1) (fun _ _ _ hcond => hcond.2.1)
      (fun _ _ _ hcond => hcond.2.2) run
  exact (sound.ended trivial r).last

/-- One packet. -/
theorem ended_of_one_packet :
    let st := (empty {} { usec := 0 } 0).reportRtpPacket {} { usec := 0 }
      { sourceIp := 10, destIp := 30, sourcePort := 4000, destPort := 5000 }
    (st.session 0).output.Pairwise fun earlier _ => earlier.isStop = false := by
  intro st
  let rtpPacket : RtpPacketInfo :=
    { sourceIp := 10, destIp := 30, sourcePort := 4000, destPort := 5000 }
  have halive : ¬TracksStopped {} { usec := 0 } rtpPacket (empty {} { usec := 0 } 0) := by
    intro htracks
    exact absurd htracks.1 (by decide +kernel)
  have first : Guarded (fun st label => label.2.StopsKeyed st ∧
      label.2.TracksAlive {} label.1 st ∧ label.2.StopsOnce {} label.1 st) (StoreStep {})
      (empty {} { usec := 0 } 0) ({ usec := 0 }, .rtp rtpPacket) st :=
    ⟨⟨trivial, halive, trivial⟩, rfl⟩
  have run := Steps.singleton_iff.mpr first
  exact ended_of_run run 0

/-- A capture is asked for at the call that was broken: the events of the request follow the
end of the session. -/
theorem ended_of_broken_call : ¬ ∀ (cfg : Config) (env : Env) (alphaCounter : Nat)
    (labels : List (Env × Operation)) (st : VoIpSessions),
    Steps (StoreStep cfg) (empty cfg env alphaCounter) labels st →
      ∀ r, (st.session r).output.Pairwise fun earlier _ => earlier.isStop = false := by
  intro hall
  let asked := brokenLabels ++ [({ usec := 0 }, .startCapture (.party "31.0.0.0") "both")]
  have run := @steps_runAll brokenConfig (empty brokenConfig { usec := 0 } 0) asked
  have hpairs := hall _ _ _ _ _ run 1
  exact absurd hpairs (by decide +kernel)

end

end VoIpSessions

end OrkAudio.VoIp
