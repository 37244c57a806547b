import OrkAudio.Lib.Latest
import OrkAudio.VoIp.Rtp
import OrkAudio.VoIp.Skinny

/-! Which Skinny session an RTP packet behind a NAT is associated with.

The search for the latest CallInfo starts from the time of the search itself, so that a session
counts only if its CallInfo is not older than that. -/

namespace OrkAudio.VoIp

open Lib

/-- A registered session at an end of the packet that has no media address yet. -/
structure Candidate (st : VoIpSessions) (rtpPacket : RtpPacketInfo) (r : Nat) : Prop where
  registered : r ∈ st.sessionsByCallId
  endpoint : (st.session r).endPointIp = rtpPacket.sourceIp ∨
    (st.session r).endPointIp = rtpPacket.destIp
  unmapped : (st.session r).ipAndPort = 0

/-- `m_skinnyLastCallInfoTime` of a session. -/
def VoIpSessions.callInfoTime (st : VoIpSessions) (r : Nat) : Int :=
  (st.session r).skinnyLastCallInfoTime

/-- The candidate with the most recent CallInfo, if that is at most 30 seconds old and the session
is not stopped. -/
structure MostLikely (env : Env) (st : VoIpSessions) (rtpPacket : RtpPacketInfo) (r : Nat) :
    Prop where
  candidate : Candidate st rtpPacket r
  latest : ∀ q, Candidate st rtpPacket q → st.callInfoTime q ≤ st.callInfoTime r
  recent : env.time - st.callInfoTime r / 1000000 ≤ 30
  running : (st.session r).stopped = false

section

variable (cfg : Config) (env : Env) (st : VoIpSessions) (rtpPacket : RtpPacketInfo)

/-- The session gets the media address at the other end of the packet. -/
def associate (r : Nat) : VoIpSessions :=
  if (st.session r).endPointIp = rtpPacket.sourceIp then
    st.setMediaAddress cfg env r rtpPacket.destIp rtpPacket.destPort
  else st.setMediaAddress cfg env r rtpPacket.sourceIp rtpPacket.sourcePort

/-- The packet is associated with the most likely session, and with none only when there is no
such session. -/
def FindsMostLikely : Prop :=
  (∀ st', st.skinnyFindMostLikelySessionForRtpBehindNat cfg env rtpPacket = some st' →
    ∃ r, MostLikely env st rtpPacket r ∧ st' = associate cfg env st rtpPacket r) ∧
  (st.skinnyFindMostLikelySessionForRtpBehindNat cfg env rtpPacket = none →
    ∀ r, ¬MostLikely env st rtpPacket r)

/-- The registered sessions at an end of the packet, in the order of their call ids. -/
def sessionsAtEnds : List Nat :=
  st.sessionsByCallId.filter fun r =>
    (st.session r).endPointIp = rtpPacket.sourceIp || (st.session r).endPointIp = rtpPacket.destIp

def IsUnmapped (r : Nat) : Prop := (st.session r).ipAndPort = 0

instance instDecidableIsUnmapped : DecidablePred (IsUnmapped st) :=
  fun r => inferInstanceAs (Decidable ((st.session r).ipAndPort = 0))

/-- The last one of the candidates whose CallInfo has this time. -/
def lastCandidateAt (time : Int) : Option Nat :=
  ((sessionsAtEnds st rtpPacket).filter fun r =>
    decide (IsUnmapped st r ∧ st.callInfoTime r = time)).getLast?

variable {st rtpPacket}

theorem candidate_iff {r : Nat} :
    Candidate st rtpPacket r ↔ r ∈ sessionsAtEnds st rtpPacket ∧ IsUnmapped st r := by
  unfold sessionsAtEnds
  rw [List.mem_filter, Bool.or_eq_true, decide_eq_true_eq, decide_eq_true_eq]
  constructor
  · intro candidate
    exact ⟨⟨candidate.registered, candidate.endpoint⟩, candidate.unmapped⟩
  · intro h
    exact ⟨h.1.1, h.1.2, h.2⟩

variable (st rtpPacket) {env}

theorem findMostRecent_eq :
    st.findMostRecent env rtpPacket =
      (sessionsAtEnds st rtpPacket).foldl (takeLater st.callInfoTime (IsUnmapped st))
        (env.usec, none) := rfl

/-- What the search comes to: no session when all candidates had their CallInfo before it, and the
last one of the latest otherwise. -/
theorem findMostRecent_cases :
    ((∀ r, Candidate st rtpPacket r → st.callInfoTime r < env.usec) ∧
      st.findMostRecent env rtpPacket = (env.usec, none)) ∨
    ∃ r, Candidate st rtpPacket r ∧
      (∀ q, Candidate st rtpPacket q → st.callInfoTime q ≤ st.callInfoTime r) ∧
      lastCandidateAt st rtpPacket (st.callInfoTime r) = some r ∧
      env.usec ≤ st.callInfoTime r ∧
      st.findMostRecent env rtpPacket = (st.callInfoTime r, some r) := by
  rw [findMostRecent_eq]
  rcases @foldl_takeLater Nat st.callInfoTime (IsUnmapped st) _ (sessionsAtEnds st rtpPacket)
    env.usec none with ⟨holder, hkept⟩ | ⟨r, last, hle, hfound⟩
  · apply Or.inl
    refine ⟨?_, hkept⟩
    intro r candidate
    obtain ⟨hmem, hunmapped⟩ := candidate_iff.mp candidate
    exact holder r hmem hunmapped
  · apply Or.inr
    refine ⟨r, candidate_iff.mpr ⟨last.mem, last.holds⟩, ?_, last.getLast?, hle, hfound⟩
    intro q candidate
    obtain ⟨hmem, hunmapped⟩ := candidate_iff.mp candidate
    exact last.le hmem hunmapped

variable (env)

/-- The search does what it is for exactly when the most likely session, if there is one, had its
CallInfo no earlier than the search, and no stopped session is taken among those of that time. -/
theorem finds_most_likely_iff :
    FindsMostLikely cfg env st rtpPacket ↔
      ∀ r, MostLikely env st rtpPacket r →
        env.usec ≤ st.callInfoTime r ∧
          ∀ q, lastCandidateAt st rtpPacket (st.callInfoTime r) = some q →
            (st.session q).stopped = false := by
  unfold FindsMostLikely VoIpSessions.skinnyFindMostLikelySessionForRtpBehindNat
  rcases @findMostRecent_cases env st rtpPacket with ⟨holder, hnone⟩ |
    ⟨q, candidate, hlatest, hlast, hle, hfound⟩
  · rw [hnone]
    constructor
    · intro h r likely
      exact absurd likely (h.2 rfl r)
    · intro h
      refine ⟨nofun, ?_⟩
      intro _ r likely
      have hlt := holder r likely.candidate
      have hge := (h r likely).1
      omega
  · have hrecent : env.time - st.callInfoTime q / 1000000 ≤ 30 := by
      unfold Env.time
      omega
    have htime {r : Nat} (likely : MostLikely env st rtpPacket r) :
        st.callInfoTime r = st.callInfoTime q :=
      le_antisymm (hlatest r likely.candidate) (likely.latest q candidate)
    rw [hfound]
    simp only
    by_cases hstopped : (st.session q).stopped = true
    · rw [if_pos (Or.inr hstopped)]
      constructor
      · intro h r likely
        exact absurd likely (h.2 rfl r)
      · intro h
        refine ⟨nofun, ?_⟩
        intro _ r likely
        have hrunning := (h r likely).2 q (by rw [htime likely]; exact hlast)
        rw [hstopped] at hrunning
        cases hrunning
    · have hgoes : ¬(env.time - st.callInfoTime q / 1000000 > 30 ∨
          (st.session q).stopped = true) := by
        rintro (hold | hstop)
        · omega
        · exact hstopped hstop
      have hlikely : MostLikely env st rtpPacket q :=
        ⟨candidate, hlatest, hrecent, Bool.eq_false_iff.mpr hstopped⟩
      rw [if_neg hgoes]
      apply iff_of_true
      · constructor
        · intro st' hst'
          refine ⟨q, hlikely, ?_⟩
          unfold associate
          split_ifs at hst' ⊢
          · exact (Option.some.inj hst').symm
          · exact (Option.some.inj hst').symm
        · intro hno
          split_ifs at hno
      · intro r likely
        rw [htime likely]
        refine ⟨hle, ?_⟩
        intro other hother
        obtain rfl := Option.some.inj (hlast.symm.trans hother)
        exact Bool.eq_false_iff.mpr hstopped

end

/-! ### A CallInfo of a second ago -/

def behindNat : Config := { skinnyBehindNat := true, skinnyRtpSearchesForCallInfo := true }

/-- The store after the CallInfo of one call, at an endpoint with the address 10. -/
def afterCallInfo : VoIpSessions :=
  (VoIpSessions.empty behindNat { usec := 0 } 0).reportSkinnyCallInfo behindNat { usec := 0 }
    { callingPartyName := "", callingParty := "100", calledPartyName := "", calledParty := "200"
      lineInstance := 1, callId := 1, callType := skinnyCallTypeOutbound }
    { ipSrc := 20, ipDest := 10, tcpSource := 2000, tcpDest := 3000 }

/-- A packet that the endpoint sends. -/
def fromEndpoint : RtpPacketInfo := { sourceIp := 10, destIp := 30, sourcePort := 4000 }

/-- The session of the call is not found a second later. -/
theorem call_info_too_early :
    ¬FindsMostLikely behindNat { usec := 1000000 } afterCallInfo fromEndpoint := by
  have hnone : (afterCallInfo.skinnyFindMostLikelySessionForRtpBehindNat behindNat
      { usec := 1000000 } fromEndpoint).isNone = true := by decide +kernel
  have hregistered : afterCallInfo.sessionsByCallId = [0] := by decide +kernel
  have likely : MostLikely { usec := 1000000 } afterCallInfo fromEndpoint 0 := by
    refine ⟨⟨?_, ?_, ?_⟩, ?_, ?_, ?_⟩
    · rw [hregistered]
      exact List.mem_singleton_self 0
    · decide +kernel
    · decide +kernel
    · intro q candidate
      have hmem := candidate.registered
      rw [hregistered] at hmem
      rw [List.mem_singleton.mp hmem]
    · decide +kernel
    · decide +kernel
  intro finds
  exact finds.2 (Option.isNone_iff_eq_none.mp hnone) 0 likely

end OrkAudio.VoIp
