import OrkAudio.VoIp.Aside

/-! A subsequent packet of either side.

On side 1 a pause of the stream is looked for only where the timestamps run ahead of the plain
difference in sequence numbers. At a reset of the sequence number that difference is large, so
a pause across the reset breaks side 2 up and not side 1. -/

namespace OrkAudio.VoIp

/-- The decisions about a subsequent packet. -/
inductive Decision
  | duplicate | discontinuity | pause | accepted
  deriving DecidableEq, Repr

section

variable (cfg : Config)

/-- The decision behind a verdict. -/
def decisionOf (s : SessionData) (last rtpPacket : RtpPacketInfo) : Verdict → Decision
  | .dismissed => .duplicate
  | .brokenUp => if isDiscontinuity cfg s last rtpPacket then .discontinuity else .pause
  | .accepted _ => .accepted

/-- The timestamps run ahead of the sequence numbers when the smaller one is taken for a reset,
but not ahead of their plain difference. -/
def PausesAcrossReset (last rtpPacket : RtpPacketInfo) : Prop :=
  resetSeqNumDelta last rtpPacket * 160 < deltaTimestamp last rtpPacket ∧
    deltaTimestamp last rtpPacket ≤ |seqNumDelta last rtpPacket| * 160

/-- What follows the duplicates on either side: whether a pause is looked for is given. -/
def streamDecision (s : SessionData) (last rtpPacket : RtpPacketInfo) (checksPause : Bool) :
    Decision :=
  if rtpPacket.timestamp = last.timestamp then .duplicate
  else if isDiscontinuity cfg s last rtpPacket then .discontinuity
  else if checksPause ∧ resetSeqNumDelta last rtpPacket * 160 < deltaTimestamp last rtpPacket then
    .pause
  else .accepted

theorem followStream_eq_none {s : SessionData} {last rtpPacket : RtpPacketInfo}
    {checksPause : Bool} : followStream cfg s last rtpPacket checksPause = none ↔
      isDiscontinuity cfg s last rtpPacket = true ∨ (checksPause = true ∧
        resetSeqNumDelta last rtpPacket * 160 < deltaTimestamp last rtpPacket) := by
  rw [followStream]
  split_ifs <;> simp [*]

variable {s : SessionData} {last rtpPacket : RtpPacketInfo} {verdict : Verdict}

/-- The decision is told by whether the stream breaks. -/
theorem decision_of_follow {checksPause : Bool}
    (hduplicate : rtpPacket.timestamp = last.timestamp → verdict = .dismissed)
    (hbroken : rtpPacket.timestamp ≠ last.timestamp →
      followStream cfg s last rtpPacket checksPause = none → verdict = .brokenUp)
    (haccepted : rtpPacket.timestamp ≠ last.timestamp →
      followStream cfg s last rtpPacket checksPause ≠ none → ∃ channel, verdict = .accepted channel) :
    decisionOf cfg s last rtpPacket verdict =
      streamDecision cfg s last rtpPacket checksPause := by
  rw [streamDecision]
  split_ifs with hsame hdiscontinuity hpause
  · rw [hduplicate hsame]
    rfl
  · rw [hbroken hsame ((followStream_eq_none cfg).mpr (.inl hdiscontinuity)), decisionOf,
      if_pos hdiscontinuity]
  · rw [hbroken hsame ((followStream_eq_none cfg).mpr (.inr hpause)), decisionOf,
      if_neg hdiscontinuity]
  · have hgoes : followStream cfg s last rtpPacket checksPause ≠ none := by
      rw [Ne, followStream_eq_none]
      exact not_or.mpr ⟨hdiscontinuity, hpause⟩
    obtain ⟨channel, hverdict⟩ := haccepted hsame hgoes
    rw [hverdict]
    rfl

theorem followSide1_decision (keys : SessionKeys) (c : Context) :
    decisionOf cfg c.session last rtpPacket (followSide1 cfg last rtpPacket keys c).1 =
      streamDecision cfg c.session last rtpPacket (cfg.rtpBreakupOnStreamPause &&
        decide (|seqNumDelta last rtpPacket| * 160 < deltaTimestamp last rtpPacket)) := by
  apply decision_of_follow
  · intro hsame
    rw [followSide1, session_bind, if_pos hsame]
    rfl
  · intro hdiffers hbroken
    rw [followSide1, session_bind, if_neg hdiffers]
    dsimp only
    rw [hbroken]
    rfl
  · intro hdiffers hgoes
    obtain ⟨delta, hdelta⟩ := Option.ne_none_iff_exists'.mp hgoes
    rw [followSide1, session_bind, if_neg hdiffers]
    dsimp only
    rw [hdelta]
    dsimp only
    rw [update_bind]
    by_cases hgap : 1 < delta ∧ delta ≤ cfg.rtpSeqGapThreshold
    · rw [if_pos hgap]
      exact ⟨1, rfl⟩
    · rw [if_neg hgap]
      exact ⟨1, rfl⟩

theorem followSide2_decision (keys : SessionKeys) (c : Context) :
    decisionOf cfg c.session last rtpPacket (followSide2 cfg last rtpPacket keys c).1 =
      streamDecision cfg c.session last rtpPacket cfg.rtpBreakupOnStreamPause := by
  apply decision_of_follow
  · intro hsame
    rw [followSide2, session_bind, if_pos hsame]
    rfl
  · intro hdiffers hbroken
    rw [followSide2, session_bind, if_neg hdiffers, hbroken]
    rfl
  · intro hdiffers hgoes
    obtain ⟨delta, hdelta⟩ := Option.ne_none_iff_exists'.mp hgoes
    rw [followSide2, session_bind, if_neg hdiffers, hdelta]
    exact ⟨2, rfl⟩

theorem streamDecision_congr {s' : SessionData} (hseq : s'.minRtpSeqDelta = s.minRtpSeqDelta)
    (htimestamp : s'.minRtpTimestampDelta = s.minRtpTimestampDelta) (checksPause : Bool) :
    streamDecision cfg s' last rtpPacket checksPause =
      streamDecision cfg s last rtpPacket checksPause := by
  rw [streamDecision, streamDecision, isDiscontinuity, isDiscontinuity, hseq, htimestamp]

/-- The first comparison of side 1 makes a difference for a pause across a reset only. -/
theorem streamDecision_eq_iff :
    streamDecision cfg s last rtpPacket (cfg.rtpBreakupOnStreamPause &&
        decide (|seqNumDelta last rtpPacket| * 160 < deltaTimestamp last rtpPacket)) =
      streamDecision cfg s last rtpPacket cfg.rtpBreakupOnStreamPause ↔
    ¬ (cfg.rtpBreakupOnStreamPause = true ∧ rtpPacket.timestamp ≠ last.timestamp ∧
      isDiscontinuity cfg s last rtpPacket = false ∧ PausesAcrossReset last rtpPacket) := by
  rw [streamDecision, streamDecision, PausesAcrossReset]
  split_ifs with hsame hdiscontinuity hfirst hpause hpause
  · simp [hsame]
  · simp [hdiscontinuity]
  · simp only [Bool.and_eq_true, decide_eq_true_eq] at hfirst
    simp only [true_iff]
    intro hacross
    omega
  · simp only [Bool.and_eq_true, decide_eq_true_eq] at hfirst
    exact absurd ⟨hfirst.1.1, hfirst.2⟩ hpause
  · simp only [Bool.and_eq_true, decide_eq_true_eq] at hfirst
    simp only [false_iff, not_not]
    exact ⟨hpause.1, hsame, eq_false_of_ne_true hdiscontinuity, hpause.2, by
      by_contra hahead
      exact hfirst ⟨⟨hpause.1, by omega⟩, hpause.2⟩⟩
  · simp only [true_iff]
    intro hacross
    exact hpause ⟨hacross.1, hacross.2.2.2.1⟩

variable (env₁ env₂ : Env)

/-- The same pair of packets is decided alike on both sides unless the stream pauses across a
reset of its sequence number. -/
theorem sides_alike_iff (keys₁ keys₂ : SessionKeys) {c₁ c₂ : Context}
    (hside1 : c₁.session.lastRtpPacketSide1 = some last)
    (hside2 : c₂.session.lastRtpPacketSide2 = some last)
    (hseq : c₁.session.minRtpSeqDelta = c₂.session.minRtpSeqDelta)
    (htimestamp : c₁.session.minRtpTimestampDelta = c₂.session.minRtpTimestampDelta) :
    decisionOf cfg c₁.session last rtpPacket
        (follow cfg env₁ rtpPacket (1, false) keys₁ c₁).1 =
      decisionOf cfg c₂.session last rtpPacket
        (follow cfg env₂ rtpPacket (2, false) keys₂ c₂).1 ↔
    ¬ (cfg.rtpBreakupOnStreamPause = true ∧ rtpPacket.timestamp ≠ last.timestamp ∧
      isDiscontinuity cfg c₂.session last rtpPacket = false ∧
      PausesAcrossReset last rtpPacket) := by
  have hfollow1 : follow cfg env₁ rtpPacket (1, false) keys₁ c₁ =
      followSide1 cfg last rtpPacket keys₁ c₁ := by
    rw [follow, session_bind, hside1]
    rfl
  have hfollow2 : follow cfg env₂ rtpPacket (2, false) keys₂ c₂ =
      followSide2 cfg last rtpPacket keys₂ c₂ := by
    rw [follow, session_bind, hside2]
    cases c₂.session.lastRtpPacketSide1 <;> rfl
  rw [hfollow1, hfollow2, followSide1_decision, followSide2_decision,
    streamDecision_congr cfg hseq htimestamp, streamDecision_eq_iff]

end

/-! ### A session at a reset -/

/-- A session whose last packet of either side is this one. -/
def followedBoth (last : RtpPacketInfo) : Context where
  shared := {}
  session := { (VoIpSession.new {} { usec := 0 } "").toSessionData with
    lastRtpPacketSide1 := some last
    lastRtpPacketSide2 := some last }

/-- The packets of a stream around the reset of its sequence number. -/
def streamPacket (seqNum : UInt16) (timestamp : UInt32) : RtpPacketInfo :=
  { seqNum := seqNum, timestamp := timestamp }

theorem sides_alike_iff_next :
    decisionOf { rtpBreakupOnStreamPause := true } (followedBoth (streamPacket 7 160)).session
        (streamPacket 7 160) (streamPacket 8 320)
        (follow { rtpBreakupOnStreamPause := true } { usec := 0 } (streamPacket 8 320) (1, false)
          { trackingId := "" } (followedBoth (streamPacket 7 160))).1 =
      decisionOf { rtpBreakupOnStreamPause := true } (followedBoth (streamPacket 7 160)).session
        (streamPacket 7 160) (streamPacket 8 320)
        (follow { rtpBreakupOnStreamPause := true } { usec := 0 } (streamPacket 8 320) (2, false)
          { trackingId := "" } (followedBoth (streamPacket 7 160))).1 := by
  apply (sides_alike_iff _ _ _ _ _ rfl rfl rfl rfl).mpr
  intro ⟨_, _, _, hahead, _⟩
  exact absurd hahead (by decide)

/-- Sequence number 0 after 65535, with a timestamp that has run ahead: side 2 breaks up. -/
theorem sides_differ_at_reset : ¬ ∀ (cfg : Config) (env : Env) (keys : SessionKeys)
    (c : Context) (last rtpPacket : RtpPacketInfo),
    c.session.lastRtpPacketSide1 = some last → c.session.lastRtpPacketSide2 = some last →
    decisionOf cfg c.session last rtpPacket (follow cfg env rtpPacket (1, false) keys c).1 =
      decisionOf cfg c.session last rtpPacket
        (follow cfg env rtpPacket (2, false) keys c).1 := by
  intro halike
  have halike := halike { rtpBreakupOnStreamPause := true } { usec := 0 } { trackingId := "" }
    (followedBoth (streamPacket 65535 0)) (streamPacket 65535 0) (streamPacket 0 1000) rfl rfl
  exact absurd halike (by decide)

end OrkAudio.VoIp
