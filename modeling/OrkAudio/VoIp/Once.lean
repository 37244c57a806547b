import OrkAudio.VoIp.Remap

/-! The same packet handed to a session twice, as when its source and its destination are both
mapped there.

Once a packet is taken in, it is the last one of its side, and the second delivery dismisses it
as a duplicate. A packet that is ignored, or is counted for a candidate, is not remembered. -/

namespace OrkAudio.VoIp

open Lib

section

variable (cfg : Config) (env₁ env₂ : Env)

/-- The counters and the last packets of both sides are the same. -/
structure SameCounts (t t' : Streams) : Prop where
  accepted : t'.accepted = t.accepted
  ignored : t'.ignored = t.ignored
  aliens1 : t'.aliens1 = t.aliens1
  aliens2 : t'.aliens2 = t.aliens2
  side1 : t'.side1 = t.side1
  side2 : t'.side2 = t.side2

/-- Two deliveries of a packet hand out audio once at most, and leave what one leaves. The
second one gets the packet as the first has left it. -/
def CountsOnce (rtpPacket : RtpPacketInfo) (keys : SessionKeys) (c : Context) : Prop :=
  let first := addRtpPacket cfg env₁ rtpPacket keys c
  let second := addRtpPacket cfg env₂ first.1.2 keys first.2
  SameCounts first.2.session.streams second.2.session.streams ∧
    second.2.audio.length ≤ c.audio.length + 1

/-- A foreign packet after which the next one of its stream counts: it becomes the candidate, it
is the candidate's but not its eleventh, or the candidate expires between the two. -/
def CountsForCandidate (t : Streams) (rtpPacket : RtpPacketInfo) : Prop :=
  (t.candidate = noSsrcCandidate ∧ rtpPacket.ssrc ≠ noSsrcCandidate ∧
    t.aliens1 ≤ 10 ∧ t.aliens2 ≤ 10) ∨
  (t.candidate ≠ noSsrcCandidate ∧ rtpPacket.ssrc = t.candidate ∧
    t.aliens1 < 10 ∧ t.aliens2 < 10) ∨
  (t.candidate ≠ noSsrcCandidate ∧ rtpPacket.ssrc ≠ t.candidate ∧
    env₁.time - t.candidateTimestamp ≤ 2 ∧ 2 < env₂.time - t.candidateTimestamp ∧
    t.aliens1 ≤ 10 ∧ t.aliens2 ≤ 10 ∧ ¬ (t.aliens1 = 0 ∧ t.aliens2 = 0))

/-- A packet that is counted again: the session ignores its RTP, or the packet is foreign and
counts for the candidate, where a session on hold does not dismiss it. -/
def CountsAgain (s : SessionData) (rtpPacket : RtpPacketInfo) : Prop :=
  isTelephoneEvent cfg s rtpPacket = false ∧
    (s.keepRtp = false ∨
      (isDismissed { s with lastRtpPacket := some rtpPacket } rtpPacket = false ∧
        s.streams.isAlien rtpPacket = true ∧
        CountsForCandidate env₁ env₂ s.streams rtpPacket))

end

section

variable {cfg : Config} {env env₁ env₂ : Env} {g g' : Gates} {t t' t'' between : Streams}
  {rtpPacket again : RtpPacketInfo}

/-! ### The sides -/

/-- Side 1 is the first to be set, and the sides are of different streams. -/
structure Distinct (t : Streams) : Prop where
  first : t.side1 = none → t.side2 = none
  apart : ∀ side1 side2, t.side1 = some side1 → t.side2 = some side2 →
    isSameStream side1 side2 = false

theorem isSameStream_iff {last rtpPacket : RtpPacketInfo} :
    isSameStream last rtpPacket = true ↔
      rtpPacket.ssrc = last.ssrc ∧ rtpPacket.destIp = last.destIp := by
  rw [isSameStream, Bool.and_eq_true, decide_eq_true_eq, decide_eq_true_eq]
  exact and_congr_right fun _ => eq_comm

theorem isSameStream_comm (last rtpPacket : RtpPacketInfo) :
    isSameStream last rtpPacket = isSameStream rtpPacket last := by
  rw [Bool.eq_iff_iff, isSameStream_iff, isSameStream_iff]
  exact and_congr eq_comm eq_comm

/-- A packet of the same stream as the last one of a side stands in for it. -/
theorem isSameStream_congr {last next other : RtpPacketInfo}
    (hsame : isSameStream last next = true) :
    isSameStream next other = isSameStream last other := by
  obtain ⟨hssrc, hdestIp⟩ := isSameStream_iff.mp hsame
  rw [Bool.eq_iff_iff, isSameStream_iff, isSameStream_iff, hssrc, hdestIp]

theorem Distinct.detected {channel : Nat × Bool} (h : Distinct t)
    (detected : Detected t rtpPacket channel t') : Distinct t' := by
  cases detected with
  | first1 hside1 =>
      refine ⟨fun hnone => absurd hnone (by simp), fun side1 side2 _ hside2 => ?_⟩
      exact absurd (hside2.symm.trans (h.first hside1)) (by simp)
  | @first2 side1 hside1 hside2 hsame =>
      refine ⟨fun hnone => absurd (hnone.symm.trans hside1) (by simp), fun a b ha hb => ?_⟩
      cases hside1.symm.trans ha
      cases hb
      exact hsame
  | side1 => exact h
  | side2 => exact h
  | alien => exact h

theorem Distinct.accepts {protocol : Protocol} (h : Distinct t)
    (accepts : Accepts cfg protocol t t') : Distinct t' := by
  rcases accepts.sides with ⟨hside1, hside2⟩ | ⟨_, _, _, hset1, hset2, hside1, hside2⟩
  · refine ⟨fun hnone => ?_, fun a b ha hb => ?_⟩
    · exact hside2.trans (h.first (hside1.symm.trans hnone))
    · exact h.apart a b (hside1.symm.trans ha) (hside2.symm.trans hb)
  · refine ⟨fun hnone => ?_, fun a b ha hb => ?_⟩
    · rw [hside1.symm.trans hnone] at hset2
      exact absurd hset2 (by simp)
    · rw [isSameStream_comm]
      exact h.apart b a (hside2.symm.trans hb) (hside1.symm.trans ha)

theorem countAlien_last (side : Side) : (t.countAlien env rtpPacket).last side = t.last side := by
  rw [Streams.countAlien]
  split_ifs <;> cases side <;> rfl

variable (t rtpPacket) in
/-- A foreign packet is put on no side, or on one of them. -/
theorem takeOver_sides : (((t.takeOver rtpPacket).1 = .dismissed ∧ (t.takeOver rtpPacket).2 = t) ∨
      ((t.takeOver rtpPacket).1 = .accepted 1 ∧
        (t.takeOver rtpPacket).2.side1 = some rtpPacket ∧
        (t.takeOver rtpPacket).2.side2 = t.side2) ∨
      ((t.takeOver rtpPacket).1 = .accepted 2 ∧
        (t.takeOver rtpPacket).2.side1 = t.side1 ∧
        (t.takeOver rtpPacket).2.side2 = some rtpPacket)) := by
  rw [Streams.takeOver]
  split_ifs
  · exact .inr (.inl ⟨rfl, rfl, rfl⟩)
  · exact .inr (.inr ⟨rfl, rfl, rfl⟩)
  · exact .inl ⟨rfl, rfl⟩

theorem Distinct.of_sides (h : Distinct t) (hside1 : t'.side1 = t.side1)
    (hside2 : t'.side2 = t.side2) : Distinct t' where
  first hnone := hside2.trans (h.first (hside1.symm.trans hnone))
  apart a b ha hb := h.apart a b (hside1.symm.trans ha) (hside2.symm.trans hb)

theorem Distinct.follows {verdict : Verdict} (h : Distinct t)
    (follows : Follows cfg env g t rtpPacket verdict t') : Distinct t' := by
  cases follows with
  | first1 hside1 => exact h.detected (.first1 hside1)
  | first2 hside1 hside2 hsame => exact h.detected (.first2 hside1 hside2 hsame)
  | duplicate1 => exact h
  | broken1 => exact h
  | duplicate2 => exact h
  | broken2 => exact h
  | @accepted1 side1 hside1 hsame =>
      refine ⟨fun hnone => absurd hnone (by simp), fun a b ha hb => ?_⟩
      cases ha
      rw [isSameStream_congr hsame]
      exact h.apart side1 b hside1 hb
  | @accepted2 side1 side2 hside1 hside2 hsame =>
      refine ⟨fun hnone => absurd (hnone.symm.trans hside1) (by simp), fun a b ha hb => ?_⟩
      cases hside1.symm.trans ha
      cases hb
      exact hsame
  | alien halien =>
      obtain ⟨side1, side2, hside1, hside2, hsame1, hsame2⟩ := halien
      have hlast1 : (t.countAlien env rtpPacket).side1 = t.side1 := countAlien_last .side1
      have hlast2 : (t.countAlien env rtpPacket).side2 = t.side2 := countAlien_last .side2
      rcases takeOver_sides (t.countAlien env rtpPacket) rtpPacket with
        ⟨_, hstays⟩ | ⟨_, htaken, hother⟩ | ⟨_, hother, htaken⟩
      · rw [hstays]
        exact h.of_sides hlast1 hlast2
      · refine ⟨fun hnone => absurd (hnone.symm.trans htaken) (by simp), fun a b ha hb => ?_⟩
        cases ha.symm.trans htaken
        cases (hother.trans (hlast2.trans hside2)).symm.trans hb
        rw [isSameStream_comm]
        exact hsame2
      · have hkept := hother.trans (hlast1.trans hside1)
        refine ⟨fun hnone => absurd (hnone.symm.trans hkept) (by simp), fun a b ha hb => ?_⟩
        cases hkept.symm.trans ha
        cases hb.symm.trans htaken
        exact hsame1

/-! ### The second delivery -/

/-- The packet is the last one of a side. -/
def OnSide (t : Streams) (rtpPacket : RtpPacketInfo) : Prop :=
  t.side1 = some rtpPacket ∨ t.side2 = some rtpPacket

theorem OnSide.accepts {protocol : Protocol} (h : OnSide between rtpPacket)
    (accepts : Accepts cfg protocol between t') : OnSide t' rtpPacket := by
  rcases accepts.sides with ⟨hside1, hside2⟩ | ⟨_, _, _, _, _, hside1, hside2⟩
  · exact h.imp hside1.trans hside2.trans
  · exact h.symm.imp hside1.trans hside2.trans

/-- A packet that is taken in is the last one of a side. -/
theorem onSide_of_accepted {channel : Nat}
    (follows : Follows cfg env g t rtpPacket (.accepted channel) between) :
    OnSide between rtpPacket := by
  generalize hverdict : Verdict.accepted channel = verdict at follows
  cases follows with
  | first1 => exact .inl rfl
  | first2 => exact .inr rfl
  | accepted1 => exact .inl rfl
  | accepted2 => exact .inr rfl
  | duplicate1 => cases hverdict
  | broken1 => cases hverdict
  | duplicate2 => cases hverdict
  | broken2 => cases hverdict
  | alien =>
      rcases takeOver_sides (t.countAlien env rtpPacket) rtpPacket with
        ⟨hdismissed, _⟩ | ⟨_, htaken, _⟩ | ⟨_, _, htaken⟩
      · rw [hdismissed] at hverdict
        cases hverdict
      · exact .inl htaken
      · exact .inr htaken

/-- The same packet, whatever its payload has been taken for. -/
structure SamePacket (rtpPacket again : RtpPacketInfo) : Prop where
  ssrc : again.ssrc = rtpPacket.ssrc
  destIp : again.destIp = rtpPacket.destIp
  timestamp : again.timestamp = rtpPacket.timestamp

theorem SamePacket.isSameStream (same : SamePacket rtpPacket again) (last : RtpPacketInfo) :
    isSameStream last again = isSameStream last rtpPacket := by
  rw [Bool.eq_iff_iff, isSameStream_iff, isSameStream_iff, same.ssrc, same.destIp]

theorem samePacket_asSpeex : SamePacket rtpPacket (asSpeex cfg rtpPacket) := by
  rw [asSpeex]
  split <;> exact ⟨rfl, rfl, rfl⟩

section

variable {verdict : Verdict}

/-- A packet of the stream of side 1. -/
theorem follows_on1 {last : RtpPacketInfo} (hside1 : t.side1 = some last)
    (hsame : isSameStream last rtpPacket = true)
    (follows : Follows cfg env g t rtpPacket verdict t') :
    (rtpPacket.timestamp = last.timestamp ∧ verdict = .dismissed ∧ t' = t) ∨
    (rtpPacket.timestamp ≠ last.timestamp ∧ verdict = .brokenUp ∧ t' = t ∧
      g.breaks cfg last rtpPacket (checksPauseSide1 cfg last rtpPacket) = true) ∨
    (rtpPacket.timestamp ≠ last.timestamp ∧ verdict = .accepted 1 ∧
      g.breaks cfg last rtpPacket (checksPauseSide1 cfg last rtpPacket) = false) := by
  have hown {side1 : RtpPacketInfo} (h : t.side1 = some side1) : side1 = last :=
    Option.some.inj (h.symm.trans hside1)
  have hother {side1 : RtpPacketInfo} (h : t.side1 = some side1) :
      isSameStream side1 rtpPacket ≠ false := by
    rw [hown h, hsame]
    simp
  cases follows with
  | first1 h => cases h.symm.trans hside1
  | first2 h _ hdiffers => exact absurd hdiffers (hother h)
  | duplicate1 h _ hequal =>
      rw [hown h] at hequal
      exact .inl ⟨hequal, rfl, rfl⟩
  | broken1 h _ hdiffers hbreaks =>
      rw [hown h] at hdiffers hbreaks
      exact .inr (.inl ⟨hdiffers, rfl, rfl, hbreaks⟩)
  | accepted1 h _ hdiffers hgoes =>
      rw [hown h] at hdiffers hgoes
      exact .inr (.inr ⟨hdiffers, rfl, hgoes⟩)
  | duplicate2 h _ hdiffers => exact absurd hdiffers (hother h)
  | broken2 h _ hdiffers => exact absurd hdiffers (hother h)
  | accepted2 h _ hdiffers => exact absurd hdiffers (hother h)
  | alien halien =>
      obtain ⟨_, _, h, _, hdiffers, _⟩ := halien
      exact absurd hdiffers (hother h)

/-- A packet of the stream of side 2. -/
theorem follows_on2 {side1 last : RtpPacketInfo} (hside1 : t.side1 = some side1)
    (hside2 : t.side2 = some last) (hforeign : isSameStream side1 rtpPacket = false)
    (hsame : isSameStream last rtpPacket = true)
    (follows : Follows cfg env g t rtpPacket verdict t') :
    (rtpPacket.timestamp = last.timestamp ∧ verdict = .dismissed ∧ t' = t) ∨
    (rtpPacket.timestamp ≠ last.timestamp ∧ verdict = .brokenUp ∧ t' = t ∧
      g.breaks cfg last rtpPacket cfg.rtpBreakupOnStreamPause = true) ∨
    (rtpPacket.timestamp ≠ last.timestamp ∧ verdict = .accepted 2 ∧
      g.breaks cfg last rtpPacket cfg.rtpBreakupOnStreamPause = false) := by
  have hown {side2 : RtpPacketInfo} (h : t.side2 = some side2) : side2 = last :=
    Option.some.inj (h.symm.trans hside2)
  have hother {other : RtpPacketInfo} (h : t.side1 = some other) :
      isSameStream other rtpPacket ≠ true := by
    rw [Option.some.inj (h.symm.trans hside1), hforeign]
    simp
  cases follows with
  | first1 h => cases h.symm.trans hside1
  | first2 _ h _ => cases h.symm.trans hside2
  | duplicate1 h hsame1 => exact absurd hsame1 (hother h)
  | broken1 h hsame1 => exact absurd hsame1 (hother h)
  | accepted1 h hsame1 => exact absurd hsame1 (hother h)
  | duplicate2 _ h _ _ hequal =>
      rw [hown h] at hequal
      exact .inl ⟨hequal, rfl, rfl⟩
  | broken2 _ h _ _ hdiffers hbreaks =>
      rw [hown h] at hdiffers hbreaks
      exact .inr (.inl ⟨hdiffers, rfl, rfl, hbreaks⟩)
  | accepted2 _ h _ _ hdiffers hgoes =>
      rw [hown h] at hdiffers hgoes
      exact .inr (.inr ⟨hdiffers, rfl, hgoes⟩)
  | alien halien =>
      obtain ⟨_, _, _, h, _, hdiffers⟩ := halien
      rw [hown h, hsame] at hdiffers
      cases hdiffers

/-- A foreign packet. -/
theorem follows_alien (halien : t.IsAlien rtpPacket)
    (follows : Follows cfg env g t rtpPacket verdict t') :
    (verdict, t') = (t.countAlien env rtpPacket).takeOver rtpPacket := by
  obtain ⟨side1, side2, hside1, hside2, hdiffers1, hdiffers2⟩ := halien
  have hother1 {last : RtpPacketInfo} (h : t.side1 = some last) :
      isSameStream last rtpPacket ≠ true := by
    rw [Option.some.inj (h.symm.trans hside1), hdiffers1]
    simp
  have hother2 {last : RtpPacketInfo} (h : t.side2 = some last) :
      isSameStream last rtpPacket ≠ true := by
    rw [Option.some.inj (h.symm.trans hside2), hdiffers2]
    simp
  cases follows with
  | first1 h => cases h.symm.trans hside1
  | first2 _ h _ => cases h.symm.trans hside2
  | duplicate1 h hsame => exact absurd hsame (hother1 h)
  | broken1 h hsame => exact absurd hsame (hother1 h)
  | accepted1 h hsame => exact absurd hsame (hother1 h)
  | duplicate2 _ h _ hsame => exact absurd hsame (hother2 h)
  | broken2 _ h _ hsame => exact absurd hsame (hother2 h)
  | accepted2 _ h _ hsame => exact absurd hsame (hother2 h)
  | alien => rfl

/-- A packet that is the last one of its side is a duplicate there. -/
theorem OnSide.duplicate (h : OnSide t rtpPacket) (distinct : Distinct t)
    (same : SamePacket rtpPacket again) (follows : Follows cfg env g t again verdict t') :
    verdict = .dismissed ∧ t' = t := by
  have hself : isSameStream rtpPacket again = true :=
    (same.isSameStream rtpPacket).trans (isSameStream_iff.mpr ⟨rfl, rfl⟩)
  by_cases hside1 : t.side1 = some rtpPacket
  · rcases follows_on1 hside1 hself follows with ⟨_, hdismissed⟩ | ⟨hdiffers, _⟩ | ⟨hdiffers, _⟩
    · exact hdismissed
    · exact absurd same.timestamp hdiffers
    · exact absurd same.timestamp hdiffers
  · have hside2 : t.side2 = some rtpPacket := h.resolve_left hside1
    obtain ⟨side1, hside1⟩ : ∃ side1, t.side1 = some side1 := by
      apply Option.ne_none_iff_exists'.mp
      intro hnone
      cases (distinct.first hnone).symm.trans hside2
    have hforeign : isSameStream side1 again = false :=
      (same.isSameStream side1).trans (distinct.apart side1 rtpPacket hside1 hside2)
    rcases follows_on2 hside1 hside2 hforeign hself follows with
      ⟨_, hdismissed⟩ | ⟨hdiffers, _⟩ | ⟨hdiffers, _⟩
    · exact hdismissed
    · exact absurd same.timestamp hdiffers
    · exact absurd same.timestamp hdiffers

end

/-- A packet that is not taken in is not taken in the second time either, and leaves the streams
as they are, unless it is foreign. -/
theorem refused_again {verdict : Verdict} (halien : ¬ t.IsAlien rtpPacket)
    (hrefused : ∀ channel, verdict ≠ .accepted channel)
    (first : Follows cfg env₁ g t rtpPacket verdict between) :
    between = t ∧ ∀ verdict' t', Follows cfg env₂ (g.next rtpPacket) t rtpPacket verdict' t' →
      t' = t ∧ ∀ channel, verdict' ≠ .accepted channel := by
  have hbreaks (last : RtpPacketInfo) (checksPause : Bool) :
      (g.next rtpPacket).breaks cfg last rtpPacket checksPause =
        g.breaks cfg last rtpPacket checksPause := rfl
  cases first with
  | first1 => exact absurd rfl (hrefused 1)
  | first2 => exact absurd rfl (hrefused 2)
  | accepted1 => exact absurd rfl (hrefused 1)
  | accepted2 => exact absurd rfl (hrefused 2)
  | alien h => exact absurd h halien
  | duplicate1 hside1 hsame hequal =>
      refine ⟨rfl, fun verdict' t' second => ?_⟩
      rcases follows_on1 hside1 hsame second with ⟨_, hverdict, hstays⟩ | ⟨hdiffers, _⟩ |
        ⟨hdiffers, _⟩
      · exact ⟨hstays, by simp [hverdict]⟩
      · exact absurd hequal hdiffers
      · exact absurd hequal hdiffers
  | broken1 hside1 hsame hdiffers hbroken =>
      refine ⟨rfl, fun verdict' t' second => ?_⟩
      rcases follows_on1 hside1 hsame second with ⟨hequal, _⟩ | ⟨_, hverdict, hstays, _⟩ |
        ⟨_, _, hgoes⟩
      · exact absurd hequal hdiffers
      · exact ⟨hstays, by simp [hverdict]⟩
      · rw [hbreaks, hbroken] at hgoes
        cases hgoes
  | duplicate2 hside1 hside2 hforeign hsame hequal =>
      refine ⟨rfl, fun verdict' t' second => ?_⟩
      rcases follows_on2 hside1 hside2 hforeign hsame second with ⟨_, hverdict, hstays⟩ |
        ⟨hdiffers, _⟩ | ⟨hdiffers, _⟩
      · exact ⟨hstays, by simp [hverdict]⟩
      · exact absurd hequal hdiffers
      · exact absurd hequal hdiffers
  | broken2 hside1 hside2 hforeign hsame hdiffers hbroken =>
      refine ⟨rfl, fun verdict' t' second => ?_⟩
      rcases follows_on2 hside1 hside2 hforeign hsame second with ⟨hequal, _⟩ |
        ⟨_, hverdict, hstays, _⟩ | ⟨_, _, hgoes⟩
      · exact absurd hequal hdiffers
      · exact ⟨hstays, by simp [hverdict]⟩
      · rw [hbreaks, hbroken] at hgoes
        cases hgoes

/-! ### A foreign packet twice -/

theorem SameCounts.refl (t : Streams) : SameCounts t t := ⟨rfl, rfl, rfl, rfl, rfl, rfl⟩

theorem IsAlien_countAlien :
    (t.countAlien env rtpPacket).IsAlien rtpPacket ↔ t.IsAlien rtpPacket := by
  have hlast1 : (t.countAlien env rtpPacket).side1 = t.side1 := countAlien_last .side1
  have hlast2 : (t.countAlien env rtpPacket).side2 = t.side2 := countAlien_last .side2
  rw [Streams.IsAlien, Streams.IsAlien, hlast1, hlast2]

/-- Where the next packet of the stream counts, this one does not take over. -/
theorem few_of_countsForCandidate (hcounts : CountsForCandidate env₁ env₂ t rtpPacket) :
    (t.countAlien env₁ rtpPacket).aliens1 ≤ 10 ∧ (t.countAlien env₁ rtpPacket).aliens2 ≤ 10 := by
  rw [Streams.countAlien]
  rcases hcounts with ⟨hnone, _, hfew⟩ | ⟨hsome, hssrc, hfew1, hfew2⟩ |
    ⟨hsome, hssrc, hlive, _, hfew1, hfew2, _⟩
  · rw [if_pos hnone]
    exact hfew
  · rw [if_neg hsome, if_pos hssrc]
    exact ⟨hfew1, hfew2⟩
  · rw [if_neg hsome, if_neg hssrc, if_neg (by omega)]
    exact ⟨hfew1, hfew2⟩

theorem takeOver_few (hfew1 : t.aliens1 ≤ 10) (hfew2 : t.aliens2 ≤ 10) :
    t.takeOver rtpPacket = (.dismissed, t) := by
  rw [Streams.takeOver, if_neg (by omega), if_neg (by omega)]

variable (t rtpPacket) in
/-- Taking over leaves one of the counts. -/
theorem takeOver_aliens : (t.takeOver rtpPacket).2.aliens1 = t.aliens1 ∨
    (t.takeOver rtpPacket).2.aliens2 = t.aliens2 := by
  rw [Streams.takeOver]
  split_ifs
  · exact .inr rfl
  · exact .inl rfl
  · exact .inl rfl

/-- The counts after the next packet of the candidate. -/
theorem takeOver_counted (hsome : t.candidate ≠ noSsrcCandidate)
    (hssrc : rtpPacket.ssrc = t.candidate) :
    ((t.countAlien env rtpPacket).takeOver rtpPacket).2.aliens1 ≠ t.aliens1 ∨
      ((t.countAlien env rtpPacket).takeOver rtpPacket).2.aliens2 ≠ t.aliens2 := by
  have hcounted : (t.countAlien env rtpPacket).aliens1 = t.aliens1 + 1 ∧
      (t.countAlien env rtpPacket).aliens2 = t.aliens2 + 1 := by
    rw [Streams.countAlien, if_neg hsome, if_pos hssrc]
    exact ⟨rfl, rfl⟩
  apply (takeOver_aliens (t.countAlien env rtpPacket) rtpPacket).imp
  · intro hkept
    rw [hkept, hcounted.1]
    exact Nat.succ_ne_self _
  · intro hkept
    rw [hkept, hcounted.2]
    exact Nat.succ_ne_self _

variable (env₂) in
/-- What the second of two foreign packets makes of the counts, when the first one has not
taken a side over. -/
theorem alien_twice (hfew1 : (t.countAlien env₁ rtpPacket).aliens1 ≤ 10)
    (hfew2 : (t.countAlien env₁ rtpPacket).aliens2 ≤ 10) :
    let once := t.countAlien env₁ rtpPacket
    let taken := (once.countAlien env₂ rtpPacket).takeOver rtpPacket
    (CountsForCandidate env₁ env₂ t rtpPacket ∧
      (taken.2.aliens1 ≠ once.aliens1 ∨ taken.2.aliens2 ≠ once.aliens2)) ∨
    (¬ CountsForCandidate env₁ env₂ t rtpPacket ∧ SameCounts once taken.2 ∧
      taken.1 = .dismissed) := by
  dsimp only
  by_cases hnone : t.candidate = noSsrcCandidate
  · have honce : t.countAlien env₁ rtpPacket = { t with
        candidate := rtpPacket.ssrc
        candidateTimestamp := rtpPacket.arrivalTimestamp % 4294967296 } := by
      rw [Streams.countAlien, if_pos hnone]
    rw [honce] at hfew1 hfew2 ⊢
    by_cases hsentinel : rtpPacket.ssrc = noSsrcCandidate
    · apply Or.inr
      rw [Streams.countAlien, if_pos hsentinel, takeOver_few hfew1 hfew2]
      refine ⟨?_, ⟨rfl, rfl, rfl, rfl, rfl, rfl⟩, rfl⟩
      intro hcounts
      rcases hcounts with ⟨_, hssrc, _⟩ | ⟨hsome, _⟩ | ⟨hsome, _⟩
      · exact hssrc hsentinel
      · exact hsome hnone
      · exact hsome hnone
    · exact .inl ⟨.inl ⟨hnone, hsentinel, hfew1, hfew2⟩, takeOver_counted hsentinel rfl⟩
  · by_cases hssrc : rtpPacket.ssrc = t.candidate
    · have honce : t.countAlien env₁ rtpPacket = { t with
          candidateTimestamp := rtpPacket.arrivalTimestamp % 4294967296
          aliens1 := t.aliens1 + 1
          aliens2 := t.aliens2 + 1 } := by
        rw [Streams.countAlien, if_neg hnone, if_pos hssrc]
      rw [honce] at hfew1 hfew2 ⊢
      exact .inl ⟨.inr (.inl ⟨hnone, hssrc, hfew1, hfew2⟩), takeOver_counted hnone hssrc⟩
    · by_cases hlate : env₁.time - t.candidateTimestamp > 2
      · have honce : t.countAlien env₁ rtpPacket =
            { t with candidate := noSsrcCandidate, aliens1 := 0, aliens2 := 0 } := by
          rw [Streams.countAlien, if_neg hnone, if_neg hssrc, if_pos hlate]
        rw [honce, Streams.countAlien, if_pos rfl, takeOver_few (Nat.zero_le 10) (Nat.zero_le 10)]
        refine .inr ⟨?_, ⟨rfl, rfl, rfl, rfl, rfl, rfl⟩, rfl⟩
        intro hcounts
        rcases hcounts with ⟨hsome, _⟩ | ⟨_, hequal, _⟩ | ⟨_, _, hlive, _⟩
        · exact hnone hsome
        · exact hssrc hequal
        · omega
      · have honce : t.countAlien env₁ rtpPacket = t := by
          rw [Streams.countAlien, if_neg hnone, if_neg hssrc, if_neg hlate]
        rw [honce] at hfew1 hfew2 ⊢
        by_cases hlate2 : env₂.time - t.candidateTimestamp > 2
        · have htwice : t.countAlien env₂ rtpPacket =
              { t with candidate := noSsrcCandidate, aliens1 := 0, aliens2 := 0 } := by
            rw [Streams.countAlien, if_neg hnone, if_neg hssrc, if_pos hlate2]
          rw [htwice, takeOver_few (Nat.zero_le 10) (Nat.zero_le 10)]
          by_cases hzero : t.aliens1 = 0 ∧ t.aliens2 = 0
          · refine .inr ⟨?_, ⟨rfl, rfl, hzero.1.symm, hzero.2.symm, rfl, rfl⟩, rfl⟩
            intro hcounts
            rcases hcounts with ⟨hsome, _⟩ | ⟨_, hequal, _⟩ | ⟨_, _, _, _, _, _, hcounted⟩
            · exact hnone hsome
            · exact hssrc hequal
            · exact hcounted hzero
          · refine .inl ⟨.inr (.inr ⟨hnone, hssrc, by omega, hlate2, hfew1, hfew2, hzero⟩), ?_⟩
            rw [← not_and_or]
            intro hzeros
            exact hzero ⟨hzeros.1.symm, hzeros.2.symm⟩
        · have htwice : t.countAlien env₂ rtpPacket = t := by
            rw [Streams.countAlien, if_neg hnone, if_neg hssrc, if_neg hlate2]
          rw [htwice, takeOver_few hfew1 hfew2]
          refine .inr ⟨?_, .refl t, rfl⟩
          intro hcounts
          rcases hcounts with ⟨hsome, _⟩ | ⟨_, hequal, _⟩ | ⟨_, _, _, hlate, _⟩
          · exact hnone hsome
          · exact hssrc hequal
          · exact hlate2 hlate

/-! ### Two deliveries -/

theorem takeOver_dismissed (hdismissed : (t.takeOver rtpPacket).1 = .dismissed) :
    (t.takeOver rtpPacket).2 = t ∧ t.aliens1 ≤ 10 ∧ t.aliens2 ≤ 10 := by
  rw [Streams.takeOver] at hdismissed ⊢
  split_ifs at hdismissed ⊢ with hmany1 hmany2
  exact ⟨rfl, Nat.le_of_not_lt hmany1, Nat.le_of_not_lt hmany2⟩

theorem takeOver_not_brokenUp : (t.takeOver rtpPacket).1 ≠ .brokenUp := by
  rw [Streams.takeOver]
  split_ifs <;> simp

/-- The packet before makes no difference but for the interruption it may end. -/
theorem next_isDismissed (hdismissed : g.isDismissed rtpPacket = false) :
    (g.next rtpPacket).isDismissed rtpPacket =
      ({ g with lastRtpPacket := some rtpPacket } : Gates).isDismissed rtpPacket := by
  rw [Gates.isDismissed, Bool.or_eq_false_iff] at hdismissed
  have hstays : 18 < rtpPacket.payloadType.toNat → g.staysOnHold rtpPacket = g.onHold := by
    intro hdynamic
    rw [Gates.staysOnHold]
    cases hlast : g.lastRtpPacket with
    | none => simp
    | some last =>
        have hoff := hdismissed.2
        rw [hlast, Option.isSome_some, decide_eq_true hdynamic, Bool.and_true,
          Bool.and_true] at hoff
        rw [hoff, Bool.false_and]
  rw [Gates.isDismissed, Gates.isDismissed, Gates.next]
  by_cases hdynamic : 18 < rtpPacket.payloadType.toNat
  · rw [hstays hdynamic]
  · simp [hdynamic]

theorem isDismissed_of_isDismissed (hdismissed : g.isDismissed rtpPacket = true) :
    ({ g with lastRtpPacket := some rtpPacket } : Gates).isDismissed rtpPacket = true := by
  rw [Gates.isDismissed, Bool.or_eq_true] at hdismissed ⊢
  apply hdismissed.imp_right
  intro hheld
  rw [Bool.and_eq_true, Bool.and_eq_true] at hheld
  rw [Bool.and_eq_true, Bool.and_eq_true]
  exact ⟨⟨hheld.1.1, rfl⟩, hheld.2⟩

/-- A packet that is not taken in leaves nothing, where the session keeps its RTP. -/
theorem Course.refused {result : Bool × RtpPacketInfo} {chunks : List Output}
    (course : Course cfg env t g again result t' g' chunks) (hkept : g.keepRtp = true)
    (hrefused : ∀ verdict u, Follows cfg env (g.next again) t again verdict u →
      u = t ∧ ∀ channel, verdict ≠ .accepted channel) : t' = t ∧ chunks = [] := by
  cases course with
  | event => exact ⟨rfl, rfl⟩
  | ignored _ hignored =>
      rw [hkept] at hignored
      cases hignored
  | dismissed => exact ⟨rfl, rfl⟩
  | passedOver _ _ _ follows => exact ⟨(hrefused _ _ follows).1, rfl⟩
  | brokenUp _ _ _ follows => exact ⟨(hrefused _ _ follows).1, rfl⟩
  | accepted _ _ _ follows => exact absurd rfl ((hrefused _ _ follows).2 _)

/-- A foreign packet that was dismissed, once more. -/
theorem Course.alien_again {s : SessionData} {result : Bool × RtpPacketInfo}
    {chunks : List Output} (halien : s.streams.IsAlien rtpPacket)
    (hevent : s.gates.isTelephoneEvent cfg rtpPacket = false)
    (hkept : s.gates.keepRtp = true) (hdismissed : s.gates.isDismissed rtpPacket = false)
    (hfew1 : (s.streams.countAlien env₁ rtpPacket).aliens1 ≤ 10)
    (hfew2 : (s.streams.countAlien env₁ rtpPacket).aliens2 ≤ 10)
    (second : Course cfg env₂ (s.streams.countAlien env₁ rtpPacket) (s.gates.next rtpPacket)
      rtpPacket result t'' g' chunks) :
    SameCounts (s.streams.countAlien env₁ rtpPacket) t'' ∧ chunks.length ≤ 1 ↔
      ¬ CountsAgain cfg env₁ env₂ s rtpPacket := by
  have htwice := alien_twice env₂ hfew1 hfew2
  have hdismissal := next_isDismissed hdismissed
  have hagain (hlet : (s.gates.next rtpPacket).isDismissed rtpPacket = false) :
      CountsAgain cfg env₁ env₂ s rtpPacket ↔ CountsForCandidate env₁ env₂ s.streams rtpPacket := by
    constructor
    · intro ⟨_, hcause⟩
      rcases hcause with hignored | ⟨_, _, hcounts⟩
      · exact absurd (hignored.symm.trans hkept) (by simp)
      · exact hcounts
    · intro hcounts
      exact ⟨hevent, .inr ⟨hdismissal.symm.trans hlet, Streams.isAlien_iff.mpr halien, hcounts⟩⟩
  have hreached {verdict : Verdict} {u : Streams} {g₂ : Gates}
      (follows : Follows cfg env₂ g₂ (s.streams.countAlien env₁ rtpPacket) rtpPacket verdict u) :=
    follows_alien (IsAlien_countAlien.mpr halien) follows
  cases second with
  | event htelephone => exact absurd (htelephone.symm.trans hevent) (by simp)
  | ignored _ hignored => exact absurd (hignored.symm.trans hkept) (by simp)
  | dismissed _ _ hheld =>
      refine iff_of_true ⟨.refl _, Nat.zero_le 1⟩ ?_
      intro ⟨_, hcause⟩
      rcases hcause with hignored | ⟨hlet, _⟩
      · exact absurd (hignored.symm.trans hkept) (by simp)
      · exact absurd (hlet.symm.trans (hdismissal.symm.trans hheld)) (by simp)
  | passedOver _ _ hlet follows =>
      rw [hagain hlet]
      have htaken := hreached follows
      rw [Prod.mk.injEq] at htaken
      rw [htaken.2]
      rcases htwice with ⟨hcounts, hdiffers⟩ | ⟨hcounts, hsame, _⟩
      · refine iff_of_false ?_ (not_not_intro hcounts)
        intro ⟨hsame, _⟩
        rcases hdiffers with hdiffers | hdiffers
        · exact hdiffers hsame.aliens1
        · exact hdiffers hsame.aliens2
      · exact iff_of_true ⟨hsame, Nat.zero_le 1⟩ hcounts
  | brokenUp _ _ _ follows =>
      have htaken := hreached follows
      rw [Prod.mk.injEq] at htaken
      exact absurd htaken.1.symm takeOver_not_brokenUp
  | accepted _ _ hlet follows accepts =>
      rw [hagain hlet]
      have htaken := hreached follows
      rw [Prod.mk.injEq] at htaken
      rcases htwice with ⟨hcounts, hdiffers⟩ | ⟨_, _, hdismissed⟩
      · refine iff_of_false ?_ (not_not_intro hcounts)
        intro ⟨hsame, _⟩
        rw [← htaken.2, ← accepts.aliens1, ← accepts.aliens2] at hdiffers
        rcases hdiffers with hdiffers | hdiffers
        · exact hdiffers hsame.aliens1
        · exact hdiffers hsame.aliens2
      · exact absurd (htaken.1.trans hdismissed) (by simp)

theorem twice_iff {s : SessionData} {result result' : Bool × RtpPacketInfo} {g'' : Gates}
    {chunks chunks' : List Output} (distinct : Distinct s.streams)
    (first : Course cfg env₁ s.streams s.gates rtpPacket result t' g' chunks)
    (second : Course cfg env₂ t' g' result.2 result' t'' g'' chunks') :
    SameCounts t' t'' ∧ (chunks ++ chunks').length ≤ 1 ↔
      ¬ CountsAgain cfg env₁ env₂ s rtpPacket := by
  have hreaches (hkept : s.gates.keepRtp = true) (again : CountsAgain cfg env₁ env₂ s rtpPacket) :
      s.streams.IsAlien rtpPacket ∧ CountsForCandidate env₁ env₂ s.streams rtpPacket := by
    obtain ⟨_, hignored | ⟨_, halien, hcounts⟩⟩ := again
    · exact absurd (hignored.symm.trans hkept) (by simp)
    · exact ⟨Streams.isAlien_iff.mp halien, hcounts⟩
  cases first with
  | event hevent hprotocol htype =>
      have hagain : g'.isTelephoneEvent cfg rtpPacket = true := by
        rw [Gates.isTelephoneEvent, hprotocol, htype]
        exact hevent
      have hnot : ¬ CountsAgain cfg env₁ env₂ s rtpPacket := by
        intro ⟨hother, _⟩
        exact absurd (hother.symm.trans hevent) (by simp)
      cases second with
      | event => exact iff_of_true ⟨.refl _, Nat.zero_le 1⟩ hnot
      | ignored hother => exact absurd (hother.symm.trans hagain) (by simp)
      | dismissed hother => exact absurd (hother.symm.trans hagain) (by simp)
      | passedOver hother => exact absurd (hother.symm.trans hagain) (by simp)
      | brokenUp hother => exact absurd (hother.symm.trans hagain) (by simp)
      | accepted hother => exact absurd (hother.symm.trans hagain) (by simp)
  | ignored hevent hignored =>
      have hagain : CountsAgain cfg env₁ env₂ s rtpPacket := ⟨hevent, .inl hignored⟩
      refine iff_of_false ?_ (not_not_intro hagain)
      intro ⟨hsame, _⟩
      cases second with
      | event hother => exact absurd (hother.symm.trans hevent) (by simp)
      | ignored => exact absurd hsame.ignored (Nat.succ_ne_self _)
      | dismissed _ hkept => exact absurd (hkept.symm.trans hignored) (by simp)
      | passedOver _ hkept => exact absurd (hkept.symm.trans hignored) (by simp)
      | brokenUp _ hkept => exact absurd (hkept.symm.trans hignored) (by simp)
      | accepted _ hkept => exact absurd (hkept.symm.trans hignored) (by simp)
  | dismissed hevent hkept hdismissed =>
      have hnot : ¬ CountsAgain cfg env₁ env₂ s rtpPacket := by
        intro ⟨_, hcause⟩
        rcases hcause with hignored | ⟨hlet, _⟩
        · exact absurd (hignored.symm.trans hkept) (by simp)
        · exact absurd (hlet.symm.trans (isDismissed_of_isDismissed hdismissed)) (by simp)
      cases second with
      | event hother => exact absurd (hother.symm.trans hevent) (by simp)
      | ignored _ hignored => exact absurd (hignored.symm.trans hkept) (by simp)
      | dismissed => exact iff_of_true ⟨.refl _, Nat.zero_le 1⟩ hnot
      | passedOver _ _ hlet => exact absurd (hlet.symm.trans hdismissed) (by simp)
      | brokenUp _ _ hlet => exact absurd (hlet.symm.trans hdismissed) (by simp)
      | accepted _ _ hlet => exact absurd (hlet.symm.trans hdismissed) (by simp)
  | passedOver hevent hkept hdismissed follows =>
      by_cases halien : s.streams.IsAlien rtpPacket
      · have htaken := follows_alien halien follows
        rw [Prod.mk.injEq] at htaken
        obtain ⟨hstays, hfew1, hfew2⟩ := takeOver_dismissed htaken.1.symm
        rw [htaken.2, hstays] at second ⊢
        exact second.alien_again halien hevent hkept hdismissed hfew1 hfew2
      · have hrefused : ∀ channel, Verdict.dismissed ≠ .accepted channel := by simp
        obtain ⟨rfl, hagain⟩ := refused_again halien hrefused follows
        obtain ⟨hsame, hchunks⟩ := second.refused hkept hagain
        rw [hsame, hchunks]
        exact iff_of_true ⟨.refl _, Nat.zero_le 1⟩ fun again => halien (hreaches hkept again).1
  | brokenUp hevent hkept hdismissed follows =>
      have halien : ¬ s.streams.IsAlien rtpPacket := by
        intro halien
        have htaken := follows_alien halien follows
        rw [Prod.mk.injEq] at htaken
        exact absurd htaken.1.symm takeOver_not_brokenUp
      have hrefused : ∀ channel, Verdict.brokenUp ≠ .accepted channel := by simp
      obtain ⟨rfl, hagain⟩ := refused_again halien hrefused follows
      obtain ⟨hsame, hchunks⟩ := second.refused hkept hagain
      rw [hsame, hchunks]
      exact iff_of_true ⟨.refl _, Nat.zero_le 1⟩ fun again => halien (hreaches hkept again).1
  | @accepted channel between t' rtpPacket' chunks hevent hkept hdismissed follows accepts hcount
      hpacket =>
      have same : SamePacket rtpPacket rtpPacket' := by
        rcases hpacket with rfl | rfl
        · exact ⟨rfl, rfl, rfl⟩
        · exact samePacket_asSpeex
      have onSide := (onSide_of_accepted follows).accepts accepts
      obtain ⟨hsame, hchunks⟩ := second.refused hkept fun verdict u follows' => by
        obtain ⟨hverdict, hstays⟩ :=
          onSide.duplicate ((distinct.follows follows).accepts accepts) same follows'
        exact ⟨hstays, by simp [hverdict]⟩
      rw [hsame, hchunks, List.append_nil]
      refine iff_of_true ⟨.refl _, hcount⟩ fun again => ?_
      obtain ⟨halien, hcounts⟩ := hreaches hkept again
      obtain ⟨hfew1, hfew2⟩ := few_of_countsForCandidate hcounts
      have htaken := follows_alien halien follows
      rw [takeOver_few hfew1 hfew2, Prod.mk.injEq] at htaken
      cases htaken.1

theorem distinct_course {s : SessionData} {result : Bool × RtpPacketInfo} {chunks : List Output}
    (h : Distinct s.streams)
    (course : Course cfg env s.streams s.gates rtpPacket result t' g' chunks) : Distinct t' := by
  cases course with
  | event => exact h
  | dismissed => exact h
  | ignored _ _ hbetween =>
      rcases hbetween with rfl | detected
      · exact h.of_sides rfl rfl
      · exact (h.detected detected).of_sides rfl rfl
  | passedOver _ _ _ follows => exact h.follows follows
  | brokenUp _ _ _ follows => exact h.follows follows
  | accepted _ _ _ follows accepts => exact (h.follows follows).accepts accepts

end

section

variable {cfg : Config} {keys : SessionKeys} {start c : Context} {log : List Received}

theorem distinct_fed {cond : SessionData → RtpPacketInfo → Prop}
    (hside1 : start.session.lastRtpPacketSide1 = none)
    (hside2 : start.session.lastRtpPacketSide2 = none)
    (fed : Fed cfg keys cond start log c) : Distinct c.session.streams := by
  induction fed with
  | start =>
      refine ⟨fun _ => hside2, fun side1 _ h _ => ?_⟩
      cases hside1.symm.trans h
  | @packet log c env rtpPacket _ _ ih =>
      obtain ⟨t', g', chunks, course, hflow⟩ := addRtpPacket_course cfg env rtpPacket keys c
      rw [(flow_eq_iff.mp hflow).1]
      exact distinct_course ih course
  | elsewhere _ hstreams ih =>
      rw [hstreams]
      exact ih

/-- In every session that has begun without packets, a packet delivered twice counts once
unless it is one that is counted again. -/
theorem counts_once_iff (hside1 : start.session.lastRtpPacketSide1 = none)
    (hside2 : start.session.lastRtpPacketSide2 = none)
    (fed : Fed cfg keys (fun _ _ => True) start log c) (env₁ env₂ : Env)
    (rtpPacket : RtpPacketInfo) :
    CountsOnce cfg env₁ env₂ rtpPacket keys c ↔
      ¬ CountsAgain cfg env₁ env₂ c.session rtpPacket := by
  obtain ⟨t', g', chunks, first, hfirst⟩ := addRtpPacket_course cfg env₁ rtpPacket keys c
  rw [CountsOnce]
  generalize addRtpPacket cfg env₁ rtpPacket keys c = once at first hfirst ⊢
  obtain ⟨hstreams, hgates, haudio⟩ := flow_eq_iff.mp hfirst
  obtain ⟨t'', g'', chunks', second, hsecond⟩ :=
    addRtpPacket_course cfg env₂ once.1.2 keys once.2
  obtain ⟨hstreams', _, haudio'⟩ := flow_eq_iff.mp hsecond
  rw [hstreams, hgates] at second
  rw [hstreams, hstreams', haudio', haudio, ← twice_iff (distinct_fed hside1 hside2 fed) first second]
  simp only [List.length_append]
  apply and_congr_right
  intro _
  omega

end

theorem counts_once_iff_first :
    CountsOnce {} { usec := 0 } { usec := 0 } (ssrcPacket 1 0) { trackingId := "" } newContext := by
  apply (counts_once_iff rfl rfl .start { usec := 0 } { usec := 0 } (ssrcPacket 1 0)).mpr
  intro ⟨_, hcause⟩
  rcases hcause with hignored | ⟨_, halien, _⟩
  · exact absurd hignored (by decide)
  · exact absurd halien (by decide)

/-- A packet of a third stream is counted by both deliveries. -/
theorem third_stream_counts_twice : ¬ ∀ (cfg : Config) (keys : SessionKeys) (start c : Context)
    (log : List Received) (env₁ env₂ : Env) (rtpPacket : RtpPacketInfo),
    start.session.lastRtpPacketSide1 = none → start.session.lastRtpPacketSide2 = none →
    Fed cfg keys (fun _ _ => True) start log c →
    CountsOnce cfg env₁ env₂ rtpPacket keys c := by
  intro honce
  have fed : Fed {} { trackingId := "" } (fun _ _ => True) newContext
      (feed {} { usec := 0 } { trackingId := "" } [ssrcPacket 1 0, ssrcPacket 2 0]
        ([], newContext)).1
      (feed {} { usec := 0 } { trackingId := "" } [ssrcPacket 1 0, ssrcPacket 2 0]
        ([], newContext)).2 := by
    apply Fed.feed .start
    decide +kernel
  have hcounts := honce {} { trackingId := "" } newContext _ _ { usec := 0 } { usec := 0 }
    (ssrcPacket 3 0) rfl rfl fed
  exact absurd hcounts.1.aliens1 (by decide +kernel)

end OrkAudio.VoIp
