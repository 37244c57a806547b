import OrkAudio.VoIp.Aside

/-! What an RTP packet does to the streams of a session, with everything beside them left out.

`Follows` is one constructor for each way in which a packet is taken for one of the two sides
or for neither, and `addRtpPacket_course` says how far a packet gets. -/

namespace OrkAudio.VoIp

open Lib

section

variable (cfg : Config) (env : Env)

/-! ### A packet of neither side -/

namespace Streams

/-- A packet of neither side is counted for the candidate. -/
def countAlien (t : Streams) (rtpPacket : RtpPacketInfo) : Streams :=
  if t.candidate = noSsrcCandidate then
    { t with
      candidate := rtpPacket.ssrc
      candidateTimestamp := rtpPacket.arrivalTimestamp % 4294967296 }
  else if rtpPacket.ssrc = t.candidate then
    { t with
      candidateTimestamp := rtpPacket.arrivalTimestamp % 4294967296
      aliens1 := t.aliens1 + 1
      aliens2 := t.aliens2 + 1 }
  else if env.time - t.candidateTimestamp > 2 then
    { t with candidate := noSsrcCandidate, aliens1 := 0, aliens2 := 0 }
  else t

/-- The candidate takes a side over once it has been counted often enough. -/
def takeOver (t : Streams) (rtpPacket : RtpPacketInfo) : Verdict × Streams :=
  if t.aliens1 > 10 then
    (.accepted 1, { t with
      aliens1 := 0, candidate := noSsrcCandidate, side1 := some rtpPacket, mapped := false })
  else if t.aliens2 > 10 then
    (.accepted 2, { t with
      aliens2 := 0, candidate := noSsrcCandidate, side2 := some rtpPacket, mapped := false })
  else (.dismissed, t)

/-- The packet belongs to neither of the two sides. -/
def IsAlien (t : Streams) (rtpPacket : RtpPacketInfo) : Prop :=
  ∃ side1 side2, t.side1 = some side1 ∧ t.side2 = some side2 ∧
    isSameStream side1 rtpPacket = false ∧ isSameStream side2 rtpPacket = false

end Streams

/-! ### What following leaves alone -/

/-- Everything but the streams and what is counted of their packets. -/
def Context.offStreams (c : Context) : Context :=
  { c with
    session := { c.session with
      lastRtpPacketSide1 := none
      lastRtpPacketSide2 := none
      mappedS1S2 := false
      numAlienRtpPacketsS1 := 0
      numAlienRtpPacketsS2 := 0
      ssrcCandidate := 0
      ssrcCandidateTimestamp := 0
      lastRtpStreamStart := 0
      highestRtpSeqNumDelta := 0
      rtpNumSeqGaps := 0
      rtpNumMissingPkts := 0 } }

theorem Keeps.comp {α β γ : Type} {read : Context → β} {m : SessionM α} (keeps : Keeps read m)
    (f : β → γ) : Keeps (fun c => f (read c)) m :=
  fun keys c => congrArg f (keeps keys c)

theorem offStreams_follow (rtpPacket : RtpPacketInfo) (channel : Nat × Bool) :
    Keeps Context.offStreams (follow cfg env rtpPacket channel) := by
  obtain ⟨channel, first⟩ := channel
  cases first with
  | true => exact .pure _
  | false =>
      unfold follow
      apply Keeps.bind .session
      intro s
      have hside1 (last : RtpPacketInfo) :
          Keeps Context.offStreams (followSide1 cfg last rtpPacket) := by
        unfold followSide1
        apply Keeps.bind .session
        intro s
        apply Keeps.ite (.pure _)
        dsimp only
        split
        · exact .pure _
        · exact .bind (.update fun c => rfl) fun _ =>
            .whenThen (.update fun c => rfl) (.bind (.update fun c => rfl) fun _ => .pure _)
      have hside2 (last : RtpPacketInfo) :
          Keeps Context.offStreams (followSide2 cfg last rtpPacket) := by
        unfold followSide2
        apply Keeps.bind .session
        intro s
        apply Keeps.ite (.pure _)
        split
        · exact .pure _
        · exact .bind (.update fun c => rfl) fun _ => .bind (.update fun c => rfl) fun _ => .pure _
      have halien : Keeps Context.offStreams (followAlien env rtpPacket) := by
        unfold followAlien
        apply Keeps.bind
        · apply Keeps.update
          intro c
          unfold countAlien
          split_ifs <;> rfl
        · exact fun _ => .bind .session fun s => .ite (.bind (.update fun c => rfl) fun _ => .pure _)
            (.ite (.bind (.update fun c => rfl) fun _ => .pure _) (.pure _))
      split
      · exact hside1 _
      · exact hside2 _
      · exact halien

theorem offStreams_mapChannels (channel : Nat) :
    Keeps Context.offStreams (mapChannels cfg channel) := by
  unfold mapChannels
  apply Keeps.bind .session
  intro s
  cases s.lastRtpPacketSide1 with
  | none => exact .pure _
  | some side1 =>
      cases s.lastRtpPacketSide2 with
      | none => exact .pure _
      | some side2 =>
          exact .ite (.bind (.update fun c => rfl) fun _ =>
            .ite (.bind (.update fun c => rfl) fun _ => .pure _) (.pure _)) (.pure _)

/-! ### Following -/

/-- A discontinuity, or a pause where it is looked for. -/
def Gates.breaks (g : Gates) (last rtpPacket : RtpPacketInfo) (checksPause : Bool) : Bool :=
  (cfg.rtpDiscontinuityDetect && decide (|seqNumDelta last rtpPacket| > g.minRtpSeqDelta) &&
    decide (|(rtpPacket.timestamp.toNat : Int) - last.timestamp.toNat| >
      g.minRtpTimestampDelta)) ||
  (checksPause && decide (resetSeqNumDelta last rtpPacket * 160 < deltaTimestamp last rtpPacket))

/-- Whether a pause is looked for on side 1. -/
def checksPauseSide1 (last rtpPacket : RtpPacketInfo) : Bool :=
  cfg.rtpBreakupOnStreamPause &&
    decide (|seqNumDelta last rtpPacket| * 160 < deltaTimestamp last rtpPacket)

theorem followStream_none_iff {s : SessionData} {last rtpPacket : RtpPacketInfo}
    {checksPause : Bool} : followStream cfg s last rtpPacket checksPause = none ↔
      s.gates.breaks cfg last rtpPacket checksPause = true := by
  have hdiscontinuity : isDiscontinuity cfg s last rtpPacket =
      (cfg.rtpDiscontinuityDetect &&
        decide (|seqNumDelta last rtpPacket| > s.gates.minRtpSeqDelta) &&
        decide (|(rtpPacket.timestamp.toNat : Int) - last.timestamp.toNat| >
          s.gates.minRtpTimestampDelta)) := rfl
  rw [followStream, Gates.breaks, ← hdiscontinuity]
  clear hdiscontinuity
  split_ifs <;> simp [*]

/-- What becomes of a packet that reaches the streams, and what it makes of them. -/
inductive Follows (g : Gates) (t : Streams) (rtpPacket : RtpPacketInfo) : Verdict → Streams → Prop
  | first1 : t.side1 = none →
      Follows g t rtpPacket (.accepted 1) { t with side1 := some rtpPacket }
  | first2 {side1 : RtpPacketInfo} : t.side1 = some side1 → t.side2 = none →
      isSameStream side1 rtpPacket = false →
      Follows g t rtpPacket (.accepted 2) { t with side2 := some rtpPacket }
  | duplicate1 {side1 : RtpPacketInfo} : t.side1 = some side1 →
      isSameStream side1 rtpPacket = true → rtpPacket.timestamp = side1.timestamp →
      Follows g t rtpPacket .dismissed t
  | broken1 {side1 : RtpPacketInfo} : t.side1 = some side1 →
      isSameStream side1 rtpPacket = true → rtpPacket.timestamp ≠ side1.timestamp →
      g.breaks cfg side1 rtpPacket (checksPauseSide1 cfg side1 rtpPacket) = true →
      Follows g t rtpPacket .brokenUp t
  | accepted1 {side1 : RtpPacketInfo} : t.side1 = some side1 →
      isSameStream side1 rtpPacket = true → rtpPacket.timestamp ≠ side1.timestamp →
      g.breaks cfg side1 rtpPacket (checksPauseSide1 cfg side1 rtpPacket) = false →
      Follows g t rtpPacket (.accepted 1) { t with side1 := some rtpPacket, aliens1 := 0 }
  | duplicate2 {side1 side2 : RtpPacketInfo} : t.side1 = some side1 → t.side2 = some side2 →
      isSameStream side1 rtpPacket = false → isSameStream side2 rtpPacket = true →
      rtpPacket.timestamp = side2.timestamp → Follows g t rtpPacket .dismissed t
  | broken2 {side1 side2 : RtpPacketInfo} : t.side1 = some side1 → t.side2 = some side2 →
      isSameStream side1 rtpPacket = false → isSameStream side2 rtpPacket = true →
      rtpPacket.timestamp ≠ side2.timestamp →
      g.breaks cfg side2 rtpPacket cfg.rtpBreakupOnStreamPause = true →
      Follows g t rtpPacket .brokenUp t
  | accepted2 {side1 side2 : RtpPacketInfo} : t.side1 = some side1 → t.side2 = some side2 →
      isSameStream side1 rtpPacket = false → isSameStream side2 rtpPacket = true →
      rtpPacket.timestamp ≠ side2.timestamp →
      g.breaks cfg side2 rtpPacket cfg.rtpBreakupOnStreamPause = false →
      Follows g t rtpPacket (.accepted 2) { t with side2 := some rtpPacket, aliens2 := 0 }
  | alien : t.IsAlien rtpPacket →
      Follows g t rtpPacket ((t.countAlien env rtpPacket).takeOver rtpPacket).1
        ((t.countAlien env rtpPacket).takeOver rtpPacket).2

/-- The sides that a packet finds or gets: its channel, whether it is the first one there,
and the streams with it. -/
inductive Detected (t : Streams) (rtpPacket : RtpPacketInfo) : Nat × Bool → Streams → Prop
  | first1 : t.side1 = none →
      Detected t rtpPacket (1, true) { t with side1 := some rtpPacket }
  | first2 {side1 : RtpPacketInfo} : t.side1 = some side1 → t.side2 = none →
      isSameStream side1 rtpPacket = false →
      Detected t rtpPacket (2, true) { t with side2 := some rtpPacket }
  | side1 {side1 : RtpPacketInfo} : t.side1 = some side1 →
      isSameStream side1 rtpPacket = true → Detected t rtpPacket (1, false) t
  | side2 {side1 side2 : RtpPacketInfo} : t.side1 = some side1 → t.side2 = some side2 →
      isSameStream side1 rtpPacket = false → isSameStream side2 rtpPacket = true →
      Detected t rtpPacket (2, false) t
  | alien : t.IsAlien rtpPacket → Detected t rtpPacket (0, false) t

theorem Detected.ignored {t t' : Streams} {rtpPacket : RtpPacketInfo} {channel : Nat × Bool}
    (detected : Detected t rtpPacket channel t') : t'.ignored = t.ignored := by
  cases detected <;> rfl

theorem detectChannel_detected (rtpPacket : RtpPacketInfo) (keys : SessionKeys) (c : Context) :
    ∃ t, Detected c.session.streams rtpPacket (detectChannel cfg env rtpPacket keys c).1 t ∧
      (detectChannel cfg env rtpPacket keys c).2.flow = (t, c.session.gates, c.audio) := by
  have started (c : Context) : (startOnSide2 cfg env keys c).2.flow = c.flow :=
    (beside_startOnSide2 cfg env).aside keys c
  rw [detectChannel, session_bind]
  cases hside1 : c.session.lastRtpPacketSide1 with
  | none => exact ⟨_, .first1 hside1, rfl⟩
  | some side1 =>
      cases hside2 : c.session.lastRtpPacketSide2 with
      | none =>
          dsimp only
          split_ifs with hsame hstart
          · exact ⟨_, .side1 hside1 hsame, rfl⟩
          · exact ⟨_, .first2 hside1 hside2 (eq_false_of_ne_true hsame), started _⟩
          · exact ⟨_, .first2 hside1 hside2 (eq_false_of_ne_true hsame), rfl⟩
      | some side2 =>
          dsimp only
          split_ifs with hsame hsame2 hstart
          · exact ⟨_, .side1 hside1 hsame, rfl⟩
          · exact ⟨_, .side2 hside1 hside2 (eq_false_of_ne_true hsame) hsame2, started _⟩
          · exact ⟨_, .side2 hside1 hside2 (eq_false_of_ne_true hsame) hsame2, rfl⟩
          · exact ⟨_, .alien ⟨side1, side2, hside1, hside2, eq_false_of_ne_true hsame,
              eq_false_of_ne_true hsame2⟩, rfl⟩

/-- A subsequent packet of a side is dismissed as a duplicate, breaks the session up, or takes
the place of the last one. -/
theorem followSide1_cases (last rtpPacket : RtpPacketInfo) (keys : SessionKeys) (c : Context) :
    let result := followSide1 cfg last rtpPacket keys c
    (rtpPacket.timestamp = last.timestamp ∧ result.1 = .dismissed ∧ result.2 = c) ∨
    (rtpPacket.timestamp ≠ last.timestamp ∧
      c.session.gates.breaks cfg last rtpPacket (checksPauseSide1 cfg last rtpPacket) = true ∧
      result.1 = .brokenUp ∧ result.2 = c) ∨
    (rtpPacket.timestamp ≠ last.timestamp ∧
      c.session.gates.breaks cfg last rtpPacket (checksPauseSide1 cfg last rtpPacket) = false ∧
      result.1 = .accepted 1 ∧ result.2.flow =
      ({ c.session.streams with side1 := some rtpPacket, aliens1 := 0 }, c.session.gates,
        c.audio)) := by
  dsimp only
  rw [followSide1, session_bind]
  split_ifs with hsame
  · exact .inl ⟨hsame, rfl, rfl⟩
  · apply Or.inr
    dsimp only
    generalize hfollowing : followStream cfg c.session last rtpPacket _ = following
    cases following with
    | none => exact .inl ⟨hsame, (followStream_none_iff cfg).mp hfollowing, rfl, rfl⟩
    | some delta =>
        have hgoes : c.session.gates.breaks cfg last rtpPacket (checksPauseSide1 cfg last rtpPacket) = false := by
          rw [← Bool.not_eq_true, ← followStream_none_iff, checksPauseSide1, hfollowing]
          simp
        apply Or.inr
        dsimp only
        rw [update_bind]
        by_cases hgap : 1 < delta ∧ delta ≤ cfg.rtpSeqGapThreshold
        · rw [if_pos hgap]
          exact ⟨hsame, hgoes, rfl, rfl⟩
        · rw [if_neg hgap]
          exact ⟨hsame, hgoes, rfl, rfl⟩

theorem followSide2_cases (last rtpPacket : RtpPacketInfo) (keys : SessionKeys) (c : Context) :
    let result := followSide2 cfg last rtpPacket keys c
    (rtpPacket.timestamp = last.timestamp ∧ result.1 = .dismissed ∧ result.2 = c) ∨
    (rtpPacket.timestamp ≠ last.timestamp ∧
      c.session.gates.breaks cfg last rtpPacket cfg.rtpBreakupOnStreamPause = true ∧
      result.1 = .brokenUp ∧ result.2 = c) ∨
    (rtpPacket.timestamp ≠ last.timestamp ∧
      c.session.gates.breaks cfg last rtpPacket cfg.rtpBreakupOnStreamPause = false ∧
      result.1 = .accepted 2 ∧ result.2.flow =
      ({ c.session.streams with side2 := some rtpPacket, aliens2 := 0 }, c.session.gates,
        c.audio)) := by
  dsimp only
  rw [followSide2, session_bind]
  split_ifs with hsame
  · exact .inl ⟨hsame, rfl, rfl⟩
  · apply Or.inr
    generalize hfollowing : followStream cfg c.session last rtpPacket _ = following
    cases following with
    | none => exact .inl ⟨hsame, (followStream_none_iff cfg).mp hfollowing, rfl, rfl⟩
    | some delta =>
        have hgoes : c.session.gates.breaks cfg last rtpPacket cfg.rtpBreakupOnStreamPause = false := by
          rw [← Bool.not_eq_true, ← followStream_none_iff, hfollowing]
          simp
        exact .inr ⟨hsame, hgoes, rfl, rfl⟩

theorem followAlien_flow (rtpPacket : RtpPacketInfo) (keys : SessionKeys) (c : Context) :
    let taken := (c.session.streams.countAlien env rtpPacket).takeOver rtpPacket
    (followAlien env rtpPacket keys c).1 = taken.1 ∧
      (followAlien env rtpPacket keys c).2.flow = (taken.2, c.session.gates, c.audio) := by
  have hcount : (countAlien env rtpPacket c.session).streams =
      c.session.streams.countAlien env rtpPacket := by
    rw [countAlien, Streams.countAlien]
    simp only [apply_ite SessionData.streams]
    rfl
  have hgates : (countAlien env rtpPacket c.session).gates = c.session.gates := by
    rw [countAlien]
    simp only [apply_ite SessionData.gates]
    split_ifs <;> rfl
  have haliens1 : (countAlien env rtpPacket c.session).numAlienRtpPacketsS1 =
      (c.session.streams.countAlien env rtpPacket).aliens1 := congrArg Streams.aliens1 hcount
  have haliens2 : (countAlien env rtpPacket c.session).numAlienRtpPacketsS2 =
      (c.session.streams.countAlien env rtpPacket).aliens2 := congrArg Streams.aliens2 hcount
  dsimp only
  rw [followAlien, update_bind, session_bind, Streams.takeOver]
  dsimp only
  rw [haliens1, haliens2, ← hgates]
  split_ifs
  · rw [← hcount]
    exact ⟨rfl, rfl⟩
  · rw [← hcount]
    exact ⟨rfl, rfl⟩
  · rw [← hcount]
    exact ⟨rfl, rfl⟩

/-- A packet whose channel is known: what is made of it, and what of the streams. -/
theorem follow_follows {t : Streams} {rtpPacket : RtpPacketInfo} {channel : Nat × Bool}
    (keys : SessionKeys) (c : Context)
    (detected : Detected t rtpPacket channel c.session.streams) :
    ∃ t', Follows cfg env c.session.gates t rtpPacket
        (follow cfg env rtpPacket channel keys c).1 t' ∧
      (follow cfg env rtpPacket channel keys c).2.flow = (t', c.session.gates, c.audio) := by
  generalize hstreams : c.session.streams = t' at detected
  have hunchanged : c.flow = (t', c.session.gates, c.audio) := by rw [← hstreams]; rfl
  cases detected with
  | first1 hside1 => exact ⟨_, .first1 hside1, hunchanged⟩
  | first2 hside1 hside2 hsame => exact ⟨_, .first2 hside1 hside2 hsame, hunchanged⟩
  | @side1 side1 hside1 hsame =>
      have hlast : c.session.lastRtpPacketSide1 = some side1 := by
        rw [← hstreams] at hside1
        exact hside1
      have hfollow : follow cfg env rtpPacket (1, false) keys c =
          followSide1 cfg side1 rtpPacket keys c := by
        rw [follow, session_bind, hlast]
        rfl
      rw [hfollow]
      rcases followSide1_cases cfg side1 rtpPacket keys c with ⟨hequal, hverdict, hctx⟩ |
        ⟨hdiffers, hbreaks, hverdict, hctx⟩ | ⟨hdiffers, hgoes, hverdict, hctx⟩
      · rw [hverdict, hctx]
        exact ⟨_, .duplicate1 hside1 hsame hequal, hunchanged⟩
      · rw [hverdict, hctx]
        exact ⟨_, .broken1 hside1 hsame hdiffers (hbreaks), hunchanged⟩
      · rw [hverdict, hctx, hstreams]
        exact ⟨_, .accepted1 hside1 hsame hdiffers (hgoes), rfl⟩
  | @side2 side1 side2 hside1 hside2 hsame hsame2 =>
      have hlast : c.session.lastRtpPacketSide2 = some side2 := by
        rw [← hstreams] at hside2
        exact hside2
      have hfollow : follow cfg env rtpPacket (2, false) keys c =
          followSide2 cfg side2 rtpPacket keys c := by
        rw [follow, session_bind, hlast]
        cases c.session.lastRtpPacketSide1 <;> rfl
      rw [hfollow]
      rcases followSide2_cases cfg side2 rtpPacket keys c with ⟨hequal, hverdict, hctx⟩ |
        ⟨hdiffers, hbreaks, hverdict, hctx⟩ | ⟨hdiffers, hgoes, hverdict, hctx⟩
      · rw [hverdict, hctx]
        exact ⟨_, .duplicate2 hside1 hside2 hsame hsame2 hequal, hunchanged⟩
      · rw [hverdict, hctx]
        exact ⟨_, .broken2 hside1 hside2 hsame hsame2 hdiffers (hbreaks),
          hunchanged⟩
      · rw [hverdict, hctx, hstreams]
        exact ⟨_, .accepted2 hside1 hside2 hsame hsame2 hdiffers (hgoes), rfl⟩
  | alien halien =>
      obtain ⟨hverdict, hctx⟩ := followAlien_flow env rtpPacket keys c
      have hfollow : follow cfg env rtpPacket (0, false) keys c =
          followAlien env rtpPacket keys c := rfl
      rw [hfollow, hverdict, hctx, hstreams]
      exact ⟨_, .alien halien, rfl⟩

/-! ### Taking a packet in -/

/-- A packet that is taken in is counted, and the sides may be exchanged once. -/
structure Accepts (protocol : Protocol) (t t' : Streams) : Prop where
  accepted : t'.accepted = t.accepted + 1
  ignored : t'.ignored = t.ignored
  aliens1 : t'.aliens1 = t.aliens1
  aliens2 : t'.aliens2 = t.aliens2
  candidate : t'.candidate = t.candidate
  candidateTimestamp : t'.candidateTimestamp = t.candidateTimestamp
  sides : (t'.side1 = t.side1 ∧ t'.side2 = t.side2) ∨
    (cfg.rtpS1S2MappingDeterministic = true ∧ t.mapped = false ∧
      (protocol = .protSip ∨ protocol = .protSkinny) ∧
      t.side1.isSome = true ∧ t.side2.isSome = true ∧
      t'.side1 = t.side2 ∧ t'.side2 = t.side1)
  mapped : t.mapped = true → t'.mapped = true

theorem mapChannels_flow (channel : Nat) (keys : SessionKeys) (c : Context) :
    ∃ t, (mapChannels cfg channel keys c).2.flow = (t, c.session.gates, c.audio) ∧
      Accepts cfg c.session.protocol c.session.streams { t with accepted := t.accepted + 1 } := by
  have same (mapped : Bool) (hmapped : c.session.mappedS1S2 = true → mapped = true) :
      Accepts cfg c.session.protocol c.session.streams { c.session.streams with
        mapped := mapped, accepted := c.session.streams.accepted + 1 } :=
    ⟨rfl, rfl, rfl, rfl, rfl, rfl, .inl ⟨rfl, rfl⟩, hmapped⟩
  rw [mapChannels, session_bind]
  cases hside1 : c.session.lastRtpPacketSide1 with
  | none => exact ⟨_, rfl, same c.session.mappedS1S2 id⟩
  | some side1 =>
      cases hside2 : c.session.lastRtpPacketSide2 with
      | none => exact ⟨_, rfl, same c.session.mappedS1S2 id⟩
      | some side2 =>
          dsimp only
          by_cases hmap : (cfg.rtpS1S2MappingDeterministic && !c.session.mappedS1S2) = true
          · rw [if_pos hmap, update_bind]
            obtain ⟨hdeterministic, hunmapped⟩ := Bool.and_eq_true_iff.mp hmap
            by_cases hswap : (c.session.protocol = .protSip ∨ c.session.protocol = .protSkinny) ∧
                shouldSwapChannels cfg c.session side1 side2
            · rw [if_pos hswap]
              refine ⟨_, rfl, rfl, rfl, rfl, rfl, rfl, rfl,
                .inr ⟨hdeterministic, ?_, hswap.1, ?_, ?_, ?_, ?_⟩,
                fun _ => rfl⟩
              · exact (Bool.not_eq_eq_eq_not ..).mp hunmapped
              · exact Option.isSome_iff_exists.mpr ⟨side1, hside1⟩
              · exact Option.isSome_iff_exists.mpr ⟨side2, hside2⟩
              · exact hside2.symm
              · exact hside1.symm
            · rw [if_neg hswap]
              exact ⟨_, rfl, same true fun _ => rfl⟩
          · rw [if_neg hmap]
            exact ⟨_, rfl, same c.session.mappedS1S2 id⟩

/-- The last part of taking a packet in: its audio is handed out when the session records. -/
def handOut (channel : Nat) (rtpPacket : RtpPacketInfo) : SessionM RtpPacketInfo := do
  let s ← session
  if s.started then
    let rtpPacket := asSpeex cfg rtpPacket
    emitChunk (chunkDetails s channel rtpPacket) rtpPacket.payload
    pure rtpPacket
  else pure rtpPacket

theorem emitChunk_flow (details : AudioChunkDetails) (payload : List UInt8) (keys : SessionKeys)
    (c : Context) : (emitChunk details payload keys c).2.flow =
      (c.session.streams, c.session.gates,
        c.audio ++ [.audioChunk details payload c.session.capturePort]) := by
  rw [flow_eq_iff]
  refine ⟨rfl, rfl, ?_⟩
  change Context.audio { c with notices := c.notices ++ [_] } = _
  simp [Context.audio, Output.isAudio]

theorem handOut_flow (channel : Nat) (rtpPacket : RtpPacketInfo) (keys : SessionKeys)
    (c : Context) :
    ∃ chunks, (handOut cfg channel rtpPacket keys c).2.flow =
        (c.session.streams, c.session.gates, c.audio ++ chunks) ∧ chunks.length ≤ 1 ∧
      ((handOut cfg channel rtpPacket keys c).1 = rtpPacket ∨
        (handOut cfg channel rtpPacket keys c).1 = asSpeex cfg rtpPacket) := by
  rw [handOut, session_bind]
  by_cases hstarted : c.session.started = true
  · rw [if_pos hstarted]
    exact ⟨[_], emitChunk_flow _ _ keys c, Nat.le_refl 1, .inr rfl⟩
  · rw [if_neg hstarted]
    exact ⟨[], flow_eq_iff.mpr ⟨rfl, rfl, (List.append_nil _).symm⟩, Nat.zero_le 1, .inl rfl⟩

/-- Audio that is handed out; a packet with a Speex payload leaves marked as such. -/
theorem acceptRtpPacket_flow (channel : Nat) (rtpPacket : RtpPacketInfo) (keys : SessionKeys)
    (c : Context) :
    ∃ t chunks, (acceptRtpPacket cfg env channel rtpPacket keys c).2.flow =
        (t, c.session.gates, c.audio ++ chunks) ∧
      Accepts cfg c.session.protocol c.session.streams t ∧ chunks.length ≤ 1 ∧
      ((acceptRtpPacket cfg env channel rtpPacket keys c).1 = rtpPacket ∨
        (acceptRtpPacket cfg env channel rtpPacket keys c).1 = asSpeex cfg rtpPacket) := by
  obtain ⟨t, hmapped, accepts⟩ := mapChannels_flow cfg channel keys c
  rw [acceptRtpPacket, bind_run]
  generalize mapChannels cfg channel keys c = result at hmapped ⊢
  obtain ⟨channel', mapped⟩ := result
  have hlast (last : Context) (hlast : last.flow =
      ({ t with accepted := t.accepted + 1 }, c.session.gates, c.audio)) :
      ∃ t chunks, (handOut cfg channel' rtpPacket keys last).2.flow =
          (t, c.session.gates, c.audio ++ chunks) ∧
        Accepts cfg c.session.protocol c.session.streams t ∧ chunks.length ≤ 1 ∧
        ((handOut cfg channel' rtpPacket keys last).1 = rtpPacket ∨
          (handOut cfg channel' rtpPacket keys last).1 = asSpeex cfg rtpPacket) := by
    obtain ⟨chunks, hflow, hcount, hpacket⟩ := handOut_flow cfg channel' rtpPacket keys last
    obtain ⟨hstreams, hgates, haudio⟩ := flow_eq_iff.mp hlast
    rw [hstreams, hgates, haudio] at hflow
    exact ⟨_, chunks, hflow, accepts, hcount, hpacket⟩
  have hcounted : ({ mapped with session := { mapped.session with
      numRtpPackets := mapped.session.numRtpPackets + 1
      lastUpdated := rtpPacket.arrivalTimestamp } } : Context).flow =
      ({ t with accepted := t.accepted + 1 }, c.session.gates, c.audio) := by
    obtain ⟨hstreams, hgates, haudio⟩ := flow_eq_iff.mp hmapped
    rw [← hstreams, ← hgates, ← haudio]
    rfl
  rw [update_bind, bind_run, session_bind]
  have hnoted := ((beside_noteAddresses cfg rtpPacket).aside keys _).trans hcounted
  generalize noteAddresses cfg rtpPacket keys _ = result at hnoted ⊢
  obtain ⟨_, noted⟩ := result
  by_cases hstart : (isStartPacket cfg noted.session && cfg.lookBackRecording) = true
  · rw [if_pos hstart, bind_run]
    exact hlast _ (((beside_startUnlessUnidirectional cfg env).aside keys noted).trans hnoted)
  · rw [if_neg hstart]
    exact hlast _ hnoted

/-! ### How far a packet gets -/

namespace Gates

/-- A telephone event of a SIP session. -/
def isTelephoneEvent (g : Gates) (rtpPacket : RtpPacketInfo) : Bool :=
  g.protocol = .protSip && cfg.rtpReportDtmf && g.telephoneEventPayloadType != 0 &&
    (rtpPacket.payloadType.toNat : Int) = g.telephoneEventPayloadType

def isDismissed (g : Gates) (rtpPacket : RtpPacketInfo) : Bool :=
  (g.protocol = .protSkinny && rtpPacket.sourceIp != g.endPointIp &&
      rtpPacket.destIp != g.endPointIp) ||
    (g.onHold && g.lastRtpPacket.isSome && 18 < rtpPacket.payloadType.toNat)

/-- A packet takes a session off hold when the one before it is more than a second older. -/
def staysOnHold (g : Gates) (rtpPacket : RtpPacketInfo) : Bool :=
  g.onHold && !g.lastRtpPacket.any fun last =>
    decide (rtpPacket.arrivalTimestamp - last.arrivalTimestamp > 1)

def next (g : Gates) (rtpPacket : RtpPacketInfo) : Gates :=
  { g with onHold := g.staysOnHold rtpPacket, lastRtpPacket := some rtpPacket }

end Gates

/-- What a packet makes of the streams, the gates and the audio: it is an event, is ignored or
dismissed on the way, or reaches the streams. -/
inductive Course (t : Streams) (g : Gates) (rtpPacket : RtpPacketInfo) :
    Bool × RtpPacketInfo → Streams → Gates → List Output → Prop
  | event {g' : Gates} : g.isTelephoneEvent cfg rtpPacket = true → g'.protocol = g.protocol →
      g'.telephoneEventPayloadType = g.telephoneEventPayloadType →
      Course t g rtpPacket (true, rtpPacket) t g' []
  | ignored {t' : Streams} {channel : Nat × Bool} :
      g.isTelephoneEvent cfg rtpPacket = false → g.keepRtp = false →
      (t' = t ∨ Detected t rtpPacket channel t') →
      Course t g rtpPacket (true, rtpPacket) { t' with ignored := t.ignored + 1 } g []
  | dismissed : g.isTelephoneEvent cfg rtpPacket = false → g.keepRtp = true →
      g.isDismissed rtpPacket = true → Course t g rtpPacket (true, rtpPacket) t g []
  | passedOver {t' : Streams} :
      g.isTelephoneEvent cfg rtpPacket = false → g.keepRtp = true →
      g.isDismissed rtpPacket = false →
      Follows cfg env (g.next rtpPacket) t rtpPacket .dismissed t' →
      Course t g rtpPacket (true, rtpPacket) t' (g.next rtpPacket) []
  | brokenUp {t' : Streams} :
      g.isTelephoneEvent cfg rtpPacket = false → g.keepRtp = true →
      g.isDismissed rtpPacket = false →
      Follows cfg env (g.next rtpPacket) t rtpPacket .brokenUp t' →
      Course t g rtpPacket (false, rtpPacket) t' (g.next rtpPacket) []
  | accepted {channel : Nat} {between t' : Streams}
      {rtpPacket' : RtpPacketInfo} {chunks : List Output} :
      g.isTelephoneEvent cfg rtpPacket = false → g.keepRtp = true →
      g.isDismissed rtpPacket = false →
      Follows cfg env (g.next rtpPacket) t rtpPacket (.accepted channel) between →
      Accepts cfg g.protocol between t' → chunks.length ≤ 1 →
      (rtpPacket' = rtpPacket ∨ rtpPacket' = asSpeex cfg rtpPacket) →
      Course t g rtpPacket (true, rtpPacket') t' (g.next rtpPacket) chunks

/-! #### Telephone events -/

/-- What neither events nor the DTMF commands touch. -/
structure Spared {β : Type} (read : Context → β) : Prop where
  notice : ∀ (c : Context) (notice : Notice), notice.output.isAudio = false →
    read { c with notices := c.notices ++ [notice] } = read c
  command : ∀ (c : Context) (onDemand keepRtp : Bool) (digits : String) (eventTs : UInt32),
    read { c with session := { c.session with
      onDemand := onDemand
      keepRtp := keepRtp
      dtmfDigitString := digits
      currentRtpEventTs := eventTs } } = read c

/-- What is left as it was when a DTMF command starts or pauses a recording. -/
def Context.course (c : Context) : Streams × Protocol × Int × List Output :=
  (c.session.streams, c.session.protocol, c.session.telephoneEventPayloadType, c.audio)

theorem spared_course : Spared Context.course where
  notice c notice hevent :=
    congrArg (fun audio => (c.session.streams, c.session.protocol,
      c.session.telephoneEventPayloadType, audio)) (audio_append c notice hevent)
  command _ _ _ _ _ := rfl

section

variable {β : Type} {read : Context → β} (spared : Spared read)

include spared

theorem Spared.emit (event : CaptureEvent) (hstop : decide (event.type = .etStop) = false) :
    Keeps read (emit event hstop) := fun _ c => spared.notice c _ rfl

theorem Spared.besideCommands : BesideCommands read where
  emits event hstop _ := spared.emit event hstop
  flags c onDemand keepRtp :=
    spared.command c onDemand keepRtp c.session.dtmfDigitString c.session.currentRtpEventTs

theorem keeps_collectDtmfDigit (digitValue : String) :
    Keeps read (collectDtmfDigit cfg digitValue) := by
  unfold collectDtmfDigit
  exact .bind (.update fun c => spared.command c _ _ _ _) fun _ => .ite (.bind .session fun s =>
    .whenThen (.update fun c => spared.command c _ _ "" _) (spared.besideCommands.runDtmfCommands _ _))
    (.pure _)

theorem keeps_reportDtmfDigit (digit : DtmfDigit) :
    Keeps read (reportDtmfDigit cfg env digit) := by
  unfold reportDtmfDigit
  exact .bind (keeps_collectDtmfDigit cfg spared _) fun _ => .bind .session fun s =>
    .whenThen (spared.emit _ _) <| .whenThen (spared.emit _ _) (spared.emit _ _)

theorem keeps_handleRtpEvent (channel : Nat) (rtpPacket : RtpPacketInfo) :
    Keeps read (handleRtpEvent cfg env channel rtpPacket) := by
  unfold handleRtpEvent
  split
  · exact .bind .session fun s => .ite (.bind (.update fun c => spared.command c _ _ _ _) fun _ =>
      keeps_reportDtmfDigit cfg env spared _) (.pure _)
  · exact .pure _

end

/-! #### The parts of `AddRtpPacket` -/

theorem ignoreRtpPacket_flow (rtpPacket : RtpPacketInfo) (keys : SessionKeys) (c : Context) :
    ∃ t channel, (t = c.session.streams ∨ Detected c.session.streams rtpPacket channel t) ∧
      (ignoreRtpPacket cfg env rtpPacket keys c).2.flow =
        ({ t with ignored := c.session.streams.ignored + 1 }, c.session.gates, c.audio) := by
  have hlast (last : Context) {t : Streams} (hflow : last.flow = (t, c.session.gates, c.audio))
      (hignored : t.ignored = c.session.streams.ignored) :
      ({ last with session := { last.session with
          lastUpdated := rtpPacket.arrivalTimestamp
          numIgnoredRtpPackets := last.session.numIgnoredRtpPackets + 1 } } : Context).flow =
        ({ t with ignored := c.session.streams.ignored + 1 }, c.session.gates, c.audio) := by
    obtain ⟨hstreams, hgates, haudio⟩ := flow_eq_iff.mp hflow
    rw [← hignored, ← hstreams, ← hgates, ← haudio]
    rfl
  rw [ignoreRtpPacket, session_bind]
  by_cases hstarted : c.session.nonLookBackSessionStarted = true
  · rw [if_pos hstarted]
    refine ⟨_, (0, false), .inl rfl, ?_⟩
    by_cases hkeepAlive : env.time - c.session.lastKeepAlive > 1
    · rw [if_pos hkeepAlive, update_bind, bind_run]
      exact hlast _ ((beside_emit { type := .etUnknown } rfl).aside keys _) rfl
    · rw [if_neg hkeepAlive]
      exact hlast c rfl rfl
  · rw [if_neg hstarted]
    obtain ⟨t, detected, hflow⟩ := detectChannel_detected cfg env rtpPacket keys c
    refine ⟨t, _, .inr detected, ?_⟩
    rw [bind_run]
    exact hlast _ hflow detected.ignored

theorem goOffHoldOnRtp_flow (rtpPacket : RtpPacketInfo) (keys : SessionKeys) (c : Context) :
    (goOffHoldOnRtp cfg rtpPacket keys c).2.flow =
      (c.session.streams,
        { c.session.gates with onHold := c.session.gates.staysOnHold rtpPacket }, c.audio) := by
  rw [goOffHoldOnRtp, session_bind]
  have hstays : c.session.gates.staysOnHold rtpPacket = (c.session.onHold &&
      !c.session.lastRtpPacket.any fun last =>
        decide (rtpPacket.arrivalTimestamp - last.arrivalTimestamp > 1)) := rfl
  cases hlast : c.session.lastRtpPacket with
  | none =>
      rw [hstays, hlast, Option.any_none, Bool.not_false, Bool.and_true]
      rfl
  | some last =>
      dsimp only
      rw [hstays, hlast, Option.any_some]
      by_cases hresumes : c.session.onHold = true ∧
          rtpPacket.arrivalTimestamp - last.arrivalTimestamp > 1
      · rw [if_pos hresumes, goOffHold, update_bind, decide_eq_true hresumes.2, Bool.not_true,
          Bool.and_false]
        have resume : Aside (do
            if cfg.holdResumeReportDuration || cfg.holdResumeReportEvents then
              emit { type := .etResume, value := (← VoIp.keys).trackingId }) :=
          .ite (.bind .keys fun _ => (beside_emit _ _).aside) (.pure _)
        exact (Keeps.ite (.bind .session fun s => .bind (beside_emitKeyValue _ _).aside fun _ => resume)
          resume : Keeps Context.flow _) keys _
      · have hkept : (c.session.onHold &&
            !decide (rtpPacket.arrivalTimestamp - last.arrivalTimestamp > 1)) =
            c.session.onHold := by
          cases honHold : c.session.onHold with
          | false => rfl
          | true =>
              rw [decide_eq_false fun hlate => hresumes ⟨honHold, hlate⟩]
              rfl
        rw [if_neg hresumes, hkept]
        rfl

/-- The part of `AddRtpPacket` from `DetectChannel` on. -/
def reachStreams (rtpPacket : RtpPacketInfo) : SessionM (Bool × RtpPacketInfo) := do
  let channel ← detectChannel cfg env rtpPacket
  match ← follow cfg env rtpPacket channel with
  | .dismissed => pure (true, rtpPacket)
  | .brokenUp => pure (false, rtpPacket)
  | .accepted channel => return (true, ← acceptRtpPacket cfg env channel rtpPacket)

theorem reachStreams_course {t : Streams} {g : Gates} {audio : List Output}
    {rtpPacket : RtpPacketInfo} (keys : SessionKeys) {c : Context}
    (hevent : g.isTelephoneEvent cfg rtpPacket = false) (hkept : g.keepRtp = true)
    (hdismissed : g.isDismissed rtpPacket = false)
    (hflow : c.flow = (t, g.next rtpPacket, audio)) :
    ∃ t' g' chunks,
      Course cfg env t g rtpPacket (reachStreams cfg env rtpPacket keys c).1 t' g' chunks ∧
      (reachStreams cfg env rtpPacket keys c).2.flow = (t', g', audio ++ chunks) := by
  obtain ⟨hstreams, hgates, haudio⟩ := flow_eq_iff.mp hflow
  obtain ⟨between, detected, hdetected⟩ := detectChannel_detected cfg env rtpPacket keys c
  rw [hstreams] at detected
  rw [hgates, haudio] at hdetected
  rw [reachStreams, bind_run]
  generalize detectChannel cfg env rtpPacket keys c = result at detected hdetected ⊢
  obtain ⟨channel, onSide⟩ := result
  obtain ⟨hstreams, hgates, haudio⟩ := flow_eq_iff.mp hdetected
  obtain ⟨t', follows, hfollowed⟩ := follow_follows cfg env keys onSide (hstreams ▸ detected)
  rw [hgates] at follows
  rw [hgates, haudio] at hfollowed
  rw [bind_run]
  generalize follow cfg env rtpPacket channel keys onSide = result at follows hfollowed ⊢
  obtain ⟨verdict, followed⟩ := result
  cases verdict with
  | dismissed =>
      have course : Course cfg env t g rtpPacket (true, rtpPacket) t'
          (g.next rtpPacket) [] :=
        .passedOver hevent hkept hdismissed follows
      refine ⟨_, _, [], course, ?_⟩
      rw [List.append_nil]
      exact hfollowed
  | brokenUp =>
      have course : Course cfg env t g rtpPacket (false, rtpPacket) t'
          (g.next rtpPacket) [] :=
        .brokenUp hevent hkept hdismissed follows
      refine ⟨_, _, [], course, ?_⟩
      rw [List.append_nil]
      exact hfollowed
  | accepted channel =>
      obtain ⟨hstreams, hgates, haudio⟩ := flow_eq_iff.mp hfollowed
      obtain ⟨t'', chunks, hflow, accepts, hcount, hpacket⟩ :=
        acceptRtpPacket_flow cfg env channel rtpPacket keys followed
      have hprotocol : followed.session.protocol = g.protocol := congrArg Gates.protocol hgates
      rw [hstreams, hprotocol] at accepts
      rw [hgates, haudio] at hflow
      exact ⟨_, _, chunks, .accepted hevent hkept hdismissed follows accepts hcount hpacket,
        hflow⟩

/-! #### The ways through `AddRtpPacket` -/

namespace Context

/-- After the metadata of a packet, and the start of a session without look-back. -/
abbrev begun (c : Context) (rtpPacket : RtpPacketInfo) (keys : SessionKeys) : Context :=
  (startNonLookBack cfg env keys (processMetadata cfg rtpPacket keys c).2).2

/-- After the start that waits for a packet that is kept. -/
abbrev firstKept (c : Context) (rtpPacket : RtpPacketInfo) (keys : SessionKeys) : Context :=
  (startFirstKept cfg env keys (c.begun cfg env rtpPacket keys)).2

/-- With the packet as the last one, and off hold when it resumes the call. -/
abbrev resumed (c : Context) (rtpPacket : RtpPacketInfo) (keys : SessionKeys) : Context :=
  { (goOffHoldOnRtp cfg rtpPacket keys (c.firstKept cfg env rtpPacket keys)).2 with
    session :=
      { (goOffHoldOnRtp cfg rtpPacket keys (c.firstKept cfg env rtpPacket keys)).2.session with
        lastRtpPacket := some rtpPacket } }

end Context

section

variable {rtpPacket : RtpPacketInfo} (keys : SessionKeys) (c : Context)

theorem core_begun (rtpPacket : RtpPacketInfo) :
    (c.begun cfg env rtpPacket keys).core = c.core :=
  (beside_startNonLookBack cfg env keys _).trans (beside_processMetadata cfg rtpPacket keys c)

theorem core_firstKept (rtpPacket : RtpPacketInfo) :
    (c.firstKept cfg env rtpPacket keys).core = c.core :=
  (beside_startFirstKept cfg env keys _).trans (core_begun cfg env keys c rtpPacket)

theorem flow_resumed (rtpPacket : RtpPacketInfo) :
    (c.resumed cfg env rtpPacket keys).flow =
      (c.session.streams, c.session.gates.next rtpPacket, c.audio) := by
  have hfirst : (c.firstKept cfg env rtpPacket keys).flow = c.flow :=
    congrArg Prod.fst (core_firstKept cfg env keys c rtpPacket)
  obtain ⟨hstreams, hgates, haudio⟩ := flow_eq_iff.mp hfirst
  have hresumed := goOffHoldOnRtp_flow cfg rtpPacket keys (c.firstKept cfg env rtpPacket keys)
  rw [hstreams, hgates, haudio] at hresumed
  obtain ⟨hstreams, hgates, haudio⟩ := flow_eq_iff.mp hresumed
  have hnext : (c.resumed cfg env rtpPacket keys).session.gates =
      c.session.gates.next rtpPacket :=
    congrArg (fun g : Gates => { g with lastRtpPacket := some rtpPacket }) hgates
  exact flow_eq_iff.mpr ⟨hstreams, hnext, haudio⟩

theorem gates_begun (rtpPacket : RtpPacketInfo) :
    (c.begun cfg env rtpPacket keys).session.gates = c.session.gates :=
  congrArg (fun core => core.1.2.1) (core_begun cfg env keys c rtpPacket)

theorem addRtpPacket_event (hevent : c.session.gates.isTelephoneEvent cfg rtpPacket = true) :
    addRtpPacket cfg env rtpPacket keys c =
      ((true, rtpPacket),
        if !(cfg.rtpDtmfOnlyLocal &&
            rtpPacket.sourceIp != (c.begun cfg env rtpPacket keys).session.localIp) then
          (handleRtpEvent cfg env 0 rtpPacket keys (c.begun cfg env rtpPacket keys)).2
        else c.begun cfg env rtpPacket keys) := by
  have htelephone : VoIp.isTelephoneEvent cfg (c.begun cfg env rtpPacket keys).session rtpPacket =
      true := by
    rw [← gates_begun cfg env keys c rtpPacket] at hevent
    exact hevent
  rw [addRtpPacket, bind_run, bind_run, session_bind, if_pos htelephone]
  split_ifs <;> rfl

theorem Spared.addRtpPacket_event {β : Type} {read : Context → β} (spared : Spared read)
    (hevent : c.session.gates.isTelephoneEvent cfg rtpPacket = true) :
    read (addRtpPacket cfg env rtpPacket keys c).2 =
      read (c.begun cfg env rtpPacket keys) := by
  rw [VoIp.addRtpPacket_event cfg env keys c hevent]
  by_cases honly : (!(cfg.rtpDtmfOnlyLocal &&
      rtpPacket.sourceIp != (c.begun cfg env rtpPacket keys).session.localIp)) = true
  · rw [if_pos honly]
    exact keeps_handleRtpEvent cfg env spared 0 rtpPacket keys _
  · rw [if_neg honly]

/-- A packet that is no event gets to the checks of `keepRtp`. -/
theorem isTelephoneEvent_begun
    (hevent : c.session.gates.isTelephoneEvent cfg rtpPacket = false) :
    ¬ VoIp.isTelephoneEvent cfg (c.begun cfg env rtpPacket keys).session rtpPacket = true := by
  rw [← gates_begun cfg env keys c rtpPacket] at hevent
  exact ne_true_of_eq_false hevent

theorem addRtpPacket_ignored (hevent : c.session.gates.isTelephoneEvent cfg rtpPacket = false)
    (hkept : c.session.gates.keepRtp = false) :
    addRtpPacket cfg env rtpPacket keys c =
      ((true, rtpPacket),
        (ignoreRtpPacket cfg env rtpPacket keys (c.begun cfg env rtpPacket keys)).2) := by
  have hkeep : (!(c.begun cfg env rtpPacket keys).session.keepRtp) = true := by
    rw [← gates_begun cfg env keys c rtpPacket] at hkept
    exact congrArg not hkept
  rw [addRtpPacket, bind_run, bind_run, session_bind,
    if_neg (isTelephoneEvent_begun cfg env keys c hevent), if_pos hkeep]
  rfl

section

theorem gates_firstKept (rtpPacket : RtpPacketInfo) :
    (c.firstKept cfg env rtpPacket keys).session.gates = c.session.gates :=
  congrArg (fun core => core.1.2.1) (core_firstKept cfg env keys c rtpPacket)

theorem keepRtp_begun (hkept : c.session.gates.keepRtp = true) :
    ¬ (!(c.begun cfg env rtpPacket keys).session.keepRtp) = true := by
  rw [← gates_begun cfg env keys c rtpPacket] at hkept
  exact ne_true_of_eq_false (congrArg not hkept)

variable (hevent : c.session.gates.isTelephoneEvent cfg rtpPacket = false)
  (hkept : c.session.gates.keepRtp = true)

include hevent hkept

theorem addRtpPacket_dismissed (hdismissed : c.session.gates.isDismissed rtpPacket = true) :
    addRtpPacket cfg env rtpPacket keys c =
      ((true, rtpPacket), c.firstKept cfg env rtpPacket keys) := by
  have hdismiss : VoIp.isDismissed (c.firstKept cfg env rtpPacket keys).session rtpPacket =
      true := by
    rw [← gates_firstKept cfg env keys c rtpPacket] at hdismissed
    exact hdismissed
  rw [addRtpPacket, bind_run, bind_run, session_bind,
    if_neg (isTelephoneEvent_begun cfg env keys c hevent),
    if_neg (keepRtp_begun cfg env keys c hkept), bind_run, session_bind, if_pos hdismiss]
  rfl

theorem addRtpPacket_reach (hdismissed : c.session.gates.isDismissed rtpPacket = false) :
    addRtpPacket cfg env rtpPacket keys c =
      reachStreams cfg env rtpPacket keys (c.resumed cfg env rtpPacket keys) := by
  have hdismiss : ¬ VoIp.isDismissed (c.firstKept cfg env rtpPacket keys).session rtpPacket =
      true := by
    rw [← gates_firstKept cfg env keys c rtpPacket] at hdismissed
    exact ne_true_of_eq_false hdismissed
  rw [addRtpPacket, bind_run, bind_run, session_bind,
    if_neg (isTelephoneEvent_begun cfg env keys c hevent),
    if_neg (keepRtp_begun cfg env keys c hkept), bind_run, session_bind, if_neg hdismiss,
    bind_run, update_bind]
  rfl

end

end

/-- How far a packet gets, from any state of a session. -/
theorem addRtpPacket_course (rtpPacket : RtpPacketInfo) (keys : SessionKeys) (c : Context) :
    ∃ t g chunks, Course cfg env c.session.streams c.session.gates rtpPacket
        (addRtpPacket cfg env rtpPacket keys c).1 t g chunks ∧
      (addRtpPacket cfg env rtpPacket keys c).2.flow = (t, g, c.audio ++ chunks) := by
  have hbegun : (c.begun cfg env rtpPacket keys).flow = c.flow :=
    congrArg Prod.fst (core_begun cfg env keys c rtpPacket)
  obtain ⟨hstreams, hgates, haudio⟩ := flow_eq_iff.mp hbegun
  have hunchanged {after : Context} (hafter : after.flow = c.flow) :
      after.flow = (c.session.streams, c.session.gates, c.audio ++ []) := by
    rw [List.append_nil]
    exact hafter
  cases hevent : c.session.gates.isTelephoneEvent cfg rtpPacket with
  | true =>
      have hpacket : (addRtpPacket cfg env rtpPacket keys c).1 = (true, rtpPacket) :=
        congrArg Prod.fst (addRtpPacket_event cfg env keys c hevent)
      have hcourse := spared_course.addRtpPacket_event cfg env keys c hevent
      simp only [Context.course, Prod.mk.injEq] at hcourse
      obtain ⟨hstreams', hprotocol, htype, haudio'⟩ := hcourse
      rw [hpacket]
      refine ⟨_, (addRtpPacket cfg env rtpPacket keys c).2.session.gates, [],
        .event hevent ?_ ?_, ?_⟩
      · exact hprotocol.trans (congrArg Gates.protocol hgates)
      · exact htype.trans (congrArg Gates.telephoneEventPayloadType hgates)
      · exact flow_eq_iff.mpr ⟨hstreams'.trans hstreams, rfl, by
          rw [List.append_nil]; exact haudio'.trans haudio⟩
  | false =>
      cases hkept : c.session.gates.keepRtp with
      | false =>
          rw [addRtpPacket_ignored cfg env keys c hevent hkept]
          obtain ⟨t, channel, hdetected, hflow⟩ :=
            ignoreRtpPacket_flow cfg env rtpPacket keys (c.begun cfg env rtpPacket keys)
          rw [hstreams] at hdetected hflow
          rw [hgates, haudio] at hflow
          refine ⟨_, _, [], .ignored hevent hkept hdetected, ?_⟩
          rw [List.append_nil]
          exact hflow
      | true =>
          cases hdismissed : c.session.gates.isDismissed rtpPacket with
          | true =>
              rw [addRtpPacket_dismissed cfg env keys c hevent hkept hdismissed]
              exact ⟨_, _, [], .dismissed hevent hkept hdismissed,
                hunchanged (congrArg Prod.fst (core_firstKept cfg env keys c rtpPacket))⟩
          | false =>
              rw [addRtpPacket_reach cfg env keys c hevent hkept hdismissed]
              exact reachStreams_course cfg env keys hevent hkept hdismissed
                (flow_resumed cfg env keys c rtpPacket)

end

end OrkAudio.VoIp
