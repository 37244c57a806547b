import OrkAudio.VoIp.Streams

/-! Whether a session records, and which address it has for the local one, on the way of an
RTP packet to the streams. -/

namespace OrkAudio.VoIp

open Lib

section

variable (cfg : Config) (env : Env)

/-- Whether a session records, whether it has been started without look-back, and its local
address. -/
def Context.stage (c : Context) : Bool × Bool × InAddr :=
  (c.session.started, c.session.nonLookBackSessionStarted, c.session.localIp)

abbrev KeepsStage {α : Type} (m : SessionM α) : Prop := Keeps Context.stage m

theorem stage_emit (event : CaptureEvent) (hstop : decide (event.type = .etStop) = false) :
    KeepsStage (emit event hstop) := fun _ _ => rfl

theorem stage_emitKeyValue (key value : String) : KeepsStage (emitKeyValue key value) :=
  stage_emit _ _

/-! ### Reports -/

theorem stage_reportNamesAsTags : KeepsStage (reportNamesAsTags cfg) := by
  unfold reportNamesAsTags
  exact .ite (.bind .session fun s => .bind (stage_emitKeyValue _ _) fun _ =>
    .bind .session fun s => stage_emitKeyValue _ _) (.pure _)

theorem stage_reportLocalParty (useName : Bool) : KeepsStage (reportLocalParty cfg useName) := by
  unfold reportLocalParty
  exact .bind .session fun s => .ite
    (.bind (.update fun c => rfl) fun _ => .bind .session fun s => stage_emit _ _)
    (.bind (.update fun c => rfl) fun _ => .bind .session fun s => stage_emit _ _)

theorem stage_reportRemoteParty : KeepsStage (reportRemoteParty cfg) := by
  unfold reportRemoteParty
  exact .bind .session fun s => .bind (stage_emit _ _) fun _ =>
    .bind (.update fun c => rfl) fun _ => .ite (stage_emit _ _) (.pure _)

theorem stage_reportTags (tags : List (String × String)) : KeepsStage (reportTags tags) := by
  induction tags with
  | nil => exact .pure _
  | cons tag tags ih => exact .bind (stage_emitKeyValue _ _) fun _ => ih

theorem stage_mapLocalPartyName : KeepsStage mapLocalPartyName := by
  unfold mapLocalPartyName
  exact .bind .session fun s => .bind .shared fun sh =>
    .ite (.modify fun c => rfl) (.ite (.update fun c => rfl) (.pure _))

theorem stage_reportMetadata : KeepsStage (reportMetadata cfg) := by
  unfold reportMetadata
  exact .bind .shared fun sh => .bind .keys fun _ => .bind (.update fun c => rfl) fun _ =>
    .bind .session fun s => .whenThen (.update fun c => rfl) <|
    .whenThen stage_mapLocalPartyName <| .bind .session fun s =>
    .bind (stage_reportLocalParty cfg _) fun _ => .bind (.update fun c => rfl) fun _ =>
    .bind (stage_reportRemoteParty cfg) fun _ => .bind (stage_reportNamesAsTags cfg) fun _ =>
    .bind .session fun s => .bind (stage_emit _ _) fun _ => .bind (stage_emit _ _) fun _ =>
    .bind (stage_emit _ _) fun _ => .bind (stage_emit _ _) fun _ =>
    .bind (stage_emit _ _) fun _ => .whenThen (stage_emitKeyValue _ _) <|
    .bind (stage_reportTags _) fun _ => stage_emit _ _

theorem stage_skinnyTrackConferencesTransfers :
    KeepsStage (skinnyTrackConferencesTransfers cfg env) := by
  unfold skinnyTrackConferencesTransfers
  apply Keeps.bind .session
  intro s
  apply Keeps.bind .shared
  intro sh
  cases sh.getVoIpEndpointInfo cfg s.endPointIp s.endPointSignallingPort with
  | none => exact .pure _
  | some endpoint =>
      exact .ite (.modify fun c => rfl) (.ite (stage_emitKeyValue _ _) (.pure _))

/-! ### Start -/

theorem startAndReport_stage (keys : SessionKeys) (c : Context) :
    (startAndReport cfg env keys c).2.stage =
      (true, c.session.nonLookBackSessionStarted, c.session.localIp) := by
  have hrest : KeepsStage (do
      let s ← session
      emit { type := .etStart, timestamp := s.beginDate, value := (← VoIp.keys).trackingId }
      if cfg.skinnyTrackConferencesTransfers then
        skinnyTrackConferencesTransfers cfg env) :=
    .bind .session fun s => .bind .keys fun _ => .bind (stage_emit _ _) fun _ =>
      .ite (stage_skinnyTrackConferencesTransfers cfg env) (.pure _)
  rw [startAndReport, bind_run, stage_reportMetadata cfg keys, start, update_bind, session_bind]
  dsimp only
  by_cases hstarted : (!c.session.started) = true
  · rw [if_pos hstarted, bind_run, update_bind]
    exact hrest keys _
  · rw [if_neg hstarted, update_bind]
    exact hrest keys _

theorem startUnlessUnidirectional_stage (keys : SessionKeys) (c : Context) :
    (startUnlessUnidirectional cfg env keys c).2.stage =
      (c.session.started || !cfg.discardUnidirectionalCalls,
        c.session.nonLookBackSessionStarted, c.session.localIp) := by
  unfold startUnlessUnidirectional
  cases hdiscard : cfg.discardUnidirectionalCalls with
  | true =>
      rw [if_pos rfl, Bool.not_true, Bool.or_false]
      rfl
  | false =>
      rw [if_neg Bool.false_ne_true, Bool.not_false, Bool.or_true]
      exact startAndReport_stage cfg env keys c

/-- A signalled session without look-back starts here, if it has not. -/
theorem startNonLookBack_stage (keys : SessionKeys) {c : Context}
    (hsignalled : c.session.protocol ≠ .protRawRtp) :
    (startNonLookBack cfg env keys c).2.stage =
      if !cfg.lookBackRecording && !c.session.nonLookBackSessionStarted &&
          !cfg.discardUnidirectionalCalls then
        (true, true, c.session.localIp)
      else c.stage := by
  have hraw : (decide (c.session.protocol ≠ .protRawRtp) ||
      (cfg.trackRawRtpSessionInNonLookBackMode && decide
        ((c.session.numIgnoredRtpPackets : Int) = cfg.rtpMinAmountOfPacketsBeforeStart))) = true := by
    rw [decide_eq_true hsignalled, Bool.true_or]
  rw [startNonLookBack, session_bind, hraw, Bool.and_true]
  cases (!cfg.lookBackRecording && !c.session.nonLookBackSessionStarted) with
  | false =>
      rw [if_neg Bool.false_ne_true, Bool.false_and, if_neg Bool.false_ne_true]
      rfl
  | true =>
      rw [if_pos rfl, Bool.true_and, bind_run]
      have hstage := startUnlessUnidirectional_stage cfg env keys c
      generalize startUnlessUnidirectional cfg env keys c = result at hstage ⊢
      obtain ⟨_, begun⟩ := result
      cases hdiscard : cfg.discardUnidirectionalCalls with
      | true =>
          rw [hdiscard, Bool.not_true, Bool.or_false] at hstage
          exact hstage
      | false =>
          rw [hdiscard, Bool.not_false, Bool.or_true] at hstage
          have hstarted : begun.session.started = true := congrArg Prod.fst hstage
          have hlocalIp : begun.session.localIp = c.session.localIp :=
            congrArg (fun stage => stage.2.2) hstage
          rw [if_pos Bool.not_false, if_pos Bool.not_false, ← hlocalIp, ← hstarted]
          rfl

theorem startFirstKept_stage (keys : SessionKeys) {c : Context}
    (hstays : cfg.lookBackRecording = true ∨ c.session.nonLookBackSessionStarted = true ∨
      cfg.discardUnidirectionalCalls = true) :
    (startFirstKept cfg env keys c).2.stage = c.stage := by
  rw [startFirstKept, session_bind]
  by_cases hfirst : (!cfg.lookBackRecording && c.session.numRtpPackets == 0 &&
      !c.session.nonLookBackSessionStarted) = true
  · rw [if_pos hfirst, startUnlessUnidirectional_stage]
    simp only [Bool.and_eq_true, Bool.not_eq_true'] at hfirst
    have hdiscard : cfg.discardUnidirectionalCalls = true := by
      rcases hstays with hlookBack | hstarted | hdiscard
      · rw [hlookBack] at hfirst
        exact absurd hfirst.1.1 Bool.false_ne_true.symm
      · rw [hstarted] at hfirst
        exact absurd hfirst.2 Bool.false_ne_true.symm
      · exact hdiscard
    rw [hdiscard, Bool.not_true, Bool.or_false]
    rfl
  · rw [if_neg hfirst]
    rfl

/-! ### On the way to the streams -/

theorem stage_goOffHoldOnRtp (rtpPacket : RtpPacketInfo) :
    KeepsStage (goOffHoldOnRtp cfg rtpPacket) := by
  unfold goOffHoldOnRtp
  apply Keeps.bind .session
  intro s
  cases s.lastRtpPacket with
  | none => exact .pure _
  | some last =>
      have hresume : KeepsStage (do
          if cfg.holdResumeReportDuration || cfg.holdResumeReportEvents then
            emit { type := .etResume, value := (← VoIp.keys).trackingId }) :=
        .ite (.bind .keys fun _ => stage_emit _ _) (.pure _)
      exact .ite (.bind (.update fun c => rfl) fun _ =>
        .ite (.bind .session fun s => .bind (stage_emitKeyValue _ _) fun _ => hresume) hresume)
        (.pure _)

theorem stage_follow (rtpPacket : RtpPacketInfo) (channel : Nat × Bool) :
    KeepsStage (follow cfg env rtpPacket channel) :=
  (offStreams_follow cfg env rtpPacket channel).comp Context.stage

/-- Only a packet of the second side starts the session when its channel is detected. -/
theorem detectChannel_stage (rtpPacket : RtpPacketInfo) (keys : SessionKeys) (c : Context) :
    (detectChannel cfg env rtpPacket keys c).2.session.localIp = c.session.localIp ∧
      ((detectChannel cfg env rtpPacket keys c).2.session.lastRtpPacketSide2 = none →
        (detectChannel cfg env rtpPacket keys c).2.session.started = c.session.started) := by
  have hstart (c : Context) :
      (startOnSide2 cfg env keys c).2.session.localIp = c.session.localIp := by
    have hstage := startAndReport_stage cfg env keys c
    rw [startOnSide2, bind_run]
    generalize startAndReport cfg env keys c = result at hstage ⊢
    obtain ⟨_, begun⟩ := result
    have hlocalIp : begun.session.localIp = c.session.localIp :=
      congrArg (fun stage => stage.2.2) hstage
    rw [← hlocalIp]
    split <;> rfl
  have hsides (c : Context) : (startOnSide2 cfg env keys c).2.session.lastRtpPacketSide2 =
      c.session.lastRtpPacketSide2 :=
    congrArg (fun flow => flow.1.side2) ((beside_startOnSide2 cfg env).aside keys c)
  rw [detectChannel, session_bind]
  cases hside1 : c.session.lastRtpPacketSide1 with
  | none => exact ⟨rfl, fun _ => rfl⟩
  | some side1 =>
      cases hside2 : c.session.lastRtpPacketSide2 with
      | none =>
          dsimp only
          split_ifs with hsame hstarts
          · exact ⟨rfl, fun _ => rfl⟩
          · refine ⟨hstart _, ?_⟩
            intro hnone
            cases (hsides _).symm.trans hnone
          · exact ⟨rfl, fun _ => rfl⟩
      | some side2 =>
          dsimp only
          split_ifs with hsame hsame2 hstarts
          · exact ⟨rfl, fun _ => rfl⟩
          · refine ⟨hstart _, ?_⟩
            intro hnone
            cases hside2.symm.trans ((hsides _).symm.trans hnone)
          · exact ⟨rfl, fun _ => rfl⟩
          · exact ⟨rfl, fun _ => rfl⟩

/-! ### Taking a packet in -/

def Output.channel? : Output → Option UInt8
  | .captureEvent .. => none
  | .audioChunk details .. => some details.channel

/-- Whether a session that is counting its packets starts with the next one. -/
def startsCounting (s : SessionData) : Bool :=
  cfg.lookBackRecording && !cfg.discardUnidirectionalCalls &&
    isStartPacket cfg { s with numRtpPackets := s.numRtpPackets + 1 }

abbrev KeepsStarted {α : Type} (m : SessionM α) : Prop := Keeps (fun c => c.session.started) m

theorem KeepsStage.started {α : Type} {m : SessionM α} (stage : KeepsStage m) : KeepsStarted m :=
  fun keys c => congrArg Prod.fst (stage keys c)

theorem started_noteAddresses (rtpPacket : RtpPacketInfo) :
    KeepsStarted (noteAddresses cfg rtpPacket) := by
  have hupdate (isNew : Bool) :
      KeepsStarted (updateMetadataSipOnRtpChange cfg rtpPacket isNew) := by
    unfold updateMetadataSipOnRtpChange
    apply Keeps.bind .shared
    intro sh
    apply Keeps.bind .session
    intro s
    dsimp only
    split
    · exact .bind (.update fun c => rfl) fun _ =>
        .thenElse (.update fun c => rfl) (.update fun c => rfl) <|
        .bind (.update fun c => rfl) fun _ => .bind (.update fun c => rfl) fun _ =>
        .bind (.update fun c => rfl) fun _ => .bind .session fun s =>
        .bind (stage_emit _ _).started fun _ => .bind (stage_emit _ _).started fun _ =>
        .bind (stage_reportNamesAsTags cfg).started fun _ =>
        .bind (stage_emit _ _).started fun _ => (stage_emit _ _).started
    · exact .pure _
  unfold noteAddresses
  exact .bind .session fun s => .bind (.update fun c => rfl) fun _ => .ite (hupdate _) (.pure _)

theorem started_mapChannels (channel : Nat) : KeepsStarted (mapChannels cfg channel) :=
  (offStreams_mapChannels cfg channel).comp fun c => c.session.started

theorem handOut_chunks (channel : Nat) (rtpPacket : RtpPacketInfo) (keys : SessionKeys)
    (c : Context) :
    ∃ chunks, (handOut cfg channel rtpPacket keys c).2.flow =
        (c.session.streams, c.session.gates, c.audio ++ chunks) ∧
      (∀ chunk ∈ chunks, chunk.channel? = some (UInt8.ofNat channel)) ∧
      (chunks = [] ↔ c.session.started = false) := by
  rw [handOut, session_bind]
  cases hstarted : c.session.started with
  | true =>
      have hflow := emitChunk_flow (chunkDetails c.session channel (asSpeex cfg rtpPacket))
        (asSpeex cfg rtpPacket).payload keys c
      refine ⟨[_], hflow, ?_, by simp⟩
      intro chunk hchunk
      rw [List.mem_singleton.mp hchunk]
      rfl
  | false =>
      rw [if_neg Bool.false_ne_true]
      exact ⟨[], flow_eq_iff.mpr ⟨rfl, rfl, (List.append_nil _).symm⟩, by simp, by simp⟩

theorem isStartPacket_congr {s s' : SessionData} (hprotocol : s'.protocol = s.protocol)
    (hcount : s'.numRtpPackets = s.numRtpPackets) :
    isStartPacket cfg s' = isStartPacket cfg s := by
  rw [isStartPacket, isStartPacket, hprotocol, hcount]

/-- Audio goes out on the channel that the packet is mapped to, if the session records. -/
theorem acceptRtpPacket_chunks (channel : Nat) (rtpPacket : RtpPacketInfo) (keys : SessionKeys)
    (c : Context) :
    ∃ chunks, (acceptRtpPacket cfg env channel rtpPacket keys c).2.flow =
        ({ (mapChannels cfg channel keys c).2.session.streams with
          accepted := c.session.streams.accepted + 1 }, c.session.gates, c.audio ++ chunks) ∧
      (∀ chunk ∈ chunks,
        chunk.channel? = some (UInt8.ofNat (mapChannels cfg channel keys c).1)) ∧
      (chunks = [] ↔ (c.session.started || startsCounting cfg c.session) = false) := by
  obtain ⟨t, hflow, accepts⟩ := mapChannels_flow cfg channel keys c
  have hstarted := started_mapChannels cfg channel keys c
  rw [acceptRtpPacket, bind_run]
  generalize mapChannels cfg channel keys c = result at hflow hstarted ⊢
  obtain ⟨channel', mapped⟩ := result
  rw [update_bind, bind_run, session_bind]
  obtain ⟨rfl, hgates, haudio⟩ := flow_eq_iff.mp hflow
  have hcounted : ({ mapped with session := { mapped.session with
      numRtpPackets := mapped.session.numRtpPackets + 1
      lastUpdated := rtpPacket.arrivalTimestamp } } : Context).flow =
      ({ mapped.session.streams with accepted := c.session.streams.accepted + 1 },
        c.session.gates, c.audio) := by
    rw [← accepts.accepted, ← hgates, ← haudio]
    rfl
  have hnoted := ((beside_noteAddresses cfg rtpPacket).aside keys _).trans hcounted
  have hrecords := (started_noteAddresses cfg rtpPacket keys { mapped with session :=
    { mapped.session with
      numRtpPackets := mapped.session.numRtpPackets + 1
      lastUpdated := rtpPacket.arrivalTimestamp } }).trans hstarted
  generalize noteAddresses cfg rtpPacket keys _ = result at hnoted hrecords ⊢
  obtain ⟨_, noted⟩ := result
  obtain ⟨hstreams, hgates, haudio⟩ := flow_eq_iff.mp hnoted
  have hrecords : noted.session.started = c.session.started := hrecords
  have hcount : isStartPacket cfg noted.session =
      isStartPacket cfg { c.session with numRtpPackets := c.session.numRtpPackets + 1 } := by
    apply isStartPacket_congr
    · exact congrArg Gates.protocol hgates
    · exact congrArg Streams.accepted hstreams
  have hlast (last : Context) (hlast : last.flow =
        ({ mapped.session.streams with accepted := c.session.streams.accepted + 1 },
          c.session.gates, c.audio))
      (hlastStarted : last.session.started = (c.session.started || startsCounting cfg c.session)) :
      ∃ chunks, (handOut cfg channel' rtpPacket keys last).2.flow =
          ({ mapped.session.streams with accepted := c.session.streams.accepted + 1 },
            c.session.gates, c.audio ++ chunks) ∧
        (∀ chunk ∈ chunks, chunk.channel? = some (UInt8.ofNat channel')) ∧
        (chunks = [] ↔ (c.session.started || startsCounting cfg c.session) = false) := by
    obtain ⟨chunks, houts, hchannel, hnone⟩ := handOut_chunks cfg channel' rtpPacket keys last
    obtain ⟨hstreams, hgates, haudio⟩ := flow_eq_iff.mp hlast
    rw [hstreams, hgates, haudio] at houts
    rw [hlastStarted] at hnone
    exact ⟨chunks, houts, hchannel, hnone⟩
  by_cases hstart : (isStartPacket cfg noted.session && cfg.lookBackRecording) = true
  · rw [if_pos hstart, bind_run]
    apply hlast
    · exact ((beside_startUnlessUnidirectional cfg env).aside keys noted).trans hnoted
    · have hstage := congrArg Prod.fst (startUnlessUnidirectional_stage cfg env keys noted)
      rw [Bool.and_eq_true, hcount] at hstart
      rw [startsCounting, hstart.1, hstart.2, Bool.true_and, Bool.and_true, ← hrecords]
      exact hstage
  · rw [if_neg hstart]
    apply hlast noted hnoted
    have hnot : startsCounting cfg c.session = false := by
      rw [startsCounting, ← hcount, Bool.and_right_comm, Bool.and_comm cfg.lookBackRecording,
        eq_false_of_ne_true hstart, Bool.false_and]
    rw [hnot, Bool.or_false]
    exact hrecords

/-! ### To the streams -/

/-- Whether a signalled session records once it has looked at its packet. -/
def recordsAtOnce (s : SessionData) : Bool :=
  s.started ||
    (!cfg.lookBackRecording && !s.nonLookBackSessionStarted && !cfg.discardUnidirectionalCalls)

theorem keepsStarted_processMetadata (rtpPacket : RtpPacketInfo) :
    Keeps (fun c => (c.session.started, c.session.nonLookBackSessionStarted))
      (processMetadata cfg rtpPacket) := by
  have houtgoing (invite : SipInviteInfo) :
      Keeps (fun c => (c.session.started, c.session.nonLookBackSessionStarted))
        (processMetadataSipOutgoing cfg invite) := by
    unfold processMetadataSipOutgoing
    exact .bind .shared fun sh => .bind .keys fun _ =>
      .thenElse (.update fun c => rfl) (.update fun c => rfl) <|
      .bind (.update fun c => rfl) fun _ => .update fun c => rfl
  have hincoming (invite : SipInviteInfo) :
      Keeps (fun c => (c.session.started, c.session.nonLookBackSessionStarted))
        (processMetadataSipIncoming cfg invite) := by
    unfold processMetadataSipIncoming
    exact .bind .shared fun sh => .bind .keys fun _ =>
      .thenElse (.update fun c => rfl) (.update fun c => rfl) <|
      .bind (.update fun c => rfl) fun _ => .update fun c => rfl
  unfold processMetadata
  apply Keeps.bind .session
  intro s
  apply Keeps.ite _ (.pure _)
  apply Keeps.bind (.update fun c => rfl)
  intro _
  apply Keeps.bind .session
  intro s
  cases s.protocol with
  | protRawRtp =>
      unfold processMetadataRawRtp
      exact .bind .shared fun sh => .bind .keys fun _ => .bind (.update fun c => rfl) fun _ =>
        .bind .session fun s => .whenThen (.update fun c => rfl) <|
        .bind .session fun s => .whenThen (.update fun c => rfl) (.update fun c => rfl)
  | protSip =>
      unfold processMetadataSip
      apply Keeps.bind .session
      intro s
      cases s.invite with
      | none => exact .pure _
      | some invite =>
          apply Keeps.ite
          · exact .bind (houtgoing invite) fun _ => .update fun c => rfl
          · exact .thenElse (houtgoing invite) (hincoming invite) <|
              .whenThen (.update fun c => rfl) (.ite (.update fun c => rfl) (.pure _))
  | protSkinny =>
      unfold processMetadataSkinny
      exact .bind .keys fun _ => .update fun c => rfl
  | protUnkn => exact .pure _

/-- A packet that is kept and not dismissed comes to the streams in a session that begins to
record where it does without look-back. -/
theorem addRtpPacket_reaches {rtpPacket : RtpPacketInfo} (keys : SessionKeys) {c : Context}
    (hsignalled : c.session.protocol ≠ .protRawRtp)
    (hevent : c.session.gates.isTelephoneEvent cfg rtpPacket = false)
    (hkept : c.session.keepRtp = true) (hdismissed : c.session.gates.isDismissed rtpPacket = false) :
    ∃ reached, addRtpPacket cfg env rtpPacket keys c = reachStreams cfg env rtpPacket keys reached ∧
      reached.flow = (c.session.streams, c.session.gates.next rtpPacket, c.audio) ∧
      reached.session.started = recordsAtOnce cfg c.session ∧
      reached.session.localIp = (processMetadata cfg rtpPacket keys c).2.session.localIp := by
  have hprocessed := (beside_processMetadata cfg rtpPacket).aside keys c
  have hprotocol : (processMetadata cfg rtpPacket keys c).2.session.protocol =
      c.session.protocol := congrArg (fun flow => flow.2.1.protocol) hprocessed
  obtain ⟨hstarted, hnonLookBack⟩ := Prod.mk.inj (keepsStarted_processMetadata cfg rtpPacket keys c)
  have hstage := startNonLookBack_stage cfg env keys (hprotocol ▸ hsignalled)
  have hbegin : (c.begun cfg env rtpPacket keys).session.started = recordsAtOnce cfg c.session ∧
      (c.begun cfg env rtpPacket keys).session.localIp =
        (processMetadata cfg rtpPacket keys c).2.session.localIp ∧
      (cfg.lookBackRecording = true ∨
        (c.begun cfg env rtpPacket keys).session.nonLookBackSessionStarted = true ∨
        cfg.discardUnidirectionalCalls = true) := by
    rw [recordsAtOnce, ← hstarted, ← hnonLookBack]
    by_cases hstarts : (!cfg.lookBackRecording &&
        !(processMetadata cfg rtpPacket keys c).2.session.nonLookBackSessionStarted &&
        !cfg.discardUnidirectionalCalls) = true
    · rw [if_pos hstarts] at hstage
      rw [hstarts, Bool.or_true]
      obtain ⟨hbegun, hrest⟩ := Prod.mk.inj hstage
      obtain ⟨hbegunNonLookBack, hlocalIp⟩ := Prod.mk.inj hrest
      exact ⟨hbegun, hlocalIp, Or.inr (Or.inl hbegunNonLookBack)⟩
    · rw [if_neg hstarts] at hstage
      rw [eq_false_of_ne_true hstarts, Bool.or_false]
      obtain ⟨hbegun, hrest⟩ := Prod.mk.inj hstage
      obtain ⟨hbegunNonLookBack, hlocalIp⟩ := Prod.mk.inj hrest
      refine ⟨hbegun, hlocalIp, ?_⟩
      rw [hbegunNonLookBack]
      simp only [Bool.and_eq_true, Bool.not_eq_true', not_and, Bool.not_eq_false] at hstarts
      cases hlookBack : cfg.lookBackRecording with
      | true => exact Or.inl rfl
      | false =>
          cases hnonLookBack :
              (processMetadata cfg rtpPacket keys c).2.session.nonLookBackSessionStarted with
          | true => exact Or.inr (Or.inl rfl)
          | false => exact Or.inr (Or.inr (hstarts ⟨hlookBack, hnonLookBack⟩))
  obtain ⟨hrecords, hlocalIp, hstays⟩ := hbegin
  have hresumed : (c.resumed cfg env rtpPacket keys).stage =
      (c.begun cfg env rtpPacket keys).stage :=
    (stage_goOffHoldOnRtp cfg rtpPacket keys _).trans (startFirstKept_stage cfg env keys hstays)
  refine ⟨c.resumed cfg env rtpPacket keys,
    addRtpPacket_reach cfg env keys c hevent hkept hdismissed,
    flow_resumed cfg env keys c rtpPacket, ?_, ?_⟩
  · exact (congrArg Prod.fst hresumed).trans hrecords
  · exact (congrArg (fun stage => stage.2.2) hresumed).trans hlocalIp

/-! ### From the streams on -/

variable {cfg env} in
/-- Where side 2 is still unknown, the packet belongs to side 1. -/
theorem Follows.alone {g : Gates} {t t' : Streams} {rtpPacket : RtpPacketInfo} {verdict : Verdict}
    (follows : Follows cfg env g t rtpPacket verdict t') (hside2 : t'.side2 = none) :
    t.side2 = none ∧ ∀ side1, t.side1 = some side1 → isSameStream side1 rtpPacket = true := by
  cases follows with
  | first1 hside1 => exact ⟨hside2, fun side1 h => by rw [hside1] at h; cases h⟩
  | first2 => cases hside2
  | duplicate1 hside1 hsame => exact ⟨hside2, fun side1 h => Option.some.inj (hside1.symm.trans h) ▸ hsame⟩
  | broken1 hside1 hsame => exact ⟨hside2, fun side1 h => Option.some.inj (hside1.symm.trans h) ▸ hsame⟩
  | accepted1 hside1 hsame =>
      exact ⟨hside2, fun side1 h => Option.some.inj (hside1.symm.trans h) ▸ hsame⟩
  | duplicate2 _ hsome => cases hsome.symm.trans hside2
  | broken2 _ hsome => cases hsome.symm.trans hside2
  | accepted2 => cases hside2
  | alien halien =>
      obtain ⟨_, side2, _, hsome, _⟩ := halien
      have hcounted : (t.countAlien env rtpPacket).side2 = some side2 := by
        unfold Streams.countAlien
        split_ifs <;> exact hsome
      unfold Streams.takeOver at hside2
      split_ifs at hside2
      · cases hcounted.symm.trans hside2
      · cases hcounted.symm.trans hside2

theorem Detected.alone {t t' : Streams} {rtpPacket : RtpPacketInfo} {channel : Nat × Bool}
    (detected : Detected t rtpPacket channel t') (hside2 : t.side2 = none)
    (hsame : ∀ side1, t.side1 = some side1 → isSameStream side1 rtpPacket = true) :
    t'.side2 = none := by
  cases detected with
  | first1 => exact hside2
  | first2 hside1 _ hdiffers =>
      rw [hsame _ hside1] at hdiffers
      cases hdiffers
  | side1 => exact hside2
  | side2 => exact hside2
  | alien => exact hside2

/-- What is done about a verdict. -/
def settle (rtpPacket : RtpPacketInfo) : Verdict → SessionM (Bool × RtpPacketInfo)
  | .dismissed => pure (true, rtpPacket)
  | .brokenUp => pure (false, rtpPacket)
  | .accepted channel => return (true, ← acceptRtpPacket cfg env channel rtpPacket)

/-- The verdict on a packet, and the session that it is reached in. -/
theorem reachStreams_settles (rtpPacket : RtpPacketInfo) (keys : SessionKeys) (c : Context) :
    ∃ verdict decided,
      reachStreams cfg env rtpPacket keys c = settle cfg env rtpPacket verdict keys decided ∧
      Follows cfg env c.session.gates c.session.streams rtpPacket verdict
        decided.session.streams ∧
      decided.session.gates = c.session.gates ∧ decided.audio = c.audio ∧
      decided.session.localIp = c.session.localIp ∧
      (decided.session.streams.side2 = none → decided.session.started = c.session.started) := by
  obtain ⟨between, detected, hdetected⟩ := detectChannel_detected cfg env rtpPacket keys c
  obtain ⟨hlocalIp, hstarted⟩ := detectChannel_stage cfg env rtpPacket keys c
  rw [reachStreams, bind_run]
  generalize detectChannel cfg env rtpPacket keys c = result at detected hdetected hlocalIp hstarted ⊢
  obtain ⟨channel, onSide⟩ := result
  obtain ⟨hstreams, hgates, haudio⟩ := flow_eq_iff.mp hdetected
  obtain ⟨t, follows, hfollowed⟩ := follow_follows cfg env keys onSide (hstreams ▸ detected)
  have hstage := stage_follow cfg env rtpPacket channel keys onSide
  rw [bind_run]
  generalize follow cfg env rtpPacket channel keys onSide = result at follows hfollowed hstage ⊢
  obtain ⟨verdict, decided⟩ := result
  obtain ⟨rfl, hgates', haudio'⟩ := flow_eq_iff.mp hfollowed
  refine ⟨verdict, decided, ?_, ?_, hgates'.trans hgates, haudio'.trans haudio, ?_, ?_⟩
  · cases verdict <;> rfl
  · rw [← hgates]
    exact follows
  · exact (congrArg (fun stage => stage.2.2) hstage).trans hlocalIp
  · intro hnone
    obtain ⟨hside2, hsame⟩ := follows.alone hnone
    have hbetween : onSide.session.lastRtpPacketSide2 = none := by
      have hnone := detected.alone hside2 hsame
      rw [← hstreams] at hnone
      exact hnone
    exact (congrArg Prod.fst hstage).trans (hstarted hbetween)

end

end OrkAudio.VoIp
