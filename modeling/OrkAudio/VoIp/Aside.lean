import OrkAudio.VoIp.RtpPacket

/-! What the functions of a session do beside its streams.

Naming the parties, starting and reporting a call change neither what a session remembers of
its RTP streams nor the audio that it has handed out, nor whether it is on hold. -/

namespace OrkAudio.VoIp

open Lib

variable {α : Type}

/-! ### Running a function of a session -/

theorem session_bind (f : SessionData → SessionM α) (keys : SessionKeys) (c : Context) :
    (session >>= f) keys c = f c.session keys c := rfl

theorem update_bind (f : SessionData → SessionData) (rest : Unit → SessionM α)
    (keys : SessionKeys) (c : Context) :
    (update f >>= rest) keys c = rest () keys { c with session := f c.session } := rfl

theorem bind_run {β : Type} (m : SessionM β) (f : β → SessionM α) (keys : SessionKeys)
    (c : Context) : (m >>= f) keys c = f (m keys c).1 keys (m keys c).2 := rfl

/-! ### What is kept -/

/-- A function of a session that leaves what is read of its context as it was. -/
def Keeps {α β : Type} (read : Context → β) (m : SessionM α) : Prop :=
  ∀ keys c, read (m keys c).2 = read c

namespace Keeps

variable {β γ : Type} {read : Context → β}

theorem pure (a : α) : Keeps read (Pure.pure a : SessionM α) := fun _ _ => rfl

theorem bind {m : SessionM α} {f : α → SessionM γ} (first : Keeps read m)
    (rest : ∀ a, Keeps read (f a)) : Keeps read (m >>= f) := by
  intro keys c
  exact (rest _ keys _).trans (first keys c)

theorem session : Keeps read session := fun _ _ => rfl

theorem shared : Keeps read shared := fun _ _ => rfl

theorem keys : Keeps read keys := fun _ _ => rfl

theorem modify {f : Context → Context} (same : ∀ c, read (f c) = read c) :
    Keeps read (MonadState.modifyGet fun c => ((), f c) : SessionM Unit) := fun _ c => same c

theorem update {f : SessionData → SessionData}
    (same : ∀ c, read { c with session := f c.session } = read c) : Keeps read (update f) :=
  fun _ c => same c

theorem ite {c : Prop} [Decidable c] {m m' : SessionM α} (yes : Keeps read m)
    (no : Keeps read m') : Keeps read (if c then m else m') := by
  split <;> assumption

/-- `if c then m`, followed by the rest. -/
theorem whenThen {c : Prop} [Decidable c] {m : SessionM Unit} {rest : Unit → SessionM α}
    (first : Keeps read m) (last : Keeps read (rest ())) :
    Keeps read (if c then m >>= rest else rest ()) :=
  ite (bind first fun _ => last) last

/-- `if c then m else m'`, followed by the rest. -/
theorem thenElse {c : Prop} [Decidable c] {m m' : SessionM Unit} {rest : Unit → SessionM α}
    (yes : Keeps read m) (no : Keeps read m') (last : Keeps read (rest ())) :
    Keeps read (if c then m >>= rest else m' >>= rest) :=
  ite (bind yes fun _ => last) (bind no fun _ => last)

end Keeps

/-! ### Streams -/

/-- What a session remembers of its streams, and how many packets it has counted. -/
structure Streams where
  side1 : Option RtpPacketInfo
  side2 : Option RtpPacketInfo
  mapped : Bool
  aliens1 : Nat
  aliens2 : Nat
  candidate : UInt32
  candidateTimestamp : Int
  accepted : Nat
  ignored : Nat

def SessionData.streams (s : SessionData) : Streams where
  side1 := s.lastRtpPacketSide1
  side2 := s.lastRtpPacketSide2
  mapped := s.mappedS1S2
  aliens1 := s.numAlienRtpPacketsS1
  aliens2 := s.numAlienRtpPacketsS2
  candidate := s.ssrcCandidate
  candidateTimestamp := s.ssrcCandidateTimestamp
  accepted := s.numRtpPackets
  ignored := s.numIgnoredRtpPackets

/-- What decides how far a packet gets in a session. -/
structure Gates where
  protocol : Protocol
  telephoneEventPayloadType : Int
  keepRtp : Bool
  onHold : Bool
  endPointIp : InAddr
  lastRtpPacket : Option RtpPacketInfo
  minRtpSeqDelta : Int
  minRtpTimestampDelta : Int

def SessionData.gates (s : SessionData) : Gates where
  protocol := s.protocol
  telephoneEventPayloadType := s.telephoneEventPayloadType
  keepRtp := s.keepRtp
  onHold := s.onHold
  endPointIp := s.endPointIp
  lastRtpPacket := s.lastRtpPacket
  minRtpSeqDelta := s.minRtpSeqDelta
  minRtpTimestampDelta := s.minRtpTimestampDelta

def Output.isAudio : Output → Bool
  | .captureEvent .. => false
  | .audioChunk .. => true

/-- The audio that a function hands out. -/
def Context.audio (c : Context) : List Output := (c.notices.map Notice.output).filter Output.isAudio

/-- What the streams are and how they go on. -/
def Context.flow (c : Context) : Streams × Gates × List Output :=
  (c.session.streams, c.session.gates, c.audio)

theorem flow_eq_iff {c : Context} {t : Streams} {g : Gates} {audio : List Output} :
    c.flow = (t, g, audio) ↔
      c.session.streams = t ∧ c.session.gates = g ∧ c.audio = audio := by
  rw [Context.flow, Prod.mk.injEq, Prod.mk.injEq]

/-- A function that has nothing to do with the streams. -/
abbrev Aside (m : SessionM α) : Prop := Keeps Context.flow m

/-- What a session knows of being on hold. -/
structure Hold where
  onHold : Bool
  holdBegin : Int
  holdDuration : Int

def SessionData.hold (s : SessionData) : Hold where
  onHold := s.onHold
  holdBegin := s.holdBegin
  holdDuration := s.holdDuration

/-- The streams and the hold periods. -/
def Context.core (c : Context) : (Streams × Gates × List Output) × Hold := (c.flow, c.session.hold)

/-- A function that has nothing to do with the streams, nor with hold. -/
abbrev Beside (m : SessionM α) : Prop := Keeps Context.core m

theorem Keeps.aside {m : SessionM α} (beside : Beside m) : Aside m :=
  fun keys c => congrArg Prod.fst (beside keys c)

theorem Keeps.hold {m : SessionM α} (beside : Beside m) : Keeps (fun c => c.session.hold) m :=
  fun keys c => congrArg Prod.snd (beside keys c)

theorem audio_append (c : Context) (notice : Notice) (hevent : notice.output.isAudio = false) :
    ({ c with notices := c.notices ++ [notice] } : Context).audio = c.audio := by
  simp [Context.audio, hevent]

theorem beside_emit (event : CaptureEvent) (hstop : decide (event.type = .etStop) = false) :
    Beside (emit event hstop) := by
  intro keys c
  exact congrArg (fun audio => ((c.session.streams, c.session.gates, audio), c.session.hold))
    (audio_append c _ rfl)

theorem beside_emitKeyValue (key value : String) : Beside (emitKeyValue key value) :=
  beside_emit _ _

section

variable (cfg : Config) (env : Env)

/-! ### Start -/

theorem beside_skinnyTrackConferencesTransfers :
    Beside (skinnyTrackConferencesTransfers cfg env) := by
  unfold skinnyTrackConferencesTransfers
  refine .bind .session fun s => .bind .shared fun sh => ?_
  cases sh.getVoIpEndpointInfo cfg s.endPointIp s.endPointSignallingPort with
  | none => exact .pure _
  | some endpoint =>
      exact .ite (.modify fun c => rfl) (.ite (beside_emitKeyValue _ _) (.pure _))

theorem beside_start : Beside (start cfg env) := by
  unfold start
  refine .bind (.update fun c => rfl) fun _ => .bind .session fun s =>
    .whenThen (.bind .keys fun _ => .update fun c => rfl) ?_
  exact .bind (.update fun c => rfl) fun _ => .bind .session fun s => .bind .keys fun _ =>
    .bind (beside_emit _ _) fun _ => .ite (beside_skinnyTrackConferencesTransfers cfg env) (.pure _)

/-! ### Metadata -/

theorem beside_processMetadataRawRtp (rtpPacket : RtpPacketInfo) :
    Beside (processMetadataRawRtp cfg rtpPacket) := by
  unfold processMetadataRawRtp
  exact .bind .shared fun sh => .bind .keys fun _ => .bind (.update fun c => rfl) fun _ =>
    .bind .session fun s => .whenThen (.update fun c => rfl) <|
    .bind .session fun s => .whenThen (.update fun c => rfl) (.update fun c => rfl)

theorem beside_processMetadataSipIncoming (invite : SipInviteInfo) :
    Beside (processMetadataSipIncoming cfg invite) := by
  unfold processMetadataSipIncoming
  exact .bind .shared fun sh => .bind .keys fun _ =>
    .thenElse (.update fun c => rfl) (.update fun c => rfl) <|
    .bind (.update fun c => rfl) fun _ => .update fun c => rfl

theorem beside_processMetadataSipOutgoing (invite : SipInviteInfo) :
    Beside (processMetadataSipOutgoing cfg invite) := by
  unfold processMetadataSipOutgoing
  exact .bind .shared fun sh => .bind .keys fun _ =>
    .thenElse (.update fun c => rfl) (.update fun c => rfl) <|
    .bind (.update fun c => rfl) fun _ => .update fun c => rfl

theorem beside_processMetadataSip : Beside (processMetadataSip cfg) := by
  unfold processMetadataSip
  refine .bind .session fun s => ?_
  cases s.invite with
  | none => exact .pure _
  | some invite =>
      refine .ite ?_ ?_
      · exact .bind (beside_processMetadataSipOutgoing cfg invite) fun _ => .update fun c => rfl
      · exact .thenElse (beside_processMetadataSipOutgoing cfg invite)
          (beside_processMetadataSipIncoming cfg invite) <|
          .whenThen (.update fun c => rfl) (.ite (.update fun c => rfl) (.pure _))

theorem beside_processMetadataSkinny (rtpPacket : RtpPacketInfo) :
    Beside (processMetadataSkinny rtpPacket) := by
  unfold processMetadataSkinny
  exact .bind .keys fun _ => .update fun c => rfl

theorem beside_processMetadata (rtpPacket : RtpPacketInfo) :
    Beside (processMetadata cfg rtpPacket) := by
  unfold processMetadata
  refine .bind .session fun s => .ite (.bind (.update fun c => rfl) fun _ =>
    .bind .session fun s => ?_) (.pure _)
  cases s.protocol with
  | protRawRtp => exact beside_processMetadataRawRtp cfg rtpPacket
  | protSip => exact beside_processMetadataSip cfg
  | protSkinny => exact beside_processMetadataSkinny rtpPacket
  | protUnkn => exact .pure _

/-! ### Reports -/

theorem beside_reportNamesAsTags : Beside (reportNamesAsTags cfg) := by
  unfold reportNamesAsTags
  exact .ite (.bind .session fun s => .bind (beside_emitKeyValue _ _) fun _ =>
    .bind .session fun s => beside_emitKeyValue _ _) (.pure _)

theorem beside_reportLocalParty (useName : Bool) : Beside (reportLocalParty cfg useName) := by
  unfold reportLocalParty
  exact .bind .session fun s => .ite
    (.bind (.update fun c => rfl) fun _ => .bind .session fun s => beside_emit _ _)
    (.bind (.update fun c => rfl) fun _ => .bind .session fun s => beside_emit _ _)

theorem beside_reportRemoteParty : Beside (reportRemoteParty cfg) := by
  unfold reportRemoteParty
  exact .bind .session fun s => .bind (beside_emit _ _) fun _ =>
    .bind (.update fun c => rfl) fun _ => .ite (beside_emit _ _) (.pure _)

theorem beside_reportTags (tags : List (String × String)) : Beside (reportTags tags) := by
  induction tags with
  | nil => exact .pure _
  | cons tag tags ih => exact .bind (beside_emitKeyValue _ _) fun _ => ih

theorem beside_mapLocalPartyName : Beside mapLocalPartyName := by
  unfold mapLocalPartyName
  exact .bind .session fun s => .bind .shared fun sh =>
    .ite (.modify fun c => rfl) (.ite (.update fun c => rfl) (.pure _))

theorem beside_reportMetadata : Beside (reportMetadata cfg) := by
  unfold reportMetadata
  exact .bind .shared fun sh => .bind .keys fun _ => .bind (.update fun c => rfl) fun _ =>
    .bind .session fun s => .whenThen (.update fun c => rfl) <|
    .whenThen beside_mapLocalPartyName <| .bind .session fun s =>
    .bind (beside_reportLocalParty cfg _) fun _ => .bind (.update fun c => rfl) fun _ =>
    .bind (beside_reportRemoteParty cfg) fun _ => .bind (beside_reportNamesAsTags cfg) fun _ =>
    .bind .session fun s => .bind (beside_emit _ _) fun _ => .bind (beside_emit _ _) fun _ =>
    .bind (beside_emit _ _) fun _ => .bind (beside_emit _ _) fun _ =>
    .bind (beside_emit _ _) fun _ => .whenThen (beside_emitKeyValue _ _) <|
    .bind (beside_reportTags _) fun _ => beside_emit _ _

theorem beside_startAndReport : Beside (startAndReport cfg env) :=
  .bind (beside_start cfg env) fun _ => beside_reportMetadata cfg

theorem beside_startOnSide2 : Beside (startOnSide2 cfg env) := by
  unfold startOnSide2
  exact .bind (beside_startAndReport cfg env) fun _ => .ite (.update fun c => rfl) (.pure _)

theorem beside_startUnlessUnidirectional : Beside (startUnlessUnidirectional cfg env) := by
  unfold startUnlessUnidirectional
  exact .ite (.update fun c => rfl) (beside_startAndReport cfg env)

theorem beside_startNonLookBack : Beside (startNonLookBack cfg env) := by
  unfold startNonLookBack
  exact .bind .session fun s => .ite (.bind (beside_startUnlessUnidirectional cfg env) fun _ =>
    .ite (.update fun c => rfl) (.pure _)) (.pure _)

theorem beside_startFirstKept : Beside (startFirstKept cfg env) := by
  unfold startFirstKept
  exact .bind .session fun s => .ite (beside_startUnlessUnidirectional cfg env) (.pure _)

theorem beside_updateMetadataSipOnRtpChange (rtpPacket : RtpPacketInfo)
    (sourceRtpAddressIsNew : Bool) :
    Beside (updateMetadataSipOnRtpChange cfg rtpPacket sourceRtpAddressIsNew) := by
  unfold updateMetadataSipOnRtpChange
  refine .bind .shared fun sh => .bind .session fun s => ?_
  dsimp only
  split
  · exact .bind (.update fun c => rfl) fun _ =>
      .thenElse (.update fun c => rfl) (.update fun c => rfl) <|
      .bind (.update fun c => rfl) fun _ => .bind (.update fun c => rfl) fun _ =>
      .bind (.update fun c => rfl) fun _ => .bind .session fun s =>
      .bind (beside_emit _ _) fun _ => .bind (beside_emit _ _) fun _ =>
      .bind (beside_reportNamesAsTags cfg) fun _ => .bind (beside_emit _ _) fun _ => beside_emit _ _
  · exact .pure _

theorem beside_noteAddresses (rtpPacket : RtpPacketInfo) : Beside (noteAddresses cfg rtpPacket) := by
  unfold noteAddresses
  exact .bind .session fun s => .bind (.update fun c => rfl) fun _ =>
    .ite (beside_updateMetadataSipOnRtpChange cfg rtpPacket _) (.pure _)

end

/-! ### DTMF commands -/

def Output.isDtmfDigit : Output → Bool
  | .captureEvent event _ => event.type = .etKeyValue && event.key = "dtmfdigit"
  | .audioChunk .. => false

/-- What the commands leave as it was: they set the flags of a recording, and what they report
is no digit. -/
structure BesideCommands {β : Type} (read : Context → β) : Prop where
  emits : ∀ event hstop, (∀ port, (Output.captureEvent event port).isDtmfDigit = false) →
    Keeps read (emit event hstop)
  flags : ∀ (c : Context) (onDemand keepRtp : Bool),
    read { c with session := { c.session with onDemand := onDemand, keepRtp := keepRtp } } = read c

theorem BesideCommands.resumeOnDemand {β : Type} {read : Context → β}
    (beside : BesideCommands read) : Keeps read resumeOnDemand := by
  unfold VoIp.resumeOnDemand triggerOnDemandViaDtmf markAsOnDemand
  refine .bind (.bind (.update fun c => beside.flags c c.session.onDemand true) fun _ =>
    .bind (.update fun c => beside.flags c true c.session.keepRtp) fun _ =>
    .bind .session fun s => .ite ?_ (.pure _)) fun _ => .update fun c => beside.flags c true true
  exact .bind (beside.emits _ _ fun _ => rfl) fun _ =>
    .bind (beside.emits _ _ fun _ => rfl) fun _ => beside.emits _ _ fun _ => rfl

theorem BesideCommands.runDtmfCommands {β : Type} {read : Context → β}
    (beside : BesideCommands read) (isOnDemand isPause : Bool) :
    Keeps read (runDtmfCommands isOnDemand isPause) := by
  unfold VoIp.runDtmfCommands
  refine .bind .session fun s => ?_
  cases s.onDemand with
  | false =>
      cases s.keepRtp with
      | false => exact .ite beside.resumeOnDemand (.pure _)
      | true =>
          exact .ite beside.resumeOnDemand
            (.ite (.update fun c => beside.flags c false false) (.pure _))
  | true =>
      cases s.keepRtp with
      | false => exact .ite beside.resumeOnDemand (.pure _)
      | true => exact .ite (.update fun c => beside.flags c true false) (.pure _)

end OrkAudio.VoIp
