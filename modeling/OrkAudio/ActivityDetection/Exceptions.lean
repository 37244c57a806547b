import OrkAudio.ActivityDetection.Model

/-! Which payloads make activity detection end in an exception. -/

namespace OrkAudio.ActivityDetection

open Lib Decoder

variable {σ α β : Type}

/-! ### Exceptions and what is called first -/

theorem contained_ok (a : α) : Contained (.ok a) := by
  intro abort habort
  cases habort

theorem contained_bind {x : Except Abort α} {f : α → Except Abort β} :
    Contained (x >>= f) ↔ Contained x ∧ ∀ a, x = .ok a → Contained (f a) := by
  cases x with
  | error abort =>
      constructor
      · intro contained
        refine ⟨?_, ?_⟩
        · intro other hother
          cases hother
          exact contained _ rfl
        · intro a ha
          cases ha
      · rintro ⟨contained, -⟩ other hother
        cases hother
        exact contained _ rfl
  | ok a =>
      constructor
      · intro contained
        refine ⟨contained_ok a, ?_⟩
        rintro b hb
        cases hb
        exact contained
      · rintro ⟨-, contained⟩
        exact contained a rfl

/-- Where nothing that follows throws, it is the first call that decides. -/
theorem contained_bind_iff {x : Except Abort α} {f : α → Except Abort β}
    (hf : ∀ a, x = .ok a → Contained (f a)) : Contained (x >>= f) ↔ Contained x :=
  contained_bind.trans (and_iff_left hf)

/-! ### Tables of decoders -/

/-- A table for the types below `RTP_PAYLOAD_TYPE_MAX`, whose decoders hand out PCM. -/
structure Table (decoders : Decoders σ) : Prop where
  length : decoders.length = rtpPayloadTypeMax
  pcm : ∀ d, some d ∈ decoders → Pcm d.audioChunkOut

/-- There is an entry for the payload type, and if it is the Speex decoder, it finds a frame in
its payload. -/
def Decodes (codecs : Codecs σ) (decoders : Decoders σ) (rtpPayloadType : Int)
    (payload : List UInt8) : Prop :=
  0 ≤ rtpPayloadType ∧ rtpPayloadType < rtpPayloadTypeMax ∧
    ∀ f, decoders[rtpPayloadType.toNat]? = some (some (.plain .speex f)) →
      rtpPayloadType = ptSpeex → speexBytes codecs f payload ≠ 0

theorem newDecoders_table (filters : List (RegisteredFilter σ)) : Table (newDecoders filters) := by
  constructor
  · rw [newDecoders, List.length_map, List.length_range]
  · intro d hd
    rcases List.mem_map.mp hd with ⟨pt, -, hfilter⟩
    rcases Option.bind_eq_some_iff.mp hfilter with ⟨filter, -, hinstance⟩
    rw [filter.fresh d hinstance]
    exact .none

section

variable {codecs : Codecs σ} {computeRmsDb : AudioChunk → Rat} {decoders : Decoders σ}
  {chunk : AudioChunk} {payload : List UInt8}

theorem decoderAt_eq_ok {rtpPayloadType : Int} {decoder : Option (Decoder σ)}
    (hat : decoderAt decoders rtpPayloadType = .ok decoder) :
    decoders[rtpPayloadType.toNat]? = some decoder := by
  unfold decoderAt at hat
  split_ifs at hat
  cases hentry : decoders[rtpPayloadType.toNat]? with
  | none =>
      rw [hentry] at hat
      cases hat
  | some entry =>
      rw [hentry] at hat
      cases hat
      rfl

theorem contained_decoderAt (table : Table decoders) {rtpPayloadType : Int} :
    Contained (decoderAt decoders rtpPayloadType) ↔
      0 ≤ rtpPayloadType ∧ rtpPayloadType < rtpPayloadTypeMax := by
  have hlength := table.length
  have hescapes : ¬ Contained (.error .outOfRange : Except Abort (Option (Decoder σ))) :=
    fun contained => contained _ rfl trivial
  unfold decoderAt
  split_ifs with hnegative
  · exact iff_of_false hescapes fun hrange => absurd hrange.1 (Int.not_le.mpr hnegative)
  · cases hentry : decoders[rtpPayloadType.toNat]? with
    | none =>
        have hout := List.getElem?_eq_none_iff.mp hentry
        refine iff_of_false hescapes fun hrange => ?_
        have hlt := hrange.2
        omega
    | some entry =>
        rcases List.getElem?_eq_some_iff.mp hentry with ⟨hin, -⟩
        refine iff_of_true (contained_ok _) ⟨Int.not_lt.mp hnegative, ?_⟩
        omega

/-- A decoder of a table is called without an exception if and only if the payload can be
decoded. -/
theorem contained_decode (table : Table decoders) (packet : FromPacket chunk)
    (hpayload : readPayload chunk 0 chunk.details.numBytes.toNat = .ok payload) :
    Contained (decode codecs decoders chunk) ↔
      Decodes codecs decoders chunk.details.rtpPayloadType payload := by
  unfold decode
  rw [contained_bind, contained_decoderAt table, Decodes, and_assoc]
  refine and_congr_right fun _ => and_congr_right fun hrange => ?_
  constructor
  · intro contained f hentry htype hempty
    have hat : decoderAt decoders chunk.details.rtpPayloadType = .ok (some (.plain .speex f)) := by
      rw [decoderAt, if_neg (by omega), hentry]
    have hcontained := contained _ hat
    have hthrows : ((Decoder.plain .speex f).audioChunkIn codecs (some chunk)).Throws :=
      (audioChunkIn_throws packet).mpr ⟨f, rfl, htype, payload, hpayload, hempty⟩
    rcases hthrows with ⟨text, d, hthrown⟩
    simp only [hthrown] at hcontained
    exact hcontained _ rfl trivial
  · intro hspeex decoder hat
    have hentry := decoderAt_eq_ok hat
    cases decoder with
    | none => exact contained_ok _
    | some d =>
        dsimp only
        cases hin : d.audioChunkIn codecs (some chunk) with
        | returned d' => exact contained_ok _
        | undefined overrun =>
            intro abort habort
            cases habort
            exact id
        | thrown text d' =>
            have hthrows : (d.audioChunkIn codecs (some chunk)).Throws := ⟨text, d', hin⟩
            rcases (audioChunkIn_throws packet).mp hthrows with ⟨f, rfl, htype, bytes, hread, hempty⟩
            rw [hpayload] at hread
            cases hread
            exact absurd hempty (hspeex f hentry htype)

/-- A call leaves a table behind, and what it hands out is PCM. -/
theorem decode_table (table : Table decoders) {result : Option AudioChunk × Decoders σ}
    (hdecode : decode codecs decoders chunk = .ok result) :
    Table result.2 ∧ ∀ out ∈ result.1, out.details.encoding = .pcmAudio := by
  unfold decode at hdecode
  rcases bind_eq_ok.mp hdecode with ⟨decoder, hat, hrest⟩
  have hentry := decoderAt_eq_ok hat
  cases decoder with
  | none =>
      cases hrest
      refine ⟨table, ?_⟩
      intro out hout
      cases hout
  | some d =>
      have hpcm := table.pcm d (List.mem_of_getElem? hentry)
      have ensures := audioChunkIn_pcm codecs hpcm (some chunk)
      dsimp only at hrest
      cases hin : d.audioChunkIn codecs (some chunk) with
      | thrown text d' =>
          rw [hin] at hrest
          cases hrest
      | undefined overrun =>
          rw [hin] at hrest
          cases hrest
      | returned d' =>
          rw [hin] at hrest ensures
          cases hrest
          refine ⟨⟨?_, ?_⟩, ?_⟩
          · rw [List.length_set]
            exact table.length
          · intro other hother
            rcases List.mem_or_eq_of_mem_set hother with hold | hnew
            · exact table.pcm other hold
            · cases hnew
              exact ensures
          · intro out hout
            rcases Option.mem_map.mp hout with ⟨made, hmade, rfl⟩
            exact ensures made hmade

end

/-! ### Packets -/

section Packets

variable {s : VoIp.SessionData} {channel : Nat}

theorem length_toNat (rtpPacket : RtpPacket) :
    (UInt32.ofNat rtpPacket.payload.length).toNat = rtpPacket.payload.length := by
  rw [UInt32.toNat_ofNat']
  exact Nat.mod_eq_of_lt (Nat.lt_trans rtpPacket.datagram (by decide))

theorem chunkOf_eq (rtpPacket : RtpPacket) : chunkOf s channel rtpPacket.toRtpPacketInfo =
    { AudioChunk.plain with
      details := VoIp.chunkDetails s channel rtpPacket.toRtpPacketInfo
      buffer := memoryOf rtpPacket.payload } := by
  have hsome := List.length_pos_iff.mpr rtpPacket.payload_ne
  have hbytes : (VoIp.chunkDetails s channel rtpPacket.toRtpPacketInfo).numBytes ≠ 0 :=
    numBytes_ne_zero hsome (Nat.lt_trans rtpPacket.datagram (by decide))
  rw [chunkOf, AudioChunk.setBuffer, if_neg hbytes]

theorem fromPacket (rtpPacket : RtpPacket) :
    FromPacket (chunkOf s channel rtpPacket.toRtpPacketInfo) := by
  rw [chunkOf_eq]
  refine ⟨rfl, ?_, ?_⟩
  · exact Nat.lt_of_lt_of_eq (List.length_pos_iff.mpr rtpPacket.payload_ne)
      (length_toNat rtpPacket).symm
  · exact lt_of_eq_of_lt (length_toNat rtpPacket) rtpPacket.datagram

theorem byteAt_memoryOf (details : AudioChunkDetails) (payload : List UInt8) (i : Nat) :
    ({ AudioChunk.plain with
      details := details
      buffer := memoryOf payload } : AudioChunk).byteAt i = payload.getD i 0 := by
  have hlow := (payload.getD (2 * (i / 2)) 0).toNat_lt
  have hhigh := (payload.getD (2 * (i / 2) + 1) 0).toNat_lt
  have hsample : (memoryOf payload (i / 2)).toUInt16.toNat =
      (payload.getD (2 * (i / 2)) 0).toNat + 256 * (payload.getD (2 * (i / 2) + 1) 0).toNat := by
    rw [memoryOf, UInt16.toUInt16_toInt16, UInt16.toNat_ofNat', Nat.mod_eq_of_lt (by omega)]
  simp only [AudioChunk.byteAt, hsample]
  split_ifs with heven
  · have hi : 2 * (i / 2) = i := by omega
    rw [hi] at hlow ⊢
    apply UInt8.toNat_inj.mp
    rw [UInt8.toNat_ofNat']
    omega
  · have hi : 2 * (i / 2) + 1 = i := by omega
    rw [hi] at hhigh ⊢
    apply UInt8.toNat_inj.mp
    rw [UInt8.toNat_ofNat']
    omega

theorem readPayload_chunkOf (rtpPacket : RtpPacket) :
    readPayload (chunkOf s channel rtpPacket.toRtpPacketInfo) 0
      (chunkOf s channel rtpPacket.toRtpPacketInfo).details.numBytes.toNat =
        .ok rtpPacket.payload := by
  have hlength : (chunkOf s channel rtpPacket.toRtpPacketInfo).details.numBytes.toNat =
      rtpPacket.payload.length := by
    rw [chunkOf_eq]
    exact length_toNat rtpPacket
  rw [readPayload, hlength, Nat.zero_add, if_pos (Nat.le_refl _), chunkOf_eq]
  congr 1
  apply List.ext_getElem
  · rw [List.length_map, List.length_range]
  · intro i hi hi'
    rw [List.getElem_map, List.getElem_range, Nat.zero_add, byteAt_memoryOf,
      List.getD_eq_getElem?_getD, List.getElem?_eq_getElem hi']
    rfl

theorem encoding_ne (rtpPacket : RtpPacket) :
    (chunkOf s channel rtpPacket.toRtpPacketInfo).details.encoding ≠ .pcmAudio := by
  rw [(fromPacket rtpPacket).encoding]
  decide

theorem rtpPayloadType_eq (rtpPacket : RtpPacket) :
    (chunkOf s channel rtpPacket.toRtpPacketInfo).details.rtpPayloadType =
      (VoIp.chunkDetails s channel rtpPacket.toRtpPacketInfo).rtpPayloadType := by
  rw [chunkOf_eq]

end Packets

/-! ### Sessions -/

/-- What `DetectChannel` decodes can be decoded. -/
def SessionDecodes (codecs : Codecs σ) (cfg : VoIp.Config) (session : Session σ) :
    SessionLabel → Prop
  | .packet _ _ rtpPacket =>
      watches cfg session.context.session rtpPacket.toRtpPacketInfo = true →
        Decodes codecs session.decoders
          (VoIp.chunkDetails session.context.session 2 rtpPacket.toRtpPacketInfo).rtpPayloadType
          rtpPacket.payload
  | .rest _ => True

section Sessions

variable {codecs : Codecs σ} {computeRmsDb : AudioChunk → Rat} {cfg : VoIp.Config}
  {session session' : Session σ}

theorem active_of_watches {s : VoIp.SessionData} {rtpPacket : VoIp.RtpPacketInfo}
    (hwatches : watches cfg s rtpPacket = true) : cfg.sessionStartsOnS2ActivityDb ≠ 0 := by
  unfold watches at hwatches
  split at hwatches
  · exact of_decide_eq_true (Bool.and_eq_true_iff.mp hwatches).2
  · cases hwatches

/-- There is a table if activity is looked at. -/
def SessionSound (cfg : VoIp.Config) (session : Session σ) : Prop :=
  cfg.sessionStartsOnS2ActivityDb ≠ 0 → Table session.decoders

theorem sessionSound_new (filters : List (RegisteredFilter σ)) (context : VoIp.Context) :
    SessionSound cfg (Session.new filters cfg context) := by
  intro hactive
  rw [Session.new, if_pos hactive]
  exact newDecoders_table filters

theorem contained_session (sound : SessionSound cfg session) (label : SessionLabel) :
    Contained (session.after codecs computeRmsDb cfg label) ↔
      SessionDecodes codecs cfg session label := by
  cases label with
  | rest context => exact iff_of_true (contained_ok _) trivial
  | packet env keys rtpPacket =>
      rw [Session.after, detectChannel, SessionDecodes]
      split_ifs with hwatches
      · have table := sound (active_of_watches hwatches)
        rw [contained_bind_iff (fun _ _ => contained_ok _), rmsOf, if_pos (encoding_ne rtpPacket),
          contained_bind_iff (fun _ _ => contained_ok _),
          contained_decode table (fromPacket rtpPacket) (readPayload_chunkOf rtpPacket),
          rtpPayloadType_eq]
        exact ⟨fun decodes _ => decodes, fun decodes => decodes hwatches⟩
      · exact iff_of_true (contained_ok _) fun hactive => absurd hactive hwatches

theorem session_step_sound {label : SessionLabel} (sound : SessionSound cfg session)
    (step : SessionStep codecs computeRmsDb cfg session label session') :
    SessionSound cfg session' := by
  intro hactive
  have table := sound hactive
  rw [SessionStep] at step
  cases label with
  | rest context =>
      cases step
      exact table
  | packet env keys rtpPacket =>
      rw [Session.after, detectChannel] at step
      split_ifs at step
      · rcases bind_eq_ok.mp step with ⟨rms, hrms, hsession⟩
        cases hsession
        rw [rmsOf, if_pos (encoding_ne rtpPacket)] at hrms
        rcases bind_eq_ok.mp hrms with ⟨decoded, hdecode, hlevel⟩
        cases hlevel
        exact (decode_table table hdecode).1
      · cases step
        exact table

end Sessions

/-! ### Ports -/

/-- What VAD decodes can be decoded. -/
def PortDecodes (codecs : Codecs σ) (cfg : PortConfig) (port : Port σ) : PortLabel → Prop
  | .audio _ s channel rtpPacket =>
      detectsVoice cfg = true →
        Decodes codecs port.decoders
          (VoIp.chunkDetails s channel rtpPacket.toRtpPacketInfo).rtpPayloadType rtpPacket.payload
  | .call _ _ => True

section Ports

variable {codecs : Codecs σ} {computeRmsDb : AudioChunk → Rat} {cfg : PortConfig}
  {port port' : Port σ} {chunk : AudioChunk}

def PortSound (cfg : PortConfig) (port : Port σ) : Prop :=
  detectsVoice cfg = true → Table port.decoders

theorem portSound_new (filters : List (RegisteredFilter σ)) (id : String) :
    PortSound cfg (Port.new filters cfg id) := by
  intro hdetects
  rw [Port.new, if_pos (Bool.and_eq_true_iff.mp hdetects).2]
  exact newDecoders_table filters

/-- VAD can ask for the duration of a PCM chunk. -/
theorem contained_activityOf {vadUp : Bool} (hpcm : chunk.details.encoding = .pcmAudio) :
    Contained (activityOf computeRmsDb cfg vadUp chunk) := by
  have hsamples : chunk.getNumSamples? = some (chunk.details.numBytes.toNat / 2) := by
    rw [AudioChunk.getNumSamples?, hpcm]
  unfold activityOf
  split_ifs
  · rw [hsamples]
    exact contained_ok _
  · exact contained_ok _

theorem contained_measure (table : Table port.decoders) (rtpPacket : RtpPacket)
    {s : VoIp.SessionData} {channel : Nat} :
    Contained (measure codecs computeRmsDb cfg port
        (chunkOf s channel rtpPacket.toRtpPacketInfo)) ↔
      Contained (decode codecs port.decoders (chunkOf s channel rtpPacket.toRtpPacketInfo)) := by
  rw [measure, tmpChunk, if_pos (encoding_ne rtpPacket)]
  apply contained_bind_iff
  rintro ⟨out, decoders⟩ hdecode
  have hpcm := (decode_table table hdecode).2
  cases out with
  | none => exact contained_ok _
  | some decoded =>
      exact (contained_bind_iff fun _ _ => contained_ok _).mpr
        (contained_activityOf (hpcm decoded rfl))

theorem contained_port (sound : PortSound cfg port) (label : PortLabel) :
    Contained (port.after codecs computeRmsDb cfg label) ↔ PortDecodes codecs cfg port label := by
  cases label with
  | call now call => exact iff_of_true (contained_ok _) trivial
  | audio now s channel rtpPacket =>
      rw [Port.after, addAudioChunk, PortDecodes]
      split_ifs with hdetects
      · have table := sound hdetects
        rw [contained_bind_iff (fun _ _ => contained_ok _), contained_measure table,
          contained_decode table (fromPacket rtpPacket) (readPayload_chunkOf rtpPacket),
          rtpPayloadType_eq]
        exact ⟨fun decodes _ => decodes, fun decodes => decodes hdetects⟩
      · exact iff_of_true (contained_ok _) fun hactive => absurd hactive hdetects

theorem port_step_sound {label : PortLabel} (sound : PortSound cfg port)
    (step : PortStep codecs computeRmsDb cfg port label port') : PortSound cfg port' := by
  intro hdetects
  have table := sound hdetects
  rw [PortStep] at step
  cases label with
  | call now call =>
      cases step
      exact table
  | audio now s channel rtpPacket =>
      rw [Port.after, addAudioChunk, if_pos hdetects] at step
      rcases bind_eq_ok.mp step with ⟨measured, hmeasure, hport⟩
      cases hport
      rw [measure, tmpChunk, if_pos (encoding_ne rtpPacket)] at hmeasure
      rcases bind_eq_ok.mp hmeasure with ⟨tmp, hdecode, hactivity⟩
      have hkept := (decode_table table hdecode).1
      cases hout : tmp.1 with
      | none =>
          simp only [hout] at hactivity
          cases hactivity
          exact hkept
      | some decoded =>
          simp only [hout] at hactivity
          rcases bind_eq_ok.mp hactivity with ⟨activity, -, hmeasured⟩
          cases hmeasured
          exact hkept

end Ports

/-! ### Runs -/

/-- In every run of a session and in every run of a port, activity detection finds its decoder
and lets no exception escape if and only if each payload that it decodes can be decoded. -/
theorem detection_contained_iff (codecs : Codecs σ) (computeRmsDb : AudioChunk → Rat)
    (filters : List (RegisteredFilter σ)) :
    (∀ (cfg : VoIp.Config) (context : VoIp.Context) (labels : List SessionLabel),
      Always (SessionStep codecs computeRmsDb cfg)
          (fun session label => Contained (session.after codecs computeRmsDb cfg label))
          (Session.new filters cfg context) labels ↔
        Always (SessionStep codecs computeRmsDb cfg) (SessionDecodes codecs cfg)
          (Session.new filters cfg context) labels) ∧
    ∀ (cfg : PortConfig) (id : String) (labels : List PortLabel),
      Always (PortStep codecs computeRmsDb cfg)
          (fun port label => Contained (port.after codecs computeRmsDb cfg label))
          (Port.new filters cfg id) labels ↔
        Always (PortStep codecs computeRmsDb cfg) (PortDecodes codecs cfg)
          (Port.new filters cfg id) labels := by
  constructor
  · intro cfg context labels
    exact Always.congr (fun _ => True)
      (fun _ _ _ _ sound step => session_step_sound sound step)
      (fun _ label _ sound => contained_session sound label)
      (sessionSound_new filters context) (fun _ _ => trivial)
  · intro cfg id labels
    exact Always.congr (fun _ => True)
      (fun _ _ _ _ sound step => port_step_sound sound step)
      (fun _ label _ sound => contained_port sound label)
      (portSound_new filters id) (fun _ _ => trivial)

/-- A packet of one byte. -/
def onePacket (ssrc : UInt32) (payloadType : UInt16) (hle : payloadType.toNat ≤ 127) :
    RtpPacket where
  ssrc := ssrc
  payloadType := payloadType
  payload := [0]
  payloadType_le := hle
  payload_ne := List.cons_ne_nil _ _
  datagram := by decide

/-- A session that has seen a packet of either side, and starts on activity of side 2. -/
def waiting : VoIp.Context where
  shared := {}
  session :=
    { (VoIp.VoIpSession.new {} { usec := 0 } "1").toSessionData with
      lastRtpPacketSide1 := some (onePacket 1 0 (by decide)).toRtpPacketInfo
      lastRtpPacketSide2 := some (onePacket 2 0 (by decide)).toRtpPacketInfo }

/-- A registered Speex decoder. -/
def speexFilter : RegisteredFilter Unit where
  supportsInputRtpPayloadType rtpPayloadType := decide (rtpPayloadType = ptSpeex)
  instanciate := some (.plain .speex { codec := () })
  fresh := by
    intro d hd
    cases hd
    rfl

/-- Payload type 127 is the 128th of 127 entries; and a payload that has no Speex frame makes
the decoder ask for a buffer of no bytes. -/
theorem detection_escapes :
    (¬ Always (SessionStep silentCodecs (fun _ => 0) { sessionStartsOnS2ActivityDb := 1 })
      (fun session label => Contained
        (session.after silentCodecs (fun _ => 0) { sessionStartsOnS2ActivityDb := 1 } label))
      (Session.new [] { sessionStartsOnS2ActivityDb := 1 } waiting)
      [.packet { usec := 0 } { trackingId := "1" } (onePacket 2 127 (by decide))]) ∧
    ¬ Always (PortStep silentCodecs (fun _ => 0) { vad := true })
      (fun port label => Contained
        (port.after silentCodecs (fun _ => 0) { vad := true } label))
      (Port.new [speexFilter] { vad := true } "1")
      [.audio 0 waiting.session 1 (onePacket 1 66 (by decide))] := by
  constructor
  · intro always
    exact always [] _ [] _ rfl (.nil _) .outOfRange rfl trivial
  · intro always
    exact always [] _ [] _ rfl (.nil _) (.thrown emptyBufferText) rfl trivial

end OrkAudio.ActivityDetection
