import OrkAudio.Iax2.Heard
import OrkAudio.Lib.Steps

/-! The timestamps of the chunks that a session hands out.

A chunk has the number of its channel times the step of `RtpTimestamp`, which is that of G.711
for every codec. The number goes up by one with each chunk, until it starts again. -/

namespace OrkAudio.Iax2

open Lib VoIp

/-- What the cases of `RtpTimestamp` assign before they fall through. -/
def packetDuration (codec : Int) : Nat :=
  if codec = 18 then 20 else if codec = 4 then 24 else 160

def Iax2Session.Side.channel : Iax2Session.Side → UInt8
  | .side1 => 1
  | .side2 => 2

def chunkOf? (side : Iax2Session.Side) : Output → Option AudioChunkDetails
  | .captureEvent .. => none
  | .audioChunk details .. => if details.channel = side.channel then some details else none

/-- The chunks of a channel among what is handed to the callbacks. -/
def chunksOf (side : Iax2Session.Side) (output : List Output) : List AudioChunkDetails :=
  output.filterMap (chunkOf? side)

/-- Each chunk is one packet after the one before it. -/
def Paced (chunks : List AudioChunkDetails) : Prop :=
  chunks.IsChain fun earlier later =>
    later.timestamp.toNat = earlier.timestamp.toNat + packetDuration later.rtpPayloadType

namespace Iax2Session

section

variable {cfg : Config} {clock : Clock} {s : Iax2Session} {packet : Nat → Iax2PacketInfo}
  {p : Nat} {side other : Side} {info : Iax2PacketInfo}

/-! ### What a frame does to the numbers -/

/-- What the timestamps of a session depend on, but for the codec. -/
def pace (s : Iax2Session) : UInt16 × UInt16 × Bool :=
  (s.channel1SeqNo, s.channel2SeqNo, s.started)

theorem channelSeqNo_congr {t : Iax2Session} (hpace : t.pace = s.pace) :
    t.channelSeqNo side = s.channelSeqNo side := by
  cases side with
  | side1 => exact congrArg Prod.fst hpace
  | side2 => exact congrArg (fun pace => pace.2.1) hpace

theorem started_congr {t : Iax2Session} (hpace : t.pace = s.pace) : t.started = s.started :=
  congrArg (fun pace => pace.2.2) hpace

theorem pace_noteFrame : (s.noteFrame cfg info).pace = s.pace := by
  have hmetadata : (s.processMetadataIax2 cfg info).pace = s.pace := by
    simp only [processMetadataIax2]
    split_ifs <;> rfl
  unfold noteFrame
  split_ifs
  · exact hmetadata
  · exact hmetadata
  · rfl
  · rfl

theorem channelSeqNo_countChannel_self :
    (s.countChannel side).channelSeqNo side = nextSeqNo (s.channelSeqNo side) := by
  cases side <;> rfl

theorem channelSeqNo_countChannel_of_ne (hne : other ≠ side) :
    (s.countChannel side).channelSeqNo other = s.channelSeqNo other := by
  cases side <;> cases other <;> first | rfl | exact absurd rfl hne

theorem started_countChannel : (s.countChannel side).started = s.started := by
  cases side <;> rfl

theorem codec_countChannel : (s.countChannel side).codec = s.codec := by
  cases side <;> rfl

/-- The number of a channel that has not come to its end. -/
theorem toNat_nextSeqNo {seqNo : UInt16} (hlt : seqNo.toNat < 65534) :
    (nextSeqNo seqNo).toNat = seqNo.toNat + 1 := by
  have hsucc : (seqNo + 1).toNat = seqNo.toNat + 1 := by
    rw [UInt16.toNat_add]
    change (seqNo.toNat + 1) % 65536 = _
    omega
  have hnot : ¬65535 ≤ seqNo + 1 := by
    rw [UInt16.le_iff_toNat_le, hsucc]
    change ¬65535 ≤ _
    omega
  rw [nextSeqNo, if_neg hnot, hsucc]

theorem toNat_timestamp (seqNo : UInt16) :
    (seqNo.toUInt32 * rtpTimestamp).toNat = seqNo.toNat * 160 := by
  have hlt := seqNo.toNat_lt
  rw [UInt32.toNat_mul, UInt16.toNat_toUInt32]
  exact Nat.mod_eq_of_lt (by change _ * 160 < _; omega)

/-! ### The chunk of a frame -/

theorem chunksOf_events (events : List CaptureEvent) :
    chunksOf side (events.map s.event) = [] := by
  rw [chunksOf, List.filterMap_eq_nil_iff]
  intro output hmem
  obtain ⟨event, _, rfl⟩ := List.mem_map.mp hmem
  rfl

/-- The first frame starts the session and reports it; no audio comes with that. -/
theorem startOnFirst_spec : (s.startOnFirst clock).1.channelSeqNo side = s.channelSeqNo side ∧
    (s.startOnFirst clock).1.codec = s.codec ∧
    (s.started = true → (s.startOnFirst clock).1.started = true) ∧
    chunksOf other (s.startOnFirst clock).2 = [] := by
  unfold startOnFirst
  split
  · refine ⟨by cases side <;> rfl, rfl, fun _ => rfl, ?_⟩
    dsimp only
    rw [chunksOf, List.filterMap_append]
    have hreported := @chunksOf_events (s.start clock).1 other
    unfold reportMetadata
    dsimp only
    rw [List.append_eq_nil_iff]
    exact ⟨rfl, hreported _⟩
  · exact ⟨rfl, rfl, id, rfl⟩

theorem chunksOf_chunk (hpayload : info.payload ≠ []) :
    chunksOf other [s.chunk side info] =
      if side = other then [s.chunkDetails side info] else [] := by
  unfold chunk
  rw [if_neg hpayload]
  cases side <;> cases other <;> rfl

/-- A frame with a payload that a channel takes is handed out under the next number of the
channel, where the session is started. -/
theorem takeFrame_spec (hpayload : info.payload ≠ []) :
    (s.takeFrame clock side info).1.channelSeqNo side = nextSeqNo (s.channelSeqNo side) ∧
    (∀ other, other ≠ side →
      (s.takeFrame clock side info).1.channelSeqNo other = s.channelSeqNo other) ∧
    (s.started = true → (s.takeFrame clock side info).1.started = true) ∧
    (((s.takeFrame clock side info).1.started = false ∧
        ∀ other, chunksOf other (s.takeFrame clock side info).2 = []) ∨
      (s.takeFrame clock side info).1.started = true ∧
        ∃ details : AudioChunkDetails, details.rtpPayloadType = s.codec.toNat ∧
        details.timestamp = (nextSeqNo (s.channelSeqNo side)).toUInt32 * rtpTimestamp ∧
        ∀ other, chunksOf other (s.takeFrame clock side info).2 =
          if side = other then [details] else []) := by
  let begun := s.countFrame.startOnFirst clock
  have hbegun (channel other : Side) := @startOnFirst_spec clock s.countFrame channel other
  have hseqNo : (begun.1.countChannel side).channelSeqNo side = nextSeqNo (s.channelSeqNo side) := by
    rw [channelSeqNo_countChannel_self, (hbegun side side).1]
    cases side <;> rfl
  have hothers (other : Side) (hne : other ≠ side) :
      (begun.1.countChannel side).channelSeqNo other = s.channelSeqNo other := by
    rw [channelSeqNo_countChannel_of_ne hne, (hbegun other side).1]
    cases other <;> rfl
  have hstarted (hbefore : s.started = true) : (begun.1.countChannel side).started = true := by
    rw [started_countChannel]
    exact (hbegun side side).2.2.1 hbefore
  have hsilent (other : Side) : chunksOf other begun.2 = [] := (hbegun side other).2.2.2
  unfold takeFrame
  dsimp only
  by_cases hhands : (begun.1.countChannel side).started = true
  · rw [if_pos hhands]
    refine ⟨hseqNo, hothers, fun _ => hhands, Or.inr ⟨hhands, ?_⟩⟩
    refine ⟨(begun.1.countChannel side).chunkDetails side info, ?_, ?_, ?_⟩
    · change ((begun.1.countChannel side).codec.toNat : Int) = _
      rw [codec_countChannel, (hbegun side side).2.1]
      rfl
    · change ((begun.1.countChannel side).channelSeqNo side).toUInt32 * _ = _
      rw [hseqNo]
    · intro other
      rw [chunksOf, List.filterMap_append]
      change chunksOf other begun.2 ++ chunksOf other [_] = _
      rw [hsilent, chunksOf_chunk hpayload]
      rfl
  · rw [if_neg hhands]
    exact ⟨hseqNo, hothers, hstarted, Or.inl ⟨eq_false_of_ne_true hhands, hsilent⟩⟩

/-! ### The frames that are taken -/

variable (cfg s packet p) in
/-- The session takes the frame: it is linked, its first frame is a full one, and the frame is
no duplicate. -/
structure IsTaken : Prop where
  linked : s.iax2State ≠ .waiting
  first : s.lastIax2Packet = none → (packet p).frameType = .full
  fresh : cfg.iax2RewriteTimestamps = true ∨
    ∀ last, s.lastOfSide (s.sideOf packet (packet p)) = some last →
      (packet p).timestamp ≠ (packet last).timestamp

theorem sideOf_noteFrame :
    ((s.noteFrame cfg info).setLast p).sideOf packet info = s.sideOf packet info := by
  have hlast : ((s.noteFrame cfg info).setLast p).lastIax2PacketSide1 = s.lastIax2PacketSide1 := by
    have hmetadata : (s.processMetadataIax2 cfg info).lastIax2PacketSide1 =
        s.lastIax2PacketSide1 := by
      simp only [processMetadataIax2]
      split_ifs <;> rfl
    unfold noteFrame
    split_ifs
    · exact hmetadata
    · exact hmetadata
    · rfl
    · rfl
  unfold sideOf
  rw [hlast]

theorem lastOfSide_noteFrame :
    ((s.noteFrame cfg info).setLast p).lastOfSide side = s.lastOfSide side := by
  have hmetadata : (s.processMetadataIax2 cfg info).lastOfSide side = s.lastOfSide side := by
    simp only [processMetadataIax2]
    cases side <;> split_ifs <;> rfl
  have hnoted : (s.noteFrame cfg info).lastOfSide side = s.lastOfSide side := by
    unfold noteFrame
    cases side <;> split_ifs <;> first | exact hmetadata | rfl
  rw [← hnoted]
  cases side <;> rfl

/-- The session before it takes a frame. -/
def noted (cfg : Config) (s : Iax2Session) (p : Nat) (info : Iax2PacketInfo) (side : Side) :
    Iax2Session := ((s.noteFrame cfg info).setLast p).setLastOfSide p side

theorem pace_noted : (s.noted cfg p info side).pace = s.pace := by
  rw [← @pace_noteFrame cfg s info]
  cases side <;> rfl

theorem codec_noted : (s.noted cfg p info side).codec = (s.noteFrame cfg info).codec := by
  cases side <;> rfl

theorem addIax2Packet_of_taken (taken : IsTaken cfg s packet p) :
    ∃ info : Iax2PacketInfo, info.payload = (packet p).payload ∧
      (s.addIax2Packet cfg clock packet p).session = ((s.noted cfg p (packet p)
        (s.sideOf packet (packet p))).takeFrame clock (s.sideOf packet (packet p)) info).1 ∧
      (s.addIax2Packet cfg clock packet p).output = ((s.noted cfg p (packet p)
        (s.sideOf packet (packet p))).takeFrame clock (s.sideOf packet (packet p)) info).2 := by
  have hfirst : ¬(s.lastIax2Packet = none ∧ (packet p).frameType ≠ .full) :=
    fun h => h.2 (taken.first h.1)
  simp only [addIax2Packet]
  rw [if_neg taken.linked, if_neg hfirst, sideOf_noteFrame, lastOfSide_noteFrame]
  cases hlast : s.lastOfSide (s.sideOf packet (packet p)) with
  | none => exact ⟨packet p, rfl, rfl, rfl⟩
  | some last =>
      dsimp only
      by_cases hrewrites : cfg.iax2RewriteTimestamps = true
      · rw [if_pos hrewrites]
        exact ⟨_, rfl, rfl, rfl⟩
      · rw [if_neg hrewrites, if_neg ((taken.fresh.resolve_left hrewrites) last hlast)]
        exact ⟨packet p, rfl, rfl, rfl⟩

theorem addIax2Packet_of_not_taken (hnot : ¬IsTaken cfg s packet p) :
    (s.addIax2Packet cfg clock packet p).session.pace = s.pace ∧
      (s.addIax2Packet cfg clock packet p).output = [] := by
  simp only [addIax2Packet]
  by_cases hwaiting : s.iax2State = .waiting
  · rw [if_pos hwaiting]
    exact ⟨rfl, rfl⟩
  rw [if_neg hwaiting]
  by_cases hfirst : s.lastIax2Packet = none ∧ (packet p).frameType ≠ .full
  · rw [if_pos hfirst]
    exact ⟨rfl, rfl⟩
  rw [if_neg hfirst, sideOf_noteFrame, lastOfSide_noteFrame]
  have hfull : s.lastIax2Packet = none → (packet p).frameType = .full := by
    intro hnone
    by_contra hmini
    exact hfirst ⟨hnone, hmini⟩
  cases hlast : s.lastOfSide (s.sideOf packet (packet p)) with
  | none =>
      have taken : IsTaken cfg s packet p := by
        refine ⟨hwaiting, hfull, Or.inr ?_⟩
        intro last hsome
        rw [hlast] at hsome
        cases hsome
      exact absurd taken hnot
  | some last =>
      dsimp only
      by_cases hrewrites : cfg.iax2RewriteTimestamps = true
      · exact absurd ⟨hwaiting, hfull, Or.inl hrewrites⟩ hnot
      rw [if_neg hrewrites]
      by_cases hsame : (packet p).timestamp = (packet last).timestamp
      · rw [if_pos hsame]
        exact ⟨pace_noteFrame, rfl⟩
      · have taken : IsTaken cfg s packet p := by
          refine ⟨hwaiting, hfull, Or.inr ?_⟩
          intro other hsome
          rw [hlast] at hsome
          rw [← Option.some.inj hsome]
          exact hsame
        exact absurd taken hnot

end

end Iax2Session

/-! ### Runs of a session -/

/-- A session, the frames that are there and what it has handed to the callbacks. -/
structure Call where
  session : Iax2Session
  packet : Nat → Iax2PacketInfo
  output : List Output

/-- What a session is told: a voice frame that the parser has written to `p`, or what the
signalling changes of it. -/
inductive Report
  | frame (p : Nat) (info : Iax2PacketInfo)
  | state (iax2State : Iax2State)
  | dest (destIpAndCallNo : String)
  | invitee (callno : UInt16)
  | stop

namespace Call

section

variable (cfg : Config) (clock : Clock)

def setSession (c : Call) (s : Iax2Session) : Call := { c with session := s }

def report (c : Call) : Report → Call
  | .frame p info =>
      let added := c.session.addIax2Packet cfg clock (Function.update c.packet p info) p
      { session := added.session
        packet := added.packet
        output := c.output ++ added.output }
  | .state iax2State => c.setSession { c.session with iax2State := iax2State }
  | .dest destIpAndCallNo => c.setSession { c.session with destIpAndCallNo := destIpAndCallNo }
  | .invitee callno => c.setSession { c.session with inviteeScallno := callno }
  | .stop => { c with session := c.session.stop.1, output := c.output ++ c.session.stop.2 }

end

def Step (cfg : Config) (c : Call) (label : Clock × Report) (c' : Call) : Prop :=
  c' = c.report cfg label.1 label.2

/-- A frame that is taken has audio, is of a codec whose packets last as long as those of G.711,
and its channel has not come to its last number. -/
def OnTime (cfg : Config) (c : Call) (label : Clock × Report) : Prop :=
  ∀ p info, label.2 = .frame p info →
    c.session.IsTaken cfg (Function.update c.packet p info) p →
      info.payload ≠ [] ∧ packetDuration (c.session.noteFrame cfg info).codec.toNat = 160 ∧
        (c.session.channelSeqNo (c.session.sideOf (Function.update c.packet p info) info)).toNat <
          65534

/-- The chunks of each channel are paced, and the last one has the number of the channel. -/
structure Spaced (c : Call) : Prop where
  paced : ∀ side, Paced (chunksOf side c.output)
  last : ∀ side, ∀ details ∈ (chunksOf side c.output).getLast?, details.timestamp =
    (c.session.channelSeqNo side).toUInt32 * Iax2Session.rtpTimestamp
  silent : c.session.started = false → ∀ side, chunksOf side c.output = []

section

variable {cfg : Config} {clock : Clock} {c : Call}

theorem Spaced.congr {c' : Call} (spaced : Spaced c) (hpace : c'.session.pace = c.session.pace)
    (houtput : ∀ side, chunksOf side c'.output = chunksOf side c.output) : Spaced c' where
  paced side := by
    rw [houtput]
    exact spaced.paced side
  last side details hlast := by
    rw [houtput] at hlast
    rw [Iax2Session.channelSeqNo_congr hpace]
    exact spaced.last side details hlast
  silent hsilent side := by
    rw [Iax2Session.started_congr hpace] at hsilent
    rw [houtput]
    exact spaced.silent hsilent side

theorem chunksOf_append (side : Iax2Session.Side) (output more : List Output) :
    chunksOf side (output ++ more) = chunksOf side output ++ chunksOf side more :=
  List.filterMap_append ..

theorem Spaced.stop (spaced : Spaced c) : Spaced (c.report cfg clock .stop) := by
  have hstop : c.session.stop.1.pace = c.session.pace ∧
      ∀ side, chunksOf side c.session.stop.2 = [] := by
    unfold Iax2Session.stop
    split
    · exact ⟨rfl, fun _ => rfl⟩
    · exact ⟨rfl, fun _ => rfl⟩
  apply spaced.congr hstop.1
  intro side
  change chunksOf side (c.output ++ c.session.stop.2) = _
  rw [chunksOf_append, hstop.2, List.append_nil]

theorem Spaced.silence (spaced : Spaced c) {c' : Call} (hstarted : c.session.started = true →
    c'.session.started = true) (hsilent : c'.session.started = false)
    (houtput : ∀ side, chunksOf side c'.output = chunksOf side c.output) : Spaced c' := by
  have hbefore : c.session.started = false := by
    by_contra hnot
    rw [hstarted (eq_true_of_ne_false hnot)] at hsilent
    cases hsilent
  have hnone (side : Iax2Session.Side) : chunksOf side c'.output = [] := by
    rw [houtput]
    exact spaced.silent hbefore side
  constructor
  · intro side
    rw [hnone]
    exact List.isChain_nil
  · intro side details hlast
    rw [hnone] at hlast
    cases hlast
  · exact fun _ => hnone

/-- A chunk under the next number of a channel is one packet after the last one. -/
theorem Spaced.chunk (spaced : Spaced c) {c' : Call} {side : Iax2Session.Side}
    {details : AudioChunkDetails}
    (hseqNo : c'.session.channelSeqNo side = Iax2Session.nextSeqNo (c.session.channelSeqNo side))
    (hothers : ∀ other, other ≠ side →
      c'.session.channelSeqNo other = c.session.channelSeqNo other)
    (hbegun : c'.session.started = true)
    (htimestamp : details.timestamp = (Iax2Session.nextSeqNo
      (c.session.channelSeqNo side)).toUInt32 * Iax2Session.rtpTimestamp)
    (hduration : packetDuration details.rtpPayloadType = 160)
    (hlt : (c.session.channelSeqNo side).toNat < 65534)
    (houtput : ∀ other, chunksOf other c'.output =
      chunksOf other c.output ++ if side = other then [details] else []) : Spaced c' := by
  constructor
  · intro other
    rw [houtput]
    by_cases heq : side = other
    · subst heq
      rw [if_pos rfl]
      apply List.isChain_append.mpr
      refine ⟨spaced.paced side, List.isChain_singleton _, ?_⟩
      intro earlier hlast later hfirst
      obtain rfl : details = later := Option.some.inj hfirst
      rw [htimestamp, spaced.last side earlier hlast, hduration, Iax2Session.toNat_timestamp,
        Iax2Session.toNat_timestamp, Iax2Session.toNat_nextSeqNo hlt]
      omega
    · rw [if_neg heq, List.append_nil]
      exact spaced.paced other
  · intro other
    rw [houtput]
    by_cases heq : side = other
    · subst heq
      rw [if_pos rfl]
      intro last hlast
      rw [List.getLast?_concat] at hlast
      obtain rfl : details = last := Option.some.inj hlast
      rw [hseqNo]
      exact htimestamp
    · rw [if_neg heq, List.append_nil, hothers other (Ne.symm heq)]
      exact spaced.last other
  · intro hsilent
    rw [hbegun] at hsilent
    cases hsilent

theorem Spaced.frame (spaced : Spaced c) {p : Nat} {info : Iax2PacketInfo}
    (onTime : OnTime cfg c (clock, .frame p info)) : Spaced (c.report cfg clock (.frame p info)) := by
  let packet := Function.update c.packet p info
  let side := c.session.sideOf packet info
  have hself : packet p = info := Function.update_self ..
  have houtput (other : Iax2Session.Side) :
      chunksOf other (c.report cfg clock (.frame p info)).output = chunksOf other c.output ++
        chunksOf other (c.session.addIax2Packet cfg clock packet p).output :=
    chunksOf_append ..
  by_cases taken : c.session.IsTaken cfg packet p
  · obtain ⟨hpayload, hduration, hlt⟩ := onTime p info rfl taken
    obtain ⟨info', hsame, hsession, hhanded⟩ :=
      @Iax2Session.addIax2Packet_of_taken cfg clock _ _ _ taken
    rw [hself] at hsame hsession hhanded
    have hpayload' : info'.payload ≠ [] := by
      rw [hsame]
      exact hpayload
    have hpace : (c.session.noted cfg p info side).pace = c.session.pace := Iax2Session.pace_noted
    obtain ⟨hseqNo, hothers, hstarted, hchunk⟩ := @Iax2Session.takeFrame_spec clock
      (c.session.noted cfg p info side) side info' hpayload'
    rw [← hsession] at hseqNo hothers hstarted hchunk
    rw [← hhanded] at hchunk
    rw [Iax2Session.channelSeqNo_congr hpace] at hseqNo hchunk
    rw [Iax2Session.started_congr hpace] at hstarted
    rcases hchunk with ⟨hsilent, hnone⟩ | ⟨hbegun, details, hcodec, htimestamp, hmore⟩
    · apply spaced.silence hstarted hsilent
      intro other
      rw [houtput, hnone, List.append_nil]
    · apply spaced.chunk hseqNo _ hbegun htimestamp _ hlt _
      · intro other hne
        exact (hothers other hne).trans (Iax2Session.channelSeqNo_congr hpace)
      · rw [hcodec, Iax2Session.codec_noted]
        exact hduration
      · intro other
        rw [houtput, hmore]
  · obtain ⟨hpace, hnone⟩ := @Iax2Session.addIax2Packet_of_not_taken cfg clock _ _ _ taken
    apply spaced.congr hpace
    intro other
    rw [houtput, hnone]
    exact List.append_nil _

theorem Spaced.step {label : Clock × Report} {c' : Call} (spaced : Spaced c)
    (step : Guarded (OnTime cfg) (Step cfg) c label c') : Spaced c' := by
  obtain ⟨clock, report⟩ := label
  obtain ⟨onTime, rfl⟩ := step
  cases report with
  | frame p info => exact spaced.frame onTime
  | state iax2State => exact spaced.congr rfl fun _ => rfl
  | dest destIpAndCallNo => exact spaced.congr rfl fun _ => rfl
  | invitee callno => exact spaced.congr rfl fun _ => rfl
  | stop => exact spaced.stop

end

/-- Where every frame that is taken is on time, each chunk of a channel is one packet after the
one before it. -/
theorem paced_of_run {cfg : Config} {labels : List (Clock × Report)} {s : Iax2Session}
    {packet : Nat → Iax2PacketInfo} {c : Call}
    (run : Steps (Guarded (OnTime cfg) (Step cfg)) ⟨s, packet, []⟩ labels c) :
    ∀ side, Paced (chunksOf side c.output) := by
  have start : Spaced ⟨s, packet, []⟩ := by
    constructor
    · exact fun _ => List.isChain_nil
    · intro side details hlast
      cases hlast
    · exact fun _ _ => rfl
  have spaced := run.invariant (fun _ _ _ spaced step => Spaced.step spaced step) start
  exact spaced.paced

/-! #### Two frames -/

section

private def linkedCall : Call where
  session := { trackingId := "", lastUpdated := 0, iax2State := .linked }
  packet := fun _ => {}
  output := []

private def fullFrame (codec : UInt16) : Clock × Report :=
  ({ time := 0 }, .frame 0 { frameType := .full, payloadType := codec, payload := [0] })

private def miniFrame : Clock × Report :=
  ({ time := 0 }, .frame 1 { payload := [0], timestamp := 20 })

private def heard (codec : UInt16) : Call :=
  linkedCall.report {} { time := 0 } (fullFrame codec).2

private def heardTwice (codec : UInt16) : Call :=
  (heard codec).report {} { time := 0 } miniFrame.2

theorem paced_of_two_frames : Paced (chunksOf .side1 (heardTwice 8).output) := by
  have first : Guarded (OnTime {}) (Step {}) linkedCall (fullFrame 8) (heard 8) := by
    refine ⟨?_, rfl⟩
    intro p info heq _
    cases heq
    exact ⟨by decide, by decide +kernel, by decide +kernel⟩
  have second : Guarded (OnTime {}) (Step {}) (heard 8) miniFrame (heardTwice 8) := by
    refine ⟨?_, rfl⟩
    intro p info heq _
    cases heq
    exact ⟨by decide, by decide +kernel, by decide +kernel⟩
  have run : Steps (Guarded (OnTime {}) (Step {})) linkedCall [fullFrame 8, miniFrame]
      (heardTwice 8) := .cons first (.cons second (.nil _))
  exact paced_of_run run .side1

/-- The packets of G.729 are paced as those of G.711. -/
theorem not_paced_of_g729 : ¬ ∀ (cfg : Config) (labels : List (Clock × Report)) (s : Iax2Session)
    (packet : Nat → Iax2PacketInfo) (c : Call), Steps (Step cfg) ⟨s, packet, []⟩ labels c →
    ∀ side, Paced (chunksOf side c.output) := by
  intro hall
  have run : Steps (Step {}) linkedCall [fullFrame 18, miniFrame] (heardTwice 18) :=
    .cons rfl (.cons rfl (.nil _))
  have hpaced := hall {} _ _ _ _ run .side1
  have hchunks : (chunksOf .side1 (heardTwice 18).output).map
      (fun details => (details.timestamp.toNat, details.rtpPayloadType)) =
        [(320, 18), (480, 18)] := by decide +kernel
  have hmapped := List.isChain_map (fun details : AudioChunkDetails =>
    (details.timestamp.toNat, details.rtpPayloadType)) (R := fun earlier later =>
      later.1 = earlier.1 + packetDuration later.2) (l := chunksOf .side1 (heardTwice 18).output)
  rw [hchunks] at hmapped
  have hpair := List.isChain_pair.mp (hmapped.mpr hpaced)
  exact absurd hpair (by decide)

end

end Call

end OrkAudio.Iax2
