import OrkAudio.RtpMixer.Timeline
import OrkAudio.RtpMixer.Emission

/-! Streams of the first side without gaps.

A mixer with one output channel that is handed one packet right after the other appends their
samples to its timeline. Where the timestamps wrap, the packet that reaches the end of the word
is dismissed and the next one starts a new segment. -/

namespace OrkAudio

open Lib

namespace Segment

/-- A payload that is mixed in at the end of a segment follows it as it is. -/
theorem mix_append {segment : Segment} (hstart : segment.start ≤ segment.writeTimestamp)
    (within : ∀ payload ∈ segment.copied,
      payload.1 + payload.2.length ≤ segment.writeTimestamp) (samples : List Int16) :
    mix { start := segment.start
          writeTimestamp := segment.writeTimestamp + samples.length
          copied := segment.copied ++ [(segment.writeTimestamp, samples)] } =
      segment.mix ++ samples := by
  have hline (t : Nat) : sampleAt { start := segment.start
                                    writeTimestamp := segment.writeTimestamp + samples.length
                                    copied := segment.copied ++ [(segment.writeTimestamp, samples)] } t =
      mixAt t (segment.sampleAt t) (segment.writeTimestamp, samples) := by
    simp [sampleAt]
  have hlength : segment.writeTimestamp + samples.length - segment.start =
      segment.writeTimestamp - segment.start + samples.length := by omega
  rw [mix, mix, hlength, Ring.stretch_append]
  congr 1
  · apply Ring.stretch_congr
    intro t _ ht
    have hbefore : t < segment.writeTimestamp := ht.trans_eq (Nat.add_sub_cancel' hstart)
    rw [hline, mixAt, dif_neg (by simp only; omega)]
  · rw [Nat.add_sub_cancel' hstart]
    apply List.ext_getElem
    · simp [Ring.stretch]
    · intro i hi hi'
      have hsilent : segment.sampleAt (segment.writeTimestamp + i) = 0 := by
        apply sampleAt_silent
        intro payload hpayload
        exact (within payload hpayload).trans (Nat.le_add_right _ _)
      simp only [Ring.stretch, List.getElem_map, List.getElem_range]
      rw [hline, mixAt, dif_pos ⟨Nat.le_add_right _ _, by simp only; omega⟩, hsilent,
        mixInto_zero, List.get_eq_getElem]
      simp only [Nat.add_sub_cancel_left]

end Segment

/-- A new segment is empty at first. -/
theorem Timeline.mix_startAt (timeline : Timeline) (timestamp : Nat) :
    (timeline.startAt timestamp).mix = timeline.mix := by
  simp [mix, startAt, Segment.mix, Ring.stretch]

namespace RtpMixer

/-- A chunk of 160 samples of the first side. -/
structure Packet (chunk : AudioChunk) : Prop where
  marker : chunk.details.marker ≠ mediaChunkEosMarker
  encoding : chunk.details.encoding = .pcmAudio
  channel : chunk.details.channel = 1
  numSamples : chunk.numSamples = 160

/-! ### Storing the packet that comes next -/

/-- What a packet that is stored at this place makes of the mixer. It is dismissed where its end
does not fit in the word. -/
structure Stores (m m' : RtpMixer) (chunk : AudioChunk) (place : Nat) : Prop where
  tracks : Tracks m'
  mix : m'.timeline.mix =
    m.timeline.mix ++ (if place + 160 < 4294967296 then chunk.samples else [])
  writeTimestamp : m'.writeTimestamp = if place + 160 < 4294967296 then place + 160 else place
  copied : place + 160 < 4294967296 → ∃ events,
    m'.history = m.history ++ events ++ [TimelineEvent.copied place chunk.samples]
  lastTimestampS1 : m'.lastTimestampS1 = m.lastTimestampS1
  lastChunkS1 : m'.lastChunkS1 = m.lastChunkS1

/-- No more is left in the ring than what makes it ship. -/
def Light (m : RtpMixer) : Prop := m.writeTimestamp - m.readTimestamp ≤ numSamplesTrigger

theorem Tracks.mix_stored {m : RtpMixer} (tracks : Tracks m) {chunk : AudioChunk}
    (hroom : m.writeTimestamp + chunk.numSamples < m.readTimestamp + numSamplesCircularBuffer) :
    (m.stored chunk m.writeTimestamp).timeline.mix = m.timeline.mix ++ chunk.samples := by
  have hstart := tracks.starts.trans (tracks.aligned.ordered.trans_eq tracks.reaches.symm)
  have hwithin : ∀ payload ∈ m.timeline.current.copied,
      payload.1 + payload.2.length ≤ m.timeline.current.writeTimestamp := by
    rw [tracks.reaches]
    exact tracks.within
  have happend := Segment.mix_append hstart hwithin chunk.samples
  rw [tracks.reaches, chunk.samples_length] at happend
  rw [tracks.stored_timeline tracks.aligned.ordered hroom, max_eq_right (Nat.le_add_right _ _)]
  simp only [Timeline.mix, List.flatMap_append, List.flatMap_singleton]
  rw [happend, List.append_assoc]

variable {m m' : RtpMixer} {chunk : AudioChunk}

theorem Packet.room (packet : Packet chunk) (light : Light m) :
    m.writeTimestamp + chunk.numSamples < m.readTimestamp + numSamplesCircularBuffer := by
  have hN : numSamplesCircularBuffer = 16000 := rfl
  have hT : numSamplesTrigger = 12000 := rfl
  rw [packet.numSamples]
  unfold Light at light
  omega

/-- The packet that comes next is stored or dismissed. -/
theorem Packet.storeRtpPacket (packet : Packet chunk) (tracks : Tracks m) :
    m.storeRtpPacket chunk m.writeTimestamp =
      .ok (if m.writeTimestamp + 160 < 4294967296 then m.stored chunk m.writeTimestamp else m) := by
  have hN : numSamplesCircularBuffer = 16000 := rfl
  have hnone : m.numInputChannels = 0 := by rw [numInputChannels, tracks.noChannels]; rfl
  unfold RtpMixer.storeRtpPacket
  simp only
  rw [if_neg (by simp [hnone]), packet.numSamples]
  split_ifs with hwrap hend
  · omega
  · rfl
  · omega
  · omega
  · rw [stored, packet.numSamples]
  · omega

theorem Packet.stores (packet : Packet chunk) (tracks : Tracks m) (light : Light m) :
    Stores m (if m.writeTimestamp + 160 < 4294967296 then m.stored chunk m.writeTimestamp else m)
      chunk m.writeTimestamp := by
  have hroom := packet.room light
  have hordered := tracks.aligned.ordered
  by_cases hend : m.writeTimestamp + 160 < 4294967296
  · rw [if_pos hend]
    have hend' : m.writeTimestamp + chunk.numSamples < 4294967296 := by
      rw [packet.numSamples]
      exact hend
    obtain ⟨_, _, _, _, hstored⟩ := m.stored_eq chunk m.writeTimestamp
    have hhistory := (stored_contents tracks.aligned hordered hroom).2
    refine ⟨tracks.store hordered hroom hend', ?_, ?_, ?_, by rw [hstored], by rw [hstored]⟩
    · rw [if_pos hend]
      exact tracks.mix_stored hroom
    · rw [if_pos hend, hstored]
      simp only [packet.numSamples]
      omega
    · intro _
      rw [if_pos (by rw [packet.numSamples]; omega)] at hhistory
      exact ⟨_, hhistory⟩
  · rw [if_neg hend]
    refine ⟨tracks, by rw [if_neg hend, List.append_nil], by rw [if_neg hend], ?_, rfl, rfl⟩
    intro hend'
    exact absurd hend' hend

/-- The timeline as it was, and perhaps a new segment. -/
structure Anew (m m' : RtpMixer) : Prop where
  mix : m'.timeline.mix = m.timeline.mix
  history : ∃ events, m'.history = m.history ++ events
  lastTimestampS1 : m'.lastTimestampS1 = m.lastTimestampS1
  lastChunkS1 : m'.lastChunkS1 = m.lastChunkS1

theorem Stores.anew {begun : RtpMixer} {place : Nat} (stores : Stores begun m' chunk place)
    (anew : Anew m begun) : Stores m m' chunk place where
  tracks := stores.tracks
  mix := by rw [stores.mix, anew.mix]
  writeTimestamp := stores.writeTimestamp
  copied hend := by
    obtain ⟨events, hevents⟩ := stores.copied hend
    obtain ⟨before, hbefore⟩ := anew.history
    exact ⟨before ++ events, by rw [hevents, hbefore, List.append_assoc m.history]⟩
  lastTimestampS1 := stores.lastTimestampS1.trans anew.lastTimestampS1
  lastChunkS1 := stores.lastChunkS1.trans anew.lastChunkS1

theorem Stores.ship {place : Nat} (stores : Stores m m' chunk place) (tapeNumChannels : Int)
    (hused : numSamplesShipmentHoldoff ≤ m'.usedSpace) :
    Stores m (createShipment tapeNumChannels m' 0 false) chunk place := by
  obtain ⟨shipped, -, heq⟩ :=
    createShipment_eq tapeNumChannels stores.tracks.aligned false (.inr hused)
  have hhistory : (createShipment tapeNumChannels m' 0 false).history = m'.history := by rw [heq]
  refine ⟨stores.tracks.ship tapeNumChannels false (.inr hused), ?_, ?_, ?_, ?_, ?_⟩
  · rw [timeline, hhistory]
    exact stores.mix
  · rw [heq]
    exact stores.writeTimestamp
  · rw [hhistory]
    exact stores.copied
  · rw [heq]
    exact stores.lastTimestampS1
  · rw [heq]
    exact stores.lastChunkS1

/-- The first packet starts the timeline. -/
theorem Tracks.openAt (tracks : Tracks m) (hzero : m.writeTimestamp = 0) {timestamp : Nat}
    (hword : timestamp < 4294967296) :
    Tracks (m.openAt timestamp) ∧ Anew m (m.openAt timestamp) := by
  have hmove : Move 0 m (m.openAt timestamp) := .opened timestamp hzero hword
  refine ⟨tracks.move hmove, ?_, ⟨_, rfl⟩, rfl, rfl⟩
  rw [timeline, RtpMixer.openAt, Timeline.ofHistory_append]
  exact Timeline.mix_startAt _ _

/-- A packet out of range starts a new segment once all is shipped. -/
theorem Tracks.reset (tracks : Tracks m) (tapeNumChannels : Int) {timestamp : Nat}
    (hword : timestamp < 4294967296) :
    Tracks ((createShipment tapeNumChannels m 0 true).reset timestamp) ∧
      Anew m ((createShipment tapeNumChannels m 0 true).reset timestamp) := by
  have hordered := tracks.aligned.ordered
  have tracks' := tracks.ship tapeNumChannels true (.inl rfl)
  obtain ⟨shipped, -, heq⟩ := createShipment_eq tapeNumChannels tracks.aligned true (.inl rfl)
  have hshipped : (createShipment tapeNumChannels m 0 true).readTimestamp =
      (createShipment tapeNumChannels m 0 true).writeTimestamp := by
    rw [heq]
    simp only [shipmentSize, if_true]
    omega
  have hmove : Move 0 (createShipment tapeNumChannels m 0 true)
      ((createShipment tapeNumChannels m 0 true).reset timestamp) :=
    .reset timestamp hshipped hword
  refine ⟨tracks'.move hmove, ?_, ?_, ?_, ?_⟩
  · rw [timeline, RtpMixer.reset, Timeline.ofHistory_append, heq]
    exact Timeline.mix_startAt _ _
  · rw [RtpMixer.reset, heq]
    exact ⟨_, rfl⟩
  · rw [RtpMixer.reset, heq]
  · rw [RtpMixer.reset, heq]

/-! ### Placing the packet that comes next -/

/-- What a packet placed here makes of the mixer, with no more in the ring than before. -/
structure Takes (m m' : RtpMixer) (chunk : AudioChunk) (place : Nat) : Prop
    extends Stores m m' chunk place where
  light : Light m'

/-- A packet that a fresh segment is stored with. -/
theorem Packet.takes_anew {begun : RtpMixer} {place : Nat} (packet : Packet chunk)
    (tracks : Tracks begun) (anew : Anew m begun) (hread : begun.readTimestamp = place)
    (hwrite : begun.writeTimestamp = place) :
    ∃ m', begun.storeRtpPacket chunk place = .ok m' ∧ Takes m m' chunk place := by
  have hT : numSamplesTrigger = 12000 := rfl
  have light : Light begun := by
    unfold Light
    omega
  have stores := packet.stores tracks light
  have hstore := packet.storeRtpPacket tracks
  rw [hwrite] at stores hstore
  refine ⟨_, hstore, ⟨stores.anew anew, ?_⟩⟩
  obtain ⟨_, _, _, _, hstored⟩ := begun.stored_eq chunk place
  unfold Light
  rw [stores.writeTimestamp]
  split_ifs with hend
  · rw [hstored]
    simp only
    omega
  · omega

theorem Packet.toU32_end (packet : Packet chunk) (place : Nat) :
    toInt32 (toU32 ((toU32 ((place : Int) + chunk.numSamples) : Int) - place)) = 160 := by
  rw [packet.numSamples]
  unfold toInt32 toU32
  split_ifs <;> omega

/-- The packet that comes next is taken at the write side. -/
theorem Packet.takes_next (tapeNumChannels : Int) (packet : Packet chunk) (tracks : Tracks m)
    (light : Light m) (hbegun : m.writeTimestamp ≠ 0) :
    ∃ m', m.placeChunk tapeNumChannels chunk m.writeTimestamp = .ok m' ∧
      Takes m m' chunk m.writeTimestamp := by
  have hN : numSamplesCircularBuffer = 16000 := rfl
  have hT : numSamplesTrigger = 12000 := rfl
  have hH : numSamplesShipmentHoldoff = 11000 := rfl
  have hused := tracks.aligned.usedSpace
  have hlight : m.writeTimestamp - m.readTimestamp ≤ numSamplesTrigger := light
  have hfree : toInt32 (toU32 ((toU32 ((m.writeTimestamp : Int) + chunk.numSamples) : Int) -
      m.writeTimestamp)) ≤ m.freeSpace := by
    rw [packet.toU32_end, freeSpace, hused]
    omega
  have hnone : toInt32 (toU32 ((m.writeTimestamp : Int) - m.writeTimestamp)) ≤ m.usedSpace := by
    rw [Int.sub_self]
    exact Int.natCast_nonneg _
  have stores := packet.stores tracks light
  rw [placeChunk, if_neg hbegun, if_pos tracks.aligned.ordered, if_pos ⟨hfree, hnone⟩,
    packet.storeRtpPacket tracks]
  generalize hstored : (if m.writeTimestamp + 160 < 4294967296 then
    m.stored chunk m.writeTimestamp else m) = mixed at stores ⊢
  have hused' := stores.tracks.aligned.usedSpace
  have hread : mixed.readTimestamp = m.readTimestamp := by
    obtain ⟨_, _, _, _, heq⟩ := m.stored_eq chunk m.writeTimestamp
    rw [← hstored, heq]
    split_ifs <;> rfl
  have hwrite : mixed.writeTimestamp ≤ m.writeTimestamp + 160 := by
    rw [stores.writeTimestamp]
    split_ifs <;> omega
  have htrigger := stores.tracks.aligned.trigger
  by_cases hship : mixed.usedSpace > mixed.numSampleTrigger
  · have hholdoff : numSamplesShipmentHoldoff ≤ mixed.usedSpace := by omega
    refine ⟨createShipment tapeNumChannels mixed 0 false, ?_, ⟨stores.ship tapeNumChannels hholdoff, ?_⟩⟩
    · exact if_pos hship
    · obtain ⟨shipped, -, heq⟩ :=
        createShipment_eq tapeNumChannels stores.tracks.aligned false (.inr hholdoff)
      unfold Light
      rw [heq]
      simp only [shipmentSize, Bool.false_eq_true, if_false]
      omega
  · refine ⟨mixed, if_neg hship, ⟨stores, ?_⟩⟩
    unfold Light
    omega

/-- A packet that begins the timeline, comes next, or lies before the read side at its own
timestamp. -/
theorem Packet.takes (tapeNumChannels : Int) {place : Nat} (packet : Packet chunk)
    (tracks : Tracks m) (light : Light m) (hword : place < 4294967296)
    (hplace : m.writeTimestamp = place ∨ m.writeTimestamp = 0 ∨
      place < m.readTimestamp ∧ chunk.details.timestamp.toNat = place) :
    ∃ m', m.placeChunk tapeNumChannels chunk place = .ok m' ∧ Takes m m' chunk place := by
  by_cases hzero : m.writeTimestamp = 0
  · obtain ⟨tracks', anew⟩ := tracks.openAt hzero hword
    rw [placeChunk, if_pos hzero, if_pos packet.channel]
    exact packet.takes_anew tracks' anew rfl rfl
  · rcases hplace with rfl | hzero' | ⟨hbefore, htimestamp⟩
    · exact packet.takes_next tapeNumChannels tracks light hzero
    · exact absurd hzero' hzero
    · obtain ⟨tracks', anew⟩ := tracks.reset tapeNumChannels hword
      have hread : ((createShipment tapeNumChannels m 0 true).reset place).readTimestamp = place :=
        rfl
      have hwrite : ((createShipment tapeNumChannels m 0 true).reset place).writeTimestamp =
          place := rfl
      obtain ⟨mixed, hstore, takes⟩ := packet.takes_anew tracks' anew hread hwrite
      rw [placeChunk, if_neg hzero, if_neg (Nat.not_le.mpr hbefore), manageOutOfRangeTimestamp,
        if_pos packet.channel, htimestamp]
      simp only [hstore]
      refine ⟨{ mixed with timestampCorrectiveDelta := 0 }, rfl, ?_⟩
      have same : Untouched mixed { mixed with timestampCorrectiveDelta := 0 } := by
        constructor <;> simp +contextual
      exact ⟨⟨takes.tracks.untouched same, takes.mix, takes.writeTimestamp, takes.copied,
        takes.lastTimestampS1, takes.lastChunkS1⟩, takes.light⟩

/-! ### Handing a packet in -/

/-- The packet with the timestamp that the correction of milliseconds leaves it. -/
def retimed (m : RtpMixer) (chunk : AudioChunk) : AudioChunk :=
  { chunk with details.timestamp :=
      (correctMilliseconds m.lastChunkS1 m.lastTimestampS1 chunk.details.timestamp).2 }

/-- The mixer once it remembers the packet. -/
def remembered (m : RtpMixer) (chunk : AudioChunk) : RtpMixer :=
  { m with
    lastTimestampS1 :=
      (correctMilliseconds m.lastChunkS1 m.lastTimestampS1 chunk.details.timestamp).1
    lastChunkS1 := some (m.retimed chunk).details }

theorem Packet.retimed (packet : Packet chunk) (m : RtpMixer) : Packet (m.retimed chunk) :=
  ⟨packet.marker, packet.encoding, packet.channel, packet.numSamples⟩

theorem Tracks.remembered (tracks : Tracks m) (chunk : AudioChunk) :
    Tracks (m.remembered chunk) := by
  apply tracks.untouched
  constructor <;> simp +contextual [RtpMixer.remembered]

theorem Packet.admits (packet : Packet chunk) (tracks : Tracks m) : m.Admits chunk := by
  have hsize := packet.numSamples
  have hbytes : chunk.details.numBytes.toNat < 2147483648 := by
    rw [AudioChunk.numSamples] at hsize
    omega
  refine ⟨tracks.noError, packet.marker, packet.encoding, by omega, ?_⟩
  rw [AudioChunk.getNumBytes, toInt32_of_lt hbytes]
  rw [AudioChunk.numSamples] at hsize
  omega

theorem Packet.audioChunkIn (tapeNumChannels : Int) (packet : Packet chunk) (tracks : Tracks m) :
    m.audioChunkIn tapeNumChannels (some chunk) = (m.remembered chunk).placeChunk tapeNumChannels
      (m.retimed chunk) (m.retimed chunk).details.timestamp.toNat := by
  have hensure : m.ensureChannels tapeNumChannels chunk = m := by
    rw [ensureChannels, if_neg (by rw [tracks.oneOutput]; decide)]
  have hmodify (f : RtpMixerChannel → RtpMixerChannel) : m.modifyChannel 0 f = m := by
    have hchannels : m.channels.modify (0 : Int).toNat f = m.channels := by
      rw [tracks.noChannels]
      rfl
    rw [modifyChannel, hchannels]
  have hnone : m.numInputChannels = 0 := by
    rw [numInputChannels, tracks.noChannels]
    rfl
  rw [audioChunkIn_admitted tapeNumChannels (packet.admits tracks), hensure, correctTimestamp,
    if_pos packet.channel]
  simp only [hnone, ne_eq, not_true, false_and, if_false, hmodify]
  rfl

/-- A packet whose distance to the remembered timestamp is not 20 keeps its own. -/
theorem correctMilliseconds_kept {lastChunk : Option AudioChunkDetails} {lastTimestamp : Nat}
    {timestamp : UInt32}
    (hother : lastChunk ≠ none → toU32 ((timestamp.toNat : Int) - lastTimestamp) ≠ 20) :
    correctMilliseconds lastChunk lastTimestamp timestamp =
      (if lastChunk = none then timestamp.toNat else lastTimestamp, timestamp) := by
  cases hlast : lastChunk with
  | none => rfl
  | some last =>
      rw [correctMilliseconds, if_neg (hother (by simp [hlast])), if_neg (by simp)]

/-! ### The stream -/

/-- The packets come one right after the other, from this timestamp on. -/
def Contiguous : UInt32 → List AudioChunk → Prop
  | _, [] => True
  | timestamp, chunk :: rest =>
      Packet chunk ∧ chunk.details.timestamp = timestamp ∧ Contiguous (timestamp + 160) rest

/-- The end of the packet does not fit in the word. -/
def wraps (chunk : AudioChunk) : Bool :=
  decide (4294967296 ≤ chunk.details.timestamp.toNat + chunk.numSamples)

/-- What the mixer has made of a stream whose next timestamp is this one. -/
structure Carried (m : RtpMixer) (next : UInt32) (samples : List Int16) : Prop where
  tracks : Tracks m
  light : Light m
  mix : m.timeline.mix = samples
  place : m.writeTimestamp = next.toNat ∨ m.writeTimestamp = 0 ∨ next.toNat < m.readTimestamp
  counts : m.lastChunkS1 ≠ none → (32 : Int) ∣ (next.toNat : Int) - m.lastTimestampS1

theorem fresh_carried (memory : Nat → Int16) (start : UInt32) :
    Carried (fresh 1 memory) start [] where
  tracks := fresh_tracks memory
  light := Nat.zero_le _
  mix := rfl
  place := .inr (.inl rfl)
  counts hsome := absurd rfl hsome

theorem toNat_add_160 (next : UInt32) :
    (next + 160).toNat = (next.toNat + 160) % 4294967296 := by
  rw [UInt32.toNat_add]
  rfl

/-- The timestamps of a contiguous stream are never taken for milliseconds. -/
theorem Carried.kept {next : UInt32} {samples : List Int16} (carried : Carried m next samples) :
    correctMilliseconds m.lastChunkS1 m.lastTimestampS1 next =
      (if m.lastChunkS1 = none then next.toNat else m.lastTimestampS1, next) := by
  apply correctMilliseconds_kept
  intro hsome hequal
  have hcounts := carried.counts hsome
  unfold toU32 at hequal
  omega

/-- A packet adds its samples, unless its end does not fit in the word. -/
theorem Carried.step (tapeNumChannels : Int) {next : UInt32} {samples : List Int16}
    (carried : Carried m next samples) (packet : Packet chunk)
    (htimestamp : chunk.details.timestamp = next) :
    ∃ m', m.audioChunkIn tapeNumChannels (some chunk) = .ok m' ∧
      Carried m' (next + 160) (samples ++ if wraps chunk then [] else chunk.samples) := by
  have hkept := carried.kept
  rw [← htimestamp] at hkept
  have hretimed : m.retimed chunk = chunk := by rw [RtpMixer.retimed, hkept]
  have hword := next.toNat_lt
  obtain ⟨m', hplace, takes⟩ := packet.takes tapeNumChannels (carried.tracks.remembered chunk)
    (show Light (m.remembered chunk) from carried.light) hword
    (carried.place.imp id (Or.imp id fun hbefore => ⟨hbefore, by rw [htimestamp]⟩))
  have hlast : m'.lastTimestampS1 =
      if m.lastChunkS1 = none then next.toNat else m.lastTimestampS1 := by
    rw [takes.lastTimestampS1, RtpMixer.remembered, hkept, htimestamp]
  have hwrite := takes.writeTimestamp
  have hlight : m'.writeTimestamp - m'.readTimestamp ≤ 12000 := takes.light
  refine ⟨m', ?_, ⟨takes.tracks, takes.light, ?_, ?_, ?_⟩⟩
  · rw [packet.audioChunkIn tapeNumChannels carried.tracks, hretimed, htimestamp]
    exact hplace
  · have hmix : (m.remembered chunk).timeline.mix = samples := carried.mix
    rw [takes.mix, hmix, wraps, htimestamp, packet.numSamples]
    by_cases hend : next.toNat + 160 < 4294967296
    · rw [if_pos hend, if_neg (by rw [decide_eq_true_iff]; omega)]
    · rw [if_neg hend, if_pos (by rw [decide_eq_true_iff]; omega)]
  · rw [toNat_add_160]
    split_ifs at hwrite with hend
    · exact .inl (by omega)
    · exact .inr (.inr (by omega))
  · intro _
    rw [hlast, toNat_add_160]
    split_ifs with hfirst
    · omega
    · have hcounts := carried.counts hfirst
      omega

/-- The whole stream: every packet but those that reach the end of the word. -/
theorem Carried.run (tapeNumChannels : Int) {next : UInt32} {samples : List Int16}
    {chunks : List AudioChunk} (carried : Carried m next samples)
    (contiguous : Contiguous next chunks) :
    ∃ m' last, chunksIn tapeNumChannels m (chunks.map some) = .ok m' ∧
      Carried m' last (samples ++ (chunks.filter (! wraps ·)).flatMap AudioChunk.samples) := by
  induction chunks generalizing m next samples with
  | nil => exact ⟨m, next, rfl, by simpa using carried⟩
  | cons chunk rest ih =>
      obtain ⟨packet, htimestamp, following⟩ := contiguous
      obtain ⟨m₁, hin, carried₁⟩ := carried.step tapeNumChannels packet htimestamp
      obtain ⟨m', last, hrest, carried'⟩ := ih carried₁ following
      refine ⟨m', last, ?_, ?_⟩
      · rw [chunksIn, List.map_cons, List.foldlM_cons, hin]
        exact hrest
      · rw [List.append_assoc] at carried'
        rw [List.filter_cons]
        cases hwraps : wraps chunk <;> simpa [hwraps] using carried'

/-- As many packets reach the end of the word as the timestamps wrap. -/
theorem length_filter_wraps {start : UInt32} {chunks : List AudioChunk}
    (contiguous : Contiguous start chunks) :
    (chunks.filter wraps).length = (start.toNat + 160 * chunks.length) / 4294967296 := by
  induction chunks generalizing start with
  | nil =>
      have hword := start.toNat_lt
      simp only [List.filter_nil, List.length_nil]
      omega
  | cons chunk rest ih =>
      obtain ⟨packet, htimestamp, following⟩ := contiguous
      have hrest := ih following
      rw [toNat_add_160] at hrest
      have hword := start.toNat_lt
      rw [List.filter_cons, wraps, htimestamp, packet.numSamples, List.length_cons]
      split_ifs with hwraps
      · rw [decide_eq_true_iff] at hwraps
        rw [List.length_cons, hrest]
        omega
      · rw [decide_eq_true_iff] at hwraps
        rw [hrest]
        omega

/-- A contiguous stream of packets, handed to a new mixer with one output channel and flushed,
comes out whole but for the packets whose end does not fit in the word: one for each time that
the timestamps wrap. -/
theorem wrap_loses_one_packet (tapeNumChannels : Int) (memory : Nat → Int16) {start : UInt32}
    {chunks : List AudioChunk} {eos : AudioChunk} (contiguous : Contiguous start chunks)
    (heos : eos.details.marker = mediaChunkEosMarker) :
    (∃ m, chunksIn tapeNumChannels (fresh 1 memory) (chunks.map some ++ [some eos]) = .ok m ∧
      ∀ delivered, Delivers m delivered → delivered.flatMap AudioChunk.samples =
        (chunks.filter (! wraps ·)).flatMap AudioChunk.samples) ∧
    (chunks.filter wraps).length = (start.toNat + 160 * chunks.length) / 4294967296 := by
  obtain ⟨m, _, hchunks, carried⟩ :=
    (fresh_carried memory start).run tapeNumChannels contiguous
  obtain ⟨hflush, hmix⟩ := carried.tracks.flush tapeNumChannels heos
  refine ⟨⟨_, chunksIn_concat hchunks hflush, ?_⟩, length_filter_wraps contiguous⟩
  intro delivered delivers
  obtain ⟨shipped, -, heq⟩ :=
    createShipment_eq tapeNumChannels carried.tracks.aligned true (.inl rfl)
  have hhistory : (createShipment tapeNumChannels m 0 true).history = m.history := by rw [heq]
  rw [delivers_iff.mp delivers, hmix, timeline, hhistory]
  exact carried.mix

/-- The packet with this timestamp. -/
def packetAt (timestamp : UInt32) : AudioChunk :=
  { details :=
      { encoding := .pcmAudio, numBytes := 320, channel := 1, timestamp := timestamp }
    buffer := fun i => Int16.ofNat i }

theorem packetAt_packet (timestamp : UInt32) : Packet (packetAt timestamp) where
  marker := (by decide : AudioChunkDetails.marker {} ≠ mediaChunkEosMarker)
  encoding := rfl
  channel := rfl
  numSamples := (by decide : (320 : UInt32).toNat / 2 = 160)

theorem wrap_loses_one_packet_of_two :
    (∃ m, chunksIn 1 (fresh 1 fun _ => 0) ([packetAt 4294967200, packetAt 64].map some ++
        [some eosChunk]) = .ok m ∧
      ∀ delivered, Delivers m delivered → delivered.flatMap AudioChunk.samples =
        ([packetAt 4294967200, packetAt 64].filter (! wraps ·)).flatMap AudioChunk.samples) ∧
    ([packetAt 4294967200, packetAt 64].filter wraps).length = (4294967200 + 160 * 2) / 4294967296 :=
  @wrap_loses_one_packet 1 (fun _ => 0) 4294967200 [packetAt 4294967200, packetAt 64] eosChunk
    ⟨packetAt_packet _, rfl, packetAt_packet _, rfl, trivial⟩ rfl

end RtpMixer

end OrkAudio
