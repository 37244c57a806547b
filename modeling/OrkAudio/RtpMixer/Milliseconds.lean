import OrkAudio.RtpMixer.Contiguous

/-! Streams of the first side whose timestamps count milliseconds.

A packet is taken for one of these when its timestamp is 20 after the remembered one, which is
only moved on by such a packet. After the first packet that is lost, none is any more. -/

namespace OrkAudio.RtpMixer

open Lib

variable {m m' : RtpMixer} {chunk : AudioChunk} {start : UInt32} {number : Nat}

/-! ### What placing a chunk leaves alone -/

/-- What a chunk at this place leaves alone: the history grows by payloads at the place only. -/
structure Places (m m' : RtpMixer) (place : Nat) : Prop where
  numOutputChannels : m'.numOutputChannels = m.numOutputChannels
  channels : m.channels = [] → m'.channels = []
  lastTimestampS1 : m'.lastTimestampS1 = m.lastTimestampS1
  lastChunkS1 : m'.lastChunkS1 = m.lastChunkS1
  history : ∃ events, m'.history = m.history ++ events ∧
    ∀ timestamp samples, TimelineEvent.copied timestamp samples ∈ events → timestamp = place

theorem Places.refl (m : RtpMixer) (place : Nat) : Places m m place :=
  ⟨rfl, id, rfl, rfl, [], (List.append_nil _).symm,
    fun _ _ hcopied => absurd hcopied List.not_mem_nil⟩

theorem Places.trans {m'' : RtpMixer} {place : Nat} (first : Places m m' place)
    (second : Places m' m'' place) : Places m m'' place := by
  obtain ⟨before, hbefore, hplace⟩ := first.history
  obtain ⟨after, hafter, hplace'⟩ := second.history
  refine ⟨second.numOutputChannels.trans first.numOutputChannels,
    fun hchannels => second.channels (first.channels hchannels),
    second.lastTimestampS1.trans first.lastTimestampS1,
    second.lastChunkS1.trans first.lastChunkS1, before ++ after, ?_, ?_⟩
  · rw [hafter, hbefore, List.append_assoc]
  · intro timestamp samples hcopied
    rcases List.mem_append.mp hcopied with hcopied | hcopied
    · exact hplace timestamp samples hcopied
    · exact hplace' timestamp samples hcopied

/-- A history to which one event is added, or none. -/
theorem history_event {history history' : List TimelineEvent} {event : TimelineEvent}
    {place : Nat} (hhistory : history' = history ++ [event])
    (hevent : ∀ timestamp samples, event = .copied timestamp samples → timestamp = place) :
    ∃ events, history' = history ++ events ∧
      ∀ timestamp samples, TimelineEvent.copied timestamp samples ∈ events → timestamp = place :=
  ⟨[event], hhistory, fun timestamp samples hcopied =>
    hevent timestamp samples (List.mem_singleton.mp hcopied).symm⟩

theorem openAt_places (m : RtpMixer) (timestamp place : Nat) :
    Places m (m.openAt timestamp) place :=
  ⟨rfl, id, rfl, rfl, history_event rfl (by simp)⟩

theorem reset_places (m : RtpMixer) (timestamp place : Nat) :
    Places m (m.reset timestamp) place :=
  ⟨rfl, id, rfl, rfl, history_event rfl (by simp)⟩

theorem shipSlice_places (tapeNumChannels : Int) (m : RtpMixer) (first shortSize place : Nat) :
    Places m (shipSlice tapeNumChannels m first shortSize) place := by
  have hsame : (shipSlice tapeNumChannels m first shortSize).history = m.history := by
    rw [shipSlice, checkChunkDetails]
    split_ifs <;> rfl
  have hhistory : ∃ events, (shipSlice tapeNumChannels m first shortSize).history =
      m.history ++ events ∧ ∀ timestamp samples,
        TimelineEvent.copied timestamp samples ∈ events → timestamp = place :=
    ⟨[], by rw [hsame, List.append_nil], fun _ _ hcopied => absurd hcopied List.not_mem_nil⟩
  refine ⟨?_, ?_, ?_, ?_, hhistory⟩ <;>
  · rw [shipSlice, checkChunkDetails]
    split_ifs <;> first | rfl | exact id

theorem createShipment_places (tapeNumChannels : Int) (m : RtpMixer) (force : Bool)
    (place : Nat) : Places m (createShipment tapeNumChannels m 0 force) place := by
  have hships (stopPtr : Nat) : Places m (if stopPtr < m.readPtr then
      shipSlice tapeNumChannels
        (shipSlice tapeNumChannels m m.readPtr (numSamplesCircularBuffer - m.readPtr)) 0 stopPtr
      else shipSlice tapeNumChannels m m.readPtr (stopPtr - m.readPtr)) place := by
    split_ifs
    · exact (shipSlice_places tapeNumChannels m _ _ place).trans
        (shipSlice_places tapeNumChannels _ _ _ place)
    · exact shipSlice_places tapeNumChannels m _ _ place
  rw [createShipment, if_neg (not_not_intro rfl)]
  exact hships _

theorem stored_places (m : RtpMixer) (chunk : AudioChunk) (timestamp : Nat) :
    Places m (m.stored chunk timestamp) timestamp := by
  have hsilence : Places m (m.writeSilence (timestamp + chunk.numSamples)) timestamp := by
    obtain ⟨_, history, hnone, hhistory, heq⟩ := m.writeSilence_eq (timestamp + chunk.numSamples)
    rw [heq]
    split_ifs at hhistory
    · exact ⟨rfl, hnone, rfl, rfl, history_event hhistory (by simp)⟩
    · exact ⟨rfl, hnone, rfl, rfl, [], by rw [List.append_nil]; exact hhistory,
        fun _ _ hcopied => absurd hcopied List.not_mem_nil⟩
  apply hsilence.trans
  rw [stored, mixPacket]
  simp only
  split_ifs
  · exact .refl _ _
  · obtain ⟨_, hnone, heq⟩ := mixSamples_eq ((chunk.details.channel.toNat : Int) - 1) chunk.samples
      (cicularPointerSubtractOffset (m.writeSilence (timestamp + chunk.numSamples)).writePtr
        (((m.writeSilence (timestamp + chunk.numSamples)).writeTimestamp : Int) -
          timestamp).toNat)
      (m.writeSilence (timestamp + chunk.numSamples))
    rw [heq]
    refine ⟨rfl, hnone, rfl, rfl, history_event rfl ?_⟩
    intro place samples hevent
    exact (TimelineEvent.copied.inj hevent).1.symm

theorem storeRtpPacket_places {timestamp : Nat}
    (hstore : m.storeRtpPacket chunk timestamp = .ok m') : Places m m' timestamp := by
  rcases storeRtpPacket_cases hstore with ⟨rfl, _⟩ | ⟨_, _, rfl⟩
  · exact .refl _ _
  · exact m.stored_places chunk timestamp

/-- Wherever a chunk of the first side is put, it is at its own timestamp. -/
theorem placeChunk_places {tapeNumChannels : Int} {place : Nat}
    (hchannel : chunk.details.channel = 1) (htimestamp : chunk.details.timestamp.toNat = place)
    (hplace : m.placeChunk tapeNumChannels chunk place = .ok m') : Places m m' place := by
  have hmanage (hmanaged : m.manageOutOfRangeTimestamp tapeNumChannels chunk = .ok m') :
      Places m m' place := by
    rw [manageOutOfRangeTimestamp, if_pos hchannel, htimestamp] at hmanaged
    simp only [bind_eq_ok] at hmanaged
    obtain ⟨mixed, hstore, hdelta⟩ := hmanaged
    obtain rfl := Except.ok.inj hdelta
    obtain ⟨houtput, hchannels, hlast, hlastChunk, hhistory⟩ :=
      ((createShipment_places tapeNumChannels m true place).trans
        (reset_places _ place place)).trans (storeRtpPacket_places hstore)
    exact ⟨houtput, hchannels, hlast, hlastChunk, hhistory⟩
  unfold placeChunk at hplace
  simp only at hplace
  split_ifs at hplace
  · exact (m.openAt_places place place).trans (storeRtpPacket_places hplace)
  · rw [bind_eq_ok] at hplace
    obtain ⟨mixed, hstore, hship⟩ := hplace
    have places := storeRtpPacket_places hstore
    split_ifs at hship
    · obtain rfl := Except.ok.inj hship
      exact places.trans (createShipment_places tapeNumChannels mixed false place)
    · obtain rfl := Except.ok.inj hship
      exact places
  · exact hmanage hplace
  · exact hmanage hplace

/-! ### A stream that counts milliseconds -/

/-- What arrives, in its order, of packets 20 ms long whose timestamps count milliseconds, each
with its number in the stream. No timestamp wraps, also when it counts samples. -/
def Arrives (start : UInt32) : Nat → List (Nat × AudioChunk) → Prop
  | _, [] => True
  | next, (number, chunk) :: rest =>
      next ≤ number ∧ Packet chunk ∧
        chunk.details.timestamp = start + UInt32.ofNat (20 * number) ∧
        start.toNat + 160 * number + 160 < 4294967296 ∧ Arrives start (number + 1) rest

/-- Each packet is copied to the place that is eight times as far from the first one as its
timestamp. -/
def PlacedInSamples (tapeNumChannels : Int) (start : UInt32) : RtpMixer → List AudioChunk → Prop
  | _, [] => True
  | m, chunk :: rest => ∃ m', m.audioChunkIn tapeNumChannels (some chunk) = .ok m' ∧
      (∃ events, m'.history = m.history ++ events ++ [TimelineEvent.copied
        (start.toNat + 8 * (chunk.details.timestamp.toNat - start.toNat)) chunk.samples]) ∧
      PlacedInSamples tapeNumChannels start m' rest

/-- The mixer has been handed the packets before this number, all of them. -/
structure Counting (m : RtpMixer) (start : UInt32) (number : Nat) : Prop where
  tracks : Tracks m
  light : Light m
  place : m.writeTimestamp = start.toNat + 160 * number ∨ m.writeTimestamp = 0
  first : number = 0 → m.lastChunkS1 = none
  later : ∀ earlier, number = earlier + 1 → m.lastTimestampS1 = start.toNat + 20 * earlier ∧
    ∃ last, m.lastChunkS1 = some last ∧ last.timestamp.toNat = start.toNat + 160 * earlier

theorem fresh_counting (memory : Nat → Int16) (start : UInt32) :
    Counting (fresh 1 memory) start 0 where
  tracks := fresh_tracks memory
  light := Nat.zero_le _
  place := .inr rfl
  first _ := rfl
  later _ hlater := absurd hlater (by simp)

theorem toNat_of_arrives {stride : Nat} {timestamp : UInt32}
    (htimestamp : timestamp = start + UInt32.ofNat (stride * number))
    (hword : start.toNat + stride * number < 4294967296) :
    timestamp.toNat = start.toNat + stride * number := by
  rw [htimestamp, UInt32.toNat_add, UInt32.toNat_ofNat']
  omega

/-- The packet that comes next gets its place in samples. -/
theorem Counting.correctMilliseconds_next (counting : Counting m start number)
    {timestamp : UInt32} (htimestamp : timestamp.toNat = start.toNat + 20 * number)
    (hword : start.toNat + 160 * number + 160 < 4294967296) :
    (correctMilliseconds m.lastChunkS1 m.lastTimestampS1 timestamp).1 =
        start.toNat + 20 * number ∧
      (correctMilliseconds m.lastChunkS1 m.lastTimestampS1 timestamp).2.toNat =
        start.toNat + 160 * number := by
  cases number with
  | zero =>
      rw [counting.first rfl]
      exact ⟨htimestamp, htimestamp⟩
  | succ earlier =>
      obtain ⟨hlastTimestamp, last, hlast, hplace⟩ := counting.later earlier rfl
      have htaken : toU32 ((timestamp.toNat : Int) - m.lastTimestampS1) = 20 := by
        rw [htimestamp, hlastTimestamp]
        unfold toU32
        omega
      rw [hlast, correctMilliseconds, if_pos htaken]
      refine ⟨htimestamp, ?_⟩
      rw [toNat_add_160, hplace]
      omega

/-- A packet after one that is missing keeps its timestamp. -/
theorem Counting.correctMilliseconds_gap (counting : Counting m start number) {later : Nat}
    {timestamp : UInt32} (hgap : number < later)
    (htimestamp : timestamp.toNat = start.toNat + 20 * later) :
    (correctMilliseconds m.lastChunkS1 m.lastTimestampS1 timestamp).2 = timestamp := by
  have hother : m.lastChunkS1 ≠ none →
      toU32 ((timestamp.toNat : Int) - m.lastTimestampS1) ≠ 20 := by
    intro hsome
    cases number with
    | zero => exact absurd (counting.first rfl) hsome
    | succ earlier =>
        have hword := timestamp.toNat_lt
        obtain ⟨further, rfl⟩ : ∃ further, later = earlier + 2 + further :=
          ⟨later - (earlier + 2), by omega⟩
        have hdistance : ((timestamp.toNat : Nat) : Int) - m.lastTimestampS1 =
            ((40 + 20 * further : Nat) : Int) := by
          rw [htimestamp, (counting.later earlier rfl).1]
          omega
        rw [hdistance, toU32, Int.emod_eq_of_lt (by omega) (by omega)]
        omega
  rw [correctMilliseconds_kept hother]

theorem Counting.next (tapeNumChannels : Int) (counting : Counting m start number)
    (packet : Packet chunk) (htimestamp : chunk.details.timestamp.toNat = start.toNat + 20 * number)
    (hword : start.toNat + 160 * number + 160 < 4294967296) :
    ∃ m', m.audioChunkIn tapeNumChannels (some chunk) = .ok m' ∧
      (∃ events, m'.history = m.history ++ events ++
        [TimelineEvent.copied (start.toNat + 160 * number) chunk.samples]) ∧
      Counting m' start (number + 1) := by
  obtain ⟨hremembered, hretimed⟩ := counting.correctMilliseconds_next htimestamp hword
  have hplace : (m.retimed chunk).details.timestamp.toNat = start.toNat + 160 * number := hretimed
  obtain ⟨m', hplaced, takes⟩ := (packet.retimed m).takes tapeNumChannels
    (counting.tracks.remembered chunk) (show Light (m.remembered chunk) from counting.light)
    (show start.toNat + 160 * number < 4294967296 by omega)
    (counting.place.imp id .inl)
  have hend : start.toNat + 160 * number + 160 < 4294967296 := hword
  refine ⟨m', ?_, takes.copied hend, ⟨takes.tracks, takes.light, ?_, ?_, ?_⟩⟩
  · rw [packet.audioChunkIn tapeNumChannels counting.tracks, hplace]
    exact hplaced
  · rw [takes.writeTimestamp, if_pos hend]
    exact .inl (by omega)
  · intro hzero
    omega
  · intro earlier hearlier
    obtain rfl : number = earlier := by omega
    refine ⟨takes.lastTimestampS1.trans hremembered, (m.retimed chunk).details, ?_, hplace⟩
    exact takes.lastChunkS1

/-- A packet after one that is missing is not put where its number says. -/
theorem Counting.gap {tapeNumChannels : Int} (counting : Counting m start number) {later : Nat}
    (hgap : number < later) (packet : Packet chunk)
    (htimestamp : chunk.details.timestamp.toNat = start.toNat + 20 * later)
    (hin : m.audioChunkIn tapeNumChannels (some chunk) = .ok m') (events : List TimelineEvent) :
    m'.history ≠ m.history ++ events ++
      [TimelineEvent.copied (start.toNat + 160 * later) chunk.samples] := by
  have hkept := counting.correctMilliseconds_gap hgap htimestamp
  have hretimed : m.retimed chunk = chunk := by rw [retimed, hkept]
  rw [packet.audioChunkIn tapeNumChannels counting.tracks, hretimed] at hin
  obtain ⟨events', hhistory, hplace⟩ := (placeChunk_places packet.channel rfl hin).history
  intro hplaced
  have hhistory' : m'.history = m.history ++ events' := hhistory
  rw [hhistory', List.append_assoc] at hplaced
  have hcopied : TimelineEvent.copied (start.toNat + 160 * later) chunk.samples ∈ events' := by
    rw [List.append_cancel_left hplaced]
    exact List.mem_append_right _ List.mem_cons_self
  have hequal := hplace _ _ hcopied
  omega

theorem Counting.placed_iff (tapeNumChannels : Int) {arrivals : List (Nat × AudioChunk)}
    (counting : Counting m start number) (arrives : Arrives start number arrivals) :
    PlacedInSamples tapeNumChannels start m (arrivals.map Prod.snd) ↔
      arrivals.map Prod.fst = List.range' number arrivals.length := by
  induction arrivals generalizing m number with
  | nil => exact iff_of_true trivial rfl
  | cons arrival rest ih =>
      obtain ⟨later, chunk⟩ := arrival
      obtain ⟨hnext, packet, htimestamp, hword, following⟩ := arrives
      have htimestamp' := toNat_of_arrives htimestamp (by omega)
      have hplace : start.toNat + 8 * (chunk.details.timestamp.toNat - start.toNat) =
          start.toNat + 160 * later := by omega
      rw [List.map_cons, List.map_cons, List.length_cons, List.range'_succ]
      rcases Nat.eq_or_lt_of_le hnext with rfl | hgap
      · obtain ⟨m₁, hin, hcopied, counting₁⟩ :=
          counting.next tapeNumChannels packet htimestamp' hword
        rw [List.cons.injEq, eq_self, true_and, ← ih counting₁ following]
        constructor
        · intro placed
          obtain ⟨m₁', hin', _, hrest⟩ := placed
          obtain rfl := Except.ok.inj (hin'.symm.trans hin)
          exact hrest
        · intro hrest
          refine ⟨m₁, hin, ?_, hrest⟩
          rw [hplace]
          exact hcopied
      · apply iff_of_false
        · intro placed
          obtain ⟨m', hin, hcopied, _⟩ := placed
          obtain ⟨events, hcopied⟩ := hcopied
          rw [hplace] at hcopied
          exact counting.gap hgap packet htimestamp' hin events hcopied
        · intro hnumbers
          exact absurd (List.cons.inj hnumbers).1 (Nat.ne_of_gt hgap)

/-! ### A stream that counts samples -/

/-- The packet is one of a stream whose timestamps count samples. -/
def CountsSamples (start : UInt32) (chunk : AudioChunk) : Prop :=
  Packet chunk ∧ ∃ number, chunk.details.timestamp = start + UInt32.ofNat (160 * number)

/-- What such a stream, whatever is lost of it, leaves of the memory of a mixer. -/
structure Sampled (m : RtpMixer) (start : UInt32) : Prop where
  oneOutput : m.numOutputChannels = 1
  noChannels : m.channels = []
  remembered : m.lastChunkS1 ≠ none →
    ∃ number, m.lastTimestampS1 = (start + UInt32.ofNat (160 * number)).toNat

theorem fresh_sampled (memory : Nat → Int16) (start : UInt32) : Sampled (fresh 1 memory) start :=
  ⟨rfl, rfl, fun hsome => absurd rfl hsome⟩

/-- The distance of two packets is a multiple of 32, also across the end of the word. -/
theorem distance_ne_20 (start : UInt32) (number earlier : Nat) :
    toU32 (((start + UInt32.ofNat (160 * number)).toNat : Int) -
      (start + UInt32.ofNat (160 * earlier)).toNat) ≠ 20 := by
  rw [UInt32.toNat_add, UInt32.toNat_add, UInt32.toNat_ofNat', UInt32.toNat_ofNat']
  unfold toU32
  omega

theorem Sampled.kept (sampled : Sampled m start) (counts : CountsSamples start chunk) :
    correctMilliseconds m.lastChunkS1 m.lastTimestampS1 chunk.details.timestamp =
      (if m.lastChunkS1 = none then chunk.details.timestamp.toNat else m.lastTimestampS1,
        chunk.details.timestamp) := by
  apply correctMilliseconds_kept
  intro hsome
  obtain ⟨earlier, hearlier⟩ := sampled.remembered hsome
  obtain ⟨_, number, hnumber⟩ := counts
  rw [hearlier, hnumber]
  exact distance_ne_20 start number earlier

/-- The timestamp of such a packet is left as it is. -/
theorem Sampled.correctTimestamp (tapeNumChannels : Int) (sampled : Sampled m start)
    (counts : CountsSamples start chunk) :
    ∃ m', (m.ensureChannels tapeNumChannels chunk).correctTimestamp chunk =
      .ok (m', chunk, chunk.details.timestamp.toNat) ∧ Sampled m' start := by
  have hkept := sampled.kept counts
  obtain ⟨packet, number, hnumber⟩ := counts
  have hensure : m.ensureChannels tapeNumChannels chunk = m := by
    rw [ensureChannels, if_neg (by rw [sampled.oneOutput]; decide)]
  have hnone : m.numInputChannels = 0 := by
    rw [numInputChannels, sampled.noChannels]
    rfl
  rw [hensure, RtpMixer.correctTimestamp, if_pos packet.channel, hkept]
  simp only [hnone, ne_eq, not_true, false_and, if_false]
  refine ⟨_, rfl, sampled.oneOutput, ?_, ?_⟩
  · simp [modifyChannel, sampled.noChannels]
  · intro _
    split_ifs with hfirst
    · exact ⟨number, by rw [hnumber]⟩
    · exact sampled.remembered hfirst

theorem Sampled.places {place : Nat} (sampled : Sampled m start) (places : Places m m' place) :
    Sampled m' start where
  oneOutput := places.numOutputChannels.trans sampled.oneOutput
  noChannels := places.channels sampled.noChannels
  remembered := by
    rw [places.lastChunkS1, places.lastTimestampS1]
    exact sampled.remembered

theorem Sampled.step {tapeNumChannels : Int} (sampled : Sampled m start)
    (counts : CountsSamples start chunk)
    (step : Step tapeNumChannels m (.chunkIn (some chunk)) m') : Sampled m' start := by
  cases step with
  | thrown => exact sampled
  | chunkIn hin =>
      rcases audioChunkIn_cases hin with rfl | ⟨_, _, _, rfl⟩ | ⟨_, _, rfl⟩ |
        ⟨chunk', hinput, _, _, _, _, hcorrect, hplace⟩
      · exact sampled
      · exact ⟨sampled.oneOutput, sampled.noChannels, sampled.remembered⟩
      · exact sampled.places (createShipment_places tapeNumChannels m true 0)
      · obtain rfl := Option.some.inj hinput
        obtain ⟨corrected, hcorrect', sampled'⟩ := sampled.correctTimestamp tapeNumChannels counts
        obtain ⟨rfl, rfl, rfl⟩ := by simpa using hcorrect'.symm.trans hcorrect
        exact sampled'.places (placeChunk_places counts.1.channel rfl hplace)

theorem Sampled.run {tapeNumChannels : Int} {chunks : List AudioChunk} (sampled : Sampled m start)
    (counts : ∀ packet ∈ chunks, CountsSamples start packet)
    (run : Steps (Step tapeNumChannels) m (chunks.map (Call.chunkIn ∘ some)) m') :
    Sampled m' start := by
  induction chunks generalizing m with
  | nil =>
      cases run
      exact sampled
  | cons chunk rest ih =>
      cases run with
      | cons head following =>
          exact ih (sampled.step (counts chunk List.mem_cons_self) head)
            (fun packet hpacket => counts packet (List.mem_cons_of_mem _ hpacket)) following

/-- The packets of a stream that counts milliseconds all get their places in samples just when
none is lost before one that arrives. Those of a stream that counts samples keep their
timestamps. -/
theorem milliseconds_corrected_iff (tapeNumChannels : Int) (memory : Nat → Int16) :
    (∀ (start : UInt32) (arrivals : List (Nat × AudioChunk)), Arrives start 0 arrivals →
      (PlacedInSamples tapeNumChannels start (fresh 1 memory) (arrivals.map Prod.snd) ↔
        arrivals.map Prod.fst = List.range arrivals.length)) ∧
    (∀ (start : UInt32) (earlier : List AudioChunk) (chunk : AudioChunk) (m : RtpMixer),
      (∀ packet ∈ earlier, CountsSamples start packet) → CountsSamples start chunk →
      Steps (Step tapeNumChannels) (fresh 1 memory) (earlier.map (Call.chunkIn ∘ some)) m →
      ∃ m', (m.ensureChannels tapeNumChannels chunk).correctTimestamp chunk =
        .ok (m', chunk, chunk.details.timestamp.toNat)) := by
  constructor
  · intro start arrivals arrives
    rw [List.range_eq_range']
    exact (fresh_counting memory start).placed_iff tapeNumChannels arrives
  · intro start earlier chunk m hearlier counts run
    obtain ⟨m', hcorrect, _⟩ :=
      ((fresh_sampled memory start).run hearlier run).correctTimestamp tapeNumChannels counts
    exact ⟨m', hcorrect⟩

theorem arrives_first_two :
    Arrives 1000 0 [(0, packetAt 1000), (1, packetAt 1020)] :=
  ⟨Nat.le_refl _, packetAt_packet _, rfl, by decide, Nat.le_refl _, packetAt_packet _, rfl,
    by decide, trivial⟩

theorem milliseconds_corrected_two_packets :
    (PlacedInSamples 1 1000 (fresh 1 fun _ => 0) [packetAt 1000, packetAt 1020] ↔
      [0, 1] = List.range 2) ∧
    ∃ m', ((fresh 1 fun _ => 0).ensureChannels 1 (packetAt 1000)).correctTimestamp
      (packetAt 1000) = .ok (m', packetAt 1000, 1000) := by
  obtain ⟨hmilliseconds, hsamples⟩ := milliseconds_corrected_iff 1 fun _ => 0
  have hfirst : CountsSamples 1000 (packetAt 1000) := ⟨packetAt_packet _, 0, rfl⟩
  exact ⟨hmilliseconds 1000 [(0, packetAt 1000), (1, packetAt 1020)] arrives_first_two,
    hsamples 1000 [] (packetAt 1000) _ (fun _ hpacket => absurd hpacket List.not_mem_nil) hfirst
      (.nil _)⟩

/-- The third packet is lost: the fourth is left 60 samples after the first. -/
theorem not_corrected_after_loss : ¬ ∀ (tapeNumChannels : Int) (memory : Nat → Int16)
    (start : UInt32) (arrivals : List (Nat × AudioChunk)), Arrives start 0 arrivals →
    [0, 1] <+: arrivals.map Prod.fst →
    PlacedInSamples tapeNumChannels start (fresh 1 memory) (arrivals.map Prod.snd) := by
  intro hplaced
  have arrives : Arrives 1000 0 [(0, packetAt 1000), (1, packetAt 1020), (3, packetAt 1060)] :=
    ⟨Nat.le_refl _, packetAt_packet _, rfl, by decide, Nat.le_refl _, packetAt_packet _, rfl,
      by decide, by decide, packetAt_packet _, rfl, by decide, trivial⟩
  have placed := hplaced 1 (fun _ => 0) 1000 _ arrives ⟨[3], rfl⟩
  have hnumbers := ((fresh_counting (fun _ => 0) 1000).placed_iff 1 arrives).mp placed
  exact absurd hnumbers (by decide)

end OrkAudio.RtpMixer
