import OrkAudio.RtpMixer.Pointers

/-! What a mixer with two output channels delivers, against a timeline of both sides.

The mixed buffer and the buffers of the two channels are taken as one ring of frames. A
sample that is stored is added to the mono sample of its frame and replaces that of its own
side, so the timeline is rebuilt from who handed in what: each payload is kept with its
channel. -/

namespace OrkAudio

open Lib

/-- A sample of the mono output, of the even channels and of the odd ones. -/
structure Frame where
  mono : Int16
  even : Int16
  odd : Int16
  deriving DecidableEq, Repr

namespace Frame

def silence : Frame := ⟨0, 0, 0⟩

def mix (channel : UInt8) (sample : Int16) (old : Frame) : Frame where
  mono := mixInto sample old.mono
  even := if channel = 2 then sample else old.even
  odd := if channel = 1 then sample else old.odd

end Frame

namespace AudioChunk

/-- The sample at a place of a separate channel. -/
def channelSample (chunk : AudioChunk) (i j : Nat) : Int16 :=
  match chunk.channelAudio[i]? with
  | some (some memory) => memory j
  | _ => 0

def frame (chunk : AudioChunk) (j : Nat) : Frame :=
  ⟨chunk.buffer j, chunk.channelSample 0 j, chunk.channelSample 1 j⟩

/-- The chunk's own samples with those of its two channels. -/
def frames (chunk : AudioChunk) : List Frame := Ring.slice chunk.frame 0 chunk.numSamples

end AudioChunk

/-! ### The timeline of both sides -/

/-- Samples that were stored from a timestamp on, and the channel that they came on. -/
structure Payload where
  channel : UInt8
  timestamp : Nat
  samples : List Int16

def Payload.Covers (payload : Payload) (t : Nat) : Prop :=
  payload.timestamp ≤ t ∧ t < payload.timestamp + payload.samples.length

instance (payload : Payload) (t : Nat) : Decidable (payload.Covers t) :=
  inferInstanceAs (Decidable (_ ∧ _))

def Payload.sampleAt? (payload : Payload) (t : Nat) : Option Int16 :=
  if h : payload.Covers t then
    some (payload.samples.get ⟨t - payload.timestamp, by unfold Payload.Covers at h; omega⟩)
  else none

structure StereoSegment where
  start : Nat
  writeTimestamp : Nat
  copied : List Payload := []

namespace StereoSegment

/-- Mix the sample that a payload has at `t`, if any, into `old`. -/
def mixAt (t : Nat) (old : Frame) (payload : Payload) : Frame :=
  if h : payload.Covers t then
    Frame.mix payload.channel
      (payload.samples.get ⟨t - payload.timestamp, by unfold Payload.Covers at h; omega⟩) old
  else old

def frameAt (segment : StereoSegment) (t : Nat) : Frame :=
  segment.copied.foldl (mixAt t) .silence

/-- The sum of everything stored at `t`, clipped after each addition in the order of arrival. -/
def mixed (segment : StereoSegment) (t : Nat) : Int16 :=
  segment.copied.foldl (fun old payload =>
    match payload.sampleAt? t with
    | some sample => mixInto sample old
    | none => old) 0

/-- The last sample stored at `t` on a channel. -/
def saved (segment : StereoSegment) (channel : UInt8) (t : Nat) : Int16 :=
  segment.copied.foldl (fun old payload =>
    if payload.channel = channel then (payload.sampleAt? t).getD old else old) 0

theorem frameAt_eq (segment : StereoSegment) (t : Nat) :
    segment.frameAt t = ⟨segment.mixed t, segment.saved 2 t, segment.saved 1 t⟩ := by
  obtain ⟨start, stop, copied⟩ := segment
  unfold frameAt mixed saved
  suffices h : ∀ old : Frame, copied.foldl (mixAt t) old =
      ⟨copied.foldl (fun old payload =>
          match payload.sampleAt? t with
          | some sample => mixInto sample old
          | none => old) old.mono,
        copied.foldl (fun old payload =>
          if payload.channel = 2 then (payload.sampleAt? t).getD old else old) old.even,
        copied.foldl (fun old payload =>
          if payload.channel = 1 then (payload.sampleAt? t).getD old else old) old.odd⟩ from
    h .silence
  induction copied with
  | nil =>
      intro old
      rfl
  | cons payload copied ih =>
      intro old
      simp only [List.foldl_cons]
      rw [ih]
      by_cases hcovers : payload.Covers t
      · simp only [mixAt, Payload.sampleAt?, dif_pos hcovers, Frame.mix, Option.getD_some]
      · simp only [mixAt, Payload.sampleAt?, dif_neg hcovers, Option.getD_none, ite_self]

/-- No channel was stored twice at `t`. -/
def CoveredOnce (segment : StereoSegment) (t : Nat) : Prop :=
  ∀ channel, (segment.copied.filter fun payload =>
    payload.channel = channel ∧ payload.Covers t).length ≤ 1

/-- Past the end of everything copied there is silence. -/
theorem frameAt_silent {segment : StereoSegment} {t : Nat}
    (hpast : ∀ payload ∈ segment.copied, payload.timestamp + payload.samples.length ≤ t) :
    segment.frameAt t = .silence := by
  obtain ⟨start, stop, copied⟩ := segment
  unfold frameAt
  induction copied with
  | nil => rfl
  | cons payload copied ih =>
      have hhead := hpast payload List.mem_cons_self
      have hnot : ¬ payload.Covers t := fun covers => by
        have := covers.2
        omega
      rw [List.foldl_cons, mixAt, dif_neg hnot]
      exact ih fun later hlater => hpast later (List.mem_cons_of_mem _ hlater)

/-- Only what covers a place matters for its frame. -/
theorem frameAt_covering (segment : StereoSegment) (t : Nat) :
    segment.frameAt t =
      (segment.copied.filter fun payload => payload.Covers t).foldl (mixAt t) .silence := by
  obtain ⟨start, stop, copied⟩ := segment
  unfold frameAt
  generalize Frame.silence = old
  induction copied generalizing old with
  | nil => rfl
  | cons payload copied ih =>
      by_cases hcovers : payload.Covers t
      · rw [List.filter_cons_of_pos (by simpa using hcovers), List.foldl_cons, List.foldl_cons]
        exact ih _
      · rw [List.filter_cons_of_neg (by simpa using hcovers), List.foldl_cons, mixAt,
          dif_neg hcovers]
        exact ih old

end StereoSegment

/-- What a call did to the timeline and the channel of the chunk it was given. -/
abbrev Log := List (UInt8 × TimelineEvent)

/-- The finished segments and the one being written. -/
structure StereoTimeline where
  closed : List StereoSegment := []
  current : StereoSegment := { start := 0, writeTimestamp := 0 }

namespace StereoTimeline

def startAt (timeline : StereoTimeline) (timestamp : Nat) : StereoTimeline :=
  { closed := timeline.closed ++ [timeline.current]
    current := { start := timestamp, writeTimestamp := timestamp } }

def record (timeline : StereoTimeline) (entry : UInt8 × TimelineEvent) : StereoTimeline :=
  match entry.2 with
  | .opened timestamp => timeline.startAt timestamp
  | .reset timestamp => timeline.startAt timestamp
  | .zeroed writeTimestamp =>
      { timeline with current := { timeline.current with writeTimestamp := writeTimestamp } }
  | .copied timestamp samples =>
      { timeline with current :=
          { timeline.current with
            copied := timeline.current.copied ++ [⟨entry.1, timestamp, samples⟩] } }

def ofLog (log : Log) : StereoTimeline := log.foldl record {}

@[simp] theorem ofLog_append (log : Log) (entry : UInt8 × TimelineEvent) :
    ofLog (log ++ [entry]) = (ofLog log).record entry := by
  simp [ofLog]

/-- The places of the timeline up to a read timestamp: a segment and a timestamp in it. -/
def places (timeline : StereoTimeline) (readTimestamp : Nat) : List (StereoSegment × Nat) :=
  (timeline.closed.flatMap fun segment =>
    (Ring.stretch id segment.start (segment.writeTimestamp - segment.start)).map (segment, ·)) ++
  (Ring.stretch id timeline.current.start (readTimestamp - timeline.current.start)).map
    (timeline.current, ·)

/-- The frames at these places. -/
def delivered (timeline : StereoTimeline) (readTimestamp : Nat) : List Frame :=
  (timeline.closed.flatMap fun segment =>
    Ring.stretch segment.frameAt segment.start (segment.writeTimestamp - segment.start)) ++
  Ring.stretch timeline.current.frameAt timeline.current.start
    (readTimestamp - timeline.current.start)

theorem map_places (timeline : StereoTimeline) (readTimestamp : Nat) :
    (timeline.places readTimestamp).map (fun place => place.1.frameAt place.2) =
      timeline.delivered readTimestamp := by
  simp only [places, delivered, List.map_append, List.map_flatMap, List.map_map, Ring.stretch,
    Function.comp_def, id]

end StereoTimeline

/-! ### The ring of frames -/

/-- Where no channel was stored twice, the mono sample is the clipped sum of both sides. -/
theorem StereoSegment.mono_eq {segment : StereoSegment} {t : Nat}
    (hsides : ∀ payload ∈ segment.copied, payload.channel = 1 ∨ payload.channel = 2)
    (honce : segment.CoveredOnce t) :
    (segment.frameAt t).mono =
      saturate ((segment.frameAt t).even.toInt + (segment.frameAt t).odd.toInt) := by
  have hcovering : ∀ payload ∈ segment.copied.filter fun payload => payload.Covers t,
      payload.Covers t ∧ (payload.channel = 1 ∨ payload.channel = 2) := by
    intro payload hpayload
    obtain ⟨hmem, hcovers⟩ := List.mem_filter.mp hpayload
    exact ⟨by simpa using hcovers, hsides payload hmem⟩
  have hcount (channel : UInt8) : ((segment.copied.filter fun payload =>
      payload.Covers t).filter fun payload => payload.channel = channel).length ≤ 1 := by
    rw [List.filter_filter]
    simpa using honce channel
  rw [segment.frameAt_covering t]
  generalize (segment.copied.filter fun payload => payload.Covers t) = covering at *
  match covering with
  | [] => rfl
  | [first] =>
      obtain ⟨hcovers, hchannel⟩ := hcovering first List.mem_cons_self
      simp only [List.foldl_cons, List.foldl_nil, mixAt, dif_pos hcovers]
      rcases hchannel with hchannel | hchannel <;>
        simp [Frame.mix, Frame.silence, hchannel, saturate_toInt]
  | [first, second] =>
      obtain ⟨hcovers, hchannel⟩ := hcovering first List.mem_cons_self
      obtain ⟨hcovers', hchannel'⟩ := hcovering second (by simp)
      have hfirst := hcount first.channel
      simp only [List.foldl_cons, List.foldl_nil, mixAt, dif_pos hcovers, dif_pos hcovers']
      rcases hchannel with hchannel | hchannel <;> rcases hchannel' with hchannel' | hchannel' <;>
        simp_all [Frame.mix, Frame.silence, mixInto, saturate_toInt, Int.add_comm]
  | first :: second :: third :: rest =>
      -- two of the three would be on one channel
      obtain ⟨-, hchannel⟩ := hcovering first List.mem_cons_self
      obtain ⟨-, hchannel'⟩ := hcovering second (by simp)
      obtain ⟨-, hchannel''⟩ := hcovering third (by simp)
      have hone := hcount 1
      have htwo := hcount 2
      rcases hchannel with hchannel | hchannel <;> rcases hchannel' with hchannel' | hchannel' <;>
        rcases hchannel'' with hchannel'' | hchannel'' <;>
        simp [hchannel, hchannel', hchannel''] at hone htwo

namespace RtpMixer

/-- The buffer of a channel; one that is not created yet has a silent one. -/
def sideBuffer (m : RtpMixer) (i : Nat) : Nat → Int16 :=
  match m.channels[i]? with
  | some c => c.buffer
  | none => fun _ => 0

def frameBuffer (m : RtpMixer) (position : Nat) : Frame :=
  ⟨m.buffer position, m.sideBuffer 1 position, m.sideBuffer 0 position⟩

/-- The numbers of the channels. -/
def numbers (m : RtpMixer) : List Nat := m.channels.map RtpMixerChannel.channel

/-- Two outputs, and at most the channels 1 and 2. -/
structure TwoSided (m : RtpMixer) : Prop where
  twoOutputs : m.numOutputChannels = 2
  numbers : m.numbers = List.range' 1 m.numInputChannels
  atMostTwo : m.numInputChannels ≤ 2

theorem numInputChannels_of_numbers {m m' : RtpMixer} (hnumbers : m'.numbers = m.numbers) :
    m'.numInputChannels = m.numInputChannels := by
  have hlength := congrArg List.length hnumbers
  simpa [numbers, numInputChannels] using hlength

/-- The same numbers on the same outputs. -/
theorem TwoSided.of_numbers {m m' : RtpMixer} (sided : TwoSided m)
    (houtput : m'.numOutputChannels = m.numOutputChannels) (hnumbers : m'.numbers = m.numbers) :
    TwoSided m' := by
  have hcount := numInputChannels_of_numbers hnumbers
  exact ⟨houtput.trans sided.twoOutputs, by rw [hnumbers, hcount, sided.numbers],
    hcount ▸ sided.atMostTwo⟩

/-! #### What the two loops of `StoreRtpPacket` do to a frame -/

theorem frameBuffer_zeroSample (m : RtpMixer) :
    m.zeroSample.frameBuffer = Function.update m.frameBuffer m.writePtr .silence := by
  have hside (i : Nat) : m.zeroSample.sideBuffer i =
      Function.update (m.sideBuffer i) m.writePtr 0 := by
    simp only [sideBuffer, zeroSample, List.getElem?_map]
    cases m.channels[i]? with
    | none => exact (Function.update_eq_self m.writePtr fun _ => (0 : Int16)).symm
    | some c => rfl
  funext position
  by_cases hposition : position = m.writePtr
  · subst hposition
    simp only [frameBuffer, hside, Function.update_self]
    simp [zeroSample, Frame.silence]
  · simp only [frameBuffer, hside, Function.update_of_ne hposition]
    simp [zeroSample, hposition]

theorem frameBuffer_zeroSamples (count : Nat) (m : RtpMixer) :
    (zeroSamples count m).frameBuffer =
      Ring.sweep numSamplesCircularBuffer (fun _ _ => .silence) (List.replicate count ())
        m.writePtr m.frameBuffer := by
  induction count generalizing m with
  | zero => rfl
  | succ count ih =>
      rw [zeroSamples, ih, List.replicate_succ, Ring.sweep, frameBuffer_zeroSample]
      rfl

theorem numbers_zeroSamples (count : Nat) (m : RtpMixer) :
    (zeroSamples count m).numbers = m.numbers := by
  induction count generalizing m with
  | zero => rfl
  | succ count ih =>
      rw [zeroSamples, ih]
      simp [numbers, zeroSample, Function.comp_def]

/-- Storing a sample replaces it in the buffer of an existing channel, and in no other. -/
theorem sideBuffer_mixSample {m : RtpMixer} {chanIdx : Nat} (hexists : chanIdx < m.numInputChannels)
    (sample : Int16) (cell i : Nat) :
    (m.mixSample (chanIdx : Int) sample cell).sideBuffer i =
      if i = chanIdx then Function.update (m.sideBuffer i) cell sample else m.sideBuffer i := by
  simp only [sideBuffer, mixSample, Int.toNat_natCast, List.getElem?_modify]
  by_cases hi : i = chanIdx
  · subst hi
    rw [List.getElem?_eq_getElem hexists]
    simp
  · simp [hi, Ne.symm hi]

/-- A sample of a side whose channel exists. -/
theorem frameBuffer_mixSample {m : RtpMixer} {channel : UInt8} (hside : channel = 1 ∨ channel = 2)
    (hexists : channel.toNat ≤ m.numInputChannels) (sample : Int16) (cell : Nat) :
    (m.mixSample ((channel.toNat : Int) - 1) sample cell).frameBuffer =
      Function.update m.frameBuffer cell (Frame.mix channel sample (m.frameBuffer cell)) := by
  have hchanIdx : (channel.toNat : Int) - 1 = ((channel.toNat - 1 : Nat) : Int) := by
    rcases hside with rfl | rfl <;> rfl
  have hbuffer : ∀ i, (m.mixSample ((channel.toNat : Int) - 1) sample cell).sideBuffer i =
      if i = channel.toNat - 1 then Function.update (m.sideBuffer i) cell sample
      else m.sideBuffer i := by
    intro i
    rw [hchanIdx]
    apply sideBuffer_mixSample
    rcases hside with rfl | rfl <;> exact hexists
  funext position
  simp only [frameBuffer, hbuffer]
  by_cases hposition : position = cell
  · subst hposition
    rcases hside with rfl | rfl <;> simp [mixSample, Frame.mix]
  · rcases hside with rfl | rfl <;> simp [mixSample, frameBuffer, hposition]

theorem numbers_mixSamples (chanIdx : Int) (payload : List Int16) (cell : Nat) (m : RtpMixer) :
    (mixSamples chanIdx payload cell m).numbers = m.numbers := by
  induction payload generalizing cell m with
  | nil => rfl
  | cons sample payload ih =>
      rw [mixSamples, ih]
      apply List.ext_getElem
      · simp [numbers, mixSample]
      · intro i _ _
        by_cases hi : chanIdx.toNat = i <;> simp [numbers, mixSample, hi]

theorem frameBuffer_mixSamples {m : RtpMixer} {channel : UInt8}
    (hside : channel = 1 ∨ channel = 2) (hexists : channel.toNat ≤ m.numInputChannels)
    (payload : List Int16) (cell : Nat) :
    (mixSamples ((channel.toNat : Int) - 1) payload cell m).frameBuffer =
      Ring.sweep numSamplesCircularBuffer (Frame.mix channel) payload cell m.frameBuffer := by
  induction payload generalizing cell m with
  | nil => rfl
  | cons sample payload ih =>
      rw [mixSamples, ih, Ring.sweep, frameBuffer_mixSample hside hexists]
      simpa [numInputChannels, mixSample] using hexists

/-! #### What storing a chunk does to the ring -/

theorem frameBuffer_writeSilence (m : RtpMixer) (stop : Nat) :
    (m.writeSilence stop).frameBuffer =
      Ring.sweep numSamplesCircularBuffer (fun _ _ => .silence)
        (List.replicate (stop - m.writeTimestamp) ()) m.writePtr m.frameBuffer := by
  unfold writeSilence
  simp only
  split_ifs with hlater
  · rw [← frameBuffer_zeroSamples, show ((stop : Int) - m.writeTimestamp).toNat =
      stop - m.writeTimestamp by omega]
    rfl
  · rw [show stop - m.writeTimestamp = 0 by omega]
    rfl

theorem numbers_writeSilence (m : RtpMixer) (stop : Nat) :
    (m.writeSilence stop).numbers = m.numbers := by
  unfold writeSilence
  simp only
  split_ifs
  · exact numbers_zeroSamples _ m
  · rfl

theorem numbers_stored {m : RtpMixer} (aligned : Aligned m) {chunk : AudioChunk} {timestamp : Nat}
    (hfrom : m.readTimestamp ≤ timestamp)
    (hroom : timestamp + chunk.numSamples < m.readTimestamp + numSamplesCircularBuffer) :
    (m.stored chunk timestamp).numbers = m.numbers := by
  rw [stored_mixed aligned hfrom hroom]
  exact (numbers_mixSamples _ _ _ _).trans (numbers_writeSilence m _)

theorem frameBuffer_stored {m : RtpMixer} (aligned : Aligned m) {chunk : AudioChunk}
    {timestamp : Nat} (hside : chunk.details.channel = 1 ∨ chunk.details.channel = 2)
    (hexists : chunk.details.channel.toNat ≤ m.numInputChannels)
    (hfrom : m.readTimestamp ≤ timestamp)
    (hroom : timestamp + chunk.numSamples < m.readTimestamp + numSamplesCircularBuffer) :
    (m.stored chunk timestamp).frameBuffer =
      Ring.sweep numSamplesCircularBuffer (Frame.mix chunk.details.channel) chunk.samples
        (Ring.slot numSamplesCircularBuffer m.readPtr (timestamp - m.readTimestamp))
        (Ring.sweep numSamplesCircularBuffer (fun _ _ => .silence)
          (List.replicate (timestamp + chunk.numSamples - m.writeTimestamp) ())
          m.writePtr m.frameBuffer) := by
  have hcount := numInputChannels_of_numbers
    (numbers_writeSilence m (timestamp + chunk.numSamples))
  rw [stored_mixed aligned hfrom hroom, ← frameBuffer_writeSilence,
    ← frameBuffer_mixSamples hside (hcount ▸ hexists)]
  rfl

/-! #### What a shipped chunk carries -/

/-- Both channels of a slice, from the buffers of the mixer. -/
theorem tapeChannel_sides {m : RtpMixer} (sided : TwoSided m) (start j : Nat) :
    tapeChannel m.channels true start j = m.sideBuffer 1 (start + j) ∧
      tapeChannel m.channels false start j = m.sideBuffer 0 (start + j) := by
  obtain ⟨-, hnumbers, hmost⟩ := sided
  unfold numbers numInputChannels at *
  unfold tapeChannel sideBuffer
  match hchannels : m.channels with
  | [] => simp
  | [first] => 
      rw [hchannels] at hnumbers
      have hfirst : first.channel = 1 := by simpa using hnumbers
      simp [hfirst]
  | [first, second] =>
      rw [hchannels] at hnumbers
      have hboth : first.channel = 1 ∧ second.channel = 2 := by
        simpa [List.range'] using hnumbers
      simp [hboth.1, hboth.2]
  | _ :: _ :: _ :: _ => simp [hchannels] at hmost

/-- A slice of the two-sided mixer is a chunk with two channels. -/
theorem sliceChunk_eq {m : RtpMixer} (sided : TwoSided m) (start : Nat) {shortSize : Nat}
    (hsize : shortSize ≤ numSamplesCircularBuffer) (hsome : shortSize ≠ 0) :
    sliceChunk 2 m start shortSize =
      { details := m.shipmentDetails shortSize
        buffer := fun i => m.buffer (start + i)
        channelAudio := [some (tapeChannel m.channels true start),
          some (tapeChannel m.channels false start)] } := by
  have hbytes := m.shipmentDetails_numBytes hsize
  have hnonzero : (m.shipmentDetails shortSize).numBytes ≠ 0 := by
    intro hnone
    rw [hnone] at hbytes
    simp only [UInt32.toNat_zero] at hbytes
    omega
  have hplain : ¬ m.numOutputChannels = 1 := by rw [sided.twoOutputs]; decide
  have htwo : (if (2 : Int) ≠ m.numInputChannels then
      (AudioChunk.withChannels 2).setBuffer (fun i => m.buffer (start + i))
        (m.shipmentDetails shortSize)
      else (if m.numInputChannels ≠ 0 then AudioChunk.withChannels m.numInputChannels
        else AudioChunk.plain).setBuffer (fun i => m.buffer (start + i))
          (m.shipmentDetails shortSize)) =
      (AudioChunk.withChannels 2).setBuffer (fun i => m.buffer (start + i))
        (m.shipmentDetails shortSize) := by
    split_ifs with hcount hsome
    · rfl
    · rw [show m.numInputChannels = 2 by omega]
    · omega
  unfold sliceChunk handleMixedOutput
  simp only [sided.twoOutputs, if_true, show ¬ (2 : Int) = 1 by decide,
    show ¬ (2 : Int) ≤ 1 by decide, if_false]
  rw [show Int.toNat 2 = 2 from rfl, htwo]
  simp only [AudioChunk.setBuffer, if_neg hnonzero, AudioChunk.setChannelBuffer,
    AudioChunk.withChannels]
  rfl

theorem carries_frames {m : RtpMixer} (sided : TwoSided m) :
    Carries 2 m AudioChunk.frames m.frameBuffer := by
  intro start shortSize hsize hsome
  rw [sliceChunk_eq sided start hsize hsome]
  have hsamples : (m.shipmentDetails shortSize).numBytes.toNat / 2 = shortSize := by
    rw [m.shipmentDetails_numBytes hsize, Nat.mul_div_cancel _ Nat.zero_lt_two]
  simp only [AudioChunk.frames, AudioChunk.numSamples, hsamples, Ring.slice, Nat.zero_add]
  apply List.map_congr_left
  intro j _
  obtain ⟨heven, hodd⟩ := tapeChannel_sides sided start j
  simp only [AudioChunk.frame, AudioChunk.channelSample, List.getElem?_cons_zero,
    List.getElem?_cons_succ, heven, hodd, frameBuffer]

/-! #### Channels that are created and timestamps that are corrected -/

/-- A chunk of a side finds its channel, and its buffer is silent where it is new. -/
theorem ensureChannels_sides {m : RtpMixer} (sided : TwoSided m) {chunk : AudioChunk}
    (hside : chunk.details.channel = 1 ∨ chunk.details.channel = 2) :
    TwoSided (m.ensureChannels 2 chunk) ∧
      (m.ensureChannels 2 chunk).frameBuffer = m.frameBuffer ∧
      chunk.details.channel.toNat ≤ (m.ensureChannels 2 chunk).numInputChannels := by
  have htwo : chunk.details.channel.toNat ≤ 2 := by rcases hside with h | h <;> rw [h] <;> decide
  unfold ensureChannels createChannels
  rw [if_pos sided.twoOutputs, if_neg (by rw [sided.twoOutputs]; decide), if_neg (by decide)]
  split_ifs with hcreated
  · exact ⟨sided, rfl, hcreated⟩
  · have hnew (first count i : Nat) :
        (match ((List.range' first count).map fun i =>
            ({ channel := i + 1 } : RtpMixerChannel))[i]? with
          | some c => c.buffer
          | none => fun _ => 0) = fun _ => 0 := by
      rw [List.getElem?_map]
      cases (List.range' first count)[i]? <;> rfl
    have hbuffer (i : Nat) : ({ m with
        channels := m.channels ++
          (List.range' m.numInputChannels (chunk.details.channel.toNat - m.numInputChannels)).map
            fun i => { channel := i + 1 } } : RtpMixer).sideBuffer i = m.sideBuffer i := by
      unfold sideBuffer
      by_cases hi : i < m.channels.length
      · rw [List.getElem?_append_left hi]
      · rw [List.getElem?_append_right (by omega), hnew, List.getElem?_eq_none (by omega)]
    refine ⟨⟨sided.twoOutputs, ?_, ?_⟩, ?_, ?_⟩
    · have hnumbers := sided.numbers
      unfold numbers numInputChannels at *
      simp only [List.map_append, List.map_map, hnumbers, List.length_append, List.length_map,
        List.length_range', Function.comp_def]
      rw [← List.range'_append_1, Nat.add_comm 1]
      congr 1
      exact List.range'_succ_left.symm
    · unfold numInputChannels at *
      simp only [List.length_append, List.length_map, List.length_range']
      omega
    · funext position
      simp only [frameBuffer, hbuffer]
    · unfold numInputChannels at *
      simp only [List.length_append, List.length_map, List.length_range']
      omega

/-- What changes of a channel neither its number nor its buffer changes no frame. -/
theorem modifyChannel_sides (m : RtpMixer) (chanIdx : Int) {f : RtpMixerChannel → RtpMixerChannel}
    (hchannel : ∀ c, (f c).channel = c.channel) (hbuffer : ∀ c, (f c).buffer = c.buffer) :
    (m.modifyChannel chanIdx f).frameBuffer = m.frameBuffer ∧
      (m.modifyChannel chanIdx f).numbers = m.numbers := by
  have hside (i : Nat) : (m.modifyChannel chanIdx f).sideBuffer i = m.sideBuffer i := by
    simp only [sideBuffer, modifyChannel, List.getElem?_modify]
    cases m.channels[i]? with
    | none => rfl
    | some c =>
        by_cases hi : chanIdx.toNat = i <;> simp [hi, hbuffer]
  constructor
  · funext position
    simp only [frameBuffer, hside]
    rfl
  · apply List.ext_getElem
    · simp [numbers, modifyChannel]
    · intro i _ _
      by_cases hi : chanIdx.toNat = i <;> simp [numbers, modifyChannel, hi, hchannel]

theorem correctTimestamp_sides {m m' : RtpMixer} {chunk chunk' : AudioChunk} {timestamp : Nat}
    (hcorrect : m.correctTimestamp chunk = .ok (m', chunk', timestamp)) :
    m'.frameBuffer = m.frameBuffer ∧ m'.numbers = m.numbers := by
  have hmodify (chanIdx : Int) (f : RtpMixerChannel → RtpMixerChannel)
      (hchannel : ∀ c, (f c).channel = c.channel) (hbuffer : ∀ c, (f c).buffer = c.buffer) :=
    m.modifyChannel_sides chanIdx hchannel hbuffer
  unfold correctTimestamp at hcorrect
  simp only at hcorrect
  split_ifs at hcorrect with hfirst hmissing hsecond hmissing' hopen hrealign hseparate
  · obtain ⟨rfl, -, -⟩ := by simpa using hcorrect
    exact hmodify 0 _ (fun _ => rfl) (fun _ => rfl)
  · obtain ⟨rfl, -, -⟩ := by simpa using hcorrect
    exact hmodify 1 _ (fun _ => rfl) (fun _ => rfl)
  · obtain ⟨rfl, -, -⟩ := by simpa using hcorrect
    exact hmodify 1 _ (fun _ => rfl) (fun _ => rfl)
  · obtain ⟨rfl, -, -⟩ := by simpa using hcorrect
    exact hmodify 1 _ (fun _ => rfl) (fun _ => rfl)
  · split at hcorrect
    · cases hcorrect
    · obtain ⟨rfl, -, -⟩ := by simpa using hcorrect
      exact hmodify _ _ (fun _ => rfl) (fun _ => rfl)
  · obtain ⟨rfl, -, -⟩ := by simpa using hcorrect
    exact ⟨rfl, rfl⟩

/-! ### The invariant -/

/-- The output queue carries the timeline up to the read timestamp, the ring the rest. -/
structure Agrees (m : RtpMixer) (timeline : StereoTimeline) : Prop where
  aligned : Aligned m
  sided : TwoSided m
  starts : timeline.current.start ≤ m.readTimestamp
  reaches : timeline.current.writeTimestamp = m.writeTimestamp
  within : ∀ payload ∈ timeline.current.copied,
    payload.timestamp + payload.samples.length ≤ m.writeTimestamp
  sides : ∀ segment ∈ timeline.closed ++ [timeline.current], ∀ payload ∈ segment.copied,
    payload.channel = 1 ∨ payload.channel = 2
  ring : Ring.Holds numSamplesCircularBuffer m.frameBuffer m.readPtr m.readTimestamp
    m.writeTimestamp timeline.current.frameAt
  twoChannels : ∀ chunk ∈ m.outputQueue, ∃ even odd, chunk.channelAudio = [some even, some odd]
  output : m.outputQueue.flatMap AudioChunk.frames = timeline.delivered m.readTimestamp

theorem fresh_agrees (memory : Nat → Int16) : Agrees (fresh 2 memory) {} where
  aligned := fresh_aligned 2 memory
  sided := ⟨rfl, rfl, Nat.zero_le _⟩
  starts := le_refl _
  reaches := rfl
  within := by simp
  sides := by simp
  ring := .empty _ _ _ _
  twoChannels := by simp [fresh]
  output := rfl

namespace Agrees

variable {m m' : RtpMixer} {timeline : StereoTimeline}

/-- What is remembered of chunks and the corrective deltas do not matter. -/
theorem untouched (agrees : Agrees m timeline) (same : Untouched m m') (sided : TwoSided m')
    (hframes : m'.frameBuffer = m.frameBuffer) : Agrees m' timeline where
  aligned := agrees.aligned.untouched same
  sided := sided
  starts := by rw [same.readTimestamp]; exact agrees.starts
  reaches := by rw [same.writeTimestamp]; exact agrees.reaches
  within := by rw [same.writeTimestamp]; exact agrees.within
  sides := agrees.sides
  ring := by
    rw [hframes, same.readPtr, same.readTimestamp, same.writeTimestamp]
    exact agrees.ring
  twoChannels := by rw [same.outputQueue]; exact agrees.twoChannels
  output := by rw [same.outputQueue, same.readTimestamp]; exact agrees.output

/-- A shipment takes the next stretch of the timeline from the ring to the queue. -/
theorem ship (agrees : Agrees m timeline) (force : Bool)
    (hforce : force = true ∨ numSamplesShipmentHoldoff ≤ m.usedSpace) :
    Agrees (createShipment 2 m 0 force) timeline := by
  obtain ⟨shipped, pieces, heq⟩ := createShipment_pieces 2 agrees.aligned force hforce
  have hship : Move 2 m (createShipment 2 m 0 force) := .ship force hforce
  have haligned := agrees.aligned.move hship
  have hordered := agrees.aligned.ordered
  have hwindow := agrees.aligned.window
  have hstarts := agrees.starts
  have hsize : m.shipmentSize force ≤ m.writeTimestamp - m.readTimestamp := by
    unfold shipmentSize
    split <;> omega
  have hchunks := pieces.carries (carries_frames agrees.sided)
  rw [agrees.ring.window (by omega)] at hchunks
  rw [heq] at haligned ⊢
  refine ⟨haligned, ⟨agrees.sided.twoOutputs, agrees.sided.numbers, agrees.sided.atMostTwo⟩, ?_,
    agrees.reaches, agrees.within, agrees.sides, ?_, ?_, ?_⟩
  · exact Nat.le_add_right_of_le hstarts
  · have hadvance := agrees.ring.advance agrees.aligned.readPtr_lt
      (Nat.le_add_right m.readTimestamp (m.shipmentSize force)) (by omega)
    rwa [Nat.add_sub_cancel_left] at hadvance
  · intro chunk hchunk
    rcases List.mem_append.mp hchunk with hearlier | hnew
    · exact agrees.twoChannels chunk hearlier
    · obtain ⟨start, shortSize, hshort, hsome, rfl⟩ := pieces.sliced chunk hnew
      rw [sliceChunk_eq agrees.sided start hshort hsome]
      exact ⟨_, _, rfl⟩
  · simp only [List.flatMap_append, agrees.output, hchunks, StereoTimeline.delivered,
      List.append_assoc]
    congr 1
    have hsplit := Ring.stretch_append timeline.current.frameAt timeline.current.start
      (m.readTimestamp - timeline.current.start) (m.shipmentSize force)
    rw [Nat.add_sub_cancel' hstarts] at hsplit
    rw [← hsplit, ← Nat.sub_add_comm hstarts]

/-- A new segment starts with an empty ring, once everything is shipped. -/
theorem restart (agrees : Agrees m timeline) (hshipped : m.readTimestamp = m.writeTimestamp)
    (aligned : Aligned m') (sided : TwoSided m') {timestamp : Nat}
    (hread : m'.readTimestamp = timestamp) (hwrite : m'.writeTimestamp = timestamp)
    (hqueue : m'.outputQueue = m.outputQueue) : Agrees m' (timeline.startAt timestamp) where
  aligned := aligned
  sided := sided
  starts := hread.ge
  reaches := hwrite.symm
  within := by simp [StereoTimeline.startAt]
  sides := by
    intro segment hsegment
    rcases List.mem_append.mp hsegment with hclosed | hcurrent
    · exact agrees.sides segment hclosed
    · obtain rfl := List.mem_singleton.mp hcurrent
      simp [StereoTimeline.startAt]
  ring := by
    rw [hread, hwrite]
    exact .empty _ _ _ _
  twoChannels := by rw [hqueue]; exact agrees.twoChannels
  output := by
    rw [hqueue, agrees.output, hread]
    simp [StereoTimeline.delivered, StereoTimeline.startAt, Ring.stretch, agrees.reaches, hshipped]

/-- The ring after a chunk is stored: silence first, then the samples. -/
theorem stored_ring (agrees : Agrees m timeline) {chunk : AudioChunk} {timestamp : Nat}
    (hside : chunk.details.channel = 1 ∨ chunk.details.channel = 2)
    (hexists : chunk.details.channel.toNat ≤ m.numInputChannels)
    (hfrom : m.readTimestamp ≤ timestamp)
    (hroom : timestamp + chunk.numSamples < m.readTimestamp + numSamplesCircularBuffer) :
    Ring.Holds numSamplesCircularBuffer (m.stored chunk timestamp).frameBuffer m.readPtr
      m.readTimestamp (max m.writeTimestamp (timestamp + chunk.numSamples))
      fun t => StereoSegment.mixAt t (timeline.current.frameAt t)
        ⟨chunk.details.channel, timestamp, chunk.samples⟩ := by
  have hread := agrees.aligned.readPtr_lt
  have hordered := agrees.aligned.ordered
  have hwindow := agrees.aligned.window
  rw [frameBuffer_stored agrees.aligned hside hexists hfrom hroom, agrees.aligned.writePtr]
  have hsilent : ∀ i, timeline.current.frameAt (m.writeTimestamp + i) = .silence := by
    intro i
    apply StereoSegment.frameAt_silent
    intro payload hpayload
    exact (agrees.within payload hpayload).trans (Nat.le_add_right _ _)
  have hzeroed := agrees.ring.extend hread hordered (fun _ _ => Frame.silence)
    (List.replicate (timestamp + chunk.numSamples - m.writeTimestamp) ())
    (by rw [List.length_replicate]; omega) (fun i _ _ => (hsilent i).symm)
  rw [List.length_replicate, show m.writeTimestamp +
    (timestamp + chunk.numSamples - m.writeTimestamp) =
    max m.writeTimestamp (timestamp + chunk.numSamples) by omega] at hzeroed
  have hlength := chunk.samples_length
  have hmixed := hzeroed.inside hread (by omega) (Frame.mix chunk.details.channel) chunk.samples
    hfrom (by omega)
  refine hmixed.congr ?_
  intro t _ _
  rfl

/-- The events that storing a chunk adds to the history. -/
theorem stored_log (aligned : Aligned m) {chunk : AudioChunk} {timestamp : Nat}
    (hreaches : timeline.current.writeTimestamp = m.writeTimestamp)
    (hfrom : m.readTimestamp ≤ timestamp)
    (hroom : timestamp + chunk.numSamples < m.readTimestamp + numSamplesCircularBuffer) :
    ∃ new, (m.stored chunk timestamp).history = m.history ++ new ∧
      (new.map (chunk.details.channel, ·)).foldl StereoTimeline.record timeline =
        { closed := timeline.closed
          current :=
            { start := timeline.current.start
              writeTimestamp := max m.writeTimestamp (timestamp + chunk.numSamples)
              copied := timeline.current.copied ++
                [⟨chunk.details.channel, timestamp, chunk.samples⟩] } } := by
  rw [(stored_contents aligned hfrom hroom).2]
  split_ifs with hlater
  · refine ⟨[.zeroed _, .copied _ _], by rw [List.append_assoc]; rfl, ?_⟩
    rw [max_eq_right hlater.le]
    rfl
  · refine ⟨[.copied _ _], rfl, ?_⟩
    rw [max_eq_left (not_lt.mp hlater), ← hreaches]
    rfl

/-- Storing a chunk inside the window keeps the queue and adds the chunk to the ring. -/
theorem store (agrees : Agrees m timeline) {chunk : AudioChunk} {timestamp : Nat}
    (hside : chunk.details.channel = 1 ∨ chunk.details.channel = 2)
    (hexists : chunk.details.channel.toNat ≤ m.numInputChannels)
    (hfrom : m.readTimestamp ≤ timestamp)
    (hroom : timestamp + chunk.numSamples < m.readTimestamp + numSamplesCircularBuffer)
    (hword : timestamp + chunk.numSamples < 4294967296) :
    ∃ new, (m.stored chunk timestamp).history = m.history ++ new ∧
      Agrees (m.stored chunk timestamp)
        ((new.map (chunk.details.channel, ·)).foldl StereoTimeline.record timeline) := by
  obtain ⟨new, hhistory, htimeline⟩ := stored_log agrees.aligned agrees.reaches hfrom hroom
  refine ⟨new, hhistory, ?_⟩
  rw [htimeline]
  have hmove : Move 2 m (m.stored chunk timestamp) := .store chunk timestamp hfrom hroom hword
  have haligned := agrees.aligned.move hmove
  have hring := agrees.stored_ring hside hexists hfrom hroom
  have hnumbers := numbers_stored agrees.aligned hfrom hroom
  obtain ⟨channels, history, buffer, -, hstored⟩ := m.stored_eq chunk timestamp
  have hread : (m.stored chunk timestamp).readTimestamp = m.readTimestamp := by rw [hstored]
  have hwrite : (m.stored chunk timestamp).writeTimestamp =
      max m.writeTimestamp (timestamp + chunk.numSamples) := by rw [hstored]
  have hqueue : (m.stored chunk timestamp).outputQueue = m.outputQueue := by rw [hstored]
  have hline (t : Nat) : StereoSegment.frameAt
      { start := timeline.current.start
        writeTimestamp := max m.writeTimestamp (timestamp + chunk.numSamples)
        copied := timeline.current.copied ++
          [⟨chunk.details.channel, timestamp, chunk.samples⟩] } t =
      StereoSegment.mixAt t (timeline.current.frameAt t)
        ⟨chunk.details.channel, timestamp, chunk.samples⟩ := by
    simp [StereoSegment.frameAt]
  refine ⟨haligned, agrees.sided.of_numbers (by rw [hstored]) hnumbers, ?_, hwrite.symm, ?_, ?_,
    ?_, ?_, ?_⟩
  · rw [hread]
    exact agrees.starts
  · rw [hwrite]
    intro payload hpayload
    rcases List.mem_append.mp hpayload with hearlier | hnew
    · exact (agrees.within payload hearlier).trans (Nat.le_max_left _ _)
    · obtain rfl := List.mem_singleton.mp hnew
      rw [chunk.samples_length]
      exact Nat.le_max_right _ _
  · intro segment hsegment payload hpayload
    rcases List.mem_append.mp hsegment with hclosed | hcurrent
    · exact agrees.sides segment (List.mem_append_left _ hclosed) payload hpayload
    · obtain rfl := List.mem_singleton.mp hcurrent
      rcases List.mem_append.mp hpayload with hearlier | hnew
      · exact agrees.sides timeline.current (List.mem_append_right _ (.head _)) payload hearlier
      · obtain rfl := List.mem_singleton.mp hnew
        exact hside
  · rw [hread, hwrite, show (m.stored chunk timestamp).readPtr = m.readPtr by rw [hstored]]
    exact hring.congr fun t _ _ => (hline t).symm
  · rw [hqueue]
    exact agrees.twoChannels
  · -- what has been shipped lies before the chunk
    rw [hqueue, hread, agrees.output]
    unfold StereoTimeline.delivered
    congr 1
    apply Ring.stretch_congr
    intro t _ ht
    have hstarts := agrees.starts
    have hbefore : ¬ Payload.Covers ⟨chunk.details.channel, timestamp, chunk.samples⟩ t := by
      intro covers
      have hle : timestamp ≤ t := covers.1
      omega
    rw [hline, StereoSegment.mixAt, dif_neg hbefore]

end Agrees

/-! ### Runs -/

/-- A mixer, and what was done to the timeline with the channels of the chunks. -/
structure Recording where
  mixer : RtpMixer
  log : Log := []

namespace Recording

def timeline (s : Recording) : StereoTimeline := .ofLog s.log

/-- The channel of a chunk that is handed in. -/
def channelOf : Option AudioChunk → UInt8
  | some chunk => chunk.details.channel
  | none => 0

/-- A chunk is handed in; what the call adds to the history is recorded with its channel. -/
inductive Hands : Recording → Option AudioChunk → Recording → Prop
  | chunkIn {s : Recording} {input : Option AudioChunk} {m' : RtpMixer} :
      Step 2 s.mixer (.chunkIn input) m' →
      Hands s input ⟨m', s.log ++
        (m'.history.drop s.mixer.history.length).map (channelOf input, ·)⟩

/-- Chunks of the two sides, or the end of the stream. -/
def OnSides (input : Option AudioChunk) : Prop :=
  ∀ chunk ∈ input, chunk.details.marker = mediaChunkEosMarker ∨
    chunk.details.channel = 1 ∨ chunk.details.channel = 2

/-- The chunk is one of the sides and does not fill the ring. -/
def Regular (s : Recording) (input : Option AudioChunk) : Prop :=
  OnSides input ∧ (Call.chunkIn input).KeepsRoom 2 s.mixer

instance (input : Option AudioChunk) : Decidable (OnSides input) :=
  inferInstanceAs (Decidable (∀ chunk ∈ input, _))

instance (s : Recording) (input : Option AudioChunk) : Decidable (s.Regular input) :=
  inferInstanceAs (Decidable (_ ∧ _))

end Recording

/-- During a call: the events added so far, recorded for the channel of its chunk. -/
def During (s : Recording) (channel : UInt8) (m : RtpMixer) : Prop :=
  channel.toNat ≤ m.numInputChannels ∧
    ∃ new, m.history = s.mixer.history ++ new ∧
      Agrees m ((new.map (channel, ·)).foldl StereoTimeline.record s.timeline)

theorem During.kept (s : Recording) {channel : UInt8} (hside : channel = 1 ∨ channel = 2) :
    Kept 2 channel (During s channel) where
  aligned during := by
    obtain ⟨-, new, -, agrees⟩ := during
    exact agrees.aligned
  ship force during hforce := by
    obtain ⟨hexists, new, hhistory, agrees⟩ := during
    obtain ⟨shipped, -, heq⟩ := createShipment_eq 2 agrees.aligned force hforce
    refine ⟨?_, new, ?_, agrees.ship force hforce⟩
    · rw [heq]
      exact hexists
    · rw [heq]
      exact hhistory
  opened timestamp during hzero hword := by
    obtain ⟨hexists, new, hhistory, agrees⟩ := during
    refine ⟨hexists, new ++ [.opened timestamp], ?_, ?_⟩
    · rw [openAt, hhistory, List.append_assoc]
    · have hordered := agrees.aligned.ordered
      have hmove : Move 2 _ _ := .opened timestamp hzero hword
      rw [List.map_append, List.foldl_append]
      exact agrees.restart (by omega) (agrees.aligned.move hmove)
        (agrees.sided.of_numbers rfl rfl) rfl rfl rfl
  reset timestamp during hshipped hword := by
    obtain ⟨hexists, new, hhistory, agrees⟩ := during
    refine ⟨hexists, new ++ [.reset timestamp], ?_, ?_⟩
    · rw [RtpMixer.reset, hhistory, List.append_assoc]
    · have hmove : Move 2 _ _ := .reset timestamp hshipped hword
      rw [List.map_append, List.foldl_append]
      exact agrees.restart hshipped (agrees.aligned.move hmove)
        (agrees.sided.of_numbers rfl rfl) rfl rfl rfl
  store during hchannel hfrom hroom hword := by
    obtain ⟨hexists, new, hhistory, agrees⟩ := during
    subst hchannel
    obtain ⟨added, hadded, stored⟩ := agrees.store hside hexists hfrom hroom hword
    refine ⟨?_, new ++ added, ?_, ?_⟩
    · rw [numInputChannels_of_numbers (numbers_stored agrees.aligned hfrom hroom)]
      exact hexists
    · rw [hadded, hhistory, List.append_assoc]
    · rw [List.map_append, List.foldl_append]
      exact stored
  delta delta during := by
    obtain ⟨hexists, new, hhistory, agrees⟩ := during
    refine ⟨hexists, new, hhistory, agrees.untouched ?_ (agrees.sided.of_numbers rfl rfl) rfl⟩
    constructor <;> simp +contextual
  channelDelta chanIdx delta during := by
    obtain ⟨hexists, new, hhistory, agrees⟩ := during
    obtain ⟨hframes, hnumbers⟩ := modifyChannel_sides _ chanIdx
      (f := fun c => { c with timestampCorrectiveDelta := delta }) (fun _ => rfl) (fun _ => rfl)
    refine ⟨?_, new, hhistory,
      agrees.untouched ?_ (agrees.sided.of_numbers rfl hnumbers) hframes⟩
    · rw [numInputChannels_of_numbers hnumbers]
      exact hexists
    · constructor <;> simp +contextual [modifyChannel]

namespace Recording

/-- A call keeps the queue and the ring on the timeline. -/
theorem agrees_step {s s' : Recording} {input : Option AudioChunk}
    (agrees : Agrees s.mixer s.timeline) (regular : s.Regular input) (hands : Hands s input s') :
    Agrees s'.mixer s'.timeline := by
  have same {m' : RtpMixer} (hhistory : m'.history = s.mixer.history)
      (agrees' : Agrees m' s.timeline) : Agrees m' (StereoTimeline.ofLog (s.log ++
        (m'.history.drop s.mixer.history.length).map (channelOf input, ·))) := by
    rw [hhistory, List.drop_length, List.map_nil, List.append_nil]
    exact agrees'
  obtain ⟨step⟩ := hands
  obtain ⟨onSides, room⟩ := regular
  cases step with
  | thrown => exact same rfl agrees
  | chunkIn hin =>
      have hside : ∀ chunk ∈ input, s.mixer.Admits chunk →
          chunk.details.channel = 1 ∨ chunk.details.channel = 2 := by
        intro chunk hchunk hadmits
        exact (onSides chunk hchunk).resolve_left hadmits.2.1
      have hkept := audioChunkIn_kept (During s)
        (fun chunk hchunk hadmits => During.kept s (hside chunk hchunk hadmits)) ?_ room hin
      · rcases hkept with rfl | ⟨chunk, -, -, rfl⟩ | rfl | ⟨chunk, hchunk, -, during⟩
        · exact same rfl agrees
        · obtain ⟨⟨hread, hordered, hwindow, hword, hwrite, htrigger, hholdoff⟩, sided, starts,
            reaches, within, sides, ring, twoChannels, output⟩ := agrees
          exact same rfl ⟨⟨hread, hordered, hwindow, hword, hwrite, htrigger, hholdoff⟩,
            sided.of_numbers rfl rfl, starts, reaches, within, sides, ring, twoChannels, output⟩
        · obtain ⟨shipped, -, heq⟩ := createShipment_eq 2 agrees.aligned true (.inl rfl)
          exact same (by rw [heq]) (agrees.ship true (.inl rfl))
        · obtain ⟨-, new, hhistory, agrees'⟩ := during
          obtain rfl : input = some chunk := hchunk
          simp only [Recording.timeline, StereoTimeline.ofLog, List.foldl_append, hhistory,
            List.drop_left]
          exact agrees'
      · intro chunk hchunk hadmits corrected chunk' timestamp hcorrect
        obtain ⟨sided, hframes, hexists⟩ :=
          ensureChannels_sides agrees.sided (hside chunk hchunk hadmits)
        obtain ⟨hframes', hnumbers⟩ := correctTimestamp_sides hcorrect
        have hsame := (correctTimestamp_frame hcorrect).1
        have hsame' := (s.mixer.ensureChannels_untouched 2 chunk).trans hsame
        refine ⟨?_, [], ?_, agrees.untouched hsame' ?_ (hframes'.trans hframes)⟩
        · rw [numInputChannels_of_numbers hnumbers]
          exact hexists
        · rw [hsame'.history, List.append_nil]
        · exact sided.of_numbers hsame.numOutputChannels hnumbers

/-- In every run of a fresh mixer, the queue and the ring are on the timeline. -/
theorem run_agrees {memory : Nat → Int16} {inputs : List (Option AudioChunk)} {s : Recording}
    (run : Steps (Guarded Regular Hands) ⟨fresh 2 memory, []⟩ inputs s) :
    Agrees s.mixer s.timeline := by
  apply run.invariant
  · rintro s input s' agrees ⟨regular, hands⟩
    exact agrees_step agrees regular hands
  · exact fresh_agrees memory

/-- Every run of chunks of both sides goes on. -/
theorem run_continues {memory : Nat → Int16} {inputs : List (Option AudioChunk)} {s : Recording}
    (run : Steps (Guarded Regular Hands) ⟨fresh 2 memory, []⟩ inputs s)
    {input : Option AudioChunk} (onSides : OnSides input) : ∃ s', Hands s input s' := by
  have agrees := run_agrees run
  have bounded : Bounded 2 s.mixer := by
    refine ⟨agrees.aligned.readPtr_lt, ?_, agrees.aligned.holdoff,
      .inr ⟨agrees.sided.twoOutputs, by decide⟩⟩
    rw [agrees.aligned.writePtr]
    exact Ring.slot_lt agrees.aligned.readPtr_lt agrees.aligned.window.le
  by_cases hadmits : ∃ chunk ∈ input, s.mixer.Admits chunk
  · obtain ⟨chunk, rfl, hadmits⟩ := hadmits
    have hchannel : chunk.details.channel ≠ 0 := by
      rcases (onSides chunk rfl).resolve_left hadmits.2.1 with h | h <;> rw [h] <;> decide
    obtain ⟨m', hin⟩ := bounded.takes hadmits (.inl hchannel)
    exact ⟨_, .chunkIn (.chunkIn hin)⟩
  · cases hin : s.mixer.audioChunkIn 2 input with
    | ok m' => exact ⟨_, .chunkIn (.chunkIn hin)⟩
    | error e =>
        refine ⟨_, .chunkIn (.thrown hin ?_)⟩
        rintro rfl
        exact hadmits (audioChunkIn_channelIndex hin)

/-- Everything that a mixer with two outputs ships, sample by sample: the mono sample is the
clipped sum of what both sides stored at that place, the two channels have the last sample of
their own side. Where no side stored twice, the mono sample is the clipped sum of both. -/
theorem stereo_agrees {memory : Nat → Int16} {inputs : List (Option AudioChunk)} {s : Recording}
    (run : Steps (Guarded Regular Hands) ⟨fresh 2 memory, []⟩ inputs s) :
    (∀ chunk ∈ s.mixer.outputQueue, ∃ even odd, chunk.channelAudio = [some even, some odd]) ∧
      s.mixer.outputQueue.flatMap AudioChunk.frames =
        (s.timeline.places s.mixer.readTimestamp).map (fun place =>
          ⟨place.1.mixed place.2, place.1.saved 2 place.2, place.1.saved 1 place.2⟩) ∧
      ∀ place ∈ s.timeline.places s.mixer.readTimestamp, place.1.CoveredOnce place.2 →
        place.1.mixed place.2 =
          saturate ((place.1.saved 2 place.2).toInt + (place.1.saved 1 place.2).toInt) := by
  have agrees := run_agrees run
  refine ⟨agrees.twoChannels, ?_, ?_⟩
  · simp only [← StereoSegment.frameAt_eq]
    rw [agrees.output, StereoTimeline.map_places]
  · intro place hplace honce
    have hsegment : place.1 ∈ s.timeline.closed ++ [s.timeline.current] := by
      rcases List.mem_append.mp hplace with hclosed | hcurrent
      · obtain ⟨segment, hsegment, hplace⟩ := List.mem_flatMap.mp hclosed
        obtain ⟨t, -, rfl⟩ := List.mem_map.mp hplace
        exact List.mem_append_left _ hsegment
      · obtain ⟨t, -, rfl⟩ := List.mem_map.mp hcurrent
        exact List.mem_append_right _ (.head _)
    have hmono := StereoSegment.mono_eq (agrees.sides place.1 hsegment) honce
    rw [StereoSegment.frameAt_eq] at hmono
    exact hmono

/-- One sample on a channel. -/
def oneSample (channel : UInt8) (timestamp : UInt32) (sample : Int16) : AudioChunk :=
  { sampleOn channel timestamp with buffer := fun _ => sample }

def endOfStream : AudioChunk :=
  { details := { marker := mediaChunkEosMarker }, buffer := fun _ => 0 }

/-- The recording after these chunks. -/
def recorded (chunks : List AudioChunk) : Recording :=
  chunks.foldl (fun s chunk =>
    match s.mixer.audioChunkIn 2 (some chunk) with
    | .ok m' => ⟨m', s.log ++
        (m'.history.drop s.mixer.history.length).map (channelOf (some chunk), ·)⟩
    | .error _ => s) ⟨fresh 2 fun _ => 0, []⟩

theorem stereo_agrees_both_sides :
    let s := recorded [oneSample 1 1000 3, oneSample 2 5000 4, endOfStream]
    s.mixer.outputQueue.flatMap AudioChunk.frames =
      (s.timeline.places s.mixer.readTimestamp).map fun place =>
        ⟨place.1.mixed place.2, place.1.saved 2 place.2, place.1.saved 1 place.2⟩ :=
  (@stereo_agrees (fun _ => 0)
    [some (oneSample 1 1000 3), some (oneSample 2 5000 4), some endOfStream]
    (recorded [oneSample 1 1000 3, oneSample 2 5000 4, endOfStream])
    (.cons ⟨by decide, .chunkIn (.chunkIn rfl)⟩ (.cons ⟨by decide, .chunkIn (.chunkIn rfl)⟩
      (.cons ⟨by decide, .chunkIn (.chunkIn rfl)⟩ (.nil _))))).2.1

/-- A chunk of the first side that is handed in twice counts twice in the mono buffer and once
in the buffer of its channel. -/
theorem retransmitted_chunk_differs : ¬ ∀ (memory : Nat → Int16)
    (inputs : List (Option AudioChunk)) (s : Recording),
    Steps (Guarded Regular Hands) ⟨fresh 2 memory, []⟩ inputs s →
    ∀ frame ∈ s.mixer.outputQueue.flatMap AudioChunk.frames,
      frame.mono = saturate (frame.even.toInt + frame.odd.toInt) := by
  intro same
  have hframes : (recorded [oneSample 1 1000 1, oneSample 1 1000 1,
      endOfStream]).mixer.outputQueue.flatMap AudioChunk.frames = [⟨2, 0, 1⟩] := by
    decide +kernel
  have hsame := same (fun _ => 0)
    [some (oneSample 1 1000 1), some (oneSample 1 1000 1), some endOfStream]
    (recorded [oneSample 1 1000 1, oneSample 1 1000 1, endOfStream])
    (.cons ⟨by decide, .chunkIn (.chunkIn rfl)⟩ (.cons ⟨by decide, .chunkIn (.chunkIn rfl)⟩
      (.cons ⟨by decide, .chunkIn (.chunkIn rfl)⟩ (.nil _)))) ⟨2, 0, 1⟩ (hframes ▸ .head _)
  revert hsame
  decide

end Recording

end RtpMixer

end OrkAudio
