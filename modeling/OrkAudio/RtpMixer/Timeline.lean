import OrkAudio.RtpMixer.Pointers

/-! What a mixer with one output channel delivers, against a plain timeline.

The timeline is rebuilt from the history of a run: it falls into segments, each from the
timestamp at which it was started to its last write timestamp, and the sample at a
timestamp is the saturating sum of the samples mixed in there, in the order of arrival.
`Tracks` says that the output queue carries the timeline up to the read timestamp and
the ring the rest of it. -/

namespace OrkAudio

open Lib

/-- A stretch of timeline without jumps: `copied` holds what was mixed in, in order. -/
structure Segment where
  start : Nat
  writeTimestamp : Nat
  copied : List (Nat × List Int16) := []

namespace Segment

/-- Mix the sample that a copied payload has at `t`, if any, into `old`. -/
def mixAt (t : Nat) (old : Int16) (payload : Nat × List Int16) : Int16 :=
  if h : payload.1 ≤ t ∧ t < payload.1 + payload.2.length then
    mixInto (payload.2.get ⟨t - payload.1, by omega⟩) old
  else old

def sampleAt (segment : Segment) (t : Nat) : Int16 := segment.copied.foldl (mixAt t) 0

/-- All samples of the segment. -/
def mix (segment : Segment) : List Int16 :=
  Ring.stretch segment.sampleAt segment.start (segment.writeTimestamp - segment.start)

/-- Past the end of everything copied there is silence. -/
theorem sampleAt_silent {segment : Segment} {t : Nat}
    (hpast : ∀ payload ∈ segment.copied, payload.1 + payload.2.length ≤ t) :
    segment.sampleAt t = 0 := by
  obtain ⟨start, stop, copied⟩ := segment
  unfold sampleAt
  induction copied with
  | nil => rfl
  | cons payload copied ih =>
      have hhead := hpast payload List.mem_cons_self
      rw [List.foldl_cons, mixAt, dif_neg (by omega)]
      exact ih fun later hlater => hpast later (List.mem_cons_of_mem _ hlater)

end Segment

/-- The finished segments and the one being written. -/
structure Timeline where
  closed : List Segment := []
  current : Segment := { start := 0, writeTimestamp := 0 }

namespace Timeline

def startAt (timeline : Timeline) (timestamp : Nat) : Timeline :=
  { closed := timeline.closed ++ [timeline.current]
    current := { start := timestamp, writeTimestamp := timestamp } }

def record (timeline : Timeline) : TimelineEvent → Timeline
  | .opened timestamp => timeline.startAt timestamp
  | .reset timestamp => timeline.startAt timestamp
  | .zeroed writeTimestamp =>
      { timeline with current := { timeline.current with writeTimestamp := writeTimestamp } }
  | .copied timestamp samples =>
      { timeline with current :=
          { timeline.current with copied := timeline.current.copied ++ [(timestamp, samples)] } }

def ofHistory (history : List TimelineEvent) : Timeline := history.foldl record {}

@[simp] theorem ofHistory_append (history : List TimelineEvent) (event : TimelineEvent) :
    ofHistory (history ++ [event]) = (ofHistory history).record event := by
  simp [ofHistory]

def mix (timeline : Timeline) : List Int16 :=
  (timeline.closed ++ [timeline.current]).flatMap Segment.mix

end Timeline

namespace RtpMixer

/-- The timeline that the calls so far have written. -/
def timeline (m : RtpMixer) : Timeline := Timeline.ofHistory m.history

/-- The output queue carries the timeline up to the read timestamp, the ring the rest. -/
structure Tracks (m : RtpMixer) : Prop where
  aligned : Aligned m
  oneOutput : m.numOutputChannels = 1
  noChannels : m.channels = []
  noError : m.error = false
  starts : m.timeline.current.start ≤ m.readTimestamp
  reaches : m.timeline.current.writeTimestamp = m.writeTimestamp
  within : ∀ payload ∈ m.timeline.current.copied,
    payload.1 + payload.2.length ≤ m.writeTimestamp
  ring : Ring.Holds numSamplesCircularBuffer m.buffer m.readPtr m.readTimestamp
    m.writeTimestamp m.timeline.current.sampleAt
  output : m.outputQueue.flatMap AudioChunk.samples =
    m.timeline.closed.flatMap Segment.mix ++
      Ring.stretch m.timeline.current.sampleAt m.timeline.current.start
        (m.readTimestamp - m.timeline.current.start)

theorem fresh_tracks (memory : Nat → Int16) : Tracks (fresh 1 memory) where
  aligned := fresh_aligned 1 memory
  oneOutput := rfl
  noChannels := rfl
  noError := rfl
  starts := le_refl _
  reaches := rfl
  within := by simp [timeline, Timeline.ofHistory, fresh]
  ring := .empty _ _ _ _
  output := rfl

namespace Tracks

variable {m m' : RtpMixer}

theorem untouched (tracks : Tracks m) (same : Untouched m m') : Tracks m' := by
  have htimeline : m'.timeline = m.timeline := by rw [timeline, same.history, timeline]
  refine ⟨tracks.aligned.untouched same, same.numOutputChannels.trans tracks.oneOutput,
    same.channels tracks.oneOutput tracks.noChannels, same.error.trans tracks.noError, ?_, ?_, ?_, ?_, ?_⟩
  · rw [htimeline, same.readTimestamp]
    exact tracks.starts
  · rw [htimeline, same.writeTimestamp]
    exact tracks.reaches
  · rw [htimeline, same.writeTimestamp]
    exact tracks.within
  · rw [htimeline, same.buffer, same.readPtr, same.readTimestamp, same.writeTimestamp]
    exact tracks.ring
  · rw [htimeline, same.outputQueue, same.readTimestamp]
    exact tracks.output

/-- A shipment takes the next stretch of the timeline from the ring to the queue. -/
theorem ship (tracks : Tracks m) (tapeNumChannels : Int) (force : Bool)
    (hforce : force = true ∨ numSamplesShipmentHoldoff ≤ m.usedSpace) :
    Tracks (createShipment tapeNumChannels m 0 force) := by
  obtain ⟨shipped, hshipped, heq⟩ :=
    createShipment_eq tapeNumChannels tracks.aligned force hforce
  have hship : Move tapeNumChannels m (createShipment tapeNumChannels m 0 force) :=
    .ship force hforce
  have haligned := tracks.aligned.move hship
  have hordered := tracks.aligned.ordered
  have hwindow := tracks.aligned.window
  have hstarts := tracks.starts
  have hsize : m.shipmentSize force ≤ m.writeTimestamp - m.readTimestamp := by
    unfold shipmentSize
    split <;> omega
  have hchunks := hshipped (by rw [tracks.oneOutput]; decide)
  rw [tracks.ring.window (by omega)] at hchunks
  rw [heq] at haligned ⊢
  refine ⟨haligned, tracks.oneOutput, tracks.noChannels, tracks.noError, ?_, tracks.reaches,
    tracks.within, ?_, ?_⟩
  · exact Nat.le_add_right_of_le hstarts
  · have hadvance := tracks.ring.advance tracks.aligned.readPtr_lt
      (Nat.le_add_right m.readTimestamp (m.shipmentSize force)) (by omega)
    rwa [Nat.add_sub_cancel_left] at hadvance
  · simp only [List.flatMap_append, tracks.output, hchunks, List.append_assoc]
    congr 1
    have hsplit := Ring.stretch_append m.timeline.current.sampleAt m.timeline.current.start
      (m.readTimestamp - m.timeline.current.start) (m.shipmentSize force)
    rw [Nat.add_sub_cancel' hstarts] at hsplit
    rw [← hsplit, ← Nat.sub_add_comm hstarts]
    rfl

/-- Once everything is shipped, the queue carries the whole timeline. -/
theorem shipped_mix (tracks : Tracks m) (hshipped : m.readTimestamp = m.writeTimestamp) :
    m.outputQueue.flatMap AudioChunk.samples = m.timeline.mix := by
  rw [tracks.output, Timeline.mix, List.flatMap_append, List.flatMap_singleton, Segment.mix,
    tracks.reaches, hshipped]

/-- A new segment starts with an empty ring, once everything is shipped. -/
theorem restart (tracks : Tracks m) (hshipped : m.readTimestamp = m.writeTimestamp)
    (aligned : Aligned m') {timestamp : Nat} (hread : m'.readTimestamp = timestamp)
    (hwrite : m'.writeTimestamp = timestamp)
    (houtput : m'.numOutputChannels = m.numOutputChannels) (hchannels : m'.channels = m.channels)
    (herror : m'.error = m.error)
    (hqueue : m'.outputQueue = m.outputQueue)
    (hhistory : m'.timeline = m.timeline.startAt timestamp) : Tracks m' := by
  refine ⟨aligned, houtput.trans tracks.oneOutput, hchannels.trans tracks.noChannels, herror.trans tracks.noError, ?_, ?_, ?_, ?_, ?_⟩
  · rw [hhistory, hread]
    exact le_refl _
  · rw [hhistory, hwrite]
    rfl
  · rw [hhistory]
    simp [Timeline.startAt]
  · rw [hread, hwrite]
    exact .empty _ _ _ _
  · rw [hhistory, hqueue, tracks.shipped_mix hshipped, hread]
    simp [Timeline.mix, Timeline.startAt, Ring.stretch]

/-- Storing a chunk adds its samples to the segment being written. -/
theorem stored_timeline (tracks : Tracks m) {chunk : AudioChunk} {timestamp : Nat}
    (hfrom : m.readTimestamp ≤ timestamp)
    (hroom : timestamp + chunk.numSamples < m.readTimestamp + numSamplesCircularBuffer) :
    (m.stored chunk timestamp).timeline =
      { closed := m.timeline.closed
        current :=
          { start := m.timeline.current.start
            writeTimestamp := max m.writeTimestamp (timestamp + chunk.numSamples)
            copied := m.timeline.current.copied ++ [(timestamp, chunk.samples)] } } := by
  rw [timeline, (stored_contents tracks.aligned hfrom hroom).2, Timeline.ofHistory_append]
  split_ifs with hlater
  · rw [Timeline.ofHistory_append, max_eq_right hlater.le]
    rfl
  · rw [max_eq_left (not_lt.mp hlater), ← tracks.reaches]
    rfl

/-- The ring after a chunk is stored: silence first, then the samples. -/
theorem stored_ring (tracks : Tracks m) {chunk : AudioChunk} {timestamp : Nat}
    (hfrom : m.readTimestamp ≤ timestamp)
    (hroom : timestamp + chunk.numSamples < m.readTimestamp + numSamplesCircularBuffer) :
    Ring.Holds numSamplesCircularBuffer (m.stored chunk timestamp).buffer m.readPtr
      m.readTimestamp (max m.writeTimestamp (timestamp + chunk.numSamples))
      fun t => Segment.mixAt t (m.timeline.current.sampleAt t) (timestamp, chunk.samples) := by
  have hread := tracks.aligned.readPtr_lt
  have hordered := tracks.aligned.ordered
  have hwindow := tracks.aligned.window
  rw [(stored_contents tracks.aligned hfrom hroom).1, tracks.aligned.writePtr]
  have hsilent : ∀ i, m.timeline.current.sampleAt (m.writeTimestamp + i) = 0 := by
    intro i
    apply Segment.sampleAt_silent
    intro payload hpayload
    exact (tracks.within payload hpayload).trans (Nat.le_add_right _ _)
  have hzeroed := tracks.ring.extend hread hordered (fun _ _ => 0)
    (List.replicate (timestamp + chunk.numSamples - m.writeTimestamp) ())
    (by rw [List.length_replicate]; omega) (fun i _ _ => (hsilent i).symm)
  rw [List.length_replicate, show m.writeTimestamp +
    (timestamp + chunk.numSamples - m.writeTimestamp) =
    max m.writeTimestamp (timestamp + chunk.numSamples) by omega] at hzeroed
  have hlength := chunk.samples_length
  have hmixed := hzeroed.inside hread (by omega) mixInto chunk.samples hfrom (by omega)
  refine hmixed.congr ?_
  intro t _ _
  rfl

/-- Storing a chunk inside the window keeps the queue and adds the chunk to the ring. -/
theorem store (tracks : Tracks m) {chunk : AudioChunk} {timestamp : Nat}
    (hfrom : m.readTimestamp ≤ timestamp)
    (hroom : timestamp + chunk.numSamples < m.readTimestamp + numSamplesCircularBuffer)
    (hword : timestamp + chunk.numSamples < 4294967296) : Tracks (m.stored chunk timestamp) := by
  have hline : ∀ t, (m.stored chunk timestamp).timeline.current.sampleAt t =
      Segment.mixAt t (m.timeline.current.sampleAt t) (timestamp, chunk.samples) := by
    intro t
    rw [tracks.stored_timeline hfrom hroom]
    simp [Segment.sampleAt]
  have hmove : Move 0 m (m.stored chunk timestamp) := .store chunk timestamp hfrom hroom hword
  have haligned := tracks.aligned.move hmove
  have hring := tracks.stored_ring hfrom hroom
  obtain ⟨channels, history, buffer, hchannels, hstored⟩ := m.stored_eq chunk timestamp
  have hread : (m.stored chunk timestamp).readTimestamp = m.readTimestamp := by rw [hstored]
  have hwrite : (m.stored chunk timestamp).writeTimestamp =
      max m.writeTimestamp (timestamp + chunk.numSamples) := by rw [hstored]
  refine ⟨haligned, ?_, ?_, ?_, ?_, ?_, ?_, ?_, ?_⟩
  · rw [hstored]
    exact tracks.oneOutput
  · rw [hstored]
    exact hchannels tracks.noChannels
  · rw [hstored]
    exact tracks.noError
  · rw [tracks.stored_timeline hfrom hroom, hread]
    exact tracks.starts
  · rw [tracks.stored_timeline hfrom hroom, hwrite]
  · rw [tracks.stored_timeline hfrom hroom, hwrite]
    intro payload hpayload
    rcases List.mem_append.mp hpayload with hearlier | hnew
    · exact (tracks.within payload hearlier).trans (Nat.le_max_left _ _)
    · obtain rfl := List.mem_singleton.mp hnew
      rw [chunk.samples_length]
      exact Nat.le_max_right _ _
  · rw [hread, hwrite, show (m.stored chunk timestamp).readPtr = m.readPtr by rw [hstored]]
    exact hring.congr fun t _ _ => (hline t).symm
  · -- what has been shipped lies before the chunk
    have hshipped : ∀ t, t < m.readTimestamp →
        (m.stored chunk timestamp).timeline.current.sampleAt t =
          m.timeline.current.sampleAt t := by
      intro t ht
      rw [hline, Segment.mixAt, dif_neg (by omega)]
    have hstarts := tracks.starts
    have hclosed : (m.stored chunk timestamp).timeline.closed = m.timeline.closed := by
      rw [tracks.stored_timeline hfrom hroom]
    have hstart : (m.stored chunk timestamp).timeline.current.start =
        m.timeline.current.start := by rw [tracks.stored_timeline hfrom hroom]
    rw [hclosed, hstart, hread, show (m.stored chunk timestamp).outputQueue = m.outputQueue by
      rw [hstored], tracks.output]
    congr 1
    exact Ring.stretch_congr fun t _ ht => (hshipped t (by omega)).symm

/-- Every move keeps the queue and the ring on the timeline. -/
theorem move {tapeNumChannels : Int} (tracks : Tracks m) (move : Move tapeNumChannels m m') :
    Tracks m' := by
  have haligned := tracks.aligned.move move
  cases move with
  | untouched same => exact tracks.untouched same
  | ship force hforce => exact tracks.ship tapeNumChannels force hforce
  | opened timestamp hzero _ =>
      have hordered := tracks.aligned.ordered
      refine tracks.restart (by omega) haligned rfl rfl rfl rfl rfl rfl ?_
      rw [timeline, openAt, Timeline.ofHistory_append]
      rfl
  | reset timestamp hshipped _ =>
      refine tracks.restart hshipped haligned rfl rfl rfl rfl rfl rfl ?_
      rw [timeline, RtpMixer.reset, Timeline.ofHistory_append]
      rfl
  | store chunk timestamp hfrom hroom hword => exact tracks.store hfrom hroom hword

theorem moves {tapeNumChannels : Int} (tracks : Tracks m) (moves : Moves tapeNumChannels m m') :
    Tracks m' := by
  induction moves with
  | refl => exact tracks
  | tail _ move ih => exact ih.move move

end Tracks

/-- The call hands in no chunk of more than 100000 bytes and none that fills the ring. -/
def Call.Regular (tapeNumChannels : Int) (m : RtpMixer) (call : Call) : Prop :=
  call.KeepsRoom tapeNumChannels m ∧ ∀ chunk ∈ call.input, chunk.details.numBytes ≤ 100000

theorem Tracks.chunkIn {tapeNumChannels : Int} {m m' : RtpMixer} {input : Option AudioChunk}
    (tracks : Tracks m) (regular : (Call.chunkIn input).Regular tapeNumChannels m)
    (step : Step tapeNumChannels m (.chunkIn input) m') : Tracks m' := by
  cases step with
  | chunkIn hin =>
      rcases audioChunkIn_moves tracks.aligned regular.1 hin with hmoves | ⟨chunk, hchunk, hbig, -⟩
      · exact tracks.moves hmoves
      · have hsmall := UInt32.le_iff_toNat_le.mp (regular.2 chunk hchunk)
        simp only [UInt32.reduceToNat] at hsmall
        rw [AudioChunk.getNumBytes, toInt32_of_lt (by omega)] at hbig
        omega
  | thrown => exact tracks

/-- `AudioChunkOut` called until it delivers nothing more. -/
inductive Delivers : RtpMixer → List AudioChunk → Prop
  | nothing {m : RtpMixer} : m.audioChunkOut.1 = none → Delivers m []
  | chunk {m : RtpMixer} {chunk : AudioChunk} {chunks : List AudioChunk} :
      m.audioChunkOut.1 = some chunk → Delivers m.audioChunkOut.2 chunks →
      Delivers m (chunk :: chunks)

/-- The queue is delivered from its front to its end. -/
theorem delivers_iff {m : RtpMixer} {chunks : List AudioChunk} :
    Delivers m chunks ↔ chunks = m.outputQueue := by
  constructor
  · intro delivers
    induction delivers with
    | @nothing m hnone =>
        unfold audioChunkOut at hnone
        split at hnone
        next hempty => exact hempty.symm
        next => simp at hnone
    | @chunk m chunk chunks hsome _ ih =>
        unfold audioChunkOut at hsome ih
        split at hsome
        next => simp at hsome
        next head rest hqueue =>
          simp only [hqueue] at ih
          rw [hqueue, ih, Option.some.inj hsome]
  · rintro rfl
    generalize hqueue : m.outputQueue = queue
    induction queue generalizing m with
    | nil => exact .nothing (by simp [audioChunkOut, hqueue])
    | cons chunk rest ih =>
        refine .chunk (by simp [audioChunkOut, hqueue]) (ih ?_)
        simp [audioChunkOut, hqueue]

/-- The invariant of runs: whatever is handed in, a mixer with one output channel tracks
its timeline. -/
theorem run_tracks {tapeNumChannels : Int} {memory : Nat → Int16}
    {inputs : List (Option AudioChunk)} {m : RtpMixer}
    (run : Steps (Guarded (fun m call => call.Regular tapeNumChannels m) (Step tapeNumChannels))
      (fresh 1 memory) (inputs.map Call.chunkIn) m) : Tracks m := by
  refine run.invariant_of_labels (fun call => ∃ input, call = .chunkIn input)
    ?_ ?_ (fresh_tracks memory)
  · rintro m call m' ⟨input, rfl⟩ tracks ⟨regular, step⟩
    exact tracks.chunkIn regular step
  · intro call hcall
    obtain ⟨input, -, rfl⟩ := List.mem_map.mp hcall
    exact ⟨input, rfl⟩

/-- Every such run goes on, whatever is handed in next. -/
theorem run_continues {tapeNumChannels : Int} {memory : Nat → Int16}
    {inputs : List (Option AudioChunk)} {m : RtpMixer}
    (run : Steps (Guarded (fun m call => call.Regular tapeNumChannels m) (Step tapeNumChannels))
      (fresh 1 memory) (inputs.map Call.chunkIn) m) (input : Option AudioChunk) :
    ∃ m', Step tapeNumChannels m (.chunkIn input) m' :=
  chunkIn_returns (run_tracks run).aligned (run_tracks run).noChannels input

/-- An end-of-stream chunk ships all that the ring holds. -/
theorem Tracks.flush {m : RtpMixer} (tracks : Tracks m) (tapeNumChannels : Int) {eos : AudioChunk}
    (heos : eos.details.marker = mediaChunkEosMarker) :
    m.audioChunkIn tapeNumChannels (some eos) = .ok (createShipment tapeNumChannels m 0 true) ∧
      (createShipment tapeNumChannels m 0 true).outputQueue.flatMap AudioChunk.samples =
        (createShipment tapeNumChannels m 0 true).timeline.mix := by
  have tracks' := tracks.ship tapeNumChannels true (.inl rfl)
  have hshipped : (createShipment tapeNumChannels m 0 true).readTimestamp =
      (createShipment tapeNumChannels m 0 true).writeTimestamp := by
    obtain ⟨shipped, -, heq⟩ := createShipment_eq tapeNumChannels tracks.aligned true (.inl rfl)
    have hordered := tracks.aligned.ordered
    rw [heq]
    simp only [shipmentSize, if_true]
    omega
  refine ⟨?_, tracks'.shipped_mix hshipped⟩
  simp [audioChunkIn, tracks.noError, heos]

/-- The marker that ends a stream. -/
def eosChunk : AudioChunk := { details := { marker := mediaChunkEosMarker }, buffer := fun _ => 0 }

/-- The mixer after these chunks, from a fresh one. -/
def after (chunks : List AudioChunk) : RtpMixer :=
  chunks.foldl (fun m chunk =>
    match m.audioChunkIn 1 (some chunk) with
    | .ok m' => m'
    | .error _ => m) (fresh 1 fun _ => 0)

end RtpMixer

end OrkAudio
