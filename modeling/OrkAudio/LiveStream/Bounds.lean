import OrkAudio.Lib.Always
import OrkAudio.LiveStream.Frames

/-! When the memory that is read for a frame is there.

The number of bytes read from either half is that of the chunk at hand, whatever the two
halves are. -/

namespace OrkAudio.LiveStream

open Lib

/-- The cells hold a queue of chunks, or there are none and the buffer is as it was made. -/
inductive Sound (ring : RingBuffer AudioChunkRef) : Prop
  | held (waiting : List AudioChunk) (holds : ring.Holds (waiting.map some))
  | bare (maxSize : ring.maxSize = 0) (head : ring.head = 0) (tail : ring.tail = 0)
      (full : ring.full = false)

namespace LiveStreamFilter

variable {filter : LiveStreamFilter} {outcome : Outcome} {chunk : AudioChunk}

/-- A frame is made of what is at hand. -/
def Writes (filter : LiveStreamFilter) (outcome : Outcome) : Prop :=
  filter.rtmp ≠ none ∧ outcome.frameGranted = true

/-- The size of the silence buffer, which is that of the chunk if it has to be made. -/
def silenceSize (filter : LiveStreamFilter) (chunk : AudioChunk) : Nat :=
  (filter.silentChannelBuffer.map List.length).getD (numBytes chunk)

/-- The size of the chunk at the tail of the queue. -/
def oldestSize (filter : LiveStreamFilter) : Nat :=
  ((filter.bufferQueue.buf filter.bufferQueue.tail).map numBytes).getD 0

/-- A chunk that is streamed: there is a cell for it if it is of the head channel, and it is
no longer than the buffers whose bytes go into a frame. -/
def FitsStream (filter : LiveStreamFilter) (outcome : Outcome) (chunk : AudioChunk) : Prop :=
  if chunk.details.channel = filter.headOf chunk then
    0 < filter.bufferQueue.maxSize ∧
      (filter.bufferQueue.full = true → filter.Writes outcome →
        numBytes chunk ≤ filter.silenceSize chunk ∧ numBytes chunk ≤ filter.oldestSize)
  else filter.Writes outcome → numBytes chunk ≤
    if filter.bufferQueue.empty then filter.silenceSize chunk else filter.oldestSize

def Fits (filter : LiveStreamFilter) (outcome : Outcome) (chunk : AudioChunk) : Prop :=
  filter.Silenced outcome → filter.status = true → filter.FitsStream outcome chunk

theorem pushToRTMP_succeeds_iff {channelDetails : AudioChunkDetails} {first second : Source}
    (hpositive : 0 < channelDetails.numBytes.toNat) :
    Succeeds (filter.pushToRTMP outcome channelDetails first second) ↔
      (filter.Writes outcome → channelDetails.numBytes.toNat ≤ (filter.content first).length ∧
        channelDetails.numBytes.toNat ≤ (filter.content second).length) := by
  cases hrtmp : filter.rtmp with
  | none =>
      rw [pushToRTMP_closed hrtmp]
      exact iff_of_true (succeeds_ok _) (fun writes => absurd hrtmp writes.1)
  | some handle =>
      by_cases hgranted : outcome.frameGranted = true
      · have hwrites : filter.Writes outcome := by
          refine ⟨?_, hgranted⟩
          rw [hrtmp]
          exact Option.some_ne_none handle
        constructor
        · intro hdone _
          exact pushToRTMP_succeeds hrtmp hgranted hpositive hdone
        · intro hfits
          rw [pushToRTMP_eq hrtmp hgranted (hfits hwrites).1 (hfits hwrites).2]
          exact succeeds_ok _
      · rw [pushToRTMP_open hrtmp, if_neg hgranted]
        exact iff_of_true (succeeds_ok _) (fun writes => absurd writes.2 hgranted)

theorem pushToRTMP_bufferQueue {channelDetails : AudioChunkDetails} {first second : Source}
    {result : List Call × LiveStreamFilter}
    (hpush : filter.pushToRTMP outcome channelDetails first second = .ok result) :
    result.2.bufferQueue = filter.bufferQueue := by
  cases hrtmp : filter.rtmp with
  | none =>
      rw [pushToRTMP_closed hrtmp] at hpush
      cases hpush
      rfl
  | some handle =>
      rw [pushToRTMP_open hrtmp] at hpush
      split_ifs at hpush with hgranted
      · rcases bind_eq_ok.mp hpush with ⟨data, -, hresult⟩
        cases hresult
        rfl
      · cases hpush
        rfl

/-! ### Queues with cells -/

section Held

variable {waiting : List AudioChunk} (holds : filter.bufferQueue.Holds (waiting.map some))
include holds

theorem oldestSize_eq {elem : AudioChunk} {rest : List AudioChunk}
    (hwaiting : waiting = elem :: rest) : filter.oldestSize = numBytes elem := by
  rw [hwaiting, List.map_cons] at holds
  have htail := holds.buf_tail_eq (Nat.succ_pos _)
  rw [List.head?_cons] at htail
  rw [oldestSize, ← Option.some.inj htail]
  rfl

theorem stream_head_succeeds (hpositive : 0 < numBytes chunk)
    (hchannel : chunk.details.channel = filter.headChannel) :
    Succeeds (filter.stream outcome chunk) ↔
      0 < filter.bufferQueue.maxSize ∧
        (filter.bufferQueue.full = true → filter.Writes outcome →
          numBytes chunk ≤ (filter.content .silence).length ∧
            numBytes chunk ≤ filter.oldestSize) := by
  have hcells : 0 < filter.bufferQueue.maxSize := Nat.zero_lt_of_lt holds.tail_lt
  rcases @stream_head _ outcome _ _ holds hchannel with ⟨queue, -, -, hstream⟩
  have hfull := holds.full_eq
  rw [List.length_map] at hfull
  rw [hstream]
  rcases Nat.lt_or_ge waiting.length filter.bufferQueue.maxSize with hroom | hnone
  · rw [Fifo.put_of_lt hroom]
    refine iff_of_true (succeeds_ok _) ⟨hcells, fun hflag => ?_⟩
    rw [hfull, decide_eq_false (Nat.ne_of_lt hroom)] at hflag
    cases hflag
  · have hlength := holds.length_le
    rw [List.length_map] at hlength
    have hexact : waiting.length = filter.bufferQueue.maxSize := Nat.le_antisymm hlength hnone
    rw [Fifo.put_of_full hnone]
    cases hwaiting : waiting with
    | nil =>
        rw [hwaiting, List.length_nil] at hexact
        omega
    | cons elem rest =>
        rw [List.head?_cons, Option.elim_some, pushToRTMP_succeeds_iff hpositive,
          oldestSize_eq holds hwaiting, hfull, decide_eq_true hexact]
        constructor
        · intro hfits
          refine ⟨hcells, fun _ hwrites => ?_⟩
          have hboth := hfits hwrites
          rwa [content, content, length_chunkBytes] at hboth
        · rintro ⟨-, hfits⟩ hwrites
          have hboth := hfits rfl hwrites
          rwa [content, content, length_chunkBytes]

theorem stream_other_succeeds (hpositive : 0 < numBytes chunk)
    (hchannel : chunk.details.channel ≠ filter.headChannel) :
    Succeeds (filter.stream outcome chunk) ↔
      (filter.Writes outcome → numBytes chunk ≤
        if filter.bufferQueue.empty then (filter.content .silence).length
        else filter.oldestSize) := by
  rcases @stream_other _ outcome _ _ holds hchannel with ⟨queue, -, -, hstream⟩
  have hown : ((filter.withQueue queue).content (.chunk chunk)).length = numBytes chunk := by
    rw [content, length_chunkBytes]
  have hsame : (filter.withQueue queue).Writes outcome ↔ filter.Writes outcome := Iff.rfl
  rw [hstream, pushToRTMP_succeeds_iff hpositive, hown, hsame]
  cases hwaiting : waiting with
  | nil =>
      rw [holds.empty_iff.mpr (by rw [hwaiting]; rfl), if_pos rfl]
      exact forall_congr' fun _ => and_iff_right (le_refl _)
  | cons elem rest =>
      have hnot : ¬ filter.bufferQueue.empty = true := by
        rw [holds.empty_iff, hwaiting]
        exact List.cons_ne_nil _ _
      rw [if_neg hnot, oldestSize_eq holds hwaiting]
      refine forall_congr' fun _ => (and_iff_right (le_refl _)).trans ?_
      rw [Fifo.get, Option.elim_some, content, length_chunkBytes]
      rfl

end Held

/-! ### A chunk -/

/-- A chunk of the head channel finds no cell in a buffer that has none. -/
theorem put_bare {ring : RingBuffer AudioChunkRef} (hmaxSize : ring.maxSize = 0)
    (hfull : ring.full = false) (item : AudioChunkRef) : ring.put item = .error .outside := by
  have hold : ring.oldest = .ok none := by
    rw [RingBuffer.oldest, hfull]
    rfl
  have hwrite : ring.write ring.head item = .error .outside := by
    rw [RingBuffer.write, hmaxSize]
    exact if_neg (Nat.not_lt_zero _)
  rw [RingBuffer.put, hold, hwrite]
  rfl

theorem get_bare {ring : RingBuffer AudioChunkRef} (hhead : ring.head = 0) (htail : ring.tail = 0)
    (hfull : ring.full = false) : ring.empty = true ∧ ring.get = .ok (none, ring) := by
  have hempty : ring.empty = true := by
    rw [RingBuffer.empty, hfull, hhead, htail]
    rfl
  exact ⟨hempty, if_pos hempty⟩

theorem stream_succeeds (sound : Sound filter.bufferQueue) {silent : List UInt8}
    (hfirst : filter.isFirstPacket = false) (hsilent : filter.silentChannelBuffer = some silent)
    (hpositive : 0 < numBytes chunk) :
    Succeeds (filter.stream outcome chunk) ↔ filter.FitsStream outcome chunk := by
  have hhead : filter.headOf chunk = filter.headChannel := by
    rw [headOf, hfirst, if_neg Bool.false_ne_true]
  have hsilence : filter.silenceSize chunk = (filter.content .silence).length := by
    rw [silenceSize, content, hsilent]
    rfl
  rw [FitsStream, hhead, hsilence]
  by_cases hchannel : chunk.details.channel = filter.headChannel
  · rw [if_pos hchannel]
    cases sound with
    | held waiting holds => exact stream_head_succeeds holds hpositive hchannel
    | bare hmaxSize _ _ hfull =>
        have hfails : ¬ Succeeds (filter.stream outcome chunk) := by
          rw [stream, if_pos hchannel, put_bare hmaxSize hfull]
          exact not_succeeds_error _
        apply iff_of_false hfails
        rw [hmaxSize]
        exact fun hcells => absurd hcells.1 (Nat.lt_irrefl 0)
  · rw [if_neg hchannel]
    cases sound with
    | held waiting holds => exact stream_other_succeeds holds hpositive hchannel
    | bare _ hringHead htail hfull =>
        rcases get_bare hringHead htail hfull with ⟨hempty, hget⟩
        have hstream : filter.stream outcome chunk =
            filter.pushToRTMP outcome chunk.details (.chunk chunk) .silence := by
          rw [stream, if_neg hchannel, hget]
          rfl
        have hown : (filter.content (.chunk chunk)).length = numBytes chunk := by
          rw [content, length_chunkBytes]
        rw [hstream, pushToRTMP_succeeds_iff hpositive, hown, hempty, if_pos rfl]
        exact forall_congr' fun _ => and_iff_right (le_refl _)

theorem stream_sound (sound : Sound filter.bufferQueue) {result : List Call × LiveStreamFilter}
    (hstream : filter.stream outcome chunk = .ok result) : Sound result.2.bufferQueue := by
  by_cases hchannel : chunk.details.channel = filter.headChannel
  · cases sound with
    | held waiting holds =>
        rcases @stream_head _ outcome _ _ holds hchannel with ⟨queue, hholds, -, hput⟩
        rw [hput] at hstream
        have hqueue : result.2.bufferQueue = queue := by
          cases hout : (Fifo.put filter.bufferQueue.maxSize waiting chunk).1 with
          | none =>
              rw [hout] at hstream
              cases hstream
              rfl
          | some elem =>
              rw [hout] at hstream
              exact pushToRTMP_bufferQueue hstream
        rw [hqueue]
        exact .held _ hholds
    | bare hmaxSize _ _ hfull =>
        rw [stream, if_pos hchannel, put_bare hmaxSize hfull] at hstream
        cases hstream
  · cases sound with
    | held waiting holds =>
        rcases @stream_other _ outcome _ _ holds hchannel with ⟨queue, hholds, -, hget⟩
        rw [hget] at hstream
        rw [pushToRTMP_bufferQueue hstream]
        exact .held _ hholds
    | bare hmaxSize hhead htail hfull =>
        rw [stream, if_neg hchannel, (get_bare hhead htail hfull).2] at hstream
        rw [pushToRTMP_bufferQueue hstream]
        exact .bare hmaxSize hhead htail hfull

theorem readied_fitsStream :
    (filter.readied chunk).FitsStream outcome chunk ↔ filter.FitsStream outcome chunk := by
  have hhead : (filter.readied chunk).headOf chunk = filter.headOf chunk := by
    rw [headOf, readied_isFirstPacket, if_neg Bool.false_ne_true, readied_headChannel]
  have hsilence : (filter.readied chunk).silenceSize chunk = filter.silenceSize chunk := by
    rw [silenceSize, silenceSize, readied_silentChannelBuffer]
    cases filter.silentChannelBuffer with
    | none => exact List.length_replicate
    | some silent => rfl
  have hwrites : (filter.readied chunk).Writes outcome ↔ filter.Writes outcome := by
    rw [Writes, Writes, readied_rtmp]
  rw [FitsStream, FitsStream, oldestSize, oldestSize, hhead, hsilence, hwrites,
    readied_bufferQueue]

theorem numBytes_pos {samples : Nat} (hsamples : chunk.getNumSamples? = some (samples + 1)) :
    0 < numBytes chunk := by
  unfold AudioChunk.getNumSamples? at hsamples
  unfold numBytes
  split at hsamples <;> simp only [Option.some.injEq, reduceCtorEq] at hsamples <;> omega

/-- A chunk with samples for which no silence buffer can be made is let go. -/
theorem audioChunkIn_unsilenced {samples : Nat}
    (hsamples : chunk.getNumSamples? = some (samples + 1)) (hnot : ¬ filter.Silenced outcome) :
    filter.audioChunkIn outcome (some chunk) =
      .ok ([], { filter with outputAudioChunk := some chunk }.firstPacket chunk) := by
  rcases not_or.mp hnot with ⟨hnone, hgranted⟩
  have hlost : (({ filter with outputAudioChunk := some chunk }.firstPacket
      chunk).silentChannelBuffer.isNone && !outcome.silenceGranted) = true := by
    rw [firstPacket_silentChannelBuffer, Bool.eq_false_iff.mpr hgranted]
    simp only [not_not] at hnone
    simp [hnone]
  simp only [audioChunkIn, hsamples]
  rw [receive, hlost, if_pos rfl]

section Sampled

variable (sound : Sound filter.bufferQueue) {samples : Nat}
  (hsamples : chunk.getNumSamples? = some (samples + 1))
include sound hsamples

/-- A chunk with samples is received without a fault if and only if it fits. -/
theorem audioChunkIn_succeeds :
    Succeeds (filter.audioChunkIn outcome (some chunk)) ↔ filter.Fits outcome chunk := by
  by_cases silenced : filter.Silenced outcome
  · have hready : Sound (filter.readied chunk).bufferQueue := by rwa [readied_bufferQueue]
    rw [audioChunkIn_eq hsamples silenced, succeeds_if,
      stream_succeeds hready readied_isFirstPacket readied_silentChannelBuffer
        (numBytes_pos hsamples), readied_fitsStream]
    constructor
    · intro hfits _ hstatus
      exact hfits.1 hstatus
    · intro hfits
      exact ⟨hfits silenced, fun _ => succeeds_ok _⟩
  · rw [audioChunkIn_unsilenced hsamples silenced]
    exact iff_of_true (succeeds_ok _) (fun hsilenced => absurd hsilenced silenced)

theorem audioChunkIn_sound {result : List Call × LiveStreamFilter}
    (hchunk : filter.audioChunkIn outcome (some chunk) = .ok result) :
    Sound result.2.bufferQueue := by
  by_cases silenced : filter.Silenced outcome
  · have hready : Sound (filter.readied chunk).bufferQueue := by rwa [readied_bufferQueue]
    rw [audioChunkIn_eq hsamples silenced] at hchunk
    split_ifs at hchunk
    · exact stream_sound hready hchunk
    · cases hchunk
      exact hready
  · rw [audioChunkIn_unsilenced hsamples silenced] at hchunk
    cases hchunk
    have hqueue : ({ filter with outputAudioChunk := some chunk }.firstPacket
        chunk).bufferQueue = filter.bufferQueue := by
      unfold firstPacket
      split_ifs <;> rfl
    rwa [hqueue]

end Sampled

end LiveStreamFilter

/-! ### Runs -/

namespace Plugin

/-- A chunk that is handed over is not empty. -/
def Label.Sampled : Label → Prop
  | .chunk _ (some input) => ∃ samples, input.getNumSamples? = some (samples + 1)
  | _ => True

variable {plugin : Plugin}

def Fits (plugin : Plugin) : Label → Prop
  | .chunk outcome (some chunk) => plugin.filter.Fits outcome chunk
  | _ => True

theorem start_bufferQueue (opening : Opening) :
    (plugin.start opening).filter.bufferQueue = plugin.filter.bufferQueue := by
  unfold start create
  split_ifs <;> rfl

theorem stop_bufferQueue : plugin.stop.filter.bufferQueue = plugin.filter.bufferQueue := by
  unfold stop
  dsimp only
  split <;> rfl

/-- No event touches the queue. -/
theorem captureEventIn_bufferQueue (opening : Opening) (event : CaptureEvent) :
    (plugin.captureEventIn opening event).filter.bufferQueue = plugin.filter.bufferQueue := by
  unfold captureEventIn
  dsimp only
  split_ifs
  · exact start_bufferQueue opening
  · exact stop_bufferQueue
  · rfl
  · rfl

theorem chunkIn_null (outcome : Outcome) : plugin.chunkIn outcome none =
    .ok { plugin with filter := { plugin.filter with outputAudioChunk := none } } := rfl

theorem after_succeeds (sound : Sound plugin.filter.bufferQueue) {label : Label}
    (sampled : label.Sampled) : Succeeds (plugin.after label) ↔ plugin.Fits label := by
  cases label with
  | event opening event => exact iff_of_true (succeeds_ok _) trivial
  | startStream opening found => exact iff_of_true (succeeds_ok _) trivial
  | stopStream nativecallid found => exact iff_of_true (succeeds_ok _) trivial
  | chunk outcome inputAudioChunk =>
      cases inputAudioChunk with
      | none => exact iff_of_true ⟨_, chunkIn_null outcome⟩ trivial
      | some chunk =>
          rcases sampled with ⟨samples, hsamples⟩
          rw [Fits, ← LiveStreamFilter.audioChunkIn_succeeds sound hsamples, after, chunkIn]
          cases plugin.filter.audioChunkIn outcome (some chunk) with
          | error fault => exact iff_of_false (not_succeeds_error _) (not_succeeds_error _)
          | ok result => exact iff_of_true (succeeds_ok _) (succeeds_ok _)

theorem step_sound {label : Label} {plugin' : Plugin} (sampled : label.Sampled)
    (sound : Sound plugin.filter.bufferQueue) (step : Step plugin label plugin') :
    Sound plugin'.filter.bufferQueue := by
  cases label with
  | event opening event =>
      cases step
      rwa [captureEventIn_bufferQueue]
  | startStream opening found =>
      cases step
      unfold startStreamNativeCallId
      split_ifs
      · rwa [captureEventIn_bufferQueue]
      · exact sound
  | stopStream nativecallid found =>
      cases step
      unfold stopStreamNativeCallId
      split_ifs
      · rwa [captureEventIn_bufferQueue]
      · exact sound
  | chunk outcome inputAudioChunk =>
      cases inputAudioChunk with
      | none =>
          rw [Step, after, chunkIn_null] at step
          cases step
          exact sound
      | some chunk =>
          rcases sampled with ⟨samples, hsamples⟩
          rw [Step, after, chunkIn] at step
          cases hchunk : plugin.filter.audioChunkIn outcome (some chunk) with
          | error fault =>
              rw [hchunk] at step
              cases step
          | ok result =>
              rw [hchunk] at step
              cases step
              exact LiveStreamFilter.audioChunkIn_sound sound hsamples hchunk

theorem new_sound {queueFlushThresholdMillis : Int} {shouldStreamAllCalls : Bool}
    (hnew : Plugin.new queueFlushThresholdMillis shouldStreamAllCalls = .ok plugin) :
    Sound plugin.filter.bufferQueue := by
  rw [Plugin.new] at hnew
  split_ifs at hnew
  cases hnew
  rcases Nat.eq_zero_or_pos (queueFlushThresholdMillis.tdiv g711PacketInterval).toNat with
    hnone | hsome
  · exact .bare hnone rfl rfl rfl
  · exact .held [] (RingBuffer.Holds.new _ hsome)

/-- With any threshold, a run reads no memory but that of the buffers it is given and no cell
outside of the queue, and divides by no zero, if and only if every chunk that it streams fits. -/
theorem reads_inside_iff {queueFlushThresholdMillis : Int} {shouldStreamAllCalls : Bool}
    (hnew : Plugin.new queueFlushThresholdMillis shouldStreamAllCalls = .ok plugin)
    {labels : List Label} (sampled : ∀ label ∈ labels, label.Sampled) :
    Always Step (fun state label => Succeeds (state.after label)) plugin labels ↔
      Always Step Fits plugin labels :=
  Always.congr Label.Sampled (fun _ _ _ admitted sound step => step_sound admitted sound step)
    (fun _ _ admitted sound => after_succeeds sound admitted) (new_sound hnew) sampled

/-- The call becomes known, and its stream is opened. -/
def callKnown : Label := .event {} { type := .etCallId, value := "1" }

/-- A chunk of so many bytes. -/
def ulawChunk (channel : UInt8) (numBytes : UInt32) : Label :=
  .chunk {} (some
    { details := { encoding := .ulawAudio, numBytes := numBytes, channel := channel }
      buffer := fun _ => 0 })

theorem reads_inside_two_sizes : ∃ plugin : Plugin, Plugin.new 40 true = .ok plugin ∧
    (Always Step (fun state label => Succeeds (state.after label)) plugin
        [callKnown, ulawChunk 1 2, ulawChunk 2 1] ↔
      Always Step Fits plugin [callKnown, ulawChunk 1 2, ulawChunk 2 1]) := by
  refine ⟨_, rfl, @reads_inside_iff _ 40 true rfl _ ?_⟩
  intro label hlabel
  simp only [List.mem_cons, List.not_mem_nil, or_false] at hlabel
  rcases hlabel with rfl | rfl | rfl
  · trivial
  · exact ⟨1, rfl⟩
  · exact ⟨0, rfl⟩

/-- Below 20 milliseconds there is no cell for the first chunk; and a chunk of two bytes is
written with one byte of the other side. -/
theorem reads_outside :
    (∃ plugin : Plugin, Plugin.new 10 true = .ok plugin ∧
      ¬ Always Step (fun state label => Succeeds (state.after label)) plugin
        [callKnown, ulawChunk 1 1]) ∧
    ∃ plugin : Plugin, Plugin.new 40 true = .ok plugin ∧
      ¬ Always Step (fun state label => Succeeds (state.after label)) plugin
        [callKnown, ulawChunk 1 1, ulawChunk 2 2] := by
  constructor
  · refine ⟨_, rfl, fun always => ?_⟩
    rcases always [callKnown] _ [] _ rfl (.cons rfl (.nil _)) with ⟨state, hstate⟩
    cases hstate
  · refine ⟨_, rfl, fun always => ?_⟩
    rcases always [callKnown, ulawChunk 1 1] _ [] _ rfl (.cons rfl (.cons rfl (.nil _))) with
      ⟨state, hstate⟩
    cases hstate

end Plugin

end OrkAudio.LiveStream
