import OrkAudio.Lib.Steps
import OrkAudio.LiveStream.Frames

/-! Both sides of a call in the frames that are written.

While the stream is on and all chunks have one size, what is written and what waits in the
queue is what was received. -/

namespace OrkAudio.LiveStream

open Lib

/-- The chunk in a half of a frame, unless it is silence. -/
def Source.chunk? : Source → Option AudioChunk
  | .silence => none
  | .chunk held => some held

/-- A chunk with samples, of this size. -/
structure Sized (n : Nat) (chunk : AudioChunk) : Prop where
  size : numBytes chunk = n
  samples : ∃ samples, chunk.getNumSamples? = some (samples + 1)

/-- The two halves of a frame are whole buffers of this size, byte by byte in turn. -/
def Whole (n : Nat) (frame : Frame) : Prop :=
  ∃ first second : List UInt8, first.length = n ∧ second.length = n ∧
    frame.data = interleaved first second ∧
    first = (frame.first.chunk?.map chunkBytes).getD (List.replicate n 255) ∧
    second = (frame.second.chunk?.map chunkBytes).getD (List.replicate n 255)

/-- The stream is on, and what waits in the queue has the one size. -/
structure Ready (handle n : Nat) (filter : LiveStreamFilter) (waiting : List AudioChunk) :
    Prop where
  status : filter.status = true
  rtmp : filter.rtmp = some handle
  holds : filter.bufferQueue.Holds (waiting.map some)
  sizes : ∀ chunk ∈ waiting, numBytes chunk = n
  silence : ∀ silent, filter.silentChannelBuffer = some silent → silent = List.replicate n 255

/-- What one chunk leads to: the frames written and what waits are, on the one side, what
waited and the chunk if it is of the head channel, and on the other the chunk if it is not. -/
structure Taken (n : Nat) (head : UInt8) (waiting : List AudioChunk) (chunk : AudioChunk)
    (frames : List Frame) (waiting' : List AudioChunk) : Prop where
  few : frames.length ≤ 1
  second : frames.filterMap (fun frame => frame.second.chunk?) ++ waiting' =
    waiting ++ [chunk].filter (fun c => c.details.channel = head)
  first : frames.filterMap (fun frame => frame.first.chunk?) =
    [chunk].filter (fun c => ¬ c.details.channel = head)
  whole : ∀ frame ∈ frames, Whole n frame

namespace Ready

variable {handle n : Nat} {filter : LiveStreamFilter} {waiting : List AudioChunk}
  {chunk : AudioChunk}

theorem readied (ready : Ready handle n filter waiting) (sized : Sized n chunk) :
    Ready handle n (filter.readied chunk) waiting ∧
      (filter.readied chunk).silentChannelBuffer = some (List.replicate n 255) := by
  have hsilence : (filter.readied chunk).silentChannelBuffer = some (List.replicate n 255) := by
    rw [LiveStreamFilter.readied_silentChannelBuffer, sized.size]
    cases hsilent : filter.silentChannelBuffer with
    | none => rfl
    | some silent => rw [ready.silence silent hsilent, Option.getD_some]
  refine ⟨⟨?_, ?_, ?_, ready.sizes, ?_⟩, hsilence⟩
  · rw [LiveStreamFilter.readied_status, ready.status]
  · rw [LiveStreamFilter.readied_rtmp, ready.rtmp]
  · rw [LiveStreamFilter.readied_bufferQueue]
    exact ready.holds
  · intro silent hsilent
    rw [hsilence] at hsilent
    exact (Option.some.inj hsilent).symm

/-- The buffers that a frame can be made of have the one size. -/
theorem content_eq (hsilent : filter.silentChannelBuffer = some (List.replicate n 255))
    (source : Source) : filter.content source =
      (source.chunk?.map chunkBytes).getD (List.replicate n 255) := by
  cases source with
  | silence =>
      rw [LiveStreamFilter.content, hsilent]
      rfl
  | chunk held => rfl

/-- A frame of two halves of the one size is written whole. -/
theorem push (ready : Ready handle n filter waiting)
    (hsilent : filter.silentChannelBuffer = some (List.replicate n 255)) (sized : Sized n chunk)
    {first second : Source} (hfirst : ∀ c, first.chunk? = some c → numBytes c = n)
    (hsecond : ∀ c, second.chunk? = some c → numBytes c = n) :
    filter.pushToRTMP {} chunk.details first second =
        .ok ([.written handle (filter.frameOf chunk.details first second)],
          filter.afterFrame {}) ∧
      Whole n (filter.frameOf chunk.details first second) := by
  have hlength : ∀ source : Source, (∀ c, source.chunk? = some c → numBytes c = n) →
      (filter.content source).length = n := by
    intro source hsource
    rw [content_eq hsilent]
    cases hchunk : source.chunk? with
    | none => exact List.length_replicate
    | some c =>
        rw [Option.map_some, Option.getD_some, length_chunkBytes]
        exact hsource c hchunk
  have hnumBytes : chunk.details.numBytes.toNat = n := sized.size
  have hone := hlength first hfirst
  have htwo := hlength second hsecond
  refine ⟨?_, filter.content first, filter.content second, hone, htwo, ?_, ?_, ?_⟩
  · exact LiveStreamFilter.pushToRTMP_eq ready.rtmp rfl (by omega) (by omega)
  · rw [LiveStreamFilter.frameOf, hnumBytes, List.take_of_length_le (Nat.le_of_eq hone),
      List.take_of_length_le (Nat.le_of_eq htwo)]
  · exact content_eq hsilent first
  · exact content_eq hsilent second

theorem afterFrame (ready : Ready handle n filter waiting) :
    Ready handle n (filter.afterFrame {}) waiting :=
  ⟨(Bool.and_true _).trans ready.status, ready.rtmp, ready.holds, ready.sizes, ready.silence⟩

/-- A chunk: it is queued if it is of the head channel and written if not, with the oldest of
the queue. -/
theorem receive (ready : Ready handle n filter waiting) (sized : Sized n chunk) :
    ∃ (frames : List Frame) (filter' : LiveStreamFilter) (waiting' : List AudioChunk),
      filter.audioChunkIn {} (some chunk) = .ok (frames.map (Call.written handle), filter') ∧
      Ready handle n filter' waiting' ∧ filter'.isFirstPacket = false ∧
      filter'.headChannel = filter.headOf chunk ∧
      filter'.bufferQueue.maxSize = filter.bufferQueue.maxSize ∧
      Taken n (filter.headOf chunk) waiting chunk frames waiting' := by
  rcases sized.samples with ⟨samples, hsamples⟩
  rcases ready.readied sized with ⟨readied, hsilent⟩
  have hstart : filter.audioChunkIn {} (some chunk) = (filter.readied chunk).stream {} chunk := by
    rw [LiveStreamFilter.audioChunkIn_eq hsamples (.inr rfl), ready.status, if_pos rfl]
  have hhead : (filter.readied chunk).headChannel = filter.headOf chunk :=
    LiveStreamFilter.readied_headChannel
  have hfirst : (filter.readied chunk).isFirstPacket = false :=
    LiveStreamFilter.readied_isFirstPacket
  have hmaxSize : (filter.readied chunk).bufferQueue.maxSize = filter.bufferQueue.maxSize := by
    rw [LiveStreamFilter.readied_bufferQueue]
  by_cases hchannel : chunk.details.channel = filter.headOf chunk
  · rcases @LiveStreamFilter.stream_head _ {} _ _ readied.holds
      (hchannel.trans hhead.symm) with ⟨queue, hholds, hsize, hstream⟩
    have hconserves := @Fifo.put_conserves _ _ waiting chunk
      (Nat.zero_lt_of_lt readied.holds.tail_lt)
    have hqueued : Ready handle n ((filter.readied chunk).withQueue queue)
        (Fifo.put (filter.readied chunk).bufferQueue.maxSize waiting chunk).2 := by
      refine ⟨readied.status, readied.rtmp, hholds, ?_, readied.silence⟩
      intro c hc
      rcases Fifo.mem_of_put hc with hold | rfl
      · exact ready.sizes c hold
      · exact sized.size
    rw [hstart, hstream]
    cases hout : (Fifo.put (filter.readied chunk).bufferQueue.maxSize waiting chunk).1 with
    | none =>
        rw [hout] at hconserves
        refine ⟨[], _, _, rfl, hqueued, hfirst, hhead, hsize.trans hmaxSize, ?_⟩
        refine ⟨Nat.zero_le 1, ?_, ?_, fun frame hframe => absurd hframe List.not_mem_nil⟩
        · rw [List.filter_singleton, decide_eq_true hchannel]
          exact hconserves
        · rw [List.filter_singleton, decide_eq_false (not_not.mpr hchannel)]
          rfl
    | some elem =>
        rw [hout] at hconserves
        have helem := ready.sizes elem (Fifo.mem_of_put_out hout)
        have hnone : ∀ c, Source.silence.chunk? = some c → numBytes c = n := by
          intro c hc
          cases hc
        have hsome : ∀ c, (Source.chunk elem).chunk? = some c → numBytes c = n := by
          intro c hc
          rcases Option.some.inj hc with rfl
          exact helem
        rcases hqueued.push hsilent sized hnone hsome with ⟨hpush, hwhole⟩
        refine ⟨[_], _, _, hpush, hqueued.afterFrame, hfirst, hhead, hsize.trans hmaxSize, ?_⟩
        refine ⟨le_refl 1, ?_, ?_, fun frame hframe => List.mem_singleton.mp hframe ▸ hwhole⟩
        · rw [List.filter_singleton, decide_eq_true hchannel]
          exact hconserves
        · rw [List.filter_singleton, decide_eq_false (not_not.mpr hchannel)]
          rfl
  · rcases @LiveStreamFilter.stream_other _ {} _ _ readied.holds
      (fun hsame => hchannel (hsame.trans hhead)) with ⟨queue, hholds, hsize, hstream⟩
    have hconserves := Fifo.get_conserves waiting
    have hqueued : Ready handle n ((filter.readied chunk).withQueue queue)
        (Fifo.get waiting).2 := by
      refine ⟨readied.status, readied.rtmp, hholds, ?_, readied.silence⟩
      exact fun c hc => ready.sizes c (Fifo.mem_of_get hc)
    have hsecond : ∀ c, ((Fifo.get waiting).1.elim Source.silence Source.chunk).chunk? = some c →
        numBytes c = n := by
      intro c hc
      cases hout : (Fifo.get waiting).1 with
      | none =>
          rw [hout] at hc
          cases hc
      | some elem =>
          rw [hout] at hc
          rcases Option.some.inj hc with rfl
          exact ready.sizes _ (Fifo.mem_of_get_out hout)
    have hout : ((Fifo.get waiting).1.elim Source.silence Source.chunk).chunk? =
        (Fifo.get waiting).1 := by
      cases (Fifo.get waiting).1 <;> rfl
    have hown : ∀ c, (Source.chunk chunk).chunk? = some c → numBytes c = n := by
      intro c hc
      rcases Option.some.inj hc with rfl
      exact sized.size
    rcases hqueued.push hsilent sized hown hsecond with ⟨hpush, hwhole⟩
    rw [hstart, hstream]
    refine ⟨[_], _, _, hpush, hqueued.afterFrame, hfirst, hhead, hsize.trans hmaxSize, ?_⟩
    refine ⟨le_refl 1, ?_, ?_, fun frame hframe => List.mem_singleton.mp hframe ▸ hwhole⟩
    · rw [List.filter_singleton, decide_eq_false hchannel]
      simp only [List.filterMap_cons, List.filterMap_nil, LiveStreamFilter.frameOf, hout]
      cases hget : (Fifo.get waiting).1 <;> rw [hget] at hconserves <;> simpa using hconserves
    · rw [List.filter_singleton, decide_eq_true hchannel]
      rfl

end Ready

namespace Plugin

/-- Chunks that are handed to the filter, each with the memory it needs and a write that
succeeds. -/
def deliveries (chunks : List AudioChunk) : List Label :=
  chunks.map fun chunk => .chunk {} (some chunk)

/-- The channel of the head while these chunks come in. -/
def headChannel (filter : LiveStreamFilter) (chunks : List AudioChunk) : UInt8 :=
  (chunks.head?.map filter.headOf).getD filter.headChannel

theorem chunk_step {handle n : Nat} {plugin : Plugin} {waiting : List AudioChunk}
    {chunk : AudioChunk} (ready : Ready handle n plugin.filter waiting) (sized : Sized n chunk) :
    ∃ (frames : List Frame) (plugin' : Plugin) (waiting' : List AudioChunk),
      Step plugin (.chunk {} (some chunk)) plugin' ∧
      plugin'.calls = frames.map (Call.written handle) ++ plugin.calls ∧
      Ready handle n plugin'.filter waiting' ∧ plugin'.filter.isFirstPacket = false ∧
      plugin'.filter.headChannel = plugin.filter.headOf chunk ∧
      plugin'.filter.bufferQueue.maxSize = plugin.filter.bufferQueue.maxSize ∧
      Taken n (plugin.filter.headOf chunk) waiting chunk frames waiting' := by
  rcases ready.receive sized with
    ⟨frames, filter', waiting', hreceive, hready, hfirst, hhead, hsize, htaken⟩
  refine ⟨frames, { plugin with filter := filter', calls := frames.map (Call.written handle) ++
    plugin.calls }, waiting', ?_, rfl, hready, hfirst, hhead, hsize, htaken⟩
  rw [Step, after, chunkIn, hreceive]
  rfl

/-- A run over chunks of one size: what is written on either side, and what waits. -/
theorem chunks_run {handle n : Nat} {plugin : Plugin} {waiting : List AudioChunk}
    (ready : Ready handle n plugin.filter waiting) (chunks : List AudioChunk)
    (sized : ∀ chunk ∈ chunks, Sized n chunk) :
    ∃ (frames : List Frame) (plugin' : Plugin) (waiting' : List AudioChunk),
      Steps Step plugin (deliveries chunks) plugin' ∧
      plugin'.calls = (frames.map (Call.written handle)).reverse ++ plugin.calls ∧
      Ready handle n plugin'.filter waiting' ∧
      plugin'.filter.bufferQueue.maxSize = plugin.filter.bufferQueue.maxSize ∧
      frames.filterMap (fun frame => frame.second.chunk?) ++ waiting' =
        waiting ++ chunks.filter (fun c => c.details.channel = headChannel plugin.filter chunks) ∧
      frames.filterMap (fun frame => frame.first.chunk?) =
        chunks.filter (fun c => ¬ c.details.channel = headChannel plugin.filter chunks) ∧
      ∀ frame ∈ frames, Whole n frame := by
  induction chunks generalizing plugin waiting with
  | nil =>
      refine ⟨[], plugin, waiting, .nil plugin, rfl, ready, rfl, ?_, rfl, ?_⟩
      · simp
      · exact fun frame hframe => absurd hframe List.not_mem_nil
  | cons chunk chunks ih =>
      rcases chunk_step ready (sized chunk List.mem_cons_self) with
        ⟨frames, middle, waiting', hstep, hcalls, hready, hfirst, hhead, hsize, htaken⟩
      rcases ih hready (fun c hc => sized c (List.mem_cons_of_mem chunk hc)) with
        ⟨more, final, left, hrun, hmore, hfinal, hsize', hsecond, hother, hwhole⟩
      have hsame : headChannel middle.filter chunks = plugin.filter.headOf chunk := by
        rw [headChannel, hhead]
        cases chunks with
        | nil => rfl
        | cons next rest =>
            rw [List.head?_cons, Option.map_some, Option.getD_some, LiveStreamFilter.headOf,
              hfirst, if_neg Bool.false_ne_true, hhead]
      have hchannel : headChannel plugin.filter (chunk :: chunks) = plugin.filter.headOf chunk :=
        rfl
      have hreverse : frames.reverse = frames := by
        have hfew := htaken.few
        cases frames with
        | nil => rfl
        | cons frame rest =>
            rw [List.length_cons] at hfew
            rw [List.eq_nil_of_length_eq_zero (Nat.le_zero.mp (Nat.le_of_succ_le_succ hfew)),
              List.reverse_singleton]
      rw [hsame] at hsecond hother
      refine ⟨frames ++ more, final, left, .cons hstep hrun, ?_, hfinal, hsize'.trans hsize,
        ?_, ?_, ?_⟩
      · rw [hmore, hcalls, List.map_append, List.reverse_append, ← List.map_reverse (l := frames),
          hreverse, List.append_assoc]
      · calc (frames ++ more).filterMap (fun frame => frame.second.chunk?) ++ left
            = frames.filterMap (fun frame => frame.second.chunk?) ++
                (more.filterMap (fun frame => frame.second.chunk?) ++ left) := by
              rw [List.filterMap_append, List.append_assoc]
          _ = frames.filterMap (fun frame => frame.second.chunk?) ++ waiting' ++
                chunks.filter (fun c => c.details.channel = plugin.filter.headOf chunk) := by
              rw [hsecond, List.append_assoc]
          _ = waiting ++ (chunk :: chunks).filter (fun c =>
                c.details.channel = headChannel plugin.filter (chunk :: chunks)) := by
              rw [htaken.second, List.append_assoc, ← List.filter_append, hchannel]
              rfl
      · rw [List.filterMap_append, htaken.first, hother, ← List.filter_append, hchannel]
        rfl
      · intro frame hframe
        rcases List.mem_append.mp hframe with hold | hnew
        · exact htaken.whole frame hold
        · exact hwhole frame hnew

/-- The ring buffer is a bounded queue, first in, first out; and with the stream on, chunks of
one size are written in order: what waited and those of the head channel once each but for what
still waits, which the queue has room for, and the others once each. -/
theorem both_sides_whole :
    (∀ {α : Type} (ring : RingBuffer α) (queue : List α), ring.Holds queue →
      (∀ item, ∃ after, ring.put item = .ok ((Fifo.put ring.maxSize queue item).1, after) ∧
        after.Holds (Fifo.put ring.maxSize queue item).2 ∧ after.maxSize = ring.maxSize) ∧
      (∃ after, ring.get = .ok ((Fifo.get queue).1, after) ∧
        after.Holds (Fifo.get queue).2 ∧ after.maxSize = ring.maxSize) ∧
      (ring.empty = true ↔ queue = []) ∧ ring.size = queue.length) ∧
    ∀ {handle n : Nat} {plugin : Plugin} {waiting : List AudioChunk} (chunks : List AudioChunk),
      Ready handle n plugin.filter waiting → (∀ chunk ∈ chunks, Sized n chunk) →
      ∃ (frames : List Frame) (plugin' : Plugin) (left : List AudioChunk),
        Steps Step plugin (deliveries chunks) plugin' ∧
        plugin'.calls = (frames.map (Call.written handle)).reverse ++ plugin.calls ∧
        (∀ frame ∈ frames, Whole n frame) ∧
        frames.filterMap (fun frame => frame.second.chunk?) ++ left = waiting ++
          chunks.filter (fun c => c.details.channel = headChannel plugin.filter chunks) ∧
        left.length ≤ plugin.filter.bufferQueue.maxSize ∧
        frames.filterMap (fun frame => frame.first.chunk?) =
          chunks.filter (fun c => ¬ c.details.channel = headChannel plugin.filter chunks) := by
  constructor
  · intro α ring queue holds
    exact ⟨fun item => holds.put item, holds.get, holds.empty_iff, holds.size_eq⟩
  · intro handle n plugin waiting chunks ready sized
    rcases chunks_run ready chunks sized with
      ⟨frames, plugin', left, hrun, hcalls, hready, hsize, hsecond, hfirst, hwhole⟩
    refine ⟨frames, plugin', left, hrun, hcalls, hwhole, hsecond, ?_, hfirst⟩
    have hlength := hready.holds.length_le
    rwa [List.length_map, hsize] at hlength

/-- A filter with room for two chunks, once its call is known. -/
def opened : Plugin :=
  Plugin.captureEventIn
    { filter :=
        { bufferQueue := { buf := fun _ => none, maxSize := 2 }, shouldStreamAllCalls := true } }
    {} { type := .etCallId, value := "1" }

/-- A chunk of two bytes. -/
def piece (channel : UInt8) : AudioChunk :=
  { details := { encoding := .ulawAudio, numBytes := 2, channel := channel }, buffer := fun _ => 0 }

theorem sized_piece (channel : UInt8) : Sized 2 (piece channel) := ⟨rfl, 1, rfl⟩

theorem ready_opened : Ready 0 2 opened.filter [] := by
  refine ⟨rfl, rfl, RingBuffer.Holds.new _ Nat.zero_lt_two, ?_, ?_⟩
  · intro chunk hchunk
    exact absurd hchunk List.not_mem_nil
  · intro silent hsilent
    cases hsilent

theorem both_sides_whole_pieces :
    ∃ (frames : List Frame) (plugin' : Plugin) (left : List AudioChunk),
    Steps Step opened (deliveries [piece 1, piece 2, piece 1]) plugin' ∧
    plugin'.calls = (frames.map (Call.written 0)).reverse ++ opened.calls ∧
    (∀ frame ∈ frames, Whole 2 frame) ∧
    frames.filterMap (fun frame => frame.second.chunk?) ++ left = [piece 1, piece 1] ∧
    left.length ≤ 2 ∧
    frames.filterMap (fun frame => frame.first.chunk?) = [piece 2] := by
  have hsized : ∀ chunk ∈ [piece 1, piece 2, piece 1], Sized 2 chunk := by
    intro chunk hchunk
    simp only [List.mem_cons, List.not_mem_nil, or_false] at hchunk
    rcases hchunk with rfl | rfl | rfl <;> exact sized_piece _
  exact both_sides_whole.2 [piece 1, piece 2, piece 1] ready_opened hsized

end Plugin

end OrkAudio.LiveStream
