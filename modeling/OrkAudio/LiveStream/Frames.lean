import OrkAudio.LiveStream.Filter

/-! What one frame is made of, and when it can be made. -/

namespace OrkAudio.LiveStream

open Lib

/-- The bytes of two halves in turn. -/
def interleaved : List UInt8 → List UInt8 → List UInt8
  | a :: first, b :: second => a :: b :: interleaved first second
  | _, _ => []

def chunkBytes (chunk : AudioChunk) : List UInt8 := (List.range (numBytes chunk)).map (byteOf chunk)

@[simp] theorem length_chunkBytes (chunk : AudioChunk) :
    (chunkBytes chunk).length = numBytes chunk := by
  rw [chunkBytes, List.length_map, List.length_range]

namespace LiveStreamFilter

variable {filter : LiveStreamFilter} {outcome : Outcome} {first second : Source}

/-- The buffer that a source points to. -/
def content (filter : LiveStreamFilter) : Source → List UInt8
  | .silence => filter.silentChannelBuffer.getD []
  | .chunk chunk => chunkBytes chunk

theorem readByte_of_lt {source : Source} {i : Nat} (hi : i < (filter.content source).length) :
    filter.readByte source i = .ok ((filter.content source).getD i 0) := by
  cases source with
  | silence =>
      rw [content] at hi
      rw [readByte, content]
      cases hsilent : filter.silentChannelBuffer with
      | none =>
          rw [hsilent] at hi
          exact absurd hi (Nat.not_lt_zero i)
      | some silent =>
          rw [hsilent, Option.getD_some] at hi
          simp only [if_neg (Nat.not_le.mpr hi), Option.getD_some]
  | chunk chunk =>
      rw [content, length_chunkBytes] at hi
      rw [readByte, if_neg (Nat.not_le.mpr hi), content, chunkBytes, List.getD_eq_getElem?_getD,
        List.getElem?_map, List.getElem?_range hi]
      rfl

theorem readByte_of_le {source : Source} {i : Nat} (hi : (filter.content source).length ≤ i) :
    ¬ Succeeds (filter.readByte source i) := by
  rintro ⟨b, hb⟩
  cases source with
  | silence =>
      rw [content] at hi
      rw [readByte] at hb
      cases hsilent : filter.silentChannelBuffer with
      | none =>
          rw [hsilent] at hb
          cases hb
      | some silent =>
          rw [hsilent, Option.getD_some] at hi
          simp only [hsilent, if_pos hi] at hb
          cases hb
  | chunk chunk =>
      rw [content, length_chunkBytes] at hi
      rw [readByte, if_pos hi] at hb
      cases hb

theorem drop_cons_getD {bytes : List UInt8} {i : Nat} (hi : i < bytes.length) :
    bytes.drop i = bytes.getD i 0 :: bytes.drop (i + 1) := by
  rw [List.drop_eq_getElem_cons hi, List.getD_eq_getElem?_getD, List.getElem?_eq_getElem hi]
  rfl

theorem interleave_eq {left i : Nat} (hfirst : i + left ≤ (filter.content first).length)
    (hsecond : i + left ≤ (filter.content second).length) :
    filter.interleave first second left i =
      .ok (interleaved (((filter.content first).drop i).take left)
        (((filter.content second).drop i).take left)) := by
  induction left generalizing i with
  | zero => rfl
  | succ left ih =>
      have hi : i < (filter.content first).length := by omega
      have hj : i < (filter.content second).length := by omega
      rw [interleave, readByte_of_lt hi, readByte_of_lt hj, drop_cons_getD hi, drop_cons_getD hj,
        List.take_succ_cons, List.take_succ_cons, interleaved]
      have hrest := @ih (i + 1) (by omega) (by omega)
      rw [hrest]
      rfl

theorem interleave_succeeds {left i : Nat}
    (hdone : Succeeds (filter.interleave first second left i)) (hleft : 0 < left) :
    i + left ≤ (filter.content first).length ∧ i + left ≤ (filter.content second).length := by
  induction left generalizing i with
  | zero => omega
  | succ left ih =>
      rcases hdone with ⟨data, hdata⟩
      rw [interleave, bind_eq_ok] at hdata
      rcases hdata with ⟨a, ha, hdata⟩
      rw [bind_eq_ok] at hdata
      rcases hdata with ⟨b, hb, hdata⟩
      rw [bind_eq_ok] at hdata
      rcases hdata with ⟨rest, hrest, -⟩
      have hi : i < (filter.content first).length := by
        by_contra hle
        exact readByte_of_le (Nat.not_lt.mp hle) ⟨a, ha⟩
      have hj : i < (filter.content second).length := by
        by_contra hle
        exact readByte_of_le (Nat.not_lt.mp hle) ⟨b, hb⟩
      rcases Nat.eq_zero_or_pos left with rfl | hpositive
      · omega
      · have hboth := ih ⟨rest, hrest⟩ hpositive
        omega

/-- The frame that `PushToRTMP` writes. -/
def frameOf (filter : LiveStreamFilter) (channelDetails : AudioChunkDetails)
    (first second : Source) : Frame where
  first := first
  second := second
  soundFormat := soundFormatOf channelDetails
  data := interleaved ((filter.content first).take channelDetails.numBytes.toNat)
    ((filter.content second).take channelDetails.numBytes.toNat)
  timestamp := filter.timestamp + 160

/-- The filter after a frame. -/
def afterFrame (filter : LiveStreamFilter) (outcome : Outcome) : LiveStreamFilter :=
  { filter with
    timestamp := filter.timestamp + 160
    status := filter.status && outcome.written }

theorem pushToRTMP_closed {channelDetails : AudioChunkDetails} (hrtmp : filter.rtmp = none) :
    filter.pushToRTMP outcome channelDetails first second = .ok ([], filter) := by
  rw [pushToRTMP, hrtmp]

theorem pushToRTMP_open {channelDetails : AudioChunkDetails} {handle : Nat}
    (hrtmp : filter.rtmp = some handle) :
    filter.pushToRTMP outcome channelDetails first second =
      if outcome.frameGranted then
        filter.interleave first second channelDetails.numBytes.toNat 0 >>= fun data =>
          .ok ([.written handle { filter.frameOf channelDetails first second with data := data }],
            filter.afterFrame outcome)
      else .ok ([], { filter with timestamp := filter.timestamp + 160 }) := by
  unfold pushToRTMP
  split
  · rename_i hnone
    rw [hrtmp] at hnone
    cases hnone
  · rename_i other hother
    rw [hrtmp] at hother
    rcases Option.some.inj hother with rfl
    rfl

theorem pushToRTMP_eq {channelDetails : AudioChunkDetails} {handle : Nat}
    (hrtmp : filter.rtmp = some handle) (hgranted : outcome.frameGranted = true)
    (hfirst : channelDetails.numBytes.toNat ≤ (filter.content first).length)
    (hsecond : channelDetails.numBytes.toNat ≤ (filter.content second).length) :
    filter.pushToRTMP outcome channelDetails first second =
      .ok ([.written handle (filter.frameOf channelDetails first second)],
        filter.afterFrame outcome) := by
  have hdata := @interleave_eq filter first second channelDetails.numBytes.toNat 0
    (by omega) (by omega)
  rw [pushToRTMP_open hrtmp, if_pos hgranted, hdata]
  rfl

theorem pushToRTMP_succeeds {channelDetails : AudioChunkDetails} {handle : Nat}
    (hrtmp : filter.rtmp = some handle) (hgranted : outcome.frameGranted = true)
    (hpositive : 0 < channelDetails.numBytes.toNat)
    (hdone : Succeeds (filter.pushToRTMP outcome channelDetails first second)) :
    channelDetails.numBytes.toNat ≤ (filter.content first).length ∧
      channelDetails.numBytes.toNat ≤ (filter.content second).length := by
  rcases hdone with ⟨result, hresult⟩
  rw [pushToRTMP_open hrtmp, if_pos hgranted] at hresult
  rcases bind_eq_ok.mp hresult with ⟨data, hdata, -⟩
  have hboth := interleave_succeeds ⟨data, hdata⟩ hpositive
  rwa [Nat.zero_add] at hboth

/-! ### The filter made ready for a chunk -/

variable {chunk : AudioChunk}

/-- The filter when it looks at its status: the chunk noted, the first one remembered, and
the silence buffer made. -/
def readied (filter : LiveStreamFilter) (chunk : AudioChunk) : LiveStreamFilter :=
  ({ filter with outputAudioChunk := some chunk }.firstPacket chunk).withSilence chunk

/-- There is a silence buffer at that time. -/
def Silenced (filter : LiveStreamFilter) (outcome : Outcome) : Prop :=
  filter.silentChannelBuffer ≠ none ∨ outcome.silenceGranted = true

/-- The channel of the head. -/
def headOf (filter : LiveStreamFilter) (chunk : AudioChunk) : UInt8 :=
  if filter.isFirstPacket then chunk.details.channel else filter.headChannel

@[simp] theorem readied_status : (filter.readied chunk).status = filter.status := by
  unfold readied withSilence firstPacket
  split_ifs <;> split <;> rfl

@[simp] theorem readied_rtmp : (filter.readied chunk).rtmp = filter.rtmp := by
  unfold readied withSilence firstPacket
  split_ifs <;> split <;> rfl

@[simp] theorem readied_bufferQueue : (filter.readied chunk).bufferQueue = filter.bufferQueue := by
  unfold readied withSilence firstPacket
  split_ifs <;> split <;> rfl

@[simp] theorem readied_isFirstPacket : (filter.readied chunk).isFirstPacket = false := by
  unfold readied withSilence firstPacket
  split_ifs with hfirst <;> split <;> first | rfl | exact Bool.eq_false_iff.mpr hfirst

@[simp] theorem readied_headChannel : (filter.readied chunk).headChannel = filter.headOf chunk := by
  unfold readied withSilence firstPacket headOf
  split_ifs <;> split <;> rfl

theorem firstPacket_silentChannelBuffer :
    (filter.firstPacket chunk).silentChannelBuffer = filter.silentChannelBuffer := by
  unfold firstPacket
  split_ifs <;> rfl

theorem withSilence_silentChannelBuffer : (filter.withSilence chunk).silentChannelBuffer =
    some (filter.silentChannelBuffer.getD (List.replicate (numBytes chunk) 255)) := by
  unfold withSilence
  split
  · rename_i hnone
    rw [hnone]
    rfl
  · rename_i silent hsome
    rw [hsome]
    rfl

theorem readied_silentChannelBuffer : (filter.readied chunk).silentChannelBuffer =
    some (filter.silentChannelBuffer.getD (List.replicate (numBytes chunk) 255)) := by
  rw [readied, withSilence_silentChannelBuffer, firstPacket_silentChannelBuffer]

/-- A chunk with samples, once there is a silence buffer. -/
theorem audioChunkIn_eq {samples : Nat} (hsamples : chunk.getNumSamples? = some (samples + 1))
    (silenced : filter.Silenced outcome) :
    filter.audioChunkIn outcome (some chunk) =
      if filter.status then (filter.readied chunk).stream outcome chunk
      else .ok ([], filter.readied chunk) := by
  have hgranted : (({ filter with outputAudioChunk := some chunk }.firstPacket
      chunk).silentChannelBuffer.isNone && !outcome.silenceGranted) = false := by
    rw [firstPacket_silentChannelBuffer]
    rcases silenced with hsome | hgranted
    · rcases Option.ne_none_iff_exists'.mp hsome with ⟨silent, hsilent⟩
      simp [hsilent]
    · rw [hgranted, Bool.not_true, Bool.and_false]
  simp only [audioChunkIn, hsamples]
  rw [receive, hgranted, if_neg Bool.false_ne_true]
  exact congrArg (fun status => if status = true then (filter.readied chunk).stream outcome chunk
    else .ok ([], filter.readied chunk)) readied_status

/-! ### The queue -/

/-- The filter with another state of its queue. -/
def withQueue (filter : LiveStreamFilter) (queue : RingBuffer AudioChunkRef) : LiveStreamFilter :=
  { filter with bufferQueue := queue }

section Queue

variable {waiting : List AudioChunk} (holds : filter.bufferQueue.Holds (waiting.map some))
include holds

/-- A chunk of the head channel is put in the queue, and what comes out of it is written. -/
theorem stream_head (hchannel : chunk.details.channel = filter.headChannel) :
    ∃ queue : RingBuffer AudioChunkRef,
      queue.Holds ((Fifo.put filter.bufferQueue.maxSize waiting chunk).2.map some) ∧
      queue.maxSize = filter.bufferQueue.maxSize ∧
      filter.stream outcome chunk =
        (Fifo.put filter.bufferQueue.maxSize waiting chunk).1.elim
          (.ok ([], filter.withQueue queue)) fun elem =>
            (filter.withQueue queue).pushToRTMP outcome chunk.details .silence (.chunk elem) := by
  rcases holds.put (some chunk) with ⟨queue, hput, hholds, hsize⟩
  rw [Fifo.map_put] at hput hholds
  refine ⟨queue, hholds, hsize, ?_⟩
  rw [stream, if_pos hchannel, hput]
  cases (Fifo.put filter.bufferQueue.maxSize waiting chunk).1 with
  | none => rfl
  | some elem => rfl

/-- A chunk of another channel is written with the next of the queue. -/
theorem stream_other (hchannel : chunk.details.channel ≠ filter.headChannel) :
    ∃ queue : RingBuffer AudioChunkRef,
      queue.Holds ((Fifo.get waiting).2.map some) ∧
      queue.maxSize = filter.bufferQueue.maxSize ∧
      filter.stream outcome chunk = (filter.withQueue queue).pushToRTMP outcome chunk.details
        (.chunk chunk) ((Fifo.get waiting).1.elim .silence .chunk) := by
  rcases holds.get with ⟨queue, hget, hholds, hsize⟩
  rw [Fifo.map_get] at hget hholds
  refine ⟨queue, hholds, hsize, ?_⟩
  rw [stream, if_neg hchannel, hget]
  cases (Fifo.get waiting).1 with
  | none => rfl
  | some elem => rfl

end Queue

end LiveStreamFilter

end OrkAudio.LiveStream
