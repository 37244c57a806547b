import OrkAudio.LiveStream.Bounds

/-! The handles of the RTMP library: created, written to and destroyed.

The filter keeps one handle, which it overwrites at a start and leaves at a stop. -/

namespace OrkAudio.LiveStream

open Lib

/-- What the calls have to keep, the last one first: no handle is written to or destroyed
once it is destroyed, and at the end of an EtStop all that were created are destroyed. -/
def Kept : List Call → Prop
  | [] => True
  | .created _ :: earlier => Kept earlier
  | .written handle _ :: earlier => .destroyed handle ∉ earlier ∧ Kept earlier
  | .destroyed handle :: earlier => .destroyed handle ∉ earlier ∧ Kept earlier
  | .stopped :: earlier =>
      (∀ handle, .created handle ∈ earlier → .destroyed handle ∈ earlier) ∧ Kept earlier

/-- The handles created since the last EtStop. -/
def recent : List Call → List Nat
  | [] => []
  | .created handle :: earlier => handle :: recent earlier
  | .written _ _ :: earlier => recent earlier
  | .destroyed _ :: earlier => recent earlier
  | .stopped :: _ => []

theorem created_of_recent {calls : List Call} {handle : Nat} (hrecent : handle ∈ recent calls) :
    .created handle ∈ calls := by
  induction calls with
  | nil => cases hrecent
  | cons call earlier ih =>
      cases call with
      | created other =>
          rcases List.mem_cons.mp hrecent with rfl | hearlier
          · exact List.mem_cons_self
          · exact List.mem_cons_of_mem _ (ih hearlier)
      | written other frame => exact List.mem_cons_of_mem _ (ih hrecent)
      | destroyed other => exact List.mem_cons_of_mem _ (ih hrecent)
      | stopped => cases hrecent

/-- What is not recent was destroyed by an EtStop. -/
theorem recent_or_destroyed {calls : List Call} (kept : Kept calls) {handle : Nat}
    (hcreated : .created handle ∈ calls) :
    handle ∈ recent calls ∨ .destroyed handle ∈ calls := by
  induction calls with
  | nil => cases hcreated
  | cons call earlier ih =>
      cases call with
      | created other =>
          rcases List.mem_cons.mp hcreated with hsame | hearlier
          · cases hsame
            exact .inl List.mem_cons_self
          · exact (ih kept hearlier).imp (List.mem_cons_of_mem _) (List.mem_cons_of_mem _)
      | written other frame =>
          rcases List.mem_cons.mp hcreated with hsame | hearlier
          · cases hsame
          · exact (ih kept.2 hearlier).imp_right (List.mem_cons_of_mem _)
      | destroyed other =>
          rcases List.mem_cons.mp hcreated with hsame | hearlier
          · cases hsame
          · exact (ih kept.2 hearlier).imp_right (List.mem_cons_of_mem _)
      | stopped =>
          rcases List.mem_cons.mp hcreated with hsame | hearlier
          · cases hsame
          · exact .inr (List.mem_cons_of_mem _ (kept.1 handle hearlier))

/-! ### What one step calls -/

namespace LiveStreamFilter

variable {filter : LiveStreamFilter} {outcome : Outcome}

/-- At most one frame is written, to the handle of a stream that is on. -/
structure Wrote (filter : LiveStreamFilter) (result : List Call × LiveStreamFilter) : Prop where
  rtmp : result.2.rtmp = filter.rtmp
  status : result.2.status = true → filter.status = true
  calls : result.1 = [] ∨ ∃ handle frame, result.1 = [.written handle frame] ∧
    filter.rtmp = some handle ∧ filter.status = true

variable {result : List Call × LiveStreamFilter}

theorem pushToRTMP_wrote {channelDetails : AudioChunkDetails} {first second : Source}
    (hstatus : filter.status = true)
    (hpush : filter.pushToRTMP outcome channelDetails first second = .ok result) :
    Wrote filter result := by
  cases hrtmp : filter.rtmp with
  | none =>
      rw [pushToRTMP_closed hrtmp] at hpush
      cases hpush
      exact ⟨rfl, id, .inl rfl⟩
  | some handle =>
      rw [pushToRTMP_open hrtmp] at hpush
      split_ifs at hpush
      · rcases bind_eq_ok.mp hpush with ⟨data, -, hresult⟩
        cases hresult
        exact ⟨rfl, fun _ => hstatus, .inr ⟨handle, _, rfl, hrtmp, hstatus⟩⟩
      · cases hpush
        exact ⟨rfl, id, .inl rfl⟩

/-- The queue takes no part in it. -/
theorem Wrote.of_queue {queue : RingBuffer AudioChunkRef}
    (wrote : Wrote (filter.withQueue queue) result) : Wrote filter result :=
  ⟨wrote.rtmp, wrote.status, wrote.calls⟩

theorem stream_wrote {chunk : AudioChunk} (hstatus : filter.status = true)
    (hstream : filter.stream outcome chunk = .ok result) : Wrote filter result := by
  unfold stream at hstream
  split_ifs at hstream
  · rcases bind_eq_ok.mp hstream with ⟨⟨old, queue⟩, -, hout⟩
    cases old with
    | none =>
        cases hout
        exact ⟨rfl, id, .inl rfl⟩
    | some elem =>
        rcases bind_eq_ok.mp hout with ⟨second, -, hpush⟩
        have hqueued : (filter.withQueue queue).status = true := hstatus
        exact (pushToRTMP_wrote hqueued hpush).of_queue
  · rcases bind_eq_ok.mp hstream with ⟨⟨val, queue⟩, -, hout⟩
    have hqueued : (filter.withQueue queue).status = true := hstatus
    cases val with
    | none => exact (pushToRTMP_wrote hqueued hout).of_queue
    | some elem =>
        rcases bind_eq_ok.mp hout with ⟨second, -, hpush⟩
        exact (pushToRTMP_wrote hqueued hpush).of_queue

theorem firstPacket_rtmp {chunk : AudioChunk} :
    (filter.firstPacket chunk).rtmp = filter.rtmp ∧
      (filter.firstPacket chunk).status = filter.status := by
  unfold firstPacket
  split_ifs
  · exact ⟨rfl, rfl⟩
  · exact ⟨rfl, rfl⟩

theorem audioChunkIn_wrote {inputAudioChunk : AudioChunkRef}
    (hchunk : filter.audioChunkIn outcome inputAudioChunk = .ok result) : Wrote filter result := by
  cases inputAudioChunk with
  | none =>
      cases hchunk
      exact ⟨rfl, id, .inl rfl⟩
  | some chunk =>
      cases hsamples : chunk.getNumSamples? with
      | none =>
          simp only [audioChunkIn, hsamples] at hchunk
          cases hchunk
      | some samples =>
          cases samples with
          | zero =>
              simp only [audioChunkIn, hsamples] at hchunk
              cases hchunk
              exact ⟨rfl, id, .inl rfl⟩
          | succ samples =>
              by_cases silenced : filter.Silenced outcome
              · rw [audioChunkIn_eq hsamples silenced] at hchunk
                split_ifs at hchunk with hstatus
                · have hready : (filter.readied chunk).status = true :=
                    readied_status.trans hstatus
                  have wrote := stream_wrote hready hchunk
                  refine ⟨wrote.rtmp.trans readied_rtmp, fun _ => hstatus, ?_⟩
                  have hcalls := wrote.calls
                  rwa [readied_rtmp, readied_status] at hcalls
                · cases hchunk
                  exact ⟨readied_rtmp, fun hon => readied_status.symm.trans hon, .inl rfl⟩
              · rw [audioChunkIn_unsilenced hsamples silenced] at hchunk
                cases hchunk
                rcases @firstPacket_rtmp { filter with outputAudioChunk := some chunk } chunk with
                  ⟨hrtmp, hstatus⟩
                exact ⟨hrtmp, fun hon => hstatus.symm.trans hon, .inl rfl⟩

end LiveStreamFilter

namespace Plugin

/-- The label is an EtStop. -/
def Label.stops : Label → Bool
  | .event _ input => decide (input.type = .etStop)
  | _ => false

/-- A label taken as far as it goes: an exception leaves the filter with the chunk noted. -/
inductive Delivered (plugin : Plugin) : Label → Plugin → Prop
  | step {label : Label} {plugin' : Plugin} (step : Step plugin label plugin') :
      Delivered plugin label plugin'
  | thrown {outcome : Outcome} {inputAudioChunk : AudioChunkRef}
      (hthrown : plugin.chunkIn outcome inputAudioChunk = .error .thrown) :
      Delivered plugin (.chunk outcome inputAudioChunk)
        { plugin with filter := { plugin.filter with outputAudioChunk := inputAudioChunk } }

/-- What a label does to the handles: `stops` says whether it is an EtStop. -/
inductive Effect (plugin plugin' : Plugin) : (stops : Bool) → Prop
  | quiet (calls : plugin'.calls = plugin.calls) (next : plugin'.nextHandle = plugin.nextHandle)
      (rtmp : plugin'.filter.rtmp = plugin.filter.rtmp)
      (status : plugin'.filter.status = true → plugin.filter.status = true) :
      Effect plugin plugin' false
  | wrote (handle : Nat) (frame : Frame)
      (calls : plugin'.calls = .written handle frame :: plugin.calls)
      (next : plugin'.nextHandle = plugin.nextHandle)
      (rtmp : plugin'.filter.rtmp = plugin.filter.rtmp) (mine : plugin.filter.rtmp = some handle)
      (on : plugin.filter.status = true) : Effect plugin plugin' false
  | opened (calls : plugin'.calls = .created plugin.nextHandle :: plugin.calls)
      (next : plugin'.nextHandle = plugin.nextHandle + 1)
      (rtmp : plugin'.filter.rtmp = some plugin.nextHandle) : Effect plugin plugin' false
  | failed (calls : plugin'.calls = plugin.calls) (next : plugin'.nextHandle = plugin.nextHandle)
      (rtmp : plugin'.filter.rtmp = none) : Effect plugin plugin' false
  | stopped
      (calls : plugin'.calls =
        .stopped :: (plugin.filter.rtmp.toList.map Call.destroyed ++ plugin.calls))
      (next : plugin'.nextHandle = plugin.nextHandle)
      (rtmp : plugin'.filter.rtmp = plugin.filter.rtmp)
      (off : plugin'.filter.status = false) : Effect plugin plugin' true

section Effects

variable {plugin : Plugin}

/-- The handle is made, or is null, however far the opening then gets. -/
theorem create_effect (opening : Opening) {after : Plugin}
    (calls : after.calls = (plugin.create opening).calls)
    (next : after.nextHandle = (plugin.create opening).nextHandle)
    (rtmp : after.filter.rtmp = (plugin.create opening).filter.rtmp) :
    Effect plugin after false := by
  cases hcreated : opening.created with
  | true =>
      rw [create, hcreated, if_pos rfl] at calls next rtmp
      exact .opened calls next rtmp
  | false =>
      rw [create, hcreated, if_neg Bool.false_ne_true] at calls next rtmp
      exact .failed calls next rtmp

theorem start_effect (opening : Opening) : Effect plugin (plugin.start opening) false := by
  unfold start
  split_ifs
  · exact .quiet rfl rfl rfl id
  · exact create_effect opening rfl rfl rfl
  · exact create_effect opening rfl rfl rfl

theorem stop_effect : Effect plugin plugin.stop true := by
  unfold stop
  dsimp only
  have hhalt : plugin.halt.filter.rtmp = plugin.filter.rtmp := rfl
  rw [hhalt]
  cases hrtmp : plugin.filter.rtmp with
  | none =>
      apply Effect.stopped
      · rw [hrtmp]
        rfl
      · rfl
      · rfl
      · rfl
  | some handle =>
      apply Effect.stopped
      · rw [hrtmp]
        rfl
      · rfl
      · rfl
      · rfl

/-- Noting an event changes nothing that an effect is about. -/
theorem Effect.of_noted {plugin' : Plugin} {event : CaptureEvent} {stops : Bool}
    (effect : Effect (plugin.noteEvent event) plugin' stops) : Effect plugin plugin' stops := by
  cases effect with
  | quiet calls next rtmp status => exact .quiet calls next rtmp status
  | wrote handle frame calls next rtmp mine on => exact .wrote handle frame calls next rtmp mine on
  | opened calls next rtmp => exact .opened calls next rtmp
  | failed calls next rtmp => exact .failed calls next rtmp
  | stopped calls next rtmp off => exact .stopped calls next rtmp off

theorem captureEventIn_effect (opening : Opening) (event : CaptureEvent) :
    Effect plugin (plugin.captureEventIn opening event) (decide (event.type = .etStop)) := by
  unfold captureEventIn
  dsimp only
  apply @Effect.of_noted _ _ event
  split_ifs with hstart hstop hcommand
  · have hnot : ¬ event.type = .etStop := by
      intro htype
      rw [isStart, htype] at hstart
      cases hstart
    rw [decide_eq_false hnot]
    exact start_effect opening
  · rw [decide_eq_true hstop]
    exact stop_effect
  · rw [decide_eq_false hstop]
    refine .quiet rfl rfl rfl fun hon => ?_
    cases hon
  · rw [decide_eq_false hstop]
    exact .quiet rfl rfl rfl id

theorem chunkIn_effect {outcome : Outcome} {inputAudioChunk : AudioChunkRef} {plugin' : Plugin}
    (hchunk : plugin.chunkIn outcome inputAudioChunk = .ok plugin') :
    Effect plugin plugin' false := by
  rw [chunkIn] at hchunk
  cases hresult : plugin.filter.audioChunkIn outcome inputAudioChunk with
  | error fault =>
      rw [hresult] at hchunk
      cases hchunk
  | ok result =>
      rw [hresult] at hchunk
      cases hchunk
      have wrote := LiveStreamFilter.audioChunkIn_wrote hresult
      rcases wrote.calls with hnone | ⟨handle, frame, hone, hrtmp, hon⟩
      · exact .quiet (congrArg (· ++ plugin.calls) hnone) rfl wrote.rtmp wrote.status
      · exact .wrote handle frame (congrArg (· ++ plugin.calls) hone) rfl wrote.rtmp hrtmp hon

theorem delivered_effect {label : Label} {plugin' : Plugin}
    (delivered : Delivered plugin label plugin') : Effect plugin plugin' label.stops := by
  cases delivered with
  | thrown hthrown => exact .quiet rfl rfl rfl id
  | step hstep =>
      cases label with
      | event opening event =>
          cases hstep
          exact captureEventIn_effect opening event
      | chunk outcome inputAudioChunk => exact chunkIn_effect hstep
      | startStream opening found =>
          cases hstep
          unfold startStreamNativeCallId
          split_ifs
          · exact captureEventIn_effect opening (command "start")
          · exact .quiet rfl rfl rfl id
      | stopStream nativecallid found =>
          cases hstep
          unfold stopStreamNativeCallId
          split_ifs
          · exact captureEventIn_effect {} (command "stop")
          · exact .quiet rfl rfl rfl id

end Effects

/-! ### Runs -/

/-- What the calls so far tell of the handle that the filter keeps. -/
structure Tracked (plugin : Plugin) : Prop where
  fresh : ∀ handle, .created handle ∈ plugin.calls → handle < plugin.nextHandle
  made : ∀ handle, .destroyed handle ∈ plugin.calls → .created handle ∈ plugin.calls
  mine : ∀ handle, plugin.filter.rtmp = some handle → .created handle ∈ plugin.calls
  once : (recent plugin.calls).Nodup
  live : ∀ handle ∈ recent plugin.calls, .destroyed handle ∉ plugin.calls
  on : plugin.filter.status = true →
    ∀ handle, plugin.filter.rtmp = some handle → handle ∈ recent plugin.calls

/-- At an EtStop, the handles created since the last one are the one that the filter keeps,
and none if it keeps none. -/
def StopsRight (plugin : Plugin) (label : Label) : Prop :=
  label.stops = true → recent plugin.calls = plugin.filter.rtmp.toList

section Steps

variable {plugin plugin' : Plugin} {stops : Bool}

theorem Tracked.new {queueFlushThresholdMillis : Int} {shouldStreamAllCalls : Bool}
    (hnew : Plugin.new queueFlushThresholdMillis shouldStreamAllCalls = .ok plugin) :
    Tracked plugin ∧ Kept plugin.calls := by
  rw [Plugin.new] at hnew
  split_ifs at hnew
  cases hnew
  refine ⟨⟨?_, ?_, ?_, List.nodup_nil, ?_, ?_⟩, trivial⟩
  · exact fun handle hcreated => absurd hcreated List.not_mem_nil
  · exact fun handle hdestroyed => absurd hdestroyed List.not_mem_nil
  · exact fun handle hrtmp => absurd hrtmp.symm (Option.some_ne_none handle)
  · exact fun handle hrecent => absurd hrecent List.not_mem_nil
  · exact fun _ handle hrtmp => absurd hrtmp.symm (Option.some_ne_none handle)

theorem mem_destroyed {rtmp : Option Nat} {call : Call} :
    call ∈ rtmp.toList.map Call.destroyed ↔
      ∃ handle, rtmp = some handle ∧ call = .destroyed handle := by
  cases rtmp with
  | none =>
      constructor
      · exact fun hmem => absurd hmem List.not_mem_nil
      · rintro ⟨handle, hnone, -⟩
        cases hnone
  | some kept =>
      constructor
      · intro hmem
        exact ⟨kept, rfl, List.mem_singleton.mp hmem⟩
      · rintro ⟨handle, hsome, hcall⟩
        cases hsome
        exact List.mem_singleton.mpr hcall

theorem Tracked.step (tracked : Tracked plugin) (effect : Effect plugin plugin' stops) :
    Tracked plugin' := by
  cases effect with
  | quiet calls next rtmp status =>
      refine ⟨?_, ?_, ?_, ?_, ?_, ?_⟩
      · rw [calls, next]
        exact tracked.fresh
      · rw [calls]
        exact tracked.made
      · rw [calls, rtmp]
        exact tracked.mine
      · rw [calls]
        exact tracked.once
      · rw [calls]
        exact tracked.live
      · rw [calls, rtmp]
        exact fun hon => tracked.on (status hon)
  | failed calls next rtmp =>
      refine ⟨?_, ?_, ?_, ?_, ?_, ?_⟩
      · rw [calls, next]
        exact tracked.fresh
      · rw [calls]
        exact tracked.made
      · intro handle hrtmp
        rw [rtmp] at hrtmp
        cases hrtmp
      · rw [calls]
        exact tracked.once
      · rw [calls]
        exact tracked.live
      · intro _ handle hrtmp
        rw [rtmp] at hrtmp
        cases hrtmp
  | wrote handle frame calls next rtmp mine on =>
      refine ⟨?_, ?_, ?_, ?_, ?_, ?_⟩
      · rw [calls, next]
        intro other hcreated
        rcases List.mem_cons.mp hcreated with hsame | hearlier
        · cases hsame
        · exact tracked.fresh other hearlier
      · rw [calls]
        intro other hdestroyed
        rcases List.mem_cons.mp hdestroyed with hsame | hearlier
        · cases hsame
        · exact List.mem_cons_of_mem _ (tracked.made other hearlier)
      · rw [calls, rtmp]
        exact fun other hother => List.mem_cons_of_mem _ (tracked.mine other hother)
      · rw [calls]
        exact tracked.once
      · rw [calls]
        intro other hrecent hdestroyed
        rcases List.mem_cons.mp hdestroyed with hsame | hearlier
        · cases hsame
        · exact tracked.live other hrecent hearlier
      · rw [calls, rtmp]
        exact fun _ => tracked.on on
  | opened calls next rtmp =>
      have hunknown : .created plugin.nextHandle ∉ plugin.calls := by
        intro hcreated
        exact Nat.lt_irrefl _ (tracked.fresh _ hcreated)
      refine ⟨?_, ?_, ?_, ?_, ?_, ?_⟩
      · rw [calls, next]
        intro other hcreated
        rcases List.mem_cons.mp hcreated with hsame | hearlier
        · cases hsame
          exact Nat.lt_succ_self _
        · exact Nat.lt_succ_of_lt (tracked.fresh other hearlier)
      · rw [calls]
        intro other hdestroyed
        rcases List.mem_cons.mp hdestroyed with hsame | hearlier
        · cases hsame
        · exact List.mem_cons_of_mem _ (tracked.made other hearlier)
      · rw [calls, rtmp]
        intro other hother
        cases hother
        exact List.mem_cons_self
      · rw [calls]
        refine List.nodup_cons.mpr ⟨fun hrecent => ?_, tracked.once⟩
        exact hunknown (created_of_recent hrecent)
      · rw [calls]
        intro other hrecent hdestroyed
        rcases List.mem_cons.mp hdestroyed with hsame | hearlier
        · cases hsame
        · rcases List.mem_cons.mp hrecent with rfl | hold
          · exact hunknown (tracked.made _ hearlier)
          · exact tracked.live other hold hearlier
      · rw [calls, rtmp]
        intro _ other hother
        cases hother
        exact List.mem_cons_self
  | stopped calls next rtmp off =>
      refine ⟨?_, ?_, ?_, ?_, ?_, ?_⟩
      · rw [calls, next]
        intro other hcreated
        rcases List.mem_cons.mp hcreated with hsame | hearlier
        · cases hsame
        · rcases List.mem_append.mp hearlier with hdestroyed | hold
          · rcases mem_destroyed.mp hdestroyed with ⟨_, -, hcall⟩
            cases hcall
          · exact tracked.fresh other hold
      · rw [calls]
        intro other hother
        apply List.mem_cons_of_mem
        apply List.mem_append_right
        rcases List.mem_cons.mp hother with hsame | hearlier
        · cases hsame
        · rcases List.mem_append.mp hearlier with hdestroyed | hold
          · rcases mem_destroyed.mp hdestroyed with ⟨handle, hrtmp, hcall⟩
            cases hcall
            exact tracked.mine _ hrtmp
          · exact tracked.made other hold
      · rw [calls, rtmp]
        intro other hother
        exact List.mem_cons_of_mem _ (List.mem_append_right _ (tracked.mine other hother))
      · rw [calls]
        exact List.nodup_nil
      · rw [calls]
        exact fun other hrecent => absurd hrecent List.not_mem_nil
      · intro hon
        rw [off] at hon
        cases hon

/-- An EtStop destroys the handle that is kept. -/
theorem kept_stopped (tracked : Tracked plugin) :
    Kept (.stopped :: (plugin.filter.rtmp.toList.map Call.destroyed ++ plugin.calls)) ↔
      Kept plugin.calls ∧ recent plugin.calls = plugin.filter.rtmp.toList := by
  cases hrtmp : plugin.filter.rtmp with
  | none =>
      constructor
      · rintro ⟨hall, hkept⟩
        refine ⟨hkept, List.eq_nil_iff_forall_not_mem.mpr fun handle hrecent => ?_⟩
        exact tracked.live handle hrecent (hall handle (created_of_recent hrecent))
      · rintro ⟨hkept, hnone⟩
        refine ⟨fun handle hcreated => ?_, hkept⟩
        rcases recent_or_destroyed hkept hcreated with hrecent | hdestroyed
        · rw [hnone] at hrecent
          exact absurd hrecent List.not_mem_nil
        · exact hdestroyed
  | some kept =>
      constructor
      · rintro ⟨hall, hnot, hkept⟩
        refine ⟨hkept, ?_⟩
        have hmember : kept ∈ recent plugin.calls :=
          (recent_or_destroyed hkept (tracked.mine kept hrtmp)).resolve_right hnot
        have honly : ∀ handle ∈ recent plugin.calls, handle = kept := by
          intro handle hrecent
          have hcreated := List.mem_cons_of_mem (.destroyed kept) (created_of_recent hrecent)
          rcases List.mem_cons.mp (hall handle hcreated) with hsame | hearlier
          · cases hsame
            rfl
          · exact absurd hearlier (tracked.live handle hrecent)
        have hreplicate := List.eq_replicate_of_mem honly
        have hone := List.nodup_replicate.mp (hreplicate ▸ tracked.once)
        have hsome := List.length_pos_of_mem hmember
        rw [hreplicate, Nat.le_antisymm hone hsome]
        rfl
      · rintro ⟨hkept, hone⟩
        have hlive : .destroyed kept ∉ plugin.calls := by
          apply tracked.live
          rw [hone]
          exact List.mem_singleton_self kept
        refine ⟨fun handle hcreated => ?_, hlive, hkept⟩
        rcases List.mem_cons.mp hcreated with hsame | hearlier
        · cases hsame
        · rcases recent_or_destroyed hkept hearlier with hrecent | hdestroyed
          · rw [hone] at hrecent
            rw [List.mem_singleton.mp hrecent]
            exact List.mem_cons_self
          · exact List.mem_cons_of_mem _ hdestroyed

/-- The calls are kept in order by a step if they are so far, and, at an EtStop, if it finds
the one handle that there is to destroy. -/
theorem kept_step (tracked : Tracked plugin) (effect : Effect plugin plugin' stops) :
    Kept plugin'.calls ↔ Kept plugin.calls ∧
      (stops = true → recent plugin.calls = plugin.filter.rtmp.toList) := by
  cases effect with
  | quiet calls next rtmp status =>
      rw [calls]
      exact (and_iff_left (fun hstops => absurd hstops Bool.false_ne_true)).symm
  | failed calls next rtmp =>
      rw [calls]
      exact (and_iff_left (fun hstops => absurd hstops Bool.false_ne_true)).symm
  | opened calls next rtmp =>
      rw [calls]
      exact (and_iff_left (fun hstops => absurd hstops Bool.false_ne_true)).symm
  | wrote handle frame calls next rtmp mine on =>
      rw [calls]
      have hlive := tracked.live handle (tracked.on on handle mine)
      exact (and_iff_right hlive).trans
        (and_iff_left (fun hstops => absurd hstops Bool.false_ne_true)).symm
  | stopped calls next rtmp off =>
      rw [calls, kept_stopped tracked]
      exact and_congr_right fun _ => ⟨fun hsame _ => hsame, fun hsame => hsame rfl⟩

theorem kept_delivered {label : Label} (tracked : Tracked plugin)
    (delivered : Delivered plugin label plugin') :
    Kept plugin'.calls ↔ Kept plugin.calls ∧ StopsRight plugin label :=
  kept_step tracked (delivered_effect delivered)

end Steps

theorem guarded_of_kept {plugin final : Plugin} {labels : List Label} (tracked : Tracked plugin)
    (run : Steps Delivered plugin labels final) (kept : Kept final.calls) :
    Kept plugin.calls ∧ Steps (Guarded StopsRight Delivered) plugin labels final := by
  induction run with
  | nil plugin => exact ⟨kept, .nil plugin⟩
  | cons delivered _ ih =>
      rcases ih (tracked.step (delivered_effect delivered)) kept with ⟨hmiddle, hrest⟩
      rcases (kept_delivered tracked delivered).mp hmiddle with ⟨hstart, hright⟩
      exact ⟨hstart, .cons ⟨hright, delivered⟩ hrest⟩

theorem kept_of_guarded {plugin final : Plugin} {labels : List Label}
    (run : Steps (Guarded StopsRight Delivered) plugin labels final)
    (start : Tracked plugin ∧ Kept plugin.calls) : Tracked final ∧ Kept final.calls := by
  apply run.invariant _ start
  intro state label state' hstate hstep
  refine ⟨hstate.1.step (delivered_effect hstep.2), ?_⟩
  exact (kept_delivered hstate.1 hstep.2).mpr ⟨hstate.2, hstep.1⟩

/-- Whatever is delivered, each handle is destroyed once, by the next EtStop, and not used
any more after that, if and only if at every EtStop the filter keeps the one handle that was
created since the EtStop before. -/
theorem handles_kept_iff {queueFlushThresholdMillis : Int} {shouldStreamAllCalls : Bool}
    {plugin final : Plugin} {labels : List Label}
    (hnew : Plugin.new queueFlushThresholdMillis shouldStreamAllCalls = .ok plugin)
    (run : Steps Delivered plugin labels final) :
    Kept final.calls ↔ Steps (Guarded StopsRight Delivered) plugin labels final := by
  have start := Tracked.new hnew
  constructor
  · intro kept
    exact (guarded_of_kept start.1 run kept).2
  · intro guarded
    exact (kept_of_guarded guarded start).2

/-- The call ends. -/
def callStopped : Label := .event {} { type := .etStop }

theorem handles_kept_once : ∃ plugin final : Plugin, Plugin.new 40 true = .ok plugin ∧
    Steps Delivered plugin [callKnown, ulawChunk 1 2, callStopped] final ∧
    (Kept final.calls ↔ Steps (Guarded StopsRight Delivered) plugin
      [callKnown, ulawChunk 1 2, callStopped] final) := by
  refine ⟨_, _, rfl, .cons (.step rfl) (.cons (.step rfl) (.cons (.step rfl) (.nil _))), ?_⟩
  apply @handles_kept_iff 40 true _ _ _ rfl
  exact .cons (.step rfl) (.cons (.step rfl) (.cons (.step rfl) (.nil _)))

/-- A second EtStop destroys the handle again; and of two handles created one is left. -/
theorem handles_not_kept :
    (∃ plugin final : Plugin, Plugin.new 40 true = .ok plugin ∧
      Steps Delivered plugin [callKnown, callStopped, callStopped] final ∧ ¬ Kept final.calls) ∧
    ∃ plugin final : Plugin, Plugin.new 40 true = .ok plugin ∧
      Steps Delivered plugin [callKnown, callKnown, callStopped] final ∧ ¬ Kept final.calls := by
  constructor
  · refine ⟨_, _, rfl, .cons (.step rfl) (.cons (.step rfl) (.cons (.step rfl) (.nil _))), ?_⟩
    rintro ⟨-, hagain, -⟩
    exact hagain (List.mem_cons_of_mem _ List.mem_cons_self)
  · refine ⟨_, _, rfl, .cons (.step rfl) (.cons (.step rfl) (.cons (.step rfl) (.nil _))), ?_⟩
    rintro ⟨hall, -⟩
    have hfirst := hall 0 (List.mem_cons_of_mem _ (List.mem_cons_of_mem _ List.mem_cons_self))
    rcases List.mem_cons.mp hfirst with hsame | hcreated
    · cases hsame
    · rcases List.mem_cons.mp hcreated with hsame | hearlier
      · cases hsame
      · rcases List.mem_cons.mp hearlier with hsame | hnone
        · cases hsame
        · exact List.not_mem_nil hnone

end Plugin

end OrkAudio.LiveStream
