import OrkAudio.CapturePort.Finalised

/-! When two tapes say the same of their call, and what keeps that so.

The tag with the time on hold is left out where it is reported. -/

namespace OrkAudio

open Lib

/-- `m_tags` holds this tag also without an event. -/
abbrev holdDurationTag : String := "holdduration"

/-- Two tapes have the same direction, parties, entry point, addresses, native call id,
on-demand flag and tags. -/
structure SameMetadata (cfg : PortConfig) (tape other : CapturedTape) : Prop where
  direction : tape.direction = other.direction
  localParty : tape.localParty = other.localParty
  remoteParty : tape.remoteParty = other.remoteParty
  localEntryPoint : tape.localEntryPoint = other.localEntryPoint
  localIp : tape.localIp = other.localIp
  remoteIp : tape.remoteIp = other.remoteIp
  nativeCallId : tape.nativeCallId = other.nativeCallId
  onDemand : tape.onDemand = other.onDemand
  tags : ∀ key, (cfg.holdResumeReportDuration = true → key ≠ holdDurationTag) →
    tape.tags.find? key = other.tags.find? key

/-- All that is said of the call. -/
def CapturedTape.metadata (tape : CapturedTape) :=
  (tape.direction, tape.localParty, tape.remoteParty, tape.localEntryPoint, tape.localIp,
    tape.remoteIp, tape.nativeCallId, tape.onDemand, tape.tags)

namespace SameMetadata

variable {cfg : PortConfig} {tape other third : CapturedTape}

theorem of_metadata (hmetadata : tape.metadata = other.metadata) : SameMetadata cfg tape other := by
  simp only [CapturedTape.metadata, Prod.mk.injEq] at hmetadata
  rcases hmetadata with ⟨hdirection, hlocal, hremote, hentry, hlocalIp, hremoteIp, hcallId,
    honDemand, htags⟩
  apply SameMetadata.mk hdirection hlocal hremote hentry hlocalIp hremoteIp hcallId honDemand
  intro key _
  rw [htags]

theorem refl (tape : CapturedTape) : SameMetadata cfg tape tape := of_metadata rfl

theorem symm (same : SameMetadata cfg tape other) : SameMetadata cfg other tape :=
  ⟨same.direction.symm, same.localParty.symm, same.remoteParty.symm, same.localEntryPoint.symm,
    same.localIp.symm, same.remoteIp.symm, same.nativeCallId.symm, same.onDemand.symm,
    fun key hkey => (same.tags key hkey).symm⟩

theorem trans (first : SameMetadata cfg tape other) (second : SameMetadata cfg other third) :
    SameMetadata cfg tape third :=
  ⟨first.direction.trans second.direction, first.localParty.trans second.localParty,
    first.remoteParty.trans second.remoteParty,
    first.localEntryPoint.trans second.localEntryPoint, first.localIp.trans second.localIp,
    first.remoteIp.trans second.remoteIp, first.nativeCallId.trans second.nativeCallId,
    first.onDemand.trans second.onDemand,
    fun key hkey => (first.tags key hkey).trans (second.tags key hkey)⟩

/-- Another state of the tags on both sides. -/
theorem withTags (same : SameMetadata cfg tape other) {tags tags' : OrderedMap String String}
    (htags : ∀ key, (cfg.holdResumeReportDuration = true → key ≠ holdDurationTag) →
      tags.find? key = tags'.find? key) :
    SameMetadata cfg { tape with tags := tags } { other with tags := tags' } :=
  ⟨same.direction, same.localParty, same.remoteParty, same.localEntryPoint, same.localIp,
    same.remoteIp, same.nativeCallId, same.onDemand, htags⟩

theorem testParty_left (party : String) : SameMetadata cfg (tape.testParty cfg party) tape := by
  unfold CapturedTape.testParty
  split_ifs
  · exact of_metadata rfl
  · exact refl tape

/-- The same event does the same to what both tapes say. -/
theorem recordEvent (same : SameMetadata cfg tape other) (event : CaptureEvent) :
    SameMetadata cfg (tape.recordEvent cfg event) (other.recordEvent cfg event) := by
  have hshort : tape.shortRemoteParty cfg = other.shortRemoteParty cfg := by
    unfold CapturedTape.shortRemoteParty
    rw [same.remoteParty, same.remoteIp]
  have htested : SameMetadata cfg (tape.testParty cfg event.value)
      (other.testParty cfg event.value) :=
    ((testParty_left event.value).trans same).trans (testParty_left event.value).symm
  unfold CapturedTape.recordEvent
  cases event.type with
  | etStart =>
      have hstarted (t : CapturedTape) : SameMetadata cfg
          (if t.state = .created then
            { t with
              trackingId := event.value
              beginDate := event.timestamp
              filePath := cfg.captureFilePath event.timestamp
              fileIdentifier := cfg.captureFileIdentifier event.timestamp t.portId }
          else { t with trackingId := event.value }) t := by
        split_ifs
        · exact of_metadata rfl
        · exact of_metadata rfl
      exact ((hstarted tape).trans same).trans (hstarted other).symm
  | etStop => exact { same with remoteParty := hshort }
  | etAudioKeepDirection => exact { same with }
  | etDirection => exact { same with direction := rfl }
  | etRemoteParty => exact { htested with remoteParty := rfl }
  | etLocalParty => exact { htested with localParty := rfl }
  | etLocalEntryPoint => exact { same with localEntryPoint := rfl }
  | etLocalIp => exact { same with localIp := rfl }
  | etRemoteIp => exact { same with remoteIp := rfl }
  | etOrkUid =>
      have hnamed (t : CapturedTape) : SameMetadata cfg
          (if t.state = .created then
            { t with orkUid := event.value, fileIdentifier := event.value }
          else { t with orkUid := event.value }) t := by
        split_ifs
        · exact of_metadata rfl
        · exact of_metadata rfl
      exact ((hnamed tape).trans same).trans (hnamed other).symm
  | etCallId => exact { same with nativeCallId := rfl }
  | etKeyValue =>
      dsimp only
      split_ifs
      · exact { same with onDemand := rfl }
      · exact { same with onDemand := rfl }
      · exact same
      · exact same
  | _ => exact same

theorem storeTag (same : SameMetadata cfg tape other) (event : CaptureEvent) :
    SameMetadata cfg (tape.storeTag cfg event) (other.storeTag cfg event) := by
  by_cases hevent : event.type ≠ .etKeyValue ∨ event.value = "" ∨ event.key = ""
  · rw [CapturedTape.storeTag, if_pos hevent, CapturedTape.storeTag, if_pos hevent]
    exact same
  by_cases hdtmf : (!cfg.dtmfReportingDetailed && equalsNoCase event.key "dtmfdigit") = true
  · rw [CapturedTape.storeTag, if_neg hevent, if_pos hdtmf, CapturedTape.storeTag,
      if_neg hevent, if_pos hdtmf]
    exact same
  by_cases hdynamic : (cfg.dynamicTags.any fun tag => equalsNoCase event.key tag) = true
  · rw [CapturedTape.storeTag, if_neg hevent, if_neg hdtmf, if_pos hdynamic,
      CapturedTape.storeTag, if_neg hevent, if_neg hdtmf, if_pos hdynamic]
    exact same
  have hstored (t : CapturedTape) : t.storeTag cfg event =
      if (t.tags.find? event.key).isNone ∨ event.key ∉ cfg.tagsListUseInitialValue then
        { t with tags := t.tags.set event.key event.value }
      else t := by
    rw [CapturedTape.storeTag, if_neg hevent, if_neg hdtmf, if_neg hdynamic]
  have hset (key : String)
      (hkey : cfg.holdResumeReportDuration = true → key ≠ holdDurationTag) :
      (tape.tags.set event.key event.value).find? key =
        (other.tags.set event.key event.value).find? key := by
    by_cases hwritten : key = event.key
    · rw [hwritten, OrderedMap.find?_set_self, OrderedMap.find?_set_self]
    · rw [OrderedMap.find?_set_of_ne hwritten, OrderedMap.find?_set_of_ne hwritten]
      exact same.tags key hkey
  by_cases hcompared : cfg.holdResumeReportDuration = true → event.key ≠ holdDurationTag
  · rw [hstored, hstored, same.tags event.key hcompared]
    split_ifs
    · exact same.withTags hset
    · exact same
  · -- The tag is the one that is left out, whether it is set or not.
    have hkept (t : CapturedTape) : SameMetadata cfg (t.storeTag cfg event) t := by
      rw [hstored]
      split_ifs
      · apply (refl t).withTags
        intro key hkey
        apply OrderedMap.find?_set_of_ne
        intro heq
        exact hcompared (heq ▸ hkey)
      · exact refl t
    exact ((hkept tape).trans same).trans (hkept other).symm

/-- What is sent of the event makes no difference. -/
theorem addCaptureEvent (same : SameMetadata cfg tape other) (event : CaptureEvent)
    (send send' : Bool) :
    SameMetadata cfg (tape.addCaptureEvent cfg event send)
      (other.addCaptureEvent cfg event send') := by
  have hqueued (t : CapturedTape) (send : Bool) : SameMetadata cfg
      (if send then { t with toSendEventQueue := t.toSendEventQueue ++ [event] } else t) t := by
    cases send with
    | true => exact of_metadata rfl
    | false => exact refl t
  apply storeTag
  exact ((hqueued _ send).trans (same.recordEvent event)).trans (hqueued _ send').symm

end SameMetadata

namespace CapturedTape

variable (cfg : PortConfig) (tape : CapturedTape)

theorem storeTag_of_ne {event : CaptureEvent} (hevent : event.type ≠ .etKeyValue) :
    tape.storeTag cfg event = tape := if_pos (.inl hevent)

theorem recordEvent_orkUid (event : CaptureEvent) :
    (tape.recordEvent cfg event).orkUid =
      if event.type = .etOrkUid then event.value else tape.orkUid := by
  have htested (party : String) : (tape.testParty cfg party).orkUid = tape.orkUid := by
    unfold testParty
    split_ifs <;> rfl
  unfold recordEvent
  cases event.type <;> simp only [htested, reduceCtorEq, if_false, if_true]
  all_goals split_ifs <;> rfl

theorem addCaptureEvent_orkUid (event : CaptureEvent) (send : Bool) :
    (tape.addCaptureEvent cfg event send).orkUid =
      if event.type = .etOrkUid then event.value else tape.orkUid := by
  have hstored (t : CapturedTape) : (t.storeTag cfg event).orkUid = t.orkUid := by
    unfold storeTag
    split_ifs <;> rfl
  unfold addCaptureEvent
  rw [hstored, ← recordEvent_orkUid]
  cases send <;> rfl

/-- The events that say nothing of the call. -/
def Silent (type : EventType) : Prop :=
  type = .etStart ∨ type = .etOrkUid ∨ type = .etHold ∨ type = .etResume ∨ type = .etEndMetadata

theorem addCaptureEvent_silent {event : CaptureEvent} (hsilent : Silent event.type)
    (send : Bool) : SameMetadata cfg (tape.addCaptureEvent cfg event send) tape := by
  have hrecorded : (tape.recordEvent cfg event).metadata = tape.metadata := by
    unfold recordEvent
    rcases hsilent with htype | htype | htype | htype | htype
    · rw [htype]
      dsimp only
      split_ifs <;> rfl
    · rw [htype]
      dsimp only
      split_ifs <;> rfl
    · rw [htype]
    · rw [htype]
    · rw [htype]
  have hkey : event.type ≠ .etKeyValue := by
    intro hkey
    rw [hkey] at hsilent
    rcases hsilent with h | h | h | h | h <;> cases h
  apply SameMetadata.of_metadata
  unfold addCaptureEvent
  rw [storeTag_of_ne cfg _ hkey, ← hrecorded]
  cases send <;> rfl

theorem getMessage_metadata : (tape.getMessage cfg).2.metadata = tape.metadata ∧
    (tape.getMessage cfg).2.orkUid = tape.orkUid := by
  unfold getMessage
  split
  · exact ⟨rfl, rfl⟩
  · dsimp only
    split
    · split <;> exact ⟨rfl, rfl⟩
    · split <;> exact ⟨rfl, rfl⟩

theorem addAudioChunk_metadata (chunk : AudioChunk) :
    (tape.addAudioChunk cfg chunk).metadata = tape.metadata ∧
      (tape.addAudioChunk cfg chunk).orkUid = tape.orkUid := by
  unfold addAudioChunk
  split_ifs <;> exact ⟨rfl, rfl⟩

theorem writeChunks_metadata (chunks : List AudioChunk) :
    (writeChunks cfg chunks tape).metadata = tape.metadata ∧
      (writeChunks cfg chunks tape).orkUid = tape.orkUid := by
  induction chunks generalizing tape with
  | nil => exact ⟨rfl, rfl⟩
  | cons chunk rest ih =>
      unfold writeChunks
      split_ifs
      · exact ⟨rfl, rfl⟩
      · rcases ih (writeChunk cfg { tape with
          toAudioTape := tape.toAudioTape.popChunk.2 } chunk) with ⟨hmetadata, huid⟩
        rw [hmetadata, huid]
        unfold writeChunk
        split_ifs <;> exact ⟨rfl, rfl⟩

theorem write_metadata : (tape.write cfg).metadata = tape.metadata ∧
    (tape.write cfg).orkUid = tape.orkUid := by
  unfold write
  split_ifs
  · exact ⟨rfl, rfl⟩
  · exact ⟨rfl, rfl⟩
  · exact writeChunks_metadata cfg tape tape.chunkQueue

/-- A tape that is told events. -/
def told (events : List CaptureEvent) : CapturedTape :=
  events.foldl (fun tape event => tape.addCaptureEvent cfg event false) tape

end CapturedTape

/-! ### Tapes that may stand for each other -/

/-- The same metadata, the same id and the same stop flag. -/
structure Alike (cfg : PortConfig) (tape other : CapturedTape) : Prop extends
    SameMetadata cfg tape other where
  orkUid : tape.orkUid = other.orkUid
  shouldStop : tape.shouldStop = other.shouldStop

namespace Alike

variable {cfg : PortConfig} {tape other third : CapturedTape}

theorem refl (tape : CapturedTape) : Alike cfg tape tape :=
  ⟨SameMetadata.refl tape, rfl, rfl⟩

theorem symm (alike : Alike cfg tape other) : Alike cfg other tape :=
  ⟨alike.toSameMetadata.symm, alike.orkUid.symm, alike.shouldStop.symm⟩

theorem trans (first : Alike cfg tape other) (second : Alike cfg other third) :
    Alike cfg tape third :=
  ⟨first.toSameMetadata.trans second.toSameMetadata, first.orkUid.trans second.orkUid,
    first.shouldStop.trans second.shouldStop⟩

theorem addCaptureEvent (alike : Alike cfg tape other) (event : CaptureEvent)
    (send send' : Bool) :
    Alike cfg (tape.addCaptureEvent cfg event send) (other.addCaptureEvent cfg event send') where
  toSameMetadata := alike.toSameMetadata.addCaptureEvent event send send'
  orkUid := by
    rw [CapturedTape.addCaptureEvent_orkUid, CapturedTape.addCaptureEvent_orkUid, alike.orkUid]
  shouldStop := by
    rw [CapturedTape.addCaptureEvent_shouldStop, CapturedTape.addCaptureEvent_shouldStop,
      alike.shouldStop]

/-- Only the messages of a tape tell whether it was put on hold. -/
theorem held (tape : CapturedTape) {event : CaptureEvent}
    (hevent : event.type = .etHold ∨ event.type = .etResume ∨ event.type = .etEndMetadata)
    (send : Bool) : Alike cfg (tape.addCaptureEvent cfg event send) tape where
  toSameMetadata := tape.addCaptureEvent_silent cfg (.inr (.inr hevent)) send
  orkUid := by
    rw [CapturedTape.addCaptureEvent_orkUid, if_neg]
    rcases hevent with h | h | h <;> simp [h]
  shouldStop := by
    rw [CapturedTape.addCaptureEvent_shouldStop]
    rcases hevent with h | h | h <;> simp [h]

theorem getMessage (tape : CapturedTape) : Alike cfg (tape.getMessage cfg).2 tape :=
  ⟨.of_metadata (tape.getMessage_metadata cfg).1, (tape.getMessage_metadata cfg).2,
    congrArg AudioTape.shouldStop (tape.getMessage_toAudioTape cfg)⟩

theorem addAudioChunk (tape : CapturedTape) (chunk : AudioChunk) :
    Alike cfg (tape.addAudioChunk cfg chunk) tape :=
  ⟨.of_metadata (tape.addAudioChunk_metadata cfg chunk).1,
    (tape.addAudioChunk_metadata cfg chunk).2, tape.addAudioChunk_shouldStop cfg chunk⟩

theorem write (tape : CapturedTape) : Alike cfg (tape.write cfg) tape :=
  ⟨.of_metadata (tape.write_metadata cfg).1, (tape.write_metadata cfg).2,
    tape.write_shouldStop cfg⟩

theorem told (alike : Alike cfg tape other) (events : List CaptureEvent) :
    Alike cfg (tape.told cfg events) (other.told cfg events) := by
  induction events generalizing tape other with
  | nil => exact alike
  | cons event events ih => exact ih (alike.addCaptureEvent event false false)

/-- The time on hold is the tag that is left out. -/
theorem populateTag (tape : CapturedTape) (value : String)
    (hreported : cfg.holdResumeReportDuration = true) :
    Alike cfg (tape.populateTag holdDurationTag value) tape where
  toSameMetadata := by
    apply (SameMetadata.refl tape).withTags
    intro key hkey
    exact OrderedMap.find?_insertNew_of_ne (hkey hreported)
  orkUid := rfl
  shouldStop := rfl

end Alike

end OrkAudio
