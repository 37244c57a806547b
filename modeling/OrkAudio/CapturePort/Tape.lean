import OrkAudio.CaptureEvent
import OrkAudio.Lib.OrderedMap
import OrkAudio.Tape.Model

/-! What a tape knows of its call: the events it is told, the queue of those that are still
to be reported, the party filter, and the messages that are made of it.

The local time of day and the files on disk enter through functions of the configuration. -/

namespace OrkAudio

open Lib

/-- What the capture ports and their tapes read of `CONFIG`. -/
structure PortConfig where
  serviceName : String := ""
  captureFileBatchSizeKByte : Int := 64
  -- `FileFormatGetExtension(m_storageAudioFormat)`, none for `FfNative`
  storageExtension : Option String := some ".wav"
  audioOutputEnable : Bool := true
  audioSegmentation : Bool := false
  audioSegmentDuration : Int := 60
  vad : Bool := false
  vadHighThresholdDb : Rat := -122 / 10
  vadLowThresholdDb : Rat := -125 / 10
  vadHoldOnSec : Rat := 4
  partyFilter : List String := []
  partyFilterMap : List (Char × Char) := []
  remotePartyMaxDigits : Int := 0
  audioKeepDirectionDefault : String := "both"
  audioKeepDirectionIncomingDefault : String := "both"
  audioKeepDirectionOutgoingDefault : String := "both"
  directionForceOutgoingForRemotePartyPrefix : String := ""
  directionForceOutgoingForRemotePartyMinLength : Int := 11
  dtmfReportingDetailed : Bool := false
  dynamicTags : List String := []
  tagsListUseInitialValue : List String := []
  holdResumeReportEvents : Bool := false
  holdResumeReportDuration : Bool := false
  -- the path and the name of a capture file for a begin date and a port
  captureFilePath : Int → String := fun _ => ""
  captureFileIdentifier : Int → String → String := fun beginDate portId =>
    toString beginDate ++ "_" ++ portId
  -- what `PreventFileIdentifierCollision` makes of an identifier
  preventFileIdentifierCollision : String → String → String → String :=
    fun _ identifier _ => identifier

/-! ### Party filter -/

namespace PortConfig

variable (cfg : PortConfig)

def partyFilterActive : Bool := !cfg.partyFilter.isEmpty

/-- One round of the loop in `PartyFilterMatches`: an exact party, or a range of numbers. -/
def patternMatches (pattern party : String) : Bool :=
  let buf := (pattern.toList.takeWhile (· ≠ Char.ofNat 0)).take 1023
  let lval := buf.takeWhile (· ≠ '-')
  let rval := buf.drop (lval.length + 1)
  let partyVal := (stringToInt? party).getD 0
  if lval = [] then false
  else if rval = [] then lval = party.toList.takeWhile (· ≠ Char.ofNat 0)
  else decide ((strtol (String.ofList lval)).1 ≤ partyVal ∧
    partyVal ≤ (strtol (String.ofList rval)).1)

def partyFilterMatches (party : String) : Bool :=
  cfg.partyFilter.any fun pattern => patternMatches pattern party

/-- What the loops over `m_partyFilterMap` make of a party: a character is replaced, or
erased for '?'. A character mapped to itself keeps the source in its loop for ever. -/
def rewriteParty (party : String) : String :=
  String.ofList (cfg.partyFilterMap.foldl
    (fun text entry =>
      if entry.2 ≠ '?' then text.map fun c => if c = entry.1 then entry.2 else c
      else text.filter (· ≠ entry.1))
    party.toList)

/-- The keep direction that a new tape starts with. -/
def initialAudioKeepDirection : AudioKeepDirection :=
  audioKeepDirectionToEnum
    (if !audioKeepDirectionIsDefault cfg.audioKeepDirectionIncomingDefault then
      cfg.audioKeepDirectionIncomingDefault
    else if !audioKeepDirectionIsDefault cfg.audioKeepDirectionOutgoingDefault then
      cfg.audioKeepDirectionOutgoingDefault
    else cfg.audioKeepDirectionDefault)

end PortConfig

/-! ### Messages -/

/-- `TapeMsg`, with the values its constructor gives. -/
structure TapeMsg where
  recId : String := ""
  stage : String := ""
  timestamp : Int := 0
  fileName : String := ""
  capturePort : String := ""
  localParty : String := ""
  localEntryPoint : String := ""
  remoteParty : String := ""
  direction : String := directionToString .dirUnkn
  audioKeepDirection : String := audioKeepDirectionToString .audioKeepDirectionBoth
  duration : Int := 0
  serviceName : String
  localIp : String := ""
  remoteIp : String := ""
  nativeCallId : String := ""
  tags : OrderedMap String String := .empty
  onDemand : Bool := false
  live : Bool := true

/-! ### Tapes -/

/-- `AudioTape`, with what it knows of its call. -/
structure CapturedTape extends AudioTape where
  portId : String
  trackingId : String
  beginDate : Int
  duration : Int := 0
  direction : Direction := .dirUnkn
  audioKeepDirection : AudioKeepDirection
  localParty : String := ""
  remoteParty : String := ""
  localEntryPoint : String := ""
  localIp : String := ""
  remoteIp : String := ""
  nativeCallId : String := ""
  orkUid : String := ""
  onDemand : Bool := false
  isExternal : Bool := false
  fromProcessMcf : Bool := false
  filePath : String
  fileIdentifier : String
  fileExtension : String := ""
  tags : OrderedMap String String := .empty
  toSendEventQueue : List CaptureEvent := []
  passedPartyFilterTest : Bool := false
  lastHoldTs : Int := 0
  holdDuration : Int := 0

namespace CapturedTape

variable (cfg : PortConfig)

/-- `AudioTape::AudioTape(portId)`. -/
def new (portId : String) (now : Int) : CapturedTape where
  portId := portId
  trackingId := portId
  beginDate := now
  audioKeepDirection := cfg.initialAudioKeepDirection
  filePath := cfg.captureFilePath now
  fileIdentifier := cfg.captureFileIdentifier now portId

/-- The party filter is active and no party of the tape has passed it. -/
def rejected (tape : CapturedTape) : Bool := !tape.passedPartyFilterTest && cfg.partyFilterActive

/-- `AudioTape::AddAudioChunk`. -/
def addAudioChunk (tape : CapturedTape) (chunk : AudioChunk) : CapturedTape :=
  if tape.takesChunks then
    { tape with
      toAudioTape := (tape.toAudioTape.pushChunk cfg.captureFileBatchSizeKByte chunk).2 }
  else tape

/-! #### Write -/

/-- The loop of `Write` for a tape that the party filter rejects. -/
def discardChunks : List AudioChunk → AudioTape → AudioTape
  | [], tape => tape
  | _ :: rest, tape => discardChunks rest tape.popChunk.2

/-- The loop body of `Write`; the first chunk settles the name of the file. -/
def writeChunk (tape : CapturedTape) (chunk : AudioChunk) : CapturedTape :=
  let fileType := if chunk.details.encoding = .pcmAudio then ".wav" else ".mcf"
  let tape :=
    if tape.state = .created then
      { tape with
        fileIdentifier :=
          cfg.preventFileIdentifierCollision tape.filePath tape.fileIdentifier fileType
        fileExtension := cfg.storageExtension.getD fileType }
    else tape
  { tape with toAudioTape := tape.toAudioTape.writeChunk chunk }

/-- The loop of `Write`, over what the queue holds. -/
def writeChunks : List AudioChunk → CapturedTape → CapturedTape
  | [], tape => tape
  | chunk :: rest, tape =>
      if tape.state = .stopped ∨ tape.state = .error then tape
      else
        let tape := { tape with toAudioTape := tape.toAudioTape.popChunk.2 }
        writeChunks rest (writeChunk cfg tape chunk)

/-- `AudioTape::Write`. -/
def write (tape : CapturedTape) : CapturedTape :=
  if tape.rejected cfg then
    let state := if tape.state = .created then .active else tape.state
    { tape with toAudioTape := discardChunks tape.chunkQueue { tape.toAudioTape with state } }
  else
    let tape := writeChunks cfg tape.chunkQueue tape
    { tape with toAudioTape := tape.toAudioTape.finishWrite }

/-! #### Capture events -/

/-- The test of a party that comes in, unless one has passed already. -/
def testParty (tape : CapturedTape) (party : String) : CapturedTape :=
  if tape.rejected cfg then { tape with passedPartyFilterTest := cfg.partyFilterMatches party }
  else tape

/-- The remote party that is reported for a stopped tape: its last digits only, when there
are too many and it is not the address. -/
def shortRemoteParty (tape : CapturedTape) : String :=
  let maxDigits := cfg.remotePartyMaxDigits
  if maxDigits > 0 ∧ (tape.remoteParty.length : Int) > maxDigits ∧
      !equalsNoCase tape.remoteParty tape.remoteIp then
    String.ofList (tape.remoteParty.toList.drop (tape.remoteParty.length - maxDigits.toNat))
  else tape.remoteParty

/-- The switch over well known events in `AddCaptureEvent`. -/
def recordEvent (tape : CapturedTape) (event : CaptureEvent) : CapturedTape :=
  match event.type with
  | .etStart =>
      let tape := { tape with trackingId := event.value }
      if tape.state = .created then
        { tape with
          beginDate := event.timestamp
          filePath := cfg.captureFilePath event.timestamp
          fileIdentifier := cfg.captureFileIdentifier event.timestamp tape.portId }
      else tape
  | .etStop =>
      { tape with
        shouldStop := true
        duration := event.timestamp - tape.beginDate
        remoteParty := tape.shortRemoteParty cfg }
  | .etAudioKeepDirection =>
      { tape with audioKeepDirection := audioKeepDirectionToEnum event.value }
  | .etDirection => { tape with direction := directionToEnum event.value }
  | .etRemoteParty =>
      { tape.testParty cfg event.value with remoteParty := cfg.rewriteParty event.value }
  | .etLocalParty =>
      { tape.testParty cfg event.value with localParty := cfg.rewriteParty event.value }
  | .etLocalEntryPoint => { tape with localEntryPoint := event.value }
  | .etLocalIp => { tape with localIp := event.value }
  | .etRemoteIp => { tape with remoteIp := event.value }
  | .etOrkUid =>
      let tape := { tape with orkUid := event.value }
      if tape.state = .created then { tape with fileIdentifier := event.value } else tape
  | .etCallId => { tape with nativeCallId := event.value }
  | .etKeyValue =>
      if equalsNoCase event.key "ondemand" then
        if equalsNoCase event.value "true" then { tape with onDemand := true }
        else if equalsNoCase event.value "false" then { tape with onDemand := false }
        else tape
      else tape
  | _ => tape

/-- The last part of `AddCaptureEvent`: a key and a value that are reported with the tape. -/
def storeTag (tape : CapturedTape) (event : CaptureEvent) : CapturedTape :=
  if event.type ≠ .etKeyValue ∨ event.value = "" ∨ event.key = "" then tape
  else if !cfg.dtmfReportingDetailed && equalsNoCase event.key "dtmfdigit" then tape
  else if cfg.dynamicTags.any fun tag => equalsNoCase event.key tag then tape
  else if (tape.tags.find? event.key).isNone ∨ event.key ∉ cfg.tagsListUseInitialValue then
    { tape with tags := tape.tags.set event.key event.value }
  else tape

/-- `AudioTape::AddCaptureEvent`. -/
def addCaptureEvent (tape : CapturedTape) (event : CaptureEvent) (send : Bool) : CapturedTape :=
  let tape := tape.recordEvent cfg event
  let tape :=
    if send then { tape with toSendEventQueue := tape.toSendEventQueue ++ [event] } else tape
  tape.storeTag cfg event

/-- `AudioTape::PopulateTag`. -/
def populateTag (tape : CapturedTape) (key value : String) : CapturedTape :=
  { tape with tags := tape.tags.insertNew key value }

/-! #### Messages -/

/-- The direction and the parties of a message: a party that starts with the configured
prefix makes the call an outgoing one. -/
def reportedParties (tape : CapturedTape) : String × String × String :=
  let pre := cfg.directionForceOutgoingForRemotePartyPrefix
  let minLength := cfg.directionForceOutgoingForRemotePartyMinLength
  let forces (party : String) : Prop :=
    0 ≤ minLength ∧ minLength ≤ (party.length : Int) ∧ pre.toList <+: party.toList
  if pre ≠ "" ∧ forces tape.localParty then ("out", tape.remoteParty, tape.localParty)
  else if pre ≠ "" ∧ forces tape.remoteParty then ("out", tape.localParty, tape.remoteParty)
  else (directionToString tape.direction, tape.localParty, tape.remoteParty)

/-- `AudioTape::PopulateTapeMessage`. -/
def populateTapeMessage (tape : CapturedTape) (msg : TapeMsg) (eventType : EventType) : TapeMsg :=
  if tape.rejected cfg then msg
  else
    let (direction, localParty, remoteParty) := tape.reportedParties cfg
    { msg with
      recId := tape.orkUid
      fileName := tape.filePath ++ tape.fileIdentifier ++ tape.fileExtension
      stage := eventTypeToString eventType
      capturePort := tape.portId
      localParty := localParty
      localEntryPoint := tape.localEntryPoint
      remoteParty := remoteParty
      direction := direction
      audioKeepDirection := audioKeepDirectionToString tape.audioKeepDirection
      duration := tape.duration
      timestamp := tape.beginDate
      localIp := tape.localIp
      remoteIp := tape.remoteIp
      nativeCallId := tape.nativeCallId
      onDemand := tape.onDemand
      tags := tape.tags }

/-- The events that `GetMessage` makes a message of. -/
def hasStage : EventType → Bool
  | .etStop | .etStart | .etUpdate | .etHold | .etResume => true
  | _ => false

/-- `AudioTape::GetMessage`: the message, none where the reference stays null. -/
def getMessage (tape : CapturedTape) : Option TapeMsg × CapturedTape :=
  if tape.rejected cfg then (none, tape)
  else
    let msg : TapeMsg := { serviceName := cfg.serviceName }
    match tape.toSendEventQueue with
    | [] =>
        if tape.fromProcessMcf || tape.isExternal || tape.bytesWritten > 0 then
          (some (tape.populateTapeMessage cfg msg .etReady), tape)
        else (some msg, tape)
    | event :: rest =>
        let left := { tape with toSendEventQueue := rest }
        if hasStage event.type then (some (left.populateTapeMessage cfg msg event.type), left)
        else (some msg, left)

end CapturedTape

end OrkAudio
