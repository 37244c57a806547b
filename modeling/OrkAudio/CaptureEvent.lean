import OrkAudio.StdString

/-! What the capture side tells a capture port about a call. -/

namespace OrkAudio

/-- `CaptureEvent::EventTypeEnum`. -/
inductive EventType
  | etUnknown | etStart | etStop | etDirection | etRemoteParty | etLocalParty
  | etLocalEntryPoint | etKeyValue | etLocalIp | etRemoteIp | etLocalMac | etRemoteMac
  | etOrkUid | etEndMetadata | etReady | etUpdate | etCallId | etLocalSide
  | etAudioKeepDirection | etHold | etResume | etInvalid
  deriving DecidableEq, Repr

def eventTypeToString : EventType → String
  | .etUnknown => "unknown"
  | .etStart => "start"
  | .etStop => "stop"
  | .etHold => "hold"
  | .etResume => "resume"
  | .etDirection => "direction"
  | .etRemoteParty => "remoteparty"
  | .etLocalParty => "localparty"
  | .etLocalEntryPoint => "localentrypoint"
  | .etKeyValue => "keyvalue"
  | .etLocalIp => "localip"
  | .etRemoteIp => "remoteip"
  | .etLocalMac => "localmac"
  | .etRemoteMac => "remotemac"
  | .etOrkUid => "orkuid"
  | .etEndMetadata => "endmetadata"
  | .etReady => "ready"
  | .etUpdate => "update"
  | .etCallId => "callid"
  | .etLocalSide => "localside"
  | .etAudioKeepDirection => "audiokeepdirection"
  | .etInvalid => "invalid"

structure CaptureEvent where
  type : EventType
  key : String := ""
  value : String := ""
  timestamp : Int := 0
  offsetMs : Int := 0
  deriving DecidableEq, Repr

inductive Direction
  | dirUnkn | dirIn | dirOut
  deriving DecidableEq, Repr

def directionToString : Direction → String
  | .dirIn => "in"
  | .dirOut => "out"
  | .dirUnkn => "unkn"

def directionToEnum (dir : String) : Direction :=
  if equalsNoCase dir "in" then .dirIn
  else if equalsNoCase dir "out" then .dirOut
  else .dirUnkn

inductive LocalSide
  | localSideUnkn | localSideSide1 | localSideSide2 | localSideBoth
  deriving DecidableEq, Repr

def localSideToString : LocalSide → String
  | .localSideUnkn => "unknown"
  | .localSideSide1 => "side1"
  | .localSideSide2 => "side2"
  | .localSideBoth => "both"

inductive AudioKeepDirection
  | audioKeepDirectionBoth | audioKeepDirectionLocal | audioKeepDirectionRemote
  | audioKeepDirectionNone | audioKeepDirectionInvalid
  deriving DecidableEq, Repr

def audioKeepDirectionToString : AudioKeepDirection → String
  | .audioKeepDirectionBoth => "both"
  | .audioKeepDirectionLocal => "local"
  | .audioKeepDirectionRemote => "remote"
  | .audioKeepDirectionNone => "none"
  | .audioKeepDirectionInvalid => "invalid"

def audioKeepDirectionToEnum (audioKeepDirection : String) : AudioKeepDirection :=
  if equalsNoCase audioKeepDirection "both" then .audioKeepDirectionBoth
  else if equalsNoCase audioKeepDirection "local" then .audioKeepDirectionLocal
  else if equalsNoCase audioKeepDirection "remote" then .audioKeepDirectionRemote
  else if equalsNoCase audioKeepDirection "none" then .audioKeepDirectionNone
  else .audioKeepDirectionInvalid

/-- `CaptureEvent::AudioKeepDirectionIsDefault`. -/
def audioKeepDirectionIsDefault (audioKeepDirection : String) : Bool :=
  equalsNoCase audioKeepDirection "both"

end OrkAudio
