import OrkAudio.AudioChunk
import OrkAudio.CaptureEvent
import OrkAudio.Lib.OrderedMap
import OrkAudio.VoIp.Config

/-! What reaches the VoIP sessions: RTP packets, SIP and Skinny messages as their parsers
hand them over. And what leaves them: capture events and audio chunks. -/

namespace OrkAudio.VoIp

open Lib

/-! ### RTP -/

/-- `m_payloadSize` is the length of the payload. -/
structure RtpPacketInfo where
  sourceMac : List UInt8 := List.replicate 6 0
  destMac : List UInt8 := List.replicate 6 0
  sourceIp : InAddr := 0
  destIp : InAddr := 0
  sourcePort : UInt16 := 0
  destPort : UInt16 := 0
  payloadType : UInt16 := 0
  payload : List UInt8 := []
  seqNum : UInt16 := 0
  ssrc : UInt32 := 0
  timestamp : UInt32 := 0
  arrivalTimestamp : Int := 0
  deriving DecidableEq, Repr

structure RtcpSrcDescriptionPacketInfo where
  sourceIp : InAddr
  destIp : InAddr
  sourcePort : UInt16
  destPort : UInt16
  cnameUsername : String
  cnameDomain : String

/-! ### SIP -/

/-- `TrySipInvite` hands over no message without a call-id. -/
structure SipInviteInfo where
  sipMethod : String
  senderIp : InAddr
  originalSenderIp : InAddr
  receiverIp : InAddr
  fromRtpIp : InAddr
  senderMac : List UInt8
  receiverMac : List UInt8
  fromRtpPort : String
  fromUser : String
  toUser : String
  callId : String
  replacesId : String := ""
  requestUri : String := ""
  validated : Bool := false
  attrSendonly : Bool := false
  extractedFields : OrderedMap String String := .empty
  telephoneEventPayloadType : Int := 0
  fromDomain : String := ""
  toDomain : String := ""
  fromName : String := ""
  toName : String := ""
  userAgent : String := ""
  sipDialedNumber : String := ""
  sipRemoteParty : String := ""
  contact : String := ""
  sipGroupPickUpPatternDetected : Bool := false
  orekaRtpPayloadTypeMap : List UInt8 := List.replicate 32 0
  recvTime : Int
  callId_ne : callId ≠ ""

structure SipFailureMessageInfo where
  callId : String
  errorCode : String

structure SipByeInfo where
  callId : String
  fromUser : String
  toUser : String

structure SipNotifyInfo where
  receiverIp : InAddr
  dsp : String
  onHoldMarker : Bool := false
  offHoldMarker : Bool := false
  pkey : Int

structure Sip200OkInfo where
  callId : String
  hasSdp : Bool
  mediaIp : InAddr
  mediaPort : String

structure SipSubscribeInfo where
  callId : String

structure SipSessionProgressInfo where
  callId : String
  mediaIp : InAddr
  mediaPort : String
  senderIp : InAddr

structure Sip302MovedTemporarilyInfo where
  contact : String
  toUser : String

structure SipInfo where
  callId : String
  dtmfDigit : String
  cSeq : String
  onDemand : Bool := false
  onDemandOff : Bool := false

structure SipRefer where
  timestamp : Int
  fromUser : String
  toUser : String
  callId : String
  referToParty : String
  referredByParty : String
  referredParty : String
  origOrkUid : String := ""

/-! ### Skinny

Each message comes with the addresses and ports of its IP and TCP headers. -/

structure SkinnyHeaders where
  ipSrc : InAddr
  ipDest : InAddr
  tcpSource : UInt16
  tcpDest : UInt16

structure SkCallInfo where
  callingPartyName : String
  callingParty : String
  calledPartyName : String
  calledParty : String
  lineInstance : Int
  callId : UInt32
  callType : UInt32

structure SkCallStateMessage where
  callState : UInt32
  callId : UInt32

structure SkStartMediaTransmission where
  passThruPartyId : Int
  remoteIpAddr : InAddr
  remoteTcpPort : UInt32

structure SkStopMediaTransmission where
  conferenceId : UInt32
  passThruPartyId : Int

structure SkOpenReceiveChannelAck where
  endpointIpAddr : InAddr
  endpointTcpPort : UInt32
  passThruPartyId : Int

structure SkLineStat where
  lineDirNumber : String

/-- `SkSoftKeyEventMessageStruct` and `SkSoftKeySetDescriptionStruct`. -/
structure SkSoftKey where
  callIdentifier : UInt32

def skinnyCallTypeInbound : UInt32 := 1
def skinnyCallTypeOutbound : UInt32 := 2
def skinnyCallTypeForward : UInt32 := 3

/-! ### Output -/

/-- A call of `g_captureEventCallBack` or of `g_audioChunkCallBack`. -/
inductive Output
  | captureEvent (event : CaptureEvent) (capturePort : String)
  | audioChunk (details : AudioChunkDetails) (payload : List UInt8) (capturePort : String)
  deriving DecidableEq, Repr

namespace Output

def isStop : Output → Bool
  | .captureEvent event _ => decide (event.type = .etStop)
  | .audioChunk .. => false

end Output

end OrkAudio.VoIp
