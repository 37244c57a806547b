import OrkAudio.VoIp.Metadata

/-! DTMF digits of a session, reported in RTP events or in SIP INFO messages. -/

namespace OrkAudio.VoIp

open Lib

/-- The digits in the order of `DtmfDigitEnum`. -/
def dtmfDigits : List String := ["0", "1", "2", "3", "4", "5", "6", "7", "8", "9", "*", "#"]

/-- `DtmfDigitUnknown` comes after the digits. -/
def dtmfDigitToEnum (msg : String) : Nat := dtmfDigits.findIdx (equalsNoCase msg)

def dtmfDigitToString (msgEnum : Nat) : String := dtmfDigits.getD msgEnum "unknown"

/-- A digit as it reaches a session: what is sent beside it is 0 for a SIP INFO message. -/
structure DtmfDigit where
  channel : Nat := 0
  digitValue : String
  digitDuration : Nat := 0
  digitVolume : Nat := 0
  rtpEventTs : UInt32 := 0
  rtpEventSeqNo : Nat := 0

section

variable (cfg : Config) (env : Env)

/-- Which of the two commands the digits so far contain. When both commands are the same
text, it pauses a session that records and starts one that does not. -/
def dtmfCommands (keepRtp : Bool) (digits : String) : Bool × Bool :=
  let isOnDemand := containsText digits cfg.onDemandViaDtmfDigitsString
  let isPause := cfg.onDemandPauseViaDtmfDigitsString != "" &&
    containsText digits cfg.onDemandPauseViaDtmfDigitsString
  if cfg.onDemandPauseViaDtmfDigitsString = cfg.onDemandViaDtmfDigitsString ∧ isOnDemand then
    if keepRtp then (false, isPause) else (isOnDemand, false)
  else (isOnDemand, isPause)

def resumeOnDemand : SessionM Unit := do
  triggerOnDemandViaDtmf
  update fun s => { s with onDemand := true, keepRtp := true }

/-- The commands in their states: on demand or not, recording or not. -/
def runDtmfCommands (isOnDemand isPause : Bool) : SessionM Unit := do
  let s ← session
  match s.onDemand, s.keepRtp with
  | false, false => if isOnDemand then resumeOnDemand
  | false, true =>
      if isOnDemand then resumeOnDemand
      else if isPause then
        update fun s => { s with onDemand := false, keepRtp := false }
  | true, false => if isOnDemand then resumeOnDemand
  | true, true =>
      if isPause then
        update fun s => { s with onDemand := true, keepRtp := false }

/-- Collect a digit and obey the command that it completes. -/
def collectDtmfDigit (digitValue : String) : SessionM Unit := do
  update fun s => { s with
    dtmfDigitString :=
      (if s.dtmfDigitString.length > 100 then "" else s.dtmfDigitString) ++ digitValue }
  if cfg.onDemandViaDtmfDigitsString ≠ "" then
    let s ← session
    let found := containsText s.dtmfDigitString cfg.onDemandViaDtmfDigitsString ||
      cfg.onDemandPauseViaDtmfDigitsString != "" &&
        containsText s.dtmfDigitString cfg.onDemandPauseViaDtmfDigitsString
    let commands := dtmfCommands cfg s.keepRtp s.dtmfDigitString
    if found then
      update fun s => { s with dtmfDigitString := "" }
    runDtmfCommands commands.1 commands.2

def reportDtmfDigit (digit : DtmfDigit) : SessionM Unit := do
  collectDtmfDigit cfg digit.digitValue
  let s ← session
  let msDiff := (env.usec - s.beginDate * 1000000) / 1000000 * 1000
  if cfg.dtmfReportingDetailed then
    emitKeyValue s!"RtpDtmfEvent_{digit.rtpEventTs}"
      (s!"event:{dtmfDigitToEnum digit.digitValue} timestamp:{digit.rtpEventTs} " ++
        s!"duration:{digit.digitDuration} volume:{digit.digitVolume} " ++
        s!"seqno:{digit.rtpEventSeqNo} offsetms:{msDiff} channel:{digit.channel}")
  if cfg.dtmfReportFullStringAsTag then
    emit { type := .etKeyValue, key := "dtmfstring", value := s.dtmfDigitString,
           offsetMs := msDiff }
  let value :=
    if cfg.dtmfReportingDetailed then
      s!"{digit.digitValue}_{digit.digitVolume}_{digit.digitDuration}_{digit.channel}"
    else digit.digitValue
  emit { type := .etKeyValue, key := "dtmfdigit", value := value, offsetMs := msDiff }

/-- The end of an event is reported once for its RTP timestamp. A payload that is shorter
than an event is ignored. -/
def handleRtpEvent (channel : Nat) (rtpPacket : RtpPacketInfo) : SessionM Unit := do
  match rtpPacket.payload with
  | event :: erVolume :: durationHigh :: durationLow :: _ =>
      if (← session).currentRtpEventTs ≠ rtpPacket.timestamp ∧ 128 ≤ erVolume.toNat then
        update fun s => { s with currentRtpEventTs := rtpPacket.timestamp }
        reportDtmfDigit cfg env {
          channel := channel
          digitValue := dtmfDigitToString event.toNat
          digitDuration := durationHigh.toNat * 256 + durationLow.toNat
          digitVolume := erVolume.toNat % 64
          rtpEventTs := rtpPacket.timestamp
          rtpEventSeqNo := rtpPacket.seqNum.toNat }
  | _ => pure ()

end

end OrkAudio.VoIp
