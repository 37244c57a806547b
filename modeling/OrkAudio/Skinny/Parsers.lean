import OrkAudio.Skinny.Layout

/-! The handlers of Skinny messages, and the scan of a TCP payload. -/

namespace OrkAudio.Skinny

open Lib VoIp

/-! ### Structures -/

/-- `SkStartMediaTransmissionStruct`. -/
def skStartMediaTransmission : Layout where
  size := 28
  valid data := decide (wordAt 24 data ≤ 65535)
  reports _ data :=
    [.startMediaTransmission
      { passThruPartyId := toInt (wordAt 16 data), remoteIpAddr := wordAt 20 data,
        remoteTcpPort := wordAt 24 data }]
  valid_within := (readsWithin_wordAt (by decide)).comp fun port => decide (port ≤ 65535)
  reports_within := fun _ =>
    ((readsWithin_wordAt (by decide)).comp₂ (readsWithin_wordAt (by decide)) Prod.mk).comp₂
      (readsWithin_wordAt (by decide)) fun party port =>
        [Report.startMediaTransmission
          { passThruPartyId := toInt party.1, remoteIpAddr := party.2, remoteTcpPort := port }]

/-- `SkCcm7_1StartMediaTransmissionStruct`. -/
def skCcm7_1StartMediaTransmission : Layout where
  size := 44
  valid data := decide (wordAt 40 data ≤ 65535)
  reports _ data :=
    [.startMediaTransmission
      { passThruPartyId := toInt (wordAt 16 data), remoteIpAddr := wordAt 24 data,
        remoteTcpPort := wordAt 40 data }]
  valid_within := (readsWithin_wordAt (by decide)).comp fun port => decide (port ≤ 65535)
  reports_within := fun _ =>
    ((readsWithin_wordAt (by decide)).comp₂ (readsWithin_wordAt (by decide)) Prod.mk).comp₂
      (readsWithin_wordAt (by decide)) fun party port =>
        [Report.startMediaTransmission
          { passThruPartyId := toInt party.1, remoteIpAddr := party.2, remoteTcpPort := port }]

/-- `SkStopMediaTransmissionStruct`, also for CloseReceiveChannel. -/
def skStopMediaTransmission : Layout where
  size := 20
  valid _ := true
  reports _ data :=
    [.stopMediaTransmission
      { conferenceId := wordAt 12 data, passThruPartyId := toInt (wordAt 16 data) }]
  valid_within := .const true
  reports_within := fun _ =>
    (readsWithin_wordAt (by decide)).comp₂ (readsWithin_wordAt (by decide)) fun conference party =>
      [Report.stopMediaTransmission
        { conferenceId := conference, passThruPartyId := toInt party }]

/-- `SkCallStateMessageStruct`. -/
def skCallStateMessage : Layout where
  size := 24
  valid _ := true
  reports _ data := [.callStateMessage { callState := wordAt 12 data, callId := wordAt 20 data }]
  valid_within := .const true
  reports_within := fun _ =>
    (readsWithin_wordAt (by decide)).comp₂ (readsWithin_wordAt (by decide)) fun state call =>
      [Report.callStateMessage { callState := state, callId := call }]

/-- `SkOpenReceiveChannelAckStruct`. -/
def skOpenReceiveChannelAck : Layout where
  size := 28
  valid data := decide (wordAt 20 data ≤ 65535)
  reports _ data :=
    [.openReceiveChannelAck
      { endpointIpAddr := wordAt 16 data, endpointTcpPort := wordAt 20 data,
        passThruPartyId := toInt (wordAt 24 data) }]
  valid_within := (readsWithin_wordAt (by decide)).comp fun port => decide (port ≤ 65535)
  reports_within := fun _ =>
    ((readsWithin_wordAt (by decide)).comp₂ (readsWithin_wordAt (by decide)) Prod.mk).comp₂
      (readsWithin_wordAt (by decide)) fun endpoint party =>
        [Report.openReceiveChannelAck
          { endpointIpAddr := endpoint.1, endpointTcpPort := endpoint.2,
            passThruPartyId := toInt party }]

/-- `SkCcm7_1SkOpenReceiveChannelAckStruct`. -/
def skCcm7_1SkOpenReceiveChannelAck : Layout where
  size := 40
  valid data := decide (wordAt 36 data ≤ 65535)
  reports _ data :=
    [.openReceiveChannelAck
      { endpointIpAddr := wordAt 20 data, endpointTcpPort := wordAt 36 data,
        passThruPartyId := toInt (wordAt 24 data) }]
  valid_within := (readsWithin_wordAt (by decide)).comp fun port => decide (port ≤ 65535)
  reports_within := fun _ =>
    ((readsWithin_wordAt (by decide)).comp₂ (readsWithin_wordAt (by decide)) Prod.mk).comp₂
      (readsWithin_wordAt (by decide)) fun endpoint party =>
        [Report.openReceiveChannelAck
          { endpointIpAddr := endpoint.1, endpointTcpPort := endpoint.2,
            passThruPartyId := toInt party }]

/-- `SkLineStatStruct`. -/
def skLineStat : Layout where
  size := 80
  valid data := checkPartyString (charsAt 40 40 data) && checkPartyString (charsAt 16 24 data)
  reports _ data := [.lineStat { lineDirNumber := textOf (charsAt 16 24 data) }]
  valid_within := (readsWithin_charsAt (by decide)).comp₂ (readsWithin_charsAt (by decide))
    fun name number => checkPartyString name && checkPartyString number
  reports_within := fun _ => (readsWithin_charsAt (by decide)).comp fun number =>
    [Report.lineStat { lineDirNumber := textOf number }]

/-! ### Soft keys -/

def skSoftKeyHold : UInt32 := 3
def skSoftKeyResume : UInt32 := 10
def skSoftKeyConfrn : UInt32 := 13
def skSoftKeySetTransfer : UInt32 := 5
def skSoftKeySetConference : UInt32 := 7

def softKeyEventReports (cfg : Config) (softKeyEvent callIdentifier : UInt32) : List Report :=
  if softKeyEvent = skSoftKeyHold then [.softKeyHold { callIdentifier := callIdentifier }]
  else if softKeyEvent = skSoftKeyResume then [.softKeyResume { callIdentifier := callIdentifier }]
  else if softKeyEvent = skSoftKeyConfrn ∧ cfg.skinnyTrackConferencesTransfers then
    [.softKeyConfPressed]
  else []

/-- `SkSoftKeyEventMessageStruct`. -/
def skSoftKeyEvent : Layout where
  size := 24
  valid data := decide (wordAt 12 data ≤ 18) && decide (1 ≤ wordAt 12 data)
  reports cfg data := softKeyEventReports cfg (wordAt 12 data) (wordAt 20 data)
  valid_within := (readsWithin_wordAt (by decide)).comp fun event =>
    decide (event ≤ 18) && decide (1 ≤ event)
  reports_within := fun cfg => (readsWithin_wordAt (by decide)).comp₂
    (readsWithin_wordAt (by decide)) (softKeyEventReports cfg)

def softKeySetReports (cfg : Config) (softKeySetDescription callIdentifier : UInt32) :
    List Report :=
  if softKeySetDescription = skSoftKeySetConference then
    if cfg.skinnyTrackConferencesTransfers then [.softKeySetConfConnected] else []
  else if softKeySetDescription = skSoftKeySetTransfer then
    [.softKeySetTransfConnected { callIdentifier := callIdentifier }]
  else []

/-- `SkSoftKeySetDescriptionStruct`. -/
def skSoftKeySetDescription : Layout where
  size := 24
  valid data := decide (wordAt 20 data ≤ 10)
  reports cfg data := softKeySetReports cfg (wordAt 20 data) (wordAt 16 data)
  valid_within := (readsWithin_wordAt (by decide)).comp fun set => decide (set ≤ 10)
  reports_within := fun cfg => (readsWithin_wordAt (by decide)).comp₂
    (readsWithin_wordAt (by decide)) (softKeySetReports cfg)

/-! ### Call information -/

/-- The two names of a CallInfo are converted where they stand, for the log. -/
def convertNames (cfg : Config) (data : List UInt8) : List UInt8 :=
  if cfg.infoEnabled then
    data.take 12 ++ convertWin1251ToUtf8 (charsAt 12 40 data) ++ charsAt 52 24 data ++
      convertWin1251ToUtf8 (charsAt 76 40 data) ++ data.drop 116
  else data

theorem length_convertNames (cfg : Config) {data : List UInt8} (hsize : 116 ≤ data.length) :
    (convertNames cfg data).length = data.length := by
  have hchars {offset count : Nat} (hcount : offset + count ≤ 116) :
      (charsAt offset count data).length = count := by
    rw [charsAt, List.length_take, List.length_drop]
    omega
  have hname {offset : Nat} (hoffset : offset + 40 ≤ 116) :
      (convertWin1251ToUtf8 (charsAt offset 40 data)).length = 40 :=
    length_convertWin1251ToUtf8 (hchars hoffset)
  unfold convertNames
  split_ifs
  · rw [List.length_append, List.length_append, List.length_append, List.length_append,
      hname (by decide), hname (by decide), hchars (by decide), List.length_take, List.length_drop]
    omega
  · rfl

theorem convertNames_append (cfg : Config) {data : List UInt8} (hsize : 116 ≤ data.length)
    (behind : List UInt8) : convertNames cfg (data ++ behind) = convertNames cfg data ++ behind := by
  have hchars {offset count : Nat} (hcount : offset + count ≤ 116) :
      charsAt offset count (data ++ behind) = charsAt offset count data :=
    readsWithin_charsAt hcount data behind hsize
  unfold convertNames
  split_ifs
  · rw [hchars (by decide), hchars (by decide), hchars (by decide),
      List.take_append_of_le_length (by omega), List.drop_append_of_le_length hsize]
    simp only [List.append_assoc]
  · rfl

/-- What a CallInfo reports. Each text ends at a zero, in its field or in the last one. -/
def callInfoReport (data : List UInt8) : Report :=
  .callInfo
    { callingPartyName := textOf (charsAt 12 128 data)
      callingParty := textOf (charsAt 52 88 data)
      calledPartyName := textOf (charsAt 76 64 data)
      calledParty := textOf (charsAt 116 24 data)
      lineInstance := toInt (wordAt 140 data)
      callId := wordAt 144 data
      callType := wordAt 148 data }

theorem readsWithin_callInfoReport : ReadsWithin 152 callInfoReport := by
  intro data behind hsize
  have hchars {offset count : Nat} (hcount : offset + count ≤ 152) :
      charsAt offset count (data ++ behind) = charsAt offset count data :=
    readsWithin_charsAt hcount data behind hsize
  have hword {offset : Nat} (hoffset : offset + 4 ≤ 152) :
      wordAt offset (data ++ behind) = wordAt offset data :=
    readsWithin_wordAt hoffset data behind hsize
  unfold callInfoReport
  rw [hchars (by decide), hchars (by decide), hchars (by decide), hchars (by decide),
    hword (by decide), hword (by decide), hword (by decide)]

/-- `SkinnyValidateCallInfo`, but for the size. -/
def validCallInfo (data : List UInt8) : Bool :=
  decide (wordAt 148 data ≤ skinnyCallTypeForward) && checkPartyString (charsAt 116 24 data) &&
    checkPartyString (charsAt 52 24 data) && checkPartyString (charsAt 76 40 data) &&
    checkPartyString (charsAt 12 40 data)

theorem readsWithin_validCallInfo : ReadsWithin 152 validCallInfo := by
  intro data behind hsize
  have hchars {offset count : Nat} (hcount : offset + count ≤ 152) :
      charsAt offset count (data ++ behind) = charsAt offset count data :=
    readsWithin_charsAt hcount data behind hsize
  have hword : wordAt 148 (data ++ behind) = wordAt 148 data :=
    readsWithin_wordAt (by decide) data behind hsize
  unfold validCallInfo
  rw [hchars (by decide), hchars (by decide), hchars (by decide), hchars (by decide), hword]

/-- `SkCallInfoStruct`. -/
def skCallInfo : Layout where
  size := 152
  valid := validCallInfo
  reports cfg data := [callInfoReport (convertNames cfg data)]
  valid_within := readsWithin_validCallInfo
  reports_within := by
    intro cfg data behind hsize
    have hlength : (convertNames cfg data).length = data.length :=
      length_convertNames cfg (by omega)
    change [callInfoReport (convertNames cfg (data ++ behind))] = _
    rw [convertNames_append cfg (by omega), readsWithin_callInfoReport _ _ (by omega)]

/-! ### Call information of CCM 5 -/

def isTokenEnd (c : UInt8) : Bool := c == 0 || c == 0x0D || c == 0x0A

/-- `GrabTokenAcceptSpace`. -/
def grabTokenAcceptSpace (chars : List UInt8) : List UInt8 := chars.takeWhile (!isTokenEnd ·)

/-- The texts that are copied to the CallInfo that a CCM5 CallInfo is reported as. -/
structure Parties where
  callingParty : List UInt8 := []
  calledParty : List UInt8 := []
  callingPartyName : List UInt8 := []
  calledPartyName : List UInt8 := []
  deriving DecidableEq, Repr

/-- What the token with a number is used for. -/
def Parties.take (cfg : Config) (headerVersion callType : UInt32) (parties : Parties)
    (tokenNr : Nat) (party : List UInt8) : Parties :=
  match tokenNr with
  | 1 => { parties with callingParty := party }
  | 2 => { parties with calledParty := party }
  | 3 => if cfg.cucm7_1Mode then { parties with calledParty := party } else parties
  | 5 =>
      if !cfg.cucm7_1Mode ∧ party ≠ [] ∧ callType = skinnyCallTypeOutbound then
        { parties with callingParty := party }
      else parties
  | 9 => if headerVersion = 0 then { parties with callingPartyName := party } else parties
  | 10 =>
      if headerVersion = 0 then { parties with calledPartyName := party }
      else { parties with callingPartyName := party }
  | 11 => if headerVersion ≠ 0 then { parties with calledPartyName := party } else parties
  | 12 =>
      if headerVersion ≠ 0 ∧ parties.calledPartyName.length < party.length then
        { parties with calledPartyName := party }
      else parties
  | _ => parties

/-- The loop over the tokens; `left` of them may follow. -/
def grabParties (cfg : Config) (headerVersion callType : UInt32) :
    Nat → Nat → List UInt8 → Parties → Parties
  | 0, _, _, parties => parties
  | left + 1, tokenNr, chars, parties =>
      if chars = [] then parties
      else
        let party := grabTokenAcceptSpace chars
        grabParties cfg headerVersion callType left (tokenNr + 1) (chars.drop (party.length + 1))
          (parties.take cfg headerVersion callType (tokenNr + 1) party)

/-- `sizeof(SkCcm5CallInfoStruct)`; the parties follow it. -/
def ccm5CallInfoSize : Nat := 44

def ccm5Parties (cfg : Config) (data : List UInt8) : Parties :=
  grabParties cfg (headerVersion data) (wordAt 20 data) 12 0 (data.drop ccm5CallInfoSize) {}

/-- `SkinnyValidateCcm5CallInfo`: the first two texts of the parties are checked. -/
def skinnyValidateCcm5CallInfo (data : List UInt8) : Bool :=
  let parties := data.drop ccm5CallInfoSize
  decide (ccm5CallInfoSize ≤ data.length) && decide (wordAt 20 data ≤ skinnyCallTypeForward) &&
    checkPartyString parties && checkPartyString (parties.drop ((cString parties).length + 1))

/-- The texts are reported as they are copied; the sizes of the fields are not checked. -/
def ccm5CallInfo (data : List UInt8) (parties : Parties) : SkCallInfo where
  callingPartyName := textOf parties.callingPartyName
  callingParty := textOf parties.callingParty
  calledPartyName := textOf parties.calledPartyName
  calledParty := textOf parties.calledParty
  lineInstance := 0
  callId := wordAt 16 data
  callType := wordAt 20 data

def ccm5Reports (cfg : Config) (data : List UInt8) : List Report :=
  if skinnyValidateCcm5CallInfo data then [.callInfo (ccm5CallInfo data (ccm5Parties cfg data))]
  else []

/-! ### The handler -/

def skMessageOpenReceiveChannelAck : UInt32 := 0x22
def skMessageSoftKeyEvent : UInt32 := 0x26
def skMessageStartMediaTransmission : UInt32 := 0x8A
def skMessageStopMediaTransmission : UInt32 := 0x8B
def skMessageCallInfo : UInt32 := 0x8F
def skMessageLineStat : UInt32 := 0x92
def skMessageCloseReceiveChannel : UInt32 := 0x106
def skMessageSoftKeySetDescription : UInt32 := 0x110
def skMessageCallState : UInt32 := 0x111
def skMessageCcm5CallInfo : UInt32 := 0x14A

/-- The structures as which a message is read, the first that is valid. -/
def layoutsOf (type : UInt32) : List Layout :=
  if type = skMessageStartMediaTransmission then
    [skStartMediaTransmission, skCcm7_1StartMediaTransmission]
  else if type = skMessageStopMediaTransmission ∨ type = skMessageCloseReceiveChannel then
    [skStopMediaTransmission]
  else if type = skMessageCallInfo then [skCallInfo]
  else if type = skMessageCallState then [skCallStateMessage]
  else if type = skMessageOpenReceiveChannelAck then
    [skOpenReceiveChannelAck, skCcm7_1SkOpenReceiveChannelAck]
  else if type = skMessageLineStat then [skLineStat]
  else if type = skMessageSoftKeyEvent then [skSoftKeyEvent]
  else if type = skMessageSoftKeySetDescription then [skSoftKeySetDescription]
  else []

def layoutReports (cfg : Config) (layouts : List Layout) (data : List UInt8) : List Report :=
  match layouts.find? fun layout => layout.validate data with
  | none => []
  | some layout => layout.reports cfg data

/-- What a message of a type reports: a CallState is read as a CCM5 CallInfo as well. -/
def reportsAs (cfg : Config) (type : UInt32) (data : List UInt8) : List Report :=
  layoutReports cfg (layoutsOf type) data ++
    if type = skMessageCallState ∨ type = skMessageCcm5CallInfo then ccm5Reports cfg data else []

/-- `HandleSkinnyMessage`: what it reports, and the bytes that it leaves in the packet. -/
def handleSkinnyMessage (cfg : Config) (data : List UInt8) : List Report × List UInt8 :=
  (reportsAs cfg (messageType data) data,
    if messageType data = skMessageCallInfo ∧ skCallInfo.validate data then convertNames cfg data
    else data)

/-! ### The scan -/

/-- A message that the scan visits: where it starts, its length, and what it reports. -/
structure Visit where
  offset : Nat
  len : Nat
  reports : List Report

def skinnyMinMessageSize : Nat := 12
def skinnyHeaderLength : Nat := 8

/-- The condition of the loop. -/
def isSkinnyMessage (data : List UInt8) : Bool :=
  decide (skinnyMinMessageSize < data.length) && decide (1 < len data) && decide (len data < 2048) &&
    decide (messageType data ≤ 0x200)

def scanFrom (cfg : Config) : Nat → Nat → List UInt8 → List Visit
  | 0, _, _ => []
  | fuel + 1, offset, data =>
      if isSkinnyMessage data then
        let handled := handleSkinnyMessage cfg data
        let length := skinnyHeaderLength + (len handled.2).toNat
        { offset := offset, len := (len data).toNat, reports := handled.1 } ::
          scanFrom cfg fuel (offset + length) (handled.2.drop length)
      else []

/-- `ScanAllSkinnyMessages`. Every message takes bytes, so that their number is enough fuel. -/
def scanAllSkinnyMessages (cfg : Config) (payload : List UInt8) : List Visit :=
  scanFrom cfg payload.length 0 payload

end OrkAudio.Skinny
