import OrkAudio.SipInvite.Exceptions
import OrkAudio.SipInvite.MediaAddress
import OrkAudio.VoIp.Expired

/-! The datagrams about a call that an INVITE has set up: BYE, REFER, INFO, the replies that say
the call has failed, and SUBSCRIBE.

Each goes by the Call-ID that its header names. The memory of a datagram goes on behind its
payload, as far as the parsers read it. A `Message` is what a sender writes: its lines say which
call it ends without the searches of the parsers. -/

namespace OrkAudio.SipDialog

open Lib SipInvite

structure Config where
  voip : VoIp.Config := {}
  sipReportFullAddress : Bool := false
  sipIgnoreBye : Bool := false
  sipLogFailedCalls : Bool := false
  sipOnDemandFieldName : Bytes := ascii "X-record"
  sipOnDemandFieldValue : String := ""
  sipOnDemandFieldValueOff : String := ""

/-! ### The users of an address -/

def isAlnum (c : UInt8) : Bool :=
  decide (48 ≤ c ∧ c ≤ 57 ∨ 65 ≤ c ∧ c ≤ 90 ∨ 97 ≤ c ∧ c ≤ 122)

/-- What goes on in `GrabSipUriUser`: also # * . + - _ and %. -/
def isUriUser (c : UInt8) : Bool := isAlnum c || (ascii "#*.+-_%").contains c

/-- What goes on in `GrabSipUserAddress`: also # * . + - _ : and @. -/
def isUserAddress (c : UInt8) : Bool := isAlnum c || (ascii "#*.+-_:@").contains c

def skipWhitespaces (text : Bytes) : Bytes := text.dropWhile (· == 0x20)

def grabSipUriUser (text : Bytes) : Bytes := (skipWhitespaces text).takeWhile isUriUser

/-- The loop of `GrabSipUserAddress`, which a colon behind the host ends. -/
def userAddress (passedUserPart : Bool) : Bytes → Bytes
  | [] => []
  | c :: text =>
      if isUserAddress c then
        let passedUserPart := passedUserPart || c == 0x40
        if c == 0x3A && passedUserPart then [] else c :: userAddress passedUserPart text
      else []

def grabSipUserAddress (text : Bytes) : Bytes := userAddress false (skipWhitespaces text)

/-- The user, or the whole address. -/
def grabParty (cfg : Config) (text : Bytes) : Bytes :=
  if cfg.sipReportFullAddress then grabSipUserAddress text else grabSipUriUser text

/-! ### The fields of a header -/

section

variable (memory : Bytes)

/-- Where the line ends that a place is in. -/
def grabLineEnd (place limit : Nat) : Nat :=
  place + (((memory.take limit).drop place).takeWhile fun c => !isLineBreak c).length

/-- `memFindEOL`: the start again for a line without an end. -/
def memFindEOL (start limit : Nat) : Nat :=
  let c := grabLineEnd memory start limit
  if (memory[c]?).any isLineBreak then c else start

/-- The text of a field, from the URI on where there is one. -/
def uriText (field fieldEnd : Nat) : Bytes :=
  (memory.take fieldEnd).drop ((memFindAfter (ascii "sip:") memory field fieldEnd).getD field)

/-- The text of a field from the URI on, none without one. -/
def uriText? (field fieldEnd : Nat) : Option Bytes :=
  (memFindAfter (ascii "sip:") memory field fieldEnd).map fun sipUser =>
    (memory.take fieldEnd).drop sipUser

variable (sipEnd : Nat)

def fromField : Option Nat := memFindEither (ascii "From:") (ascii "\nf:") memory sipEnd

def toField : Option Nat := memFindEither (ascii "To:") (ascii "\nt:") memory sipEnd

/-- `m_from`, by this way to read a user; the line of a From must have an end. -/
def fromUser (grab : Bytes → Bytes) : String :=
  Skinny.textOf (((fromField memory sipEnd).map fun field =>
    grab (uriText memory field (memFindEOL memory field sipEnd))).getD [])

/-- `m_to`. -/
def toUser (grab : Bytes → Bytes) : String :=
  Skinny.textOf (((toField memory sipEnd).map fun field =>
    grab (uriText memory field (grabLineEnd memory field sipEnd))).getD [])

/-- The user of a URI in the line behind this name. -/
def namedParty (name : Bytes) : String :=
  Skinny.textOf (((memFindAfter name memory 0 sipEnd).bind fun field =>
    (uriText? memory field (memFindEOL memory field sipEnd)).map grabSipUriUser).getD [])

/-- The token behind a place, none without a place. -/
def tokenText (field : Option Nat) : String :=
  Skinny.textOf ((field.map fun place => grabTokenSkipLeadingWhitespaces memory place sipEnd).getD [])

/-- `m_callId`. -/
def callId : String := tokenText memory sipEnd (callIdField memory sipEnd)

end

/-! ### The parsers

None for a datagram that is not of the kind, else what is handed to the sessions. -/

section

variable (cfg : Config) (env : VoIp.Env) (packet : Datagram)

def sipEnd : Nat := packet.sipLength.toNat

/-- The payload has this length at least, and was captured. -/
def isWhole (length : Int) : Bool :=
  decide (length ≤ packet.sipLength) && decide (packet.sipLength ≤ packet.captured)

def byeInfo : VoIp.SipByeInfo where
  callId := callId packet.memory (sipEnd packet)
  fromUser := fromUser packet.memory (sipEnd packet) (grabParty cfg)
  toUser := toUser packet.memory (sipEnd packet) (grabParty cfg)

def trySipBye : Option (List VoIp.Operation) :=
  if isWhole packet 4 && packet.begins "BYE" then
    some (if (callIdField packet.memory (sipEnd packet)).isSome && !cfg.sipIgnoreBye then
      [.sipBye (byeInfo cfg packet)] else [])
  else none

/-- The party that is neither the one referred to nor the one that refers; the sender first. -/
def referredParty (fromUser toUser referToParty referredByParty : String) : String :=
  let isReferred (party : String) : Bool :=
    party != "" && !equalsNoCase party referToParty && !equalsNoCase party referredByParty
  if isReferred fromUser then fromUser else if isReferred toUser then toUser else ""

def referInfo : VoIp.SipRefer :=
  let fromUser := fromUser packet.memory (sipEnd packet) grabSipUriUser
  let toUser := toUser packet.memory (sipEnd packet) grabSipUriUser
  let referToParty := namedParty packet.memory (sipEnd packet) (ascii "Refer-To:")
  let referredByParty := namedParty packet.memory (sipEnd packet) (ascii "Referred-By:")
  { timestamp := env.time
    fromUser := fromUser
    toUser := toUser
    callId := callId packet.memory (sipEnd packet)
    referToParty := referToParty
    referredByParty := referredByParty
    referredParty := referredParty fromUser toUser referToParty referredByParty }

def trySipRefer : Option (List VoIp.Operation) :=
  if isWhole packet 5 && packet.begins "REFER" then some [.sipRefer (referInfo env packet)] else none

/-- The line of the field that asks for a recording. -/
def onDemandField : Option String :=
  (memFindAfter (cfg.sipOnDemandFieldName ++ ascii ":") packet.memory 0 (sipEnd packet)).map
    fun field => Skinny.textOf (grabLineSkipLeadingWhitespace packet.memory field (sipEnd packet))

def sipInfo : VoIp.SipInfo :=
  let isOn := (onDemandField cfg packet).any fun field => equalsNoCase field cfg.sipOnDemandFieldValue
  let isOff := (onDemandField cfg packet).any fun field =>
    equalsNoCase field cfg.sipOnDemandFieldValueOff
  let token (name : String) := tokenText packet.memory (sipEnd packet)
    (memFindAfter (ascii name) packet.memory 0 (sipEnd packet))
  { callId := callId packet.memory (sipEnd packet)
    cSeq := token "CSeq:"
    dtmfDigit := token "Signal="
    onDemand := isOn
    onDemandOff := !isOn && isOff }

def trySipInfo : Option (List VoIp.Operation) :=
  if isWhole packet 5 && packet.begins "INFO" then
    some (if callId packet.memory (sipEnd packet) = "" then [] else [.sipInfo (sipInfo cfg packet)])
  else none

/-- What begins a reply that says the call has failed. -/
def isFailure : Bool :=
  packet.begins "SIP/2.0 4" || packet.begins "SIP/2.0 5" || packet.begins "SIP/2.0 6" ||
    packet.begins "CANCEL "

def errorCode : String :=
  if packet.begins "CANCEL " then "CANCEL"
  else tokenText packet.memory (sipEnd packet)
    (memFindAfter (ascii "SIP/2.0 ") packet.memory 0 (sipEnd packet))

def tryLogFailedSip : Option (List VoIp.Operation) :=
  if cfg.sipLogFailedCalls && isWhole packet 9 && isFailure packet then
    if callId packet.memory (sipEnd packet) ≠ "" ∧ errorCode packet ≠ "" then
      some [.sipErrorPacket
        { callId := callId packet.memory (sipEnd packet), errorCode := errorCode packet }]
    else none
  else none

/-- There is no test of the length. -/
def trySipSubscribe : Option (List VoIp.Operation) :=
  if packet.begins "SUBSCRIBE" then
    let event := tokenText packet.memory (sipEnd packet)
      (memFindAfter (ascii "Event:") packet.memory 0 (sipEnd packet))
    some (if equalsNoCase event "pickup" then
      [.sipSubscribe { callId := callId packet.memory (sipEnd packet) }] else [])
  else none

/-- These parsers in the order of `DetectUsefulUdpPacket`, for a datagram that the ones before
them leave. -/
def detectDialog : Option (List VoIp.Operation) :=
  (trySipBye cfg packet).or <| (trySipRefer env packet).or <| (trySipInfo cfg packet).or <|
    (tryLogFailedSip cfg packet).or <|
      if cfg.voip.sipCallPickUpSupport then trySipSubscribe packet else none

/-- What the datagram does to the sessions. -/
def deliver (st : VoIp.VoIpSessions) : VoIp.VoIpSessions :=
  ((detectDialog cfg env packet).getD []).foldl (fun st op => op.run cfg.voip env st) st

end

/-! ### The calls that end -/

open VoIp (VoIpSessions)

section

variable (cfg : Config) (packet : Datagram)

/-- The call-id that the datagram goes by. -/
def calledFor : String := callId packet.memory (sipEnd packet)

/-- A BYE that is not ignored. -/
def IsBye : Prop :=
  isWhole packet 4 = true ∧ packet.begins "BYE" = true ∧ cfg.sipIgnoreBye = false ∧
    (callIdField packet.memory (sipEnd packet)).isSome = true

/-- A reply that says the call has failed, and not for want of an authentication. -/
def IsFailed : Prop :=
  cfg.sipLogFailedCalls = true ∧ isWhole packet 9 = true ∧ isFailure packet = true ∧
    calledFor packet ≠ "" ∧ errorCode packet ≠ "" ∧ errorCode packet ≠ "407"

/-- The datagram ends the call with this id. -/
def Ends (k : String) : Prop := (IsBye cfg packet ∨ IsFailed cfg packet) ∧ calledFor packet = k

end

/-- Between two stores exactly the calls with these ids end: their sessions are stopped and lose
their entries, and no other session does. -/
structure EndsCalls (ended : String → Prop) (st st' : VoIpSessions) : Prop where
  byCallId : ∀ k r, (k, r) ∈ st'.byCallId.entries ↔ (k, r) ∈ st.byCallId.entries ∧ ¬ended k
  byIpAndPort : ∀ a r, (a, r) ∈ st'.byIpAndPort.entries ↔
    (a, r) ∈ st.byIpAndPort.entries ∧ ∀ k, ended k → (k, r) ∉ st.byCallId.entries
  dismissed : ∀ r, st'.isDismissed r ↔
    st.isDismissed r ∨ ∃ k, ended k ∧ (k, r) ∈ st.byCallId.entries

namespace EndsCalls

variable {first second both : String → Prop} {st st' st'' : VoIpSessions}

theorem congr (ends : EndsCalls first st st') (hsame : ∀ k, second k ↔ first k) :
    EndsCalls second st st' := by
  have heq : second = first := funext fun k => propext (hsame k)
  rw [heq]
  exact ends

/-- Nothing ends where the entries and the history stay. -/
theorem of_same (hbyCallId : st'.byCallId = st.byCallId)
    (hbyIpAndPort : st'.byIpAndPort = st.byIpAndPort) (hhistory : st'.history = st.history) :
    EndsCalls (fun _ => False) st st' where
  byCallId k r := by
    rw [hbyCallId, not_false_eq_true, and_true]
  byIpAndPort a r := by
    rw [hbyIpAndPort]
    exact ⟨fun hmem => ⟨hmem, fun k hk => hk.elim⟩, fun hmem => hmem.1⟩
  dismissed r := by
    rw [VoIpSessions.isDismissed, hhistory]
    constructor
    · exact Or.inl
    · intro hdismissed
      rcases hdismissed with hold | ⟨k, hk, -⟩
      · exact hold
      · exact hk.elim

/-- What ends in two parts; a call that the first one ends is not there for the second. -/
theorem trans (before : EndsCalls first st st') (after : EndsCalls second st' st'')
    (hboth : ∀ k, both k ↔ first k ∨ second k) : EndsCalls both st st'' where
  byCallId k r := by
    rw [after.byCallId, before.byCallId, hboth, not_or, and_assoc]
  byIpAndPort a r := by
    rw [after.byIpAndPort, before.byIpAndPort, and_assoc]
    apply and_congr_right
    intro _
    constructor
    · intro hneither k hk hmem
      rcases (hboth k).mp hk with hfirst | hsecond
      · exact hneither.1 k hfirst hmem
      · exact hneither.2 k hsecond ((before.byCallId k r).mpr
          ⟨hmem, fun hfirst => hneither.1 k hfirst hmem⟩)
    · intro hnone
      refine ⟨fun k hfirst => hnone k ((hboth k).mpr (.inl hfirst)), ?_⟩
      intro k hsecond hmem
      exact hnone k ((hboth k).mpr (.inr hsecond)) ((before.byCallId k r).mp hmem).1
  dismissed r := by
    rw [after.dismissed, before.dismissed, or_assoc]
    apply or_congr_right
    constructor
    · intro hsome
      rcases hsome with ⟨k, hfirst, hmem⟩ | ⟨k, hsecond, hmem⟩
      · exact ⟨k, (hboth k).mpr (.inl hfirst), hmem⟩
      · exact ⟨k, (hboth k).mpr (.inr hsecond), ((before.byCallId k r).mp hmem).1⟩
    · intro hsome
      rcases hsome with ⟨k, hk, hmem⟩
      by_cases hfirst : first k
      · exact .inl ⟨k, hfirst, hmem⟩
      · rcases (hboth k).mp hk with hyes | hsecond
        · exact absurd hyes hfirst
        · exact .inr ⟨k, hsecond, (before.byCallId k r).mpr ⟨hmem, hfirst⟩⟩

end EndsCalls

section

variable {cfg : Config} {env : VoIp.Env} {packet : Datagram} {st st' : VoIpSessions}

/-- No session is registered under the empty call-id. -/
def IsKeyed (st : VoIpSessions) : Prop := ∀ k r, (k, r) ∈ st.byCallId.entries → k ≠ ""

/-- A report to the session of a call, which is then stopped. -/
theorem endsCalls_stop (sound : VoIpSessions.Sound cfg.voip .any st) (hkeyed : IsKeyed st)
    (m : VoIp.SessionM Unit) {k : String} {r : Nat} (hfound : st.byCallId.find? k = some r) :
    EndsCalls (fun j => j = k) st ((st.perform r m).stop cfg.voip env r) := by
  have hmem := OrderedMap.find?_eq_some.mp hfound
  have usable := VoIpSessions.usable_of_registered sound (VoIpSessions.registered_of_byCallId hfound)
  have reported : VoIpSessions.Sound cfg.voip .any (st.perform r m) := sound.act m usable
  have hcallId : ((st.perform r m).session r).callId = k := by
    rw [congrArg VoIp.SessionKeys.callId (VoIpSessions.keys_act m)]
    rcases sound.callId k r hmem with hsame | hempty
    · exact hsame.symm
    · exact absurd hempty (hkeyed k r hmem)
  have hself : ∀ q, (k, q) ∈ st.byCallId.entries ↔ q = r := by
    intro q
    constructor
    · intro hother
      have hsame := hfound.symm.trans (OrderedMap.find?_eq_some.mpr hother)
      exact (Option.some.inj hsame).symm
    · intro hq
      rw [hq]
      exact hmem
  constructor
  · intro j q
    rw [VoIpSessions.mem_byCallId_stop_iff, hcallId, VoIpSessions.byCallId_act]
    apply and_congr_right
    intro hj
    constructor
    · intro hleft
      rcases hleft with hempty | hne
      · exact absurd hempty (hkeyed j q hj)
      · exact Ne.symm hne
    · intro hne
      exact .inr (Ne.symm hne)
  · intro a q
    rw [VoIpSessions.mem_byIpAndPort_stop reported, VoIpSessions.byIpAndPort_act]
    apply and_congr_right
    intro _
    constructor
    · intro hne j hj hother
      rw [hj, hself] at hother
      exact hne hother
    · intro hnone hq
      exact hnone k rfl ((hself q).mpr hq)
  · intro q
    rw [VoIpSessions.isDismissed_stop, VoIpSessions.isDismissed, VoIpSessions.history_act]
    apply or_congr_right
    constructor
    · intro hq
      exact ⟨k, rfl, (hself q).mpr hq⟩
    · intro hother
      rcases hother with ⟨j, hj, hmem⟩
      rw [hj, hself] at hmem
      exact hmem

/-- A call-id that no session is registered under ends nothing. -/
theorem endsCalls_missing {k : String} (hmissing : st.byCallId.find? k = none) :
    EndsCalls (fun j => j = k) st st := by
  have hnone : ∀ r, (k, r) ∉ st.byCallId.entries := by
    intro r hmem
    exact OrderedMap.find?_eq_none.mp hmissing _ hmem rfl
  constructor
  · intro j r
    constructor
    · intro hmem
      refine ⟨hmem, ?_⟩
      intro hj
      rw [hj] at hmem
      exact hnone r hmem
    · exact And.left
  · intro a r
    constructor
    · intro hmem
      refine ⟨hmem, ?_⟩
      intro j hj
      rw [hj]
      exact hnone r
    · exact And.left
  · intro r
    constructor
    · exact Or.inl
    · intro hdismissed
      rcases hdismissed with hold | ⟨j, hj, hmem⟩
      · exact hold
      · rw [hj] at hmem
        exact absurd hmem (hnone r)

theorem endsCalls_sipBye (sound : VoIpSessions.Sound cfg.voip .any st) (hkeyed : IsKeyed st)
    (bye : VoIp.SipByeInfo) :
    EndsCalls (fun k => k = bye.callId) st (st.reportSipBye cfg.voip env bye) := by
  unfold VoIpSessions.reportSipBye
  split
  · rename_i r hfound
    exact endsCalls_stop sound hkeyed _ hfound
  · rename_i hmissing
    exact endsCalls_missing hmissing

theorem endsCalls_sipErrorPacket (sound : VoIpSessions.Sound cfg.voip .any st)
    (hkeyed : IsKeyed st) (info : VoIp.SipFailureMessageInfo) :
    EndsCalls (fun k => info.errorCode ≠ "407" ∧ k = info.callId) st
      (st.reportSipErrorPacket cfg.voip env info) := by
  unfold VoIpSessions.reportSipErrorPacket
  split
  · rename_i r hfound
    split_ifs with hcode
    · exact (EndsCalls.of_same rfl rfl rfl).congr fun k => iff_false_intro fun h => h.1 hcode
    · exact (endsCalls_stop sound hkeyed _ hfound).congr fun k => and_iff_right hcode
  · rename_i hmissing
    by_cases hcode : info.errorCode = "407"
    · exact (EndsCalls.of_same rfl rfl rfl).congr fun k => iff_false_intro fun h => h.1 hcode
    · exact (endsCalls_missing hmissing).congr fun k => and_iff_right hcode

theorem endsCalls_sipRefer (info : VoIp.SipRefer) :
    EndsCalls (fun _ => False) st (st.reportSipRefer info) := by
  unfold VoIpSessions.reportSipRefer
  split
  · exact .of_same rfl rfl rfl
  · exact .of_same rfl rfl rfl

theorem endsCalls_sipInfo (info : VoIp.SipInfo) :
    EndsCalls (fun _ => False) st (st.reportSipInfo cfg.voip env info) := by
  unfold VoIpSessions.reportSipInfo
  split
  · exact .of_same rfl rfl rfl
  · exact .of_same rfl rfl rfl

theorem head?_of_begins {text : String} {c : UInt8} (hbegins : packet.begins text = true)
    (htext : (ascii text).head? = some c) : packet.memory.head? = some c := by
  rcases List.isPrefixOf_iff_prefix.mp hbegins with ⟨rest, hrest⟩
  cases hascii : ascii text with
  | nil =>
      rw [hascii] at htext
      cases htext
  | cons d more =>
      rw [hascii] at htext hrest
      rw [← hrest, List.cons_append, List.head?_cons]
      exact htext

/-- A reply begins with an S and a CANCEL with a C. -/
theorem not_isFailure {text : String} {c : UInt8} (hbegins : packet.begins text = true)
    (htext : (ascii text).head? = some c) (hc : c ≠ 0x53 ∧ c ≠ 0x43) :
    ¬isFailure packet = true := by
  have hhead := head?_of_begins hbegins htext
  have hother {other : String} {d : UInt8} (hother : packet.begins other = true)
      (hd : (ascii other).head? = some d) : c = d :=
    Option.some.inj (hhead.symm.trans (head?_of_begins hother hd))
  intro hfailure
  simp only [isFailure, Bool.or_eq_true] at hfailure
  rcases hfailure with ((hfour | hfive) | hsix) | hcancel
  · exact hc.1 (hother hfour rfl)
  · exact hc.1 (hother hfive rfl)
  · exact hc.1 (hother hsix rfl)
  · exact hc.2 (hother hcancel rfl)

theorem endsCalls_sipSubscribe (info : VoIp.SipSubscribeInfo) :
    EndsCalls (fun _ => False) st (st.reportSipSubscribe info) :=
  .of_same rfl rfl rfl

/-- What is handed over of a SUBSCRIBE. -/
theorem trySipSubscribe_handed (packet : Datagram) (allowed : Bool) :
    (if allowed = true then trySipSubscribe packet else none).getD [] = [] ∨
      ∃ info, (if allowed = true then trySipSubscribe packet else none).getD [] =
        [.sipSubscribe info] := by
  cases allowed with
  | false => exact .inl rfl
  | true =>
      rw [if_pos rfl]
      simp only [trySipSubscribe]
      split_ifs
      · exact .inr ⟨_, rfl⟩
      · exact .inl rfl
      · exact .inl rfl

/-- A BYE ends the call that it names, unless it is ignored. -/
theorem endsCalls_ofBye (sound : VoIpSessions.Sound cfg.voip .any st) (hkeyed : IsKeyed st)
    (hbye : (isWhole packet 4 && packet.begins "BYE") = true) :
    EndsCalls (Ends cfg packet) st (deliver cfg env packet st) := by
  have hparts := Bool.and_eq_true_iff.mp hbye
  have hnot : ¬IsFailed cfg packet := fun hfailed =>
    not_isFailure hparts.2 rfl (by decide) hfailed.2.2.1
  unfold deliver detectDialog
  rw [trySipBye, if_pos hbye, Option.some_or, Option.getD_some]
  split_ifs with hreported
  · rw [Bool.and_eq_true, Bool.not_eq_true'] at hreported
    apply (endsCalls_sipBye sound hkeyed (byeInfo cfg packet)).congr
    intro k
    have hends : IsBye cfg packet := ⟨hparts.1, hparts.2, hreported.2, hreported.1⟩
    exact ⟨fun h => h.2.symm, fun h => ⟨.inl hends, h.symm⟩⟩
  · apply (EndsCalls.of_same rfl rfl rfl).congr
    intro k
    apply iff_false_intro
    intro hends
    rcases hends.1 with hisBye | hfailed
    · apply hreported
      rw [hisBye.2.2.2, hisBye.2.2.1]
      rfl
    · exact hnot hfailed

theorem not_isBye (hbye : ¬(isWhole packet 4 && packet.begins "BYE") = true) :
    ¬IsBye cfg packet := by
  intro hisBye
  apply hbye
  rw [hisBye.1, hisBye.2.1]
  rfl

theorem ends_iff_false (hnotBye : ¬IsBye cfg packet) (hnot : ¬IsFailed cfg packet) (k : String) :
    Ends cfg packet k ↔ False :=
  iff_false_intro fun hends => hends.1.elim hnotBye hnot

/-- A reply that no parser before `TryLogFailedSip` takes ends the call that it names, a datagram
that this one leaves none. -/
theorem endsCalls_ofFailure (sound : VoIpSessions.Sound cfg.voip .any st) (hkeyed : IsKeyed st)
    (hnotBye : ¬IsBye cfg packet) :
    EndsCalls (Ends cfg packet) st ((((tryLogFailedSip cfg packet).or <|
      if cfg.voip.sipCallPickUpSupport then trySipSubscribe packet else none).getD []).foldl
        (fun st op => op.run cfg.voip env st) st) := by
  by_cases hfailed : (cfg.sipLogFailedCalls && isWhole packet 9 && isFailure packet) = true ∧
      callId packet.memory (sipEnd packet) ≠ "" ∧ errorCode packet ≠ ""
  · rw [tryLogFailedSip, if_pos hfailed.1, if_pos hfailed.2, Option.some_or, Option.getD_some]
    apply (endsCalls_sipErrorPacket sound hkeyed
      { callId := calledFor packet, errorCode := errorCode packet }).congr
    intro k
    have hparts := hfailed.1
    rw [Bool.and_eq_true, Bool.and_eq_true] at hparts
    constructor
    · intro hends
      rcases hends.1 with hisBye | hisFailed
      · exact absurd hisBye hnotBye
      · exact ⟨hisFailed.2.2.2.2.2, hends.2.symm⟩
    · intro hcode
      exact ⟨.inr ⟨hparts.1.1, hparts.1.2, hparts.2, hfailed.2.1, hfailed.2.2, hcode.1⟩,
        hcode.2.symm⟩
  · have hleft : tryLogFailedSip cfg packet = none := by
      unfold tryLogFailedSip
      split_ifs with hfirst hsecond
      · exact absurd ⟨hfirst, hsecond⟩ hfailed
      · rfl
      · rfl
    have hnot : ¬IsFailed cfg packet := by
      intro hisFailed
      apply hfailed
      rw [hisFailed.1, hisFailed.2.1, hisFailed.2.2.1]
      exact ⟨rfl, hisFailed.2.2.2.1, hisFailed.2.2.2.2.1⟩
    rw [hleft, Option.none_or]
    apply EndsCalls.congr _ (ends_iff_false hnotBye hnot)
    rcases trySipSubscribe_handed packet cfg.voip.sipCallPickUpSupport with hnone | ⟨info, hsome⟩
    · rw [hnone, List.foldl_nil]
      exact .of_same rfl rfl rfl
    · rw [hsome, List.foldl_cons, List.foldl_nil]
      exact endsCalls_sipSubscribe info

/-- What one datagram ends. -/
theorem endsCalls_deliver (sound : VoIpSessions.Sound cfg.voip .any st) (hkeyed : IsKeyed st) :
    EndsCalls (Ends cfg packet) st (deliver cfg env packet st) := by
  by_cases hbye : (isWhole packet 4 && packet.begins "BYE") = true
  · exact endsCalls_ofBye sound hkeyed hbye
  · have hnotBye := @not_isBye cfg packet hbye
    unfold deliver detectDialog
    rw [trySipBye, if_neg hbye, Option.none_or]
    by_cases hrefer : (isWhole packet 5 && packet.begins "REFER") = true
    · rw [trySipRefer, if_pos hrefer, Option.some_or, Option.getD_some]
      have hbegins := (Bool.and_eq_true_iff.mp hrefer).2
      exact (endsCalls_sipRefer (referInfo env packet)).congr <| ends_iff_false hnotBye
        fun hfailed => not_isFailure hbegins rfl (by decide) hfailed.2.2.1
    · rw [trySipRefer, if_neg hrefer, Option.none_or]
      by_cases hinfo : (isWhole packet 5 && packet.begins "INFO") = true
      · rw [trySipInfo, if_pos hinfo, Option.some_or, Option.getD_some]
        have hbegins := (Bool.and_eq_true_iff.mp hinfo).2
        have hnone := ends_iff_false hnotBye
          fun hfailed => not_isFailure hbegins rfl (by decide) hfailed.2.2.1
        split_ifs
        · exact (EndsCalls.of_same rfl rfl rfl).congr hnone
        · exact (endsCalls_sipInfo (sipInfo cfg packet)).congr hnone
      · rw [trySipInfo, if_neg hinfo, Option.none_or]
        exact endsCalls_ofFailure sound hkeyed hnotBye

/-! ### Runs over datagrams -/

/-- A datagram at some time. -/
def Delivers (cfg : Config) (st : VoIpSessions) (label : VoIp.Env × Datagram)
    (st' : VoIpSessions) : Prop :=
  st' = deliver cfg label.1 label.2 st

theorem sound_deliver (sound : VoIpSessions.Sound cfg.voip .any st) :
    VoIpSessions.Sound cfg.voip .any (deliver cfg env packet st) := by
  unfold deliver
  induction (detectDialog cfg env packet).getD [] generalizing st with
  | nil => exact sound
  | cons op ops ih =>
      have acts := @VoIpSessions.operation_acts cfg.voip env .any st op sound False.elim False.elim
        False.elim
      exact ih (VoIpSessions.Acts.sound acts sound)

theorem EndsCalls.isKeyed {ended : String → Prop} (ends : EndsCalls ended st st')
    (hkeyed : IsKeyed st) : IsKeyed st' :=
  fun k r hmem => hkeyed k r ((ends.byCallId k r).mp hmem).1

theorem endsCalls_run {labels : List (VoIp.Env × Datagram)}
    (sound : VoIpSessions.Sound cfg.voip .any st) (hkeyed : IsKeyed st)
    (run : Steps (Delivers cfg) st labels st') :
    EndsCalls (fun k => ∃ label ∈ labels, Ends cfg label.2 k) st st' := by
  induction run with
  | nil st =>
      apply (EndsCalls.of_same rfl rfl rfl).congr
      intro k
      apply iff_false_intro
      intro hends
      rcases hends with ⟨label, hlabel, -⟩
      cases hlabel
  | @cons before after last label rest head _ ih =>
      have hafter : after = deliver cfg label.1 label.2 before := head
      subst hafter
      have hfirst := @endsCalls_deliver cfg label.1 label.2 before sound hkeyed
      apply hfirst.trans (ih (sound_deliver sound) (hfirst.isKeyed hkeyed))
      intro k
      rw [List.exists_mem_cons_iff]

/-- In every run over these datagrams, from any store that operations lead to and that has no
session under the empty call-id, exactly the calls end whose Call-ID a BYE names that is not
ignored, or a failure other than 407: each of their sessions is stopped and loses its entries, and
every other session keeps its own. -/
theorem calls_of_run (labels : List (VoIp.Env × Datagram)) (st st' : VoIpSessions)
    (reachable : VoIpSessions.Reachable cfg.voip st) (hkeyed : IsKeyed st)
    (run : Steps (Delivers cfg) st labels st') :
    EndsCalls (fun k => ∃ label ∈ labels, Ends cfg label.2 k) st st' :=
  endsCalls_run reachable.sound hkeyed run

section

private def invited : VoIp.SipInviteInfo :=
  { sipMethod := "INVITE", senderIp := 0, originalSenderIp := 0, receiverIp := 0, fromRtpIp := 0,
    senderMac := [], receiverMac := [], fromRtpPort := "", fromUser := "", toUser := "",
    callId := "call", recvTime := 0, callId_ne := by decide }

private def byeDatagram : Datagram where
  memory := ascii "BYE sip:b\r\nCall-ID: call\r\n"
  len := 34
  captured := 26

private theorem entries_invited :
    (VoIpSessions.runAll {} (VoIpSessions.empty {} { usec := 0 } 0)
      [({ usec := 0 }, .sipInvite invited)]).byCallId.entries = [("call", 0)] := by decide +kernel

private theorem isKeyed_invited :
    IsKeyed (VoIpSessions.runAll {} (VoIpSessions.empty {} { usec := 0 } 0)
      [({ usec := 0 }, .sipInvite invited)]) := by
  intro k r hmem
  rw [entries_invited, List.mem_singleton] at hmem
  have hk : k = "call" := congrArg Prod.fst hmem
  rw [hk]
  decide

theorem calls_of_run_bye :
    ("call", 0) ∉ (deliver {} { usec := 0 } byeDatagram
      (VoIpSessions.runAll {} (VoIpSessions.empty {} { usec := 0 } 0)
        [({ usec := 0 }, .sipInvite invited)])).byCallId.entries := by
  have hbye : Ends {} byeDatagram "call" :=
    ⟨.inl ⟨by decide +kernel, by decide +kernel, rfl, by decide +kernel⟩, by decide +kernel⟩
  have ends := @calls_of_run {} [({ usec := 0 }, byeDatagram)] _ _
    (VoIpSessions.reachable_runAll { usec := 0 } 0 [({ usec := 0 }, .sipInvite invited)])
    isKeyed_invited (.cons rfl (.nil _))
  intro hmem
  exact ((ends.byCallId "call" 0).mp hmem).2 ⟨_, List.mem_singleton_self _, hbye⟩

end

/-! ### Messages of lines -/

/-- The word behind a name in a line. -/
def wordBehind (name line : Bytes) : Bytes :=
  grabToken ((line.drop name.length).dropWhile (· == 0x20))

/-- A message about a call: the first line, header lines of which the first with a Call-ID begins
with it and has a word behind it, and what follows. -/
structure Message where
  first : Line
  before : List Line
  named : Line
  after : List Line
  unnamed : ∀ line ∈ first :: before, hasText (ascii "Call-ID:") line = false
  isNamed : ascii "Call-ID:" <+: named.val
  word_ne : Skinny.textOf (wordBehind (ascii "Call-ID:") named.val) ≠ ""

namespace Message

variable (m : Message)

def lines : List Line := m.first :: (m.before ++ m.named :: m.after)

/-- The call that the message is about. -/
def call : String := Skinny.textOf (wordBehind (ascii "Call-ID:") m.named.val)

/-- The status code, for a reply. -/
def code : String := Skinny.textOf (wordBehind (ascii "SIP/2.0 ") m.first.val)

def IsReply : Prop :=
  ascii "SIP/2.0 4" <+: m.first.val ∨ ascii "SIP/2.0 5" <+: m.first.val ∨
    ascii "SIP/2.0 6" <+: m.first.val

/-- The message says that its call is over. -/
def EndsCall (cfg : Config) : Prop :=
  cfg.sipIgnoreBye = false ∧ ascii "BYE" <+: m.first.val ∨
    cfg.sipLogFailedCalls = true ∧
      (ascii "CANCEL " <+: m.first.val ∨ m.IsReply ∧ m.code ≠ "407")

/-- The message as it arrives, in a memory that goes on behind it. -/
def datagram (behind : Bytes) : Datagram where
  memory := bytesOf m.lines ++ behind
  len := (bytesOf m.lines).length + 8
  captured := (bytesOf m.lines).length

end Message

theorem inline_callId : Inline (ascii "Call-ID:") := ⟨by decide, by decide +kernel⟩

theorem inline_version : Inline (ascii "SIP/2.0 ") := ⟨by decide, by decide +kernel⟩

theorem prefix_line_iff {text line rest : Bytes} (hfree : ∀ c ∈ text, c ≠ 0x0D) :
    text <+: line ++ 0x0D :: rest ↔ text <+: line := by
  induction line generalizing text with
  | nil =>
      cases text with
      | nil => simp
      | cons c text =>
          rw [List.nil_append, List.cons_prefix_cons, List.prefix_nil]
          constructor
          · intro hprefix
            exact absurd hprefix.1 (hfree c List.mem_cons_self)
          · intro hnil
            cases hnil
  | cons d line ih =>
      cases text with
      | nil => simp
      | cons c text =>
          rw [List.cons_append, List.cons_prefix_cons, List.cons_prefix_cons,
            ih fun e he => hfree e (List.mem_cons_of_mem c he)]

/-- The end of the line ends the word. -/
theorem grabToken_line (value rest : Bytes) :
    grabToken ((value ++ 0x0D :: rest).dropWhile (· == 0x20)) =
      grabToken (value.dropWhile (· == 0x20)) := by
  induction value with
  | nil => rfl
  | cons c value ih =>
      by_cases hblank : (c == 0x20) = true
      · have hskips (text : Bytes) :
            (c :: text).dropWhile (· == 0x20) = text.dropWhile (· == 0x20) :=
          List.dropWhile_cons_of_pos hblank
        rw [List.cons_append, hskips, hskips, ih]
      · have hstays (text : Bytes) : (c :: text).dropWhile (· == 0x20) = c :: text :=
          List.dropWhile_cons_of_neg hblank
        rw [List.cons_append, hstays, hstays, ← List.cons_append]
        apply grabToken_append
        intro d hd
        cases hd
        rfl

/-- What is read behind a name that no line has before the one that it begins. -/
theorem tokenText_named {name : Bytes} (hinline : Inline name) (before after : List Line)
    {line : Line} (behind : Bytes) (hbefore : ∀ other ∈ before, hasText name other = false)
    (hline : name <+: line.val) :
    tokenText (bytesOf (before ++ line :: after) ++ behind)
        (bytesOf (before ++ line :: after)).length
        (memFindAfter name (bytesOf (before ++ line :: after) ++ behind) 0
          (bytesOf (before ++ line :: after)).length) =
      Skinny.textOf (wordBehind name line.val) := by
  rcases hline with ⟨value, hvalue⟩
  have hbytes : bytesOf (before ++ line :: after) =
      (bytesOf before ++ name) ++ (value ++ 0x0D :: (0x0A :: bytesOf after)) := by
    rw [bytesOf_append, bytesOf_cons, ← hvalue, crlf]
    simp only [List.append_assoc, List.cons_append, List.nil_append]
  rw [memFindAfter_named hinline before after behind hbefore ⟨value, hvalue⟩, tokenText,
    Option.map_some, Option.getD_some, grabTokenSkipLeadingWhitespaces, List.take_left', hbytes,
    ← List.length_append, List.drop_left, grabToken_line, wordBehind, ← hvalue, List.drop_left]
  rfl

theorem textOf_ne {c : UInt8} (hc : c ≠ 0) (text : Bytes) : Skinny.textOf (c :: text) ≠ "" := by
  intro hempty
  have hchars := congrArg String.toList hempty
  rw [Skinny.textOf, Skinny.cString, List.takeWhile_cons_of_pos (by simpa using hc),
    List.map_cons, String.toList_ofList] at hchars
  cases hchars

namespace Message

variable {m : Message} {behind : Bytes}

theorem begins_iff {text : String} (hfree : ∀ c ∈ ascii text, c ≠ 0x0D) :
    (m.datagram behind).begins text = true ↔ ascii text <+: m.first.val := by
  have hmemory : (m.datagram behind).memory = m.first.val ++ 0x0D ::
      (0x0A :: (bytesOf (m.before ++ m.named :: m.after) ++ behind)) := by
    rw [datagram, lines, bytesOf_cons, crlf]
    simp only [List.append_assoc, List.cons_append, List.nil_append]
  rw [Datagram.begins, List.isPrefixOf_iff_prefix, hmemory]
  exact prefix_line_iff hfree

theorem sipEnd_datagram : sipEnd (m.datagram behind) = (bytesOf m.lines).length := by
  simp [sipEnd, Datagram.sipLength, datagram]

theorem isWhole_datagram {text : Bytes} {length : Nat} (hfirst : text <+: m.first.val)
    (hlength : length ≤ text.length + 2) : isWhole (m.datagram behind) length = true := by
  have hroom : text.length + 2 ≤ (bytesOf m.lines).length := by
    have hle := hfirst.length_le
    rw [lines, bytesOf_cons, List.length_append, List.length_append, show crlf.length = 2 from rfl]
    omega
  have hsip : Datagram.sipLength (m.datagram behind) = ((bytesOf m.lines).length : Int) := by
    simp [Datagram.sipLength, datagram]
  rw [isWhole, Bool.and_eq_true, decide_eq_true_eq, decide_eq_true_eq, hsip]
  exact ⟨by omega, le_refl _⟩

theorem callIdField_datagram : ∃ place,
    callIdField (m.datagram behind).memory (sipEnd (m.datagram behind)) = some place ∧
      memFindAfter (ascii "Call-ID:") (m.datagram behind).memory 0 (sipEnd (m.datagram behind)) =
        some place := by
  have hfound := memFindAfter_named inline_callId (m.first :: m.before) m.after behind m.unnamed
    m.isNamed
  rw [sipEnd_datagram]
  refine ⟨_, ?_, hfound⟩
  rw [callIdField]
  exact congrArg (Option.or · _) hfound

theorem calledFor_datagram : calledFor (m.datagram behind) = m.call := by
  rcases @callIdField_datagram m behind with ⟨place, hfield, hfound⟩
  rw [calledFor, callId, hfield, ← hfound, sipEnd_datagram]
  exact tokenText_named inline_callId (m.first :: m.before) m.after behind m.unnamed m.isNamed

theorem isBye_iff {cfg : Config} : IsBye cfg (m.datagram behind) ↔
    cfg.sipIgnoreBye = false ∧ ascii "BYE" <+: m.first.val := by
  have hfree : ∀ c ∈ ascii "BYE", c ≠ 0x0D := by decide +kernel
  constructor
  · intro hisBye
    exact ⟨hisBye.2.2.1, (begins_iff hfree).mp hisBye.2.1⟩
  · intro hbye
    rcases @callIdField_datagram m behind with ⟨place, hfield, -⟩
    refine ⟨isWhole_datagram hbye.2 (by decide +kernel), (begins_iff hfree).mpr hbye.2, hbye.1, ?_⟩
    rw [hfield]
    rfl

theorem isFailure_iff : isFailure (m.datagram behind) = true ↔
    ascii "CANCEL " <+: m.first.val ∨ m.IsReply := by
  rw [isFailure, Bool.or_eq_true, Bool.or_eq_true, Bool.or_eq_true,
    begins_iff (by decide +kernel), begins_iff (by decide +kernel), begins_iff (by decide +kernel),
    begins_iff (by decide +kernel), IsReply]
  exact or_comm.trans (or_congr_right or_assoc)

/-- The first line of a reply goes on with a digit. -/
theorem IsReply.line (reply : m.IsReply) :
    ∃ c rest, m.first.val = ascii "SIP/2.0 " ++ c :: rest ∧ (c = 0x34 ∨ c = 0x35 ∨ c = 0x36) := by
  rcases reply with ⟨rest, hrest⟩ | ⟨rest, hrest⟩ | ⟨rest, hrest⟩
  · exact ⟨0x34, rest, hrest.symm, .inl rfl⟩
  · exact ⟨0x35, rest, hrest.symm, .inr (.inl rfl)⟩
  · exact ⟨0x36, rest, hrest.symm, .inr (.inr rfl)⟩

theorem IsReply.code_ne (reply : m.IsReply) : m.code ≠ "" := by
  rcases reply.line with ⟨c, rest, hline, hc⟩
  have hword : (c == 0x20 || isLineEnd c) = false ∧ c ≠ 0 := by
    rcases hc with rfl | rfl | rfl <;> decide
  have hblank : ¬(c == 0x20) = true := by
    intro hblank
    rw [hblank] at hword
    cases hword.1
  have hstays : (c :: rest).dropWhile (· == 0x20) = c :: rest := List.dropWhile_cons_of_neg hblank
  rw [code, wordBehind, hline, List.drop_left, hstays, grabToken,
    List.takeWhile_cons_of_pos (by simp only [hword.1, Bool.not_false])]
  exact textOf_ne hword.2 _

theorem errorCode_cancel (hcancel : ascii "CANCEL " <+: m.first.val) :
    errorCode (m.datagram behind) = "CANCEL" := by
  rw [errorCode, if_pos ((begins_iff (by decide +kernel)).mpr hcancel)]

theorem IsReply.not_cancel (reply : m.IsReply) : ¬ascii "CANCEL " <+: m.first.val := by
  rcases reply.line with ⟨c, rest, hline, -⟩
  rw [hline]
  intro hcancel
  have hhead := (List.cons_prefix_cons.mp hcancel).1
  exact absurd hhead (by decide)

theorem IsReply.errorCode (reply : m.IsReply) :
    errorCode (m.datagram behind) = m.code := by
  have hnot : ¬(m.datagram behind).begins "CANCEL " = true := by
    rw [begins_iff (by decide +kernel)]
    exact reply.not_cancel
  rcases reply.line with ⟨c, rest, hline, -⟩
  rw [SipDialog.errorCode, if_neg hnot, sipEnd_datagram]
  exact tokenText_named inline_version [] (m.before ++ m.named :: m.after) behind
    (fun line hline => absurd hline List.not_mem_nil) ⟨c :: rest, hline.symm⟩

theorem isFailed_iff {cfg : Config} : IsFailed cfg (m.datagram behind) ↔
    cfg.sipLogFailedCalls = true ∧
      (ascii "CANCEL " <+: m.first.val ∨ m.IsReply ∧ m.code ≠ "407") := by
  have hcall : calledFor (m.datagram behind) ≠ "" := by
    rw [calledFor_datagram]
    exact m.word_ne
  constructor
  · intro hfailed
    refine ⟨hfailed.1, ?_⟩
    rcases isFailure_iff.mp hfailed.2.2.1 with hcancel | reply
    · exact .inl hcancel
    · refine .inr ⟨reply, ?_⟩
      rw [← reply.errorCode]
      exact hfailed.2.2.2.2.2
  · intro hends
    rcases hends with ⟨hlog, hcancel | ⟨reply, hcode⟩⟩
    · refine ⟨hlog, isWhole_datagram hcancel (by decide +kernel),
        isFailure_iff.mpr (.inl hcancel), hcall, ?_, ?_⟩
      · rw [errorCode_cancel hcancel]
        decide
      · rw [errorCode_cancel hcancel]
        decide
    · rcases reply.line with ⟨c, rest, hline, -⟩
      have hwhole := @isWhole_datagram m behind (ascii "SIP/2.0 ") 9 ⟨c :: rest, hline.symm⟩
        (by decide +kernel)
      refine ⟨hlog, hwhole, isFailure_iff.mpr (.inr reply), hcall, ?_, ?_⟩
      · rw [reply.errorCode]
        exact reply.code_ne
      · rw [reply.errorCode]
        exact hcode

/-- What the datagram ends is what the message says. -/
theorem ends_iff {cfg : Config} {k : String} :
    Ends cfg (m.datagram behind) k ↔ m.EndsCall cfg ∧ m.call = k := by
  rw [Ends, isBye_iff, isFailed_iff, calledFor_datagram, EndsCall]

end Message

/-- In every run over such messages, whatever the memory holds behind them, exactly the calls end
that a message is about which ends its call. -/
theorem calls_of_messages (labels : List (VoIp.Env × Message × Bytes)) (st st' : VoIpSessions)
    (reachable : VoIpSessions.Reachable cfg.voip st) (hkeyed : IsKeyed st)
    (run : Steps (Delivers cfg) st
      (labels.map fun label => (label.1, label.2.1.datagram label.2.2)) st') :
    EndsCalls (fun k => ∃ label ∈ labels, label.2.1.EndsCall cfg ∧ label.2.1.call = k) st st' := by
  apply (endsCalls_run reachable.sound hkeyed run).congr
  intro k
  constructor
  · intro hends
    rcases hends with ⟨label, hlabel, hcall⟩
    exact ⟨_, List.mem_map_of_mem hlabel, Message.ends_iff.mpr hcall⟩
  · intro hends
    rcases hends with ⟨datagram, hdatagram, hcall⟩
    rcases List.mem_map.mp hdatagram with ⟨label, hlabel, rfl⟩
    exact ⟨label, hlabel, Message.ends_iff.mp hcall⟩

section

private def byeMessage : Message where
  first := ⟨ascii "BYE sip:b SIP/2.0", by decide +kernel⟩
  before := [⟨ascii "To: b", by decide +kernel⟩]
  named := ⟨ascii "Call-ID: call", by decide +kernel⟩
  after := []
  unnamed := by decide +kernel
  isNamed := by decide +kernel
  word_ne := by decide +kernel

theorem calls_of_messages_bye :
    ("call", 0) ∉ (deliver {} { usec := 0 } (byeMessage.datagram [])
      (VoIpSessions.runAll {} (VoIpSessions.empty {} { usec := 0 } 0)
        [({ usec := 0 }, .sipInvite invited)])).byCallId.entries := by
  have ends := @calls_of_messages {} [({ usec := 0 }, byeMessage, [])] _ _
    (VoIpSessions.reachable_runAll { usec := 0 } 0 [({ usec := 0 }, .sipInvite invited)])
    isKeyed_invited (.cons rfl (.nil _))
  have hcall : byeMessage.call = "call" := by decide +kernel
  have hends : byeMessage.EndsCall {} := .inl ⟨rfl, by decide +kernel⟩
  intro hmem
  exact ((ends.byCallId "call" 0).mp hmem).2 ⟨_, List.mem_singleton_self _, hends, hcall⟩

end

end

end OrkAudio.SipDialog
