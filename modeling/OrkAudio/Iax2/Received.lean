import OrkAudio.Iax2.Frames
import OrkAudio.Iax2.Index

/-! What the sessions hold after any datagrams.

A datagram is a few operations with call numbers and payload types of the protocol. So the call
numbers are texts that `StringToInt` reads back, and a session that a lookup finds has the NEW
that its metadata are made of, which `ProcessMetadataIax2` takes for granted. -/

namespace OrkAudio.Iax2

open Lib VoIp

/-! ### The operations of the parsers -/

/-- A number of 15 bits as a text. -/
def IsCallno (text : String) : Prop :=
  ∃ callno : UInt16, callno &&& 0x8000 = 0 ∧ text = toString callno.toNat

/-- The payload types of the codecs; a session that has none yet has 0. -/
def payloadTypes : List UInt16 := [0, 2, 3, 4, 5, 7, 8, 9, 18, 97]

theorem zero_mem_payloadTypes : 0 ∈ payloadTypes := by decide

/-- What is known of an operation that a parser makes. -/
def FromParser : Iax2Sessions.Operation → Prop
  | .reportIax2New invite => invite.callee ≠ "" ∧ invite.caller ≠ "" ∧ IsCallno invite.callNo
  | .reportIax2Authreq authreq => IsCallno authreq.senderCallno ∧ IsCallno authreq.receiverCallno
  | .reportIax2Accept info => IsCallno info.senderCallno ∧ IsCallno info.receiverCallno
  | .reportIax2Hangup bye => IsCallno bye.senderCallno ∧ IsCallno bye.receiverCallno
  | .reportIax2Packet _ info => info.sourcecallno &&& 0x8000 = 0 ∧ info.payloadType ∈ payloadTypes
  | .hoover _ => True

theorem isCallno_callnoText (callno : UInt16) : IsCallno (callnoText callno) :=
  ⟨maskCallno callno, maskCallno_and callno, rfl⟩

theorem digitsValue_toDigits (n : Nat) : Strtol.digitsValue (Nat.toDigits 10 n) = n := by
  induction n using Nat.strong_induction_on with
  | _ n ih =>
      have hvalue : ∀ m < 10, m.digitChar.toNat - 48 = m := by decide
      rcases Nat.lt_or_ge n 10 with hlt | hge
      · rw [Nat.toDigits_of_lt_base hlt, Strtol.digitsValue_cons, hvalue n hlt]
        simp [Strtol.digitsValue]
      · rw [Nat.toDigits_of_base_le (by decide) hge, Strtol.digitsValue, List.reverse_append,
          List.map_append, Nat.ofDigits_append]
        have hrest : Nat.ofDigits 10 ((Nat.toDigits 10 (n / 10)).reverse.map fun c => c.toNat - 48) =
            n / 10 := ih (n / 10) (by omega)
        rw [hrest]
        simp only [List.reverse_singleton, List.map_singleton, Nat.ofDigits_singleton,
          List.length_singleton, Nat.pow_one]
        rw [hvalue (n % 10) (by omega)]
        omega

/-- `StringToInt` reads a call number back. -/
theorem callnoOfString?_toString (callno : UInt16) :
    callnoOfString? (toString callno.toNat) = some callno := by
  have hdecimal : Strtol.IsDecimal (Nat.toDigits 10 callno.toNat) :=
    ⟨Nat.toDigits_ne_nil, fun c hc => Nat.isDigit_of_mem_toDigits (by decide) (by decide) hc⟩
  have hlt := callno.toNat_lt
  have hfits : Strtol.digitsValue (Nat.toDigits 10 callno.toNat) < 2147483648 := by
    rw [digitsValue_toDigits]
    omega
  rw [callnoOfString?, Nat.toString_eq_ofList_toDigits, Strtol.stringToInt?_digits hdecimal hfits,
    digitsValue_toDigits, Option.map_some]
  congr 1
  have hmod : ((callno.toNat : Int) % 65536).toNat = callno.toNat := by omega
  rw [hmod]
  exact UInt16.ofNat_toNat

theorem stringOf_ne_empty {text : List UInt8} (hne : text ≠ []) : stringOf text ≠ "" := by
  intro hempty
  have hlist : (stringOf text).toList = [] := by
    rw [hempty]
    rfl
  rw [stringOf, String.toList_ofList] at hlist
  exact hne (List.map_eq_nil_iff.mp hlist)

theorem iax2CodecToRtpPayloadtype_mem (codec : Int) :
    iax2CodecToRtpPayloadtype codec ∈ [0, 2, 3, 4, 5, 7, 8, 9, 18, 97, (-1 : Int)] := by
  iterate 10 refine iteInduction (fun _ => by decide) fun _ => ?_
  decide

theorem payloadType_mem (codec : Int) (hknown : 0 ≤ iax2CodecToRtpPayloadtype codec) :
    UInt16.ofNat (iax2CodecToRtpPayloadtype codec).toNat ∈ payloadTypes := by
  have hknownTypes : ∀ pt ∈ [0, 2, 3, 4, 5, 7, 8, 9, 18, 97, (-1 : Int)], 0 ≤ pt →
      UInt16.ofNat pt.toNat ∈ payloadTypes := by decide
  exact hknownTypes _ (iax2CodecToRtpPayloadtype_mem codec) hknown

variable {cfg : Config} {clock : Clock} {d : Datagram}

theorem fromParser_of_signal {wanted : List Element → Bool} {fh : FullFrame}
    {elements : List Element} {info : Iax2SignalInfo}
    (hinfo : readingSignal wanted d fh elements = some info) :
    IsCallno info.senderCallno ∧ IsCallno info.receiverCallno := by
  unfold readingSignal at hinfo
  split_ifs at hinfo
  rcases Option.some.inj hinfo with rfl
  exact ⟨isCallno_callnoText _, isCallno_callnoText _⟩

/-- What a full frame tells is known. -/
theorem fromParser_of_tells {message : Message} (tells : Tells cfg clock d message) (p : Nat) :
    FromParser (message.operation p) := by
  cases tells with
  | new carries hinvite =>
      unfold readingNew at hinvite
      split_ifs at hinvite with hempty
      rcases Option.some.inj hinvite with rfl
      refine ⟨stringOf_ne_empty hempty, ?_, isCallno_callnoText _⟩
      dsimp only [newInfo]
      split_ifs with hcaller
      · decide
      · exact stringOf_ne_empty hcaller
  | accept carries hinfo => exact fromParser_of_signal hinfo
  | authreq carries hinfo => exact fromParser_of_signal hinfo
  | hangup carries => exact ⟨isCallno_callnoText _, isCallno_callnoText _⟩
  | reject carries => exact ⟨isCallno_callnoText _, isCallno_callnoText _⟩
  | controlHangup hheader htype hsubclass =>
      exact ⟨isCallno_callnoText _, isCallno_callnoText _⟩
  | voice hheader htype hcodec hdata => exact ⟨maskCallno_and _, payloadType_mem _ hcodec⟩

namespace Iax2Sessions

/-- A row of operations at one time of the clock. -/
def applyAll (cfg : Config) (clock : Clock) (st : Iax2Sessions) (operations : List Operation) :
    Iax2Sessions :=
  operations.foldl (fun st operation => st.apply cfg clock operation) st

variable {stack : Nat → UInt8} {st st' : Iax2Sessions}

theorem fromParser_packetInfo (p : Nat) (entry : TrunkEntry) :
    FromParser (.reportIax2Packet p (entry.packetInfo clock d)) :=
  ⟨maskCallno_and _, zero_mem_payloadTypes⟩

theorem applyAll_of_metaTrunkFrame :
    ∃ operations, (∀ operation ∈ operations, FromParser operation) ∧
      (st.tryIax2MetaTrunkFrame cfg clock d).2 = applyAll cfg clock st operations := by
  unfold tryIax2MetaTrunkFrame
  cases metaTrunkData? cfg d with
  | none =>
      refine ⟨[], ?_, rfl⟩
      intro operation hoperation
      cases hoperation
  | some found =>
      rcases found with ⟨timestamps, data⟩
      use (readEntries timestamps data.length data).map fun entry =>
        .reportIax2Packet st.nextPacket (entry.packetInfo clock d)
      constructor
      · intro operation hoperation
        rcases List.mem_map.mp hoperation with ⟨entry, _, rfl⟩
        exact fromParser_packetInfo _ entry
      · dsimp only
        rw [reportThrough, applyAll, List.foldl_map, List.foldl_map]
        rfl

theorem applyAll_of_miniVoiceFrame :
    ∃ operations, (∀ operation ∈ operations, FromParser operation) ∧
      (st.tryIax2MiniVoiceFrame cfg clock d).2 = applyAll cfg clock st operations := by
  have hnothing : ∃ operations, (∀ operation ∈ operations, FromParser operation) ∧
      st = applyAll cfg clock st operations := by
    refine ⟨[], ?_, rfl⟩
    intro operation hoperation
    cases hoperation
  unfold tryIax2MiniVoiceFrame
  split_ifs
  · exact hnothing
  · split
    · split_ifs
      · exact hnothing
      · rename_i call0 call1 ts0 ts1 data _ _
        use [.reportIax2Packet st.nextPacket
          (TrunkEntry.packetInfo clock d ⟨ntohs call0 call1, ntohs ts0 ts1, data⟩)]
        constructor
        · intro operation hoperation
          rw [List.mem_singleton.mp hoperation]
          exact fromParser_packetInfo _ _
        · rfl
    · exact hnothing

theorem applyAll_of_voiceParsers {detected : Bool}
    (hdetected : tryParsers (voiceParsers cfg clock) st d = .ok (detected, st')) :
    ∃ operations, (∀ operation ∈ operations, FromParser operation) ∧
      st' = applyAll cfg clock st operations := by
  rcases @applyAll_of_metaTrunkFrame cfg clock d st with ⟨trunk, htrunk, hafter⟩
  rw [voiceParsers, tryParsers] at hdetected
  cases hresult : st.tryIax2MetaTrunkFrame cfg clock d with
  | mk taken between =>
      rw [hresult] at hdetected hafter
      dsimp only at hafter
      cases taken with
      | true =>
          cases hdetected
          exact ⟨trunk, htrunk, hafter⟩
      | false =>
          rcases @applyAll_of_miniVoiceFrame cfg clock d between with ⟨mini, hmini, hlast⟩
          have hst' : st' = (between.tryIax2MiniVoiceFrame cfg clock d).2 := by
            dsimp only [bind, Except.bind] at hdetected
            rw [if_neg Bool.false_ne_true, tryParsers] at hdetected
            cases hvoice : between.tryIax2MiniVoiceFrame cfg clock d with
            | mk voice last =>
                rw [hvoice] at hdetected
                cases voice with
                | true =>
                    cases hdetected
                    rfl
                | false =>
                    cases hdetected
                    rfl
          refine ⟨trunk ++ mini, ?_, ?_⟩
          · intro operation hoperation
            rcases List.mem_append.mp hoperation with hfirst | hsecond
            · exact htrunk operation hfirst
            · exact hmini operation hsecond
          · rw [hst', hlast, applyAll, applyAll, List.foldl_append, hafter]
            rfl

/-- What a datagram does to the sessions is a row of operations. -/
theorem applyAll_of_detectIax2 {detected : Bool}
    (hdetected : detectIax2 cfg clock stack st d = .ok (detected, st')) :
    ∃ operations, (∀ operation ∈ operations, FromParser operation) ∧
      st' = applyAll cfg clock st operations := by
  by_cases htells : ∃ message, Tells cfg clock d message
  · rcases htells with ⟨message, tells⟩
    rw [detectIax2_of_tells tells] at hdetected
    cases hdetected
    refine ⟨[message.operation st.nextPacket], ?_, rfl⟩
    intro operation hoperation
    rw [List.mem_singleton.mp hoperation]
    exact fromParser_of_tells tells _
  · by_cases hfull : IsOverfull cfg d
    · rw [detectIax2_of_overfull hfull] at hdetected
      cases hdetected
    · cases hheader : fullFrame? cfg d with
      | some fh =>
          rw [detectIax2_of_left hheader (fun message tells => htells ⟨message, tells⟩) hfull]
            at hdetected
          cases hdetected
          refine ⟨[], ?_, rfl⟩
          intro operation hoperation
          cases hoperation
      | none =>
          have hturn : turnOf cfg d = none := by
            rw [turnOf, hheader]
            rfl
          rw [detectIax2_of_no_turn hturn] at hdetected
          exact applyAll_of_voiceParsers hdetected

end Iax2Sessions

/-! ### The invariant -/

namespace Iax2Session

/-- A session holds what its NEW says, and call numbers and a codec of the protocol. -/
structure Known (s : Iax2Session) : Prop where
  invite : ∀ invite, s.new = some invite → invite.callee ≠ "" ∧ invite.caller ≠ "" ∧
    invite.senderIp = s.invitorIp ∧ invite.receiverIp = s.inviteeIp ∧
    s.srcIpAndCallNo = ipAndCallNo s.invitorIp (toString s.invitorScallno.toNat)
  invitor : s.invitorScallno &&& 0x8000 = 0
  invitee : s.inviteeScallno &&& 0x8000 = 0
  dest : s.destIpAndCallNo = "" ∨
    ∃ ip, s.destIpAndCallNo = ipAndCallNo ip (toString s.inviteeScallno.toNat)
  codec : s.codec ∈ payloadTypes

theorem known_fresh (trackingId key : String) (time : Int) : Known
    { trackingId := trackingId, lastUpdated := time, srcIpAndCallNo := key } where
  invite invite hinvite := by cases hinvite
  invitor := UInt16.zero_and
  invitee := UInt16.zero_and
  dest := .inl rfl
  codec := zero_mem_payloadTypes

/-- What `Known` is about apart from the codec. -/
def parties (s : Iax2Session) :
    Option Iax2NewInfo × InAddr × InAddr × UInt16 × UInt16 × String × String :=
  (s.new, s.invitorIp, s.inviteeIp, s.invitorScallno, s.inviteeScallno, s.srcIpAndCallNo,
    s.destIpAndCallNo)

variable {s t : Iax2Session}

theorem Known.congr (known : s.Known) (hparties : t.parties = s.parties)
    (hcodec : t.codec ∈ payloadTypes) : t.Known := by
  simp only [parties, Prod.mk.injEq] at hparties
  rcases hparties with ⟨hnew, hinvitorIp, hinviteeIp, hinvitor, hinvitee, hsrc, hdest⟩
  constructor
  · rw [hnew, hinvitorIp, hinviteeIp, hinvitor, hsrc]
    exact known.invite
  · rw [hinvitor]
    exact known.invitor
  · rw [hinvitee]
    exact known.invitee
  · rw [hinvitee, hdest]
    exact known.dest
  · exact hcodec

theorem parties_stop (s : Iax2Session) :
    s.stop.1.parties = s.parties ∧ s.stop.1.codec = s.codec := by
  unfold stop
  split_ifs
  · exact ⟨rfl, rfl⟩
  · exact ⟨rfl, rfl⟩

theorem parties_noteFrame (cfg : Config) (s : Iax2Session) (info : Iax2PacketInfo) :
    (s.noteFrame cfg info).parties = s.parties ∧
      ((s.noteFrame cfg info).codec = s.codec ∨ (s.noteFrame cfg info).codec = info.payloadType) := by
  have hprocess : (s.processMetadataIax2 cfg info).parties = s.parties ∧
      (s.processMetadataIax2 cfg info).codec = info.payloadType := by
    simp only [processMetadataIax2]
    split_ifs
    · exact ⟨rfl, rfl⟩
    · exact ⟨rfl, rfl⟩
    · exact ⟨rfl, rfl⟩
    · exact ⟨rfl, rfl⟩
  unfold noteFrame
  split_ifs
  · exact ⟨hprocess.1, .inr rfl⟩
  · exact ⟨hprocess.1, .inr hprocess.2⟩
  · exact ⟨rfl, .inr rfl⟩
  · exact ⟨rfl, .inl rfl⟩

theorem parties_takeFrame (clock : Clock) (s : Iax2Session) (side : Side) (info : Iax2PacketInfo) :
    (s.takeFrame clock side info).1.parties = s.parties ∧
      (s.takeFrame clock side info).1.codec = s.codec := by
  have hstart (t : Iax2Session) : (t.startOnFirst clock).1.parties = t.parties ∧
      (t.startOnFirst clock).1.codec = t.codec := by
    simp only [startOnFirst]
    split_ifs
    · exact ⟨rfl, rfl⟩
    · exact ⟨rfl, rfl⟩
  have hcount (t : Iax2Session) : (t.countChannel side).parties = t.parties ∧
      (t.countChannel side).codec = t.codec := by
    cases side with
    | side1 => exact ⟨rfl, rfl⟩
    | side2 => exact ⟨rfl, rfl⟩
  have hboth := hcount (s.countFrame.startOnFirst clock).1
  have hbegun := hstart s.countFrame
  simp only [takeFrame]
  split_ifs
  · exact ⟨hboth.1.trans hbegun.1, hboth.2.trans hbegun.2⟩
  · exact ⟨hboth.1.trans hbegun.1, hboth.2.trans hbegun.2⟩

/-- A voice frame gives a session at most its codec. -/
theorem parties_addIax2Packet (cfg : Config) (clock : Clock) (s : Iax2Session)
    (packet : Nat → Iax2PacketInfo) (p : Nat) :
    (s.addIax2Packet cfg clock packet p).session.parties = s.parties ∧
      ((s.addIax2Packet cfg clock packet p).session.codec = s.codec ∨
        (s.addIax2Packet cfg clock packet p).session.codec = (packet p).payloadType) := by
  have hnote := parties_noteFrame cfg s (packet p)
  have hside (t : Iax2Session) (side : Side) : (t.setLastOfSide p side).parties = t.parties ∧
      (t.setLastOfSide p side).codec = t.codec := by
    cases side with
    | side1 => exact ⟨rfl, rfl⟩
    | side2 => exact ⟨rfl, rfl⟩
  rcases s.session_addIax2Packet cfg clock packet p with
    hsame | ⟨side, last, -, hsession⟩ | ⟨side, info, hsession⟩
  · rw [hsame]
    exact ⟨rfl, .inl rfl⟩
  · rw [hsession]
    exact hnote
  · have htaken := parties_takeFrame clock
      (((s.noteFrame cfg (packet p)).setLast p).setLastOfSide p side) side info
    have hset := hside ((s.noteFrame cfg (packet p)).setLast p) side
    rw [hsession]
    constructor
    · exact (htaken.1.trans hset.1).trans hnote.1
    · rw [htaken.2, hset.2]
      exact hnote.2

theorem packet_addIax2Packet (cfg : Config) (clock : Clock) (s : Iax2Session)
    (packet : Nat → Iax2PacketInfo) (p q : Nat) :
    ((s.addIax2Packet cfg clock packet p).packet q).payloadType = (packet q).payloadType := by
  have hrewritten (timestamp : UInt32) :
      (Function.update packet p { packet p with timestamp := timestamp } q).payloadType =
        (packet q).payloadType := by
    by_cases hq : q = p
    · rw [hq, Function.update_self]
    · rw [Function.update_of_ne hq]
  simp only [addIax2Packet]
  split_ifs
  · rfl
  · rfl
  · split
    · rfl
    · exact hrewritten _
  · split
    · rfl
    · split_ifs
      · rfl
      · rfl

/-- A NEW that a parser has read makes a session that is known. -/
theorem known_reportIax2New {cfg : Config} {created : Iax2Session} {invite : Iax2NewInfo}
    (hnew : s.new = none) (known : s.Known) (hinvite : FromParser (.reportIax2New invite))
    (hcreated : s.reportIax2New cfg invite = some created) :
    created.Known ∧ created.new ≠ none := by
  rcases hinvite with ⟨hcallee, hcaller, callno, hcallno, htext⟩
  have hread : callnoOfString? invite.callNo = some callno := by
    rw [htext]
    exact callnoOfString?_toString callno
  unfold reportIax2New at hcreated
  simp only at hcreated
  split at hcreated
  · rename_i old hold
    split_ifs at hold
    · rw [hnew] at hold
      cases hold
    · rw [hnew] at hold
      cases hold
  · split_ifs at hcreated
    · rw [hread, Option.map_some] at hcreated
      rcases Option.some.inj hcreated with rfl
      refine ⟨⟨?_, hcallno, known.invitee, known.dest, known.codec⟩, Option.some_ne_none _⟩
      intro other hother
      rcases Option.some.inj hother with rfl
      refine ⟨hcallee, hcaller, rfl, rfl, ?_⟩
      dsimp only
      rw [htext]
    · rw [hread, Option.map_some] at hcreated
      rcases Option.some.inj hcreated with rfl
      refine ⟨⟨?_, hcallno, known.invitee, known.dest, known.codec⟩, Option.some_ne_none _⟩
      intro other hother
      rcases Option.some.inj hother with rfl
      refine ⟨hcallee, hcaller, rfl, rfl, ?_⟩
      rw [htext]

end Iax2Session

namespace Iax2Sessions

/-- Every session is known, and those in the maps have their NEW. -/
structure Known (st : Iax2Sessions) : Prop where
  sessions : ∀ r, (st.session r).Known
  packets : ∀ p, (st.packet p).payloadType ∈ payloadTypes
  src : ∀ entry ∈ st.bySrcIpAndCallNo.entries, (st.session entry.2).new ≠ none
  dest : ∀ entry ∈ st.byDestIpAndCallNo.entries, (st.session entry.2).new ≠ none

variable {cfg : Config} {clock : Clock} {stack : Nat → UInt8} {st st' : Iax2Sessions} {r : Nat}

theorem known_empty (alphaCounter : Nat) : (empty alphaCounter).Known where
  sessions _ := Iax2Session.known_fresh "" "" 0
  packets _ := zero_mem_payloadTypes
  src := by
    intro entry hentry
    cases hentry
  dest := by
    intro entry hentry
    cases hentry

/-- A session is replaced, and the maps get no entries but those of a session with its NEW. -/
theorem Known.update {s : Iax2Session} (known : st.Known)
    (hsession : st'.session = Function.update st.session r s) (hs : s.Known)
    (hnew : (st.session r).new ≠ none → s.new ≠ none)
    (hpackets : ∀ p, (st'.packet p).payloadType ∈ payloadTypes)
    (hsrc : ∀ entry ∈ st'.bySrcIpAndCallNo.entries,
      entry ∈ st.bySrcIpAndCallNo.entries ∨ entry.2 = r ∧ s.new ≠ none)
    (hdest : ∀ entry ∈ st'.byDestIpAndCallNo.entries,
      entry ∈ st.byDestIpAndCallNo.entries ∨ entry.2 = r ∧ s.new ≠ none) : st'.Known := by
  have hkept : ∀ q, (st.session q).new ≠ none → (st'.session q).new ≠ none := by
    intro q hq
    rw [hsession]
    by_cases heq : q = r
    · rw [heq, Function.update_self]
      exact hnew (heq ▸ hq)
    · rw [Function.update_of_ne heq]
      exact hq
  have hself : s.new ≠ none → (st'.session r).new ≠ none := by
    rw [hsession, Function.update_self]
    exact id
  constructor
  · intro q
    rw [hsession]
    by_cases heq : q = r
    · rw [heq, Function.update_self]
      exact hs
    · rw [Function.update_of_ne heq]
      exact known.sessions q
  · exact hpackets
  · intro entry hentry
    rcases hsrc entry hentry with hold | ⟨hr, hnone⟩
    · exact hkept _ (known.src entry hold)
    · rw [hr]
      exact hself hnone
  · intro entry hentry
    rcases hdest entry hentry with hold | ⟨hr, hnone⟩
    · exact hkept _ (known.dest entry hold)
    · rw [hr]
      exact hself hnone

theorem mem_insertNew_cases {map : OrderedMap String Nat} {key : String} {value : Nat}
    {entry : String × Nat} (hentry : entry ∈ (map.insertNew key value).entries) :
    entry ∈ map.entries ∨ entry.2 = value := by
  cases hfound : map.find? key with
  | none =>
      rcases (OrderedMap.mem_insertNew hfound).mp hentry with rfl | hold
      · exact .inr rfl
      · exact .inl hold
  | some old =>
      rw [OrderedMap.insertNew_of_taken hfound] at hentry
      exact .inl hentry

theorem Known.stop (known : st.Known) (r : Nat) : (st.stop r).Known := by
  have hparties := Iax2Session.parties_stop (st.session r)
  have hnew : (st.session r).stop.1.new = (st.session r).new :=
    congrArg Prod.fst hparties.1
  apply known.update rfl
  · exact (known.sessions r).congr hparties.1 (hparties.2 ▸ (known.sessions r).codec)
  · rw [hnew]
    exact id
  · exact known.packets
  · intro entry hentry
    simp only [Iax2Sessions.stop, Maps.eraseKeys] at hentry
    split_ifs at hentry
    · exact .inl (OrderedMap.mem_erase.mp hentry).1
    · exact .inl hentry
  · intro entry hentry
    simp only [Iax2Sessions.stop, Maps.eraseKeys] at hentry
    split_ifs at hentry
    · exact .inl (OrderedMap.mem_erase.mp hentry).1
    · exact .inl hentry

theorem Known.stopFound (known : st.Known) (found : Option Nat) : (st.stopFound found).Known := by
  cases found with
  | none => exact known
  | some r => exact known.stop r

theorem Known.stopAllOf (known : st.Known) (refs : List Nat) : (st.stopAllOf refs).Known := by
  induction refs generalizing st with
  | nil => exact known
  | cons r refs ih => exact ih (known.stop r)

theorem Known.setState (known : st.Known) (r : Nat) (iax2State : Iax2State) :
    (st.setState r iax2State).Known :=
  known.update rfl ((known.sessions r).congr rfl (known.sessions r).codec) id known.packets
    (fun _ => .inl) (fun _ => .inl)

/-- An answer gives a session the key and the call number of the invited party. -/
theorem Known.answered {ip : InAddr} {text : String} (known : st.Known)
    (hr : (st.session r).new ≠ none) (hcallno : IsCallno text) :
    ∃ callno, callnoOfString? text = some callno ∧
      ((st.setDest r (ipAndCallNo ip text)).setInviteeScallno r callno).Known := by
  rcases hcallno with ⟨callno, hbits, rfl⟩
  refine ⟨callno, callnoOfString?_toString callno, ?_⟩
  have hknown := known.sessions r
  apply @Known.update st _ r { st.session r with
    destIpAndCallNo := ipAndCallNo ip (toString callno.toNat), inviteeScallno := callno } known
  · simp only [setInviteeScallno, setDest, setSession, Function.update_self]
    rw [Function.update_idem]
  · exact ⟨hknown.invite, hknown.invitor, hbits, .inr ⟨ip, rfl⟩, hknown.codec⟩
  · exact id
  · exact known.packets
  · exact fun _ => .inl
  · intro entry hentry
    rcases mem_insertNew_cases hentry with hold | hself
    · exact .inl hold
    · exact .inr ⟨hself, hr⟩

theorem Known.reportIax2Authreq {authreq : Iax2SignalInfo} (known : st.Known)
    (hcallno : IsCallno authreq.senderCallno) : (st.reportIax2Authreq authreq).Known := by
  unfold Iax2Sessions.reportIax2Authreq
  split
  · exact known
  · rename_i r hfound
    have hr := known.src _ (OrderedMap.find?_eq_some.mp hfound)
    rcases @Known.answered st r authreq.senderIp _ known hr hcallno with ⟨callno, hread, hknown⟩
    rw [hread]
    exact hknown.setState r .waiting

theorem Known.reportIax2Accept {info : Iax2SignalInfo} (known : st.Known)
    (hcallno : IsCallno info.senderCallno) : (st.reportIax2Accept info).Known := by
  unfold Iax2Sessions.reportIax2Accept
  dsimp only
  split
  · exact known
  · rename_i r hfound
    have hr := known.src _ (OrderedMap.find?_eq_some.mp hfound)
    split
    · exact known.setState _ _
    · have hlinked := known.setState r .linked
      have hnew : ((st.setState r .linked).session r).new ≠ none := by
        simp only [Iax2Sessions.setState, setSession, Function.update_self]
        exact hr
      rcases @Known.answered _ r info.senderIp _ hlinked hnew hcallno with
        ⟨callno, hread, hknown⟩
      rw [hread]
      dsimp only
      have hswap : ((st.setState r .linked).setDest r
          (ipAndCallNo info.senderIp info.senderCallno)) =
          ((st.setDest r (ipAndCallNo info.senderIp info.senderCallno)).setState r .linked) := by
        simp only [Iax2Sessions.setState, setDest, setSession, Function.update_self,
          Function.update_idem]
      rw [← hswap]
      exact hknown

theorem Known.reportIax2New {invite : Iax2NewInfo} (known : st.Known)
    (hinvite : FromParser (.reportIax2New invite)) :
    (st.reportIax2New cfg clock invite).Known := by
  unfold Iax2Sessions.reportIax2New
  split
  · exact known
  · rename_i room hroom
    have hroomKnown : room.Known := by
      unfold makeRoom at hroom
      split at hroom
      · cases hroom
        exact known
      · split_ifs at hroom
        cases hroom
        exact known.stop _
    dsimp only
    split
    · exact ⟨hroomKnown.sessions, hroomKnown.packets, hroomKnown.src, hroomKnown.dest⟩
    · rename_i s hs
      have hcreated := Iax2Session.known_reportIax2New rfl
        (Iax2Session.known_fresh _ _ clock.time) hinvite hs
      apply @Known.update room _ room.next s hroomKnown rfl hcreated.1
      · exact fun _ => hcreated.2
      · exact hroomKnown.packets
      · intro entry hentry
        rcases mem_insertNew_cases hentry with hold | hself
        · exact .inl hold
        · exact .inr ⟨hself, hcreated.2⟩
      · exact fun _ => .inl

theorem Known.reportPacket {info : Iax2PacketInfo} (known : st.Known) (p : Nat)
    (hinfo : info.payloadType ∈ payloadTypes) : (st.reportPacket cfg clock p info).2.Known := by
  have hwritten : (st.setPacket p info).Known := by
    refine ⟨known.sessions, ?_, known.src, known.dest⟩
    intro q
    simp only [setPacket]
    by_cases hq : q = p
    · rw [hq, Function.update_self]
      exact hinfo
    · rw [Function.update_of_ne hq]
      exact known.packets q
  simp only [Iax2Sessions.reportPacket, reportIax2Packet]
  split
  · exact hwritten
  · rename_i r hfound
    have hadded := Iax2Session.parties_addIax2Packet cfg clock ((st.setPacket p info).session r)
      (st.setPacket p info).packet p
    have hnew := congrArg Prod.fst hadded.1
    dsimp only [Iax2Session.parties] at hnew
    have hsettled : ((st.setPacket p info).settle r (((st.setPacket p info).session r).addIax2Packet
        cfg clock (st.setPacket p info).packet p)).Known := by
      apply hwritten.update rfl
      · apply (hwritten.sessions r).congr hadded.1
        rcases hadded.2 with hsame | hpacket
        · rw [hsame]
          exact (hwritten.sessions r).codec
        · rw [hpacket]
          exact hwritten.packets p
      · rw [hnew]
        exact id
      · intro q
        dsimp only [settle]
        rw [Iax2Session.packet_addIax2Packet]
        exact hwritten.packets q
      · exact fun _ => .inl
      · exact fun _ => .inl
    simp only [addToSession]
    split_ifs
    · exact hsettled
    · exact hsettled.stop r

/-- The operations of the parsers keep the invariant. -/
theorem Known.apply {operation : Operation} (known : st.Known)
    (hoperation : FromParser operation) : (st.apply cfg clock operation).Known := by
  cases operation with
  | reportIax2New invite => exact known.reportIax2New hoperation
  | reportIax2Authreq authreq => exact known.reportIax2Authreq hoperation.1
  | reportIax2Accept info => exact known.reportIax2Accept hoperation.1
  | reportIax2Hangup bye =>
      exact (((known.stopFound _).stopFound _).stopFound _).stopFound _
  | reportIax2Packet p info => exact known.reportPacket p hoperation.2
  | hoover now => exact (known.stopAllOf _).stopAllOf _

/-! ### Runs over datagrams -/

/-- What comes in: a datagram, or the time to look for expired sessions. -/
inductive Incoming
  | datagram (d : Datagram)
  | hoover (now : Int)

/-- The clock, what the stack holds, and what comes in. -/
structure Arrival where
  clock : Clock
  stack : Nat → UInt8
  incoming : Incoming

/-- A datagram is handled without a write outside the staging buffer. -/
inductive Receives (cfg : Config) : Iax2Sessions → Arrival → Iax2Sessions → Prop
  | datagram {st st' : Iax2Sessions} {clock : Clock} {stack : Nat → UInt8} {d : Datagram}
      {detected : Bool} (hdetected : detectIax2 cfg clock stack st d = .ok (detected, st')) :
      Receives cfg st ⟨clock, stack, .datagram d⟩ st'
  | hoover {st : Iax2Sessions} {clock : Clock} {stack : Nat → UInt8} {now : Int} :
      Receives cfg st ⟨clock, stack, .hoover now⟩ (st.hoover cfg now)

theorem steps_applyAll (operations : List Operation) :
    Steps (Step cfg) st (operations.map fun operation => (clock, operation))
      (applyAll cfg clock st operations) := by
  induction operations generalizing st with
  | nil => exact .nil st
  | cons operation rest ih => exact .cons rfl ih

/-- An arrival is a row of operations of the parsers. -/
theorem steps_of_receives {arrival : Arrival} (receives : Receives cfg st arrival st') :
    ∃ labels, Steps (Step cfg) st labels st' ∧ ∀ label ∈ labels, FromParser label.2 := by
  cases receives with
  | datagram hdetected =>
      rename_i clock stack d detected
      rcases applyAll_of_detectIax2 hdetected with ⟨operations, hoperations, rfl⟩
      refine ⟨_, @steps_applyAll cfg clock st operations, ?_⟩
      intro label hlabel
      rcases List.mem_map.mp hlabel with ⟨operation, hoperation, rfl⟩
      exact hoperations operation hoperation
  | hoover =>
      rename_i clock stack now
      refine ⟨[(clock, .hoover now)], .cons rfl (.nil _), ?_⟩
      intro label hlabel
      rw [List.mem_singleton.mp hlabel]
      exact trivial

theorem steps_of_run {arrivals : List Arrival} (run : Steps (Receives cfg) st arrivals st') :
    ∃ labels, Steps (Step cfg) st labels st' ∧ ∀ label ∈ labels, FromParser label.2 := by
  induction run with
  | nil s =>
      refine ⟨[], .nil s, ?_⟩
      intro label hlabel
      cases hlabel
  | cons head _ ih =>
      rcases steps_of_receives head with ⟨front, hfront, hknown⟩
      rcases ih with ⟨back, hback, hrest⟩
      refine ⟨front ++ back, hfront.append hback, ?_⟩
      intro label hlabel
      rcases List.mem_append.mp hlabel with hmem | hmem
      · exact hknown label hmem
      · exact hrest label hmem

/-- In every run over datagrams the sessions are reached by operations with call numbers that
`StringToInt` reads back, and a session that a lookup finds has its NEW, is under the key of the
inviting party's address and number, and has a codec of the protocol. -/
theorem sessions_of_datagrams (arrivals : List Arrival) (alphaCounter : Nat) (st : Iax2Sessions)
    (run : Steps (Receives cfg) (empty alphaCounter) arrivals st) :
    (∃ labels, Steps (Step cfg) (empty alphaCounter) labels st ∧
      ∀ label ∈ labels, FromParser label.2) ∧
    ∀ key r, st.toMaps.find? key = some r →
      ∃ invite, (st.session r).new = some invite ∧ invite.callee ≠ "" ∧ invite.caller ≠ "" ∧
        (st.session r).srcIpAndCallNo =
          ipAndCallNo invite.senderIp (toString (st.session r).invitorScallno.toNat) ∧
        (st.session r).codec ∈ payloadTypes := by
  rcases steps_of_run run with ⟨labels, hsteps, hknown⟩
  have known : st.Known := hsteps.invariant_of_labels (fun label => FromParser label.2)
    (fun _ _ _ hlabel inv hstep => hstep ▸ inv.apply hlabel) hknown (known_empty alphaCounter)
  refine ⟨⟨labels, hsteps, hknown⟩, ?_⟩
  intro key r hfound
  have hnew : (st.session r).new ≠ none := by
    rw [Maps.find?, Option.or_eq_some_iff] at hfound
    rcases hfound with hsrc | ⟨-, hdest⟩
    · exact known.src _ (OrderedMap.find?_eq_some.mp hsrc)
    · exact known.dest _ (OrderedMap.find?_eq_some.mp hdest)
  rcases Option.ne_none_iff_exists'.mp hnew with ⟨invite, hinvite⟩
  rcases (known.sessions r).invite invite hinvite with ⟨hcallee, hcaller, hsender, -, hkey⟩
  refine ⟨invite, hinvite, hcallee, hcaller, ?_, (known.sessions r).codec⟩
  rw [hsender]
  exact hkey

section

private def calledParty : Element where
  kind := 1
  content := [65, 66]
  short := Nat.le_of_ble_eq_true rfl

private def newHeader : FullFrame where
  scallno := 0x8001
  dcallno := 0
  ts := 0
  type := 6
  cSub := 1
  data := [1, 2, 65, 66]

theorem sessions_of_datagrams_new :
    ∃ st, Steps (Receives { iax2Support := true }) (empty 0)
        [⟨{ time := 0 }, fun _ => 0, .datagram newFrame⟩] st ∧
      ∀ key r, st.toMaps.find? key = some r →
        ∃ invite, (st.session r).new = some invite ∧ invite.callee ≠ "" ∧ invite.caller ≠ "" ∧
          (st.session r).srcIpAndCallNo =
            ipAndCallNo invite.senderIp (toString (st.session r).invitorScallno.toNat) ∧
          (st.session r).codec ∈ payloadTypes := by
  have carries : Carries { iax2Support := true } newFrame 1 newHeader [calledParty] := {
    header := rfl
    type := rfl
    subclass := by decide
    data := rfl
    positive := by decide
    room := by decide }
  have tells := @Tells.new { iax2Support := true } { time := 0 } newFrame _ _ _ carries rfl
  have received := Receives.datagram (@detectIax2_of_tells _ _ (fun _ => 0) (empty 0) _ _ tells)
  have run := Steps.cons received (Steps.nil _)
  exact ⟨_, run, (sessions_of_datagrams _ 0 _ run).2⟩

end

end Iax2Sessions

/-! ### The ids of the recordings -/

/-- The letters of a counter are its digits. -/
theorem alphaText_inj {m n : Nat} (hm : m < 26 ^ 4) (hn : n < 26 ^ 4) :
    alphaText m = alphaText n ↔ m = n := by
  constructor
  · intro hsame
    have hletter : ∀ a < 26, ∀ b < 26, Char.ofNat (a + 65) = Char.ofNat (b + 65) → a = b := by
      decide
    have hchars := String.ofList_injective hsame
    simp only [List.map_cons, List.map_nil, List.cons.injEq] at hchars
    rcases hchars with ⟨hfirst, hsecond, hthird, hfourth, -⟩
    have hfirst := hletter _ (by omega) _ (by omega) hfirst
    have hsecond := hletter _ (by omega) _ (by omega) hsecond
    have hthird := hletter _ (by omega) _ (by omega) hthird
    have hfourth := hletter _ (by omega) _ (by omega) hfourth
    omega
  · rintro rfl
    rfl

theorem alphaCounterNext_lt (counter : Nat) : alphaCounterNext counter < 26 ^ 4 := by
  unfold alphaCounterNext
  split_ifs
  · omega
  · omega

theorem alphaCounterNext_of_lt {counter : Nat} (hlt : counter < 26 ^ 4) :
    alphaCounterNext counter = (counter + 1) % 26 ^ 4 := by
  unfold alphaCounterNext
  split_ifs
  · omega
  · omega

namespace Iax2Session

/-- A session that is started has an OrkUid that ends in its tracking id. -/
def IsNamed (s : Iax2Session) : Prop :=
  s.started = true → ∃ time, s.orkUid = time ++ "_" ++ s.trackingId

/-- The session keeps its tracking id, and its OrkUid is made of it. -/
structure KeepsId (s t : Iax2Session) : Prop where
  trackingId : t.trackingId = s.trackingId
  named : s.IsNamed → t.IsNamed

variable {s t u : Iax2Session}

theorem KeepsId.trans (first : KeepsId s t) (second : KeepsId t u) : KeepsId s u where
  trackingId := second.trackingId.trans first.trackingId
  named := second.named ∘ first.named

theorem keepsId_of_same (htrackingId : t.trackingId = s.trackingId)
    (horkUid : t.orkUid = s.orkUid) (hstarted : t.started = s.started) : KeepsId s t where
  trackingId := htrackingId
  named named := by
    rw [IsNamed, htrackingId, horkUid, hstarted]
    exact named

theorem keepsId_stop (s : Iax2Session) : KeepsId s s.stop.1 := by
  unfold stop
  split_ifs
  · exact keepsId_of_same rfl rfl rfl
  · exact keepsId_of_same rfl rfl rfl

theorem keepsId_noteFrame (cfg : Config) (s : Iax2Session) (info : Iax2PacketInfo) :
    KeepsId s (s.noteFrame cfg info) := by
  have hprocess : KeepsId s (s.processMetadataIax2 cfg info) := by
    simp only [processMetadataIax2]
    split_ifs
    · exact keepsId_of_same rfl rfl rfl
    · exact keepsId_of_same rfl rfl rfl
    · exact keepsId_of_same rfl rfl rfl
    · exact keepsId_of_same rfl rfl rfl
  have hup : KeepsId s ((s.processMetadataIax2 cfg info).setState .up) :=
    hprocess.trans (keepsId_of_same rfl rfl rfl)
  unfold noteFrame
  split_ifs
  · exact hup.trans (keepsId_of_same rfl rfl rfl)
  · exact hup
  · exact keepsId_of_same rfl rfl rfl
  · exact keepsId_of_same rfl rfl rfl

/-- The OrkUid is made when the session starts. -/
theorem keepsId_takeFrame (clock : Clock) (s : Iax2Session) (side : Side) (info : Iax2PacketInfo) :
    KeepsId s (s.takeFrame clock side info).1 := by
  have hstart (t : Iax2Session) : KeepsId t (t.startOnFirst clock).1 := by
    simp only [startOnFirst]
    split_ifs
    · exact ⟨rfl, fun _ _ => ⟨clock.localTime clock.time, rfl⟩⟩
    · exact keepsId_of_same rfl rfl rfl
  have hcount (t : Iax2Session) : KeepsId t (t.countChannel side) := by
    cases side with
    | side1 => exact keepsId_of_same rfl rfl rfl
    | side2 => exact keepsId_of_same rfl rfl rfl
  have hcounted : KeepsId s s.countFrame := keepsId_of_same rfl rfl rfl
  have hbegun := (hcounted.trans (hstart s.countFrame)).trans (hcount _)
  simp only [takeFrame]
  split_ifs
  · exact hbegun.trans (keepsId_of_same rfl rfl rfl)
  · exact hbegun

theorem keepsId_addIax2Packet (cfg : Config) (clock : Clock) (s : Iax2Session)
    (packet : Nat → Iax2PacketInfo) (p : Nat) :
    KeepsId s (s.addIax2Packet cfg clock packet p).session := by
  have hnote := keepsId_noteFrame cfg s (packet p)
  have hlast (t : Iax2Session) : KeepsId t (t.setLast p) := keepsId_of_same rfl rfl rfl
  have hside (t : Iax2Session) (side : Side) : KeepsId t (t.setLastOfSide p side) := by
    cases side with
    | side1 => exact keepsId_of_same rfl rfl rfl
    | side2 => exact keepsId_of_same rfl rfl rfl
  rcases s.session_addIax2Packet cfg clock packet p with
    hsame | ⟨side, last, -, hsession⟩ | ⟨side, info, hsession⟩
  · rw [hsame]
    exact keepsId_of_same rfl rfl rfl
  · rw [hsession]
    exact hnote.trans (hlast _)
  · rw [hsession]
    exact ((hnote.trans (hlast _)).trans (hside _ side)).trans (keepsId_takeFrame clock _ side info)

/-- A NEW that a parser has read makes a session, which is not started. -/
theorem exists_reportIax2New {cfg : Config} {invite : Iax2NewInfo} (hnew : s.new = none)
    (hinvite : FromParser (.reportIax2New invite)) :
    ∃ created, s.reportIax2New cfg invite = some created ∧
      created.trackingId = s.trackingId ∧ created.started = s.started := by
  rcases hinvite with ⟨-, -, callno, -, htext⟩
  have hread : callnoOfString? invite.callNo = some callno := by
    rw [htext]
    exact callnoOfString?_toString callno
  by_cases htagged : cfg.iax2TreatCallerIdNameAsXUniqueId = true
  · simp only [reportIax2New, if_pos htagged, hnew, hread, Option.map_some]
    exact ⟨_, rfl, rfl, rfl⟩
  · simp only [reportIax2New, if_neg htagged, hnew, hread, Option.map_some]
    exact ⟨_, rfl, rfl, rfl⟩

end Iax2Session

namespace Iax2Sessions

open Iax2Session (KeepsId keepsId_of_same)

/-- The sessions keep their ids, and none is created. -/
structure KeepsIds (st st' : Iax2Sessions) : Prop where
  session : ∀ r, KeepsId (st.session r) (st'.session r)
  next : st'.next = st.next
  alphaCounter : st'.alphaCounter = st.alphaCounter

/-- The counter goes on by one with each session, and the ids are its texts. -/
structure Named (first : Nat) (st : Iax2Sessions) : Prop where
  counter : alphaCounterNext st.alphaCounter = (first + st.next) % 26 ^ 4
  trackingId : ∀ r, r < st.next → (st.session r).trackingId = alphaText ((first + r) % 26 ^ 4)
  orkUid : ∀ r, (st.session r).IsNamed

variable {cfg : Config} {clock : Clock} {st st' st'' : Iax2Sessions} {first r : Nat}

theorem KeepsIds.refl (st : Iax2Sessions) : KeepsIds st st where
  session _ := keepsId_of_same rfl rfl rfl
  next := rfl
  alphaCounter := rfl

theorem KeepsIds.trans (before : KeepsIds st st') (after : KeepsIds st' st'') :
    KeepsIds st st'' where
  session r := (before.session r).trans (after.session r)
  next := after.next.trans before.next
  alphaCounter := after.alphaCounter.trans before.alphaCounter

theorem keepsIds_update {s : Iax2Session}
    (hsession : st'.session = Function.update st.session r s) (hs : KeepsId (st.session r) s)
    (hnext : st'.next = st.next)
    (halphaCounter : st'.alphaCounter = st.alphaCounter) : KeepsIds st st' where
  session q := by
    rw [hsession]
    by_cases heq : q = r
    · rw [heq, Function.update_self]
      exact hs
    · rw [Function.update_of_ne heq]
      exact keepsId_of_same rfl rfl rfl
  next := hnext
  alphaCounter := halphaCounter

theorem keepsIds_stop (st : Iax2Sessions) (r : Nat) : KeepsIds st (st.stop r) :=
  keepsIds_update rfl (Iax2Session.keepsId_stop _) rfl rfl

theorem keepsIds_stopFound (st : Iax2Sessions) (found : Option Nat) :
    KeepsIds st (st.stopFound found) := by
  cases found with
  | none => exact .refl st
  | some r => exact keepsIds_stop st r

theorem keepsIds_stopAllOf (refs : List Nat) (st : Iax2Sessions) :
    KeepsIds st (st.stopAllOf refs) := by
  induction refs generalizing st with
  | nil => exact .refl st
  | cons r refs ih => exact (keepsIds_stop st r).trans (ih (st.stop r))

theorem keepsIds_setDest (st : Iax2Sessions) (r : Nat) (key : String) :
    KeepsIds st (st.setDest r key) :=
  keepsIds_update rfl (keepsId_of_same rfl rfl rfl) rfl rfl

theorem keepsIds_setState (st : Iax2Sessions) (r : Nat) (iax2State : Iax2State) :
    KeepsIds st (st.setState r iax2State) :=
  keepsIds_update rfl (keepsId_of_same rfl rfl rfl) rfl rfl

theorem keepsIds_setInviteeScallno (st : Iax2Sessions) (r : Nat) (callno : UInt16) :
    KeepsIds st (st.setInviteeScallno r callno) :=
  keepsIds_update rfl (keepsId_of_same rfl rfl rfl) rfl rfl

theorem keepsIds_reportIax2Authreq (st : Iax2Sessions) (authreq : Iax2SignalInfo) :
    KeepsIds st (st.reportIax2Authreq authreq) := by
  unfold reportIax2Authreq
  split
  · exact .refl st
  · rename_i r hfound
    have hdest := keepsIds_setDest st r (ipAndCallNo authreq.senderIp authreq.senderCallno)
    dsimp only
    split
    · exact hdest
    · exact (hdest.trans (keepsIds_setInviteeScallno _ r _)).trans (keepsIds_setState _ r _)

theorem keepsIds_reportIax2Accept (st : Iax2Sessions) (info : Iax2SignalInfo) :
    KeepsIds st (st.reportIax2Accept info) := by
  unfold reportIax2Accept
  dsimp only
  split
  · exact .refl st
  · rename_i r hfound
    have hlinked := (keepsIds_setDest st r (ipAndCallNo info.senderIp info.senderCallno)).trans
      (keepsIds_setState _ r .linked)
    split
    · exact keepsIds_setState st _ _
    · split
      · exact hlinked
      · exact hlinked.trans (keepsIds_setInviteeScallno _ r _)

theorem keepsIds_reportPacket (st : Iax2Sessions) (p : Nat) (info : Iax2PacketInfo) :
    KeepsIds st (st.reportPacket cfg clock p info).2 := by
  have hwritten : KeepsIds st (st.setPacket p info) :=
    ⟨fun _ => keepsId_of_same rfl rfl rfl, rfl, rfl⟩
  simp only [reportPacket, reportIax2Packet]
  split
  · exact hwritten
  · rename_i r hfound
    have hsettled := hwritten.trans <| @keepsIds_update (st.setPacket p info)
      ((st.setPacket p info).settle r (((st.setPacket p info).session r).addIax2Packet cfg clock
        (st.setPacket p info).packet p)) r _ rfl (Iax2Session.keepsId_addIax2Packet cfg clock _ _ p)
      rfl rfl
    simp only [addToSession]
    split_ifs
    · exact hsettled
    · exact hsettled.trans (keepsIds_stop _ r)

theorem Named.keeps (named : Named first st) (keeps : KeepsIds st st') : Named first st' where
  counter := by
    rw [keeps.alphaCounter, keeps.next]
    exact named.counter
  trackingId r hr := by
    rw [(keeps.session r).trackingId]
    exact named.trackingId r (keeps.next ▸ hr)
  orkUid r := (keeps.session r).named (named.orkUid r)

/-- A new session takes the next text of the counter. -/
theorem Named.reportIax2New {invite : Iax2NewInfo} (named : Named first st)
    (hinvite : FromParser (.reportIax2New invite)) :
    Named first (st.reportIax2New cfg clock invite) := by
  unfold Iax2Sessions.reportIax2New
  split
  · exact named
  · rename_i room hroom
    have hroomNamed : Named first room := by
      unfold makeRoom at hroom
      split at hroom
      · cases hroom
        exact named
      · split_ifs at hroom
        cases hroom
        exact named.keeps (keepsIds_stop _ _)
    rcases @Iax2Session.exists_reportIax2New
      { trackingId := alphaText (alphaCounterNext room.alphaCounter), lastUpdated := clock.time,
        srcIpAndCallNo := ipAndCallNo invite.senderIp invite.callNo } cfg invite rfl hinvite with
      ⟨created, hcreated, htrackingId, hstarted⟩
    dsimp only
    rw [hcreated]
    have hcounter := hroomNamed.counter
    constructor
    · dsimp only [setSession]
      rw [alphaCounterNext_of_lt (alphaCounterNext_lt _), hcounter, Nat.mod_add_mod, Nat.add_assoc]
    · intro r hr
      simp only [setSession] at hr ⊢
      by_cases heq : r = room.next
      · rw [heq, Function.update_self, htrackingId, hcounter]
      · rw [Function.update_of_ne heq]
        exact hroomNamed.trackingId r (by omega)
    · intro r
      simp only [setSession]
      by_cases heq : r = room.next
      · rw [heq, Function.update_self]
        intro htrue
        rw [hstarted] at htrue
        cases htrue
      · rw [Function.update_of_ne heq]
        exact hroomNamed.orkUid r

theorem Named.apply {operation : Operation} (named : Named first st)
    (hoperation : FromParser operation) : Named first (st.apply cfg clock operation) := by
  cases operation with
  | reportIax2New invite => exact named.reportIax2New hoperation
  | reportIax2Authreq authreq => exact named.keeps (keepsIds_reportIax2Authreq st authreq)
  | reportIax2Accept info => exact named.keeps (keepsIds_reportIax2Accept st info)
  | reportIax2Hangup bye =>
      exact (((named.keeps (keepsIds_stopFound _ _)).keeps (keepsIds_stopFound _ _)).keeps
        (keepsIds_stopFound _ _)).keeps (keepsIds_stopFound _ _)
  | reportIax2Packet p info => exact named.keeps (keepsIds_reportPacket st p info)
  | hoover now =>
      exact (named.keeps (keepsIds_stopAllOf _ st)).keeps (keepsIds_stopAllOf _ _)

theorem named_empty (alphaCounter : Nat) :
    Named (alphaCounterNext alphaCounter) (empty alphaCounter) where
  counter := (Nat.mod_eq_of_lt (alphaCounterNext_lt alphaCounter)).symm
  trackingId r hr := absurd hr (Nat.not_lt_zero r)
  orkUid r hstarted := by cases hstarted

/-- In every run over datagrams two sessions have the same tracking id only where a whole round of
the counter lies between them, and else the recordings of the two have different OrkUids, whatever
the clock shows. -/
theorem orkUids_of_datagrams (arrivals : List Arrival) (alphaCounter : Nat) (st : Iax2Sessions)
    (run : Steps (Receives cfg) (empty alphaCounter) arrivals st) (q r : Nat) (hq : q < r)
    (hr : r < st.next) :
    ((st.session q).trackingId = (st.session r).trackingId ↔ (r - q) % 26 ^ 4 = 0) ∧
      ((r - q) % 26 ^ 4 ≠ 0 → (st.session q).started = true → (st.session r).started = true →
        (st.session q).orkUid ≠ (st.session r).orkUid) := by
  rcases steps_of_run run with ⟨labels, hsteps, hknown⟩
  have named : Named (alphaCounterNext alphaCounter) st := hsteps.invariant_of_labels
    (fun label => FromParser label.2) (fun _ _ _ hlabel inv hstep => hstep ▸ inv.apply hlabel)
    hknown (named_empty alphaCounter)
  have hsame : (st.session q).trackingId = (st.session r).trackingId ↔ (r - q) % 26 ^ 4 = 0 := by
    rw [named.trackingId q (hq.trans hr), named.trackingId r hr,
      alphaText_inj (Nat.mod_lt _ (by decide)) (Nat.mod_lt _ (by decide))]
    omega
  refine ⟨hsame, ?_⟩
  intro hround hfirst hsecond horkUid
  rcases named.orkUid q hfirst with ⟨time, hq⟩
  rcases named.orkUid r hsecond with ⟨other, hr⟩
  rw [hq, hr] at horkUid
  have hlists := congrArg String.toList horkUid
  have hlength : (st.session q).trackingId.toList.length =
      (st.session r).trackingId.toList.length := by
    rw [named.trackingId q (by omega), named.trackingId r (by omega), alphaText, alphaText,
      String.toList_ofList, String.toList_ofList]
    rfl
  rw [@String.toList_append (time ++ "_"), @String.toList_append (other ++ "_")] at hlists
  have hids := List.append_inj_right' hlists hlength
  exact hround (hsame.mp (String.toList_injective hids))

section

/-- A NEW from this address. -/
private def newFrom (ipSrc : InAddr) : Datagram := { newFrame with ipSrc := ipSrc }

private theorem carries_newFrom (ipSrc : InAddr) :
    Carries { iax2Support := true } (newFrom ipSrc) 1 newHeader [calledParty] where
  header := rfl
  type := rfl
  subclass := by decide
  data := rfl
  positive := by decide
  room := by decide

private theorem receives_newFrom (ipSrc : InAddr) (st : Iax2Sessions) :
    Receives { iax2Support := true } st ⟨{ time := 0 }, fun _ => 0, .datagram (newFrom ipSrc)⟩
      (st.reportIax2New { iax2Support := true } { time := 0 }
        (newInfo (newFrom ipSrc) newHeader (textOfKind [calledParty] 1)
          (textOfKind [calledParty] 2) (textOfKind [calledParty] 4))) :=
  .datagram (@detectIax2_of_tells _ _ (fun _ => 0) st _ _
    (@Tells.new _ { time := 0 } _ _ _ _ (carries_newFrom ipSrc) rfl))

theorem orkUids_of_datagrams_two :
    ∃ st, Steps (Receives { iax2Support := true }) (empty 0)
        [⟨{ time := 0 }, fun _ => 0, .datagram (newFrom 1)⟩,
          ⟨{ time := 0 }, fun _ => 0, .datagram (newFrom 2)⟩] st ∧
      (st.session 0).trackingId ≠ (st.session 1).trackingId := by
  have run := Steps.cons (receives_newFrom 1 (empty 0))
    (Steps.cons (receives_newFrom 2 _) (Steps.nil _))
  refine ⟨_, run, ?_⟩
  intro hsame
  have hround := (orkUids_of_datagrams _ 0 _ run 0 1 (by decide) (by decide +kernel)).1.mp hsame
  exact absurd hround (by decide)

end

end Iax2Sessions

end OrkAudio.Iax2
