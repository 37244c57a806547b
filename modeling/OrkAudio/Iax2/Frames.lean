import Mathlib.Data.List.Perm.Basic
import OrkAudio.Iax2.Elements
import OrkAudio.Iax2.Trunk
import OrkAudio.Strtol
import Mathlib.Tactic.IntervalCases

/-! The parsers of full frames, and the row of parsers that `DetectUsefulUdpPacket` tries on a
datagram once IAX2 is supported and nothing else has taken it.

Each parser of signalling copies the information elements to a staging buffer on its stack;
`stack` is what the buffer held before. -/

namespace OrkAudio.Iax2

open Lib VoIp

/-! ### Full frames -/

/-- `Iax2FullHeader`, without the sequence numbers, and what is behind it. -/
structure FullFrame where
  scallno : UInt16
  dcallno : UInt16
  ts : UInt32
  type : UInt8
  cSub : UInt8
  data : List UInt8

/-- The checks that every parser of full frames makes first. -/
def fullFrame? (cfg : Config) (d : Datagram) : Option FullFrame :=
  if !cfg.iax2Support ∨ (d.udpLen : Int) - 8 < 12 then none
  else
    match d.udpPayload with
    | s0 :: s1 :: d0 :: d1 :: t0 :: t1 :: t2 :: t3 :: _ :: _ :: type :: cSub :: data =>
        if ntohs s0 s1 &&& 0x8000 = 0 then none
        else some {
          scallno := ntohs s0 s1
          dcallno := ntohs d0 d1
          ts := UInt32.ofNat (wordAt [t0, t1, t2, t3] 0)
          type := type
          cSub := cSub
          data := data }
    | _ => none

/-- `1 << n` -/
def bit (n : Nat) : Int := if n = 31 then -2147483648 else 2 ^ n

def getUncompressedSubclass (cSub : UInt8) : Int :=
  if cSub &&& 0x80 ≠ 0 then
    if cSub = 0xFF then -1 else bit (cSub &&& 0x7F &&& 0x1F).toNat
  else cSub.toNat

def iax2CodecToRtpPayloadtype (codec : Int) : Int :=
  if codec = 4 then 0
  else if codec = 16 then 2
  else if codec = 2 then 3
  else if codec = 1 then 4
  else if codec = 32 then 5
  else if codec = 128 then 7
  else if codec = 8 then 8
  else if codec = 64 then 9
  else if codec = 256 then 18
  else if codec = 1024 then 97
  else -1

/-- `stage_buffer` after the copy. -/
def stageBuffer (stack : Nat → UInt8) (data : List UInt8) : List UInt8 :=
  data ++ (List.range (maxIesLength - data.length)).map fun i => stack (data.length + i)

/-- A text that a parser takes over from the buffer. -/
def readText (buffer : List UInt8) (place : Nat) : Except Fault (List UInt8) :=
  match cString? buffer place with
  | some text => .ok text
  | none => .error .outside

/-- The text of an element that may be missing. -/
def readOptional (buffer : List UInt8) : Option Nat → Except Fault (List UInt8)
  | some place => readText buffer place
  | none => .ok []

/-- A `CStdString` of these bytes. -/
def stringOf (text : List UInt8) : String := String.ofList (text.map fun c => Char.ofNat c.toNat)

/-- `IntToString(ntohs(..) & ~0x8000)` -/
def callnoText (callno : UInt16) : String := toString (maskCallno callno).toNat

section

variable (cfg : Config) (stack : Nat → UInt8)

/-- A frame of type IAX with this subclass whose elements are in order. -/
def commandFrame (command : Int) (d : Datagram) : Except Fault (Option (FullFrame × Parsed)) :=
  match fullFrame? cfg d with
  | none => .ok none
  | some fh =>
      if fh.type ≠ 6 ∨ getUncompressedSubclass fh.cSub ≠ command ∨ fh.data = [] ∨
          maxIesLength < fh.data.length then .ok none
      else do
        let parsed ← parseIax2Ies (stageBuffer stack fh.data) fh.data.length
        return if parsed.code ≠ 0 then none else some (fh, parsed)

/-- What the parsers of an answer or of a hangup report. -/
def signalInfo (d : Datagram) (fh : FullFrame) : Iax2SignalInfo where
  senderIp := d.ipSrc
  receiverIp := d.ipDest
  senderCallno := callnoText fh.scallno
  receiverCallno := callnoText fh.dcallno

def newInfo (d : Datagram) (fh : FullFrame) (callee caller callingName : List UInt8) :
    Iax2NewInfo where
  senderIp := d.ipSrc
  receiverIp := d.ipDest
  caller := if caller = [] then "WITHELD" else stringOf caller
  callee := stringOf callee
  callNo := callnoText fh.scallno
  callingName := stringOf callingName

/-- `TryIax2New`, which checks the length before the type. -/
def readNew (d : Datagram) : Except Fault (Option Iax2NewInfo) := do
  match ← commandFrame cfg stack 1 d with
  | none => return none
  | some (fh, parsed) =>
      let callee ← readOptional parsed.buffer parsed.ies.callee
      if callee = [] then return none
      let caller ← readOptional parsed.buffer parsed.ies.caller
      let callingName ← readOptional parsed.buffer parsed.ies.callingName
      return some (newInfo d fh callee caller callingName)

/-- A parser of signalling that looks only at the numbers and pointers. -/
def readSignal (command : Int) (wanted : Ies → Bool) (d : Datagram) :
    Except Fault (Option Iax2SignalInfo) := do
  match ← commandFrame cfg stack command d with
  | none => return none
  | some (fh, parsed) => return if wanted parsed.ies then some (signalInfo d fh) else none

def readAccept : Datagram → Except Fault (Option Iax2SignalInfo) :=
  readSignal cfg stack 7 fun ies => ies.format != 0

def readAuthreq : Datagram → Except Fault (Option Iax2SignalInfo) :=
  readSignal cfg stack 8 fun ies =>
    ies.username.isSome && ies.authmethods != 0 && ies.challenge.isSome

def readHangup : Datagram → Except Fault (Option Iax2SignalInfo) :=
  readSignal cfg stack 5 fun _ => true

def readReject : Datagram → Except Fault (Option Iax2SignalInfo) :=
  readSignal cfg stack 6 fun _ => true

def readControlHangup (d : Datagram) : Option Iax2SignalInfo :=
  match fullFrame? cfg d with
  | none => none
  | some fh =>
      if fh.type ≠ 4 ∨ getUncompressedSubclass fh.cSub ≠ 1 then none else some (signalInfo d fh)

def voiceInfo (clock : Clock) (d : Datagram) (fh : FullFrame) (pt : Int) : Iax2PacketInfo where
  sourceIp := d.ipSrc
  destIp := d.ipDest
  sourcecallno := maskCallno fh.scallno
  destcallno := maskCallno fh.dcallno
  frameType := .full
  payloadType := UInt16.ofNat pt.toNat
  payload := fh.data
  timestamp := fh.ts
  arrivalTimestamp := clock.time

def readFullVoice (clock : Clock) (d : Datagram) : Option Iax2PacketInfo :=
  match fullFrame? cfg d with
  | none => none
  | some fh =>
      let pt := iax2CodecToRtpPayloadtype (getUncompressedSubclass fh.cSub)
      if fh.type ≠ 2 ∨ pt < 0 ∨ fh.data = [] then none else some (voiceInfo clock d fh pt)

end

/-! ### The row of parsers -/

namespace Iax2Sessions

/-- A parser takes a datagram or leaves it to the next one. -/
abbrev Parser := Iax2Sessions → Datagram → Except Fault (Bool × Iax2Sessions)

/-- Report what is read, if anything is. -/
def report (st : Iax2Sessions) {α : Type} (operation : α → Iax2Sessions) :
    Option α → Bool × Iax2Sessions
  | some info => (true, operation info)
  | none => (false, st)

variable (cfg : Config) (clock : Clock) (stack : Nat → UInt8)

def tryIax2New : Parser := fun st d =>
  (readNew cfg stack d).map (st.report (st.reportIax2New cfg clock))

def tryIax2Accept : Parser := fun st d =>
  (readAccept cfg stack d).map (st.report st.reportIax2Accept)

def tryIax2Authreq : Parser := fun st d =>
  (readAuthreq cfg stack d).map (st.report st.reportIax2Authreq)

def tryIax2Hangup : Parser := fun st d =>
  (readHangup cfg stack d).map (st.report st.reportIax2Hangup)

def tryIax2ControlHangup : Parser := fun st d =>
  .ok (st.report st.reportIax2Hangup (readControlHangup cfg d))

def tryIax2Reject : Parser := fun st d =>
  (readReject cfg stack d).map (st.report st.reportIax2Hangup)

def tryIax2FullVoiceFrame : Parser := fun st d =>
  .ok (st.report (fun info => (st.reportPacket cfg clock st.nextPacket info).2)
    (readFullVoice cfg clock d))

def fullFrameParsers : List Parser :=
  [tryIax2New cfg clock stack, tryIax2Accept cfg stack, tryIax2Authreq cfg stack,
    tryIax2Hangup cfg stack, tryIax2ControlHangup cfg, tryIax2Reject cfg stack,
    tryIax2FullVoiceFrame cfg clock]

def voiceParsers : List Parser :=
  [fun st d => .ok (st.tryIax2MetaTrunkFrame cfg clock d),
    fun st d => .ok (st.tryIax2MiniVoiceFrame cfg clock d)]

/-- Try the parsers until one takes the datagram. -/
def tryParsers : List Parser → Parser
  | [], st, _ => .ok (false, st)
  | parser :: rest, st, d => do
      let (detected, st) ← parser st d
      if detected then return (true, st) else tryParsers rest st d

/-- The part of `DetectUsefulUdpPacket` that is about IAX2. -/
def detectIax2 : Parser := tryParsers (fullFrameParsers cfg clock stack ++ voiceParsers cfg clock)

end Iax2Sessions

/-! ### What a frame carries -/

def textOfKind (elements : List Element) (kind : UInt8) : List UInt8 :=
  ((lastOfKind elements kind).map Element.text).getD []

def numberOfKind (elements : List Element) (kind : UInt8) : Nat :=
  ((lastOfKind elements kind).map Element.number).getD 0

/-- A frame of type IAX with this subclass. -/
structure IsCommand (cfg : Config) (d : Datagram) (command : Int) (fh : FullFrame) : Prop where
  header : fullFrame? cfg d = some fh
  type : fh.type = 6
  subclass : getUncompressedSubclass fh.cSub = command

/-- The data of a command are complete elements, with room for the zero behind them. -/
structure Carries (cfg : Config) (d : Datagram) (command : Int) (fh : FullFrame)
    (elements : List Element) : Prop extends IsCommand cfg d command fh where
  data : fh.data = elements.flatMap Element.encode
  positive : fh.data ≠ []
  room : fh.data.length < maxIesLength

/-- The data of a command are complete elements that fill the staging buffer. -/
structure Overfull (cfg : Config) (d : Datagram) (command : Int) (fh : FullFrame) : Prop extends
    IsCommand cfg d command fh where
  block : IsBlock fh.data
  full : fh.data.length = maxIesLength

section

variable {cfg : Config} {clock : Clock} {stack : Nat → UInt8} {d : Datagram} {command : Int}
  {fh : FullFrame} {elements : List Element}

theorem IsCommand.frame_unique {other : FullFrame} {others : Int}
    (first : IsCommand cfg d command fh) (second : IsCommand cfg d others other) :
    other = fh ∧ others = command := by
  have hframe : other = fh := Option.some.inj (second.header.symm.trans first.header)
  refine ⟨hframe, ?_⟩
  rw [← second.subclass, ← first.subclass, hframe]

theorem Carries.unique {other : FullFrame} {others : List Element}
    (first : Carries cfg d command fh elements) (second : Carries cfg d command other others) :
    other = fh ∧ others = elements := by
  have hframe := (first.frame_unique second.toIsCommand).1
  have hdata := second.data
  rw [hframe, first.data] at hdata
  exact ⟨hframe, (elements_unique hdata).symm⟩

theorem Carries.not_overfull {other : FullFrame} (carries : Carries cfg d command fh elements) :
    ¬Overfull cfg d command other := by
  intro overfull
  have hfull := overfull.full
  have hroom := carries.room
  rw [(carries.frame_unique overfull.toIsCommand).1] at hfull
  omega

/-- What the parser of a command makes of a datagram. -/
theorem commandFrame_cases (cfg : Config) (stack : Nat → UInt8) (command : Int) (d : Datagram) :
    (∃ fh elements parsed, Carries cfg d command fh elements ∧ IsRead elements parsed ∧
      commandFrame cfg stack command d = .ok (some (fh, parsed))) ∨
    ((∀ fh elements, ¬Carries cfg d command fh elements) ∧
      (∀ fh, ¬Overfull cfg d command fh) ∧ commandFrame cfg stack command d = .ok none) ∨
    ∃ fh, Overfull cfg d command fh ∧ commandFrame cfg stack command d = .error .outside := by
  cases hheader : fullFrame? cfg d with
  | none =>
      refine .inr (.inl ⟨?_, ?_, ?_⟩)
      · intro fh elements carries
        cases hheader.symm.trans carries.header
      · intro fh overfull
        cases hheader.symm.trans overfull.header
      · rw [commandFrame, hheader]
  | some fh =>
      by_cases hguard : fh.type ≠ 6 ∨ getUncompressedSubclass fh.cSub ≠ command ∨ fh.data = [] ∨
          maxIesLength < fh.data.length
      · refine .inr (.inl ⟨?_, ?_, ?_⟩)
        · intro other elements carries
          rcases Option.some.inj (hheader.symm.trans carries.header) with rfl
          rcases hguard with htype | hsubclass | hempty | hlong
          · exact htype carries.type
          · exact hsubclass carries.subclass
          · exact carries.positive hempty
          · exact Nat.lt_asymm carries.room hlong
        · intro other overfull
          rcases Option.some.inj (hheader.symm.trans overfull.header) with rfl
          rcases hguard with htype | hsubclass | hempty | hlong
          · exact htype overfull.type
          · exact hsubclass overfull.subclass
          · have hfull := overfull.full
            rw [hempty] at hfull
            exact absurd hfull (by decide)
          · rw [overfull.full] at hlong
            exact Nat.lt_irrefl _ hlong
        · rw [commandFrame, hheader]
          dsimp only
          rw [if_pos hguard]
      · have hcommand : commandFrame cfg stack command d = (do
            let parsed ← parseIax2Ies (stageBuffer stack fh.data) fh.data.length
            return if parsed.code ≠ 0 then none else some (fh, parsed)) := by
          rw [commandFrame, hheader]
          dsimp only
          rw [if_neg hguard]
        rw [hcommand]
        rw [not_or, not_or, not_or, not_not, not_not, Nat.not_lt] at hguard
        rcases hguard with ⟨htype, hsubclass, hpositive, hlength⟩
        have hiscommand : IsCommand cfg d command fh := ⟨hheader, htype, hsubclass⟩
        by_cases hblock : IsBlock fh.data
        · rcases hblock with ⟨elements, helements⟩
          rcases Nat.lt_or_eq_of_le hlength with hroom | hfull
          · have hrest : ∃ spare behind, stageBuffer stack fh.data =
                elements.flatMap Element.encode ++ spare :: behind := by
              rw [stageBuffer, helements]
              cases hbehind : (List.range (maxIesLength - fh.data.length)).map
                  fun i => stack (fh.data.length + i) with
              | nil =>
                  have hzero := congrArg List.length hbehind
                  rw [List.length_map, List.length_range, List.length_nil] at hzero
                  omega
              | cons spare behind => exact ⟨spare, behind, rfl⟩
            rcases hrest with ⟨spare, behind, hrest⟩
            rcases @parseIax2Ies_of_room elements spare behind with ⟨parsed, hparsed, hcode, hread⟩
            refine .inl ⟨fh, elements, parsed, ⟨hiscommand, helements.symm, hpositive, hroom⟩,
              hread, ?_⟩
            rw [hrest, ← helements, hparsed]
            dsimp only [bind, Except.bind]
            rw [hcode]
            rfl
          · refine .inr (.inr ⟨fh, ⟨hiscommand, ⟨elements, helements⟩, hfull⟩, ?_⟩)
            rw [stageBuffer, hfull, Nat.sub_self, ← hfull, ← helements]
            rw [List.range_zero, List.map_nil, List.append_nil, parseIax2Ies_of_full]
            rfl
        · rcases @parseIesFrom_of_not_block [] fh.data _ {} (fh.data.length + 1)
            (Nat.lt_succ_self _) hblock with ⟨ies, buffer, hparsed⟩
          refine .inr (.inl ⟨?_, ?_, ?_⟩)
          · intro other elements carries
            rcases Option.some.inj (hheader.symm.trans carries.header) with rfl
            exact hblock ⟨elements, carries.data.symm⟩
          · intro other overfull
            rcases Option.some.inj (hheader.symm.trans overfull.header) with rfl
            exact hblock overfull.block
          · rw [parseIax2Ies, stageBuffer]
            rw [List.nil_append] at hparsed
            rw [List.length_nil] at hparsed
            rw [hparsed]
            rfl

theorem readOptional_eq {parsed : Parsed} (read : IsRead elements parsed) (field : TextField) :
    readOptional parsed.buffer (field.pointer parsed.ies) = .ok (textOfKind elements field.kind) ∧
      (field.pointer parsed.ies).isSome = (lastOfKind elements field.kind).isSome := by
  have htexts := read.texts field
  unfold textOfKind
  cases hpointer : field.pointer parsed.ies with
  | none =>
      rw [hpointer] at htexts
      rw [Option.map_none] at htexts
      have hnone := Option.map_eq_none_iff.mp htexts.symm
      rw [hnone]
      exact ⟨rfl, rfl⟩
  | some place =>
      rw [hpointer] at htexts
      rcases Option.map_eq_some_iff.mp htexts.symm with ⟨e, he, htext⟩
      rw [he, readOptional, readText, ← htext]
      exact ⟨rfl, rfl⟩

/-- What a parser makes of a datagram: it reports what the elements say when they are the wanted
ones, writes outside the buffer when they fill it, and else leaves the datagram. -/
inductive Reads {α : Type} (cfg : Config) (d : Datagram) (command : Int)
    (reading : FullFrame → List Element → Option α) : Except Fault (Option α) → Prop
  | taken {fh : FullFrame} {elements : List Element} {info : α}
      (carries : Carries cfg d command fh elements) (hinfo : reading fh elements = some info) :
      Reads cfg d command reading (.ok (some info))
  | left (hnone : ∀ fh elements, Carries cfg d command fh elements → reading fh elements = none)
      (hfits : ∀ fh, ¬Overfull cfg d command fh) : Reads cfg d command reading (.ok none)
  | outside {fh : FullFrame} (overfull : Overfull cfg d command fh) :
      Reads cfg d command reading (.error .outside)

/-- What a NEW says. -/
def readingNew (d : Datagram) (fh : FullFrame) (elements : List Element) : Option Iax2NewInfo :=
  if textOfKind elements 1 = [] then none
  else some (newInfo d fh (textOfKind elements 1) (textOfKind elements 2) (textOfKind elements 4))

theorem reads_new (cfg : Config) (stack : Nat → UInt8) (d : Datagram) :
    Reads cfg d 1 (readingNew d) (readNew cfg stack d) := by
  unfold readNew
  rcases commandFrame_cases cfg stack 1 d with
    ⟨fh, elements, parsed, carries, read, hframe⟩ | ⟨hnone, hfits, hframe⟩ | ⟨fh, overfull, hframe⟩
  · rw [hframe]
    dsimp only [bind, Except.bind]
    have hcallee := (readOptional_eq read .callee).1
    have hcaller := (readOptional_eq read .caller).1
    have hname := (readOptional_eq read .callingName).1
    dsimp only [TextField.pointer, TextField.kind] at hcallee hcaller hname
    rw [hcallee, hcaller, hname]
    dsimp only
    by_cases hempty : textOfKind elements 1 = []
    · rw [if_pos hempty]
      apply Reads.left
      · intro other others hother
        rw [(carries.unique hother).2, readingNew, if_pos hempty]
      · exact fun other => carries.not_overfull
    · rw [if_neg hempty]
      apply Reads.taken carries
      rw [readingNew, if_neg hempty]
  · rw [hframe]
    exact .left (fun fh elements carries => absurd carries (hnone fh elements)) hfits
  · rw [hframe]
    exact .outside overfull

/-- What a frame says that is only looked at for the elements it has. -/
def readingSignal (wanted : List Element → Bool) (d : Datagram) (fh : FullFrame)
    (elements : List Element) : Option Iax2SignalInfo :=
  if wanted elements then some (signalInfo d fh) else none

theorem reads_signal {wanted : Ies → Bool} {wantedOf : List Element → Bool} (cfg : Config)
    (stack : Nat → UInt8) (command : Int) (d : Datagram)
    (hwanted : ∀ elements parsed, IsRead elements parsed → wanted parsed.ies = wantedOf elements) :
    Reads cfg d command (readingSignal wantedOf d) (readSignal cfg stack command wanted d) := by
  unfold readSignal
  rcases commandFrame_cases cfg stack command d with
    ⟨fh, elements, parsed, carries, read, hframe⟩ | ⟨hnone, hfits, hframe⟩ | ⟨fh, overfull, hframe⟩
  · rw [hframe]
    dsimp only [bind, Except.bind]
    rw [hwanted elements parsed read]
    cases hreading : wantedOf elements with
    | true => exact .taken carries (by rw [readingSignal, hreading]; rfl)
    | false =>
        apply Reads.left
        · intro other others hother
          rw [(carries.unique hother).2, readingSignal, hreading]
          rfl
        · exact fun other => carries.not_overfull
  · rw [hframe]
    exact .left (fun fh elements carries => absurd carries (hnone fh elements)) hfits
  · rw [hframe]
    exact .outside overfull

/-- An ACCEPT has a format. -/
def wantedAccept (elements : List Element) : Bool := numberOfKind elements 9 != 0

/-- An AUTHREQ has a user name, methods and a challenge; the texts may be empty. -/
def wantedAuthreq (elements : List Element) : Bool :=
  (lastOfKind elements 6).isSome && numberOfKind elements 14 != 0 &&
    (lastOfKind elements 15).isSome

theorem reads_accept (cfg : Config) (stack : Nat → UInt8) (d : Datagram) :
    Reads cfg d 7 (readingSignal wantedAccept d) (readAccept cfg stack d) := by
  apply reads_signal
  intro elements parsed read
  rw [read.format]
  rfl

theorem reads_authreq (cfg : Config) (stack : Nat → UInt8) (d : Datagram) :
    Reads cfg d 8 (readingSignal wantedAuthreq d) (readAuthreq cfg stack d) := by
  apply reads_signal
  intro elements parsed read
  have husername := (readOptional_eq read .username).2
  have hchallenge := (readOptional_eq read .challenge).2
  dsimp only [TextField.pointer, TextField.kind] at husername hchallenge
  rw [read.authmethods, husername, hchallenge]
  rfl

theorem reads_hangup (cfg : Config) (stack : Nat → UInt8) (d : Datagram) :
    Reads cfg d 5 (readingSignal (fun _ => true) d) (readHangup cfg stack d) :=
  reads_signal cfg stack 5 d (fun _ _ _ => rfl)

theorem reads_reject (cfg : Config) (stack : Nat → UInt8) (d : Datagram) :
    Reads cfg d 6 (readingSignal (fun _ => true) d) (readReject cfg stack d) :=
  reads_signal cfg stack 6 d (fun _ _ _ => rfl)

end

/-! ### Trying one parser after the other -/

namespace Iax2Sessions

variable {cfg : Config} {clock : Clock} {stack : Nat → UInt8} {st : Iax2Sessions} {d : Datagram}

/-- The parser leaves the datagram, and the sessions as they are. -/
def Passes (st : Iax2Sessions) (d : Datagram) (parser : Parser) : Prop :=
  parser st d = .ok (false, st)

/-- When the parser leaves the datagram, it leaves the sessions too. -/
def Fair (st : Iax2Sessions) (d : Datagram) (parser : Parser) : Prop :=
  ∀ st', parser st d = .ok (false, st') → st' = st

theorem tryParsers_cons_of_passes {parser : Parser} {rest : List Parser}
    (passes : Passes st d parser) : tryParsers (parser :: rest) st d = tryParsers rest st d := by
  rw [tryParsers, show parser st d = _ from passes]
  rfl

theorem tryParsers_of_passes {parsers rest : List Parser}
    (hpasses : ∀ parser ∈ parsers, Passes st d parser) :
    tryParsers (parsers ++ rest) st d = tryParsers rest st d := by
  induction parsers with
  | nil => rfl
  | cons parser others ih =>
      rw [List.cons_append, tryParsers_cons_of_passes (hpasses parser List.mem_cons_self)]
      exact ih fun other hother => hpasses other (List.mem_cons_of_mem _ hother)

theorem tryParsers_swap {parser passing : Parser} {rest : List Parser}
    (fair : Fair st d parser) (passes : Passes st d passing) :
    tryParsers (passing :: parser :: rest) st d = tryParsers (parser :: passing :: rest) st d := by
  rw [tryParsers_cons_of_passes passes, tryParsers, tryParsers]
  cases hresult : parser st d with
  | error fault => rfl
  | ok result =>
      rcases result with ⟨detected, st'⟩
      cases detected with
      | true => rfl
      | false =>
          dsimp only [bind, Except.bind]
          rw [fair st' hresult, tryParsers_cons_of_passes passes]

/-- Of parsers of which at most one does not leave the datagram, the order does not matter. -/
theorem tryParsers_perm {parsers others rest : List Parser} (perm : parsers.Perm others)
    (hfair : ∀ parser ∈ parsers, Fair st d parser)
    (hone : parsers.Pairwise fun first second => Passes st d first ∨ Passes st d second) :
    tryParsers (parsers ++ rest) st d = tryParsers (others ++ rest) st d := by
  induction perm with
  | nil => rfl
  | cons parser perm ih =>
      rename_i front back
      have htail := ih (fun other hother => hfair other (List.mem_cons_of_mem _ hother))
        (List.pairwise_cons.mp hone).2
      rw [List.cons_append, List.cons_append, tryParsers, tryParsers]
      cases hresult : parser st d with
      | error fault => rfl
      | ok result =>
          rcases result with ⟨detected, st'⟩
          cases detected with
          | true => rfl
          | false =>
              rw [hfair parser List.mem_cons_self st' hresult]
              exact htail
  | swap first second tail =>
      simp only [List.cons_append]
      have hfirst := hfair first (List.mem_cons_of_mem _ List.mem_cons_self)
      rcases (List.pairwise_cons.mp hone).1 first List.mem_cons_self with hpasses | hpasses
      · exact tryParsers_swap hfirst hpasses
      · exact (tryParsers_swap (hfair second List.mem_cons_self) hpasses).symm
  | trans first second ihfirst ihsecond =>
      rw [ihfirst hfair hone]
      apply ihsecond
      · exact fun parser hparser => hfair parser (first.mem_iff.mpr hparser)
      · exact first.pairwise hone Or.symm

/-- If all others leave the datagram, the parser decides. -/
theorem tryParsers_decides {parser : Parser} {others : List Parser}
    (hfair : Fair st d parser) (hpasses : ∀ other ∈ others, Passes st d other) :
    tryParsers (parser :: others) st d = parser st d := by
  rw [tryParsers]
  cases hresult : parser st d with
  | error fault => rfl
  | ok result =>
      rcases result with ⟨detected, st'⟩
      cases detected with
      | true => rfl
      | false =>
          have hothers := @tryParsers_of_passes st d others [] hpasses
          rw [List.append_nil] at hothers
          rw [hfair st' hresult]
          exact hothers

/-! ### Whose turn it is -/

/-- The place in the row of the parser for the type and the subclass of a full frame. -/
def turn (fh : FullFrame) : Option Nat :=
  let subclass := getUncompressedSubclass fh.cSub
  if fh.type = 6 then
    if subclass = 1 then some 0
    else if subclass = 7 then some 1
    else if subclass = 8 then some 2
    else if subclass = 5 then some 3
    else if subclass = 6 then some 5
    else none
  else if fh.type = 4 then if subclass = 1 then some 4 else none
  else if fh.type = 2 then some 6
  else none

/-- The parser whose turn it is for a datagram. -/
def turnOf (cfg : Config) (d : Datagram) : Option Nat := (fullFrame? cfg d).bind turn

theorem fair_map_report {α : Type} (operation : α → Iax2Sessions)
    (read : Except Fault (Option α)) (st' : Iax2Sessions)
    (hleft : read.map (st.report operation) = .ok (false, st')) : st' = st := by
  cases read with
  | error fault => cases hleft
  | ok info =>
      cases info with
      | none =>
          cases hleft
          rfl
      | some info => cases hleft

theorem fair_report {α : Type} (operation : α → Iax2Sessions) (read : Option α)
    (st' : Iax2Sessions)
    (hleft : (Except.ok (st.report operation read) : Except Fault _) = .ok (false, st')) :
    st' = st :=
  fair_map_report operation (.ok read) st' hleft

theorem fair_fullFrameParsers :
    ∀ parser ∈ fullFrameParsers cfg clock stack, Fair st d parser := by
  intro parser hparser
  simp only [fullFrameParsers, List.mem_cons, List.not_mem_nil, or_false] at hparser
  rcases hparser with rfl | rfl | rfl | rfl | rfl | rfl | rfl
  · exact fair_map_report _ _
  · exact fair_map_report _ _
  · exact fair_map_report _ _
  · exact fair_map_report _ _
  · exact fair_report _ _
  · exact fair_map_report _ _
  · exact fair_report _ _

theorem commandFrame_of_not_turn {command : Int}
    (hturn : ∀ fh, fullFrame? cfg d = some fh → fh.type ≠ 6 ∨
      getUncompressedSubclass fh.cSub ≠ command) :
    commandFrame cfg stack command d = .ok none := by
  rw [commandFrame]
  cases hheader : fullFrame? cfg d with
  | none => rfl
  | some fh =>
      dsimp only
      apply if_pos
      rcases hturn fh hheader with htype | hsubclass
      · exact .inl htype
      · exact .inr (.inl hsubclass)

theorem passes_signal {command : Int} {wanted : Ies → Bool}
    {operation : Iax2SignalInfo → Iax2Sessions}
    (hturn : ∀ fh, fullFrame? cfg d = some fh → fh.type ≠ 6 ∨
      getUncompressedSubclass fh.cSub ≠ command) :
    (readSignal cfg stack command wanted d).map (st.report operation) = .ok (false, st) := by
  rw [readSignal, commandFrame_of_not_turn hturn]
  rfl

/-- A frame whose turn it is at another place has another type or subclass. -/
theorem turn_command {place : Nat} {command : Int}
    (hplace : ∀ fh : FullFrame, fh.type = 6 → getUncompressedSubclass fh.cSub = command →
      turn fh = some place)
    (hturn : turnOf cfg d ≠ some place) :
    ∀ fh, fullFrame? cfg d = some fh → fh.type ≠ 6 ∨ getUncompressedSubclass fh.cSub ≠ command := by
  intro fh hheader
  by_contra hboth
  rw [not_or, not_not, not_not] at hboth
  apply hturn
  rw [turnOf, hheader]
  exact hplace fh hboth.1 hboth.2

theorem passes_of_turn {place : Nat} (hplace : place < 7) (hturn : turnOf cfg d ≠ some place) :
    ∀ parser ∈ (fullFrameParsers cfg clock stack)[place]?, Passes st d parser := by
  intro parser hparser
  have hcommand : ∀ fh : FullFrame, fh.type = 6 → turn fh =
      if getUncompressedSubclass fh.cSub = 1 then some 0
      else if getUncompressedSubclass fh.cSub = 7 then some 1
      else if getUncompressedSubclass fh.cSub = 8 then some 2
      else if getUncompressedSubclass fh.cSub = 5 then some 3
      else if getUncompressedSubclass fh.cSub = 6 then some 5
      else none := by
    intro fh htype
    rw [turn, if_pos htype]
  interval_cases place
  · cases hparser
    have hpassed := @turn_command cfg d 0 1
      (fun fh htype hsubclass => by rw [hcommand fh htype, hsubclass]; rfl) hturn
    unfold Passes tryIax2New readNew
    rw [commandFrame_of_not_turn hpassed]
    rfl
  · cases hparser
    exact passes_signal (turn_command
      (fun fh htype hsubclass => by rw [hcommand fh htype, hsubclass]; rfl) hturn)
  · cases hparser
    exact passes_signal (turn_command
      (fun fh htype hsubclass => by rw [hcommand fh htype, hsubclass]; rfl) hturn)
  · cases hparser
    exact passes_signal (turn_command
      (fun fh htype hsubclass => by rw [hcommand fh htype, hsubclass]; rfl) hturn)
  · cases hparser
    unfold Passes tryIax2ControlHangup readControlHangup
    cases hheader : fullFrame? cfg d with
    | none => rfl
    | some fh =>
        have hguard : fh.type ≠ 4 ∨ getUncompressedSubclass fh.cSub ≠ 1 := by
          by_contra hboth
          rw [not_or, not_not, not_not] at hboth
          apply hturn
          rw [turnOf, hheader, Option.bind_some, turn, hboth.1, hboth.2]
          rfl
        dsimp only
        rw [if_pos hguard]
        rfl
  · cases hparser
    exact passes_signal (turn_command
      (fun fh htype hsubclass => by rw [hcommand fh htype, hsubclass]; rfl) hturn)
  · cases hparser
    unfold Passes tryIax2FullVoiceFrame readFullVoice
    cases hheader : fullFrame? cfg d with
    | none => rfl
    | some fh =>
        have htype : fh.type ≠ 2 := by
          intro htype
          apply hturn
          rw [turnOf, hheader, Option.bind_some, turn, htype]
          rfl
        dsimp only
        rw [if_pos (.inl htype)]
        rfl

/-- At most one parser of full frames does not leave the datagram. -/
theorem pairwise_fullFrameParsers :
    (fullFrameParsers cfg clock stack).Pairwise fun first second =>
      Passes st d first ∨ Passes st d second := by
  rw [List.pairwise_iff_getElem]
  intro i j hi hj hlt
  by_cases hturn : turnOf cfg d = some i
  · right
    apply passes_of_turn hj
    · rw [hturn]
      exact fun heq => Nat.ne_of_lt hlt (Option.some.inj heq)
    · exact List.getElem?_eq_getElem hj
  · left
    exact passes_of_turn hi hturn _ (List.getElem?_eq_getElem hi)

/-- The first byte of a full frame is not zero. -/
theorem ntohs_zero_and (low : UInt8) : ntohs 0 low &&& 0x8000 = 0 := by
  have hall : ∀ n : Fin 256, ntohs 0 (UInt8.ofFin n) &&& 0x8000 = 0 := by decide +kernel
  exact hall low.toFin

theorem metaTrunkData?_of_full {fh : FullFrame} (hheader : fullFrame? cfg d = some fh) :
    metaTrunkData? cfg d = none := by
  unfold fullFrame? at hheader
  split_ifs at hheader
  split at hheader
  · rename_i s0 s1 d0 d1 t0 t1 t2 t3 iseqno oseqno type cSub data hpayload
    unfold metaTrunkData?
    split_ifs
    · rfl
    · rw [hpayload]
      dsimp only
      split_ifs at hheader with hbit
      apply if_pos
      left
      intro hzero
      rw [hzero] at hbit
      exact hbit (ntohs_zero_and s1)
  · cases hheader

theorem tryIax2MiniVoiceFrame_of_full {fh : FullFrame} (hheader : fullFrame? cfg d = some fh) :
    st.tryIax2MiniVoiceFrame cfg clock d = (false, st) := by
  unfold fullFrame? at hheader
  split_ifs at hheader
  split at hheader
  · rename_i s0 s1 d0 d1 t0 t1 t2 t3 iseqno oseqno type cSub data hpayload
    split_ifs at hheader with hbit
    unfold tryIax2MiniVoiceFrame
    split_ifs
    · rfl
    · rw [hpayload]
      dsimp only
      rw [if_pos (.inl hbit)]
  · cases hheader

theorem passes_voice_of_full {fh : FullFrame} (hheader : fullFrame? cfg d = some fh) :
    ∀ parser ∈ voiceParsers cfg clock, Passes st d parser := by
  intro parser hparser
  simp only [voiceParsers, List.mem_cons, List.not_mem_nil, or_false] at hparser
  rcases hparser with rfl | rfl
  · have htrunk : st.tryIax2MetaTrunkFrame cfg clock d = (false, st) := by
      rw [tryIax2MetaTrunkFrame, metaTrunkData?_of_full hheader]
    exact congrArg Except.ok htrunk
  · exact congrArg Except.ok (tryIax2MiniVoiceFrame_of_full hheader)

/-- The parser whose turn it is decides alone. -/
theorem detectIax2_of_turn {place : Nat} {parser : Parser} (hturn : turnOf cfg d = some place)
    (hparser : (fullFrameParsers cfg clock stack)[place]? = some parser) :
    detectIax2 cfg clock stack st d = parser st d := by
  rcases List.getElem?_eq_some_iff.mp hparser with ⟨hplace, hget⟩
  rcases Option.bind_eq_some_iff.mp hturn with ⟨fh, hheader, -⟩
  have hperm := List.getElem_cons_eraseIdx_perm hplace
  rw [hget] at hperm
  calc
    detectIax2 cfg clock stack st d =
        tryParsers (parser :: (fullFrameParsers cfg clock stack).eraseIdx place ++
          voiceParsers cfg clock) st d :=
      tryParsers_perm hperm.symm fair_fullFrameParsers pairwise_fullFrameParsers
    _ = parser st d := by
      apply tryParsers_decides (fair_fullFrameParsers parser (List.mem_of_getElem? hparser))
      intro other hother
      rcases List.mem_append.mp hother with hfull | hvoice
      · rcases List.mem_eraseIdx_iff_getElem?.mp hfull with ⟨i, hne, hi⟩
        apply passes_of_turn (List.getElem?_eq_some_iff.mp hi).1 _ other hi
        rw [hturn]
        exact fun heq => hne (Option.some.inj heq).symm
      · exact passes_voice_of_full hheader other hvoice

theorem passes_full_of_no_turn (hturn : turnOf cfg d = none) :
    ∀ parser ∈ fullFrameParsers cfg clock stack, Passes st d parser := by
  intro parser hparser
  rcases List.mem_iff_getElem?.mp hparser with ⟨place, hplace⟩
  apply passes_of_turn (List.getElem?_eq_some_iff.mp hplace).1 _ parser hplace
  rw [hturn]
  intro heq
  cases heq

theorem detectIax2_of_no_turn (hturn : turnOf cfg d = none) :
    detectIax2 cfg clock stack st d = tryParsers (voiceParsers cfg clock) st d :=
  tryParsers_of_passes (passes_full_of_no_turn hturn)

/-- The parsers of full frames can stand in any order. -/
theorem detectIax2_perm (cfg : Config) (clock : Clock) (stack : Nat → UInt8) (st : Iax2Sessions)
    (d : Datagram) (parsers : List Parser) (perm : parsers.Perm (fullFrameParsers cfg clock stack)) :
    tryParsers (parsers ++ voiceParsers cfg clock) st d = detectIax2 cfg clock stack st d :=
  (tryParsers_perm perm.symm fair_fullFrameParsers pairwise_fullFrameParsers).symm

section

/-- A NEW of call 1 for the number "AB". -/
def newFrame : Datagram where
  ipSrc := 1
  ipDest := 2
  udpLen := 24
  udpPayload := [0x80, 1, 0, 0, 0, 0, 0, 0, 0, 0, 6, 1, 1, 2, 65, 66]
  fits := by decide

theorem detectIax2_perm_reverse :
    tryParsers ((fullFrameParsers { iax2Support := true } { time := 0 } fun _ => 0).reverse ++
      voiceParsers { iax2Support := true } { time := 0 }) (empty 0) newFrame =
      detectIax2 { iax2Support := true } { time := 0 } (fun _ => 0) (empty 0) newFrame :=
  detectIax2_perm _ _ _ _ _ _ (List.reverse_perm _)

end

end Iax2Sessions

/-! ### What a datagram tells the sessions -/

/-- What a full frame is about. -/
inductive Message
  | new (invite : Iax2NewInfo)
  | accept (acceptinfo : Iax2SignalInfo)
  | authreq (request : Iax2SignalInfo)
  | hangup (bye : Iax2SignalInfo)
  | voice (info : Iax2PacketInfo)

/-- A voice frame is written to a new object. -/
def Message.operation (p : Nat) : Message → Iax2Sessions.Operation
  | .new invite => .reportIax2New invite
  | .accept acceptinfo => .reportIax2Accept acceptinfo
  | .authreq request => .reportIax2Authreq request
  | .hangup bye => .reportIax2Hangup bye
  | .voice info => .reportIax2Packet p info

/-- What a well-formed full frame tells. -/
inductive Tells (cfg : Config) (clock : Clock) (d : Datagram) : Message → Prop
  | new {fh : FullFrame} {elements : List Element} {invite : Iax2NewInfo}
      (carries : Carries cfg d 1 fh elements) (hinvite : readingNew d fh elements = some invite) :
      Tells cfg clock d (.new invite)
  | accept {fh : FullFrame} {elements : List Element} {acceptinfo : Iax2SignalInfo}
      (carries : Carries cfg d 7 fh elements)
      (hinfo : readingSignal wantedAccept d fh elements = some acceptinfo) :
      Tells cfg clock d (.accept acceptinfo)
  | authreq {fh : FullFrame} {elements : List Element} {request : Iax2SignalInfo}
      (carries : Carries cfg d 8 fh elements)
      (hinfo : readingSignal wantedAuthreq d fh elements = some request) :
      Tells cfg clock d (.authreq request)
  | hangup {fh : FullFrame} {elements : List Element} (carries : Carries cfg d 5 fh elements) :
      Tells cfg clock d (.hangup (signalInfo d fh))
  | reject {fh : FullFrame} {elements : List Element} (carries : Carries cfg d 6 fh elements) :
      Tells cfg clock d (.hangup (signalInfo d fh))
  | controlHangup {fh : FullFrame} (hheader : fullFrame? cfg d = some fh) (htype : fh.type = 4)
      (hsubclass : getUncompressedSubclass fh.cSub = 1) :
      Tells cfg clock d (.hangup (signalInfo d fh))
  | voice {fh : FullFrame} (hheader : fullFrame? cfg d = some fh) (htype : fh.type = 2)
      (hcodec : 0 ≤ iax2CodecToRtpPayloadtype (getUncompressedSubclass fh.cSub))
      (hdata : fh.data ≠ []) :
      Tells cfg clock d (.voice
        (voiceInfo clock d fh (iax2CodecToRtpPayloadtype (getUncompressedSubclass fh.cSub))))

/-- NEW, ACCEPT, AUTHREQ, HANGUP and REJECT -/
def commands : List Int := [1, 7, 8, 5, 6]

/-- The place of the parser of a command. -/
def placeOf (command : Int) : Nat :=
  if command = 1 then 0
  else if command = 7 then 1
  else if command = 8 then 2
  else if command = 5 then 3
  else 5

/-- A signalling frame whose elements fill the staging buffer. -/
def IsOverfull (cfg : Config) (d : Datagram) : Prop :=
  ∃ command ∈ commands, ∃ fh, Overfull cfg d command fh

namespace Iax2Sessions

variable {cfg : Config} {clock : Clock} {stack : Nat → UInt8} {st : Iax2Sessions} {d : Datagram}
  {command : Int} {fh : FullFrame}

/-- The turn of a command. -/
theorem turnOf_command (iscommand : IsCommand cfg d command fh) (hcommand : command ∈ commands) :
    turnOf cfg d = some (placeOf command) := by
  rw [turnOf, iscommand.header, Option.bind_some, turn, iscommand.type, iscommand.subclass]
  simp only [commands, List.mem_cons, List.not_mem_nil, or_false] at hcommand
  rcases hcommand with rfl | rfl | rfl | rfl | rfl
  · rfl
  · rfl
  · rfl
  · rfl
  · rfl

/-- A parser whose turn it is reports what it reads. -/
theorem detectIax2_reads {α : Type} {reading : FullFrame → List Element → Option α}
    {read : Except Fault (Option α)} {operation : α → Iax2Sessions} {parser : Parser}
    (reads : Reads cfg d command reading read) (hcommand : command ∈ commands)
    (hparser : (fullFrameParsers cfg clock stack)[placeOf command]? = some parser)
    (hresult : parser st d = read.map (st.report operation)) :
    (∀ fh elements info, Carries cfg d command fh elements → reading fh elements = some info →
      detectIax2 cfg clock stack st d = .ok (true, operation info)) ∧
    (∀ fh, Overfull cfg d command fh → detectIax2 cfg clock stack st d = .error .outside) ∧
    (turnOf cfg d = some (placeOf command) →
      (∀ fh elements, Carries cfg d command fh elements → reading fh elements = none) →
      (∀ fh, ¬Overfull cfg d command fh) → detectIax2 cfg clock stack st d = .ok (false, st)) := by
  refine ⟨?_, ?_, ?_⟩
  · intro fh elements info carries hinfo
    rw [detectIax2_of_turn (turnOf_command carries.toIsCommand hcommand) hparser, hresult]
    cases reads with
    | taken others hothers =>
        rcases carries.unique others with ⟨rfl, rfl⟩
        rcases Option.some.inj (hinfo.symm.trans hothers) with rfl
        rfl
    | left hnone hfits =>
        rw [hnone fh elements carries] at hinfo
        cases hinfo
    | outside overfull => exact absurd overfull carries.not_overfull
  · intro fh overfull
    rw [detectIax2_of_turn (turnOf_command overfull.toIsCommand hcommand) hparser, hresult]
    cases reads with
    | taken carries hinfo => exact absurd overfull carries.not_overfull
    | left hnone hfits => exact absurd overfull (hfits fh)
    | outside other => rfl
  · intro hturn hnone hfits
    rw [detectIax2_of_turn hturn hparser, hresult]
    cases reads with
    | taken carries hinfo =>
        rw [hnone _ _ carries] at hinfo
        cases hinfo
    | left _ _ => rfl
    | outside overfull => exact absurd overfull (hfits _)

theorem detectIax2_of_controlHangup (hheader : fullFrame? cfg d = some fh) (htype : fh.type = 4)
    (hsubclass : getUncompressedSubclass fh.cSub = 1) :
    detectIax2 cfg clock stack st d = .ok (true, st.reportIax2Hangup (signalInfo d fh)) := by
  have hturn : turnOf cfg d = some 4 := by
    rw [turnOf, hheader, Option.bind_some, turn, htype, hsubclass]
    rfl
  have hguard : ¬(fh.type ≠ 4 ∨ getUncompressedSubclass fh.cSub ≠ 1) := by
    rw [htype, hsubclass]
    decide
  rw [detectIax2_of_turn hturn rfl, tryIax2ControlHangup, readControlHangup, hheader]
  dsimp only
  rw [if_neg hguard]
  rfl

theorem detectIax2_of_voice (hheader : fullFrame? cfg d = some fh) (htype : fh.type = 2) :
    detectIax2 cfg clock stack st d =
      if iax2CodecToRtpPayloadtype (getUncompressedSubclass fh.cSub) < 0 ∨ fh.data = [] then
        .ok (false, st)
      else .ok (true, (st.reportPacket cfg clock st.nextPacket (voiceInfo clock d fh
        (iax2CodecToRtpPayloadtype (getUncompressedSubclass fh.cSub)))).2) := by
  have hturn : turnOf cfg d = some 6 := by
    rw [turnOf, hheader, Option.bind_some, turn, htype]
    rfl
  rw [detectIax2_of_turn hturn rfl, tryIax2FullVoiceFrame, readFullVoice, hheader]
  dsimp only
  split_ifs with hguard hleft hleft
  · rfl
  · rw [not_or] at hleft
    rcases hguard with hother | hnegative | hempty
    · exact absurd htype hother
    · exact absurd hnegative hleft.1
    · exact absurd hempty hleft.2
  · exact absurd (.inr hleft) hguard
  · rfl

theorem detectIax2_of_tells {message : Message} (tells : Tells cfg clock d message) :
    detectIax2 cfg clock stack st d =
      .ok (true, st.apply cfg clock (message.operation st.nextPacket)) := by
  cases tells with
  | new carries hinvite =>
      exact (detectIax2_reads (reads_new cfg stack d) (by decide) rfl rfl).1 _ _ _ carries hinvite
  | accept carries hinfo =>
      exact (detectIax2_reads (reads_accept cfg stack d) (by decide) rfl rfl).1 _ _ _ carries hinfo
  | authreq carries hinfo =>
      exact (detectIax2_reads (reads_authreq cfg stack d) (by decide) rfl rfl).1 _ _ _ carries hinfo
  | hangup carries =>
      exact (detectIax2_reads (reads_hangup cfg stack d) (by decide) rfl rfl).1 _ _ _ carries rfl
  | reject carries =>
      exact (detectIax2_reads (reads_reject cfg stack d) (by decide) rfl rfl).1 _ _ _ carries rfl
  | controlHangup hheader htype hsubclass =>
      exact detectIax2_of_controlHangup hheader htype hsubclass
  | voice hheader htype hcodec hdata =>
      rw [detectIax2_of_voice hheader htype, if_neg]
      · rfl
      · rw [not_or]
        exact ⟨not_lt.mpr hcodec, hdata⟩

theorem detectIax2_of_overfull (overfull : IsOverfull cfg d) :
    detectIax2 cfg clock stack st d = .error .outside := by
  rcases overfull with ⟨command, hcommand, fh, overfull⟩
  simp only [commands, List.mem_cons, List.not_mem_nil, or_false] at hcommand
  rcases hcommand with rfl | rfl | rfl | rfl | rfl
  · exact (detectIax2_reads (reads_new cfg stack d) (by decide) rfl rfl).2.1 fh overfull
  · exact (detectIax2_reads (reads_accept cfg stack d) (by decide) rfl rfl).2.1 fh overfull
  · exact (detectIax2_reads (reads_authreq cfg stack d) (by decide) rfl rfl).2.1 fh overfull
  · exact (detectIax2_reads (reads_hangup cfg stack d) (by decide) rfl rfl).2.1 fh overfull
  · exact (detectIax2_reads (reads_reject cfg stack d) (by decide) rfl rfl).2.1 fh overfull

theorem turn_eq_some {place : Nat} (hturn : turn fh = some place) :
    place = 0 ∨ place = 1 ∨ place = 2 ∨ place = 3 ∨ place = 5 ∨
      (place = 4 ∧ fh.type = 4 ∧ getUncompressedSubclass fh.cSub = 1) ∨
      (place = 6 ∧ fh.type = 2) := by
  unfold turn at hturn
  dsimp only at hturn
  split_ifs at hturn with h6 h61 h67 h68 h65 h66 h4 h41 h2
  · exact .inl (Option.some.inj hturn).symm
  · exact .inr (.inl (Option.some.inj hturn).symm)
  · exact .inr (.inr (.inl (Option.some.inj hturn).symm))
  · exact .inr (.inr (.inr (.inl (Option.some.inj hturn).symm)))
  · exact .inr (.inr (.inr (.inr (.inl (Option.some.inj hturn).symm))))
  · exact .inr (.inr (.inr (.inr (.inr (.inl ⟨(Option.some.inj hturn).symm, h4, h41⟩)))))
  · exact .inr (.inr (.inr (.inr (.inr (.inr ⟨(Option.some.inj hturn).symm, h2⟩)))))

/-- A full frame that tells nothing changes nothing. -/
theorem detectIax2_of_left (hheader : fullFrame? cfg d = some fh)
    (htells : ∀ message, ¬Tells cfg clock d message) (hfits : ¬IsOverfull cfg d) :
    detectIax2 cfg clock stack st d = .ok (false, st) := by
  have hfit : ∀ command ∈ commands, ∀ fh, ¬Overfull cfg d command fh :=
    fun command hcommand fh overfull => hfits ⟨command, hcommand, fh, overfull⟩
  have hcarried : ∀ {α : Type} {command : Int} {reading : FullFrame → List Element → Option α},
      (∀ fh elements info, Carries cfg d command fh elements →
        reading fh elements = some info → False) →
      ∀ fh elements, Carries cfg d command fh elements → reading fh elements = none := by
    intro α command reading hnever fh elements carries
    cases hinfo : reading fh elements with
    | none => rfl
    | some info => exact (hnever fh elements info carries hinfo).elim
  cases hturn : turnOf cfg d with
  | none =>
      have hvoice := @tryParsers_of_passes st d (voiceParsers cfg clock) []
        (passes_voice_of_full hheader)
      rw [List.append_nil] at hvoice
      rw [detectIax2_of_no_turn hturn, hvoice]
      rfl
  | some place =>
      have hframe := hturn
      rw [turnOf, hheader] at hframe
      rcases turn_eq_some hframe with
        rfl | rfl | rfl | rfl | rfl | ⟨rfl, htype, hsubclass⟩ | ⟨rfl, htype⟩
      · exact (detectIax2_reads (reads_new cfg stack d) (by decide) rfl rfl).2.2 hturn
          (hcarried fun _ _ _ carries hinvite => htells _ (.new carries hinvite))
          (hfit 1 (by decide))
      · exact (detectIax2_reads (reads_accept cfg stack d) (by decide) rfl rfl).2.2 hturn
          (hcarried fun _ _ _ carries hinfo => htells _ (.accept carries hinfo))
          (hfit 7 (by decide))
      · exact (detectIax2_reads (reads_authreq cfg stack d) (by decide) rfl rfl).2.2 hturn
          (hcarried fun _ _ _ carries hinfo => htells _ (.authreq carries hinfo))
          (hfit 8 (by decide))
      · exact (detectIax2_reads (reads_hangup cfg stack d) (by decide) rfl rfl).2.2 hturn
          (hcarried fun _ _ _ carries _ => htells _ (.hangup carries)) (hfit 5 (by decide))
      · exact (detectIax2_reads (reads_reject cfg stack d) (by decide) rfl rfl).2.2 hturn
          (hcarried fun _ _ _ carries _ => htells _ (.reject carries)) (hfit 6 (by decide))
      · exact absurd (.controlHangup hheader htype hsubclass) (htells _)
      · rw [detectIax2_of_voice hheader htype]
        apply if_pos
        by_contra hguard
        rw [not_or] at hguard
        exact htells _ (.voice hheader htype (not_lt.mp hguard.1) hguard.2)

/-- A full frame is taken exactly when its data are the complete elements that its subclass
needs, or voice of a known codec, and then it is one operation on the sessions with what the
last elements of each kind say. Elements that fill the staging buffer are parsed out of it.
Any other full frame changes nothing, and what is no full frame comes to the parsers of voice. -/
theorem detectIax2_classified (cfg : Config) (clock : Clock) (stack : Nat → UInt8)
    (st : Iax2Sessions) (d : Datagram) :
    (∀ message, Tells cfg clock d message → detectIax2 cfg clock stack st d =
      .ok (true, st.apply cfg clock (message.operation st.nextPacket))) ∧
    (IsOverfull cfg d → detectIax2 cfg clock stack st d = .error .outside) ∧
    ((∀ message, ¬Tells cfg clock d message) → ¬IsOverfull cfg d →
      detectIax2 cfg clock stack st d =
        if (fullFrame? cfg d).isSome then .ok (false, st)
        else tryParsers (voiceParsers cfg clock) st d) := by
  refine ⟨fun message => detectIax2_of_tells, detectIax2_of_overfull, ?_⟩
  intro htells hfits
  cases hheader : fullFrame? cfg d with
  | some fh => exact detectIax2_of_left hheader htells hfits
  | none =>
      apply detectIax2_of_no_turn
      rw [turnOf, hheader]
      rfl

end Iax2Sessions

end OrkAudio.Iax2
