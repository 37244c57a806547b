import OrkAudio.Lib.Fallible
import OrkAudio.SipInvite.AudioSection
import OrkAudio.SipInvite.HeaderLines

/-! `TrySipInvite` as a whole, as far as it can fail to return.

What it reads of a packet without a conversion or a view cannot throw, and what is reported to
the sessions is left out. -/

namespace OrkAudio.SipInvite

open Lib

/-! ### The code -/

structure InviteConfig where
  ipFragmentsReassemble : Bool := false
  sipTreat200OkAsInvite : Bool := false
  sipDetectSessionProgress : Bool := false
  sipExtractFields : List Bytes := []
  sipExtractKeyValues : List Bytes := []
  rtpReportDtmf : Bool := false

/-- The memory from the payload on, the length in the UDP header, how much of the payload was
captured and the offset of the fragment. -/
structure Datagram where
  memory : Bytes
  len : Nat
  captured : Nat
  offset : Nat := 0

inductive Method
  | invite | ack | ok | sessionProgress
  deriving DecidableEq

/-- How the call fails to return: a loop has no end, or an exception escapes. -/
inductive Abort
  | endless
  | outOfRange
  | thrown (text : String)
  deriving DecidableEq

/-- What is set of `SipInviteInfo` here. -/
structure Extracted where
  sipMethod : Method
  extractedFields : KeyValueMap
  telephoneEventPayloadType : Int
  orekaRtpPayloadTypeMap : List UInt8
  deriving DecidableEq

namespace Datagram

variable (cfg : InviteConfig) (packet : Datagram)

def sipLength : Int := packet.len - 8

/-- Where the payload ends, for an incomplete first fragment where it was cut. -/
def sipEnd : Int :=
  if cfg.ipFragmentsReassemble = false ∧ packet.sipLength > packet.captured ∧ packet.offset = 0 then
    packet.captured
  else packet.sipLength

def begins (text : String) : Bool := (ascii text).isPrefixOf packet.memory

/-- The method, none for a packet that is dropped. -/
def sipMethod : Option Method :=
  if packet.sipLength < 3 ∨ packet.sipEnd cfg > packet.captured then none
  else if packet.begins "INVITE" then some .invite
  else if packet.begins "ACK" then some .ack
  else if cfg.sipTreat200OkAsInvite ∧ packet.begins "SIP/2.0 200" then some .ok
  else if cfg.sipDetectSessionProgress ∧ packet.begins "SIP/2.0 183 Session Progress" then
    some .sessionProgress
  else none

end Datagram

section

variable (memory : Bytes)

/-- `GrabTokenSkipLeadingWhitespaces`. -/
def grabTokenSkipLeadingWhitespaces (place limit : Nat) : Bytes :=
  grabToken (((memory.take limit).drop place).dropWhile (· == 0x20))

/-- `GrabLineSkipLeadingWhitespace`. -/
def grabLineSkipLeadingWhitespace (place limit : Nat) : Bytes :=
  (((memory.take limit).drop place).dropWhile (· == 0x20)).takeWhile fun c => !isLineBreak c

/-- `m_sipExtractFields`. -/
def extractFields (sipEnd : Nat) (fields : List Bytes) : KeyValueMap :=
  fields.foldl (fun map name =>
    match memFindAfter (name ++ ascii ":") memory 0 sipEnd with
    | none => map
    | some place => emplace map name (grabLineSkipLeadingWhitespace memory place sipEnd)) []

def rtpmapLine : Bytes := ascii "\na=rtpmap:"

/-- `StringToInt`. -/
def stringToInt (token : Bytes) : Except String Int :=
  match stringToInt? (Skinny.textOf token) with
  | some number => .ok number
  | none => .error ("StringToInt: invalid integer:" ++ Skinny.textOf token)

variable (sipEnd audioSdpEnd : Nat)

/-- What `Format` makes of a payload type and a space, cut to its buffer. -/
def nextToken (rtpPayloadType : Bytes) : Bytes := (rtpPayloadType ++ [0x20]).take 1025

/-- The payload type behind an attribute stands, the next time, before the telephone event. -/
def announces (rtpmapAttribute : Nat) : Bool :=
  let rtpPayloadType := grabTokenSkipLeadingWhitespaces memory rtpmapAttribute audioSdpEnd
  match memFindAfter (nextToken rtpPayloadType) memory rtpmapAttribute audioSdpEnd with
  | none => false
  | some nextStep => decide (nextStep + 15 ≤ sipEnd) &&
      startsWithNoCase (ascii "telephone-event") (memory.drop nextStep)

/-- The loop over the attributes, none when it has run out of `fuel`. -/
def telephoneEventLoop : Nat → Option Nat → Option (Except String Int)
  | _, none => some (.ok 0)
  | 0, some _ => none
  | fuel + 1, some rtpmapAttribute =>
      if rtpmapAttribute < sipEnd then
        if announces memory sipEnd audioSdpEnd rtpmapAttribute then
          some (stringToInt (grabTokenSkipLeadingWhitespaces memory rtpmapAttribute audioSdpEnd))
        else
          telephoneEventLoop fuel (memFindAfter rtpmapLine memory rtpmapAttribute audioSdpEnd)
      else some (.ok 0)

end

/-- What comes of a loop. -/
def returned {ε α : Type} (abort : ε → Abort) : Option (Except ε α) → Except Abort α
  | none => .error .endless
  | some (.error e) => .error (abort e)
  | some (.ok a) => .ok a

/-- `m_telephoneEventPayloadType`. -/
def telephoneEventPayloadType (cfg : InviteConfig) (memory : Bytes) (sipEnd : Nat)
    (region : Nat × Nat) : Except Abort Int :=
  if cfg.rtpReportDtmf then
    returned .thrown (telephoneEventLoop memory sipEnd region.2 (region.2 + 1)
      (memFindAfter rtpmapLine memory region.1 region.2))
  else .ok 0

/-- `m_orekaRtpPayloadTypeMap`, which is zero at first. -/
def orekaRtpPayloadTypeMap (memory : Bytes) (region : Nat × Nat) : Except Abort (List UInt8) :=
  if (memFindAfter rtpmapLine memory region.1 region.2).isSome then
    returned .thrown (getDynamicPayloadMapping ((memory.take region.2).drop region.1)
      (List.replicate 32 0))
  else .ok (List.replicate 32 0)

/-- `TrySipInvite`: true is returned with what is extracted. -/
def trySipInvite (cfg : InviteConfig) (packet : Datagram) : Except Abort (Option Extracted) :=
  match packet.sipMethod cfg with
  | none => .ok none
  | some sipMethod =>
      let sipEnd := (packet.sipEnd cfg).toNat
      let region := audioSdp packet.memory sipEnd
      returned (fun _ => .outOfRange) (extractKeyValuesData packet.memory packet.sipLength.toNat
        cfg.sipExtractKeyValues (sipFieldPointersArray packet.memory sipEnd)
        (extractFields packet.memory sipEnd cfg.sipExtractFields)) >>= fun extractedFields =>
      telephoneEventPayloadType cfg packet.memory sipEnd region >>= fun telephoneEvent =>
      orekaRtpPayloadTypeMap packet.memory region >>= fun map =>
      .ok (some ⟨sipMethod, extractedFields, telephoneEvent, map⟩)

/-! ### What can be thrown -/

/-- A key of a field that is not a standard one: the first place with its name is in the front of
a line and ends with the payload, and a colon stands behind the payload. -/
def CutOff (memory : Bytes) (payloadSize : Nat) (x : Bytes) : Prop :=
  standardField x = none ∧ ∃ dotPosition, x.idxOf? 0x2E = some dotPosition ∧
    ∃ pos, search (x.take dotPosition) (memory.take payloadSize) = some pos ∧
      foundExtractionArea (x.take dotPosition) memory pos = true ∧
      pos + (x.take dotPosition).length = payloadSize

/-- A line with the attribute begins in the region, and its value at `place`. -/
def IsAttribute (memory : Bytes) (region : Nat × Nat) (place : Nat) : Prop :=
  ∃ front, region.1 ≤ front ∧ front < region.2 ∧
    startsWithNoCase rtpmapLine (memory.drop front) = true ∧ place = front + rtpmapLine.length

/-- The first attribute that announces a telephone event. -/
structure FirstAnnounced (memory : Bytes) (sipEnd : Nat) (region : Nat × Nat) (place : Nat) :
    Prop where
  isAttribute : IsAttribute memory region place
  inside : place < sipEnd
  announced : announces memory sipEnd region.2 place = true
  first : ∀ before < place, IsAttribute memory region before →
    announces memory sipEnd region.2 before = false

def Readable (token : Bytes) : Prop := (stringToInt? (Skinny.textOf token)).isSome = true

/-- No key is cut off, and every number that is asked for can be read. -/
structure Harmless (cfg : InviteConfig) (packet : Datagram) (sipEnd : Nat) (region : Nat × Nat) :
    Prop where
  keys : ∀ x ∈ cfg.sipExtractKeyValues, ¬ CutOff packet.memory packet.sipLength.toNat x
  telephoneEvent : cfg.rtpReportDtmf = true →
    ∀ place, FirstAnnounced packet.memory sipEnd region place →
      Readable (grabTokenSkipLeadingWhitespaces packet.memory place region.2)
  numbers : (∃ place, IsAttribute packet.memory region place) →
    NumbersRead (heardParts ((packet.memory.take region.2).drop region.1))

/-! ### The search, place by place -/

section

variable {toFind memory : Bytes} {start stop place : Nat}

/-- The first place with the text, or none. -/
theorem memFindFrom_cases (hne : toFind ≠ []) (left : Nat) (memory : Bytes) :
    (∃ front < left, memFindFrom toFind left memory = some (front + toFind.length) ∧
      startsWithNoCase toFind (memory.drop front) = true ∧
      ∀ before < front, startsWithNoCase toFind (memory.drop before) = false) ∨
    (memFindFrom toFind left memory = none ∧
      ∀ front < left, startsWithNoCase toFind (memory.drop front) = false) := by
  induction left generalizing memory with
  | zero =>
      right
      apply And.intro rfl
      intro front hfront
      cases hfront
  | succ left ih =>
      rw [memFindFrom_succ hne]
      cases hhere : startsWithNoCase toFind memory with
      | true =>
          left
          apply Exists.intro 0
          apply And.intro (Nat.succ_pos left)
          rw [if_pos rfl, Nat.zero_add]
          apply And.intro rfl
          apply And.intro hhere
          intro before hbefore
          cases hbefore
      | false =>
          rw [if_neg Bool.false_ne_true]
          have hshift {bound : Nat} (hnot : ∀ front < bound,
              startsWithNoCase toFind (memory.tail.drop front) = false) :
              ∀ front < bound + 1, startsWithNoCase toFind (memory.drop front) = false := by
            intro front hfront
            cases front with
            | zero => exact hhere
            | succ front =>
                rw [← List.drop_tail]
                exact hnot front (Nat.lt_of_succ_lt_succ hfront)
          rcases ih memory.tail with ⟨front, hfront, hfound, hstarts, hbefore⟩ | ⟨hnone, hnot⟩
          · left
            apply Exists.intro (front + 1)
            apply And.intro (Nat.succ_lt_succ hfront)
            rw [hfound, Option.map_some, ← List.drop_tail]
            apply And.intro (congrArg some (by omega))
            exact ⟨hstarts, hshift hbefore⟩
          · right
            rw [hnone]
            exact ⟨rfl, hshift hnot⟩

theorem memFindAfter_cases (hne : toFind ≠ []) (memory : Bytes) (start stop : Nat) :
    (∃ front, start ≤ front ∧ front < stop ∧
      memFindAfter toFind memory start stop = some (front + toFind.length) ∧
      startsWithNoCase toFind (memory.drop front) = true ∧
      ∀ before, start ≤ before → before < front →
        startsWithNoCase toFind (memory.drop before) = false) ∨
    (memFindAfter toFind memory start stop = none ∧
      ∀ front, start ≤ front → front < stop →
        startsWithNoCase toFind (memory.drop front) = false) := by
  have hdrop (front : Nat) (hfront : start ≤ front) :
      (memory.drop start).drop (front - start) = memory.drop front := by
    rw [List.drop_drop, Nat.add_sub_cancel' hfront]
  rw [memFindAfter]
  rcases memFindFrom_cases hne (stop - start) (memory.drop start) with
    ⟨front, hfront, hfound, hstarts, hbefore⟩ | ⟨hnone, hnot⟩
  · left
    apply Exists.intro (start + front)
    rw [hfound, Option.map_some, ← List.drop_drop, Nat.add_assoc]
    apply And.intro (Nat.le_add_right _ _)
    apply And.intro (by omega)
    apply And.intro rfl
    apply And.intro hstarts
    intro before hlow hhigh
    rw [← hdrop before hlow]
    exact hbefore _ (by omega)
  · right
    rw [hnone]
    apply And.intro rfl
    intro front hlow hhigh
    rw [← hdrop front hlow]
    exact hnot _ (by omega)

end

/-! ### The telephone event -/

section

variable {memory : Bytes} {sipEnd start stop place : Nat}

theorem rtpmapLine_ne : rtpmapLine ≠ [] := by decide

theorem toLower_of_starts {pattern text : Bytes} (hstarts : startsWithNoCase pattern text = true)
    {i : Nat} (hi : i < pattern.length) : text[i]?.map toLower = pattern[i]?.map toLower := by
  induction pattern generalizing text i with
  | nil => cases hi
  | cons p pattern ih =>
      cases text with
      | nil => cases hstarts
      | cons c text =>
          rw [startsWithNoCase, Bool.and_eq_true, beq_iff_eq] at hstarts
          cases i with
          | zero => exact congrArg some hstarts.1.symm
          | succ i => exact ih hstarts.2 (Nat.lt_of_succ_lt_succ hi)

/-- No line begins inside the text that begins another. -/
theorem not_starts_inside {front : Nat}
    (hstarts : startsWithNoCase rtpmapLine (memory.drop front) = true) {other : Nat}
    (hlow : front < other) (hhigh : other < front + rtpmapLine.length) :
    startsWithNoCase rtpmapLine (memory.drop other) = false := by
  apply Bool.eq_false_iff.mpr
  intro hother
  have hinside : ∀ i < rtpmapLine.length, 0 < i →
      rtpmapLine[i]?.map toLower ≠ rtpmapLine[0]?.map toLower := by decide
  have hhere := toLower_of_starts hstarts (show other - front < rtpmapLine.length by omega)
  have hthere := toLower_of_starts hother (show 0 < rtpmapLine.length by decide)
  rw [List.getElem?_drop, Nat.add_sub_cancel' hlow.le] at hhere
  rw [List.getElem?_drop, Nat.add_zero] at hthere
  exact hinside (other - front) (by omega) (by omega) (hhere.symm.trans hthere)

/-- What is left behind an attribute that announces nothing. -/
theorem firstAnnounced_behind {front : Nat} (hlow : start ≤ front) (hhigh : front < stop)
    (hstarts : startsWithNoCase rtpmapLine (memory.drop front) = true)
    (hbefore : ∀ before, start ≤ before → before < front →
      startsWithNoCase rtpmapLine (memory.drop before) = false)
    (hsilent : announces memory sipEnd stop (front + rtpmapLine.length) = false) :
    FirstAnnounced memory sipEnd (start, stop) place ↔
      FirstAnnounced memory sipEnd (front + rtpmapLine.length, stop) place := by
  have hattribute (other : Nat) : IsAttribute memory (start, stop) other ↔
      other = front + rtpmapLine.length ∨
        IsAttribute memory (front + rtpmapLine.length, stop) other := by
    constructor
    · intro hother
      rcases hother with ⟨begins, hbegin, hend, hline, rfl⟩
      rcases Nat.lt_trichotomy begins front with hlt | heq | hgt
      · rw [hbefore begins hbegin hlt] at hline
        cases hline
      · exact .inl (by rw [heq])
      · right
        by_cases hinside : begins < front + rtpmapLine.length
        · rw [not_starts_inside hstarts hgt hinside] at hline
          cases hline
        · exact ⟨begins, Nat.not_lt.mp hinside, hend, hline, rfl⟩
    · intro hother
      rcases hother with rfl | ⟨begins, hbegin, hend, hline, rfl⟩
      · exact ⟨front, hlow, hhigh, hstarts, rfl⟩
      · exact ⟨begins, by omega, hend, hline, rfl⟩
  constructor
  · intro first
    have hplace : place ≠ front + rtpmapLine.length := by
      intro heq
      have hannounced := first.announced
      rw [heq, hsilent] at hannounced
      cases hannounced
    apply FirstAnnounced.mk (((hattribute place).mp first.isAttribute).resolve_left hplace)
      first.inside first.announced
    intro before hlt hother
    exact first.first before hlt ((hattribute before).mpr (.inr hother))
  · intro first
    apply FirstAnnounced.mk ((hattribute place).mpr (.inr first.isAttribute)) first.inside
      first.announced
    intro before hlt hother
    rcases (hattribute before).mp hother with rfl | hother
    · exact hsilent
    · exact first.first before hlt hother

theorem succeeds_stringToInt (token : Bytes) : Succeeds (stringToInt token) ↔ Readable token := by
  unfold stringToInt Readable
  cases stringToInt? (Skinny.textOf token) with
  | none => simp
  | some number => simp

/-- The loop ends, and throws only the number of the first attribute that announces. -/
theorem telephoneEventLoop_succeeds (memory : Bytes) (sipEnd : Nat) {fuel : Nat}
    (hfuel : stop < fuel + start) :
    ∃ result, telephoneEventLoop memory sipEnd stop fuel
        (memFindAfter rtpmapLine memory start stop) = some result ∧
      (Succeeds result ↔ ∀ place, FirstAnnounced memory sipEnd (start, stop) place →
        Readable (grabTokenSkipLeadingWhitespaces memory place stop)) := by
  induction fuel generalizing start with
  | zero =>
      have hnone : memFindAfter rtpmapLine memory start stop = none := by
        rcases memFindAfter_cases rtpmapLine_ne memory start stop with
          ⟨front, hlow, hhigh, _⟩ | ⟨hnone, _⟩
        · omega
        · exact hnone
      apply Exists.intro (.ok 0)
      rw [hnone]
      apply And.intro rfl
      simp only [succeeds_ok, true_iff]
      intro place first
      rcases first.isAttribute with ⟨begins, hbegin, hend, _⟩
      dsimp only at hbegin hend
      omega
  | succ fuel ih =>
      rcases memFindAfter_cases rtpmapLine_ne memory start stop with
        ⟨front, hlow, hhigh, hfound, hstarts, hbefore⟩ | ⟨hnone, hnot⟩
      · have hattribute : IsAttribute memory (start, stop) (front + rtpmapLine.length) :=
          ⟨front, hlow, hhigh, hstarts, rfl⟩
        have hleast (place : Nat) (hplace : IsAttribute memory (start, stop) place) :
            front + rtpmapLine.length ≤ place := by
          rcases hplace with ⟨begins, hbegin, _, hline, rfl⟩
          by_contra hlt
          rw [hbefore begins hbegin (by omega)] at hline
          cases hline
        rw [hfound, telephoneEventLoop]
        by_cases hinside : front + rtpmapLine.length < sipEnd
        · rw [if_pos hinside]
          cases hannounced : announces memory sipEnd stop (front + rtpmapLine.length) with
          | true =>
              -- The first one that announces: its number decides.
              apply Exists.intro _
              apply And.intro (if_pos rfl)
              rw [succeeds_stringToInt]
              constructor
              · intro hreadable place first
                have hplace : place = front + rtpmapLine.length := by
                  by_contra hne
                  have hlt := lt_of_le_of_ne (hleast place first.isAttribute) (Ne.symm hne)
                  rw [first.first _ hlt hattribute] at hannounced
                  cases hannounced
                rw [hplace]
                exact hreadable
              · intro hall
                apply hall
                apply FirstAnnounced.mk hattribute hinside hannounced
                intro before hlt hother
                exact absurd (hleast before hother) (Nat.not_le.mpr hlt)
          | false =>
              rw [if_neg Bool.false_ne_true]
              have hlength : 0 < rtpmapLine.length := List.length_pos_of_ne_nil rtpmapLine_ne
              rcases ih (show stop < fuel + (front + rtpmapLine.length) by omega) with
                ⟨result, hresult, hsucceeds⟩
              apply Exists.intro result
              apply And.intro hresult
              rw [hsucceeds]
              apply forall_congr'
              intro place
              rw [firstAnnounced_behind hlow hhigh hstarts hbefore hannounced]
        · rw [if_neg hinside]
          apply Exists.intro (.ok 0)
          apply And.intro rfl
          simp only [succeeds_ok, true_iff]
          intro place first
          have hle := hleast place first.isAttribute
          have hlt := first.inside
          omega
      · rw [hnone]
        apply Exists.intro (.ok 0)
        apply And.intro rfl
        simp only [succeeds_ok, true_iff]
        intro place first
        rcases first.isAttribute with ⟨begins, hbegin, hend, hline, _⟩
        rw [hnot begins hbegin hend] at hline
        cases hline

end

/-! ### The keys -/

section

variable {memory name : Bytes} {size : Nat}

theorem colon_of_found {pos : Nat} (hfound : foundExtractionArea name memory pos = true) :
    memory[pos + name.length]? = some 0x3A := by
  rw [foundExtractionArea, Bool.and_eq_true] at hfound
  exact eq_of_beq hfound.2

/-- The loop over the lines ends. -/
theorem findArea_isSome {fuel : Nat} (hfuel : memory.length < fuel) :
    (findArea name fuel memory size).isSome = true := by
  induction fuel generalizing memory size with
  | zero => cases hfuel
  | succ fuel ih =>
      unfold findArea
      split
      · rfl
      · split
        · rfl
        · dsimp only
          split
          · split <;> rfl
          · split
            · rfl
            · rename_i nextLinePos hline
              apply ih
              rcases List.idxOf?_eq_some_iff.mp hline with ⟨hlt, _⟩
              rw [List.length_take] at hlt
              rw [List.length_drop]
              omega

/-- Behind the first line the view goes up to a zero, where there is no colon. -/
theorem findArea_strlen (fuel : Nat) (memory : Bytes) :
    findArea name fuel memory (strlen memory) ≠ some .outOfRange := by
  induction fuel generalizing memory with
  | zero =>
      intro h
      cases h
  | succ fuel ih =>
      unfold findArea
      split
      · intro h
        cases h
      · split
        · intro h
          cases h
        · rename_i pos hsearch
          dsimp only
          split
          · rename_i hfound
            have hcolon := colon_of_found hfound
            have hend := le_length_of_search hsearch
            rw [List.length_take] at hend
            have hroom : ¬ strlen memory < pos + name.length + 1 := by
              intro hlt
              have heq : pos + name.length = strlen memory := by omega
              rw [heq] at hcolon
              exact getElem?_textOf_length memory hcolon
            rw [if_neg hroom]
            intro h
            cases h
          · split
            · intro h
              cases h
            · exact ih _

/-- Only the colon behind the whole payload is out of range. -/
theorem findArea_outOfRange_iff {fuel : Nat} (hsize : size ≠ 0) :
    findArea name (fuel + 1) memory size = some .outOfRange ↔
      ∃ pos, search name (memory.take size) = some pos ∧
        foundExtractionArea name memory pos = true ∧ pos + name.length = size := by
  rw [findArea, if_neg hsize]
  cases hsearch : search name (memory.take size) with
  | none => simp
  | some pos =>
      have hend := le_length_of_search hsearch
      rw [List.length_take] at hend
      dsimp only
      by_cases hfound : foundExtractionArea name memory pos = true
      · rw [if_pos hfound]
        by_cases hroom : size < pos + name.length + 1
        · rw [if_pos hroom]
          simp only [true_iff]
          exact ⟨pos, rfl, hfound, by omega⟩
        · rw [if_neg hroom]
          simp only [Option.some.injEq, reduceCtorEq, false_iff]
          intro hcut
          rcases hcut with ⟨other, hother, _, hsum⟩
          omega
      · rw [if_neg hfound]
        constructor
        · intro hrange
          cases hline : (memory.take size).idxOf? 0x0A with
          | none =>
              rw [hline] at hrange
              cases hrange
          | some nextLinePos =>
              rw [hline] at hrange
              exact absurd hrange (findArea_strlen _ _)
        · intro hcut
          rcases hcut with ⟨other, hother, hplace, _⟩
          rw [← Option.some.inj hother] at hplace
          exact absurd hplace hfound

theorem extractSearched_cases (memory : Bytes) (hsize : size ≠ 0) {x : Bytes}
    (hfield : standardField x = none) :
    ∃ result, extractSearched memory size x = some result ∧
      (Succeeds result ↔ ¬ CutOff memory size x) := by
  rw [CutOff, extractSearched]
  cases hdot : x.idxOf? 0x2E with
  | none =>
      apply Exists.intro _
      apply And.intro rfl
      simp
  | some dotPosition =>
      simp only [hfield, true_and, Option.some.injEq, exists_eq_left']
      have hrange := @findArea_outOfRange_iff memory (x.take dotPosition) size memory.length hsize
      rw [extractDotted, ← hrange]
      cases harea : findArea (x.take dotPosition) (memory.length + 1) memory size with
      | none =>
          have hsome := @findArea_isSome memory (x.take dotPosition) size _
            (Nat.lt_succ_self memory.length)
          rw [harea] at hsome
          cases hsome
      | some area =>
          cases area with
          | missing => exact ⟨_, rfl, by simp⟩
          | outOfRange => exact ⟨_, rfl, by simp⟩
          | found area size => exact ⟨_, rfl, by simp⟩

/-- The loop over the keys ends, and throws where one of them is cut off. -/
theorem extractKeyValuesData_succeeds (memory : Bytes) (hsize : size ≠ 0) (keys : List Bytes)
    (known : FieldPositions) (map : KeyValueMap) :
    ∃ result, extractKeyValuesData memory size keys known map = some result ∧
      (Succeeds result ↔ ∀ x ∈ keys, ¬ CutOff memory size x) := by
  induction keys generalizing known map with
  | nil => exact ⟨.ok map, rfl, by simp⟩
  | cons x keys ih =>
      rw [extractKeyValuesData, extractKeyValue]
      cases hfield : standardField x with
      | some field =>
          have hwhole : ¬ CutOff memory size x := by
            intro hcut
            cases hfield.symm.trans hcut.1
          simp only [List.forall_mem_cons, hwhole, not_false_eq_true, true_and]
          exact ih _ _
      | none =>
          rcases extractSearched_cases memory hsize hfield with ⟨result, hresult, hsucceeds⟩
          simp only [hresult, Option.map_some]
          cases result with
          | error fault =>
              apply Exists.intro (.error fault)
              apply And.intro rfl
              have hcut : CutOff memory size x := by
                by_contra hwhole
                exact not_succeeds_error fault (hsucceeds.mpr hwhole)
              simp [hcut]
          | ok value =>
              have hwhole := hsucceeds.mp (succeeds_ok value)
              simp only [List.forall_mem_cons, hwhole, not_false_eq_true, true_and]
              exact ih _ _

end

/-! ### The parts -/

theorem succeeds_returned {ε α : Type} {abort : ε → Abort} {result : Except ε α} :
    Succeeds (returned abort (some result)) ↔ Succeeds result := by
  cases result with
  | error e => simp [returned]
  | ok a => simp [returned]

theorem isAttribute_iff (memory : Bytes) (region : Nat × Nat) :
    (∃ place, IsAttribute memory region place) ↔
      (memFindAfter rtpmapLine memory region.1 region.2).isSome = true := by
  rcases memFindAfter_cases rtpmapLine_ne memory region.1 region.2 with
    ⟨front, hlow, hhigh, hfound, hstarts, _⟩ | ⟨hnone, hnot⟩
  · rw [hfound]
    simp only [Option.isSome_some, iff_true]
    exact ⟨_, front, hlow, hhigh, hstarts, rfl⟩
  · rw [hnone]
    simp only [Option.isSome_none, Bool.false_eq_true, iff_false]
    intro hattribute
    rcases hattribute with ⟨_, front, hlow, hhigh, hstarts, _⟩
    rw [hnot front hlow hhigh] at hstarts
    cases hstarts

theorem telephoneEventPayloadType_succeeds (cfg : InviteConfig) (memory : Bytes) (sipEnd : Nat)
    (region : Nat × Nat) : Succeeds (telephoneEventPayloadType cfg memory sipEnd region) ↔
      (cfg.rtpReportDtmf = true → ∀ place, FirstAnnounced memory sipEnd region place →
        Readable (grabTokenSkipLeadingWhitespaces memory place region.2)) := by
  rw [telephoneEventPayloadType, succeeds_if]
  have hfuel : region.2 < region.2 + 1 + region.1 := by omega
  rcases telephoneEventLoop_succeeds memory sipEnd hfuel with
    ⟨result, hresult, hsucceeds⟩
  rw [hresult, succeeds_returned, hsucceeds]
  simp

theorem orekaRtpPayloadTypeMap_succeeds (memory : Bytes) (region : Nat × Nat) :
    Succeeds (orekaRtpPayloadTypeMap memory region) ↔
      ((∃ place, IsAttribute memory region place) →
        NumbersRead (heardParts ((memory.take region.2).drop region.1))) := by
  rw [orekaRtpPayloadTypeMap, succeeds_if, isAttribute_iff, getDynamicPayloadMapping_eq,
    succeeds_returned]
  simp only [succeeds_ok, implies_true, and_true]
  apply imp_congr_right
  intro _
  constructor
  · intro hsucceeds
    rcases hsucceeds with ⟨next, hnext⟩
    exact numbersRead_of_foldlM List.length_replicate hnext
  · intro hread
    rcases foldlM_mapPart hread List.length_replicate with ⟨next, hnext, _⟩
    exact ⟨next, hnext⟩

/-! ### The whole -/

theorem succeeds_bind_both {α β : Type} {x : Except Abort α} {f : α → Except Abort β} {p : Prop}
    (hrest : ∀ a, Succeeds (f a) ↔ p) : Succeeds (x >>= f) ↔ Succeeds x ∧ p := by
  rw [succeeds_bind]
  constructor
  · intro hboth
    rcases hboth with ⟨a, ha, hnext⟩
    exact ⟨⟨a, ha⟩, (hrest a).mp hnext⟩
  · intro hboth
    rcases hboth with ⟨⟨a, ha⟩, hp⟩
    exact ⟨a, ha, (hrest a).mpr hp⟩

/-- `TrySipInvite` returns a boolean if and only if the packet is not taken for one of the
methods, or none of its keys is cut off and each number that is asked for can be read. -/
theorem trySipInvite_returns_iff (cfg : InviteConfig) (packet : Datagram) :
    (∃ result, trySipInvite cfg packet = .ok result) ↔
      (packet.sipMethod cfg ≠ none → Harmless cfg packet (packet.sipEnd cfg).toNat
        (audioSdp packet.memory (packet.sipEnd cfg).toNat)) := by
  change Succeeds (trySipInvite cfg packet) ↔ _
  unfold trySipInvite
  cases hmethod : packet.sipMethod cfg with
  | none => simp
  | some sipMethod =>
      have hsize : packet.sipLength.toNat ≠ 0 := by
        intro hzero
        rw [Datagram.sipMethod, if_pos (.inl (by omega))] at hmethod
        cases hmethod
      rcases extractKeyValuesData_succeeds packet.memory hsize cfg.sipExtractKeyValues
        (sipFieldPointersArray packet.memory (packet.sipEnd cfg).toNat)
        (extractFields packet.memory (packet.sipEnd cfg).toNat cfg.sipExtractFields) with
        ⟨result, hresult, hkeys⟩
      dsimp only
      rw [hresult, succeeds_bind_both fun _ => succeeds_bind_both fun _ =>
        succeeds_bind_both fun _ => iff_of_true (succeeds_ok _) trivial, succeeds_returned, hkeys,
        telephoneEventPayloadType_succeeds, orekaRtpPayloadTypeMap_succeeds]
      simp only [ne_eq, reduceCtorEq, not_false_eq_true, true_implies, and_true]
      constructor
      · intro hall
        exact ⟨hall.1, hall.2.1, hall.2.2⟩
      · intro harmless
        exact ⟨harmless.keys, harmless.telephoneEvent, harmless.numbers⟩

/-- An INVITE with a payload type that is no number. -/
def unreadable : Datagram :=
  let payload := ascii "INVITE x
a=rtpmap:x
"
  { memory := payload, len := payload.length + 8, captured := payload.length }

/-- The number of the attribute is thrown. -/
theorem trySipInvite_throws :
    trySipInvite {} unreadable = .error (.thrown "StringToInt: invalid integer:x") := by
  decide +kernel

end OrkAudio.SipInvite
