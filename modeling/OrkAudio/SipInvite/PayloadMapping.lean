import OrkAudio.Lib.ByteSearch
import OrkAudio.Lib.Lines
import OrkAudio.Skinny.Layout
import OrkAudio.StdString

/-! `GetDynamicPayloadMapping`: what an SDP text says of the dynamic payload types.

A text is the memory from `start` to `stop`. The tokens read the byte at `stop` as well, and
compare the place with it before they use what they have read. -/

namespace OrkAudio.SipInvite

open Lib

/-! ### The search -/

def rtpmap : Bytes := ascii "a=rtpmap:"

/-- `strncasecmp` with no more characters than are left of the text. -/
def matchesHere (toFind text : Bytes) : Bool := startsWithNoCase (toFind.take text.length) text

/-- The places at which `memchr` stops. -/
def memFindNext (toFind : Bytes) : Bytes → Option Bytes
  | [] => none
  | c :: text =>
      if toFind.head? = some c ∧ matchesHere toFind (c :: text) = true then some (c :: text)
      else memFindNext toFind text

/-- `memFindStr`: the text from the place that it finds. -/
def memFindStr (toFind : Bytes) : Bytes → Option Bytes
  | [] => none
  | c :: text =>
      if matchesHere toFind (c :: text) = true then some (c :: text) else memFindNext toFind text

def isLineEnd (c : UInt8) : Bool := c == 0 || c == 0x0D || c == 0x0A

def grabTokenAcceptSpace (text : Bytes) : Bytes := text.takeWhile fun c => !isLineEnd c

def grabToken (text : Bytes) : Bytes := text.takeWhile fun c => !(c == 0x20 || isLineEnd c)

/-! ### The codecs -/

def toUpper (c : UInt8) : UInt8 := if 97 ≤ c ∧ c ≤ 122 then c - 32 else c

/-- `ciFind(..) != npos`. -/
def ciContains (haystack : Bytes) (needle : String) : Bool :=
  decide ((ascii needle).map toUpper <:+: haystack.map toUpper)

/-- The codecs in the order in which they are looked for. The last but one has no type, but is
no "G726-32" either. -/
def rtpCodecs : List (String × UInt8) :=
  [("opus", 60), ("AMR/8000", 61), ("AMR-WB", 62), ("iLBC", 63), ("SILK/8000", 64),
    ("SILK/16000", 64), ("speex", 66), ("telephone-event", 67), ("AAL2-G726-32", 0),
    ("G726-32", 2)]

def getOrekaRtpPayloadTypeForSdpRtpMap (sdp : Bytes) : UInt8 :=
  ((rtpCodecs.find? fun codec => ciContains sdp codec.1).map Prod.snd).getD 0

/-! ### The mapping -/

/-- The number behind the attribute, -1 where there is none. -/
def plType (plStr : Bytes) : Except String Int :=
  if plStr = [] then .ok (-1)
  else
    match stringToInt? (Skinny.textOf plStr) with
    | some number => .ok number
    | none => .error ("StringToInt: invalid integer:" ++ Skinny.textOf plStr)

/-- What the loop does with a line and its number. -/
def mapLine (fullLine plStr : Bytes) (map : List UInt8) : Except String (List UInt8) :=
  match plType plStr with
  | .error text => .error text
  | .ok number =>
      if 95 < number ∧ number < 127 then
        let orekaPayloadType := getOrekaRtpPayloadTypeForSdpRtpMap fullLine
        if orekaPayloadType ≠ 0 ∧ map[(number - 96).toNat]? ≠ some orekaPayloadType then
          .ok (map.set (number - 96).toNat orekaPayloadType)
        else .ok map
      else .ok map

/-- The loop, none when it has run out of `fuel`. -/
def mappingLoop : Nat → Option Bytes → List UInt8 → Option (Except String (List UInt8))
  | _, none, map => some (.ok map)
  | 0, some _, _ => none
  | fuel + 1, some rtpmapPos, map =>
      let fullLine := grabTokenAcceptSpace rtpmapPos
      match mapLine fullLine (grabToken (rtpmapPos.drop rtpmap.length)) map with
      | .error text => some (.error text)
      | .ok next => mappingLoop fuel (memFindStr rtpmap (rtpmapPos.drop fullLine.length)) next

def getDynamicPayloadMapping (text : Bytes) (map : List UInt8) :
    Option (Except String (List UInt8)) :=
  mappingLoop (text.length + 1) (memFindStr rtpmap text) map

/-! ### The lines -/

def sdpLines (text : Bytes) : List Bytes := text.splitOnP isLineEnd

/-- The part of a line that the loop reads, from the first attribute in it on. -/
def heardPart : Bytes → Option Bytes
  | [] => none
  | c :: line =>
      if rtpmap.head? = some c ∧ startsWithNoCase rtpmap (c :: line) = true then some (c :: line)
      else heardPart line

/-- At the front of the text the attribute may begin with a capital letter. -/
def heardFirst (line : Bytes) : Option Bytes :=
  if startsWithNoCase rtpmap line = true then some line else heardPart line

def heardIn : List Bytes → List Bytes
  | [] => []
  | first :: others => (heardFirst first).toList ++ others.filterMap heardPart

def heardParts (text : Bytes) : List Bytes := heardIn (sdpLines text)

/-- The token behind the attribute. -/
def numberToken (line : Bytes) : Bytes := grabToken (line.drop rtpmap.length)

/-- The type that the loop takes from a part for a payload type. -/
def heardType (p : Nat) (part : Bytes) : Option UInt8 :=
  if plType (numberToken part) = .ok (p : Int) ∧ 95 < p ∧ p < 127 ∧
      getOrekaRtpPayloadTypeForSdpRtpMap part ≠ 0 then
    some (getOrekaRtpPayloadTypeForSdpRtpMap part)
  else none

/-- The type that a line names for a payload type. -/
def saidType (p : Nat) (line : Bytes) : Option UInt8 :=
  if rtpmap <+: line ∧ numberToken line = ascii (toString p) ∧
      getOrekaRtpPayloadTypeForSdpRtpMap line ≠ 0 then
    some (getOrekaRtpPayloadTypeForSdpRtpMap line)
  else none

/-- The last type that is found, or else what the map has. -/
def lastType (type : Bytes → Option UInt8) (lines : List Bytes) (map : List UInt8) (p : Nat) :
    Option UInt8 := (lines.filterMap type).getLast?.or map[p - 96]?

/-! ### Finding line by line -/

section

variable {pattern line rest text : Bytes} {c : UInt8}

theorem length_le_of_startsWithNoCase (hstarts : startsWithNoCase pattern text = true) :
    pattern.length ≤ text.length := by
  induction pattern generalizing text with
  | nil => exact Nat.zero_le _
  | cons p pattern ih =>
      cases text with
      | nil => cases hstarts
      | cons c text =>
          rw [startsWithNoCase, Bool.and_eq_true] at hstarts
          exact Nat.succ_le_succ (ih hstarts.2)

/-- A pattern without a byte that ends the line is found in the line or not at all. -/
theorem startsWithNoCase_line (hother : ∀ p ∈ pattern, toLower p ≠ toLower c) :
    startsWithNoCase pattern (line ++ c :: rest) = startsWithNoCase pattern line := by
  induction pattern generalizing line with
  | nil => rfl
  | cons p pattern ih =>
      cases line with
      | nil => exact startsWithNoCase_of_head_ne (hother p List.mem_cons_self)
      | cons d line =>
          rw [List.cons_append, startsWithNoCase, startsWithNoCase,
            ih fun q hq => hother q (List.mem_cons_of_mem _ hq)]

theorem rtpmap_not_lineEnd (hend : isLineEnd c = true) : ∀ p ∈ rtpmap, toLower p ≠ toLower c := by
  have hcases : c = 0 ∨ c = 0x0D ∨ c = 0x0A := by simpa [isLineEnd, or_assoc] using hend
  rcases hcases with rfl | rfl | rfl <;> decide +kernel

theorem matchesHere_line (hend : isLineEnd c = true) :
    matchesHere rtpmap (line ++ c :: rest) = startsWithNoCase rtpmap line := by
  have hother : ∀ p ∈ rtpmap.take (line ++ c :: rest).length, toLower p ≠ toLower c :=
    fun p hp => rtpmap_not_lineEnd hend p (List.mem_of_mem_take hp)
  rw [matchesHere, startsWithNoCase_line hother]
  by_cases hroom : rtpmap.length ≤ (line ++ c :: rest).length
  · rw [List.take_of_length_le hroom]
  · have hshort : ¬ (rtpmap.take (line ++ c :: rest).length).length ≤ line.length := by
      rw [List.length_take, List.length_append, List.length_cons] at *
      omega
    have hlong : ¬ rtpmap.length ≤ line.length := by
      rw [List.length_append] at hroom
      omega
    rw [Bool.eq_false_iff.mpr fun h => hshort (length_le_of_startsWithNoCase h),
      Bool.eq_false_iff.mpr fun h => hlong (length_le_of_startsWithNoCase h)]

theorem matchesHere_lineEnd (hend : isLineEnd c = true) :
    matchesHere rtpmap (c :: rest) = false := by
  rw [← List.nil_append (c :: rest), matchesHere_line hend]
  rfl

theorem memFindStr_lineEnd (hend : isLineEnd c = true) :
    memFindStr rtpmap (c :: rest) = memFindNext rtpmap rest := by
  rw [memFindStr, matchesHere_lineEnd hend, if_neg Bool.false_ne_true]

theorem memFindNext_line (hend : isLineEnd c = true) :
    memFindNext rtpmap (line ++ c :: rest) =
      ((heardPart line).map (· ++ c :: rest)).or (memFindNext rtpmap rest) := by
  induction line with
  | nil =>
      rw [List.nil_append, memFindNext, matchesHere_lineEnd hend, if_neg fun h => by cases h.2]
      rfl
  | cons d line ih =>
      rw [List.cons_append, memFindNext, ← List.cons_append, matchesHere_line hend, heardPart]
      split
      · rfl
      · exact ih

/-! ### The last line -/

theorem matchesHere_of_le (hroom : rtpmap.length ≤ text.length) :
    matchesHere rtpmap text = startsWithNoCase rtpmap text := by
  rw [matchesHere, List.take_of_length_le hroom]

theorem heardPart_some {part : Bytes} (hheard : heardPart line = some part) :
    part <:+ line ∧ startsWithNoCase rtpmap part = true := by
  induction line with
  | nil => cases hheard
  | cons d line ih =>
      rw [heardPart] at hheard
      split at hheard
      · rename_i hhere
        cases hheard
        exact ⟨List.suffix_refl _, hhere.2⟩
      · obtain ⟨hsuffix, hstarts⟩ := ih hheard
        exact ⟨hsuffix.trans (List.suffix_cons d line), hstarts⟩

theorem heardPart_of_short (hshort : line.length < rtpmap.length) : heardPart line = none := by
  cases hheard : heardPart line with
  | none => rfl
  | some part =>
      obtain ⟨hsuffix, hstarts⟩ := heardPart_some hheard
      have hle := (length_le_of_startsWithNoCase hstarts).trans hsuffix.length_le
      exact absurd hle (by omega)

/-- At the end of the text the beginning of an attribute is found too. -/
theorem memFindNext_last (line : Bytes) :
    memFindNext rtpmap line = heardPart line ∨
      heardPart line = none ∧ ∃ short, memFindNext rtpmap line = some short ∧
        short <:+ line ∧ short.length < rtpmap.length := by
  induction line with
  | nil => exact .inl rfl
  | cons d line ih =>
      rw [memFindNext, heardPart]
      by_cases hroom : rtpmap.length ≤ (d :: line).length
      · rw [matchesHere_of_le hroom]
        split
        · exact .inl rfl
        · rcases ih with hsame | ⟨hnone, short, hfound, hsuffix, hshort⟩
          · exact .inl hsame
          · exact .inr ⟨hnone, short, hfound, hsuffix.trans (List.suffix_cons d line), hshort⟩
      · have hfull : ¬ (rtpmap.head? = some d ∧ startsWithNoCase rtpmap (d :: line) = true) :=
          fun h => hroom (length_le_of_startsWithNoCase h.2)
        rw [if_neg hfull]
        split
        · refine .inr ⟨heardPart_of_short ?_, _, rfl, List.suffix_refl _, by omega⟩
          rw [List.length_cons] at hroom
          omega
        · rcases ih with hsame | ⟨hnone, short, hfound, hsuffix, hshort⟩
          · exact .inl hsame
          · exact .inr ⟨hnone, short, hfound, hsuffix.trans (List.suffix_cons d line), hshort⟩

/-! ### The loop -/

variable {fuel : Nat} {map : List UInt8}

theorem mappingLoop_none : mappingLoop fuel none map = some (.ok map) := by
  cases fuel <;> rfl

/-- What the loop does with a part of a line. -/
def mapPart (map : List UInt8) (part : Bytes) : Except String (List UInt8) :=
  mapLine part (numberToken part) map

theorem mappingLoop_short (hfree : ∀ d ∈ text, isLineEnd d = false)
    (hshort : text.length < rtpmap.length) :
    mappingLoop (fuel + 1) (some text) map = some (.ok map) := by
  have hline : grabTokenAcceptSpace text = text := by
    apply List.takeWhile_eq_self_iff.mpr
    simpa using hfree
  rw [mappingLoop, hline, List.drop_eq_nil_of_le hshort.le, List.drop_length]
  exact mappingLoop_none

theorem grabToken_append (hrest : ∀ d ∈ rest.head?, isLineEnd d = true) :
    grabToken (line ++ rest) = grabToken line := by
  have hnone : rest.takeWhile (fun c => !(c == 0x20 || isLineEnd c)) = [] := by
    cases rest with
    | nil => rfl
    | cons d rest => exact List.takeWhile_cons_of_neg (by simp [hrest d rfl])
  rw [grabToken, grabToken, List.takeWhile_append, hnone, List.append_nil]
  split
  · rename_i hall
    exact ((List.takeWhile_prefix _).eq_of_length hall).symm
  · rfl

/-- A part, and what the rest of the text behind its line makes of any map. -/
theorem mappingLoop_cons {part : Bytes} {parts : List Bytes}
    (hfree : ∀ d ∈ part, isLineEnd d = false) (hstarts : startsWithNoCase rtpmap part = true)
    (hrest : ∀ d ∈ rest.head?, isLineEnd d = true)
    (hothers : ∀ next, mappingLoop fuel (memFindStr rtpmap rest) next =
      some (parts.foldlM mapPart next)) :
    mappingLoop (fuel + 1) (some (part ++ rest)) map =
      some ((part :: parts).foldlM mapPart map) := by
  have hline : grabTokenAcceptSpace (part ++ rest) = part := takeWhile_line hfree hrest
  have hpart : mapLine part (grabToken (part.drop rtpmap.length)) map = mapPart map part := rfl
  rw [mappingLoop, hline, List.drop_append_of_le_length (length_le_of_startsWithNoCase hstarts),
    grabToken_append hrest, List.drop_left, hpart, List.foldlM_cons]
  cases mapPart map part with
  | error text => rfl
  | ok next => exact hothers next

/-- A part that ends the text. -/
theorem mappingLoop_single {part : Bytes} (hfree : ∀ d ∈ part, isLineEnd d = false)
    (hstarts : startsWithNoCase rtpmap part = true) :
    mappingLoop (fuel + 1) (some part) map = some ([part].foldlM mapPart map) := by
  have hloop := @mappingLoop_cons [] fuel map part [] hfree hstarts (by simp)
    fun next => mappingLoop_none
  rwa [List.append_nil] at hloop

theorem free_of_suffix {part : Bytes} (hsuffix : part <:+ line)
    (hfree : ∀ d ∈ line, isLineEnd d = false) : ∀ d ∈ part, isLineEnd d = false :=
  fun d hd => hfree d (hsuffix.subset hd)

/-- What is left of the text, where the attribute begins with a small letter. -/
theorem mappingLoop_next (text : Bytes) (hfuel : text.length < fuel) :
    mappingLoop fuel (memFindNext rtpmap text) map =
      some (((sdpLines text).filterMap heardPart).foldlM mapPart map) := by
  induction text using @lines_induction _ isLineEnd generalizing fuel map with
  | last line hfree =>
      obtain ⟨fuel, rfl⟩ := Nat.exists_eq_succ_of_ne_zero (Nat.ne_zero_of_lt hfuel)
      rw [sdpLines, splitOnP_line hfree]
      rcases memFindNext_last line with hsame | ⟨hnone, short, hfound, hsuffix, hshort⟩
      · rw [hsame]
        cases hheard : heardPart line with
        | none =>
            rw [List.filterMap_cons_none hheard]
            exact mappingLoop_none
        | some part =>
            obtain ⟨hsuffix, hstarts⟩ := heardPart_some hheard
            rw [List.filterMap_cons_some hheard]
            exact mappingLoop_single (free_of_suffix hsuffix hfree) hstarts
      · rw [hfound, List.filterMap_cons_none hnone]
        exact mappingLoop_short (free_of_suffix hsuffix hfree) hshort
  | step line c rest hfree hend ih =>
      have hroom : rest.length + 1 < fuel := by
        rw [List.length_append, List.length_cons] at hfuel
        omega
      rw [sdpLines, splitOnP_line_cons hfree hend, memFindNext_line hend]
      cases hheard : heardPart line with
      | none =>
          rw [List.filterMap_cons_none hheard]
          exact ih (by omega)
      | some part =>
          obtain ⟨fuel, rfl⟩ := Nat.exists_eq_succ_of_ne_zero (Nat.ne_zero_of_lt hfuel)
          obtain ⟨hsuffix, hstarts⟩ := heardPart_some hheard
          rw [List.filterMap_cons_some hheard]
          apply mappingLoop_cons (free_of_suffix hsuffix hfree) hstarts (by simpa using hend)
          intro next
          rw [memFindStr_lineEnd hend]
          exact ih (by omega)

theorem heardFirst_of_starts (hstarts : startsWithNoCase rtpmap line = true) :
    heardFirst line = some line := if_pos hstarts

theorem heardFirst_cons {d : UInt8} (hstarts : ¬ startsWithNoCase rtpmap (d :: line) = true) :
    heardFirst (d :: line) = heardPart line := by
  rw [heardFirst, if_neg hstarts, heardPart, if_neg fun h => hstarts h.2]

/-- A text of one line. -/
theorem mapping_last (hfree : ∀ d ∈ line, isLineEnd d = false) :
    getDynamicPayloadMapping line map = some ((heardIn [line]).foldlM mapPart map) := by
  rw [heardIn, List.filterMap_nil, List.append_nil, getDynamicPayloadMapping]
  cases line with
  | nil => rfl
  | cons d line =>
      rw [memFindStr]
      by_cases hstarts : startsWithNoCase rtpmap (d :: line) = true
      · have hhere : matchesHere rtpmap (d :: line) = true := by
          rw [matchesHere_of_le (length_le_of_startsWithNoCase hstarts), hstarts]
        rw [if_pos hhere, heardFirst_of_starts hstarts]
        exact mappingLoop_single hfree hstarts
      · rw [heardFirst_cons hstarts]
        split
        · rename_i hhere
          have hshort : (d :: line).length < rtpmap.length := by
            by_contra hroom
            exact hstarts ((matchesHere_of_le (Nat.le_of_not_lt hroom)).symm.trans hhere)
          rw [heardPart_of_short (Nat.lt_of_succ_lt hshort)]
          exact mappingLoop_short hfree hshort
        · have hrest : ∀ e ∈ line, isLineEnd e = false :=
            fun e he => hfree e (List.mem_cons_of_mem d he)
          have hloop := @mappingLoop_next ((d :: line).length + 1) map line (by simp)
          rw [sdpLines, splitOnP_line hrest] at hloop
          rw [hloop]
          cases hheard : heardPart line with
          | none => rw [List.filterMap_cons_none hheard]; rfl
          | some part => rw [List.filterMap_cons_some hheard]; rfl

/-- A text of a first line and others. -/
theorem mapping_step (hfree : ∀ d ∈ line, isLineEnd d = false) (hend : isLineEnd c = true) :
    getDynamicPayloadMapping (line ++ c :: rest) map =
      some ((heardIn (line :: sdpLines rest)).foldlM mapPart map) := by
  rw [heardIn, getDynamicPayloadMapping]
  cases line with
  | nil =>
      rw [List.nil_append, memFindStr_lineEnd hend]
      exact mappingLoop_next rest (by simp)
  | cons d line =>
      rw [List.cons_append, memFindStr, ← List.cons_append, matchesHere_line hend]
      by_cases hstarts : startsWithNoCase rtpmap (d :: line) = true
      · rw [if_pos hstarts, heardFirst_of_starts hstarts]
        apply mappingLoop_cons hfree hstarts (by simpa using hend)
        intro next
        rw [memFindStr_lineEnd hend]
        apply mappingLoop_next rest
        simp only [List.length_append, List.length_cons]
        omega
      · have hrest : ∀ e ∈ line, isLineEnd e = false :=
          fun e he => hfree e (List.mem_cons_of_mem d he)
        have hloop := @mappingLoop_next ((d :: line ++ c :: rest).length + 1) map
          (line ++ c :: rest) (by simp)
        rw [sdpLines, splitOnP_line_cons hrest hend] at hloop
        rw [if_neg hstarts, heardFirst_cons hstarts, hloop]
        cases hheard : heardPart line with
        | none => rw [List.filterMap_cons_none hheard]; rfl
        | some part => rw [List.filterMap_cons_some hheard]; rfl

/-- The loop ends, and reads the lines of the text one after the other. -/
theorem getDynamicPayloadMapping_eq (text : Bytes) (map : List UInt8) :
    getDynamicPayloadMapping text map = some ((heardParts text).foldlM mapPart map) := by
  induction text using @lines_induction _ isLineEnd with
  | last line hfree =>
      rw [heardParts, sdpLines, splitOnP_line hfree]
      exact mapping_last hfree
  | step line c rest hfree hend _ =>
      rw [heardParts, sdpLines, splitOnP_line_cons hfree hend]
      exact mapping_step hfree hend

/-! ### The map -/

theorem heardType_of_ne {part : Bytes} {number : Int} {p : Nat}
    (hnumber : plType (numberToken part) = .ok number)
    (hother : ¬ (number = p ∧ 95 < number ∧ number < 127 ∧
      getOrekaRtpPayloadTypeForSdpRtpMap part ≠ 0)) : heardType p part = none := by
  apply if_neg
  rintro ⟨hheard, hlow, hhigh, htype⟩
  rw [hnumber, Except.ok.injEq] at hheard
  exact hother ⟨hheard, by omega, by omega, htype⟩

theorem heardType_of_eq {part : Bytes} {p : Nat} (hnumber : plType (numberToken part) = .ok (p : Int))
    (hlow : 95 < p) (hhigh : p < 127) (htype : getOrekaRtpPayloadTypeForSdpRtpMap part ≠ 0) :
    heardType p part = some (getOrekaRtpPayloadTypeForSdpRtpMap part) :=
  if_pos ⟨hnumber, hlow, hhigh, htype⟩

/-- What a part changes in the map. -/
theorem mapPart_eq {part : Bytes} {number : Int} (hnumber : plType (numberToken part) = .ok number)
    (hsize : map.length = 32) : ∃ next, mapPart map part = .ok next ∧ next.length = 32 ∧
      ∀ p, 96 ≤ p → p ≤ 127 → next[p - 96]? = (heardType p part).or map[p - 96]? := by
  rw [mapPart, mapLine, hnumber]
  dsimp only
  by_cases hrange : 95 < number ∧ number < 127
  · rw [if_pos hrange]
    obtain ⟨q, rfl⟩ := Int.eq_ofNat_of_zero_le (by omega : 0 ≤ number)
    have hplace : ((q : Int) - 96).toNat = q - 96 := by omega
    rw [hplace]
    by_cases hset : getOrekaRtpPayloadTypeForSdpRtpMap part ≠ 0 ∧
        map[q - 96]? ≠ some (getOrekaRtpPayloadTypeForSdpRtpMap part)
    · rw [if_pos hset]
      refine ⟨_, rfl, by rw [List.length_set, hsize], fun p hlow hhigh => ?_⟩
      by_cases heq : q = p
      · rw [← heq, heardType_of_eq hnumber (by omega) (by omega) hset.1]
        exact List.getElem?_set_self (by omega)
      · rw [heardType_of_ne hnumber fun h => heq (by omega)]
        exact List.getElem?_set_ne (by omega)
    · rw [if_neg hset]
      refine ⟨_, rfl, hsize, fun p hlow hhigh => ?_⟩
      by_cases hheard : q = p ∧ getOrekaRtpPayloadTypeForSdpRtpMap part ≠ 0
      · obtain ⟨rfl, htype⟩ := hheard
        rw [heardType_of_eq hnumber (by omega) (by omega) htype, Option.some_or]
        by_contra hother
        exact hset ⟨htype, hother⟩
      · rw [heardType_of_ne hnumber fun h => hheard ⟨by omega, h.2.2.2⟩, Option.none_or]
  · rw [if_neg hrange]
    refine ⟨_, rfl, hsize, fun p hlow hhigh => ?_⟩
    rw [heardType_of_ne hnumber fun h => hrange ⟨h.2.1, h.2.2.1⟩, Option.none_or]

/-- Every number that is found is one, or missing. -/
def NumbersRead (parts : List Bytes) : Prop :=
  ∀ part ∈ parts, ∃ number, plType (numberToken part) = .ok number

theorem mapPart_error {part : Bytes} {message : String}
    (hnumber : plType (numberToken part) = .error message) : mapPart map part = .error message := by
  rw [mapPart, mapLine, hnumber]

theorem numbersRead_of_foldlM {parts : List Bytes} {next : List UInt8}
    (hsize : map.length = 32) (hmap : parts.foldlM mapPart map = .ok next) : NumbersRead parts := by
  induction parts generalizing map with
  | nil => exact fun part hpart => absurd hpart (by simp)
  | cons part parts ih =>
      rw [List.foldlM_cons] at hmap
      cases hnumber : plType (numberToken part) with
      | error message =>
          rw [mapPart_error hnumber] at hmap
          cases hmap
      | ok number =>
          obtain ⟨after, hafter, hlength, -⟩ := mapPart_eq hnumber hsize
          rw [hafter] at hmap
          intro other hother
          rcases List.mem_cons.mp hother with rfl | hrest
          · exact ⟨number, hnumber⟩
          · exact ih hlength hmap other hrest

theorem lastType_cons (type : Bytes → Option UInt8) (part : Bytes) (parts : List Bytes)
    (map next : List UInt8) (p : Nat) (hnext : next[p - 96]? = (type part).or map[p - 96]?) :
    lastType type parts next p = lastType type (part :: parts) map p := by
  rw [lastType, lastType, hnext]
  cases htype : type part with
  | none => rw [List.filterMap_cons_none htype, Option.none_or]
  | some t =>
      rw [List.filterMap_cons_some htype, List.getLast?_cons]
      cases (parts.filterMap type).getLast? with
      | none => rfl
      | some last => rfl

/-- Where all numbers are read, every entry of the map is the last one heard. -/
theorem foldlM_mapPart {parts : List Bytes} (hread : NumbersRead parts) (hsize : map.length = 32) :
    ∃ next, parts.foldlM mapPart map = .ok next ∧
      ∀ p, 96 ≤ p → p ≤ 127 → next[p - 96]? = lastType (heardType p) parts map p := by
  induction parts generalizing map with
  | nil => exact ⟨map, rfl, fun p _ _ => rfl⟩
  | cons part parts ih =>
      obtain ⟨number, hnumber⟩ := hread part List.mem_cons_self
      obtain ⟨after, hafter, hlength, hentries⟩ := mapPart_eq hnumber hsize
      obtain ⟨next, hnext, hlast⟩ :=
        ih (fun other hother => hread other (List.mem_cons_of_mem _ hother)) hlength
      refine ⟨next, ?_, fun p hlow hhigh => ?_⟩
      · rw [List.foldlM_cons, hafter]
        exact hnext
      · rw [hlast p hlow hhigh]
        exact lastType_cons _ _ _ _ _ _ (hentries p hlow hhigh)

/-- The loop gives every dynamic payload type the codec of its last line with a supported one,
exactly where every number that it finds can be read and the last attribute that it takes for a
payload type, if there is any, names what the last line for it names; for 127 it takes none. -/
theorem getDynamicPayloadMapping_iff (text : Bytes) (hsize : map.length = 32) :
    (∃ next, getDynamicPayloadMapping text map = some (.ok next) ∧
      ∀ p, 96 ≤ p → p ≤ 127 → next[p - 96]? = lastType (saidType p) (sdpLines text) map p) ↔
    NumbersRead (heardParts text) ∧ ∀ p, 96 ≤ p → p ≤ 127 →
      lastType (heardType p) (heardParts text) map p =
        lastType (saidType p) (sdpLines text) map p := by
  rw [getDynamicPayloadMapping_eq]
  constructor
  · rintro ⟨next, hnext, hsaid⟩
    have hmap := Option.some.inj hnext
    have hread := numbersRead_of_foldlM hsize hmap
    refine ⟨hread, fun p hlow hhigh => ?_⟩
    obtain ⟨other, hother, hheard⟩ := foldlM_mapPart hread hsize
    cases hother.symm.trans hmap
    rw [← hheard p hlow hhigh, hsaid p hlow hhigh]
  · rintro ⟨hread, hagree⟩
    obtain ⟨next, hnext, hheard⟩ := foldlM_mapPart hread hsize
    refine ⟨next, by rw [hnext], fun p hlow hhigh => ?_⟩
    rw [hheard p hlow hhigh, hagree p hlow hhigh]

end

section

/-- The map of a new session. -/
private def freshMap : List UInt8 := (List.range 32).map fun i => UInt8.ofNat (i + 96)

private def opusText : Bytes := ascii "v=0\r\nm=audio 4000 RTP/AVP 96\r\na=rtpmap:96 opus/48000/2\r\n"

theorem getDynamicPayloadMapping_opus :
    ∃ next, getDynamicPayloadMapping opusText freshMap = some (.ok next) ∧
      ∀ p, 96 ≤ p → p ≤ 127 →
        next[p - 96]? = lastType (saidType p) (sdpLines opusText) freshMap p := by
  apply (getDynamicPayloadMapping_iff opusText (by decide +kernel)).mpr
  refine ⟨?_, fun p hlow hhigh => ?_⟩
  · have hparts : heardParts opusText = [ascii "a=rtpmap:96 opus/48000/2"] := by decide +kernel
    rw [hparts]
    intro part hpart
    rw [List.mem_singleton.mp hpart]
    exact ⟨96, by decide +kernel⟩
  · have hall : ∀ p ∈ List.range 128, lastType (heardType p) (heardParts opusText) freshMap p =
        lastType (saidType p) (sdpLines opusText) freshMap p := by decide +kernel
    exact hall p (List.mem_range.mpr (by omega))

/-- The highest dynamic payload type is left out. -/
theorem getDynamicPayloadMapping_highest : ¬ ∀ (text : Bytes) (map : List UInt8),
    map.length = 32 → ∃ next, getDynamicPayloadMapping text map = some (.ok next) ∧
      ∀ p, 96 ≤ p → p ≤ 127 → next[p - 96]? = lastType (saidType p) (sdpLines text) map p := by
  intro hall
  obtain ⟨next, hnext, hsaid⟩ := hall (ascii "a=rtpmap:127 opus/48000/2") freshMap
    (by decide +kernel)
  have hleft : getDynamicPayloadMapping (ascii "a=rtpmap:127 opus/48000/2") freshMap =
      some (.ok freshMap) := by decide +kernel
  cases hleft.symm.trans hnext
  exact absurd (hsaid 127 (by omega) (by omega)) (by decide +kernel)

end

end OrkAudio.SipInvite
