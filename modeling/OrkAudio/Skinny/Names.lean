import OrkAudio.Skinny.Texts

/-! The names of a CallInfo on their way to the sessions.

A phone sends them in Windows-1251, where a Cyrillic letter is one byte. In UTF-8 it takes
two, and the field stays as long as it was. -/

namespace OrkAudio.Skinny

open Lib VoIp

/-! ### UTF-8 -/

/-- The letter of a char of Windows-1251: Cyrillic letters are in the order of Unicode. -/
def win1251Char (c : UInt8) : Char :=
  if 191 < c then Char.ofNat (0x410 + (c.toNat - 192)) else Char.ofNat c.toNat

def utf8 (name : List UInt8) : List UInt8 :=
  name.flatMap fun c => String.utf8EncodeChar (win1251Char c)

/-- What a conversion puts in the place of a char. -/
def converted (c : UInt8) : List UInt8 := if 191 < c then utf c else [c]

/-- What is to be known of the conversion of a char, as a check. -/
def convertedWell (c : UInt8) : Bool :=
  !isPartyChar c || (decide (converted c = String.utf8EncodeChar (win1251Char c)) &&
    (converted c).all (· != 0) && (decide (c ≤ 191) || (converted c).any fun b => !isPartyChar b))

theorem convertedWell_table : ∀ n < 256, convertedWell (UInt8.ofNat n) = true := by
  decide +kernel

/-- The table holds the UTF-8 encodings of the letters. No byte of one is zero, and one of
the two bytes of a Cyrillic letter is no letter itself. -/
theorem converted_facts {c : UInt8} (hc : isPartyChar c = true) :
    converted c = String.utf8EncodeChar (win1251Char c) ∧ (0 : UInt8) ∉ converted c ∧
      (191 < c → ∃ b ∈ converted c, isPartyChar b = false) := by
  have hwell := convertedWell_table c.toNat c.toNat_lt
  rw [UInt8.ofNat_toNat, convertedWell, hc, Bool.not_true, Bool.false_or, Bool.and_eq_true,
    Bool.and_eq_true, decide_eq_true_eq, List.all_eq_true, Bool.or_eq_true, decide_eq_true_eq,
    List.any_eq_true] at hwell
  rcases hwell with ⟨⟨hutf8, hzero⟩, hletter⟩
  refine ⟨hutf8, fun hmem => ?_, fun hcyrillic => ?_⟩
  · exact absurd (hzero 0 hmem) (by decide)
  · rcases hletter with hlatin | ⟨b, hb, hnot⟩
    · exact absurd hcyrillic (UInt8.not_lt.mpr hlatin)
    · exact ⟨b, hb, by simpa using hnot⟩

theorem converted_latin {c : UInt8} (hc : c ≤ 191) : converted c = [c] :=
  if_neg (UInt8.not_lt.mpr hc)

/-- A name is made of letters. -/
def Lettered (name : List UInt8) : Prop := ∀ c ∈ name, isPartyChar c = true

namespace Lettered

variable {name : List UInt8} (lettered : Lettered name)
include lettered

theorem converted_eq : name.flatMap converted = utf8 name := by
  induction name with
  | nil => rfl
  | cons c name ih =>
      rw [List.flatMap_cons, utf8, List.flatMap_cons,
        (converted_facts (lettered c List.mem_cons_self)).1]
      congr 1
      exact ih fun d hd => lettered d (List.mem_cons_of_mem c hd)

theorem utf8_zeroless : (0 : UInt8) ∉ utf8 name := by
  rw [← lettered.converted_eq]
  intro hmem
  rcases List.mem_flatMap.mp hmem with ⟨c, hc, hzero⟩
  exact (converted_facts (lettered c hc)).2.1 hzero

theorem zeroless : (0 : UInt8) ∉ name :=
  fun hmem => absurd (lettered 0 hmem) (by decide)

theorem utf8_latin (hlatin : ∀ c ∈ name, c ≤ 191) : utf8 name = name := by
  rw [← lettered.converted_eq]
  calc name.flatMap converted
      = name.flatMap (fun c => [c]) := List.flatMap_congr fun c hc => converted_latin (hlatin c hc)
    _ = name := List.flatMap_singleton' name

theorem of_prefix {part : List UInt8} (hpart : part <+: name) : Lettered part :=
  fun c hc => lettered c (hpart.subset hc)

/-- An encoding that is made of letters only is one of Latin letters. -/
theorem latin_of_lettered (hutf8 : Lettered (utf8 name)) : ∀ c ∈ name, c ≤ 191 := by
  intro c hc
  by_contra hcyrillic
  rw [UInt8.not_le] at hcyrillic
  rcases (converted_facts (lettered c hc)).2.2 hcyrillic with ⟨b, hb, hnot⟩
  have hletter := hutf8 b (by
    rw [← lettered.converted_eq]
    exact List.mem_flatMap.mpr ⟨c, hc, hb⟩)
  rw [hnot] at hletter
  cases hletter

end Lettered

/-! ### A field -/

/-- A field that is accepted holds a name of letters and a zero behind it. -/
theorem exists_name {chars : List UInt8} (hvalid : checkPartyString chars = true) :
    ∃ rest, chars = cString chars ++ 0 :: rest ∧ Lettered (cString chars) := by
  induction chars with
  | nil => cases hvalid
  | cons c chars ih =>
      by_cases hzero : c = 0
      · subst hzero
        exact ⟨chars, rfl, fun c hc => absurd hc List.not_mem_nil⟩
      · have hc : (c == 0) = false := beq_false_of_ne hzero
        rw [checkPartyString, hc, Bool.false_or, Bool.and_eq_true] at hvalid
        rcases ih hvalid.2 with ⟨rest, hchars, hlettered⟩
        rw [cString_cons hzero]
        refine ⟨rest, ?_, ?_⟩
        · rw [List.cons_append, ← hchars]
        · intro d hd
          rcases List.mem_cons.mp hd with rfl | hd
          · exact hvalid.1
          · exact hlettered d hd

theorem cString_append_zero {name : List UInt8} (hzeroless : (0 : UInt8) ∉ name)
    (rest : List UInt8) : cString (name ++ 0 :: rest) = name := by
  induction name with
  | nil => rfl
  | cons c name ih =>
      have hc : c ≠ 0 := fun hzero => hzeroless (by rw [hzero]; exact List.mem_cons_self)
      rw [List.cons_append, cString_cons hc,
        ih fun hmem => hzeroless (List.mem_cons_of_mem c hmem)]

/-- What the sessions must be given for a name: a text that ends in its field, and is the
encoding of as much of the name as fits. -/
structure NamePassed (name passed : List UInt8) : Prop where
  terminated : (0 : UInt8) ∈ passed
  encoded : ∃ part, part <+: name ∧ (utf8 part).length < partyNameSize ∧
    (∀ other, other <+: name → (utf8 other).length < partyNameSize →
      other.length ≤ part.length) ∧ cString passed = utf8 part

/-- The name is Latin, or it is converted and its encoding fits. -/
def NameSafe (cfg : Config) (name : List UInt8) : Prop :=
  (∀ c ∈ name, c ≤ 191) ∨ (cfg.infoEnabled = true ∧ (utf8 name).length < partyNameSize)

/-- A field as it is passed on. -/
def passedName (cfg : Config) (chars : List UInt8) : List UInt8 :=
  if cfg.infoEnabled then convertWin1251ToUtf8 chars else chars

theorem NamePassed.whole {name passed : List UInt8} (hterminated : (0 : UInt8) ∈ passed)
    (hfits : (utf8 name).length < partyNameSize) (hpassed : cString passed = utf8 name) :
    NamePassed name passed :=
  ⟨hterminated, name, List.prefix_refl name, hfits, fun _ hother _ => hother.length_le, hpassed⟩

theorem convert_fits {name rest : List UInt8} (lettered : Lettered name)
    (hfits : (utf8 name).length < partyNameSize) :
    ∃ behind, convertWin1251ToUtf8 (name ++ 0 :: rest) = utf8 name ++ 0 :: behind := by
  have hflat : (name ++ 0 :: rest).flatMap converted =
      utf8 name ++ 0 :: rest.flatMap converted := by
    rw [List.flatMap_append, lettered.converted_eq, List.flatMap_cons]
    rfl
  have htake : convertWin1251ToUtf8 (name ++ 0 :: rest) =
      ((name ++ 0 :: rest).flatMap converted).take partyNameSize := rfl
  rw [htake, hflat, List.take_append, List.take_of_length_le hfits.le]
  have hleft : partyNameSize - (utf8 name).length =
      partyNameSize - (utf8 name).length - 1 + 1 := by omega
  rw [hleft, List.take_succ_cons]
  exact ⟨_, rfl⟩

/-- An encoding that does not fit leaves no room for the zero. -/
theorem convert_overflows {name rest : List UInt8} (lettered : Lettered name)
    (hlong : partyNameSize ≤ (utf8 name).length) :
    (0 : UInt8) ∉ convertWin1251ToUtf8 (name ++ 0 :: rest) := by
  have htake : convertWin1251ToUtf8 (name ++ 0 :: rest) =
      ((name ++ 0 :: rest).flatMap converted).take partyNameSize := rfl
  rw [htake, List.flatMap_append, lettered.converted_eq, List.take_append_of_le_length hlong]
  exact fun hmem => lettered.utf8_zeroless (List.mem_of_mem_take hmem)

theorem namePassed_iff (cfg : Config) {chars : List UInt8} (hvalid : checkPartyString chars = true)
    (hsize : chars.length = partyNameSize) :
    NamePassed (cString chars) (passedName cfg chars) ↔ NameSafe cfg (cString chars) := by
  rcases exists_name hvalid with ⟨rest, hchars, lettered⟩
  have hshort : (cString chars).length < partyNameSize := by
    have hlength := congrArg List.length hchars
    rw [List.length_append, List.length_cons] at hlength
    omega
  generalize cString chars = name at hchars lettered hshort
  subst hchars
  unfold passedName NameSafe
  cases cfg.infoEnabled with
  | true =>
      rw [if_pos rfl]
      rcases Nat.lt_or_ge (utf8 name).length partyNameSize with hfits | hlong
      · rcases @convert_fits name rest lettered hfits with ⟨behind, hconvert⟩
        rw [hconvert]
        apply iff_of_true
        · exact .whole (List.mem_append_right _ List.mem_cons_self) hfits
            (cString_append_zero lettered.utf8_zeroless behind)
        · exact .inr ⟨rfl, hfits⟩
      · apply iff_of_false
        · intro passed
          exact convert_overflows lettered hlong passed.terminated
        · rintro (hlatin | ⟨-, hfits⟩)
          · rw [lettered.utf8_latin hlatin] at hlong
            omega
          · omega
  | false =>
      rw [if_neg Bool.false_ne_true]
      have hread := cString_append_zero lettered.zeroless rest
      constructor
      · intro passed
        rcases passed.encoded with ⟨part, hpart, -, -, hpassed⟩
        rw [hread] at hpassed
        have hpartLettered := lettered.of_prefix hpart
        have hlatin : ∀ c ∈ part, c ≤ 191 :=
          hpartLettered.latin_of_lettered (hpassed ▸ lettered)
        rw [hpartLettered.utf8_latin hlatin] at hpassed
        rw [hpassed]
        exact .inl hlatin
      · rintro (hlatin | ⟨henabled, -⟩)
        · have hsame := lettered.utf8_latin hlatin
          apply NamePassed.whole (List.mem_append_right _ List.mem_cons_self)
          · rwa [hsame]
          · rw [hread, hsame]
        · cases henabled

/-! ### The message -/

/-- The message that `HandleSkinnyMessage` passes on with both names as they must be. -/
structure NamesPassed (cfg : Config) (data : List UInt8) : Prop where
  reported : (handleSkinnyMessage cfg data).1 =
    [callInfoReport (handleSkinnyMessage cfg data).2]
  calling : NamePassed (cString (charsAt 12 40 data))
    (charsAt 12 40 (handleSkinnyMessage cfg data).2)
  called : NamePassed (cString (charsAt 76 40 data))
    (charsAt 76 40 (handleSkinnyMessage cfg data).2)

section

variable {cfg : Config} {data : List UInt8}

theorem charsAt_convertNames (cfg : Config) (hsize : 152 ≤ data.length) :
    charsAt 12 40 (convertNames cfg data) = passedName cfg (charsAt 12 40 data) ∧
      charsAt 76 40 (convertNames cfg data) = passedName cfg (charsAt 76 40 data) := by
  have hchars : ∀ {offset count : Nat}, offset + count ≤ 116 →
      (charsAt offset count data).length = count := by
    intro offset count hcount
    rw [charsAt, List.length_take, List.length_drop]
    omega
  have hcalling : (convertWin1251ToUtf8 (charsAt 12 40 data)).length = 40 :=
    length_convertWin1251ToUtf8 (hchars (by decide))
  have hcalled : (convertWin1251ToUtf8 (charsAt 76 40 data)).length = 40 :=
    length_convertWin1251ToUtf8 (hchars (by decide))
  have hfront : (data.take 12).length = 12 := by
    rw [List.length_take]
    omega
  unfold convertNames passedName
  cases cfg.infoEnabled with
  | false => exact ⟨rfl, rfl⟩
  | true =>
      rw [if_pos rfl, if_pos rfl, if_pos rfl]
      constructor
      · rw [charsAt, List.append_assoc, List.append_assoc, List.append_assoc,
          List.drop_left' hfront, List.take_left' hcalling]
      · have hbefore : (data.take 12 ++ convertWin1251ToUtf8 (charsAt 12 40 data) ++
            charsAt 52 24 data).length = 76 := by
          rw [List.length_append, List.length_append, hfront, hcalling, hchars (by decide)]
        rw [charsAt, List.append_assoc, List.drop_left' hbefore, List.take_left' hcalled]

/-- A valid CallInfo passes its names on as it must exactly when both are safe. -/
theorem namesPassed_iff (htype : messageType data = skMessageCallInfo)
    (hvalid : skCallInfo.validate data = true) :
    NamesPassed cfg data ↔ NameSafe cfg (cString (charsAt 12 40 data)) ∧
      NameSafe cfg (cString (charsAt 76 40 data)) := by
  have hparts := hvalid
  rw [Layout.validate, Bool.and_eq_true, decide_eq_true_eq] at hparts
  rcases hparts with ⟨hsize, hfields⟩
  have hsize : 152 ≤ data.length := hsize
  have hfields : validCallInfo data = true := hfields
  simp only [validCallInfo, Bool.and_eq_true] at hfields
  have hleft : (handleSkinnyMessage cfg data).2 = convertNames cfg data :=
    if_pos ⟨htype, hvalid⟩
  have hreports : (handleSkinnyMessage cfg data).1 = [callInfoReport (convertNames cfg data)] := by
    have hfind : (layoutsOf skMessageCallInfo).find? (fun layout => layout.validate data) =
        some skCallInfo := List.find?_cons_of_pos hvalid
    rw [handleSkinnyMessage, htype, reportsAs, layoutReports, hfind, if_neg (by decide),
      List.append_nil]
    rfl
  rcases charsAt_convertNames cfg hsize with ⟨hcalling, hcalled⟩
  have hlength : ∀ {offset : Nat}, offset + 40 ≤ 116 →
      (charsAt offset 40 data).length = partyNameSize := by
    intro offset hoffset
    rw [charsAt, List.length_take, List.length_drop, partyNameSize]
    omega
  have hfirst := namePassed_iff cfg hfields.2 (hlength (by decide))
  have hsecond := namePassed_iff cfg hfields.1.2 (hlength (by decide))
  rw [← hcalling] at hfirst
  rw [← hcalled] at hsecond
  rw [← hfirst, ← hsecond]
  constructor
  · intro passed
    rw [← hleft]
    exact ⟨passed.calling, passed.called⟩
  · rintro ⟨calling, called⟩
    rw [← hleft] at calling called
    exact ⟨by rw [hreports, hleft], calling, called⟩

end

/-- A CallInfo with these two names and no numbers. -/
def callInfoOf (callingPartyName calledPartyName : List UInt8) : List UInt8 :=
  [156, 0, 0, 0, 0, 0, 0, 0, 0x8F, 0, 0, 0] ++ callingPartyName ++
    List.replicate (40 - callingPartyName.length) 0 ++ List.replicate 24 0 ++ calledPartyName ++
    List.replicate (40 - calledPartyName.length) 0 ++ List.replicate 36 0

theorem namesPassed_latin :
    NamesPassed {} (callInfoOf [65, 110, 110] [66, 111, 98]) ↔
      NameSafe {} (cString (charsAt 12 40 (callInfoOf [65, 110, 110] [66, 111, 98]))) ∧
        NameSafe {} (cString (charsAt 76 40 (callInfoOf [65, 110, 110] [66, 111, 98]))) :=
  namesPassed_iff (by decide +kernel) (by decide +kernel)

/-- Twenty Cyrillic letters fill the field: no zero is left. -/
theorem names_not_passed : ¬ ∀ cfg data, messageType data = skMessageCallInfo →
    skCallInfo.validate data = true → NamesPassed cfg data := by
  intro passed
  have hlong := passed { infoEnabled := true } (callInfoOf (List.replicate 20 200) [66, 111, 98])
    (by decide +kernel) (by decide +kernel)
  exact absurd hlong.calling.terminated (by decide +kernel)

end OrkAudio.Skinny
