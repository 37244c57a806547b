import OrkAudio.Skinny.Parsers

/-! What CCM5 call information reports, with and without bytes behind the message. -/

namespace OrkAudio.Skinny

open Lib VoIp

/-! ### Texts -/

theorem cString_cons {c : UInt8} (hc : c ≠ 0) (chars : List UInt8) :
    cString (c :: chars) = c :: cString chars := List.takeWhile_cons_of_pos (decide_eq_true hc)

/-- A text that is accepted is accepted, and the same, before any other bytes. -/
theorem checkPartyString_append {chars : List UInt8} (hvalid : checkPartyString chars = true)
    (behind : List UInt8) :
    checkPartyString (chars ++ behind) = true ∧ cString (chars ++ behind) = cString chars ∧
      (cString chars).length < chars.length := by
  induction chars with
  | nil => cases hvalid
  | cons c chars ih =>
      by_cases hzero : c = 0
      · subst hzero
        exact ⟨rfl, rfl, Nat.succ_pos _⟩
      · have hc : (c == 0) = false := beq_false_of_ne hzero
        rw [checkPartyString, hc, Bool.false_or, Bool.and_eq_true] at hvalid
        obtain ⟨hvalidRest, htext, hlength⟩ := ih hvalid.2
        refine ⟨?_, ?_, ?_⟩
        · rw [List.cons_append, checkPartyString, hc, hvalid.1, hvalidRest]
          rfl
        · rw [List.cons_append, cString_cons hzero, cString_cons hzero, htext]
        · rw [cString_cons hzero]
          exact Nat.succ_lt_succ hlength

theorem cString_of_not_mem {chars : List UInt8} (hzero : 0 ∉ chars) : cString chars = chars := by
  apply List.takeWhile_eq_self_iff.mpr
  intro c hc
  apply decide_eq_true
  rintro rfl
  exact hzero hc

/-- Texts without zeros are told apart. -/
theorem textOf_injective {left right : List UInt8} (hleft : 0 ∉ left) (hright : 0 ∉ right)
    (hequal : textOf left = textOf right) : left = right := by
  have hchar : Function.Injective fun c : UInt8 => Char.ofNat c.toNat := by
    intro c d hcd
    have hc := c.toNat_lt
    have hd := d.toNat_lt
    have hvalid {n : Nat} (hn : n < 256) : (Char.ofNat n).toNat = n := by
      have hn : n.isValidChar := .inl (by omega)
      rw [Char.ofNat, dif_pos hn]
      rfl
    apply UInt8.toNat_inj.mp
    rw [← hvalid hc, ← hvalid hd]
    exact congrArg Char.toNat hcd
  rw [textOf, textOf, cString_of_not_mem hleft, cString_of_not_mem hright] at hequal
  exact hchar.list_map (String.ofList_injective hequal)

/-! ### Tokens -/

theorem zero_notMem_grabTokenAcceptSpace (chars : List UInt8) :
    0 ∉ grabTokenAcceptSpace chars := by
  intro hmem
  have hend := List.mem_takeWhile_imp hmem
  exact absurd hend (by decide)

/-- No text of the parties holds a zero. -/
structure Parties.Zeroless (parties : Parties) : Prop where
  callingParty : 0 ∉ parties.callingParty
  calledParty : 0 ∉ parties.calledParty
  callingPartyName : 0 ∉ parties.callingPartyName
  calledPartyName : 0 ∉ parties.calledPartyName

variable {cfg : Config} {version callType : UInt32} {parties : Parties} {party : List UInt8}

theorem Parties.Zeroless.take (zeroless : parties.Zeroless) (tokenNr : Nat) (hparty : 0 ∉ party) :
    (parties.take cfg version callType tokenNr party).Zeroless := by
  obtain ⟨hcalling, hcalled, hcallingName, hcalledName⟩ := zeroless
  unfold Parties.take
  split <;> (try split_ifs) <;> constructor <;> assumption

theorem Parties.Zeroless.grabParties (zeroless : parties.Zeroless) (left tokenNr : Nat)
    (chars : List UInt8) :
    (grabParties cfg version callType left tokenNr chars parties).Zeroless := by
  induction left generalizing tokenNr chars parties with
  | zero => exact zeroless
  | succ left ih =>
      rw [Skinny.grabParties]
      split_ifs
      · exact zeroless
      · exact ih (zeroless.take _ (zero_notMem_grabTokenAcceptSpace chars)) _ _

theorem zeroless_ccm5Parties (data : List UInt8) : (ccm5Parties cfg data).Zeroless := by
  apply Parties.Zeroless.grabParties
  constructor <;> exact List.not_mem_nil

theorem ccm5CallInfo_eq_iff {data : List UInt8} {left right : Parties} (hleft : left.Zeroless)
    (hright : right.Zeroless) :
    ccm5CallInfo data left = ccm5CallInfo data right ↔ left = right := by
  constructor
  · intro hequal
    rw [ccm5CallInfo, ccm5CallInfo, SkCallInfo.mk.injEq] at hequal
    obtain ⟨hcallingName, hcalling, hcalledName, hcalled, -⟩ := hequal
    cases left
    cases right
    rw [Parties.mk.injEq]
    exact ⟨textOf_injective hleft.callingParty hright.callingParty hcalling,
      textOf_injective hleft.calledParty hright.calledParty hcalled,
      textOf_injective hleft.callingPartyName hright.callingPartyName hcallingName,
      textOf_injective hleft.calledPartyName hright.calledPartyName hcalledName⟩
  · rintro rfl
    rfl

/-! ### Messages with bytes behind them -/

/-- When a message is accepted with the bytes behind it, it is accepted without them, and its
tokens give the same parties. -/
def KeepsParties (cfg : Config) (message behind : List UInt8) : Prop :=
  skinnyValidateCcm5CallInfo (message ++ behind) = true →
    skinnyValidateCcm5CallInfo message = true ∧
      ccm5Parties cfg (message ++ behind) = ccm5Parties cfg message

variable {message : List UInt8}

theorem skinnyValidateCcm5CallInfo_append (hvalid : skinnyValidateCcm5CallInfo message = true)
    (behind : List UInt8) : skinnyValidateCcm5CallInfo (message ++ behind) = true ∧
      ccm5CallInfoSize ≤ message.length := by
  simp only [skinnyValidateCcm5CallInfo, Bool.and_eq_true, decide_eq_true_eq] at hvalid
  obtain ⟨⟨⟨hsize, htype⟩, hfirst⟩, hsecond⟩ := hvalid
  have hword : wordAt 20 (message ++ behind) = wordAt 20 message :=
    readsWithin_wordAt (by decide : 20 + 4 ≤ ccm5CallInfoSize) message behind hsize
  obtain ⟨hfirstMore, htext, hlength⟩ := checkPartyString_append hfirst behind
  have hsecondMore := (checkPartyString_append hsecond behind).1
  rw [← List.drop_append_of_le_length (Nat.succ_le_of_lt hlength)] at hsecondMore
  refine ⟨?_, hsize⟩
  simp only [skinnyValidateCcm5CallInfo, Bool.and_eq_true, decide_eq_true_eq]
  rw [hword, List.drop_append_of_le_length hsize, htext, List.length_append]
  exact ⟨⟨⟨hsize.trans (Nat.le_add_right _ _), htype⟩, hfirstMore⟩, hsecondMore⟩

/-- The bytes behind a message change nothing just when they leave its parties. -/
theorem ccm5Reports_append_iff (cfg : Config) (message behind : List UInt8) :
    ccm5Reports cfg (message ++ behind) = ccm5Reports cfg message ↔
      KeepsParties cfg message behind := by
  unfold ccm5Reports KeepsParties
  by_cases hmore : skinnyValidateCcm5CallInfo (message ++ behind) = true
  · by_cases halone : skinnyValidateCcm5CallInfo message = true
    · have hsize := (skinnyValidateCcm5CallInfo_append halone behind).2
      have hword {offset : Nat} (hoffset : offset + 4 ≤ ccm5CallInfoSize) :
          wordAt offset (message ++ behind) = wordAt offset message :=
        readsWithin_wordAt hoffset message behind hsize
      have hcallInfo (parties : Parties) :
          ccm5CallInfo (message ++ behind) parties = ccm5CallInfo message parties := by
        rw [ccm5CallInfo, ccm5CallInfo, hword (by decide), hword (by decide)]
      rw [if_pos hmore, if_pos halone, hcallInfo, List.singleton_inj, Report.callInfo.injEq,
        ccm5CallInfo_eq_iff (zeroless_ccm5Parties _) (zeroless_ccm5Parties _)]
      exact ⟨fun hparties _ => ⟨halone, hparties⟩, fun keeps => (keeps hmore).2⟩
    · rw [if_pos hmore, if_neg halone]
      constructor
      · intro hequal
        cases hequal
      · intro keeps
        exact absurd (keeps hmore).1 halone
  · have halone : ¬ skinnyValidateCcm5CallInfo message = true :=
      fun hvalid => hmore (skinnyValidateCcm5CallInfo_append hvalid behind).1
    rw [if_neg hmore, if_neg halone]
    exact ⟨fun _ hvalid => absurd hvalid hmore, fun _ => rfl⟩

end OrkAudio.Skinny
