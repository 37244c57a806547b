import OrkAudio.Skinny.Texts

/-! Which tokens of a CCM5 CallInfo its parties are. -/

namespace OrkAudio.Skinny

open Lib VoIp

/-! ### Tokens -/

/-- The texts of the parties: each ends at a zero or at the end of a line, the last one also
with the message. -/
def tokens : List UInt8 → List (List UInt8)
  | [] => []
  | c :: chars =>
      if isTokenEnd c then [] :: tokens chars
      else
        match tokens chars with
        | [] => [[c]]
        | token :: rest => (c :: token) :: rest

theorem grabTokenAcceptSpace_of_end {c : UInt8} (hend : isTokenEnd c = true)
    (chars : List UInt8) : grabTokenAcceptSpace (c :: chars) = [] := by
  apply List.takeWhile_cons_of_neg
  rw [hend]
  decide

theorem grabTokenAcceptSpace_cons {c : UInt8} (hc : isTokenEnd c = false)
    (chars : List UInt8) :
    grabTokenAcceptSpace (c :: chars) = c :: grabTokenAcceptSpace chars := by
  apply List.takeWhile_cons_of_pos
  rw [hc]
  rfl

/-- The loop takes the tokens one by one. -/
theorem tokens_of_ne_nil {chars : List UInt8} (hchars : chars ≠ []) :
    tokens chars = grabTokenAcceptSpace chars ::
      tokens (chars.drop ((grabTokenAcceptSpace chars).length + 1)) := by
  induction chars with
  | nil => contradiction
  | cons c chars ih =>
      cases hend : isTokenEnd c with
      | true =>
          rw [tokens, if_pos hend, grabTokenAcceptSpace_of_end hend]
          rfl
      | false =>
          have hopen : ¬ isTokenEnd c = true := by
            rw [hend]
            decide
          rw [tokens, if_neg hopen, grabTokenAcceptSpace_cons hend, List.length_cons,
            List.drop_succ_cons]
          cases hrest : chars with
          | nil => rfl
          | cons d rest =>
              rw [← hrest, ih (by rw [hrest]; exact List.cons_ne_nil d rest)]

/-! ### The parties after some tokens -/

variable {cfg : Config} {version callType : UInt32} {texts : List (List UInt8)}

def partiesAfter (cfg : Config) (version callType : UInt32) (texts : List (List UInt8)) :
    Nat → Parties
  | 0 => {}
  | tokenNr + 1 =>
      match texts[tokenNr]? with
      | none => partiesAfter cfg version callType texts tokenNr
      | some text =>
          (partiesAfter cfg version callType texts tokenNr).take cfg version callType
            (tokenNr + 1) text

theorem partiesAfter_of_some {tokenNr : Nat} {text : List UInt8}
    (htext : texts[tokenNr]? = some text) :
    partiesAfter cfg version callType texts (tokenNr + 1) =
      (partiesAfter cfg version callType texts tokenNr).take cfg version callType (tokenNr + 1)
        text := by
  rw [partiesAfter, htext]

theorem partiesAfter_of_none {tokenNr : Nat} (hnone : texts[tokenNr]? = none) :
    partiesAfter cfg version callType texts (tokenNr + 1) =
      partiesAfter cfg version callType texts tokenNr := by
  rw [partiesAfter, hnone]

theorem partiesAfter_of_length_le {tokenNr : Nat} (hlength : texts.length ≤ tokenNr)
    (more : Nat) :
    partiesAfter cfg version callType texts (tokenNr + more) =
      partiesAfter cfg version callType texts tokenNr := by
  induction more with
  | zero => rfl
  | succ more ih =>
      have hnone : texts[tokenNr + more]? = none := by
        apply List.getElem?_eq_none
        omega
      rw [← Nat.add_assoc, partiesAfter_of_none hnone, ih]

theorem grabParties_eq {chars : List UInt8} {tokenNr : Nat}
    (htexts : tokens chars = texts.drop tokenNr) (left : Nat) :
    grabParties cfg version callType left tokenNr chars
        (partiesAfter cfg version callType texts tokenNr) =
      partiesAfter cfg version callType texts (tokenNr + left) := by
  induction left generalizing chars tokenNr with
  | zero => rfl
  | succ left ih =>
      rw [grabParties]
      by_cases hchars : chars = []
      · subst hchars
        have hlength : texts.length ≤ tokenNr := List.drop_eq_nil_iff.mp htexts.symm
        rw [if_pos rfl, partiesAfter_of_length_le hlength]
      · rw [tokens_of_ne_nil hchars] at htexts
        have htext : texts[tokenNr]? = some (grabTokenAcceptSpace chars) := by
          rw [← Nat.add_zero tokenNr, ← List.getElem?_drop, ← htexts]
          rfl
        have hrest : tokens (chars.drop ((grabTokenAcceptSpace chars).length + 1)) =
            texts.drop (tokenNr + 1) := by
          have htail : texts.drop (tokenNr + 1) = (texts.drop tokenNr).tail :=
            List.tail_drop.symm
          rw [htail, ← htexts]
          rfl
        have hnext := ih hrest
        rw [partiesAfter_of_some htext] at hnext
        rw [if_neg hchars]
        exact hnext.trans (by rw [Nat.add_assoc, Nat.add_comm 1 left])

theorem ccm5Parties_eq (cfg : Config) (data : List UInt8) :
    ccm5Parties cfg data = partiesAfter cfg (headerVersion data) (wordAt 20 data)
      (tokens (data.drop ccm5CallInfoSize)) 12 := by
  have htexts : tokens (data.drop ccm5CallInfoSize) =
      (tokens (data.drop ccm5CallInfoSize)).drop 0 := rfl
  rw [ccm5Parties]
  exact grabParties_eq htexts 12

/-- A field that none of the next tokens is for. -/
theorem partiesAfter_keeps (field : Parties → List UInt8) {tokenNr more : Nat}
    (hkeeps : ∀ (parties : Parties) (text : List UInt8) (nr : Nat),
      tokenNr < nr → nr ≤ tokenNr + more →
      field (parties.take cfg version callType nr text) = field parties) :
    field (partiesAfter cfg version callType texts (tokenNr + more)) =
      field (partiesAfter cfg version callType texts tokenNr) := by
  induction more with
  | zero => rfl
  | succ more ih =>
      have hbefore : field (partiesAfter cfg version callType texts (tokenNr + more)) =
          field (partiesAfter cfg version callType texts tokenNr) := by
        apply ih
        intro parties text nr hfrom hto
        exact hkeeps parties text nr hfrom (hto.trans (Nat.le_succ _))
      rw [← hbefore, ← Nat.add_assoc]
      cases htext : texts[tokenNr + more]? with
      | none => rw [partiesAfter_of_none htext]
      | some text =>
          rw [partiesAfter_of_some htext]
          apply hkeeps <;> omega

/-! ### What the tokens are for -/

variable {parties : Parties} {text : List UInt8} {tokenNr : Nat}

theorem take_callingParty (hgeneral : tokenNr ≠ 1) (hextension : tokenNr ≠ 5) :
    (parties.take cfg version callType tokenNr text).callingParty = parties.callingParty := by
  unfold Parties.take
  split <;> first | contradiction | rfl | (split_ifs <;> rfl)

theorem take_calledParty (hsecond : tokenNr ≠ 2) (hthird : tokenNr ≠ 3) :
    (parties.take cfg version callType tokenNr text).calledParty = parties.calledParty := by
  unfold Parties.take
  split <;> first | contradiction | rfl | (split_ifs <;> rfl)

theorem take_callingPartyName (hnine : tokenNr = 9 → version ≠ 0)
    (hten : tokenNr = 10 → version = 0) :
    (parties.take cfg version callType tokenNr text).callingPartyName =
      parties.callingPartyName := by
  unfold Parties.take
  split <;> first | rfl | (split_ifs <;> first | rfl | grind)

theorem take_calledPartyName (hten : tokenNr = 10 → version ≠ 0)
    (heleven : tokenNr = 11 → version = 0) (htwelve : tokenNr = 12 → version = 0) :
    (parties.take cfg version callType tokenNr text).calledPartyName =
      parties.calledPartyName := by
  unfold Parties.take
  split <;> first | rfl | (split_ifs <;> first | rfl | grind)

/-! ### The parties -/

/-- The token with a number, from 1 on. -/
def tokenAt (texts : List (List UInt8)) (tokenNr : Nat) : List UInt8 :=
  (texts[tokenNr - 1]?).getD []

theorem tokenAt_succ {text : List UInt8} (htext : texts[tokenNr]? = some text) :
    tokenAt texts (tokenNr + 1) = text := by
  rw [tokenAt, Nat.add_sub_cancel, htext, Option.getD_some]

theorem tokenAt_succ_of_none (hnone : texts[tokenNr]? = none) :
    tokenAt texts (tokenNr + 1) = [] := by
  rw [tokenAt, Nat.add_sub_cancel, hnone, Option.getD_none]

/-- A field that a token is for, and none before it. -/
theorem partiesAfter_sets (field : Parties → List UInt8) (hempty : field {} = [])
    (hkeeps : ∀ (parties : Parties) (text : List UInt8) (nr : Nat), 0 < nr → nr ≤ tokenNr →
      field (parties.take cfg version callType nr text) = field parties)
    (hsets : ∀ (parties : Parties) (text : List UInt8),
      field (parties.take cfg version callType (tokenNr + 1) text) = text) :
    field (partiesAfter cfg version callType texts (tokenNr + 1)) =
      tokenAt texts (tokenNr + 1) := by
  cases htext : texts[tokenNr]? with
  | none =>
      have hkept : field (partiesAfter cfg version callType texts (0 + tokenNr)) =
          field (partiesAfter cfg version callType texts 0) := by
        apply partiesAfter_keeps field
        rwa [Nat.zero_add]
      rw [Nat.zero_add] at hkept
      rw [partiesAfter_of_none htext, tokenAt_succ_of_none htext, hkept]
      exact hempty
  | some text => rw [partiesAfter_of_some htext, tokenAt_succ htext, hsets]

/-- The general number, or the extension of an outbound call. -/
def callingPartyNr (cfg : Config) (callType : UInt32) (texts : List (List UInt8)) : Nat :=
  if !cfg.cucm7_1Mode ∧ tokenAt texts 5 ≠ [] ∧ callType = skinnyCallTypeOutbound then 5 else 1

def calledPartyNr (cfg : Config) (texts : List (List UInt8)) : Nat :=
  if cfg.cucm7_1Mode ∧ 3 ≤ texts.length then 3 else 2

def callingPartyNameNr (version : UInt32) : Nat := if version = 0 then 9 else 10

/-- Of the two names of a later version, the longer one. -/
def calledPartyNameNr (version : UInt32) (texts : List (List UInt8)) : Nat :=
  if version = 0 then 10
  else if (tokenAt texts 11).length < (tokenAt texts 12).length then 12 else 11

theorem partiesAfter_callingParty :
    (partiesAfter cfg version callType texts 12).callingParty =
      tokenAt texts (callingPartyNr cfg callType texts) := by
  have hfirst : (partiesAfter cfg version callType texts 1).callingParty =
      tokenAt texts 1 := by
    apply partiesAfter_sets Parties.callingParty rfl
    · intro parties text nr hfrom hto
      omega
    · intro parties text
      rfl
  have hfourth : (partiesAfter cfg version callType texts (1 + 3)).callingParty =
      (partiesAfter cfg version callType texts 1).callingParty := by
    apply partiesAfter_keeps Parties.callingParty
    intro parties text nr hfrom hto
    apply take_callingParty <;> omega
  have hlast : (partiesAfter cfg version callType texts (5 + 7)).callingParty =
      (partiesAfter cfg version callType texts 5).callingParty := by
    apply partiesAfter_keeps Parties.callingParty
    intro parties text nr hfrom hto
    apply take_callingParty <;> omega
  rw [hlast, callingPartyNr]
  cases htext : texts[4]? with
  | none =>
      rw [partiesAfter_of_none htext, tokenAt_succ_of_none htext, if_neg (by simp)]
      exact hfourth.trans hfirst
  | some text =>
      rw [partiesAfter_of_some htext, tokenAt_succ htext, Parties.take]
      split_ifs with hextension
      · exact (tokenAt_succ htext).symm
      · exact hfourth.trans hfirst

theorem partiesAfter_calledParty :
    (partiesAfter cfg version callType texts 12).calledParty =
      tokenAt texts (calledPartyNr cfg texts) := by
  have hsecond : (partiesAfter cfg version callType texts 2).calledParty =
      tokenAt texts 2 := by
    apply partiesAfter_sets Parties.calledParty rfl
    · intro parties text nr hfrom hto
      apply take_calledParty <;> omega
    · intro parties text
      rfl
  have hlast : (partiesAfter cfg version callType texts (3 + 9)).calledParty =
      (partiesAfter cfg version callType texts 3).calledParty := by
    apply partiesAfter_keeps Parties.calledParty
    intro parties text nr hfrom hto
    apply take_calledParty <;> omega
  rw [hlast, calledPartyNr]
  cases htext : texts[2]? with
  | none =>
      have hfew : ¬ 3 ≤ texts.length := by
        have hlength := List.getElem?_eq_none_iff.mp htext
        omega
      rw [partiesAfter_of_none htext, if_neg fun hmode => hfew hmode.2]
      exact hsecond
  | some text =>
      have hthree : 3 ≤ texts.length := (List.getElem?_eq_some_iff.mp htext).1
      rw [partiesAfter_of_some htext, Parties.take]
      split_ifs with hmode hboth hboth
      · exact (tokenAt_succ htext).symm
      · exact absurd ⟨hmode, hthree⟩ hboth
      · exact absurd hboth.1 hmode
      · exact hsecond

theorem partiesAfter_callingPartyName :
    (partiesAfter cfg version callType texts 12).callingPartyName =
      tokenAt texts (callingPartyNameNr version) := by
  unfold callingPartyNameNr
  split_ifs with hversion
  · have hset : (partiesAfter cfg version callType texts 9).callingPartyName =
        tokenAt texts 9 := by
      apply partiesAfter_sets Parties.callingPartyName rfl
      · intro parties text nr hfrom hto
        apply take_callingPartyName <;> omega
      · intro parties text
        exact congrArg Parties.callingPartyName (if_pos hversion)
    have hlast : (partiesAfter cfg version callType texts (9 + 3)).callingPartyName =
        (partiesAfter cfg version callType texts 9).callingPartyName := by
      apply partiesAfter_keeps Parties.callingPartyName
      intro parties text nr hfrom hto
      apply take_callingPartyName
      · omega
      · exact fun _ => hversion
    exact hlast.trans hset
  · have hset : (partiesAfter cfg version callType texts 10).callingPartyName =
        tokenAt texts 10 := by
      apply partiesAfter_sets Parties.callingPartyName rfl
      · intro parties text nr hfrom hto
        apply take_callingPartyName
        · exact fun _ => hversion
        · omega
      · intro parties text
        exact congrArg Parties.callingPartyName (if_neg hversion)
    have hlast : (partiesAfter cfg version callType texts (10 + 2)).callingPartyName =
        (partiesAfter cfg version callType texts 10).callingPartyName := by
      apply partiesAfter_keeps Parties.callingPartyName
      intro parties text nr hfrom hto
      apply take_callingPartyName <;> omega
    exact hlast.trans hset

theorem partiesAfter_calledPartyName :
    (partiesAfter cfg version callType texts 12).calledPartyName =
      tokenAt texts (calledPartyNameNr version texts) := by
  unfold calledPartyNameNr
  by_cases hversion : version = 0
  · rw [if_pos hversion]
    have hset : (partiesAfter cfg version callType texts 10).calledPartyName =
        tokenAt texts 10 := by
      apply partiesAfter_sets Parties.calledPartyName rfl
      · intro parties text nr hfrom hto
        apply take_calledPartyName <;> omega
      · intro parties text
        exact congrArg Parties.calledPartyName (if_pos hversion)
    have hlast : (partiesAfter cfg version callType texts (10 + 2)).calledPartyName =
        (partiesAfter cfg version callType texts 10).calledPartyName := by
      apply partiesAfter_keeps Parties.calledPartyName
      intro parties text nr hfrom hto
      apply take_calledPartyName
      · omega
      · exact fun _ => hversion
      · exact fun _ => hversion
    exact hlast.trans hset
  · have hset : (partiesAfter cfg version callType texts 11).calledPartyName =
        tokenAt texts 11 := by
      apply partiesAfter_sets Parties.calledPartyName rfl
      · intro parties text nr hfrom hto
        apply take_calledPartyName
        · exact fun _ => hversion
        · omega
        · omega
      · intro parties text
        exact congrArg Parties.calledPartyName (if_pos hversion)
    rw [if_neg hversion]
    cases htext : texts[11]? with
    | none =>
        rw [partiesAfter_of_none htext, tokenAt_succ_of_none htext, List.length_nil,
          if_neg (Nat.not_lt_zero _)]
        exact hset
    | some text =>
        rw [partiesAfter_of_some htext, Parties.take, hset, tokenAt_succ htext]
        by_cases hlonger : (tokenAt texts 11).length < text.length
        · rw [if_pos hlonger, if_pos ⟨hversion, hlonger⟩]
          exact (tokenAt_succ htext).symm
        · rw [if_neg hlonger, if_neg fun hboth => hlonger hboth.2]
          exact hset

end OrkAudio.Skinny
