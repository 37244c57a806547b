import OrkAudio.VoIp.Events

/-! The DTMF commands of a session.

A session collects its digits up to a command, and drops what it has collected when that is
longer than 100 digits, in the middle of a command too. -/

namespace OrkAudio.VoIp

/-- A digit that a party presses: its text is one character. -/
structure Press where
  env : Env
  digit : DtmfDigit
  key : Char
  value_eq : digit.digitValue = String.singleton key

section

variable (cfg : Config)

/-- The two commands; a session may have none that pauses it. -/
def IsCommand (command : String) : Prop :=
  command = cfg.onDemandViaDtmfDigitsString ∨
    command = cfg.onDemandPauseViaDtmfDigitsString ∧ cfg.onDemandPauseViaDtmfDigitsString ≠ ""

/-- The digits end in one of the two commands. -/
def endsInCommand (digits : List Char) : Bool :=
  decide (cfg.onDemandViaDtmfDigitsString.toList <:+ digits) ||
    cfg.onDemandPauseViaDtmfDigitsString != "" &&
      decide (cfg.onDemandPauseViaDtmfDigitsString.toList <:+ digits)

/-- No command has been completed. -/
def NoCommand (digits : List Char) : Prop :=
  ∀ front, front <+: digits → endsInCommand cfg front = false

/-- The digits since the last command end in a command for the first time. -/
def FirstCommand (since : List Char) (key : Char) : Prop :=
  endsInCommand cfg (since ++ [key]) = true ∧ NoCommand cfg since

/-- Along the digits of a session every command is recognised, which empties what the session
has collected. -/
def RecognisesCommands : List Press → List Char → SessionKeys → Context → Prop
  | [], _, _, _ => True
  | press :: presses, since, keys, c =>
      let next := (reportDtmfDigit cfg press.env press.digit keys c).2
      (FirstCommand cfg since press.key → next.session.dtmfDigitString = "") ∧
        RecognisesCommands presses
          (if next.session.dtmfDigitString = "" then [] else since ++ [press.key]) keys next

/-- Whether the session records after each of the commands that it recognises. -/
def recordings : List Press → SessionKeys → Context → List Bool
  | [], _, _ => []
  | press :: presses, keys, c =>
      let next := (reportDtmfDigit cfg press.env press.digit keys c).2
      if next.session.dtmfDigitString = "" then
        next.session.keepRtp :: recordings presses keys next
      else recordings presses keys next

/-- What a session has of the digits since the last command: those behind the last full 101. -/
def collected (digits : List Char) : List Char := digits.drop (101 * ((digits.length - 1) / 101))

/-- No command is cut by the dropping of 101 digits. -/
def KeepsCommands : List Char → List Char → Prop
  | _, [] => True
  | since, key :: keys =>
      if endsInCommand cfg (since ++ [key]) then
        endsInCommand cfg (collected (since ++ [key])) ∧ KeepsCommands [] keys
      else KeepsCommands (since ++ [key]) keys

instance decidableKeepsCommands (cfg : Config) :
    ∀ since keys, Decidable (KeepsCommands cfg since keys)
  | _, [] => inferInstanceAs (Decidable True)
  | since, key :: keys =>
      have := decidableKeepsCommands cfg [] keys
      have := decidableKeepsCommands cfg (since ++ [key]) keys
      inferInstanceAs (Decidable (if endsInCommand cfg (since ++ [key]) = true then
        endsInCommand cfg (collected (since ++ [key])) = true ∧ KeepsCommands cfg [] keys
      else KeepsCommands cfg (since ++ [key]) keys))

/-- The test that the session makes. -/
def containsCommand (text : String) : Bool :=
  containsText text cfg.onDemandViaDtmfDigitsString ||
    cfg.onDemandPauseViaDtmfDigitsString != "" &&
      containsText text cfg.onDemandPauseViaDtmfDigitsString

end

section

variable {cfg : Config} {digits since : List Char} {key : Char}

/-! ### The digits -/

theorem collected_suffix : collected digits <:+ digits := List.drop_suffix _ _

theorem collected_concat : collected (digits ++ [key]) =
    (if 100 < (collected digits).length then [] else collected digits) ++ [key] := by
  have hlength : (collected digits).length = digits.length - 101 * ((digits.length - 1) / 101) := by
    rw [collected, List.length_drop]
  have hall : (digits ++ [key]).length - 1 = digits.length := by simp
  rw [collected, hall]
  split
  · rename_i hfull
    have hdrop : 101 * (digits.length / 101) = digits.length := by omega
    rw [hdrop, List.drop_left, List.nil_append]
  · rename_i hroom
    have hdrop : 101 * (digits.length / 101) = 101 * ((digits.length - 1) / 101) := by omega
    rw [hdrop, List.drop_append_of_le_length (by omega), collected]

theorem endsInCommand_iff : endsInCommand cfg digits = true ↔
    ∃ command, IsCommand cfg command ∧ command.toList <:+ digits := by
  simp only [endsInCommand, Bool.or_eq_true, decide_eq_true_eq, Bool.and_eq_true, bne_iff_ne]
  constructor
  · rintro (honDemand | ⟨hpause, hends⟩)
    · exact ⟨_, .inl rfl, honDemand⟩
    · exact ⟨_, .inr ⟨rfl, hpause⟩, hends⟩
  · rintro ⟨command, rfl | ⟨rfl, hpause⟩, hends⟩
    · exact .inl hends
    · exact .inr ⟨hpause, hends⟩

theorem containsCommand_iff {text : String} : containsCommand cfg text = true ↔
    ∃ command, IsCommand cfg command ∧ command.toList <:+: text.toList := by
  simp only [containsCommand, containsText, Bool.or_eq_true, decide_eq_true_eq, Bool.and_eq_true,
    bne_iff_ne]
  constructor
  · rintro (honDemand | ⟨hpause, hfound⟩)
    · exact ⟨_, .inl rfl, honDemand⟩
    · exact ⟨_, .inr ⟨rfl, hpause⟩, hfound⟩
  · rintro ⟨command, rfl | ⟨rfl, hpause⟩, hfound⟩
    · exact .inl hfound
    · exact .inr ⟨hpause, hfound⟩

theorem IsCommand.ne_empty {command : String} (h : IsCommand cfg command)
    (honDemand : cfg.onDemandViaDtmfDigitsString ≠ "") : command.toList ≠ [] := by
  intro hempty
  have htext : command = "" := String.toList_eq_nil_iff.mp hempty
  rcases h with rfl | ⟨rfl, hpause⟩
  · exact honDemand htext
  · exact hpause htext

theorem endsInCommand_of_suffix {digits' : List Char} (hsuffix : digits' <:+ digits)
    (hends : endsInCommand cfg digits' = true) : endsInCommand cfg digits = true := by
  obtain ⟨command, hcommand, hword⟩ := endsInCommand_iff.mp hends
  exact endsInCommand_iff.mpr ⟨command, hcommand, hword.trans hsuffix⟩

theorem noCommand_nil (honDemand : cfg.onDemandViaDtmfDigitsString ≠ "") : NoCommand cfg [] := by
  intro front hfront
  rw [List.prefix_nil.mp hfront, ← Bool.not_eq_true]
  intro hends
  obtain ⟨command, hcommand, hword⟩ := endsInCommand_iff.mp hends
  exact hcommand.ne_empty honDemand (List.suffix_nil.mp hword)

theorem NoCommand.concat (h : NoCommand cfg since)
    (hother : endsInCommand cfg (since ++ [key]) = false) : NoCommand cfg (since ++ [key]) := by
  intro front hfront
  rcases List.prefix_concat_iff.mp hfront with rfl | hbefore
  · exact hother
  · exact h front hbefore

/-- As long as no command has been completed, the session finds one in what it has collected when
that ends in one. -/
theorem NoCommand.contains_iff (h : NoCommand cfg since) {text : String}
    (htext : text.toList = collected (since ++ [key])) :
    containsCommand cfg text = true ↔
      endsInCommand cfg (collected (since ++ [key])) = true := by
  rw [containsCommand_iff, endsInCommand_iff, htext]
  constructor
  · rintro ⟨command, hcommand, hinfix⟩
    refine ⟨command, hcommand, ?_⟩
    rw [collected_concat] at hinfix ⊢
    rcases List.infix_concat_iff.mp hinfix with hend | hbefore
    · exact hend
    · have hpart : (if 100 < (collected since).length then [] else collected since) <:+ since := by
        split
        · exact List.nil_suffix
        · exact collected_suffix
      have hwithin : command.toList <:+: since := hbefore.trans hpart.isInfix
      obtain ⟨front, hends, hfront⟩ := List.infix_iff_suffix_prefix.mp hwithin
      have hfound := endsInCommand_iff.mpr ⟨command, hcommand, hends⟩
      rw [h front hfront] at hfound
      cases hfound
  · rintro ⟨command, hcommand, hends⟩
    exact ⟨command, hcommand, hends.isInfix⟩

/-! ### A digit -/

/-- What a session has collected with a digit. -/
def collectedText (s : SessionData) (press : Press) : String :=
  (if s.dtmfDigitString.length > 100 then "" else s.dtmfDigitString) ++ press.digit.digitValue

theorem collectedText_toList {s : SessionData} {press : Press}
    (hcollected : s.dtmfDigitString.toList = collected since) :
    (collectedText s press).toList = collected (since ++ [press.key]) := by
  rw [collectedText, press.value_eq, String.toList_append, collected_concat, ← hcollected,
    String.toList_singleton, String.length_toList]
  split <;> rfl

theorem collectedText_ne_empty {s : SessionData} {press : Press} : collectedText s press ≠ "" := by
  intro hempty
  have hkey : (collectedText s press).toList ≠ [] := by
    rw [collectedText, press.value_eq, String.toList_append, String.toList_singleton]
    simp
  rw [hempty] at hkey
  exact hkey rfl

variable {press : Press} {keys : SessionKeys} {c : Context}

theorem besideCommands_text : BesideCommands fun c => c.session.dtmfDigitString where
  emits _ _ _ := fun _ _ => rfl
  flags _ _ _ := rfl

theorem session_reportDtmfDigit {env : Env} {digit : DtmfDigit} :
    (reportDtmfDigit cfg env digit keys c).2.session =
      (collectDtmfDigit cfg digit.digitValue keys c).2.session := by
  unfold reportDtmfDigit
  rw [bind_run]
  exact (Keeps.bind .session fun s => .whenThen (fun _ _ => rfl) <|
    .whenThen (fun _ _ => rfl) fun _ _ => rfl) keys _

/-- The session runs the commands that it finds, and collects anew. -/
theorem collectDtmfDigit_run (honDemand : cfg.onDemandViaDtmfDigitsString ≠ "") :
    (collectDtmfDigit cfg press.digit.digitValue keys c).2 =
      (runDtmfCommands
        (dtmfCommands cfg c.session.keepRtp (collectedText c.session press)).1
        (dtmfCommands cfg c.session.keepRtp (collectedText c.session press)).2 keys
        { c with session := { c.session with
          dtmfDigitString :=
            if containsCommand cfg (collectedText c.session press) then ""
            else collectedText c.session press } }).2 := by
  unfold collectDtmfDigit
  rw [update_bind, if_pos honDemand, session_bind]
  change ((ite (containsCommand cfg (collectedText c.session press) = true) _ _ : SessionM Unit)
    keys _).2 = _
  split
  · rfl
  · rfl

theorem text_reportDtmfDigit (honDemand : cfg.onDemandViaDtmfDigitsString ≠ "") :
    (reportDtmfDigit cfg press.env press.digit keys c).2.session.dtmfDigitString =
      if containsCommand cfg (collectedText c.session press) then ""
      else collectedText c.session press := by
  rw [session_reportDtmfDigit, collectDtmfDigit_run honDemand]
  exact besideCommands_text.runDtmfCommands _ _ keys _

theorem recognised_iff (honDemand : cfg.onDemandViaDtmfDigitsString ≠ "") :
    (reportDtmfDigit cfg press.env press.digit keys c).2.session.dtmfDigitString = "" ↔
      containsCommand cfg (collectedText c.session press) = true := by
  rw [text_reportDtmfDigit honDemand]
  split
  · simp_all
  · rename_i hother
    exact ⟨fun hempty => absurd hempty collectedText_ne_empty, fun hfound => absurd hfound hother⟩

/-! ### Recognition -/

theorem recognises_iff (honDemand : cfg.onDemandViaDtmfDigitsString ≠ "") (presses : List Press)
    (hcollected : c.session.dtmfDigitString.toList = collected since)
    (hnone : NoCommand cfg since) :
    RecognisesCommands cfg presses since keys c ↔
      KeepsCommands cfg since (presses.map Press.key) := by
  induction presses generalizing since c with
  | nil => exact Iff.rfl
  | cons press presses ih =>
      have htext := @collectedText_toList since c.session press hcollected
      have hrecognised := (@recognised_iff cfg press keys c honDemand).trans
        (hnone.contains_iff htext)
      unfold RecognisesCommands
      rw [List.map_cons, KeepsCommands]
      dsimp only
      by_cases hends : endsInCommand cfg (since ++ [press.key]) = true
      · rw [if_pos hends, ← hrecognised]
        constructor
        · rintro ⟨hfirst, hrest⟩
          have hempty := hfirst ⟨hends, hnone⟩
          rw [if_pos hempty] at hrest
          refine ⟨hempty, (ih ?_ (noCommand_nil honDemand)).mp hrest⟩
          rw [hempty]
          rfl
        · rintro ⟨hempty, hrest⟩
          rw [if_pos hempty]
          refine ⟨fun _ => hempty, (ih ?_ (noCommand_nil honDemand)).mpr hrest⟩
          rw [hempty]
          rfl
      · have hmissed : ¬ (reportDtmfDigit cfg press.env press.digit keys
            c).2.session.dtmfDigitString = "" := by
          intro hempty
          exact hends (endsInCommand_of_suffix collected_suffix (hrecognised.mp hempty))
        rw [if_neg hends, if_neg hmissed]
        have hnext : (reportDtmfDigit cfg press.env press.digit keys
            c).2.session.dtmfDigitString.toList = collected (since ++ [press.key]) := by
          rw [text_reportDtmfDigit honDemand, if_neg, htext]
          intro hfound
          exact hmissed ((recognised_iff honDemand).mpr hfound)
        rw [← ih hnext (hnone.concat (by simpa using hends))]
        exact ⟨fun h => h.2, fun h => ⟨fun hfirst => absurd hfirst.1 hends, h⟩⟩

/-! ### One text for both commands -/

theorem keepRtp_pause (hkeep : c.session.keepRtp = true) :
    (runDtmfCommands false true keys c).2.session.keepRtp = false := by
  unfold runDtmfCommands
  rw [session_bind, hkeep]
  cases c.session.onDemand with
  | false => rfl
  | true => rfl

theorem keepRtp_resume (hkeep : c.session.keepRtp = false) :
    (runDtmfCommands true false keys c).2.session.keepRtp = true := by
  unfold runDtmfCommands
  rw [session_bind, hkeep]
  cases c.session.onDemand with
  | false => rfl
  | true => rfl

theorem runDtmfCommands_none : (runDtmfCommands false false keys c).2 = c := by
  unfold runDtmfCommands
  rw [session_bind]
  cases c.session.onDemand <;> cases c.session.keepRtp <;> rfl

/-- A command that is the text of both turns the recording off or on. -/
theorem keepRtp_reportDtmfDigit (honDemand : cfg.onDemandViaDtmfDigitsString ≠ "")
    (hsame : cfg.onDemandPauseViaDtmfDigitsString = cfg.onDemandViaDtmfDigitsString) :
    (reportDtmfDigit cfg press.env press.digit keys c).2.session.keepRtp =
      if containsCommand cfg (collectedText c.session press) then !c.session.keepRtp
      else c.session.keepRtp := by
  rw [session_reportDtmfDigit, collectDtmfDigit_run honDemand]
  have hpause : (cfg.onDemandViaDtmfDigitsString != "") = true := by simpa using honDemand
  have hcontains : containsCommand cfg (collectedText c.session press) =
      containsText (collectedText c.session press) cfg.onDemandViaDtmfDigitsString := by
    rw [containsCommand, hsame, hpause, Bool.true_and, Bool.or_self]
  rw [dtmfCommands, hsame, hpause, Bool.true_and, ← hcontains]
  cases hfound : containsCommand cfg (collectedText c.session press) with
  | false =>
      rw [if_neg (by simp), if_neg (by simp)]
      rw [runDtmfCommands_none]
      rfl
  | true =>
      rw [if_pos ⟨rfl, rfl⟩, if_pos rfl]
      cases hkeep : c.session.keepRtp with
      | false => exact keepRtp_resume hkeep
      | true => exact keepRtp_pause hkeep

theorem recordings_isChain (honDemand : cfg.onDemandViaDtmfDigitsString ≠ "")
    (hsame : cfg.onDemandPauseViaDtmfDigitsString = cfg.onDemandViaDtmfDigitsString)
    (presses : List Press) :
    (c.session.keepRtp :: recordings cfg presses keys c).IsChain (· ≠ ·) := by
  induction presses generalizing c with
  | nil => exact List.isChain_singleton _
  | cons press presses ih =>
      have hkeep := @keepRtp_reportDtmfDigit cfg press keys c honDemand hsame
      have hnext := @ih (reportDtmfDigit cfg press.env press.digit keys c).2
      unfold recordings
      dsimp only
      by_cases hfound : containsCommand cfg (collectedText c.session press) = true
      · rw [if_pos ((recognised_iff honDemand).mpr hfound)]
        rw [if_pos hfound] at hkeep
        refine List.isChain_cons_cons.mpr ⟨?_, hnext⟩
        rw [hkeep]
        exact (Bool.not_ne_self _).symm
      · rw [if_neg fun hempty => hfound ((recognised_iff honDemand).mp hempty)]
        rw [if_neg hfound] at hkeep
        rw [← hkeep]
        exact hnext

/-! ### The digits of a session -/

/-- Every command is recognised exactly when none is cut where the digits are dropped; with one
text for both commands the session then records and pauses in turn, and does so anyway. -/
theorem dtmfCommands_recognised_iff {cfg : Config}
    (honDemand : cfg.onDemandViaDtmfDigitsString ≠ "") (presses : List Press) (keys : SessionKeys)
    {c : Context} (hnew : c.session.dtmfDigitString = "") :
    (RecognisesCommands cfg presses [] keys c ∧
      (cfg.onDemandPauseViaDtmfDigitsString = cfg.onDemandViaDtmfDigitsString →
        (c.session.keepRtp :: recordings cfg presses keys c).IsChain (· ≠ ·))) ↔
    KeepsCommands cfg [] (presses.map Press.key) := by
  have hcollected : c.session.dtmfDigitString.toList = collected [] := by
    rw [hnew]
    rfl
  rw [recognises_iff honDemand presses hcollected (noCommand_nil honDemand)]
  exact ⟨fun h => h.1, fun h => ⟨h, fun hsame => recordings_isChain honDemand hsame presses⟩⟩

end

section

private def press (key : Char) : Press where
  env := { usec := 0 }
  digit := { digitValue := String.singleton key }
  key := key
  value_eq := rfl

private def startOrPause : Config :=
  { onDemandViaDtmfDigitsString := "*9", onDemandPauseViaDtmfDigitsString := "*9" }

private def pressedSession : Context :=
  { shared := {}, session := (VoIpSession.new startOrPause { usec := 0 } "").toSessionData }

theorem dtmfCommands_recognised_twice :
    RecognisesCommands startOrPause [press '*', press '9', press '*', press '9'] []
      { trackingId := "" } pressedSession ∧
    (startOrPause.onDemandPauseViaDtmfDigitsString = startOrPause.onDemandViaDtmfDigitsString →
      (pressedSession.session.keepRtp :: recordings startOrPause
        [press '*', press '9', press '*', press '9'] { trackingId := "" }
          pressedSession).IsChain (· ≠ ·)) := by
  refine (dtmfCommands_recognised_iff (by decide) _ _ rfl).mpr ?_
  decide +kernel

/-- The command begins with the 101st digit, with which the digits are dropped. -/
theorem dtmfCommand_missed : ¬ ∀ (cfg : Config) (presses : List Press) (keys : SessionKeys)
    (c : Context), cfg.onDemandViaDtmfDigitsString ≠ "" →
    cfg.onDemandViaDtmfDigitsString.length ≤ 100 → c.session.dtmfDigitString = "" →
    RecognisesCommands cfg presses [] keys c ∧
      (cfg.onDemandPauseViaDtmfDigitsString = cfg.onDemandViaDtmfDigitsString →
        (c.session.keepRtp :: recordings cfg presses keys c).IsChain (· ≠ ·)) := by
  intro hall
  have hrecognised := (hall startOrPause
    (List.replicate 100 (press '3') ++ [press '*', press '9']) { trackingId := "" }
    pressedSession (by decide) (by decide) rfl).1
  have hcollected : pressedSession.session.dtmfDigitString.toList = collected [] := rfl
  have hkeeps := (recognises_iff (by decide) _ hcollected (noCommand_nil (by decide))).mp
    hrecognised
  exact absurd hkeeps (by decide +kernel)

end

end OrkAudio.VoIp
