import OrkAudio.Skinny.Texts

/-! The scan of a payload against its messages, each alone in a packet. -/

namespace OrkAudio.Skinny

open Lib VoIp

variable {cfg : Config} {message behind : List UInt8}

/-! ### Structures -/

/-- The size of the structure that a message is reported from. -/
def reportedSize? (cfg : Config) (layouts : List Layout) (data : List UInt8) : Option Nat :=
  match layouts.find? fun layout => layout.validate data with
  | none => none
  | some layout => if (layout.reports cfg data).isEmpty then none else some layout.size

theorem Layout.validate_append (layout : Layout) (behind : List UInt8)
    (hsize : layout.size ≤ message.length) :
    layout.validate (message ++ behind) = layout.validate message := by
  have hmore : layout.size ≤ (message ++ behind).length := by
    rw [List.length_append]
    omega
  rw [validate, validate, layout.valid_within message behind hsize, decide_eq_true hsize,
    decide_eq_true hmore]

theorem Layout.validate_of_lt {layout : Layout} (hsize : message.length < layout.size) :
    layout.validate message = false := by
  rw [validate, decide_eq_false (Nat.not_le_of_lt hsize), Bool.false_and]

theorem layoutReports_of_short {layouts : List Layout}
    (hshort : ∀ layout ∈ layouts, message.length < layout.size) :
    layoutReports cfg layouts message = [] := by
  have hnone : (layouts.find? fun layout => layout.validate message) = none := by
    rw [List.find?_eq_none]
    intro layout hlayout
    rw [Layout.validate_of_lt (hshort layout hlayout)]
    decide
  rw [layoutReports, hnone]

/-- The bytes behind a message change nothing just when the structure that it is reported from
ends within it. -/
theorem layoutReports_append_iff (cfg : Config) (message behind : List UInt8)
    {layouts : List Layout}
    (hsizes : layouts.Pairwise fun first second => first.size ≤ second.size) :
    layoutReports cfg layouts (message ++ behind) = layoutReports cfg layouts message ↔
      ∀ size ∈ reportedSize? cfg layouts (message ++ behind), size ≤ message.length := by
  induction layouts with
  | nil => simp [layoutReports, reportedSize?]
  | cons layout layouts ih =>
      rw [List.pairwise_cons] at hsizes
      by_cases hsize : layout.size ≤ message.length
      · have hvalidate := layout.validate_append behind hsize
        have hreports := layout.reports_within cfg message behind hsize
        cases hvalid : layout.validate message with
        | false => simpa [layoutReports, reportedSize?, hvalidate, hvalid] using ih hsizes.2
        | true =>
            simp only [layoutReports, reportedSize?, hvalidate, hvalid, List.find?_cons_of_pos,
              hreports, true_iff]
            split_ifs
            · simp
            · simpa using hsize
      · have hshort : layoutReports cfg (layout :: layouts) message = [] := by
          apply layoutReports_of_short
          rw [List.forall_mem_cons]
          exact ⟨Nat.lt_of_not_le hsize, fun other hother =>
            (Nat.lt_of_not_le hsize).trans_le (hsizes.1 other hother)⟩
        rw [hshort]
        cases hvalid : layout.validate (message ++ behind) with
        | false =>
            have hshortRest : layoutReports cfg layouts message = [] :=
              layoutReports_of_short fun other hother =>
                (Nat.lt_of_not_le hsize).trans_le (hsizes.1 other hother)
            have hrest := ih hsizes.2
            rw [hshortRest] at hrest
            simpa [layoutReports, reportedSize?, hvalid] using hrest
        | true =>
            simp only [layoutReports, reportedSize?, hvalid, List.find?_cons_of_pos]
            cases hreports : layout.reports cfg (message ++ behind) with
            | nil => simp
            | cons report reports => simpa using hsize

theorem size_layoutsOf (type : UInt32) : ∀ layout ∈ layoutsOf type, 20 ≤ layout.size := by
  unfold layoutsOf
  split_ifs <;> simp only [List.forall_mem_cons, List.not_mem_nil, false_imp_iff, implies_true,
    and_true] <;> decide

theorem pairwise_layoutsOf (type : UInt32) :
    (layoutsOf type).Pairwise fun first second => first.size ≤ second.size := by
  unfold layoutsOf
  split_ifs <;> simp only [List.pairwise_cons, List.forall_mem_cons, List.not_mem_nil,
    false_imp_iff, implies_true, List.Pairwise.nil, and_true] <;> decide

/-! ### Handlers -/

def Report.isCallInfo : Report → Bool
  | .callInfo _ => true
  | _ => false

/-- What a CallState reports and what a CCM5 CallInfo reports are told apart. -/
theorem append_eq_append_iff_isCallInfo {first first' second second' : List Report}
    (hfirst : ∀ report ∈ first, report.isCallInfo = false)
    (hfirst' : ∀ report ∈ first', report.isCallInfo = false)
    (hsecond : ∀ report ∈ second, report.isCallInfo = true)
    (hsecond' : ∀ report ∈ second', report.isCallInfo = true) :
    first ++ second = first' ++ second' ↔ first = first' ∧ second = second' := by
  have hnone {reports : List Report} (hreports : ∀ report ∈ reports, report.isCallInfo = false) :
      reports.filter Report.isCallInfo = [] := by
    rw [List.filter_eq_nil_iff]
    intro report hmem
    rw [hreports report hmem]
    decide
  constructor
  · intro hequal
    have hcallInfo := congrArg (List.filter Report.isCallInfo) hequal
    rw [List.filter_append, List.filter_append, hnone hfirst, hnone hfirst',
      List.filter_eq_self.mpr hsecond, List.filter_eq_self.mpr hsecond'] at hcallInfo
    have hrest : second = second' := hcallInfo
    subst hrest
    exact ⟨List.append_cancel_right hequal, rfl⟩
  · rintro ⟨rfl, rfl⟩
    rfl

theorem isCallInfo_of_mem_ccm5Reports {data : List UInt8} {report : Report}
    (hmem : report ∈ ccm5Reports cfg data) : report.isCallInfo = true := by
  unfold ccm5Reports at hmem
  split_ifs at hmem
  · rw [List.mem_singleton.mp hmem]
    rfl
  · cases hmem

theorem isCallInfo_of_mem_callStateReports {data : List UInt8} {report : Report}
    (hmem : report ∈ layoutReports cfg (layoutsOf skMessageCallState) data) :
    report.isCallInfo = false := by
  have hlayouts : layoutsOf skMessageCallState = [skCallStateMessage] := rfl
  rw [hlayouts, layoutReports, List.find?_singleton] at hmem
  split_ifs at hmem
  · rw [List.mem_singleton.mp hmem]
    rfl
  · cases hmem

theorem reportsAs_append_iff (cfg : Config) (message behind : List UInt8) (type : UInt32) :
    reportsAs cfg type (message ++ behind) = reportsAs cfg type message ↔
      (∀ size ∈ reportedSize? cfg (layoutsOf type) (message ++ behind), size ≤ message.length) ∧
      (type = skMessageCallState ∨ type = skMessageCcm5CallInfo →
        KeepsParties cfg message behind) := by
  have hlayouts := layoutReports_append_iff cfg message behind (pairwise_layoutsOf type)
  have hccm5 := ccm5Reports_append_iff cfg message behind
  rw [← hlayouts, ← hccm5]
  unfold reportsAs
  by_cases hstate : type = skMessageCallState
  · subst hstate
    simp only [true_or, if_true, forall_const]
    exact append_eq_append_iff_isCallInfo (fun _ => isCallInfo_of_mem_callStateReports)
      (fun _ => isCallInfo_of_mem_callStateReports) (fun _ => isCallInfo_of_mem_ccm5Reports)
      fun _ => isCallInfo_of_mem_ccm5Reports
  · by_cases hcallInfo : type = skMessageCcm5CallInfo
    · subst hcallInfo
      have hnone (data : List UInt8) :
          layoutReports cfg (layoutsOf skMessageCcm5CallInfo) data = [] := rfl
      simp [hnone]
    · simp [hstate, hcallInfo]

/-- A message without data reports nothing, whatever its type. -/
theorem reportsAs_of_short (type : UInt32) (hshort : message.length ≤ skinnyMinMessageSize) :
    reportsAs cfg type message = [] := by
  have hlt : message.length < 20 := hshort.trans_lt (by decide)
  have hlayouts : layoutReports cfg (layoutsOf type) message = [] :=
    layoutReports_of_short fun layout hlayout => hlt.trans_le (size_layoutsOf type layout hlayout)
  have hccm5 : skinnyValidateCcm5CallInfo message = false := by
    have hsize : ¬ ccm5CallInfoSize ≤ message.length := by
      rw [ccm5CallInfoSize]
      omega
    simp [skinnyValidateCcm5CallInfo, hsize]
  rw [reportsAs, hlayouts, ccm5Reports, hccm5]
  simp

/-- The names of a message that reports within itself are converted within it. -/
theorem handleSkinnyMessage_append {type : UInt32} (htype : messageType (message ++ behind) = type)
    (hlayout : ∀ size ∈ reportedSize? cfg (layoutsOf type) (message ++ behind),
      size ≤ message.length) :
    ∃ left, (handleSkinnyMessage cfg (message ++ behind)).2 = left ++ behind ∧
      left.length = message.length ∧ (4 ≤ message.length → len (left ++ behind) = len message) := by
  have hlen (hfour : 4 ≤ message.length) : len (message ++ behind) = len message :=
    readsWithin_wordAt (by decide : 0 + 4 ≤ 4) message behind hfour
  rw [handleSkinnyMessage, htype]
  by_cases hcallInfo : type = skMessageCallInfo ∧ skCallInfo.validate (message ++ behind) = true
  · obtain ⟨rfl, hvalid⟩ := hcallInfo
    have hsize : 152 ≤ message.length := by
      apply hlayout
      have hlayouts : layoutsOf skMessageCallInfo = [skCallInfo] := rfl
      have hfind : ([skCallInfo].find? fun layout => layout.validate (message ++ behind)) =
          some skCallInfo := List.find?_cons_of_pos hvalid
      rw [hlayouts, reportedSize?, hfind]
      rfl
    refine ⟨convertNames cfg message, ?_, length_convertNames cfg (by omega), ?_⟩
    · rw [if_pos ⟨rfl, hvalid⟩]
      exact convertNames_append cfg (by omega) behind
    · intro hfour
      have hfirst : (convertNames cfg message ++ behind).take 4 = message.take 4 := by
        rw [List.take_append_of_le_length (by rw [length_convertNames cfg] <;> omega)]
        unfold convertNames
        split_ifs
        · rw [List.append_assoc, List.append_assoc, List.append_assoc,
            List.take_append_of_le_length (by rw [List.length_take]; omega), List.take_take]
          rfl
        · rfl
      rw [len, len, wordAt, wordAt, List.drop_zero, List.drop_zero, hfirst]
  · rw [if_neg hcallInfo]
    exact ⟨message, rfl, rfl, hlen⟩

/-! ### Messages -/

/-- A message that is well formed. -/
structure SkinnyMessage where
  bytes : List UInt8
  length_eq : bytes.length = skinnyHeaderLength + (len bytes).toNat
  one_lt_len : 1 < len bytes
  len_lt : len bytes < 2048
  messageType_le : messageType bytes ≤ 0x200

def payloadOf (messages : List SkinnyMessage) : List UInt8 :=
  messages.flatMap SkinnyMessage.bytes

/-- The visits of the messages from an offset on, each with the reports of a packet that holds
it alone. -/
def visitsAlone (cfg : Config) : Nat → List SkinnyMessage → List Visit
  | _, [] => []
  | offset, message :: messages =>
      { offset := offset
        len := (len message.bytes).toNat
        reports := (scanAllSkinnyMessages cfg message.bytes).flatMap Visit.reports } ::
      visitsAlone cfg (offset + message.bytes.length) messages

/-- A message is visited before the bytes behind it, and reports the same with them. -/
structure SelfContained (cfg : Config) (message behind : List UInt8) : Prop where
  length : skinnyMinMessageSize < (message ++ behind).length
  type : messageType (message ++ behind) ≤ 0x200
  layout : ∀ size ∈ reportedSize? cfg (layoutsOf (messageType (message ++ behind)))
    (message ++ behind), size ≤ message.length
  parties : messageType (message ++ behind) = skMessageCallState ∨
    messageType (message ++ behind) = skMessageCcm5CallInfo → KeepsParties cfg message behind

def EachSelfContained (cfg : Config) : List SkinnyMessage → Prop
  | [] => True
  | message :: messages =>
      SelfContained cfg message.bytes (payloadOf messages) ∧ EachSelfContained cfg messages

namespace SkinnyMessage

variable (m : SkinnyMessage)

theorem ten_le_length : 10 ≤ m.bytes.length := by
  have hlen : 1 < (len m.bytes).toNat := m.one_lt_len
  rw [m.length_eq, skinnyHeaderLength]
  omega

theorem len_append (behind : List UInt8) : len (m.bytes ++ behind) = len m.bytes :=
  readsWithin_wordAt (by decide : 0 + 4 ≤ 10) m.bytes behind m.ten_le_length

theorem isSkinnyMessage_append (behind : List UInt8) :
    isSkinnyMessage (m.bytes ++ behind) = true ↔
      skinnyMinMessageSize < (m.bytes ++ behind).length ∧
        messageType (m.bytes ++ behind) ≤ 0x200 := by
  rw [isSkinnyMessage, m.len_append, decide_eq_true m.one_lt_len, decide_eq_true m.len_lt,
    Bool.and_true, Bool.and_true, Bool.and_eq_true, decide_eq_true_eq, decide_eq_true_eq]

/-- Alone in a packet a message reports what its own bytes say. -/
theorem reports_alone (cfg : Config) (behind : List UInt8) :
    (scanAllSkinnyMessages cfg m.bytes).flatMap Visit.reports =
      reportsAs cfg (messageType (m.bytes ++ behind)) m.bytes := by
  by_cases hlength : skinnyMinMessageSize < m.bytes.length
  · have htype : messageType (m.bytes ++ behind) = messageType m.bytes :=
      readsWithin_wordAt (by decide : 8 + 4 ≤ skinnyMinMessageSize) m.bytes behind hlength.le
    have hvisited : isSkinnyMessage m.bytes = true := by
      have hiff := m.isSkinnyMessage_append []
      rw [List.append_nil] at hiff
      exact hiff.mpr ⟨hlength, m.messageType_le⟩
    obtain ⟨fuel, hfuel⟩ : ∃ fuel, m.bytes.length = fuel + 1 :=
      Nat.exists_eq_succ_of_ne_zero (by have := m.ten_le_length; omega)
    have hwhole : ∀ size ∈ reportedSize? cfg (layoutsOf (messageType m.bytes)) (m.bytes ++ []),
        size ≤ m.bytes.length := by
      rw [← layoutReports_append_iff _ _ _ (pairwise_layoutsOf _), List.append_nil]
    obtain ⟨left, hleft, hlengthLeft, hlen⟩ :=
      handleSkinnyMessage_append (congrArg messageType (List.append_nil _)) hwhole
    rw [List.append_nil, List.append_nil] at hleft
    rw [List.append_nil] at hlen
    have hempty : left.drop (skinnyHeaderLength + (len left).toNat) = [] := by
      apply List.drop_eq_nil_of_le
      rw [hlen (by have := m.ten_le_length; omega), hlengthLeft, m.length_eq]
    have hnil (fuel offset : Nat) : scanFrom cfg fuel offset [] = [] := by
      cases fuel <;> rfl
    rw [scanAllSkinnyMessages, hfuel, scanFrom, if_pos hvisited]
    dsimp only
    rw [hleft, hempty, hnil, htype]
    simp [handleSkinnyMessage]
  · have hnot : isSkinnyMessage m.bytes = false := by
      rw [isSkinnyMessage, decide_eq_false hlength]
      rfl
    have hnone : scanAllSkinnyMessages cfg m.bytes = [] := by
      rw [scanAllSkinnyMessages]
      cases m.bytes.length with
      | zero => rfl
      | succ fuel => rw [scanFrom, hnot]; rfl
    rw [hnone, reportsAs_of_short _ (Nat.le_of_not_lt hlength)]
    rfl

end SkinnyMessage

/-! ### The scan -/

variable {fuel offset : Nat} {messages : List SkinnyMessage}

theorem scanFrom_eq_iff (henough : (payloadOf messages).length ≤ fuel) :
    scanFrom cfg fuel offset (payloadOf messages) = visitsAlone cfg offset messages ↔
      EachSelfContained cfg messages := by
  induction messages generalizing fuel offset with
  | nil =>
      have hnil : scanFrom cfg fuel offset [] = [] := by
        cases fuel <;> rfl
      exact ⟨fun _ => trivial, fun _ => hnil⟩
  | cons m messages ih =>
      have hpayload : payloadOf (m :: messages) = m.bytes ++ payloadOf messages := List.flatMap_cons
      have hten := m.ten_le_length
      rw [hpayload, List.length_append] at henough
      obtain ⟨fuel, rfl⟩ : ∃ count, fuel = count + 1 :=
        Nat.exists_eq_succ_of_ne_zero (by omega)
      rw [hpayload, scanFrom, visitsAlone, EachSelfContained]
      by_cases hvisited : isSkinnyMessage (m.bytes ++ payloadOf messages) = true
      · obtain ⟨hlength, htype⟩ := (m.isSkinnyMessage_append _).mp hvisited
        have hreports := reportsAs_append_iff cfg m.bytes (payloadOf messages)
          (messageType (m.bytes ++ payloadOf messages))
        rw [if_pos hvisited]
        dsimp only
        rw [List.cons.injEq, Visit.mk.injEq, m.len_append,
          m.reports_alone cfg (payloadOf messages)]
        have hhead : (handleSkinnyMessage cfg (m.bytes ++ payloadOf messages)).1 =
            reportsAs cfg (messageType (m.bytes ++ payloadOf messages))
              (m.bytes ++ payloadOf messages) := rfl
        -- a message that reports within itself leaves the bytes behind it as they are
        have htail (hlayout : ∀ size ∈ reportedSize? cfg
              (layoutsOf (messageType (m.bytes ++ payloadOf messages)))
              (m.bytes ++ payloadOf messages), size ≤ m.bytes.length) :
            scanFrom cfg fuel (offset + (skinnyHeaderLength + (len
                (handleSkinnyMessage cfg (m.bytes ++ payloadOf messages)).2).toNat))
              ((handleSkinnyMessage cfg (m.bytes ++ payloadOf messages)).2.drop
                (skinnyHeaderLength + (len
                  (handleSkinnyMessage cfg (m.bytes ++ payloadOf messages)).2).toNat)) =
              scanFrom cfg fuel (offset + m.bytes.length) (payloadOf messages) := by
          obtain ⟨left, hleft, hlengthLeft, hlen⟩ := handleSkinnyMessage_append rfl hlayout
          have hdrop : (left ++ payloadOf messages).drop m.bytes.length = payloadOf messages := by
            rw [← hlengthLeft, List.drop_left]
          rw [hleft, hlen (by omega), ← m.length_eq, hdrop]
        constructor
        · rintro ⟨⟨-, -, hsame⟩, hrest⟩
          obtain ⟨hlayout, hparties⟩ := hreports.mp hsame
          rw [htail hlayout] at hrest
          exact ⟨⟨hlength, htype, hlayout, hparties⟩, (ih (by omega)).mp hrest⟩
        · rintro ⟨contained, hrest⟩
          refine ⟨⟨rfl, rfl, hreports.mpr ⟨contained.layout, contained.parties⟩⟩, ?_⟩
          rw [htail contained.layout]
          exact (ih (by omega)).mpr hrest
      · rw [if_neg hvisited]
        constructor
        · intro hequal
          cases hequal
        · rintro ⟨contained, -⟩
          exact absurd ((m.isSkinnyMessage_append _).mpr ⟨contained.length, contained.type⟩) hvisited

/-- The scan visits just the messages, in order and each with the reports that it has alone in
a packet, if and only if each is visited and reports from within itself. -/
theorem scanAllSkinnyMessages_eq_iff (cfg : Config) (messages : List SkinnyMessage) :
    scanAllSkinnyMessages cfg (payloadOf messages) = visitsAlone cfg 0 messages ↔
      EachSelfContained cfg messages := scanFrom_eq_iff (Nat.le_refl _)

/-! A CCM5 CallInfo from 100 to 200 with two tokens, and a message of an unknown type. -/

section

def callInfoOfTwoTokens : SkinnyMessage where
  bytes := [44, 0, 0, 0, 0, 0, 0, 0, 0x4A, 1, 0, 0, 0, 0, 0, 0, 7, 0, 0, 0, 1, 0, 0, 0] ++
    List.replicate 20 0 ++ [49, 48, 48, 0, 50, 48, 48, 0]
  length_eq := by decide
  one_lt_len := by decide
  len_lt := by decide
  messageType_le := by decide

def messageOfTypeZero : SkinnyMessage where
  bytes := [5, 0, 0, 0, 0, 0, 0, 0, 0, 0, 0, 0, 0]
  length_eq := by decide
  one_lt_len := by decide
  len_lt := by decide
  messageType_le := by decide

def Report.calledParty : Report → Option String
  | .callInfo info => some info.calledParty
  | _ => none

def calledParties (visits : List Visit) : List String :=
  visits.flatMap fun visit => visit.reports.filterMap Report.calledParty

/-- The third token is taken from the length of the next message, and replaces the called
party. -/
theorem scanAllSkinnyMessages_reads_behind :
    ¬ ∀ (cfg : Config) (messages : List SkinnyMessage),
      scanAllSkinnyMessages cfg (payloadOf messages) = visitsAlone cfg 0 messages := by
  intro claim
  have hparties := congrArg calledParties (claim {} [callInfoOfTwoTokens, messageOfTypeZero])
  exact absurd hparties (by decide +kernel)

end

end OrkAudio.Skinny
