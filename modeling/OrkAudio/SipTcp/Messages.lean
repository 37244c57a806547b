import OrkAudio.SipTcp.Model

/-! Complete SIP messages, and what `ParseSipStream` finds in a part of a stream of them.

The part ends anywhere: inside a header name, inside the blank line, in a body. Whatever
follows it in memory, the messages that are complete in it are parsed and nothing else. -/

namespace OrkAudio.SipTcp

open Lib

theorem isDigit_iff (c : UInt8) : isDigit c = true ↔ 48 ≤ c.toNat ∧ c.toNat ≤ 57 := by
  simp [isDigit, UInt8.le_iff_toNat_le]

theorem isSpace_of_isDigit {c : UInt8} (hdigit : isDigit c = true) : isSpace c = false := by
  rw [isDigit_iff] at hdigit
  simp only [isSpace, UInt8.le_iff_toNat_le, Bool.or_eq_false_iff, beq_eq_false_iff_ne, ne_eq,
    ← UInt8.toNat_inj, Bool.and_eq_false_iff, decide_eq_false_iff_not]
  constructor
  · intro hsame
    rw [hsame] at hdigit
    exact absurd hdigit.1 (by decide)
  · exact .inr fun hle => absurd (hdigit.1.trans hle) (by decide)

theorem ne_of_isDigit {c d : UInt8} (hdigit : isDigit c = true) (hother : isDigit d = false) :
    c ≠ d := by
  rintro rfl
  rw [hdigit] at hother
  cases hother

theorem toLower_of_isDigit {c : UInt8} (hdigit : isDigit c = true) : toLower c = c := by
  rw [isDigit_iff] at hdigit
  rw [toLower, if_neg]
  intro hupper
  have hle := UInt8.le_iff_toNat_le.mp hupper.1
  exact absurd (hle.trans hdigit.2) (by decide)

theorem ascii_blankLine : ascii "\r\n\r\n" = [13, 10, 13, 10] := by decide

/-- A message with its header `Content-Length: n`. `head` is what comes before that header,
`rest` what comes after the digits, to the end of the blank line. -/
structure SipMessage where
  head : Bytes
  digits : Bytes
  rest : Bytes
  body : Bytes
  digitsNonempty : digits ≠ []
  digitsOnly : ∀ c ∈ digits, isDigit c = true
  contentLength : decimal digits = body.length
  lineEnd : ascii "\r\n" <+: rest
  blankLine : FirstAt (ascii "\r\n\r\n") rest (rest.length - 4)
  onlyHeader :
    FirstAt (ascii "Content-Length: ") (head ++ ascii "Content-Length: " ++ digits ++ rest)
      head.length

namespace SipMessage

/-- What follows `Content-Length: `. -/
def fromDigits (message : SipMessage) : Bytes := message.digits ++ message.rest ++ message.body

def bytes (message : SipMessage) : Bytes :=
  message.head ++ ascii "Content-Length: " ++ message.fromDigits

theorem length_bytes (message : SipMessage) :
    message.bytes.length =
      message.head.length + 16 + (message.digits.length + message.rest.length)
        + message.body.length := by
  have hname : (ascii "Content-Length: ").length = 16 := by decide
  simp only [bytes, fromDigits, List.length_append, hname]
  omega

theorem length_fromDigits (message : SipMessage) :
    message.fromDigits.length =
      message.digits.length + message.rest.length + message.body.length := by
  simp only [fromDigits, List.length_append]

theorem length_rest (message : SipMessage) : 4 ≤ message.rest.length := by
  have hlength : (ascii "\r\n\r\n").length = 4 := by decide
  have hle := message.blankLine.here.length_le
  rw [hlength, List.length_drop] at hle
  omega

theorem length_pos (message : SipMessage) : 0 < message.bytes.length := by
  rw [length_bytes]
  omega

theorem firstAt_contentLength (message : SipMessage) (more : Bytes) :
    FirstAt (ascii "Content-Length: ") (message.bytes ++ more) message.head.length := by
  have first := message.onlyHeader.append (by simp) (message.body ++ more)
  simpa only [bytes, fromDigits, List.append_assoc] using first

/-- No digit can start a blank line. -/
theorem toLower_digit_ne (message : SipMessage) : ∀ c ∈ message.digits, toLower 13 ≠ toLower c := by
  intro c hc
  have hdigit := message.digitsOnly c hc
  rw [toLower_of_isDigit hdigit]
  exact (ne_of_isDigit hdigit (by decide)).symm

theorem firstAt_blankLine (message : SipMessage) (more : Bytes) :
    FirstAt (ascii "\r\n\r\n") (message.fromDigits ++ more)
      (message.digits.length + (message.rest.length - 4)) := by
  have first := message.blankLine.append (by omega) (message.body ++ more)
  rw [ascii_blankLine] at first ⊢
  have first' := first.prepend message.toLower_digit_ne
  simpa only [fromDigits, List.append_assoc] using first'

/-- The length is read right once a byte behind the digits is there. -/
theorem scanContentLen_eq (message : SipMessage) (more tail : Bytes) (stop : Nat)
    (hstop : message.digits.length < stop) (hbody : message.body.length < 2147483648) :
    scanContentLen ((message.fromDigits ++ more).take stop ++ tail) =
      some message.body.length := by
  obtain ⟨behind, hbehind⟩ : ∃ behind,
      (message.fromDigits ++ more).take stop ++ tail = message.digits ++ 13 :: behind := by
    obtain ⟨after, hafter⟩ := message.lineEnd
    obtain ⟨k, hk⟩ : ∃ k, stop = message.digits.length + (k + 1) :=
      ⟨stop - message.digits.length - 1, by omega⟩
    refine ⟨(10 :: (after ++ message.body ++ more)).take k ++ tail, ?_⟩
    rw [hk, fromDigits, ← hafter]
    simp only [List.append_assoc, List.take_length_add_append]
    rfl
  rw [hbehind]
  obtain ⟨d, digits, hd⟩ := List.exists_cons_of_ne_nil message.digitsNonempty
  have hdigit : isDigit d = true := message.digitsOnly d (by simp [hd])
  have htext : (message.digits ++ 13 :: behind).dropWhile isSpace =
      message.digits ++ 13 :: behind := by
    rw [hd, List.cons_append, List.dropWhile_cons_of_neg (by simp [isSpace_of_isDigit hdigit])]
  have htake : (message.digits ++ 13 :: behind).takeWhile isDigit = message.digits := by
    rw [List.takeWhile_append_of_pos message.digitsOnly, List.takeWhile_cons_of_neg (by decide),
      List.append_nil]
  have hminus : d ≠ 45 := ne_of_isDigit hdigit (by decide)
  have hplus : d ≠ 43 := ne_of_isDigit hdigit (by decide)
  have hsign : readSign (message.digits ++ 13 :: behind) = (false, message.digits ++ 13 :: behind) := by
    rw [hd, List.cons_append, readSign]
    · exact fun _ heq => hminus (List.cons.inj heq).1
    · exact fun _ heq => hplus (List.cons.inj heq).1
  rw [scanContentLen, htext, hsign]
  simp only [htake, message.contentLength]
  rw [if_neg]
  simp only [message.digitsNonempty, Bool.false_eq_true, false_and, or_false, false_or]
  omega

end SipMessage

section Parse

variable {message : SipMessage} {more tail : Bytes} {fuel stop : Nat}

theorem contentLength_found (hstop : stop ≤ (message.bytes ++ more).length)
    (hname : message.head.length + 16 ≤ stop) :
    memFindAfter "Content-Length: " ((message.bytes ++ more).take stop ++ tail) stop =
      some (message.head.length + 16) :=
  findAfter_eq (message.firstAt_contentLength more) (by decide) hstop hname

theorem fromLength_known (hstop : stop ≤ (message.bytes ++ more).length)
    (hname : message.head.length + 16 ≤ stop) :
    ((message.bytes ++ more).take stop ++ tail).drop (message.head.length + 16) =
      (message.fromDigits ++ more).take (stop - (message.head.length + 16)) ++ tail := by
  have hfront : (message.head ++ ascii "Content-Length: ").length = message.head.length + 16 := by
    rw [List.length_append]
    rfl
  rw [drop_known hstop hname, SipMessage.bytes, List.append_assoc, ← hfront, List.drop_left]

/-- A message that is complete is parsed, and the loop goes on behind it. -/
theorem parseMessages_complete (hstop : stop ≤ (message.bytes ++ more).length)
    (hcomplete : message.bytes.length ≤ stop) (hbody : message.body.length < 2147483648) :
    parseMessages (fuel + 1) ((message.bytes ++ more).take stop ++ tail) stop =
      (parseMessages fuel (more.take (stop - message.bytes.length) ++ tail)
          (stop - message.bytes.length)).map fun (messages, offset) =>
        (message.bytes :: messages, message.bytes.length + offset) := by
  have hlength := message.length_bytes
  have hrest := message.length_rest
  have hfromDigits := message.length_fromDigits
  have hname : message.head.length + 16 ≤ stop := by omega
  have hblank : memFindAfter "\r\n\r\n"
      ((message.fromDigits ++ more).take (stop - (message.head.length + 16)) ++ tail)
      (stop - (message.head.length + 16)) =
        some (message.digits.length + (message.rest.length - 4) + 4) := by
    apply findAfter_eq (message.firstAt_blankLine more) (by decide)
    · rw [List.length_append] at hstop ⊢
      omega
    · rw [ascii_blankLine]
      simp only [List.length_cons, List.length_nil]
      omega
  have hscan := message.scanContentLen_eq more tail (stop - (message.head.length + 16))
    (by omega) hbody
  have hend : message.head.length + 16 + (message.digits.length + (message.rest.length - 4) + 4)
      + message.body.length = message.bytes.length := by omega
  rw [parseMessages, contentLength_found hstop hname]
  simp only [fromLength_known hstop hname, hblank, hscan, Option.bind_some, hend]
  rw [if_neg (by omega), drop_known hstop hcomplete, List.drop_left]
  have htake : ((message.bytes ++ more).take stop ++ tail).take message.bytes.length =
      message.bytes := by
    rw [List.take_append_of_le_length (by rw [List.length_take_of_le hstop]; exact hcomplete),
      List.take_take, min_eq_left hcomplete, List.take_left]
  rw [htake]

/-- A message that is not complete is left alone. -/
theorem parseMessages_incomplete (hstop : stop ≤ (message.bytes ++ more).length)
    (hincomplete : stop < message.bytes.length) (hbody : message.body.length < 2147483648) :
    parseMessages (fuel + 1) ((message.bytes ++ more).take stop ++ tail) stop = some ([], 0) := by
  have hlength := message.length_bytes
  have hrest := message.length_rest
  have hfromDigits := message.length_fromDigits
  rw [parseMessages]
  by_cases hname : message.head.length + 16 ≤ stop
  · obtain ⟨known, hknown⟩ : ∃ known, known = stop - (message.head.length + 16) := ⟨_, rfl⟩
    simp only [contentLength_found hstop hname, fromLength_known hstop hname, ← hknown]
    have hle : known ≤ (message.fromDigits ++ more).length := by
      rw [List.length_append] at hstop ⊢
      omega
    have first := message.firstAt_blankLine more
    cases hblank : memFindAfter "\r\n\r\n" ((message.fromDigits ++ more).take known ++ tail)
        known with
    | none => rfl
    | some sipHeaderEnd =>
        have hdigits : message.digits.length < known := by
          by_contra hshort
          have hlength : ((message.fromDigits ++ more).take known).length = known :=
            List.length_take_of_le hle
          have htake : ((message.fromDigits ++ more).take known ++ tail).take known =
              message.digits.take known := by
            rw [List.take_append_of_le_length hlength.ge, List.take_take, min_self,
              SipMessage.fromDigits, List.append_assoc, List.append_assoc,
              List.take_append_of_le_length (Nat.le_of_not_lt hshort)]
          have hnone : findAfter [13, 10, 13, 10]
              ((message.fromDigits ++ more).take known ++ tail) known = none := by
            apply findAfter_eq_none
            · rw [List.length_append]
              omega
            · rw [htake]
              exact fun c hc => message.toLower_digit_ne c (List.mem_of_mem_take hc)
          rw [memFindAfter, ascii_blankLine, hnone] at hblank
          cases hblank
        have hbeyond : stop < message.head.length + 16 + sipHeaderEnd + message.body.length := by
          by_cases hheader : message.digits.length + (message.rest.length - 4) + 4 ≤ known
          · have hfound : findAfter (ascii "\r\n\r\n")
                ((message.fromDigits ++ more).take known ++ tail) known = _ :=
              findAfter_eq first (by decide) hle hheader
            rw [memFindAfter, hfound] at hblank
            obtain rfl := Option.some.inj hblank
            rw [ascii_blankLine]
            simp only [List.length_cons, List.length_nil]
            omega
          · have hlt := lt_of_findAfter first hle (Nat.lt_of_not_le hheader) hblank
            omega
        simp only [message.scanContentLen_eq more tail known hdigits hbody, Option.bind_some]
        rw [if_pos hbeyond]
  · cases hfound : memFindAfter "Content-Length: " ((message.bytes ++ more).take stop ++ tail) stop with
    | none => rfl
    | some contentLenStart =>
        have hlt : stop < contentLenStart :=
          lt_of_findAfter (message.firstAt_contentLength more) hstop (Nat.lt_of_not_le hname) hfound
        have hnone : stop - contentLenStart = 0 := by omega
        simp only [hnone, memFindAfter, findAfter_zero]

end Parse

/-- Messages sent one after the other. -/
def wire (messages : List SipMessage) : Bytes := messages.flatMap SipMessage.bytes

/-- The first messages, as far as they are complete in the first `known` bytes. -/
def completeIn : List SipMessage → Nat → List SipMessage
  | [], _ => []
  | message :: messages, known =>
      if message.bytes.length ≤ known then
        message :: completeIn messages (known - message.bytes.length)
      else []

@[simp] theorem wire_nil : wire [] = [] := rfl

@[simp] theorem wire_cons (message : SipMessage) (messages : List SipMessage) :
    wire (message :: messages) = message.bytes ++ wire messages := rfl

@[simp] theorem wire_append (first second : List SipMessage) :
    wire (first ++ second) = wire first ++ wire second := List.flatMap_append

theorem flatten_bytes (messages : List SipMessage) :
    (messages.map SipMessage.bytes).flatten = wire messages := by
  rw [wire, List.flatMap_def]

theorem length_body_le {message : SipMessage} {messages : List SipMessage}
    (hmem : message ∈ messages) : message.body.length < (wire messages).length := by
  obtain ⟨front, back, rfl⟩ := List.append_of_mem hmem
  have hlength := message.length_bytes
  simp only [wire_append, wire_cons, List.length_append]
  omega

/-- What is complete comes first, and what is left is less than the next message. -/
theorem completeIn_split (messages : List SipMessage) {known : Nat}
    (hknown : known ≤ (wire messages).length) :
    ∃ todo left, messages = completeIn messages known ++ todo ∧
      known = (wire (completeIn messages known)).length + left ∧
      left ≤ (wire todo).length ∧ (left = (wire todo).length → todo = []) := by
  induction messages generalizing known with
  | nil => exact ⟨[], 0, rfl, by simpa [completeIn] using hknown, le_rfl, fun _ => rfl⟩
  | cons message messages ih =>
      rw [wire_cons, List.length_append] at hknown
      rw [completeIn]
      split_ifs with hcomplete
      · have hrest : known - message.bytes.length ≤ (wire messages).length := by omega
        obtain ⟨todo, left, hsplit, hleft, hle, hend⟩ := ih hrest
        refine ⟨todo, left, by rw [List.cons_append, ← hsplit], ?_, hle, hend⟩
        rw [wire_cons, List.length_append]
        omega
      · refine ⟨message :: messages, known, rfl, by simp, by simpa using hknown, ?_⟩
        intro hsame
        rw [wire_cons, List.length_append] at hsame
        omega

/-- `ParseSipStream` finds the complete messages of a part of a stream. -/
theorem parseMessages_wire {messages : List SipMessage} {known fuel : Nat} (tail : Bytes)
    (hknown : known ≤ (wire messages).length) (hfuel : known < fuel)
    (hbody : ∀ message ∈ messages, message.body.length < 2147483648) :
    parseMessages fuel ((wire messages).take known ++ tail) known =
      some ((completeIn messages known).map SipMessage.bytes,
        (wire (completeIn messages known)).length) := by
  induction messages generalizing known fuel with
  | nil =>
      obtain ⟨fuel, rfl⟩ : ∃ k, fuel = k + 1 := ⟨fuel - 1, by omega⟩
      obtain rfl : known = 0 := by simpa using hknown
      rfl
  | cons message messages ih =>
      obtain ⟨fuel, rfl⟩ : ∃ k, fuel = k + 1 := ⟨fuel - 1, by omega⟩
      have hpos := message.length_pos
      rw [wire_cons] at hknown ⊢
      rw [completeIn]
      have hmessage := hbody message List.mem_cons_self
      split_ifs with hcomplete
      · have hknown' : known - message.bytes.length ≤ (wire messages).length := by
          rw [List.length_append] at hknown
          omega
        have hfuel' : known - message.bytes.length < fuel := by omega
        have hrest := ih hknown' hfuel'
          (fun other hother => hbody other (List.mem_cons_of_mem _ hother))
        rw [parseMessages_complete hknown hcomplete hmessage, hrest]
        simp
      · rw [parseMessages_incomplete hknown (by omega) hmessage]
        rfl

theorem parseSipStream_wire {messages : List SipMessage} {known : Nat} (tail : Bytes)
    (hknown : known ≤ (wire messages).length)
    (hbody : ∀ message ∈ messages, message.body.length < 2147483648) :
    parseSipStream ((wire messages).take known ++ tail) known =
      some ((completeIn messages known).map SipMessage.bytes,
        (wire (completeIn messages known)).length) :=
  parseMessages_wire tail hknown (Nat.lt_succ_self known) hbody

/-- The messages parsed are the bytes consumed, whatever they are. -/
theorem parseMessages_length {fuel stop offset : Nat} {memory : Bytes} {messages : List Bytes}
    (hstop : stop ≤ memory.length)
    (hparse : parseMessages fuel memory stop = some (messages, offset)) :
    messages.flatten.length = offset ∧ offset ≤ stop := by
  induction fuel generalizing memory stop messages offset with
  | zero => cases hparse
  | succ fuel ih =>
      rw [parseMessages] at hparse
      split at hparse
      · obtain ⟨rfl, rfl⟩ := Prod.mk.inj (Option.some.inj hparse)
        exact ⟨rfl, Nat.zero_le _⟩
      · rename_i contentLenStart hname
        simp only at hparse
        split at hparse
        · obtain ⟨rfl, rfl⟩ := Prod.mk.inj (Option.some.inj hparse)
          exact ⟨rfl, Nat.zero_le _⟩
        · rename_i sipHeaderEnd hblank
          obtain ⟨contentLen, -, hparse⟩ := Option.bind_eq_some_iff.mp hparse
          split_ifs at hparse with hbeyond
          · obtain ⟨rfl, rfl⟩ := Prod.mk.inj (Option.some.inj hparse)
            exact ⟨rfl, Nat.zero_le _⟩
          · obtain ⟨⟨more, consumed⟩, hmore, hsame⟩ := Option.map_eq_some_iff.mp hparse
            obtain ⟨rfl, rfl⟩ := Prod.mk.inj hsame
            obtain ⟨hlength, hle⟩ := ih (by rw [List.length_drop]; omega) hmore
            rw [List.flatten_cons, List.length_append, hlength,
              List.length_take_of_le (by omega)]
            exact ⟨rfl, by omega⟩

end OrkAudio.SipTcp
