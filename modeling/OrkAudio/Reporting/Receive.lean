import OrkAudio.Reporting.Model

/-! `OrkHttpClient::ExecuteUrl`: what is made of the bytes a tracker sends.

The loop ends where the socket gives no more bytes for whatever reason, and where the bytes
come too late; the code behind it does not tell the reasons apart. -/

namespace OrkAudio.Reporting

open Lib hiding Bytes
open Serializer

/-! ### The exchange -/

/-- What `apr_socket_recv` gave with success: one byte at least. `late` says whether the
clock, read next, is past the time limit. -/
structure Segment where
  bytes : Bytes
  late : Bool := false
  nonempty : bytes ≠ []

/-- Why `apr_socket_recv` gave no bytes in the end: an orderly close, an error, or a time-out. -/
inductive Ending
  | close
  | error
  | timeUp
  deriving DecidableEq

def bufSize : Nat := 4096

/-- Each call asks for as many bytes as the one before has given: `numReceived` is not set
again. -/
def Sized : Nat → List Segment → Prop
  | _, [] => True
  | numReceived, segment :: segments =>
      segment.bytes.length ≤ numReceived ∧ Sized segment.bytes.length segments

/-- What the socket does for one request. `connected` says whether the request was sent, and
`unread` is what the tracker has sent that was never received. -/
structure Exchange where
  connected : Bool := true
  segments : List Segment
  ending : Ending
  unread : Bytes := []
  sized : Sized bufSize segments
  all_read : ending = .close → unread = []

namespace Exchange

/-- The byte stream that the tracker sends. -/
def stream (x : Exchange) : Bytes := x.segments.flatMap Segment.bytes ++ x.unread

end Exchange

/-! ### The loop -/

def crlfcrlf : Bytes := [13, 10, 13, 10]

/-- The local variables of the loop. -/
structure Received where
  header : Bytes := []
  gotHeader : Bool := false
  response : Bytes := []

/-- The header is delimited by CR-LF-CR-LF, but not if that is all there is of it. -/
def endsHeader (header : Bytes) : Bool :=
  decide (4 < header.length) && decide (header.drop (header.length - 4) = crlfcrlf)

def Received.takeByte (received : Received) (c : TChar) : Received :=
  if received.gotHeader then { received with response := received.response ++ [c] }
  else
    { received with
      header := received.header ++ [c]
      gotHeader := endsHeader (received.header ++ [c]) }

def Received.loop : Received → List Segment → Received
  | received, [] => received
  | received, segment :: segments =>
      if segment.late then received
      else (segment.bytes.foldl Received.takeByte received).loop segments

/-- Whether the characters from the tenth on are this status. -/
def hasStatus (header status : Bytes) : Bool := decide ((header.drop 9).take 3 = status)

/-- `ExecuteUrl`, with the response string. -/
def executeUrl (x : Exchange) : Bool × Bytes :=
  if !x.connected then (false, [])
  else
    let received := ({} : Received).loop x.segments
    if decide (12 < received.header.length) && hasStatus received.header (text "400") then
      (true, received.response)
    else if received.header.length < 12 ∨ received.response.length ≤ 0 then
      (false, received.response)
    else if !hasStatus received.header (text "200") then (false, received.response)
    else (true, received.response)

/-- What `Execute` goes on with. -/
def outcomeOf (x : Exchange) : Outcome :=
  if (executeUrl x).1 then .response (executeUrl x).2 else .failure

/-! ### What the loop has received -/

/-- The bytes received so far: all of them header, without its end; or the header, which
ends for the first time where it does, and the response. -/
structure Split (bytes : Bytes) (received : Received) : Prop where
  joined : received.header ++ received.response = bytes
  waits : received.gotHeader = false → received.response = []
  ends : received.gotHeader = endsHeader received.header
  first : ∀ front, front <+: received.header → endsHeader front = true → front = received.header

namespace Split

variable {bytes : Bytes} {received : Received}

theorem start : Split [] {} := by
  refine ⟨rfl, fun _ => rfl, rfl, fun front hfront _ => ?_⟩
  exact List.prefix_nil.mp hfront

theorem takeByte (split : Split bytes received) (c : TChar) :
    Split (bytes ++ [c]) (received.takeByte c) := by
  rcases split with ⟨rfl, hwaits, hends, hfirst⟩
  unfold Received.takeByte
  cases hgot : received.gotHeader with
  | true =>
      rw [if_pos rfl]
      refine ⟨?_, ?_, ?_, hfirst⟩
      · rw [List.append_assoc]
      · intro hnot
        cases hnot
      · exact hgot.symm.trans hends
  | false =>
      rw [if_neg Bool.false_ne_true]
      have hempty := hwaits hgot
      refine ⟨?_, fun _ => hempty, rfl, fun front hfront hfrontEnds => ?_⟩
      · rw [hempty, List.append_nil, List.append_nil]
      · rcases List.prefix_concat_iff.mp hfront with rfl | hbefore
        · rfl
        · -- the header had not ended before this byte
          rw [hfirst front hbefore hfrontEnds, ← hends, hgot] at hfrontEnds
          cases hfrontEnds

theorem takeBytes (split : Split bytes received) (more : Bytes) :
    Split (bytes ++ more) (more.foldl Received.takeByte received) := by
  induction more generalizing bytes received with
  | nil =>
      rw [List.append_nil]
      exact split
  | cons c more ih =>
      have hrest := ih (split.takeByte c)
      rw [List.append_assoc] at hrest
      exact hrest

end Split

/-- The bytes of the segments before the first that comes too late. -/
def taken (segments : List Segment) : Bytes :=
  (segments.takeWhile fun segment => !segment.late).flatMap Segment.bytes

theorem split_loop {bytes : Bytes} {received : Received} (split : Split bytes received)
    (segments : List Segment) : Split (bytes ++ taken segments) (received.loop segments) := by
  induction segments generalizing bytes received with
  | nil =>
      have hnone : taken [] = [] := rfl
      rw [hnone, List.append_nil]
      exact split
  | cons segment segments ih =>
      cases hlate : segment.late with
      | true =>
          have hnone : taken (segment :: segments) = [] := by
            rw [taken, List.takeWhile_cons_of_neg (by simp [hlate]), List.flatMap_nil]
          rw [hnone, List.append_nil, Received.loop, hlate, if_pos rfl]
          exact split
      | false =>
          have hmore : taken (segment :: segments) = segment.bytes ++ taken segments := by
            rw [taken, List.takeWhile_cons_of_pos (by simp [hlate]), List.flatMap_cons, taken]
          rw [hmore, Received.loop, hlate, if_neg Bool.false_ne_true, ← List.append_assoc]
          exact ih (split.takeBytes segment.bytes)

/-! ### The response -/

/-- The bytes behind the first CR-LF-CR-LF. -/
def IsBody (bytes body : Bytes) : Prop :=
  ∃ head, bytes = head ++ (crlfcrlf ++ body) ∧
    ∀ front, front ++ crlfcrlf <+: bytes → head.length ≤ front.length

/-- What must hold of an exchange: a response other than one of status 400 is taken for one
only after an orderly close, and is all that follows the header. -/
def ReadWhole (x : Exchange) : Prop :=
  (executeUrl x).1 = true → hasStatus x.stream (text "400") = false →
    x.ending = .close ∧ IsBody x.stream (executeUrl x).2

/-- The bytes are a header of status 200, with something before its end, and a body. -/
def ReadsAs200 (bytes : Bytes) : Prop :=
  ∃ head body, bytes = head ++ (crlfcrlf ++ body) ∧ head ≠ [] ∧ body ≠ [] ∧
    12 ≤ (head ++ crlfcrlf).length ∧ hasStatus (head ++ crlfcrlf) (text "200") = true ∧
    ∀ front, front ≠ [] → front ++ crlfcrlf <+: bytes → head.length ≤ front.length

theorem hasStatus_of_front {front bytes : Bytes} (hleads : front <+: bytes)
    (hlong : 12 ≤ front.length) (status : Bytes) :
    hasStatus bytes status = hasStatus front status := by
  rcases hleads with ⟨rest, rfl⟩
  rw [hasStatus, hasStatus, List.drop_append_of_le_length (by omega),
    List.take_append_of_le_length (by rw [List.length_drop]; omega)]

theorem endsHeader_iff {header : Bytes} :
    endsHeader header = true ↔ ∃ head, head ≠ [] ∧ header = head ++ crlfcrlf := by
  rw [endsHeader, Bool.and_eq_true, decide_eq_true_eq, decide_eq_true_eq]
  constructor
  · rintro ⟨hlong, hend⟩
    refine ⟨header.take (header.length - 4), ?_, ?_⟩
    · rw [← List.length_pos_iff, List.length_take]
      omega
    · rw [← hend, List.take_append_drop]
  · rintro ⟨head, hne, rfl⟩
    have hpositive := List.length_pos_iff.mpr hne
    have hfour : crlfcrlf.length = 4 := rfl
    rw [List.length_append, hfour]
    refine ⟨by omega, ?_⟩
    rw [Nat.add_sub_cancel, List.drop_left]

namespace Split

variable {bytes head body : Bytes} {received : Received}

theorem header_prefix (split : Split bytes received) : received.header <+: bytes :=
  ⟨received.response, split.joined⟩

/-- The header ends where a CR-LF-CR-LF is met for the first time behind the first byte. -/
theorem unique (split : Split bytes received) (hbytes : bytes = head ++ (crlfcrlf ++ body))
    (hne : head ≠ []) (hfirst : ∀ front, front ≠ [] → front ++ crlfcrlf <+: bytes →
      head.length ≤ front.length) :
    received.header = head ++ crlfcrlf ∧ received.response = body := by
  have hleads : head ++ crlfcrlf <+: bytes := ⟨body, by rw [hbytes, List.append_assoc]⟩
  have hends : endsHeader (head ++ crlfcrlf) = true := endsHeader_iff.mpr ⟨head, hne, rfl⟩
  have hlong : (head ++ crlfcrlf).length ≤ received.header.length := by
    cases hgot : received.gotHeader with
    | false =>
        have hall := split.joined
        rw [split.waits hgot, List.append_nil] at hall
        rw [hall]
        exact hleads.length_le
    | true =>
        rcases endsHeader_iff.mp (split.ends.symm.trans hgot) with ⟨front, hfront, hheader⟩
        have hle := hfirst front hfront (hheader ▸ split.header_prefix)
        rw [hheader, List.length_append, List.length_append]
        omega
  have hinside := List.prefix_of_prefix_length_le hleads split.header_prefix hlong
  have hheader := split.first _ hinside hends
  refine ⟨hheader.symm, ?_⟩
  have hjoined := split.joined
  rw [hbytes, ← hheader, List.append_assoc] at hjoined
  exact List.append_cancel_left (List.append_cancel_left hjoined)

theorem readsAs200_iff (split : Split bytes received) :
    ReadsAs200 bytes ↔ received.response ≠ [] ∧ 12 ≤ received.header.length ∧
      hasStatus received.header (text "200") = true := by
  constructor
  · rintro ⟨head, body, hbytes, hne, hbody, hlong, hstatus, hfirst⟩
    rcases split.unique hbytes hne hfirst with ⟨hheader, hresponse⟩
    rw [hheader, hresponse]
    exact ⟨hbody, hlong, hstatus⟩
  · rintro ⟨hbody, hlong, hstatus⟩
    have hgot : received.gotHeader = true := by
      by_contra hnot
      exact hbody (split.waits (Bool.eq_false_iff.mpr hnot))
    rcases endsHeader_iff.mp (split.ends.symm.trans hgot) with ⟨head, hne, hheader⟩
    rw [hheader] at hlong hstatus
    have hjoined := split.joined
    rw [hheader, List.append_assoc] at hjoined
    refine ⟨head, received.response, hjoined.symm, hne, hbody, hlong, hstatus, ?_⟩
    intro front hfront hleads
    by_contra hshort
    have hinside : front ++ crlfcrlf <+: received.header := by
      apply List.prefix_of_prefix_length_le hleads split.header_prefix
      rw [hheader, List.length_append, List.length_append]
      omega
    have hsame := split.first _ hinside (endsHeader_iff.mpr ⟨front, hfront, rfl⟩)
    rw [hheader] at hsame
    have hequal := List.append_cancel_right hsame
    rw [hequal] at hshort
    exact hshort (le_refl _)

end Split

namespace Exchange

variable (x : Exchange)

theorem taken_prefix : taken x.segments <+: x.stream := by
  have hwhile := List.takeWhile_prefix (fun segment : Segment => !segment.late) (l := x.segments)
  rcases hwhile with ⟨rest, hrest⟩
  refine ⟨rest.flatMap Segment.bytes ++ x.unread, ?_⟩
  rw [stream, ← hrest, taken, List.flatMap_append, List.append_assoc, hrest]

/-- With bytes that come too late, something of the stream is not taken. -/
theorem taken_short {segments : List Segment} (hlate : ∃ s ∈ segments, s.late = true) :
    (taken segments).length < (segments.flatMap Segment.bytes).length := by
  induction segments with
  | nil =>
      rcases hlate with ⟨s, hs, -⟩
      cases hs
  | cons segment segments ih =>
      have hpositive := List.length_pos_iff.mpr segment.nonempty
      rw [List.flatMap_cons, List.length_append]
      cases hfirst : segment.late with
      | true =>
          have hnone : taken (segment :: segments) = [] := by
            rw [taken, List.takeWhile_cons_of_neg (by simp [hfirst]), List.flatMap_nil]
          rw [hnone, List.length_nil]
          omega
      | false =>
          have hmore : taken (segment :: segments) = segment.bytes ++ taken segments := by
            rw [taken, List.takeWhile_cons_of_pos (by simp [hfirst]), List.flatMap_cons, taken]
          have hrest : ∃ s ∈ segments, s.late = true := by
            rcases hlate with ⟨s, hs, hs'⟩
            rcases List.mem_cons.mp hs with rfl | hs
            · rw [hfirst] at hs'
              cases hs'
            · exact ⟨s, hs, hs'⟩
          have hlt := ih hrest
          rw [hmore, List.length_append]
          omega

theorem taken_all {segments : List Segment} (hlate : ∀ s ∈ segments, s.late = false) :
    taken segments = segments.flatMap Segment.bytes := by
  rw [taken, List.takeWhile_eq_self_iff.mpr]
  intro s hs
  rw [hlate s hs]
  rfl

/-- The exchange is taken for a response of another status than 400 exactly when the bytes
that came in time are one of status 200. -/
theorem accepted_iff :
    ((executeUrl x).1 = true ∧ hasStatus x.stream (text "400") = false) ↔
      x.connected = true ∧ ReadsAs200 (taken x.segments) := by
  have split : Split (taken x.segments) (({} : Received).loop x.segments) :=
    split_loop Split.start x.segments
  have hleads := split.header_prefix.trans x.taken_prefix
  rw [split.readsAs200_iff, executeUrl]
  generalize ({} : Received).loop x.segments = received at hleads
  cases x.connected with
  | false => simp
  | true =>
      rw [Bool.not_true, if_neg Bool.false_ne_true]
      simp only [true_and]
      rcases Nat.lt_or_ge received.header.length 12 with hshort | hlong
      · have hfirst : ¬ (12 < received.header.length) := by omega
        rw [decide_eq_false hfirst, Bool.false_and, if_neg Bool.false_ne_true,
          if_pos (.inl hshort)]
        simp only [Bool.false_eq_true, false_and, false_iff, not_and]
        intro _ hlong
        omega
      · rw [hasStatus_of_front hleads hlong]
        cases hrefused : hasStatus received.header (text "400") with
        | true =>
            have hnot : hasStatus received.header (text "200") = false := by
              rw [hasStatus, decide_eq_true_eq] at hrefused
              rw [hasStatus, hrefused]
              decide
            simp [hnot]
        | false =>
            rw [Bool.and_false, if_neg Bool.false_ne_true]
            by_cases hempty : received.response = []
            · rw [if_pos (.inr (by rw [hempty]; exact le_refl _))]
              simp [hempty]
            · have hpositive := List.length_pos_iff.mpr hempty
              rw [if_neg (by omega)]
              cases hasStatus received.header (text "200") with
              | true => simp [hempty, hlong]
              | false => simp

theorem response_eq {head body : Bytes} (hconnected : x.connected = true)
    (hbytes : taken x.segments = head ++ (crlfcrlf ++ body)) (hne : head ≠ [])
    (hfirst : ∀ front, front ≠ [] → front ++ crlfcrlf <+: taken x.segments →
      head.length ≤ front.length) : (executeUrl x).2 = body := by
  have split : Split (taken x.segments) (({} : Received).loop x.segments) :=
    split_loop Split.start x.segments
  have hresponse := (split.unique hbytes hne hfirst).2
  rw [executeUrl, hconnected, Bool.not_true, if_neg Bool.false_ne_true]
  simp only
  split_ifs
  all_goals exact hresponse

end Exchange

/-- A response is read whole or not at all exactly when what came in time, if it reads as
one of status 200, is the whole stream up to an orderly close, and does not begin with the
end of a header. -/
theorem readWhole_iff (x : Exchange) :
    ReadWhole x ↔ (x.connected = true → ReadsAs200 (taken x.segments) →
      x.ending = .close ∧ (∀ s ∈ x.segments, s.late = false) ∧ ¬ crlfcrlf <+: x.stream) := by
  have hfour : crlfcrlf.length = 4 := rfl
  constructor
  · intro whole hconnected reads
    rcases x.accepted_iff.mpr ⟨hconnected, reads⟩ with ⟨haccepted, hother⟩
    rcases whole haccepted hother with ⟨hclose, front, hstream, hleast⟩
    rcases reads with ⟨head, body, hbytes, hne, -, -, -, hfirst⟩
    rw [x.response_eq hconnected hbytes hne hfirst] at hstream
    have htaken : (taken x.segments).length = head.length + 4 + body.length := by
      rw [hbytes, List.length_append, List.length_append, hfour, Nat.add_assoc]
    have hlength : x.stream.length = front.length + 4 + body.length := by
      rw [hstream, List.length_append, List.length_append, hfour, Nat.add_assoc]
    have hpositive := List.length_pos_iff.mpr hne
    have hinside : head ++ crlfcrlf <+: x.stream :=
      List.IsPrefix.trans ⟨body, by rw [hbytes, List.append_assoc]⟩ x.taken_prefix
    have hle := hleast head hinside
    have hfront := x.taken_prefix.length_le
    refine ⟨hclose, ?_, fun hbegins => ?_⟩
    · -- bytes that are not taken would have to be part of the response
      by_contra hlate
      have hsome : ∃ s ∈ x.segments, s.late = true := by
        rw [not_forall] at hlate
        rcases hlate with ⟨s, hs⟩
        rw [Classical.not_imp] at hs
        exact ⟨s, hs.1, by simpa using hs.2⟩
      have hshort := Exchange.taken_short hsome
      have hmore : x.stream.length = (x.segments.flatMap Segment.bytes).length := by
        rw [Exchange.stream, x.all_read hclose, List.append_nil]
      omega
    · have hzero := hleast [] hbegins
      rw [List.length_nil] at hzero
      omega
  · intro ends haccepted hother
    rcases x.accepted_iff.mp ⟨haccepted, hother⟩ with ⟨hconnected, reads⟩
    rcases ends hconnected reads with ⟨hclose, hlate, hbegins⟩
    rcases reads with ⟨head, body, hbytes, hne, -, -, -, hfirst⟩
    have hstream : x.stream = taken x.segments := by
      rw [Exchange.stream, x.all_read hclose, List.append_nil, Exchange.taken_all hlate]
    refine ⟨hclose, head, ?_, ?_⟩
    · rw [x.response_eq hconnected hbytes hne hfirst, hstream, hbytes]
    · intro front hfront
      apply hfirst front ?_ (hstream ▸ hfront)
      rintro rfl
      exact hbegins hfront

/-- "deletetape=true" is cut short by a time-out. -/
def cutShort : Exchange where
  segments := [⟨text "HTTP/1.0 200 OK\r\n\r\ndelete", false, by decide⟩]
  ending := .timeUp
  sized := ⟨by decide, trivial⟩
  all_read := by decide

theorem cutShort_accepted : ¬ ∀ x, ReadWhole x := by
  intro whole
  have hcut : (executeUrl cutShort).1 = true ∧
      hasStatus cutShort.stream (text "400") = false := by decide +kernel
  exact absurd (whole cutShort hcut.1 hcut.2).1 (by decide)

end OrkAudio.Reporting
