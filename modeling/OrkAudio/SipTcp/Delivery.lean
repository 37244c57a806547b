import OrkAudio.SipTcp.Bursts

/-! Whether every message of a connection reaches `ParseSipMessage`.

A burst is delivered if and only if its stream can take all its continuations; nothing of
it is left behind then, so that bursts can follow each other. -/

namespace OrkAudio.SipTcp

open Lib

variable {direction : TcpDirection} {firstSeq : Nat} {streams : List SipTcpStream} {burst : Burst}

theorem clean_nil (direction : TcpDirection) : Clean direction [] :=
  fun _ hmem => absurd hmem List.not_mem_nil

/-- The last piece has the strongest bound on the buffer's size. -/
theorem CanContinue.size {lastSeqNo seq : Nat} {entryTime : Int} {pieces : List Piece}
    (hcan : CanContinue lastSeqNo entryTime seq pieces) (hpieces : pieces ≠ [])
    (hseq : lastSeqNo ≤ seq) : seq - lastSeqNo + (payloads pieces).length + 1 < 2147483648 := by
  induction pieces generalizing seq with
  | nil => exact absurd rfl hpieces
  | cons piece pieces ih =>
      obtain ⟨-, hsize, -, hrest⟩ := hcan
      rw [payloads_cons, List.length_append]
      by_cases hlast : pieces = []
      · simpa [hlast, payloads] using hsize
      · have hmore := ih hrest hlast (by omega)
        omega

theorem Burst.length_eq (burst : Burst) :
    (wire burst.messages).length = burst.first.payload.length + (payloads burst.rest).length := by
  rw [← burst.cut, payloads_cons, List.length_append]

/-- A burst whose stream can take all continuations is delivered, and its stream is erased. -/
theorem Burst.delivered (clean : Clean direction streams) (hseq : firstSeq < 4294967296)
    (fits : burst.Fits firstSeq) :
    ∃ final, run streams (burst.segments direction firstSeq) =
      some (final, burst.messages.map SipMessage.bytes) ∧ Clean direction final := by
  have hlength := burst.length_eq
  have hbounded := burst.bounded
  have htotal : (wire burst.messages).length + 1 < 2147483648 := by
    by_cases hlast : burst.rest = []
    · rw [hlast] at hlength
      simp only [payloads, List.flatMap_nil, List.length_nil] at hlength
      omega
    · have hsize := CanContinue.size fits hlast (Nat.le_add_right _ _)
      omega
  have hbody : ∀ message ∈ burst.messages, message.body.length < 2147483648 := by
    intro message hmem
    have hlt := length_body_le hmem
    omega
  obtain ⟨left, done, todo, hcall, hsplit, hrest⟩ := Burst.first_call clean hseq hbody
  rw [Burst.segments, SipTcp.segments]
  rcases hrest with ⟨hlast, rfl, rfl⟩ | ⟨hlast, known, opening, rfl, hmore, unaligned, opened⟩
  · rw [List.append_nil] at hsplit
    have hrun := run_cons hcall (rfl : run left [] = some (left, []))
    rw [List.append_nil, ← hsplit] at hrun
    rw [hlast]
    exact ⟨left, hrun, clean⟩
  · obtain ⟨final, hrun, hfinal⟩ := run_continues hlast opened clean hmore unaligned burst.nonempty
      burst.continues (fun message hmem => hbody message (hsplit ▸ List.mem_append_right _ hmem))
      fits
    refine ⟨final, ?_, hfinal⟩
    rw [run_cons hcall hrun, ← List.map_append, ← hsplit]

/-- What one stream parses is less than an `int` can count. -/
theorem Burst.size_of_delivered (clean : Clean direction streams) {final : List SipTcpStream}
    (hrun : run streams (burst.segments direction firstSeq) =
      some (final, burst.messages.map SipMessage.bytes)) :
    (wire burst.messages).length + 1 < 2147483648 := by
  rw [Burst.segments, SipTcp.segments] at hrun
  obtain ⟨left, front, back, result, hcall, hback, hall⟩ := run_cons_inv hrun
  have htotal := congrArg (fun messages => messages.flatten.length) hall
  simp only [flatten_bytes, List.flatten_append, List.length_append] at htotal
  have hduplicate : isDuplicate streams (burst.first.at direction firstSeq) = false :=
    Clean.not_duplicate clean
  have hstarts := burst.starts
  have hbounded := burst.bounded
  rw [trySipTcp, hduplicate, if_neg Bool.false_ne_true] at hcall
  simp only [hstarts, if_true] at hcall
  obtain ⟨⟨messages, offset⟩, hparse, hopened⟩ := Option.bind_eq_some_iff.mp hcall
  obtain ⟨hlength, hle⟩ := parseMessages_length (by simp) hparse
  split_ifs at hopened
  · obtain ⟨rfl, hrest⟩ := Prod.mk.inj (Option.some.inj hopened)
    obtain ⟨rfl, -⟩ := Prod.mk.inj hrest
    obtain ⟨stray, hstray⟩ := run_stray clean burst.continues
    rw [hstray] at hback
    obtain ⟨-, rfl⟩ := Prod.mk.inj (Option.some.inj hback)
    simp only [List.flatten_nil, List.length_nil] at htotal
    omega
  · have hfits : (burst.first.at direction firstSeq).payload.length + 1 < 2147483648 := by
      show burst.first.payload.length + 1 < 2147483648
      omega
    rw [newStream_eq hfits, Option.map_some] at hopened
    obtain ⟨rfl, hrest⟩ := Prod.mk.inj (Option.some.inj hopened)
    obtain ⟨rfl, -⟩ := Prod.mk.inj hrest
    have hbooked := (run_account clean ⟨rfl, hle, hfits⟩ burst.continues hback).1
    simp only at hbooked hlength htotal
    omega

/-- A burst that is delivered has a stream that could take all continuations. -/
theorem Burst.fits_of_delivered (clean : Clean direction streams) (hseq : firstSeq < 4294967296)
    {final : List SipTcpStream}
    (hrun : run streams (burst.segments direction firstSeq) =
      some (final, burst.messages.map SipMessage.bytes)) : burst.Fits firstSeq := by
  have htotal := Burst.size_of_delivered clean hrun
  have hlength := burst.length_eq
  have hbody : ∀ message ∈ burst.messages, message.body.length < 2147483648 := by
    intro message hmem
    have hlt := length_body_le hmem
    omega
  obtain ⟨left, done, todo, hcall, hsplit, hrest⟩ := Burst.first_call clean hseq hbody
  rcases hrest with ⟨hlast, -, -⟩ | ⟨hlast, known, opening, rfl, hmore, unaligned, opened⟩
  · rw [Burst.Fits, hlast]
    trivial
  · rw [Burst.segments, SipTcp.segments] at hrun
    obtain ⟨left', front, back, result, hcall', hback, hall⟩ := run_cons_inv hrun
    rw [hcall] at hcall'
    obtain ⟨rfl, hrest⟩ := Prod.mk.inj (Option.some.inj hcall')
    obtain ⟨rfl, -⟩ := Prod.mk.inj hrest
    obtain rfl : back = todo.map SipMessage.bytes := by
      have hsame := congrArg (List.map SipMessage.bytes) hsplit
      rw [List.map_append, hall] at hsame
      exact List.append_cancel_left hsame
    have hoffset := opened.offset
    have hsize := opened.size
    have htodo := length_eq_of_drop hlast burst.nonempty hmore
    exact canContinue_of_run opened clean hmore unaligned burst.nonempty burst.continues (by omega)
      hback

/-- Bursts sent one after the other, the first at `firstSeq`: what the calls for each of them
give to `ParseSipMessage`. -/
def deliver (direction : TcpDirection) :
    Nat → List SipTcpStream → List Burst → Option (List (List Bytes))
  | _, _, [] => some []
  | firstSeq, streams, burst :: bursts =>
      (run streams (burst.segments direction firstSeq)).bind fun (streams, messages) =>
        (deliver direction (toU32 (firstSeq + (wire burst.messages).length)) streams bursts).map
          (messages :: ·)

/-- Every burst fits where it starts. -/
def BurstsFit : Nat → List Burst → Prop
  | _, [] => True
  | firstSeq, burst :: bursts =>
      burst.Fits firstSeq ∧ BurstsFit (toU32 (firstSeq + (wire burst.messages).length)) bursts

/-- Each burst's messages are parsed by its calls, exactly once, in order and with exactly
their bytes, if and only if every burst fits. -/
theorem deliver_iff (clean : Clean direction streams) (hseq : firstSeq < 4294967296)
    (bursts : List Burst) :
    deliver direction firstSeq streams bursts =
        some (bursts.map fun burst => burst.messages.map SipMessage.bytes) ↔
      BurstsFit firstSeq bursts := by
  induction bursts generalizing firstSeq streams with
  | nil => exact ⟨fun _ => trivial, fun _ => rfl⟩
  | cons burst bursts ih =>
      have hnext := toU32_lt (firstSeq + (wire burst.messages).length)
      constructor
      · intro hdelivered
        rw [deliver] at hdelivered
        obtain ⟨⟨final, messages⟩, hrun, hrest⟩ := Option.bind_eq_some_iff.mp hdelivered
        obtain ⟨more, hmore, hsame⟩ := Option.map_eq_some_iff.mp hrest
        obtain ⟨rfl, rfl⟩ := List.cons.inj hsame
        have fits := Burst.fits_of_delivered clean hseq hrun
        obtain ⟨final', hrun', clean'⟩ := Burst.delivered clean hseq fits
        rw [hrun] at hrun'
        obtain ⟨rfl, -⟩ := Prod.mk.inj (Option.some.inj hrun')
        exact ⟨fits, (ih clean' hnext).mp hmore⟩
      · rintro ⟨fits, hrest⟩
        obtain ⟨final, hrun, clean'⟩ := Burst.delivered clean hseq fits
        have hmore := (ih clean' hnext).mpr hrest
        rw [deliver, hrun, Option.bind_some]
        simp only [hmore, Option.map_some, List.map_cons]

/-- An INVITE without a body. -/
def invite : SipMessage where
  head := ascii "INVITE sip:a@b SIP/2.0\r\n"
  digits := ascii "0"
  rest := ascii "\r\n\r\n"
  body := []
  digitsNonempty := by decide
  digitsOnly := by
    intro c hc
    obtain rfl := List.mem_singleton.mp hc
    decide
  contentLength := by decide
  lineEnd := by decide
  blankLine := ⟨by decide, by decide⟩
  onlyHeader := ⟨by decide, by decide⟩

/-- The INVITE in a segment of 40 bytes and one of 5. -/
def inviteInTwo : Burst where
  messages := [invite]
  first := { payload := invite.bytes.take 40, tail := [], time := 0 }
  rest := [{ payload := invite.bytes.drop 40, tail := [], time := 0 }]
  cut := by decide
  nonempty := by decide
  bounded := by decide
  starts := by decide
  continues := by decide
  unaligned := by
    intro front back done left hrest hback hmessages
    rcases List.singleton_eq_append_iff.mp hrest with ⟨rfl, -⟩ | ⟨-, rfl⟩
    · rcases List.singleton_eq_append_iff.mp hmessages with ⟨rfl, -⟩ | ⟨rfl, -⟩ <;> decide
    · exact absurd rfl hback

theorem deliver_iff_two_segments :
    deliver ⟨1, 2, 5060, 5060⟩ 7 [] [inviteInTwo] = some [[invite.bytes]] :=
  (deliver_iff (clean_nil _) (by decide) [inviteInTwo]).mpr
    ⟨⟨by decide, by decide, fun h => absurd rfl h, trivial⟩, trivial⟩

/-- When each byte of the pieces arrives. -/
def arrivals (pieces : List Piece) : List Nat :=
  pieces.flatMap fun piece => List.replicate piece.payload.length piece.time

/-- No message takes a minute or more to arrive. -/
def Burst.Timely (burst : Burst) : Prop :=
  ∀ done message todo, burst.messages = done ++ message :: todo →
    ∀ time ∈ ((arrivals (burst.first :: burst.rest)).drop (wire done).length).take
        message.bytes.length,
      ∀ other ∈ ((arrivals (burst.first :: burst.rest)).drop (wire done).length).take
          message.bytes.length,
        other < time + 60

/-- The second segment of the INVITE has sequence number 0, so it counts as a duplicate. -/
theorem wrapped_segment_dropped :
    ¬ ∀ direction firstSeq bursts, firstSeq < 4294967296 → (∀ burst ∈ bursts, burst.Timely) →
      deliver direction firstSeq [] bursts =
        some (bursts.map fun burst => burst.messages.map SipMessage.bytes) := by
  intro claim
  have timely : ∀ burst ∈ [inviteInTwo], burst.Timely := by
    intro burst hmem
    obtain rfl := List.mem_singleton.mp hmem
    have hzero : ∀ time ∈ arrivals (inviteInTwo.first :: inviteInTwo.rest), time = 0 := by decide
    intro done message todo _ time htime other hother
    have htime' := hzero time (List.mem_of_mem_drop (List.mem_of_mem_take htime))
    have hother' := hzero other (List.mem_of_mem_drop (List.mem_of_mem_take hother))
    omega
  have hdelivered := claim ⟨1, 2, 5060, 5060⟩ 4294967256 [inviteInTwo] (by decide) timely
  rw [deliver] at hdelivered
  obtain ⟨⟨final, messages⟩, hrun, hrest⟩ := Option.bind_eq_some_iff.mp hdelivered
  obtain ⟨more, -, hsame⟩ := Option.map_eq_some_iff.mp hrest
  obtain ⟨rfl, -⟩ := List.cons.inj hsame
  have fits := Burst.fits_of_delivered (clean_nil _) (by decide) hrun
  exact absurd fits.1 (by decide)

end OrkAudio.SipTcp
