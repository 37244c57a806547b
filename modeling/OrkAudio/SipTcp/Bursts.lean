import OrkAudio.SipTcp.Messages

/-! Bursts of SIP messages cut into TCP segments, and when all of them are parsed.

A burst starts with a segment that starts a message and ends with the first segment behind
which no message is open; one stream collects it. A continuation segment reaches that stream
unless its sequence number has wrapped, for then it counts as a duplicate, and the stream
stays unless it is a minute old. -/

namespace OrkAudio.SipTcp

open Lib

/-- The payload of a segment, the memory behind it, and the time of the call. -/
structure Piece where
  payload : Bytes
  tail : Bytes
  time : Nat

def payloads (pieces : List Piece) : Bytes := pieces.flatMap Piece.payload

@[simp] theorem payloads_cons (piece : Piece) (pieces : List Piece) :
    payloads (piece :: pieces) = piece.payload ++ payloads pieces := rfl

/-- The segment with a piece; the field for the sequence number is 32 bits wide. -/
abbrev Piece.at (piece : Piece) (direction : TcpDirection) (seq : Nat) : TcpSegment :=
  { direction := direction, seq := toU32 seq, payload := piece.payload, tail := piece.tail
    time := piece.time }

/-- Pieces sent one after the other, the first at `seq`. -/
def segments (direction : TcpDirection) : Nat → List Piece → List TcpSegment
  | _, [] => []
  | seq, piece :: pieces =>
      piece.at direction seq :: segments direction (seq + piece.payload.length) pieces

/-- No message of `todo` ends with a piece but the last, `known` bytes being there already. -/
def Unaligned (todo : List SipMessage) (known : Nat) (pieces : List Piece) : Prop :=
  ∀ front back done left, pieces = front ++ back → back ≠ [] → todo = done ++ left →
    known + (payloads front).length ≠ (wire done).length

/-- Messages cut into pieces, a first one and continuations. -/
structure Burst where
  messages : List SipMessage
  first : Piece
  rest : List Piece
  cut : payloads (first :: rest) = wire messages
  nonempty : ∀ piece ∈ rest, piece.payload ≠ []
  bounded : first.payload.length < 65536
  starts : startsMessage first.payload = true
  continues : ∀ piece ∈ rest, startsMessage piece.payload = false
  unaligned : Unaligned messages first.payload.length rest

/-- No stream of this direction is open. -/
def Clean (direction : TcpDirection) (streams : List SipTcpStream) : Prop :=
  ∀ stream ∈ streams, stream.direction ≠ direction

/-- Continuation pieces from `seq` on that a stream can take that started at `lastSeqNo`: no
sequence number has wrapped, the buffer's size fits an `int`, and only the last piece may
come a minute after `entryTime`. -/
def CanContinue (lastSeqNo : Nat) (entryTime : Int) : Nat → List Piece → Prop
  | _, [] => True
  | seq, piece :: pieces =>
      seq < 4294967296 ∧ seq - lastSeqNo + piece.payload.length + 1 < 2147483648 ∧
        (pieces ≠ [] → (piece.time : Int) - entryTime < 60) ∧
        CanContinue lastSeqNo entryTime (seq + piece.payload.length) pieces

/-- What the first piece of the burst needs of the others. -/
def Burst.Fits (firstSeq : Nat) (burst : Burst) : Prop :=
  CanContinue firstSeq (toInt32 (toU32 burst.first.time)) (firstSeq + burst.first.payload.length)
    burst.rest

/-! One call, on streams of other directions and at most one of this direction. -/

section Call

variable {direction : TcpDirection} {segment : TcpSegment} {streams : List SipTcpStream}

theorem run_cons {segments : List TcpSegment} {left final : List SipTcpStream}
    {messages more : List Bytes} {result : Bool}
    (hcall : trySipTcp streams segment = some (left, messages, result))
    (hrun : run left segments = some (final, more)) :
    run streams (segment :: segments) = some (final, messages ++ more) := by
  rw [run, hcall, Option.bind_some]
  simp only [hrun, Option.map_some]

/-- A run that is defined is defined call by call. -/
theorem run_cons_inv {segments : List TcpSegment} {final : List SipTcpStream}
    {messages : List Bytes} (hrun : run streams (segment :: segments) = some (final, messages)) :
    ∃ left front back result, trySipTcp streams segment = some (left, front, result) ∧
      run left segments = some (final, back) ∧ messages = front ++ back := by
  rw [run] at hrun
  obtain ⟨⟨left, front, result⟩, hcall, hrest⟩ := Option.bind_eq_some_iff.mp hrun
  obtain ⟨⟨final', back⟩, hback, hsame⟩ := Option.map_eq_some_iff.mp hrest
  obtain ⟨rfl, rfl⟩ := Prod.mk.inj hsame
  exact ⟨left, front, back, result, hcall, hback, rfl⟩

/-- Streams of other directions are only erased. -/
theorem scanStreams_clean (clean : Clean segment.direction streams) (more : List SipTcpStream) :
    scanStreams segment (streams ++ more) =
      (scanStreams segment more).map fun (left, messages, result) =>
        (streams.filter (fun stream => !isOver stream segment) ++ left, messages, result) := by
  induction streams with
  | nil => simp
  | cons stream streams ih =>
      have hother : stream.direction ≠ segment.direction := clean stream List.mem_cons_self
      have hrest := ih fun stream hmem => clean stream (List.mem_cons_of_mem _ hmem)
      rw [List.cons_append, scanStreams, hrest]
      simp only [hother, false_and, decide_false, Bool.false_eq_true, if_false, Option.bind_some,
        Option.map_map]
      cases scanStreams segment more with
      | none => rfl
      | some left => by_cases hover : isOver stream segment <;> simp [hover]

theorem Clean.filter (clean : Clean direction streams) (keep : SipTcpStream → Bool) :
    Clean direction (streams.filter keep) :=
  fun stream hmem => clean stream (List.mem_of_mem_filter hmem)

theorem Clean.not_duplicate (clean : Clean segment.direction streams) :
    isDuplicate streams segment = false := by
  rw [isDuplicate, List.any_eq_false]
  intro stream hmem
  simp [clean stream hmem]

/-- A continuation without a stream parses nothing. -/
theorem trySipTcp_stray (clean : Clean segment.direction streams)
    (hcontinues : startsMessage segment.payload = false) :
    trySipTcp streams segment =
      some (streams.filter (fun stream => !isOver stream segment), [], false) := by
  have hscan := scanStreams_clean clean []
  rw [List.append_nil] at hscan
  rw [trySipTcp, clean.not_duplicate, hcontinues, if_neg Bool.false_ne_true,
    if_neg Bool.false_ne_true, hscan, scanStreams]
  simp

end Call

/-- A stream that has the bytes up to `seq` of a burst that started at `lastSeqNo`: `known`
bytes of the messages `todo` are not parsed yet. -/
structure Open (direction : TcpDirection) (lastSeqNo : Nat) (entryTime : Int) (seq : Nat)
    (todo : List SipMessage) (known : Nat) (stream : SipTcpStream) : Prop where
  direction : stream.direction = direction
  started : stream.lastSeqNo = lastSeqNo
  entryTime : stream.entryTime = entryTime
  expecting : seq < 4294967296 → stream.expectingSeqNo = seq
  size : seq = lastSeqNo + stream.buffer.length
  nonempty : 0 < stream.buffer.length
  pending : stream.buffer.drop stream.offset = (wire todo).take known
  offset : stream.offset + known = stream.buffer.length

section Continuation

variable {direction : TcpDirection} {lastSeqNo seq known : Nat} {entryTime : Int}
  {todo : List SipMessage} {stream : SipTcpStream} {piece : Piece} {pieces : List Piece}

/-- With the next bytes in the buffer, the messages that are complete now are parsed. -/
theorem Open.continueStream (opened : Open direction lastSeqNo entryTime seq todo known stream)
    (hmore : (wire todo).drop known = piece.payload ++ payloads pieces)
    (hpayload : piece.payload ≠ [])
    (hsize : seq - lastSeqNo + piece.payload.length + 1 < 2147483648)
    (hbody : ∀ message ∈ todo, message.body.length < 2147483648) :
    ∃ stream' todo' left,
      SipTcp.continueStream stream (piece.at direction seq) =
        some (stream', (completeIn todo (known + piece.payload.length)).map SipMessage.bytes) ∧
      todo = completeIn todo (known + piece.payload.length) ++ todo' ∧
      (wire todo').drop left = payloads pieces ∧
      known + piece.payload.length =
        (wire (completeIn todo (known + piece.payload.length))).length + left ∧
      (payloads pieces = [] → todo' = [] ∧ left = 0) ∧
      Open direction lastSeqNo entryTime (seq + piece.payload.length) todo' left stream' := by
  have hpos : 0 < piece.payload.length := List.length_pos_of_ne_nil hpayload
  have hlength := congrArg List.length hmore
  rw [List.length_drop, List.length_append] at hlength
  have hknown : known + piece.payload.length ≤ (wire todo).length := by omega
  have hoffset := opened.offset
  have hseq := opened.size
  have hbuffer : (stream.buffer ++ piece.payload).drop stream.offset =
      (wire todo).take (known + piece.payload.length) := by
    rw [List.drop_append_of_le_length (by omega), opened.pending, List.take_add, hmore,
      List.take_left]
  have hparse := parseSipStream_wire [0] hknown hbody
  obtain ⟨todo', left, hsplit, hleft, hle, hend⟩ := completeIn_split todo hknown
  obtain ⟨done, hdone⟩ : ∃ done, done = completeIn todo (known + piece.payload.length) := ⟨_, rfl⟩
  rw [← hdone] at hparse hsplit hleft ⊢
  have hcall : SipTcp.continueStream stream (piece.at direction seq) =
      some ({ stream with
          offset := stream.offset + (wire done).length
          expectingSeqNo := stream.expectingSeqNo + piece.payload.length
          buffer := stream.buffer ++ piece.payload }, done.map SipMessage.bytes) := by
    have hrest : (stream.buffer ++ piece.payload).length - stream.offset =
        known + piece.payload.length := by
      rw [List.length_append]
      omega
    have hfits : stream.buffer.length + piece.payload.length + 1 < 2147483648 := by omega
    rw [SipTcp.continueStream, addTcpPacket, if_pos hfits, Option.bind_some]
    simp only [hbuffer, hrest, hparse, Option.map_some]
  have hdrop := congrArg (List.drop piece.payload.length) hmore
  rw [List.drop_drop, List.drop_left, hleft, hsplit, wire_append, List.drop_length_add_append]
    at hdrop
  refine ⟨_, todo', left, hcall, hsplit, hdrop, hleft, ?_, ?_⟩
  · intro hempty
    rw [hempty, List.drop_eq_nil_iff] at hdrop
    have htodo : todo' = [] := hend (hle.antisymm hdrop)
    rw [htodo, wire_nil, List.length_nil] at hle
    exact ⟨htodo, Nat.le_zero.mp hle⟩
  · constructor
    · exact opened.direction
    · exact opened.started
    · exact opened.entryTime
    · intro hwrap
      simp only [opened.expecting (by omega)]
    · simp only [List.length_append]
      omega
    · simp only [List.length_append]
      omega
    · simp only
      rw [← List.drop_drop, hbuffer, hleft, hsplit, wire_append, List.take_length_add_append,
        List.drop_left]
    · simp only [List.length_append]
      omega

theorem Unaligned.tail (unaligned : Unaligned todo known (piece :: pieces)) :
    Unaligned todo (known + piece.payload.length) pieces := by
  intro front back done left hpieces hback htodo
  have hne := unaligned (piece :: front) back done left (by rw [hpieces, List.cons_append]) hback
    htodo
  rwa [payloads_cons, List.length_append, ← Nat.add_assoc] at hne

theorem Unaligned.drop {done left : List SipMessage} {behind : Nat}
    (unaligned : Unaligned todo known pieces) (hsplit : todo = done ++ left)
    (hknown : known = (wire done).length + behind) : Unaligned left behind pieces := by
  intro front back more still hpieces hback hleft
  have hne := unaligned front back (done ++ more) still hpieces hback
    (by rw [hsplit, hleft, List.append_assoc])
  rw [wire_append, List.length_append] at hne
  omega

theorem Unaligned.pos (unaligned : Unaligned todo known pieces) (hpieces : pieces ≠ []) :
    0 < known := by
  have hne := unaligned [] pieces [] todo rfl hpieces rfl
  exact Nat.pos_of_ne_zero hne

/-- The stream is found by its next segment while the sequence number has not wrapped. -/
theorem Open.trySipTcp (opened : Open direction lastSeqNo entryTime seq todo known stream)
    {others : List SipTcpStream} (clean : Clean direction others)
    (hcontinues : startsMessage piece.payload = false) (hwrap : seq < 4294967296)
    {stream' : SipTcpStream} {messages : List Bytes}
    (hcall : SipTcp.continueStream stream (piece.at direction seq) = some (stream', messages)) :
    SipTcp.trySipTcp (others ++ [stream]) (piece.at direction seq) =
      some (others.filter (fun other => !isOver other (piece.at direction seq)) ++
        (if isOver stream' (piece.at direction seq) then [] else [stream']), messages, true) := by
  have hseq : toU32 (seq : Nat) = seq := toU32_of_lt hwrap
  have hsize := opened.size
  have hnonempty := opened.nonempty
  have hnew : isDuplicate (others ++ [stream]) (piece.at direction seq) = false := by
    have hothers : isDuplicate others (piece.at direction seq) = false :=
      Clean.not_duplicate clean
    have hlast : ¬ toU32 (seq : Int) ≤ lastSeqNo := by omega
    rw [isDuplicate] at hothers ⊢
    rw [List.any_append, hothers, List.any_cons, List.any_nil, opened.started]
    simp [hlast]
  have hexpected : stream.direction = direction ∧ stream.expectingSeqNo = toU32 seq :=
    ⟨opened.direction, by rw [opened.expecting hwrap, hseq]⟩
  rw [SipTcp.trySipTcp, hnew, hcontinues, if_neg Bool.false_ne_true, if_neg Bool.false_ne_true,
    scanStreams_clean clean]
  simp only [scanStreams, hexpected, and_self, decide_true, if_true, hcall, Option.bind_some,
    Option.map_some, List.append_nil, Bool.true_or]

theorem Open.isOver_iff (opened : Open direction lastSeqNo entryTime seq todo known stream)
    {segment : TcpSegment} :
    isOver stream segment = true ↔ known = 0 ∨ 60 ≤ (segment.time : Int) - entryTime := by
  have hoffset := opened.offset
  rw [isOver, Bool.or_eq_true, decide_eq_true_eq, decide_eq_true_eq, opened.entryTime]
  apply or_congr_left
  omega

/-- A stream that can take all continuations of its burst parses all of its messages. -/
theorem run_continues {others : List SipTcpStream} (hpieces : pieces ≠ [])
    (opened : Open direction lastSeqNo entryTime seq todo known stream)
    (clean : Clean direction others) (hmore : (wire todo).drop known = payloads pieces)
    (unaligned : Unaligned todo known pieces)
    (hnonempty : ∀ piece ∈ pieces, piece.payload ≠ [])
    (hcontinues : ∀ piece ∈ pieces, startsMessage piece.payload = false)
    (hbody : ∀ message ∈ todo, message.body.length < 2147483648)
    (fits : CanContinue lastSeqNo entryTime seq pieces) :
    ∃ final, run (others ++ [stream]) (segments direction seq pieces) =
      some (final, todo.map SipMessage.bytes) ∧ Clean direction final := by
  induction pieces generalizing others stream seq todo known with
  | nil => exact absurd rfl hpieces
  | cons piece pieces ih =>
      obtain ⟨hwrap, hsize, hage, fits⟩ := fits
      obtain ⟨stream', todo', left, hcall, hsplit, hmore', hknown, hend, opened'⟩ :=
        opened.continueStream hmore (hnonempty piece List.mem_cons_self) hsize hbody
      have hstep := opened.trySipTcp clean (hcontinues piece List.mem_cons_self) hwrap hcall
      have clean' := clean.filter fun other => !isOver other (piece.at direction seq)
      by_cases hlast : pieces = []
      · subst hlast
        obtain ⟨rfl, rfl⟩ := hend rfl
        rw [List.append_nil] at hsplit
        rw [if_pos (opened'.isOver_iff.mpr (.inl rfl)), List.append_nil, ← hsplit] at hstep
        have hdone : run (others.filter fun other => !isOver other (piece.at direction seq))
            (segments direction (seq + piece.payload.length) []) = some (_, []) := rfl
        have hrun := run_cons hstep hdone
        rw [List.append_nil] at hrun
        exact ⟨_, hrun, clean'⟩
      · have unaligned' := unaligned.tail.drop hsplit hknown
        have hkeeps : ¬ isOver stream' (piece.at direction seq) = true := by
          rw [opened'.isOver_iff]
          have hpos := unaligned'.pos hlast
          exact not_or.mpr ⟨hpos.ne', Int.not_le.mpr (hage hlast)⟩
        obtain ⟨final, hrun, hfinal⟩ := ih hlast opened' clean' hmore' unaligned'
          (fun other hmem => hnonempty other (List.mem_cons_of_mem _ hmem))
          (fun other hmem => hcontinues other (List.mem_cons_of_mem _ hmem))
          (fun message hmem => hbody message (hsplit ▸ List.mem_append_right _ hmem)) fits
        rw [if_neg hkeeps] at hstep
        refine ⟨final, ?_, hfinal⟩
        rw [segments, run_cons hstep hrun, ← List.map_append, ← hsplit]

/-- Continuations without a stream parse nothing. -/
theorem run_stray {streams : List SipTcpStream} (clean : Clean direction streams)
    (hcontinues : ∀ piece ∈ pieces, startsMessage piece.payload = false) :
    ∃ final, run streams (segments direction seq pieces) = some (final, []) := by
  induction pieces generalizing streams seq with
  | nil => exact ⟨streams, rfl⟩
  | cons piece pieces ih =>
      have hstray : trySipTcp streams (piece.at direction seq) = _ :=
        trySipTcp_stray clean (hcontinues piece List.mem_cons_self)
      obtain ⟨final, hrun⟩ := ih
        (clean.filter fun other => !isOver other (piece.at direction seq))
        fun other hmem => hcontinues other (List.mem_cons_of_mem _ hmem)
      exact ⟨final, run_cons hstray hrun⟩

/-- What a stream has parsed are bytes of its buffer, and the buffer's size fits an `int`. -/
structure Within (direction : TcpDirection) (stream : SipTcpStream) : Prop where
  direction : stream.direction = direction
  offset : stream.offset ≤ stream.buffer.length
  size : stream.buffer.length + 1 < 2147483648

theorem continueStream_account {stream' : SipTcpStream} {segment : TcpSegment}
    {messages : List Bytes} (within : Within direction stream)
    (hcall : SipTcp.continueStream stream segment = some (stream', messages)) :
    Within direction stream' ∧ stream'.offset = stream.offset + messages.flatten.length ∧
      stream'.buffer.length = stream.buffer.length + segment.payload.length := by
  rw [SipTcp.continueStream, addTcpPacket] at hcall
  split_ifs at hcall with hfits
  · rw [Option.bind_some, Option.map_eq_some_iff] at hcall
    obtain ⟨⟨messages, consumed⟩, hparse, hsame⟩ := hcall
    obtain ⟨rfl, rfl⟩ := Prod.mk.inj hsame
    have hoffset := within.offset
    obtain ⟨hlength, hle⟩ := parseMessages_length (by simp) hparse
    simp only [List.length_append] at hle ⊢
    refine ⟨⟨within.direction, ?_, ?_⟩, by rw [hlength], trivial⟩
    · simp only [List.length_append]
      omega
    · simp only [List.length_append]
      omega
  · cases hcall

/-- One continuation: the bytes parsed are taken from the stream, which has at most the bytes
of the segment more than before, and none more if it counted as a duplicate. -/
theorem trySipTcp_account {others left : List SipTcpStream} {messages : List Bytes} {result : Bool}
    (clean : Clean direction others) (within : Within direction stream)
    (hcontinues : startsMessage piece.payload = false)
    (hcall : SipTcp.trySipTcp (others ++ [stream]) (piece.at direction seq) =
      some (left, messages, result)) :
    ∃ others' stream', Clean direction others' ∧ Within direction stream' ∧
      (left = others' ∨ left = others' ++ [stream']) ∧
      stream'.offset = stream.offset + messages.flatten.length ∧
      stream'.buffer.length ≤ stream.buffer.length + piece.payload.length := by
  rw [SipTcp.trySipTcp] at hcall
  split_ifs at hcall with hduplicate hstarts
  · obtain ⟨rfl, hrest⟩ := Prod.mk.inj (Option.some.inj hcall)
    obtain ⟨rfl, -⟩ := Prod.mk.inj hrest
    exact ⟨others, stream, clean, within, .inr rfl, rfl, Nat.le_add_right _ _⟩
  · rw [hcontinues] at hstarts
    cases hstarts
  · rw [scanStreams_clean clean] at hcall
    obtain ⟨⟨kept, parsed, found⟩, hscan, hsame⟩ := Option.map_eq_some_iff.mp hcall
    obtain ⟨rfl, hrest⟩ := Prod.mk.inj hsame
    obtain ⟨rfl, -⟩ := Prod.mk.inj hrest
    have clean' := clean.filter fun other => !isOver other (piece.at direction seq)
    simp only [scanStreams, Option.map_some] at hscan
    obtain ⟨⟨stream', parsed'⟩, hoffered, hsame⟩ := Option.bind_eq_some_iff.mp hscan
    obtain ⟨rfl, hrest⟩ := Prod.mk.inj (Option.some.inj hsame)
    obtain ⟨rfl, -⟩ := Prod.mk.inj hrest
    have hbooked : Within direction stream' ∧
        stream'.offset = stream.offset + parsed'.flatten.length ∧
        stream'.buffer.length ≤ stream.buffer.length + piece.payload.length := by
      split_ifs at hoffered
      · obtain ⟨within', hoffset, hbuffer⟩ := continueStream_account within hoffered
        exact ⟨within', hoffset, hbuffer.le⟩
      · obtain ⟨rfl, rfl⟩ := Prod.mk.inj (Option.some.inj hoffered)
        exact ⟨within, rfl, Nat.le_add_right _ _⟩
    refine ⟨_, stream', clean', hbooked.1, ?_, by simpa using hbooked.2⟩
    split_ifs
    · exact .inl (List.append_nil _)
    · exact .inr rfl

/-- What a run parses of a stream is less than an `int` can count and no more than the
bytes that were there or came. -/
theorem run_account {others final : List SipTcpStream} {messages : List Bytes}
    (clean : Clean direction others) (within : Within direction stream)
    (hcontinues : ∀ piece ∈ pieces, startsMessage piece.payload = false)
    (hrun : run (others ++ [stream]) (segments direction seq pieces) = some (final, messages)) :
    stream.offset + messages.flatten.length + 1 < 2147483648 ∧
      stream.offset + messages.flatten.length ≤ stream.buffer.length + (payloads pieces).length := by
  induction pieces generalizing others stream seq messages with
  | nil =>
      obtain ⟨-, rfl⟩ := Prod.mk.inj (Option.some.inj hrun)
      have hoffset := within.offset
      have hsize := within.size
      simp only [List.flatten_nil, List.length_nil]
      omega
  | cons piece pieces ih =>
      rw [segments] at hrun
      obtain ⟨left, front, back, result, hcall, hback, rfl⟩ := run_cons_inv hrun
      have hrest : ∀ other ∈ pieces, startsMessage other.payload = false :=
        fun other hmem => hcontinues other (List.mem_cons_of_mem _ hmem)
      obtain ⟨others', stream', clean', within', hleft, hoffset, hbuffer⟩ :=
        trySipTcp_account clean within (hcontinues piece List.mem_cons_self) hcall
      rw [List.flatten_append, List.length_append, payloads_cons, List.length_append]
      rcases hleft with rfl | rfl
      · have hnone : back = [] := by
          obtain ⟨stray, hstray⟩ := run_stray clean' hrest
          rw [hstray] at hback
          exact (Prod.mk.inj (Option.some.inj hback)).2.symm
        have hle := within'.offset
        have hsize := within'.size
        rw [hnone, List.flatten_nil, List.length_nil]
        omega
      · obtain ⟨hsize, hle⟩ := ih clean' within' hrest hback
        omega

theorem payloads_pos (hpieces : pieces ≠ []) (hnonempty : ∀ piece ∈ pieces, piece.payload ≠ []) :
    0 < (payloads pieces).length := by
  obtain ⟨piece, rest, rfl⟩ := List.exists_cons_of_ne_nil hpieces
  have hpos := List.length_pos_of_ne_nil (hnonempty piece List.mem_cons_self)
  rw [payloads_cons, List.length_append]
  omega

theorem Open.within (opened : Open direction lastSeqNo entryTime seq todo known stream)
    (hsize : stream.buffer.length + 1 < 2147483648) : Within direction stream := by
  have hoffset := opened.offset
  exact ⟨opened.direction, by omega, hsize⟩

theorem length_eq_of_drop (hpieces : pieces ≠ []) (hnonempty : ∀ piece ∈ pieces, piece.payload ≠ [])
    (hmore : (wire todo).drop known = payloads pieces) :
    (wire todo).length = known + (payloads pieces).length := by
  have hpos := payloads_pos hpieces hnonempty
  have hlength := congrArg List.length hmore
  rw [List.length_drop] at hlength
  omega

/-- A segment whose sequence number has wrapped counts as a duplicate. -/
theorem Open.wrapped (opened : Open direction lastSeqNo entryTime seq todo known stream)
    {others : List SipTcpStream} (hwrap : 4294967296 ≤ seq)
    (hsize : stream.buffer.length < 2147483648) :
    SipTcp.trySipTcp (others ++ [stream]) (piece.at direction seq) =
      some (others ++ [stream], [], true) := by
  have hseq := opened.size
  have hlast : toU32 (seq : Int) ≤ lastSeqNo := by
    rw [toU32]
    omega
  have hduplicate : isDuplicate (others ++ [stream]) (piece.at direction seq) = true := by
    rw [isDuplicate, List.any_append, Bool.or_eq_true]
    right
    simp [opened.direction, opened.started, hlast]
  rw [SipTcp.trySipTcp, if_pos hduplicate]

/-- If all messages are parsed, the stream could take all continuations. -/
theorem canContinue_of_run {others final : List SipTcpStream}
    (opened : Open direction lastSeqNo entryTime seq todo known stream)
    (clean : Clean direction others) (hmore : (wire todo).drop known = payloads pieces)
    (unaligned : Unaligned todo known pieces)
    (hnonempty : ∀ piece ∈ pieces, piece.payload ≠ [])
    (hcontinues : ∀ piece ∈ pieces, startsMessage piece.payload = false)
    (hsize : stream.offset + (wire todo).length + 1 < 2147483648)
    (hrun : run (others ++ [stream]) (segments direction seq pieces) =
      some (final, todo.map SipMessage.bytes)) :
    CanContinue lastSeqNo entryTime seq pieces := by
  induction pieces generalizing others stream seq todo known with
  | nil => trivial
  | cons piece pieces ih =>
      have hpayload := List.length_pos_of_ne_nil (hnonempty piece List.mem_cons_self)
      have hnonempty' : ∀ other ∈ pieces, other.payload ≠ [] :=
        fun other hmem => hnonempty other (List.mem_cons_of_mem _ hmem)
      have hcontinues' : ∀ other ∈ pieces, startsMessage other.payload = false :=
        fun other hmem => hcontinues other (List.mem_cons_of_mem _ hmem)
      have hlength := length_eq_of_drop (List.cons_ne_nil _ _) hnonempty hmore
      rw [payloads_cons, List.length_append] at hlength
      have hoffset := opened.offset
      have hseq := opened.size
      have within := opened.within (by omega)
      rw [segments] at hrun
      obtain ⟨left', front, back, result, hcall, hback, hall⟩ := run_cons_inv hrun
      have hwrap : seq < 4294967296 := by
        by_contra hwrapped
        rw [opened.wrapped (Nat.le_of_not_lt hwrapped) (by omega)] at hcall
        obtain ⟨rfl, hrest⟩ := Prod.mk.inj (Option.some.inj hcall)
        obtain ⟨rfl, -⟩ := Prod.mk.inj hrest
        have hle := (run_account clean within hcontinues' hback).2
        rw [List.nil_append] at hall
        rw [← hall, flatten_bytes] at hle
        omega
      have hfits : seq - lastSeqNo + piece.payload.length + 1 < 2147483648 := by omega
      have hbody : ∀ message ∈ todo, message.body.length < 2147483648 := by
        intro message hmem
        have hlt := length_body_le hmem
        omega
      obtain ⟨stream', todo', left, hstream, hsplit, hmore', hknown, -, opened'⟩ :=
        opened.continueStream hmore (hnonempty piece List.mem_cons_self) hfits hbody
      have hstep := opened.trySipTcp clean (hcontinues piece List.mem_cons_self) hwrap hstream
      rw [hstep] at hcall
      obtain ⟨rfl, hrest⟩ := Prod.mk.inj (Option.some.inj hcall)
      obtain ⟨rfl, -⟩ := Prod.mk.inj hrest
      obtain rfl : back = todo'.map SipMessage.bytes := by
        have hsame := congrArg (List.map SipMessage.bytes) hsplit
        rw [List.map_append, hall] at hsame
        exact List.append_cancel_left hsame
      have clean' := clean.filter fun other => !isOver other (piece.at direction seq)
      by_cases hlast : pieces = []
      · subst hlast
        exact ⟨hwrap, hfits, fun h => absurd rfl h, trivial⟩
      · have unaligned' := unaligned.tail.drop hsplit hknown
        have hlength' := length_eq_of_drop hlast hnonempty' hmore'
        have hpos := payloads_pos hlast hnonempty'
        have hkeeps : ¬ isOver stream' (piece.at direction seq) = true := by
          intro hover
          rw [if_pos hover, List.append_nil] at hback
          obtain ⟨stray, hstray⟩ := run_stray clean' hcontinues'
          rw [hstray] at hback
          have hnone := congrArg List.flatten (Prod.mk.inj (Option.some.inj hback)).2
          rw [flatten_bytes] at hnone
          rw [← hnone, List.flatten_nil, List.length_nil] at hlength'
          omega
        rw [if_neg hkeeps] at hback
        have hyoung : (piece.time : Int) - entryTime < 60 := by
          rw [opened'.isOver_iff, not_or] at hkeeps
          exact Int.not_le.mp hkeeps.2
        have hoffset' := opened'.offset
        have hseq' := opened'.size
        exact ⟨hwrap, hfits, fun _ => hyoung,
          ih opened' clean' hmore' unaligned' hnonempty' hcontinues' (by omega) hback⟩

end Continuation

/-! Whole bursts. -/

section Bursts

variable {direction : TcpDirection} {firstSeq : Nat} {streams : List SipTcpStream} {burst : Burst}

/-- The segments of a burst that starts at `firstSeq`. -/
def Burst.segments (burst : Burst) (direction : TcpDirection) (firstSeq : Nat) : List TcpSegment :=
  SipTcp.segments direction firstSeq (burst.first :: burst.rest)

theorem newStream_eq {segment : TcpSegment} {offset : Nat}
    (hfits : segment.payload.length + 1 < 2147483648) :
    newStream segment offset =
      some {
        direction := segment.direction
        expectingSeqNo := toU32 (segment.seq + segment.payload.length)
        lastSeqNo := segment.seq
        offset := offset
        entryTime := toInt32 (toU32 segment.time)
        buffer := segment.payload } := by
  rw [newStream, addTcpPacket, if_pos (by simpa using hfits)]
  rfl

/-- The first call parses what is complete and opens a stream for the rest. -/
theorem Burst.first_call (clean : Clean direction streams) (hseq : firstSeq < 4294967296)
    (hbody : ∀ message ∈ burst.messages, message.body.length < 2147483648) :
    ∃ left done todo,
      trySipTcp streams (burst.first.at direction firstSeq) =
        some (left, done.map SipMessage.bytes, true) ∧ burst.messages = done ++ todo ∧
      (burst.rest = [] ∧ left = streams ∧ todo = [] ∨
        burst.rest ≠ [] ∧ ∃ known opening, left = streams ++ [opening] ∧
          (wire todo).drop known = payloads burst.rest ∧ Unaligned todo known burst.rest ∧
          Open direction firstSeq (toInt32 (toU32 burst.first.time))
            (firstSeq + burst.first.payload.length) todo known opening) := by
  have hcut := burst.cut
  rw [payloads_cons] at hcut
  have hfield : toU32 (firstSeq : Int) = firstSeq := toU32_of_lt hseq
  have hlength := congrArg List.length hcut
  rw [List.length_append] at hlength
  have hbounded := burst.bounded
  have hstarts := burst.starts
  have hlong : 28 + 3 ≤ burst.first.payload.length := by
    rw [startsMessage, Bool.and_eq_true, decide_eq_true_eq] at hstarts
    exact hstarts.1
  have hknown : burst.first.payload.length ≤ (wire burst.messages).length := by omega
  obtain ⟨todo, known, hsplit, hleft, hle, hend⟩ := completeIn_split burst.messages hknown
  have hparse := parseSipStream_wire burst.first.tail hknown hbody
  rw [← hcut, List.take_left] at hparse
  obtain ⟨done, hdone⟩ :
      ∃ done, done = completeIn burst.messages burst.first.payload.length := ⟨_, rfl⟩
  rw [← hdone] at hparse hsplit hleft
  have hdrop : (wire todo).drop known = payloads burst.rest := by
    have hbehind := congrArg (List.drop burst.first.payload.length) hcut
    rw [List.drop_left, hleft, hsplit, wire_append, List.drop_length_add_append] at hbehind
    exact hbehind.symm
  have unaligned := burst.unaligned.drop hsplit hleft
  have hduplicate : isDuplicate streams (burst.first.at direction firstSeq) = false :=
    Clean.not_duplicate clean
  have hcall : trySipTcp streams (burst.first.at direction firstSeq) =
      if (wire done).length = burst.first.payload.length then
        some (streams, done.map SipMessage.bytes, true)
      else (newStream (burst.first.at direction firstSeq) (wire done).length).map
        fun stream => (streams ++ [stream], done.map SipMessage.bytes, true) := by
    rw [trySipTcp, hduplicate, if_neg Bool.false_ne_true]
    simp only [hstarts, if_true, hparse, Option.bind_some]
  by_cases hlast : burst.rest = []
  · rw [hlast] at hdrop
    have htodo : todo = [] := hend (hle.antisymm (List.drop_eq_nil_iff.mp hdrop))
    rw [htodo, wire_nil, List.length_nil] at hle
    rw [if_pos (by omega)] at hcall
    exact ⟨_, done, todo, hcall, hsplit, .inl ⟨hlast, rfl, htodo⟩⟩
  · have hpos := unaligned.pos hlast
    have hfits : (burst.first.at direction firstSeq).payload.length + 1 < 2147483648 := by
      show burst.first.payload.length + 1 < 2147483648
      omega
    rw [if_neg (by omega), newStream_eq hfits, Option.map_some] at hcall
    refine ⟨_, done, todo, hcall, hsplit,
      .inr ⟨hlast, known, _, rfl, hdrop, unaligned, ?_⟩⟩
    constructor
    · rfl
    · exact hfield
    · rfl
    · intro hwrap
      simp only [hfield]
      exact toU32_of_lt hwrap
    · rfl
    · simp only
      omega
    · have htake := congrArg (List.take burst.first.payload.length) hcut
      rw [List.take_left, hleft, hsplit, wire_append, List.take_length_add_append] at htake
      simp only
      rw [htake, List.drop_left]
    · exact hleft.symm

end Bursts

end OrkAudio.SipTcp
