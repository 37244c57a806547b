import OrkAudio.SipTcp.Model

/-! `ParseSipStream` on any bytes, with whatever stands for a length in them. A negative length
ends a message before the place where its header does. -/

namespace OrkAudio.SipTcp

open Lib

/-- What the standard leaves open of `sscanf` with `%d`: what is stored for a number that is no
`int`, and what the variable holds in a turn of the loop if no number is read. -/
structure Scanf where
  overflow : Int → Int
  unread : Nat → Int

/-- The number that `%d` reads, none when there is none. -/
def scanDecimal (memory : Bytes) : Option Int :=
  let (negative, text) := readSign (memory.dropWhile isSpace)
  let digits := text.takeWhile isDigit
  if digits = [] then none
  else if negative then some (-(decimal digits : Int))
  else some (decimal digits : Int)

/-- `contentLen` after `sscanf(contentLenStart, "%d\r\n", &contentLen)`, an `int`. -/
def contentLength (scanf : Scanf) (turn : Nat) (memory : Bytes) : Int :=
  match scanDecimal memory with
  | none => toInt32 (toU32 (scanf.unread turn))
  | some number =>
      if -2147483648 ≤ number ∧ number < 2147483648 then number
      else toInt32 (toU32 (scanf.overflow number))

/-- Where the message at the front of the memory ends, none when it is not there or not complete
within `stop` bytes. -/
def messageEnd? (scanf : Scanf) (turn : Nat) (memory : Bytes) (stop : Nat) : Option Int :=
  match memFindAfter "Content-Length: " memory stop with
  | none => none
  | some contentLenStart =>
      match memFindAfter "\r\n\r\n" (memory.drop contentLenStart) (stop - contentLenStart) with
      | none => none
      | some sipHeaderEnd =>
          let sipMessageEnd : Int := contentLenStart + sipHeaderEnd +
            contentLength scanf turn (memory.drop contentLenStart)
          if (stop : Int) < sipMessageEnd then none else some sipMessageEnd

/-- A message as it is passed to `ParseSipMessage`. -/
structure Slice where
  sipMessageStart : Nat
  sipMessageEnd : Int
  deriving DecidableEq

inductive Outcome
  | returned (offset : Nat)
  /-- The next message would start before the buffer. -/
  | beforeBuffer
  deriving DecidableEq

/-- The loop of `ParseSipStream` over a buffer of `stop` bytes, none when it takes more than
`fuel` turns. -/
def parseFrom (scanf : Scanf) (memory : Bytes) (stop : Nat) :
    Nat → Nat → Nat → Option (List Slice × Outcome)
  | 0, _, _ => none
  | fuel + 1, turn, sipMessageStart =>
      match messageEnd? scanf turn (memory.drop sipMessageStart) (stop - sipMessageStart) with
      | none => some ([], .returned sipMessageStart)
      | some length =>
          let sipMessageEnd : Int := sipMessageStart + length
          if sipMessageEnd < 0 then some ([⟨sipMessageStart, sipMessageEnd⟩], .beforeBuffer)
          else
            (parseFrom scanf memory stop fuel (turn + 1) sipMessageEnd.toNat).map
              fun (slices, outcome) => (⟨sipMessageStart, sipMessageEnd⟩ :: slices, outcome)

/-- Slices that are not empty, each starting where the one before it ends. -/
inductive Adjacent : Nat → List Slice → Nat → Prop
  | nil (start : Nat) : Adjacent start [] start
  | cons {start next offset : Nat} {slices : List Slice} (hlt : start < next)
      (rest : Adjacent next slices offset) :
      Adjacent start (⟨start, next⟩ :: slices) offset

/-- From a place on the loop ends, at an offset in the buffer, and has passed on such slices. -/
def ParsesFrom (scanf : Scanf) (memory : Bytes) (stop turn start : Nat) : Prop :=
  ∃ fuel slices offset, parseFrom scanf memory stop fuel turn start =
      some (slices, .returned offset) ∧ offset ≤ stop ∧ Adjacent start slices offset

/-- The turn and place that the messages found from the front of the buffer on lead to, as long
as they have bytes. -/
inductive Reaches (scanf : Scanf) (memory : Bytes) (stop : Nat) : Nat → Nat → Prop
  | start : Reaches scanf memory stop 0 0
  | next {turn place length : Nat} (reaches : Reaches scanf memory stop turn place)
      (hend : messageEnd? scanf turn (memory.drop place) (stop - place) = some (length : Int))
      (hpos : 0 < length) : Reaches scanf memory stop (turn + 1) (place + length)

theorem adjacent_cons {start offset : Nat} {slice : Slice} {slices : List Slice}
    (adjacent : Adjacent start (slice :: slices) offset) :
    ∃ next : Nat, slice.sipMessageEnd = next ∧ start < next ∧ Adjacent next slices offset := by
  cases adjacent with
  | cons hlt rest => exact ⟨_, rfl, hlt, rest⟩

variable {scanf : Scanf} {memory : Bytes} {stop turn start place : Nat}

theorem messageEnd?_le {length : Int} (hend : messageEnd? scanf turn memory stop = some length) :
    length ≤ stop := by
  unfold messageEnd? at hend
  split at hend
  · cases hend
  · split at hend
    · cases hend
    · dsimp only at hend
      split_ifs at hend with hlonger
      rw [← Option.some.inj hend]
      exact Int.not_lt.mp hlonger

theorem Reaches.le (reaches : Reaches scanf memory stop turn place) : place ≤ stop := by
  induction reaches with
  | start => exact Nat.zero_le _
  | next _ hend _ ih =>
      have hle := messageEnd?_le hend
      omega

/-! ### One turn -/

theorem parsesFrom_of_none (hplace : start ≤ stop)
    (hnone : messageEnd? scanf turn (memory.drop start) (stop - start) = none) :
    ParsesFrom scanf memory stop turn start := by
  refine ⟨1, [], start, ?_, hplace, Adjacent.nil start⟩
  simp only [parseFrom, hnone]

theorem parsesFrom_of_some {length : Nat} (hpos : 0 < length)
    (hend : messageEnd? scanf turn (memory.drop start) (stop - start) = some (length : Int))
    (hrest : ParsesFrom scanf memory stop (turn + 1) (start + length)) :
    ParsesFrom scanf memory stop turn start := by
  rcases hrest with ⟨fuel, slices, offset, hparse, hoffset, adjacent⟩
  refine ⟨fuel + 1, ⟨start, ((start + length : Nat) : Int)⟩ :: slices, offset, ?_, hoffset,
    Adjacent.cons (by omega) adjacent⟩
  have hnext : ((start : Int) + length).toNat = start + length := by omega
  have hinside : ¬(start : Int) + length < 0 := by omega
  simp only [parseFrom, hend, hnext, hparse, Option.map_some]
  rw [if_neg hinside, Int.natCast_add]

/-- If the parse is right from a place on, the message found there takes bytes and the parse is
right from its end on. -/
theorem ParsesFrom.step (parses : ParsesFrom scanf memory stop turn start) {length : Int}
    (hend : messageEnd? scanf turn (memory.drop start) (stop - start) = some length) :
    0 < length ∧ ParsesFrom scanf memory stop (turn + 1) (start + length.toNat) := by
  rcases parses with ⟨fuel, slices, offset, hparse, hoffset, adjacent⟩
  cases fuel with
  | zero => cases hparse
  | succ fuel =>
      simp only [parseFrom, hend] at hparse
      split_ifs at hparse with hbefore
      · cases hparse
      · rcases Option.map_eq_some_iff.mp hparse with ⟨rest, hrest, heq⟩
        obtain ⟨hslices, houtcome⟩ := Prod.mk.inj heq
        rw [← hslices] at adjacent
        rcases adjacent_cons adjacent with ⟨next, hnext, hlt, adjacent⟩
        have hnext' : (start : Int) + length = next := hnext
        rw [hnext', Int.toNat_natCast] at hrest
        have hplace : start + length.toNat = next := by omega
        rw [hplace]
        refine ⟨by omega, fuel, rest.1, offset, ?_, hoffset, adjacent⟩
        rw [hrest, ← houtcome]

/-! ### The whole stream -/

/-- Every message that is found takes bytes of the buffer: what its length is read as does not
outweigh the bytes before its body. -/
def AllAdvance (scanf : Scanf) (memory : Bytes) (stop : Nat) : Prop :=
  ∀ turn place, Reaches scanf memory stop turn place → ∀ length,
    messageEnd? scanf turn (memory.drop place) (stop - place) = some length → 0 < length

/-- The bytes that are left bound the turns. -/
theorem parsesFrom_of_allAdvance (hadvance : AllAdvance scanf memory stop)
    (reaches : Reaches scanf memory stop turn place) :
    ParsesFrom scanf memory stop turn place := by
  induction hleft : stop - place using Nat.strongRecOn generalizing turn place with
  | ind left ih =>
      cases hend : messageEnd? scanf turn (memory.drop place) (stop - place) with
      | none => exact parsesFrom_of_none reaches.le hend
      | some length =>
          have hpos := hadvance turn place reaches length hend
          obtain ⟨count, rfl⟩ := Int.eq_ofNat_of_zero_le (Int.le_of_lt hpos)
          have hcount : 0 < count := by omega
          have hnext := Reaches.next reaches hend hcount
          have hle := hnext.le
          exact parsesFrom_of_some hcount hend (ih _ (by omega) hnext rfl)

theorem ParsesFrom.of_reaches (parses : ParsesFrom scanf memory stop 0 0)
    (reaches : Reaches scanf memory stop turn place) :
    ParsesFrom scanf memory stop turn place := by
  induction reaches with
  | start => exact parses
  | next _ hend _ ih => exact (ih.step hend).2

/-- `ParseSipStream` returns, with messages that are adjacent slices of the buffer, exactly when
every message found takes bytes of it. -/
theorem parseSipStream_progress_iff (scanf : Scanf) (memory : Bytes) (stop : Nat) :
    ParsesFrom scanf memory stop 0 0 ↔ AllAdvance scanf memory stop := by
  constructor
  · intro parses turn place reaches length hend
    exact ((parses.of_reaches reaches).step hend).1
  · intro hadvance
    exact parsesFrom_of_allAdvance hadvance Reaches.start

/-- A header that says that the message ends where it starts. -/
def emptyMessage : Bytes := ascii "Content-Length: -23\r\n\r\n"

/-- The loop finds the same message again and again. -/
theorem negative_length_loops : ¬ParsesFrom ⟨id, fun _ => 0⟩ emptyMessage 23 0 0 := by
  intro parses
  have hend : messageEnd? ⟨id, fun _ => 0⟩ 0 (emptyMessage.drop 0) (23 - 0) = some 0 := by
    decide +kernel
  exact absurd (parses.step hend).1 (Int.lt_irrefl 0)

/-! ### Where all lengths are right -/

theorem contentLength_of_scan {text : Bytes} {length : Nat}
    (hscan : scanContentLen text = some length) : contentLength scanf turn text = length := by
  unfold scanContentLen at hscan
  unfold contentLength scanDecimal
  dsimp only at hscan ⊢
  split_ifs at hscan with hbad
  push Not at hbad
  obtain rfl := Option.some.inj hscan
  rw [if_neg hbad.1]
  by_cases hnegative : (readSign (text.dropWhile isSpace)).1 = true
  · have hzero := hbad.2.2 hnegative
    simp [hnegative, hzero]
  · have hrange := hbad.2.1
    simp only [hnegative]
    exact if_pos ⟨by omega, by omega⟩

theorem messageEnd?_of_length {contentLenStart sipHeaderEnd length : Nat}
    (hstart : memFindAfter "Content-Length: " memory stop = some contentLenStart)
    (hblank : memFindAfter "\r\n\r\n" (memory.drop contentLenStart) (stop - contentLenStart) =
      some sipHeaderEnd)
    (hscan : scanContentLen (memory.drop contentLenStart) = some length) :
    messageEnd? scanf turn memory stop =
      if stop < contentLenStart + sipHeaderEnd + length then none
      else some ((contentLenStart + sipHeaderEnd + length : Nat) : Int) := by
  simp only [messageEnd?, hstart, hblank, contentLength_of_scan hscan]
  split_ifs <;> first | rfl | omega

/-- Where `parseSipStream` has an answer, this loop consumes the same bytes. -/
theorem parseFrom_of_parseMessages {fuel offset : Nat} {messages : List Bytes}
    (hparse : parseMessages fuel (memory.drop start) (stop - start) = some (messages, offset)) :
    ∃ slices, parseFrom scanf memory stop fuel turn start =
      some (slices, .returned (start + offset)) := by
  induction fuel generalizing turn start messages offset with
  | zero => cases hparse
  | succ fuel ih =>
      simp only [parseMessages] at hparse
      simp only [parseFrom]
      cases hstart : memFindAfter "Content-Length: " (memory.drop start) (stop - start) with
      | none =>
          simp only [hstart] at hparse
          obtain ⟨-, rfl⟩ := Prod.mk.inj (Option.some.inj hparse)
          exact ⟨[], by simp only [messageEnd?, hstart, Nat.add_zero]⟩
      | some contentLenStart =>
          simp only [hstart] at hparse
          cases hblank : memFindAfter "\r\n\r\n" ((memory.drop start).drop contentLenStart)
              (stop - start - contentLenStart) with
          | none =>
              simp only [hblank] at hparse
              obtain ⟨-, rfl⟩ := Prod.mk.inj (Option.some.inj hparse)
              exact ⟨[], by simp only [messageEnd?, hstart, hblank, Nat.add_zero]⟩
          | some sipHeaderEnd =>
              simp only [hblank] at hparse
              rcases Option.bind_eq_some_iff.mp hparse with ⟨length, hscan, hrest⟩
              rw [messageEnd?_of_length hstart hblank hscan]
              split_ifs at hrest with hlonger
              · obtain ⟨-, rfl⟩ := Prod.mk.inj (Option.some.inj hrest)
                exact ⟨[], by simp [hlonger]⟩
              · rcases Option.map_eq_some_iff.mp hrest with ⟨⟨more, consumed⟩, hmore, heq⟩
                obtain ⟨-, rfl⟩ := Prod.mk.inj heq
                rw [List.drop_drop, Nat.sub_sub] at hmore
                rcases @ih (turn + 1) _ _ _ hmore with ⟨slices, hslices⟩
                refine ⟨⟨start, ((start + (contentLenStart + sipHeaderEnd + length) : Nat) : Int)⟩ ::
                  slices, ?_⟩
                simp only [if_neg hlonger]
                rw [if_neg (by omega), ← Int.natCast_add, Int.toNat_natCast, hslices,
                  Option.map_some]
                simp only [Nat.add_assoc]

end OrkAudio.SipTcp
