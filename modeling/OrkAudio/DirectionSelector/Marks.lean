import OrkAudio.DirectionSelector.Model
import OrkAudio.Lib.Spans

/-! Marks against orders. A mark should last until the next order and the chunks it covers should
be blanked where `SkipChunk` would leave them out. -/

namespace OrkAudio.DirectionSelector

open Lib MediaChunkFile

namespace AudioDirectionMarks

/-- The time in which a mark applies. -/
def span (mark : AudioDirectionMarks) : Span Nat where
  start := mark.timestamp
  stop := if mark.nextTimestampMark = 0 then none else some mark.nextTimestampMark

/-- A mark without a timestamp is passed over. -/
abbrev IsSet (mark : AudioDirectionMarks) : Prop := mark.timestamp ≠ 0

/-- The chunks that arrive at `time` are between this mark and the next one. -/
def Covers (mark : AudioDirectionMarks) (time : Nat) : Prop :=
  mark.IsSet ∧ mark.span.Covers time

end AudioDirectionMarks

theorem inBetween_iff (mark : AudioDirectionMarks) (chunk : Chunk) :
    InBetween mark chunk ↔ mark.Covers chunk.details.arrivalTimestamp.toNat := by
  unfold InBetween AudioDirectionMarks.Covers Span.Covers AudioDirectionMarks.span
  by_cases hnext : mark.nextTimestampMark = 0 <;> simp [hnext]

/-- The latest mark whose timestamp is not after `time`. -/
def inForce (marks : List AudioDirectionMarks) (time : Nat) : Option AudioDirectionMarks :=
  latest AudioDirectionMarks.span (marks.filter fun mark => decide mark.IsSet) time

/-- The tape as it would be with the keep direction of one mark for the whole of it. -/
def AudioTape.keeping (tape : AudioTape) (mark : AudioDirectionMarks) : AudioTape :=
  { tape with audioKeepDirectionEnum := mark.audioKeepDirectionEnum }

/-- `SkipChunk` would skip the chunk under the mark in force when it arrived. -/
def SkippedInForce (tape : AudioTape) (chunk : Chunk) : Prop :=
  ∃ mark ∈ inForce tape.audioDirectionMarks chunk.details.arrivalTimestamp.toNat,
    (skipChunk (tape.keeping mark) chunk).1 = true

instance instDecidableSkippedInForce (tape : AudioTape) (chunk : Chunk) :
    Decidable (SkippedInForce tape chunk) :=
  inferInstanceAs (Decidable (∃ mark ∈ inForce _ _, _))

/-- The marks keep apart, and of the chunks just those are blanked that `SkipChunk` would skip
under the mark in force. -/
def AppliedExactly (areaCodesMap : OrderedMap String String) (tape : AudioTape)
    (chunks : List Chunk) : Prop :=
  ((threadHandler areaCodesMap tape chunks).1.audioDirectionMarks.Pairwise fun mark other =>
      ∀ time, ¬(mark.Covers time ∧ other.Covers time)) ∧
    (threadHandler areaCodesMap tape chunks).2 = chunks.map fun chunk =>
      if SkippedInForce (threadHandler areaCodesMap tape chunks).1 chunk then blank chunk
      else chunk

/-! ### The two tables -/

/-- Where the two tables say the same: not for a call of which nothing is kept, not for the
remote side when both sides are local, and for the local side only on channels 1 and 2. -/
def TablesAgree (keep : AudioKeepDirection) (localSide : Option LocalSide) (channel : UInt8) :
    Prop :=
  match keep, localSide with
  | .audioKeepDirectionNone, _ => False
  | .audioKeepDirectionRemote, some .localSideBoth => False
  | .audioKeepDirectionLocal, some .localSideSide1 => channel = 1 ∨ channel = 2
  | .audioKeepDirectionLocal, some .localSideSide2 => channel = 1 ∨ channel = 2
  | _, _ => True

theorem blanksSide_eq_skipChunk_iff (tape : AudioTape) (mark : AudioDirectionMarks)
    (chunk : Chunk) :
    (blanksSide tape.localSide mark chunk = true ↔ (skipChunk (tape.keeping mark) chunk).1 = true) ↔
      TablesAgree mark.audioKeepDirectionEnum tape.localSide chunk.details.channel := by
  have hone : chunk.details.channel = 1 → chunk.details.channel ≠ 2 := by
    intro h
    rw [h]
    decide
  have hsides : ∀ side : Option LocalSide, tape.localSide = side →
      ((blanksSide side mark chunk = true ↔ (skipChunk (tape.keeping mark) chunk).1 = true) ↔
        TablesAgree mark.audioKeepDirectionEnum side chunk.details.channel) := by
    intro side hside
    cases hkeep : mark.audioKeepDirectionEnum <;> rcases side with _ | side <;> try cases side
    all_goals
      simp [blanksSide, skipChunk, AudioTape.keeping, TablesAgree, hkeep, hside]
    · by_cases h1 : chunk.details.channel = 1 <;> simp_all
    · by_cases h1 : chunk.details.channel = 1 <;> simp_all
  exact hsides tape.localSide rfl

/-! ### The marks of a sequence of orders -/

abbrev KeepDirectionEvent.IsSet (event : KeepDirectionEvent) : Prop := event.timestamp ≠ 0

/-- The mark of an order, with its end. -/
def KeepDirectionEvent.mark (event : KeepDirectionEvent) (nextTimestampMark : Nat) :
    AudioDirectionMarks where
  timestamp := event.timestamp
  nextTimestampMark := nextTimestampMark
  audioKeepDirectionEnum := audioKeepDirectionToEnum event.value

/-- Each order's mark ends at the second reading of the clock of the order after it. -/
def marksOf : List KeepDirectionEvent → List AudioDirectionMarks
  | [] => []
  | [event] => [event.mark 0]
  | event :: next :: rest => event.mark next.nextTimestampMark :: marksOf (next :: rest)

theorem endLastMark_append (marks : List AudioDirectionMarks) (mark : AudioDirectionMarks)
    (nextTimestampMark : Nat) :
    AudioTape.endLastMark nextTimestampMark (marks ++ [mark]) =
      marks ++ [{ mark with nextTimestampMark := nextTimestampMark }] := by
  induction marks with
  | nil => rfl
  | cons first marks ih =>
      cases marks with
      | nil => rfl
      | cons second marks =>
          simp only [List.cons_append, AudioTape.endLastMark]
          exact congrArg (first :: ·) ih

theorem addEvents_cons (tape : AudioTape) (marks : List AudioDirectionMarks)
    (event : KeepDirectionEvent) (events : List KeepDirectionEvent)
    (htape : tape.audioDirectionMarks = marks ++ [event.mark 0]) :
    (tape.addEvents events).audioDirectionMarks = marks ++ marksOf (event :: events) := by
  induction events generalizing tape marks event with
  | nil => exact htape
  | cons next events ih =>
      have hnext : (tape.addAudioKeepDirection next).audioDirectionMarks =
          (marks ++ [event.mark next.nextTimestampMark]) ++ [next.mark 0] := by
        simp only [AudioTape.addAudioKeepDirection, htape, endLastMark_append]
        rfl
      have hrest := ih (tape.addAudioKeepDirection next) _ next hnext
      rw [List.append_assoc] at hrest
      exact hrest

theorem addEvents_marks (tape : AudioTape) (hnew : tape.audioDirectionMarks = [])
    (events : List KeepDirectionEvent) :
    (tape.addEvents events).audioDirectionMarks = marksOf events := by
  cases events with
  | nil => exact hnew
  | cons event events =>
      apply addEvents_cons (tape.addAudioKeepDirection event) []
      simp only [AudioTape.addAudioKeepDirection, hnew]
      rfl

theorem addEvents_sides (tape : AudioTape) (events : List KeepDirectionEvent) :
    (tape.addEvents events).localSide = tape.localSide ∧
      (tape.addEvents events).remoteParty = tape.remoteParty := by
  induction events generalizing tape with
  | nil => exact ⟨rfl, rfl⟩
  | cons event events ih => exact ih (tape.addAudioKeepDirection event)

/-- The clock does not run backwards. -/
def NonDecreasing : List KeepDirectionEvent → Prop
  | [] => True
  | [event] => event.timestamp ≤ event.nextTimestampMark
  | event :: next :: rest =>
      event.timestamp ≤ event.nextTimestampMark ∧ event.nextTimestampMark ≤ next.timestamp ∧
        NonDecreasing (next :: rest)

theorem NonDecreasing.tail {event : KeepDirectionEvent} {events : List KeepDirectionEvent}
    (clock : NonDecreasing (event :: events)) : NonDecreasing events := by
  cases events with
  | nil => trivial
  | cons next rest => exact clock.2.2

theorem NonDecreasing.head {event : KeepDirectionEvent} {events : List KeepDirectionEvent}
    (clock : NonDecreasing (event :: events)) : event.timestamp ≤ event.nextTimestampMark := by
  cases events with
  | nil => exact clock
  | cons next rest => exact clock.1

theorem NonDecreasing.isSet {event : KeepDirectionEvent} {events : List KeepDirectionEvent}
    (clock : NonDecreasing (event :: events)) (hset : event.IsSet) :
    ∀ later ∈ event :: events, later.IsSet := by
  induction events generalizing event with
  | nil =>
      intro later hlater
      rw [List.mem_singleton.mp hlater]
      exact hset
  | cons next rest ih =>
      intro later hlater
      rcases List.mem_cons.mp hlater with rfl | hlater
      · exact hset
      · have hle := clock.1.trans clock.2.1
        have hnext : next.IsSet := by
          intro hzero
          rw [hzero] at hle
          exact hset (Nat.le_zero.mp hle)
        exact ih clock.2.2 hnext later hlater

theorem NonDecreasing.filter_eq_self {event : KeepDirectionEvent}
    {events : List KeepDirectionEvent} (clock : NonDecreasing (event :: events))
    (hset : event.IsSet) :
    (event :: events).filter (fun event => decide event.IsSet) = event :: events := by
  apply List.filter_eq_self.mpr
  intro later hlater
  exact decide_eq_true (clock.isSet hset later hlater)

theorem NonDecreasing.filter_isSet {events : List KeepDirectionEvent}
    (clock : NonDecreasing events) :
    NonDecreasing (events.filter fun event => decide event.IsSet) := by
  induction events with
  | nil => trivial
  | cons event events ih =>
      by_cases hset : event.IsSet
      · rw [clock.filter_eq_self hset]
        exact clock
      · rw [List.filter_cons_of_neg (by simpa only [decide_eq_true_eq] using hset)]
        exact ih clock.tail

theorem mem_marksOf {events : List KeepDirectionEvent} {mark : AudioDirectionMarks}
    (hmark : mark ∈ marksOf events) : ∃ event ∈ events, mark.timestamp = event.timestamp := by
  induction events with
  | nil => cases hmark
  | cons event events ih =>
      cases events with
      | nil =>
          refine ⟨event, List.mem_singleton_self event, ?_⟩
          rw [List.mem_singleton.mp hmark]
          rfl
      | cons next rest =>
          rcases List.mem_cons.mp hmark with rfl | hmark
          · exact ⟨event, List.mem_cons_self, rfl⟩
          · rcases ih hmark with ⟨later, hlater, heq⟩
            exact ⟨later, List.mem_cons_of_mem event hlater, heq⟩

/-- The marks that are set are those of the orders that are. -/
theorem marksOf_isSet {events : List KeepDirectionEvent} (clock : NonDecreasing events) :
    (marksOf events).filter (fun mark => decide mark.IsSet) =
      marksOf (events.filter fun event => decide event.IsSet) := by
  induction events with
  | nil => rfl
  | cons event events ih =>
      by_cases hset : event.IsSet
      · rw [clock.filter_eq_self hset]
        apply List.filter_eq_self.mpr
        intro mark hmark
        rcases mem_marksOf hmark with ⟨later, hlater, heq⟩
        have hlaterset := clock.isSet hset later hlater
        rw [decide_eq_true_eq, AudioDirectionMarks.IsSet, heq]
        exact hlaterset
      · have hevent : (event :: events).filter (fun event => decide event.IsSet) =
            events.filter fun event => decide event.IsSet :=
          List.filter_cons_of_neg (by simpa only [decide_eq_true_eq] using hset)
        have hmark : ∀ nextTimestampMark,
            ¬decide (event.mark nextTimestampMark).IsSet = true := by
          intro nextTimestampMark hmark
          exact hset (of_decide_eq_true hmark)
        rw [hevent, ← ih clock.tail]
        cases events with
        | nil => exact List.filter_cons_of_neg (hmark 0)
        | cons next rest => exact List.filter_cons_of_neg (hmark next.nextTimestampMark)

/-- The span of a mark that has been ended. -/
theorem span_of_ended {event : KeepDirectionEvent} {nextTimestampMark : Nat}
    (hended : nextTimestampMark ≠ 0) :
    (event.mark nextTimestampMark).span = ⟨event.timestamp, some nextTimestampMark⟩ := by
  simp [AudioDirectionMarks.span, KeepDirectionEvent.mark, hended]

/-- The second reading of a set order is not 0 either. -/
theorem KeepDirectionEvent.ends {event : KeepDirectionEvent}
    (hclock : event.timestamp ≤ event.nextTimestampMark) (hset : event.IsSet) :
    event.nextTimestampMark ≠ 0 := by
  intro hzero
  rw [hzero] at hclock
  exact hset (Nat.le_zero.mp hclock)

theorem marksOf_cons (event : KeepDirectionEvent) (rest : List KeepDirectionEvent) :
    ∃ nextTimestampMark marks,
      marksOf (event :: rest) = event.mark nextTimestampMark :: marks := by
  cases rest with
  | nil => exact ⟨0, [], rfl⟩
  | cons next rest => exact ⟨next.nextTimestampMark, _, rfl⟩

theorem successive_marksOf {events : List KeepDirectionEvent} (clock : NonDecreasing events)
    (hset : ∀ event ∈ events, event.IsSet) :
    Successive AudioDirectionMarks.span (marksOf events) := by
  induction events with
  | nil => exact Successive.nil
  | cons event events ih =>
      have htail := ih clock.tail fun later hlater => hset later (List.mem_cons_of_mem _ hlater)
      cases events with
      | nil => exact Successive.last (by rfl)
      | cons next rest =>
          have hnext := clock.tail.head
          have hended := KeepDirectionEvent.ends hnext (hset next (by simp))
          rcases marksOf_cons next rest with ⟨nextTimestampMark, marks, hmarks⟩
          rw [hmarks] at htail
          simp only [marksOf, hmarks]
          apply Successive.cons (clock.1.trans clock.2.1) ?_ htail
          intro b hb
          rw [span_of_ended hended] at hb
          rw [← Option.some.inj hb]
          exact hnext

theorem meets_marksOf_iff {events : List KeepDirectionEvent} (clock : NonDecreasing events)
    (hset : ∀ event ∈ events, event.IsSet) :
    Meets AudioDirectionMarks.span (marksOf events) ↔
      ∀ event ∈ events.tail, event.nextTimestampMark = event.timestamp := by
  induction events with
  | nil => simp [marksOf, Meets]
  | cons event events ih =>
      have htail := ih clock.tail fun later hlater => hset later (List.mem_cons_of_mem _ hlater)
      cases events with
      | nil => simp [marksOf, Meets]
      | cons next rest =>
          have hended := KeepDirectionEvent.ends clock.tail.head (hset next (by simp))
          rcases marksOf_cons next rest with ⟨nextTimestampMark, marks, hmarks⟩
          rw [hmarks, List.tail_cons] at htail
          simp only [marksOf, hmarks, Meets, htail, span_of_ended hended, Option.some_inj,
            List.tail_cons, List.forall_mem_cons]
          rfl

/-! ### With the mark of an area code in front -/

def firstTimestamp : List KeepDirectionEvent → Nat
  | [] => 0
  | event :: _ => event.timestamp

/-- The mark that stands in front of the orders' marks. -/
def frontMark (side : String) (events : List KeepDirectionEvent) : AudioDirectionMarks where
  timestamp := 1
  nextTimestampMark := firstTimestamp events
  audioKeepDirectionEnum := audioKeepDirectionToEnum side

/-- The marks that the chunks are held against. -/
def appliedMarks (side : Option String) (events : List KeepDirectionEvent) :
    List AudioDirectionMarks :=
  match side with
  | none => marksOf events
  | some side => frontMark side events :: marksOf events

theorem threadHandler_marks (areaCodesMap : OrderedMap String String) (tape : AudioTape)
    (hnew : tape.audioDirectionMarks = []) (events : List KeepDirectionEvent)
    (chunks : List Chunk) :
    (threadHandler areaCodesMap (tape.addEvents events) chunks).1.audioDirectionMarks =
      appliedMarks (areaCodeSide areaCodesMap tape.remoteParty) events := by
  have hmarks := addEvents_marks tape hnew events
  have hparty := (addEvents_sides tape events).2
  simp only [threadHandler, insertDefaultKeptSide, hparty]
  cases hside : areaCodeSide areaCodesMap tape.remoteParty with
  | none => exact hmarks
  | some side =>
      simp only [hmarks, appliedMarks, frontMark]
      cases events with
      | nil => rfl
      | cons event rest =>
          rcases marksOf_cons event rest with ⟨nextTimestampMark, marks, heq⟩
          simp only [heq]
          rfl

theorem threadHandler_localSide (areaCodesMap : OrderedMap String String) (tape : AudioTape)
    (events : List KeepDirectionEvent) (chunks : List Chunk) :
    (threadHandler areaCodesMap (tape.addEvents events) chunks).1.localSide = tape.localSide := by
  rw [← (addEvents_sides tape events).1]
  unfold threadHandler insertDefaultKeptSide
  cases areaCodeSide areaCodesMap (tape.addEvents events).remoteParty <;> rfl

/-- The mark of an area code ends with the first order, unless that order's own mark is not
set. -/
def FrontEnds (side : Option String) (events : List KeepDirectionEvent) : Prop :=
  side.isSome = true → events.filter (fun event => decide event.IsSet) = [] ∨
    ∀ event ∈ events.head?, event.IsSet

theorem appliedMarks_isSet {events : List KeepDirectionEvent} (clock : NonDecreasing events)
    (side : Option String) :
    (appliedMarks side events).filter (fun mark => decide mark.IsSet) =
      (side.map fun side => frontMark side events).toList ++
        marksOf (events.filter fun event => decide event.IsSet) := by
  cases side with
  | none => exact marksOf_isSet clock
  | some side =>
      have hfront : (frontMark side events :: marksOf events).filter
            (fun mark => decide mark.IsSet) =
          frontMark side events :: (marksOf events).filter fun mark => decide mark.IsSet :=
        List.filter_cons_of_pos (by simp [frontMark])
      rw [appliedMarks, hfront, marksOf_isSet clock]
      rfl

/-- What stands in front of the first set order, and how the mark in front of it ends. -/
theorem firstTimestamp_cases {events : List KeepDirectionEvent} (clock : NonDecreasing events)
    {event : KeepDirectionEvent} {rest : List KeepDirectionEvent}
    (hfilter : events.filter (fun event => decide event.IsSet) = event :: rest) :
    (firstTimestamp events = event.timestamp ∧ ∀ first ∈ events.head?, first.IsSet) ∨
      (firstTimestamp events = 0 ∧ ¬∀ first ∈ events.head?, first.IsSet) := by
  cases events with
  | nil => cases hfilter
  | cons first events =>
      by_cases hset : first.IsSet
      · left
        rw [clock.filter_eq_self hset] at hfilter
        rw [(List.cons.inj hfilter).1]
        refine ⟨rfl, ?_⟩
        intro head hhead
        rw [← Option.some.inj hhead, ← (List.cons.inj hfilter).1]
        exact hset
      · right
        refine ⟨not_not.mp hset, ?_⟩
        intro h
        exact hset (h first rfl)

theorem appliedMarks_successive {events : List KeepDirectionEvent} (clock : NonDecreasing events)
    (side : Option String) :
    Successive AudioDirectionMarks.span
      ((appliedMarks side events).filter fun mark => decide mark.IsSet) := by
  have hmem : ∀ event ∈ events.filter (fun event => decide event.IsSet), event.IsSet := by
    intro event hevent
    exact of_decide_eq_true (List.mem_filter.mp hevent).2
  have hmarks := successive_marksOf clock.filter_isSet hmem
  rw [appliedMarks_isSet clock]
  cases side with
  | none => exact hmarks
  | some side =>
      cases hfilter : events.filter (fun event => decide event.IsSet) with
      | nil =>
          have hfirst : firstTimestamp events = 0 := by
            cases events with
            | nil => rfl
            | cons first rest =>
                by_contra hset
                rw [clock.filter_eq_self hset] at hfilter
                cases hfilter
          apply Successive.last
          simp [AudioDirectionMarks.span, frontMark, hfirst]
      | cons event rest =>
          rw [hfilter] at hmarks hmem
          rcases marksOf_cons event rest with ⟨nextTimestampMark, marks, heq⟩
          rw [heq] at hmarks ⊢
          have hset : event.timestamp ≠ 0 := hmem event List.mem_cons_self
          apply Successive.cons (Nat.one_le_iff_ne_zero.mpr hset) ?_ hmarks
          intro b hb
          rcases firstTimestamp_cases clock hfilter with ⟨hfirst, -⟩ | ⟨hfirst, -⟩
          · simp only [AudioDirectionMarks.span, frontMark, hfirst, if_neg hset] at hb
            rw [← Option.some.inj hb]
            exact le_rfl
          · simp [AudioDirectionMarks.span, frontMark, hfirst] at hb

/-- The marks meet when no clock reading lies between an order's mark and the end of the mark
before it, and a mark in front is ended. -/
theorem appliedMarks_meets_iff {events : List KeepDirectionEvent} (clock : NonDecreasing events)
    (side : Option String) :
    Meets AudioDirectionMarks.span
        ((appliedMarks side events).filter fun mark => decide mark.IsSet) ↔
      (∀ event ∈ (events.filter fun event => decide event.IsSet).tail,
        event.nextTimestampMark = event.timestamp) ∧ FrontEnds side events := by
  have hmem : ∀ event ∈ events.filter (fun event => decide event.IsSet), event.IsSet := by
    intro event hevent
    exact of_decide_eq_true (List.mem_filter.mp hevent).2
  have hmarks := meets_marksOf_iff clock.filter_isSet hmem
  rw [appliedMarks_isSet clock, ← hmarks]
  cases side with
  | none => simp [FrontEnds]
  | some side =>
      cases hfilter : events.filter (fun event => decide event.IsSet) with
      | nil =>
          have hfront : FrontEnds (some side) events := fun _ => Or.inl hfilter
          simp [hfront, marksOf, Meets]
      | cons event rest =>
          rw [hfilter] at hmem
          have hset : event.timestamp ≠ 0 := hmem event List.mem_cons_self
          rcases marksOf_cons event rest with ⟨nextTimestampMark, marks, heq⟩
          have hends : (frontMark side events).span.stop = some event.timestamp ↔
              FrontEnds (some side) events := by
            rcases firstTimestamp_cases clock hfilter with ⟨hfirst, hhead⟩ | ⟨hfirst, hhead⟩
            · have hstop : (frontMark side events).span.stop = some event.timestamp := by
                simp [AudioDirectionMarks.span, frontMark, hfirst, hset]
              exact iff_of_true hstop fun _ => Or.inr hhead
            · have hstop : (frontMark side events).span.stop = none := by
                simp [AudioDirectionMarks.span, frontMark, hfirst]
              apply iff_of_false
              · rw [hstop]
                exact fun h => nomatch h
              · intro hfront
                rcases hfront rfl with hnil | hset
                · rw [hfilter] at hnil
                  cases hnil
                · exact hhead hset
          rw [heq, ← hends, and_comm]
          rfl

theorem appliedMarks_apart_iff {events : List KeepDirectionEvent} (clock : NonDecreasing events)
    (side : Option String) :
    ((appliedMarks side events).Pairwise fun mark other =>
        ∀ time, ¬(mark.Covers time ∧ other.Covers time)) ↔
      (∀ event ∈ (events.filter fun event => decide event.IsSet).tail,
        event.nextTimestampMark = event.timestamp) ∧ FrontEnds side events := by
  rw [← appliedMarks_meets_iff clock, ← (appliedMarks_successive clock side).apart_iff_meets,
    List.pairwise_filter]
  apply List.Pairwise.iff
  intro mark other
  simp only [AudioDirectionMarks.Covers, Span.Apart, decide_eq_true_eq]
  constructor
  · intro h hmark hother time hboth
    exact h time ⟨⟨hmark, hboth.1⟩, hother, hboth.2⟩
  · intro h time hboth
    exact h hboth.1.1 hboth.2.1 time ⟨hboth.1.2, hboth.2.2⟩

/-! ### The mark in force, by the orders alone -/

def AudioDirectionMarks.order (mark : AudioDirectionMarks) : Nat × AudioKeepDirection :=
  (mark.timestamp, mark.audioKeepDirectionEnum)

/-- What was ordered and when: first by the area code, then by the events. -/
def ordersOf (side : Option String) (events : List KeepDirectionEvent) :
    List (Nat × AudioKeepDirection) :=
  (side.map fun side => (1, audioKeepDirectionToEnum side)).toList ++
    events.map fun event => (event.timestamp, audioKeepDirectionToEnum event.value)

/-- The keep direction of the latest order that is not after `time`. -/
def directionInForce (side : Option String) (events : List KeepDirectionEvent) (time : Nat) :
    Option AudioKeepDirection :=
  ((ordersOf side events).filter fun order =>
    decide (order.1 ≤ time) && decide (order.1 ≠ 0)).getLast?.map Prod.snd

theorem marksOf_order (events : List KeepDirectionEvent) :
    (marksOf events).map AudioDirectionMarks.order =
      events.map fun event => (event.timestamp, audioKeepDirectionToEnum event.value) := by
  induction events with
  | nil => rfl
  | cons event events ih =>
      cases events with
      | nil => rfl
      | cons next rest => exact congrArg (_ :: ·) ih

theorem appliedMarks_order (side : Option String) (events : List KeepDirectionEvent) :
    (appliedMarks side events).map AudioDirectionMarks.order = ordersOf side events := by
  cases side with
  | none => exact marksOf_order events
  | some side => exact congrArg (_ :: ·) (marksOf_order events)

theorem inForce_direction (side : Option String) (events : List KeepDirectionEvent) (time : Nat) :
    (inForce (appliedMarks side events) time).map AudioDirectionMarks.audioKeepDirectionEnum =
      directionInForce side events time := by
  have hfilter : (ordersOf side events).filter (fun order =>
      decide (order.1 ≤ time) && decide (order.1 ≠ 0)) =
        (((appliedMarks side events).filter fun mark => decide mark.IsSet).filter
          fun mark => decide (mark.span.start ≤ time)).map AudioDirectionMarks.order := by
    rw [← appliedMarks_order, List.filter_map, List.filter_filter]
    rfl
  rw [directionInForce, hfilter, List.getLast?_map, Option.map_map]
  rfl

/-! ### Chunks -/

/-- The chunk carries sound. -/
def Audible (chunk : Chunk) : Prop := blank chunk ≠ chunk

theorem blank_if_iff {blanks skips : Prop} [Decidable blanks] [Decidable skips] (chunk : Chunk) :
    ((if blanks then blank chunk else chunk) = if skips then blank chunk else chunk) ↔
      (Audible chunk → (blanks ↔ skips)) := by
  by_cases hblanks : blanks <;> by_cases hskips : skips <;>
    simp [hblanks, hskips, Audible, eq_comm]

/-- A chunk is blanked by a mark that covers it exactly when the mark in force blanks it. -/
theorem blanked_iff_inForce {events : List KeepDirectionEvent} (clock : NonDecreasing events)
    (side : Option String)
    (hmeets : Meets AudioDirectionMarks.span
      ((appliedMarks side events).filter fun mark => decide mark.IsSet))
    (localSide : Option LocalSide) (chunk : Chunk) :
    (∃ mark ∈ appliedMarks side events,
        InBetween mark chunk ∧ blanksSide localSide mark chunk = true) ↔
      ∃ mark ∈ inForce (appliedMarks side events) chunk.details.arrivalTimestamp.toNat,
        blanksSide localSide mark chunk = true := by
  have hcovers := (appliedMarks_successive clock side).covers_iff_latest hmeets
    chunk.details.arrivalTimestamp.toNat
  simp only [List.mem_filter, decide_eq_true_eq] at hcovers
  constructor
  · rintro ⟨mark, hmark, hin, hblanks⟩
    have hcover := (inBetween_iff mark chunk).mp hin
    exact ⟨mark, (hcovers mark).mp ⟨⟨hmark, hcover.1⟩, hcover.2⟩, hblanks⟩
  · rintro ⟨mark, hmark, hblanks⟩
    have hcover := (hcovers mark).mpr hmark
    exact ⟨mark, hcover.1.1, (inBetween_iff mark chunk).mpr ⟨hcover.1.2, hcover.2⟩, hblanks⟩

/-- On a tape whose marks meet, a chunk with sound in it is blanked as it should be exactly when
the tables agree for the mark in force. -/
theorem chunk_exact_iff {events : List KeepDirectionEvent} (clock : NonDecreasing events)
    {side : Option String}
    (hmeets : Meets AudioDirectionMarks.span
      ((appliedMarks side events).filter fun mark => decide mark.IsSet))
    {tape : AudioTape} (hmarks : tape.audioDirectionMarks = appliedMarks side events)
    (chunk : Chunk) :
    (applyMarks tape.localSide tape.audioDirectionMarks chunk =
        if SkippedInForce tape chunk then blank chunk else chunk) ↔
      (Audible chunk → ∀ keep ∈ directionInForce side events
          chunk.details.arrivalTimestamp.toNat,
        TablesAgree keep tape.localSide chunk.details.channel) := by
  rw [applyMarks_eq, blank_if_iff]
  apply imp_congr_right
  intro _
  rw [hmarks, blanked_iff_inForce clock side hmeets, SkippedInForce, hmarks,
    ← inForce_direction]
  cases inForce (appliedMarks side events) chunk.details.arrivalTimestamp.toNat with
  | none => simp
  | some mark => simpa using blanksSide_eq_skipChunk_iff tape mark chunk

/-- What lets the marks be applied exactly: no second of the clock begins between a mark and
the end of the one before it, a mark in front is ended by the first order, and the two tables
say the same of each chunk with sound in it. -/
structure Applicable (areaCodesMap : OrderedMap String String) (tape : AudioTape)
    (events : List KeepDirectionEvent) (chunks : List Chunk) : Prop where
  ended : ∀ event ∈ (events.filter fun event => decide event.IsSet).tail,
    event.nextTimestampMark = event.timestamp
  front : FrontEnds (areaCodeSide areaCodesMap tape.remoteParty) events
  agree : ∀ chunk ∈ chunks, Audible chunk →
    ∀ keep ∈ directionInForce (areaCodeSide areaCodesMap tape.remoteParty) events
        chunk.details.arrivalTimestamp.toNat,
      TablesAgree keep tape.localSide chunk.details.channel

/-- The marks of a tape are applied exactly just when no clock tick falls into the setting of
a mark and the tables agree. -/
theorem marks_applied_iff (areaCodesMap : OrderedMap String String) (tape : AudioTape)
    (hnew : tape.audioDirectionMarks = []) (events : List KeepDirectionEvent)
    (clock : NonDecreasing events) (chunks : List Chunk) :
    AppliedExactly areaCodesMap (tape.addEvents events) chunks ↔
      Applicable areaCodesMap tape events chunks := by
  have hmarks := threadHandler_marks areaCodesMap tape hnew events chunks
  have hside := threadHandler_localSide areaCodesMap tape events chunks
  unfold AppliedExactly
  rw [hmarks, appliedMarks_apart_iff clock]
  constructor
  · rintro ⟨⟨hended, hfront⟩, hchunks⟩
    refine ⟨hended, hfront, ?_⟩
    have hmeets := (appliedMarks_meets_iff clock _).mpr ⟨hended, hfront⟩
    intro chunk hchunk
    rw [← hside, ← chunk_exact_iff clock hmeets hmarks]
    exact List.map_inj_left.mp hchunks chunk hchunk
  · intro applicable
    refine ⟨⟨applicable.ended, applicable.front⟩, ?_⟩
    have hmeets := (appliedMarks_meets_iff clock _).mpr ⟨applicable.ended, applicable.front⟩
    apply List.map_inj_left.mpr
    intro chunk hchunk
    apply (chunk_exact_iff clock hmeets hmarks chunk).mpr
    rw [hside]
    exact applicable.agree chunk hchunk

/-- A tape of a call whose first side is the local one. -/
def sampleTape : AudioTape where
  audioDirectionMarks := []
  audioKeepDirectionEnum := .audioKeepDirectionBoth
  localSide := some .localSideSide1
  remoteParty := "5551234"

/-- A chunk of two bytes. -/
def sampleChunk (channel : UInt8) (arrivalTimestamp : UInt32) : Chunk where
  details := { numBytes := 2, channel := channel, arrivalTimestamp := arrivalTimestamp }
  buffer := some [7, 9]
  sized := by
    intro memory hmemory
    rw [← Option.some.inj hmemory]
    rfl

theorem sample_marks_applied :
    AppliedExactly .empty
      (sampleTape.addEvents [⟨"local", 100, 100⟩, ⟨"remote", 200, 200⟩])
      [sampleChunk 1 150, sampleChunk 2 150, sampleChunk 1 200] := by
  apply (marks_applied_iff .empty sampleTape rfl _ (by simp [NonDecreasing]) _).mpr
  refine ⟨by decide, ?_, ?_⟩
  · intro h
    cases h
  · intro chunk hchunk _ keep hkeep
    simp only [List.mem_cons, List.not_mem_nil, or_false] at hchunk
    rcases hchunk with rfl | rfl | rfl
    · obtain rfl : .audioKeepDirectionLocal = keep := Option.some.inj hkeep
      exact Or.inl rfl
    · obtain rfl : .audioKeepDirectionLocal = keep := Option.some.inj hkeep
      exact Or.inr rfl
    · obtain rfl : .audioKeepDirectionRemote = keep := Option.some.inj hkeep
      trivial

/-- Sound of a call of which nothing is to be kept stays in the file. -/
theorem none_not_blanked :
    ¬AppliedExactly .empty (sampleTape.addEvents [⟨"none", 100, 100⟩]) [sampleChunk 1 150] := by
  intro happlied
  have hbuffers := congrArg (List.map Chunk.buffer) happlied.2
  revert hbuffers
  decide

end OrkAudio.DirectionSelector
