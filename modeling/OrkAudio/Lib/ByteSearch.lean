import Mathlib.Data.List.Basic
import Mathlib.Data.List.Infix
import Mathlib.Tactic.Common

/-! Searching a text in memory without regard to case, by comparing at candidate places.

Only a part of the memory is known: it agrees with a longer byte stream up to `stop`, and
what lies behind is anything at all. -/

namespace OrkAudio.Lib

abbrev Bytes := List UInt8

def ascii (text : String) : Bytes := text.toList.map fun c => c.toNat.toUInt8

def toLower (c : UInt8) : UInt8 := if 65 ≤ c ∧ c ≤ 90 then c + 32 else c

/-- Whether the memory starts with the pattern, without regard to case. -/
def startsWithNoCase : (pattern memory : Bytes) → Bool
  | [], _ => true
  | _ :: _, [] => false
  | p :: pattern, c :: memory => toLower p == toLower c && startsWithNoCase pattern memory

/-- Only as many bytes as the pattern has are compared. -/
theorem startsWithNoCase_congr {pattern memory other : Bytes}
    (hsame : memory.take pattern.length = other.take pattern.length) :
    startsWithNoCase pattern memory = startsWithNoCase pattern other := by
  induction pattern generalizing memory other with
  | nil => rfl
  | cons p pattern ih =>
      cases memory with
      | nil =>
          cases other with
          | nil => rfl
          | cons d other => simp at hsame
      | cons c memory =>
          cases other with
          | nil => simp at hsame
          | cons d other =>
              simp only [List.length_cons, List.take_succ_cons, List.cons.injEq] at hsame
              simp only [startsWithNoCase, hsame.1, ih hsame.2]

theorem startsWithNoCase_of_prefix {pattern memory : Bytes} (hstarts : pattern <+: memory) :
    startsWithNoCase pattern memory = true := by
  obtain ⟨rest, rfl⟩ := hstarts
  induction pattern with
  | nil => simp [startsWithNoCase]
  | cons p pattern ih => simpa [startsWithNoCase] using ih

theorem startsWithNoCase_of_head_ne {p c : UInt8} {pattern memory : Bytes}
    (hne : toLower p ≠ toLower c) : startsWithNoCase (p :: pattern) (c :: memory) = false := by
  simp [startsWithNoCase, hne]

/-- The first place before `stop` at which the memory has the pattern, where only the very
first place and those with the pattern's first byte are compared; the place behind it. -/
def findAfter (pattern memory : Bytes) (stop : Nat) : Option Nat :=
  ((List.range stop).find? fun place =>
    (place == 0 || memory[place]? == pattern.head?) &&
      startsWithNoCase pattern (memory.drop place)).map (· + pattern.length)

@[simp] theorem findAfter_zero (pattern memory : Bytes) : findAfter pattern memory 0 = none := rfl

/-- The pattern stands in the text at `place`, and at no place before it in any case. -/
structure FirstAt (pattern text : Bytes) (place : Nat) : Prop where
  here : pattern <+: text.drop place
  before : ∀ other < place, startsWithNoCase pattern (text.drop other) = false

namespace FirstAt

variable {pattern text more : Bytes} {place : Nat}

theorem length_le (first : FirstAt pattern text place) (hplace : place ≤ text.length) :
    place + pattern.length ≤ text.length := by
  have hle := first.here.length_le
  rw [List.length_drop] at hle
  omega

/-- Text behind the first occurrence does not matter. -/
theorem append (first : FirstAt pattern text place) (hplace : place ≤ text.length)
    (more : Bytes) : FirstAt pattern (text ++ more) place := by
  have hlength := first.length_le hplace
  constructor
  · rw [List.drop_append_of_le_length hplace]
    exact first.here.trans (List.prefix_append _ _)
  · intro other hother
    rw [← first.before other hother]
    apply startsWithNoCase_congr
    rw [List.drop_append_of_le_length (by omega), List.take_append_of_le_length]
    rw [List.length_drop]
    omega

/-- Nor does text before it that cannot start the pattern. -/
theorem prepend {p : UInt8} (first : FirstAt (p :: pattern) text place) {front : Bytes}
    (hfront : ∀ c ∈ front, toLower p ≠ toLower c) :
    FirstAt (p :: pattern) (front ++ text) (front.length + place) := by
  constructor
  · rw [List.drop_length_add_append]
    exact first.here
  · intro other hother
    by_cases hinside : other < front.length
    · rw [List.drop_append_of_le_length hinside.le, List.drop_eq_getElem_cons hinside,
        List.cons_append]
      exact startsWithNoCase_of_head_ne (hfront _ (List.getElem_mem hinside))
    · rw [List.drop_append, List.drop_eq_nil_of_le (by omega), List.nil_append]
      exact first.before _ (by omega)

end FirstAt

section Search

variable {pattern text tail : Bytes} {place stop : Nat}

theorem drop_known {start : Nat} (hstop : stop ≤ text.length) (hstart : start ≤ stop) :
    (text.take stop ++ tail).drop start = (text.drop start).take (stop - start) ++ tail := by
  have hlength : (text.take stop).length = stop := List.length_take_of_le hstop
  rw [List.drop_append_of_le_length (by omega), List.drop_take]

/-- What is compared before `stop` is the text. -/
theorem startsWithNoCase_known {other : Nat} (hstop : stop ≤ text.length)
    (hother : other + pattern.length ≤ stop) :
    startsWithNoCase pattern ((text.take stop ++ tail).drop other) =
      startsWithNoCase pattern (text.drop other) := by
  apply startsWithNoCase_congr
  have hlength : (text.take stop).length = stop := List.length_take_of_le hstop
  rw [List.drop_append_of_le_length (by omega), List.take_append_of_le_length]
  · rw [List.drop_take, List.take_take, min_eq_left (by omega)]
  · rw [List.length_drop]
    omega

/-- The search finds the first occurrence when all of it is known. -/
theorem findAfter_eq (first : FirstAt pattern text place) (hpattern : pattern ≠ [])
    (hstop : stop ≤ text.length) (hknown : place + pattern.length ≤ stop) :
    findAfter pattern (text.take stop ++ tail) stop = some (place + pattern.length) := by
  obtain ⟨p, pattern, rfl⟩ := List.exists_cons_of_ne_nil hpattern
  rw [findAfter, Option.map_eq_some_iff]
  refine ⟨place, ?_, rfl⟩
  rw [List.length_cons] at hknown
  rw [List.find?_range_eq_some]
  refine ⟨?_, List.mem_range.mpr (by omega), ?_⟩
  · have hbyte : (text.take stop ++ tail)[place]? = some p := by
      rw [List.getElem?_append_left (by rw [List.length_take_of_le hstop]; omega),
        List.getElem?_take_of_lt (by omega)]
      obtain ⟨rest, hrest⟩ := first.here
      rw [← List.head?_drop, ← hrest]
      rfl
    rw [startsWithNoCase_known hstop (by rw [List.length_cons]; omega),
      startsWithNoCase_of_prefix first.here, hbyte]
    simp
  · intro other hother
    rw [startsWithNoCase_known hstop (by rw [List.length_cons]; omega), first.before other hother]
    simp

/-- When not all of it is known, the search finds nothing that ends in the known part. -/
theorem lt_of_findAfter (first : FirstAt pattern text place) (hstop : stop ≤ text.length)
    (hunknown : stop < place + pattern.length) {after : Nat}
    (hfound : findAfter pattern (text.take stop ++ tail) stop = some after) : stop < after := by
  rw [findAfter, Option.map_eq_some_iff] at hfound
  obtain ⟨other, hother, rfl⟩ := hfound
  have hmatches := List.find?_some hother
  rw [Bool.and_eq_true] at hmatches
  by_contra hinside
  rw [startsWithNoCase_known hstop (by omega), first.before other (by omega)] at hmatches
  exact Bool.false_ne_true hmatches.2

/-- Nothing is found where no byte can start the pattern. -/
theorem findAfter_eq_none {p : UInt8} {memory : Bytes} (hstop : stop ≤ memory.length)
    (hbytes : ∀ c ∈ memory.take stop, toLower p ≠ toLower c) :
    findAfter (p :: pattern) memory stop = none := by
  rw [findAfter, Option.map_eq_none_iff, List.find?_range_eq_none]
  intro other hother
  have hinside : other < memory.length := by omega
  have hmem : memory[other] ∈ memory.take stop :=
    List.mem_take_iff_getElem.mpr ⟨other, by omega, rfl⟩
  rw [List.drop_eq_getElem_cons hinside, startsWithNoCase_of_head_ne (hbytes _ hmem)]
  simp

end Search

end OrkAudio.Lib
