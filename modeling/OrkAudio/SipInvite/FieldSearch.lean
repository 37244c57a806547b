import OrkAudio.SipInvite.PayloadMapping

/-! `memFindAfter` over a message of lines.

The memory goes on behind the place where the search stops, and a text is compared as far as it
reaches. -/

namespace OrkAudio.SipInvite

open Lib

/-! ### The search -/

/-- What `memnchr` stops at: the first letter of the text in either case. -/
def stopsAt (toFind : Bytes) (c : UInt8) : Bool := toLower (toFind.headD 0) == toLower c

/-- The loop behind its first place, with `left` places before `stop`. -/
def memFindFurther (toFind : Bytes) : Nat → Bytes → Option Nat
  | 0, _ => none
  | _ + 1, [] => none
  | left + 1, c :: memory =>
      if stopsAt toFind c && startsWithNoCase toFind (c :: memory) then some toFind.length
      else (memFindFurther toFind left memory).map (· + 1)

/-- The loop: how far behind the first place the text ends. -/
def memFindFrom (toFind : Bytes) : Nat → Bytes → Option Nat
  | 0, _ => none
  | left + 1, memory =>
      if startsWithNoCase toFind memory then some toFind.length
      else (memFindFurther toFind left memory.tail).map (· + 1)

def memFindAfter (toFind memory : Bytes) (start stop : Nat) : Option Nat :=
  (memFindFrom toFind (stop - start) (memory.drop start)).map (start + ·)

/-! ### Lines -/

/-- A line of the message, without its end. -/
def Line := { line : Bytes // ∀ c ∈ line, c ≠ 0x0D ∧ c ≠ 0x0A }

def crlf : Bytes := [0x0D, 0x0A]

def bytesOf (lines : List Line) : Bytes := lines.flatMap fun line => line.val ++ crlf

/-- Whether the line has the text in any case. -/
def hasText (toFind : Bytes) (line : Line) : Bool := line.val.tails.any (startsWithNoCase toFind)

/-- Whether the text is one, and cannot go over the end of a line. -/
structure Inline (toFind : Bytes) : Prop where
  nonempty : toFind ≠ []
  inside : ∀ p ∈ toFind, toLower p ≠ toLower 0x0D ∧ toLower p ≠ toLower 0x0A

/-! ### Every place -/

section

variable {toFind memory line rest : Bytes} {left : Nat} {c : UInt8}

theorem startsWithNoCase_nil (hne : toFind ≠ []) : startsWithNoCase toFind [] = false := by
  cases toFind with
  | nil => exact absurd rfl hne
  | cons p toFind => rfl

theorem stopsAt_of_startsWithNoCase (hne : toFind ≠ [])
    (hstarts : startsWithNoCase toFind (c :: memory) = true) : stopsAt toFind c = true := by
  cases toFind with
  | nil => exact absurd rfl hne
  | cons p toFind =>
      rw [startsWithNoCase, Bool.and_eq_true] at hstarts
      exact hstarts.1

/-- What `memnchr` passes over cannot begin the text. -/
theorem memFindFurther_eq (hne : toFind ≠ []) :
    memFindFurther toFind left memory = memFindFrom toFind left memory := by
  induction left generalizing memory with
  | zero => cases memory <;> rfl
  | succ left ih =>
      cases memory with
      | nil =>
          rw [memFindFurther, memFindFrom, startsWithNoCase_nil hne, List.tail_nil,
            if_neg Bool.false_ne_true]
          cases left <;> rfl
      | cons c memory =>
          have hcandidate : (stopsAt toFind c && startsWithNoCase toFind (c :: memory)) =
              startsWithNoCase toFind (c :: memory) := by
            cases hstarts : startsWithNoCase toFind (c :: memory) with
            | false => exact Bool.and_false _
            | true => rw [stopsAt_of_startsWithNoCase hne hstarts, Bool.and_self]
          rw [memFindFurther, memFindFrom, hcandidate, List.tail_cons]

theorem memFindFrom_succ (hne : toFind ≠ []) :
    memFindFrom toFind (left + 1) memory =
      if startsWithNoCase toFind memory then some toFind.length
      else (memFindFrom toFind left memory.tail).map (· + 1) := by
  rw [memFindFrom, memFindFurther_eq hne]

/-! ### Line by line -/

/-- How far from its beginning the text ends in the line. -/
def placeBehind (toFind : Bytes) : Bytes → Option Nat
  | [] => none
  | c :: line =>
      if startsWithNoCase toFind (c :: line) then some toFind.length
      else (placeBehind toFind line).map (· + 1)

/-- How far from the beginning of the lines. -/
def placeInLines (toFind : Bytes) : List Line → Option Nat
  | [] => none
  | line :: lines =>
      (placeBehind toFind line.val).or
        ((placeInLines toFind lines).map (· + (line.val.length + crlf.length)))

theorem memFindFrom_line (hinline : Inline toFind) (hend : c = 0x0D ∨ c = 0x0A) :
    memFindFrom toFind (line.length + 1 + left) (line ++ c :: rest) =
      (placeBehind toFind line).or
        ((memFindFrom toFind left rest).map (· + (line.length + 1))) := by
  have hother : ∀ p ∈ toFind, toLower p ≠ toLower c := by
    intro p hp
    rcases hend with rfl | rfl
    · exact (hinline.inside p hp).1
    · exact (hinline.inside p hp).2
  induction line with
  | nil =>
      have hhere : startsWithNoCase toFind (c :: rest) = false := by
        rw [← List.nil_append (c :: rest), startsWithNoCase_line hother]
        exact startsWithNoCase_nil hinline.nonempty
      rw [List.nil_append, List.length_nil, Nat.zero_add, Nat.add_comm 1 left,
        memFindFrom_succ hinline.nonempty, hhere, if_neg Bool.false_ne_true, List.tail_cons]
      rfl
  | cons d line ih =>
      have hleft : (d :: line).length + 1 + left = line.length + 1 + left + 1 := by
        rw [List.length_cons]
        omega
      rw [hleft, memFindFrom_succ hinline.nonempty, startsWithNoCase_line hother, placeBehind,
        List.cons_append, List.tail_cons, ih]
      by_cases hhere : startsWithNoCase toFind (d :: line) = true
      · rw [if_pos hhere, if_pos hhere, Option.some_or]
      · rw [if_neg hhere, if_neg hhere]
        cases placeBehind toFind line with
        | some place => rfl
        | none =>
            rw [Option.none_or, Option.map_none, Option.none_or, Option.map_map]
            rfl

theorem memFindFrom_crlf (hinline : Inline toFind) (line : Line) :
    memFindFrom toFind (line.val.length + crlf.length + left) (line.val ++ crlf ++ rest) =
      (placeBehind toFind line.val).or
        ((memFindFrom toFind left rest).map (· + (line.val.length + crlf.length))) := by
  have hlf := @memFindFrom_line toFind [] rest left 0x0A hinline (.inr rfl)
  have hcr := @memFindFrom_line toFind line.val (0x0A :: rest) (1 + left) 0x0D hinline (.inl rfl)
  rw [List.length_nil, Nat.zero_add, List.nil_append] at hlf
  have hleft : line.val.length + crlf.length + left = line.val.length + 1 + (1 + left) := by
    rw [show crlf.length = 2 from rfl]
    omega
  rw [hleft, List.append_assoc, show crlf ++ rest = 0x0D :: 0x0A :: rest from rfl, hcr, hlf]
  cases placeBehind toFind line.val with
  | some place => rfl
  | none =>
      rw [Option.none_or, Option.none_or, show placeBehind toFind [] = none from rfl,
        Option.none_or, Option.map_map]
      congr 1
      funext place
      show place + 1 + (line.val.length + 1) = place + (line.val.length + 2)
      omega

theorem bytesOf_cons (line : Line) (lines : List Line) :
    bytesOf (line :: lines) = line.val ++ crlf ++ bytesOf lines := rfl

theorem bytesOf_append (lines more : List Line) :
    bytesOf (lines ++ more) = bytesOf lines ++ bytesOf more := List.flatMap_append

/-- The search goes through the lines, and then on. -/
theorem memFindFrom_bytesOf (hinline : Inline toFind) (lines : List Line) :
    memFindFrom toFind ((bytesOf lines).length + left) (bytesOf lines ++ rest) =
      (placeInLines toFind lines).or
        ((memFindFrom toFind left rest).map (· + (bytesOf lines).length)) := by
  induction lines with
  | nil =>
      rw [show bytesOf [] = [] from rfl, List.length_nil, Nat.zero_add, List.nil_append,
        placeInLines, Option.none_or]
      exact Option.map_id'.symm
  | cons line lines ih =>
      have hleft : (bytesOf (line :: lines)).length + left =
          line.val.length + crlf.length + ((bytesOf lines).length + left) := by
        rw [bytesOf_cons, List.length_append, List.length_append]
        omega
      rw [hleft, bytesOf_cons, List.append_assoc, memFindFrom_crlf hinline, ih, placeInLines]
      cases placeBehind toFind line.val with
      | some place => rfl
      | none =>
          rw [Option.none_or, Option.none_or]
          cases placeInLines toFind lines with
          | some place => rfl
          | none =>
              rw [Option.none_or, Option.map_none, Option.none_or, Option.map_map]
              congr 1
              funext place
              show place + (bytesOf lines).length + (line.val.length + crlf.length) =
                place + (line.val ++ crlf ++ bytesOf lines).length
              rw [List.length_append, List.length_append]
              omega

/-! ### What is found -/

theorem placeBehind_eq (toFind : Bytes) (hne : toFind ≠ []) (line : Bytes) :
    (placeBehind toFind line).isSome = line.tails.any (startsWithNoCase toFind) := by
  induction line with
  | nil =>
      rw [List.tails, List.any_cons, startsWithNoCase_nil hne]
      rfl
  | cons c line ih =>
      rw [placeBehind, List.tails_cons, List.any_cons, ← ih]
      cases startsWithNoCase toFind (c :: line) with
      | true => rfl
      | false =>
          rw [if_neg Bool.false_ne_true, Option.isSome_map, Bool.false_or]

theorem placeInLines_isSome (hinline : Inline toFind) (lines : List Line) :
    (placeInLines toFind lines).isSome = lines.any (hasText toFind) := by
  induction lines with
  | nil => rfl
  | cons line lines ih =>
      rw [placeInLines, Option.isSome_or, Option.isSome_map, ih,
        placeBehind_eq toFind hinline.nonempty]
      rfl

theorem placeInLines_eq_none (hinline : Inline toFind) {lines : List Line}
    (hnone : ∀ line ∈ lines, hasText toFind line = false) : placeInLines toFind lines = none := by
  rw [← Option.not_isSome_iff_eq_none, placeInLines_isSome hinline, List.any_eq_true]
  intro hsome
  rcases hsome with ⟨line, hline, htext⟩
  rw [hnone line hline] at htext
  cases htext

theorem memFindAfter_zero (stop : Nat) :
    memFindAfter toFind memory 0 stop = memFindFrom toFind stop memory := by
  rw [memFindAfter, Nat.sub_zero, List.drop_zero]
  have hzero : (fun place => 0 + place) = (id : Nat → Nat) := funext fun place => Nat.zero_add place
  rw [hzero, Option.map_id_fun, id]

theorem memFindAfter_missing (hinline : Inline toFind) {lines : List Line} (behind : Bytes)
    (hnone : ∀ line ∈ lines, hasText toFind line = false) :
    memFindAfter toFind (bytesOf lines ++ behind) 0 (bytesOf lines).length = none := by
  have hsearch := @memFindFrom_bytesOf toFind behind 0 hinline lines
  rw [memFindAfter_zero, ← Nat.add_zero (bytesOf lines).length, hsearch,
    placeInLines_eq_none hinline hnone]
  rfl

/-- A text that no line has before the one that it begins. -/
theorem memFindAfter_named (hinline : Inline toFind) (before after : List Line) {line : Line}
    (behind : Bytes) (hbefore : ∀ other ∈ before, hasText toFind other = false)
    (hline : toFind <+: line.val) :
    memFindAfter toFind (bytesOf (before ++ line :: after) ++ behind) 0
        (bytesOf (before ++ line :: after)).length =
      some ((bytesOf before).length + toFind.length) := by
  have hroom : (bytesOf (line :: after)).length =
      line.val.length + 1 + (bytesOf after).length + 1 := by
    rw [bytesOf_cons, List.length_append, List.length_append, show crlf.length = 2 from rfl]
    omega
  have hstarts : startsWithNoCase toFind (bytesOf (line :: after) ++ behind) = true := by
    apply startsWithNoCase_of_prefix
    rw [bytesOf_cons, List.append_assoc, List.append_assoc]
    exact hline.trans (List.prefix_append _ _)
  rw [memFindAfter_zero, bytesOf_append, List.length_append, List.append_assoc,
    memFindFrom_bytesOf hinline, placeInLines_eq_none hinline hbefore, Option.none_or, hroom,
    memFindFrom_succ hinline.nonempty, if_pos hstarts, Option.map_some, Nat.add_comm]

/-- Where the text cannot begin the search goes on. -/
theorem memFindFrom_skips (hne : toFind ≠ []) {front : Bytes}
    (hfront : ∀ c ∈ front, stopsAt toFind c = false) :
    memFindFrom toFind (front.length + left) (front ++ rest) =
      (memFindFrom toFind left rest).map (· + front.length) := by
  induction front with
  | nil =>
      rw [List.length_nil, Nat.zero_add, List.nil_append]
      exact Option.map_id'.symm
  | cons c front ih =>
      have hhere : ¬ startsWithNoCase toFind (c :: (front ++ rest)) = true := by
        intro hstarts
        have hstops := stopsAt_of_startsWithNoCase hne hstarts
        rw [hfront c List.mem_cons_self] at hstops
        cases hstops
      have hleft : (c :: front).length + left = front.length + left + 1 := by
        rw [List.length_cons]
        omega
      rw [hleft, memFindFrom_succ hne, List.cons_append, if_neg hhere, List.tail_cons,
        ih fun d hd => hfront d (List.mem_cons_of_mem c hd), Option.map_map]
      rfl

/-- Where no byte can begin the text nothing is found. -/
theorem memFindFrom_passes (hne : toFind ≠ []) {front : Bytes}
    (hfront : ∀ c ∈ front, stopsAt toFind c = false) :
    memFindFrom toFind front.length (front ++ rest) = none :=
  @memFindFrom_skips toFind rest 0 hne front hfront

/-- The search over whole lines, up to a place in what comes behind them. -/
theorem memFindAfter_upTo (hinline : Inline toFind) (lines : List Line) {front : Bytes}
    (hfront : ∀ c ∈ front, stopsAt toFind c = false) :
    (memFindAfter toFind (bytesOf lines ++ (front ++ rest)) 0
      ((bytesOf lines).length + front.length)).isSome = lines.any (hasText toFind) := by
  rw [memFindAfter_zero, memFindFrom_bytesOf hinline, memFindFrom_passes hinline.nonempty hfront,
    Option.map_none, Option.or_none, placeInLines_isSome hinline]

/-- The search over the lines behind a place. -/
theorem memFindAfter_behind (hinline : Inline toFind) (front : Bytes) (lines : List Line)
    (behind : Bytes) :
    memFindAfter toFind (front ++ bytesOf lines ++ behind) front.length
        (front ++ bytesOf lines).length =
      (placeInLines toFind lines).map (front.length + ·) := by
  have hsearch := @memFindFrom_bytesOf toFind behind 0 hinline lines
  rw [memFindAfter, List.length_append, Nat.add_sub_cancel_left, List.append_assoc,
    List.drop_left, ← Nat.add_zero (bytesOf lines).length, hsearch]
  congr 1
  exact Option.or_none

end

end OrkAudio.SipInvite
