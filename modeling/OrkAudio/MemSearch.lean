import OrkAudio.Lib.ByteSearch
import OrkAudio.Lib.Fallible

/-! The search helpers of the SIP parsers, with every byte that they look at.

The text is the memory from `start` up to `stop`, and places are counted from `start`; to
look at a byte that is not of the text is an error. What lies behind `stop` does not matter
to a search that makes none. The three helpers are one loop: they compare at a place, and
skip to the next one where the first letter is met. -/

namespace OrkAudio.MemSearch

open Lib

inductive Outside
  | beyond
  deriving DecidableEq

def readAt (text : Bytes) (place : Nat) : Except Outside UInt8 :=
  match text[place]? with
  | some c => .ok c
  | none => .error .beyond

/-- `strncasecmp(toFind, ptr, n) == 0`, given the first `n` characters of the text to find:
the comparison ends at the first difference. -/
def sameNoCase (text : Bytes) : Bytes → Nat → Except Outside Bool
  | [], _ => .ok true
  | p :: toFind, place =>
      readAt text place >>= fun c =>
        if toLower p = toLower c then sameNoCase text toFind (place + 1) else .ok false

/-- `memchr(ptr, c, len)`, with the bytes at which it stops: how far on the first one is. -/
def memchr (text : Bytes) (stops : UInt8 → Bool) : Nat → Nat → Except Outside (Option Nat)
  | 0, _ => .ok none
  | len + 1, place =>
      readAt text place >>= fun c =>
        if stops c then .ok (some 0)
        else (memchr text stops len (place + 1)).map (Option.map (· + 1))

def toUpper (c : UInt8) : UInt8 := if 97 ≤ c ∧ c ≤ 122 then c - 32 else c

/-- The bytes at which `memnchr` stops. -/
def eitherCase (toFind : Bytes) (c : UInt8) : Bool :=
  c == toLower (toFind.headD 0) || c == toUpper (toFind.headD 0)

/-- The byte at which `memchr` stops. -/
def sameCase (toFind : Bytes) (c : UInt8) : Bool := c == toFind.headD 0

/-- The loop of the helpers from a place on. `count` is how many characters are compared at
a place and `reach` how many bytes behind it are searched for the next one. -/
def findPlace (text toFind : Bytes) (stops : UInt8 → Bool) (count reach : Nat → Nat)
    (place : Nat) : Except Outside (Option Nat) :=
  if place < text.length then
    sameNoCase text (toFind.take (count place)) place >>= fun same =>
      if same then .ok (some place)
      else
        memchr text stops (reach place) (place + 1) >>= fun next =>
          match next with
          | none => .ok none
          | some skipped => findPlace text toFind stops count reach (place + 1 + skipped)
  else .ok none
  termination_by text.length - place

/-- `(int)strlen(toFind)`. -/
def intLength (toFind : Bytes) : Int := Int.bmod toFind.length 4294967296

/-- `memFindStr`: the place where the text to find begins. -/
def memFindStr (toFind text : Bytes) : Except Outside (Option Nat) :=
  findPlace text toFind (sameCase toFind)
    (fun place => if intLength toFind > text.length - place then text.length - place
      else toFind.length)
    (fun place => text.length - place - 1) 0

/-- `memFindAfter`: the place behind the text to find. -/
def memFindAfter (toFind text : Bytes) : Except Outside (Option Nat) :=
  (findPlace text toFind (eitherCase toFind) (fun _ => toFind.length)
    (fun place => text.length - place - 1) 0).map (Option.map (· + toFind.length))

/-- `MemFindAfter` of the base library: `memchr` is given the whole length each time. -/
def MemFindAfter (toFind text : Bytes) : Except Outside (Option Nat) :=
  (findPlace text toFind (sameCase toFind) (fun _ => toFind.length)
    (fun _ => text.length) 0).map (Option.map (· + toFind.length))

/-! ### What is to be found -/

/-- All of it is in the text at this place, in any case. -/
def Occurs (toFind text : Bytes) (place : Nat) : Prop :=
  place + toFind.length ≤ text.length ∧ startsWithNoCase toFind (text.drop place) = true

/-- The text ends in a part of it that begins at this place. -/
def Straddles (toFind text : Bytes) (place : Nat) : Prop :=
  place < text.length ∧ text.length < place + toFind.length ∧
    startsWithNoCase (toFind.take (text.length - place)) (text.drop place) = true

def IsFirst (toFind text : Bytes) (place : Nat) : Prop :=
  Occurs toFind text place ∧ ∀ other < place, ¬ Occurs toFind text other

/-- The search looks at no byte outside the text, finds something exactly when there is an
occurrence, and designates the first one, which is `shift` bytes before its result. -/
def Right (toFind text : Bytes) (shift : Nat) (found : Except Outside (Option Nat)) : Prop :=
  ∃ result, found = .ok result ∧
    (result.isSome = true ↔ ∃ place, Occurs toFind text place) ∧
    ∀ address, result = some address → ∃ place, address = place + shift ∧
      IsFirst toFind text place

section

variable {toFind text : Bytes} {place other : Nat}

theorem exists_isFirst (hoccurs : Occurs toFind text place) :
    ∃ first, IsFirst toFind text first ∧ first ≤ place := by
  induction place using Nat.strong_induction_on with
  | _ place ih =>
      by_cases hfirst : ∃ other < place, Occurs toFind text other
      · rcases hfirst with ⟨other, hother, hbefore⟩
        rcases ih other hother hbefore with ⟨first, hfirst, hle⟩
        exact ⟨first, hfirst, by omega⟩
      · exact ⟨place, ⟨hoccurs, fun other hother hbefore => hfirst ⟨other, hother, hbefore⟩⟩,
          le_refl _⟩

/-- What would go over the end does so behind every occurrence. -/
theorem Straddles.not_before (straddles : Straddles toFind text place)
    (hoccurs : Occurs toFind text other) : other < place := by
  have hinside := hoccurs.1
  have houtside := straddles.2.1
  omega

/-! ### The comparison -/

theorem readAt_of_lt (hplace : place < text.length) : readAt text place = .ok text[place] := by
  rw [readAt, List.getElem?_eq_getElem hplace]

theorem readAt_of_le (hplace : text.length ≤ place) : readAt text place = .error .beyond := by
  rw [readAt, List.getElem?_eq_none hplace]

theorem drop_of_lt (hplace : place < text.length) :
    text.drop place = text[place] :: text.drop (place + 1) :=
  List.drop_eq_getElem_cons hplace

theorem sameNoCase_cons (p : UInt8) (pattern : Bytes) (hplace : place < text.length) :
    sameNoCase text (p :: pattern) place =
      if (toLower p == toLower text[place]) = true then sameNoCase text pattern (place + 1)
      else .ok false := by
  rw [sameNoCase, readAt_of_lt hplace]
  simp only [beq_iff_eq]
  rfl

/-- A comparison that stays in the text. -/
theorem sameNoCase_inside {pattern : Bytes} (hinside : place + pattern.length ≤ text.length) :
    sameNoCase text pattern place = .ok (startsWithNoCase pattern (text.drop place)) := by
  induction pattern generalizing place with
  | nil => simp [sameNoCase, startsWithNoCase]
  | cons p pattern ih =>
      rw [List.length_cons] at hinside
      have hplace : place < text.length := by omega
      rw [sameNoCase_cons p pattern hplace, drop_of_lt hplace, startsWithNoCase]
      by_cases hsame : (toLower p == toLower text[place]) = true
      · rw [if_pos hsame, hsame, Bool.true_and]
        exact ih (by omega)
      · rw [if_neg hsame, Bool.eq_false_iff.mpr hsame, Bool.false_and]

/-- One that would leave it ends before, or all that is left of the text is the same. -/
theorem sameNoCase_outside {pattern : Bytes} (hplace : place ≤ text.length)
    (houtside : text.length < place + pattern.length) :
    sameNoCase text pattern place =
      if startsWithNoCase (pattern.take (text.length - place)) (text.drop place) = true then
        .error .beyond else .ok false := by
  induction pattern generalizing place with
  | nil =>
      rw [List.length_nil] at houtside
      omega
  | cons p pattern ih =>
      rw [List.length_cons] at houtside
      rcases Nat.lt_or_ge place text.length with hlt | hge
      · have hleft : text.length - place = text.length - (place + 1) + 1 := by omega
        rw [sameNoCase_cons p pattern hlt, drop_of_lt hlt, hleft, List.take_succ_cons,
          startsWithNoCase]
        by_cases hsame : (toLower p == toLower text[place]) = true
        · rw [if_pos hsame, hsame, Bool.true_and]
          exact ih (by omega) (by omega)
        · rw [if_neg hsame, Bool.eq_false_iff.mpr hsame, Bool.false_and,
            if_neg Bool.false_ne_true]
      · have hend : text.length - place = 0 := by omega
        rw [sameNoCase, readAt_of_le hge, hend]
        rfl

/-- The number of characters compared is enough to tell and no more than there are. -/
def Enough (toFind text : Bytes) (count : Nat → Nat) : Prop :=
  ∀ place < text.length,
    min toFind.length (text.length - place) ≤ count place ∧ count place ≤ toFind.length

section Compared

variable {count : Nat → Nat} (enough : Enough toFind text count)
include enough

theorem compare_occurs (hplace : place < text.length) (hoccurs : Occurs toFind text place) :
    sameNoCase text (toFind.take (count place)) place = .ok true := by
  have hinside := hoccurs.1
  have hcount : toFind.length ≤ count place := by
    have hleast := (enough place hplace).1
    omega
  rw [List.take_of_length_le hcount, sameNoCase_inside hoccurs.1, hoccurs.2]

/-- A comparison that straddles the end reports a difference in no case. -/
theorem compare_straddles (straddles : Straddles toFind text place) :
    sameNoCase text (toFind.take (count place)) place ≠ .ok false := by
  rcases straddles with ⟨hplace, houtside, hsame⟩
  rcases enough place hplace with ⟨hleast, hmost⟩
  have hlength : (toFind.take (count place)).length = count place :=
    List.length_take_of_le hmost
  rcases Nat.lt_or_ge text.length (place + count place) with hlong | hshort
  · have htake : (toFind.take (count place)).take (text.length - place) =
        toFind.take (text.length - place) := by
      rw [List.take_take, min_eq_left (by omega)]
    rw [sameNoCase_outside (by omega) (by rw [hlength]; omega), htake, if_pos hsame]
    intro hok
    cases hok
  · have hexact : count place = text.length - place := by omega
    rw [sameNoCase_inside (by rw [hlength]; omega), hexact, hsame]
    intro hok
    cases hok

theorem compare_other (hplace : place < text.length) (hoccurs : ¬ Occurs toFind text place)
    (hstraddles : ¬ Straddles toFind text place) :
    sameNoCase text (toFind.take (count place)) place = .ok false := by
  rcases enough place hplace with ⟨hleast, hmost⟩
  have hlength : (toFind.take (count place)).length = count place :=
    List.length_take_of_le hmost
  rcases Nat.lt_or_ge text.length (place + toFind.length) with hlong | hshort
  · have hnot : ¬ startsWithNoCase (toFind.take (text.length - place)) (text.drop place) = true :=
      fun hsame => hstraddles ⟨hplace, hlong, hsame⟩
    rcases Nat.lt_or_ge text.length (place + count place) with hmore | hless
    · have htake : (toFind.take (count place)).take (text.length - place) =
          toFind.take (text.length - place) := by
        rw [List.take_take, min_eq_left (by omega)]
      rw [sameNoCase_outside (by omega) (by rw [hlength]; omega), htake, if_neg hnot]
    · have hexact : count place = text.length - place := by omega
      rw [sameNoCase_inside (by rw [hlength]; omega), hexact, Bool.eq_false_iff.mpr hnot]
  · have hcount : toFind.length ≤ count place := by omega
    have hnot : ¬ startsWithNoCase toFind (text.drop place) = true :=
      fun hsame => hoccurs ⟨hshort, hsame⟩
    rw [List.take_of_length_le hcount, sameNoCase_inside hshort,
      Bool.eq_false_iff.mpr hnot]

end Compared

/-! ### The skip -/

/-- `memchr` stops at this place. -/
def Meets (text : Bytes) (stops : UInt8 → Bool) (place : Nat) : Prop :=
  ∃ c, text[place]? = some c ∧ stops c = true

section Skip

variable {stops : UInt8 → Bool} {len skipped : Nat}

theorem meets_of_lt (hplace : place < text.length) :
    Meets text stops place ↔ stops text[place] = true := by
  rw [Meets, List.getElem?_eq_getElem hplace]
  simp

theorem Meets.lt (meets : Meets text stops place) : place < text.length := by
  rcases meets with ⟨c, hc, -⟩
  exact (List.getElem?_eq_some_iff.mp hc).1

theorem memchr_beyond (hplace : text.length ≤ place) :
    memchr text stops (len + 1) place = .error .beyond := by
  rw [memchr, readAt_of_le hplace]
  rfl

theorem memchr_inside (hplace : place < text.length) :
    memchr text stops (len + 1) place =
      if stops text[place] = true then .ok (some 0)
      else (memchr text stops len (place + 1)).map (Option.map (· + 1)) := by
  rw [memchr, readAt_of_lt hplace]
  rfl

theorem map_eq_ok {x : Except Outside (Option Nat)} {result : Option Nat} {shift : Nat} :
    x.map (Option.map (· + shift)) = .ok result ↔
      ∃ found, x = .ok found ∧ result = found.map (· + shift) := by
  cases x with
  | error fault => simp [Except.map]
  | ok found => simp [Except.map, eq_comm]

theorem memchr_some (hfound : memchr text stops len place = .ok (some skipped)) :
    Meets text stops (place + skipped) ∧
      ∀ other, place ≤ other → other < place + skipped → ¬ Meets text stops other := by
  induction len generalizing place skipped with
  | zero => cases hfound
  | succ len ih =>
      rcases Nat.lt_or_ge place text.length with hlt | hge
      · rw [memchr_inside hlt] at hfound
        split_ifs at hfound with hstops
        · rcases Option.some.inj (Except.ok.inj hfound) with rfl
          exact ⟨(meets_of_lt hlt).mpr hstops, by intro other hle hother; omega⟩
        · rcases map_eq_ok.mp hfound with ⟨found, hrest, hsome⟩
          rcases Option.map_eq_some_iff.mp hsome.symm with ⟨before, rfl, rfl⟩
          rcases ih hrest with ⟨hmeets, hbefore⟩
          rw [Nat.add_right_comm] at hmeets
          refine ⟨hmeets, fun other hle hother => ?_⟩
          rcases Nat.eq_or_lt_of_le hle with rfl | hlater
          · rw [meets_of_lt hlt]
            exact hstops
          · exact hbefore other hlater (by omega)
      · rw [memchr_beyond hge] at hfound
        cases hfound

theorem memchr_none (hnone : memchr text stops len place = .ok none) :
    (∀ other, place ≤ other → other < place + len → ¬ Meets text stops other) ∧
      (len = 0 ∨ place + len ≤ text.length) := by
  induction len generalizing place with
  | zero => exact ⟨by intro other hle hother; omega, .inl rfl⟩
  | succ len ih =>
      rcases Nat.lt_or_ge place text.length with hlt | hge
      · rw [memchr_inside hlt] at hnone
        split_ifs at hnone with hstops
        · cases hnone
        · rcases map_eq_ok.mp hnone with ⟨found, hrest, hsome⟩
          rcases Option.map_eq_none_iff.mp hsome.symm with rfl
          rcases ih hrest with ⟨hbefore, hend⟩
          refine ⟨fun other hle hother => ?_, by omega⟩
          rcases Nat.eq_or_lt_of_le hle with rfl | hlater
          · rw [meets_of_lt hlt]
            exact hstops
          · exact hbefore other hlater (by omega)
      · rw [memchr_beyond hge] at hnone
        cases hnone

theorem memchr_finds (hmeets : Meets text stops other) (hle : place ≤ other)
    (hother : other < place + len) :
    ∃ skipped, memchr text stops len place = .ok (some skipped) ∧ place + skipped ≤ other := by
  induction len generalizing place with
  | zero => omega
  | succ len ih =>
      have hlt : place < text.length := lt_of_le_of_lt hle hmeets.lt
      rw [memchr_inside hlt]
      split_ifs with hstops
      · exact ⟨0, rfl, hle⟩
      · have hne : place ≠ other := by
          rintro rfl
          exact hstops ((meets_of_lt hlt).mp hmeets)
        rcases @ih (place + 1) (by omega) (by omega) with ⟨skipped, hfound, hskipped⟩
        exact ⟨skipped + 1, by rw [hfound]; rfl, by omega⟩

theorem memchr_returns (hend : place + len ≤ text.length) :
    ∃ found, memchr text stops len place = .ok found := by
  induction len generalizing place with
  | zero => exact ⟨none, rfl⟩
  | succ len ih =>
      rw [memchr_inside (by omega)]
      split_ifs with hstops
      · exact ⟨some 0, rfl⟩
      · rcases @ih (place + 1) (by omega) with ⟨found, hfound⟩
        exact ⟨found.map (· + 1), by rw [hfound]; rfl⟩

end Skip

/-! ### The loop -/

section Loop

variable {stops : UInt8 → Bool} {count reach : Nat → Nat}

theorem findPlace_end (hplace : text.length ≤ place) :
    findPlace text toFind stops count reach place = .ok none := by
  rw [findPlace, if_neg (by omega)]

theorem findPlace_found (hplace : place < text.length)
    (hsame : sameNoCase text (toFind.take (count place)) place = .ok true) :
    findPlace text toFind stops count reach place = .ok (some place) := by
  rw [findPlace, if_pos hplace, hsame]
  rfl

theorem findPlace_skip (hplace : place < text.length) {skipped : Nat}
    (hsame : sameNoCase text (toFind.take (count place)) place = .ok false)
    (hnext : memchr text stops (reach place) (place + 1) = .ok (some skipped)) :
    findPlace text toFind stops count reach place =
      findPlace text toFind stops count reach (place + 1 + skipped) := by
  rw [findPlace, if_pos hplace, hsame]
  simp only [bind, Except.bind, Bool.false_eq_true, if_false, hnext]

theorem findPlace_last (hplace : place < text.length)
    (hsame : sameNoCase text (toFind.take (count place)) place = .ok false)
    (hnext : memchr text stops (reach place) (place + 1) = .ok none) :
    findPlace text toFind stops count reach place = .ok none := by
  rw [findPlace, if_pos hplace, hsame]
  simp only [bind, Except.bind, Bool.false_eq_true, if_false, hnext]

/-- What a loop that returns has done at its first place. -/
theorem findPlace_cases {result : Option Nat}
    (hfound : findPlace text toFind stops count reach place = .ok result) :
    (text.length ≤ place ∧ result = none) ∨
    (place < text.length ∧ result = some place ∧
      sameNoCase text (toFind.take (count place)) place = .ok true) ∨
    (place < text.length ∧ sameNoCase text (toFind.take (count place)) place = .ok false ∧
      ((memchr text stops (reach place) (place + 1) = .ok none ∧ result = none) ∨
        ∃ skipped, memchr text stops (reach place) (place + 1) = .ok (some skipped) ∧
          findPlace text toFind stops count reach (place + 1 + skipped) = .ok result)) := by
  rcases Nat.lt_or_ge place text.length with hlt | hge
  · apply Or.inr
    rw [findPlace, if_pos hlt, bind_eq_ok] at hfound
    rcases hfound with ⟨same, hsame, hrest⟩
    cases same with
    | true => exact .inl ⟨hlt, (Except.ok.inj hrest).symm, hsame⟩
    | false =>
        rw [if_neg Bool.false_ne_true, bind_eq_ok] at hrest
        rcases hrest with ⟨next, hnext, hrest⟩
        cases next with
        | none => exact .inr ⟨hlt, hsame, .inl ⟨hnext, (Except.ok.inj hrest).symm⟩⟩
        | some skipped => exact .inr ⟨hlt, hsame, .inr ⟨skipped, hnext, hrest⟩⟩
  · rw [findPlace_end hge] at hfound
    exact .inl ⟨hge, (Except.ok.inj hfound).symm⟩

/-- The place of the result is one that the loop comes by. -/
theorem findPlace_some (hfound : findPlace text toFind stops count reach place = .ok (some other)) :
    place ≤ other ∧ (other = place ∨ Meets text stops other) := by
  induction hleft : text.length - place using Nat.strong_induction_on generalizing place with
  | _ left ih =>
      rcases findPlace_cases hfound with ⟨-, hnone⟩ | ⟨-, hsome, -⟩ | ⟨hlt, -, hrest⟩
      · cases hnone
      · rcases Option.some.inj hsome with rfl
        exact ⟨le_refl _, .inl rfl⟩
      · rcases hrest with ⟨-, hnone⟩ | ⟨skipped, hnext, hfurther⟩
        · cases hnone
        · rcases ih (text.length - (place + 1 + skipped)) (by omega) hfurther rfl with
            ⟨hle, hplace⟩
          refine ⟨by omega, .inr ?_⟩
          rcases hplace with rfl | hmeets
          · exact (memchr_some hnext).1
          · exact hmeets

section Compared

variable (enough : Enough toFind text count)
include enough

/-- The first occurrence is found if the loop comes by it. -/
theorem findPlace_finds (hreach : ∀ p < text.length, text.length - p - 1 ≤ reach p)
    (hoccurs : Occurs toFind text other) (hother : other < text.length) (hle : place ≤ other)
    (hbefore : ∀ p < other, ¬ Occurs toFind text p)
    (hstop : other = place ∨ Meets text stops other) :
    findPlace text toFind stops count reach place = .ok (some other) := by
  induction hleft : text.length - place using Nat.strong_induction_on generalizing place with
  | _ left ih =>
      rcases Nat.eq_or_lt_of_le hle with rfl | hlt
      · exact findPlace_found hother (compare_occurs enough hother hoccurs)
      · have hplace : place < text.length := by omega
        have hnot : ¬ Straddles toFind text place := fun straddles =>
          absurd (straddles.not_before hoccurs) (by omega)
        have hdiffers := compare_other enough hplace (hbefore place hlt) hnot
        have hmeets : Meets text stops other := by
          rcases hstop with rfl | hmeets
          · exact absurd hlt (lt_irrefl _)
          · exact hmeets
        have hcover := hreach place hplace
        have hwithin : other < place + 1 + reach place := by omega
        rcases memchr_finds hmeets hlt hwithin with ⟨skipped, hnext, hskipped⟩
        rw [findPlace_skip hplace hdiffers hnext]
        exact ih (text.length - (place + 1 + skipped)) (by omega) hskipped (.inr hmeets) rfl

/-- Nothing is found where no place that the loop comes by has even a part of it. -/
theorem findPlace_none (hreach : ∀ p < text.length, reach p ≤ text.length - p - 1)
    (hnone : ∀ p < text.length, place ≤ p → p = place ∨ Meets text stops p →
      ¬ Occurs toFind text p ∧ ¬ Straddles toFind text p) :
    findPlace text toFind stops count reach place = .ok none := by
  induction hleft : text.length - place using Nat.strong_induction_on generalizing place with
  | _ left ih =>
      rcases Nat.lt_or_ge place text.length with hlt | hge
      · rcases hnone place hlt (le_refl _) (.inl rfl) with ⟨hoccurs, hstraddles⟩
        have hdiffers := compare_other enough hlt hoccurs hstraddles
        have hcover := hreach place hlt
        have hend : place + 1 + reach place ≤ text.length := by omega
        rcases @memchr_returns _ _ stops _ hend with ⟨next, hnext⟩
        cases next with
        | none => exact findPlace_last hlt hdiffers hnext
        | some skipped =>
            rw [findPlace_skip hlt hdiffers hnext]
            apply ih (text.length - (place + 1 + skipped)) (by omega) ?_ rfl
            intro p hp hle hstop
            apply hnone p hp (by omega)
            rcases hstop with rfl | hmeets
            · exact .inr (memchr_some hnext).1
            · exact .inr hmeets
      · exact findPlace_end hge

/-- A loop that finds nothing has come by no place with a part of it at the end. -/
theorem findPlace_eq_none (hreach : ∀ p < text.length, text.length - p - 1 ≤ reach p)
    (hfound : findPlace text toFind stops count reach place = .ok none) (hle : place ≤ other)
    (hstop : other = place ∨ Meets text stops other) : ¬ Straddles toFind text other := by
  induction hleft : text.length - place using Nat.strong_induction_on generalizing place with
  | _ left ih =>
      intro straddles
      have hother := straddles.1
      rcases findPlace_cases hfound with ⟨hge, -⟩ | ⟨-, hsome, -⟩ | ⟨hlt, hdiffers, hrest⟩
      · omega
      · cases hsome
      · rcases Nat.eq_or_lt_of_le hle with rfl | hlater
        · exact compare_straddles enough straddles hdiffers
        · have hcover := hreach place hlt
          have hmeets : Meets text stops other := by
            rcases hstop with rfl | hmeets
            · exact absurd hlater (lt_irrefl _)
            · exact hmeets
          rcases hrest with ⟨hnext, -⟩ | ⟨skipped, hnext, hfurther⟩
          · exact (memchr_none hnext).1 other hlater (by omega) hmeets
          · rcases Nat.lt_or_ge other (place + 1 + skipped) with hbefore | hbehind
            · exact (memchr_some hnext).2 other hlater hbefore hmeets
            · exact ih (text.length - (place + 1 + skipped)) (by omega) hfurther hbehind
                (.inr hmeets) rfl straddles

end Compared

/-- Where the skip goes over the end, a loop that finds nothing has not begun. -/
theorem findPlace_beyond (hreach : ∀ p < text.length, text.length - p - 1 < reach p)
    (hfound : findPlace text toFind stops count reach place = .ok none) :
    text.length ≤ place := by
  induction hleft : text.length - place using Nat.strong_induction_on generalizing place with
  | _ left ih =>
      rcases findPlace_cases hfound with ⟨hge, -⟩ | ⟨-, hsome, -⟩ | ⟨hlt, -, hrest⟩
      · exact hge
      · cases hsome
      · have hover := hreach place hlt
        rcases hrest with ⟨hnext, -⟩ | ⟨skipped, hnext, hfurther⟩
        · rcases (memchr_none hnext).2 with hzero | hend
          · omega
          · omega
        · have hend := ih (text.length - (place + 1 + skipped)) (by omega) hfurther rfl
          have hmeets := (memchr_some hnext).1.lt
          omega

end Loop

/-! ### The helpers -/

theorem Occurs.lt (hoccurs : Occurs toFind text place) (hsome : toFind ≠ [] ∨ text ≠ [])
    (hbefore : ∀ p < place, ¬ Occurs toFind text p) : place < text.length := by
  have hinside := hoccurs.1
  rcases List.eq_nil_or_concat toFind with rfl | ⟨front, last, rfl⟩
  · have hpositive : 0 < text.length :=
      List.length_pos_iff.mpr (hsome.resolve_left fun hne => hne rfl)
    rcases Nat.eq_zero_or_pos place with rfl | hplace
    · exact hpositive
    · exact absurd ⟨Nat.zero_le _, rfl⟩ (hbefore 0 hplace)
  · rw [List.concat_eq_append, List.length_append, List.length_singleton] at hinside
    omega

/-- Nothing at all is found in nothing. -/
theorem not_right_of_nil {shift : Nat} {found : Except Outside (Option Nat)}
    (hfound : found = .ok none) : ¬ Right [] [] shift found := by
  rintro ⟨result, hok, hiff, -⟩
  rw [hfound] at hok
  rcases Except.ok.inj hok with rfl
  exact absurd (hiff.mpr ⟨0, le_refl _, rfl⟩) (by simp)

theorem right_of_first {shift : Nat} {found : Except Outside (Option Nat)}
    (hfound : found = .ok (some (place + shift))) (first : IsFirst toFind text place) :
    Right toFind text shift found := by
  refine ⟨some (place + shift), hfound, iff_of_true rfl ⟨place, first.1⟩, ?_⟩
  intro address haddress
  exact ⟨place, (Option.some.inj haddress).symm, first⟩

theorem right_of_none {shift : Nat} {found : Except Outside (Option Nat)}
    (hfound : found = .ok none) (hnone : ∀ p, ¬ Occurs toFind text p) :
    Right toFind text shift found := by
  refine ⟨none, hfound, iff_of_false Bool.false_ne_true ?_, ?_⟩
  · rintro ⟨p, hoccurs⟩
    exact hnone p hoccurs
  · intro address haddress
    cases haddress

/-- A search that is right has found the first occurrence, or there is none. -/
theorem Right.cases {shift : Nat} {found : Except Outside (Option Nat)}
    (right : Right toFind text shift found) :
    (∃ place, found = .ok (some (place + shift)) ∧ IsFirst toFind text place) ∨
      (found = .ok none ∧ ∀ p, ¬ Occurs toFind text p) := by
  rcases right with ⟨result, hok, hiff, haddress⟩
  cases result with
  | none => exact .inr ⟨hok, fun p hoccurs => Bool.false_ne_true (hiff.mpr ⟨p, hoccurs⟩)⟩
  | some address =>
      rcases haddress address rfl with ⟨place, rfl, first⟩
      exact .inl ⟨place, hok, first⟩

theorem map_add_eq_some {x : Except Outside (Option Nat)} {shift : Nat} :
    x.map (Option.map (· + shift)) = .ok (some (place + shift)) ↔ x = .ok (some place) := by
  rw [map_eq_ok]
  constructor
  · rintro ⟨found, rfl, hsome⟩
    rcases Option.map_eq_some_iff.mp hsome.symm with ⟨other, rfl, hsame⟩
    rw [Nat.add_right_cancel hsame]
  · rintro rfl
    exact ⟨some place, rfl, rfl⟩

theorem map_add_eq_none {x : Except Outside (Option Nat)} {shift : Nat} :
    x.map (Option.map (· + shift)) = .ok none ↔ x = .ok none := by
  rw [map_eq_ok]
  constructor
  · rintro ⟨found, rfl, hnone⟩
    rw [Option.map_eq_none_iff.mp hnone.symm]
  · rintro rfl
    exact ⟨none, rfl, rfl⟩

theorem enough_length : Enough toFind text fun _ => toFind.length :=
  fun _ _ => ⟨min_le_left _ _, le_refl _⟩

theorem enough_left : Enough toFind text fun place =>
    if intLength toFind > text.length - place then text.length - place else toFind.length := by
  intro place hplace
  simp only
  split_ifs with hlong
  · refine ⟨min_le_right _ _, ?_⟩
    unfold intLength Int.bmod at hlong
    dsimp only at hlong
    split_ifs at hlong
    · omega
    · omega
  · exact ⟨min_le_left _ _, le_refl _⟩

theorem eq_of_toLower {h c : UInt8} (hsame : toLower h = toLower c) :
    c = toLower h ∨ c = toUpper h := by
  have hh := h.toNat_lt
  have hc := c.toNat_lt
  have hnumbers : (90 : UInt8).toNat = 90 ∧ (65 : UInt8).toNat = 65 ∧ (97 : UInt8).toNat = 97 ∧
      (122 : UInt8).toNat = 122 ∧ (32 : UInt8).toNat = 32 := ⟨rfl, rfl, rfl, rfl, rfl⟩
  simp only [toLower, toUpper, UInt8.le_iff_toNat_le, ← UInt8.toNat_inj] at *
  split_ifs at * <;>
    simp only [UInt8.toNat_add, UInt8.toNat_sub, hnumbers] at * <;> omega

/-- Where the first letter is the same in any case, `memnchr` stops. -/
theorem meets_eitherCase {part : Bytes} (hpart : part <+: toFind) (hne : part ≠ [])
    (hplace : place < text.length) (hsame : startsWithNoCase part (text.drop place) = true) :
    Meets text (eitherCase toFind) place := by
  rcases List.exists_cons_of_ne_nil hne with ⟨h, rest, rfl⟩
  rcases hpart with ⟨more, rfl⟩
  rw [drop_of_lt hplace, startsWithNoCase, Bool.and_eq_true, beq_iff_eq] at hsame
  rw [meets_of_lt hplace, eitherCase]
  simpa using eq_of_toLower hsame.1

theorem Occurs.meets (hoccurs : Occurs toFind text place) (hplace : place < text.length) :
    place = 0 ∨ toFind = [] ∨ Meets text (eitherCase toFind) place := by
  by_cases hne : toFind = []
  · exact .inr (.inl hne)
  · exact .inr (.inr (meets_eitherCase (List.prefix_refl _) hne hplace hoccurs.2))

theorem Straddles.meets (straddles : Straddles toFind text place) :
    Meets text (eitherCase toFind) place := by
  rcases straddles with ⟨hplace, houtside, hsame⟩
  apply meets_eitherCase (List.take_prefix _ _) ?_ hplace hsame
  rw [← List.length_pos_iff, List.length_take]
  omega

/-- The loops that skip by `memchr` come by a place. -/
def Passed (toFind text : Bytes) (place : Nat) : Prop :=
  place = 0 ∨ Meets text (sameCase toFind) place

theorem memFindAfter_right_iff :
    Right toFind text toFind.length (memFindAfter toFind text) ↔
      (toFind ≠ [] ∨ text ≠ []) ∧
        ((∃ p, Occurs toFind text p) ∨ ∀ p, ¬ Straddles toFind text p) := by
  constructor
  · intro right
    have hsome : toFind ≠ [] ∨ text ≠ [] := by
      by_contra hempty
      rw [not_or, not_not, not_not] at hempty
      rcases hempty with ⟨rfl, rfl⟩
      exact not_right_of_nil (map_add_eq_none.mpr (findPlace_end (le_refl _))) right
    refine ⟨hsome, ?_⟩
    rcases right.cases with ⟨place, -, first⟩ | ⟨hnone, -⟩
    · exact .inl ⟨place, first.1⟩
    · apply Or.inr
      intro p straddles
      exact findPlace_eq_none enough_length (fun _ _ => le_refl _) (map_add_eq_none.mp hnone)
        (Nat.zero_le p) (.inr straddles.meets) straddles
  · rintro ⟨hsome, hcases⟩
    by_cases hoccurs : ∃ p, Occurs toFind text p
    · rcases hoccurs with ⟨p, hoccurs⟩
      rcases exists_isFirst hoccurs with ⟨place, first, -⟩
      have hlt := first.1.lt hsome first.2
      have hstop : place = 0 ∨ Meets text (eitherCase toFind) place := by
        rcases first.1.meets hlt with hzero | rfl | hmeets
        · exact .inl hzero
        · by_contra hlater
          rw [not_or] at hlater
          exact first.2 0 (Nat.pos_of_ne_zero hlater.1) ⟨Nat.zero_le _, rfl⟩
        · exact .inr hmeets
      exact right_of_first (map_add_eq_some.mpr (findPlace_finds enough_length
        (fun _ _ => le_refl _) first.1 hlt (Nat.zero_le _) first.2 hstop)) first
    · have hnone := not_exists.mp hoccurs
      have hwithin := hcases.resolve_left hoccurs
      exact right_of_none (map_add_eq_none.mpr (findPlace_none enough_length
        (fun _ _ => le_refl _) fun p _ _ _ => ⟨hnone p, hwithin p⟩)) hnone

theorem memFindStr_right_iff :
    Right toFind text 0 (memFindStr toFind text) ↔
      (toFind ≠ [] ∨ text ≠ []) ∧
        ((∃ p, IsFirst toFind text p ∧ Passed toFind text p) ∨
          ∀ p, ¬ Occurs toFind text p ∧ (Passed toFind text p → ¬ Straddles toFind text p)) := by
  constructor
  · intro right
    have hsome : toFind ≠ [] ∨ text ≠ [] := by
      by_contra hempty
      rw [not_or, not_not, not_not] at hempty
      rcases hempty with ⟨rfl, rfl⟩
      exact not_right_of_nil (findPlace_end (le_refl _)) right
    refine ⟨hsome, ?_⟩
    rcases right.cases with ⟨place, hfound, first⟩ | ⟨hnone, hnowhere⟩
    · exact .inl ⟨place, first, (findPlace_some hfound).2⟩
    · apply Or.inr
      intro p
      exact ⟨hnowhere p, findPlace_eq_none enough_left (fun _ _ => le_refl _) hnone
        (Nat.zero_le p)⟩
  · rintro ⟨hsome, ⟨place, first, hpassed⟩ | hnone⟩
    · exact right_of_first (findPlace_finds enough_left (fun _ _ => le_refl _) first.1
        (first.1.lt hsome first.2) (Nat.zero_le _) first.2 hpassed) first
    · exact right_of_none (findPlace_none enough_left (fun _ _ => le_refl _)
        fun p _ _ hpassed => ⟨(hnone p).1, (hnone p).2 hpassed⟩) fun p => (hnone p).1

theorem MemFindAfter_right_iff :
    Right toFind text toFind.length (MemFindAfter toFind text) ↔
      (toFind ≠ [] ∨ text ≠ []) ∧
        (text = [] ∨ ∃ p, IsFirst toFind text p ∧ Passed toFind text p) := by
  constructor
  · intro right
    have hsome : toFind ≠ [] ∨ text ≠ [] := by
      by_contra hempty
      rw [not_or, not_not, not_not] at hempty
      rcases hempty with ⟨rfl, rfl⟩
      exact not_right_of_nil (map_add_eq_none.mpr (findPlace_end (le_refl _))) right
    refine ⟨hsome, ?_⟩
    rcases right.cases with ⟨place, hfound, first⟩ | ⟨hnone, -⟩
    · exact .inr ⟨place, first, (findPlace_some (map_add_eq_some.mp hfound)).2⟩
    · have hover : ∀ p < text.length, text.length - p - 1 < text.length := by
        intro p hp
        omega
      have hend := findPlace_beyond hover (map_add_eq_none.mp hnone)
      exact .inl (List.eq_nil_of_length_eq_zero (Nat.le_zero.mp hend))
  · rintro ⟨hsome, rfl | ⟨place, first, hpassed⟩⟩
    · apply right_of_none (map_add_eq_none.mpr (findPlace_end (le_refl _)))
      intro p hoccurs
      have hinside := hoccurs.1
      have hpositive := List.length_pos_iff.mpr (hsome.resolve_right fun hne => hne rfl)
      rw [List.length_nil] at hinside
      omega
    · have hcover : ∀ p < text.length, text.length - p - 1 ≤ text.length := by
        intro p hp
        omega
      exact right_of_first (map_add_eq_some.mpr (findPlace_finds enough_length hcover first.1
        (first.1.lt hsome first.2) (Nat.zero_le _) first.2 hpassed)) first

end

/-- When each of the three helpers is right. None is where both texts are empty. Two are
put off by a letter in the other case, two by a part of the text at the end, and the helper
of the base library by every text that is not there. -/
theorem helpers_right_iff (toFind text : Bytes) :
    (Right toFind text toFind.length (memFindAfter toFind text) ↔
      (toFind ≠ [] ∨ text ≠ []) ∧
        ((∃ p, Occurs toFind text p) ∨ ∀ p, ¬ Straddles toFind text p)) ∧
    (Right toFind text 0 (memFindStr toFind text) ↔
      (toFind ≠ [] ∨ text ≠ []) ∧
        ((∃ p, IsFirst toFind text p ∧ Passed toFind text p) ∨
          ∀ p, ¬ Occurs toFind text p ∧ (Passed toFind text p → ¬ Straddles toFind text p))) ∧
    (Right toFind text toFind.length (MemFindAfter toFind text) ↔
      (toFind ≠ [] ∨ text ≠ []) ∧
        (text = [] ∨ ∃ p, IsFirst toFind text p ∧ Passed toFind text p)) :=
  ⟨memFindAfter_right_iff, memFindStr_right_iff, MemFindAfter_right_iff⟩

/-- A text that ends in a part of what is looked for: the comparison goes on behind the end,
or is cut there and takes the part for the whole. -/
theorem searches_go_wrong :
    (¬ ∀ toFind text, Right toFind text toFind.length (memFindAfter toFind text)) ∧
    (¬ ∀ toFind text, Right toFind text 0 (memFindStr toFind text)) ∧
    ¬ ∀ toFind text, Right toFind text toFind.length (MemFindAfter toFind text) := by
  have hstraddles : Straddles (ascii "To:") (ascii "xTo") 1 := by
    refine ⟨by decide, by decide, by decide⟩
  have hnone : ∀ p, ¬ Occurs (ascii "To:") (ascii "xTo") p := by
    rintro p ⟨hinside, hsame⟩
    have hlength : (ascii "To:").length = 3 ∧ (ascii "xTo").length = 3 := by decide
    rw [hlength.1, hlength.2] at hinside
    rcases Nat.eq_zero_or_pos p with rfl | hp
    · exact absurd hsame (by decide)
    · omega
  have hpassed : Passed (ascii "To:") (ascii "xTo") 1 := .inr ⟨84, by decide, by decide⟩
  refine ⟨fun right => ?_, fun right => ?_, fun right => ?_⟩
  · rcases (memFindAfter_right_iff.mp (right (ascii "To:") (ascii "xTo"))).2 with
      ⟨p, hoccurs⟩ | hwithin
    · exact hnone p hoccurs
    · exact hwithin 1 hstraddles
  · rcases (memFindStr_right_iff.mp (right (ascii "To:") (ascii "xTo"))).2 with
      ⟨p, first, -⟩ | hwithin
    · exact hnone p first.1
    · exact (hwithin 1).2 hpassed hstraddles
  · rcases (MemFindAfter_right_iff.mp (right (ascii "To:") (ascii "xTo"))).2 with
      hempty | ⟨p, first, -⟩
    · exact absurd hempty (by decide)
    · exact hnone p first.1

end OrkAudio.MemSearch
