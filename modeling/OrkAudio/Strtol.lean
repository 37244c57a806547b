import OrkAudio.StdString
import Mathlib.Data.Nat.Digits.Defs
import Mathlib.Tactic.Ring

/-! Decimal texts, and what `strtol` and `StringToInt` make of them.

A number longer than a `long` is the largest or the least `long`, and of a `long` an `int` keeps
the low 32 bits. -/

namespace OrkAudio.Strtol

/-- What C sees of a string. -/
def cText (text : String) : List Char := text.toList.takeWhile (· ≠ Char.ofNat 0)

/-- The value of decimal digits. -/
def digitsValue (digits : List Char) : Nat :=
  Nat.ofDigits 10 (digits.reverse.map fun c => c.toNat - 48)

def IsDecimal (text : List Char) : Prop := text ≠ [] ∧ ∀ c ∈ text, c.isDigit = true

instance instDecidableIsDecimal (text : List Char) : Decidable (IsDecimal text) :=
  decidable_of_iff (text ≠ [] ∧ text.all Char.isDigit = true)
    (by rw [List.all_eq_true, IsDecimal])

/-- Whether a text has a '-' in front, and what follows its sign. -/
def signed : List Char → Bool × List Char
  | [] => (false, [])
  | c :: text =>
      if c = '-' then (true, text) else if c = '+' then (false, text) else (false, c :: text)

/-- The number that a text is: digits, with a sign or without one. -/
def number? (text : List Char) : Option Int :=
  if IsDecimal (signed text).2 then
    some (if (signed text).1 then -(digitsValue (signed text).2 : Int)
      else digitsValue (signed text).2)
  else none

theorem digitsValue_cons (c : Char) (digits : List Char) :
    digitsValue (c :: digits) = (c.toNat - 48) * 10 ^ digits.length + digitsValue digits := by
  unfold digitsValue
  rw [List.reverse_cons, List.map_append, Nat.ofDigits_append, List.length_map,
    List.length_reverse, List.map_singleton, Nat.ofDigits_singleton, Nat.mul_comm, Nat.add_comm]

theorem readDigits_digits {digits : List Char} (hdigits : ∀ c ∈ digits, c.isDigit = true)
    (value : Nat) :
    readDigits value digits = (value * 10 ^ digits.length + digitsValue digits, []) := by
  induction digits generalizing value with
  | nil => simp [readDigits, digitsValue]
  | cons c digits ih =>
      have hrest := ih (fun d hd => hdigits d (List.mem_cons_of_mem _ hd))
      rw [readDigits, if_pos (hdigits c List.mem_cons_self), hrest, digitsValue_cons,
        List.length_cons]
      congr 1
      ring

theorem IsDecimal.head {c : Char} {text : List Char} (hdecimal : IsDecimal (c :: text)) :
    c.isDigit = true :=
  hdecimal.2 c List.mem_cons_self

/-! ### `strtol` -/

theorem not_isSpace_of_isDigit {c : Char} (hdigit : c.isDigit = true) : isSpace c = false := by
  have hrange : 48 ≤ c.toNat ∧ c.toNat ≤ 57 := by
    rw [Char.isDigit, Bool.and_eq_true, decide_eq_true_eq, decide_eq_true_eq] at hdigit
    exact hdigit
  simp only [isSpace, Bool.or_eq_false_iff, Bool.and_eq_false_iff, decide_eq_false_iff_not]
  omega

theorem cText_eq (text : String) : (text.toList.takeWhile fun c => c.toNat ≠ 0) = cText text := by
  unfold cText
  congr 1
  funext c
  have hnul : c.toNat ≠ 0 ↔ c ≠ Char.ofNat 0 := by
    rw [ne_eq, ne_eq, not_iff_not, ← Char.toNat_inj]
    rfl
  exact decide_eq_decide.mpr hnul

/-- What `strtol` makes of the text behind the sign. -/
def readUnsigned (sign : Bool × List Char) (empty : Bool) : Int × Bool :=
  if (sign.2.head?.map Char.isDigit).getD false then
    (if sign.1 then max (-((readDigits 0 sign.2).1 : Int)) (-(2 ^ 63))
      else min ((readDigits 0 sign.2).1 : Int) (2 ^ 63 - 1), (readDigits 0 sign.2).2.isEmpty)
  else (0, empty)

theorem strtol_eq (text : String) :
    strtol text = readUnsigned (signed ((cText text).dropWhile isSpace)) (cText text).isEmpty := by
  unfold strtol
  rw [cText_eq]
  dsimp only
  cases (cText text).dropWhile isSpace with
  | nil => rfl
  | cons c rest =>
      by_cases hminus : c = '-'
      · subst hminus
        rfl
      · by_cases hplus : c = '+'
        · subst hplus
          rfl
        · have hsigned : signed (c :: rest) = (false, c :: rest) := by
            rw [signed, if_neg hminus, if_neg hplus]
          simp only [hsigned, List.head?_cons, Option.some.injEq, hminus, hplus, or_self, if_false,
            readUnsigned]
          rfl

theorem strtol_decimal {text : String}
    (hdecimal : IsDecimal (signed ((cText text).dropWhile isSpace)).2) :
    strtol text =
      (max (min (if (signed ((cText text).dropWhile isSpace)).1 then
          -(digitsValue (signed ((cText text).dropWhile isSpace)).2 : Int)
        else digitsValue (signed ((cText text).dropWhile isSpace)).2) 9223372036854775807)
        (-9223372036854775808), true) := by
  rw [strtol_eq]
  generalize signed ((cText text).dropWhile isSpace) = sign at hdecimal ⊢
  obtain ⟨negative, digits⟩ := sign
  have hhead : (digits.head?.map Char.isDigit).getD false = true := by
    cases digits with
    | nil => exact absurd rfl hdecimal.1
    | cons c digits => exact hdecimal.head
  unfold readUnsigned
  dsimp only
  rw [if_pos hhead, readDigits_digits hdecimal.2, Nat.zero_mul, Nat.zero_add]
  apply Prod.ext
  · cases negative <;> simp
  · rfl

theorem IsDecimal.signed {digits : List Char} (hdecimal : IsDecimal digits) :
    signed (digits.dropWhile isSpace) = (false, digits) := by
  cases digits with
  | nil => exact absurd rfl hdecimal.1
  | cons c digits =>
      have hspace : ¬ isSpace c = true := by simp [not_isSpace_of_isDigit hdecimal.head]
      have hminus : c ≠ '-' := fun heq => absurd (heq ▸ hdecimal.head) (by decide)
      have hplus : c ≠ '+' := fun heq => absurd (heq ▸ hdecimal.head) (by decide)
      rw [List.dropWhile_cons_of_neg hspace, Strtol.signed, if_neg hminus, if_neg hplus]

theorem cText_ofList {text : List Char} (hbare : ∀ c ∈ text, c ≠ Char.ofNat 0) :
    cText (String.ofList text) = text := by
  rw [cText, String.toList_ofList, List.takeWhile_eq_self_iff]
  intro c hc
  exact decide_eq_true (hbare c hc)

theorem IsDecimal.ne {digits : List Char} (hdecimal : IsDecimal digits) {c d : Char}
    (hc : c ∈ digits) (hother : d.isDigit = false) : c ≠ d := by
  intro heq
  rw [heq] at hc
  exact absurd (hdecimal.2 d hc) (by simp [hother])

theorem strtol_digits {digits : List Char} (hdecimal : IsDecimal digits) :
    strtol (String.ofList digits) =
      (min (digitsValue digits : Int) 9223372036854775807, true) := by
  have htext : cText (String.ofList digits) = digits :=
    cText_ofList fun c hc => hdecimal.ne hc (by decide)
  rw [strtol_decimal (by rw [htext, hdecimal.signed]; exact hdecimal), htext, hdecimal.signed]
  apply Prod.ext
  · dsimp only
    rw [if_neg Bool.false_ne_true]
    omega
  · rfl

/-- `StringToInt` of a number that an `int` holds. -/
theorem stringToInt?_digits {digits : List Char} (hdecimal : IsDecimal digits)
    (hfits : digitsValue digits < 2147483648) :
    stringToInt? (String.ofList digits) = some (digitsValue digits : Int) := by
  rw [stringToInt?, strtol_digits hdecimal, if_pos rfl, longToInt]
  congr 1
  dsimp only
  omega

end OrkAudio.Strtol
