import Mathlib.Algebra.Group.Int.Defs
import Mathlib.Algebra.Group.Nat.Defs
import Mathlib.Data.List.DropRight
import Mathlib.Data.List.Infix

/-! What the programs use of `CStdString` and of the C library's readers of numbers. -/

namespace OrkAudio

/-- `CompareNoCase(..) == 0`, and `Equals` with its default argument. -/
def equalsNoCase (a b : String) : Bool :=
  decide (a.toList.map Char.toLower = b.toList.map Char.toLower)

/-- `find(..) != npos`. -/
def containsText (text part : String) : Bool := decide (part.toList <:+: text.toList)

/-- `isspace`. -/
def isSpace (c : Char) : Bool := c.toNat = 32 || (9 ≤ c.toNat && c.toNat ≤ 13)

/-- The decimal digits at the front of a text, as a number, and what follows them. -/
def readDigits (value : Nat) : List Char → Nat × List Char
  | [] => (value, [])
  | c :: cs => if c.isDigit then readDigits (10 * value + (c.toNat - 48)) cs else (value, c :: cs)

/-- `strtol(text, &end, 10)`, and whether `*end` is the end of the text. Without a digit
nothing is read and the value is 0. -/
def strtol (text : String) : Int × Bool :=
  let chars := text.toList.takeWhile fun c => c.toNat ≠ 0
  let trimmed := chars.dropWhile isSpace
  let negative := trimmed.head? = some '-'
  let unsigned := if negative ∨ trimmed.head? = some '+' then trimmed.tail else trimmed
  if (unsigned.head?.map Char.isDigit).getD false then
    let (value, rest) := readDigits 0 unsigned
    (if negative then max (-(value : Int)) (-(2 ^ 63)) else min value (2 ^ 63 - 1), rest.isEmpty)
  else (0, chars.isEmpty)

/-- A `long` stored in an `int`. -/
def longToInt (x : Int) : Int := (x + 2 ^ 31) % 2 ^ 32 - 2 ^ 31

/-- `std::atoi`. -/
def atoi (text : String) : Int := longToInt (strtol text).1

/-- `StringToInt`, which throws unless the whole text is read. -/
def stringToInt? (text : String) : Option Int :=
  if (strtol text).2 then some (longToInt (strtol text).1) else none

/-- `CStdString::TrimLeft`. -/
def trimLeft (text : List Char) : List Char := text.dropWhile isSpace

/-- `CStdString::TrimRight`. -/
def trimRight (text : List Char) : List Char := text.rdropWhile isSpace

/-- `CStdString::Trim`. -/
def trim (text : List Char) : List Char := trimRight (trimLeft text)

/-- No whitespace at the front. -/
def StartsBare (text : List Char) : Prop := ∀ c ∈ text.head?, isSpace c = false

/-- No whitespace at the end. -/
def EndsBare (text : List Char) : Prop := ∀ c ∈ text.getLast?, isSpace c = false

theorem trimLeft_eq_self_iff {text : List Char} : trimLeft text = text ↔ StartsBare text := by
  cases text with
  | nil => simp [trimLeft, StartsBare]
  | cons c text => simp [trimLeft, StartsBare, List.dropWhile_eq_self_iff]

theorem trimRight_eq_self_iff {text : List Char} : trimRight text = text ↔ EndsBare text := by
  rw [trimRight, List.rdropWhile_eq_self_iff, EndsBare]
  constructor
  · intro hlast c hc
    obtain ⟨hne, rfl⟩ := List.mem_getLast?_eq_getLast hc
    simpa using hlast hne
  · intro hlast hne
    simpa using hlast _ (List.getLast?_eq_some_getLast hne)

theorem startsBare_trimLeft (text : List Char) : StartsBare (trimLeft text) := by
  apply trimLeft_eq_self_iff.mp
  exact List.dropWhile_idempotent _ _

theorem trim_eq_self_iff {text : List Char} :
    trim text = text ↔ StartsBare text ∧ EndsBare text := by
  constructor
  · intro heq
    have hleft : trimLeft text = text := by
      have hsuffix : trimLeft text <:+ text := List.dropWhile_suffix _
      have hfront : trim text <+: trimLeft text := List.rdropWhile_prefix _ _
      apply hsuffix.eq_of_length_le
      calc
        text.length = (trim text).length := by rw [heq]
        _ ≤ (trimLeft text).length := hfront.length_le
    refine ⟨trimLeft_eq_self_iff.mp hleft, trimRight_eq_self_iff.mp ?_⟩
    rw [trim, hleft] at heq
    exact heq
  · rintro ⟨hstart, hend⟩
    rw [trim, trimLeft_eq_self_iff.mpr hstart, trimRight_eq_self_iff.mpr hend]

end OrkAudio
