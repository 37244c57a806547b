import OrkAudio.CapturePort.Tape
import OrkAudio.Strtol

/-! The party filter: the parties and ranges of numbers that it lists, and what
`PartyFilterMatches` makes of them.

A party is compared with the bounds of a range as a 32-bit number: a longer number loses its
high bits, and a party that is no number counts as 0. -/

namespace OrkAudio.PartyFilter

open Strtol

/-- A bound of a range. -/
structure Decimal where
  digits : List Char
  isDecimal : IsDecimal digits

/-- A pattern of the filter. In an exact party there is no '-', which makes a range. -/
inductive PartyPattern
  | exact (party : List Char) (nonempty : party ≠ [])
      (bare : ∀ c ∈ party, c ≠ '-' ∧ c ≠ Char.ofNat 0)
  | range (low high : Decimal)

namespace PartyPattern

/-- The pattern as the configuration has it. -/
def chars : PartyPattern → List Char
  | exact party _ _ => party
  | range low high => low.digits ++ '-' :: high.digits

def text (pattern : PartyPattern) : String := String.ofList pattern.chars

def IsParty (party : List Char) : PartyPattern → Prop
  | exact other _ _ => party = other
  | range _ _ => False

def Contains (n : Int) : PartyPattern → Prop
  | exact _ _ _ => False
  | range low high => (digitsValue low.digits : Int) ≤ n ∧ n ≤ digitsValue high.digits

/-- What a pattern says: the party itself, or a number in the range. -/
def Matches (pattern : PartyPattern) (party : List Char) : Prop :=
  pattern.IsParty party ∨ ∃ n, number? party = some n ∧ pattern.Contains n

end PartyPattern

/-! ### Patterns -/

namespace PartyPattern

end PartyPattern

/-! ### The filter -/

def InRange (patterns : List PartyPattern) (n : Int) : Prop :=
  ∃ pattern ∈ patterns, pattern.Contains n

end OrkAudio.PartyFilter
