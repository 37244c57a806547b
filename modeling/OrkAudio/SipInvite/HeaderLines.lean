import OrkAudio.SipInvite.KeyValues

/-! Where `ExtractKeyValuesData` finds the lines of the header. -/

namespace OrkAudio.SipInvite

open Lib

/-! ### Tagged lines -/

def isLf (c : UInt8) : Bool := c == 0x0A

/-- The name of a header field as a key has it: without the dot that ends it. -/
structure HeaderName (name : Bytes) : Prop where
  nonempty : name ≠ []
  inside : ∀ c ∈ name, c ≠ 0 ∧ c ≠ 0x09 ∧ c ≠ 0x0A ∧ c ≠ 0x0D ∧ c ≠ 0x20 ∧ c ≠ 0x2E ∧ c ≠ 0x3A

/-- Whether a text begins with the name and a colon. -/
def isTagged (name text : Bytes) : Bool := (name ++ [0x3A]).isPrefixOf text

/-- What follows the first line that begins so. -/
def behindTag (name text : Bytes) : Option Bytes :=
  ((lineStarts isLf text).find? (isTagged name)).map (List.drop (name.length + 1))

/-- The memory up to its first NUL. -/
def textOf (memory : Bytes) : Bytes := memory.takeWhile (· != 0)

section

variable {name text memory line rest more : Bytes} {pos : Nat}

variable {fuel : Nat}

/-- The view ends at a NUL, or where the memory does. -/
theorem getElem?_textOf_length (memory : Bytes) :
    memory[(textOf memory).length]? ≠ some 0x3A := by
  induction memory with
  | nil => decide
  | cons c memory ih =>
      rw [textOf, List.takeWhile_cons]
      split
      · exact ih
      · rename_i hnul
        have hc : c = 0 := by simpa using hnul
        rw [hc, List.length_nil, List.getElem?_cons_zero]
        decide

/-- What the loop finds in a text that it goes through line by line. -/
def Finds (name text memory : Bytes) (area : Option Area) : Prop :=
  (behindTag name text = none ∧ area = some .missing) ∨
    ∃ rest, behindTag name text = some rest ∧
      area = some (.found (memory.drop (text.length - rest.length)) rest.length)

end

end OrkAudio.SipInvite
