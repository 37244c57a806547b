import Mathlib.Data.List.GetD

/-! Numbers in the bytes of a packet, the most significant byte first. The reads with a question
mark answer nothing where a byte is at or behind the end. -/

namespace OrkAudio.Lib

def byte? (bytes : List UInt8) (place : Nat) : Option Nat := bytes[place]?.map UInt8.toNat

def half? (bytes : List UInt8) (place : Nat) : Option Nat :=
  (byte? bytes place).bind fun high =>
    (byte? bytes (place + 1)).map fun low => high * 256 + low

def word? (bytes : List UInt8) (place : Nat) : Option Nat :=
  (half? bytes place).bind fun high =>
    (half? bytes (place + 2)).map fun low => high * 65536 + low

/-- The byte at a place, 0 behind the end. -/
def byteAt (bytes : List UInt8) (place : Nat) : Nat := (bytes.getD place 0).toNat

def halfAt (bytes : List UInt8) (place : Nat) : Nat :=
  byteAt bytes place * 256 + byteAt bytes (place + 1)

def wordAt (bytes : List UInt8) (place : Nat) : Nat :=
  halfAt bytes place * 65536 + halfAt bytes (place + 2)

variable {bytes : List UInt8} {place : Nat}

theorem byte?_eq (hplace : place < bytes.length) : byte? bytes place = some (byteAt bytes place) := by
  rw [byte?, byteAt, List.getElem?_eq_getElem hplace, List.getD_eq_getElem _ _ hplace]
  rfl

theorem half?_eq (hplace : place + 1 < bytes.length) :
    half? bytes place = some (halfAt bytes place) := by
  have hhigh : place < bytes.length := Nat.lt_of_succ_lt hplace
  rw [half?, byte?_eq hhigh, byte?_eq hplace]
  rfl

theorem word?_eq (hplace : place + 3 < bytes.length) :
    word? bytes place = some (wordAt bytes place) := by
  have hhigh : place + 1 < bytes.length := by omega
  rw [word?, half?_eq hhigh, half?_eq hplace]
  rfl

theorem byte?_eq_none (hplace : bytes.length ≤ place) : byte? bytes place = none := by
  rw [byte?, List.getElem?_eq_none hplace]
  rfl

theorem half?_eq_none (hplace : bytes.length ≤ place + 1) : half? bytes place = none := by
  rw [half?, byte?_eq_none hplace]
  cases byte? bytes place <;> rfl

end OrkAudio.Lib
