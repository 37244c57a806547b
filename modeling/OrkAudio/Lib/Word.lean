import Mathlib.Data.Int.Basic

/-! Conversions of exact integers to machine words. -/

namespace OrkAudio.Lib

/-- The value of an `unsigned int` that an exact integer result is stored in. -/
def toU32 (x : Int) : Nat := (x % 4294967296).toNat

/-- The value of an `int` that the bits of an `unsigned int` are read as. -/
def toInt32 (x : Nat) : Int := if x < 2147483648 then x else (x : Int) - 4294967296

theorem toU32_lt (x : Int) : toU32 x < 4294967296 := by
  unfold toU32
  omega

theorem toU32_of_lt {x : Nat} (h : x < 4294967296) : toU32 x = x := by
  unfold toU32
  omega

theorem toInt32_of_lt {x : Nat} (h : x < 2147483648) : toInt32 x = x := by
  simp [toInt32, h]

/-- The value of a `size_t` that an exact integer result is stored in. -/
def toU64 (x : Int) : Nat := (x % 18446744073709551616).toNat

end OrkAudio.Lib
