import Mathlib.Algebra.Group.Nat.Defs

/-! Numbers as bytes, the least significant one first. -/

namespace OrkAudio.Lib.LittleEndian

def encode : Nat → Nat → List UInt8
  | 0, _ => []
  | count + 1, value => UInt8.ofNat value :: encode count (value / 256)

def decode : List UInt8 → Nat
  | [] => 0
  | byte :: bytes => byte.toNat + 256 * decode bytes

@[simp] theorem length_encode (count value : Nat) : (encode count value).length = count := by
  induction count generalizing value with
  | zero => rfl
  | succ count ih => rw [encode, List.length_cons, ih]

theorem decode_encode (count value : Nat) : decode (encode count value) = value % 256 ^ count := by
  induction count generalizing value with
  | zero => simp [encode, decode, Nat.mod_one]
  | succ count ih =>
      have hbyte : (UInt8.ofNat value).toNat = value % 256 := UInt8.toNat_ofNat'
      rw [encode, decode, ih, hbyte, Nat.pow_succ, Nat.mul_comm (256 ^ count), Nat.mod_mul]

/-- The bytes of an `unsigned int`. -/
def word (x : UInt32) : List UInt8 := encode 4 x.toNat

def toWord (bytes : List UInt8) : UInt32 := UInt32.ofNat (decode bytes)

@[simp] theorem length_word (x : UInt32) : (word x).length = 4 := length_encode 4 x.toNat

theorem drop_word (x : UInt32) {count : Nat} (hcount : 4 ≤ count) : (word x).drop count = [] := by
  apply List.drop_eq_nil_of_le
  rwa [length_word]

@[simp] theorem toWord_word (x : UInt32) : toWord (word x) = x := by
  have hlt : x.toNat < 256 ^ 4 := x.toNat_lt
  rw [toWord, word, decode_encode, Nat.mod_eq_of_lt hlt, UInt32.ofNat_toNat]

end OrkAudio.Lib.LittleEndian
