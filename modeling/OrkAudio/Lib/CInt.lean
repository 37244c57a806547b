import Mathlib.Tactic.Linarith

/-! The arithmetic of C on values of type `int`, and accesses to tables.

An operation has no result where its behaviour is undefined: where the value does not fit, the
count of a shift is out of range, or the index is outside the table. Shifting to the left is
multiplying, also of negative values, and shifting to the right rounds down. -/

namespace OrkAudio.Lib.CInt

/-- The values of type `int`. -/
def IsInt (x : Int) : Prop := -2147483648 ≤ x ∧ x < 2147483648

instance decidableIsInt (x : Int) : Decidable (IsInt x) := inferInstanceAs (Decidable (_ ∧ _))

/-- A value that an operation has for its result. -/
def fit (x : Int) : Option Int := if IsInt x then some x else none

def add (x y : Int) : Option Int := fit (x + y)

def sub (x y : Int) : Option Int := fit (x - y)

def mul (x y : Int) : Option Int := fit (x * y)

def neg (x : Int) : Option Int := fit (-x)

def shl (x n : Int) : Option Int := if 0 ≤ n ∧ n < 32 then fit (x * 2 ^ n.toNat) else none

def shr (x n : Int) : Option Int := if 0 ≤ n ∧ n < 32 then some (x / 2 ^ n.toNat) else none

/-- `table[i]` -/
def entry (table : List Int) (i : Int) : Option Int := if 0 ≤ i then table[i.toNat]? else none

/-- The conversion to a type of 16 bits. -/
def toShort (x : Int) : Int := (x + 32768) % 65536 - 32768

section

variable {α : Type*}

/-- Add the terms in the order of the list; each partial sum has to fit. -/
def accumulate (term : α → Option Int) (start : Int) : List α → Option Int
  | [] => some start
  | x :: rest => do accumulate term (← add start (← term x)) rest

end

/-! ### Where the results are -/

variable {x y n lo hi : Int} {table : List Int}

theorem fit_eq (hlo : -2147483648 ≤ x) (hhi : x < 2147483648) : fit x = some x :=
  if_pos ⟨hlo, hhi⟩

theorem add_eq (hlo : -2147483648 ≤ x + y) (hhi : x + y < 2147483648) : add x y = some (x + y) :=
  fit_eq hlo hhi

theorem sub_eq (hlo : -2147483648 ≤ x - y) (hhi : x - y < 2147483648) : sub x y = some (x - y) :=
  fit_eq hlo hhi

theorem mul_eq (hlo : -2147483648 ≤ x * y) (hhi : x * y < 2147483648) : mul x y = some (x * y) :=
  fit_eq hlo hhi

theorem neg_eq (hlo : -2147483648 ≤ -x) (hhi : -x < 2147483648) : neg x = some (-x) :=
  fit_eq hlo hhi

theorem shr_eq (hn : 0 ≤ n) (hlt : n < 32) : shr x n = some (x / 2 ^ n.toNat) := if_pos ⟨hn, hlt⟩

/-- A value of `k` bits is shifted by up to `31 - k`. -/
theorem shl_eq (k : Nat) (hn : 0 ≤ n) (hx : 0 ≤ x) (hbits : x < 2 ^ k) (hroom : n.toNat + k ≤ 31) :
    shl x n = some (x * 2 ^ n.toNat) ∧ 0 ≤ x * 2 ^ n.toNat ∧
      x * 2 ^ n.toNat < 2 ^ (n.toNat + k) := by
  have hpower : (0 : Int) < 2 ^ n.toNat := Int.pow_pos (by decide)
  have hlo : 0 ≤ x * 2 ^ n.toNat := Int.mul_nonneg hx (Int.le_of_lt hpower)
  have hhi : x * 2 ^ n.toNat < 2 ^ (n.toNat + k) := by
    rw [Int.pow_add, Int.mul_comm]
    exact Int.mul_lt_mul_of_pos_left hbits hpower
  have hmost : (2 : Int) ^ (n.toNat + k) ≤ 2 ^ 31 :=
    pow_le_pow_right₀ (by decide) hroom
  have hint : (2 : Int) ^ 31 = 2147483648 := by decide
  refine ⟨?_, hlo, hhi⟩
  rw [shl, if_pos ⟨hn, by omega⟩]
  exact fit_eq (by omega) (by omega)

/-- What is shifted to the right at all is at least halved. -/
theorem shr_half (hn : 1 ≤ n) (hlt : n < 32) (hx : 0 ≤ x) :
    ∃ value, shr x n = some value ∧ 0 ≤ value ∧ value ≤ x / 2 := by
  have hpower : (0 : Int) < 2 ^ (n.toNat - 1) := Int.pow_pos (by decide)
  have hsplit : (2 : Int) ^ n.toNat = 2 * 2 ^ (n.toNat - 1) := by
    have hsum : n.toNat = 1 + (n.toNat - 1) := by omega
    rw [hsum, Int.pow_add, Nat.add_sub_cancel_left]
    rfl
  refine ⟨_, shr_eq (by omega) hlt, ?_⟩
  rw [hsplit, ← Int.ediv_ediv_of_nonneg (by decide)]
  have hhalf : 0 ≤ x / 2 := by omega
  exact ⟨Int.ediv_nonneg hhalf (Int.le_of_lt hpower), Int.ediv_le_self _ hhalf⟩

/-- The entries of a table are what is known of all of them. -/
theorem exists_entry (hx : 0 ≤ x) (hlt : x < table.length) :
    ∃ value ∈ table, entry table x = some value := by
  have hindex : x.toNat < table.length := by omega
  refine ⟨table[x.toNat], List.getElem_mem hindex, ?_⟩
  rw [entry, if_pos hx, List.getElem?_eq_getElem hindex]

theorem toShort_bounds (x : Int) : -32768 ≤ toShort x ∧ toShort x ≤ 32767 := by
  unfold toShort
  omega

theorem toShort_eq (hlo : -32768 ≤ x) (hhi : x ≤ 32767) : toShort x = x := by
  unfold toShort
  omega

theorem mul_le_of_abs {a b : Int} (hxlo : -a ≤ x) (hxhi : x ≤ a) (hylo : -b ≤ y) (hyhi : y ≤ b) :
    -(a * b) ≤ x * y ∧ x * y ≤ a * b := by
  constructor
  · nlinarith
  · nlinarith

/-- A sum of few small terms fits. -/
theorem exists_accumulate {α : Type*} {term : α → Option Int} {bound : Int} {items : List α}
    {start : Int}
    (hterms : ∀ item ∈ items, ∃ value, term item = some value ∧ -bound ≤ value ∧ value ≤ bound)
    (hlo : -2147483648 ≤ start - items.length * bound)
    (hhi : start + items.length * bound < 2147483648) :
    ∃ sum, accumulate term start items = some sum ∧ start - items.length * bound ≤ sum ∧
      sum ≤ start + items.length * bound := by
  induction items generalizing start with
  | nil => exact ⟨start, rfl, by simp, by simp⟩
  | cons item rest ih =>
      rcases hterms item List.mem_cons_self with ⟨value, hvalue, hleast, hmost⟩
      rw [List.length_cons, Int.natCast_add, Int.add_mul] at hlo hhi
      have hbound : (0 : Int) ≤ rest.length * bound := by
        apply Int.mul_nonneg (Int.natCast_nonneg _)
        omega
      have hadd : add start value = some (start + value) := add_eq (by omega) (by omega)
      rcases @ih (start + value) (fun other hother => hterms other (List.mem_cons_of_mem _ hother))
        (by omega) (by omega) with ⟨sum, hsum, hlower, hupper⟩
      use sum
      rw [accumulate, hvalue, List.length_cons, Int.natCast_add, Int.add_mul]
      dsimp only [Option.bind_eq_bind, Option.bind_some]
      rw [hadd]
      refine ⟨hsum, ?_, ?_⟩
      · omega
      · omega

end OrkAudio.Lib.CInt
