import OrkAudio.Decoder.Packets
import OrkAudio.Lib.CInt

/-! The G.721 decoder, as `G721CodecDecoder` uses it: linear output.

A sum or a product of two values of 16 bits fits into an `int` and is not checked; every other
operation on an `int`, every shift by a count that is computed and every access to a table is.
Only the low bits of a value are masked, so that masking is taking the remainder. -/

namespace OrkAudio

open Lib CInt

/-- `struct g72x_state` -/
structure G72xState where
  yl : Int
  yu : Int
  dms : Int
  dml : Int
  ap : Int
  a0 : Int
  a1 : Int
  b : List Int
  pk0 : Int
  pk1 : Int
  dq : List Int
  sr0 : Int
  sr1 : Int
  td : Int
  deriving DecidableEq, Repr

namespace G721

/-! ### `g72x.c` -/

def power2 : List Int :=
  [1, 2, 4, 8, 0x10, 0x20, 0x40, 0x80, 0x100, 0x200, 0x400, 0x800, 0x1000, 0x2000, 0x4000]

def quan (val : Int) (table : List Int) : Int := table.findIdx fun level => val < level

/-- Two values have different signs, as the sign of `x ^ y` says. -/
def differ (x y : Int) : Bool := decide (x < 0) != decide (y < 0)

/-- The mantissa of `anmag`. -/
def mantissa (anmag anexp : Int) : Option Int :=
  if anmag = 0 then some 32 else if 0 ≤ anexp then shr anmag anexp else shl anmag (-anexp)

/-- The magnitude of the product. -/
def scaled (wanmant wanexp : Int) : Option Int :=
  if 0 ≤ wanexp then (shl wanmant wanexp).map (· % 0x8000) else shr wanmant (-wanexp)

def fmult (an srn : Int) : Option Int := do
  let anmag := toShort (if 0 < an then an else -an % 0x2000)
  let anexp := toShort (quan anmag power2 - 6)
  let anmant := toShort (← mantissa anmag anexp)
  let wanexp := toShort (anexp + srn / 64 % 16 - 13)
  let wanmant := toShort ((anmant * (srn % 64) + 0x30) / 16)
  let retval := toShort (← scaled wanmant wanexp)
  pure (if differ an srn then -retval else retval)

def predictorZero (s : G72xState) : Option Int :=
  accumulate (fun (b, dq) => fmult (b / 4) dq) 0 (s.b.zip s.dq)

def predictorPole (s : G72xState) : Option Int := do
  add (← fmult (s.a1 / 4) s.sr1) (← fmult (s.a0 / 4) s.sr0)

def stepSize (s : G72xState) : Option Int :=
  if 256 ≤ s.ap then some s.yu
  else do
    let y := s.yl / 64
    let dif ← sub s.yu y
    let al := s.ap / 4
    if 0 < dif then add y ((← mul dif al) / 64)
    else if dif < 0 then add y ((← add (← mul dif al) 0x3F) / 64)
    else some y

def reconstruct (sign : Bool) (dqln y : Int) : Option Int := do
  let dql := toShort (dqln + y / 4)
  if dql < 0 then pure (if sign then -0x8000 else 0)
  else
    let dex := toShort (dql / 128 % 16)
    let dqt := toShort (128 + dql % 128)
    let dq := toShort (← shr (dqt * 128) (14 - dex))
    pure (if sign then dq - 0x8000 else dq)

/-! The parts of `update` have the names that its comments give them. -/

/-- TRANS -/
def trans (s : G72xState) (mag : Int) : Option Int := do
  let ylint := toShort (s.yl / 32768)
  let ylfrac := toShort (s.yl / 1024 % 32)
  let thr1 := toShort (← shl (32 + ylfrac) ylint)
  let thr2 := if 9 < ylint then 31 * 1024 else thr1
  let dqthr := toShort ((thr2 + thr2 / 2) / 2)
  pure (if s.td = 0 then 0 else if mag ≤ dqthr then 0 else 1)

/-- FUNCTW and FILTD, then LIMB -/
def filtd (y wi : Int) : Option Int := do
  let yu := toShort (← add y ((← sub wi y) / 32))
  pure (if yu < 544 then 544 else if 5120 < yu then 5120 else yu)

/-- FILTE -/
def filte (yl yu : Int) : Option Int := do add yl (← add yu ((← neg yl) / 64))

/-- UPA2, then LIMC -/
def upa2 (s : G72xState) (pk0 dqsez : Int) : Int :=
  let a2p := toShort (s.a1 - s.a1 / 128)
  if dqsez ≠ 0 then
    let fa1 := toShort (if pk0 ≠ s.pk0 then s.a0 else -s.a0)
    let a2p := toShort (
      if fa1 < -8191 then a2p - 0x100 else if 8191 < fa1 then a2p + 0xFF else a2p + fa1 / 32)
    if pk0 ≠ s.pk1 then
      if a2p ≤ -12160 then -12288 else if 12416 ≤ a2p then 12288 else toShort (a2p - 0x80)
    else if a2p ≤ -12416 then -12288
    else if 12160 ≤ a2p then 12288
    else toShort (a2p + 0x80)
  else a2p

/-- UPA1, then LIMD -/
def upa1 (s : G72xState) (pk0 dqsez a2p : Int) : Int :=
  let a0 := toShort (s.a0 - s.a0 / 256)
  let a0 :=
    if dqsez ≠ 0 then if pk0 = s.pk0 then toShort (a0 + 192) else toShort (a0 - 192) else a0
  let a1ul := toShort (15360 - a2p)
  if a0 < -a1ul then toShort (-a1ul) else if a1ul < a0 then a1ul else a0

/-- UPB -/
def upb (codeSize dq : Int) (coefficient : Int × Int) : Int :=
  let b := toShort (coefficient.1 - coefficient.1 / (if codeSize = 5 then 512 else 256))
  if dq % 0x8000 ≠ 0 then
    if differ dq coefficient.2 then toShort (b - 128) else toShort (b + 128)
  else b

/-- FLOAT A and FLOAT B of a value that is not 0, and of its magnitude -/
def float (value mag : Int) : Option Int := do
  let exp := quan mag power2
  let base := exp * 64 + (← shr (mag * 64) exp)
  pure (toShort (if 0 ≤ value then base else base - 0x400))

/-- FLOAT A -/
def floatA (dq mag : Int) : Option Int :=
  if mag = 0 then some (if 0 ≤ dq then 0x20 else toShort 0xFC20) else float dq mag

/-- FLOAT B -/
def floatB (sr : Int) : Option Int :=
  if sr = 0 then some 0x20
  else if 0 < sr then float sr sr
  else if -32768 < sr then float sr (toShort (-sr))
  else some (toShort 0xFC20)

/-- The speed control, from the new averages and the new tone detection. -/
def speed (y tr td dms dml ap : Int) : Int :=
  toShort (
    if tr = 1 then 256
    else if y < 1536 ∨ td = 1 ∨ dml / 8 ≤ |dms * 4 - dml| then ap + (0x200 - ap) / 16
    else ap + -ap / 16)

def update (codeSize y wi fi dq sr dqsez : Int) (s : G72xState) : Option G72xState := do
  let pk0 := if dqsez < 0 then 1 else 0
  let mag := toShort (dq % 0x8000)
  let tr ← trans s mag
  let yu ← filtd y wi
  let yl ← filte s.yl yu
  let a2p := if tr = 1 then 0 else upa2 s pk0 dqsez
  let dq0 ← floatA dq mag
  let sr0 ← floatB sr
  let td := if tr = 1 then 0 else if a2p < -11776 then 1 else 0
  let dms := toShort (s.dms + (fi - s.dms) / 32)
  let dml := toShort (s.dml + (fi * 4 - s.dml) / 128)
  pure {
    yl := yl
    yu := yu
    dms := dms
    dml := dml
    ap := speed y tr td dms dml s.ap
    a0 := if tr = 1 then 0 else upa1 s pk0 dqsez a2p
    a1 := a2p
    b := if tr = 1 then s.b.map fun _ => 0 else (s.b.zip s.dq).map (upb codeSize dq)
    pk0 := pk0
    pk1 := s.pk0
    dq := dq0 :: s.dq.dropLast
    sr0 := sr0
    sr1 := s.sr0
    td := td }

/-! ### `g721.c` -/

def dqlntab : List Int :=
  [-2048, 4, 135, 213, 273, 323, 373, 425, 425, 373, 323, 273, 213, 135, 4, -2048]

def witab : List Int :=
  [-12, 18, 41, 64, 112, 198, 355, 1122, 1122, 355, 198, 112, 64, 41, 18, -12]

def fitab : List Int :=
  [0, 0, 0, 0x200, 0x200, 0x200, 0x600, 0xE00, 0xE00, 0x600, 0x200, 0x200, 0x200, 0, 0, 0]

/-- `g721_decoder` with `AUDIO_ENCODING_LINEAR` -/
def g721Decoder (i : Int) (s : G72xState) : Option (Int × G72xState) := do
  let i := i % 16
  let sezi := toShort (← predictorZero s)
  let sez := sezi / 2
  let sei := toShort (← add sezi (← predictorPole s))
  let se := sei / 2
  let y := toShort (← stepSize s)
  let dq := toShort (← reconstruct (i / 8 % 2 = 1) (← entry dqlntab i) y)
  let sr := toShort (if dq < 0 then se - dq % 0x4000 else se + dq)
  let dqsez := toShort (sr - se + sez)
  let s ← update 4 y ((← entry witab i) * 32) (← entry fitab i) dq sr dqsez s
  pure (sr * 4, s)

/-! ### The values that the state keeps to -/

structure Valid (s : G72xState) : Prop where
  yl : 34816 ≤ s.yl ∧ s.yl ≤ 327680
  yu : 544 ≤ s.yu ∧ s.yu ≤ 5120
  dms : 0 ≤ s.dms ∧ s.dms ≤ 0xE00
  dml : 0 ≤ s.dml ∧ s.dml ≤ 0x3800
  ap : 0 ≤ s.ap ∧ s.ap ≤ 0x200
  a0 : s.a1 - 15360 ≤ s.a0 ∧ s.a0 ≤ 15360 - s.a1
  a1 : -12288 ≤ s.a1 ∧ s.a1 ≤ 12288
  b : s.b.length = 6 ∧ ∀ b ∈ s.b, -32768 ≤ b ∧ b ≤ 32767
  dq : s.dq.length = 6 ∧ ∀ dq ∈ s.dq, -32768 ≤ dq ∧ dq ≤ 32767
  sr0 : -32768 ≤ s.sr0 ∧ s.sr0 ≤ 32767
  sr1 : -32768 ≤ s.sr1 ∧ s.sr1 ≤ 32767

variable {s : G72xState}

/-! ### Floating point -/

theorem quan_bounds (val : Int) (table : List Int) :
    0 ≤ quan val table ∧ quan val table ≤ table.length := by
  have hle : table.findIdx (fun level => val < level) ≤ table.length := List.findIdx_le_length
  unfold quan
  omega

/-- A value of 15 bits is less than the power of two that its exponent stands for. -/
theorem lt_of_quan {mag : Int} (hhi : mag < 32768) : mag < 2 ^ (quan mag power2).toNat := by
  have hindex : (quan mag power2).toNat = power2.findIdx fun level => mag < level :=
    Int.toNat_natCast _
  rw [hindex]
  rcases Nat.lt_or_ge (power2.findIdx fun level => decide (mag < level)) power2.length with
    hfound | hnone
  · have hlevel := List.findIdx_getElem (w := hfound)
    have hpower : ∀ k (hk : k < power2.length), power2[k] = 2 ^ k := by decide
    rw [hpower] at hlevel
    exact of_decide_eq_true hlevel
  · have hlength : power2.length = 15 := by decide
    have hmost : (2 : Int) ^ 15 ≤ 2 ^ (power2.findIdx fun level => decide (mag < level)) :=
      pow_le_pow_right₀ (by decide) (by omega)
    have hvalue : (2 : Int) ^ 15 = 32768 := by decide
    omega

/-- The mantissa has 6 bits. -/
theorem exists_mantissa {mag : Int} (hlo : 0 ≤ mag) (hhi : mag < 32768) :
    ∃ value, mantissa mag (quan mag power2 - 6) = some value ∧ 0 ≤ value ∧ value < 64 := by
  have hquan := quan_bounds mag power2
  have hlength : (power2.length : Int) = 15 := by decide
  have hlt := lt_of_quan hhi
  unfold mantissa
  split_ifs with hzero hexp
  · exact ⟨32, rfl, by decide, by decide⟩
  · have hpower : (0 : Int) < 2 ^ (quan mag power2 - 6).toNat := Int.pow_pos (by decide)
    have hsplit : (2 : Int) ^ (quan mag power2).toNat = 64 * 2 ^ (quan mag power2 - 6).toNat := by
      have hsum : (quan mag power2).toNat = 6 + (quan mag power2 - 6).toNat := by omega
      rw [hsum, Int.pow_add]
      rfl
    refine ⟨_, shr_eq hexp (by omega), Int.ediv_nonneg hlo (Int.le_of_lt hpower), ?_⟩
    rw [hsplit] at hlt
    exact Int.ediv_lt_of_lt_mul hpower hlt
  · rcases shl_eq (quan mag power2).toNat (by omega) hlo hlt
      (by omega : (-(quan mag power2 - 6)).toNat + (quan mag power2).toNat ≤ 31) with
      ⟨hshl, hleast, hmost⟩
    have hsum : (-(quan mag power2 - 6)).toNat + (quan mag power2).toNat = 6 := by omega
    rw [hsum] at hmost
    exact ⟨_, hshl, hleast, hmost⟩

/-- The product is shifted by its exponent either way. -/
theorem exists_scaled {mant exp : Int} (hlo : 0 ≤ mant) (hhi : mant < 256) (hleast : -31 ≤ exp)
    (hmost : exp ≤ 23) :
    ∃ value, scaled mant exp = some value ∧ 0 ≤ value ∧ value ≤ 32767 := by
  unfold scaled
  split_ifs with hexp
  · rcases shl_eq 8 hexp hlo hhi (by omega : exp.toNat + 8 ≤ 31) with ⟨hshl, _, _⟩
    rw [hshl]
    exact ⟨mant * 2 ^ exp.toNat % 0x8000, rfl, by omega, by omega⟩
  · have hpower : (0 : Int) < 2 ^ (-exp).toNat := Int.pow_pos (by decide)
    have hle := Int.ediv_le_self (2 ^ (-exp).toNat) hlo
    refine ⟨_, shr_eq (by omega) (by omega), Int.ediv_nonneg hlo (Int.le_of_lt hpower), ?_⟩
    omega

theorem exists_fmult {an srn : Int} (hlo : -8192 ≤ an) (hhi : an ≤ 8191) :
    ∃ value, fmult an srn = some value ∧ -32767 ≤ value ∧ value ≤ 32767 := by
  let mag := if 0 < an then an else -an % 0x2000
  have hmag : 0 ≤ mag ∧ mag ≤ 8191 := by
    dsimp only [mag]
    split_ifs
    · omega
    · omega
  have hquan := quan_bounds mag power2
  have hlength : (power2.length : Int) = 15 := by decide
  rcases exists_mantissa hmag.1 (by omega : mag < 32768) with ⟨anmant, hanmant, hmantlo, hmanthi⟩
  have hproduct := mul_le_of_abs (by omega : -63 ≤ anmant) (by omega) (by omega : -63 ≤ srn % 64)
    (by omega)
  have hnonneg : 0 ≤ anmant * (srn % 64) := Int.mul_nonneg hmantlo (by omega)
  rcases @exists_scaled ((anmant * (srn % 64) + 0x30) / 16)
      (quan mag power2 - 6 + srn / 64 % 16 - 13) (by omega) (by omega) (by omega) (by omega) with
    ⟨retval, hretval, hretlo, hrethi⟩
  have hfmult : fmult an srn = some (if differ an srn then -retval else retval) := by
    unfold fmult
    dsimp only
    rw [toShort_eq (by omega : -32768 ≤ mag) (by omega),
      toShort_eq (by omega : -32768 ≤ quan mag power2 - 6) (by omega), hanmant]
    dsimp only [Option.bind_eq_bind, Option.bind_some]
    rw [toShort_eq (by omega : -32768 ≤ anmant) (by omega),
      toShort_eq (by omega : -32768 ≤ quan mag power2 - 6 + srn / 64 % 16 - 13) (by omega),
      toShort_eq (by omega : -32768 ≤ (anmant * (srn % 64) + 0x30) / 16) (by omega), hretval]
    dsimp only [Option.bind_some]
    rw [toShort_eq (by omega : -32768 ≤ retval) (by omega)]
    rfl
  refine ⟨_, hfmult, ?_⟩
  split_ifs
  · omega
  · omega

/-! ### Prediction and step size -/

theorem exists_predictorZero (valid : Valid s) :
    ∃ sezi, predictorZero s = some sezi ∧ -196602 ≤ sezi ∧ sezi ≤ 196602 := by
  have hlength : (s.b.zip s.dq).length = 6 := by
    rw [List.length_zip, valid.b.1, valid.dq.1]
    rfl
  have hterms : ∀ item ∈ s.b.zip s.dq, ∃ value,
      (fun (b, dq) => fmult (b / 4) dq : Int × Int → Option Int) item = some value ∧
        -32767 ≤ value ∧ value ≤ 32767 := by
    rintro ⟨b, dq⟩ hitem
    have hb := valid.b.2 b (List.of_mem_zip hitem).1
    exact exists_fmult (by omega) (by omega)
  rcases @exists_accumulate _ _ _ _ 0 hterms (by rw [hlength]; decide)
    (by rw [hlength]; decide) with ⟨sezi, hsezi, hlo, hhi⟩
  rw [hlength] at hlo hhi
  exact ⟨sezi, hsezi, by omega, by omega⟩

theorem exists_predictorPole (valid : Valid s) :
    ∃ value, predictorPole s = some value ∧ -65534 ≤ value ∧ value ≤ 65534 := by
  have ha0 := valid.a0
  have ha1 := valid.a1
  rcases @exists_fmult (s.a1 / 4) s.sr1 (by omega) (by omega) with ⟨first, hfirst, hflo, hfhi⟩
  rcases @exists_fmult (s.a0 / 4) s.sr0 (by omega) (by omega) with ⟨second, hsecond, hslo, hshi⟩
  use first + second
  unfold predictorPole
  rw [hfirst, hsecond]
  exact ⟨add_eq (by omega) (by omega), by omega, by omega⟩

/-- The step size is between the two that it is mixed from. -/
theorem exists_stepSize (valid : Valid s) :
    ∃ y, stepSize s = some y ∧ 544 ≤ y ∧ y ≤ 5120 := by
  have hyl := valid.yl
  have hyu := valid.yu
  have hap := valid.ap
  unfold stepSize
  by_cases hfast : 256 ≤ s.ap
  · rw [if_pos hfast]
    exact ⟨s.yu, rfl, hyu.1, hyu.2⟩
  · rw [if_neg hfast]
    have hdif : sub s.yu (s.yl / 64) = some (s.yu - s.yl / 64) := sub_eq (by omega) (by omega)
    have hal : 0 ≤ s.ap / 4 ∧ s.ap / 4 ≤ 63 := by omega
    dsimp only
    rw [hdif]
    dsimp only [Option.bind_eq_bind, Option.bind_some]
    generalize hdifference : s.yu - s.yl / 64 = dif
    generalize s.ap / 4 = al at hal
    have hproduct := mul_le_of_abs (by omega : -4576 ≤ dif) (by omega) (by omega : -63 ≤ al) hal.2
    have hmul : mul dif al = some (dif * al) := mul_eq (by omega) (by omega)
    rw [hmul]
    dsimp only [Option.bind_some]
    split_ifs with hup hdown
    · have hmost : dif * al ≤ dif * 63 := Int.mul_le_mul_of_nonneg_left hal.2 (by omega)
      have hleast : 0 ≤ dif * al := Int.mul_nonneg (by omega) hal.1
      exact ⟨_, add_eq (by omega) (by omega), by omega, by omega⟩
    · have hleast : dif * 63 ≤ dif * al := Int.mul_le_mul_of_nonpos_left (by omega) hal.2
      have hmost : dif * al ≤ 0 := Int.mul_nonpos_of_nonpos_of_nonneg (by omega) hal.1
      have hround : add (dif * al) 0x3F = some (dif * al + 0x3F) := add_eq (by omega) (by omega)
      rw [hround]
      exact ⟨_, add_eq (by omega) (by omega), by omega, by omega⟩
    · exact ⟨_, rfl, by omega, by omega⟩

theorem exists_reconstruct {sign : Bool} {dqln y : Int} (hdqln : -2048 ≤ dqln ∧ dqln ≤ 425)
    (hy : 544 ≤ y ∧ y ≤ 5120) :
    ∃ dq, reconstruct sign dqln y = some dq ∧ -32768 ≤ dq ∧ dq ≤ 16320 := by
  unfold reconstruct
  dsimp only
  rw [toShort_eq (by omega : -32768 ≤ dqln + y / 4) (by omega)]
  by_cases hneg : dqln + y / 4 < 0
  · rw [if_pos hneg]
    refine ⟨_, rfl, ?_⟩
    split_ifs
    · omega
    · omega
  · rw [if_neg hneg]
    generalize hdql : dqln + y / 4 = dql at hneg
    -- The exponent is at most 13, so that the shift goes to the right.
    rw [toShort_eq (by omega : -32768 ≤ dql / 128 % 16) (by omega),
      toShort_eq (by omega : -32768 ≤ 128 + dql % 128) (by omega)]
    rcases @shr_half ((128 + dql % 128) * 128) (14 - dql / 128 % 16) (by omega) (by omega)
      (by omega) with ⟨dq, hdq, hlo, hhi⟩
    rw [hdq]
    dsimp only [Option.bind_eq_bind, Option.bind_some]
    rw [toShort_eq (by omega) (by omega)]
    refine ⟨_, rfl, ?_⟩
    split_ifs
    · omega
    · omega

/-! ### What `update` makes of the state -/

theorem exists_trans (valid : Valid s) (mag : Int) :
    ∃ tr, trans s mag = some tr := by
  have hyl := valid.yl
  unfold trans
  dsimp only
  rw [toShort_eq (by omega : -32768 ≤ s.yl / 32768) (by omega),
    toShort_eq (by omega : -32768 ≤ s.yl / 1024 % 32) (by omega)]
  have hshl := (@shl_eq (32 + s.yl / 1024 % 32) (s.yl / 32768) 6 (by omega) (by omega) (by omega)
    (by omega)).1
  rw [hshl]
  exact ⟨_, rfl⟩

theorem exists_filtd {y wi : Int} (hy : 544 ≤ y ∧ y ≤ 5120) (hwi : -384 ≤ wi ∧ wi ≤ 35904) :
    ∃ yu, filtd y wi = some yu ∧ 544 ≤ yu ∧ yu ≤ 5120 := by
  unfold filtd
  rw [sub_eq (by omega) (by omega)]
  dsimp only [Option.bind_eq_bind, Option.bind_some]
  rw [add_eq (by omega) (by omega)]
  refine ⟨_, rfl, ?_⟩
  split_ifs
  · omega
  · omega
  · omega

/-- The locked step size stays within 64 times the limits of the unlocked one. -/
theorem exists_filte {yl yu : Int} (hyl : 34816 ≤ yl ∧ yl ≤ 327680) (hyu : 544 ≤ yu ∧ yu ≤ 5120) :
    ∃ next, filte yl yu = some next ∧ 34816 ≤ next ∧ next ≤ 327680 := by
  unfold filte
  rw [neg_eq (by omega) (by omega)]
  dsimp only [Option.bind_eq_bind, Option.bind_some]
  rw [add_eq (by omega) (by omega)]
  exact ⟨_, add_eq (by omega) (by omega), by omega, by omega⟩

theorem upa2_bounds (valid : Valid s) (pk0 dqsez : Int) :
    -12288 ≤ upa2 s pk0 dqsez ∧ upa2 s pk0 dqsez ≤ 12288 := by
  have ha0 := valid.a0
  have ha1 := valid.a1
  unfold upa2
  rw [toShort_eq (by omega : -32768 ≤ s.a1 - s.a1 / 128) (by omega)]
  dsimp only
  by_cases hdqsez : dqsez = 0
  · rw [if_neg (by omega)]
    omega
  · rw [if_pos hdqsez]
    generalize hleak : s.a1 - s.a1 / 128 = leak
    generalize hfa1 : toShort (if pk0 ≠ s.pk0 then s.a0 else -s.a0) = fa1
    have hstep : ∃ step, (if fa1 < -8191 then leak - 0x100
        else if 8191 < fa1 then leak + 0xFF else leak + fa1 / 32) = leak + step ∧
        -256 ≤ step ∧ step ≤ 255 := by
      split_ifs
      · exact ⟨-256, rfl, by omega, by omega⟩
      · exact ⟨255, rfl, by omega, by omega⟩
      · exact ⟨fa1 / 32, rfl, by omega, by omega⟩
    rcases hstep with ⟨step, hstep, hleast, hmost⟩
    rw [hstep, toShort_eq (by omega : -32768 ≤ leak + step) (by omega),
      toShort_eq (by omega : -32768 ≤ leak + step - 0x80) (by omega),
      toShort_eq (by omega : -32768 ≤ leak + step + 0x80) (by omega)]
    -- Past both limits, the last step of 128 cannot leave them either.
    split_ifs
    · omega
    · omega
    · omega
    · omega
    · omega
    · omega

theorem upa1_bounds {a2p : Int} (ha2p : -12288 ≤ a2p ∧ a2p ≤ 12288) (pk0 dqsez : Int) :
    a2p - 15360 ≤ upa1 s pk0 dqsez a2p ∧ upa1 s pk0 dqsez a2p ≤ 15360 - a2p := by
  unfold upa1
  dsimp only
  rw [toShort_eq (by omega : -32768 ≤ 15360 - a2p) (by omega),
    toShort_eq (by omega : -32768 ≤ -(15360 - a2p)) (by omega)]
  generalize (if dqsez ≠ 0 then if pk0 = s.pk0 then toShort (toShort (s.a0 - s.a0 / 256) + 192)
    else toShort (toShort (s.a0 - s.a0 / 256) - 192) else toShort (s.a0 - s.a0 / 256)) = a0
  split_ifs
  · omega
  · omega
  · omega

theorem upb_bounds (codeSize dq : Int) (coefficient : Int × Int) :
    -32768 ≤ upb codeSize dq coefficient ∧ upb codeSize dq coefficient ≤ 32767 := by
  unfold upb
  dsimp only
  split_ifs
  · exact toShort_bounds _
  · exact toShort_bounds _
  · exact toShort_bounds _
  · exact toShort_bounds _
  · exact toShort_bounds _
  · exact toShort_bounds _

theorem exists_float (value mag : Int) :
    ∃ packed, float value mag = some packed ∧ -32768 ≤ packed ∧ packed ≤ 32767 := by
  have hquan := quan_bounds mag power2
  have hlength : (power2.length : Int) = 15 := by decide
  unfold float
  dsimp only
  rw [shr_eq (by omega) (by omega)]
  exact ⟨_, rfl, toShort_bounds _⟩

theorem exists_floatA (dq mag : Int) :
    ∃ packed, floatA dq mag = some packed ∧ -32768 ≤ packed ∧ packed ≤ 32767 := by
  unfold floatA
  by_cases hzero : mag = 0
  · rw [if_pos hzero]
    refine ⟨_, rfl, ?_⟩
    split_ifs
    · omega
    · exact toShort_bounds _
  · rw [if_neg hzero]
    exact exists_float dq mag

theorem exists_floatB (sr : Int) :
    ∃ packed, floatB sr = some packed ∧ -32768 ≤ packed ∧ packed ≤ 32767 := by
  unfold floatB
  by_cases hzero : sr = 0
  · rw [if_pos hzero]
    exact ⟨_, rfl, by omega, by omega⟩
  · rw [if_neg hzero]
    by_cases hpositive : 0 < sr
    · rw [if_pos hpositive]
      exact exists_float sr sr
    · rw [if_neg hpositive]
      by_cases hleast : -32768 < sr
      · rw [if_pos hleast]
        exact exists_float sr _
      · rw [if_neg hleast]
        exact ⟨_, rfl, toShort_bounds _⟩

theorem speed_bounds {ap : Int} (hap : 0 ≤ ap ∧ ap ≤ 0x200) (y tr td dms dml : Int) :
    0 ≤ speed y tr td dms dml ap ∧ speed y tr td dms dml ap ≤ 0x200 := by
  unfold speed
  split_ifs
  · decide
  · rw [toShort_eq (by omega) (by omega)]
    omega
  · rw [toShort_eq (by omega) (by omega)]
    omega

theorem exists_update {y wi fi : Int} (valid : Valid s) (dq sr dqsez : Int)
    (hy : 544 ≤ y ∧ y ≤ 5120) (hwi : -384 ≤ wi ∧ wi ≤ 35904) (hfi : 0 ≤ fi ∧ fi ≤ 0xE00) :
    ∃ next, update 4 y wi fi dq sr dqsez s = some next ∧ Valid next := by
  rcases exists_trans valid (toShort (dq % 0x8000)) with ⟨tr, htr⟩
  rcases exists_filtd hy hwi with ⟨yu, hyu, hyubounds⟩
  rcases exists_filte valid.yl hyubounds with ⟨yl, hyl, hylbounds⟩
  rcases exists_floatA dq (toShort (dq % 0x8000)) with ⟨dq0, hdq0, hdq0bounds⟩
  rcases exists_floatB sr with ⟨sr0, hsr0, hsr0bounds⟩
  unfold update
  dsimp only
  rw [htr, hyu]
  dsimp only [Option.bind_eq_bind, Option.bind_some]
  rw [hyl, hdq0, hsr0]
  refine ⟨_, rfl, ?_⟩
  have hdms := valid.dms
  have hdml := valid.dml
  constructor
  · exact hylbounds
  · exact hyubounds
  · dsimp only
    rw [toShort_eq (by omega) (by omega)]
    omega
  · dsimp only
    rw [toShort_eq (by omega) (by omega)]
    omega
  · exact speed_bounds valid.ap _ _ _ _ _
  · by_cases hreset : tr = 1
    · simp only [if_pos hreset]
      decide
    · simp only [if_neg hreset]
      exact upa1_bounds (upa2_bounds valid _ _) _ _
  · by_cases hreset : tr = 1
    · simp only [if_pos hreset]
      decide
    · simp only [if_neg hreset]
      exact upa2_bounds valid _ _
  · by_cases hreset : tr = 1
    · simp only [if_pos hreset]
      rw [List.length_map, valid.b.1]
      refine ⟨rfl, ?_⟩
      intro b hb
      rw [List.mem_map] at hb
      rcases hb with ⟨_, _, rfl⟩
      decide
    · simp only [if_neg hreset]
      rw [List.length_map, List.length_zip, valid.b.1, valid.dq.1]
      refine ⟨rfl, ?_⟩
      intro b hb
      rcases List.mem_map.mp hb with ⟨coefficient, _, rfl⟩
      exact upb_bounds _ _ _
  · dsimp only
    rw [List.length_cons, List.length_dropLast, valid.dq.1]
    refine ⟨rfl, ?_⟩
    intro other hother
    rcases List.mem_cons.mp hother with rfl | hold
    · exact hdq0bounds
    · exact valid.dq.2 other ((List.dropLast_sublist _).mem hold)
  · exact hsr0bounds
  · exact valid.sr0

/-! ### The decoder -/

theorem exists_g721Decoder (valid : Valid s) (code : Int) :
    ∃ sample next, g721Decoder code s = some (sample, next) ∧
      (-131072 ≤ sample ∧ sample ≤ 131068) ∧ Valid next := by
  have hlength : dqlntab.length = 16 ∧ witab.length = 16 ∧ fitab.length = 16 := by decide
  have hdqlntab : ∀ value ∈ dqlntab, -2048 ≤ value ∧ value ≤ 425 := by decide
  have hwitab : ∀ value ∈ witab, -12 ≤ value ∧ value ≤ 1122 := by decide
  have hfitab : ∀ value ∈ fitab, 0 ≤ value ∧ value ≤ 0xE00 := by decide
  rcases exists_predictorZero valid with ⟨sezi, hsezi, -⟩
  rcases exists_predictorPole valid with ⟨pole, hpole, hpolelo, hpolehi⟩
  rcases exists_stepSize valid with ⟨y, hy, hybounds⟩
  rcases @exists_entry (code % 16) dqlntab (by omega) (by omega) with ⟨dqln, hdqln, hdqlnentry⟩
  rcases @exists_entry (code % 16) witab (by omega) (by omega) with ⟨wi, hwi, hwientry⟩
  rcases @exists_entry (code % 16) fitab (by omega) (by omega) with ⟨fi, hfi, hfientry⟩
  have hwibounds := hwitab wi hwi
  have hsum := toShort_bounds sezi
  rcases @exists_reconstruct (decide (code % 16 / 8 % 2 = 1)) dqln y (hdqlntab dqln hdqln) hybounds
    with ⟨dq, hdq, hdqlo, hdqhi⟩
  unfold g721Decoder
  dsimp only
  rw [hsezi, hpole]
  dsimp only [Option.bind_eq_bind, Option.bind_some]
  rw [add_eq (by omega) (by omega), hy]
  dsimp only [Option.bind_some]
  rw [hdqlnentry, toShort_eq (by omega : -32768 ≤ y) (by omega)]
  dsimp only [Option.bind_some]
  rw [hdq, hwientry, hfientry]
  dsimp only [Option.bind_some]
  rcases @exists_update s y (wi * 32) fi valid (toShort dq) _ _ hybounds (by omega)
    (hfitab fi hfi) with ⟨next, hnext, hvalid⟩
  rw [hnext]
  refine ⟨_, next, rfl, ?_, hvalid⟩
  have hsr := toShort_bounds (if toShort dq < 0 then toShort (toShort sezi + pole) / 2 -
    toShort dq % 0x4000 else toShort (toShort sezi + pole) / 2 + toShort dq)
  omega

/-! ### Streams of codes -/

/-- A state that keeps to its limits. -/
abbrev DecoderState := { s : G72xState // Valid s }

/-- The result of a decoder call, which there is in every valid state. -/
def decode (s : DecoderState) (code : UInt8) : Int16 × DecoderState :=
  match h : g721Decoder code.toNat s.val with
  | some (sample, next) => (Int16.ofInt sample, ⟨next, by
      rcases exists_g721Decoder s.property code.toNat with ⟨_, _, hsome, _, hvalid⟩
      rw [h] at hsome
      rcases Option.some.inj hsome with ⟨⟩
      exact hvalid⟩)
  | none => (0, s)

variable (codecs : Decoder.Codecs DecoderState)

section

/-- The codes 1 to 8. -/
private def packet : AudioChunk where
  details := { encoding := .alawAudio, numBytes := 4, rtpPayloadType := ptG721 }
  buffer i := if i = 0 then 0x4321 else 0x8765

end

end G721

end OrkAudio
