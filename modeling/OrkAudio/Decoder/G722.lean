import OrkAudio.Decoder.Packets
import OrkAudio.Lib.CInt

/-! `g722_decode`, with unpacked codes, and the codec of `G722ToPcmFilter`.

The low and the high band have the same parts with different tables; the source writes them
twice. The arrays of a band that are written before they are read in every call (`ap`, `bp`,
`sg` and the cells 0 of the others) are values of that call here. -/

namespace OrkAudio

open Lib CInt

/-- A `band` of `g722_decode_state_t`; `d` and `b` are the cells 1 to 6. -/
structure G722Band where
  s : Int := 0
  sp : Int := 0
  sz : Int := 0
  r1 : Int := 0
  r2 : Int := 0
  a1 : Int := 0
  a2 : Int := 0
  p1 : Int := 0
  p2 : Int := 0
  d : List Int := [0, 0, 0, 0, 0, 0]
  b : List Int := [0, 0, 0, 0, 0, 0]
  nb : Int := 0
  det : Int
  deriving DecidableEq, Repr

/-- `g722_decode_state_t`; `x` is in pairs of neighbours. -/
structure G722DecodeState where
  ituTestMode : Bool := false
  eightK : Bool
  bitsPerSample : Int
  x : List (Int × Int) := List.replicate 12 (0, 0)
  low : G722Band
  high : G722Band
  deriving DecidableEq, Repr

namespace G722

def saturate (amp : Int) : Int :=
  if amp = toShort amp then amp else if 32767 < amp then 32767 else -32768

/-- The negated value where two signs agree. -/
def against (sign other value : Int) : Option Int := if sign = other then neg value else some value

/-- Block 4, UPPOL2 -/
def uppol2 (band : G722Band) (p0 : Int) : Option Int := do
  let wd1 := saturate (← mul band.a1 4)
  let wd2 ← against (p0 / 32768) (band.p1 / 32768) wd1
  let wd2 := if 32767 < wd2 then 32767 else wd2
  let wd3 := if p0 / 32768 = band.p2 / 32768 then 128 else -128
  let wd3 ← add wd3 (wd2 / 128)
  let wd3 ← add wd3 ((← mul band.a2 32512) / 32768)
  pure (if 12288 < wd3 then 12288 else if wd3 < -12288 then -12288 else wd3)

/-- Block 4, UPPOL1 -/
def uppol1 (band : G722Band) (p0 ap2 : Int) : Option Int := do
  let wd1 := if p0 / 32768 = band.p1 / 32768 then 192 else -192
  let wd2 := (← mul band.a1 32640) / 32768
  let ap1 := saturate (← add wd1 wd2)
  let wd3 := saturate (← sub 15360 ap2)
  pure (if wd3 < ap1 then wd3 else if ap1 < -wd3 then -wd3 else ap1)

/-- Block 4, UPZERO, of one cell of `d` and `b` -/
def upzero (d : Int) (cell : Int × Int) : Option Int := do
  let wd1 := if d = 0 then 0 else 128
  let wd2 := if cell.1 / 32768 = d / 32768 then wd1 else -wd1
  let wd3 := (← mul cell.2 32640) / 32768
  pure (saturate (← add wd2 wd3))

/-- Block 4, FILTEP, of one cell of `r` and `a` -/
def filtep (r a : Int) : Option Int := do
  pure ((← mul a (saturate (← add r r))) / 32768)

/-- Block 4, FILTEZ, of one cell of `d` and `b` -/
def filtez (cell : Int × Int) : Option Int := do
  pure ((← mul cell.2 (saturate (← add cell.1 cell.1))) / 32768)

def block4 (band : G722Band) (d : Int) : Option G722Band := do
  let r0 := saturate (← add band.s d)
  let p0 := saturate (← add band.sz d)
  let ap2 ← uppol2 band p0
  let ap1 ← uppol1 band p0 ap2
  let b ← (band.d.zip band.b).mapM (upzero d)
  let ds := d :: band.d.dropLast
  let sp := saturate (← add (← filtep r0 ap1) (← filtep band.r1 ap2))
  let sz := saturate (← accumulate filtez 0 (ds.zip b).reverse)
  let s := saturate (← add sp sz)
  pure { band with
    s := s, sp := sp, sz := sz, r1 := r0, r2 := band.r1, a1 := ap1, a2 := ap2
    p1 := p0, p2 := band.p1, d := ds, b := b }

/-! ### Tables -/

def wl : List Int := [-60, -30, 58, 172, 334, 538, 1198, 3042]

def rl42 : List Int := [0, 7, 6, 5, 4, 3, 2, 1, 7, 6, 5, 4, 3, 2, 1, 0]

def ilb : List Int :=
  [2048, 2093, 2139, 2186, 2233, 2282, 2332, 2383, 2435, 2489, 2543, 2599, 2656, 2714, 2774,
   2834, 2896, 2960, 3025, 3091, 3158, 3228, 3298, 3371, 3444, 3520, 3597, 3676, 3756, 3838,
   3922, 4008]

def wh : List Int := [0, -214, 798]

def rh2 : List Int := [2, 1, 2, 1]

def qm2 : List Int := [-7408, -1616, 7408, 1616]

def qm4 : List Int :=
  [0, -20456, -12896, -8968, -6288, -4240, -2584, -1200, 20456, 12896, 8968, 6288, 4240, 2584,
   1200, 0]

def qm5 : List Int :=
  [-280, -280, -23352, -17560, -14120, -11664, -9752, -8184, -6864, -5712, -4696, -3784, -2960,
   -2208, -1520, -880, 23352, 17560, 14120, 11664, 9752, 8184, 6864, 5712, 4696, 3784, 2960,
   2208, 1520, 880, 280, -280]

def qm6 : List Int :=
  [-136, -136, -136, -136, -24808, -21904, -19008, -16704, -14984, -13512, -12280, -11192,
   -10232, -9360, -8576, -7856, -7192, -6576, -6000, -5456, -4944, -4464, -4008, -3576, -3168,
   -2776, -2400, -2032, -1688, -1360, -1040, -728, 24808, 21904, 19008, 16704, 14984, 13512,
   12280, 11192, 10232, 9360, 8576, 7856, 7192, 6576, 6000, 5456, 4944, 4464, 4008, 3576, 3168,
   2776, 2400, 2032, 1688, 1360, 1040, 728, 432, 136, -432, -136]

def qmfCoeffs : List Int := [3, -11, 12, 32, -210, 951, 3876, -805, 362, -156, 53, -11]

/-- What the blocks of the two bands do differently. -/
structure BandTables where
  qm : List Int
  r : List Int
  w : List Int
  limit : Int
  base : Int

def lowTables : BandTables where
  qm := qm4
  r := rl42
  w := wl
  limit := 18432
  base := 8

def highTables : BandTables where
  qm := qm2
  r := rh2
  w := wh
  limit := 22528
  base := 10

/-! ### Decoding -/

/-- A shift to the right, or to the left where the count is negative. -/
def shift (value count : Int) : Option Int :=
  if count < 0 then shl value (-count) else shr value count

/-- Block 3L, SCALEL, and Block 3H, SCALEH -/
def scale (base nb : Int) : Option Int := do
  let wd1 := nb / 64 % 32
  let wd2 ← sub base (nb / 2048)
  let wd3 ← shift (← entry ilb wd1) wd2
  mul wd3 4

/-- The limits of `nb`. -/
def clip (limit wd1 : Int) : Int := if wd1 < 0 then 0 else if limit < wd1 then limit else wd1

/-- A band after a code: Block 2L, INVQAL, to Block 4, and the same of the high band. -/
def adapt (tables : BandTables) (band : G722Band) (i : Int) : Option G722Band := do
  let d := (← mul band.det (← entry tables.qm i)) / 32768
  let wd1 ← add ((← mul band.nb 127) / 128) (← entry tables.w (← entry tables.r i))
  let nb := clip tables.limit wd1
  let det ← scale tables.base nb
  block4 { band with nb := nb, det := det } d

/-- Block 5, RECONS, and Block 6, LIMIT -/
def recons (band : G722Band) (wd2 : Int) : Option Int := do
  let r ← add band.s ((← mul band.det wd2) / 32768)
  pure (if 16383 < r then 16383 else if r < -16384 then -16384 else r)

/-- The indexes in a code, and the entry for Block 5L, LOW BAND INVQBL. -/
def split (bitsPerSample code : Int) : Option (Int × Int × Int) :=
  if bitsPerSample = 7 then (entry qm5 (code % 32)).map fun wd2 => (code % 32 / 2, code / 32 % 4, wd2)
  else if bitsPerSample = 6 then (entry qm4 (code % 16)).map fun wd2 => (code % 16, code / 16 % 4, wd2)
  else (entry qm6 (code % 64)).map fun wd2 => (code % 64 / 4, code / 64 % 4, wd2)

/-- The receive QMF. -/
def qmf (x : List (Int × Int)) : Option (List Int) := do
  let xout2 ← accumulate (fun (pair, coeff) => mul pair.1 coeff) 0 (x.zip qmfCoeffs)
  let xout1 ← accumulate (fun (pair, coeff) => mul pair.2 coeff) 0 (x.zip qmfCoeffs.reverse)
  pure [toShort (xout1 / 4096), toShort (xout2 / 4096)]

/-- A turn of the loop of `g722_decode`: the samples of a code. -/
def decodeCode (s : G722DecodeState) (code : Int) : Option (List Int × G722DecodeState) := do
  let (wd1, ihigh, wd2) ← split s.bitsPerSample code
  let rlow ← recons s.low wd2
  let low ← adapt lowTables s.low wd1
  let s := { s with low := low }
  if s.eightK then
    pure (if s.ituTestMode then [toShort (rlow * 2), 0] else [toShort rlow], s)
  else
    let rhigh ← recons s.high (← entry qm2 ihigh)
    let high ← adapt highTables s.high ihigh
    let s := { s with high := high }
    if s.ituTestMode then pure ([toShort (rlow * 2), toShort (rhigh * 2)], s)
    else
      let x := s.x.tail ++ [(← add rlow rhigh, ← sub rlow rhigh)]
      pure (← qmf x, { s with x := x })

/-- The values of type `int16_t`. -/
def IsShort (x : Int) : Prop := -32768 ≤ x ∧ x ≤ 32767

structure ValidBand (limit : Int) (band : G722Band) : Prop where
  s : IsShort band.s
  sz : IsShort band.sz
  r1 : IsShort band.r1
  a1 : band.a2 - 15360 ≤ band.a1 ∧ band.a1 ≤ 15360 - band.a2
  a2 : -12288 ≤ band.a2 ∧ band.a2 ≤ 12288
  d : band.d.length = 6 ∧ ∀ d ∈ band.d, IsShort d
  b : band.b.length = 6 ∧ ∀ b ∈ band.b, IsShort b
  nb : 0 ≤ band.nb ∧ band.nb ≤ limit
  det : 0 ≤ band.det ∧ band.det ≤ 32064

/-- A pair of samples of the receive QMF. -/
def ValidPair (pair : Int × Int) : Prop :=
  (-32768 ≤ pair.1 ∧ pair.1 ≤ 32768) ∧ (-32768 ≤ pair.2 ∧ pair.2 ≤ 32768)

structure Valid (s : G722DecodeState) : Prop where
  low : ValidBand 18432 s.low
  high : ValidBand 22528 s.high
  x : s.x.length = 12 ∧ ∀ pair ∈ s.x, ValidPair pair

variable {band : G722Band} {s : G722DecodeState} {tables : BandTables} {limit : Int}

/-! ### Block 4 -/

theorem saturate_isShort (amp : Int) : IsShort (saturate amp) := by
  have hbounds := toShort_bounds amp
  unfold saturate IsShort
  split_ifs
  · omega
  · omega
  · omega

theorem saturate_eq {amp : Int} (hamp : IsShort amp) : saturate amp = amp :=
  if_pos (toShort_eq hamp.1 hamp.2).symm

theorem exists_uppol2 (valid : ValidBand limit band) (p0 : Int) :
    ∃ ap2, uppol2 band p0 = some ap2 ∧ -12288 ≤ ap2 ∧ ap2 ≤ 12288 := by
  have ha1 := valid.a1
  have ha2 := valid.a2
  have hwd1 := saturate_isShort (band.a1 * 4)
  have hwd2 : ∃ wd2, against (p0 / 32768) (band.p1 / 32768) (saturate (band.a1 * 4)) =
      some wd2 ∧ -32768 ≤ wd2 ∧ wd2 ≤ 32768 := by
    rcases hwd1 with ⟨hlo, hhi⟩
    unfold against
    split_ifs
    · exact ⟨_, neg_eq (by omega) (by omega), by omega, by omega⟩
    · exact ⟨_, rfl, by omega, by omega⟩
  rcases hwd2 with ⟨wd2, hwd2, hlo, hhi⟩
  unfold uppol2
  rw [mul_eq (by omega) (by omega), mul_eq (by omega) (by omega)]
  dsimp only [Option.bind_eq_bind, Option.bind_some]
  rw [hwd2]
  dsimp only [Option.bind_some]
  have hlimited : -32768 ≤ (if 32767 < wd2 then 32767 else wd2) ∧
      (if 32767 < wd2 then 32767 else wd2) ≤ 32767 := by
    split_ifs
    · omega
    · omega
  generalize (if 32767 < wd2 then 32767 else wd2) = limited at hlimited
  have hsign : -128 ≤ (if p0 / 32768 = band.p2 / 32768 then 128 else -128 : Int) ∧
      (if p0 / 32768 = band.p2 / 32768 then 128 else -128 : Int) ≤ 128 := by
    split_ifs
    · omega
    · omega
  generalize (if p0 / 32768 = band.p2 / 32768 then 128 else -128 : Int) = sign at hsign
  rw [add_eq (by omega) (by omega)]
  dsimp only [Option.bind_some]
  rw [add_eq (by omega) (by omega)]
  refine ⟨_, rfl, ?_⟩
  split_ifs
  · omega
  · omega
  · omega

/-- The first pole stays within what the second one leaves for a stable predictor. -/
theorem exists_uppol1 (valid : ValidBand limit band) (p0 : Int) {ap2 : Int}
    (hap2 : -12288 ≤ ap2 ∧ ap2 ≤ 12288) :
    ∃ ap1, uppol1 band p0 ap2 = some ap1 ∧ ap2 - 15360 ≤ ap1 ∧ ap1 ≤ 15360 - ap2 := by
  have ha1 := valid.a1
  have ha2 := valid.a2
  have hsign : -192 ≤ (if p0 / 32768 = band.p1 / 32768 then 192 else -192 : Int) ∧
      (if p0 / 32768 = band.p1 / 32768 then 192 else -192 : Int) ≤ 192 := by
    split_ifs
    · omega
    · omega
  unfold uppol1
  dsimp only
  generalize (if p0 / 32768 = band.p1 / 32768 then 192 else -192 : Int) = sign at hsign
  rw [mul_eq (by omega) (by omega)]
  dsimp only [Option.bind_eq_bind, Option.bind_some]
  rw [add_eq (by omega) (by omega), sub_eq (by omega) (by omega)]
  dsimp only [Option.bind_some]
  rw [saturate_eq (⟨by omega, by omega⟩ : IsShort (15360 - ap2))]
  refine ⟨_, rfl, ?_⟩
  split_ifs
  · omega
  · omega
  · omega

theorem exists_upzero (d : Int) {cell : Int × Int} (hcell : IsShort cell.2) :
    ∃ bp, upzero d cell = some bp ∧ IsShort bp := by
  rcases hcell with ⟨hlo, hhi⟩
  have hwd2 : ∀ p q : Prop, ∀ [Decidable p] [Decidable q],
      -128 ≤ (if p then (if q then 0 else 128) else -(if q then 0 else 128) : Int) ∧
      (if p then (if q then 0 else 128) else -(if q then 0 else 128) : Int) ≤ 128 := by
    intro p q _ _
    split_ifs
    · omega
    · omega
    · omega
    · omega
  have hbounds := hwd2 (cell.1 / 32768 = d / 32768) (d = 0)
  unfold upzero
  dsimp only
  rw [mul_eq (by omega) (by omega)]
  dsimp only [Option.bind_eq_bind, Option.bind_some]
  rw [add_eq (by omega) (by omega)]
  exact ⟨_, rfl, saturate_isShort _⟩

theorem exists_mapM_upzero (d : Int) {cells : List (Int × Int)}
    (hcells : ∀ cell ∈ cells, IsShort cell.2) :
    ∃ b, cells.mapM (upzero d) = some b ∧ b.length = cells.length ∧ ∀ bp ∈ b, IsShort bp := by
  induction cells with
  | nil =>
      refine ⟨[], rfl, rfl, ?_⟩
      intro bp hbp
      cases hbp
  | cons cell rest ih =>
      rcases exists_upzero d (hcells cell List.mem_cons_self) with ⟨bp, hbp, hshort⟩
      rcases ih (fun other hother => hcells other (List.mem_cons_of_mem _ hother)) with
        ⟨b, hb, hlength, hall⟩
      refine ⟨bp :: b, ?_, congrArg (· + 1) hlength, ?_⟩
      · rw [List.mapM_cons, hbp]
        dsimp only [Option.bind_eq_bind, Option.bind_some]
        rw [hb]
        rfl
      · intro other hother
        rcases List.mem_cons.mp hother with rfl | hrest
        · exact hshort
        · exact hall other hrest

/-- A coefficient times a doubled value of 16 bits -/
theorem exists_filter {coefficient value : Int} (hcoefficient : IsShort coefficient)
    (hvalue : IsShort value) :
    add value value = some (value + value) ∧
      mul coefficient (saturate (value + value)) =
        some (coefficient * saturate (value + value)) ∧
      -32768 ≤ coefficient * saturate (value + value) / 32768 ∧
      coefficient * saturate (value + value) / 32768 ≤ 32768 := by
  have hwd1 := saturate_isShort (value + value)
  rcases hcoefficient with ⟨hclo, hchi⟩
  rcases hvalue with ⟨hvlo, hvhi⟩
  rcases hwd1 with ⟨hwlo, hwhi⟩
  have hproduct := mul_le_of_abs (by omega : -32768 ≤ coefficient) (by omega)
    (by omega : -32768 ≤ saturate (value + value)) (by omega)
  exact ⟨add_eq (by omega) (by omega), mul_eq (by omega) (by omega), by omega, by omega⟩

theorem exists_filtep {r a : Int} (hr : IsShort r) (ha : IsShort a) :
    ∃ wd, filtep r a = some wd ∧ -32768 ≤ wd ∧ wd ≤ 32768 := by
  rcases exists_filter ha hr with ⟨hadd, hmul, hbounds⟩
  unfold filtep
  rw [hadd]
  dsimp only [Option.bind_eq_bind, Option.bind_some]
  rw [hmul]
  exact ⟨_, rfl, hbounds⟩

theorem exists_filtez {cell : Int × Int} (hd : IsShort cell.1) (hb : IsShort cell.2) :
    ∃ wd, filtez cell = some wd ∧ -32768 ≤ wd ∧ wd ≤ 32768 := by
  rcases exists_filter hb hd with ⟨hadd, hmul, hbounds⟩
  unfold filtez
  rw [hadd]
  dsimp only [Option.bind_eq_bind, Option.bind_some]
  rw [hmul]
  exact ⟨_, rfl, hbounds⟩

theorem exists_block4 (valid : ValidBand limit band) {d : Int} (hd : IsShort d) :
    ∃ next, block4 band d = some next ∧ ValidBand limit next := by
  have hs := valid.s
  have hsz := valid.sz
  have hpole : ∀ a2 a1 : Int, -12288 ≤ a2 ∧ a2 ≤ 12288 → a2 - 15360 ≤ a1 ∧ a1 ≤ 15360 - a2 →
      IsShort a1 ∧ IsShort a2 := by
    intro a2 a1 ha2 ha1
    exact ⟨⟨by omega, by omega⟩, ⟨by omega, by omega⟩⟩
  have hadd : ∀ x y : Int, IsShort x → IsShort y → add x y = some (x + y) := by
    intro x y hx hy
    rcases hx with ⟨hxlo, hxhi⟩
    rcases hy with ⟨hylo, hyhi⟩
    exact add_eq (by omega) (by omega)
  rcases exists_uppol2 valid (saturate (band.sz + d)) with ⟨ap2, hap2, hap2bounds⟩
  rcases exists_uppol1 valid (saturate (band.sz + d)) hap2bounds with ⟨ap1, hap1, hap1bounds⟩
  rcases hpole ap2 ap1 hap2bounds hap1bounds with ⟨ha1, ha2⟩
  rcases @exists_mapM_upzero d (band.d.zip band.b)
      (fun cell hcell => valid.b.2 cell.2 (List.of_mem_zip hcell).2) with ⟨b, hb, hblength, hbshort⟩
  rw [List.length_zip, valid.d.1, valid.b.1] at hblength
  have hdshort : ∀ value ∈ d :: band.d.dropLast, IsShort value := by
    intro value hvalue
    rcases List.mem_cons.mp hvalue with rfl | hold
    · exact hd
    · exact valid.d.2 value ((List.dropLast_sublist _).mem hold)
  have hdlength : (d :: band.d.dropLast).length = 6 := by
    rw [List.length_cons, List.length_dropLast, valid.d.1]
  rcases exists_filtep (saturate_isShort (band.s + d)) ha1 with ⟨first, hfirst, hflo, hfhi⟩
  rcases exists_filtep valid.r1 ha2 with ⟨second, hsecond, hslo, hshi⟩
  have hcount : ((d :: band.d.dropLast).zip b).reverse.length = 6 := by
    rw [List.length_reverse, List.length_zip, hdlength, hblength]
    rfl
  have hterms : ∀ cell ∈ ((d :: band.d.dropLast).zip b).reverse,
      ∃ wd, filtez cell = some wd ∧ -32768 ≤ wd ∧ wd ≤ 32768 := by
    intro cell hcell
    have hmember := List.of_mem_zip (List.mem_reverse.mp hcell)
    exact exists_filtez (hdshort cell.1 hmember.1) (hbshort cell.2 hmember.2)
  rcases @exists_accumulate _ _ _ _ 0 hterms (by rw [hcount]; decide) (by rw [hcount]; decide) with
    ⟨sum, hsum, -⟩
  unfold block4
  dsimp only
  rw [hadd _ _ hs hd, hadd _ _ hsz hd]
  dsimp only [Option.bind_eq_bind, Option.bind_some]
  rw [hap2]
  dsimp only [Option.bind_some]
  rw [hap1, hb]
  dsimp only [Option.bind_some]
  rw [hfirst, hsecond, hsum]
  dsimp only [Option.bind_some]
  rw [add_eq (by omega) (by omega)]
  dsimp only [Option.bind_some]
  rw [hadd _ _ (saturate_isShort _) (saturate_isShort _)]
  refine ⟨_, rfl, ?_⟩
  exact {
    s := saturate_isShort _
    sz := saturate_isShort _
    r1 := saturate_isShort _
    a1 := hap1bounds
    a2 := hap2bounds
    d := ⟨hdlength, hdshort⟩
    b := ⟨hblength, hbshort⟩
    nb := valid.nb
    det := valid.det }

/-! ### The step size and the bands -/

/-- The index of each code leads to an entry of every table. -/
structure SoundTables (tables : BandTables) : Prop where
  qm : ∀ value ∈ tables.qm, -20456 ≤ value ∧ value ≤ 20456
  r : tables.r.length = tables.qm.length ∧
    ∀ index ∈ tables.r, 0 ≤ index ∧ index < tables.w.length
  w : ∀ value ∈ tables.w, -3042 ≤ value ∧ value ≤ 3042
  base : 0 ≤ tables.base ∧ tables.base ≤ 10
  limit : tables.limit = 2048 * (tables.base + 1)

theorem sound_lowTables : SoundTables lowTables where
  qm := by decide
  r := by decide
  w := by decide
  base := by decide
  limit := by decide

theorem sound_highTables : SoundTables highTables where
  qm := by decide
  r := by decide
  w := by decide
  base := by decide
  limit := by decide

/-- At the limit the shift goes one place to the left, below it to the right. -/
theorem exists_scale {base nb : Int} (hbase : 0 ≤ base ∧ base ≤ 10) (hnb : 0 ≤ nb)
    (hlimit : nb ≤ 2048 * (base + 1)) :
    ∃ det, scale base nb = some det ∧ 0 ≤ det ∧ det ≤ 32064 := by
  have hilb : ∀ value ∈ ilb, 0 ≤ value ∧ value ≤ 4008 := by decide
  have hlength : ilb.length = 32 := by decide
  rcases @exists_entry (nb / 64 % 32) ilb (by omega) (by omega) with ⟨value, hmem, hvalue⟩
  rcases hilb value hmem with ⟨hlo, hhi⟩
  have hshift : ∃ wd3, shift value (base - nb / 2048) = some wd3 ∧ 0 ≤ wd3 ∧ wd3 ≤ 8016 := by
    unfold shift
    split_ifs with hleft
    · have hcount : -(base - nb / 2048) = 1 := by omega
      rcases @shl_eq value 1 12 (by decide) hlo (by omega) (by decide) with ⟨hshl, _, _⟩
      have htwo : (2 : Int) ^ (1 : Int).toNat = 2 := by decide
      rw [htwo] at hshl
      rw [hcount]
      exact ⟨value * 2, hshl, by omega, by omega⟩
    · have hpower : (0 : Int) < 2 ^ (base - nb / 2048).toNat := Int.pow_pos (by decide)
      have hself := Int.ediv_le_self (2 ^ (base - nb / 2048).toNat) hlo
      exact ⟨_, shr_eq (by omega) (by omega), Int.ediv_nonneg hlo (Int.le_of_lt hpower), by omega⟩
  rcases hshift with ⟨wd3, hwd3, hwd3lo, hwd3hi⟩
  unfold scale
  dsimp only
  rw [sub_eq (by omega) (by omega), hvalue]
  dsimp only [Option.bind_eq_bind, Option.bind_some]
  rw [hwd3]
  exact ⟨wd3 * 4, mul_eq (by omega) (by omega), by omega, by omega⟩

theorem exists_adapt (sound : SoundTables tables) (valid : ValidBand tables.limit band) {i : Int}
    (hi : 0 ≤ i) (hlt : i < tables.qm.length) :
    ∃ next, adapt tables band i = some next ∧ ValidBand tables.limit next := by
  have hnb := valid.nb
  have hdet := valid.det
  have hbase := sound.base
  have hlimit := sound.limit
  have hrlength := sound.r.1
  rcases exists_entry hi hlt with ⟨level, hlevelmem, hlevel⟩
  rcases @exists_entry i tables.r hi (by omega) with ⟨index, hindexmem, hindex⟩
  have hindexbounds := sound.r.2 index hindexmem
  rcases exists_entry hindexbounds.1 hindexbounds.2 with ⟨step, hstepmem, hstep⟩
  have hlevelbounds := sound.qm level hlevelmem
  have hstepbounds := sound.w step hstepmem
  have hproduct := mul_le_of_abs (by omega : -32064 ≤ band.det) hdet.2 hlevelbounds.1
    hlevelbounds.2
  have hclip : 0 ≤ clip tables.limit (band.nb * 127 / 128 + step) ∧
      clip tables.limit (band.nb * 127 / 128 + step) ≤ tables.limit := by
    unfold clip
    split_ifs
    · omega
    · omega
    · omega
  rcases @exists_scale tables.base _ hbase hclip.1 (by omega) with ⟨det, hdet, hdetbounds⟩
  have hvalid : ValidBand tables.limit
      { band with nb := clip tables.limit (band.nb * 127 / 128 + step), det := det } := {
    s := valid.s
    sz := valid.sz
    r1 := valid.r1
    a1 := valid.a1
    a2 := valid.a2
    d := valid.d
    b := valid.b
    nb := hclip
    det := hdetbounds }
  have hd : IsShort (band.det * level / 32768) := ⟨by omega, by omega⟩
  rcases exists_block4 hvalid hd with ⟨next, hnext, hnextvalid⟩
  refine ⟨next, ?_, hnextvalid⟩
  unfold adapt
  rw [hlevel, hindex]
  dsimp only [Option.bind_eq_bind, Option.bind_some]
  rw [mul_eq (by omega) (by omega), mul_eq (by omega) (by omega), hstep]
  dsimp only [Option.bind_some]
  rw [add_eq (by omega) (by omega)]
  dsimp only [Option.bind_some]
  rw [hdet]
  exact hnext

theorem exists_recons (valid : ValidBand limit band) {wd2 : Int}
    (hwd2 : -24808 ≤ wd2 ∧ wd2 ≤ 24808) :
    ∃ r, recons band wd2 = some r ∧ -16384 ≤ r ∧ r ≤ 16383 := by
  have hdet := valid.det
  rcases valid.s with ⟨hslo, hshi⟩
  have hproduct := mul_le_of_abs (by omega : -32064 ≤ band.det) hdet.2 hwd2.1 hwd2.2
  unfold recons
  rw [mul_eq (by omega) (by omega)]
  dsimp only [Option.bind_eq_bind, Option.bind_some]
  rw [add_eq (by omega) (by omega)]
  refine ⟨_, rfl, ?_⟩
  split_ifs
  · omega
  · omega
  · omega

theorem exists_split (bitsPerSample code : Int) :
    ∃ wd1 ihigh wd2, split bitsPerSample code = some (wd1, ihigh, wd2) ∧ (0 ≤ wd1 ∧ wd1 < 16) ∧
      (0 ≤ ihigh ∧ ihigh < 4) ∧ -24808 ≤ wd2 ∧ wd2 ≤ 24808 := by
  have hqm4 : qm4.length = 16 ∧ ∀ value ∈ qm4, -24808 ≤ value ∧ value ≤ 24808 := by decide
  have hqm5 : qm5.length = 32 ∧ ∀ value ∈ qm5, -24808 ≤ value ∧ value ≤ 24808 := by decide
  have hqm6 : qm6.length = 64 ∧ ∀ value ∈ qm6, -24808 ≤ value ∧ value ≤ 24808 := by decide
  unfold split
  split_ifs
  · rcases @exists_entry (code % 32) qm5 (by omega) (by omega) with ⟨wd2, hmem, hentry⟩
    rw [hentry]
    exact ⟨_, _, wd2, rfl, by omega, by omega, hqm5.2 wd2 hmem⟩
  · rcases @exists_entry (code % 16) qm4 (by omega) (by omega) with ⟨wd2, hmem, hentry⟩
    rw [hentry]
    exact ⟨_, _, wd2, rfl, by omega, by omega, hqm4.2 wd2 hmem⟩
  · rcases @exists_entry (code % 64) qm6 (by omega) (by omega) with ⟨wd2, hmem, hentry⟩
    rw [hentry]
    exact ⟨_, _, wd2, rfl, by omega, by omega, hqm6.2 wd2 hmem⟩

/-! ### The receive QMF -/

theorem exists_qmf {x : List (Int × Int)} (hlength : x.length = 12)
    (hx : ∀ pair ∈ x, ValidPair pair) :
    ∃ samples, qmf x = some samples ∧ samples.length = 2 ∧ ∀ sample ∈ samples, IsShort sample := by
  have hcoeffs : ∀ coeff ∈ qmfCoeffs, -3876 ≤ coeff ∧ coeff ≤ 3876 := by decide
  have hproduct : ∀ value coeff : Int, -32768 ≤ value ∧ value ≤ 32768 →
      -3876 ≤ coeff ∧ coeff ≤ 3876 →
      ∃ term, mul value coeff = some term ∧ -127008768 ≤ term ∧ term ≤ 127008768 := by
    intro value coeff hvalue hcoeff
    have hbounds := mul_le_of_abs hvalue.1 hvalue.2 hcoeff.1 hcoeff.2
    exact ⟨_, mul_eq (by omega) (by omega), by omega, by omega⟩
  have hterms2 : ∀ item ∈ x.zip qmfCoeffs, ∃ term,
      (fun (pair, coeff) => mul pair.1 coeff : (Int × Int) × Int → Option Int) item = some term ∧
        -127008768 ≤ term ∧ term ≤ 127008768 := by
    intro item hitem
    have hmember := List.of_mem_zip hitem
    exact hproduct _ _ (hx _ hmember.1).1 (hcoeffs _ hmember.2)
  have hterms1 : ∀ item ∈ x.zip qmfCoeffs.reverse, ∃ term,
      (fun (pair, coeff) => mul pair.2 coeff : (Int × Int) × Int → Option Int) item = some term ∧
        -127008768 ≤ term ∧ term ≤ 127008768 := by
    intro item hitem
    have hmember := List.of_mem_zip hitem
    exact hproduct _ _ (hx _ hmember.1).2 (hcoeffs _ (List.mem_reverse.mp hmember.2))
  have hcount : qmfCoeffs.length = 12 := by decide
  have hzip2 : (x.zip qmfCoeffs).length = 12 := by
    rw [List.length_zip, hlength, hcount, Nat.min_self]
  have hzip1 : (x.zip qmfCoeffs.reverse).length = 12 := by
    rw [List.length_zip, List.length_reverse, hlength, hcount, Nat.min_self]
  rcases @exists_accumulate _ _ _ _ 0 hterms2 (by rw [hzip2]; decide) (by rw [hzip2]; decide) with
    ⟨xout2, hxout2, -⟩
  rcases @exists_accumulate _ _ _ _ 0 hterms1 (by rw [hzip1]; decide) (by rw [hzip1]; decide) with
    ⟨xout1, hxout1, -⟩
  unfold qmf
  rw [hxout2, hxout1]
  refine ⟨_, rfl, rfl, ?_⟩
  intro sample hsample
  simp only [List.mem_cons, List.not_mem_nil, or_false] at hsample
  rcases hsample with rfl | rfl
  · exact toShort_bounds _
  · exact toShort_bounds _

/-! ### The decoder -/

/-- The number of samples that a code is decoded to. -/
def samplesPerCode (s : G722DecodeState) : Nat :=
  if s.eightK then if s.ituTestMode then 2 else 1 else 2

/-- A turn of the loop keeps the modes, and the values within their limits. -/
theorem exists_decodeCode (valid : Valid s) (code : Int) :
    ∃ samples next, decodeCode s code = some (samples, next) ∧
      samples.length = samplesPerCode s ∧ (∀ sample ∈ samples, IsShort sample) ∧
      samplesPerCode next = samplesPerCode s ∧ Valid next := by
  rcases exists_split s.bitsPerSample code with ⟨wd1, ihigh, wd2, hsplit, hwd1, hihigh, hwd2⟩
  rcases exists_recons valid.low hwd2 with ⟨rlow, hrlow, hrlowlo, hrlowhi⟩
  have hlowcount : lowTables.qm.length = 16 := by decide
  rcases exists_adapt sound_lowTables valid.low hwd1.1 (by omega) with ⟨low, hlow, hlowvalid⟩
  have hpair : ∀ x y : Int, ∀ sample ∈ [toShort x, toShort y], IsShort sample := by
    intro x y sample hsample
    simp only [List.mem_cons, List.not_mem_nil, or_false] at hsample
    rcases hsample with rfl | rfl
    · exact toShort_bounds _
    · exact toShort_bounds _
  unfold decodeCode
  rw [hsplit]
  dsimp only [Option.bind_eq_bind, Option.bind_some]
  rw [hrlow]
  dsimp only [Option.bind_some]
  rw [hlow]
  dsimp only [Option.bind_some]
  cases heightK : s.eightK with
  | true =>
      rw [if_pos rfl]
      refine ⟨_, _, rfl, ?_, ?_, ?_, { low := hlowvalid, high := valid.high, x := valid.x }⟩
      · rw [samplesPerCode, heightK]
        cases s.ituTestMode with
        | true => rfl
        | false => rfl
      · cases s.ituTestMode with
        | true => exact hpair (rlow * 2) 0
        | false =>
            intro sample hsample
            rw [List.mem_singleton.mp hsample]
            exact toShort_bounds _
      · rw [samplesPerCode, samplesPerCode, heightK]
  | false =>
      have hqm2 : ∀ value ∈ qm2, -24808 ≤ value ∧ value ≤ 24808 := by decide
      have hqm2count : qm2.length = 4 := by decide
      rcases @exists_entry ihigh qm2 hihigh.1 (by omega) with ⟨level, hlevelmem, hlevel⟩
      rcases exists_recons valid.high (hqm2 level hlevelmem) with
        ⟨rhigh, hrhigh, hrhighlo, hrhighhi⟩
      have hhighcount : highTables.qm.length = 4 := by decide
      rcases exists_adapt sound_highTables valid.high hihigh.1 (by omega) with
        ⟨high, hhigh, hhighvalid⟩
      rw [if_neg Bool.false_ne_true, hlevel]
      dsimp only [Option.bind_some]
      rw [hrhigh]
      dsimp only [Option.bind_some]
      rw [hhigh]
      dsimp only [Option.bind_some]
      have hcount : samplesPerCode s = 2 := by
        rw [samplesPerCode, heightK]
        rfl
      cases hmode : s.ituTestMode with
      | true =>
          rw [if_pos rfl]
          refine ⟨_, _, rfl, hcount.symm, hpair _ _, ?_,
            { low := hlowvalid, high := hhighvalid, x := valid.x }⟩
          rw [hcount]
          rfl
      | false =>
          have hx : (s.x.tail ++ [(rlow + rhigh, rlow - rhigh)]).length = 12 ∧
              ∀ pair ∈ s.x.tail ++ [(rlow + rhigh, rlow - rhigh)], ValidPair pair := by
            constructor
            · rw [List.length_append, List.length_tail, valid.x.1]
              rfl
            · intro pair hmember
              rcases List.mem_append.mp hmember with hold | hnew
              · exact valid.x.2 pair (List.mem_of_mem_tail hold)
              · rw [List.mem_singleton.mp hnew]
                exact ⟨by dsimp only; omega, by dsimp only; omega⟩
          rcases exists_qmf hx.1 hx.2 with ⟨samples, hsamples, hlength, hshort⟩
          rw [if_neg Bool.false_ne_true, add_eq (by omega) (by omega),
            sub_eq (by omega) (by omega)]
          dsimp only [Option.bind_some]
          rw [hsamples]
          refine ⟨samples, _, rfl, ?_, hshort, ?_,
            { low := hlowvalid, high := hhighvalid, x := hx }⟩
          · rw [hlength, hcount]
          · rw [hcount]
            rfl

/-- A state that keeps to its limits, in a mode with one sample for each code. -/
abbrev DecoderState := { s : G722DecodeState // Valid s ∧ samplesPerCode s = 1 }

/-- The result of a turn of the loop, which there is in every valid state. -/
def decode (s : DecoderState) (code : UInt8) : Int16 × DecoderState :=
  match h : decodeCode s.val code.toNat with
  | some (samples, next) => (Int16.ofInt (samples.headD 0), ⟨next, by
      rcases exists_decodeCode s.property.1 code.toNat with ⟨_, _, hsome, _, _, hmode, hvalid⟩
      rw [h] at hsome
      rcases Option.some.inj hsome with ⟨⟩
      exact ⟨hvalid, hmode.trans s.property.2⟩⟩)
  | none => (0, s)

variable (codecs : Decoder.Codecs DecoderState)

section

private def silentCodecs : Decoder.Codecs DecoderState where
  bcg729Decoder state _ _ := (Vector.replicate 80 0, state)
  g721Decoder state _ := (0, state)
  g722Sample state _ := (0, state)
  gsmDecoder state _ := (Vector.replicate 160 0, state)
  iLbcDecode30 state _ := (Vector.replicate 240 0, state)
  iLbcDecode20 state _ := (Vector.replicate 160 0, state)
  opusDecode state _ _ := ((0, fun _ => 0), state)
  silkDecode state _ _ := (fun _ => 0, state)
  speexFrameSize := 0
  speexDecode state _ := ([], state)

end

end G722

end OrkAudio
