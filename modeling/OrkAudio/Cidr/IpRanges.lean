import OrkAudio.Cidr.DottedQuad
import OrkAudio.VoIp.Config

/-! `IpRanges`: ranges of addresses in CIDR notation, kept as two lists that are walked in lock
step, and the bits that an address of a range shares with it. -/

namespace OrkAudio.Cidr

open Lib SipInvite Strtol
open VoIp (InAddr ntohl IpRange)

structure IpRanges where
  asciiIpRanges : List Bytes
  ipRangePrefixes : List Nat := []
  ipRangeBitWidths : List Nat := []

/-- The `in_addr` that `inet_pton4` copies its octets to. -/
def inAddr (octets : List Nat) : InAddr :=
  UInt32.ofNat (octets.getD 0 0 + octets.getD 1 0 * 256 + octets.getD 2 0 * 65536 +
    octets.getD 3 0 * 16777216)

/-- The prefix and the bit width of an address with a prefix length. -/
def addressRange (entry cidrIpAddressString : Bytes) (cidrPrefixLength : Nat) :
    Except Bytes (Nat × Nat) :=
  match inetPton4 (cidrIpAddressString.takeWhile (· ≠ 0)) with
  | some octets =>
      let rangeBitWidth := 32 - cidrPrefixLength
      .ok (ntohl (inAddr octets) >>> rangeBitWidth, rangeBitWidth)
  | none => .error (ascii "invalid IP range:" ++ entry)

/-- One round of the loop in `Compute`. -/
def computeEntry (entry : Bytes) : Except Bytes (Nat × Nat) :=
  let slashPosition := (entry.takeWhile (· ≠ 0x2F)).length
  if 0 < slashPosition ∧ slashPosition < entry.length then
    match stringToInt? (String.ofList (chars (entry.drop (slashPosition + 1)))) with
    | some value =>
        -- an `unsigned int`
        let cidrPrefixLength := (value % 4294967296).toNat
        if cidrPrefixLength < 1 ∨ 32 < cidrPrefixLength then
          .error (ascii "IpRanges: invalid CIDR prefix length" ++ entry)
        else addressRange entry (entry.take slashPosition) cidrPrefixLength
    | none => .error (ascii "IpRanges: invalid CIDR prefix length" ++ entry)
  else addressRange entry entry 32

namespace IpRanges

/-- The loop, with what it throws. -/
def computeFrom (ranges : IpRanges) : List Bytes → IpRanges × Option Bytes
  | [] => (ranges, none)
  | entry :: entries =>
      match computeEntry entry with
      | .ok range =>
          computeFrom { ranges with
            ipRangePrefixes := ranges.ipRangePrefixes ++ [range.1]
            ipRangeBitWidths := ranges.ipRangeBitWidths ++ [range.2] } entries
      | .error thrown => (ranges, some thrown)

/-- `IpRanges::Compute`. -/
def compute (ranges : IpRanges) : IpRanges × Option Bytes :=
  computeFrom { ranges with ipRangePrefixes := [], ipRangeBitWidths := [] } ranges.asciiIpRanges

/-- The loop of `Matches`, none where it reads behind the end of the bit widths. -/
def matchesFrom (ip : InAddr) : List Nat → List Nat → Option Bool
  | [], _ => some false
  | _ :: _, [] => none
  | ipRangePrefix :: prefixes, bitWidth :: bitWidths =>
      if ntohl ip >>> bitWidth = ipRangePrefix then some true
      else matchesFrom ip prefixes bitWidths

/-- `IpRanges::Matches`. -/
def isMatch (ranges : IpRanges) (ip : InAddr) : Option Bool :=
  matchesFrom ip ranges.ipRangePrefixes ranges.ipRangeBitWidths

/-- The two lists as one. -/
def pairs (ranges : IpRanges) : VoIp.IpRanges :=
  ⟨List.zipWith IpRange.mk ranges.ipRangePrefixes ranges.ipRangeBitWidths⟩

theorem matchesFrom_eq (ip : InAddr) {prefixes bitWidths : List Nat}
    (hlength : prefixes.length = bitWidths.length) :
    matchesFrom ip prefixes bitWidths =
      some (VoIp.IpRanges.isMatch ⟨List.zipWith IpRange.mk prefixes bitWidths⟩ ip) := by
  induction prefixes generalizing bitWidths with
  | nil => rfl
  | cons ipRangePrefix prefixes ih =>
      cases bitWidths with
      | nil => cases hlength
      | cons bitWidth bitWidths =>
          have hrest := ih (Nat.succ.inj hlength)
          rw [matchesFrom, hrest, VoIp.IpRanges.isMatch, VoIp.IpRanges.isMatch,
            List.zipWith_cons_cons, List.any_cons, Nat.shiftRight_eq_div_pow]
          split
          · rename_i hsame
            simp [hsame]
          · rename_i hother
            simp [hother]

end IpRanges

/-! ### Entries -/

structure PrefixLength extends Numeral where
  inRange : 1 ≤ toNumeral.value ∧ toNumeral.value ≤ 32

/-- An address, with a prefix length or without one. -/
structure Entry where
  address : DottedQuad
  prefixLength : Option PrefixLength

namespace Entry

def text (entry : Entry) : Bytes :=
  match entry.prefixLength with
  | none => entry.address.text
  | some length => entry.address.text ++ 0x2F :: length.text

def bits (entry : Entry) : Nat :=
  match entry.prefixLength with
  | none => 32
  | some length => length.value

/-- The address as a number, its first bit the highest. -/
def number (entry : Entry) : Nat :=
  entry.address.first.value * 16777216 + entry.address.second.value * 65536 +
    entry.address.third.value * 256 + entry.address.fourth.value

/-- The first bits are the same. -/
def Covers (entry : Entry) (ip : InAddr) : Prop :=
  ∀ i < entry.bits, (ntohl ip).testBit (31 - i) = entry.number.testBit (31 - i)

end Entry

/-! ### Bits -/

theorem shiftRight_eq_iff {x y n : Nat} (hx : x < 4294967296) (hy : y < 4294967296)
    (hn : n ≤ 32) :
    x >>> (32 - n) = y >>> (32 - n) ↔ ∀ i < n, x.testBit (31 - i) = y.testBit (31 - i) := by
  constructor
  · intro hsame i hi
    have hbit : (x >>> (32 - n)).testBit (n - 1 - i) = (y >>> (32 - n)).testBit (n - 1 - i) := by
      rw [hsame]
    rw [Nat.testBit_shiftRight, Nat.testBit_shiftRight] at hbit
    have hplace : 32 - n + (n - 1 - i) = 31 - i := by omega
    rwa [hplace] at hbit
  · intro hbits
    apply Nat.eq_of_testBit_eq
    intro i
    rw [Nat.testBit_shiftRight, Nat.testBit_shiftRight]
    by_cases hi : i < n
    · have hplace : 32 - n + i = 31 - (n - 1 - i) := by omega
      rw [hplace]
      exact hbits (n - 1 - i) (by omega)
    · have hhigh : 2 ^ 32 ≤ 2 ^ (32 - n + i) := Nat.pow_le_pow_right (by decide) (by omega)
      rw [Nat.testBit_eq_false_of_lt (by omega), Nat.testBit_eq_false_of_lt (by omega)]

theorem ntohl_lt (ip : InAddr) : ntohl ip < 4294967296 := by
  simp only [ntohl]
  omega

theorem ntohl_inAddr (address : DottedQuad) (prefixLength : Option PrefixLength) :
    ntohl (inAddr address.octets) = Entry.number ⟨address, prefixLength⟩ := by
  have h₁ := address.first.small
  have h₂ := address.second.small
  have h₃ := address.third.small
  have h₄ := address.fourth.small
  simp only [ntohl, inAddr, DottedQuad.octets, Entry.number, List.getD_cons_zero,
    List.getD_cons_succ, UInt32.toNat_ofNat']
  omega

namespace Entry

theorem bits_le (entry : Entry) : entry.bits ≤ 32 := by
  unfold bits
  split
  · exact le_rfl
  · rename_i length _
    exact length.inRange.2

theorem number_lt (entry : Entry) : entry.number < 4294967296 := by
  rw [← ntohl_inAddr entry.address entry.prefixLength]
  exact ntohl_lt _

/-- What `Matches` compares. -/
theorem covers_iff (entry : Entry) (ip : InAddr) :
    entry.Covers ip ↔ ntohl ip >>> (32 - entry.bits) = entry.number >>> (32 - entry.bits) :=
  (shiftRight_eq_iff (ntohl_lt ip) entry.number_lt entry.bits_le).symm

end Entry

/-! ### `Compute` -/

theorem Numeral.bounds (numeral : Numeral) {c : UInt8} (hc : c ∈ numeral.text) :
    48 ≤ c ∧ c ≤ 57 :=
  (isDigit_char c).mp (numeral.isDecimal.2 _ (List.mem_map_of_mem hc))

theorem DottedQuad.bounds (quad : DottedQuad) {c : UInt8} (hc : c ∈ quad.text) :
    c = 0x2E ∨ 48 ≤ c ∧ c ≤ 57 := by
  simp only [DottedQuad.text, List.mem_append, List.mem_cons] at hc
  rcases hc with h | rfl | h | rfl | h | rfl | h
  · exact Or.inr (quad.first.bounds h)
  · exact Or.inl rfl
  · exact Or.inr (quad.second.bounds h)
  · exact Or.inl rfl
  · exact Or.inr (quad.third.bounds h)
  · exact Or.inl rfl
  · exact Or.inr (quad.fourth.bounds h)

theorem DottedQuad.ne (quad : DottedQuad) {c d : UInt8} (hc : c ∈ quad.text) (hdot : d ≠ 0x2E)
    (hdigit : ¬ (48 ≤ d ∧ d ≤ 57)) : c ≠ d := by
  intro heq
  rw [heq] at hc
  rcases quad.bounds hc with h | h
  · exact hdot h
  · exact hdigit h

theorem addressRange_text (entry : Bytes) (address : DottedQuad) (cidrPrefixLength : Nat) :
    addressRange entry address.text cidrPrefixLength =
      .ok (ntohl (inAddr address.octets) >>> (32 - cidrPrefixLength), 32 - cidrPrefixLength) := by
  have hctext : address.text.takeWhile (· ≠ 0) = address.text := by
    rw [List.takeWhile_eq_self_iff]
    intro c hc
    exact decide_eq_true (address.ne hc (by decide) (by decide))
  have hread : inetPton4 address.text = some address.octets :=
    inetPton4_eq_some_iff.mpr ⟨address, rfl, rfl⟩
  rw [addressRange, hctext, hread]

theorem takeWhile_slash (address : DottedQuad) (rest : Bytes) :
    (address.text ++ 0x2F :: rest).takeWhile (· ≠ 0x2F) = address.text := by
  rw [List.takeWhile_append_of_pos, List.takeWhile_cons_of_neg (by decide), List.append_nil]
  intro c hc
  exact decide_eq_true (address.ne hc (by decide) (by decide))

theorem DottedQuad.length_pos (quad : DottedQuad) : 0 < quad.text.length := by
  rw [DottedQuad.text, List.length_append, List.length_cons]
  omega

/-- An entry gives its prefix and the bits that it leaves free. -/
theorem computeEntry_text (entry : Entry) :
    computeEntry entry.text = .ok (entry.number >>> (32 - entry.bits), 32 - entry.bits) := by
  obtain ⟨address, prefixLength⟩ := entry
  rw [← ntohl_inAddr address prefixLength]
  cases prefixLength with
  | none =>
      have hslash : address.text.takeWhile (· ≠ 0x2F) = address.text := by
        rw [List.takeWhile_eq_self_iff]
        intro c hc
        exact decide_eq_true (address.ne hc (by decide) (by decide))
      rw [Entry.text, computeEntry]
      dsimp only
      rw [hslash, if_neg (fun h => absurd h.2 (Nat.lt_irrefl _)), addressRange_text]
      rfl
  | some length =>
      have hvalue := length.inRange
      have hint : stringToInt? (String.ofList (chars length.text)) = some (length.value : Int) :=
        stringToInt?_digits length.isDecimal (lt_of_le_of_lt hvalue.2 (by decide))
      have hunsigned : ((length.value : Int) % 4294967296).toNat = length.value := by omega
      have hdrop : (address.text ++ 0x2F :: length.text).drop (address.text.length + 1) =
          length.text := by
        rw [List.append_cons]
        exact List.drop_left' (by rw [List.length_append, List.length_singleton])
      have hslash : address.text.length < (address.text ++ 0x2F :: length.text).length := by
        rw [List.length_append, List.length_cons]
        omega
      rw [Entry.text, computeEntry]
      dsimp only
      rw [takeWhile_slash, if_pos ⟨address.length_pos, hslash⟩, hdrop, hint]
      dsimp only
      rw [hunsigned, if_neg (by omega), List.take_left, addressRange_text]
      rfl

namespace IpRanges

theorem computeFrom_text (ranges : IpRanges) (entries : List Entry) :
    ranges.computeFrom (entries.map Entry.text) =
      ({ ranges with
          ipRangePrefixes := ranges.ipRangePrefixes ++
            entries.map fun entry => entry.number >>> (32 - entry.bits)
          ipRangeBitWidths := ranges.ipRangeBitWidths ++
            entries.map fun entry => 32 - entry.bits }, none) := by
  induction entries generalizing ranges with
  | nil => simp [computeFrom]
  | cons entry entries ih =>
      rw [List.map_cons, computeFrom, computeEntry_text]
      dsimp only
      rw [ih]
      simp

/-- What the lists were before does not matter. -/
theorem compute_text (ranges : IpRanges) (entries : List Entry) :
    { ranges with asciiIpRanges := entries.map Entry.text }.compute =
      ({ asciiIpRanges := entries.map Entry.text
         ipRangePrefixes := entries.map fun entry => entry.number >>> (32 - entry.bits)
         ipRangeBitWidths := entries.map fun entry => 32 - entry.bits }, none) := by
  rw [compute, computeFrom_text]
  rfl

theorem isMatch_compute (ranges : IpRanges) (entries : List Entry) (ip : InAddr) :
    ∃ verdict, { ranges with asciiIpRanges := entries.map Entry.text }.compute.1.isMatch ip =
        some verdict ∧
      (verdict = true ↔ ∃ entry ∈ entries, entry.Covers ip) := by
  have hlength : (entries.map fun entry => entry.number >>> (32 - entry.bits)).length =
      (entries.map fun entry => 32 - entry.bits).length := by
    rw [List.length_map, List.length_map]
  have hmatch := matchesFrom_eq ip hlength
  refine ⟨_, by rw [compute_text]; exact hmatch, ?_⟩
  rw [VoIp.IpRanges.isMatch, List.zipWith_map, List.zipWith_self, List.any_map, List.any_eq_true]
  apply exists_congr
  intro entry
  apply and_congr_right
  intro _
  rw [Entry.covers_iff, Function.comp_apply, decide_eq_true_eq,
    Nat.shiftRight_eq_div_pow (ntohl ip)]

end IpRanges

/-- `Compute` takes every list of addresses with and without a prefix length, `Matches` then
finds the addresses that begin like one of the list, whatever the order and the repetitions and
whatever the lists were before, and `inet_pton4` reads four octets with dots between them and
nothing else. -/
theorem ipRanges_match_prefixes :
    (∀ (ranges : IpRanges) (entries : List Entry),
      { ranges with asciiIpRanges := entries.map Entry.text }.compute.2 = none ∧
      (∀ ip, ∃ verdict,
        { ranges with asciiIpRanges := entries.map Entry.text }.compute.1.isMatch ip =
          some verdict ∧
        (verdict = true ↔ ∃ entry ∈ entries, entry.Covers ip)) ∧
      ∀ (others : List Entry) (ranges' : IpRanges), (∀ entry, entry ∈ others ↔ entry ∈ entries) →
        ∀ ip, { ranges' with asciiIpRanges := others.map Entry.text }.compute.1.isMatch ip =
          { ranges with asciiIpRanges := entries.map Entry.text }.compute.1.isMatch ip) ∧
    ∀ (src : Bytes) (octets : List Nat), inetPton4 src = some octets ↔
      ∃ quad : DottedQuad, src = quad.text ∧ octets = quad.octets := by
  refine ⟨?_, fun _ _ => inetPton4_eq_some_iff⟩
  intro ranges entries
  refine ⟨?_, IpRanges.isMatch_compute ranges entries, ?_⟩
  · rw [IpRanges.compute_text]
  · intro others ranges' hsame ip
    obtain ⟨verdict, hverdict, hcovers⟩ := IpRanges.isMatch_compute ranges entries ip
    obtain ⟨verdict', hverdict', hcovers'⟩ := IpRanges.isMatch_compute ranges' others ip
    have hequal : verdict' = verdict := by
      rw [Bool.eq_iff_iff, hcovers, hcovers']
      simp only [hsame]
    rw [hverdict, hverdict', hequal]

end OrkAudio.Cidr
