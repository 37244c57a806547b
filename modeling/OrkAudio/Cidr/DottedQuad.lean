import OrkAudio.SipInvite.MediaAddress
import OrkAudio.Strtol

/-! The addresses that `inet_pton4` reads: four decimal octets with dots between them. -/

namespace OrkAudio.Cidr

open Lib SipInvite Strtol

/-- Bytes as characters. -/
def chars (text : Bytes) : List Char := text.map fun c => Char.ofNat c.toNat

/-- A number as it is written, leading zeros included. -/
structure Numeral where
  text : Bytes
  isDecimal : IsDecimal (chars text)

def Numeral.value (numeral : Numeral) : Nat := digitsValue (chars numeral.text)

structure Octet extends Numeral where
  small : toNumeral.value ≤ 255

structure DottedQuad where
  first : Octet
  second : Octet
  third : Octet
  fourth : Octet

namespace DottedQuad

def text (quad : DottedQuad) : Bytes :=
  quad.first.text ++ 0x2E :: (quad.second.text ++ 0x2E :: (quad.third.text ++ 0x2E :: quad.fourth.text))

def octets (quad : DottedQuad) : List Nat :=
  [quad.first.value, quad.second.value, quad.third.value, quad.fourth.value]

end DottedQuad

/-! ### Digits -/

theorem toNat_char (c : UInt8) : (Char.ofNat c.toNat).toNat = c.toNat := by
  have hlt := c.toNat_lt
  rw [Char.toNat_ofNat, if_pos (Or.inl (by omega))]

theorem isDigit_char (c : UInt8) : (Char.ofNat c.toNat).isDigit = true ↔ 48 ≤ c ∧ c ≤ 57 := by
  rw [Char.isDigit, Bool.and_eq_true, decide_eq_true_eq, decide_eq_true_eq]
  have hval : (Char.ofNat c.toNat).val.toNat = c.toNat := toNat_char c
  rw [ge_iff_le, UInt32.le_iff_toNat_le, UInt32.le_iff_toNat_le, UInt8.le_iff_toNat_le,
    UInt8.le_iff_toNat_le, hval]
  rfl

theorem digitsValue_append_singleton (digits : List Char) (c : Char) :
    digitsValue (digits ++ [c]) = digitsValue digits * 10 + (c.toNat - 48) := by
  unfold digitsValue
  rw [List.reverse_append, List.reverse_singleton, List.singleton_append, List.map_cons,
    Nat.ofDigits_cons, Nat.mul_comm, Nat.add_comm]

theorem chars_append_singleton (text : Bytes) (c : UInt8) :
    chars (text ++ [c]) = chars text ++ [Char.ofNat c.toNat] :=
  List.map_append

theorem digitsValue_chars (text : Bytes) (c : UInt8) :
    digitsValue (chars (text ++ [c])) = digitsValue (chars text) * 10 + (c.toNat - 48) := by
  rw [chars_append_singleton, digitsValue_append_singleton, toNat_char]

theorem forall_isDigit_append {text : Bytes} {c : UInt8} :
    (∀ d ∈ chars (text ++ [c]), d.isDigit = true) ↔
      (∀ d ∈ chars text, d.isDigit = true) ∧ 48 ≤ c ∧ c ≤ 57 := by
  rw [chars_append_singleton, List.forall_mem_append, List.forall_mem_singleton, isDigit_char]

/-! ### The loop -/

/-- The loop behind some octets with their dots and some digits of the next. -/
def stateAt (before : List Octet) (digits : Bytes) : PtonState where
  before := before.map fun octet => octet.value
  tp := digitsValue (chars digits)
  sawDigit := !digits.isEmpty
  octets := before.length + if digits = [] then 0 else 1

variable {before : List Octet} {digits : Bytes} {ch : UInt8}

theorem ptonStep_digit (hplace : before.length ≤ 3) (hdigit : 48 ≤ ch ∧ ch ≤ 57) :
    ptonStep (stateAt before digits) ch =
      if 255 < digitsValue (chars (digits ++ [ch])) then none
      else some (stateAt before (digits ++ [ch])) := by
  have hnext : stateAt before (digits ++ [ch]) =
      ⟨before.map fun octet => octet.value, digitsValue (chars (digits ++ [ch])), true,
        before.length + 1⟩ := by
    simp [stateAt]
  rw [hnext, digitsValue_chars, ptonStep, if_pos hdigit]
  by_cases hnil : digits = []
  · have hplace' : ¬ 4 < before.length + 1 := by omega
    simp [stateAt, hnil, hplace']
  · have hsaw : digits.isEmpty = false := by simpa using hnil
    simp [stateAt, hnil, hsaw]

theorem ptonStep_dot (octet : Octet) :
    ptonStep (stateAt before octet.text) 0x2E =
      if before.length = 3 then none else some (stateAt (before ++ [octet]) []) := by
  have hdigits : octet.text ≠ [] := by
    intro hnil
    exact octet.isDecimal.1 (by rw [hnil]; rfl)
  have hnext : stateAt (before ++ [octet]) [] =
      ⟨(before.map fun octet => octet.value) ++ [digitsValue (chars octet.text)], 0, false,
        before.length + 1⟩ := by
    simp [stateAt, Numeral.value, chars, digitsValue]
  rw [hnext, ptonStep, if_neg (by decide)]
  simp [stateAt, hdigits]

theorem ptonStep_other (s : PtonState) (hdigit : ¬ (48 ≤ ch ∧ ch ≤ 57)) (hdot : ch ≠ 0x2E) :
    ptonStep s ch = none := by
  rw [ptonStep, if_neg hdigit, if_neg (fun h => hdot h.1)]

/-- A dot without a digit before it. -/
theorem ptonStep_empty : ptonStep (stateAt before []) 0x2E = none := by
  rw [ptonStep, if_neg (by decide), if_neg]
  simp [stateAt]

/-! ### What is accepted -/

/-- Octets with their dots, and digits behind them. -/
def seen (before : List Octet) (digits : Bytes) : Bytes :=
  (before.flatMap fun octet => octet.text ++ [0x2E]) ++ digits

theorem seen_append (before : List Octet) (digits : Bytes) (c : UInt8) :
    seen before digits ++ [c] = seen before (digits ++ [c]) := by
  rw [seen, seen, List.append_assoc]

theorem seen_dot (before : List Octet) (octet : Octet) :
    seen before octet.text ++ [0x2E] = seen (before ++ [octet]) [] := by
  simp [seen]

/-- While the loop goes on, the text is octets with dots and digits. -/
theorem seen_of_foldlM {text : Bytes} {s : PtonState}
    (hloop : text.foldlM ptonStep (stateAt [] []) = some s) :
    ∃ before digits, text = seen before digits ∧ s = stateAt before digits ∧ before.length ≤ 3 ∧
      (∀ c ∈ chars digits, c.isDigit = true) ∧ digitsValue (chars digits) ≤ 255 := by
  induction text using List.reverseRecOn generalizing s with
  | nil =>
      obtain rfl := Option.some.inj hloop
      exact ⟨[], [], rfl, rfl, by decide, by simp [chars], by decide⟩
  | append_singleton text c ih =>
      rw [List.foldlM_append] at hloop
      obtain ⟨s', hbefore, hstep⟩ := Option.bind_eq_some_iff.mp hloop
      obtain ⟨before, digits, htext, rfl, hplace, hdigits, hsmall⟩ := ih hbefore
      rw [List.foldlM_cons] at hstep
      obtain ⟨s'', hstep, hlast⟩ := Option.bind_eq_some_iff.mp hstep
      obtain rfl := Option.some.inj hlast
      by_cases hdigit : 48 ≤ c ∧ c ≤ 57
      · rw [ptonStep_digit hplace hdigit] at hstep
        split at hstep
        · cases hstep
        · rename_i hfits
          obtain rfl := Option.some.inj hstep
          refine ⟨before, digits ++ [c], by rw [htext, seen_append], rfl, hplace, ?_, ?_⟩
          · exact forall_isDigit_append.mpr ⟨hdigits, hdigit⟩
          · exact Nat.le_of_not_lt hfits
      · by_cases hdot : c = 0x2E
        · subst hdot
          by_cases hnil : digits = []
          · rw [hnil, ptonStep_empty] at hstep
            cases hstep
          · -- the digits are one octet more
            have hdecimal : IsDecimal (chars digits) := ⟨by simpa [chars] using hnil, hdigits⟩
            have hdotted : ptonStep (stateAt before digits) 0x2E =
                if before.length = 3 then none
                else some (stateAt (before ++ [⟨⟨digits, hdecimal⟩, hsmall⟩]) []) :=
              ptonStep_dot ⟨⟨digits, hdecimal⟩, hsmall⟩
            rw [hdotted] at hstep
            split at hstep
            · cases hstep
            · rename_i hthree
              obtain rfl := Option.some.inj hstep
              refine ⟨before ++ [⟨⟨digits, hdecimal⟩, hsmall⟩], [], ?_, rfl, ?_, ?_, ?_⟩
              · rw [htext, ← seen_dot]
              · rw [List.length_append, List.length_singleton]
                omega
              · simp [chars]
              · decide
        · rw [ptonStep_other _ hdigit hdot] at hstep
          cases hstep

/-- The digits of an octet. -/
theorem foldlM_digits (hplace : before.length ≤ 3) (hdigits : ∀ c ∈ chars digits, c.isDigit = true)
    (hsmall : digitsValue (chars digits) ≤ 255) :
    digits.foldlM ptonStep (stateAt before []) = some (stateAt before digits) := by
  induction digits using List.reverseRecOn with
  | nil => rfl
  | append_singleton digits c ih =>
      obtain ⟨hfront, hdigit⟩ := forall_isDigit_append.mp hdigits
      have hless : digitsValue (chars digits) ≤ 255 := by
        rw [digitsValue_chars] at hsmall
        omega
      rw [List.foldlM_append, ih hfront hless, Option.bind_eq_bind, Option.bind_some,
        List.foldlM_cons, ptonStep_digit hplace hdigit, if_neg (Nat.not_lt.mpr hsmall)]
      rfl

theorem foldlM_octet (hplace : before.length < 3) (octet : Octet) (rest : Bytes) :
    (octet.text ++ 0x2E :: rest).foldlM ptonStep (stateAt before []) =
      rest.foldlM ptonStep (stateAt (before ++ [octet]) []) := by
  rw [List.foldlM_append, foldlM_digits hplace.le octet.isDecimal.2 octet.small,
    Option.bind_eq_bind, Option.bind_some, List.foldlM_cons, ptonStep_dot, if_neg hplace.ne]
  rfl

/-- `inet_pton4` reads the texts of four octets with dots between them, and no others. -/
theorem inetPton4_eq_some_iff {src : Bytes} {octets : List Nat} :
    inetPton4 src = some octets ↔ ∃ quad : DottedQuad, src = quad.text ∧ octets = quad.octets := by
  constructor
  · intro hread
    obtain ⟨s, hloop, hend⟩ := Option.bind_eq_some_iff.mp hread
    obtain ⟨before, digits, htext, rfl, hplace, hdigits, hsmall⟩ := seen_of_foldlM hloop
    split at hend
    · cases hend
    · rename_i hfour
      have hnil : digits ≠ [] := by
        intro hnil
        rw [stateAt, if_pos hnil] at hfour
        dsimp only at hfour
        omega
      have hthree : before.length = 3 := by
        rw [stateAt, if_neg hnil] at hfour
        dsimp only at hfour
        omega
      have hdecimal : IsDecimal (chars digits) := ⟨by simpa [chars] using hnil, hdigits⟩
      obtain ⟨first, second, third, rfl⟩ := List.length_eq_three.mp hthree
      refine ⟨⟨first, second, third, ⟨⟨digits, hdecimal⟩, hsmall⟩⟩, ?_, ?_⟩
      · rw [htext]
        simp [seen, DottedQuad.text]
      · rw [← Option.some.inj hend]
        rfl
  · intro ⟨quad, hsrc, hoctets⟩
    have hloop : src.foldlM ptonStep (stateAt [] []) =
        some (stateAt [quad.first, quad.second, quad.third] quad.fourth.text) := by
      rw [hsrc, DottedQuad.text, foldlM_octet (by simp), foldlM_octet (by simp),
        foldlM_octet (by simp)]
      exact foldlM_digits (by simp) quad.fourth.isDecimal.2 quad.fourth.small
    have hdigits : quad.fourth.text ≠ [] := by
      intro hnil
      exact quad.fourth.isDecimal.1 (by rw [hnil]; rfl)
    have hstart : inetPton4 src = (src.foldlM ptonStep (stateAt [] [])).bind fun s =>
        if s.octets < 4 then none else some (s.before ++ [s.tp]) := rfl
    rw [hstart, hloop, Option.bind_some, hoctets, stateAt, if_neg hdigits]
    rfl

end OrkAudio.Cidr
