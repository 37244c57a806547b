import Mathlib.Data.List.DropRight
import Mathlib.Data.List.Lattice

/-! Escape codes that keep one separator out of a text.

A code writes its separator and its mark as the mark followed by a letter. What is written
holds no separator, so texts written this way can be joined by it, and reading undoes
writing. Cutting characters off either end commutes with writing as long as the code itself
uses none of the characters that are cut. -/

namespace OrkAudio.Lib

variable {α : Type*} [DecidableEq α]

/-- The characters of an escape code. -/
structure EscapeCode (α : Type*) where
  mark : α
  separator : α
  markLetter : α
  separatorLetter : α
  mark_ne_separator : mark ≠ separator
  letters_ne : markLetter ≠ separatorLetter
  markLetter_ne : markLetter ≠ separator
  separatorLetter_ne : separatorLetter ≠ separator

namespace EscapeCode

variable (code : EscapeCode α)

/-- How one character is written. -/
def escapeChar (c : α) : List α :=
  if c = code.separator then [code.mark, code.separatorLetter]
  else if c = code.mark then [code.mark, code.markLetter]
  else [c]

def escape (text : List α) : List α := text.flatMap code.escapeChar

/-- What a letter after a mark stands for: an unknown letter for nothing. -/
def unescapeLetter (c : α) : List α :=
  if c = code.separatorLetter then [code.separator]
  else if c = code.markLetter then [code.mark]
  else []

def unescape : List α → List α
  | [] => []
  | [c] => if c = code.mark then [] else [c]
  | c :: d :: rest =>
      if c = code.mark then code.unescapeLetter d ++ unescape rest else c :: unescape (d :: rest)

@[simp] theorem escape_nil : code.escape [] = [] := rfl

@[simp] theorem escape_cons (c : α) (text : List α) :
    code.escape (c :: text) = code.escapeChar c ++ code.escape text := rfl

@[simp] theorem escape_append (front back : List α) :
    code.escape (front ++ back) = code.escape front ++ code.escape back :=
  List.flatMap_append

theorem escapeChar_ne_nil (c : α) : code.escapeChar c ≠ [] := by
  rw [escapeChar]
  split_ifs <;> exact List.cons_ne_nil _ _

@[simp] theorem escape_eq_nil {text : List α} : code.escape text = [] ↔ text = [] := by
  cases text with
  | nil => simp
  | cons c text => simp [escapeChar_ne_nil]

theorem unescape_cons_of_ne {c : α} (hmark : c ≠ code.mark) (rest : List α) :
    code.unescape (c :: rest) = c :: code.unescape rest := by
  cases rest with
  | nil => simp [unescape, hmark]
  | cons d rest => simp [unescape, hmark]

theorem unescape_escapeChar (c : α) (rest : List α) :
    code.unescape (code.escapeChar c ++ rest) = c :: code.unescape rest := by
  rw [escapeChar]
  split_ifs with hseparator hmark
  · simp [unescape, unescapeLetter, hseparator]
  · simp [unescape, unescapeLetter, hmark, code.letters_ne]
  · exact code.unescape_cons_of_ne hmark rest

/-- Reading undoes writing. -/
@[simp] theorem unescape_escape (text : List α) : code.unescape (code.escape text) = text := by
  induction text with
  | nil => rfl
  | cons c text ih => rw [escape_cons, unescape_escapeChar, ih]

/-- What is written holds no separator. -/
theorem separator_notMem_escape (text : List α) : code.separator ∉ code.escape text := by
  intro hmem
  obtain ⟨c, _, hchar⟩ := List.mem_flatMap.mp hmem
  rw [escapeChar] at hchar
  split_ifs at hchar with hseparator hmark
  · simp [code.mark_ne_separator.symm, code.separatorLetter_ne.symm] at hchar
  · simp [code.mark_ne_separator.symm, code.markLetter_ne.symm] at hchar
  · exact hseparator (List.mem_singleton.mp hchar).symm

/-! ### Cutting characters off the ends -/

section cut

variable {p : α → Bool}

/-- The code uses no character that is cut. -/
structure Avoids (code : EscapeCode α) (p : α → Bool) : Prop where
  mark : p code.mark = false
  separator : p code.separator = false
  markLetter : p code.markLetter = false
  separatorLetter : p code.separatorLetter = false

variable {code}

theorem Avoids.escapeChar_of_cut (avoids : code.Avoids p) {c : α} (hcut : p c = true) :
    code.escapeChar c = [c] := by
  have hseparator : c ≠ code.separator := by
    rintro rfl
    exact absurd hcut (by simp [avoids.separator])
  have hmark : c ≠ code.mark := by
    rintro rfl
    exact absurd hcut (by simp [avoids.mark])
  rw [escapeChar, if_neg hseparator, if_neg hmark]

theorem Avoids.head_escapeChar (avoids : code.Avoids p) {c : α} (hkeep : p c = false) :
    ∃ d rest, code.escapeChar c = d :: rest ∧ p d = false := by
  rw [escapeChar]
  split_ifs
  · exact ⟨_, _, rfl, avoids.mark⟩
  · exact ⟨_, _, rfl, avoids.mark⟩
  · exact ⟨_, _, rfl, hkeep⟩

theorem Avoids.last_escapeChar (avoids : code.Avoids p) {c : α} (hkeep : p c = false) :
    ∃ front d, code.escapeChar c = front ++ [d] ∧ p d = false := by
  rw [escapeChar]
  split_ifs
  · exact ⟨[_], _, rfl, avoids.separatorLetter⟩
  · exact ⟨[_], _, rfl, avoids.markLetter⟩
  · exact ⟨[], _, rfl, hkeep⟩

theorem Avoids.dropWhile_escape (avoids : code.Avoids p) (text : List α) :
    (code.escape text).dropWhile p = code.escape (text.dropWhile p) := by
  induction text with
  | nil => rfl
  | cons c text ih =>
      cases hc : p c with
      | true =>
          rw [escape_cons, avoids.escapeChar_of_cut hc]
          simpa [hc] using ih
      | false =>
          obtain ⟨d, rest, heq, hd⟩ := avoids.head_escapeChar hc
          rw [List.dropWhile_cons_of_neg (by simp [hc]), escape_cons, heq, List.cons_append,
            List.dropWhile_cons_of_neg (by simp [hd])]

theorem Avoids.rdropWhile_escape (avoids : code.Avoids p) (text : List α) :
    (code.escape text).rdropWhile p = code.escape (text.rdropWhile p) := by
  induction text using List.reverseRecOn with
  | nil => rfl
  | append_singleton text c ih =>
      cases hc : p c with
      | true =>
          rw [escape_append, escape_cons, avoids.escapeChar_of_cut hc, escape_nil,
            List.append_nil, List.rdropWhile_concat_pos _ _ _ hc,
            List.rdropWhile_concat_pos _ _ _ hc, ih]
      | false =>
          obtain ⟨front, d, heq, hd⟩ := avoids.last_escapeChar hc
          rw [List.rdropWhile_concat_neg _ _ _ (by simp [hc]), escape_append, escape_cons, heq,
            escape_nil, List.append_nil, ← List.append_assoc,
            List.rdropWhile_concat_neg _ _ _ (by simp [hd])]

end cut

end EscapeCode

end OrkAudio.Lib
