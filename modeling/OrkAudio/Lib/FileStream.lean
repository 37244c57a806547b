import Mathlib.Data.List.Basic

/-! The parts of `std::fstream` that write a binary file and read it back: the bytes and the
state flags. -/

namespace OrkAudio.Lib

structure OutputStream where
  bytes : List UInt8
  good : Bool

namespace OutputStream

def opened : OutputStream where
  bytes := []
  good := true

/-- `write`: a negative count, and any write on a stream that is not good, is an error. -/
def write (s : OutputStream) (data : List UInt8) (count : Int) : OutputStream :=
  if s.good ∧ 0 ≤ count then { s with bytes := s.bytes ++ data.take count.toNat }
  else { s with good := false }

/-- A write that leaves the stream good has written its bytes. -/
theorem write_good {s : OutputStream} {data : List UInt8} {count : Int}
    (hgood : (s.write data count).good = true) :
    s.good = true ∧ 0 ≤ count ∧ (s.write data count).bytes = s.bytes ++ data.take count.toNat := by
  unfold write at hgood ⊢
  split_ifs at hgood ⊢ with hwritten
  exact ⟨hwritten.1, hwritten.2, rfl⟩

end OutputStream

structure InputStream where
  rest : List UInt8
  eof : Bool
  fail : Bool

namespace InputStream

def opened (bytes : List UInt8) : InputStream where
  rest := bytes
  eof := false
  fail := false

/-- `read`: none when fewer bytes than asked for are there. -/
def read (s : InputStream) (count : Nat) :
    Option { bytes : List UInt8 // bytes.length = count } × InputStream :=
  if s.eof ∨ s.fail then (none, { s with fail := true })
  else if h : count ≤ s.rest.length then
    (some ⟨s.rest.take count, List.length_take_of_le h⟩, { s with rest := s.rest.drop count })
  else (none, { rest := [], eof := true, fail := true })

theorem read_append {bytes rest : List UInt8} {count : Nat} (hcount : bytes.length = count) :
    (opened (bytes ++ rest)).read count = (some ⟨bytes, hcount⟩, opened rest) := by
  subst hcount
  simp [read, opened]

theorem read_short {bytes : List UInt8} {count : Nat} (hcount : bytes.length < count) :
    (opened bytes).read count = (none, { rest := [], eof := true, fail := true }) := by
  simp [read, opened, Nat.not_le_of_lt hcount]

theorem read_eof {s : InputStream} (heof : s.eof = true) (count : Nat) :
    s.read count = (none, { s with fail := true }) := by
  simp [read, heof]

end InputStream

/-- A concatenation that is cut off is some of its parts, followed by less than the next
one. -/
theorem exists_take_flatten {α : Type*} (parts : List (List α)) (cut : Nat) :
    ∃ count ≤ parts.length, ∃ tail, parts.flatten.take cut = (parts.take count).flatten ++ tail ∧
      (tail = [] ∨ ∃ part, parts[count]? = some part ∧ ∃ room < part.length,
        tail = part.take room) := by
  induction parts generalizing cut with
  | nil => exact ⟨0, Nat.le_refl 0, [], by simp, .inl rfl⟩
  | cons part parts ih =>
      by_cases hcut : cut < part.length
      · refine ⟨0, Nat.zero_le _, part.take cut, ?_, .inr ⟨part, rfl, cut, hcut, rfl⟩⟩
        simp [List.take_append_of_le_length (Nat.le_of_lt hcut)]
      · have hle := Nat.le_of_not_lt hcut
        obtain ⟨count, hcount, tail, htake, htail⟩ := ih (cut - part.length)
        refine ⟨count + 1, Nat.succ_le_succ hcount, tail, ?_, ?_⟩
        · calc
            (part :: parts).flatten.take cut =
                part ++ parts.flatten.take (cut - part.length) := by
              rw [List.flatten_cons, List.take_append, List.take_of_length_le hle]
            _ = ((part :: parts).take (count + 1)).flatten ++ tail := by
              rw [htake, List.take_succ_cons, List.flatten_cons, List.append_assoc]
        · rwa [List.getElem?_cons_succ]

end OrkAudio.Lib
