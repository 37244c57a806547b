import OrkAudio.Lib.OrderedMap

/-! The reader of key-value texts that `SingleLineSerializer::DeSerialize` and
`UrlSerializer::DeSerialize` share but for the separator and the unescaping of values.

Characters are bytes, compared as `std::string` compares them. -/

namespace OrkAudio.Serializer

open Lib

/-- `TCHAR`, a byte. -/
abbrev TChar := Fin 256

instance tcharNeZero : NeZero (256 : Nat) := ⟨by decide⟩

instance tcharLawfulBEq : LawfulBEq TChar := inferInstance

abbrev Bytes := List TChar

def tchar (c : Char) : TChar := Fin.ofNat 256 c.toNat

/-- `std::isspace` in the "C" locale. -/
def isSpaceByte (c : TChar) : Bool := c = 32 || (9 ≤ c && c ≤ 13)

/-- `isalnum`. -/
def isAlnum (c : TChar) : Bool :=
  (tchar '0' ≤ c && c ≤ tchar '9') || (tchar 'A' ≤ c && c ≤ tchar 'Z') ||
    (tchar 'a' ≤ c && c ≤ tchar 'z')

/-- `CStdString::Trim`. -/
def trimBytes (text : Bytes) : Bytes := (text.dropWhile isSpaceByte).rdropWhile isSpaceByte

/-- What the two serializers do differently when they read: `unescape` is none where it
throws. -/
structure KeyValueFormat where
  separator : TChar
  unescape : Bytes → Option Bytes
  separator_notAlnum : isAlnum separator = false
  separator_ne : separator ≠ tchar '='

inductive ReadState
  | start | key | value | error
  deriving DecidableEq

structure KeyValueReading where
  state : ReadState
  key : Bytes
  value : Bytes
  map : OrderedMap Bytes Bytes

namespace KeyValueReading

/-- Between two pairs. -/
def between (map : OrderedMap Bytes Bytes) : KeyValueReading where
  state := .start
  key := []
  value := []
  map := map

end KeyValueReading

namespace KeyValueFormat

variable (format : KeyValueFormat)

/-- The switch in the loop of `DeSerialize`. -/
def transition (reading : KeyValueReading) (character : TChar) : KeyValueReading :=
  match reading.state with
  | .start =>
      if character = format.separator then reading
      else if isAlnum character then { reading with state := .key, key := [character] }
      else { reading with state := .error }
  | .key =>
      if isAlnum character then { reading with key := reading.key ++ [character] }
      else if character = tchar '=' then { reading with state := .value, value := [] }
      else { reading with state := .error }
  | .value =>
      if character = tchar '=' then { reading with state := .error }
      else if character = format.separator then { reading with state := .start }
      else { reading with value := reading.value ++ [character] }
  | .error => { reading with state := .error }

/-- Add the pair to the map, unless there is no key. -/
def commit (reading : KeyValueReading) : Option KeyValueReading :=
  if reading.key = [] then some reading
  else (format.unescape reading.value).map fun unescapedValue =>
    { reading with
      map := reading.map.insertNew reading.key unescapedValue
      key := []
      value := [] }

def step (reading : KeyValueReading) (character : TChar) (last : Bool) : Option KeyValueReading :=
  let next := format.transition reading character
  if next.state = .start ∨ last then format.commit next else some next

/-- The loop of `DeSerialize`. -/
def read (reading : KeyValueReading) : Bytes → Option KeyValueReading
  | [] => some reading
  | character :: rest =>
      if reading.state = .error then some reading
      else (format.step reading character rest.isEmpty).bind fun next => read next rest

/-- `DeSerialize` into an empty map, as far as `m_map` goes. -/
def deSerialize (input : Bytes) : Option (OrderedMap Bytes Bytes) :=
  (format.read (.between .empty) (trimBytes input)).map KeyValueReading.map

/-! ### Reading a pair -/

variable {format} {key value rest : Bytes} {map : OrderedMap Bytes Bytes}

/-- A character that is neither a separator between pairs nor the last one only moves the
state. -/
theorem read_cons {reading next : KeyValueReading} {character : TChar}
    (hnext : format.transition reading character = next) (hgoing : reading.state ≠ .error)
    (hstate : next.state ≠ .start) (hrest : rest ≠ []) :
    format.read reading (character :: rest) = format.read next rest := by
  have hlast : rest.isEmpty = false := by simpa using hrest
  rw [read, if_neg hgoing, step, hnext, hlast, if_neg (by simp [hstate])]
  rfl

theorem read_keyTail (hkey : ∀ c ∈ key, isAlnum c = true) (hrest : rest ≠ []) (front : Bytes) :
    format.read ⟨.key, front, value, map⟩ (key ++ rest) =
      format.read ⟨.key, front ++ key, value, map⟩ rest := by
  induction key generalizing front with
  | nil => simp
  | cons c key ih =>
      have hnext : format.transition ⟨.key, front, value, map⟩ c =
          ⟨.key, front ++ [c], value, map⟩ := by
        simp [transition, hkey c List.mem_cons_self]
      rw [List.cons_append, read_cons hnext (by simp) (by simp) (by simp [hrest]),
        ih (fun d hd => hkey d (List.mem_cons_of_mem _ hd)), List.append_assoc]
      rfl

/-- A key is a text of letters and digits that is not empty. -/
def IsKey (key : Bytes) : Prop := key ≠ [] ∧ ∀ c ∈ key, isAlnum c = true

theorem read_key (hkey : IsKey key) :
    format.read (.between map) (key ++ tchar '=' :: rest) =
      format.read ⟨.key, key, [], map⟩ (tchar '=' :: rest) := by
  obtain ⟨hne, halnum⟩ := hkey
  cases key with
  | nil => exact absurd rfl hne
  | cons c key =>
      have hc := halnum c List.mem_cons_self
      have hseparator : c ≠ format.separator := by
        intro heq
        rw [heq, format.separator_notAlnum] at hc
        cases hc
      have hnext : format.transition (.between map) c = ⟨.key, [c], [], map⟩ := by
        simp [transition, KeyValueReading.between, hseparator, hc]
      rw [List.cons_append, read_cons hnext (by simp [KeyValueReading.between]) (by simp)
          (by simp),
        read_keyTail (fun d hd => halnum d (List.mem_cons_of_mem _ hd)) (by simp)]
      rfl

/-- A text that can stand as a value: it has no equals sign and no separator. -/
def Plain (format : KeyValueFormat) (text : Bytes) : Prop :=
  tchar '=' ∉ text ∧ format.separator ∉ text

theorem read_value {text : Bytes} (plain : format.Plain text) (hrest : rest ≠ []) (front : Bytes) :
    format.read ⟨.value, key, front, map⟩ (text ++ rest) =
      format.read ⟨.value, key, front ++ text, map⟩ rest := by
  induction text generalizing front with
  | nil => simp
  | cons c text ih =>
      have hequals : c ≠ tchar '=' := fun heq => plain.1 (heq ▸ List.mem_cons_self)
      have hseparator : c ≠ format.separator := fun heq => plain.2 (heq ▸ List.mem_cons_self)
      have hplain : format.Plain text :=
        ⟨fun h => plain.1 (List.mem_cons_of_mem _ h), fun h => plain.2 (List.mem_cons_of_mem _ h)⟩
      have hnext : format.transition ⟨.value, key, front, map⟩ c =
          ⟨.value, key, front ++ [c], map⟩ := by
        simp [transition, hequals, hseparator]
      rw [List.cons_append, read_cons hnext (by simp) (by simp) (by simp [hrest]),
        ih hplain, List.append_assoc]
      rfl

theorem transition_equals :
    format.transition ⟨.key, key, [], map⟩ (tchar '=') = ⟨.value, key, [], map⟩ := by
  have hequals : isAlnum (tchar '=') = false := by decide
  simp [transition, hequals]

/-- A pair with its separator. -/
theorem read_pair {text : Bytes} (hkey : IsKey key) (plain : format.Plain text)
    (hvalue : format.unescape text = some value) :
    format.read (.between map) (key ++ tchar '=' :: (text ++ format.separator :: rest)) =
      format.read (.between (map.insertNew key value)) rest := by
  rw [read_key hkey, read_cons transition_equals (by simp) (by simp) (by simp),
    read_value plain (by simp)]
  have hnext : format.transition ⟨.value, key, text, map⟩ format.separator =
      ⟨.start, key, text, map⟩ := by
    simp [transition, format.separator_ne]
  rw [List.nil_append, read, if_neg (by simp), step, hnext, if_pos (by simp), commit,
    if_neg hkey.1, hvalue]
  rfl

/-- A last pair without a separator. -/
theorem read_lastPair {text : Bytes} (hkey : IsKey key) (plain : format.Plain text)
    (hvalue : format.unescape text = some value) :
    (format.read (.between map) (key ++ tchar '=' :: text)).map KeyValueReading.map =
      some (map.insertNew key value) := by
  rw [read_key hkey]
  rcases List.eq_nil_or_concat text with rfl | ⟨front, c, rfl⟩
  · rw [read, if_neg (by simp), step, transition_equals, if_pos (by simp), commit,
      if_neg hkey.1, hvalue]
    rfl
  · rw [List.concat_eq_append] at plain hvalue ⊢
    have hequals : c ≠ tchar '=' := fun heq => plain.1 (by simp [heq])
    have hseparator : c ≠ format.separator := fun heq => plain.2 (by simp [heq])
    have hplain : format.Plain front :=
      ⟨fun h => plain.1 (List.mem_append_left _ h), fun h => plain.2 (List.mem_append_left _ h)⟩
    have hnext : format.transition ⟨.value, key, front, map⟩ c =
        ⟨.value, key, front ++ [c], map⟩ := by
      simp [transition, hequals, hseparator]
    rw [read_cons transition_equals (by simp) (by simp) (by simp), read_value hplain (by simp),
      List.nil_append, read, if_neg (by simp), step, hnext, if_pos (by simp), commit,
      if_neg hkey.1, hvalue]
    rfl

/-- What a serializer writes for a pair. -/
def pairBytes (format : KeyValueFormat) (escape : Bytes → Bytes) (pair : Bytes × Bytes) : Bytes :=
  pair.1 ++ tchar '=' :: (escape pair.2 ++ [format.separator])

/-- Pairs with their separators. -/
theorem read_pairs {escape : Bytes → Bytes} {pairs : List (Bytes × Bytes)}
    (hpairs : ∀ pair ∈ pairs, IsKey pair.1 ∧ format.Plain (escape pair.2) ∧
      format.unescape (escape pair.2) = some pair.2) :
    format.read (.between map) (pairs.flatMap (format.pairBytes escape) ++ rest) =
      format.read (.between (pairs.foldl (fun m pair => m.insertNew pair.1 pair.2) map)) rest := by
  induction pairs generalizing map with
  | nil => rfl
  | cons pair pairs ih =>
      obtain ⟨hkey, plain, hvalue⟩ := hpairs pair List.mem_cons_self
      have hfirst : format.read (.between map) (pair.1 ++ tchar '=' :: (escape pair.2 ++
          format.separator :: (pairs.flatMap (format.pairBytes escape) ++ rest))) = _ :=
        read_pair hkey plain hvalue
      rw [List.foldl_cons, ← ih fun other hother => hpairs other (List.mem_cons_of_mem _ hother),
        ← hfirst]
      simp [pairBytes]

/-! ### Trimming what was written -/

theorem isSpaceByte_of_isAlnum {c : TChar} (halnum : isAlnum c = true) : isSpaceByte c = false := by
  revert c
  decide +kernel

/-- What starts with a key is not trimmed at the front. -/
theorem trimLeft_key (hkey : IsKey key) (rest : Bytes) :
    (key ++ rest).dropWhile isSpaceByte = key ++ rest := by
  obtain ⟨hne, halnum⟩ := hkey
  cases key with
  | nil => exact absurd rfl hne
  | cons c key =>
      have hc := isSpaceByte_of_isAlnum (halnum c List.mem_cons_self)
      rw [List.cons_append, List.dropWhile_cons_of_neg (by simp [hc])]

theorem trimLeft_pairs {escape : Bytes → Bytes} {pairs : List (Bytes × Bytes)}
    (hkeys : ∀ pair ∈ pairs, IsKey pair.1) (hrest : rest.dropWhile isSpaceByte = rest) :
    (pairs.flatMap (format.pairBytes escape) ++ rest).dropWhile isSpaceByte =
      pairs.flatMap (format.pairBytes escape) ++ rest := by
  cases pairs with
  | nil => exact hrest
  | cons pair pairs =>
      rw [List.flatMap_cons, pairBytes, List.append_assoc, List.append_assoc]
      exact trimLeft_key (hkeys pair List.mem_cons_self) _

/-- The map of pairs with distinct keys has exactly these pairs. -/
theorem mem_foldl {pairs : List (Bytes × Bytes)} (distinct : (pairs.map Prod.fst).Nodup)
    (pair : Bytes × Bytes) :
    pair ∈ (pairs.foldl (fun m pair => m.insertNew pair.1 pair.2)
      (.empty : OrderedMap Bytes Bytes)).entries ↔ pair ∈ pairs := by
  rw [OrderedMap.mem_foldl_insertNew distinct (by simp)]
  simp [OrderedMap.empty]

end KeyValueFormat

end OrkAudio.Serializer
