import OrkAudio.Serializer.KeyValue

/-! `UrlSerializer`: query strings. -/

namespace OrkAudio.Serializer.Url

open Lib

/-- `url_ok_chars`. -/
def urlOkChars : Bytes :=
  "-.0123456789@ABCDEFGHIJKLMNOPQRSTUVWXYZ_abcdefghijklmnopqrstuvwxyz".toList.map tchar

/-- `strchr(url_ok_chars, ..)`, which finds the terminator of the string as well. -/
def isUrlOk (c : TChar) : Bool := c = 0 || decide (c ∈ urlOkChars)

/-- `hex_digits`. -/
def hexDigit (n : Nat) : TChar := ("0123456789ABCDEF".toList.map tchar).getD n 0

def escapeChar (c : TChar) : Bytes :=
  if c = tchar ' ' then [tchar '+']
  else if isUrlOk c then [c]
  else [tchar '%', hexDigit (c.val / 16), hexDigit (c.val % 16)]

/-- `EscapeUrl`. -/
def escapeUrl (text : Bytes) : Bytes := text.flatMap escapeChar

/-- The value of a hexadecimal digit. -/
def hexValue? (c : TChar) : Option Nat :=
  if tchar '0' ≤ c ∧ c ≤ tchar '9' then some (c.val - 48)
  else if tchar 'A' ≤ c ∧ c ≤ tchar 'F' then some (c.val - 55)
  else if tchar 'a' ≤ c ∧ c ≤ tchar 'f' then some (c.val - 87)
  else none

def readHex (value : Nat) : Bytes → Nat
  | [] => value
  | c :: rest =>
      match hexValue? c with
      | some digit => readHex (16 * value + digit) rest
      | none => value

/-- `strtol(.., NULL, 16)` of a text that is short enough for a `long`. -/
def strtolHex (text : Bytes) : Int :=
  let trimmed := (text.takeWhile (· ≠ 0)).dropWhile isSpaceByte
  let negative := trimmed.head? = some (tchar '-')
  let unsigned := if negative ∨ trimmed.head? = some (tchar '+') then trimmed.tail else trimmed
  let digits :=
    if unsigned.take 2 = [tchar '0', tchar 'x'] ∨ unsigned.take 2 = [tchar '0', tchar 'X'] then
      unsigned.drop 2
    else unsigned
  if negative then -(readHex 0 digits : Int) else readHex 0 digits

/-- A `long` as a `char`. -/
def toTChar (value : Int) : TChar := Fin.ofNat 256 (value % 256).toNat

/-- `UnEscapeUrl`, none where `GetAt` throws because the text ends after a percent sign. -/
def unEscapeUrl : Bytes → Option Bytes
  | [] => some []
  | c :: rest =>
      if c = tchar '+' then (unEscapeUrl rest).map (tchar ' ' :: ·)
      else if c = tchar '%' then
        match rest with
        | [] => none
        | d :: rest =>
            if d = tchar '%' then (unEscapeUrl rest).map (tchar '%' :: ·)
            else
              match rest with
              | [] => none
              | e :: rest => (unEscapeUrl rest).map (toTChar (strtolHex [d, e]) :: ·)
      else (unEscapeUrl rest).map (c :: ·)

/-- `AddString` on what was written before. The escaped value is appended as a C string. -/
def addString (output key value : Bytes) : Bytes :=
  output ++ (key ++ tchar '=' :: ((escapeUrl value).takeWhile (· ≠ 0) ++ [tchar '&']))

/-- The text of the pairs, added one after the other. -/
def serialize (pairs : List (Bytes × Bytes)) : Bytes :=
  pairs.foldl (fun output pair => addString output pair.1 pair.2) []

def format : KeyValueFormat where
  separator := tchar '&'
  unescape := unEscapeUrl
  separator_notAlnum := by decide
  separator_ne := by decide

/-- `DeSerialize`, none when it throws. -/
def deSerialize (input : Bytes) : Option (OrderedMap Bytes Bytes) := format.deSerialize input

/-! ### Escaping -/

theorem strtolHex_hexDigit (c : TChar) :
    toTChar (strtolHex [hexDigit (c.val / 16), hexDigit (c.val % 16)]) = c := by
  revert c
  decide +kernel

theorem hexDigit_ne_percent (c : TChar) : hexDigit (c.val / 16) ≠ tchar '%' := by
  revert c
  decide +kernel

theorem ne_of_isUrlOk {c x : TChar} (hok : isUrlOk c = true) (hx : isUrlOk x = false) : c ≠ x := by
  intro hsame
  rw [hsame, hx] at hok
  cases hok

theorem isUrlOk_ne {c : TChar} (hok : isUrlOk c = true) : c ≠ tchar '+' ∧ c ≠ tchar '%' :=
  ⟨ne_of_isUrlOk hok (by decide), ne_of_isUrlOk hok (by decide)⟩

theorem unEscape_escapeChar (c : TChar) (rest : Bytes) :
    unEscapeUrl (escapeChar c ++ rest) = (unEscapeUrl rest).map (c :: ·) := by
  rw [escapeChar]
  split_ifs with hspace hok
  · rw [hspace, List.singleton_append, unEscapeUrl.eq_def]
    exact if_pos rfl
  · obtain ⟨hplus, hpercent⟩ := isUrlOk_ne hok
    rw [List.singleton_append, unEscapeUrl.eq_def]
    simp only [if_neg hplus, if_neg hpercent]
  · have hplus : tchar '%' ≠ tchar '+' := by decide
    simp only [List.cons_append, List.nil_append]
    rw [unEscapeUrl, if_neg hplus, if_pos rfl]
    simp only [if_neg (hexDigit_ne_percent c), strtolHex_hexDigit]

/-- Reading undoes writing, for every byte. -/
theorem unEscape_escape (text : Bytes) : unEscapeUrl (escapeUrl text) = some text := by
  induction text with
  | nil => rfl
  | cons c text ih =>
      have hrest : escapeUrl (c :: text) = escapeChar c ++ escapeUrl text := rfl
      rw [hrest, unEscape_escapeChar, ih]
      rfl

/-- Nothing that is written is an equals sign or an ampersand, and only NUL is written as
NUL. -/
theorem escapeChar_plain (c : TChar) :
    tchar '=' ∉ escapeChar c ∧ tchar '&' ∉ escapeChar c ∧ (c ≠ 0 → 0 ∉ escapeChar c) := by
  have hdigit : ∀ n < 16, tchar '=' ≠ hexDigit n ∧ tchar '&' ≠ hexDigit n ∧ 0 ≠ hexDigit n := by
    decide
  rcases hdigit (c.val / 16) (by omega) with ⟨hequals₁, hand₁, hzero₁⟩
  rcases hdigit (c.val % 16) (by omega) with ⟨hequals₂, hand₂, hzero₂⟩
  rw [escapeChar]
  split_ifs with hspace hok
  · exact ⟨by decide, by decide, fun _ => by decide⟩
  · have hequals : c ≠ tchar '=' := ne_of_isUrlOk hok (by decide)
    have hand : c ≠ tchar '&' := ne_of_isUrlOk hok (by decide)
    simp [hequals.symm, hand.symm, eq_comm]
  · have hpercent : tchar '=' ≠ tchar '%' ∧ tchar '&' ≠ tchar '%' ∧ 0 ≠ tchar '%' := by decide
    simp [hpercent, hequals₁, hequals₂, hand₁, hand₂, hzero₁, hzero₂]

theorem plain_escape (text : Bytes) : format.Plain (escapeUrl text) := by
  constructor
  · intro hmem
    obtain ⟨c, -, hc⟩ := List.mem_flatMap.mp hmem
    exact (escapeChar_plain c).1 hc
  · intro hmem
    obtain ⟨c, -, hc⟩ := List.mem_flatMap.mp hmem
    exact (escapeChar_plain c).2.1 hc

/-- A value without NUL is appended whole. -/
theorem takeWhile_escape {value : Bytes} (free : 0 ∉ value) :
    (escapeUrl value).takeWhile (· ≠ 0) = escapeUrl value := by
  apply List.takeWhile_eq_self_iff.mpr
  intro d hd
  obtain ⟨c, hc, hd⟩ := List.mem_flatMap.mp hd
  apply decide_eq_true
  rintro rfl
  have hne : c ≠ 0 := fun heq => free (heq ▸ hc)
  exact (escapeChar_plain c).2.2 hne hd

theorem serialize_eq {pairs : List (Bytes × Bytes)} (free : ∀ pair ∈ pairs, 0 ∉ pair.2) :
    serialize pairs = pairs.flatMap (format.pairBytes escapeUrl) := by
  have hfold (output : Bytes) : pairs.foldl (fun output pair => addString output pair.1 pair.2)
      output = output ++ pairs.flatMap (format.pairBytes escapeUrl) := by
    induction pairs generalizing output with
    | nil => simp
    | cons pair pairs ih =>
        rw [List.foldl_cons, ih fun other hother => free other (List.mem_cons_of_mem _ hother),
          List.flatMap_cons, addString, takeWhile_escape (free pair List.mem_cons_self),
          List.append_assoc]
        rfl
  exact hfold []

/-- The ampersand at the end keeps the last value from being trimmed. -/
theorem trim_serialize {pairs : List (Bytes × Bytes)}
    (keys : ∀ pair ∈ pairs, KeyValueFormat.IsKey pair.1) (free : ∀ pair ∈ pairs, 0 ∉ pair.2) :
    trimBytes (serialize pairs) = serialize pairs := by
  rw [serialize_eq free, ← List.append_nil (List.flatMap _ _), trimBytes,
    KeyValueFormat.trimLeft_pairs keys rfl, List.append_nil]
  rcases List.eq_nil_or_concat pairs with rfl | ⟨front, last, rfl⟩
  · rfl
  · have hend : (front.concat last).flatMap (format.pairBytes escapeUrl) =
        (front.flatMap (format.pairBytes escapeUrl) ++
          (last.1 ++ tchar '=' :: escapeUrl last.2)) ++ [tchar '&'] := by
      simp [KeyValueFormat.pairBytes, format]
    rw [hend]
    exact List.rdropWhile_concat_neg _ _ _ (by decide)

/-- A query string gives back exactly the pairs it was made of. -/
theorem deSerialize_serialize (pairs : List (Bytes × Bytes))
    (distinct : (pairs.map Prod.fst).Nodup) (keys : ∀ pair ∈ pairs, KeyValueFormat.IsKey pair.1)
    (free : ∀ pair ∈ pairs, 0 ∉ pair.2) :
    ∃ map, deSerialize (serialize pairs) = some map ∧
      ∀ pair, pair ∈ map.entries ↔ pair ∈ pairs := by
  refine ⟨_, ?_, KeyValueFormat.mem_foldl distinct⟩
  rw [deSerialize, KeyValueFormat.deSerialize, trim_serialize keys free, serialize_eq free,
    ← List.append_nil (List.flatMap _ _), KeyValueFormat.read_pairs]
  · rfl
  · intro pair hpair
    exact ⟨keys pair hpair, plain_escape _, unEscape_escape _⟩

theorem deSerialize_serialize_bytes :
    ∃ map, deSerialize (serialize [([tchar 'a'], [tchar '%', 200, tchar '+', 9]),
        ([tchar 'b'], [])]) = some map ∧
      ∀ pair, pair ∈ map.entries ↔ pair ∈
        [([tchar 'a'], [tchar '%', 200, tchar '+', 9]), ([tchar 'b'], ([] : Bytes))] := by
  apply deSerialize_serialize _ (by decide)
  · intro pair hpair
    rcases List.mem_pair.mp hpair with rfl | rfl
    · refine ⟨by simp, ?_⟩
      intro c hc
      rw [List.mem_singleton.mp hc]
      decide
    · refine ⟨by simp, ?_⟩
      intro c hc
      rw [List.mem_singleton.mp hc]
      decide
  · intro pair hpair
    rcases List.mem_pair.mp hpair with rfl | rfl <;> decide

end OrkAudio.Serializer.Url
