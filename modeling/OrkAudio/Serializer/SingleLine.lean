import OrkAudio.Serializer.KeyValue

/-! `SingleLineSerializer`: pairs with a space behind each. -/

namespace OrkAudio.Serializer.SingleLine

open Lib

def escapeChar (c : TChar) : Bytes :=
  if c = tchar ' ' then [tchar '%', tchar 's']
  else if c = tchar '%' then [tchar '%', tchar 'p']
  else if c = tchar '=' then [tchar '%', tchar 'e']
  else [c]

/-- `EscapeSingleLine`. -/
def escapeSingleLine (text : Bytes) : Bytes := text.flatMap escapeChar

/-- What the character after a percent sign stands for. -/
def unEscapeLetter (c : TChar) : Bytes :=
  if c = tchar 's' then [tchar ' ']
  else if c = tchar 'p' then [tchar '%']
  else if c = tchar 'e' then [tchar '=']
  else []

/-- `UnEscapeSingleLine`. -/
def unEscapeSingleLine : Bytes → Bytes
  | [] => []
  | [c] => if c = tchar '%' then [] else [c]
  | c :: d :: rest =>
      if c = tchar '%' then unEscapeLetter d ++ unEscapeSingleLine rest
      else c :: unEscapeSingleLine (d :: rest)

/-- `AddString` on what was written before. -/
def addString (output key value : Bytes) : Bytes :=
  output ++ (key ++ tchar '=' :: (escapeSingleLine value ++ [tchar ' ']))

/-- The text of the pairs, added one after the other. -/
def serialize (pairs : List (Bytes × Bytes)) : Bytes :=
  pairs.foldl (fun output pair => addString output pair.1 pair.2) []

def format : KeyValueFormat where
  separator := tchar ' '
  unescape text := some (unEscapeSingleLine text)
  separator_notAlnum := by decide
  separator_ne := by decide

/-- `DeSerialize`. -/
def deSerialize (input : Bytes) : Option (OrderedMap Bytes Bytes) := format.deSerialize input

theorem serialize_eq (pairs : List (Bytes × Bytes)) :
    serialize pairs = pairs.flatMap (format.pairBytes escapeSingleLine) := by
  have hfold (output : Bytes) : pairs.foldl (fun output pair => addString output pair.1 pair.2)
      output = output ++ pairs.flatMap (format.pairBytes escapeSingleLine) := by
    induction pairs generalizing output with
    | nil => simp
    | cons pair pairs ih =>
        rw [List.foldl_cons, ih, List.flatMap_cons, addString, List.append_assoc]
        rfl
  exact hfold []

/-! ### Escaping -/

theorem unEscape_cons_of_ne {c : TChar} (hpercent : c ≠ tchar '%') (rest : Bytes) :
    unEscapeSingleLine (c :: rest) = c :: unEscapeSingleLine rest := by
  cases rest with
  | nil => simp [unEscapeSingleLine, hpercent]
  | cons d rest => simp [unEscapeSingleLine, hpercent]

theorem unEscape_escapeChar (c : TChar) (rest : Bytes) :
    unEscapeSingleLine (escapeChar c ++ rest) = c :: unEscapeSingleLine rest := by
  rw [escapeChar]
  split_ifs with hspace hpercent hequals
  · rw [hspace]
    rfl
  · rw [hpercent]
    rfl
  · rw [hequals]
    rfl
  · exact unEscape_cons_of_ne hpercent rest

@[simp] theorem unEscape_escape (text : Bytes) :
    unEscapeSingleLine (escapeSingleLine text) = text := by
  induction text with
  | nil => rfl
  | cons c text ih =>
      rw [escapeSingleLine, List.flatMap_cons, unEscape_escapeChar]
      exact congrArg (c :: ·) ih

theorem plain_escape (text : Bytes) : format.Plain (escapeSingleLine text) := by
  have hchars : ∀ c, tchar '=' ∉ escapeChar c ∧ tchar ' ' ∉ escapeChar c := by decide +kernel
  constructor
  · intro hmem
    obtain ⟨c, -, hc⟩ := List.mem_flatMap.mp hmem
    exact (hchars c).1 hc
  · intro hmem
    obtain ⟨c, -, hc⟩ := List.mem_flatMap.mp hmem
    exact (hchars c).2 hc

/-! ### Trimming -/

/-- The whitespace that is not escaped: tab, the line breaks, vertical tab and form feed. -/
def isRawSpace (c : TChar) : Bool := 9 ≤ c && c ≤ 13

theorem escapeChar_of_rawSpace {c : TChar} (hraw : isRawSpace c = true) :
    escapeChar c = [c] ∧ isSpaceByte c = true := by
  revert c
  decide +kernel

theorem last_escapeChar {c : TChar} (hraw : isRawSpace c = false) :
    ∃ front d, escapeChar c = front ++ [d] ∧ isSpaceByte d = false := by
  rw [escapeChar]
  split_ifs with hspace hpercent hequals
  · exact ⟨[_], _, rfl, by decide⟩
  · exact ⟨[_], _, rfl, by decide⟩
  · exact ⟨[_], _, rfl, by decide⟩
  · refine ⟨[], c, rfl, ?_⟩
    revert c
    decide +kernel

/-- Of a written last pair the trimming takes the separator and the raw whitespace at the end
of the value. -/
theorem trimRight_lastPair (front value : Bytes) :
    (front ++ tchar '=' :: (escapeSingleLine value ++ [tchar ' '])).rdropWhile isSpaceByte =
      front ++ tchar '=' :: escapeSingleLine (value.rdropWhile isRawSpace) := by
  have hseparator : front ++ tchar '=' :: (escapeSingleLine value ++ [tchar ' ']) =
      (front ++ tchar '=' :: escapeSingleLine value) ++ [tchar ' '] := by simp
  rw [hseparator, List.rdropWhile_concat_pos _ _ _ (by decide)]
  clear hseparator
  induction value using List.reverseRecOn with
  | nil => exact List.rdropWhile_concat_neg _ _ _ (by decide)
  | append_singleton value c ih =>
      have hlast (text : Bytes) : escapeSingleLine (text ++ [c]) =
          escapeSingleLine text ++ escapeChar c := by
        simp [escapeSingleLine]
      cases hraw : isRawSpace c with
      | true =>
          obtain ⟨hchar, hspace⟩ := escapeChar_of_rawSpace hraw
          rw [List.rdropWhile_concat_pos _ _ _ hraw, ← ih, hlast, hchar,
            ← List.cons_append, ← List.append_assoc, List.rdropWhile_concat_pos _ _ _ hspace]
      | false =>
          obtain ⟨chars, d, hchar, hd⟩ := last_escapeChar hraw
          rw [List.rdropWhile_concat_neg _ _ _ (by simp [hraw]), hlast, hchar,
            ← List.append_assoc, ← List.cons_append, ← List.append_assoc,
            List.rdropWhile_concat_neg _ _ _ (by simp [hd])]

theorem trim_serialize {pairs : List (Bytes × Bytes)} {key : Bytes} (value : Bytes)
    (hkeys : ∀ pair ∈ pairs, KeyValueFormat.IsKey pair.1) (hkey : KeyValueFormat.IsKey key) :
    trimBytes (serialize (pairs ++ [(key, value)])) =
      pairs.flatMap (format.pairBytes escapeSingleLine) ++
        (key ++ tchar '=' :: escapeSingleLine (value.rdropWhile isRawSpace)) := by
  have hall : ∀ pair ∈ pairs ++ [(key, value)], KeyValueFormat.IsKey pair.1 := by
    intro pair hpair
    rcases List.mem_append.mp hpair with hpair | hpair
    · exact hkeys pair hpair
    · rw [List.mem_singleton.mp hpair]
      exact hkey
  have hleft : (serialize (pairs ++ [(key, value)])).dropWhile isSpaceByte =
      serialize (pairs ++ [(key, value)]) := by
    rw [serialize_eq, ← List.append_nil (List.flatMap _ _)]
    exact KeyValueFormat.trimLeft_pairs hall rfl
  have htext : serialize (pairs ++ [(key, value)]) =
      (pairs.flatMap (format.pairBytes escapeSingleLine) ++ key) ++
        tchar '=' :: (escapeSingleLine value ++ [tchar ' ']) := by
    simp [serialize_eq, KeyValueFormat.pairBytes, format]
  rw [trimBytes, hleft, htext, trimRight_lastPair, List.append_assoc]

/-- Of the last value the raw whitespace at its end is not read back. -/
theorem deSerialize_trimmed {pairs : List (Bytes × Bytes)} {key : Bytes} (value : Bytes)
    (hkeys : ∀ pair ∈ pairs, KeyValueFormat.IsKey pair.1) (hkey : KeyValueFormat.IsKey key) :
    deSerialize (serialize (pairs ++ [(key, value)])) =
      some ((pairs ++ [(key, value.rdropWhile isRawSpace)]).foldl
        (fun m pair => m.insertNew pair.1 pair.2) .empty) := by
  rw [deSerialize, KeyValueFormat.deSerialize, trim_serialize value hkeys hkey,
    KeyValueFormat.read_pairs]
  · rw [KeyValueFormat.read_lastPair hkey (plain_escape _) (congrArg some (unEscape_escape _)),
      List.foldl_append]
    rfl
  · intro pair hpair
    exact ⟨hkeys pair hpair, plain_escape _, congrArg some (unEscape_escape _)⟩

theorem rdropWhile_eq_self {text : Bytes} :
    text.rdropWhile isRawSpace = text ↔ ∀ c ∈ text.getLast?, isRawSpace c = false := by
  rw [List.rdropWhile_eq_self_iff]
  constructor
  · intro hlast c hc
    obtain ⟨hne, rfl⟩ := List.mem_getLast?_eq_getLast hc
    simpa using hlast hne
  · intro hlast hne
    simpa using hlast _ (List.getLast?_eq_some_getLast hne)

/-- The pairs come back exactly when the last value does not end with raw whitespace. -/
theorem pairs_survive (pairs : List (Bytes × Bytes)) (distinct : (pairs.map Prod.fst).Nodup)
    (keys : ∀ pair ∈ pairs, KeyValueFormat.IsKey pair.1) :
    (∃ map, deSerialize (serialize pairs) = some map ∧
        ∀ pair, pair ∈ map.entries ↔ pair ∈ pairs) ↔
      ∀ last ∈ pairs.getLast?, ∀ c ∈ last.2.getLast?, isRawSpace c = false := by
  rcases List.eq_nil_or_concat pairs with rfl | ⟨front, ⟨key, value⟩, rfl⟩
  · refine ⟨fun _ => by simp, fun _ => ⟨.empty, rfl, ?_⟩⟩
    intro pair
    exact Iff.rfl
  · rw [List.concat_eq_append] at distinct keys ⊢
    have hkeys : ∀ pair ∈ front, KeyValueFormat.IsKey pair.1 :=
      fun pair hpair => keys pair (List.mem_append_left _ hpair)
    have hkey : KeyValueFormat.IsKey key := keys (key, value) (by simp)
    have hdistinct : ((front ++ [(key, value.rdropWhile isRawSpace)]).map Prod.fst).Nodup := by
      simpa using distinct
    have hlast : (∀ last ∈ (front ++ [(key, value)]).getLast?, ∀ c ∈ last.2.getLast?,
        isRawSpace c = false) ↔ value.rdropWhile isRawSpace = value := by
      rw [rdropWhile_eq_self]
      simp
    rw [deSerialize_trimmed value hkeys hkey, hlast]
    constructor
    · rintro ⟨map, hmap, hsame⟩
      obtain rfl := Option.some.inj hmap
      have hread := (KeyValueFormat.mem_foldl hdistinct (key, value)).mp
        ((hsame (key, value)).mpr (by simp))
      rcases List.mem_append.mp hread with hfront | hend
      · rw [List.map_append, List.nodup_append] at distinct
        exact absurd rfl (distinct.2.2 key (List.mem_map_of_mem hfront) key (by simp))
      · exact (congrArg Prod.snd (List.mem_singleton.mp hend)).symm
    · intro hsame
      refine ⟨_, rfl, ?_⟩
      intro pair
      rw [hsame]
      exact KeyValueFormat.mem_foldl distinct pair

theorem pairs_survive_two :
    ∃ map, deSerialize (serialize [([tchar 'a'], [tchar ' ', 9]), ([tchar 'b'], [])]) = some map ∧
      ∀ pair, pair ∈ map.entries ↔
        pair ∈ [([tchar 'a'], [tchar ' ', 9]), ([tchar 'b'], ([] : Bytes))] := by
  apply (pairs_survive _ (by decide) ?_).mpr
  · simp
  · intro pair hpair
    rcases List.mem_pair.mp hpair with rfl | rfl
    · refine ⟨by simp, ?_⟩
      intro c hc
      rw [List.mem_singleton.mp hc]
      decide
    · refine ⟨by simp, ?_⟩
      intro c hc
      rw [List.mem_singleton.mp hc]
      decide

/-- A tab at the end of the only value is lost. -/
theorem last_tab_lost :
    ∃ map, deSerialize (serialize [([tchar 'a'], [tchar 'b', 9])]) = some map ∧
      map.entries = [([tchar 'a'], [tchar 'b'])] :=
  ⟨_, rfl, rfl⟩

end OrkAudio.Serializer.SingleLine
