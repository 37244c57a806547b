import OrkAudio.Lib.Escape
import OrkAudio.Lib.OrderedMap
import OrkAudio.StdString

/-! Lists and maps of texts written as one text, `Serializer::AddCsv` and
`Serializer::AddCsvMap`, and read back.

Elements are escaped, joined by commas and, on reading, trimmed before they are unescaped.
A last element that is empty leaves no trace in the joined text. -/

namespace OrkAudio.Serializer

open Lib

abbrev Text := List Char

/-- `EscapeCsv` and `UnEscapeCsv`. -/
def csvCode : EscapeCode Char where
  mark := '%'
  separator := ','
  markLetter := 'p'
  separatorLetter := 'c'
  mark_ne_separator := by decide
  letters_ne := by decide
  markLetter_ne := by decide
  separatorLetter_ne := by decide

/-- `EscapePair` and `UnEscapePair`. -/
def pairCode : EscapeCode Char where
  mark := '%'
  separator := ':'
  markLetter := 'p'
  separatorLetter := 'k'
  mark_ne_separator := by decide
  letters_ne := by decide
  markLetter_ne := by decide
  separatorLetter_ne := by decide

/-- The text that `AddCsv` writes. -/
def addCsv (value : List Text) : Text := [','].intercalate (value.map csvCode.escape)

/-- One element of `AddCsvMap`, before it is escaped as an element. -/
def pairText (pair : Text × Text) : Text :=
  pairCode.escape pair.1 ++ ':' :: pairCode.escape pair.2

/-- The text that `AddCsvMap` writes. -/
def addCsvMap (value : OrderedMap Text Text) : Text := addCsv (value.entries.map pairText)

/-- What the loop of `GetCsv` holds. -/
structure CsvReading where
  value : List Text
  element : Text := []
  first : Bool := true

namespace CsvReading

/-- Take the element as the next one; the first one erases the default value. -/
def push (reading : CsvReading) : CsvReading where
  value := (if reading.first then [] else reading.value) ++
    [csvCode.unescape (trim reading.element)]
  first := false

def step (reading : CsvReading) (c : Char) : CsvReading :=
  if c = ',' then reading.push else { reading with element := reading.element ++ [c] }

end CsvReading

/-- `GetCsv` on a text, `value` being the default. -/
def getCsv (value : List Text) (stringValue : Text) : List Text :=
  let reading := stringValue.foldl CsvReading.step { value := value }
  if reading.element = [] then reading.value else reading.push.value

/-- The pair that `GetCsvMap` reads from an element: none without a colon, where it throws. -/
def readPair (keyValuePair : Text) : Option (Text × Text) :=
  match keyValuePair.dropWhile (· ≠ ':') with
  | [] => none
  | _ :: val =>
      some (pairCode.unescape (keyValuePair.takeWhile (· ≠ ':')), pairCode.unescape val)

/-- `GetCsvMap` on a text, none when it throws. -/
def getCsvMap (value : OrderedMap Text Text) (stringValue : Text) :
    Option (OrderedMap Text Text) :=
  (getCsv [] stringValue).foldlM
    (fun map element => (readPair element).map fun pair => map.insertNew pair.1 pair.2) value

/-! ### Lists -/

theorem csvCode_avoids : csvCode.Avoids isSpace :=
  ⟨by decide, by decide, by decide, by decide⟩

theorem pairCode_avoids : pairCode.Avoids isSpace :=
  ⟨by decide, by decide, by decide, by decide⟩

theorem trimLeft_escape {code : EscapeCode Char} (avoids : code.Avoids isSpace) (text : Text) :
    trimLeft (code.escape text) = code.escape (trimLeft text) :=
  avoids.dropWhile_escape text

theorem trimRight_escape {code : EscapeCode Char} (avoids : code.Avoids isSpace) (text : Text) :
    trimRight (code.escape text) = code.escape (trimRight text) :=
  avoids.rdropWhile_escape text

/-- Reading an element trims it and nothing else. -/
theorem unescape_trim_escape (text : Text) :
    csvCode.unescape (trim (csvCode.escape text)) = trim text := by
  rw [trim, trimLeft_escape csvCode_avoids, trimRight_escape csvCode_avoids,
    EscapeCode.unescape_escape]
  rfl

/-- The elements that are read of those that were written. -/
def keptElements : List Text → List Text
  | [] => []
  | [text] => if text = [] then [] else [trim text]
  | text :: next :: rest => trim text :: keptElements (next :: rest)

theorem foldl_step_of_no_comma {text : Text} (hcomma : ',' ∉ text) (reading : CsvReading) :
    text.foldl CsvReading.step reading = { reading with element := reading.element ++ text } := by
  induction text generalizing reading with
  | nil => simp
  | cons c text ih =>
      have hc : c ≠ ',' := fun heq => hcomma (heq ▸ List.mem_cons_self)
      rw [List.foldl_cons, CsvReading.step, if_neg hc,
        ih (fun hmem => hcomma (List.mem_cons_of_mem _ hmem)), List.append_assoc]
      rfl

theorem comma_notMem_escape (text : Text) : ',' ∉ csvCode.escape text :=
  csvCode.separator_notMem_escape text

/-- Reading from the start of an element on. The induction is over the elements that are
still to come; `value` is what was read before them. -/
theorem read_elements (elements : List Text) (value : List Text) (first : Bool)
    (hfirst : first = true → value = []) :
    (let reading := (addCsv elements).foldl CsvReading.step ⟨value, [], first⟩
     if reading.element = [] then reading.value else reading.push.value) =
      value ++ keptElements elements := by
  have hstart : (if first then [] else value) = value := by
    split
    · exact (hfirst ‹_›).symm
    · rfl
  induction elements generalizing value first with
  | nil => simp [addCsv, keptElements]
  | cons text rest ih =>
      cases rest with
      | nil =>
          have hread := foldl_step_of_no_comma (comma_notMem_escape text) ⟨value, [], first⟩
          simp only [addCsv, List.map_cons, List.map_nil, List.intercalate_singleton, hread,
            List.nil_append, EscapeCode.escape_eq_nil, keptElements]
          split_ifs with hempty
          · simp
          · simp only [CsvReading.push, hstart, unescape_trim_escape]
      | cons next rest =>
          have hread := foldl_step_of_no_comma (comma_notMem_escape text) ⟨value, [], first⟩
          have hjoin : addCsv (text :: next :: rest) =
              csvCode.escape text ++ ',' :: addCsv (next :: rest) := by
            simp [addCsv, List.intercalate_cons_cons]
          have hpush : CsvReading.step ⟨value, csvCode.escape text, first⟩ ',' =
              ⟨value ++ [trim text], [], false⟩ := by
            simp only [CsvReading.step, if_true, CsvReading.push, hstart, unescape_trim_escape]
          rw [hjoin, List.foldl_append, hread, List.foldl_cons, List.nil_append, hpush,
            ih (value ++ [trim text]) false (by simp) (by simp)]
          simp [keptElements]

/-- What is read back of any list of texts. -/
theorem getCsv_addCsv (value : List Text) : getCsv [] (addCsv value) = keptElements value :=
  read_elements value [] true (fun _ => rfl)

theorem keptElements_eq_self_iff {value : List Text} :
    keptElements value = value ↔ (∀ text ∈ value, trim text = text) ∧ value.getLast? ≠ some [] := by
  induction value with
  | nil => simp [keptElements]
  | cons text rest ih =>
      cases rest with
      | nil =>
          rw [keptElements]
          split_ifs with hempty
          · simp [hempty]
          · simp [hempty]
      | cons next rest =>
          rw [keptElements, List.cons.injEq, ih]
          simp [and_assoc]

/-! ### Maps -/

/-- The pair that is read of a pair that was written. -/
def keptPair (pair : Text × Text) : Text × Text := (trimLeft pair.1, trimRight pair.2)

theorem pairText_ne_nil (pair : Text × Text) : pairText pair ≠ [] := by
  simp [pairText]

theorem keptElements_of_ne_nil {value : List Text} (hne : ∀ text ∈ value, text ≠ []) :
    keptElements value = value.map trim := by
  induction value with
  | nil => rfl
  | cons text rest ih =>
      cases rest with
      | nil => rw [keptElements, if_neg (hne text List.mem_cons_self)]; rfl
      | cons next rest =>
          rw [keptElements, ih fun t ht => hne t (List.mem_cons_of_mem _ ht)]
          rfl

/-- Trimming an element trims the front of its key and the end of its value. -/
theorem trim_pairText (pair : Text × Text) : trim (pairText pair) = pairText (keptPair pair) := by
  have hleft : trimLeft (pairText pair) =
      trimLeft (pairCode.escape pair.1) ++ ':' :: pairCode.escape pair.2 := by
    rw [pairText]
    generalize pairCode.escape pair.1 = key
    induction key with
    | nil => rfl
    | cons c key ih =>
        cases hc : isSpace c with
        | true => simpa [trimLeft, hc] using ih
        | false => simp [trimLeft, hc]
  have hright (front back : Text) :
      trimRight (front ++ ':' :: back) = front ++ ':' :: trimRight back := by
    induction back using List.reverseRecOn with
    | nil => exact List.rdropWhile_concat_neg _ _ _ (by decide)
    | append_singleton back c ih =>
        have hsplit : front ++ ':' :: (back ++ [c]) = (front ++ ':' :: back) ++ [c] := by simp
        cases hc : isSpace c with
        | true =>
            rw [hsplit, trimRight, List.rdropWhile_concat_pos _ _ _ hc, trimRight,
              List.rdropWhile_concat_pos _ _ _ hc]
            exact ih
        | false =>
            rw [hsplit, trimRight, List.rdropWhile_concat_neg _ _ _ (by simp [hc]), trimRight,
              List.rdropWhile_concat_neg _ _ _ (by simp [hc])]
            exact hsplit.symm
  rw [trim, hleft, hright, trimLeft_escape pairCode_avoids, trimRight_escape pairCode_avoids]
  rfl

/-- The first colon of a written pair is the one between its key and its value. -/
theorem readPair_pairText (pair : Text × Text) : readPair (pairText pair) = some pair := by
  have hkey : ∀ c ∈ pairCode.escape pair.1, decide (c ≠ ':') = true := by
    intro c hc
    have hcolon : ':' ∉ pairCode.escape pair.1 := pairCode.separator_notMem_escape pair.1
    simp only [decide_eq_true_eq]
    rintro rfl
    exact hcolon hc
  have hdrop : (pairText pair).dropWhile (· ≠ ':') = ':' :: pairCode.escape pair.2 := by
    rw [pairText, List.dropWhile_append_of_pos hkey]
    simp
  have htake : (pairText pair).takeWhile (· ≠ ':') = pairCode.escape pair.1 := by
    rw [pairText, List.takeWhile_append_of_pos hkey]
    simp
  rw [readPair, hdrop, htake]
  simp

/-- What is read back of any map of texts. -/
theorem getCsvMap_addCsvMap (value : OrderedMap Text Text) :
    getCsvMap .empty (addCsvMap value) =
      some ((value.entries.map keptPair).foldl (fun m pair => m.insertNew pair.1 pair.2)
        .empty) := by
  have hread : getCsv [] (addCsvMap value) = value.entries.map fun e => pairText (keptPair e) := by
    rw [addCsvMap, getCsv_addCsv, keptElements_of_ne_nil, List.map_map]
    · exact List.map_congr_left fun pair _ => trim_pairText pair
    · intro text htext
      obtain ⟨pair, _, rfl⟩ := List.mem_map.mp htext
      exact pairText_ne_nil pair
  rw [getCsvMap, hread]
  generalize (OrderedMap.empty : OrderedMap Text Text) = start
  induction value.entries generalizing start with
  | nil => rfl
  | cons pair rest ih =>
      simp only [List.map_cons, List.foldlM_cons, readPair_pairText, Option.map_some,
        Option.bind_eq_bind, Option.bind_some, List.foldl_cons]
      exact ih _

/-- The keys of what is read start without whitespace. -/
theorem startsBare_of_mem_foldl {pairs : List (Text × Text)} {start : OrderedMap Text Text}
    (hstart : ∀ pair ∈ start.entries, StartsBare pair.1) {pair : Text × Text}
    (hmem : pair ∈ ((pairs.map keptPair).foldl (fun m p => m.insertNew p.1 p.2) start).entries) :
    StartsBare pair.1 := by
  induction pairs generalizing start with
  | nil => exact hstart pair hmem
  | cons next rest ih =>
      apply ih _ hmem
      intro p hp
      change p ∈ (start.insertNew (keptPair next).1 (keptPair next).2).entries at hp
      cases hfree : start.find? (keptPair next).1 with
      | some old =>
          rw [OrderedMap.insertNew_of_taken hfree] at hp
          exact hstart p hp
      | none =>
          rcases (OrderedMap.mem_insertNew hfree).mp hp with rfl | hp
          · exact startsBare_trimLeft next.1
          · exact hstart p hp

/-- Reading gives the map back exactly when no key starts and no value ends with whitespace. -/
theorem getCsvMap_eq_self_iff {value : OrderedMap Text Text} :
    getCsvMap .empty (addCsvMap value) = some value ↔
      ∀ pair ∈ value.entries, StartsBare pair.1 ∧ EndsBare pair.2 := by
  have distinct (hkeys : ∀ pair ∈ value.entries, StartsBare pair.1) :
      ((value.entries.map keptPair).map Prod.fst).Nodup := by
    have hsame : (value.entries.map keptPair).map Prod.fst = value.entries.map Prod.fst := by
      rw [List.map_map]
      exact List.map_congr_left fun pair hp => trimLeft_eq_self_iff.mpr (hkeys pair hp)
    rw [hsame]
    exact (List.pairwise_map.mpr value.sorted).imp fun hlt => hlt.ne
  rw [getCsvMap_addCsvMap, Option.some_inj]
  constructor
  · intro hsame
    have hkeys : ∀ pair ∈ value.entries, StartsBare pair.1 := by
      intro pair hp
      rw [← hsame] at hp
      exact startsBare_of_mem_foldl (by simp [OrderedMap.empty]) hp
    intro pair hp
    have hkept : keptPair pair ∈ value.entries := by
      rw [← hsame, OrderedMap.mem_foldl_insertNew (distinct hkeys) (by simp)]
      exact .inr (List.mem_map_of_mem hp)
    have hkey : (keptPair pair).1 = pair.1 := trimLeft_eq_self_iff.mpr (hkeys pair hp)
    have heq : keptPair pair = pair := value.sorted.key_injective hkept hp hkey
    exact ⟨hkeys pair hp, trimRight_eq_self_iff.mp (congrArg Prod.snd heq)⟩
  · intro hbare
    apply OrderedMap.ext_entries
    intro pair
    have hsame : value.entries.map keptPair = value.entries := by
      calc
        value.entries.map keptPair = value.entries.map id := by
          apply List.map_congr_left
          intro p hp
          exact Prod.ext (trimLeft_eq_self_iff.mpr (hbare p hp).1)
            (trimRight_eq_self_iff.mpr (hbare p hp).2)
        _ = value.entries := List.map_id _
    rw [OrderedMap.mem_foldl_insertNew (distinct fun p hp => (hbare p hp).1) (by simp), hsame]
    simp [OrderedMap.empty]

/-! ### Both -/

/-- A list comes back as it was exactly when no element has whitespace at an end and the
last one is not empty, a map when no key starts and no value ends with whitespace. -/
theorem tags_survive :
    (∀ value : List Text, getCsv [] (addCsv value) = value ↔
      (∀ text ∈ value, StartsBare text ∧ EndsBare text) ∧ value.getLast? ≠ some []) ∧
    ∀ value : OrderedMap Text Text, getCsvMap .empty (addCsvMap value) = some value ↔
      ∀ pair ∈ value.entries, StartsBare pair.1 ∧ EndsBare pair.2 := by
  constructor
  · intro value
    simp only [getCsv_addCsv, keptElements_eq_self_iff, trim_eq_self_iff]
  · intro value
    exact getCsvMap_eq_self_iff

/-- Of the list of "a" and "" only "a" comes back, and the value "paid " as "paid". -/
theorem tags_lost :
    (¬ ∀ value : List Text, getCsv [] (addCsv value) = value) ∧
      ¬ ∀ value : OrderedMap Text Text, getCsvMap .empty (addCsvMap value) = some value := by
  constructor
  · intro hlist
    exact absurd (hlist ["a".toList, []]) (by decide)
  · intro hmap
    have hspace := hmap (OrderedMap.empty.insertNew "note".toList "paid ".toList)
    rw [getCsvMap_eq_self_iff] at hspace
    have hend := (hspace ("note".toList, "paid ".toList) (by decide)).2
    exact absurd (hend ' ' (by decide)) (by decide)

end OrkAudio.Serializer
