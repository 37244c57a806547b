import OrkAudio.Serializer.Url

/-! Texts with a value that cannot be unescaped.

Both readers of URLs unescape a value where its pair ends, at a separator or with the text, and
the last character of the text ends a pair whatever it is. -/

namespace OrkAudio.Serializer

open Lib

namespace KeyValueFormat

variable (format : KeyValueFormat)

/-- Pairs, with their separators and further ones between them. -/
inductive Fields : Bytes → Prop
  | nil : Fields []
  | separator {front : Bytes} : Fields front → Fields (front ++ [format.separator])
  | pair {front key value : Bytes} : Fields front → IsKey key → format.Plain value →
      Fields (front ++ (key ++ tchar '=' :: (value ++ [format.separator])))

/-- A value ends before a separator, at the end of the text, or before an equals sign there. -/
def EndsValue (rest : Bytes) : Prop :=
  rest = [] ∨ (∃ others, rest = format.separator :: others) ∨ rest = [tchar '=']

/-- Behind pairs there is one with a value that `unescape` throws at. -/
def RefusesValue (text : Bytes) : Prop :=
  ∃ front key value rest, text = front ++ (key ++ tchar '=' :: (value ++ rest)) ∧
    format.Fields front ∧ IsKey key ∧ format.Plain value ∧ format.EndsValue rest ∧
    format.unescape value = none

variable {format} {map : OrderedMap Bytes Bytes} {key value rest : Bytes}

/-! ### Up to a refused value -/

theorem read_separator :
    format.read (.between map) (format.separator :: rest) = format.read (.between map) rest := by
  have hnext : format.transition (.between map) format.separator = .between map := by
    simp [transition, KeyValueReading.between]
  have hcommit : format.commit (.between map) = some (.between map) := if_pos rfl
  rw [read, if_neg (by simp [KeyValueReading.between]), step, hnext, if_pos (.inl rfl), hcommit]
  rfl

theorem read_refused (hempty : format.unescape [] ≠ none) (hkey : IsKey key)
    (plain : format.Plain value) (hends : format.EndsValue rest)
    (hnone : format.unescape value = none) :
    format.read (.between map) (key ++ tchar '=' :: (value ++ rest)) = none := by
  have hvalue : value ≠ [] := by
    rintro rfl
    exact hempty hnone
  rw [read_key hkey, read_cons transition_equals (by simp) (by simp) (by simp [hvalue])]
  rcases hends with rfl | ⟨others, rfl⟩ | rfl
  · rcases List.eq_nil_or_concat value with rfl | ⟨front, c, rfl⟩
    · exact absurd rfl hvalue
    · rw [List.concat_eq_append] at plain hnone ⊢
      have hequals : c ≠ tchar '=' := fun heq => plain.1 (by simp [heq])
      have hseparator : c ≠ format.separator := fun heq => plain.2 (by simp [heq])
      have hplain : format.Plain front :=
        ⟨fun h => plain.1 (List.mem_append_left _ h), fun h => plain.2 (List.mem_append_left _ h)⟩
      have hnext : format.transition ⟨.value, key, front, map⟩ c =
          ⟨.value, key, front ++ [c], map⟩ := by
        simp [transition, hequals, hseparator]
      rw [List.append_assoc, read_value hplain (by simp), List.nil_append, List.append_nil, read,
        if_neg (by simp), step, hnext, if_pos (by simp), commit, if_neg hkey.1, hnone]
      rfl
  · have hnext : format.transition ⟨.value, key, value, map⟩ format.separator =
        ⟨.start, key, value, map⟩ := by
      simp [transition, format.separator_ne]
    rw [read_value plain (by simp), List.nil_append, read, if_neg (by simp), step, hnext,
      if_pos (by simp), commit, if_neg hkey.1, hnone]
    rfl
  · have hnext : format.transition ⟨.value, key, value, map⟩ (tchar '=') =
        ⟨.error, key, value, map⟩ := by
      simp [transition]
    rw [read_value plain (by simp), List.nil_append, read, if_neg (by simp), step, hnext,
      if_pos (by simp), commit, if_neg hkey.1, hnone]
    rfl

/-- The pairs in front are read, unless one of them is refused. -/
theorem read_fields {front : Bytes} (hempty : format.unescape [] ≠ none)
    (fields : format.Fields front) (map : OrderedMap Bytes Bytes) (rest : Bytes) :
    format.read (.between map) (front ++ rest) = none ∨
      ∃ map', format.read (.between map) (front ++ rest) = format.read (.between map') rest := by
  induction fields generalizing rest with
  | nil => exact .inr ⟨map, rfl⟩
  | separator _ ih =>
      rw [List.append_assoc, List.singleton_append]
      rcases ih (format.separator :: rest) with hnone | ⟨map', hread⟩
      · exact .inl hnone
      · exact .inr ⟨map', hread.trans read_separator⟩
  | @pair front key value _ hkey plain ih =>
      have hshape : front ++ (key ++ tchar '=' :: (value ++ [format.separator])) ++ rest =
          front ++ (key ++ tchar '=' :: (value ++ format.separator :: rest)) := by simp
      rw [hshape]
      rcases ih (key ++ tchar '=' :: (value ++ format.separator :: rest)) with hnone | ⟨map', hread⟩
      · exact .inl hnone
      · rw [hread]
        cases hvalue : format.unescape value with
        | none =>
            exact .inl (read_refused hempty hkey plain (.inr (.inl ⟨rest, rfl⟩)) hvalue)
        | some unescaped => exact .inr ⟨_, read_pair hkey plain hvalue⟩

/-! ### Without one -/

/-- Where the reader is in a text that it has not refused. -/
inductive Reached (format : KeyValueFormat) : Bytes → KeyValueReading → Prop
  | between {front : Bytes} {map : OrderedMap Bytes Bytes} : format.Fields front →
      Reached format front (.between map)
  | key {front key : Bytes} {map : OrderedMap Bytes Bytes} : format.Fields front → IsKey key →
      Reached format (front ++ key) ⟨.key, key, [], map⟩
  | value {front key value : Bytes} {map : OrderedMap Bytes Bytes} : format.Fields front →
      IsKey key → format.Plain value →
      Reached format (front ++ (key ++ tchar '=' :: value)) ⟨.value, key, value, map⟩

theorem commit_empty (hempty : format.unescape [] ≠ none) {reading : KeyValueReading}
    (hvalue : reading.value = []) : ∃ next, format.commit reading = some next := by
  rw [commit, hvalue]
  split
  · exact ⟨_, rfl⟩
  · cases hunescape : format.unescape [] with
    | none => exact absurd hunescape hempty
    | some unescaped => exact ⟨_, rfl⟩

variable {consumed : Bytes} {reading : KeyValueReading}

/-- Behind a character the reader is through with the text, or stuck in an error, or goes on. -/
def GoesOn (format : KeyValueFormat) (consumed : Bytes) (reading : KeyValueReading) (c : TChar)
    (rest : Bytes) : Prop :=
  ∃ next, format.step reading c rest.isEmpty = some next ∧
    (rest = [] ∨ next.state = .error ∨ Reached format (consumed ++ [c]) next)

/-- A character that does not end a pair, or ends the text where there is no value. -/
theorem goesOn_of_empty (hempty : format.unescape [] ≠ none) {next : KeyValueReading}
    {c : TChar} (hnext : format.transition reading c = next) (hstate : next.state ≠ .start)
    (hvalue : next.value = [])
    (hgoes : next.state = .error ∨ Reached format (consumed ++ [c]) next) :
    GoesOn format consumed reading c rest := by
  cases rest with
  | nil =>
      obtain ⟨after, hcommit⟩ := commit_empty hempty hvalue
      refine ⟨after, ?_, .inl rfl⟩
      rw [step, hnext]
      exact (if_pos (.inr rfl)).trans hcommit
  | cons d rest =>
      refine ⟨next, ?_, .inr hgoes⟩
      rw [step, hnext]
      apply if_neg
      simp [hstate]

/-- A character at which a pair ends: its value is refused or added. -/
theorem step_of_value {next : KeyValueReading} {c : TChar} {last : Bool}
    (hnext : format.transition reading c = next) (hends : next.state = .start ∨ last = true)
    (hkey : next.key ≠ []) :
    (format.unescape next.value = none ∧ format.step reading c last = none) ∨
      ∃ unescaped, format.step reading c last =
        some ⟨next.state, [], [], next.map.insertNew next.key unescaped⟩ := by
  rw [step, hnext, if_pos hends, commit, if_neg hkey]
  cases hvalue : format.unescape next.value with
  | none => exact .inl ⟨rfl, rfl⟩
  | some unescaped => exact .inr ⟨unescaped, rfl⟩

theorem goesOn_between {front : Bytes} (hempty : format.unescape [] ≠ none)
    (fields : format.Fields front) (c : TChar) :
    GoesOn format front (.between map) c rest := by
  by_cases hseparator : c = format.separator
  · have hnext : format.transition (.between map) c = .between map := by
      simp [transition, KeyValueReading.between, hseparator]
    have hcommit : format.commit (.between map) = some (.between map) := if_pos rfl
    refine ⟨.between map, ?_, .inr (.inr ?_)⟩
    · rw [step, hnext, if_pos (.inl rfl), hcommit]
    · rw [hseparator]
      exact .between fields.separator
  · by_cases halnum : isAlnum c = true
    · have hnext : format.transition (.between map) c = ⟨.key, [c], [], map⟩ := by
        simp [transition, KeyValueReading.between, hseparator, halnum]
      apply goesOn_of_empty hempty hnext (by simp) rfl
      exact .inr (.key fields ⟨by simp, by simpa using halnum⟩)
    · have hnext : format.transition (.between map) c = ⟨.error, [], [], map⟩ := by
        simp [transition, KeyValueReading.between, hseparator, halnum]
      exact goesOn_of_empty hempty hnext (by simp) rfl (.inl rfl)

theorem goesOn_key {front : Bytes} (hempty : format.unescape [] ≠ none)
    (fields : format.Fields front) (hkey : IsKey key) (c : TChar) :
    GoesOn format (front ++ key) ⟨.key, key, [], map⟩ c rest := by
  by_cases halnum : isAlnum c = true
  · have hnext : format.transition ⟨.key, key, [], map⟩ c = ⟨.key, key ++ [c], [], map⟩ := by
      simp [transition, halnum]
    have hkey' : IsKey (key ++ [c]) := by
      refine ⟨by simp, fun d hd => ?_⟩
      rcases List.mem_append.mp hd with hbefore | hlast
      · exact hkey.2 d hbefore
      · rw [List.mem_singleton.mp hlast]
        exact halnum
    apply goesOn_of_empty hempty hnext (by simp) rfl
    rw [List.append_assoc]
    exact .inr (.key fields hkey')
  · by_cases hequals : c = tchar '='
    · have hnext : format.transition ⟨.key, key, [], map⟩ c = ⟨.value, key, [], map⟩ := by
        rw [hequals, transition_equals]
      apply goesOn_of_empty hempty hnext (by simp) rfl
      rw [List.append_assoc, hequals]
      exact .inr (.value fields hkey ⟨by simp, by simp⟩)
    · have hnext : format.transition ⟨.key, key, [], map⟩ c = ⟨.error, key, [], map⟩ := by
        simp [transition, halnum, hequals]
      exact goesOn_of_empty hempty hnext (by simp) rfl (.inl rfl)

/-- The last character of the text behind a part of a value. -/
theorem step_last {next : KeyValueReading} {c : TChar}
    (hnext : format.transition reading c = next) (hkey : next.key ≠ [])
    (hrefused : format.unescape next.value = none → format.RefusesValue (consumed ++ [c])) :
    (format.step reading c true = none ∧ format.RefusesValue (consumed ++ [c])) ∨
      GoesOn format consumed reading c [] := by
  rcases step_of_value hnext (.inr rfl) hkey with ⟨hvalue, hnone⟩ | ⟨unescaped, hsome⟩
  · exact .inl ⟨hnone, hrefused hvalue⟩
  · exact .inr ⟨_, hsome, .inl rfl⟩

/-- A character behind a part of a value. -/
theorem step_value {front : Bytes} (fields : format.Fields front) (hkey : IsKey key)
    (plain : format.Plain value) (c : TChar) :
    (format.step ⟨.value, key, value, map⟩ c rest.isEmpty = none ∧
        format.RefusesValue (front ++ (key ++ tchar '=' :: value) ++ c :: rest)) ∨
      GoesOn format (front ++ (key ++ tchar '=' :: value)) ⟨.value, key, value, map⟩ c rest := by
  by_cases hseparator : c = format.separator
  · have hnext : format.transition ⟨.value, key, value, map⟩ c = ⟨.start, key, value, map⟩ := by
      simp [transition, hseparator, format.separator_ne]
    rcases @step_of_value _ _ _ c rest.isEmpty hnext (.inl rfl) hkey.1 with
      ⟨hvalue, hnone⟩ | ⟨unescaped, hsome⟩
    · refine .inl ⟨hnone, front, key, value, c :: rest, by simp, fields, hkey, plain, ?_, hvalue⟩
      exact .inr (.inl ⟨rest, by rw [hseparator]⟩)
    · refine .inr ⟨_, hsome, .inr (.inr ?_)⟩
      have hshape : front ++ (key ++ tchar '=' :: value) ++ [c] =
          front ++ (key ++ tchar '=' :: (value ++ [format.separator])) := by simp [hseparator]
      rw [hshape]
      exact .between (.pair fields hkey plain)
  · by_cases hequals : c = tchar '='
    · have hnext : format.transition ⟨.value, key, value, map⟩ c = ⟨.error, key, value, map⟩ := by
        simp [transition, hequals]
      cases rest with
      | nil =>
          apply step_last hnext hkey.1
          intro hvalue
          refine ⟨front, key, value, [c], by simp, fields, hkey, plain, ?_, hvalue⟩
          exact .inr (.inr (by rw [hequals]))
      | cons d rest =>
          refine .inr ⟨⟨.error, key, value, map⟩, ?_, .inr (.inl rfl)⟩
          rw [step, hnext]
          exact if_neg (by simp)
    · have hnext : format.transition ⟨.value, key, value, map⟩ c =
          ⟨.value, key, value ++ [c], map⟩ := by
        simp [transition, hequals, hseparator]
      have hplain : format.Plain (value ++ [c]) := by
        refine ⟨fun hmem => ?_, fun hmem => ?_⟩
        · rcases List.mem_append.mp hmem with hbefore | hlast
          · exact plain.1 hbefore
          · exact hequals (List.mem_singleton.mp hlast).symm
        · rcases List.mem_append.mp hmem with hbefore | hlast
          · exact plain.2 hbefore
          · exact hseparator (List.mem_singleton.mp hlast).symm
      cases rest with
      | nil =>
          apply step_last hnext hkey.1
          intro hvalue
          exact ⟨front, key, value ++ [c], [], by simp, fields, hkey, hplain, .inl rfl, hvalue⟩
      | cons d rest =>
          refine .inr ⟨⟨.value, key, value ++ [c], map⟩, ?_, .inr (.inr ?_)⟩
          · rw [step, hnext]
            exact if_neg (by simp)
          · have hshape : front ++ (key ++ tchar '=' :: value) ++ [c] =
                front ++ (key ++ tchar '=' :: (value ++ [c])) := by simp
            rw [hshape]
            exact .value fields hkey hplain

/-- A character, at which the reader refuses a value or goes on. -/
theorem step_reached (hempty : format.unescape [] ≠ none)
    (reached : Reached format consumed reading) (c : TChar) (rest : Bytes) :
    (format.step reading c rest.isEmpty = none ∧ format.RefusesValue (consumed ++ c :: rest)) ∨
      GoesOn format consumed reading c rest := by
  cases reached with
  | between fields => exact .inr (goesOn_between hempty fields c)
  | key fields hkey => exact .inr (goesOn_key hempty fields hkey c)
  | value fields hkey plain => exact step_value fields hkey plain c

theorem refused_of_read (hempty : format.unescape [] ≠ none) (text : Bytes)
    (reached : Reached format consumed reading) (hnone : format.read reading text = none) :
    format.RefusesValue (consumed ++ text) := by
  induction text generalizing consumed reading with
  | nil => cases hnone
  | cons c text ih =>
      have hgoing : reading.state ≠ .error := by
        cases reached <;> simp [KeyValueReading.between]
      rw [read, if_neg hgoing] at hnone
      rcases step_reached hempty reached c text with ⟨_, hrefused⟩ | ⟨next, hstep, hnext⟩
      · exact hrefused
      · rw [hstep, Option.bind_some] at hnone
        rcases hnext with rfl | herror | hreached
        · cases hnone
        · cases text with
          | nil => cases hnone
          | cons d text =>
              rw [read, if_pos herror] at hnone
              cases hnone
        · have hrefused := ih hreached hnone
          rw [List.append_assoc] at hrefused
          exact hrefused

/-- Reading throws exactly at a text with a value that cannot be unescaped. -/
theorem read_eq_none_iff (hempty : format.unescape [] ≠ none) (text : Bytes) :
    format.read (.between map) text = none ↔ format.RefusesValue text := by
  constructor
  · intro hnone
    exact refused_of_read hempty text (.between .nil) hnone
  · rintro ⟨front, key, value, rest, rfl, fields, hkey, plain, hends, hnone⟩
    rcases read_fields hempty fields map (key ++ tchar '=' :: (value ++ rest)) with
      hthrown | ⟨map', hread⟩
    · exact hthrown
    · rw [hread]
      exact read_refused hempty hkey plain hends hnone

/-! ### The pairs of a text -/

/-- The loop of a reader that hands on one pair after the other: the pairs up to the end of the
text, or up to a value that is refused. -/
def readPairs (format : KeyValueFormat) (reading : KeyValueReading)
    (pairs : List (Bytes × Bytes)) : Bytes → Except (List (Bytes × Bytes)) (List (Bytes × Bytes))
  | [] => .ok pairs
  | character :: rest =>
      if reading.state = .error then .ok pairs
      else
        let next := format.transition reading character
        if (next.state = .start ∨ rest.isEmpty) ∧ next.key ≠ [] then
          match format.unescape next.value with
          | none => .error pairs
          | some unescapedValue =>
              readPairs format { next with key := [], value := [] }
                (pairs ++ [(next.key, unescapedValue)]) rest
        else readPairs format next pairs rest

theorem transition_map (reading : KeyValueReading) (c : TChar) (map : OrderedMap Bytes Bytes) :
    format.transition { reading with map := map } c =
      { format.transition reading c with map := map } := by
  obtain ⟨state, key, value, other⟩ := reading
  cases state with
  | start =>
      dsimp only [transition]
      split_ifs <;> rfl
  | key =>
      dsimp only [transition]
      split_ifs <;> rfl
  | value =>
      dsimp only [transition]
      split_ifs <;> rfl
  | error => rfl

/-- The two loops throw at the same texts. -/
theorem readPairs_error_iff (text : Bytes) (reading : KeyValueReading)
    (pairs : List (Bytes × Bytes)) (map : OrderedMap Bytes Bytes) :
    (∃ before, format.readPairs reading pairs text = .error before) ↔
      format.read { reading with map := map } text = none := by
  induction text generalizing reading pairs map with
  | nil =>
      constructor
      · intro herror
        rcases herror with ⟨before, heq⟩
        cases heq
      · intro hnone
        cases hnone
  | cons c text ih =>
      rw [readPairs, read]
      by_cases herror : reading.state = .error
      · rw [if_pos herror, if_pos herror]
        constructor
        · intro hthrown
          rcases hthrown with ⟨before, heq⟩
          cases heq
        · intro hnone
          cases hnone
      · rw [if_neg herror, if_neg herror, step, transition_map reading c map]
        dsimp only
        by_cases hends : (format.transition reading c).state = .start ∨ text.isEmpty = true
        · rw [if_pos hends]
          by_cases hkey : (format.transition reading c).key = []
          · rw [if_neg fun h => h.2 hkey, commit, if_pos hkey]
            exact ih (format.transition reading c) pairs map
          · rw [if_pos ⟨hends, hkey⟩, commit, if_neg hkey]
            cases hvalue : format.unescape (format.transition reading c).value with
            | none => exact ⟨fun _ => rfl, fun _ => ⟨pairs, rfl⟩⟩
            | some unescaped => exact ih _ _ _
        · rw [if_neg hends, if_neg fun h => hends h.1]
          exact ih (format.transition reading c) pairs map

end KeyValueFormat

namespace Url

/-! ### Percent escapes -/

/-- A text whose percent escapes are whole. -/
inductive Escaped : Bytes → Prop
  | nil : Escaped []
  | char {c : TChar} {rest : Bytes} : c ≠ tchar '%' → Escaped rest → Escaped (c :: rest)
  | percent {rest : Bytes} : Escaped rest → Escaped (tchar '%' :: tchar '%' :: rest)
  | code {d e : TChar} {rest : Bytes} : d ≠ tchar '%' → Escaped rest →
      Escaped (tchar '%' :: d :: e :: rest)

theorem percent_ne_plus : tchar '%' ≠ tchar '+' := by decide

theorem unEscapeUrl_char {c : TChar} (hpercent : c ≠ tchar '%') (rest : Bytes) :
    ∃ d, unEscapeUrl (c :: rest) = (unEscapeUrl rest).map (d :: ·) := by
  by_cases hplus : c = tchar '+'
  · refine ⟨tchar ' ', ?_⟩
    rw [unEscapeUrl.eq_def]
    exact if_pos hplus
  · refine ⟨c, ?_⟩
    rw [unEscapeUrl.eq_def]
    exact (if_neg hplus).trans (if_neg hpercent)

theorem unEscapeUrl_percent (rest : Bytes) :
    unEscapeUrl (tchar '%' :: tchar '%' :: rest) = (unEscapeUrl rest).map (tchar '%' :: ·) := by
  rw [unEscapeUrl.eq_def]
  exact (if_neg percent_ne_plus).trans ((if_pos rfl).trans (if_pos rfl))

theorem unEscapeUrl_code {d : TChar} (hpercent : d ≠ tchar '%') (e : TChar) (rest : Bytes) :
    unEscapeUrl (tchar '%' :: d :: e :: rest) =
      (unEscapeUrl rest).map (toTChar (strtolHex [d, e]) :: ·) := by
  rw [unEscapeUrl.eq_def]
  exact (if_neg percent_ne_plus).trans ((if_pos rfl).trans (if_neg hpercent))

theorem unEscapeUrl_of_escaped {text : Bytes} (escaped : Escaped text) :
    ∃ unescaped, unEscapeUrl text = some unescaped := by
  induction escaped with
  | nil => exact ⟨[], rfl⟩
  | @char c rest hpercent _ ih =>
      obtain ⟨unescaped, hrest⟩ := ih
      obtain ⟨d, hread⟩ := unEscapeUrl_char hpercent rest
      exact ⟨d :: unescaped, by rw [hread, hrest, Option.map_some]⟩
  | @percent rest _ ih =>
      obtain ⟨unescaped, hrest⟩ := ih
      exact ⟨_, by rw [unEscapeUrl_percent, hrest, Option.map_some]⟩
  | @code d e rest hpercent _ ih =>
      obtain ⟨unescaped, hrest⟩ := ih
      exact ⟨_, by rw [unEscapeUrl_code hpercent, hrest, Option.map_some]⟩

theorem escaped_of_unEscapeUrl (text : Bytes) (hread : unEscapeUrl text ≠ none) :
    Escaped text := by
  induction text using unEscapeUrl.induct with
  | case1 => exact .nil
  | case2 rest ih =>
      obtain ⟨d, hmap⟩ := unEscapeUrl_char percent_ne_plus.symm rest
      rw [hmap, ne_eq, Option.map_eq_none_iff] at hread
      exact .char percent_ne_plus.symm (ih hread)
  | case3 => exact absurd rfl hread
  | case4 rest _ ih =>
      rw [unEscapeUrl_percent, ne_eq, Option.map_eq_none_iff] at hread
      exact .percent (ih hread)
  | case5 d hpercent _ =>
      have hcut : unEscapeUrl [tchar '%', d] = none :=
        (if_neg percent_ne_plus).trans ((if_pos rfl).trans (if_neg hpercent))
      exact absurd hcut hread
  | case6 d hpercent e rest _ ih =>
      rw [unEscapeUrl_code hpercent, ne_eq, Option.map_eq_none_iff] at hread
      exact .code hpercent (ih hread)
  | case7 c rest _ hpercent ih =>
      obtain ⟨d, hmap⟩ := unEscapeUrl_char hpercent rest
      rw [hmap, ne_eq, Option.map_eq_none_iff] at hread
      exact .char hpercent (ih hread)

/-- `UnEscapeUrl` throws exactly when the text ends in the middle of an escape. -/
theorem unEscapeUrl_eq_none_iff (text : Bytes) : unEscapeUrl text = none ↔ ¬ Escaped text := by
  constructor
  · intro hnone escaped
    obtain ⟨unescaped, hsome⟩ := unEscapeUrl_of_escaped escaped
    rw [hnone] at hsome
    cases hsome
  · intro hcut
    by_contra hread
    exact hcut (escaped_of_unEscapeUrl text hread)

/-- Behind pairs there is one with a value that ends in the middle of an escape. -/
def CutsEscape (text : Bytes) : Prop :=
  ∃ front key value rest, text = front ++ (key ++ tchar '=' :: (value ++ rest)) ∧
    format.Fields front ∧ KeyValueFormat.IsKey key ∧ format.Plain value ∧
    format.EndsValue rest ∧ ¬ Escaped value

theorem refusesValue_iff (text : Bytes) : format.RefusesValue text ↔ CutsEscape text := by
  have hvalue (value : Bytes) : format.unescape value = none ↔ ¬ Escaped value :=
    unEscapeUrl_eq_none_iff value
  simp only [KeyValueFormat.RefusesValue, CutsEscape, hvalue]

/-! ### The readers -/

/-- What a caller of `UrlSerializer::DeSerialize` meets. -/
inductive Outcome
  | completed
  | thrown (text : Bytes)
  /-- `std::out_of_range`, which `GetAt` throws. -/
  | outOfRange
  deriving DecidableEq

/-- `UrlSerializer::DeSerialize`: `define` is what the object does with the map, in its `Define`
and its `Validate`, and the text that they throw if they do. -/
def deSerializeObject (define : OrderedMap Bytes Bytes → Option Bytes) (input : Bytes) :
    Outcome :=
  match deSerialize input with
  | none => .outOfRange
  | some map =>
      match define map with
      | none => .completed
      | some text => .thrown text

theorem deSerializeObject_outOfRange_iff (define : OrderedMap Bytes Bytes → Option Bytes)
    (input : Bytes) :
    deSerializeObject define input = .outOfRange ↔ CutsEscape (trimBytes input) := by
  have hempty : format.unescape [] ≠ none := by decide
  rw [← refusesValue_iff, ← KeyValueFormat.read_eq_none_iff hempty, deSerializeObject, deSerialize,
    KeyValueFormat.deSerialize]
  cases hread : format.read (.between .empty) (trimBytes input) with
  | none => exact ⟨fun _ => rfl, fun _ => rfl⟩
  | some reading =>
      rw [Option.map_some]
      dsimp only
      split
      · simp
      · simp

end Url

end OrkAudio.Serializer
