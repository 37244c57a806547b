import OrkAudio.SipNotify.Model

/-! What of a NOTIFY is read while its display line is looked for, and which entries of the table
of parties on hold are used. -/

namespace OrkAudio.SipNotify

open Lib

variable {toFind other payload : Bytes} {place left start p q : Nat}

/-! ### Searching -/

theorem readPayload_eq {c : UInt8} (hc : payload[place]? = some c) :
    readPayload payload place = .ok c := by
  rw [readPayload, hc]

theorem readPayload_outside (hplace : payload.length ≤ place) :
    readPayload payload place = .error .outside := by
  rw [readPayload, List.getElem?_eq_none hplace]

theorem drop_eq_cons (hplace : place < payload.length) :
    ∃ c, payload[place]? = some c ∧ payload.drop place = c :: payload.drop (place + 1) :=
  ⟨payload[place], List.getElem?_eq_getElem hplace, List.drop_eq_getElem_cons hplace⟩

/-- What there is of the payload from a place on is the beginning of the text, whose rest would
lie behind the end. -/
structure CutAt (toFind payload : Bytes) (place : Nat) : Prop where
  lt : place < payload.length
  long : payload.length < place + toFind.length
  starts : startsWithNoCase (toFind.take (payload.length - place)) (payload.drop place) = true

theorem take_succ_sub {c : UInt8} (hplace : place < payload.length) :
    (c :: toFind).take (payload.length - place) =
      c :: toFind.take (payload.length - (place + 1)) := by
  have hsucc : payload.length - place = payload.length - (place + 1) + 1 := by omega
  rw [hsucc, List.take_succ_cons]

theorem sameNoCase_eq (hplace : place ≤ payload.length)
    (hwhole : place + toFind.length ≤ payload.length ∨
      startsWithNoCase (toFind.take (payload.length - place)) (payload.drop place) = false) :
    sameNoCase (readPayload payload) toFind place =
      .ok (startsWithNoCase toFind (payload.drop place)) := by
  induction toFind generalizing place with
  | nil => rfl
  | cons c toFind ih =>
      rcases Nat.lt_or_eq_of_le hplace with hlt | rfl
      · obtain ⟨d, hd, hdrop⟩ := drop_eq_cons hlt
        rw [take_succ_sub hlt, hdrop] at hwhole
        rw [sameNoCase, readPayload_eq hd, hdrop]
        simp only [bind, Except.bind, startsWithNoCase, List.length_cons] at hwhole ⊢
        by_cases hsame : toLower c = toLower d
        · rw [if_pos hsame]
          simp only [hsame, beq_self_eq_true, Bool.true_and] at hwhole ⊢
          apply ih hlt
          rcases hwhole with hfits | hdiffers
          · exact Or.inl (by omega)
          · exact Or.inr hdiffers
        · rw [if_neg hsame, beq_false_of_ne hsame, Bool.false_and]
      · rcases hwhole with hfits | hdiffers
        · simp at hfits
        · simp [startsWithNoCase] at hdiffers

theorem sameNoCase_cut (hplace : place ≤ payload.length)
    (hlong : payload.length < place + toFind.length)
    (hstarts : startsWithNoCase (toFind.take (payload.length - place)) (payload.drop place) =
      true) :
    sameNoCase (readPayload payload) toFind place = .error .outside := by
  induction toFind generalizing place with
  | nil =>
      rw [List.length_nil] at hlong
      omega
  | cons c toFind ih =>
      rcases Nat.lt_or_eq_of_le hplace with hlt | rfl
      · obtain ⟨d, hd, hdrop⟩ := drop_eq_cons hlt
        rw [take_succ_sub hlt, hdrop, startsWithNoCase, Bool.and_eq_true, beq_iff_eq] at hstarts
        rw [List.length_cons] at hlong
        rw [sameNoCase, readPayload_eq hd]
        simp only [bind, Except.bind, if_pos hstarts.1]
        exact ih hlt (by omega) hstarts.2
      · rw [sameNoCase, readPayload_outside le_rfl]
        rfl

/-- A place at which the text can be looked for. -/
theorem isCandidate_eq {c : UInt8} (hc : payload[place]? = some c) :
    isCandidate (readPayload payload) toFind place =
      .ok (decide (place = 0) || toLower (toFind.headD 0) == toLower c) := by
  unfold isCandidate
  by_cases hzero : place = 0
  · rw [if_pos hzero, decide_eq_true hzero, Bool.true_or]
  · rw [if_neg hzero, readPayload_eq hc, decide_eq_false hzero, Bool.false_or]
    rfl

section

variable (hempty : toFind = [] → place = 0) (hplace : place < payload.length)

include hempty hplace

/-- Places that are left out are not those of the text or of its beginning. -/
theorem differs_of_not_candidate {c : UInt8} (hc : payload[place]? = some c)
    (hcandidate : (decide (place = 0) || toLower (toFind.headD 0) == toLower c) = false) :
    startsWithNoCase toFind (payload.drop place) = false ∧
      startsWithNoCase (toFind.take (payload.length - place)) (payload.drop place) = false := by
  rw [Bool.or_eq_false_iff, decide_eq_false_iff_not] at hcandidate
  obtain ⟨d, hd, hdrop⟩ := drop_eq_cons hplace
  obtain rfl := Option.some.inj (hd.symm.trans hc)
  cases toFind with
  | nil => exact absurd (hempty rfl) hcandidate.1
  | cons e toFind =>
      have hdiffers : (toLower e == toLower d) = false := hcandidate.2
      rw [take_succ_sub hplace, hdrop]
      simp only [startsWithNoCase, hdiffers, Bool.false_and, and_self]

theorem memFindFrom_cut (hcut : CutAt toFind payload place) :
    memFindFrom (readPayload payload) toFind (left + 1) place = .error .outside := by
  obtain ⟨c, hc, -⟩ := drop_eq_cons hplace
  have hcandidate : (decide (place = 0) || toLower (toFind.headD 0) == toLower c) = true := by
    by_contra hleft
    have hdiffers := differs_of_not_candidate hempty hplace hc (Bool.eq_false_iff.mpr hleft)
    rw [hcut.starts] at hdiffers
    exact Bool.noConfusion hdiffers.2
  rw [memFindFrom, isCandidate_eq hc, hcandidate]
  simp only [bind, Except.bind, if_true, sameNoCase_cut hplace.le hcut.long hcut.starts]

theorem memFindFrom_whole (hwhole : ¬CutAt toFind payload place) :
    memFindFrom (readPayload payload) toFind (left + 1) place =
      if startsWithNoCase toFind (payload.drop place) then .ok (some (place + toFind.length))
      else memFindFrom (readPayload payload) toFind left (place + 1) := by
  obtain ⟨c, hc, -⟩ := drop_eq_cons hplace
  rw [memFindFrom, isCandidate_eq hc]
  simp only [bind, Except.bind]
  by_cases hcandidate : (decide (place = 0) || toLower (toFind.headD 0) == toLower c) = true
  · have hread : place + toFind.length ≤ payload.length ∨
        startsWithNoCase (toFind.take (payload.length - place)) (payload.drop place) = false := by
      by_contra h
      rw [not_or, not_le, Bool.not_eq_false] at h
      exact hwhole ⟨hplace, h.1, h.2⟩
    rw [if_pos hcandidate, sameNoCase_eq hplace.le hread]
  · have hdiffers := differs_of_not_candidate hempty hplace hc (Bool.eq_false_iff.mpr hcandidate)
    rw [if_neg hcandidate, hdiffers.1]
    rfl

end

/-- The text is at none of these places. -/
def Unmatched (toFind payload : Bytes) (start stop : Nat) : Prop :=
  ∀ place, start ≤ place → place < stop → startsWithNoCase toFind (payload.drop place) = false

/-- The first place from `start` on at which the text stands. -/
structure MatchFrom (toFind payload : Bytes) (start place : Nat) : Prop where
  le : start ≤ place
  lt : place < payload.length
  starts : startsWithNoCase toFind (payload.drop place) = true
  first : Unmatched toFind payload start place

/-- The end of the payload cuts the text off, and it does not stand before that. -/
def CutFrom (toFind payload : Bytes) (start : Nat) : Prop :=
  ∃ place, start ≤ place ∧ CutAt toFind payload place ∧ Unmatched toFind payload start place

theorem unmatched_self (toFind payload : Bytes) (place : Nat) :
    Unmatched toFind payload place place := by
  intro other hle hlt
  omega

theorem unmatched_succ (hdiffers : startsWithNoCase toFind (payload.drop start) = false)
    {stop : Nat} :
    Unmatched toFind payload start stop ↔ Unmatched toFind payload (start + 1) stop := by
  constructor
  · intro h place hle
    exact h place (by omega)
  · intro h place hle
    rcases Nat.lt_or_eq_of_le hle with hsucc | rfl
    · exact h place hsucc
    · intro _
      exact hdiffers

theorem cutFrom_succ (hdiffers : startsWithNoCase toFind (payload.drop start) = false)
    (hwhole : ¬CutAt toFind payload start) :
    CutFrom toFind payload start ↔ CutFrom toFind payload (start + 1) := by
  constructor
  · rintro ⟨place, hle, hcut, hbefore⟩
    rcases Nat.lt_or_eq_of_le hle with hlt | rfl
    · exact ⟨place, hlt, hcut, (unmatched_succ hdiffers).mp hbefore⟩
    · exact absurd hcut hwhole
  · rintro ⟨place, hle, hcut, hbefore⟩
    exact ⟨place, by omega, hcut, (unmatched_succ hdiffers).mpr hbefore⟩

theorem matchFrom_succ (hdiffers : startsWithNoCase toFind (payload.drop start) = false) :
    MatchFrom toFind payload start place ↔ MatchFrom toFind payload (start + 1) place := by
  constructor
  · rintro ⟨hle, hlt, hstarts, hfirst⟩
    rcases Nat.lt_or_eq_of_le hle with hsucc | rfl
    · exact ⟨hsucc, hlt, hstarts, (unmatched_succ hdiffers).mp hfirst⟩
    · exact absurd hstarts (Bool.eq_false_iff.mp hdiffers)
  · rintro ⟨hle, hlt, hstarts, hfirst⟩
    exact ⟨by omega, hlt, hstarts, (unmatched_succ hdiffers).mpr hfirst⟩

theorem MatchFrom.not_cutFrom (here : MatchFrom toFind payload start start)
    (hwhole : ¬CutAt toFind payload start) : ¬CutFrom toFind payload start := by
  rintro ⟨place, hle, hcut, hbefore⟩
  rcases Nat.lt_or_eq_of_le hle with hlt | rfl
  · exact absurd here.starts (Bool.eq_false_iff.mp (hbefore start le_rfl hlt))
  · exact hwhole hcut

theorem memFindFrom_succeeds_iff (hempty : toFind = [] → start = 0)
    (hleft : start + left = payload.length) :
    Succeeds (memFindFrom (readPayload payload) toFind left start) ↔
      ¬CutFrom toFind payload start := by
  induction left generalizing start with
  | zero =>
      apply iff_of_true (succeeds_ok _)
      rintro ⟨place, hle, hcut, -⟩
      have hlt := hcut.lt
      omega
  | succ left ih =>
      have hplace : start < payload.length := by omega
      by_cases hcut : CutAt toFind payload start
      · rw [memFindFrom_cut hempty hplace hcut]
        apply iff_of_false (not_succeeds_error _)
        rw [not_not]
        exact ⟨start, le_rfl, hcut, unmatched_self _ _ _⟩
      · rw [memFindFrom_whole hempty hplace hcut]
        by_cases hhere : startsWithNoCase toFind (payload.drop start) = true
        · rw [if_pos hhere]
          apply iff_of_true (succeeds_ok _)
          exact MatchFrom.not_cutFrom ⟨le_rfl, hplace, hhere, unmatched_self _ _ _⟩ hcut
        · have hdiffers := Bool.eq_false_iff.mpr hhere
          have hfound : toFind ≠ [] := by
            rintro rfl
            exact hhere rfl
          rw [if_neg hhere, cutFrom_succ hdiffers hcut]
          exact ih (fun h => absurd h hfound) (by omega)

theorem memFindFrom_eq_some_iff {found : Option Nat} (hempty : toFind = [] → start = 0)
    (hleft : start + left = payload.length)
    (hfound : memFindFrom (readPayload payload) toFind left start = .ok found) (p : Nat) :
    found = some p ↔ ∃ q, MatchFrom toFind payload start q ∧ p = q + toFind.length := by
  induction left generalizing start with
  | zero =>
      obtain rfl := Except.ok.inj hfound
      apply iff_of_false
      · intro h
        cases h
      · rintro ⟨q, first, -⟩
        have hle := first.le
        have hlt := first.lt
        omega
  | succ left ih =>
      have hplace : start < payload.length := by omega
      by_cases hcut : CutAt toFind payload start
      · rw [memFindFrom_cut hempty hplace hcut] at hfound
        cases hfound
      · rw [memFindFrom_whole hempty hplace hcut] at hfound
        by_cases hhere : startsWithNoCase toFind (payload.drop start) = true
        · rw [if_pos hhere] at hfound
          obtain rfl := Except.ok.inj hfound
          rw [Option.some_inj]
          constructor
          · rintro rfl
            exact ⟨start, ⟨le_rfl, hplace, hhere, unmatched_self _ _ _⟩, rfl⟩
          · rintro ⟨q, first, rfl⟩
            rcases Nat.lt_or_eq_of_le first.le with hlt | rfl
            · exact absurd hhere (Bool.eq_false_iff.mp (first.first start le_rfl hlt))
            · rfl
        · have hdiffers := Bool.eq_false_iff.mpr hhere
          have hnonempty : toFind ≠ [] := by
            rintro rfl
            exact hhere rfl
          rw [if_neg hhere] at hfound
          rw [ih (fun h => absurd h hnonempty) (by omega) hfound]
          simp only [matchFrom_succ hdiffers]

/-! #### The whole payload -/

/-- The text is found at this place. -/
def FirstMatch (toFind payload : Bytes) (place : Nat) : Prop := MatchFrom toFind payload 0 place

/-- The payload ends within the text before it is found. -/
def CutOff (toFind payload : Bytes) : Prop := CutFrom toFind payload 0

theorem memFindAfter_succeeds_iff (toFind payload : Bytes) :
    Succeeds (memFindAfter (readPayload payload) toFind payload.length) ↔
      ¬CutOff toFind payload :=
  memFindFrom_succeeds_iff (fun _ => rfl) (Nat.zero_add _)

theorem memFindAfter_eq_some_iff {found : Option Nat}
    (hfound : memFindAfter (readPayload payload) toFind payload.length = .ok found) (p : Nat) :
    found = some p ↔ ∃ q, FirstMatch toFind payload q ∧ p = q + toFind.length :=
  memFindFrom_eq_some_iff (fun _ => rfl) (Nat.zero_add _) hfound p

/-- The place behind the first text that is found of the two. -/
def Behind (toFind other payload : Bytes) (place : Nat) : Prop :=
  (∃ q, FirstMatch toFind payload q ∧ place = q + toFind.length) ∨
    ((∀ q, ¬FirstMatch toFind payload q) ∧
      ∃ q, FirstMatch other payload q ∧ place = q + other.length)

theorem memFindEither_succeeds_iff (toFind other payload : Bytes) :
    Succeeds (memFindEither (readPayload payload) toFind other payload.length) ↔
      ¬CutOff toFind payload ∧
        ((∀ q, ¬FirstMatch toFind payload q) → ¬CutOff other payload) := by
  rw [memFindEither, succeeds_bind, ← memFindAfter_succeeds_iff, ← memFindAfter_succeeds_iff]
  constructor
  · rintro ⟨found, hfound, hrest⟩
    refine ⟨⟨found, hfound⟩, ?_⟩
    intro hnone
    cases found with
    | none => exact hrest
    | some p =>
        obtain ⟨q, hq, -⟩ := (memFindAfter_eq_some_iff hfound p).mp rfl
        exact absurd hq (hnone q)
  · rintro ⟨⟨found, hfound⟩, hother⟩
    refine ⟨found, hfound, ?_⟩
    cases found with
    | some p => exact succeeds_ok _
    | none =>
        apply hother
        intro q hq
        cases (memFindAfter_eq_some_iff hfound (q + toFind.length)).mpr ⟨q, hq, rfl⟩

theorem memFindEither_eq_some_iff {found : Option Nat}
    (hfound : memFindEither (readPayload payload) toFind other payload.length = .ok found)
    (p : Nat) : found = some p ↔ Behind toFind other payload p := by
  obtain ⟨first, hfirst, hrest⟩ := bind_eq_ok.mp hfound
  have hiff := memFindAfter_eq_some_iff hfirst
  cases first with
  | some place =>
      obtain rfl := Except.ok.inj hrest
      obtain ⟨q, hq, -⟩ := (hiff place).mp rfl
      rw [hiff p, Behind]
      constructor
      · exact Or.inl
      · intro h
        exact h.resolve_right fun hnone => hnone.1 q hq
  | none =>
      have hnone : ∀ q, ¬FirstMatch toFind payload q := by
        intro q hq
        cases (hiff (q + toFind.length)).mpr ⟨q, hq, rfl⟩
      rw [memFindAfter_eq_some_iff hrest p, Behind]
      constructor
      · intro h
        exact Or.inr ⟨hnone, h⟩
      · rintro (⟨q, hq, -⟩ | h)
        · exact absurd hq (hnone q)
        · exact h.2

/-! ### Tokens -/

/-- Behind the spaces there is an end to the token before the end of the payload. -/
def TokenEnds (payload : Bytes) (place : Nat) : Prop :=
  ∃ c ∈ (payload.drop place).dropWhile (· == 0x20), isTokenEnd c = true

theorem skipSpaces_eq (hleft : left = payload.length - place) {rest : Bytes}
    (hrest : (payload.drop place).dropWhile (· == 0x20) = rest) :
    (rest = [] ∧ skipSpaces (readPayload payload) left place = .error .outside) ∨
      ∃ start, start ≤ payload.length ∧
        skipSpaces (readPayload payload) left place = .ok start ∧ payload.drop start = rest := by
  induction left generalizing place with
  | zero =>
      apply Or.inl
      have hnil : payload.drop place = [] := List.drop_eq_nil_of_le (by omega)
      rw [hnil] at hrest
      rw [skipSpaces, readPayload_outside (by omega)]
      exact ⟨hrest.symm, rfl⟩
  | succ left ih =>
      have hplace : place < payload.length := by omega
      obtain ⟨c, hc, hdrop⟩ := drop_eq_cons hplace
      rw [skipSpaces, readPayload_eq hc]
      simp only [bind, Except.bind]
      rw [hdrop, List.dropWhile_cons] at hrest
      by_cases hspace : c = 0x20
      · rw [if_pos hspace]
        rw [if_pos (beq_iff_eq.mpr hspace)] at hrest
        exact ih (by omega) hrest
      · rw [if_neg hspace]
        rw [if_neg (by rw [beq_iff_eq]; exact hspace), ← hdrop] at hrest
        exact Or.inr ⟨place, hplace.le, rfl, hrest⟩

theorem grabToken_succeeds_iff (hleft : left = payload.length - place) :
    Succeeds (grabToken (readPayload payload) left place) ↔
      ∃ c ∈ payload.drop place, isTokenEnd c = true := by
  induction left generalizing place with
  | zero =>
      have hnil : payload.drop place = [] := List.drop_eq_nil_of_le (by omega)
      rw [grabToken, readPayload_outside (by omega), hnil]
      apply iff_of_false (not_succeeds_error _)
      rintro ⟨c, hc, -⟩
      cases hc
  | succ left ih =>
      obtain ⟨c, hc, hdrop⟩ := @drop_eq_cons payload place (by omega)
      rw [grabToken, readPayload_eq hc, hdrop, List.exists_mem_cons_iff]
      simp only [bind, Except.bind]
      by_cases hend : isTokenEnd c = true
      · rw [if_pos hend]
        exact iff_of_true (succeeds_ok _) (Or.inl hend)
      · rw [if_neg hend, or_iff_right hend, ← ih (by omega)]
        constructor
        · intro h
          obtain ⟨token, htoken⟩ := h
          obtain ⟨rest, hrest, -⟩ := bind_eq_ok.mp htoken
          exact ⟨rest, hrest⟩
        · rintro ⟨rest, hrest⟩
          exact succeeds_bind.mpr ⟨rest, hrest, succeeds_ok _⟩

theorem token_succeeds_iff (payload : Bytes) (place : Nat) :
    Succeeds (grabTokenSkipLeadingWhitespaces (readPayload payload) place payload.length) ↔
      TokenEnds payload place := by
  rw [grabTokenSkipLeadingWhitespaces, succeeds_bind, TokenEnds]
  generalize hrest : (payload.drop place).dropWhile (· == 0x20) = rest
  rcases skipSpaces_eq rfl hrest with ⟨rfl, hfails⟩ | ⟨start, -, hstart, rfl⟩
  · apply iff_of_false
    · rintro ⟨start, hstart, -⟩
      rw [hfails] at hstart
      cases hstart
    · rintro ⟨c, hc, -⟩
      cases hc
  · rw [← grabToken_succeeds_iff rfl]
    constructor
    · rintro ⟨other, hother, htoken⟩
      obtain rfl := Except.ok.inj (hstart.symm.trans hother)
      exact htoken
    · intro htoken
      exact ⟨start, hstart, htoken⟩

/-! ### The last space -/

/-- The last space that is not behind this place. -/
structure LastSpace (payload : Bytes) (place last : Nat) : Prop where
  le : last ≤ place
  space : payload[last]? = some 0x20
  none : ∀ other, last < other → other ≤ place → payload[other]? ≠ some 0x20

theorem LastSpace.eq {last last' : Nat} (h : LastSpace payload place last)
    (h' : LastSpace payload place last') : last = last' := by
  rcases Nat.lt_trichotomy last last' with hlt | heq | hlt
  · exact absurd h'.space (h.none last' hlt h'.le)
  · exact heq
  · exact absurd h.space (h'.none last hlt h.le)

theorem lastSpace_outside (hplace : payload.length ≤ place) :
    lastSpace (readPayload payload) place = .error .outside := by
  cases place with
  | zero =>
      rw [lastSpace, readPayload_outside hplace]
      rfl
  | succ place =>
      rw [lastSpace, readPayload_outside hplace]
      rfl

theorem lastSpace_eq {space : Nat} (hplace : place < payload.length) (hle : space ≤ place)
    (hspace : payload[space]? = some 0x20) :
    ∃ last, lastSpace (readPayload payload) place = .ok last ∧ LastSpace payload place last := by
  induction place with
  | zero =>
      obtain rfl := Nat.le_zero.mp hle
      rw [lastSpace, readPayload_eq hspace]
      refine ⟨0, rfl, le_rfl, hspace, ?_⟩
      intro other hlt hother
      omega
  | succ place ih =>
      obtain ⟨c, hc, -⟩ := drop_eq_cons hplace
      rw [lastSpace, readPayload_eq hc]
      simp only [bind, Except.bind]
      by_cases hhere : c = 0x20
      · rw [if_pos hhere]
        rw [hhere] at hc
        refine ⟨place + 1, rfl, le_rfl, hc, ?_⟩
        intro other hlt hother
        omega
      · have hbefore : space ≤ place := by
          rcases Nat.lt_or_eq_of_le hle with hlt | rfl
          · omega
          · exact absurd (Option.some.inj (hc.symm.trans hspace)) hhere
        obtain ⟨last, hlast, hle, hlastSpace, hnone⟩ := ih (by omega) hbefore
        rw [if_neg hhere]
        refine ⟨last, hlast, by omega, hlastSpace, ?_⟩
        intro other hlt hother
        rcases Nat.lt_or_eq_of_le hother with hother | rfl
        · exact hnone other hlt (by omega)
        · rw [hc]
          intro h
          exact hhere (Option.some.inj h)

/-! ### The display line -/

theorem startsWithNoCase_getElem {pattern memory : Bytes} {n : Nat} {c : UInt8}
    (hstarts : startsWithNoCase pattern memory = true) (hc : pattern[n]? = some c) :
    ∃ d, memory[n]? = some d ∧ toLower c = toLower d := by
  induction pattern generalizing memory n with
  | nil => cases hc
  | cons e pattern ih =>
      cases memory with
      | nil => cases hstarts
      | cons d memory =>
          rw [startsWithNoCase, Bool.and_eq_true, beq_iff_eq] at hstarts
          cases n with
          | zero =>
              obtain rfl := Option.some.inj hc
              exact ⟨d, rfl, hstarts.1⟩
          | succ n =>
              rw [List.getElem?_cons_succ] at hc ⊢
              exact ih hstarts.2 hc

theorem eq_space_of_toLower {c : UInt8} (hlower : toLower 0x20 = toLower c) : c = 0x20 := by
  have hspace : toLower 0x20 = 0x20 := by decide
  rw [hspace, toLower] at hlower
  split_ifs at hlower with hletter
  · have hsum := congrArg UInt8.toNat hlower
    have hle := UInt8.le_iff_toNat_le.mp hletter.1
    have hge := UInt8.le_iff_toNat_le.mp hletter.2
    rw [UInt8.toNat_add] at hsum
    simp only [UInt8.reduceToNat] at hsum hle hge
    omega
  · exact hlower.symm

def contentLength : Bytes := ascii "Content-Length: 50"

/-- The display text starts to be looked for behind the display line or the "t" header. -/
def DisplayLine (cfg : Config) (payload : Bytes) (start : Nat) : Prop :=
  Behind cfg.necNotifyDispLine (ascii "\nt:") payload start

/-- From the display line on, what is read lies in the payload: the length of 50 is not cut off,
the 50 bytes behind it are there, and the token that is taken has an end. -/
structure LineInside (payload : Bytes) (start : Nat) : Prop where
  length : ¬CutOff contentLength payload
  room : ∀ q, FirstMatch contentLength payload q → q + 68 < payload.length
  ends : (∀ q, ¬FirstMatch contentLength payload q) → TokenEnds payload start
  endsLast : ∀ q last, FirstMatch contentLength payload q → LastSpace payload (q + 68) last →
    TokenEnds payload last

structure DisplayInside (cfg : Config) (payload : Bytes) : Prop where
  line : ¬CutOff cfg.necNotifyDispLine payload
  title : (∀ q, ¬FirstMatch cfg.necNotifyDispLine payload q) → ¬CutOff (ascii "\nt:") payload
  inside : ∀ start, DisplayLine cfg payload start → LineInside payload start

theorem FirstMatch.eq (h : FirstMatch toFind payload p) (h' : FirstMatch toFind payload q) :
    p = q := by
  rcases Nat.lt_trichotomy p q with hlt | heq | hlt
  · exact absurd h.starts (Bool.eq_false_iff.mp (h'.first p h.le hlt))
  · exact heq
  · exact absurd h'.starts (Bool.eq_false_iff.mp (h.first q h'.le hlt))

/-- The space in the header is one that the way back comes to. -/
theorem lastSpace_of_contentLength (hmatch : FirstMatch contentLength payload q) :
    payload[q + 15]? = some 0x20 := by
  obtain ⟨d, hd, hlower⟩ := startsWithNoCase_getElem hmatch.starts
    (rfl : contentLength[15]? = some 0x20)
  rw [List.getElem?_drop] at hd
  rw [hd, eq_space_of_toLower hlower]

/-- Where the token is taken from. -/
def tokenStart (payload : Bytes) (dspField : Nat) (contentLen : Option Nat) :
    Except Fault Nat :=
  match contentLen with
  | none => .ok dspField
  | some contentLen => lastSpace (readPayload payload) (contentLen + 50)

def lineText (payload : Bytes) (dspField : Nat) : Except Fault (Option Bytes) :=
  memFindAfter (readPayload payload) contentLength payload.length >>= fun contentLen =>
    tokenStart payload dspField contentLen >>= fun dspField =>
      grabTokenSkipLeadingWhitespaces (readPayload payload) dspField payload.length >>= fun dsp =>
        .ok (some dsp)

theorem token_then_succeeds_iff (payload : Bytes) (place : Nat) :
    Succeeds (grabTokenSkipLeadingWhitespaces (readPayload payload) place payload.length >>=
      fun dsp => (.ok (some dsp) : Except Fault (Option Bytes))) ↔ TokenEnds payload place := by
  rw [← token_succeeds_iff, succeeds_bind]
  constructor
  · rintro ⟨dsp, hdsp, -⟩
    exact ⟨dsp, hdsp⟩
  · rintro ⟨dsp, hdsp⟩
    exact ⟨dsp, hdsp, succeeds_ok _⟩

theorem lineText_succeeds_iff (payload : Bytes) (start : Nat) :
    Succeeds (lineText payload start) ↔ LineInside payload start := by
  rw [lineText, succeeds_bind]
  constructor
  · rintro ⟨found, hfound, hrest⟩
    have hlength := (memFindAfter_succeeds_iff contentLength payload).mp ⟨found, hfound⟩
    have hiff := memFindAfter_eq_some_iff hfound
    cases found with
    | none =>
        have hnone : ∀ q, ¬FirstMatch contentLength payload q := by
          intro q hq
          cases (hiff (q + contentLength.length)).mpr ⟨q, hq, rfl⟩
        refine ⟨hlength, fun q hq => absurd hq (hnone q), ?_, fun q _ hq => absurd hq (hnone q)⟩
        intro _
        exact (token_then_succeeds_iff payload start).mp hrest
    | some contentLen =>
        obtain ⟨q, hq, rfl⟩ := (hiff contentLen).mp rfl
        obtain ⟨last, hlast, htoken⟩ := succeeds_bind.mp hrest
        have hroom : q + 68 < payload.length := by
          by_contra hout
          have hplace : payload.length ≤ q + contentLength.length + 50 := not_lt.mp hout
          rw [tokenStart, lastSpace_outside hplace] at hlast
          cases hlast
        obtain ⟨other, hother, hspace⟩ := lastSpace_eq hroom (by omega)
          (lastSpace_of_contentLength hq)
        obtain rfl := Except.ok.inj (hother.symm.trans hlast)
        refine ⟨hlength, ?_, fun hnone => absurd hq (hnone q), ?_⟩
        · intro r hr
          rw [← hq.eq hr]
          exact hroom
        · intro r last hr hlast
          rw [← hq.eq hr] at hlast
          rw [← hspace.eq hlast]
          exact (token_then_succeeds_iff payload other).mp htoken
  · intro inside
    obtain ⟨found, hfound⟩ := (memFindAfter_succeeds_iff contentLength payload).mpr inside.length
    have hiff := memFindAfter_eq_some_iff hfound
    refine ⟨found, hfound, ?_⟩
    cases found with
    | none =>
        apply (token_then_succeeds_iff payload start).mpr
        apply inside.ends
        intro q hq
        cases (hiff (q + contentLength.length)).mpr ⟨q, hq, rfl⟩
    | some contentLen =>
        obtain ⟨q, hq, rfl⟩ := (hiff contentLen).mp rfl
        obtain ⟨last, hlast, hspace⟩ := lastSpace_eq (inside.room q hq) (by omega)
          (lastSpace_of_contentLength hq)
        apply succeeds_bind.mpr
        refine ⟨last, hlast, ?_⟩
        exact (token_then_succeeds_iff payload last).mpr (inside.endsLast q last hq hspace)

theorem displayText_eq (cfg : Config) (payload : Bytes) :
    displayText (readPayload payload) cfg payload.length =
      (memFindEither (readPayload payload) cfg.necNotifyDispLine (ascii "\nt:") payload.length >>=
        fun dspField => dspField.elim (.ok none) (lineText payload)) := by
  unfold displayText
  cases memFindEither (readPayload payload) cfg.necNotifyDispLine (ascii "\nt:") payload.length with
  | error fault => rfl
  | ok dspField => cases dspField <;> rfl

theorem displayText_succeeds_iff (cfg : Config) (payload : Bytes) :
    Succeeds (displayText (readPayload payload) cfg payload.length) ↔
      DisplayInside cfg payload := by
  rw [displayText_eq, succeeds_bind]
  constructor
  · rintro ⟨found, hfound, hrest⟩
    have hsearch := (memFindEither_succeeds_iff _ _ _).mp ⟨found, hfound⟩
    have hiff := memFindEither_eq_some_iff hfound
    refine ⟨hsearch.1, hsearch.2, ?_⟩
    intro start hline
    obtain rfl := (hiff start).mpr hline
    exact (lineText_succeeds_iff payload start).mp hrest
  · intro inside
    obtain ⟨found, hfound⟩ :=
      (memFindEither_succeeds_iff _ _ payload).mpr ⟨inside.line, inside.title⟩
    refine ⟨found, hfound, ?_⟩
    cases found with
    | none => exact succeeds_ok _
    | some start =>
        have hline := (memFindEither_eq_some_iff hfound start).mp rfl
        exact (lineText_succeeds_iff payload start).mpr (inside.inside start hline)

/-! ### What the display line says -/

/-- The token at a place, behind spaces. -/
def tokenAt (payload : Bytes) (place : Nat) : Bytes :=
  ((payload.drop place).dropWhile (· == 0x20)).takeWhile fun c => !isTokenEnd c

/-- The display text of a payload; none without a display line. -/
inductive Displays (cfg : Config) (payload : Bytes) : Option Bytes → Prop
  | missing : (∀ start, ¬DisplayLine cfg payload start) → Displays cfg payload none
  | line {start : Nat} : DisplayLine cfg payload start →
      (∀ q, ¬FirstMatch contentLength payload q) →
      Displays cfg payload (some (tokenAt payload start))
  | last {start q last : Nat} : DisplayLine cfg payload start →
      FirstMatch contentLength payload q → LastSpace payload (q + 68) last →
      Displays cfg payload (some (tokenAt payload last))

theorem grabToken_eq {token : Bytes} (hleft : left = payload.length - place)
    (htoken : grabToken (readPayload payload) left place = .ok token) :
    token = (payload.drop place).takeWhile fun c => !isTokenEnd c := by
  induction left generalizing place token with
  | zero =>
      rw [grabToken, readPayload_outside (by omega)] at htoken
      cases htoken
  | succ left ih =>
      obtain ⟨c, hc, hdrop⟩ := @drop_eq_cons payload place (by omega)
      rw [grabToken, readPayload_eq hc] at htoken
      simp only [bind, Except.bind] at htoken
      rw [hdrop, List.takeWhile_cons]
      by_cases hend : isTokenEnd c = true
      · rw [if_pos hend] at htoken
        rw [hend]
        exact (Except.ok.inj htoken).symm
      · rw [if_neg hend] at htoken
        obtain ⟨rest, hrest, heq⟩ := bind_eq_ok.mp htoken
        rw [Bool.eq_false_iff.mpr hend, ← ih (by omega) hrest]
        exact (Except.ok.inj heq).symm

theorem token_eq {token : Bytes}
    (htoken : grabTokenSkipLeadingWhitespaces (readPayload payload) place payload.length =
      .ok token) : token = tokenAt payload place := by
  obtain ⟨start, hstart, hgrab⟩ := bind_eq_ok.mp htoken
  rw [grabToken_eq rfl hgrab, tokenAt]
  generalize hrest : (payload.drop place).dropWhile (· == 0x20) = rest
  rcases skipSpaces_eq rfl hrest with ⟨-, hfails⟩ | ⟨other, -, hother, hdrop⟩
  · rw [hfails] at hstart
    cases hstart
  · obtain rfl := Except.ok.inj (hstart.symm.trans hother)
    rw [hdrop]

theorem displays_of_displayText {cfg : Config} {dsp : Option Bytes}
    (hdisplay : displayText (readPayload payload) cfg payload.length = .ok dsp) :
    Displays cfg payload dsp := by
  rw [displayText_eq] at hdisplay
  obtain ⟨found, hfound, hrest⟩ := bind_eq_ok.mp hdisplay
  have hiff := memFindEither_eq_some_iff hfound
  cases found with
  | none =>
      obtain rfl := Except.ok.inj hrest
      apply Displays.missing
      intro start hline
      cases (hiff start).mpr hline
  | some start =>
      have hline : DisplayLine cfg payload start := (hiff start).mp rfl
      have inside := (lineText_succeeds_iff payload start).mp ⟨dsp, hrest⟩
      obtain ⟨contentLen, hlen, hrest⟩ := bind_eq_ok.mp hrest
      have hmatch := memFindAfter_eq_some_iff hlen
      obtain ⟨place, hplace, hrest⟩ := bind_eq_ok.mp hrest
      obtain ⟨token, htoken, heq⟩ := bind_eq_ok.mp hrest
      obtain rfl := Except.ok.inj heq
      rw [token_eq htoken]
      cases contentLen with
      | none =>
          obtain rfl := Except.ok.inj hplace
          apply Displays.line hline
          intro q hq
          cases (hmatch (q + contentLength.length)).mpr ⟨q, hq, rfl⟩
      | some contentLen =>
          obtain ⟨q, hq, rfl⟩ := (hmatch contentLen).mp rfl
          obtain ⟨last, hlast, hspace⟩ := lastSpace_eq (inside.room q hq) (by omega)
            (lastSpace_of_contentLength hq)
          obtain rfl := Except.ok.inj (hlast.symm.trans hplace)
          exact Displays.last hline hq hspace

theorem DisplayLine.eq {cfg : Config} (h : DisplayLine cfg payload p)
    (h' : DisplayLine cfg payload q) : p = q := by
  rcases h with ⟨r, hr, rfl⟩ | ⟨hnone, r, hr, rfl⟩
  · rcases h' with ⟨r', hr', rfl⟩ | ⟨hnone', -⟩
    · rw [hr.eq hr']
    · exact absurd hr (hnone' r)
  · rcases h' with ⟨r', hr', -⟩ | ⟨-, r', hr', rfl⟩
    · exact absurd hr' (hnone r')
    · rw [hr.eq hr']

theorem Displays.eq {cfg : Config} {dsp dsp' : Option Bytes} (h : Displays cfg payload dsp)
    (h' : Displays cfg payload dsp') : dsp = dsp' := by
  cases h with
  | missing hnone =>
      cases h' with
      | missing => rfl
      | line hline => exact absurd hline (hnone _)
      | last hline => exact absurd hline (hnone _)
  | line hline hnone =>
      cases h' with
      | missing hno => exact absurd hline (hno _)
      | line hline' => rw [hline.eq hline']
      | last _ hq => exact absurd hq (hnone _)
  | last hline hq hlast =>
      cases h' with
      | missing hno => exact absurd hline (hno _)
      | line _ hnone => exact absurd hq (hnone _)
      | last _ hq' hlast' =>
          rw [← hq.eq hq'] at hlast'
          rw [hlast.eq hlast']

/-! ### The other fields -/

section

variable {read : Reader} (hread : ∀ place, ∃ c, read place = .ok c)

include hread

theorem sameNoCase_total (toFind : Bytes) (place : Nat) :
    Succeeds (sameNoCase read toFind place) := by
  induction toFind generalizing place with
  | nil => exact succeeds_ok _
  | cons p toFind ih =>
      obtain ⟨c, hc⟩ := hread place
      rw [sameNoCase, hc]
      simp only [bind, Except.bind]
      by_cases hsame : toLower p = toLower c
      · rw [if_pos hsame]
        exact ih (place + 1)
      · rw [if_neg hsame]
        exact succeeds_ok _

theorem isCandidate_total (toFind : Bytes) (place : Nat) :
    Succeeds (isCandidate read toFind place) := by
  unfold isCandidate
  by_cases hzero : place = 0
  · rw [if_pos hzero]
    exact succeeds_ok _
  · obtain ⟨c, hc⟩ := hread place
    rw [if_neg hzero, hc]
    exact succeeds_ok _

theorem memFindFrom_total (toFind : Bytes) (left place : Nat) :
    Succeeds (memFindFrom read toFind left place) := by
  induction left generalizing place with
  | zero => exact succeeds_ok _
  | succ left ih =>
      obtain ⟨candidate, hcandidate⟩ := isCandidate_total hread toFind place
      obtain ⟨same, hsame⟩ := sameNoCase_total hread toFind place
      rw [memFindFrom, hcandidate, hsame]
      cases candidate with
      | false => exact ih (place + 1)
      | true =>
          cases same with
          | false => exact ih (place + 1)
          | true => exact succeeds_ok _

theorem memFindEither_total (toFind other : Bytes) (stop : Nat) :
    Succeeds (memFindEither read toFind other stop) := by
  obtain ⟨found, hfound⟩ := memFindFrom_total hread toFind stop 0
  rw [memFindEither, memFindAfter, hfound]
  cases found with
  | none => exact memFindFrom_total hread other stop 0
  | some place => exact succeeds_ok _

theorem skipSpaces_total (left place : Nat) : Succeeds (skipSpaces read left place) := by
  induction left generalizing place with
  | zero =>
      obtain ⟨c, hc⟩ := hread place
      rw [skipSpaces, hc]
      exact succeeds_ok _
  | succ left ih =>
      obtain ⟨c, hc⟩ := hread place
      rw [skipSpaces, hc]
      simp only [bind, Except.bind]
      by_cases hspace : c = 0x20
      · rw [if_pos hspace]
        exact ih (place + 1)
      · rw [if_neg hspace]
        exact succeeds_ok _

theorem grabToken_total (left place : Nat) : Succeeds (grabToken read left place) := by
  induction left generalizing place with
  | zero =>
      obtain ⟨c, hc⟩ := hread place
      rw [grabToken, hc]
      exact succeeds_ok _
  | succ left ih =>
      obtain ⟨c, hc⟩ := hread place
      obtain ⟨token, htoken⟩ := ih (place + 1)
      rw [grabToken, hc, htoken]
      simp only [bind, Except.bind]
      by_cases hend : isTokenEnd c = true
      · rw [if_pos hend]
        exact succeeds_ok _
      · rw [if_neg hend]
        exact succeeds_ok _

theorem keyText_total (stop : Nat) : Succeeds (keyText read stop) := by
  obtain ⟨found, hfound⟩ := memFindEither_total hread (ascii "Ind-Pkey=") (ascii "Ind-Fkey=") stop
  rw [keyText, hfound]
  cases found with
  | none => exact succeeds_ok _
  | some place =>
      obtain ⟨start, hstart⟩ := skipSpaces_total hread (stop - place) place
      obtain ⟨token, htoken⟩ := grabToken_total hread (stop - start) start
      have hgrab : grabTokenSkipLeadingWhitespaces read place stop = .ok token := by
        rw [grabTokenSkipLeadingWhitespaces, hstart]
        exact htoken
      exact succeeds_bind.mpr ⟨some place, rfl, succeeds_bind.mpr ⟨token, hgrab, succeeds_ok _⟩⟩

end

/-! ### The table -/

section

variable {cfg : Config} {env : VoIp.Env} {st : VoIp.VoIpSessions} {notify : VoIp.SipNotifyInfo}

/-- An entry of the table is written for a session that goes on hold, or read for one that goes
off hold without a display text. -/
def UsesTable (cfg : Config) (st : VoIp.VoIpSessions) (notify : VoIp.SipNotifyInfo) : Prop :=
  ((st.findNotified cfg.sip notify).isSome = true ∧ notify.onHoldMarker = true) ∨
    (notify.offHoldMarker = true ∧ plainDsp notify = "")

theorem notifiedDsp_eq :
    st.notifiedDsp notify =
      if notify.offHoldMarker ∧ plainDsp notify = "" then
        (st.lastHoldRemoteParty.find? notify.pkey).getD ""
      else plainDsp notify := rfl

/-- Within its bounds the function does what it does without them. -/
theorem reportSipNotify_eq (hentry : UsesTable cfg st notify → IsEntry notify.pkey) :
    reportSipNotify cfg env st notify = .ok (st.reportSipNotify cfg.sip env notify) := by
  have hdsp : (if notify.offHoldMarker ∧ plainDsp notify = "" then
      lastHoldRemoteParty st notify.pkey else .ok (plainDsp notify)) =
        (.ok (st.notifiedDsp notify) : Except Fault String) := by
    rw [notifiedDsp_eq]
    by_cases hoff : notify.offHoldMarker = true ∧ plainDsp notify = ""
    · rw [if_pos hoff, if_pos hoff, lastHoldRemoteParty, if_pos (hentry (Or.inr hoff))]
    · rw [if_neg hoff, if_neg hoff]
  unfold reportSipNotify VoIp.VoIpSessions.reportSipNotify
  rw [hdsp]
  cases hfound : st.findNotified cfg.sip notify with
  | none =>
      cases notify.onHoldMarker <;> simp only [bind, Except.bind] <;> split_ifs <;> rfl
  | some r =>
      cases hon : notify.onHoldMarker with
      | true =>
          have huse : UsesTable cfg st notify := Or.inl ⟨by rw [hfound]; rfl, hon⟩
          simp only [setLastHoldRemoteParty, if_pos (hentry huse), if_true]
      | false =>
          simp only [bind, Except.bind, Bool.false_eq_true, if_false]
          split_ifs <;> rfl

theorem reportSipNotify_noEntry (huse : UsesTable cfg st notify) (hno : ¬IsEntry notify.pkey) :
    reportSipNotify cfg env st notify = .error .noEntry := by
  have hset : ∀ party, setLastHoldRemoteParty st notify.pkey party = .error .noEntry :=
    fun party => if_neg hno
  unfold reportSipNotify
  rcases huse with ⟨hfound, hon⟩ | hoff
  · obtain ⟨r, hr⟩ := Option.isSome_iff_exists.mp hfound
    rw [hr, hon]
    exact hset _
  · have hget : lastHoldRemoteParty st notify.pkey = .error .noEntry := if_neg hno
    rw [if_pos hoff, hget]
    split
    · exact hset _
    · rfl

theorem reportSipNotify_succeeds_iff :
    Succeeds (reportSipNotify cfg env st notify) ↔
      (UsesTable cfg st notify → IsEntry notify.pkey) := by
  by_cases hentry : UsesTable cfg st notify → IsEntry notify.pkey
  · rw [reportSipNotify_eq hentry]
    exact iff_of_true (succeeds_ok _) hentry
  · have hnot := Classical.not_imp.mp hentry
    rw [reportSipNotify_noEntry hnot.1 hnot.2]
    exact iff_of_false (not_succeeds_error _) hentry

end

/-! ### A whole packet -/

section

variable (packet : UdpPacket)

def memory : Reader := readMemory (packet.payload ++ packet.behind)

def hasCallId : Bool :=
  match memFindEither (memory packet) (ascii "Call-ID:") (ascii "\ni:") packet.payload.length with
  | .ok callIdField => callIdField.isSome
  | .error _ => false

/-- The text of the key, none when the packet has none. -/
def packetKey : Option Bytes :=
  match keyText (memory packet) packet.payload.length with
  | .ok key => key
  | .error _ => none

/-- `m_pkey` of the packet. -/
def packetPkey (scanf : SipTcp.Scanf) : Int := pkeyOf scanf (packetKey packet)

variable {packet}

theorem trySipNotify_eq (cfg : Config) (scanf : SipTcp.Scanf)
    (hnotify : isNotify packet = true) :
    trySipNotify cfg scanf packet =
      (displayText (readPayload packet.payload) cfg packet.payload.length >>= fun dsp =>
        if hasCallId packet && cfg.sip.sipNotifySupport then
          .ok (some (notifyInfo cfg packet dsp (packetPkey packet scanf)))
        else .ok none) := by
  have hread : ∀ place, ∃ c, memory packet place = .ok c := fun place => ⟨_, rfl⟩
  obtain ⟨callIdField, hcallId⟩ := memFindEither_total hread (ascii "Call-ID:") (ascii "\ni:")
    packet.payload.length
  obtain ⟨key, hkey⟩ := keyText_total hread packet.payload.length
  rw [trySipNotify, if_pos hnotify, hasCallId, packetPkey, packetKey, hcallId, hkey]
  rw [memory] at hcallId hkey
  rw [hcallId, hkey]
  rfl

/-- A packet is processed within the bounds of its payload and of the table exactly when the
display line is read inside the payload and the entry that is used, if one is, is in the
table. -/
theorem processNotify_inside_iff (cfg : Config) (env : VoIp.Env) (scanf : SipTcp.Scanf)
    (packet : UdpPacket) (st : VoIp.VoIpSessions) :
    Succeeds (processNotify cfg env scanf packet st) ↔
      (isNotify packet = true →
        DisplayInside cfg packet.payload ∧
          (hasCallId packet = true → cfg.sip.sipNotifySupport = true →
            ∀ dsp, Displays cfg packet.payload dsp →
              UsesTable cfg st (notifyInfo cfg packet dsp (packetPkey packet scanf)) →
                IsEntry (packetPkey packet scanf))) := by
  by_cases hnotify : isNotify packet = true
  · rw [processNotify, trySipNotify_eq cfg scanf hnotify, succeeds_bind]
    simp only [hnotify, forall_const]
    constructor
    · rintro ⟨notify, htry, hreport⟩
      obtain ⟨dsp, hdsp, hrest⟩ := bind_eq_ok.mp htry
      refine ⟨(displayText_succeeds_iff cfg packet.payload).mp ⟨dsp, hdsp⟩, ?_⟩
      intro hcallId hsupport other hother huse
      rw [hother.eq (displays_of_displayText hdsp)] at huse
      rw [hcallId, hsupport] at hrest
      obtain rfl := Except.ok.inj hrest
      exact reportSipNotify_succeeds_iff.mp hreport huse
    · rintro ⟨inside, hentry⟩
      obtain ⟨dsp, hdsp⟩ := (displayText_succeeds_iff cfg packet.payload).mpr inside
      by_cases hreported : (hasCallId packet && cfg.sip.sipNotifySupport) = true
      · refine ⟨some (notifyInfo cfg packet dsp (packetPkey packet scanf)), ?_, ?_⟩
        · rw [hdsp, hreported]
          rfl
        · obtain ⟨hcallId, hsupport⟩ := Bool.and_eq_true_iff.mp hreported
          apply reportSipNotify_succeeds_iff.mpr
          exact hentry hcallId hsupport dsp (displays_of_displayText hdsp)
      · refine ⟨none, ?_, succeeds_ok _⟩
        rw [hdsp, Bool.eq_false_iff.mpr hreported]
        rfl
  · have hnone : trySipNotify cfg scanf packet = .ok none := if_neg hnotify
    rw [processNotify, hnone]
    exact iff_of_true (succeeds_ok _) fun h => absurd h hnotify

end

/-- Off hold without a display text, with the key 500. -/
def farKey : UdpPacket where
  len := 66
  captured := 58
  payload := ascii "NOTIFY\r\nCall-ID: 1\r\nInd-DispLineN=3:Dsp:" ++
    [0x89, 0x9e, 0x93, 0x9a] ++ ascii " Ind-Pkey=500 "
  sized := by rfl

/-- There is no entry 500 in the table. -/
theorem far_key_no_entry :
    ¬Succeeds (processNotify { sip := { sipNotifySupport := true } } { usec := 0 }
      { overflow := fun _ => 0, unread := fun _ => 0 } farKey
        (.empty {} { usec := 0 } 0)) := by
  have hfault : processNotify { sip := { sipNotifySupport := true } } { usec := 0 }
      { overflow := fun _ => 0, unread := fun _ => 0 } farKey
        (.empty {} { usec := 0 } 0) = .error .noEntry := by
    rfl
  rw [hfault]
  exact not_succeeds_error _

end OrkAudio.SipNotify
