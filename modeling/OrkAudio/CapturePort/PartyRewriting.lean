import OrkAudio.CapturePort.Tape

/-! The loops that rewrite a party by the party filter map.

For each entry of the map, in the order of its keys, a loop finds the character of the entry
and replaces or erases it, until it is found no more. The order of the characters is that of
`char`, and `reserved` is the character '?' that erases. -/

namespace OrkAudio

open Lib

namespace PartyRewriting

variable {α : Type} [LinearOrder α] (reserved : α)

/-! ### The map of the configuration -/

/-- The end of `Config::Define`: the entries that are added to the map. -/
def constructPartyFilterMap (partyFilterChars partyFilterCharsReplaceWith : List α)
    (map : OrderedMap α α) : OrderedMap α α :=
  let replaceWith := partyFilterCharsReplaceWith.map some ++
    List.replicate partyFilterChars.length none
  (partyFilterChars.zip replaceWith).foldl
    (fun map entry => map.insertNew entry.1 (entry.2.getD reserved)) map

/-! ### The loops -/

/-- What `find` returns, as the `int` it is assigned to. -/
def find (c : α) (text : List α) : Int :=
  if c ∈ text then longToInt (text.idxOf c) else -1

/-- The character at a position is replaced, or erased. -/
def rewriteAt (d : α) (pos : Nat) (text : List α) : List α :=
  if d ≠ reserved then text.set pos d else text.eraseIdx pos

/-- `outOfRange`: `at` or `erase` throws. -/
inductive Result (α : Type)
  | running
  | outOfRange
  | done (text : List α)

/-- The loops over the map, after so many tests of the inner and the outer loop. -/
def rewrite : Nat → List (α × α) → List α → Result α
  | 0, _, _ => .running
  | _ + 1, [], text => .done text
  | fuel + 1, (c, d) :: rest, text =>
      if find c text = -1 then rewrite fuel rest text
      else if 0 ≤ find c text ∧ find c text < text.length then
        rewrite fuel ((c, d) :: rest) (rewriteAt reserved d (find c text).toNat text)
      else .outOfRange

/-- The loops end, with this text. -/
def RewritesTo (entries : List (α × α)) (text result : List α) : Prop :=
  ∃ fuel, rewrite reserved fuel entries text = .done result

/-! ### Single characters -/

/-- What one entry makes of a character. -/
def rewriteChar (entry : α × α) (x : α) : Option α :=
  if x = entry.1 then (if entry.2 = reserved then none else some entry.2) else some x

/-- What the entries make of a character, each used at most once and in their order. -/
def follow : List (α × α) → α → Option α
  | [], x => some x
  | entry :: rest, x => (rewriteChar reserved entry x).bind (follow rest)

variable {reserved} {c d : α} {text : List α}

theorem filterMap_rewriteChar_of_notMem (hc : c ∉ text) :
    text.filterMap (rewriteChar reserved (c, d)) = text := by
  rw [List.filterMap_congr (g := some), List.filterMap_some]
  intro x hx
  rw [rewriteChar, if_neg]
  intro heq
  subst heq
  exact hc hx

/-- What is left of the character of an entry. -/
def rewritten (reserved d : α) : List α := if d = reserved then [] else [d]

theorem filterMap_rewriteChar_self (rest : List α) :
    (c :: rest).filterMap (rewriteChar reserved (c, d)) =
      rewritten reserved d ++ rest.filterMap (rewriteChar reserved (c, d)) := by
  rw [List.filterMap_cons, rewriteChar, if_pos rfl, rewritten]
  split_ifs <;> rfl

theorem filterMap_rewritten :
    (rewritten reserved d).filterMap (rewriteChar reserved (c, d)) = rewritten reserved d := by
  by_cases hd : d = reserved
  · rw [rewritten, if_pos hd]
    rfl
  · rw [rewritten, if_neg hd, List.filterMap_cons, rewriteChar]
    split_ifs <;> rfl

theorem length_filterMap_of_ne (hd : d ≠ reserved) (text : List α) :
    (text.filterMap (rewriteChar reserved (c, d))).length = text.length := by
  rw [List.filterMap_length_eq_length]
  intro x _
  rw [rewriteChar]
  split_ifs <;> rfl

/-! ### One test of the inner loop -/

theorem idxOf_first {before : List α} (hbefore : c ∉ before) (after : List α) :
    (before ++ c :: after).idxOf c = before.length := by
  rw [List.idxOf_append_of_notMem hbefore, List.idxOf_cons_self, Nat.add_zero]

theorem find_of_notMem (hc : c ∉ text) : find c text = -1 := if_neg hc

theorem find_first {before : List α} (hbefore : c ∉ before) (after : List α) :
    find c (before ++ c :: after) = longToInt before.length := by
  rw [find, if_pos (List.mem_append_right _ List.mem_cons_self), idxOf_first hbefore]

theorem longToInt_near {n : Nat} (hn : n < 2147483648) : longToInt n = n := by
  unfold longToInt
  omega

theorem longToInt_far {n : Nat} (hn : 2147483648 ≤ n) (hpos : 0 ≤ longToInt n) :
    (longToInt n).toNat < 2147483648 ∧ 4294967296 ≤ n := by
  unfold longToInt at hpos ⊢
  omega

theorem rewriteAt_first (before after : List α) :
    rewriteAt reserved d before.length (before ++ c :: after) =
      before ++ (rewritten reserved d ++ after) := by
  by_cases hd : d = reserved
  · rw [rewriteAt, if_neg (not_not_intro hd), rewritten, if_pos hd,
      List.eraseIdx_append_of_length_le le_rfl]
    simp
  · rw [rewriteAt, if_pos hd, rewritten, if_neg hd, List.set_append_right _ _ le_rfl]
    simp

theorem rewriteAt_before {before : List α} {pos : Nat} (hpos : pos < before.length)
    (after : List α) :
    rewriteAt reserved d pos (before ++ after) = rewriteAt reserved d pos before ++ after := by
  by_cases hd : d = reserved
  · rw [rewriteAt, rewriteAt, if_neg (not_not_intro hd), if_neg (not_not_intro hd),
      List.eraseIdx_append_of_lt_length hpos]
  · rw [rewriteAt, rewriteAt, if_pos hd, if_pos hd, List.set_append_left _ _ hpos]

/-- The next test after one that finds the character near the start. -/
theorem rewrite_near {before after : List α} {rest : List (α × α)} {fuel : Nat}
    (hbefore : c ∉ before) (hnear : before.length < 2147483648) :
    rewrite reserved (fuel + 1) ((c, d) :: rest) (before ++ c :: after) =
      rewrite reserved fuel ((c, d) :: rest) (before ++ (rewritten reserved d ++ after)) := by
  have hfind : find c (before ++ c :: after) = before.length := by
    rw [find_first hbefore, longToInt_near hnear]
  have hfound : (before.length : Int) ≠ -1 := by omega
  have hrange : 0 ≤ (before.length : Int) ∧
      (before.length : Int) < (before ++ c :: after).length := by
    rw [List.length_append, List.length_cons]
    omega
  rw [rewrite, hfind, if_neg hfound, if_pos hrange, Int.toNat_natCast, rewriteAt_first]

/-- Where the loops end, the test went on to the next entry or changed the text. -/
theorem rewrite_done_cases {rest : List (α × α)} {fuel : Nat} {result : List α}
    (hdone : rewrite reserved (fuel + 1) ((c, d) :: rest) text = .done result) :
    (c ∉ text ∧ rewrite reserved fuel rest text = .done result) ∨
    ∃ before after, text = before ++ c :: after ∧ c ∉ before ∧
      ((before.length < 2147483648 ∧ rewrite reserved fuel ((c, d) :: rest)
          (before ++ (rewritten reserved d ++ after)) = .done result) ∨
        (2147483648 ≤ before.length ∧ (rewrite reserved fuel rest text = .done result ∨
          4294967296 ≤ before.length ∧ ∃ pos, rewrite reserved fuel ((c, d) :: rest)
            (rewriteAt reserved d pos before ++ c :: after) = .done result))) := by
  by_cases hc : c ∈ text
  · right
    obtain ⟨before, after, rfl, hbefore⟩ := List.eq_append_cons_of_mem hc
    refine ⟨before, after, rfl, hbefore, ?_⟩
    by_cases hnear : before.length < 2147483648
    · left
      rw [rewrite_near hbefore hnear] at hdone
      exact ⟨hnear, hdone⟩
    · right
      have hfar := Nat.not_lt.mp hnear
      refine ⟨hfar, ?_⟩
      rw [rewrite, find_first hbefore] at hdone
      split_ifs at hdone with hnone hrange
      · exact .inl hdone
      · obtain ⟨hsmall, hlong⟩ := longToInt_far hfar hrange.1
        rw [rewriteAt_before (by omega)] at hdone
        exact .inr ⟨hlong, _, hdone⟩
  · left
    rw [rewrite, find_of_notMem hc, if_pos rfl] at hdone
    exact ⟨hc, hdone⟩

/-! ### Characters out of reach -/

/-- One of the characters of an entry stands behind 2147483648 or more that are left when it
is looked for: its position is not an `int`. -/
def Far (reserved : α) (entry : α × α) (text : List α) : Prop :=
  ∃ before after, text = before ++ entry.1 :: after ∧
    2147483648 ≤ (before.filterMap (rewriteChar reserved entry)).length

theorem Far.mem {text : List α} (far : Far reserved (c, d) text) : c ∈ text := by
  obtain ⟨before, after, rfl, -⟩ := far
  exact List.mem_append_right _ List.mem_cons_self

theorem far_first {before : List α} (hbefore : c ∉ before) (after : List α)
    (hfar : 2147483648 ≤ before.length) : Far reserved (c, d) (before ++ c :: after) := by
  refine ⟨before, after, rfl, ?_⟩
  rwa [filterMap_rewriteChar_of_notMem hbefore]

/-- A character out of reach stays so when another one is rewritten. -/
theorem Far.near {before after : List α} (far : Far reserved (c, d) (before ++ c :: after))
    (hbefore : c ∉ before) (hnear : before.length < 2147483648) :
    Far reserved (c, d) (before ++ (rewritten reserved d ++ after)) := by
  obtain ⟨front, back, heq, hfar⟩ := far
  rcases List.append_eq_append_iff.mp heq with ⟨middle, rfl, hmiddle⟩ | ⟨middle, rfl, hmiddle⟩
  · cases middle with
    | nil =>
        rw [List.append_nil, filterMap_rewriteChar_of_notMem hbefore] at hfar
        omega
    | cons x middle =>
        obtain ⟨rfl, rfl⟩ := List.cons.inj hmiddle
        refine ⟨before ++ (rewritten reserved d ++ middle), back, by simp, ?_⟩
        rw [List.filterMap_append, filterMap_rewriteChar_self] at hfar
        rw [List.filterMap_append, List.filterMap_append, filterMap_rewritten]
        exact hfar
  · cases middle with
    | nil =>
        rw [List.append_nil] at hbefore hnear
        rw [filterMap_rewriteChar_of_notMem hbefore] at hfar
        omega
    | cons x middle =>
        obtain ⟨rfl, -⟩ := List.cons.inj hmiddle
        exact absurd (List.mem_append_right _ List.mem_cons_self) hbefore

/-- The same where the position wraps around and a character before it is changed. -/
theorem far_wrapped {before : List α} (hbefore : c ∉ before) (after : List α)
    (hlong : 4294967296 ≤ before.length) (pos : Nat) :
    Far reserved (c, d) (rewriteAt reserved d pos before ++ c :: after) := by
  refine ⟨_, after, rfl, ?_⟩
  by_cases hd : d = reserved
  · rw [rewriteAt, if_neg (not_not_intro hd), filterMap_rewriteChar_of_notMem, List.length_eraseIdx]
    · split_ifs <;> omega
    · exact fun hc => hbefore (List.mem_of_mem_eraseIdx hc)
  · rw [rewriteAt, if_pos hd, length_filterMap_of_ne hd, List.length_set]
    omega

/-- Where the loops end, a character that no entry is for is still there, or the character of
an entry is; and so is the character of an entry, after one that was out of reach. -/
theorem done_mem {fuel : Nat} {entries : List (α × α)} {text result : List α}
    (hkeys : (entries.map Prod.fst).Nodup)
    (hdone : rewrite reserved fuel entries text = .done result) :
    (∀ k ∈ text, k ∉ entries.map Prod.fst → ∃ key ∈ k :: entries.map Prod.fst, key ∈ result) ∧
    (∀ c d rest, entries = (c, d) :: rest → Far reserved (c, d) text →
      ∃ key ∈ entries.map Prod.fst, key ∈ result) := by
  induction fuel generalizing entries text with
  | zero => cases hdone
  | succ fuel ih =>
      cases entries with
      | nil =>
          obtain rfl : text = result := by
            rw [rewrite] at hdone
            exact Result.done.inj hdone
          exact ⟨fun k hk _ => ⟨k, List.mem_cons_self, hk⟩, fun _ _ _ heq => by cases heq⟩
      | cons entry rest =>
          obtain ⟨c, d⟩ := entry
          have hc : c ∉ rest.map Prod.fst := (List.nodup_cons.mp hkeys).1
          have hrest : (rest.map Prod.fst).Nodup := (List.nodup_cons.mp hkeys).2
          have hfar : Far reserved (c, d) text →
              ∃ key ∈ ((c, d) :: rest).map Prod.fst, key ∈ result := by
            intro far
            rcases rewrite_done_cases hdone with ⟨hnone, -⟩ |
              ⟨before, after, rfl, hbefore, ⟨hnear, hnext⟩ | ⟨-, hnext | ⟨hlong, pos, hnext⟩⟩⟩
            · exact absurd far.mem hnone
            · exact (ih hkeys hnext).2 c d rest rfl (far.near hbefore hnear)
            · exact (ih hrest hnext).1 c far.mem hc
            · exact (ih hkeys hnext).2 c d rest rfl (far_wrapped hbefore after hlong pos)
          refine ⟨?_, ?_⟩
          · intro k hk hkey
            rw [List.map_cons, List.mem_cons, not_or] at hkey
            rcases rewrite_done_cases hdone with ⟨-, hnext⟩ |
              ⟨before, after, rfl, hbefore, ⟨hnear, hnext⟩ | ⟨hlong, -⟩⟩
            · obtain ⟨key, hmem, hres⟩ := (ih hrest hnext).1 k hk hkey.2
              rw [List.mem_cons] at hmem
              refine ⟨key, ?_, hres⟩
              rw [List.mem_cons]
              exact hmem.imp_right (List.mem_cons_of_mem c)
            · have hk' : k ∈ before ++ (rewritten reserved d ++ after) := by
                rw [List.mem_append, List.mem_cons] at hk
                rw [List.mem_append, List.mem_append]
                exact hk.imp_right fun h => .inr (h.resolve_left hkey.1)
              apply (ih hkeys hnext).1 k hk'
              rw [List.map_cons, List.mem_cons, not_or]
              exact hkey
            · obtain ⟨key, hmem, hres⟩ := hfar (far_first hbefore after hlong)
              exact ⟨key, List.mem_cons_of_mem _ hmem, hres⟩
          · rintro _ _ _ heq far
            cases heq
            exact hfar far

/-! ### The loop over one entry -/

theorem rewritesTo_near {before after : List α} {rest : List (α × α)} {result : List α}
    (hbefore : c ∉ before) (hnear : before.length < 2147483648) :
    RewritesTo reserved ((c, d) :: rest) (before ++ c :: after) result ↔
      RewritesTo reserved ((c, d) :: rest) (before ++ (rewritten reserved d ++ after)) result := by
  constructor
  · rintro ⟨fuel, hdone⟩
    cases fuel with
    | zero => cases hdone
    | succ fuel => exact ⟨fuel, (rewrite_near hbefore hnear).symm.trans hdone⟩
  · rintro ⟨fuel, hdone⟩
    exact ⟨fuel + 1, (rewrite_near hbefore hnear).trans hdone⟩

theorem rewritesTo_of_notMem {rest : List (α × α)} {result : List α} (hc : c ∉ text) :
    RewritesTo reserved ((c, d) :: rest) text result ↔ RewritesTo reserved rest text result := by
  have hstep (fuel : Nat) : rewrite reserved (fuel + 1) ((c, d) :: rest) text =
      rewrite reserved fuel rest text := by
    rw [rewrite, find_of_notMem hc, if_pos rfl]
  constructor
  · rintro ⟨fuel, hdone⟩
    cases fuel with
    | zero => cases hdone
    | succ fuel => exact ⟨fuel, (hstep fuel).symm.trans hdone⟩
  · rintro ⟨fuel, hdone⟩
    exact ⟨fuel + 1, (hstep fuel).trans hdone⟩

theorem notMem_rewritten (hself : d = reserved ∨ d ≠ c) : c ∉ rewritten reserved d := by
  rw [rewritten]
  split_ifs with hd
  · exact List.not_mem_nil
  · rw [List.mem_singleton]
    exact (hself.resolve_left hd).symm

/-- Rewriting a character brings none out of reach. -/
theorem far_of_near {before after : List α} (hbefore : c ∉ before)
    (hself : d = reserved ∨ d ≠ c)
    (far : Far reserved (c, d) (before ++ (rewritten reserved d ++ after))) :
    Far reserved (c, d) (before ++ c :: after) := by
  obtain ⟨front, back, heq, hfar⟩ := far
  have hpart : c ∉ before ++ rewritten reserved d := by
    rw [List.mem_append, not_or]
    exact ⟨hbefore, notMem_rewritten hself⟩
  rw [← List.append_assoc] at heq
  rcases List.append_eq_append_iff.mp heq with ⟨middle, rfl, rfl⟩ | ⟨middle, hmiddle, hback⟩
  · refine ⟨before ++ c :: middle, back, by simp, ?_⟩
    rw [List.filterMap_append, filterMap_rewriteChar_self]
    rw [List.filterMap_append, List.filterMap_append, filterMap_rewritten,
      List.append_assoc] at hfar
    exact hfar
  · cases middle with
    | nil =>
        rw [List.append_nil] at hmiddle
        obtain rfl : after = c :: back := hback.symm
        refine ⟨before ++ [c], back, by simp, ?_⟩
        rw [List.filterMap_append, filterMap_rewriteChar_self, List.filterMap_nil]
        rw [← hmiddle, List.filterMap_append, filterMap_rewritten] at hfar
        rwa [List.append_nil]
    | cons x middle =>
        obtain ⟨rfl, -⟩ := List.cons.inj hback
        rw [hmiddle] at hpart
        exact absurd (List.mem_append_right _ List.mem_cons_self) hpart

/-- The loop over one entry ends, and rewrites every one of its characters, unless it
replaces them by themselves or one of them is out of reach. -/
theorem rewritesTo_cons {rest : List (α × α)} {result : List α}
    (hself : d = reserved ∨ d ≠ c) (hnear : ¬ Far reserved (c, d) text) :
    RewritesTo reserved ((c, d) :: rest) text result ↔
      RewritesTo reserved rest (text.filterMap (rewriteChar reserved (c, d))) result := by
  induction hcount : text.count c using Nat.strong_induction_on generalizing text with
  | _ n ih =>
    by_cases hc : c ∈ text
    · obtain ⟨before, after, rfl, hbefore⟩ := List.eq_append_cons_of_mem hc
      have hlength : before.length < 2147483648 := by
        by_contra hfar
        exact hnear (far_first hbefore after (Nat.not_lt.mp hfar))
      have hfewer : (before ++ (rewritten reserved d ++ after)).count c < n := by
        rw [← hcount, List.count_append, List.count_append, List.count_append, List.count_cons_self,
          List.count_eq_zero_of_not_mem (notMem_rewritten hself)]
        omega
      have hnext := ih _ hfewer (fun far => hnear (far_of_near hbefore hself far)) rfl
      rw [rewritesTo_near hbefore hlength, hnext, List.filterMap_append, List.filterMap_append,
        List.filterMap_append, filterMap_rewriteChar_self, filterMap_rewritten]
    · rw [rewritesTo_of_notMem hc, filterMap_rewriteChar_of_notMem hc]

/-- A character that is replaced by itself keeps the loop going. -/
theorem not_rewritesTo_self {rest : List (α × α)} {result : List α} (hreserved : c ≠ reserved)
    (hc : c ∈ text) (hnear : ¬ Far reserved (c, c) text) :
    ¬ RewritesTo reserved ((c, c) :: rest) text result := by
  rintro ⟨fuel, hdone⟩
  induction fuel with
  | zero => cases hdone
  | succ fuel ih =>
      rcases rewrite_done_cases hdone with ⟨hnone, -⟩ |
        ⟨before, after, rfl, hbefore, ⟨-, hnext⟩ | ⟨hfar, -⟩⟩
      · exact hnone hc
      · rw [rewritten, if_neg hreserved] at hnext
        exact ih hnext
      · exact hnear (far_first hbefore after hfar)

/-! ### The whole map -/

/-- Where the entries turn a character of the text into the one of the next entry, that entry
erases it, or replaces it by a character that is neither `seen` nor that of an entry up to
this one; and fewer than 2147483648 of the characters before it are left. -/
def Clean (reserved : α) (seen : List α) (entries : List (α × α)) (text : List α) : Prop :=
  ∀ front c d rest, entries = front ++ (c, d) :: rest →
    ∀ before x after, text = before ++ x :: after → follow reserved front x = some c →
      (d = reserved ∨ d ∉ seen ++ (front ++ [(c, d)]).map Prod.fst) ∧
      (before.filterMap (follow reserved (front ++ [(c, d)]))).length < 2147483648

/-- The same for the first entry. -/
def CleanHead (reserved : α) (seen : List α) (c d : α) (text : List α) : Prop :=
  ∀ before after, text = before ++ c :: after → (d = reserved ∨ d ∉ seen ++ [c]) ∧
    (before.filterMap (rewriteChar reserved (c, d))).length < 2147483648

theorem follow_singleton (entry : α × α) :
    follow reserved [entry] = rewriteChar reserved entry := by
  funext x
  rw [follow, show follow reserved [] = some from rfl, Option.bind_fun_some]

theorem filterMap_follow_cons (entry : α × α) (entries : List (α × α)) (text : List α) :
    text.filterMap (follow reserved (entry :: entries)) =
      (text.filterMap (rewriteChar reserved entry)).filterMap (follow reserved entries) := by
  rw [List.filterMap_filterMap]
  rfl

theorem clean_cons {seen : List α} {rest : List (α × α)} :
    Clean reserved seen ((c, d) :: rest) text ↔ CleanHead reserved seen c d text ∧
      Clean reserved (seen ++ [c]) rest (text.filterMap (rewriteChar reserved (c, d))) := by
  constructor
  · intro clean
    constructor
    · intro before after htext
      have hhead := clean [] c d rest rfl before c after htext rfl
      rwa [List.nil_append, follow_singleton] at hhead
    · intro front c' d' rest' hrest before' x' after' htext hx'
      obtain ⟨left, right, htext, rfl, hright⟩ := List.filterMap_eq_append_iff.mp htext
      obtain ⟨skipped, x, after, rfl, hskipped, hx, -⟩ := List.filterMap_eq_cons_iff.mp hright
      have hfollow : follow reserved ((c, d) :: front) x = some c' := by
        rw [follow, hx]
        exact hx'
      have hleft : (left ++ skipped).filterMap (rewriteChar reserved (c, d)) =
          left.filterMap (rewriteChar reserved (c, d)) := by
        rw [List.filterMap_append, List.filterMap_eq_nil_iff.mpr hskipped, List.append_nil]
      have htext' : text = (left ++ skipped) ++ x :: after := by
        rw [htext, List.append_assoc]
      obtain ⟨hnew, hreach⟩ := clean ((c, d) :: front) c' d' rest' (by rw [hrest]; rfl) _ x after
        htext' hfollow
      rw [List.cons_append, filterMap_follow_cons, hleft] at hreach
      refine ⟨hnew.imp_right ?_, hreach⟩
      rw [List.append_assoc]
      exact id
  · rintro ⟨head, clean⟩ front c' d' rest' hentries before x after htext hx
    cases front with
    | nil =>
        cases hentries
        obtain rfl : x = c := Option.some.inj hx
        rw [List.nil_append, follow_singleton]
        exact head before after htext
    | cons entry front =>
        obtain ⟨rfl, hrest⟩ := List.cons.inj hentries
        rw [follow, Option.bind_eq_some_iff] at hx
        obtain ⟨x', hx, hx'⟩ := hx
        have htext' : text.filterMap (rewriteChar reserved (c, d)) =
            before.filterMap (rewriteChar reserved (c, d)) ++
              x' :: after.filterMap (rewriteChar reserved (c, d)) := by
          rw [htext, List.filterMap_append, List.filterMap_cons, hx]
        obtain ⟨hnew, hreach⟩ := clean front c' d' rest' hrest _ x' _ htext' hx'
        rw [List.cons_append, filterMap_follow_cons]
        refine ⟨hnew.imp_right ?_, hreach⟩
        rw [List.append_assoc]
        exact id

theorem CleanHead.self {seen : List α} (head : CleanHead reserved seen c d text) (hc : c ∈ text) :
    d = reserved ∨ d ≠ c := by
  obtain ⟨before, after, rfl⟩ := List.append_of_mem hc
  apply (head before after rfl).1.imp_right
  rintro hnew rfl
  exact hnew (List.mem_append_right _ (List.mem_singleton.mpr rfl))

theorem CleanHead.not_far {seen : List α} (head : CleanHead reserved seen c d text) :
    ¬ Far reserved (c, d) text := by
  rintro ⟨before, after, htext, hfar⟩
  exact absurd (head before after htext).2 (Nat.not_lt.mpr hfar)

theorem CleanHead.rewritesTo {seen : List α} (head : CleanHead reserved seen c d text)
    {rest : List (α × α)} {result : List α} :
    RewritesTo reserved ((c, d) :: rest) text result ↔
      RewritesTo reserved rest (text.filterMap (rewriteChar reserved (c, d))) result := by
  by_cases hc : c ∈ text
  · exact rewritesTo_cons (head.self hc) head.not_far
  · rw [rewritesTo_of_notMem hc, filterMap_rewriteChar_of_notMem hc]

/-- After the first entry its character is gone, and none of the earlier ones is back. -/
theorem CleanHead.notMem {seen : List α} (head : CleanHead reserved seen c d text)
    (hseen : ∀ k ∈ seen, k ∉ text) :
    ∀ k ∈ seen ++ [c], k ∉ text.filterMap (rewriteChar reserved (c, d)) := by
  intro k hk hmem
  obtain ⟨x, hx, heq⟩ := List.mem_filterMap.mp hmem
  rw [rewriteChar] at heq
  split_ifs at heq with hxc hd
  · -- k is the replacement
    subst hxc
    obtain ⟨before, after, rfl⟩ := List.append_of_mem hx
    rw [← Option.some.inj heq] at hk
    exact (head before after rfl).1.elim hd fun hnew => hnew hk
  · rw [← Option.some.inj heq, List.mem_append, List.mem_singleton] at hk
    rcases hk with hk | hk
    · exact hseen x hk hx
    · exact hxc hk

/-- What is needed of the first entry. -/
theorem cleanHead_of_result {seen : List α} {rest : List (α × α)} {result : List α}
    (hkeys : (((c, d) :: rest).map Prod.fst).Nodup) (hdisjoint : ∀ k ∈ seen, k ∉ rest.map Prod.fst)
    (hdone : RewritesTo reserved ((c, d) :: rest) text result)
    (hclean : ∀ k ∈ seen ++ ((c, d) :: rest).map Prod.fst, k ∉ result) :
    CleanHead reserved seen c d text := by
  have hc : c ∉ rest.map Prod.fst := (List.nodup_cons.mp hkeys).1
  have hrest : (rest.map Prod.fst).Nodup := (List.nodup_cons.mp hkeys).2
  have hnear : ¬ Far reserved (c, d) text := by
    intro far
    obtain ⟨fuel, hdone⟩ := hdone
    obtain ⟨key, hkey, hmem⟩ := (done_mem hkeys hdone).2 c d rest rfl far
    exact hclean key (List.mem_append_right _ hkey) hmem
  intro before after htext
  have hmem : c ∈ text := by
    rw [htext]
    exact List.mem_append_right _ List.mem_cons_self
  refine ⟨?_, ?_⟩
  · by_contra hnot
    rw [not_or, not_not, List.mem_append, List.mem_singleton] at hnot
    obtain ⟨hreserved, hd⟩ := hnot
    by_cases hself : d = c
    · subst hself
      exact not_rewritesTo_self hreserved hmem hnear hdone
    · -- the character that comes back is in the text from now on
      have hd : d ∈ seen := hd.resolve_right hself
      rw [rewritesTo_cons (.inr hself) hnear] at hdone
      obtain ⟨fuel, hdone⟩ := hdone
      have hback : d ∈ text.filterMap (rewriteChar reserved (c, d)) := by
        refine List.mem_filterMap.mpr ⟨c, hmem, ?_⟩
        rw [rewriteChar, if_pos rfl, if_neg hreserved]
      obtain ⟨key, hkey, hres⟩ := (done_mem hrest hdone).1 d hback (hdisjoint d hd)
      refine hclean key ?_ hres
      rw [List.mem_append, List.map_cons, List.mem_cons]
      rcases List.mem_cons.mp hkey with rfl | hkey
      · exact .inl hd
      · exact .inr (.inr hkey)
  · by_contra hfar
    exact hnear ⟨before, after, htext, Nat.not_lt.mp hfar⟩

theorem result_iff_clean {seen : List α} {entries : List (α × α)}
    (hkeys : (seen ++ entries.map Prod.fst).Nodup) (hseen : ∀ k ∈ seen, k ∉ text) :
    (∃ result, RewritesTo reserved entries text result ∧
        ∀ k ∈ seen ++ entries.map Prod.fst, k ∉ result) ↔ Clean reserved seen entries text := by
  induction entries generalizing seen text with
  | nil =>
      constructor
      · intro _ front c d rest hentries
        cases front <;> cases hentries
      · intro _
        refine ⟨text, ⟨1, rfl⟩, ?_⟩
        rwa [List.map_nil, List.append_nil]
  | cons entry rest ih =>
      obtain ⟨c, d⟩ := entry
      obtain ⟨-, hnodup, hdisjoint⟩ := List.nodup_append.mp hkeys
      have hkeys' : ((seen ++ [c]) ++ rest.map Prod.fst).Nodup := by
        rwa [List.append_assoc]
      have hall : seen ++ ((c, d) :: rest).map Prod.fst = (seen ++ [c]) ++ rest.map Prod.fst := by
        rw [List.append_assoc]
        rfl
      rw [clean_cons]
      constructor
      · rintro ⟨result, hdone, hclean⟩
        have head : CleanHead reserved seen c d text := by
          apply cleanHead_of_result hnodup _ hdone hclean
          intro k hk hrest
          exact hdisjoint k hk k (List.mem_cons_of_mem _ hrest) rfl
        refine ⟨head, (ih hkeys' (head.notMem hseen)).mp ⟨result, head.rewritesTo.mp hdone, ?_⟩⟩
        rwa [← hall]
      · rintro ⟨head, clean⟩
        obtain ⟨result, hdone, hclean⟩ := (ih hkeys' (head.notMem hseen)).mpr clean
        refine ⟨result, head.rewritesTo.mpr hdone, ?_⟩
        rwa [hall]

/-- The loops over the party filter map end, with a party that contains none of the map's
characters, exactly where the map is clean for the party. -/
theorem rewritten_iff_clean (map : OrderedMap α α) (party : List α) :
    (∃ result, RewritesTo reserved map.entries party result ∧
        ∀ k, (map.find? k).isSome → k ∉ result) ↔
      Clean reserved [] map.entries party := by
  have hnodup : (map.entries.map Prod.fst).Nodup :=
    List.pairwise_map.mpr (map.sorted.imp fun hlt => hlt.ne)
  have hremoved (k : α) : (map.find? k).isSome ↔ k ∈ map.entries.map Prod.fst := by
    rw [Option.isSome_iff_exists, List.mem_map]
    constructor
    · rintro ⟨value, hvalue⟩
      exact ⟨(k, value), OrderedMap.find?_eq_some.mp hvalue, rfl⟩
    · rintro ⟨entry, hentry, rfl⟩
      exact ⟨entry.2, OrderedMap.find?_eq_some.mpr hentry⟩
  have hclean := @result_iff_clean α _ reserved party [] map.entries hnodup (by simp)
  rw [← hclean]
  apply exists_congr
  intro result
  apply and_congr_right
  intro _
  exact forall_congr' fun k => imp_congr_left (hremoved k)

/-- A configuration that replaces '1' by itself, and a party with a '1': the loops never end. -/
theorem rewrite_runs_on : ¬ ∃ result, RewritesTo '?'
    (constructPartyFilterMap '?' ['1'] ['1'] .empty).entries ['1'] result := by
  have hentries : (constructPartyFilterMap '?' ['1'] ['1'] .empty).entries = [('1', '1')] := by
    rfl
  have hrunning (fuel : Nat) : rewrite '?' fuel [('1', '1')] ['1'] = .running := by
    induction fuel with
    | zero => rfl
    | succ fuel ih =>
        have hstep := @rewrite_near Char _ '?' '1' '1' [] [] [] fuel List.not_mem_nil (by decide)
        exact hstep.trans ih
  rw [hentries]
  rintro ⟨result, fuel, hdone⟩
  rw [hrunning fuel] at hdone
  cases hdone

/-- Every map is that of some configuration. -/
theorem exists_constructPartyFilterMap (map : OrderedMap α α) :
    constructPartyFilterMap reserved (map.entries.map Prod.fst) (map.entries.map Prod.snd) .empty =
      map := by
  have hzip : (map.entries.map Prod.fst).zip ((map.entries.map Prod.snd).map some ++
      List.replicate (map.entries.map Prod.fst).length none) =
      map.entries.map fun entry => (entry.1, some entry.2) := by
    have hlength : (map.entries.map Prod.fst).length =
        ((map.entries.map Prod.snd).map some).length := by simp
    have hzip := @List.zip_append _ _ _ [] _ (List.replicate
      (map.entries.map Prod.fst).length (none : Option α)) hlength
    rw [List.append_nil, List.zip_nil_left, List.append_nil] at hzip
    rw [hzip, List.map_map, List.zip_map']
    rfl
  have hnodup : (map.entries.map Prod.fst).Nodup :=
    List.pairwise_map.mpr (map.sorted.imp fun hlt => hlt.ne)
  apply OrderedMap.ext_entries
  intro entry
  rw [constructPartyFilterMap, hzip, List.foldl_map]
  rw [show (fun (m : OrderedMap α α) (entry : α × α) =>
    m.insertNew entry.1 ((some entry.2).getD reserved)) =
      fun m entry => m.insertNew entry.1 entry.2 from rfl]
  rw [OrderedMap.mem_foldl_insertNew hnodup fun _ _ => OrderedMap.find?_empty]
  constructor
  · rintro (hempty | hentry)
    · cases hempty
    · exact hentry
  · exact .inr

end PartyRewriting

/-! ### The party of a tape -/

namespace PortConfig

open PartyRewriting

variable (cfg : PortConfig)

/-- Where the map is clean for it, a tape gets the party that its loops end with. -/
theorem rewritesTo_rewriteParty (party : String)
    (clean : Clean '?' [] cfg.partyFilterMap party.toList) :
    RewritesTo '?' cfg.partyFilterMap party.toList (cfg.rewriteParty party).toList := by
  have hall (seen : List Char) (entries : List (Char × Char)) (text : List Char)
      (clean : Clean '?' seen entries text) :
      RewritesTo '?' entries text (entries.foldl (fun text entry =>
        if entry.2 ≠ '?' then text.map fun c => if c = entry.1 then entry.2 else c
        else text.filter (· ≠ entry.1)) text) := by
    induction entries generalizing seen text with
    | nil => exact ⟨1, rfl⟩
    | cons entry rest ih =>
        obtain ⟨c, d⟩ := entry
        obtain ⟨head, hrest⟩ := clean_cons.mp clean
        rw [head.rewritesTo, List.foldl_cons]
        have hpass : text.filterMap (rewriteChar '?' (c, d)) =
            if d ≠ '?' then text.map fun x => if x = c then d else x
            else text.filter (· ≠ c) := by
          split_ifs with hd
          · rw [← List.filterMap_eq_map]
            apply List.filterMap_congr
            intro x _
            rw [rewriteChar, if_neg hd, Function.comp]
            split <;> rfl
          · rw [← List.filterMap_eq_filter]
            apply List.filterMap_congr
            intro x _
            rw [rewriteChar, if_pos (not_not.mp hd), Option.guard]
            by_cases hx : x = c <;> simp [hx]
        rw [← hpass]
        exact ih _ _ hrest
  rw [rewriteParty, String.toList_ofList]
  exact hall [] _ _ clean

end PortConfig

end OrkAudio
