import OrkAudio.TapeFileNaming.Model

/-! Whether renaming a recording replaces a file. -/

namespace OrkAudio.TapeFileNaming

open Lib hiding Bytes
open Serializer

/-! ### Names of files -/

theorem squeeze_cons_of_ne {c : TChar} (hc : c ≠ tchar '/') (rest : Bytes) :
    squeeze (c :: rest) = c :: squeeze rest := by
  cases rest with
  | nil => rfl
  | cons d rest => simp [squeeze, hc]

/-- Squeezing loses slashes only. -/
theorem squeeze_filter (path : Bytes) :
    (squeeze path).filter (· ≠ tchar '/') = path.filter (· ≠ tchar '/') := by
  fun_induction squeeze path with
  | case1 => rfl
  | case2 c => rfl
  | case3 c d rest hslash ih =>
      rw [ih, hslash.1]
      simp
  | case4 c d rest hslash ih => simp only [List.filter_cons] at ih ⊢; rw [ih]

theorem filter_length_le_squeeze (path : Bytes) :
    (path.filter (· ≠ tchar '/')).length ≤ (squeeze path).length := by
  rw [← squeeze_filter]
  exact List.length_filter_le _ _

theorem tchar_digit_ne_slash {c : Char} (hdigit : c.isDigit = true) : tchar c ≠ tchar '/' := by
  intro heq
  have hval : c.toNat % 256 = 47 := congrArg Fin.val heq
  have hbounds : 48 ≤ c.toNat ∧ c.toNat ≤ 57 := by
    simpa [Char.isDigit, UInt32.le_iff_toNat_le] using hdigit
  omega

theorem decimal_filter (n : Nat) : (decimal n).filter (· ≠ tchar '/') = decimal n := by
  rw [List.filter_eq_self]
  intro c hc
  obtain ⟨d, hd, rfl⟩ := List.mem_map.mp hc
  simpa using tchar_digit_ne_slash (Nat.isDigit_of_mem_toDigits (by omega) (by omega) hd)

theorem lt_length_decimal (bound : Nat) : bound < (decimal (10 ^ (bound + 1))).length := by
  rw [decimal, List.length_map]
  by_contra hle
  have hshort : (Nat.toDigits 10 (10 ^ (bound + 1))).length ≤ bound + 1 := by omega
  have hlt := (Nat.length_toDigits_le_iff (by omega) (by omega)).mp hshort
  exact Nat.lt_irrefl _ hlt

/-! ### The search for a free index -/

section

variable {files : Files} {path identifier extension : Bytes}

theorem freeIndex_of_free {fuel fileIndex : Nat}
    (hfree : fileCanOpen files (indexedFile path identifier extension fileIndex) = false) :
    freeIndex files path identifier extension (fuel + 1) fileIndex = some fileIndex := by
  simp [freeIndex, hfree]

theorem le_freeIndex {fuel fileIndex found : Nat}
    (hfound : freeIndex files path identifier extension fuel fileIndex = some found) :
    fileIndex ≤ found := by
  induction fuel generalizing fileIndex with
  | zero => cases hfound
  | succ fuel ih =>
      rw [freeIndex] at hfound
      split at hfound
      · have hle := ih hfound
        omega
      · cases hfound
        exact Nat.le_refl _

theorem exists_freeIndex {fileIndex steps : Nat}
    (hfree : fileCanOpen files (indexedFile path identifier extension (fileIndex + steps)) =
      false) :
    ∃ found, freeIndex files path identifier extension (steps + 1) fileIndex = some found := by
  induction steps generalizing fileIndex with
  | zero => exact ⟨fileIndex, freeIndex_of_free hfree⟩
  | succ steps ih =>
      cases hopen : fileCanOpen files (indexedFile path identifier extension fileIndex) with
      | false => exact ⟨fileIndex, freeIndex_of_free hopen⟩
      | true =>
          rw [freeIndex, if_pos hopen]
          apply ih
          rw [Nat.add_right_comm]
          exact hfree

variable (identifier extension) in
/-- The search ends where no longer name denotes a file. -/
theorem exists_freeIndex_of_bounded {bound : Nat} (hnul : 0 ∉ path)
    (hbound : ∀ name, files name = true → name.length ≤ bound) :
    ∃ fuel found, freeIndex files path identifier extension fuel 0 = some found := by
  have hfree : fileCanOpen files
      (indexedFile path identifier extension (0 + 10 ^ (bound + 1))) = false := by
    rw [Nat.zero_add, indexedFile, if_neg (Nat.pow_pos (by omega)).ne', fileCanOpen]
    by_contra hopen
    have hle := hbound _ (Bool.eq_true_of_not_eq_false hopen)
    have hidentifier : 0 ∉ cStr identifier := by
      intro hmem
      simpa using List.mem_takeWhile_imp hmem
    have hdash : (0 : TChar) ∉ text "-" := by decide
    have hdigits : 0 ∉ decimal (10 ^ (bound + 1)) := by
      intro hmem
      obtain ⟨d, hd, heq⟩ := List.mem_map.mp hmem
      have hdigit := Nat.isDigit_of_mem_toDigits (by omega) (by omega) hd
      have hval : d.toNat % 256 = 0 := congrArg Fin.val heq
      have hbounds : 48 ≤ d.toNat ∧ d.toNat ≤ 57 := by
        simpa [Char.isDigit, UInt32.le_iff_toNat_le] using hdigit
      omega
    have hfront : 0 ∉ path ++ (cStr identifier ++ text "-" ++ decimal (10 ^ (bound + 1))) := by
      simp only [List.mem_append, not_or]
      exact ⟨hnul, ⟨hidentifier, hdash⟩, hdigits⟩
    rw [fileOf, cStr_append hfront] at hle
    have hcount := filter_length_le_squeeze
      (path ++ (cStr identifier ++ text "-" ++ decimal (10 ^ (bound + 1))) ++ cStr extension)
    simp only [List.filter_append, List.length_append, decimal_filter] at hcount
    have hlong := lt_length_decimal bound
    omega
  obtain ⟨found, hfound⟩ := exists_freeIndex hfree
  exact ⟨_, found, hfound⟩

theorem fileOf_indexedFile_of_nul (hnul : 0 ∈ path) (fileIndex : Nat) :
    fileOf (indexedFile path identifier extension fileIndex) = fileOf path := by
  rw [indexedFile, fileOf, fileOf]
  split_ifs <;> rw [List.append_assoc, cStr_append_of_nul hnul]

/-- A path with a terminator in it is never found to be free where it denotes a file. -/
theorem freeIndex_of_nul {fuel fileIndex : Nat} (hnul : 0 ∈ path)
    (hopen : files (fileOf path) = true) :
    freeIndex files path identifier extension fuel fileIndex = none := by
  induction fuel generalizing fileIndex with
  | zero => rfl
  | succ fuel ih =>
      rw [freeIndex, fileCanOpen, fileOf_indexedFile_of_nul hnul, if_pos hopen, ih]

end

/-! ### What the identifier becomes -/

namespace AudioTape

variable (t : AudioTape)

/-- The file that is looked for before the renaming. -/
def searchedFile (cfg : Config) : Bytes :=
  fileOf (indexedFile (cfg.searchedPath t) t.fileIdentifier t.fileExtension 0)

/-- The file that the tape's names denote. -/
def file : Bytes := fileOf (t.audioOutputPath ++ text "/" ++ t.getFilename)

def withSuffix : AudioTape := { t with fileIdentifier := t.suffixed }

variable {t} {cfg : Config} {files : Files}

theorem prevent_cases {fuel : Nat} {t' : AudioTape}
    (hprevent : t.preventFileIdentifierCollision files fuel (cfg.searchedPath t) = some t') :
    (files (t.searchedFile cfg) = false ∧ t' = t) ∨
      (files (t.searchedFile cfg) = true ∧ t' = t.withSuffix) := by
  obtain ⟨found, hfound, hreturn⟩ := Option.bind_eq_some_iff.mp hprevent
  cases fuel with
  | zero => cases hfound
  | succ fuel =>
      cases hopen : files (t.searchedFile cfg) with
      | false =>
          rw [freeIndex_of_free hopen] at hfound
          cases hfound
          cases hreturn
          exact .inl ⟨rfl, rfl⟩
      | true =>
          have hcan : fileCanOpen files
              (indexedFile (cfg.searchedPath t) t.fileIdentifier t.fileExtension 0) = true := hopen
          rw [freeIndex, if_pos hcan] at hfound
          have hpos := le_freeIndex hfound
          have hne : found ≠ 0 := by omega
          rw [if_neg hne] at hreturn
          cases hreturn
          exact .inr ⟨rfl, rfl⟩

theorem prevent_of_free (hfree : files (t.searchedFile cfg) = false) :
    t.preventFileIdentifierCollision files 1 (cfg.searchedPath t) = some t := by
  rw [preventFileIdentifierCollision, freeIndex_of_free hfree]
  rfl

theorem prevent_of_taken (htaken : files (t.searchedFile cfg) = true) {fuel found : Nat}
    (hfound : freeIndex files (cfg.searchedPath t) t.fileIdentifier t.fileExtension fuel 0 =
      some found) :
    t.preventFileIdentifierCollision files fuel (cfg.searchedPath t) = some t.withSuffix := by
  have hprevent : ∃ t', t.preventFileIdentifierCollision files fuel (cfg.searchedPath t) =
      some t' := by
    rw [preventFileIdentifierCollision, hfound]
    exact ⟨_, rfl⟩
  obtain ⟨t', ht'⟩ := hprevent
  rcases prevent_cases ht' with ⟨hfree, _⟩ | ⟨_, rfl⟩
  · rw [htaken] at hfree
    cases hfree
  · exact ht'

end AudioTape

/-! ### Renaming -/

section

variable (cfg : Config) (host : Host) (tape : AudioTape)

/-- The recording is one of the files, and only its own name has its unique identifier. -/
def Admissible (files : Files) : Prop :=
  files tape.file = true ∧
    ∀ name, files name = true → name ≠ tape.file → ¬ tape.orkUid <:+: name

/-- The renaming replaces a file other than the recording. -/
def Overwrites (files : Files) : Prop :=
  ∃ fuel originalFilename newFilename,
    cfg.rename host tape files fuel = some (some (originalFilename, newFilename)) ∧
      files (fileOf newFilename) = true ∧ fileOf newFilename ≠ fileOf originalFilename

/-- Without a suffix: the file that is looked for is the one that is renamed to, or one of
them is the recording itself, or the new name has the unique identifier. -/
def PlainSeparated (t : AudioTape) : Prop :=
  t.searchedFile cfg = t.file ∨ t.searchedFile cfg = tape.file ∨ t.file = tape.file ∨
    t.orkUid <:+: t.file

/-- With the suffix: the unique identifier is still in the name, or the new name is the
recording's own, or there is no file to look for. -/
def SuffixSeparated (t : AudioTape) : Prop :=
  t.orkUid <:+: t.withSuffix.file ∨ t.withSuffix.file = tape.file ∨
    0 ∈ cfg.searchedPath t ∨
    (t.searchedFile cfg ≠ tape.file ∧ t.orkUid <:+: t.searchedFile cfg)

def Separated : Prop :=
  ∀ t, cfg.named host tape = some t → cfg.isNaming = true →
    PlainSeparated cfg tape t ∧ SuffixSeparated cfg tape t

variable {cfg host tape} {files : Files} {t : AudioTape}

/-- The naming schemes leave the output path and the unique identifier alone. -/
theorem named_unchanged (hnamed : cfg.named host tape = some t) :
    t.audioOutputPath = tape.audioOutputPath ∧ t.orkUid = tape.orkUid := by
  obtain ⟨middle, hidentifier, hpath⟩ := Option.bind_eq_some_iff.mp hnamed
  have hmiddle : middle.audioOutputPath = tape.audioOutputPath ∧ middle.orkUid = tape.orkUid := by
    rw [Config.generateFinalIdentifier] at hidentifier
    split at hidentifier
    · obtain ⟨fileIdentifier, _, rfl⟩ := Option.map_eq_some_iff.mp hidentifier
      split_ifs <;> exact ⟨rfl, rfl⟩
    · cases hidentifier
      exact ⟨rfl, rfl⟩
  rw [Config.generateFinalFilePath] at hpath
  split at hpath
  · obtain ⟨pathIdentifier, _, rfl⟩ := Option.map_eq_some_iff.mp hpath
    split_ifs <;> exact hmiddle
  · cases hpath
    exact hmiddle

/-- A scheme that is not there changes nothing. -/
theorem named_of_not_naming (hnaming : cfg.isNaming = false) : cfg.named host tape = some tape := by
  have hboth : ¬ cfg.tapePathNaming.length > 0 ∧ ¬ cfg.tapeFileNaming.length > 0 := by
    simpa [Config.isNaming] using hnaming
  rw [Config.named, Config.generateFinalIdentifier, if_neg hboth.2, Option.bind_some,
    Config.generateFinalFilePath, if_neg hboth.1]

/-- What a renaming went through. -/
theorem rename_cases {fuel : Nat} {originalFilename newFilename : Bytes}
    (hrename : cfg.rename host tape files fuel = some (some (originalFilename, newFilename))) :
    fileOf originalFilename = tape.file ∧ ∃ t, cfg.named host tape = some t ∧
      cfg.isNaming = true ∧ ∃ t',
        t.preventFileIdentifierCollision files fuel (cfg.searchedPath t) = some t' ∧
          fileOf newFilename = t'.file := by
  obtain ⟨t', hgenerate, hpair⟩ := Option.map_eq_some_iff.mp hrename
  dsimp only at hpair
  split at hpair
  · rename_i hdiffer
    cases hpair
    refine ⟨rfl, ?_⟩
    obtain ⟨t, hnamed, hprevent⟩ := Option.bind_eq_some_iff.mp hgenerate
    cases hnaming : cfg.isNaming with
    | false =>
        rw [named_of_not_naming hnaming] at hnamed
        rw [hnaming] at hprevent
        cases hnamed
        cases hprevent
        exact absurd rfl hdiffer
    | true =>
        rw [if_pos hnaming] at hprevent
        exact ⟨t, hnamed, rfl, t', hprevent, rfl⟩
  · cases hpair

theorem rename_of_prevent {fuel : Nat} {t' : AudioTape} (hnamed : cfg.named host tape = some t)
    (hnaming : cfg.isNaming = true)
    (hprevent : t.preventFileIdentifierCollision files fuel (cfg.searchedPath t) = some t')
    (hfile : t'.file ≠ tape.file) :
    ∃ originalFilename newFilename,
      cfg.rename host tape files fuel = some (some (originalFilename, newFilename)) ∧
        fileOf originalFilename = tape.file ∧ fileOf newFilename = t'.file := by
  have hgenerate : cfg.generateFinalFilePathAndIdentifier host tape files fuel = some t' := by
    rw [Config.generateFinalFilePathAndIdentifier, hnamed, Option.bind_some, if_pos hnaming,
      hprevent]
  have hdiffer : tape.audioOutputPath ++ text "/" ++ tape.getFilename ≠
      t'.audioOutputPath ++ text "/" ++ t'.getFilename := by
    intro heq
    exact hfile (congrArg fileOf heq.symm)
  refine ⟨tape.audioOutputPath ++ text "/" ++ tape.getFilename,
    t'.audioOutputPath ++ text "/" ++ t'.getFilename, ?_, rfl, rfl⟩
  rw [Config.rename, hgenerate]
  simp only [Option.map_some, ne_eq, hdiffer, not_false_eq_true, if_true]

theorem not_overwrites_of_separated (separated : Separated cfg host tape)
    (admissible : Admissible tape files) : ¬ Overwrites cfg host tape files := by
  intro ⟨fuel, originalFilename, newFilename, hrename, hexists, hother⟩
  obtain ⟨horiginal, t, hnamed, hnaming, t', hprevent, hnew⟩ := rename_cases hrename
  rw [horiginal, hnew] at hother
  rw [hnew] at hexists
  obtain ⟨hplain, hsuffix⟩ := separated t hnamed hnaming
  have huid := (named_unchanged hnamed).2
  have hunique := admissible.2 _ hexists hother
  rw [← huid] at hunique
  rcases AudioTape.prevent_cases hprevent with ⟨hfree, rfl⟩ | ⟨htaken, rfl⟩
  · rcases hplain with hsame | hsearched | htarget | hmarked
    · rw [hsame, hexists] at hfree
      cases hfree
    · rw [hsearched, admissible.1] at hfree
      cases hfree
    · exact hother htarget
    · exact hunique hmarked
  · rcases hsuffix with hmarked | htarget | hnul | ⟨hdiffers, hmarked⟩
    · exact hunique hmarked
    · exact hother htarget
    · obtain ⟨found, hfound, _⟩ := Option.bind_eq_some_iff.mp hprevent
      have hopen : files (fileOf (cfg.searchedPath t)) = true := by
        rw [AudioTape.searchedFile, fileOf_indexedFile_of_nul hnul] at htaken
        exact htaken
      rw [freeIndex_of_nul hnul hopen] at hfound
      cases hfound
    · rw [huid] at hmarked
      exact admissible.2 _ htaken hdiffers hmarked

/-- A set of few files. -/
def only (names : List Bytes) : Files := fun name => decide (name ∈ names)

theorem admissible_only {names : List Bytes} (hown : tape.file ∈ names)
    (hothers : ∀ name ∈ names, name ≠ tape.file → ¬ tape.orkUid <:+: name) :
    Admissible tape (only names) := by
  refine ⟨decide_eq_true hown, ?_⟩
  intro name hname
  exact hothers name (of_decide_eq_true hname)

/-- Without a suffix, a file of the new name is replaced. -/
theorem exists_overwrites_plain (hnamed : cfg.named host tape = some t)
    (hnaming : cfg.isNaming = true) (hplain : ¬ PlainSeparated cfg tape t) :
    ∃ files, Admissible tape files ∧ Overwrites cfg host tape files := by
  simp only [PlainSeparated, not_or] at hplain
  obtain ⟨hsame, hsearched, htarget, hmarked⟩ := hplain
  rw [(named_unchanged hnamed).2] at hmarked
  refine ⟨only [tape.file, t.file], ?_, ?_⟩
  · apply admissible_only List.mem_cons_self
    intro name hname hother
    rcases List.mem_cons.mp hname with heq | hname
    · exact absurd heq hother
    · rw [List.mem_singleton.mp hname]
      exact hmarked
  · have hfree : only [tape.file, t.file] (t.searchedFile cfg) = false := by
      simp [only, hsearched, hsame]
    obtain ⟨originalFilename, newFilename, hrename, horiginal, hnew⟩ :=
      rename_of_prevent hnamed hnaming (AudioTape.prevent_of_free hfree) htarget
    refine ⟨1, originalFilename, newFilename, hrename, ?_, ?_⟩
    · rw [hnew]
      simp [only]
    · rw [horiginal, hnew]
      exact htarget

/-- With the suffix, a file of the new name is replaced. -/
theorem exists_overwrites_suffix (hnamed : cfg.named host tape = some t)
    (hnaming : cfg.isNaming = true) (hsuffix : ¬ SuffixSeparated cfg tape t) :
    ∃ files, Admissible tape files ∧ Overwrites cfg host tape files := by
  simp only [SuffixSeparated, not_or] at hsuffix
  obtain ⟨hmarked, htarget, hnul, hsearched⟩ := hsuffix
  rw [(named_unchanged hnamed).2] at hmarked hsearched
  have hsearched' : t.searchedFile cfg ≠ tape.file → ¬ tape.orkUid <:+: t.searchedFile cfg :=
    fun hne hinfix => hsearched ⟨hne, hinfix⟩
  let names := [tape.file, t.searchedFile cfg, t.withSuffix.file]
  have htaken : only names (t.searchedFile cfg) = true := by simp [only, names]
  have hbound : ∀ name, only names name = true →
      name.length ≤ tape.file.length + (t.searchedFile cfg).length + t.withSuffix.file.length := by
    intro name hname
    have hmem : name ∈ names := of_decide_eq_true hname
    simp only [names, List.mem_cons, List.not_mem_nil, or_false] at hmem
    rcases hmem with rfl | rfl | rfl <;> omega
  obtain ⟨fuel, found, hfound⟩ :=
    exists_freeIndex_of_bounded t.fileIdentifier t.fileExtension hnul hbound
  refine ⟨only names, ?_, ?_⟩
  · apply admissible_only List.mem_cons_self
    intro name hname hother
    simp only [List.mem_cons, List.not_mem_nil, or_false] at hname
    rcases hname with rfl | rfl | rfl
    · exact absurd rfl hother
    · exact hsearched' hother
    · exact hmarked
  · obtain ⟨originalFilename, newFilename, hrename, horiginal, hnew⟩ :=
      rename_of_prevent hnamed hnaming (AudioTape.prevent_of_taken htaken hfound) htarget
    refine ⟨fuel, originalFilename, newFilename, hrename, ?_, ?_⟩
    · rw [hnew]
      simp [only, names]
    · rw [horiginal, hnew]
      exact htarget

/-- No set of files has one that the renaming replaces, exactly where the two names are kept
apart. -/
theorem never_overwrites_iff (cfg : Config) (host : Host) (tape : AudioTape) :
    (∀ files, Admissible tape files → ¬ Overwrites cfg host tape files) ↔
      Separated cfg host tape := by
  constructor
  · intro never t hnamed hnaming
    constructor
    · by_contra hplain
      obtain ⟨files, admissible, overwrites⟩ := exists_overwrites_plain hnamed hnaming hplain
      exact never files admissible overwrites
    · by_contra hsuffix
      obtain ⟨files, admissible, overwrites⟩ := exists_overwrites_suffix hnamed hnaming hsuffix
      exact never files admissible overwrites
  · intro separated files admissible
    exact not_overwrites_of_separated separated admissible

/-! ### Paths that end in a slash -/

theorem squeeze_slashes (front rest : Bytes) :
    squeeze (front ++ tchar '/' :: tchar '/' :: rest) = squeeze (front ++ tchar '/' :: rest) := by
  induction front with
  | nil => simp [squeeze]
  | cons c front ih =>
      cases front with
      | nil =>
          by_cases hc : c = tchar '/'
          · simp [squeeze, hc]
          · simp only [List.cons_append, squeeze_cons_of_ne hc]
            exact congrArg (c :: ·) ih
      | cons d front =>
          simp only [List.cons_append] at ih ⊢
          simp only [squeeze, ih]

theorem fileOf_slashes (front rest : Bytes) :
    fileOf (front ++ tchar '/' :: tchar '/' :: rest) = fileOf (front ++ tchar '/' :: rest) := by
  rw [fileOf, fileOf]
  by_cases hnul : 0 ∈ front
  · rw [cStr_append_of_nul hnul, cStr_append_of_nul hnul]
  · have hone : cStr (tchar '/' :: rest) = tchar '/' :: cStr rest := by
      have hslash : 0 ∉ [tchar '/'] := by decide
      exact cStr_append hslash
    have htwo : cStr (tchar '/' :: tchar '/' :: rest) = tchar '/' :: tchar '/' :: cStr rest := by
      have hslashes : 0 ∉ [tchar '/', tchar '/'] := by decide
      exact cStr_append hslashes
    rw [cStr_append hnul, cStr_append hnul, hone, htwo]
    exact squeeze_slashes _ _

/-- Where the tape's directory is the configured one and its path is empty or ends in a slash,
the file that is looked for is the one that is renamed to. -/
theorem plainSeparated_of_slash (houtput : t.audioOutputPath = cfg.audioOutputPath)
    (hpath : t.filePath = [] ∨ ∃ front, t.filePath = front ++ [tchar '/']) :
    PlainSeparated cfg tape t := by
  left
  have hslash : text "/" = [tchar '/'] := rfl
  rw [AudioTape.searchedFile, AudioTape.file, indexedFile, if_pos rfl, Config.searchedPath,
    AudioTape.getFilename, houtput, hslash]
  rcases hpath with hempty | ⟨front, hfront⟩
  · rw [hempty]
    have hslashes := fileOf_slashes cfg.audioOutputPath (t.fileIdentifier ++ t.fileExtension)
    simpa using hslashes
  · rw [hfront]
    have hslashes := fileOf_slashes (cfg.audioOutputPath ++ [tchar '/'] ++ front)
      (t.fileIdentifier ++ t.fileExtension)
    simpa using hslashes

end

/-! Two calls of one party on one day, under a path scheme without a slash at its end. -/

section

def dailyConfig : Config where
  audioOutputPath := text "/rec"
  tapePathNaming :=
    [text "mypathprefix/", text "[year]", text "[month]", text "/", text "[day]"]
  tapeFileNaming := [text "[localparty]"]

def dailyTape : AudioTape where
  audioOutputPath := text "/rec"
  filePath := text "2025/03/20/15/"
  fileIdentifier := text "20250320_155000_AB"
  fileExtension := text ".wav"
  orkUid := text "20250320_155000_AB"
  localParty := text "100"
  year := text "2025"
  month := text "03"
  day := text "20"

def dailyFile : Bytes := text "/rec/mypathprefix/202503/20100.wav"

/-- The first call's recording is replaced by the second's. -/
theorem overwrites_daily :
    ¬ ∀ (cfg : Config) (host : Host) (tape : AudioTape) (files : Files),
      Admissible tape files → ¬ Overwrites cfg host tape files := by
  intro claim
  have hrename : dailyConfig.rename {} dailyTape (only [dailyTape.file, dailyFile]) 1 =
      some (some (text "/rec/2025/03/20/15/20250320_155000_AB.wav", dailyFile)) := by
    decide +kernel
  have hfile : fileOf dailyFile = dailyFile := by decide +kernel
  have hown : fileOf (text "/rec/2025/03/20/15/20250320_155000_AB.wav") = dailyTape.file := rfl
  have hdiffer : dailyFile ≠ dailyTape.file := by decide +kernel
  have hmarked : ¬ dailyTape.orkUid <:+: dailyFile := by decide +kernel
  have admissible : Admissible dailyTape (only [dailyTape.file, dailyFile]) := by
    apply admissible_only List.mem_cons_self
    intro name hname hother
    rcases List.mem_cons.mp hname with heq | hname
    · exact absurd heq hother
    · rw [List.mem_singleton.mp hname]
      exact hmarked
  apply claim dailyConfig {} dailyTape _ admissible
  refine ⟨1, _, _, hrename, ?_, ?_⟩
  · rw [hfile]
    simp [only]
  · rw [hfile, hown]
    exact hdiffer

end

end OrkAudio.TapeFileNaming
