import OrkAudio.Lib.Links
import OrkAudio.StdString

/-! The chain of the tape processors.

The registry makes the chain from the names in the configuration; each processor is one object
with one pointer to the processor behind it. A tape goes from processor to processor by these
pointers, and an imported tape may pass some of them over. -/

namespace OrkAudio.TapeProcessor

open Lib

inductive MediaType
  | unKnownType
  | audioType
  | videoType
  | instantMessageType
  deriving DecidableEq, Repr

/-- What the chain reads of a tape. -/
structure AudioTape where
  isExternal : Bool := false
  mediaType : MediaType := .audioType

section

variable {ι : Type*} (name : ι → String)

/-! ### The registry -/

/-- The processors are singletons, so that `Instanciate` gives the registered object. -/
def getNewTapeProcessor (tapeProcessors : List ι) (tapeProcessorName : String) : Option ι :=
  tapeProcessors.find? fun processor => equalsNoCase (name processor) tapeProcessorName

/-- The processors that the configured names stand for; the other names are only logged. -/
def configuredProcessors (tapeProcessors : List ι) (names : List String) : List ι :=
  names.filterMap (getNewTapeProcessor name tapeProcessors)

variable [DecidableEq ι]

/-- `CreateProcessingChain`. Its state is the chain so far and `previousProcessor`. -/
def createProcessingChain (tapeProcessors : List ι) (names : List String) : Links ι :=
  (names.foldl (fun links tapeProcessorName =>
    match getNewTapeProcessor name tapeProcessors tapeProcessorName with
    | some processor => Links.extend links processor
    | none => links) (.empty, none)).1

theorem createProcessingChain_eq (tapeProcessors : List ι) (names : List String) :
    createProcessingChain name tapeProcessors names =
      .ofList (configuredProcessors name tapeProcessors names) := by
  unfold createProcessingChain Links.ofList configuredProcessors
  generalize ((Links.empty, none) : Links ι × Option ι) = links
  induction names generalizing links with
  | nil => rfl
  | cons head rest ih =>
      rw [List.foldl_cons, ih]
      cases hfound : getNewTapeProcessor name tapeProcessors head with
      | none => rw [List.filterMap_cons_none hfound]
      | some processor => rw [List.filterMap_cons_some hfound, List.foldl_cons]

end

section

variable {ι : Type*} (name : ι → String) (chain : Links ι) (tape : AudioTape)

/-! ### The way of a tape -/

/-- An imported tape that is neither audio nor video is not transcoded. -/
def skips (processor : ι) : Bool :=
  tape.isExternal && tape.mediaType != .audioType && tape.mediaType != .videoType &&
    equalsNoCase (name processor) "CommandProcessing"

/-- The processor that `RunNextProcessor` adds the tape to, if any. It calls itself on a
processor that is passed over; without fuel it has not returned. -/
def runNextProcessor (fuel : Nat) (processor : ι) : Option (Option ι) :=
  match chain.next processor with
  | none => some none
  | some next =>
      if skips name tape next then
        match fuel with
        | 0 => none
        | fuel + 1 => runNextProcessor fuel next
      else some (some next)

/-- The processor that `RunProcessingChain` adds the tape to, if any. -/
def runProcessingChain (fuel : Nat) : Option (Option ι) :=
  match chain.first with
  | none => some none
  | some first =>
      if !tape.isExternal then some (some first)
      else if equalsNoCase (name first) "BatchProcessing" then
        runNextProcessor name chain tape fuel first
      else some none

/-- `RunNextProcessor` of a processor returns and has added the tape to this one. -/
def Passes (processor : ι) (next : Option ι) : Prop :=
  ∃ fuel, runNextProcessor name chain tape fuel processor = some next

/-- `RunProcessingChain` returns and has added the tape to this processor. -/
def Enters (first : Option ι) : Prop :=
  ∃ fuel, runProcessingChain name chain tape fuel = some first

/-- When each processor passes the tape on, these are the ones it comes to, and the last one has
none behind it. -/
def Follows : Option ι → List ι → Prop
  | here, [] => here = none
  | here, processor :: rest => here = some processor ∧
      ∃ next, Passes name chain tape processor next ∧ Follows next rest

/-- The processors that a tape is meant for: an imported tape is taken for processed by the
first one, which has to be `BatchProcessing`. -/
def route : List ι → List ι
  | [] => []
  | first :: rest =>
      if !tape.isExternal then first :: rest
      else if equalsNoCase (name first) "BatchProcessing" then
        rest.filter fun processor => !skips name tape processor
      else []

variable {name chain tape} {processor next : ι}

theorem skips_of_not_external (hown : tape.isExternal = false) : skips name tape processor = false := by
  unfold skips
  rw [hown]
  rfl

theorem runNextProcessor_of_none (fuel : Nat) (hnone : chain.next processor = none) :
    runNextProcessor name chain tape fuel processor = some none := by
  unfold runNextProcessor
  rw [hnone]

theorem runNextProcessor_of_not_skips (fuel : Nat) (hsome : chain.next processor = some next)
    (hnot : skips name tape next = false) :
    runNextProcessor name chain tape fuel processor = some (some next) := by
  unfold runNextProcessor
  rw [hsome]
  dsimp only
  rw [hnot, if_neg Bool.false_ne_true]

theorem runNextProcessor_of_skips (fuel : Nat) (hsome : chain.next processor = some next)
    (hskips : skips name tape next = true) :
    runNextProcessor name chain tape (fuel + 1) processor =
      runNextProcessor name chain tape fuel next := by
  rw [runNextProcessor.eq_def, hsome]
  dsimp only
  rw [if_pos hskips]

/-- More fuel does not change where a tape goes. -/
theorem runNextProcessor_mono {fuel more : Nat} {dest : Option ι} (hle : fuel ≤ more)
    (hreturns : runNextProcessor name chain tape fuel processor = some dest) :
    runNextProcessor name chain tape more processor = some dest := by
  induction more generalizing fuel processor with
  | zero =>
      obtain rfl : fuel = 0 := by omega
      exact hreturns
  | succ more ih =>
      cases hnext : chain.next processor with
      | none =>
          rw [runNextProcessor_of_none fuel hnext] at hreturns
          rw [runNextProcessor_of_none _ hnext]
          exact hreturns
      | some next =>
          cases hskips : skips name tape next with
          | false =>
              rw [runNextProcessor_of_not_skips fuel hnext hskips] at hreturns
              rw [runNextProcessor_of_not_skips _ hnext hskips]
              exact hreturns
          | true =>
              rw [runNextProcessor_of_skips more hnext hskips]
              cases fuel with
              | zero =>
                  unfold runNextProcessor at hreturns
                  rw [hnext] at hreturns
                  dsimp only at hreturns
                  rw [if_pos hskips] at hreturns
                  cases hreturns
              | succ fuel =>
                  rw [runNextProcessor_of_skips fuel hnext hskips] at hreturns
                  exact ih (by omega) hreturns

theorem passes_unique {dest dest' : Option ι} (passes : Passes name chain tape processor dest)
    (passes' : Passes name chain tape processor dest') : dest = dest' := by
  obtain ⟨fuel, hreturns⟩ := passes
  obtain ⟨fuel', hreturns'⟩ := passes'
  have hmore := runNextProcessor_mono (Nat.le_max_left fuel fuel') hreturns
  rw [runNextProcessor_mono (Nat.le_max_right fuel fuel') hreturns'] at hmore
  exact (Option.some.inj hmore).symm

theorem enters_unique {dest dest' : Option ι} (enters : Enters name chain tape dest)
    (enters' : Enters name chain tape dest') : dest = dest' := by
  obtain ⟨fuel, hreturns⟩ := enters
  obtain ⟨fuel', hreturns'⟩ := enters'
  unfold runProcessingChain at hreturns hreturns'
  cases hfirst : chain.first with
  | none =>
      rw [hfirst] at hreturns hreturns'
      exact Option.some.inj (hreturns.symm.trans hreturns')
  | some first =>
      rw [hfirst] at hreturns hreturns'
      dsimp only at hreturns hreturns'
      by_cases hown : (!tape.isExternal) = true
      · rw [if_pos hown] at hreturns hreturns'
        exact Option.some.inj (hreturns.symm.trans hreturns')
      · rw [if_neg hown] at hreturns hreturns'
        split_ifs at hreturns hreturns'
        · exact passes_unique ⟨fuel, hreturns⟩ ⟨fuel', hreturns'⟩
        · exact Option.some.inj (hreturns.symm.trans hreturns')

/-- What is read behind a processor is where its tapes are passed on to, but for what is passed
over. -/
theorem passes_of_reads {back : List ι} (reads : Links.Reads chain.next (chain.next processor) back) :
    Passes name chain tape processor (back.filter fun p => !skips name tape p).head? := by
  induction back generalizing processor with
  | nil => exact ⟨0, runNextProcessor_of_none 0 reads⟩
  | cons next rest ih =>
      obtain ⟨hnext, hrest⟩ := reads
      cases hskips : skips name tape next with
      | false =>
          rw [List.filter_cons_of_pos (by rw [hskips]; rfl)]
          exact ⟨0, runNextProcessor_of_not_skips 0 hnext hskips⟩
      | true =>
          rw [List.filter_cons_of_neg (by rw [hskips]; exact Bool.false_ne_true)]
          obtain ⟨fuel, hreturns⟩ := ih hrest
          exact ⟨fuel + 1, (runNextProcessor_of_skips fuel hnext hskips).trans hreturns⟩

theorem follows_of_reads {here : Option ι} {items : List ι}
    (reads : Links.Reads chain.next here items) :
    Follows name chain tape (items.filter fun p => !skips name tape p).head?
      (items.filter fun p => !skips name tape p) := by
  induction items generalizing here with
  | nil => rfl
  | cons item rest ih =>
      cases hskips : skips name tape item with
      | false =>
          rw [List.filter_cons_of_pos (by rw [hskips]; rfl)]
          exact ⟨rfl, _, passes_of_reads reads.2, ih reads.2⟩
      | true =>
          rw [List.filter_cons_of_neg (by rw [hskips]; exact Bool.false_ne_true)]
          exact ih reads.2

/-- A tape of the recorder itself is passed over by nobody. -/
theorem reads_of_follows (hown : tape.isExternal = false) {here : Option ι} {items : List ι}
    (follows : Follows name chain tape here items) : Links.Reads chain.next here items := by
  induction items generalizing here with
  | nil => exact follows
  | cons item rest ih =>
      obtain ⟨hhere, dest, ⟨fuel, hreturns⟩, hrest⟩ := follows
      refine ⟨hhere, ?_⟩
      have hdest : chain.next item = dest := by
        cases hnext : chain.next item with
        | none =>
            rw [runNextProcessor_of_none fuel hnext] at hreturns
            exact Option.some.inj hreturns
        | some next =>
            rw [runNextProcessor_of_not_skips fuel hnext (skips_of_not_external hown)] at hreturns
            exact Option.some.inj hreturns
      rw [hdest]
      exact ih hrest

theorem filter_of_not_external (hown : tape.isExternal = false) (items : List ι) :
    items.filter (fun p => !skips name tape p) = items := by
  apply List.filter_eq_self.mpr
  intro p _
  rw [skips_of_not_external hown]
  rfl

theorem enters_route {items : List ι} (reads : Links.Reads chain.next chain.first items) :
    Enters name chain tape (route name tape items).head? ∧
      Follows name chain tape (route name tape items).head? (route name tape items) := by
  cases items with
  | nil =>
      have hfirst : chain.first = none := reads
      refine ⟨⟨0, ?_⟩, rfl⟩
      unfold runProcessingChain
      rw [hfirst]
      rfl
  | cons first rest =>
      have hfirst : chain.first = some first := reads.1
      dsimp only [route]
      by_cases hown : (!tape.isExternal) = true
      · rw [if_pos hown]
        have follows : Follows name chain tape _ _ := follows_of_reads reads
        rw [filter_of_not_external (by simpa using hown)] at follows
        refine ⟨⟨0, ?_⟩, follows⟩
        unfold runProcessingChain
        rw [hfirst]
        dsimp only
        rw [if_pos hown]
        rfl
      · rw [if_neg hown]
        by_cases hbatch : equalsNoCase (name first) "BatchProcessing" = true
        · rw [if_pos hbatch]
          obtain ⟨fuel, hreturns⟩ := @passes_of_reads _ name chain tape first rest reads.2
          refine ⟨⟨fuel, ?_⟩, follows_of_reads reads.2⟩
          unfold runProcessingChain
          rw [hfirst]
          dsimp only
          rw [if_neg hown, if_pos hbatch]
          exact hreturns
        · rw [if_neg hbatch]
          refine ⟨⟨0, ?_⟩, rfl⟩
          unfold runProcessingChain
          rw [hfirst]
          dsimp only
          rw [if_neg hown, if_neg hbatch]
          rfl

end

/-- The chain leads every tape to the processors that it is meant for, in the order in which they
are configured and to no others, exactly when the configuration names no processor twice. -/
theorem chain_follows_iff {ι : Type*} [DecidableEq ι] (name : ι → String) (tapeProcessors : List ι)
    (names : List String) :
    (∀ tape : AudioTape, ∃ first,
      Enters name (createProcessingChain name tapeProcessors names) tape first ∧
      Follows name (createProcessingChain name tapeProcessors names) tape first
        (route name tape (configuredProcessors name tapeProcessors names))) ↔
      (configuredProcessors name tapeProcessors names).Nodup := by
  rw [createProcessingChain_eq]
  generalize configuredProcessors name tapeProcessors names = items
  constructor
  · intro hall
    obtain ⟨first, _, follows⟩ := hall {}
    have hroute : route name {} items = items := by cases items <;> rfl
    rw [hroute] at follows
    exact (reads_of_follows rfl follows).nodup
  · intro hnodup tape
    exact ⟨_, enters_route (Links.reads_ofList hnodup)⟩

end OrkAudio.TapeProcessor
