import OrkAudio.Queues.ThreadSafeQueue
import OrkAudio.TapeProcessor.Chain

/-! The tapes on their way through the queues and threads of the processors.

A processor has a queue and threads that work on it; `Reporting` has neither and is done with a
tape within `AddAudioTape`. `place` and `visited` are not in the source: they say where a tape
is and which processors have taken it in. -/

namespace OrkAudio.TapeProcessor

open Lib Queues

inductive Place (ι ω : Type*)
  | outside
  | waiting (processor : ι)
  | inWork (worker : ω)
  | reported (processor : ι)
  | rejected (processor : ι)
  | failed (processor : ι)
  | left
  deriving DecidableEq

structure Pipeline (ι ω τ : Type*) where
  queue : ι → ThreadSafeQueue ω τ
  work : ω → Option τ
  place : τ → Place ι ω
  visited : τ → List ι

/-- A step of the system and the tape that it moves, if any. -/
inductive Label (ι ω τ : Type*)
  | submit (tape : τ)
  | acquire (worker : ω)
  | pop (worker : ω) (front : Option τ)
  | pass (worker : ω) (tape : τ)
  | fail (worker : ω) (tape : τ)
  | setSize (processor : ι) (size : Int)

def Label.tape {ι ω τ : Type*} : Label ι ω τ → Option τ
  | submit tape => some tape
  | pop _ front => front
  | pass _ tape => some tape
  | fail _ tape => some tape
  | _ => none

/-- How often a step moves a tape. -/
def Label.count {ι ω τ : Type*} [DecidableEq τ] (label : Label ι ω τ) (tape : τ) : Nat :=
  if label.tape = some tape then 1 else 0

theorem Label.count_of_eq {ι ω τ : Type*} [DecidableEq τ] {label : Label ι ω τ} {tape : τ}
    (habout : label.tape = some tape) : label.count tape = 1 := if_pos habout

theorem Label.count_of_ne {ι ω τ : Type*} [DecidableEq τ] {label : Label ι ω τ} {tape : τ}
    (habout : label.tape ≠ some tape) : label.count tape = 0 := if_neg habout

/-- What a processor does of its own accord and with success. -/
def Label.goesOn {ι ω τ : Type*} : Label ι ω τ → Prop
  | acquire _ => True
  | pop _ _ => True
  | pass _ _ => True
  | _ => False

namespace Pipeline

section

variable {ι ω τ : Type*} [DecidableEq ι] [DecidableEq ω] [DecidableEq τ] (name : ι → String)
  (chain : Links ι) (kind : τ → AudioTape) (processorOf : ω → ι)

/-- The queues have the sizes that they are made with, and nothing is on its way. -/
def start (size : ι → Int) : Pipeline ι ω τ where
  queue processor := .new (size processor)
  work _ := none
  place _ := .outside
  visited _ := []

/-- `AddAudioTape`. A tape that meets a full queue is only logged. -/
def addAudioTape (s : Pipeline ι ω τ) (processor : ι) (tape : τ) : Pipeline ι ω τ :=
  if name processor = "Reporting" then
    { s with
      place := Function.update s.place tape (.reported processor)
      visited := Function.update s.visited tape (s.visited tape ++ [processor]) }
  else
    let pushed := (s.queue processor).push tape
    let s := { s with queue := Function.update s.queue processor pushed.1 }
    if pushed.2 then
      { s with
        place := Function.update s.place tape (.waiting processor)
        visited := Function.update s.visited tape (s.visited tape ++ [processor]) }
    else { s with place := Function.update s.place tape (.rejected processor) }

/-- Add the tape to the processor that it goes to, if there is one. -/
def deliver (s : Pipeline ι ω τ) (next : Option ι) (tape : τ) : Pipeline ι ω τ :=
  match next with
  | some processor => s.addAudioTape name processor tape
  | none => { s with place := Function.update s.place tape .left }

/-- A thread leaves the critical section of `pop`. -/
def take (s : Pipeline ι ω τ) (worker : ω) (gate : Gate ω) : Pipeline ι ω τ :=
  let queue := s.queue (processorOf worker)
  { s with
    queue := Function.update s.queue (processorOf worker)
      { queue with queue := queue.queue.tail, gate := gate }
    work := Function.update s.work worker queue.queue.head?
    place := match queue.queue.head? with
      | some tape => Function.update s.place tape (.inWork worker)
      | none => s.place }

/-- `IsReadyForBatchProcessing` says once of a tape that it is, so that it is submitted once. -/
inductive Step : Pipeline ι ω τ → Label ι ω τ → Pipeline ι ω τ → Prop
  | submit {s : Pipeline ι ω τ} {tape : τ} {first : Option ι} : s.place tape = .outside →
      Enters name chain (kind tape) first → Step s (.submit tape) (s.deliver name first tape)
  | acquire {s : Pipeline ι ω τ} {worker : ω} {gate : Gate ω} : s.work worker = none →
      (s.queue (processorOf worker)).gate.acquire worker = some gate →
      Step s (.acquire worker) { s with
        queue := Function.update s.queue (processorOf worker)
          { s.queue (processorOf worker) with gate := gate } }
  | pop {s : Pipeline ι ω τ} {worker : ω} {gate : Gate ω} :
      (s.queue (processorOf worker)).gate.enter worker = some gate →
      Step s (.pop worker (s.queue (processorOf worker)).queue.head?)
        (s.take processorOf worker gate)
  | pass {s : Pipeline ι ω τ} {worker : ω} {tape : τ} {next : Option ι} :
      s.work worker = some tape → Passes name chain (kind tape) (processorOf worker) next →
      Step s (.pass worker tape)
        (({ s with work := Function.update s.work worker none } : Pipeline ι ω τ).deliver name next
          tape)
  | fail {s : Pipeline ι ω τ} {worker : ω} {tape : τ} : s.work worker = some tape →
      Step s (.fail worker tape) { s with
        work := Function.update s.work worker none
        place := Function.update s.place tape (.failed (processorOf worker)) }
  | setSize {s : Pipeline ι ω τ} (processor : ι) (size : Int) :
      Step s (.setSize processor size) { s with
        queue := Function.update s.queue processor ((s.queue processor).setSize size) }

/-! ### Where the tapes are -/

/-- What a tape has visited when it is at a place, of the processors it is meant for. -/
def Fits (route visited : List ι) : Place ι ω → Prop
  | .outside => visited = []
  | .waiting processor => visited <+: route ∧ visited.getLast? = some processor
  | .inWork worker => visited <+: route ∧ visited.getLast? = some (processorOf worker)
  | .reported processor => visited <+: route ∧ visited.getLast? = some processor
  | .rejected processor => visited ++ [processor] <+: route
  | .failed processor => visited <+: route ∧ visited.getLast? = some processor
  | .left => visited = route

/-- Every tape is at one place: once in one queue, with one thread, or in none of either. -/
structure Placed (items : List ι) (s : Pipeline ι ω τ) : Prop where
  waiting : ∀ tape processor, s.place tape = .waiting processor ↔
    tape ∈ (s.queue processor).queue
  once : ∀ processor, (s.queue processor).queue.Nodup
  working : ∀ tape worker, s.place tape = .inWork worker ↔ s.work worker = some tape
  fits : ∀ tape, Fits processorOf (route name (kind tape) items) (s.visited tape) (s.place tape)

/-- All tapes but one are at their places, and this one is nowhere. -/
structure PlacedBut (items : List ι) (lifted : τ) (s : Pipeline ι ω τ) : Prop where
  waiting : ∀ tape ≠ lifted, ∀ processor, s.place tape = .waiting processor ↔
    tape ∈ (s.queue processor).queue
  once : ∀ processor, (s.queue processor).queue.Nodup
  working : ∀ tape ≠ lifted, ∀ worker, s.place tape = .inWork worker ↔ s.work worker = some tape
  fits : ∀ tape ≠ lifted,
    Fits processorOf (route name (kind tape) items) (s.visited tape) (s.place tape)
  notWaiting : ∀ processor, lifted ∉ (s.queue processor).queue
  notWorking : ∀ worker, s.work worker ≠ some lifted

variable {name chain kind processorOf} {items : List ι} {s s' : Pipeline ι ω τ} {tape : τ}
  {processor : ι} {worker : ω} {next : Option ι} {gate : Gate ω}

omit [DecidableEq ι] [DecidableEq ω] [DecidableEq τ] in
theorem Placed.lift_outside (placed : Placed name kind processorOf items s)
    (houtside : s.place tape = .outside) : PlacedBut name kind processorOf items tape s where
  waiting tape _ processor := placed.waiting tape processor
  once := placed.once
  working tape _ worker := placed.working tape worker
  fits tape _ := placed.fits tape
  notWaiting processor hmem := by
    rw [← placed.waiting, houtside] at hmem
    cases hmem
  notWorking worker hwork := by
    rw [← placed.working, houtside] at hwork
    cases hwork

omit [DecidableEq ι] [DecidableEq τ] in
theorem Placed.lift_working (placed : Placed name kind processorOf items s)
    (hwork : s.work worker = some tape) :
    PlacedBut name kind processorOf items tape
      { s with work := Function.update s.work worker none } where
  waiting tape _ processor := placed.waiting tape processor
  once := placed.once
  working other hne worker' := by
    rw [placed.working]
    dsimp only
    by_cases heq : worker' = worker
    · subst heq
      rw [Function.update_self, hwork]
      constructor
      · intro hsame
        exact absurd (Option.some.inj hsame).symm hne
      · intro hnone
        cases hnone
    · rw [Function.update_of_ne heq]
  fits tape _ := placed.fits tape
  notWaiting processor hmem := by
    have hplace := (placed.working tape worker).mpr hwork
    rw [← placed.waiting, hplace] at hmem
    cases hmem
  notWorking worker' hwork' := by
    by_cases heq : worker' = worker
    · subst heq
      dsimp only at hwork'
      rw [Function.update_self] at hwork'
      cases hwork'
    · dsimp only at hwork'
      rw [Function.update_of_ne heq, ← placed.working,
        (placed.working tape worker).mpr hwork] at hwork'
      exact heq (Place.inWork.inj hwork').symm

omit [DecidableEq ι] [DecidableEq ω] in
/-- A tape that is put down where its visits fit. -/
theorem PlacedBut.put (but : PlacedBut name kind processorOf items tape s) (place : Place ι ω)
    (visited : List ι)
    (hwaiting : ∀ processor, place ≠ .waiting processor) (hworking : ∀ worker, place ≠ .inWork worker)
    (hfits : Fits processorOf (route name (kind tape) items) visited place) :
    Placed name kind processorOf items { s with
      place := Function.update s.place tape place
      visited := Function.update s.visited tape visited } where
  waiting other processor := by
    by_cases heq : other = tape
    · subst heq
      dsimp only
      rw [Function.update_self]
      exact iff_of_false (hwaiting processor) (but.notWaiting processor)
    · dsimp only
      rw [Function.update_of_ne heq]
      exact but.waiting other heq processor
  once := but.once
  working other worker := by
    by_cases heq : other = tape
    · subst heq
      dsimp only
      rw [Function.update_self]
      exact iff_of_false (hworking worker) (but.notWorking worker)
    · dsimp only
      rw [Function.update_of_ne heq]
      exact but.working other heq worker
  fits other := by
    by_cases heq : other = tape
    · subst heq
      dsimp only
      rw [Function.update_self, Function.update_self]
      exact hfits
    · dsimp only
      rw [Function.update_of_ne heq, Function.update_of_ne heq]
      exact but.fits other heq

omit [DecidableEq ω] in
/-- A tape that is put into a queue. -/
theorem PlacedBut.queue {queue : ThreadSafeQueue ω τ} {visited : List ι}
    (but : PlacedBut name kind processorOf items tape s)
    (hqueue : queue.queue = (s.queue processor).queue ++ [tape])
    (hfits : Fits processorOf (route name (kind tape) items) visited
      (.waiting processor : Place ι ω)) :
    Placed name kind processorOf items { s with
      queue := Function.update s.queue processor queue
      place := Function.update s.place tape (.waiting processor)
      visited := Function.update s.visited tape visited } where
  waiting other processor' := by
    dsimp only
    by_cases heq : other = tape
    · subst heq
      rw [Function.update_self]
      by_cases hsame : processor' = processor
      · subst hsame
        rw [Function.update_self, hqueue]
        exact iff_of_true rfl (List.mem_append_right _ List.mem_cons_self)
      · rw [Function.update_of_ne hsame]
        apply iff_of_false _ (but.notWaiting processor')
        intro hplace
        exact hsame (Place.waiting.inj hplace).symm
    · rw [Function.update_of_ne heq, but.waiting other heq processor']
      by_cases hsame : processor' = processor
      · subst hsame
        rw [Function.update_self, hqueue, List.mem_append, List.mem_singleton]
        exact (or_iff_left heq).symm
      · rw [Function.update_of_ne hsame]
  once processor' := by
    dsimp only
    by_cases hsame : processor' = processor
    · subst hsame
      rw [Function.update_self, hqueue]
      apply List.Nodup.append (but.once processor') (List.nodup_singleton tape)
      rw [List.disjoint_singleton]
      exact but.notWaiting processor'
    · rw [Function.update_of_ne hsame]
      exact but.once processor'
  working other worker := by
    dsimp only
    by_cases heq : other = tape
    · subst heq
      rw [Function.update_self]
      exact iff_of_false nofun (but.notWorking worker)
    · rw [Function.update_of_ne heq]
      exact but.working other heq worker
  fits other := by
    dsimp only
    by_cases heq : other = tape
    · subst heq
      rw [Function.update_self, Function.update_self]
      exact hfits
    · rw [Function.update_of_ne heq, Function.update_of_ne heq]
      exact but.fits other heq

omit [DecidableEq ω] [DecidableEq τ] in
/-- A queue that changes in anything but its tapes. -/
theorem PlacedBut.requeue (but : PlacedBut name kind processorOf items tape s) (processor : ι)
    (queue : ThreadSafeQueue ω τ)
    (hqueue : queue.queue = (s.queue processor).queue) :
    PlacedBut name kind processorOf items tape
      { s with queue := Function.update s.queue processor queue } := by
  have hsame (processor' : ι) : (Function.update s.queue processor queue processor').queue =
      (s.queue processor').queue := by
    by_cases heq : processor' = processor
    · subst heq
      rw [Function.update_self, hqueue]
    · rw [Function.update_of_ne heq]
  constructor
  · intro other hne processor'
    dsimp only
    rw [hsame]
    exact but.waiting other hne processor'
  · intro processor'
    dsimp only
    rw [hsame]
    exact but.once processor'
  · exact but.working
  · exact but.fits
  · intro processor'
    dsimp only
    rw [hsame]
    exact but.notWaiting processor'
  · exact but.notWorking

omit [DecidableEq ω] [DecidableEq τ] in
theorem Placed.requeue (placed : Placed name kind processorOf items s) (processor : ι)
    (queue : ThreadSafeQueue ω τ)
    (hqueue : queue.queue = (s.queue processor).queue) :
    Placed name kind processorOf items
      { s with queue := Function.update s.queue processor queue } := by
  have hsame (processor' : ι) : (Function.update s.queue processor queue processor').queue =
      (s.queue processor').queue := by
    by_cases heq : processor' = processor
    · subst heq
      rw [Function.update_self, hqueue]
    · rw [Function.update_of_ne heq]
  constructor
  · intro other processor'
    dsimp only
    rw [hsame]
    exact placed.waiting other processor'
  · intro processor'
    dsimp only
    rw [hsame]
    exact placed.once processor'
  · exact placed.working
  · exact placed.fits

omit [DecidableEq ω] in
/-- Delivered to the next processor that it is meant for, a tape is at its place again. -/
theorem PlacedBut.deliver {back : List ι} (but : PlacedBut name kind processorOf items tape s)
    (hroute : route name (kind tape) items = s.visited tape ++ back) :
    Placed name kind processorOf items (s.deliver name back.head? tape) := by
  cases back with
  | nil =>
      have put := but.put .left (s.visited tape) nofun nofun
        (by rw [hroute]; exact (List.append_nil _).symm)
      rw [Function.update_eq_self] at put
      exact put
  | cons processor rest =>
      have hfront : s.visited tape ++ [processor] <+: route name (kind tape) items :=
        ⟨rest, by rw [hroute, List.append_assoc]; rfl⟩
      have hlast : (s.visited tape ++ [processor]).getLast? = some processor := List.getLast?_concat
      change Placed name kind processorOf items (s.addAudioTape name processor tape)
      unfold addAudioTape
      by_cases hreporting : name processor = "Reporting"
      · rw [if_pos hreporting]
        exact but.put _ _ nofun nofun ⟨hfront, hlast⟩
      · rw [if_neg hreporting]
        dsimp only
        by_cases hroom : (s.queue processor).queue.length < toU32 (s.queue processor).size
        · have hpush : (s.queue processor).push tape =
              ({ s.queue processor with
                queue := (s.queue processor).queue ++ [tape]
                gate := (s.queue processor).gate.release }, true) := if_pos hroom
          rw [hpush, if_pos rfl]
          exact but.queue rfl ⟨hfront, hlast⟩
        · have hpush : (s.queue processor).push tape =
              ({ s.queue processor with gate := (s.queue processor).gate.release }, false) :=
            if_neg hroom
          rw [hpush, if_neg Bool.false_ne_true]
          have released := but.requeue processor
            { s.queue processor with gate := (s.queue processor).gate.release } rfl
          have put := released.put (.rejected processor) (s.visited tape) nofun nofun hfront
          dsimp only at put
          rw [Function.update_eq_self] at put
          exact put

/-! ### Steps -/

omit [DecidableEq ι] [DecidableEq ω] [DecidableEq τ] in
theorem head?_of_follows {here : Option ι} {back : List ι} {tape : AudioTape}
    (follows : Follows name chain tape here back) : here = back.head? := by
  cases back with
  | nil => exact follows
  | cons processor rest => exact follows.1

omit [DecidableEq ι] [DecidableEq ω] [DecidableEq τ] in
/-- A processor passes a tape on to the one behind it on the way of the tape. -/
theorem passes_of_follows {here : Option ι} {front back : List ι} {tape : AudioTape}
    (follows : Follows name chain tape here (front ++ processor :: back))
    (passes : Passes name chain tape processor next) : next = back.head? := by
  induction front generalizing here with
  | nil =>
      obtain ⟨_, next', passes', rest⟩ := follows
      rw [passes_unique passes passes']
      exact head?_of_follows rest
  | cons head front ih =>
      obtain ⟨_, next', _, rest⟩ := follows
      exact ih rest

/-- The chain leads every tape along its way. -/
def Leads (name : ι → String) (chain : Links ι) (items : List ι) : Prop :=
  ∀ tape, ∃ first, Enters name chain tape first ∧
    Follows name chain tape first (route name tape items)

omit [DecidableEq ι] [DecidableEq ω] [DecidableEq τ] in
/-- Where the last visit of a tape leads to. -/
theorem passes_of_visited {visited : List ι} {tape : AudioTape} (leads : Leads name chain items)
    (hfront : visited <+: route name tape items) (hlast : visited.getLast? = some processor)
    (passes : Passes name chain tape processor next) :
    ∃ back, route name tape items = visited ++ back ∧ next = back.head? := by
  obtain ⟨back, hroute⟩ := hfront
  obtain ⟨front, hvisited⟩ := List.getLast?_eq_some_iff.mp hlast
  obtain ⟨first, _, follows⟩ := leads tape
  refine ⟨back, hroute.symm, ?_⟩
  rw [← hroute, hvisited, List.append_assoc] at follows
  exact passes_of_follows follows passes

theorem take_placed (placed : Placed name kind processorOf items s) (hidle : s.work worker = none) :
    Placed name kind processorOf items (s.take processorOf worker gate) := by
  unfold take
  dsimp only
  cases hqueue : (s.queue (processorOf worker)).queue with
  | nil =>
      have hsame := placed.requeue (processorOf worker)
        { s.queue (processorOf worker) with queue := [], gate := gate } hqueue.symm
      dsimp only [List.head?_nil, List.tail_nil]
      rw [← hidle, Function.update_eq_self]
      exact hsame
  | cons tape rest =>
      have hwaiting : s.place tape = .waiting (processorOf worker) := by
        rw [placed.waiting, hqueue]
        exact List.mem_cons_self
      have hnodup := placed.once (processorOf worker)
      rw [hqueue] at hnodup
      have hnot : tape ∉ rest := (List.nodup_cons.mp hnodup).1
      dsimp only [List.head?_cons, List.tail_cons]
      constructor
      · intro other processor
        dsimp only
        by_cases heq : other = tape
        · subst heq
          rw [Function.update_self]
          apply iff_of_false nofun
          intro hmem
          by_cases hsame : processor = processorOf worker
          · subst hsame
            rw [Function.update_self] at hmem
            exact hnot hmem
          · rw [Function.update_of_ne hsame, ← placed.waiting, hwaiting] at hmem
            exact hsame (Place.waiting.inj hmem).symm
        · rw [Function.update_of_ne heq, placed.waiting]
          by_cases hsame : processor = processorOf worker
          · subst hsame
            rw [Function.update_self, hqueue, List.mem_cons]
            exact or_iff_right heq
          · rw [Function.update_of_ne hsame]
      · intro processor
        dsimp only
        by_cases hsame : processor = processorOf worker
        · subst hsame
          rw [Function.update_self]
          exact (List.nodup_cons.mp hnodup).2
        · rw [Function.update_of_ne hsame]
          exact placed.once processor
      · intro other worker'
        dsimp only
        by_cases heq : other = tape
        · subst heq
          rw [Function.update_self]
          by_cases hsame : worker' = worker
          · subst hsame
            rw [Function.update_self]
            exact iff_of_true rfl rfl
          · rw [Function.update_of_ne hsame, ← placed.working, hwaiting]
            apply iff_of_false _ nofun
            intro hplace
            exact hsame (Place.inWork.inj hplace).symm
        · rw [Function.update_of_ne heq, placed.working]
          by_cases hsame : worker' = worker
          · subst hsame
            rw [Function.update_self, hidle]
            apply iff_of_false nofun
            intro htape
            exact heq (Option.some.inj htape).symm
          · rw [Function.update_of_ne hsame]
      · intro other
        dsimp only
        by_cases heq : other = tape
        · subst heq
          have hfits := placed.fits other
          rw [hwaiting] at hfits
          rw [Function.update_self]
          exact hfits
        · rw [Function.update_of_ne heq]
          exact placed.fits other

/-- A thread that stands before the critical section of a queue is one of its processor and has
no tape, and there is a ticket for every tape that waits. -/
structure Staffed (processorOf : ω → ι) (s : Pipeline ι ω τ) : Prop where
  idle : ∀ processor, ∀ worker ∈ (s.queue processor).gate.acquired,
    processorOf worker = processor ∧ s.work worker = none
  once : ∀ processor, (s.queue processor).gate.acquired.Nodup
  tickets : ∀ processor, (s.queue processor).queue.length ≤ (s.queue processor).gate.tickets

omit [DecidableEq ω] [DecidableEq τ] in
/-- A queue is replaced by one with as many tickets and its threads before it. -/
theorem Staffed.requeue (staffed : Staffed processorOf s) (processor : ι)
    (queue : ThreadSafeQueue ω τ)
    (hidle : ∀ worker ∈ queue.gate.acquired, processorOf worker = processor ∧ s.work worker = none)
    (honce : queue.gate.acquired.Nodup) (htickets : queue.queue.length ≤ queue.gate.tickets) :
    Staffed processorOf { s with queue := Function.update s.queue processor queue } := by
  constructor
  · intro processor' worker hmem
    dsimp only at hmem ⊢
    by_cases heq : processor' = processor
    · subst heq
      rw [Function.update_self] at hmem
      exact hidle worker hmem
    · rw [Function.update_of_ne heq] at hmem
      exact staffed.idle processor' worker hmem
  · intro processor'
    dsimp only
    by_cases heq : processor' = processor
    · subst heq
      rw [Function.update_self]
      exact honce
    · rw [Function.update_of_ne heq]
      exact staffed.once processor'
  · intro processor'
    dsimp only
    by_cases heq : processor' = processor
    · subst heq
      rw [Function.update_self]
      exact htickets
    · rw [Function.update_of_ne heq]
      exact staffed.tickets processor'

omit [DecidableEq ι] [DecidableEq τ] in
/-- A thread that lays its tape down. -/
theorem Staffed.layDown (staffed : Staffed processorOf s) (worker : ω) :
    Staffed processorOf { s with work := Function.update s.work worker none } where
  idle processor worker' hmem := by
    refine ⟨(staffed.idle processor worker' hmem).1, ?_⟩
    dsimp only
    by_cases heq : worker' = worker
    · rw [heq, Function.update_self]
    · rw [Function.update_of_ne heq]
      exact (staffed.idle processor worker' hmem).2
  once := staffed.once
  tickets := staffed.tickets

omit [DecidableEq ι] [DecidableEq ω] [DecidableEq τ] in
theorem Staffed.replace {place : τ → Place ι ω} {visited : τ → List ι}
    (staffed : Staffed processorOf s) :
    Staffed processorOf { s with place := place, visited := visited } :=
  ⟨staffed.idle, staffed.once, staffed.tickets⟩

omit [DecidableEq ω] in
theorem Staffed.deliver (staffed : Staffed processorOf s) (next : Option ι) (tape : τ) :
    Staffed processorOf (s.deliver name next tape) := by
  cases next with
  | none => exact staffed.replace
  | some processor =>
      change Staffed processorOf (s.addAudioTape name processor tape)
      unfold addAudioTape
      split
      · exact staffed.replace
      · have htickets := staffed.tickets processor
        dsimp only
        unfold ThreadSafeQueue.push
        split
        · rw [if_pos rfl]
          have requeued := staffed.requeue processor
            { s.queue processor with
              queue := (s.queue processor).queue ++ [tape]
              gate := (s.queue processor).gate.release }
            (staffed.idle processor) (staffed.once processor) (by
              dsimp only
              rw [Gate.tickets_release, List.length_append, List.length_singleton]
              omega)
          exact requeued.replace
        · rw [if_neg Bool.false_ne_true]
          have requeued := staffed.requeue processor
            { s.queue processor with gate := (s.queue processor).gate.release }
            (staffed.idle processor) (staffed.once processor) (by
              dsimp only
              rw [Gate.tickets_release]
              omega)
          exact requeued.replace

omit [DecidableEq τ] in
theorem Staffed.acquire (staffed : Staffed processorOf s) (hidle : s.work worker = none)
    (hacquire : (s.queue (processorOf worker)).gate.acquire worker = some gate) :
    Staffed processorOf { s with
      queue := Function.update s.queue (processorOf worker)
        { s.queue (processorOf worker) with gate := gate } } := by
  have hgate : worker ∉ (s.queue (processorOf worker)).gate.acquired ∧
      gate.acquired = worker :: (s.queue (processorOf worker)).gate.acquired := by
    unfold Gate.acquire at hacquire
    split_ifs at hacquire with hmem
    obtain ⟨semaphore, _, rfl⟩ := Option.map_eq_some_iff.mp hacquire
    exact ⟨hmem, rfl⟩
  have htickets := staffed.tickets (processorOf worker)
  apply staffed.requeue
  · intro worker' hmem
    dsimp only at hmem
    rw [hgate.2, List.mem_cons] at hmem
    rcases hmem with rfl | hmem
    · exact ⟨rfl, hidle⟩
    · exact staffed.idle _ worker' hmem
  · dsimp only
    rw [hgate.2]
    exact List.nodup_cons.mpr ⟨hgate.1, staffed.once _⟩
  · dsimp only
    rw [Gate.tickets_acquire hacquire]
    exact htickets

theorem Staffed.take (staffed : Staffed processorOf s)
    (henter : (s.queue (processorOf worker)).gate.enter worker = some gate) :
    Staffed processorOf (s.take processorOf worker gate) := by
  have hgate : gate.acquired = (s.queue (processorOf worker)).gate.acquired.erase worker := by
    unfold Gate.enter at henter
    split_ifs at henter with hmem
    rw [← Option.some.inj henter]
  have honce := staffed.once (processorOf worker)
  have htickets := staffed.tickets (processorOf worker)
  have hspent := Gate.tickets_enter henter
  have requeued := staffed.requeue (processorOf worker)
    { s.queue (processorOf worker) with
      queue := (s.queue (processorOf worker)).queue.tail, gate := gate }
    (by
      intro worker' hmem
      dsimp only at hmem
      rw [hgate] at hmem
      exact staffed.idle _ worker' (List.mem_of_mem_erase hmem))
    (by
      dsimp only
      rw [hgate]
      exact honce.erase worker)
    (by
      dsimp only
      rw [List.length_tail]
      omega)
  constructor
  · intro processor worker' hmem
    have hbefore := requeued.idle processor worker' hmem
    refine ⟨hbefore.1, ?_⟩
    have hne : worker' ≠ worker := by
      rintro rfl
      rw [← hbefore.1] at hmem
      unfold Pipeline.take at hmem
      dsimp only at hmem
      rw [Function.update_self, hgate] at hmem
      exact honce.not_mem_erase hmem
    unfold Pipeline.take
    dsimp only
    rw [Function.update_of_ne hne]
    exact hbefore.2
  · exact requeued.once
  · exact requeued.tickets

/-- What every step keeps. -/
structure Sound (name : ι → String) (kind : τ → AudioTape) (processorOf : ω → ι) (items : List ι)
    (s : Pipeline ι ω τ) : Prop where
  placed : Placed name kind processorOf items s
  staffed : Staffed processorOf s

theorem step_sound {label : Label ι ω τ} (leads : Leads name chain items)
    (sound : Sound name kind processorOf items s) (step : Step name chain kind processorOf s label s') :
    Sound name kind processorOf items s' := by
  obtain ⟨placed, staffed⟩ := sound
  cases step with
  | @submit tape first houtside enters =>
      refine ⟨?_, staffed.deliver first tape⟩
      have hvisited : s.visited tape = [] := by
        have hfits := placed.fits tape
        rw [houtside] at hfits
        exact hfits
      obtain ⟨first', enters', follows⟩ := leads (kind tape)
      rw [enters_unique enters enters', head?_of_follows follows]
      apply (placed.lift_outside houtside).deliver
      rw [hvisited, List.nil_append]
  | acquire hidle hacquire =>
      exact ⟨placed.requeue _ _ rfl, staffed.acquire hidle hacquire⟩
  | @pop worker gate henter =>
      have hmem : worker ∈ (s.queue (processorOf worker)).gate.acquired := by
        unfold Gate.enter at henter
        split_ifs at henter with hmem
        exact hmem
      exact ⟨take_placed placed (staffed.idle _ worker hmem).2, staffed.take henter⟩
  | @pass worker tape next hwork passes =>
      refine ⟨?_, (staffed.layDown worker).deliver next tape⟩
      have hfits := placed.fits tape
      rw [(placed.working tape worker).mpr hwork] at hfits
      obtain ⟨back, hroute, rfl⟩ := passes_of_visited leads hfits.1 hfits.2 passes
      exact (placed.lift_working hwork).deliver hroute
  | @fail worker tape hwork =>
      have hfits := placed.fits tape
      rw [(placed.working tape worker).mpr hwork] at hfits
      refine ⟨?_, (staffed.layDown worker).replace⟩
      have put := (placed.lift_working hwork).put (.failed (processorOf worker))
        (s.visited tape) nofun nofun hfits
      dsimp only at put
      rw [Function.update_eq_self] at put
      exact put
  | setSize processor size =>
      exact ⟨placed.requeue _ _ rfl, staffed.requeue _ _ (staffed.idle processor) (staffed.once processor)
        (staffed.tickets processor)⟩

omit [DecidableEq ι] [DecidableEq ω] [DecidableEq τ] in
theorem sound_start (size : ι → Int) :
    Sound name kind processorOf items (start size : Pipeline ι ω τ) where
  placed := ⟨fun _ _ => iff_of_false nofun List.not_mem_nil, fun _ => List.nodup_nil,
    fun _ _ => iff_of_false nofun nofun, fun _ => rfl⟩
  staffed := ⟨fun _ _ hmem => absurd hmem List.not_mem_nil, fun _ => List.nodup_nil,
    fun _ => Nat.zero_le _⟩

theorem sound_of_run {size : ι → Int} {labels : List (Label ι ω τ)} (leads : Leads name chain items)
    (run : Steps (Step name chain kind processorOf) (start size) labels s) :
    Sound name kind processorOf items s :=
  run.invariant (fun _ _ _ sound step => step_sound leads sound step) (sound_start size)

/-! ### How far a tape gets -/

/-- How often a tape has been moved when it is at a place and has made this many visits. -/
def moves (visits : Nat) : Place ι ω → Nat
  | .outside => 0
  | .waiting _ => 2 * visits - 1
  | .reported _ => 2 * visits - 1
  | .inWork _ => 2 * visits
  | .rejected _ => 2 * visits + 1
  | .failed _ => 2 * visits + 1
  | .left => 2 * visits + 1

omit [DecidableEq ι] [DecidableEq ω] [DecidableEq τ] in
theorem moves_le (placed : Placed name kind processorOf items s) (tape : τ) :
    moves (s.visited tape).length (s.place tape) ≤
      2 * (route name (kind tape) items).length + 1 := by
  have hfits := placed.fits tape
  unfold moves
  cases hplace : s.place tape with
  | outside => exact Nat.zero_le _
  | waiting processor | reported processor | inWork worker | failed processor =>
      rw [hplace] at hfits
      have hle := hfits.1.length_le
      dsimp only
      omega
  | rejected processor =>
      rw [hplace] at hfits
      have hle := (show _ <+: _ from hfits).length_le
      rw [List.length_append] at hle
      dsimp only
      omega
  | left =>
      rw [hplace] at hfits
      have heq := congrArg List.length (show s.visited tape = _ from hfits)
      dsimp only
      omega

omit [DecidableEq ω] in
/-- A delivery is one move more than the visits before it take. -/
theorem moves_deliver (next : Option ι) (tape : τ) :
    moves ((s.deliver name next tape).visited tape).length ((s.deliver name next tape).place tape) =
      2 * (s.visited tape).length + 1 := by
  cases next with
  | none =>
      change moves (s.visited tape).length (Function.update s.place tape .left tape) = _
      rw [Function.update_self]
      rfl
  | some processor =>
      change moves ((s.addAudioTape name processor tape).visited tape).length
        ((s.addAudioTape name processor tape).place tape) = _
      unfold addAudioTape
      split
      · dsimp only
        rw [Function.update_self, Function.update_self, List.length_append, List.length_singleton]
        rfl
      · dsimp only
        split
        · dsimp only
          rw [Function.update_self, Function.update_self, List.length_append, List.length_singleton]
          rfl
        · dsimp only
          rw [Function.update_self]
          rfl

omit [DecidableEq ω] in
theorem deliver_other {other : τ} (next : Option ι) (hne : other ≠ tape) :
    (s.deliver name next tape).place other = s.place other ∧
      (s.deliver name next tape).visited other = s.visited other := by
  cases next with
  | none => exact ⟨Function.update_of_ne hne _ _, rfl⟩
  | some processor =>
      change (s.addAudioTape name processor tape).place other = _ ∧
        (s.addAudioTape name processor tape).visited other = _
      unfold addAudioTape
      split
      · exact ⟨Function.update_of_ne hne _ _, Function.update_of_ne hne _ _⟩
      · dsimp only
        split
        · exact ⟨Function.update_of_ne hne _ _, Function.update_of_ne hne _ _⟩
        · exact ⟨Function.update_of_ne hne _ _, rfl⟩

/-- A step is one move of the tape that it is about, and none of the others. -/
theorem step_moves {label : Label ι ω τ} (sound : Sound name kind processorOf items s)
    (step : Step name chain kind processorOf s label s') (tape : τ) :
    moves (s'.visited tape).length (s'.place tape) =
      moves (s.visited tape).length (s.place tape) + label.count tape := by
  have placed := sound.placed
  cases step with
  | @submit moved first houtside enters =>
      by_cases heq : moved = tape
      · subst heq
        have hvisited : s.visited moved = [] := by
          have hfits := placed.fits moved
          rw [houtside] at hfits
          exact hfits
        have hcount : (Label.submit moved : Label ι ω τ).count moved = 1 := Label.count_of_eq rfl
        rw [moves_deliver, houtside, hvisited, hcount]
        rfl
      · have hother := @deliver_other _ _ _ _ _ name s moved tape first (Ne.symm heq)
        have hcount : (Label.submit moved : Label ι ω τ).count tape = 0 :=
          Label.count_of_ne fun hsame => heq (Option.some.inj hsame)
        rw [hother.1, hother.2, hcount]
        rfl
  | @acquire worker gate hidle hacquire =>
      have hcount : (Label.acquire worker : Label ι ω τ).count tape = 0 := Label.count_of_ne nofun
      rw [hcount]
      rfl
  | @pop worker gate henter =>
      unfold take
      dsimp only
      cases hhead : (s.queue (processorOf worker)).queue.head? with
      | none =>
          have hcount : (Label.pop worker none : Label ι ω τ).count tape = 0 :=
            Label.count_of_ne nofun
          rw [hcount]
          rfl
      | some front =>
          dsimp only
          by_cases heq : front = tape
          · subst heq
            have hwaiting : s.place front = .waiting (processorOf worker) := by
              rw [placed.waiting]
              exact List.mem_of_mem_head? hhead
            have hfits := placed.fits front
            rw [hwaiting] at hfits
            have hpos : (s.visited front).length ≠ 0 := by
              intro hzero
              rw [List.length_eq_zero_iff.mp hzero] at hfits
              cases hfits.2
            have hcount : (Label.pop worker (some front) : Label ι ω τ).count front = 1 :=
              Label.count_of_eq rfl
            rw [Function.update_self, hwaiting, hcount]
            unfold moves
            dsimp only
            omega
          · have hcount : (Label.pop worker (some front) : Label ι ω τ).count tape = 0 :=
              Label.count_of_ne fun hsame => heq (Option.some.inj hsame)
            rw [Function.update_of_ne (Ne.symm heq), hcount]
            rfl
  | @pass worker moved next hwork passes =>
      by_cases heq : moved = tape
      · subst heq
        have hcount : (Label.pass worker moved : Label ι ω τ).count moved = 1 :=
          Label.count_of_eq rfl
        rw [moves_deliver, (placed.working moved worker).mpr hwork, hcount]
        rfl
      · have hother := @deliver_other _ _ _ _ _ name
          { s with work := Function.update s.work worker none } moved tape next (Ne.symm heq)
        have hcount : (Label.pass worker moved : Label ι ω τ).count tape = 0 :=
          Label.count_of_ne fun hsame => heq (Option.some.inj hsame)
        rw [hother.1, hother.2, hcount]
        rfl
  | @fail worker moved hwork =>
      dsimp only
      by_cases heq : moved = tape
      · subst heq
        have hcount : (Label.fail worker moved : Label ι ω τ).count moved = 1 :=
          Label.count_of_eq rfl
        rw [Function.update_self, (placed.working moved worker).mpr hwork, hcount]
        rfl
      · have hcount : (Label.fail worker moved : Label ι ω τ).count tape = 0 :=
          Label.count_of_ne fun hsame => heq (Option.some.inj hsame)
        rw [Function.update_of_ne (Ne.symm heq), hcount]
        rfl
  | setSize processor size =>
      have hcount : (Label.setSize processor size : Label ι ω τ).count tape = 0 :=
        Label.count_of_ne nofun
      rw [hcount]
      rfl

theorem moves_of_run {labels : List (Label ι ω τ)} (leads : Leads name chain items)
    (sound : Sound name kind processorOf items s)
    (run : Steps (Step name chain kind processorOf) s labels s') (tape : τ) :
    moves (s'.visited tape).length (s'.place tape) =
      moves (s.visited tape).length (s.place tape) +
        labels.countP fun label => label.tape = some tape := by
  induction run with
  | nil s => rfl
  | @cons s between s' label labels first _ ih =>
      rw [ih (step_sound leads sound first), step_moves sound first, List.countP_cons]
      by_cases habout : label.tape = some tape
      · rw [Label.count_of_eq habout, if_pos (decide_eq_true habout)]
        omega
      · rw [Label.count_of_ne habout, if_neg (by rw [decide_eq_true_iff]; exact habout)]
        omega

theorem leads_of_nodup {tapeProcessors : List ι} {names : List String}
    (hnodup : (configuredProcessors name tapeProcessors names).Nodup) :
    Leads name (createProcessingChain name tapeProcessors names)
      (configuredProcessors name tapeProcessors names) := by
  rw [createProcessingChain_eq]
  intro tape
  exact ⟨_, enters_route (Links.reads_ofList hnodup)⟩

end

/-! ### Runs -/

section

variable {ι ω τ : Type*} [DecidableEq ι] [DecidableEq ω] [DecidableEq τ]

/-- In every run of threads and queues each tape is at one place, the processors that have taken
it in are the first ones that it is meant for, in their order, and it is moved a bounded number of
times. -/
theorem tapes_of_run (name : ι → String) (kind : τ → AudioTape) (processorOf : ω → ι)
    (tapeProcessors : List ι) (names : List String) (size : ι → Int) (labels : List (Label ι ω τ))
    (s : Pipeline ι ω τ) (hnodup : (configuredProcessors name tapeProcessors names).Nodup)
    (run : Steps (Step name (createProcessingChain name tapeProcessors names) kind processorOf)
      (start size) labels s) :
    Placed name kind processorOf (configuredProcessors name tapeProcessors names) s ∧
      ∀ tape, labels.countP (fun label => label.tape = some tape) ≤
        2 * (route name (kind tape) (configuredProcessors name tapeProcessors names)).length + 1 := by
  have leads := leads_of_nodup hnodup
  have sound := sound_of_run leads run
  refine ⟨sound.placed, ?_⟩
  intro tape
  have hmoves := moves_of_run leads (sound_start size) run tape
  have hle := moves_le sound.placed tape
  have hstart : moves ((start size : Pipeline ι ω τ).visited tape).length
    ((start size : Pipeline ι ω τ).place tape) = 0 := rfl
  omega

/-! #### The way of one tape -/

section

/-- `BatchProcessing` and `Reporting`. -/
private def nameOf (batch : Bool) : String := if batch then "BatchProcessing" else "Reporting"

private def configuredNames : List String := ["batchprocessing", "Other", "Reporting"]

private def submitted : Pipeline Bool Bool Nat := (start fun _ => 50000).deliver nameOf (some true) 7

private def acquired : Pipeline Bool Bool Nat :=
  { submitted with
    queue := Function.update submitted.queue true
      { submitted.queue true with gate := ⟨⟨0⟩, [true]⟩ } }

private def inWork : Pipeline Bool Bool Nat := acquired.take id true ⟨⟨0⟩, []⟩

private def processed : Pipeline Bool Bool Nat :=
  ({ inWork with work := Function.update inWork.work true none } : Pipeline Bool Bool Nat).deliver
    nameOf (some false) 7

private theorem run_processed :
    Steps (Step nameOf (createProcessingChain nameOf [true, false] configuredNames) (fun _ => {}) id)
      (start fun _ => 50000) [.submit 7, .acquire true, .pop true (some 7), .pass true 7]
      processed := by
  have enters : Enters nameOf (createProcessingChain nameOf [true, false] configuredNames) {}
    (some true) := ⟨0, by decide +kernel⟩
  have passes : Passes nameOf (createProcessingChain nameOf [true, false] configuredNames) {} true
    (some false) := ⟨0, by decide +kernel⟩
  apply @Steps.cons _ _ _ _ submitted _ _ _ (.submit rfl enters)
  apply @Steps.cons _ _ _ _ acquired _ _ _ (.acquire rfl rfl)
  apply @Steps.cons _ _ _ _ inWork _ _ _ (.pop rfl)
  apply @Steps.cons _ _ _ _ processed _ _ _ (.pass rfl passes)
  exact .nil _

theorem tapes_of_run_reported :
    Placed nameOf (fun _ : Nat => {}) id [true, false] processed ∧
      ∀ tape, [.submit 7, .acquire true, .pop true (some 7), .pass true 7].countP
          (fun label : Label Bool Bool Nat => label.tape = some tape) ≤
        2 * (route nameOf {} [true, false]).length + 1 := by
  have hconfigured : configuredProcessors nameOf [true, false] configuredNames = [true, false] := by
    decide +kernel
  have result := tapes_of_run nameOf (fun _ => {}) id [true, false] configuredNames
    (fun _ => 50000) _ processed (by decide +kernel) run_processed
  rw [hconfigured] at result
  exact result

end

end

end Pipeline

end OrkAudio.TapeProcessor
