import Mathlib.Logic.Function.Basic
import Mathlib.Data.List.Nodup
import Mathlib.Data.List.Perm.Subperm
import OrkAudio.Lib.Steps
import OrkAudio.Queues.OrkSemaphore

/-! `EventStreaming` and the threads of `EventStreamingServer` that serve its clients.

`EventStreaming::AddMessage` keeps the mutex of the sessions while it goes from one session to
the next, so that no session comes or goes meanwhile; the thread of a client takes messages out
of its own session at any time. `published`, `sent` and `lost` are not in the source: they are
the messages added while the session was there, those that the client has got, and how many it
will not get. -/

namespace OrkAudio

open Lib Queues

structure EventStreamingSession (μ : Type*) where
  messages : List μ
  semaphore : OrkSemaphore

namespace EventStreamingSession

variable {μ : Type*}

def new : EventStreamingSession μ where
  messages := []
  semaphore := .new

/-- `AddMessage`. Nothing is a clone of a message that is not an `IReportable`, but room is
made for it. -/
def addMessage (session : EventStreamingSession μ) (clone : Option μ) : EventStreamingSession μ :=
  let messages := if 10000 < session.messages.length then session.messages.tail
    else session.messages
  match clone with
  | none => { session with messages := messages }
  | some copy => { messages := messages ++ [copy], semaphore := session.semaphore.release }

def getTapeMessage (session : EventStreamingSession μ) : EventStreamingSession μ × Option μ :=
  ({ session with messages := session.messages.tail }, session.messages.head?)

def getNumMessages (session : EventStreamingSession μ) : Nat := session.messages.length

def waitForMessages (session : EventStreamingSession μ) : Option (EventStreamingSession μ) :=
  session.semaphore.acquire.map fun semaphore => { session with semaphore := semaphore }

theorem messages_of_waitForMessages {session after : EventStreamingSession μ}
    (hwait : session.waitForMessages = some after) : after.messages = session.messages := by
  rcases Option.map_eq_some_iff.mp hwait with ⟨semaphore, _, rfl⟩
  rfl

theorem exists_waitForMessages {session : EventStreamingSession μ}
    (hcount : 0 < session.semaphore.count) : ∃ after, session.waitForMessages = some after := by
  simp [waitForMessages, OrkSemaphore.acquire, hcount]

end EventStreamingSession

namespace EventStreaming

/-- Where `StreamingSvc` stands; with `sending`, a message is in its hands. -/
inductive Phase (μ : Type*)
  | connected
  | added
  | refused
  | waiting
  | draining
  | getting
  | sending (message : μ)
  | failed
  | closed

namespace Phase

variable {μ : Type*}

/-- The session is among those of `EventStreaming`. -/
def registered : Phase μ → Bool
  | connected => false
  | closed => false
  | _ => true

/-- The client is past the test on the number of sessions. -/
def streams : Phase μ → Bool
  | waiting => true
  | draining => true
  | getting => true
  | sending _ => true
  | failed => true
  | _ => false

/-- The thread will test the semaphore before it looks at the messages. -/
def rests : Phase μ → Bool
  | connected => true
  | added => true
  | waiting => true
  | _ => false

/-- The connection is broken. -/
def ended : Phase μ → Bool
  | failed => true
  | closed => true
  | _ => false

def inHand : Phase μ → List μ
  | sending message => [message]
  | _ => []

theorem registered_of_streams {phase : Phase μ} (hstreams : phase.streams = true) :
    phase.registered = true := by
  cases phase with
  | connected | closed => exact hstreams
  | added | refused => rfl
  | waiting | draining | getting | sending _ | failed => rfl

end Phase

structure Client (μ : Type*) where
  session : EventStreamingSession μ
  phase : Phase μ
  published : List μ
  sent : List μ
  lost : Nat

namespace Client

variable {μ : Type*}

def start : Client μ where
  session := .new
  phase := .connected
  published := []
  sent := []
  lost := 0

/-- A message is on its way to the session. -/
def publish (x : Client μ) (clone : Option μ) : Client μ :=
  { x with published := x.published ++ clone.toList }

def addMessage (x : Client μ) (clone : Option μ) : Client μ :=
  { x with
    session := x.session.addMessage clone
    lost := if 10000 < x.session.messages.length then x.lost + 1 else x.lost }

/-- A step of `StreamingSvc` that needs no mutex but that of the session; none when the thread
has to wait. -/
def advance (x : Client μ) (success : Bool) : Option (Client μ) :=
  match x.phase with
  | .waiting => x.session.waitForMessages.map fun session =>
      { x with session := session, phase := .draining }
  | .draining => some { x with
      phase := if x.session.getNumMessages ≠ 0 then .getting else .waiting }
  | .getting => some { x with
      session := x.session.getTapeMessage.1
      phase := match x.session.getTapeMessage.2 with
        | some message => .sending message
        | none => .draining }
  | .sending message => some (
      if success then { x with phase := .draining, sent := x.sent ++ [message] }
      else { x with phase := .failed, lost := x.lost + 1 })
  | _ => none

/-! ### What a client has got and what waits for it -/

/-- `pending` is what is to be added to the session before the mutex is free. -/
structure Sound (pending : List μ) (x : Client μ) : Prop where
  kept : (x.sent ++ x.phase.inHand ++ x.session.messages ++ pending).Sublist x.published
  newest : x.session.messages ++ pending <:+ x.published
  counted : x.published.length =
    x.sent.length + x.phase.inHand.length + x.session.messages.length + pending.length + x.lost
  room : x.session.messages.length ≤ 10001
  awake : x.phase.rests = true → x.session.messages.length ≤ x.session.semaphore.count
  filled : x.phase = .getting → x.session.messages ≠ []
  losses : x.lost = 0 ∨ 10001 ≤ x.published.length ∨ x.phase.ended = true

variable {pending : List μ} {x after : Client μ}

theorem sound_start : (start : Client μ).Sound [] where
  kept := List.Sublist.refl []
  newest := List.suffix_refl []
  counted := rfl
  room := Nat.zero_le _
  awake _ := Nat.zero_le _
  filled hphase := by cases hphase
  losses := .inl rfl

namespace Sound

/-- The thread moves on with nothing in its hands before or after. -/
theorem move (sound : x.Sound pending) (phase : Phase μ) (hhand : x.phase.inHand = [])
    (hafter : phase.inHand = [])
    (hrests : phase.rests = true → x.session.messages.length ≤ x.session.semaphore.count)
    (hfilled : phase = .getting → x.session.messages ≠ [])
    (hover : x.phase.ended = true → phase.ended = true) :
    Client.Sound pending { x with phase := phase } where
  kept := by
    have hkept := sound.kept
    rw [hhand] at hkept
    dsimp only
    rw [hafter]
    exact hkept
  newest := sound.newest
  counted := by
    have hcounted := sound.counted
    rw [hhand] at hcounted
    dsimp only
    rw [hafter]
    exact hcounted
  room := sound.room
  awake := hrests
  filled := hfilled
  losses := by
    rcases sound.losses with hnone | hmany | hbroken
    · exact .inl hnone
    · exact .inr (.inl hmany)
    · exact .inr (.inr (hover hbroken))

theorem publish (sound : x.Sound []) (clone : Option μ) :
    (x.publish clone).Sound clone.toList where
  kept := by
    have hkept := sound.kept.append_right clone.toList
    rw [List.append_nil] at hkept
    exact hkept
  newest := by
    rcases sound.newest with ⟨front, hfront⟩
    rw [List.append_nil] at hfront
    use front
    rw [← List.append_assoc]
    exact congrArg (· ++ clone.toList) hfront
  counted := by
    have hcounted := sound.counted
    rw [List.length_nil] at hcounted
    dsimp only [Client.publish]
    rw [List.length_append]
    omega
  room := sound.room
  awake := sound.awake
  filled := sound.filled
  losses := by
    rcases sound.losses with hnone | hmany | hbroken
    · exact .inl hnone
    · right
      left
      dsimp only [Client.publish]
      rw [List.length_append]
      omega
    · exact .inr (.inr hbroken)

/-- The oldest message of a session that holds too many is lost. -/
theorem shrink (sound : x.Sound pending) (hover : 10000 < x.session.messages.length) :
    Client.Sound pending { x with
      session := { x.session with messages := x.session.messages.tail }
      lost := x.lost + 1 } where
  kept := by
    apply List.Sublist.trans _ sound.kept
    apply List.Sublist.append_right
    exact (List.tail_sublist _).append_left _
  newest := by
    apply List.IsSuffix.trans _ sound.newest
    cases hmessages : x.session.messages with
    | nil => exact List.suffix_refl _
    | cons oldest rest => exact ⟨[oldest], rfl⟩
  counted := by
    have hcounted := sound.counted
    dsimp only
    rw [List.length_tail]
    omega
  room := by
    have hroom := sound.room
    dsimp only
    rw [List.length_tail]
    omega
  awake hrests := by
    have hawake := sound.awake hrests
    dsimp only
    rw [List.length_tail]
    omega
  filled _ := by
    apply List.ne_nil_of_length_pos
    dsimp only
    rw [List.length_tail]
    omega
  losses := by
    have hnewest := sound.newest.length_le
    rw [List.length_append] at hnewest
    right
    left
    dsimp only
    omega

/-- What is on its way arrives at a session that has room. -/
theorem arrive {clone : Option μ} (sound : x.Sound clone.toList)
    (hroom : x.session.messages.length ≤ 10000) :
    Client.Sound [] { x with session := x.session.addMessage clone } := by
  have hfits : ¬10000 < x.session.messages.length := Nat.not_lt_of_le hroom
  cases clone with
  | none =>
      have hsame : x.session.addMessage none = x.session := by
        rw [EventStreamingSession.addMessage, if_neg hfits]
      rw [hsame]
      exact sound
  | some copy =>
      have hsession : x.session.addMessage (some copy) =
          { messages := x.session.messages ++ [copy], semaphore := x.session.semaphore.release } := by
        rw [EventStreamingSession.addMessage, if_neg hfits]
      rw [hsession]
      constructor
      · dsimp only
        rw [List.append_nil, ← List.append_assoc]
        exact sound.kept
      · dsimp only
        rw [List.append_nil]
        exact sound.newest
      · have hcounted := sound.counted
        dsimp only
        rw [List.length_append]
        exact hcounted
      · dsimp only
        rw [List.length_append, List.length_singleton]
        omega
      · intro hrests
        have hawake := sound.awake hrests
        dsimp only [OrkSemaphore.release]
        rw [List.length_append, List.length_singleton]
        omega
      · intro _
        exact List.append_ne_nil_of_right_ne_nil _ (List.cons_ne_nil copy [])
      · exact sound.losses

theorem addMessage {clone : Option μ} (sound : x.Sound clone.toList) :
    (x.addMessage clone).Sound [] := by
  rcases Nat.lt_or_ge 10000 x.session.messages.length with hfull | hroom
  · have hshrunk := sound.shrink hfull
    have hlength : x.session.messages.tail.length ≤ 10000 := by
      have hmost := sound.room
      rw [List.length_tail]
      omega
    have harrived := hshrunk.arrive hlength
    rw [Client.addMessage, if_pos hfull]
    have hsame : x.session.addMessage clone =
        ({ x.session with messages := x.session.messages.tail } :
          EventStreamingSession μ).addMessage clone := by
      unfold EventStreamingSession.addMessage
      dsimp only
      rw [if_pos hfull, if_neg (Nat.not_lt_of_le hlength)]
    rw [hsame]
    exact harrived
  · rw [Client.addMessage, if_neg (Nat.not_lt_of_le hroom)]
    exact sound.arrive hroom

/-- The thread takes the message in front. -/
theorem take {message : μ} {rest : List μ} (sound : x.Sound pending)
    (hhand : x.phase.inHand = []) (hmessages : x.session.messages = message :: rest)
    (hover : x.phase.ended = false) :
    Client.Sound pending { x with
      session := { x.session with messages := rest }, phase := .sending message } where
  kept := by
    have hkept := sound.kept
    rw [hhand, hmessages, List.append_nil] at hkept
    dsimp only [Phase.inHand]
    rw [List.append_assoc x.sent, List.singleton_append]
    exact hkept
  newest := by
    have hnewest := sound.newest
    rw [hmessages, List.cons_append] at hnewest
    exact (List.suffix_cons message _).trans hnewest
  counted := by
    have hcounted := sound.counted
    rw [hhand, hmessages, List.length_nil, List.length_cons] at hcounted
    dsimp only [Phase.inHand]
    rw [List.length_singleton]
    omega
  room := by
    have hroom := sound.room
    rw [hmessages, List.length_cons] at hroom
    exact Nat.le_of_succ_le hroom
  awake hrests := by cases hrests
  filled hphase := by cases hphase
  losses := by
    rcases sound.losses with hnone | hmany | hbroken
    · exact .inl hnone
    · exact .inr (.inl hmany)
    · rw [hover] at hbroken
      cases hbroken

theorem deliver {message : μ} (sound : x.Sound pending) (hphase : x.phase = .sending message) :
    Client.Sound pending { x with phase := .draining, sent := x.sent ++ [message] } where
  kept := by
    have hkept := sound.kept
    rw [hphase] at hkept
    dsimp only [Phase.inHand]
    rw [List.append_nil]
    exact hkept
  newest := sound.newest
  counted := by
    have hcounted := sound.counted
    rw [hphase] at hcounted
    dsimp only [Phase.inHand] at hcounted ⊢
    rw [List.length_append, List.length_nil]
    omega
  room := sound.room
  awake hrests := by cases hrests
  filled hdraining := by cases hdraining
  losses := by
    have hlosses := sound.losses
    rw [hphase] at hlosses
    exact hlosses

/-- The message in the hands of the thread is lost with the connection. -/
theorem breakOff {message : μ} (sound : x.Sound pending) (hphase : x.phase = .sending message) :
    Client.Sound pending { x with phase := .failed, lost := x.lost + 1 } where
  kept := by
    apply List.Sublist.trans _ sound.kept
    rw [hphase]
    dsimp only [Phase.inHand]
    rw [List.append_nil]
    apply List.Sublist.append_right
    exact (List.sublist_append_left _ _).append_right _
  newest := sound.newest
  counted := by
    have hcounted := sound.counted
    rw [hphase] at hcounted
    dsimp only [Phase.inHand] at hcounted ⊢
    rw [List.length_singleton] at hcounted
    rw [List.length_nil]
    omega
  room := sound.room
  awake hrests := by cases hrests
  filled hfailed := by cases hfailed
  losses := .inr (.inr rfl)

theorem advance {success : Bool} (sound : x.Sound pending)
    (hadvance : x.advance success = some after) : after.Sound pending := by
  unfold Client.advance at hadvance
  cases hphase : x.phase with
  | connected | added | refused | failed | closed =>
      rw [hphase] at hadvance
      cases hadvance
  | waiting =>
      rw [hphase] at hadvance
      rcases Option.map_eq_some_iff.mp hadvance with ⟨session, hwait, rfl⟩
      have hmessages := EventStreamingSession.messages_of_waitForMessages hwait
      constructor
      · have hkept := sound.kept
        rw [hphase] at hkept
        dsimp only
        rw [hmessages]
        exact hkept
      · dsimp only
        rw [hmessages]
        exact sound.newest
      · have hcounted := sound.counted
        rw [hphase] at hcounted
        dsimp only
        rw [hmessages]
        exact hcounted
      · dsimp only
        rw [hmessages]
        exact sound.room
      · intro hrests
        cases hrests
      · intro hdraining
        cases hdraining
      · have hlosses := sound.losses
        rw [hphase] at hlosses
        exact hlosses
  | draining =>
      rw [hphase] at hadvance
      rcases Option.some.inj hadvance with rfl
      by_cases hempty : x.session.messages = []
      · rw [EventStreamingSession.getNumMessages, hempty, if_neg (by simp)]
        apply sound.move _ (by rw [hphase]; rfl) rfl
        · intro _
          rw [hempty]
          exact Nat.zero_le _
        · intro hwaiting
          cases hwaiting
        · rw [hphase]
          exact fun hover => hover
      · have hsome : x.session.getNumMessages ≠ 0 := by
          rw [EventStreamingSession.getNumMessages]
          exact mt List.length_eq_zero_iff.mp hempty
        rw [if_pos hsome]
        apply sound.move _ (by rw [hphase]; rfl) rfl
        · intro hrests
          cases hrests
        · exact fun _ => hempty
        · rw [hphase]
          exact fun hover => hover
  | getting =>
      rw [hphase] at hadvance
      rcases Option.some.inj hadvance with rfl
      cases hmessages : x.session.messages with
      | nil => exact absurd hmessages (sound.filled hphase)
      | cons message rest =>
          have htaken := sound.take (by rw [hphase]; rfl) hmessages (by rw [hphase]; rfl)
          dsimp only [EventStreamingSession.getTapeMessage]
          rw [hmessages]
          exact htaken
  | sending message =>
      rw [hphase] at hadvance
      cases success with
      | true =>
          rcases Option.some.inj hadvance with rfl
          exact sound.deliver hphase
      | false =>
          rcases Option.some.inj hadvance with rfl
          exact sound.breakOff hphase

end Sound

theorem registered_of_advance {success : Bool} (hadvance : x.advance success = some after) :
    x.phase.streams = true ∧ after.phase.streams = true := by
  unfold advance at hadvance
  cases hphase : x.phase with
  | connected | added | refused | failed | closed =>
      rw [hphase] at hadvance
      cases hadvance
  | waiting =>
      rw [hphase] at hadvance
      rcases Option.map_eq_some_iff.mp hadvance with ⟨session, _, rfl⟩
      exact ⟨rfl, rfl⟩
  | draining =>
      rw [hphase] at hadvance
      rcases Option.some.inj hadvance with rfl
      dsimp only
      split_ifs
      · exact ⟨rfl, rfl⟩
      · exact ⟨rfl, rfl⟩
  | getting =>
      rw [hphase] at hadvance
      rcases Option.some.inj hadvance with rfl
      dsimp only
      split
      · exact ⟨rfl, rfl⟩
      · exact ⟨rfl, rfl⟩
  | sending message =>
      rw [hphase] at hadvance
      rcases Option.some.inj hadvance with rfl
      cases success with
      | true => exact ⟨rfl, rfl⟩
      | false => exact ⟨rfl, rfl⟩

end Client

end EventStreaming

/-- `adding` is the message that is added under the mutex, and the sessions still to get it. -/
structure EventStreaming (ι μ : Type*) where
  sessions : List ι
  adding : Option (μ × List ι)
  client : ι → EventStreaming.Client μ

namespace EventStreaming

section

variable {ι μ : Type*} [DecidableEq ι]

inductive Label (ι μ : Type*)
  | addMessage (message : μ)
  | session (client : ι)
  | release
  | addSession (client : ι)
  | getNumSessions (client : ι)
  | removeSession (client : ι)
  | advance (client : ι) (success : Bool)

def start : EventStreaming ι μ where
  sessions := []
  adding := none
  client _ := .start

def setClient (s : EventStreaming ι μ) (client : ι) (x : Client μ) : EventStreaming ι μ :=
  { s with client := Function.update s.client client x }

def setPhase (s : EventStreaming ι μ) (client : ι) (phase : Phase μ) : EventStreaming ι μ :=
  s.setClient client { s.client client with phase := phase }

/-- `AddMessage` up to the first session; `clone` is none of what is not an `IReportable`. -/
def beginMessage (clone : μ → Option μ) (s : EventStreaming ι μ) (message : μ) :
    EventStreaming ι μ :=
  { s with
    adding := some (message, s.sessions)
    client := fun client =>
      if client ∈ s.sessions then (s.client client).publish (clone message)
      else s.client client }

inductive Step (clone : μ → Option μ) :
    EventStreaming ι μ → Label ι μ → EventStreaming ι μ → Prop
  | addMessage {s : EventStreaming ι μ} (message : μ) : s.adding = none →
      Step clone s (.addMessage message) (s.beginMessage clone message)
  | session {s : EventStreaming ι μ} {message : μ} {client : ι} {rest : List ι} :
      s.adding = some (message, client :: rest) →
      Step clone s (.session client)
        { s.setClient client ((s.client client).addMessage (clone message)) with
          adding := some (message, rest) }
  | release {s : EventStreaming ι μ} {message : μ} : s.adding = some (message, []) →
      Step clone s .release { s with adding := none }
  | addSession {s : EventStreaming ι μ} {client : ι} : s.adding = none →
      (s.client client).phase = .connected →
      Step clone s (.addSession client)
        { s.setPhase client .added with sessions := s.sessions ++ [client] }
  | getNumSessions {s : EventStreaming ι μ} {client : ι} : s.adding = none →
      (s.client client).phase = .added →
      Step clone s (.getNumSessions client)
        (s.setPhase client (if 100 < s.sessions.length then .refused else .waiting))
  | removeSession {s : EventStreaming ι μ} {client : ι} : s.adding = none →
      (s.client client).phase = .refused ∨ (s.client client).phase = .failed →
      Step clone s (.removeSession client)
        { s.setPhase client .closed with sessions := s.sessions.filter (· ≠ client) }
  | advance {s : EventStreaming ι μ} {client : ι} {success : Bool} {after : Client μ} :
      (s.client client).advance success = some after →
      Step clone s (.advance client success) (s.setClient client after)

/-- What the client's session is still to get of the message under the mutex. -/
def pending (clone : μ → Option μ) (s : EventStreaming ι μ) (client : ι) : List μ :=
  match s.adding with
  | some (message, rest) => if client ∈ rest then (clone message).toList else []
  | none => []

structure Sound (clone : μ → Option μ) (s : EventStreaming ι μ) : Prop where
  nodup : s.sessions.Nodup
  registered : ∀ client, client ∈ s.sessions ↔ (s.client client).phase.registered = true
  addingNodup : ∀ message rest, s.adding = some (message, rest) → rest.Nodup
  addingTo : ∀ message rest, s.adding = some (message, rest) →
    ∀ client ∈ rest, client ∈ s.sessions
  admitted : (s.sessions.countP fun client => (s.client client).phase.streams) ≤ 100
  clients : ∀ client, (s.client client).Sound (s.pending clone client)

variable {clone : μ → Option μ} {s s' : EventStreaming ι μ} {label : Label ι μ} {client : ι}
  {x : Client μ}

theorem setClient_self (s : EventStreaming ι μ) (client : ι) (x : Client μ) :
    (s.setClient client x).client client = x := by
  dsimp only [setClient]
  rw [Function.update_self]

theorem setClient_of_ne {other : ι} (hne : other ≠ client) :
    (s.setClient client x).client other = s.client other := by
  dsimp only [setClient]
  rw [Function.update_of_ne hne]

theorem pending_of_free (hfree : s.adding = none) : s.pending clone client = [] := by
  rw [pending, hfree]

theorem pending_of_adding {message : μ} {rest : List ι}
    (hadding : s.adding = some (message, rest)) :
    s.pending clone client = if client ∈ rest then (clone message).toList else [] := by
  rw [pending, hadding]

theorem sound_start : (start : EventStreaming ι μ).Sound clone where
  nodup := List.nodup_nil
  registered _ := iff_of_false List.not_mem_nil Bool.false_ne_true
  addingNodup _ _ hadding := by cases hadding
  addingTo _ _ hadding := by cases hadding
  admitted := Nat.zero_le _
  clients _ := Client.sound_start

namespace Sound

/-- Where one client changes, all but the number of admitted clients is a matter of this
client. -/
theorem set (sound : s.Sound clone)
    (hregistered : x.phase.registered = (s.client client).phase.registered)
    (hadmitted : (s.sessions.countP fun other =>
      ((s.setClient client x).client other).phase.streams) ≤ 100)
    (hsound : x.Sound (s.pending clone client)) : (s.setClient client x).Sound clone where
  nodup := sound.nodup
  registered other := by
    by_cases heq : other = client
    · rw [heq, setClient_self, hregistered]
      exact sound.registered client
    · rw [setClient_of_ne heq]
      exact sound.registered other
  addingNodup := sound.addingNodup
  addingTo := sound.addingTo
  admitted := hadmitted
  clients other := by
    by_cases heq : other = client
    · rw [heq, setClient_self]
      exact hsound
    · rw [setClient_of_ne heq]
      exact sound.clients other

/-- A client that does not come to stream admits no one. -/
theorem admitted_set (sound : s.Sound clone)
    (hstreams : x.phase.streams = true → (s.client client).phase.streams = true) :
    (s.sessions.countP fun other => ((s.setClient client x).client other).phase.streams) ≤ 100 := by
  apply Nat.le_trans _ sound.admitted
  apply List.countP_mono_left
  intro other _ hother
  by_cases heq : other = client
  · rw [heq, setClient_self] at hother
    rw [heq]
    exact hstreams hother
  · rw [setClient_of_ne heq] at hother
    exact hother

theorem beginMessage (sound : s.Sound clone) (message : μ) (hfree : s.adding = none) :
    (s.beginMessage clone message).Sound clone := by
  have hphase (client : ι) : ((s.beginMessage clone message).client client).phase =
      (s.client client).phase := by
    dsimp only [EventStreaming.beginMessage]
    split_ifs
    · rfl
    · rfl
  constructor
  · exact sound.nodup
  · intro client
    rw [hphase]
    exact sound.registered client
  · intro message rest hadding
    rcases Option.some.inj hadding with ⟨⟩
    exact sound.nodup
  · intro message rest hadding client hclient
    rcases Option.some.inj hadding with ⟨⟩
    exact hclient
  · simp only [hphase]
    exact sound.admitted
  · intro client
    have hsound := sound.clients client
    rw [pending_of_free hfree] at hsound
    rw [pending, EventStreaming.beginMessage]
    dsimp only
    split_ifs
    · exact hsound.publish (clone message)
    · exact hsound

theorem session {message : μ} {rest : List ι} (sound : s.Sound clone)
    (hadding : s.adding = some (message, client :: rest)) :
    EventStreaming.Sound clone
      { s.setClient client ((s.client client).addMessage (clone message)) with
        adding := some (message, rest) } := by
  have hnodup := List.nodup_cons.mp (sound.addingNodup message _ hadding)
  constructor
  · exact sound.nodup
  · intro other
    by_cases heq : other = client
    · rw [heq]
      dsimp only
      rw [setClient_self]
      exact sound.registered client
    · dsimp only
      rw [setClient_of_ne heq]
      exact sound.registered other
  · intro message rest hafter
    rcases Option.some.inj hafter with ⟨⟩
    exact hnodup.2
  · intro message rest hafter other hother
    rcases Option.some.inj hafter with ⟨⟩
    exact sound.addingTo _ _ hadding other (List.mem_cons_of_mem client hother)
  · exact sound.admitted_set fun hstreams => hstreams
  · intro other
    have hsound := sound.clients other
    rw [pending_of_adding hadding] at hsound
    rw [pending_of_adding (by rfl)]
    by_cases heq : other = client
    · rw [heq, if_pos List.mem_cons_self] at hsound
      rw [heq, if_neg hnodup.1]
      dsimp only
      rw [setClient_self]
      exact hsound.addMessage
    · dsimp only
      rw [setClient_of_ne heq]
      by_cases hmem : other ∈ rest
      · rw [if_pos (List.mem_cons_of_mem client hmem)] at hsound
        rw [if_pos hmem]
        exact hsound
      · rw [if_neg (fun hcons => (List.mem_cons.mp hcons).elim heq hmem)] at hsound
        rw [if_neg hmem]
        exact hsound

theorem release {message : μ} (sound : s.Sound clone) (hadding : s.adding = some (message, [])) :
    EventStreaming.Sound clone { s with adding := none } where
  nodup := sound.nodup
  registered := sound.registered
  addingNodup _ _ hafter := by cases hafter
  addingTo _ _ hafter := by cases hafter
  admitted := sound.admitted
  clients client := by
    have hsound := sound.clients client
    rw [pending_of_adding hadding, if_neg List.not_mem_nil] at hsound
    exact hsound

/-- The sessions change by one client, under the mutex. -/
theorem enlist {sessions : List ι} {phase : Phase μ} (sound : s.Sound clone)
    (hfree : s.adding = none) (hnodup : sessions.Nodup)
    (hothers : ∀ other ≠ client, other ∈ sessions ↔ other ∈ s.sessions)
    (hmem : client ∈ sessions ↔ phase.registered = true)
    (hstreams : phase.streams = false)
    (hlength : (sessions.countP fun other => (s.client other).phase.streams) ≤
      s.sessions.countP fun other => (s.client other).phase.streams)
    (hsound : Client.Sound [] { s.client client with phase := phase }) :
    EventStreaming.Sound clone { s.setPhase client phase with sessions := sessions } where
  nodup := hnodup
  registered other := by
    by_cases heq : other = client
    · rw [heq]
      dsimp only
      rw [setPhase, setClient_self]
      exact hmem
    · dsimp only
      rw [setPhase, setClient_of_ne heq, hothers other heq]
      exact sound.registered other
  addingNodup message rest hadding := by
    dsimp only [setPhase, EventStreaming.setClient] at hadding
    rw [hfree] at hadding
    cases hadding
  addingTo message rest hadding := by
    dsimp only [setPhase, EventStreaming.setClient] at hadding
    rw [hfree] at hadding
    cases hadding
  admitted := by
    apply Nat.le_trans _ (Nat.le_trans hlength sound.admitted)
    apply List.countP_mono_left
    intro other _ hother
    by_cases heq : other = client
    · rw [heq] at hother
      dsimp only at hother
      rw [setPhase, setClient_self, hstreams] at hother
      cases hother
    · dsimp only at hother
      rw [setPhase, setClient_of_ne heq] at hother
      exact hother
  clients other := by
    have hnone : EventStreaming.pending clone
        { s.setPhase client phase with sessions := sessions } other = [] :=
      pending_of_free hfree
    rw [hnone]
    by_cases heq : other = client
    · rw [heq]
      dsimp only
      rw [setPhase, setClient_self]
      exact hsound
    · have hother := sound.clients other
      rw [pending_of_free hfree] at hother
      dsimp only
      rw [setPhase, setClient_of_ne heq]
      exact hother

theorem step (sound : s.Sound clone) (taken : Step clone s label s') : s'.Sound clone := by
  cases taken with
  | addMessage message hfree => exact sound.beginMessage message hfree
  | session hadding => exact sound.session hadding
  | release hadding => exact sound.release hadding
  | @addSession client hfree hphase =>
      have habsent : client ∉ s.sessions := by
        rw [sound.registered, hphase]
        exact Bool.false_ne_true
      have hclient := sound.clients client
      rw [pending_of_free hfree] at hclient
      apply sound.enlist hfree
      · exact List.Nodup.append sound.nodup (List.nodup_singleton client)
          (List.disjoint_singleton.mpr habsent)
      · intro other hne
        rw [List.mem_append, List.mem_singleton, or_iff_left hne]
      · exact iff_of_true (List.mem_append_right _ List.mem_cons_self) rfl
      · rfl
      · rw [List.countP_append, List.countP_singleton, hphase]
        exact Nat.le_refl _
      · apply hclient.move _ (by rw [hphase]; rfl) rfl
        · intro _
          apply hclient.awake
          rw [hphase]
          rfl
        · intro hgetting
          cases hgetting
        · rw [hphase]
          exact fun hover => hover
  | @getNumSessions client hfree hphase =>
      have hclient := sound.clients client
      have hawake : (s.client client).session.messages.length ≤
          (s.client client).session.semaphore.count := by
        apply hclient.awake
        rw [hphase]
        rfl
      rcases Nat.lt_or_ge 100 s.sessions.length with hmany | hfew
      · rw [if_pos hmany]
        apply sound.set
        · rw [hphase]
          rfl
        · apply sound.admitted_set
          intro hstreams
          cases hstreams
        · apply hclient.move _ (by rw [hphase]; rfl) rfl
          · exact fun _ => hawake
          · intro hgetting
            cases hgetting
          · rw [hphase]
            exact fun hover => hover
      · rw [if_neg (Nat.not_lt_of_le hfew)]
        apply sound.set
        · rw [hphase]
          rfl
        · exact Nat.le_trans List.countP_le_length hfew
        · apply hclient.move _ (by rw [hphase]; rfl) rfl
          · exact fun _ => hawake
          · intro hgetting
            cases hgetting
          · rw [hphase]
            exact fun hover => hover
  | @removeSession client hfree hphase =>
      have hclient := sound.clients client
      rw [pending_of_free hfree] at hclient
      apply sound.enlist hfree
      · exact sound.nodup.filter _
      · intro other hne
        rw [List.mem_filter, decide_eq_true hne, and_iff_left rfl]
      · apply iff_of_false _ Bool.false_ne_true
        intro hmem
        exact of_decide_eq_true (List.mem_filter.mp hmem).2 rfl
      · rfl
      · exact List.filter_sublist.countP_le
      · apply hclient.move _ _ rfl
        · intro hrests
          cases hrests
        · intro hgetting
          cases hgetting
        · exact fun _ => rfl
        · rcases hphase with hrefused | hfailed
          · rw [hrefused]
            rfl
          · rw [hfailed]
            rfl
  | @advance client success after hadvance =>
      have hstreams := Client.registered_of_advance hadvance
      apply sound.set
      · rw [Phase.registered_of_streams hstreams.1, Phase.registered_of_streams hstreams.2]
      · exact sound.admitted_set fun _ => hstreams.1
      · exact (sound.clients client).advance hadvance

theorem of_run {labels : List (Label ι μ)} (run : Steps (Step clone) start labels s) :
    s.Sound clone :=
  run.invariant (fun _ _ _ before taken => before.step taken) sound_start

end Sound

/-! ### What the clients get -/

section

/-- One client, to whom one message is on its way. -/
private def oneWaits : EventStreaming Unit Nat where
  sessions := [()]
  adding := none
  client _ :=
    { session := { messages := [7], semaphore := ⟨1⟩ }
      phase := .getting
      published := [7]
      sent := []
      lost := 0 }

private theorem run_oneWaits : Steps (Step some) start
    [.addSession (), .getNumSessions (), .addMessage 7, .session (), .release, .advance () true,
      .advance () true] oneWaits := by
  apply Steps.cons (.addSession rfl rfl)
  apply Steps.cons (.getNumSessions rfl rfl)
  apply Steps.cons (.addMessage 7 rfl)
  apply Steps.cons (.session rfl)
  apply Steps.cons (.release rfl)
  apply Steps.cons (.advance rfl)
  apply Steps.cons (.advance rfl)
  exact .nil oneWaits

end

/-- In every run a client has got, and is still to get, messages of those added while its
session was there, in their order and each once; what waits are the newest of them. As many as
are missing are lost, and none is before the client is more than 10000 behind or its connection
breaks. -/
theorem messages_of_run (clone : μ → Option μ) (labels : List (Label ι μ))
    (s : EventStreaming ι μ) (run : Steps (Step clone) start labels s) (client : ι) :
    let x := s.client client
    let given := x.sent ++ x.phase.inHand ++ x.session.messages ++ s.pending clone client
    given.Sublist x.published ∧ x.published.length = given.length + x.lost ∧
      x.session.messages ++ s.pending clone client <:+ x.published ∧
      (x.lost = 0 → given = x.published) ∧
      (x.published.length ≤ 10000 → x.phase.ended = false → x.lost = 0) := by
  have sound := (Sound.of_run run).clients client
  have hlength : (s.client client).published.length =
      ((s.client client).sent ++ (s.client client).phase.inHand ++
        (s.client client).session.messages ++ s.pending clone client).length +
        (s.client client).lost := by
    rw [List.length_append, List.length_append, List.length_append]
    exact sound.counted
  dsimp only
  constructor
  · exact sound.kept
  constructor
  · exact hlength
  constructor
  · exact sound.newest
  constructor
  · intro hlost
    rw [hlost, Nat.add_zero] at hlength
    exact sound.kept.eq_of_length hlength.symm
  · intro hfew hgoes
    rcases sound.losses with hnone | hmany | hover
    · exact hnone
    · omega
    · rw [hgoes] at hover
      cases hover

theorem messages_of_run_oneWaits :
    [] ++ [] ++ [7] ++ [] = (oneWaits.client ()).published :=
  (messages_of_run some _ oneWaits run_oneWaits ()).2.2.2.1 rfl

/-- In every run no more than 100 clients get past the test on the number of sessions, however
many are added before the test; a session holds no more than 10001 messages; a thread that is
past the test on the number of messages finds one; and a message that is being added goes to
sessions that are there, and to none twice. -/
theorem bounds_of_run (clone : μ → Option μ) (labels : List (Label ι μ))
    (s : EventStreaming ι μ) (run : Steps (Step clone) start labels s) :
    (∀ clients : List ι, clients.Nodup →
        (∀ client ∈ clients, (s.client client).phase.streams = true) → clients.length ≤ 100) ∧
      (∀ client, (s.client client).session.messages.length ≤ 10001 ∧
        ((s.client client).phase = .getting → (s.client client).session.messages ≠ [])) ∧
      ∀ message rest, s.adding = some (message, rest) → rest.Nodup ∧
        ∀ client ∈ rest, (s.client client).phase.registered = true := by
  have sound := Sound.of_run run
  constructor
  · intro clients hnodup hstreams
    have hsubset : clients ⊆ s.sessions.filter fun client => (s.client client).phase.streams := by
      intro client hclient
      rw [List.mem_filter, sound.registered]
      exact ⟨Phase.registered_of_streams (hstreams client hclient), hstreams client hclient⟩
    have hlength := (hnodup.subperm hsubset).length_le
    rw [← List.countP_eq_length_filter] at hlength
    exact Nat.le_trans hlength sound.admitted
  constructor
  · intro client
    exact ⟨(sound.clients client).room, (sound.clients client).filled⟩
  · intro message rest hadding
    constructor
    · exact sound.addingNodup message rest hadding
    · intro client hclient
      rw [← sound.registered]
      exact sound.addingTo message rest hadding client hclient

theorem bounds_of_run_oneWaits :
    (oneWaits.client ()).session.messages.length ≤ 10001 ∧
      (oneWaits.client ()).session.messages ≠ [] :=
  have hbounds := (bounds_of_run some _ oneWaits run_oneWaits).2.1 ()
  ⟨hbounds.1, hbounds.2 rfl⟩

/-! ### No message waits for ever -/

theorem setClient_setClient (s : EventStreaming ι μ) (client : ι) (x y : Client μ) :
    (s.setClient client x).setClient client y = s.setClient client y := by
  dsimp only [setClient]
  rw [Function.update_idem]

/-- The thread goes on alone, and each message gets through. -/
def Drains (clone : μ → Option μ) (s : EventStreaming ι μ) (client : ι) (sent : List μ) : Prop :=
  ∃ count after, Steps (Step clone) s (List.replicate count (.advance client true))
      (s.setClient client after) ∧
    after.phase = .waiting ∧ after.session.messages = [] ∧ after.sent = sent ∧
    after.lost = (s.client client).lost

theorem Drains.step {sent : List μ} {x : Client μ}
    (hadvance : (s.client client).advance true = some x) (hlost : x.lost = (s.client client).lost)
    (drains : Drains clone (s.setClient client x) client sent) : Drains clone s client sent := by
  rcases drains with ⟨count, after, run, hphase, hmessages, hsent, hafter⟩
  rw [setClient_setClient] at run
  rw [setClient_self, hlost] at hafter
  exact ⟨count + 1, after, .cons (.advance hadvance) run, hphase, hmessages, hsent, hafter⟩

theorem drains_of_draining {messages : List μ} (hphase : (s.client client).phase = .draining)
    (hmessages : (s.client client).session.messages = messages) :
    Drains clone s client ((s.client client).sent ++ messages) := by
  induction messages generalizing s with
  | nil =>
      let x : Client μ := { s.client client with phase := .waiting }
      have hadvance : (s.client client).advance true = some x := by
        rw [Client.advance, hphase]
        dsimp only
        rw [EventStreamingSession.getNumMessages, hmessages, if_neg (by simp)]
      exact ⟨1, x, .cons (.advance hadvance) (.nil _), rfl, hmessages, (List.append_nil _).symm, rfl⟩
  | cons message rest ih =>
      let x : Client μ := { s.client client with phase := .getting }
      have hfirst : (s.client client).advance true = some x := by
        rw [Client.advance, hphase]
        dsimp only
        rw [EventStreamingSession.getNumMessages, hmessages, if_pos (by simp)]
      let y : Client μ := { x with
        session := { x.session with messages := rest }, phase := .sending message }
      have hsecond : ((s.setClient client x).client client).advance true = some y := by
        rw [setClient_self, Client.advance]
        dsimp only [x, EventStreamingSession.getTapeMessage]
        rw [hmessages]
        rfl
      let z : Client μ := { y with phase := .draining, sent := y.sent ++ [message] }
      have hthird : (((s.setClient client x).setClient client y).client client).advance true =
          some z := by
        rw [setClient_self]
        rfl
      apply Drains.step hfirst rfl
      apply Drains.step hsecond (by rw [setClient_self])
      apply Drains.step hthird (by rw [setClient_self])
      have hrest := @ih (((s.setClient client x).setClient client y).setClient client z)
        (by rw [setClient_self]) (by rw [setClient_self])
      rw [setClient_self, List.append_assoc] at hrest
      exact hrest

theorem drains_of_sending {message : μ} (hphase : (s.client client).phase = .sending message) :
    Drains clone s client
      ((s.client client).sent ++ [message] ++ (s.client client).session.messages) := by
  let x : Client μ := { s.client client with
    phase := .draining, sent := (s.client client).sent ++ [message] }
  have hadvance : (s.client client).advance true = some x := by
    rw [Client.advance, hphase]
    rfl
  apply Drains.step hadvance rfl
  have hrest := @drains_of_draining _ _ _ clone (s.setClient client x) client
    (s.client client).session.messages (by rw [setClient_self]) (by rw [setClient_self])
  rw [setClient_self] at hrest
  exact hrest

/-- No wake-up is lost: at any time of any run the thread of a client whose connection holds
need not wait for anyone before it has sent all that waits, in order, also while the mutex of
the sessions is held. -/
theorem drains_of_run (clone : μ → Option μ) (labels : List (Label ι μ))
    (s : EventStreaming ι μ) (run : Steps (Step clone) start labels s) (client : ι)
    (hstreams : (s.client client).phase.streams = true)
    (hgoes : (s.client client).phase.ended = false) :
    ∃ count after, Steps (Step clone) s (List.replicate count (.advance client true))
        (s.setClient client after) ∧
      after.phase = .waiting ∧ after.session.messages = [] ∧
      after.sent = (s.client client).sent ++ (s.client client).phase.inHand ++
        (s.client client).session.messages ∧
      after.lost = (s.client client).lost := by
  show Drains clone s client _
  have sound := (Sound.of_run run).clients client
  cases hphase : (s.client client).phase with
  | connected | added | refused | closed =>
      rw [hphase] at hstreams
      cases hstreams
  | failed =>
      rw [hphase] at hgoes
      cases hgoes
  | draining =>
      dsimp only [Phase.inHand]
      rw [List.append_nil]
      exact drains_of_draining hphase rfl
  | sending message => exact drains_of_sending hphase
  | getting =>
      cases hmessages : (s.client client).session.messages with
      | nil => exact absurd hmessages (sound.filled hphase)
      | cons message rest =>
          let x : Client μ := { s.client client with
            session := { (s.client client).session with messages := rest }
            phase := .sending message }
          have hadvance : (s.client client).advance true = some x := by
            rw [Client.advance, hphase]
            dsimp only [EventStreamingSession.getTapeMessage]
            rw [hmessages]
            rfl
          apply Drains.step hadvance rfl
          have hrest := @drains_of_sending _ _ _ clone (s.setClient client x) client message
            (by rw [setClient_self])
          rw [setClient_self] at hrest
          dsimp only [Phase.inHand]
          rw [List.append_nil, ← List.singleton_append, ← List.append_assoc]
          exact hrest
  | waiting =>
      cases hmessages : (s.client client).session.messages with
      | nil =>
          have hsame : s.setClient client (s.client client) = s := by
            dsimp only [setClient]
            rw [Function.update_eq_self]
          use 0, s.client client
          rw [hsame]
          exact ⟨.nil s, hphase, hmessages, by simp [Phase.inHand], rfl⟩
      | cons message rest =>
          have hawake := sound.awake (by rw [hphase]; rfl)
          rw [hmessages, List.length_cons] at hawake
          rcases EventStreamingSession.exists_waitForMessages (Nat.lt_of_lt_of_le
            (Nat.succ_pos _) hawake) with ⟨session, hwait⟩
          let x : Client μ := { s.client client with session := session, phase := .draining }
          have hadvance : (s.client client).advance true = some x := by
            rw [Client.advance, hphase]
            dsimp only
            rw [hwait]
            rfl
          apply Drains.step hadvance rfl
          have hrest := @drains_of_draining _ _ _ clone (s.setClient client x) client
            (message :: rest) (by rw [setClient_self]) (by
              rw [setClient_self, ← hmessages]
              exact EventStreamingSession.messages_of_waitForMessages hwait)
          rw [setClient_self] at hrest
          dsimp only [Phase.inHand]
          rw [List.append_nil]
          exact hrest

theorem drains_of_run_oneWaits :
    ∃ count after, Steps (Step some) oneWaits (List.replicate count (.advance () true))
        (oneWaits.setClient () after) ∧
      after.phase = .waiting ∧ after.session.messages = [] ∧ after.sent = [] ++ [] ++ [7] ∧
      after.lost = 0 :=
  drains_of_run some _ oneWaits run_oneWaits () rfl rfl

end

end EventStreaming

end OrkAudio
