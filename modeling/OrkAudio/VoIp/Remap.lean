import OrkAudio.VoIp.Streams

/-! When a packet of neither side takes a side over.

The candidate is one, but each side counts its packets for itself, and taking one side over
leaves the count of the other as it is. The next candidate then starts from that count. -/

namespace OrkAudio.VoIp

open Lib

inductive Side
  | side1 | side2
  deriving DecidableEq, Repr

def Side.other : Side → Side
  | .side1 => .side2
  | .side2 => .side1

def Side.channel : Side → Nat
  | .side1 => 1
  | .side2 => 2

namespace Streams

def last (t : Streams) : Side → Option RtpPacketInfo
  | .side1 => t.side1
  | .side2 => t.side2

def aliens (t : Streams) : Side → Nat
  | .side1 => t.aliens1
  | .side2 => t.aliens2

/-- The packet belongs to the stream of this side. -/
def belongs (t : Streams) (side : Side) (rtpPacket : RtpPacketInfo) : Bool :=
  (t.last side).any fun last => isSameStream last rtpPacket

def isAlien (t : Streams) (rtpPacket : RtpPacketInfo) : Bool :=
  t.side1.isSome && t.side2.isSome &&
    !t.belongs .side1 rtpPacket && !t.belongs .side2 rtpPacket

/-- A packet of neither side that puts an end to the stream of this side. -/
def TakesOver (side : Side) (t : Streams) (rtpPacket : RtpPacketInfo) (t' : Streams) : Prop :=
  t.isAlien rtpPacket = true ∧ t.last side ≠ t'.side1 ∧ t.last side ≠ t'.side2

theorem isAlien_iff {t : Streams} {rtpPacket : RtpPacketInfo} :
    t.isAlien rtpPacket = true ↔ t.IsAlien rtpPacket := by
  rw [isAlien, belongs, belongs, last, last, IsAlien]
  cases hside1 : t.side1 with
  | none => simp
  | some side1 =>
      cases hside2 : t.side2 with
      | none => simp
      | some side2 => simp

/-- There is a foreign packet only where both sides have theirs. -/
theorem isAlien_sides {t : Streams} {rtpPacket : RtpPacketInfo}
    (halien : t.isAlien rtpPacket = true) : t.side1 ≠ none ∧ t.side2 ≠ none := by
  obtain ⟨side1, side2, hside1, hside2, -, -⟩ := isAlien_iff.mp halien
  exact ⟨by simp [hside1], by simp [hside2]⟩

end Streams

/-! ### What was received -/

/-- What is noted of a packet: whether it belonged to neither side, made its SSRC the
candidate, and changed the last packet of a side. -/
structure Received where
  ssrc : UInt32
  alien : Bool
  becomesCandidate : Bool
  renews : Side → Bool

def received (t : Streams) (rtpPacket : RtpPacketInfo) (t' : Streams) : Received where
  ssrc := rtpPacket.ssrc
  alien := t.isAlien rtpPacket
  becomesCandidate := t.candidate != rtpPacket.ssrc && t'.candidate == rtpPacket.ssrc
  renews side := t.last side != t'.last side

/-- The last packet of the side changes, or the SSRC becomes the candidate. -/
def Received.startsAnew (side : Side) (ssrc : UInt32) (r : Received) : Bool :=
  r.renews side || (r.becomesCandidate && r.ssrc == ssrc)

/-- The foreign packets of an SSRC since the side has got its last packet and since the SSRC
has become the candidate. The log has the latest packet first. -/
def further (side : Side) (ssrc : UInt32) (log : List Received) : Nat :=
  (log.takeWhile fun r => !r.startsAnew side ssrc).countP fun r => r.alien && r.ssrc == ssrc

theorem further_cons {side : Side} {ssrc : UInt32} {r : Received} (log : List Received)
    (hgoes : r.startsAnew side ssrc = false) :
    further side ssrc (r :: log) =
      further side ssrc log + if r.alien && r.ssrc == ssrc then 1 else 0 := by
  rw [further, List.takeWhile_cons_of_pos (by simp [hgoes]), List.countP_cons, further]

theorem further_le {side : Side} {ssrc : UInt32} {r : Received} (log : List Received)
    (hgoes : r.startsAnew side ssrc = false) :
    further side ssrc log ≤ further side ssrc (r :: log) := by
  rw [further_cons log hgoes]
  exact Nat.le_add_right _ _

/-! ### Runs -/

section

variable (cfg : Config) (keys : SessionKeys)

/-- The session after some packets; what lies between them leaves its streams as they are. -/
inductive Fed (cond : SessionData → RtpPacketInfo → Prop) (start : Context) :
    List Received → Context → Prop
  | start : Fed cond start [] start
  | packet {log : List Received} {c : Context} (env : Env) (rtpPacket : RtpPacketInfo) :
      Fed cond start log c → cond c.session rtpPacket →
      Fed cond start (received c.session.streams rtpPacket
          (addRtpPacket cfg env rtpPacket keys c).2.session.streams :: log)
        (addRtpPacket cfg env rtpPacket keys c).2
  | elsewhere {log : List Received} {c c' : Context} : Fed cond start log c →
      c'.session.streams = c.session.streams → Fed cond start log c'

/-- A packet for which no count is left over: a candidate is counted from nothing, and a packet
of one side does not have the sides exchanged while the other counts. -/
def NoLeftOver (s : SessionData) (rtpPacket : RtpPacketInfo) : Prop :=
  (s.streams.isAlien rtpPacket = true → s.ssrcCandidate = noSsrcCandidate →
    s.numAlienRtpPacketsS1 = 0 ∧ s.numAlienRtpPacketsS2 = 0) ∧
  (cfg.rtpS1S2MappingDeterministic = true → s.mappedS1S2 = false →
    s.protocol = .protSip ∨ s.protocol = .protSkinny → s.ssrcCandidate ≠ noSsrcCandidate →
    (s.streams.belongs .side1 rtpPacket = true → s.numAlienRtpPacketsS2 = 0) ∧
    (s.streams.belongs .side2 rtpPacket = true → s.numAlienRtpPacketsS1 = 0))

instance instDecidableNoLeftOver (s : SessionData) (rtpPacket : RtpPacketInfo) :
    Decidable (NoLeftOver cfg s rtpPacket) := inferInstanceAs (Decidable (_ ∧ _))

/-- The counts of the candidate are borne out by what was received. -/
structure BorneOut (t : Streams) (log : List Received) : Prop where
  unset : ∀ side, t.last side = none → t.aliens1 = 0 ∧ t.aliens2 = 0
  few : t.candidate ≠ noSsrcCandidate → ∀ side, t.aliens side ≤ 10
  counted : t.candidate ≠ noSsrcCandidate →
    ∀ side, t.aliens side ≤ further side t.candidate log

end

section

variable {cfg : Config} {env : Env} {t t' : Streams} {rtpPacket : RtpPacketInfo}
  {log : List Received}

/-- Nothing starts anew where neither the last packet of the side nor the candidate changes. -/
theorem startsAnew_received {side : Side} (hlast : t'.last side = t.last side)
    (hcandidate : t'.candidate = t.candidate) :
    (received t rtpPacket t').startsAnew side t'.candidate = false := by
  simp only [Received.startsAnew, received, hlast, hcandidate, bne_self_eq_false, Bool.false_or,
    Bool.and_eq_false_imp, Bool.and_eq_true, bne_iff_ne, beq_iff_eq]
  intro ⟨hdiffers, hequal⟩
  exact absurd hequal hdiffers

namespace BorneOut

/-- Without a candidate only the sides matter. -/
theorem of_none (hcandidate : t'.candidate = noSsrcCandidate)
    (hset : ∀ side, t'.last side ≠ none) : BorneOut t' log where
  unset side hnone := absurd hnone (hset side)
  few hcandidate' := absurd hcandidate hcandidate'
  counted hcandidate' := absurd hcandidate hcandidate'

/-- Without a count nothing has to be borne out. -/
theorem of_zero (haliens1 : t'.aliens1 = 0) (haliens2 : t'.aliens2 = 0) : BorneOut t' log where
  unset _ _ := ⟨haliens1, haliens2⟩
  few _ side := by cases side <;> simp [Streams.aliens, haliens1, haliens2]
  counted _ side := by cases side <;> simp [Streams.aliens, haliens1, haliens2]

/-- A packet after which each side counts nothing, or what it counted with the same last
packet. -/
theorem step (h : BorneOut t log) (hcandidate : t'.candidate = t.candidate)
    (hset : ∀ side, t'.last side = none → t'.aliens1 = 0 ∧ t'.aliens2 = 0)
    (hside : ∀ side, t'.aliens side = 0 ∨
      t'.aliens side = t.aliens side ∧ t'.last side = t.last side) :
    BorneOut t' (received t rtpPacket t' :: log) where
  unset := hset
  few hcandidate' side := by
    rcases hside side with hzero | ⟨haliens, _⟩
    · rw [hzero]
      exact Nat.zero_le 10
    · rw [haliens]
      exact h.few (hcandidate ▸ hcandidate') side
  counted hcandidate' side := by
    rcases hside side with hzero | ⟨haliens, hlast⟩
    · rw [hzero]
      exact Nat.zero_le _
    · have hcounted := h.counted (hcandidate ▸ hcandidate') side
      rw [← hcandidate] at hcounted
      rw [haliens]
      exact hcounted.trans (further_le log (startsAnew_received hlast hcandidate))

/-- A packet that changes neither the sides nor the counts nor the candidate. -/
theorem same (h : BorneOut t log) (hlast : ∀ side, t'.last side = t.last side)
    (haliens : ∀ side, t'.aliens side = t.aliens side) (hcandidate : t'.candidate = t.candidate) :
    BorneOut t' (received t rtpPacket t' :: log) := by
  apply h.step hcandidate
  · intro side hnone
    obtain ⟨hzero1, hzero2⟩ := h.unset side (hlast side ▸ hnone)
    exact ⟨(haliens .side1).trans hzero1, (haliens .side2).trans hzero2⟩
  · intro side
    exact .inr ⟨haliens side, hlast side⟩

/-- One more foreign packet of the candidate. -/
theorem count (h : BorneOut t log) (halien : t.isAlien rtpPacket = true)
    (hssrc : rtpPacket.ssrc = t.candidate) (hlast : ∀ side, t'.last side = t.last side)
    (haliens : ∀ side, t'.aliens side = t.aliens side + 1)
    (hcandidate : t'.candidate = t.candidate) (hfew : ∀ side, t'.aliens side ≤ 10) :
    BorneOut t' (received t rtpPacket t' :: log) where
  unset side hnone := by
    rw [hlast] at hnone
    obtain ⟨hset1, hset2⟩ := Streams.isAlien_sides halien
    cases side
    · exact absurd hnone hset1
    · exact absurd hnone hset2
  few _ := hfew
  counted hcandidate' side := by
    have hcounted := h.counted (hcandidate ▸ hcandidate') side
    have hone : ((received t rtpPacket t').alien &&
        (received t rtpPacket t').ssrc == t'.candidate) = true := by
      simp [received, halien, hssrc, hcandidate]
    rw [further_cons log (startsAnew_received (hlast side) hcandidate), if_pos hone, haliens side,
      hcandidate]
    exact Nat.add_le_add_right hcounted 1

end BorneOut

/-- A side is given to a packet of the candidate, which has been counted ten times before. -/
structure GivenTo (side : Side) (t : Streams) (rtpPacket : RtpPacketInfo) (t' : Streams) :
    Prop where
  candidate : t.candidate = rtpPacket.ssrc
  signalled : t.candidate ≠ noSsrcCandidate
  counted : 10 ≤ t.aliens side
  taken : t'.last side = some rtpPacket
  other : t'.last side.other = t.last side.other
  free : t'.candidate = noSsrcCandidate

variable (env) in
/-- A foreign packet is counted at most, or is given a side. -/
theorem BorneOut.alien (h : BorneOut t log) (halien : t.isAlien rtpPacket = true)
    (hnew : t.candidate = noSsrcCandidate → t.aliens1 = 0 ∧ t.aliens2 = 0) :
    let taken := (t.countAlien env rtpPacket).takeOver rtpPacket
    ((∀ side, taken.2.last side = t.last side) ∧
      BorneOut taken.2 (received t rtpPacket taken.2 :: log) ∧ taken.1 = .dismissed) ∨
    ∃ side, GivenTo side t rtpPacket taken.2 ∧ taken.1 = .accepted side.channel := by
  dsimp only
  generalize htaken : (t.countAlien env rtpPacket).takeOver rtpPacket = taken
  obtain ⟨verdict, t'⟩ := taken
  obtain ⟨hset1, hset2⟩ := Streams.isAlien_sides halien
  have hset (side : Side) : t.last side ≠ none := by cases side <;> assumption
  rw [Streams.countAlien] at htaken
  split_ifs at htaken with hnone hssrc hexpired
  · obtain ⟨hzero1, hzero2⟩ := hnew hnone
    simp only [Streams.takeOver, hzero1, hzero2, Nat.not_lt_zero, gt_iff_lt, if_false,
      Prod.mk.injEq] at htaken
    obtain ⟨rfl, rfl⟩ := htaken
    exact .inl ⟨fun side => by cases side <;> rfl, .of_zero rfl rfl, rfl⟩
  · rw [Streams.takeOver] at htaken
    split_ifs at htaken with hmany1 hmany2
    · rw [Prod.mk.injEq] at htaken
      obtain ⟨rfl, rfl⟩ := htaken
      exact .inr ⟨.side1, ⟨hssrc.symm, hnone, Nat.le_of_lt_succ hmany1, rfl, rfl, rfl⟩, rfl⟩
    · rw [Prod.mk.injEq] at htaken
      obtain ⟨rfl, rfl⟩ := htaken
      exact .inr ⟨.side2, ⟨hssrc.symm, hnone, Nat.le_of_lt_succ hmany2, rfl, rfl, rfl⟩, rfl⟩
    · rw [Prod.mk.injEq] at htaken
      obtain ⟨rfl, rfl⟩ := htaken
      have hlast (side : Side) : ({ t with
          candidateTimestamp := rtpPacket.arrivalTimestamp % 4294967296
          aliens1 := t.aliens1 + 1
          aliens2 := t.aliens2 + 1 } : Streams).last side = t.last side := by cases side <;> rfl
      refine .inl ⟨hlast, h.count halien hssrc hlast (fun side => ?_) rfl fun side => ?_, rfl⟩
      · cases side <;> rfl
      · cases side
        · exact Nat.le_of_not_lt hmany1
        · exact Nat.le_of_not_lt hmany2
  · simp only [Streams.takeOver, Nat.not_lt_zero, gt_iff_lt, if_false, Prod.mk.injEq] at htaken
    obtain ⟨rfl, rfl⟩ := htaken
    exact .inl ⟨fun side => by cases side <;> rfl, .of_zero rfl rfl, rfl⟩
  · have hfew1 : ¬ t.aliens1 > 10 := Nat.not_lt_of_le (h.few hnone .side1)
    have hfew2 : ¬ t.aliens2 > 10 := Nat.not_lt_of_le (h.few hnone .side2)
    rw [Streams.takeOver, if_neg hfew1, if_neg hfew2, Prod.mk.injEq] at htaken
    obtain ⟨rfl, rfl⟩ := htaken
    exact .inl ⟨fun side => rfl, h.same (fun side => rfl) (fun side => rfl) rfl, rfl⟩

theorem not_takesOver (hlast : ∀ side, t'.last side = t.last side) (side : Side) :
    ¬ Streams.TakesOver side t rtpPacket t' := by
  intro ⟨_, hside1, hside2⟩
  cases side
  · exact hside1 (hlast .side1).symm
  · exact hside2 (hlast .side2).symm

/-- A packet of a side takes no side over. -/
theorem belongs_not_takesOver {own : Side} (hbelongs : t.belongs own rtpPacket = true)
    (side : Side) : ¬ Streams.TakesOver side t rtpPacket t' := by
  intro ⟨halien, _⟩
  rw [Streams.isAlien, Bool.and_eq_true, Bool.and_eq_true, Bool.not_eq_true', Bool.not_eq_true']
    at halien
  cases own
  · exact Bool.eq_false_iff.mp halien.1.2 hbelongs
  · exact Bool.eq_false_iff.mp halien.2 hbelongs

/-- A packet that is not taken in leaves the sides alone. -/
theorem BorneOut.passedOver (h : BorneOut t log)
    (hnew : t.isAlien rtpPacket = true → t.candidate = noSsrcCandidate →
      t.aliens1 = 0 ∧ t.aliens2 = 0)
    {verdict : Verdict} {g : Gates} (follows : Follows cfg env g t rtpPacket verdict t')
    (hverdict : ∀ channel, verdict ≠ .accepted channel) :
    (∀ side, t'.last side = t.last side) ∧ BorneOut t' (received t rtpPacket t' :: log) := by
  have hsame : (∀ side, t.last side = t.last side) ∧
      BorneOut t (received t rtpPacket t :: log) :=
    ⟨fun _ => rfl, h.same (fun _ => rfl) (fun _ => rfl) rfl⟩
  cases follows with
  | first1 => exact absurd rfl (hverdict 1)
  | first2 => exact absurd rfl (hverdict 2)
  | accepted1 => exact absurd rfl (hverdict 1)
  | accepted2 => exact absurd rfl (hverdict 2)
  | duplicate1 => exact hsame
  | broken1 => exact hsame
  | duplicate2 => exact hsame
  | broken2 => exact hsame
  | alien halien =>
      have halien := Streams.isAlien_iff.mpr halien
      rcases h.alien env halien (hnew halien) with ⟨hlast, hborne, _⟩ |
        ⟨side, _, haccepted⟩
      · exact ⟨hlast, hborne⟩
      · exact absurd haccepted (hverdict side.channel)

/-! #### Packets that are taken in -/

namespace Accepts

variable {protocol : Protocol}

theorem aliens_eq (accepts : Accepts cfg protocol t t') (side : Side) :
    t'.aliens side = t.aliens side := by
  cases side
  · exact accepts.aliens1
  · exact accepts.aliens2

/-- The sides stay or are exchanged. -/
theorem last_eq (accepts : Accepts cfg protocol t t') :
    (∀ side, t'.last side = t.last side) ∨
    (cfg.rtpS1S2MappingDeterministic = true ∧ t.mapped = false ∧
      (protocol = .protSip ∨ protocol = .protSkinny) ∧
      ∀ side, t'.last side = t.last side.other) := by
  rcases accepts.sides with ⟨hside1, hside2⟩ |
    ⟨hdeterministic, hunmapped, hprotocol, _, _, hside1, hside2⟩
  · apply Or.inl
    intro side
    cases side <;> assumption
  · refine .inr ⟨hdeterministic, hunmapped, hprotocol, ?_⟩
    intro side
    cases side <;> assumption

/-- The sides are both set when they were. -/
theorem set (accepts : Accepts cfg protocol t t') (hset : ∀ side, t.last side ≠ none)
    (side : Side) : t'.last side ≠ none := by
  rcases accepts.last_eq with hlast | ⟨_, _, _, hlast⟩
  · rw [hlast]
    exact hset side
  · rw [hlast]
    exact hset side.other

end Accepts

theorem Side.eq_or_other (side own : Side) : side = own ∨ side = own.other := by
  cases side <;> cases own <;> simp [Side.other]

section

variable {protocol : Protocol} {between : Streams}

/-- A packet of the stream of a side takes the place of the last one there. -/
structure Renews (own : Side) (t : Streams) (rtpPacket : RtpPacketInfo) (between : Streams) :
    Prop where
  taken : between.last own = some rtpPacket
  other : between.last own.other = t.last own.other
  aliens : between.aliens own = 0
  aliensOther : between.aliens own.other = t.aliens own.other
  candidate : between.candidate = t.candidate
  mapped : between.mapped = t.mapped

theorem BorneOut.renewed (h : BorneOut t log) (accepts : Accepts cfg protocol between t')
    (own : Side) (renews : Renews own t rtpPacket between)
    (hset : t.last own.other = none → t.aliens own.other = 0)
    (hmapped : cfg.rtpS1S2MappingDeterministic = true → t.mapped = false →
      protocol = .protSip ∨ protocol = .protSkinny → t.candidate ≠ noSsrcCandidate →
      t.aliens own.other = 0) :
    BorneOut t' (received t rtpPacket t' :: log) := by
  have hzero : t'.aliens own = 0 := (accepts.aliens_eq own).trans renews.aliens
  have hother : t'.aliens own.other = t.aliens own.other :=
    (accepts.aliens_eq own.other).trans renews.aliensOther
  have hcandidate : t'.candidate = t.candidate := accepts.candidate.trans renews.candidate
  have hall (hnothing : t.aliens own.other = 0) (side : Side) : t'.aliens side = 0 := by
    rcases side.eq_or_other own with rfl | rfl
    · exact hzero
    · exact hother.trans hnothing
  rcases accepts.last_eq with hlast | ⟨hdeterministic, hunmapped, hprotocol, hlast⟩
  · apply h.step hcandidate
    · intro side hnone
      rw [hlast] at hnone
      rcases side.eq_or_other own with rfl | rfl
      · exact absurd (renews.taken.symm.trans hnone) (by simp)
      · have hzeros := hall (hset (renews.other.symm.trans hnone))
        exact ⟨hzeros .side1, hzeros .side2⟩
    · intro side
      rcases side.eq_or_other own with rfl | rfl
      · exact .inl hzero
      · exact .inr ⟨hother, (hlast _).trans renews.other⟩
  · by_cases hnone : t.candidate = noSsrcCandidate
    · by_cases hgone : t.last own.other = none
      · have hzeros := hall (hset hgone)
        exact .of_zero (hzeros .side1) (hzeros .side2)
      · apply BorneOut.of_none (hcandidate.trans hnone)
        apply accepts.set
        intro side
        rcases side.eq_or_other own with rfl | rfl
        · rw [renews.taken]
          simp
        · rw [renews.other]
          exact hgone
    · have hzeros := hall (hmapped hdeterministic (renews.mapped.symm.trans hunmapped) hprotocol
        hnone)
      exact .of_zero (hzeros .side1) (hzeros .side2)

/-- A side that is given away is the one that is taken over. -/
theorem GivenTo.takenOver {own side : Side} (given : GivenTo own t rtpPacket between)
    (accepts : Accepts cfg protocol between t')
    (taken : Streams.TakesOver side t rtpPacket t') : side = own := by
  rcases side.eq_or_other own with hsame | rfl
  · exact hsame
  · obtain ⟨_, hside1, hside2⟩ := taken
    rw [← given.other] at hside1 hside2
    exfalso
    rcases accepts.last_eq with hlast | ⟨_, _, _, hlast⟩
    · cases own
      · exact hside2 (hlast .side2).symm
      · exact hside1 (hlast .side1).symm
    · cases own
      · exact hside1 (hlast .side1).symm
      · exact hside2 (hlast .side2).symm

end

/-! #### Packets of a session -/

/-- The packet completes more than ten of its stream, which are counted for the side. -/
def Completes (side : Side) (t : Streams) (rtpPacket : RtpPacketInfo) (log : List Received) :
    Prop :=
  t.candidate = rtpPacket.ssrc ∧ 10 < further side rtpPacket.ssrc log + 1

theorem BorneOut.accepted {s : SessionData} {between : Streams} {channel : Nat}
    (h : BorneOut s.streams log) (hleft : NoLeftOver cfg s rtpPacket)
    {g : Gates} (follows : Follows cfg env g s.streams rtpPacket (.accepted channel) between)
    (accepts : Accepts cfg s.protocol between t') :
    BorneOut t' (received s.streams rtpPacket t' :: log) ∧
      ∀ side, Streams.TakesOver side s.streams rtpPacket t' →
        Completes side s.streams rtpPacket log := by
  obtain ⟨hnew, hmapped⟩ := hleft
  generalize hverdict : Verdict.accepted channel = verdict at follows
  have hunset (side : Side) (hnone : s.streams.last side = none) : ∀ side,
      t'.aliens side = between.aliens side ∧ s.streams.aliens side = 0 := by
    intro side'
    refine ⟨accepts.aliens_eq side', ?_⟩
    obtain ⟨hzero1, hzero2⟩ := h.unset side hnone
    cases side' <;> assumption
  have hnoTaking (side : Side) (hnone : s.streams.last side = none) (side' : Side) :
      ¬ Streams.TakesOver side' s.streams rtpPacket t' := by
    intro ⟨halien, _⟩
    obtain ⟨hset1, hset2⟩ := Streams.isAlien_sides halien
    cases side
    · exact hset1 hnone
    · exact hset2 hnone
  have hzeroOther (side : Side) (hnone : s.streams.last side = none) :
      s.streams.aliens side = 0 := (hunset side hnone side).2
  cases follows with
  | duplicate1 => cases hverdict
  | broken1 => cases hverdict
  | duplicate2 => cases hverdict
  | broken2 => cases hverdict
  | first1 hside1 =>
      have hzeros := hunset .side1 hside1
      exact ⟨.of_zero ((hzeros .side1).1.trans (hzeros .side1).2)
        ((hzeros .side2).1.trans (hzeros .side2).2),
        fun side taken => absurd taken (hnoTaking .side1 hside1 side)⟩
  | first2 hside1 hside2 hsame =>
      have hzeros := hunset .side2 hside2
      exact ⟨.of_zero ((hzeros .side1).1.trans (hzeros .side1).2)
        ((hzeros .side2).1.trans (hzeros .side2).2),
        fun side taken => absurd taken (hnoTaking .side2 hside2 side)⟩
  | accepted1 hside1 hsame hdiffers =>
      have hbelongs : s.streams.belongs .side1 rtpPacket = true := by
        rw [Streams.belongs, Streams.last, hside1]
        exact hsame
      refine ⟨h.renewed accepts .side1 ⟨rfl, rfl, rfl, rfl, rfl, rfl⟩ (hzeroOther _) ?_,
        fun side taken => absurd taken (belongs_not_takesOver hbelongs side)⟩
      intro hdeterministic hunmapped hprotocol hcandidate
      exact (hmapped hdeterministic hunmapped hprotocol hcandidate).1 hbelongs
  | accepted2 hside1 hside2 hsame hsame2 hdiffers =>
      have hbelongs : s.streams.belongs .side2 rtpPacket = true := by
        rw [Streams.belongs, Streams.last, hside2]
        exact hsame2
      refine ⟨h.renewed accepts .side2 ⟨rfl, rfl, rfl, rfl, rfl, rfl⟩ (hzeroOther _) ?_,
        fun side taken => absurd taken (belongs_not_takesOver hbelongs side)⟩
      intro hdeterministic hunmapped hprotocol hcandidate
      exact (hmapped hdeterministic hunmapped hprotocol hcandidate).2 hbelongs
  | alien halien =>
      have halien := Streams.isAlien_iff.mpr halien
      rcases h.alien env halien (hnew halien) with ⟨_, _, hdismissed⟩ | ⟨own, given, _⟩
      · rw [hdismissed] at hverdict
        exact absurd hverdict (by simp)
      · refine ⟨.of_none (accepts.candidate.trans given.free) (accepts.set fun side => ?_), ?_⟩
        · rcases side.eq_or_other own with rfl | rfl
          · rw [given.taken]
            simp
          · rw [given.other]
            obtain ⟨hset1, hset2⟩ := Streams.isAlien_sides halien
            cases own <;> assumption
        · intro side taken
          rw [given.takenOver accepts taken]
          have hcounted := given.counted.trans (h.counted given.signalled own)
          rw [given.candidate] at hcounted
          exact ⟨given.candidate, Nat.lt_succ_of_le hcounted⟩

theorem BorneOut.course {s : SessionData} {g' : Gates} {result : Bool × RtpPacketInfo}
    {chunks : List Output} (h : BorneOut s.streams log) (hleft : NoLeftOver cfg s rtpPacket)
    (course : Course cfg env s.streams s.gates rtpPacket result t' g' chunks) :
    BorneOut t' (received s.streams rtpPacket t' :: log) ∧
      ∀ side, Streams.TakesOver side s.streams rtpPacket t' →
        Completes side s.streams rtpPacket log := by
  have hkept (hlast : ∀ side, t'.last side = s.streams.last side) (side : Side)
      (taken : Streams.TakesOver side s.streams rtpPacket t') :
      Completes side s.streams rtpPacket log := absurd taken (not_takesOver hlast side)
  cases course with
  | event => exact ⟨h.same (fun _ => rfl) (fun _ => rfl) rfl, hkept fun _ => rfl⟩
  | dismissed => exact ⟨h.same (fun _ => rfl) (fun _ => rfl) rfl, hkept fun _ => rfl⟩
  | ignored _ _ hbetween =>
      have hlast (side : Side) : ({ s.streams with ignored := s.streams.ignored + 1 } :
          Streams).last side = s.streams.last side := by cases side <;> rfl
      have hsame : BorneOut { s.streams with ignored := s.streams.ignored + 1 }
          (received s.streams rtpPacket { s.streams with ignored := s.streams.ignored + 1 } :: log) :=
        h.same hlast (fun side => by cases side <;> rfl) rfl
      rcases hbetween with rfl | detected
      · exact ⟨hsame, hkept hlast⟩
      · cases detected with
        | first1 hside1 =>
            obtain ⟨hzero1, hzero2⟩ := h.unset .side1 hside1
            exact ⟨.of_zero hzero1 hzero2, fun side taken =>
              absurd hside1 (Streams.isAlien_sides taken.1).1⟩
        | first2 _ hside2 =>
            obtain ⟨hzero1, hzero2⟩ := h.unset .side2 hside2
            exact ⟨.of_zero hzero1 hzero2, fun side taken =>
              absurd hside2 (Streams.isAlien_sides taken.1).2⟩
        | side1 => exact ⟨hsame, hkept hlast⟩
        | side2 => exact ⟨hsame, hkept hlast⟩
        | alien => exact ⟨hsame, hkept hlast⟩
  | passedOver _ _ _ follows =>
      obtain ⟨hlast, hborne⟩ := h.passedOver hleft.1 follows (by simp)
      exact ⟨hborne, hkept hlast⟩
  | brokenUp _ _ _ follows =>
      obtain ⟨hlast, hborne⟩ := h.passedOver hleft.1 follows (by simp)
      exact ⟨hborne, hkept hlast⟩
  | accepted _ _ _ follows accepts => exact h.accepted hleft follows accepts

end

section

variable {cfg : Config} {keys : SessionKeys} {start c : Context} {log : List Received}

theorem borneOut_fed (hstart1 : start.session.numAlienRtpPacketsS1 = 0)
    (hstart2 : start.session.numAlienRtpPacketsS2 = 0)
    (fed : Fed cfg keys (NoLeftOver cfg) start log c) : BorneOut c.session.streams log := by
  induction fed with
  | start => exact .of_zero hstart1 hstart2
  | @packet log c env rtpPacket _ hleft ih =>
      obtain ⟨t', g', chunks, course, hflow⟩ := addRtpPacket_course cfg env rtpPacket keys c
      rw [(flow_eq_iff.mp hflow).1]
      exact (ih.course hleft course).1
  | elsewhere _ hstreams ih =>
      rw [hstreams]
      exact ih

/-- In a run without left-over counts, a side is taken over by the packet that completes more
than ten of its stream. -/
theorem taken_over_by_completing (hstart1 : start.session.numAlienRtpPacketsS1 = 0)
    (hstart2 : start.session.numAlienRtpPacketsS2 = 0)
    (fed : Fed cfg keys (NoLeftOver cfg) start log c) (env : Env) (rtpPacket : RtpPacketInfo)
    (hleft : NoLeftOver cfg c.session rtpPacket) (side : Side)
    (taken : Streams.TakesOver side c.session.streams rtpPacket
      (addRtpPacket cfg env rtpPacket keys c).2.session.streams) :
    Completes side c.session.streams rtpPacket log := by
  obtain ⟨t', g', chunks, course, hflow⟩ := addRtpPacket_course cfg env rtpPacket keys c
  rw [(flow_eq_iff.mp hflow).1] at taken
  exact ((borneOut_fed hstart1 hstart2 fed).course hleft course).2 side taken

end

/-! ### A session with four streams -/

/-- The log of some packets, and the session after them. -/
def feed (cfg : Config) (env : Env) (keys : SessionKeys) :
    List RtpPacketInfo → List Received × Context → List Received × Context
  | [], state => state
  | rtpPacket :: rest, (log, c) =>
      let c' := (addRtpPacket cfg env rtpPacket keys c).2
      feed cfg env keys rest (received c.session.streams rtpPacket c'.session.streams :: log, c')

/-- Every one of the packets meets a condition where it arrives. -/
def feedsAll (cfg : Config) (env : Env) (keys : SessionKeys)
    (cond : SessionData → RtpPacketInfo → Bool) : List RtpPacketInfo → Context → Bool
  | [], _ => true
  | rtpPacket :: rest, c =>
      cond c.session rtpPacket &&
        feedsAll cfg env keys cond rest (addRtpPacket cfg env rtpPacket keys c).2

theorem Fed.feed {cfg : Config} {env : Env} {keys : SessionKeys}
    {cond : SessionData → RtpPacketInfo → Prop} [∀ s p, Decidable (cond s p)] {start : Context}
    {rtpPackets : List RtpPacketInfo} : ∀ {log : List Received} {c : Context},
      Fed cfg keys cond start log c →
      feedsAll cfg env keys (fun s p => decide (cond s p)) rtpPackets c = true →
      Fed cfg keys cond start (feed cfg env keys rtpPackets (log, c)).1
        (feed cfg env keys rtpPackets (log, c)).2 := by
  induction rtpPackets with
  | nil =>
      intro log c fed _
      exact fed
  | cons rtpPacket rest ih =>
      intro log c fed hall
      rw [feedsAll, Bool.and_eq_true, decide_eq_true_eq] at hall
      exact ih (fed.packet env rtpPacket hall.1) hall.2

/-- A session that has not got any packet. -/
def newContext : Context where
  shared := {}
  session := (VoIpSession.new {} { usec := 0 } "").toSessionData

def ssrcPacket (ssrc timestamp : UInt32) : RtpPacketInfo :=
  { ssrc := ssrc, timestamp := timestamp }

/-- Two sides, then eleven packets of a third stream. -/
def thirdStream : List RtpPacketInfo :=
  [ssrcPacket 1 0, ssrcPacket 2 0] ++
    (List.range 11).map fun n => ssrcPacket 3 (UInt32.ofNat (160 * n))

theorem taken_over_by_completing_third :
    Completes .side1 (feed {} { usec := 0 } { trackingId := "" } thirdStream
        ([], newContext)).2.session.streams (ssrcPacket 3 1760)
      (feed {} { usec := 0 } { trackingId := "" } thirdStream ([], newContext)).1 := by
  have fed : Fed {} { trackingId := "" } (NoLeftOver {}) newContext
      (feed {} { usec := 0 } { trackingId := "" } thirdStream ([], newContext)).1
      (feed {} { usec := 0 } { trackingId := "" } thirdStream ([], newContext)).2 := by
    apply Fed.feed .start
    decide +kernel
  apply taken_over_by_completing rfl rfl fed { usec := 0 }
  · decide +kernel
  · refine ⟨?_, ?_, ?_⟩
    · decide +kernel
    · decide +kernel
    · decide +kernel

/-- Once a third stream has taken side 1 over, a single packet of a fourth one takes side 2. -/
theorem stray_packet_takes_over : ¬ ∀ (cfg : Config) (keys : SessionKeys) (start c : Context)
    (log : List Received) (env : Env) (rtpPacket : RtpPacketInfo) (side : Side),
    start.session.numAlienRtpPacketsS1 = 0 → start.session.numAlienRtpPacketsS2 = 0 →
    Fed cfg keys (fun _ _ => True) start log c →
    Streams.TakesOver side c.session.streams rtpPacket
      (addRtpPacket cfg env rtpPacket keys c).2.session.streams →
    Completes side c.session.streams rtpPacket log := by
  intro hcompletes
  have fed : Fed {} { trackingId := "" } (fun _ _ => True) newContext
      (feed {} { usec := 0 } { trackingId := "" } (thirdStream ++ [ssrcPacket 3 1760])
        ([], newContext)).1
      (feed {} { usec := 0 } { trackingId := "" } (thirdStream ++ [ssrcPacket 3 1760])
        ([], newContext)).2 := by
    apply Fed.feed .start
    decide +kernel
  have htaken := hcompletes {} { trackingId := "" } newContext _ _ { usec := 0 } (ssrcPacket 4 0)
    .side2 rfl rfl fed (by
      refine ⟨?_, ?_, ?_⟩
      · decide +kernel
      · decide +kernel
      · decide +kernel)
  exact absurd htaken.2 (by decide +kernel)

end OrkAudio.VoIp
