import OrkAudio.VoIp.Remap

/-! Whether a stream whose packets follow one another is ever split.

A packet is compared with the last one that was kept of its stream, `k` packets back, and the
comparison knows their sequence numbers and timestamps by the plain differences, in which a
number that wraps around is far away. -/

namespace OrkAudio.VoIp

open Lib

/-- The next packet of a stream; both numbers wrap around. -/
structure IsNext (rtpPacket last : RtpPacketInfo) : Prop where
  seqNum : rtpPacket.seqNum = last.seqNum + 1
  timestamp : rtpPacket.timestamp = last.timestamp + 160

/-- Packets of one SSRC without a gap, the latest first. -/
structure Consecutive (ssrc : UInt32) (rtpPackets : List RtpPacketInfo) : Prop where
  ssrc : ∀ rtpPacket ∈ rtpPackets, rtpPacket.ssrc = ssrc
  chain : rtpPackets.IsChain IsNext

/-- The thresholds of a session. -/
def Context.thresholds (c : Context) : Int × Int :=
  (c.session.minRtpSeqDelta, c.session.minRtpTimestampDelta)

section

variable (cfg : Config)

/-- What a session has got of a stream, the latest packet first. Packets of other streams may
lie between, and whatever leaves the last packets and the thresholds as they are. -/
inductive StreamRun (keys : SessionKeys) (ssrc : UInt32) (start : Context) :
    List RtpPacketInfo → Context → Prop
  | start : StreamRun keys ssrc start [] start
  | packet {rtpPackets : List RtpPacketInfo} {c : Context} (env : Env)
      (rtpPacket : RtpPacketInfo) : StreamRun keys ssrc start rtpPackets c →
      Consecutive ssrc (rtpPacket :: rtpPackets) →
      StreamRun keys ssrc start (rtpPacket :: rtpPackets) (addRtpPacket cfg env rtpPacket keys c).2
  | other {rtpPackets : List RtpPacketInfo} {c : Context} (env : Env)
      (rtpPacket : RtpPacketInfo) : StreamRun keys ssrc start rtpPackets c →
      rtpPacket.ssrc ≠ ssrc →
      StreamRun keys ssrc start rtpPackets (addRtpPacket cfg env rtpPacket keys c).2
  | elsewhere {rtpPackets : List RtpPacketInfo} {c c' : Context} :
      StreamRun keys ssrc start rtpPackets c →
      (∀ side, c'.session.streams.last side = c.session.streams.last side) →
      c'.thresholds = c.thresholds → StreamRun keys ssrc start rtpPackets c'

/-- The packet comes to be compared with the last one of this side: it is neither an event nor
ignored nor dismissed before, and no duplicate. -/
structure ComparedWith (s : SessionData) (rtpPacket : RtpPacketInfo) (side : Side)
    (last : RtpPacketInfo) : Prop where
  noEvent : s.gates.isTelephoneEvent cfg rtpPacket = false
  kept : s.keepRtp = true
  notDismissed : s.gates.isDismissed rtpPacket = false
  here : s.streams.last side = some last
  same : isSameStream last rtpPacket = true
  notDuplicate : rtpPacket.timestamp ≠ last.timestamp
  notSide1 : side = .side2 →
    ∃ side1, s.streams.side1 = some side1 ∧ isSameStream side1 rtpPacket = false

def seqNumDistance (k : Nat) (last rtpPacket : RtpPacketInfo) : Nat :=
  if rtpPacket.seqNum < last.seqNum then 65536 - k % 65536 else k % 65536

def timestampDistance (k : Nat) (last rtpPacket : RtpPacketInfo) : Nat :=
  if rtpPacket.timestamp < last.timestamp then 4294967296 - 160 * k % 4294967296
  else 160 * k % 4294967296

/-- The stream goes on at a packet that is `k` packets behind the last one that was kept. -/
structure GoesOn (k : Nat) (side : Side) (last rtpPacket : RtpPacketInfo) : Prop where
  discontinuity : cfg.rtpDiscontinuityDetect = true →
    (seqNumDistance k last rtpPacket : Int) ≤ cfg.rtpDiscontinuityMinSeqDelta ∨
      (timestampDistance k last rtpPacket : Int) ≤ cfg.rtpDiscontinuityMinSeqDelta * 160
  pause : cfg.rtpBreakupOnStreamPause = true →
    toInt32 (160 * k % 4294967296) ≤ 160 * (k % 65536) ∨
      (side = .side1 ∧
        toInt32 (160 * k % 4294967296) ≤ 160 * (seqNumDistance k last rtpPacket : Int))

/-- The pause that is looked for on this side. -/
def checksPause (side : Side) (last rtpPacket : RtpPacketInfo) : Bool :=
  match side with
  | .side1 => checksPauseSide1 cfg last rtpPacket
  | .side2 => cfg.rtpBreakupOnStreamPause

end

/-! ### Distances -/

section

variable {ssrc : UInt32} {rtpPackets : List RtpPacketInfo} {rtpPacket last : RtpPacketInfo}
  {k : Nat}

/-- The numbers of a packet that is `k` packets behind another one. -/
structure Behind (k : Nat) (last rtpPacket : RtpPacketInfo) : Prop where
  seqNum : rtpPacket.seqNum.toNat = (last.seqNum.toNat + k) % 65536
  timestamp : rtpPacket.timestamp.toNat = (last.timestamp.toNat + 160 * k) % 4294967296

theorem IsNext.behind (next : IsNext rtpPacket last) : Behind 1 last rtpPacket := by
  constructor
  · rw [next.seqNum, UInt16.toNat_add]
    rfl
  · rw [next.timestamp, UInt32.toNat_add]
    rfl

theorem Behind.step {next : RtpPacketInfo} (behind : Behind k last rtpPacket)
    (step : IsNext next rtpPacket) : Behind (k + 1) last next := by
  have hstep := step.behind
  have hseq := behind.seqNum
  have htimestamp := behind.timestamp
  constructor
  · rw [hstep.seqNum]
    omega
  · rw [hstep.timestamp]
    omega

/-- Going back through consecutive packets. -/
theorem behind_of_chain (hchain : (rtpPacket :: rtpPackets).IsChain IsNext)
    (hlast : rtpPackets[k]? = some last) : Behind (k + 1) last rtpPacket := by
  induction rtpPackets generalizing k rtpPacket with
  | nil => cases hlast
  | cons before rest ih =>
      rw [List.isChain_cons_cons] at hchain
      cases k with
      | zero =>
          obtain rfl := Option.some.inj hlast
          exact hchain.1.behind
      | succ k => exact (ih hchain.2 hlast).step hchain.1

namespace Behind

variable (behind : Behind k last rtpPacket)

include behind

theorem abs_seqNumDelta : |seqNumDelta last rtpPacket| = seqNumDistance k last rtpPacket := by
  have hseq := behind.seqNum
  have hlast := last.seqNum.toNat_lt
  have hlt : rtpPacket.seqNum < last.seqNum ↔ rtpPacket.seqNum.toNat < last.seqNum.toNat :=
    UInt16.lt_iff_toNat_lt
  unfold seqNumDelta seqNumDistance
  split_ifs with hwraps
  · rw [hlt] at hwraps
    rw [abs_of_nonpos (by omega)]
    omega
  · rw [hlt] at hwraps
    rw [abs_of_nonneg (by omega)]
    omega

theorem resetSeqNumDelta_eq : resetSeqNumDelta last rtpPacket = (k % 65536 : Nat) := by
  have hseq := behind.seqNum
  have hlast := last.seqNum.toNat_lt
  have hlt : rtpPacket.seqNum < last.seqNum ↔ rtpPacket.seqNum.toNat < last.seqNum.toNat :=
    UInt16.lt_iff_toNat_lt
  unfold resetSeqNumDelta seqNumDelta
  split_ifs with hwraps
  · rw [hlt] at hwraps
    omega
  · rw [hlt] at hwraps
    omega

theorem abs_timestampDelta :
    |(rtpPacket.timestamp.toNat : Int) - last.timestamp.toNat| =
      timestampDistance k last rtpPacket := by
  have htimestamp := behind.timestamp
  have hlast := last.timestamp.toNat_lt
  have hlt : rtpPacket.timestamp < last.timestamp ↔
      rtpPacket.timestamp.toNat < last.timestamp.toNat := UInt32.lt_iff_toNat_lt
  unfold timestampDistance
  split_ifs with hwraps
  · rw [hlt] at hwraps
    rw [abs_of_nonpos (by omega)]
    omega
  · rw [hlt] at hwraps
    rw [abs_of_nonneg (by omega)]
    omega

theorem deltaTimestamp_eq : deltaTimestamp last rtpPacket = toInt32 (160 * k % 4294967296) := by
  have htimestamp := behind.timestamp
  have hlast := last.timestamp.toNat_lt
  have hdelta : (rtpPacket.timestamp - last.timestamp).toNat = 160 * k % 4294967296 := by
    rw [UInt32.toNat_sub]
    omega
  rw [deltaTimestamp, hdelta]

end Behind

/-- Packets that are not further back than the threshold break the stream up only where both
numbers wrap around between the two. -/
theorem goesOn_iff_of_le {cfg : Config} {side : Side} (hpos : 0 < k)
    (hle : (k : Int) ≤ cfg.rtpDiscontinuityMinSeqDelta)
    (hlt : cfg.rtpDiscontinuityMinSeqDelta < 65535) :
    GoesOn cfg k side last rtpPacket ↔
      ¬(cfg.rtpDiscontinuityDetect = true ∧ rtpPacket.seqNum < last.seqNum ∧
        rtpPacket.timestamp < last.timestamp ∧
          k + cfg.rtpDiscontinuityMinSeqDelta < 65536) := by
  have hmod : 160 * k % 4294967296 = 160 * k := Nat.mod_eq_of_lt (by omega)
  have hpause : toInt32 (160 * k % 4294967296) = 160 * (k : Int) := by
    rw [hmod, toInt32_of_lt (by omega)]
    omega
  constructor
  · rintro goesOn ⟨hdetect, hseq, htimestamp, hfar⟩
    have hnear := goesOn.discontinuity hdetect
    rw [seqNumDistance, if_pos hseq, timestampDistance, if_pos htimestamp] at hnear
    omega
  · intro hwraps
    constructor
    · intro hdetect
      by_cases hseq : rtpPacket.seqNum < last.seqNum
      · by_cases htimestamp : rtpPacket.timestamp < last.timestamp
        · apply Or.inl
          rw [seqNumDistance, if_pos hseq]
          have hfar : ¬k + cfg.rtpDiscontinuityMinSeqDelta < 65536 :=
            fun h => hwraps ⟨hdetect, hseq, htimestamp, h⟩
          omega
        · apply Or.inr
          rw [timestampDistance, if_neg htimestamp]
          omega
      · apply Or.inl
        rw [seqNumDistance, if_neg hseq]
        omega
    · intro _
      apply Or.inl
      rw [hpause]
      omega

end

/-! ### One packet -/

section

variable {cfg : Config} {env : Env} {g : Gates} {t t' : Streams} {side : Side} {k : Nat}
  {rtpPacket last : RtpPacketInfo} {verdict : Verdict}

theorem breaks_eq_false_iff (hseq : g.minRtpSeqDelta = cfg.rtpDiscontinuityMinSeqDelta)
    (htimestamp : g.minRtpTimestampDelta = cfg.rtpDiscontinuityMinSeqDelta * 160)
    (behind : Behind k last rtpPacket) :
    g.breaks cfg last rtpPacket (checksPause cfg side last rtpPacket) = false ↔
      GoesOn cfg k side last rtpPacket := by
  have hgoes : GoesOn cfg k side last rtpPacket ↔ _ ∧ _ :=
    ⟨fun h => ⟨h.1, h.2⟩, fun h => ⟨h.1, h.2⟩⟩
  have hreset := behind.resetSeqNumDelta_eq
  have hdelta := behind.deltaTimestamp_eq
  rw [hgoes, Gates.breaks, behind.abs_seqNumDelta, behind.abs_timestampDelta, hseq, htimestamp,
    hreset, hdelta, Bool.or_eq_false_iff]
  apply and_congr
  · cases cfg.rtpDiscontinuityDetect with
    | false => simp
    | true =>
        simp only [Bool.true_and, Bool.and_eq_false_iff, decide_eq_false_iff_not, gt_iff_lt,
          not_lt, forall_const]
  · cases side with
    | side1 =>
        rw [checksPause, checksPauseSide1, behind.abs_seqNumDelta, hdelta]
        cases cfg.rtpBreakupOnStreamPause with
        | false => simp
        | true =>
            simp only [Bool.true_and, Bool.and_eq_false_iff, decide_eq_false_iff_not, not_lt,
              forall_const, true_and]
            omega
    | side2 =>
        rw [checksPause]
        cases cfg.rtpBreakupOnStreamPause with
        | false => simp
        | true =>
            simp only [Bool.true_and, decide_eq_false_iff_not, not_lt, forall_const, reduceCtorEq,
              false_and, or_false]
            omega

theorem takeOver_ne_brokenUp (t : Streams) (rtpPacket : RtpPacketInfo) :
    (t.takeOver rtpPacket).1 ≠ .brokenUp := by
  unfold Streams.takeOver
  split_ifs <;> simp

theorem follows_side1 (follows : Follows cfg env g t rtpPacket verdict t')
    (hside1 : t.side1 = some last) (hsame : isSameStream last rtpPacket = true) :
    verdict = .brokenUp ↔ rtpPacket.timestamp ≠ last.timestamp ∧
      g.breaks cfg last rtpPacket (checksPause cfg .side1 last rtpPacket) = true := by
  cases follows with
  | first1 hnone => simp [hside1] at hnone
  | first2 hother _ hdiffers | duplicate2 hother _ hdiffers | broken2 hother _ hdiffers
  | accepted2 hother _ hdiffers =>
      obtain rfl := Option.some.inj (hside1.symm.trans hother)
      simp [hsame] at hdiffers
  | duplicate1 hother _ hequal =>
      obtain rfl := Option.some.inj (hside1.symm.trans hother)
      simp [hequal]
  | broken1 hother _ hdiffers hbreaks =>
      obtain rfl := Option.some.inj (hside1.symm.trans hother)
      exact iff_of_true rfl ⟨hdiffers, hbreaks⟩
  | accepted1 hother _ hdiffers hgoes =>
      obtain rfl := Option.some.inj (hside1.symm.trans hother)
      apply iff_of_false (by simp)
      intro h
      exact absurd h.2 (Bool.eq_false_iff.mp hgoes)
  | alien halien =>
      obtain ⟨side1, side2, hother, -, hdiffers, -⟩ := halien
      obtain rfl := Option.some.inj (hside1.symm.trans hother)
      simp [hsame] at hdiffers

theorem follows_side2 {side1 : RtpPacketInfo}
    (follows : Follows cfg env g t rtpPacket verdict t') (hside1 : t.side1 = some side1)
    (hdiffers : isSameStream side1 rtpPacket = false) (hside2 : t.side2 = some last)
    (hsame : isSameStream last rtpPacket = true) :
    verdict = .brokenUp ↔ rtpPacket.timestamp ≠ last.timestamp ∧
      g.breaks cfg last rtpPacket (checksPause cfg .side2 last rtpPacket) = true := by
  cases follows with
  | first1 hnone => simp [hside1] at hnone
  | first2 _ hnone => simp [hside2] at hnone
  | duplicate1 hother hsame1 | broken1 hother hsame1 | accepted1 hother hsame1 =>
      obtain rfl := Option.some.inj (hside1.symm.trans hother)
      simp [hdiffers] at hsame1
  | duplicate2 _ hother _ _ hequal =>
      obtain rfl := Option.some.inj (hside2.symm.trans hother)
      simp [hequal]
  | broken2 _ hother _ _ hne hbreaks =>
      obtain rfl := Option.some.inj (hside2.symm.trans hother)
      exact iff_of_true rfl ⟨hne, hbreaks⟩
  | accepted2 _ hother _ _ _ hgoes =>
      obtain rfl := Option.some.inj (hside2.symm.trans hother)
      apply iff_of_false (by simp)
      intro h
      exact absurd h.2 (Bool.eq_false_iff.mp hgoes)
  | alien halien =>
      obtain ⟨_, side2, -, hother, -, hdiffers2⟩ := halien
      obtain rfl := Option.some.inj (hside2.symm.trans hother)
      simp [hsame] at hdiffers2

/-- A packet breaks the session up where it is compared with the last one of a side. -/
theorem addRtpPacket_eq_false_iff (env : Env) (rtpPacket : RtpPacketInfo) (keys : SessionKeys)
    (c : Context) :
    (addRtpPacket cfg env rtpPacket keys c).1.1 = false ↔
      ∃ side last, ComparedWith cfg c.session rtpPacket side last ∧
        c.session.gates.breaks cfg last rtpPacket (checksPause cfg side last rtpPacket) =
          true := by
  obtain ⟨t', g', chunks, course, -⟩ := addRtpPacket_course cfg env rtpPacket keys c
  generalize (addRtpPacket cfg env rtpPacket keys c).1 = result at course ⊢
  constructor
  · intro hfalse
    cases course with
    | brokenUp hevent hkept hdismissed follows =>
        generalize hverdict : Verdict.brokenUp = verdict at follows
        cases follows with
        | broken1 hside1 hsame hdiffers hbreaks =>
            exact ⟨.side1, _, ⟨hevent, hkept, hdismissed, hside1, hsame, hdiffers, nofun⟩,
              hbreaks⟩
        | broken2 hside1 hside2 hother hsame hdiffers hbreaks =>
            exact ⟨.side2, _, ⟨hevent, hkept, hdismissed, hside2, hsame, hdiffers,
              fun _ => ⟨_, hside1, hother⟩⟩, hbreaks⟩
        | alien => exact absurd hverdict.symm (takeOver_ne_brokenUp _ _)
        | _ => cases hverdict
    | _ => cases hfalse
  · rintro ⟨side, last, compared, hbreaks⟩
    have hbroken {verdict : Verdict} {t' : Streams}
        (follows : Follows cfg env (c.session.gates.next rtpPacket) c.session.streams rtpPacket
          verdict t') : verdict = .brokenUp := by
      cases side with
      | side1 =>
          exact (follows_side1 follows compared.here compared.same).mpr
            ⟨compared.notDuplicate, hbreaks⟩
      | side2 =>
          obtain ⟨side1, hside1, hother⟩ := compared.notSide1 rfl
          exact (follows_side2 follows hside1 hother compared.here compared.same).mpr
            ⟨compared.notDuplicate, hbreaks⟩
    cases course with
    | event hevent => exact absurd hevent (Bool.eq_false_iff.mp compared.noEvent)
    | ignored _ hignored => exact absurd compared.kept (Bool.eq_false_iff.mp hignored)
    | dismissed _ _ hdismissed =>
        exact absurd hdismissed (Bool.eq_false_iff.mp compared.notDismissed)
    | passedOver _ _ _ follows => cases hbroken follows
    | brokenUp => rfl
    | accepted _ _ _ follows => cases hbroken follows

end

/-! ### Runs -/

section

variable {cfg : Config} {env : Env} {keys : SessionKeys} {g : Gates} {t t' : Streams}
  {rtpPacket last : RtpPacketInfo} {verdict : Verdict}

/-- A packet is on a side where it was before, or has just come there. -/
def Renewed (t : Streams) (rtpPacket : RtpPacketInfo) (t' : Streams) : Prop :=
  ∀ side last, t'.last side = some last → last = rtpPacket ∨ ∃ side, t.last side = some last

theorem renewed_of_sides (hside1 : t'.side1 = t.side1 ∨ t'.side1 = some rtpPacket)
    (hside2 : t'.side2 = t.side2 ∨ t'.side2 = some rtpPacket) : Renewed t rtpPacket t' := by
  have hside : ∀ side, t'.last side = t.last side ∨ t'.last side = some rtpPacket := by
    intro side
    cases side with
    | side1 => exact hside1
    | side2 => exact hside2
  intro side last hlast
  rcases hside side with hkept | hnew
  · exact Or.inr ⟨side, hkept.symm.trans hlast⟩
  · exact Or.inl (Option.some.inj (hlast.symm.trans hnew))

theorem renewed_takeOver (t : Streams) (rtpPacket : RtpPacketInfo) :
    Renewed t rtpPacket ((t.countAlien env rtpPacket).takeOver rtpPacket).2 := by
  have hcount : (t.countAlien env rtpPacket).side1 = t.side1 ∧
      (t.countAlien env rtpPacket).side2 = t.side2 := by
    unfold Streams.countAlien
    split_ifs <;> exact ⟨rfl, rfl⟩
  unfold Streams.takeOver
  split_ifs
  · exact renewed_of_sides (Or.inr rfl) (Or.inl hcount.2)
  · exact renewed_of_sides (Or.inl hcount.1) (Or.inr rfl)
  · exact renewed_of_sides (Or.inl hcount.1) (Or.inl hcount.2)

theorem Follows.renewed (follows : Follows cfg env g t rtpPacket verdict t') :
    Renewed t rtpPacket t' := by
  cases follows with
  | first1 | accepted1 => exact renewed_of_sides (Or.inr rfl) (Or.inl rfl)
  | first2 | accepted2 => exact renewed_of_sides (Or.inl rfl) (Or.inr rfl)
  | duplicate1 | broken1 | duplicate2 | broken2 =>
      exact renewed_of_sides (Or.inl rfl) (Or.inl rfl)
  | alien => exact renewed_takeOver t rtpPacket

theorem Renewed.accepts {between : Streams} {protocol : Protocol}
    (renewed : Renewed t rtpPacket between) (accepts : Accepts cfg protocol between t') :
    Renewed t rtpPacket t' := by
  rcases accepts.sides with ⟨hside1, hside2⟩ | ⟨-, -, -, -, -, hside1, hside2⟩
  · intro side last hlast
    cases side with
    | side1 => exact renewed .side1 last (hside1.symm.trans hlast)
    | side2 => exact renewed .side2 last (hside2.symm.trans hlast)
  · intro side last hlast
    cases side with
    | side1 => exact renewed .side2 last (hside1.symm.trans hlast)
    | side2 => exact renewed .side1 last (hside2.symm.trans hlast)

theorem renewed_addRtpPacket (env : Env) (rtpPacket : RtpPacketInfo) (keys : SessionKeys)
    (c : Context) :
    Renewed c.session.streams rtpPacket
      (addRtpPacket cfg env rtpPacket keys c).2.session.streams := by
  obtain ⟨t', g', chunks, course, hflow⟩ := addRtpPacket_course cfg env rtpPacket keys c
  rw [(flow_eq_iff.mp hflow).1]
  generalize (addRtpPacket cfg env rtpPacket keys c).1 = result at course
  cases course with
  | event | dismissed => exact renewed_of_sides (Or.inl rfl) (Or.inl rfl)
  | ignored _ _ hbetween =>
      rcases hbetween with rfl | detected
      · exact renewed_of_sides (Or.inl rfl) (Or.inl rfl)
      · cases detected with
        | first1 => exact renewed_of_sides (Or.inr rfl) (Or.inl rfl)
        | first2 => exact renewed_of_sides (Or.inl rfl) (Or.inr rfl)
        | side1 | side2 | alien => exact renewed_of_sides (Or.inl rfl) (Or.inl rfl)
  | passedOver _ _ _ follows => exact follows.renewed
  | brokenUp _ _ _ follows => exact follows.renewed
  | accepted _ _ _ follows accepts => exact follows.renewed.accepts accepts

/-! #### Thresholds -/

theorem spared_thresholds : Spared Context.thresholds where
  notice _ _ _ := rfl
  command _ _ _ _ _ := rfl

theorem thresholds_of_flow {c c' : Context} (hflow : c'.flow = c.flow) :
    c'.thresholds = c.thresholds :=
  congrArg (fun g : Gates => (g.minRtpSeqDelta, g.minRtpTimestampDelta))
    (flow_eq_iff.mp hflow).2.1

theorem thresholds_addRtpPacket (env : Env) (rtpPacket : RtpPacketInfo) (keys : SessionKeys)
    (c : Context) :
    (addRtpPacket cfg env rtpPacket keys c).2.thresholds = c.thresholds := by
  by_cases hevent : c.session.gates.isTelephoneEvent cfg rtpPacket = true
  · have hbegun : (c.begun cfg env rtpPacket keys).flow = c.flow :=
      congrArg Prod.fst (core_begun cfg env keys c rtpPacket)
    exact (spared_thresholds.addRtpPacket_event cfg env keys c hevent).trans
      (thresholds_of_flow hbegun)
  · obtain ⟨t', g', chunks, course, hflow⟩ := addRtpPacket_course cfg env rtpPacket keys c
    obtain ⟨-, hgates, -⟩ := flow_eq_iff.mp hflow
    have hkept : g'.minRtpSeqDelta = c.session.gates.minRtpSeqDelta ∧
        g'.minRtpTimestampDelta = c.session.gates.minRtpTimestampDelta := by
      generalize (addRtpPacket cfg env rtpPacket keys c).1 = result at course
      cases course with
      | event hevent' => exact absurd hevent' hevent
      | _ => exact ⟨rfl, rfl⟩
    rw [← hgates] at hkept
    exact Prod.ext hkept.1 hkept.2

variable {ssrc : UInt32} {start c : Context} {rtpPackets : List RtpPacketInfo}

/-- The thresholds stay, and what is kept of the stream is one of its packets so far. -/
theorem kept_of_run
    (hfresh : ∀ side last, start.session.streams.last side = some last → last.ssrc ≠ ssrc)
    (run : StreamRun cfg keys ssrc start rtpPackets c) :
    c.thresholds = start.thresholds ∧
      ∀ side last, c.session.streams.last side = some last → last.ssrc = ssrc →
        last ∈ rtpPackets := by
  induction run with
  | start => exact ⟨rfl, fun side last hlast hssrc => absurd hssrc (hfresh side last hlast)⟩
  | packet env rtpPacket _ hconsecutive ih =>
      refine ⟨(thresholds_addRtpPacket env rtpPacket keys _).trans ih.1, ?_⟩
      intro side last hlast hssrc
      rcases renewed_addRtpPacket env rtpPacket keys _ side last hlast with rfl | ⟨side, hside⟩
      · exact List.mem_cons_self
      · exact List.mem_cons_of_mem _ (ih.2 side last hside hssrc)
  | other env rtpPacket _ hother ih =>
      refine ⟨(thresholds_addRtpPacket env rtpPacket keys _).trans ih.1, ?_⟩
      intro side last hlast hssrc
      rcases renewed_addRtpPacket env rtpPacket keys _ side last hlast with rfl | ⟨side, hside⟩
      · exact absurd hssrc hother
      · exact ih.2 side last hside hssrc
  | elsewhere _ hlasts hthresholds ih =>
      refine ⟨hthresholds.trans ih.1, ?_⟩
      intro side last hlast hssrc
      rw [hlasts] at hlast
      exact ih.2 side last hlast hssrc

/-- In every run, the next packet of the stream is not refused exactly when the stream goes on
from the packet that it is compared with. -/
theorem stream_not_split_iff
    (hfresh : ∀ side last, start.session.streams.last side = some last → last.ssrc ≠ ssrc)
    (hthresholds : start.thresholds =
      (cfg.rtpDiscontinuityMinSeqDelta, cfg.rtpDiscontinuityMinSeqDelta * 160))
    (run : StreamRun cfg keys ssrc start rtpPackets c)
    (consecutive : Consecutive ssrc (rtpPacket :: rtpPackets)) (env : Env) :
    (addRtpPacket cfg env rtpPacket keys c).1.1 = true ↔
      ∀ side last k, ComparedWith cfg c.session rtpPacket side last →
        rtpPackets[k]? = some last → GoesOn cfg (k + 1) side last rtpPacket := by
  obtain ⟨hkept, hmembers⟩ := kept_of_run hfresh run
  rw [hthresholds] at hkept
  obtain ⟨hseq, htimestamp⟩ := Prod.mk.inj hkept
  have hgoes {side : Side} {last : RtpPacketInfo} {k : Nat}
      (hlast : rtpPackets[k]? = some last) :=
    @breaks_eq_false_iff cfg c.session.gates side (k + 1) rtpPacket last hseq htimestamp
      (behind_of_chain consecutive.chain hlast)
  rw [← not_iff_not, Bool.not_eq_true, addRtpPacket_eq_false_iff]
  constructor
  · rintro ⟨side, last, compared, hbreaks⟩ hall
    have hstream := compared.same
    simp only [isSameStream, Bool.and_eq_true, decide_eq_true_eq] at hstream
    have hssrc : last.ssrc = ssrc :=
      hstream.1.symm.trans (consecutive.ssrc rtpPacket List.mem_cons_self)
    obtain ⟨k, hlast⟩ := List.mem_iff_getElem?.mp (hmembers side last compared.here hssrc)
    have hfalse := (hgoes hlast).mpr (hall side last k compared hlast)
    simp [hbreaks] at hfalse
  · intro hsplit
    push Not at hsplit
    obtain ⟨side, last, k, compared, hlast, hstops⟩ := hsplit
    rw [← hgoes hlast, Bool.not_eq_false] at hstops
    exact ⟨side, last, compared, hstops⟩

end

/-! ### Both numbers at their end -/

/-- A session that looks for discontinuities. -/
def detecting : Config := { rtpDiscontinuityDetect := true }

/-- A packet of one stream. -/
def numbered (seqNum : UInt16) (timestamp : UInt32) : RtpPacketInfo :=
  { seqNum := seqNum, timestamp := timestamp, ssrc := 7 }

theorem consecutive_of_next {before next : RtpPacketInfo} (hbefore : before.ssrc = 7)
    (hnext : next.ssrc = 7) (isNext : IsNext next before) : Consecutive 7 [next, before] where
  ssrc := by simp [hbefore, hnext]
  chain := List.isChain_pair.mpr isNext

theorem run_of_first (rtpPacket : RtpPacketInfo) (hssrc : rtpPacket.ssrc = 7) :
    StreamRun detecting { trackingId := "" } 7 newContext [rtpPacket]
      (addRtpPacket detecting { usec := 0 } rtpPacket { trackingId := "" } newContext).2 :=
  StreamRun.start.packet { usec := 0 } rtpPacket ⟨by simp [hssrc], List.isChain_singleton _⟩

theorem fresh_newContext (side : Side) (last : RtpPacketInfo)
    (hlast : newContext.session.streams.last side = some last) : last.ssrc ≠ 7 := by
  cases side <;> cases hlast

/-- The sequence number alone wraps around. -/
theorem stream_not_split_at_seqNum :
    (addRtpPacket detecting { usec := 0 } (numbered 0 960) { trackingId := "" }
      (addRtpPacket detecting { usec := 0 } (numbered 65535 800) { trackingId := "" }
        newContext).2).1.1 = true := by
  have next : IsNext (numbered 0 960) (numbered 65535 800) := ⟨by decide, by decide⟩
  apply (stream_not_split_iff fresh_newContext rfl (run_of_first (numbered 65535 800) rfl)
    (consecutive_of_next rfl rfl next) { usec := 0 }).mpr
  intro side last k compared hlast
  cases k with
  | zero =>
      obtain rfl := Option.some.inj hlast
      apply (goesOn_iff_of_le (by decide) (by decide) (by decide)).mpr
      intro h
      exact absurd h.2.2.1 (by decide)
  | succ k => cases hlast

/-- Sequence number 0 and timestamp 0 after the largest ones: the stream is split. -/
theorem stream_split_at_wraps : ¬ ∀ (cfg : Config) (keys : SessionKeys) (ssrc : UInt32)
    (start c : Context) (rtpPackets : List RtpPacketInfo) (rtpPacket : RtpPacketInfo) (env : Env),
    0 < cfg.rtpDiscontinuityMinSeqDelta → cfg.rtpDiscontinuityMinSeqDelta < 65535 →
    (∀ side last, start.session.streams.last side = some last → last.ssrc ≠ ssrc) →
    start.thresholds =
      (cfg.rtpDiscontinuityMinSeqDelta, cfg.rtpDiscontinuityMinSeqDelta * 160) →
    StreamRun cfg keys ssrc start rtpPackets c → Consecutive ssrc (rtpPacket :: rtpPackets) →
    (addRtpPacket cfg env rtpPacket keys c).1.1 = true := by
  intro hgoes
  have next : IsNext (numbered 0 0) (numbered 65535 4294967136) := ⟨by decide, by decide⟩
  have htrue := hgoes detecting { trackingId := "" } 7 newContext _ _ (numbered 0 0)
    { usec := 0 } (by decide) (by decide) fresh_newContext rfl
    (run_of_first (numbered 65535 4294967136) rfl) (consecutive_of_next rfl rfl next)
  exact absurd htrue (by decide +kernel)

end OrkAudio.VoIp
