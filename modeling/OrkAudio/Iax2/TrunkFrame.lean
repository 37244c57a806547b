import OrkAudio.Iax2.TrunkGap

/-! Meta trunk frames against the same entries as mini frames. -/

namespace OrkAudio.Iax2

open Lib VoIp

namespace Iax2Sessions

open Iax2Session

variable {cfg : Config} {clock : Clock} {p q : Nat} {dest : InAddr} {side : Nat → Side}
  {own : Nat → Bool} {last : Nat → Option UInt32} {st S T : Iax2Sessions} {info : Iax2PacketInfo}
  {infos : List Iax2PacketInfo} {r : Nat}

/-! ### Gaps -/

/-- A frame that only the object gets through has no payload, and shows in the audio. -/
theorem Lock.not_alike_of_shared (lock : Lock p dest side own last S T)
    (hmini : AreMini dest (info :: infos)) (hfound : S.findFor info = some r)
    (hears : (S.session r).hears = true)
    (hshared : takesShared cfg.iax2RewriteTimestamps (own r) (last r) info = true)
    (hseparate : takesSeparate cfg.iax2RewriteTimestamps (last r) info = false) :
    ¬ Alike (reportThrough cfg clock p S (info :: infos))
      (T.reportSeparately cfg clock (info :: infos)) := by
  obtain ⟨hframe, hdest⟩ := hmini info List.mem_cons_self
  have hrest : AreMini dest infos := hmini.tail
  have hpayload : info.payload = [] := by
    by_contra hne
    rw [takesSeparate, takes, decide_eq_true hne, Bool.true_and] at hseparate
    rw [takesShared] at hshared
    simp_all
  have hresult := reportPacket_of_takes clock hfound (lock.begun r) hears hframe
    ((lock.takes_eq _ hdest r).trans hshared)
  have hbegun := begun_reportPacket cfg clock p lock.begun hframe
  obtain ⟨moreS, houtS⟩ := output_reportThrough cfg clock p hbegun hrest
  obtain ⟨moreT, houtT, hpayloads⟩ := output_reportSeparately cfg clock
    lock.begunT hrest
  have hsame : T.reportSeparately cfg clock (info :: infos) = T.reportSeparately cfg clock infos := by
    rw [reportSeparately_cons]
    have hskip : T.reportSeparately cfg clock [info] = T := if_pos hpayload
    rw [hskip]
  rintro ⟨-, haudio⟩
  have hS : (reportThrough cfg clock p S (info :: infos)).output =
      (S.reportPacket cfg clock p info).2.output ++ moreS := houtS
  rw [hsame, audio, audio, houtT, hS, hresult] at haudio
  simp only [taken, setPacket, chunk, List.filterMap_append, List.filterMap_cons, audioOf,
    lock.output, List.append_assoc, List.cons_append, List.nil_append,
    List.append_cancel_left_eq] at haudio
  exact hpayloads _ (haudio ▸ List.mem_cons_self) hpayload

/-- A frame that only the separate objects get through is counted once more. -/
theorem Lock.not_alike_of_separate (lock : Lock p dest side own last S T)
    (hmini : AreMini dest (info :: infos)) (hfound : S.findFor info = some r)
    (hears : (S.session r).hears = true)
    (hshared : takesShared cfg.iax2RewriteTimestamps (own r) (last r) info = false)
    (hseparate : takesSeparate cfg.iax2RewriteTimestamps (last r) info = true) :
    ¬ Alike (reportThrough cfg clock p S (info :: infos))
      (T.reportSeparately cfg clock (info :: infos)) := by
  obtain ⟨hframe, hdest⟩ := hmini info List.mem_cons_self
  have hrest : AreMini dest infos := hmini.tail
  have hpayload : info.payload ≠ [] := by
    intro hempty
    simp [takesSeparate, hempty] at hseparate
  obtain ⟨hrewrite, hown⟩ : cfg.iax2RewriteTimestamps = false ∧ own r = true := by
    simp only [takesShared, takesSeparate, takes, Bool.or_eq_false_iff, Bool.and_eq_false_iff,
      Bool.not_eq_false', Bool.and_eq_true, Bool.or_eq_true, decide_eq_true_eq,
      decide_eq_false_iff_not, not_not] at hshared hseparate
    obtain ⟨hrewrite, hcase⟩ := hshared
    refine ⟨hrewrite, hcase.resolve_right ?_⟩
    rw [hrewrite] at hseparate
    exact hseparate.2.resolve_left (by decide)
  have hfoundT : T.findFor info = some r := (lock.sameLookups.findFor info).symm.trans hfound
  have hS := reportPacket_of_dismisses clock hfound (lock.begun r) hears hframe
    ((lock.takes_eq _ hdest r).trans hshared)
  have hT := reportPacket_of_takes clock hfoundT (lock.begunT r)
    ((lock.hears r).symm.trans hears) hframe
    ((lock.takes_eqT _ hdest hpayload r).trans hseparate)
  have hdismissed := (lock.writeS hdest).dismissS (q := p) hears
  obtain ⟨hslot, hpacket, -⟩ := hdismissed.owned r hown
  have howns : Owns p dest r (side r) ((S.setPacket p info).dismissed r p) :=
    ⟨hdismissed.sideS r, hslot, hpacket, hdismissed.begun⟩
  have hcountS := howns.reportThrough cfg clock hrewrite hrest
  have hbegunT := begun_reportPacket cfg clock T.nextPacket lock.begunT
    hframe
  have hcountT := le_numIax2Packets_reportSeparately cfg clock hbegunT hrest r
  rintro ⟨hsame, -⟩
  have hnum := congrArg Iax2Session.numIax2Packets (hsame.bare r)
  have hleft : ((reportThrough cfg clock p S (info :: infos)).session r).numIax2Packets =
      (S.session r).numIax2Packets := by
    have hfirst : reportThrough cfg clock p S (info :: infos) =
        reportThrough cfg clock p ((S.setPacket p info).dismissed r p) infos := by
      rw [← hS]
      rfl
    rw [hfirst, hcountS, dismissed, session_setSession_self]
    rfl
  have hright : (T.session r).numIax2Packets + 1 ≤
      ((T.reportSeparately cfg clock (info :: infos)).session r).numIax2Packets := by
    have hfirst : T.reportSeparately cfg clock [info] =
        (T.reportPacket cfg clock T.nextPacket info).2 := if_neg hpayload
    rw [reportSeparately_cons, hfirst]
    apply Nat.le_trans _ hcountT
    rw [hT]
    have hsession : ((T.setPacket T.nextPacket info).taken cfg r T.nextPacket info).session r =
        ((T.session r).refer T.nextPacket
          ((T.setPacket T.nextPacket info).sideAt r info.destIp)).count
          ((T.setPacket T.nextPacket info).sideAt r info.destIp) info := Function.update_self ..
    rw [hsession, numIax2Packets_count, numIax2Packets_refer]
  have hequal : ((reportThrough cfg clock p S (info :: infos)).session r).numIax2Packets =
      ((T.reportSeparately cfg clock (info :: infos)).session r).numIax2Packets := hnum
  have hbefore := lock.numIax2Packets r
  omega

/-- Stores that end alike have taken the same frames. -/
theorem Lock.sideRun_of_alike (lock : Lock p dest side own last S T) (hmini : AreMini dest infos)
    (hstops : S.StopsWithPayload infos)
    (halike : Alike (reportThrough cfg clock p S infos) (T.reportSeparately cfg clock infos))
    (hears : (S.session r).hears = true) :
    (sideRunAt cfg S side own last infos r).isSome = true := by
  induction infos generalizing S T own last with
  | nil => rfl
  | cons info infos ih =>
      obtain ⟨hframe, hdest⟩ := hmini info List.mem_cons_self
      have hagree : ∀ x, S.findFor info = some x → (S.session x).hears = true →
          takesShared cfg.iax2RewriteTimestamps (own x) (last x) info =
            takesSeparate cfg.iax2RewriteTimestamps (last x) info := by
        intro x hfound hhears
        cases hshared : takesShared cfg.iax2RewriteTimestamps (own x) (last x) info <;>
          cases hseparate : takesSeparate cfg.iax2RewriteTimestamps (last x) info
        · rfl
        · exact absurd halike (lock.not_alike_of_separate hmini hfound hhears hshared hseparate)
        · exact absurd halike (lock.not_alike_of_shared hmini hfound hhears hshared hseparate)
        · rfl
      have hstep := lock.step cfg clock hframe hdest
        (fun r hr hpayload => hstops _ List.mem_cons_self r hr hpayload) hagree
      rw [sideRunAt_cons cfg clock p _ _ _ _ lock.begun hframe hears, if_neg]
      · exact ih hstep hmini.tail
          (hstops.tail lock.begun hframe) halike
          ((hears_reportPacket _ _ _ lock.begun hframe r).trans hears)
      · rintro ⟨hfound, hne⟩
        exact hne (hagree r hfound hears)

/-- In lockstep the stores are alike when every session that refers to the object kept the
timestamp that it has. -/
theorem Lock.alike_iff (lock : Lock p dest side own last S T) :
    Alike S T ↔ ∀ r, own r = true → last r = some (S.packet p).timestamp := by
  have hkeeps {r : Nat} (hown : own r = true) : ∃ t, last r = some t ∧
      (S.session r).retained S.packet (side r) = some (dest, (S.packet p).timestamp) ∧
        (T.session r).retained T.packet (side r) = some (dest, t) := by
    obtain ⟨hslot, hdest, t, hkept⟩ := lock.owned r hown
    refine ⟨t, ?_, ?_, hkept⟩
    · have hside : (T.session r).sideTo T.packet dest = side r := lock.sideT r
      rw [← lock.lastT r, lastAt, lastTimestamp, hside, hkept]
      rfl
    · rw [retained_of_last _ hslot, hdest]
  constructor
  · rintro ⟨hsame, -⟩ r hown
    obtain ⟨t, hlast, hS, hT⟩ := hkeeps hown
    have hequal := hsame.retained r (side r)
    rw [hS, hT, Option.some.injEq, Prod.mk.injEq] at hequal
    rw [hlast, hequal.2]
  · intro hfinal
    refine ⟨⟨lock.maps, lock.next, lock.alphaCounter, lock.bare, lock.lastSome, ?_⟩, ?_⟩
    · intro r other
      by_cases hother : other ≠ side r ∨ own r = false
      · exact (lock.same r other hother).2
      · obtain ⟨hside, hown⟩ := not_or.mp hother
        rw [not_not.mp hside]
        have hown := Bool.not_eq_false _ ▸ hown
        obtain ⟨t, hlast, hS, hT⟩ := hkeeps hown
        rw [hS, hT, ← Option.some.inj (hlast.symm.trans (hfinal r hown))]
    · rw [audio, audio, lock.output]

/-! ### The timestamp that the object ends with -/

/-- The timestamp of the last frame, rewritten when a session takes it: from the timestamp
that the session had, or from itself when the session refers to the object already. -/
def finalTimestamp (cfg : Config) (st : Iax2Sessions) (dest : InAddr)
    (infos : List Iax2PacketInfo) : UInt32 :=
  match (st.walk infos).getLast? with
  | none => 0
  | some (info, none) => info.timestamp
  | some (info, some r) =>
      if cfg.iax2RewriteTimestamps && (st.session r).hears then
        retainedTimestamp true (st.sideAt r dest)
          (if (st.received infos r).length = 1 then st.lastAt r dest else some info.timestamp)
          info.timestamp
      else info.timestamp

variable (cfg clock p) in
theorem walk_append (begun : ∀ r, (st.session r).Begun) (hmini : AreMini dest infos)
    (back : List Iax2PacketInfo) :
    st.walk (infos ++ back) = st.walk infos ++ (reportThrough cfg clock p st infos).walk back := by
  induction infos generalizing st with
  | nil => rfl
  | cons info infos ih =>
      have hframe := (hmini info List.mem_cons_self).1
      have hlookups := sameLookups_reportPacket cfg clock p begun hframe
      rw [List.cons_append, walk, walk, hlookups.walk, hlookups.walk,
        ih (begun_reportPacket _ _ _ begun hframe)
          hmini.tail]
      rfl

variable (cfg clock p) in
theorem begun_reportThrough (begun : ∀ r, (st.session r).Begun) (hmini : AreMini dest infos) :
    ∀ r, ((reportThrough cfg clock p st infos).session r).Begun := by
  induction infos generalizing st with
  | nil => exact begun
  | cons info infos ih =>
      exact ih (begun_reportPacket _ _ _ begun (hmini info List.mem_cons_self).1)
        hmini.tail

variable (cfg clock p) in
theorem hears_reportThrough (begun : ∀ r, (st.session r).Begun) (hmini : AreMini dest infos)
    (r : Nat) :
    ((reportThrough cfg clock p st infos).session r).hears = (st.session r).hears := by
  induction infos generalizing st with
  | nil => rfl
  | cons info infos ih =>
      have hframe := (hmini info List.mem_cons_self).1
      exact (ih (begun_reportPacket _ _ _ begun hframe)
        hmini.tail).trans
          (hears_reportPacket _ _ _ begun hframe r)

/-- What the last frame leaves in the object. -/
theorem timestamp_reportPacket (begun : ∀ r, (st.session r).Begun) (hmini : info.frameType = .mini) :
    ((st.reportPacket cfg clock p info).2.packet p).timestamp =
      match st.findFor info with
      | none => info.timestamp
      | some r =>
          if (st.session r).hears && takes cfg.iax2RewriteTimestamps
              ((st.setPacket p info).lastAt r info.destIp) info.timestamp then
            retainedTimestamp cfg.iax2RewriteTimestamps ((st.setPacket p info).sideAt r info.destIp)
              ((st.setPacket p info).lastAt r info.destIp) info.timestamp
          else info.timestamp := by
  rcases reportPacket_cases cfg clock p begun hmini with
    ⟨hresult, hunheard⟩ | ⟨r, hfound, hwaiting, hresult⟩ | ⟨r, hfound, hears, htakes, hresult⟩ |
      ⟨r, hfound, hears, htakes, hresult⟩
  · rw [hresult, packet_setPacket]
    cases hfound : st.findFor info with
    | none => rfl
    | some r => simp [(hunheard r hfound).2]
  · have hunheard : (st.session r).hears = false := by simp [Iax2Session.hears, hwaiting]
    have hsame : ((st.setPacket p info).stop r).packet p = info := packet_setPacket
    rw [hresult, hsame, hfound]
    simp [hunheard]
  · have hsame : ((st.setPacket p info).dismissed r p).packet p = info := packet_setPacket
    rw [hresult, hsame, hfound]
    simp [htakes]
  · rw [hresult, hfound]
    simp [hears, htakes, taken]

variable (cfg clock p) in
theorem received_append_single (begun : ∀ r, (st.session r).Begun) (hmini : AreMini dest infos)
    (info : Iax2PacketInfo) (r : Nat) :
    st.received (infos ++ [info]) r = st.received infos r ++
      if (reportThrough cfg clock p st infos).findFor info = some r then [info] else [] := by
  rw [received, walk_append cfg clock p begun hmini,
    List.filterMap_append, received]
  congr 1
  rw [walk, walk, List.filterMap_cons, List.filterMap_nil]
  split_ifs <;> simp_all

/-- When both take the same frames, the object ends with the timestamp of `finalTimestamp`. -/
theorem Lock.timestamp_eq_final (lock : Lock p dest (fun r => st.sideAt r dest) (fun _ => false)
      (fun r => st.lastAt r dest) st st) (hmini : AreMini dest infos)
    (hstops : st.StopsWithPayload infos) (hne : infos ≠ [])
    (hruns : ∀ r, (st.session r).hears = true →
      (sideRunAt cfg st (fun r => st.sideAt r dest) (fun _ => false) (fun r => st.lastAt r dest)
        infos r).isSome = true) :
    ((reportThrough cfg clock p st infos).packet p).timestamp =
      finalTimestamp cfg st dest infos := by
  obtain ⟨front, info, rfl⟩ : ∃ front info, infos = front ++ [info] :=
    ⟨infos.dropLast, infos.getLast hne, (List.dropLast_append_getLast hne).symm⟩
  have hfront : AreMini dest front := fun other hother => hmini other (List.mem_append_left _ hother)
  obtain ⟨hframe, hdest⟩ := hmini info (List.mem_append_right _ List.mem_cons_self)
  have hwalk := walk_append cfg clock p lock.begun hfront [info]
  have hstopsFront : st.StopsWithPayload front := by
    intro found hfound
    exact hstops found (by rw [hwalk]; exact List.mem_append_left _ hfound)
  have hsplit {r : Nat} (hears : (st.session r).hears = true) :=
    received_append_single cfg clock p lock.begun hfront info r
  obtain ⟨own, last, hlock, hheard, -⟩ := lock.run cfg clock hfront hstopsFront
    (by
      intro r hears
      have hsome := hruns r hears
      rw [sideRunAt, hsplit hears, sideRun_append, Option.isSome_bind] at hsome
      rw [sideRunAt]
      cases hrun : sideRun cfg.iax2RewriteTimestamps (st.sideAt r dest) false (st.lastAt r dest)
          (st.received front r) with
      | none => simp [hrun] at hsome
      | some result => rfl)
  have hlast : (reportThrough cfg clock p st (front ++ [info])) =
      ((reportThrough cfg clock p st front).reportPacket cfg clock p info).2 := by
    simp only [reportThrough, List.foldl_append, List.foldl_cons, List.foldl_nil]
  have hbegun := begun_reportThrough cfg clock p lock.begun hfront
  rw [hlast, timestamp_reportPacket hbegun hframe, finalTimestamp, hwalk]
  simp only [walk, List.getLast?_append, List.getLast?_singleton, Option.some_or]
  cases hfound : (reportThrough cfg clock p st front).findFor info with
  | none => rfl
  | some r =>
      dsimp only
      rw [hears_reportThrough _ _ _ lock.begun hfront]
      cases hears : (st.session r).hears with
      | false => simp
      | true =>
          cases hrewrite : cfg.iax2RewriteTimestamps with
          | false =>
              have hkept (σ : Side) (kept : Option UInt32) :
                  retainedTimestamp false σ kept info.timestamp = info.timestamp := by
                cases kept <;> rfl
              simp [hkept]
          | true =>
              have hwritten := hlock.writeS hdest
              have hside := hwritten.sideS r
              have hkept := hwritten.lastS r
              have hrun := hheard r hears
              rw [sideRunAt, hrewrite, sideRun_rewriting] at hrun
              split_ifs at hrun with hpayloads
              simp only [Bool.false_or, Option.some.injEq, Prod.mk.injEq] at hrun
              rw [packet_setPacket, ← hrun.1, ← hrun.2] at hkept
              rw [hdest, hside, hkept, hsplit hears, hfound, if_pos rfl, List.length_append]
              cases hreceived : st.received front r with
              | nil => simp [takes]
              | cons first rest => simp [takes]

/-! ### Frames with timestamps -/

/-- On every side of a call that hears, the object and separate frames agree. -/
def SidesAgree (cfg : Config) (st : Iax2Sessions) (dest : InAddr) (infos : List Iax2PacketInfo) :
    Prop :=
  ∀ r, (st.session r).hears = true →
    if cfg.iax2RewriteTimestamps then
      KeepsStepRewriting (st.sideAt r dest) (st.lastAt r dest) (finalTimestamp cfg st dest infos)
        (st.received infos r)
    else KeepsStep (st.lastAt r dest) (finalTimestamp cfg st dest infos) (st.received infos r)

/-- Before a frame, both runs start from the same store, and no session refers to a new
object. -/
theorem Reached.lock (reached : st.Reached) (dest : InAddr) :
    Lock st.nextPacket dest (fun r => st.sideAt r dest) (fun _ => false)
      (fun r => st.lastAt r dest) st st where
  maps := rfl
  next := rfl
  alphaCounter := rfl
  output := rfl
  bare := fun _ => rfl
  lastSome := fun _ => rfl
  sideS := fun _ => rfl
  sideT := fun _ => rfl
  lastT := fun _ => rfl
  same := by
    intro r other _
    refine ⟨?_, rfl⟩
    intro hslot
    exact absurd (reached.below r other _ hslot) (Nat.lt_irrefl _)
  owned := by
    intro r hown
    cases hown
  begun := fun r => (reached.sound r).begun
  fresh := reached.below

variable (cfg) in
theorem endsAlike_iff (st : Iax2Sessions) (dest : InAddr) (infos : List Iax2PacketInfo) (r : Nat) :
    EndsAlike (finalTimestamp cfg st dest infos) (sideRunAt cfg st (fun r => st.sideAt r dest)
        (fun _ => false) (fun r => st.lastAt r dest) infos r) ↔
      if cfg.iax2RewriteTimestamps then
        KeepsStepRewriting (st.sideAt r dest) (st.lastAt r dest)
          (finalTimestamp cfg st dest infos) (st.received infos r)
      else KeepsStep (st.lastAt r dest) (finalTimestamp cfg st dest infos) (st.received infos r) := by
  rw [sideRunAt]
  cases cfg.iax2RewriteTimestamps with
  | false => exact endsAlike_iff_keepsStep ..
  | true => exact endsAlike_iff_keepsStepRewriting ..

/-- Frames through one object end like separate ones just when they agree on every side. -/
theorem alike_iff_sidesAgree (reached : st.Reached) (hmini : AreMini dest infos)
    (hstops : st.StopsWithPayload infos) :
    Alike (reportThrough cfg clock st.nextPacket st infos) (st.reportSeparately cfg clock infos) ↔
      SidesAgree cfg st dest infos := by
  have lock := reached.lock dest
  by_cases hne : infos = []
  · subst hne
    constructor
    · intro _ r _
      rw [← endsAlike_iff _]
      exact ⟨false, _, rfl, by simp⟩
    · intro _
      exact lock.alike_iff.mpr fun r hown => by cases hown
  · constructor
    · intro halike r hears
      have hruns : ∀ r, (st.session r).hears = true →
          (sideRunAt cfg st (fun r => st.sideAt r dest) (fun _ => false)
            (fun r => st.lastAt r dest) infos r).isSome = true :=
        fun r => lock.sideRun_of_alike hmini hstops halike
      obtain ⟨own, last, hlock, hheard, -⟩ := lock.run cfg clock hmini hstops hruns
      rw [← endsAlike_iff _, hheard r hears]
      refine ⟨_, _, rfl, ?_⟩
      intro hown
      rw [hlock.alike_iff.mp halike r hown, lock.timestamp_eq_final hmini hstops hne hruns]
    · intro hagree
      have hends (r : Nat) (hears : (st.session r).hears = true) :=
        (endsAlike_iff cfg st dest infos r).mpr (hagree r hears)
      have hruns : ∀ r, (st.session r).hears = true →
          (sideRunAt cfg st (fun r => st.sideAt r dest) (fun _ => false)
            (fun r => st.lastAt r dest) infos r).isSome = true := by
        intro r hears
        obtain ⟨own, last, hrun, -⟩ := hends r hears
        rw [hrun]
        rfl
      obtain ⟨own, last, hlock, hheard, hunheard⟩ := lock.run cfg clock hmini hstops hruns
      rw [hlock.alike_iff]
      intro r hown
      have hears : (st.session r).hears = true := by
        by_contra hnot
        rw [hunheard r (Bool.not_eq_true _ ▸ hnot)] at hown
        cases hown
      obtain ⟨own', last', hrun, hfinal⟩ := hends r hears
      rw [hheard r hears, Option.some.injEq, Prod.mk.injEq] at hrun
      rw [lock.timestamp_eq_final hmini hstops hne hruns, hrun.2]
      exact hfinal (hrun.1 ▸ hown)

/-! ### Frames without timestamps -/

/-- The payloads of the audio chunks handed out. -/
def payloads (st : Iax2Sessions) : List (List UInt8) := st.audio.map fun chunk => chunk.2.1

/-- Whether the frame is handed out when it is reported through `p`. -/
def handsOut (cfg : Config) (p : Nat) (st : Iax2Sessions) (info : Iax2PacketInfo) : Bool :=
  match st.findFor info with
  | none => false
  | some r => (st.session r).hears &&
      takes cfg.iax2RewriteTimestamps ((st.setPacket p info).lastAt r info.destIp) info.timestamp

variable (cfg clock p) in
theorem payloads_reportPacket (begun : ∀ r, (st.session r).Begun) (hmini : info.frameType = .mini) :
    (st.reportPacket cfg clock p info).2.payloads =
      st.payloads ++ if handsOut cfg p st info then [info.payload] else [] := by
  rcases reportPacket_cases cfg clock p begun hmini with
    ⟨hresult, hunheard⟩ | ⟨r, hfound, hwaiting, hresult⟩ | ⟨r, hfound, hears, htakes, hresult⟩ |
      ⟨r, hfound, hears, htakes, hresult⟩
  · have hnot : handsOut cfg p st info = false := by
      cases hfound : st.findFor info with
      | none => simp [handsOut, hfound]
      | some r => simp [handsOut, hfound, (hunheard r hfound).2]
    rw [hresult, hnot]
    simp [payloads, audio, setPacket]
  · have hnot : handsOut cfg p st info = false := by
      simp [handsOut, hfound, Iax2Session.hears, hwaiting]
    have hnone : (st.session r).stop.2.filterMap audioOf = [] := by
      unfold Iax2Session.stop
      split_ifs <;> rfl
    rw [hresult, hnot]
    simp [payloads, audio, stop, setPacket, hnone]
  · have hnot : handsOut cfg p st info = false := by
      simp [handsOut, hfound, htakes]
    rw [hresult, hnot]
    simp [payloads, audio, dismissed, setSession, setPacket]
  · have hhands : handsOut cfg p st info = true := by
      simp [handsOut, hfound, hears, htakes]
    rw [hresult, hhands]
    simp [payloads, audio, taken, setPacket, audioOf, chunk]

/-- Every frame is handed out, one after the other. -/
def AllHandedOut (cfg : Config) (clock : Clock) (p : Nat) : Iax2Sessions → List Iax2PacketInfo → Prop
  | _, [] => True
  | st, info :: infos => handsOut cfg p st info = true ∧
      AllHandedOut cfg clock p (st.reportPacket cfg clock p info).2 infos

variable (cfg clock p) in
theorem payloads_reportThrough (begun : ∀ r, (st.session r).Begun) (hmini : AreMini dest infos) :
    ∃ more, (reportThrough cfg clock p st infos).payloads = st.payloads ++ more ∧
      more.length ≤ infos.length ∧
      (AllHandedOut cfg clock p st infos → more = infos.map Iax2PacketInfo.payload) ∧
      (more.length = infos.length → AllHandedOut cfg clock p st infos) := by
  induction infos generalizing st with
  | nil => exact ⟨[], (List.append_nil _).symm, Nat.le_refl _, fun _ => rfl, fun _ => trivial⟩
  | cons info infos ih =>
      have hframe := (hmini info List.mem_cons_self).1
      obtain ⟨rest, hrest, hle, hall, hcount⟩ := ih
        (begun_reportPacket cfg clock p begun hframe)
        hmini.tail
      have hfirst := payloads_reportPacket cfg clock p begun hframe
      rw [hfirst, List.append_assoc] at hrest
      refine ⟨_, hrest, ?_, ?_, ?_⟩
      · split_ifs
        · simpa using hle
        · exact hle.trans (Nat.le_succ _)
      · rintro ⟨hhands, htail⟩
        rw [if_pos hhands, hall htail]
        rfl
      · intro hlength
        split_ifs at hlength with hhands
        · refine ⟨hhands, hcount ?_⟩
          simpa using hlength
        · simp only [List.nil_append, List.length_cons] at hlength
          omega

/-- Every frame finds a session that hears. Without rewriting no session is found twice, and
none has the timestamp of its frame already. -/
def EveryFrameNew (cfg : Config) (st : Iax2Sessions) (dest : InAddr)
    (infos : List Iax2PacketInfo) : Prop :=
  (∀ found ∈ st.walk infos, ∃ r, found.2 = some r ∧ (st.session r).hears = true ∧
    (cfg.iax2RewriteTimestamps = true ∨ st.lastAt r dest ≠ some found.1.timestamp)) ∧
  (cfg.iax2RewriteTimestamps = true ∨ ((st.walk infos).map Prod.snd).Nodup)

theorem takesShared_iff {rewrite owned : Bool} {kept : Option UInt32} :
    takesShared rewrite owned kept info = true ↔
      rewrite = true ∨ owned = false ∧ kept ≠ some info.timestamp := by
  simp [takesShared]

variable (cfg clock p infos) in
theorem walk_cons_of_found (begun : ∀ r, (st.session r).Begun) (hmini : info.frameType = .mini)
    (hfound : st.findFor info = some r) : st.walk (info :: infos) =
      (info, some r) :: (st.reportPacket cfg clock p info).2.walk infos := by
  have hlookups := sameLookups_reportPacket cfg clock p begun hmini
  rw [walk, hlookups.walk, hfound]

variable (cfg clock) in
/-- `own` are the sessions that have taken a frame already. -/
theorem Lock.allHandedOut_iff (lock : Lock p dest side own last S T) (hmini : AreMini dest infos) :
    AllHandedOut cfg clock p S infos ↔
      (∀ found ∈ S.walk infos, ∃ r, found.2 = some r ∧ (S.session r).hears = true ∧
        (cfg.iax2RewriteTimestamps = true ∨
          own r = false ∧ last r ≠ some found.1.timestamp)) ∧
      (cfg.iax2RewriteTimestamps = true ∨ ((S.walk infos).map Prod.snd).Nodup) := by
  induction infos generalizing S T own last with
  | nil => simp [AllHandedOut, walk]
  | cons info infos ih =>
      obtain ⟨hframe, hdest⟩ := hmini info List.mem_cons_self
      have hrest : AreMini dest infos := hmini.tail
      -- a session that takes the frame refers to the object from then on
      have hnext {r : Nat} (hfound : S.findFor info = some r) (hears : (S.session r).hears = true)
          (hshared : takesShared cfg.iax2RewriteTimestamps (own r) (last r) info = true) :
          ∃ kept T', Lock p dest side (Function.update own r true) (Function.update last r kept)
            (S.reportPacket cfg clock p info).2 T' := by
        have hresult := reportPacket_of_takes clock hfound (lock.begun r) hears hframe
          ((lock.takes_eq _ hdest r).trans hshared)
        rw [hresult]
        refine ⟨_, _, ((lock.writeS hdest).writeT info).take cfg hears
          (Nat.lt_of_succ_le (Nat.le_max_right _ _)) ?_ hdest⟩
        intro x other hslot
        exact absurd (lock.fresh x other _ hslot) (Nat.lt_irrefl _)
      have hhears (x : Nat) : ((S.reportPacket cfg clock p info).2.session x).hears =
          (S.session x).hears := hears_reportPacket _ _ _ lock.begun hframe x
      have hwalk {r : Nat} (hfound : S.findFor info = some r) := 
        walk_cons_of_found cfg clock p infos lock.begun hframe hfound
      constructor
      · rintro ⟨hhands, htail⟩
        obtain ⟨r, hfound, hears, htakes⟩ : ∃ r, S.findFor info = some r ∧
            (S.session r).hears = true ∧ takes cfg.iax2RewriteTimestamps
              ((S.setPacket p info).lastAt r info.destIp) info.timestamp = true := by
          cases hfound : S.findFor info with
          | none => simp [handsOut, hfound] at hhands
          | some r => exact ⟨r, rfl, by simpa [handsOut, hfound] using hhands⟩
        have hshared := (lock.takes_eq cfg hdest r).symm.trans htakes
        obtain ⟨kept, T', hlock⟩ := hnext hfound hears hshared
        obtain ⟨hall, hnodup⟩ := (ih hlock hrest).mp htail
        have hfree : cfg.iax2RewriteTimestamps = true ∨ ∀ found ∈
            (S.reportPacket cfg clock p info).2.walk infos, found.2 ≠ some r := by
          by_cases hrewrite : cfg.iax2RewriteTimestamps = true
          · exact .inl hrewrite
          · refine .inr fun found hmem hr => ?_
            obtain ⟨x, hx, -, hcond⟩ := hall found hmem
            cases hx.symm.trans hr
            have hown := (hcond.resolve_left hrewrite).1
            rw [Function.update_self] at hown
            cases hown
        rw [hwalk hfound]
        refine ⟨?_, ?_⟩
        · rw [List.forall_mem_cons]
          refine ⟨⟨r, rfl, hears, takesShared_iff.mp hshared⟩, ?_⟩
          intro found hmem
          obtain ⟨x, hx, hhearsX, hcond⟩ := hall found hmem
          refine ⟨x, hx, (hhears x).symm.trans hhearsX, ?_⟩
          rcases hfree with hrewrite | hfree
          · exact .inl hrewrite
          · have hne : x ≠ r := by
              rintro rfl
              exact hfree found hmem hx
            rwa [Function.update_of_ne hne, Function.update_of_ne hne] at hcond
        · rcases hfree with hrewrite | hfree
          · exact .inl hrewrite
          · apply hnodup.imp_right
            intro hnodup
            rw [List.map_cons, List.nodup_cons]
            refine ⟨?_, hnodup⟩
            intro hmem
            obtain ⟨found, hfoundMem, hfoundEq⟩ := List.mem_map.mp hmem
            exact hfree found hfoundMem hfoundEq
      · rintro ⟨hall, hnodup⟩
        obtain ⟨r, hr, hears, hcond⟩ := hall _ List.mem_cons_self
        have hfound : S.findFor info = some r := hr
        have hshared : takesShared cfg.iax2RewriteTimestamps (own r) (last r) info = true :=
          takesShared_iff.mpr hcond
        have htakes := (lock.takes_eq cfg hdest r).trans hshared
        obtain ⟨kept, T', hlock⟩ := hnext hfound hears hshared
        rw [hwalk hfound] at hall hnodup
        refine ⟨by simp [handsOut, hfound, hears, htakes], (ih hlock hrest).mpr ⟨?_, ?_⟩⟩
        · intro found hmem
          obtain ⟨x, hx, hhearsX, hcondX⟩ := hall found (List.mem_cons_of_mem _ hmem)
          refine ⟨x, hx, (hhears x).trans hhearsX, ?_⟩
          rcases hnodup with hrewrite | hnodup
          · exact .inl hrewrite
          · have hne : x ≠ r := by
              rintro rfl
              rw [List.map_cons, List.nodup_cons] at hnodup
              exact hnodup.1 (List.mem_map.mpr ⟨found, hmem, hx⟩)
            rwa [Function.update_of_ne hne, Function.update_of_ne hne]
        · apply hnodup.imp_right
          intro hnodup
          exact (List.nodup_cons.mp hnodup).2

/-- Through one object every frame is handed out just when they are new to their sessions. -/
theorem payloads_eq_iff (reached : st.Reached) (hmini : AreMini dest infos) :
    (reportThrough cfg clock st.nextPacket st infos).payloads =
        st.payloads ++ infos.map Iax2PacketInfo.payload ↔
      EveryFrameNew cfg st dest infos := by
  have lock := reached.lock dest
  have hall := lock.allHandedOut_iff cfg clock hmini
  obtain ⟨more, hmore, -, hifAll, hifCount⟩ := payloads_reportThrough cfg clock
    st.nextPacket lock.begun hmini
  have hnew : EveryFrameNew cfg st dest infos ↔ AllHandedOut cfg clock st.nextPacket st infos := by
    rw [hall]
    simp [EveryFrameNew]
  rw [hmore, List.append_cancel_left_eq, hnew]
  constructor
  · intro hequal
    apply hifCount
    rw [hequal, List.length_map]
  · exact hifAll

end Iax2Sessions

end OrkAudio.Iax2
