import OrkAudio.Iax2.TrunkRun

/-! What a run shows of a frame that only one side has taken.

`Alike` compares two stores by what can be seen of them: the maps, the sessions with what they
read of the frames they refer to, and the audio handed out. -/

namespace OrkAudio.Iax2

open Lib VoIp

/-- The audio of an output. -/
def audioOf : Output → Option (AudioChunkDetails × List UInt8 × String)
  | .captureEvent .. => none
  | .audioChunk details payload capturePort => some (details, payload, capturePort)

namespace Iax2Sessions

open Iax2Session

/-- The audio chunks handed out, the first one first. -/
def audio (st : Iax2Sessions) : List (AudioChunkDetails × List UInt8 × String) :=
  st.output.filterMap audioOf

/-- The same sessions, as far as any operation reads them. -/
structure SameSessions (S T : Iax2Sessions) : Prop where
  maps : S.toMaps = T.toMaps
  next : S.next = T.next
  alphaCounter : S.alphaCounter = T.alphaCounter
  bare : ∀ r, (S.session r).bare = (T.session r).bare
  lastSome : ∀ r, (S.session r).lastIax2Packet.isSome = (T.session r).lastIax2Packet.isSome
  retained : ∀ r side, (S.session r).retained S.packet side = (T.session r).retained T.packet side

/-- The same sessions and the same audio chunks. -/
def Alike (S T : Iax2Sessions) : Prop := SameSessions S T ∧ S.audio = T.audio

variable {cfg : Config} {clock : Clock} {p q : Nat} {dest : InAddr} {side : Nat → Side}
  {own : Nat → Bool} {last : Nat → Option UInt32} {st S T : Iax2Sessions} {info : Iax2PacketInfo}
  {infos : List Iax2PacketInfo} {r : Nat}

variable (cfg clock p) in
theorem begun_reportPacket (begun : ∀ r, (st.session r).Begun) (hmini : info.frameType = .mini)
    (x : Nat) : ((st.reportPacket cfg clock p info).2.session x).Begun := by
  have hset {r : Nat} {s : Iax2Session} (hs : s.Begun) :
      (((st.setPacket p info).setSession r s).session x).Begun := by
    by_cases hx : x = r
    · subst hx
      rwa [session_setSession_self]
    · rw [session_setSession_of_ne hx]
      exact begun x
  rcases reportPacket_cases cfg clock p begun hmini with
    ⟨hresult, -⟩ | ⟨r, -, -, hresult⟩ | ⟨r, -, hears, -, hresult⟩ | ⟨r, -, hears, -, hresult⟩
  · rw [hresult]
    exact begun x
  · rw [hresult]
    apply hset
    intro hsome
    rw [lastIax2Packet_stop] at hsome
    rw [started_stop, numIax2Packets_stop]
    exact begun r hsome
  · rw [hresult]
    exact hset (begun_setLast (begun r) hears)
  · rw [hresult]
    apply hset
    intro _
    rw [started_count, started_refer, numIax2Packets_count]
    exact ⟨(begun r (isSome_of_hears hears)).1, Nat.succ_pos _⟩

/-! ### Frames counted -/

variable (cfg clock p) in
theorem le_numIax2Packets_reportPacket (begun : ∀ r, (st.session r).Begun)
    (hmini : info.frameType = .mini) (x : Nat) :
    (st.session x).numIax2Packets ≤
      ((st.reportPacket cfg clock p info).2.session x).numIax2Packets := by
  have hset {r : Nat} {s : Iax2Session} (hs : (st.session r).numIax2Packets ≤ s.numIax2Packets) :
      (st.session x).numIax2Packets ≤
        (((st.setPacket p info).setSession r s).session x).numIax2Packets := by
    by_cases hx : x = r
    · subst hx
      rwa [session_setSession_self]
    · rw [session_setSession_of_ne hx]
      rfl
  rcases reportPacket_cases cfg clock p begun hmini with
    ⟨hresult, -⟩ | ⟨r, -, -, hresult⟩ | ⟨r, -, -, -, hresult⟩ | ⟨r, -, -, -, hresult⟩
  · rw [hresult]
    rfl
  · rw [hresult]
    exact hset (numIax2Packets_stop (s := st.session r)).ge
  · rw [hresult]
    exact hset (Nat.le_refl _)
  · rw [hresult]
    apply hset
    rw [numIax2Packets_count, numIax2Packets_refer]
    exact Nat.le_succ _

variable (cfg clock) in
theorem le_numIax2Packets_reportSeparately (begun : ∀ r, (T.session r).Begun)
    (hmini : AreMini dest infos) (x : Nat) :
    (T.session x).numIax2Packets ≤
      ((T.reportSeparately cfg clock infos).session x).numIax2Packets := by
  induction infos generalizing T with
  | nil => exact Nat.le_refl _
  | cons info infos ih =>
      have hrest : AreMini dest infos := hmini.tail
      have hframe := (hmini info List.mem_cons_self).1
      rw [reportSeparately_cons]
      by_cases hpayload : info.payload = []
      · have hsame : T.reportSeparately cfg clock [info] = T := if_pos hpayload
        rw [hsame]
        exact ih begun hrest
      · have hreport : T.reportSeparately cfg clock [info] =
            (T.reportPacket cfg clock T.nextPacket info).2 := if_neg hpayload
        rw [hreport]
        exact (le_numIax2Packets_reportPacket _ _ _ begun hframe x).trans
          (ih (begun_reportPacket _ _ _ begun hframe) hrest)

/-- The session refers to the object on its side of the address. -/
structure Owns (p : Nat) (dest : InAddr) (r : Nat) (σ : Side) (st : Iax2Sessions) : Prop where
  side : st.sideAt r dest = σ
  slot : (st.session r).lastOfSide σ = some p
  dest : (st.packet p).destIp = dest
  begun : ∀ x, (st.session x).Begun

variable (cfg clock) in
/-- Without rewriting, no frame is counted any more once the session refers to the object. -/
theorem Owns.reportPacket {side : Side} (owns : Owns p dest r side st)
    (hrewrite : cfg.iax2RewriteTimestamps = false) (hmini : info.frameType = .mini)
    (hdest : info.destIp = dest) :
    Owns p dest r side (st.reportPacket cfg clock p info).2 ∧
      ((st.reportPacket cfg clock p info).2.session r).numIax2Packets =
        (st.session r).numIax2Packets := by
  subst hdest
  have hsideOf {packet : Nat → Iax2PacketInfo} (hpacket : (packet p).destIp = info.destIp)
      (hothers : ∀ q, q ≠ p → packet q = st.packet q) {s : Iax2Session}
      (hslots : ∀ other, s.lastOfSide other = (st.session r).lastOfSide other) :
      s.sideTo packet info.destIp = side := by
    by_cases hslot : (st.session r).lastOfSide .side1 = some p
    · have hold : (st.session r).sideTo st.packet info.destIp = .side1 := by
        have hkept := retained_of_last st.packet hslot
        rw [owns.dest] at hkept
        exact sideTo_of_retained hkept
      have hkept := retained_of_last packet ((hslots .side1).trans hslot)
      rw [hpacket] at hkept
      rw [sideTo_of_retained hkept, ← hold]
      exact owns.side
    · have hretained : s.retained packet .side1 = (st.session r).retained st.packet .side1 := by
        rw [retained, retained, hslots]
        cases hlast : (st.session r).lastOfSide .side1 with
        | none => rfl
        | some q =>
            have hq : q ≠ p := by
              rintro rfl
              exact hslot hlast
            simp [hothers q hq]
      exact (sideTo_congr _ hretained).trans owns.side
  have hwritten (q : Nat) (hq : q ≠ p) : (st.setPacket p info).packet q = st.packet q :=
    Function.update_of_ne hq ..
  have hkeep {next : Iax2Sessions} (hbegun : ∀ x, (next.session x).Begun)
      (hpacket : (next.packet p).destIp = info.destIp)
      (hothers : ∀ q, q ≠ p → next.packet q = st.packet q)
      (hslots : ∀ other, (next.session r).lastOfSide other = (st.session r).lastOfSide other) :
      Owns p info.destIp r side next :=
    ⟨hsideOf hpacket hothers hslots, (hslots side).trans owns.slot, hpacket, hbegun⟩
  have hbegun := begun_reportPacket cfg clock p owns.begun hmini
  rcases reportPacket_cases cfg clock p owns.begun hmini with
    ⟨hresult, -⟩ | ⟨x, -, -, hresult⟩ | ⟨x, -, -, -, hresult⟩ | ⟨x, -, -, htakes, hresult⟩
  · rw [hresult] at hbegun ⊢
    exact ⟨hkeep hbegun (by rw [packet_setPacket]) hwritten fun _ => rfl, rfl⟩
  · have hsession : (((st.setPacket p info).stop x).session r).numIax2Packets =
        (st.session r).numIax2Packets ∧
        ∀ other, (((st.setPacket p info).stop x).session r).lastOfSide other =
          (st.session r).lastOfSide other := by
      by_cases hx : r = x
      · subst hx
        simp [stop, setSession, setPacket]
      · simp [stop, setSession, setPacket, Function.update_of_ne hx]
    rw [hresult] at hbegun ⊢
    exact ⟨hkeep hbegun (by exact congrArg _ packet_setPacket) hwritten hsession.2, hsession.1⟩
  · have hsession : (((st.setPacket p info).dismissed x p).session r).numIax2Packets =
        (st.session r).numIax2Packets ∧
        ∀ other, (((st.setPacket p info).dismissed x p).session r).lastOfSide other =
          (st.session r).lastOfSide other := by
      by_cases hx : r = x
      · subst hx
        rw [dismissed, session_setSession_self]
        exact ⟨rfl, fun other => by cases other <;> rfl⟩
      · rw [dismissed, session_setSession_of_ne hx]
        exact ⟨rfl, fun _ => rfl⟩
    rw [hresult] at hbegun ⊢
    exact ⟨hkeep hbegun (by exact congrArg _ packet_setPacket) hwritten hsession.2, hsession.1⟩
  -- another session took the frame: this one would have compared the object with itself
  · have hx : r ≠ x := by
      rintro rfl
      have hside : (st.session r).sideTo (st.setPacket p info).packet info.destIp = side :=
        hsideOf (by rw [packet_setPacket]) hwritten fun _ => rfl
      have hlast : (st.setPacket p info).lastAt r info.destIp = some info.timestamp := by
        have hkept := retained_of_last ((st.setPacket p info).packet) owns.slot
        rw [packet_setPacket] at hkept
        rw [lastAt, lastTimestamp]
        change ((st.session r).retained _ ((st.session r).sideTo _ _)).map Prod.snd = _
        rw [hside, hkept]
        rfl
      rw [hlast] at htakes
      simp [takes, hrewrite] at htakes
    have hsession : ((st.setPacket p info).taken cfg x p info).session r = st.session r :=
      Function.update_of_ne hx ..
    have hpacket : (((st.setPacket p info).taken cfg x p info).packet p).destIp = info.destIp := by
      simp [taken]
    have hothers (q : Nat) (hq : q ≠ p) :
        ((st.setPacket p info).taken cfg x p info).packet q = st.packet q := by
      simp [taken, setPacket, Function.update_of_ne hq]
    rw [hresult] at hbegun ⊢
    rw [hsession]
    exact ⟨hkeep hbegun hpacket hothers fun _ => by rw [hsession], rfl⟩

variable (cfg clock) in
theorem Owns.reportThrough {side : Side} (owns : Owns p dest r side st)
    (hrewrite : cfg.iax2RewriteTimestamps = false) (hmini : AreMini dest infos) :
    ((reportThrough cfg clock p st infos).session r).numIax2Packets =
      (st.session r).numIax2Packets := by
  induction infos generalizing st with
  | nil => rfl
  | cons info infos ih =>
      obtain ⟨hframe, hdest⟩ := hmini info List.mem_cons_self
      obtain ⟨howns, hnum⟩ := owns.reportPacket cfg clock hrewrite hframe hdest
      exact (ih howns hmini.tail).trans hnum

/-! ### Audio handed out -/

variable (cfg clock p) in
/-- A mini frame adds to the output, and all audio that it adds has its payload. -/
theorem output_reportPacket (begun : ∀ r, (st.session r).Begun) (hmini : info.frameType = .mini) :
    ∃ more, (st.reportPacket cfg clock p info).2.output = st.output ++ more ∧
      ∀ chunk ∈ more.filterMap audioOf, chunk.2.1 = info.payload := by
  rcases reportPacket_cases cfg clock p begun hmini with
    ⟨hresult, -⟩ | ⟨r, -, -, hresult⟩ | ⟨r, -, -, -, hresult⟩ | ⟨r, -, -, -, hresult⟩
  · refine ⟨[], ?_, by simp⟩
    rw [hresult, List.append_nil]
    rfl
  · refine ⟨(st.session r).stop.2, by rw [hresult]; rfl, ?_⟩
    have hnone : (st.session r).stop.2.filterMap audioOf = [] := by
      unfold Iax2Session.stop
      split_ifs <;> rfl
    simp [hnone]
  · refine ⟨[], ?_, by simp⟩
    rw [hresult, List.append_nil]
    rfl
  · refine ⟨_, by rw [hresult]; rfl, ?_⟩
    simp [audioOf, chunk]

variable (cfg clock p) in
theorem output_reportThrough (begun : ∀ r, (st.session r).Begun) (hmini : AreMini dest infos) :
    ∃ more, (reportThrough cfg clock p st infos).output = st.output ++ more := by
  induction infos generalizing st with
  | nil => exact ⟨[], (List.append_nil _).symm⟩
  | cons info infos ih =>
      have hframe := (hmini info List.mem_cons_self).1
      obtain ⟨first, hfirst, -⟩ := output_reportPacket cfg clock p
        begun hframe
      obtain ⟨rest, hrest⟩ := ih (begun_reportPacket cfg clock p
        begun hframe) hmini.tail
      refine ⟨first ++ rest, ?_⟩
      rw [← List.append_assoc, ← hfirst]
      exact hrest

variable (cfg clock) in
theorem output_reportSeparately (begun : ∀ r, (T.session r).Begun) (hmini : AreMini dest infos) :
    ∃ more, (T.reportSeparately cfg clock infos).output = T.output ++ more ∧
      ∀ chunk ∈ more.filterMap audioOf, chunk.2.1 ≠ [] := by
  induction infos generalizing T with
  | nil => exact ⟨[], (List.append_nil _).symm, by simp⟩
  | cons info infos ih =>
      have hrest : AreMini dest infos := hmini.tail
      have hframe := (hmini info List.mem_cons_self).1
      rw [reportSeparately_cons]
      by_cases hpayload : info.payload = []
      · have hsame : T.reportSeparately cfg clock [info] = T := if_pos hpayload
        rw [hsame]
        exact ih begun hrest
      · have hreport : T.reportSeparately cfg clock [info] =
            (T.reportPacket cfg clock T.nextPacket info).2 := if_neg hpayload
        rw [hreport]
        obtain ⟨first, hfirst, hpayloads⟩ := output_reportPacket cfg clock T.nextPacket begun hframe
        obtain ⟨rest, houtput, hothers⟩ := ih
          (begun_reportPacket cfg clock T.nextPacket begun hframe) hrest
        refine ⟨first ++ rest, ?_, ?_⟩
        · rw [houtput, hfirst, List.append_assoc]
        · intro chunk hchunk
          rw [List.filterMap_append] at hchunk
          rcases List.mem_append.mp hchunk with hmem | hmem
          · rw [hpayloads chunk hmem]
            exact hpayload
          · exact hothers chunk hmem

end Iax2Sessions

end OrkAudio.Iax2
