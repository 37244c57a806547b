import OrkAudio.Iax2.TrunkFrame

/-! A meta trunk frame against its entries handed over as mini frames. -/

namespace OrkAudio.Iax2

open Lib VoIp

namespace Iax2Sessions

variable {cfg : Config} {clock : Clock} {st : Iax2Sessions} {d : Datagram}

/-- The entries of a meta trunk frame, as its parser reports them. -/
def entryInfos (clock : Clock) (d : Datagram) (timestamps : Bool) (data : List UInt8) :
    List Iax2PacketInfo :=
  (readEntries timestamps data.length data).map (TrunkEntry.packetInfo clock d)

/-- The entries of a meta trunk frame, each as a mini frame of its own. -/
def handSeparately (cfg : Config) (clock : Clock) (st : Iax2Sessions) (d : Datagram)
    (entries : List TrunkEntry) : Iax2Sessions :=
  entries.foldl (fun st entry => (st.tryIax2MiniVoiceFrame cfg clock (entry.miniFrame d)).2) st

theorem handSeparately_eq (hsupport : cfg.iax2Support = true) (entries : List TrunkEntry) :
    handSeparately cfg clock st d entries =
      st.reportSeparately cfg clock (entries.map (TrunkEntry.packetInfo clock d)) := by
  induction entries generalizing st with
  | nil => rfl
  | cons entry entries ih =>
      have hfirst := tryIax2MiniVoiceFrame_miniFrame cfg clock st d entry hsupport
      calc handSeparately cfg clock st d (entry :: entries)
          = handSeparately cfg clock (st.tryIax2MiniVoiceFrame cfg clock (entry.miniFrame d)).2 d
              entries := rfl
        _ = _ := by
            rw [hfirst, ih]
            rfl

theorem areMini_entryInfos (timestamps : Bool) (data : List UInt8) :
    AreMini d.ipDest (entryInfos clock d timestamps data) := by
  intro info hmem
  obtain ⟨entry, -, rfl⟩ := List.mem_map.mp hmem
  exact ⟨rfl, rfl⟩

theorem payloads_entryInfos (clock : Clock) (d : Datagram) (timestamps : Bool) (data : List UInt8) :
    (entryInfos clock d timestamps data).map Iax2PacketInfo.payload =
      (readEntries timestamps data.length data).map TrunkEntry.data := by
  rw [entryInfos, List.map_map]
  rfl

/-- Only the sniffer that supports IAX2 reads a meta trunk frame. -/
theorem iax2Support_of_metaTrunkData? {found : Bool × List UInt8}
    (hdata : metaTrunkData? cfg d = some found) : cfg.iax2Support = true := by
  by_contra hnot
  rw [metaTrunkData?, if_pos (.inl (by simpa using hnot))] at hdata
  cases hdata

theorem tryIax2MetaTrunkFrame_of_data {timestamps : Bool} {data : List UInt8}
    (hdata : metaTrunkData? cfg d = some (timestamps, data)) :
    (st.tryIax2MetaTrunkFrame cfg clock d).2 =
      reportThrough cfg clock st.nextPacket st (entryInfos clock d timestamps data) := by
  rw [tryIax2MetaTrunkFrame, hdata]
  rfl

/-- From any state that a run reaches, a frame with timestamps ends like its entries as mini
frames just when the one object agrees with an object for each of them on every side of the
calls that hear, given that no entry without a payload stops a call. A frame without
timestamps hands out all its audio just when every entry is new to a call that hears. -/
theorem metaTrunkFrame_iff {alphaCounter : Nat} {labels : List (Clock × Operation)}
    (run : Steps (Step cfg) (empty alphaCounter) labels st) (clock : Clock) (d : Datagram) :
    (∀ data, metaTrunkData? cfg d = some (true, data) →
      st.StopsWithPayload (entryInfos clock d true data) →
        (Alike (st.tryIax2MetaTrunkFrame cfg clock d).2
            (handSeparately cfg clock st d (readEntries true data.length data)) ↔
          SidesAgree cfg st d.ipDest (entryInfos clock d true data))) ∧
    (∀ data, metaTrunkData? cfg d = some (false, data) →
      ((st.tryIax2MetaTrunkFrame cfg clock d).2.payloads =
          st.payloads ++ (readEntries false data.length data).map TrunkEntry.data ↔
        EveryFrameNew cfg st d.ipDest (entryInfos clock d false data))) := by
  have reached := reached_of_run run
  constructor
  · intro data hdata hstops
    rw [tryIax2MetaTrunkFrame_of_data hdata,
      handSeparately_eq (iax2Support_of_metaTrunkData? hdata)]
    exact alike_iff_sidesAgree reached (areMini_entryInfos true data) hstops
  · intro data hdata
    rw [tryIax2MetaTrunkFrame_of_data hdata, ← payloads_entryInfos clock d]
    exact payloads_eq_iff reached (areMini_entryInfos false data)

/-! A call that is up, and frames of entries from its inviting party. -/

section

def newOfCall : Operation :=
  .reportIax2New { senderIp := 0x0100000A, receiverIp := 0x0200000A, callNo := "1" }

def acceptOfCall : Operation :=
  .reportIax2Accept
    { senderIp := 0x0200000A, receiverIp := 0x0100000A, senderCallno := "7",
      receiverCallno := "1" }

def fullFrameAt (timestamp : UInt32) : Operation :=
  .reportIax2Packet 0
    { sourceIp := 0x0100000A, destIp := 0x0200000A, sourcecallno := 1, destcallno := 7,
      frameType := .full, payloadType := 4, payload := [9], timestamp := timestamp }

def callOperations : List Operation := [newOfCall, acceptOfCall, fullFrameAt 100]

def withCall : Iax2Sessions :=
  callOperations.foldl (fun st operation => st.apply { iax2Support := true } clockAtZero operation)
    (empty 0)

/-- A frame of these entries, after the header with or without timestamps. -/
def trunkOf (cmddata : UInt8) (entries : List UInt8) : Datagram where
  ipSrc := 0x0100000A
  ipDest := 0x0200000A
  udpLen := 8 + ([0, 0, 1, cmddata, 0, 0, 0, 0] ++ entries).length
  udpPayload := [0, 0, 1, cmddata, 0, 0, 0, 0] ++ entries
  fits := Nat.le_refl _

theorem run_withCall : Steps (Step { iax2Support := true }) (empty 0)
    (callOperations.map fun operation => (clockAtZero, operation)) withCall :=
  .cons rfl (.cons rfl (.cons rfl (.nil _)))

/-- An entry of the call with the timestamp 120, and one without timestamp. -/
def stamped : List UInt8 := [0, 1, 0, 1, 0, 120, 5]

def unstamped : List UInt8 := [0, 1, 0, 1, 5]

/-- One entry finds the call, with or without a timestamp. -/
theorem metaTrunkFrame_iff_one_entry :
    Alike (withCall.tryIax2MetaTrunkFrame { iax2Support := true } clockAtZero
        (trunkOf 1 stamped)).2
      (handSeparately { iax2Support := true } clockAtZero withCall (trunkOf 1 stamped)
        (readEntries true stamped.length stamped)) ∧
    (withCall.tryIax2MetaTrunkFrame { iax2Support := true } clockAtZero
        (trunkOf 0 unstamped)).2.payloads =
      withCall.payloads ++ (readEntries false unstamped.length unstamped).map TrunkEntry.data := by
  constructor
  · obtain ⟨info, hwalk, hpayload, hrepeats, hfinal⟩ : ∃ info,
        withCall.walk (entryInfos clockAtZero (trunkOf 1 stamped) true stamped) =
          [(info, some 0)] ∧
        info.payload ≠ [] ∧ repeats (withCall.lastAt 0 (trunkOf 1 stamped).ipDest) info = false ∧
        info.timestamp = finalTimestamp { iax2Support := true } withCall (trunkOf 1 stamped).ipDest
          (entryInfos clockAtZero (trunkOf 1 stamped) true stamped) :=
      ⟨_, rfl, by decide +kernel, by decide +kernel, by decide +kernel⟩
    apply ((metaTrunkFrame_iff run_withCall clockAtZero (trunkOf 1 stamped)).1 stamped rfl
      _).mpr
    · intro r _
      apply (if_neg (by decide)).mpr
      rw [KeepsStep, received, hwalk]
      by_cases hr : r = 0
      · subst hr
        have hdrop : [info].dropWhile (repeats (withCall.lastAt 0 (trunkOf 1 stamped).ipDest)) =
            [info] := by
          rw [List.dropWhile_cons_of_neg (by simp [hrepeats])]
        simp only [List.filterMap_cons, if_true, List.filterMap_nil, hdrop]
        simpa [hpayload] using hfinal
      · simp [Ne.symm hr]
    · intro found hmem r _ hempty
      rw [hwalk, List.mem_singleton] at hmem
      rw [hmem] at hempty
      exact absurd hempty hpayload
  · apply ((metaTrunkFrame_iff run_withCall clockAtZero (trunkOf 0 unstamped)).2 unstamped
      rfl).mpr
    obtain ⟨info, hwalk, hlast⟩ : ∃ info,
        withCall.walk (entryInfos clockAtZero (trunkOf 0 unstamped) false unstamped) =
          [(info, some 0)] ∧
        withCall.lastAt 0 (trunkOf 0 unstamped).ipDest ≠ some info.timestamp :=
      ⟨_, rfl, by decide +kernel⟩
    rw [EveryFrameNew, hwalk]
    refine ⟨?_, .inr (by simp)⟩
    intro found hmem
    rw [List.mem_singleton.mp hmem]
    exact ⟨0, rfl, by decide +kernel, .inr hlast⟩

/-- Of two entries of one call the second is lost: the object that it is written to is the
frame that it is compared with. -/
theorem metaTrunkFrame_loses_second_entry :
    ¬ ∀ (cfg : Config) (labels : List (Clock × Operation)) (st : Iax2Sessions) (clock : Clock)
      (d : Datagram) (data : List UInt8),
      Steps (Step cfg) (empty 0) labels st → metaTrunkData? cfg d = some (true, data) →
        Alike (st.tryIax2MetaTrunkFrame cfg clock d).2
          (handSeparately cfg clock st d (readEntries true data.length data)) := by
  intro claim
  have halike := claim { iax2Support := true } _ withCall clockAtZero
    (trunkOf 1 [0, 1, 0, 1, 0, 120, 5, 0, 1, 0, 1, 0, 140, 6]) _ run_withCall rfl
  have hcount := congrArg List.length halike.2
  exact absurd hcount (by decide +kernel)

end

end Iax2Sessions

end OrkAudio.Iax2
