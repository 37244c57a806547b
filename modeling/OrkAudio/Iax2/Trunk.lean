import OrkAudio.Iax2.Sessions

/-! Meta trunk frames and mini frames.

A meta trunk frame carries entries of several calls, each with the length of its payload, and
each with a timestamp or none of them. Its parser reports all of them through one packet
object, which it writes anew for every entry; the parser of a mini frame makes an object for
each frame. -/

namespace OrkAudio.Iax2

open Lib VoIp

/-! ### Datagrams -/

/-- What the parsers read of the headers, and the bytes between the UDP header and the end of
the IP packet. -/
structure Datagram where
  ipSrc : InAddr
  ipDest : InAddr
  udpLen : Nat
  udpPayload : List UInt8
  fits : udpLen ≤ 8 + udpPayload.length

def ntohs (high low : UInt8) : UInt16 := high.toUInt16 * 256 + low.toUInt16

/-- The bytes of a number in network order. -/
def htons (x : UInt16) : List UInt8 := [UInt8.ofNat (x.toNat / 256), UInt8.ofNat x.toNat]

theorem ntohs_htons (x : UInt16) :
    ntohs (UInt8.ofNat (x.toNat / 256)) (UInt8.ofNat x.toNat) = x := by
  apply UInt16.toNat_inj.mp
  have hx := x.toNat_lt
  simp only [ntohs, UInt16.toNat_add, UInt16.toNat_mul, UInt8.toNat_toUInt16, UInt8.toNat_ofNat']
  have h256 : (256 : UInt16).toNat = 256 := rfl
  rw [h256]
  omega

/-- `scallno & ~0x8000`. -/
def maskCallno (scallno : UInt16) : UInt16 := scallno &&& 0x7FFF

/-! ### Entries -/

/-- `Iax2MetaTrunkEntryTs` and `Iax2MetaTrunkEntry`; the latter gives no timestamp. -/
structure TrunkEntry where
  scallno : UInt16
  ts : UInt16
  data : List UInt8
  deriving DecidableEq, Repr

/-- One entry and what follows it. -/
def readEntry (timestamps : Bool) (data : List UInt8) : Option (TrunkEntry × List UInt8) :=
  match timestamps, data with
  | true, len0 :: len1 :: call0 :: call1 :: ts0 :: ts1 :: data =>
      let len := (ntohs len0 len1).toNat
      if data.length < len then none
      else some (⟨ntohs call0 call1, ntohs ts0 ts1, data.take len⟩, data.drop len)
  | false, call0 :: call1 :: len0 :: len1 :: data =>
      let len := (ntohs len0 len1).toNat
      if data.length < len then none
      else some (⟨ntohs call0 call1, 0, data.take len⟩, data.drop len)
  | _, _ => none

/-- The entries up to the first that is not complete. -/
def readEntries (timestamps : Bool) : Nat → List UInt8 → List TrunkEntry
  | 0, _ => []
  | fuel + 1, data =>
      match readEntry timestamps data with
      | none => []
      | some (entry, rest) => entry :: readEntries timestamps fuel rest

theorem readEntry_length {timestamps : Bool} {data rest : List UInt8} {entry : TrunkEntry}
    (hread : readEntry timestamps data = some (entry, rest)) : rest.length < data.length := by
  unfold readEntry at hread
  split at hread
  · dsimp only at hread
    split_ifs at hread
    cases hread
    simp only [List.length_drop, List.length_cons]
    omega
  · dsimp only at hread
    split_ifs at hread
    cases hread
    simp only [List.length_drop, List.length_cons]
    omega
  · cases hread

/-- Every entry takes bytes, so that the number of bytes is enough fuel. -/
theorem readEntries_of_le {timestamps : Bool} {fuel : Nat} {data : List UInt8}
    (henough : data.length ≤ fuel) :
    readEntries timestamps fuel data = readEntries timestamps data.length data := by
  induction fuel using Nat.strong_induction_on generalizing data with
  | _ fuel ih =>
      cases fuel with
      | zero => rw [Nat.le_zero.mp henough]
      | succ fuel =>
          cases hread : readEntry timestamps data with
          | none =>
              cases hlength : data.length with
              | zero => simp [readEntries, hread]
              | succ count => simp [readEntries, hread]
          | some found =>
              obtain ⟨entry, rest⟩ := found
              have hlt := readEntry_length hread
              obtain ⟨count, hcount⟩ : ∃ count, data.length = count + 1 :=
                Nat.exists_eq_succ_of_ne_zero (by omega)
              have hrest : rest.length ≤ count := by omega
              rw [hcount]
              simp only [readEntries, hread]
              rw [ih fuel (Nat.lt_succ_self _) (by omega)]
              by_cases hless : count < fuel + 1
              · rw [ih count hless hrest]
              · omega

/-- What the header of a meta trunk frame says of its entries, and their bytes. -/
def metaTrunkData? (cfg : Config) (d : Datagram) : Option (Bool × List UInt8) :=
  if !cfg.iax2Support ∨ (d.udpLen : Int) - 8 < 8 then none
  else
    match d.udpPayload with
    | meta0 :: meta1 :: metacmd :: cmddata :: _ :: _ :: _ :: _ :: data =>
        if meta0 ≠ 0 ∨ meta1 ≠ 0 ∨ metacmd &&& 0x80 ≠ 0 ∨ metacmd ≠ 1 ∨ data = [] then none
        else some (cmddata &&& 1 ≠ 0, data)
    | _ => none

namespace TrunkEntry

variable (clock : Clock) (d : Datagram) (entry : TrunkEntry)

/-- What a parser writes to the packet object. -/
def packetInfo : Iax2PacketInfo where
  sourceIp := d.ipSrc
  destIp := d.ipDest
  sourcecallno := maskCallno entry.scallno
  destcallno := 0
  frameType := .mini
  payloadType := 0
  payload := entry.data
  timestamp := entry.ts.toUInt32
  arrivalTimestamp := clock.time

theorem fits_miniFrame :
    8 + 4 + entry.data.length ≤
      8 + (htons (maskCallno entry.scallno) ++ htons entry.ts ++ entry.data).length := by
  simp only [List.length_append, htons, List.length_cons, List.length_nil]
  omega

/-- The entry as a mini frame of its own between the same addresses. -/
def miniFrame : Datagram where
  ipSrc := d.ipSrc
  ipDest := d.ipDest
  udpLen := 8 + 4 + entry.data.length
  udpPayload := htons (maskCallno entry.scallno) ++ htons entry.ts ++ entry.data
  fits := fits_miniFrame entry

end TrunkEntry

namespace Iax2Sessions

variable (cfg : Config) (clock : Clock)

/-! ### The parsers -/

/-- Report the packets one after the other, each written to `p`. -/
def reportThrough (p : Nat) (st : Iax2Sessions) (infos : List Iax2PacketInfo) : Iax2Sessions :=
  infos.foldl (fun st info => (st.reportPacket cfg clock p info).2) st

/-- `TryIax2MetaTrunkFrame`. -/
def tryIax2MetaTrunkFrame (st : Iax2Sessions) (d : Datagram) : Bool × Iax2Sessions :=
  match metaTrunkData? cfg d with
  | none => (false, st)
  | some (timestamps, data) =>
      let entries := readEntries timestamps data.length data
      (!entries.isEmpty,
        reportThrough cfg clock st.nextPacket st (entries.map (TrunkEntry.packetInfo clock d)))

/-- `TryIax2MiniVoiceFrame`. -/
def tryIax2MiniVoiceFrame (st : Iax2Sessions) (d : Datagram) : Bool × Iax2Sessions :=
  if !cfg.iax2Support ∨ (d.udpLen : Int) - 8 < 4 then (false, st)
  else
    match d.udpPayload with
    | call0 :: call1 :: ts0 :: ts1 :: data =>
        if ntohs call0 call1 &&& 0x8000 ≠ 0 ∨ data = [] then (false, st)
        else
          st.reportPacket cfg clock st.nextPacket
            (TrunkEntry.packetInfo clock d ⟨ntohs call0 call1, ntohs ts0 ts1, data⟩)
    | _ => (false, st)

end Iax2Sessions

/-! ### An entry as a mini frame -/

theorem maskCallno_and (x : UInt16) : maskCallno x &&& 0x8000 = 0 := by
  have hzero : (0x7FFF : UInt16) &&& 0x8000 = 0 := by decide
  rw [maskCallno, UInt16.and_assoc, hzero, UInt16.and_zero]

theorem maskCallno_maskCallno (x : UInt16) : maskCallno (maskCallno x) = maskCallno x := by
  have hself : (0x7FFF : UInt16) &&& 0x7FFF = 0x7FFF := by decide
  rw [maskCallno, maskCallno, UInt16.and_assoc, hself]

/-- A mini frame with a payload is reported like the entry, through an object of its own. -/
theorem tryIax2MiniVoiceFrame_miniFrame (cfg : Config) (clock : Clock) (st : Iax2Sessions)
    (d : Datagram) (entry : TrunkEntry) (hsupport : cfg.iax2Support = true) :
    (st.tryIax2MiniVoiceFrame cfg clock (entry.miniFrame d)).2 =
      if entry.data = [] then st
      else (st.reportPacket cfg clock st.nextPacket (entry.packetInfo clock d)).2 := by
  have hcall := ntohs_htons (maskCallno entry.scallno)
  have hts := ntohs_htons entry.ts
  have hlength : ¬ ((8 + 4 + entry.data.length : Nat) : Int) - 8 < 4 := by omega
  simp only [Iax2Sessions.tryIax2MiniVoiceFrame, TrunkEntry.miniFrame, hsupport, Bool.not_true,
    Bool.false_eq_true, hlength, or_self, if_false, htons, List.cons_append, List.nil_append,
    hcall, hts, maskCallno_and, ne_eq, not_true_eq_false, false_or]
  split_ifs
  · rfl
  · simp [TrunkEntry.packetInfo, maskCallno_maskCallno]

end OrkAudio.Iax2
