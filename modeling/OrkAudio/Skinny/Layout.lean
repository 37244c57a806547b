import OrkAudio.Lib.Extent
import OrkAudio.Lib.LittleEndian
import OrkAudio.VoIp.Messages

/-! The structures as which Skinny messages are read, and what is checked of them.

A message is given by the bytes from its start to the end of the IP packet, as its handler
sees it. -/

namespace OrkAudio.Skinny

open Lib VoIp

/-- `infoEnabled` says whether the parsers log at the level of information. -/
structure Config extends VoIp.Config where
  cucm7_1Mode : Bool := true
  infoEnabled : Bool := false

/-! ### Fields -/

/-- An `unsigned int`. -/
def wordAt (offset : Nat) (data : List UInt8) : UInt32 :=
  LittleEndian.toWord ((data.drop offset).take 4)

def charsAt (offset size : Nat) (data : List UInt8) : List UInt8 := (data.drop offset).take size

/-- The chars before the first zero. -/
def cString (chars : List UInt8) : List UInt8 := chars.takeWhile fun c => decide (c ≠ 0)

def textOf (chars : List UInt8) : String :=
  String.ofList ((cString chars).map fun c => Char.ofNat c.toNat)

/-- `SkinnyHeaderStruct`. -/
def len (data : List UInt8) : UInt32 := wordAt 0 data

def headerVersion (data : List UInt8) : UInt32 := wordAt 4 data

def messageType (data : List UInt8) : UInt32 := wordAt 8 data

theorem readsWithin_wordAt {offset size : Nat} (hsize : offset + 4 ≤ size) :
    ReadsWithin size (wordAt offset) := (ReadsWithin.slice hsize).comp LittleEndian.toWord

theorem readsWithin_charsAt {offset count size : Nat} (hsize : offset + count ≤ size) :
    ReadsWithin size (charsAt offset count) := ReadsWithin.slice hsize

/-! ### Checks -/

/-- Latin and Cyrillic chars. -/
def isPartyChar (c : UInt8) : Bool := 32 ≤ c && !(122 < c && c < 192)

/-- Whether the chars hold a zero, and before it none that is invalid. -/
def checkPartyString : List UInt8 → Bool
  | [] => false
  | c :: string => c == 0 || (isPartyChar c && checkPartyString string)

/-! ### Names -/

/-- The entry of a Cyrillic char in the table of `InitializeWin1251Table`. -/
def utf (c : UInt8) : List UInt8 :=
  if c < 240 then [0xD0, 0x90 + (c - 192)] else [0xD1, 0x80 + (c - 240)]

def partyNameSize : Nat := 40

/-- The chars that `ConvertWin1251ToUtf8` puts in the place of a name. -/
def convertWin1251ToUtf8 (partyName : List UInt8) : List UInt8 :=
  (partyName.flatMap fun c => if 191 < c then utf c else [c]).take partyNameSize

theorem length_convertWin1251ToUtf8 {partyName : List UInt8}
    (hsize : partyName.length = partyNameSize) :
    (convertWin1251ToUtf8 partyName).length = partyNameSize := by
  have hle (chars : List UInt8) :
      chars.length ≤ (chars.flatMap fun c => if 191 < c then utf c else [c]).length := by
    induction chars with
    | nil => exact Nat.le_refl _
    | cons c chars ih =>
        have hpos : 1 ≤ (if 191 < c then utf c else [c]).length := by
          unfold utf
          split_ifs <;> simp
        rw [List.flatMap_cons, List.length_append, List.length_cons]
        omega
  rw [convertWin1251ToUtf8, List.length_take, Nat.min_eq_left]
  rw [← hsize]
  exact hle partyName

/-! ### Reports -/

/-- The calls of `VoIpSessions` with what they read of a message; the addresses come from
the headers of the packet. -/
inductive Report
  | startMediaTransmission (startMedia : SkStartMediaTransmission)
  | stopMediaTransmission (stopMedia : SkStopMediaTransmission)
  | callInfo (callInfo : SkCallInfo)
  | callStateMessage (message : SkCallStateMessage)
  | openReceiveChannelAck (openReceive : SkOpenReceiveChannelAck)
  | lineStat (lineStat : SkLineStat)
  | softKeyHold (skEvent : SkSoftKey)
  | softKeyResume (skEvent : SkSoftKey)
  | softKeyConfPressed
  | softKeySetConfConnected
  | softKeySetTransfConnected (skEvent : SkSoftKey)

/-! ### Structures -/

/-- A structure: what its validator checks of its fields, and what is reported. Both read
nothing behind it. -/
structure Layout where
  size : Nat
  valid : List UInt8 → Bool
  reports : Config → List UInt8 → List Report
  valid_within : ReadsWithin size valid
  reports_within : ∀ cfg, ReadsWithin size (reports cfg)

namespace Layout

/-- The validators, which are given the end of the packet. -/
def validate (layout : Layout) (data : List UInt8) : Bool :=
  decide (layout.size ≤ data.length) && layout.valid data

end Layout

/-- An `unsigned int` as an `int`. -/
def toInt (x : UInt32) : Int := x.toBitVec.toInt

end OrkAudio.Skinny
