import OrkAudio.SipInvite.Message

/-! The RTP address that `TrySipInvite` takes from an INVITE.

An address is the list of its octets in the order of the network. -/

namespace OrkAudio.SipInvite

open Lib

/-! ### `inet_pton4` -/

/-- `tmp` up to `tp`, and the octet at `tp`. -/
structure PtonState where
  before : List Nat
  tp : Nat
  sawDigit : Bool
  octets : Nat

def ptonStep (s : PtonState) (ch : UInt8) : Option PtonState :=
  if 48 ≤ ch ∧ ch ≤ 57 then
    let val := s.tp * 10 + (ch.toNat - 48)
    if 255 < val then none
    else if s.sawDigit = false then
      if 4 < s.octets + 1 then none
      else some { s with tp := val, octets := s.octets + 1, sawDigit := true }
    else some { s with tp := val }
  else if ch = 0x2E ∧ s.sawDigit = true then
    if s.octets = 4 then none
    else some { s with before := s.before ++ [s.tp], tp := 0, sawDigit := false }
  else none

def inetPton4 (src : Bytes) : Option (List Nat) :=
  (src.foldlM ptonStep ⟨[], 0, false, 0⟩).bind fun s =>
    if s.octets < 4 then none else some (s.before ++ [s.tp])

/-! ### The fields -/

/-- What the address depends on besides the message. -/
structure Packet where
  ipSrc : List Nat
  ipDest : List Nat
  dahdiIntercept : Bool
  sipDropIndirectInvite : Bool

section

variable (udpPayload : Bytes) (sipEnd : Nat)

def callIdField : Option Nat :=
  (memFindAfter (ascii "Call-ID:") udpPayload 0 sipEnd).or
    (memFindAfter (ascii "\ni:") udpPayload 0 sipEnd)

/-- The token behind the first such text behind the call's identity. -/
def fieldToken (toFind : Bytes) : Option Bytes :=
  ((callIdField udpPayload sipEnd).bind fun callId =>
    memFindAfter toFind udpPayload callId sipEnd).map fun field =>
      grabToken ((udpPayload.take sipEnd).drop field)

def fromRtpPort : Bytes := (fieldToken udpPayload sipEnd (ascii "m=audio ")).getD []

/-- The address that is read, if one is. -/
def connectionAddress : Option (List Nat) :=
  (fieldToken udpPayload sipEnd (ascii "c=IN IP4 ")).bind inetPton4

/-- Where the packet comes from. -/
def Packet.sender (packet : Packet) : List Nat :=
  if packet.dahdiIntercept then packet.ipDest else packet.ipSrc

def isZero (address : List Nat) : Bool := address.all (· == 0)

def fromRtpIp (packet : Packet) : List Nat :=
  let fromIp := (connectionAddress udpPayload sipEnd).getD [0, 0, 0, 0]
  if isZero fromIp then packet.sender else fromIp

/-- `drop`: the address is not the packet's. -/
def drop (packet : Packet) : Bool :=
  packet.sipDropIndirectInvite &&
    ((connectionAddress udpPayload sipEnd).map fun fromIp => fromIp != packet.ipSrc).getD false

end

/-! ### The address in force -/

namespace Message

variable (m : Message)

end Message

section

variable {toFind behind : Bytes} {lines rest : List Line} {place : Nat}

/-- The message has exactly these lines from this place on. -/
def ReachedAt (lines rest : List Line) (place : Nat) : Prop :=
  ∃ front, bytesOf lines = front ++ bytesOf rest ∧ front.length = place

theorem ReachedAt.cons (line : Line) (hreached : ReachedAt lines rest place) :
    ReachedAt (line :: lines) rest (place + (line.val.length + crlf.length)) := by
  rcases hreached with ⟨front, hfront, hplace⟩
  refine ⟨line.val ++ crlf ++ front, ?_, ?_⟩
  · rw [bytesOf_cons, hfront, List.append_assoc _ front]
  · rw [List.length_append, List.length_append, hplace, Nat.add_comm]

theorem inline_callId : Inline (ascii "Call-ID:") := ⟨by decide, by decide +kernel⟩
end

section

end

end OrkAudio.SipInvite
