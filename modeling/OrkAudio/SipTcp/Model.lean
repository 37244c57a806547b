import OrkAudio.Lib.ByteSearch
import OrkAudio.Lib.Word

/-! SIP messages in TCP segments, as `TrySipTcp` collects them.

`ParseSipMessage` is where the messages go: the model keeps the bytes it is given. Answers
are `none` where the source leaves what C++ defines, so that nothing is said about it. -/

namespace OrkAudio

open Lib

/-- Addresses and ports of one direction of a TCP connection. -/
structure TcpDirection where
  senderIp : UInt32
  receiverIp : UInt32
  senderPort : UInt16
  receiverPort : UInt16
  deriving DecidableEq

/-- A TCP segment as `TrySipTcp` reads it, in host byte order. `tail` is the memory behind
the payload, and `time` what `time(NULL)` answers. -/
structure TcpSegment where
  direction : TcpDirection
  seq : Nat
  payload : Bytes
  tail : Bytes
  time : Nat

/-- `buffer` are the first `Size()` bytes of `m_tcpBuffer`. -/
structure SipTcpStream where
  direction : TcpDirection
  expectingSeqNo : Nat
  lastSeqNo : Nat
  offset : Nat
  entryTime : Int
  buffer : Bytes

namespace SipTcp

/-- `memFindAfter`: `memchr` finds the further places, and it minds the case. -/
def memFindAfter (toFind : String) (memory : Bytes) (stop : Nat) : Option Nat :=
  findAfter (ascii toFind) memory stop

def isSpace (c : UInt8) : Bool := c == 32 || 9 ≤ c && c ≤ 13

def isDigit (c : UInt8) : Bool := 48 ≤ c && c ≤ 57

def decimal (digits : Bytes) : Nat := digits.foldl (fun n c => 10 * n + (c.toNat - 48)) 0

/-- Whether a number starts with a minus, and what follows its sign. -/
def readSign : Bytes → Bool × Bytes
  | 45 :: text => (true, text)
  | 43 :: text => (false, text)
  | text => (false, text)

/-- `sscanf(contentLenStart, "%d\r\n", &contentLen)`. None where nothing is read, where the
number does not fit an `int`, and for a negative length, which is not followed further. -/
def scanContentLen (memory : Bytes) : Option Nat :=
  let (negative, text) := readSign (memory.dropWhile isSpace)
  let digits := text.takeWhile isDigit
  if digits = [] ∨ 2147483648 ≤ decimal digits ∨ (negative = true ∧ decimal digits ≠ 0) then none
  else some (decimal digits)

/-- The loop of `ParseSipStream` from `sipMessageStart`, `bufferEnd` being `stop` bytes on: the
messages given to `ParseSipMessage` and the bytes consumed. -/
def parseMessages : Nat → Bytes → Nat → Option (List Bytes × Nat)
  | 0, _, _ => none
  | fuel + 1, memory, stop =>
      match memFindAfter "Content-Length: " memory stop with
      | none => some ([], 0)
      | some contentLenStart =>
          let fromLength := memory.drop contentLenStart
          match memFindAfter "\r\n\r\n" fromLength (stop - contentLenStart) with
          | none => some ([], 0)
          | some sipHeaderEnd =>
              (scanContentLen fromLength).bind fun contentLen =>
                let sipMessageEnd := contentLenStart + sipHeaderEnd + contentLen
                if stop < sipMessageEnd then some ([], 0)
                else
                  (parseMessages fuel (memory.drop sipMessageEnd) (stop - sipMessageEnd)).map
                    fun (messages, offset) =>
                      (memory.take sipMessageEnd :: messages, sipMessageEnd + offset)

/-- `ParseSipStream`: every message found takes at least one byte of the `stop` ones. -/
def parseSipStream (memory : Bytes) (stop : Nat) : Option (List Bytes × Nat) :=
  parseMessages (stop + 1) memory stop

/-- The starts that `TrySipTcp` recognises. -/
def startLines : List String :=
  ["INVITE", "ACK", "BYE", "SIP/2.0 200", "SIP/2.0 183 Session Progress", "REFER", "INFO",
    "SUBSCRIBE", "SIP/2.0 302 Moved Temporarily", "NOTIFY", "SIP/2.0 4", "SIP/2.0 5",
    "SIP/2.0 6", "CANCEL "]

/-- `SIP_RESPONSE_SESSION_PROGRESS_SIZE + 3` bytes or more, and a start line. -/
def startsMessage (payload : Bytes) : Bool :=
  28 + 3 ≤ payload.length && startLines.any fun line => (ascii line).isPrefixOf payload

/-- `SipTcpStream::AddTcpPacket`: `SafeBuffer` counts its bytes in an `int`, and so does the
size that it asks `realloc` for. -/
def addTcpPacket (stream : SipTcpStream) (payload : Bytes) : Option SipTcpStream :=
  if stream.buffer.length + payload.length + 1 < 2147483648 then
    some { stream with buffer := stream.buffer ++ payload }
  else none

/-- The first loop of `TrySipTcp`. -/
def isDuplicate (streams : List SipTcpStream) (segment : TcpSegment) : Bool :=
  streams.any fun stream =>
    stream.direction = segment.direction && segment.seq ≤ stream.lastSeqNo

/-- The stream for a message that has started and not ended. -/
def newStream (segment : TcpSegment) (offset : Nat) : Option SipTcpStream :=
  addTcpPacket
    { direction := segment.direction
      expectingSeqNo := toU32 (segment.seq + segment.payload.length)
      lastSeqNo := segment.seq
      offset := offset
      entryTime := toInt32 (toU32 segment.time)
      buffer := [] } segment.payload

/-- The body of the second loop for a stream that expects the segment. The bytes of a
`SafeBuffer` are followed by a zero. -/
def continueStream (stream : SipTcpStream) (segment : TcpSegment) :
    Option (SipTcpStream × List Bytes) :=
  (addTcpPacket stream segment.payload).bind fun stream =>
    (parseSipStream (stream.buffer.drop stream.offset ++ [0])
        (stream.buffer.length - stream.offset)).map fun (messages, consumed) =>
      ({ stream with
          offset := stream.offset + consumed
          expectingSeqNo := stream.expectingSeqNo + segment.payload.length }, messages)

/-- The stream is erased: nothing is left to parse, or it is a minute old. -/
def isOver (stream : SipTcpStream) (segment : TcpSegment) : Bool :=
  stream.offset = stream.buffer.length || 60 ≤ (segment.time : Int) - stream.entryTime

/-- The second loop of `TrySipTcp`: the streams left, the messages parsed, the result. -/
def scanStreams (segment : TcpSegment) :
    List SipTcpStream → Option (List SipTcpStream × List Bytes × Bool)
  | [] => some ([], [], false)
  | stream :: streams =>
      let expected :=
        decide (stream.direction = segment.direction ∧ stream.expectingSeqNo = segment.seq)
      let offered := if expected then continueStream stream segment else some (stream, [])
      offered.bind fun (stream, messages) =>
        (scanStreams segment streams).map fun (streams, more, result) =>
          (if isOver stream segment then streams else stream :: streams,
            messages ++ more, expected || result)

/-- `TrySipTcp`: the streams afterwards, the messages parsed, the result. -/
def trySipTcp (streams : List SipTcpStream) (segment : TcpSegment) :
    Option (List SipTcpStream × List Bytes × Bool) :=
  if isDuplicate streams segment then some (streams, [], true)
  else if startsMessage segment.payload then
    (parseSipStream (segment.payload ++ segment.tail) segment.payload.length).bind
      fun (messages, offset) =>
        if offset = segment.payload.length then some (streams, messages, true)
        else (newStream segment offset).map fun stream => (streams ++ [stream], messages, true)
  else scanStreams segment streams

/-- Successive calls: the streams at the end and all messages parsed, in order. -/
def run (streams : List SipTcpStream) : List TcpSegment → Option (List SipTcpStream × List Bytes)
  | [] => some (streams, [])
  | segment :: segments =>
      (trySipTcp streams segment).bind fun (streams, messages, _) =>
        (run streams segments).map fun (streams, more) => (streams, messages ++ more)

end SipTcp

end OrkAudio
